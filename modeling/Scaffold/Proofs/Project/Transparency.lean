import Scaffold.Proofs.Project.Looking

/-!
# Tracing changes nothing

Whether a run is traced shows in its report and in the log only.  Two worlds that agree on the files
and on the calls of plugins are twins, whatever their tracers are; an action is oblivious if from
twins it ends alike and leaves twins.  No primitive but the tracing itself reads the tracer, so
every operation on a project, and every sequence of them, gives the same with tracing on and off.
-/

namespace Scaffold

/-- The result apart from its meta data. -/
def Result.withoutMeta (r : Result) : Result := { r with metaData := none }

end Scaffold

namespace Scaffold.Project

open Files

/-- The two worlds have the same files and the same calls of plugins. -/
structure World.Twin (w w' : World) : Prop where
  disk : w'.disk = w.disk
  calls : w'.calls = w.calls

/-- The world with tracing switched on or off. -/
def World.tracing (w : World) (on : Bool) : World :=
  { w with tracer := { w.tracer with enabled := on } }

namespace Action

variable {σ α β : Type}

/-- The action ends alike in twin worlds and leaves twin worlds, whatever their tracers are. -/
def Oblivious (x : Action σ α) : Prop :=
  ∀ (w w' : World) (s : σ), w.Twin w' →
    (x w' s).1 = (x w s).1 ∧ (x w' s).2.2 = (x w s).2.2 ∧ (x w s).2.1.Twin (x w' s).2.1

namespace Oblivious

theorem pure (a : α) : Oblivious (Pure.pure a : Action σ α) := by
  intro w w' s twin
  exact ⟨rfl, rfl, twin⟩

theorem fail (fault : Fault) : Oblivious (Action.fail fault : Action σ α) := by
  intro w w' s twin
  exact ⟨rfl, rfl, twin⟩

theorem get : Oblivious (Action.get : Action σ σ) := by
  intro w w' s twin
  exact ⟨rfl, rfl, twin⟩

theorem set (s : σ) : Oblivious (Action.set s) := by
  intro w w' _ twin
  exact ⟨rfl, rfl, twin⟩

theorem disk : Oblivious (Action.disk : Action σ Disk) := by
  intro w w' s twin
  exact ⟨congrArg Except.ok twin.disk, rfl, twin⟩

theorem ofFiles (result : Except Files.Fault α) :
    Oblivious (Action.ofFiles result : Action σ α) := by
  intro w w' s twin
  exact ⟨rfl, rfl, twin⟩

theorem change (f : Disk → Except Files.Fault α × Disk) :
    Oblivious (Action.change f : Action σ (Except Files.Fault α)) := by
  intro w w' s twin
  have same : f w'.disk = f w.disk := congrArg f twin.disk
  refine ⟨?_, rfl, ?_, twin.calls⟩
  · exact congrArg (fun outcome => Except.ok outcome.1) same
  · exact congrArg Prod.snd same

theorem log (records : List Log.Record) : Oblivious (Action.log records : Action σ Unit) := by
  intro w w' s twin
  exact ⟨rfl, rfl, twin.disk, twin.calls⟩

theorem keep (calls : List Plugin.Call) : Oblivious (Action.keep calls : Action σ Unit) := by
  intro w w' s twin
  exact ⟨rfl, rfl, twin.disk, congrArg (· ++ calls) twin.calls⟩

theorem note (key : String) (value : Json.Value) :
    Oblivious (Action.note key value : Action σ Unit) := by
  intro w w' s twin
  exact ⟨rfl, rfl, twin.disk, twin.calls⟩

/-- One oblivious action after another: both runs take the same next one, which may rely on what
    the first one found. -/
theorem bind_of {x : Action σ α} {f : α → Action σ β} (first : Oblivious x)
    (next : ∀ a w s after, x w s = (.ok a, after) → Oblivious (f a)) : Oblivious (x >>= f) := by
  intro w w' s twin
  have both := first w w' s twin
  rcases ran : x w s with ⟨ended, v, t⟩
  rcases ran' : x w' s with ⟨ended', v', t'⟩
  rw [ran, ran'] at both
  obtain ⟨rfl, rfl, twinAfter⟩ := both
  rw [bind_apply, bind_apply, ran, ran']
  cases ended' with
  | error fault => exact ⟨rfl, rfl, twinAfter⟩
  | ok a => exact next a w s _ ran v v' t' twinAfter

theorem bind {x : Action σ α} {f : α → Action σ β} (first : Oblivious x)
    (next : ∀ a, Oblivious (f a)) : Oblivious (x >>= f) :=
  first.bind_of fun a _ _ _ _ => next a

/-- A span is opened and closed in the tracer only. -/
theorem spanning {x : Action σ α} (name : String) (oblivious : Oblivious x) :
    Oblivious (Action.spanning name x) := by
  intro w w' s twin
  obtain ⟨same, state, twinAfter⟩ := oblivious { w with tracer := w.tracer.enter }
    { w' with tracer := w'.tracer.enter } s ⟨twin.disk, twin.calls⟩
  exact ⟨same, state, twinAfter.disk, twinAfter.calls⟩

end Oblivious

/-- Being traced adds a report to the result of a run and a record to the log. -/
theorem traced_spec (label : String) (x : Action σ Result) (w : World) (s : σ) :
    let plain := x { w with tracer := w.tracer.begin } s
    let traced := Action.traced label x w s
    traced.1.map Result.withoutMeta = plain.1.map Result.withoutMeta ∧
      traced.2.2 = plain.2.2 ∧ plain.2.1.Twin traced.2.1 := by
  rcases ran : x { w with tracer := w.tracer.begin } s with ⟨result, w', s'⟩
  unfold Action.traced
  rw [ran]
  dsimp only
  split
  · exact ⟨rfl, rfl, rfl, rfl⟩
  · exact ⟨rfl, rfl, rfl, rfl⟩
  · exact ⟨rfl, rfl, rfl, rfl⟩

end Action

namespace Workspace

open Scaffold.Project.Action

theorem oblivious_getPlugins : Oblivious getPlugins := by
  refine .bind .get fun ws => ?_
  split
  · exact .pure _
  · refine .bind .disk fun disk => .bind (.ofFiles _) fun found => .bind (.log _) fun _ => ?_
    exact .bind (.set _) fun _ => .pure _

theorem oblivious_onPlugins {α : Type} {x : Action Plugin.Registry α} (oblivious : Oblivious x) :
    Oblivious (onPlugins x) := by
  intro w w' ws twin
  have both := oblivious_getPlugins w w' ws twin
  rcases ran : getPlugins w ws with ⟨ended, v, t⟩
  rcases ran' : getPlugins w' ws with ⟨ended', v', t'⟩
  rw [ran, ran'] at both
  obtain ⟨rfl, rfl, twinAfter⟩ := both
  unfold onPlugins
  rw [ran, ran']
  cases ended' with
  | error fault => exact ⟨rfl, rfl, twinAfter⟩
  | ok registry =>
    obtain ⟨same, state, twinLast⟩ := oblivious v v' registry twinAfter
    exact ⟨same, congrArg (fun registry => { t' with plugins := some registry }) state, twinLast⟩

theorem oblivious_getTemplates : Oblivious getTemplates := by
  refine .bind .get fun ws => ?_
  split
  · exact .pure _
  · exact .bind (.set _) fun _ => .pure _

theorem oblivious_render (kind : String) (bindings : List (String × String)) :
    Oblivious (render kind bindings) := by
  refine .bind oblivious_getTemplates fun store => .bind .disk fun disk => .bind .get fun ws => ?_
  exact .bind (.set _) fun _ => .pure _

theorem oblivious_kinds : Oblivious kinds :=
  .bind oblivious_getTemplates fun _ => .bind .disk fun _ => .pure _

theorem oblivious_getIndex : Oblivious getIndex := by
  refine .bind .get fun ws => ?_
  split
  · exact .pure _
  · refine .bind oblivious_getPlugins fun _ => ?_
    split
    · exact .fail _
    · exact .bind .get fun ws => .bind (.set _) fun _ => .pure _

theorem oblivious_lookup (name : String) : Oblivious (lookup name) := by
  refine .bind oblivious_getIndex fun index => .bind .get fun ws => .bind .disk fun disk => ?_
  exact .bind (.keep _) fun _ => .bind (.log _) fun _ => .bind (.set _) fun _ => .pure _

end Workspace

open Scaffold.Project.Action Workspace

theorem oblivious_writeOrFail (op name : String) (path : Path) (text : String) :
    Oblivious (writeOrFail op name path text) := by
  refine .spanning _ (.bind (.change _) fun written => ?_)
  split
  · exact .pure _
  · exact .pure _
  · exact .fail _

theorem oblivious_notify (path name kind : String) : Oblivious (Plugins.notify path name kind) :=
  .bind .get fun _ => .bind (.keep _) fun _ => .bind (.log _) fun _ => .pure _

/-- Being oblivious is kept by sequences. -/
theorem oblivious_operational : Operational fun _ x => Oblivious x where
  pure a := .pure a
  fail fault := .fail fault
  get := .get
  disk := .disk
  ofFiles result := .ofFiles result
  log records := .log records
  note key value := .note key value
  spanning name oblivious := .spanning name oblivious
  bind_of first next := .bind_of first next
  getIndex := oblivious_getIndex
  lookup name := oblivious_lookup name
  render kind bindings := oblivious_render kind bindings
  kinds := oblivious_kinds
  write op name path text := oblivious_writeOrFail op name path text
  notify path name kind := oblivious_onPlugins (oblivious_notify path name kind)

/-- The operations on an open project. -/
inductive Operation where
  | checkName (folder : Path) (name : String)
  | validateName (folder : Option Path) (name : String)
  | createFile (folder : Option Path) (kind : Option String) (name : String)
  | initialPath (resource : Path)
  | templateVariables (name : String)
  | completionEntries (folder : Option Path) (pre : String)

/-- What an operation returns: the objection to a name, if there is one, or a result. -/
inductive Response where
  | verdict (objection : Option Scala.Rejection)
  | result (result : Result)

/-- The response apart from the meta data of a result. -/
def Response.withoutMeta : Response → Response
  | .verdict objection => .verdict objection
  | .result r => .result r.withoutMeta

/-- The action with its result as a response. -/
def responding (x : Action Workspace Result) : Action Workspace Response := do
  return .result (← x)

/-- Runs an operation. -/
def Operation.run : Operation → Action Workspace Response
  | checkName folder name => do return .verdict (← objection? folder name)
  | validateName folder name => responding (Project.validateName folder name)
  | createFile folder kind name => responding (Project.createFile folder kind name)
  | initialPath resource => responding (Project.initialPath resource)
  | templateVariables name => responding (Project.templateVariables name)
  | completionEntries folder pre => responding (Project.completionEntries folder pre)

/-- Two runs ended alike, apart from the meta data of a result, with the same files, the same calls
    of plugins and the same workspace. -/
structure SameOutcome (run run' : Except Fault Response × World × Workspace) : Prop where
  response : run'.1.map Response.withoutMeta = run.1.map Response.withoutMeta
  world : run.2.1.Twin run'.2.1
  workspace : run'.2.2 = run.2.2

theorem responding_apply (x : Action Workspace Result) (w : World) (ws : Workspace) :
    responding x w ws = ((x w ws).1.map Response.result, (x w ws).2) := by
  unfold responding
  rw [bind_apply]
  rcases x w ws with ⟨fault | result, w', ws'⟩
  · rfl
  · rfl

theorem map_withoutMeta (ended : Except Fault Result) :
    (ended.map Response.result).map Response.withoutMeta =
      (ended.map Result.withoutMeta).map Response.result := by
  cases ended with
  | error fault => rfl
  | ok result => rfl

/-- A traced run of an oblivious action has the same outcome in twin worlds. -/
theorem sameOutcome_traced {x : Action Workspace Result} (oblivious : Oblivious x) (label : String)
    {w w' : World} (twin : w.Twin w') (ws : Workspace) :
    SameOutcome (responding (traced label x) w ws) (responding (traced label x) w' ws) := by
  -- The tracers begin apart, and what is inside ends alike all the same.
  obtain ⟨same, state, inner⟩ := oblivious { w with tracer := w.tracer.begin }
    { w' with tracer := w'.tracer.begin } ws ⟨twin.disk, twin.calls⟩
  obtain ⟨ended, left, world⟩ := traced_spec label x w ws
  obtain ⟨ended', left', world'⟩ := traced_spec label x w' ws
  rw [responding_apply, responding_apply]
  refine ⟨?_, ⟨?_, ?_⟩, ?_⟩
  · dsimp only
    rw [map_withoutMeta, map_withoutMeta, ended, ended', same]
  · exact world'.disk.trans (inner.disk.trans world.disk.symm)
  · exact world'.calls.trans (inner.calls.trans world.calls.symm)
  · exact left'.trans (state.trans left.symm)

/-- In twin worlds an operation has the same outcome. -/
theorem Operation.sameOutcome (operation : Operation) {w w' : World} (twin : w.Twin w')
    (ws : Workspace) : SameOutcome (operation.run w ws) (operation.run w' ws) := by
  cases operation with
  | checkName folder name =>
    have oblivious : Oblivious (Operation.run (.checkName folder name)) :=
      .bind (oblivious_operational.objection? folder name) fun _ => .pure _
    obtain ⟨same, state, world⟩ := oblivious w w' ws twin
    exact ⟨congrArg _ same, world, state⟩
  | validateName folder name =>
    exact sameOutcome_traced (oblivious_operational.validateNameCore folder name) _ twin ws
  | createFile folder kind name =>
    exact sameOutcome_traced (oblivious_operational.createFileCore folder kind name) _ twin ws
  | initialPath resource =>
    exact sameOutcome_traced (oblivious_operational.initialPathCore resource) _ twin ws
  | templateVariables name => exact sameOutcome_traced (.pure _) _ twin ws
  | completionEntries folder pre =>
    exact sameOutcome_traced (oblivious_operational.completionEntriesCore folder pre) _ twin ws

/-- Runs operations one after the other, each in what the ones before it have left. -/
def runOperations : List Operation → World → Workspace →
    List (Except Fault Response) × World × Workspace
  | [], w, ws => ([], w, ws)
  | operation :: operations, w, ws =>
    let answered := operation.run w ws
    let others := runOperations operations answered.2.1 answered.2.2
    (answered.1 :: others.1, others.2)

/-- From twin worlds a sequence of operations ends alike and leaves twin worlds. -/
theorem runOperations_twin (operations : List Operation) {w w' : World} (twin : w.Twin w')
    (ws : Workspace) :
    (runOperations operations w' ws).1.map (·.map Response.withoutMeta) =
        (runOperations operations w ws).1.map (·.map Response.withoutMeta) ∧
      (runOperations operations w ws).2.1.Twin (runOperations operations w' ws).2.1 ∧
      (runOperations operations w' ws).2.2 = (runOperations operations w ws).2.2 := by
  induction operations generalizing w w' ws with
  | nil => exact ⟨rfl, twin, rfl⟩
  | cons operation operations ih =>
    have step := operation.sameOutcome twin ws
    have others := ih step.world (operation.run w ws).2.2
    simp only [runOperations, List.map_cons, step.response, step.workspace]
    exact ⟨congrArg _ others.1, others.2⟩

/-- Tracing is transparent: every operation on a project, with a response or with a fault, ends
    alike with tracing on and off, apart from the meta data of a result, and leaves the same
    files, the same calls of plugins and the same workspace. -/
theorem run_transparent (operation : Operation) (w : World) (ws : Workspace) :
    let traced := operation.run (w.tracing true) ws
    let plain := operation.run (w.tracing false) ws
    traced.1.map Response.withoutMeta = plain.1.map Response.withoutMeta ∧
      traced.2.1.disk = plain.2.1.disk ∧ traced.2.1.calls = plain.2.1.calls ∧
      traced.2.2 = plain.2.2 := by
  have twin : (w.tracing false).Twin (w.tracing true) := ⟨rfl, rfl⟩
  obtain ⟨response, world, workspace⟩ := operation.sameOutcome twin ws
  exact ⟨response, world.disk, world.calls, workspace⟩

end Scaffold.Project
