import Scaffold.Proofs.Project.Sequencing

/-!
# Actions that only look

Until a source file is written, an action only looks: the files, the settings and the templates
stay as they are, and plugins are asked but never told of anything.  Looking is kept by sequences,
however the actions end, so that only the primitives have to be gone through.
-/

namespace Scaffold.Plugin

/-- Whether a call of a plugin is a question. -/
def Call.isQuestion : Call → Bool
  | .typeExists _ _ => true
  | .created _ _ _ _ => false

theorem Registry.isQuestion_of_mem_ask {name : String} {members : List Member} {call : Call}
    (member : call ∈ (Registry.ask name members).1) : call.isQuestion = true := by
  fun_induction Registry.ask name members with
  | case1 => cases member
  | case2 _ _ _ ih => exact ih member
  | case3 =>
    rw [List.mem_singleton] at member
    rw [member]
    rfl
  | case4 m ms hook _ _ _ calls answer asked ih =>
    rcases List.mem_cons.mp member with rfl | member
    · rfl
    · rw [asked] at ih
      exact ih member
  | case5 =>
    rw [List.mem_singleton] at member
    rw [member]
    rfl

theorem Registry.isQuestion_of_mem_typeExists {registry : Registry} {name : String} {call : Call}
    (member : call ∈ (registry.typeExists name).1) : call.isQuestion = true := by
  have asked : call ∈ (Registry.ask name registry.members.reverse).1 := by
    unfold Registry.typeExists at member
    split at member <;> rename_i answered <;> rw [answered] <;> exact member
  exact Registry.isQuestion_of_mem_ask asked

end Scaffold.Plugin

namespace Scaffold.Symbols.Index

/-- Looking into files calls no plugin. -/
theorem calls_lookupFiles (index : Index) (disk : Files.Disk) (name : String) :
    (index.lookupFiles disk name).calls = [] := by
  have declared : ∀ index : Index, (index.lookupDeclared disk name).calls = [] := by
    intro index
    unfold lookupDeclared
    split <;> rfl
  unfold lookupFiles lookupArchived
  dsimp only
  split
  · rfl
  · rfl
  · split
    · rfl
    · split
      · rfl
      · exact declared _

end Scaffold.Symbols.Index

namespace Scaffold.Project

open Files Plugin

namespace World

variable {w w' w'' : World}

/-- Plugins have been asked, but not told of anything. -/
def Asked (w w' : World) : Prop :=
  ∃ asked, w'.calls = w.calls ++ asked ∧ ∀ call ∈ asked, call.isQuestion = true

theorem Asked.of_eq (same : w'.calls = w.calls) : w.Asked w' := ⟨[], by simp [same]⟩

theorem Asked.trans (first : w.Asked w') (next : w'.Asked w'') : w.Asked w'' := by
  obtain ⟨asked, calls, questions⟩ := first
  obtain ⟨more, moreCalls, moreQuestions⟩ := next
  refine ⟨asked ++ more, ?_, ?_⟩
  · rw [moreCalls, calls, List.append_assoc]
  · exact List.forall_mem_append.mpr ⟨questions, moreQuestions⟩

/-- The files are the same, and plugins have been asked only. -/
structure Looked (w w' : World) : Prop where
  disk : w'.disk = w.disk
  asked : w.Asked w'

theorem Looked.refl (w : World) : w.Looked w := ⟨rfl, .of_eq rfl⟩

theorem Looked.trans (first : w.Looked w') (next : w'.Looked w'') : w.Looked w'' :=
  ⟨next.disk.trans first.disk, first.asked.trans next.asked⟩

end World

namespace Workspace

/-- What decides on a new file is the same. -/
structure Alike (ws ws' : Workspace) : Prop where
  settings : ws'.settings = ws.settings
  templates : ws'.templates = ws.templates

theorem Alike.refl (ws : Workspace) : ws.Alike ws := ⟨rfl, rfl⟩

end Workspace

namespace Action

variable {α β : Type} {start : Workspace}

/-- A report on a traced run ends as the run did. -/
theorem traced_cases {σ : Type} {x : Action σ Result} {w w' : World} {s s' : σ}
    {result : Except Fault Result} (label : String)
    (ran : x { w with tracer := w.tracer.begin } s = (result, w', s')) :
    ∃ report w'', traced label x w s = (report, w'', s') ∧ w''.disk = w'.disk ∧
      w''.calls = w'.calls ∧ report.map (·.ok) = result.map (·.ok) := by
  unfold traced
  rw [ran]
  dsimp only
  split
  · exact ⟨_, _, rfl, rfl, rfl, rfl⟩
  · exact ⟨_, _, rfl, rfl, rfl, rfl⟩
  · exact ⟨_, _, rfl, rfl, rfl, rfl⟩

theorem traced_ok_iff {σ : Type} (label : String) (x : Action σ Result) (w : World) (s : σ) :
    (∃ r after, traced label x w s = (.ok r, after) ∧ r.ok = true) ↔
      ∃ r after, x { w with tracer := w.tracer.begin } s = (.ok r, after) ∧ r.ok = true := by
  rcases ran : x { w with tracer := w.tracer.begin } s with ⟨result, w', s'⟩
  obtain ⟨report, w'', traced, -, -, same⟩ := traced_cases label ran
  rw [traced]
  constructor
  · rintro ⟨r, _, ended, fine⟩
    cases ended
    rcases result with fault | inner
    · cases same
    · exact ⟨inner, _, rfl, (Except.ok.inj same).symm.trans fine⟩
  · rintro ⟨inner, _, ended, fine⟩
    cases ended
    rcases report with fault | r
    · cases same
    · exact ⟨r, _, rfl, (Except.ok.inj same).trans fine⟩

/-- From every state that is like `start`, the action only looks, however it ends. -/
def Looks (start : Workspace) (x : Action Workspace α) : Prop :=
  ∀ (w : World) (ws : Workspace), start.Alike ws →
    w.Looked (x w ws).2.1 ∧ start.Alike (x w ws).2.2

namespace Looks

theorem pure (a : α) : Looks start (Pure.pure a) := fun w _ alike => ⟨.refl w, alike⟩

theorem fail (fault : Fault) : Looks start (Action.fail fault : Action Workspace α) :=
  fun w _ alike => ⟨.refl w, alike⟩

theorem disk : Looks start Action.disk := fun w _ alike => ⟨.refl w, alike⟩

theorem ofFiles (result : Except Files.Fault α) : Looks start (Action.ofFiles result) :=
  fun w _ alike => ⟨.refl w, alike⟩

theorem set {ws : Workspace} (alike : start.Alike ws) : Looks start (Action.set ws) :=
  fun w _ _ => ⟨.refl w, alike⟩

theorem log (records : List Log.Record) : Looks start (Action.log records) :=
  fun _ _ alike => ⟨⟨rfl, .of_eq rfl⟩, alike⟩

theorem note (key : String) (value : Json.Value) : Looks start (Action.note key value) :=
  fun _ _ alike => ⟨⟨rfl, .of_eq rfl⟩, alike⟩

theorem keep {calls : List Call} (questions : ∀ call ∈ calls, call.isQuestion = true) :
    Looks start (Action.keep calls) :=
  fun _ _ alike => ⟨⟨rfl, calls, rfl, questions⟩, alike⟩

/-- Looking on after looking is looking; what comes next may rely on what was found. -/
theorem bind_of {x : Action Workspace α} {f : α → Action Workspace β} (first : Looks start x)
    (next : ∀ a w ws after, x w ws = (.ok a, after) → Looks start (f a)) :
    Looks start (x >>= f) := by
  intro w ws alike
  have seen := first w ws alike
  rw [bind_apply]
  cases ran : x w ws with
  | mk result after =>
    rw [ran] at seen
    cases result with
    | error fault => exact seen
    | ok a =>
      have seenNext := next a w ws after ran after.1 after.2 seen.2
      exact ⟨seen.1.trans seenNext.1, seenNext.2⟩

theorem bind {x : Action Workspace α} {f : α → Action Workspace β} (first : Looks start x)
    (next : ∀ a, Looks start (f a)) : Looks start (x >>= f) :=
  first.bind_of fun a _ _ _ _ => next a

/-- What goes on from the state that is found may rely on its being like the first one. -/
theorem get_bind {f : Workspace → Action Workspace β}
    (next : ∀ ws, start.Alike ws → Looks start (f ws)) : Looks start (Action.get >>= f) :=
  fun w ws alike => next ws alike w ws alike

theorem spanning {x : Action Workspace α} (name : String) (looks : Looks start x) :
    Looks start (Action.spanning name x) := by
  intro w ws alike
  obtain ⟨⟨disk, asked⟩, alikeAfter⟩ := looks { w with tracer := w.tracer.enter } ws alike
  exact ⟨⟨disk, asked⟩, alikeAfter⟩

end Looks

end Action

namespace Workspace

open Scaffold.Project.Action

variable {start : Workspace}

theorem looks_getPlugins : Looks start getPlugins := by
  apply Looks.get_bind
  intro ws alike
  split
  · exact .pure _
  · refine .bind .disk fun disk => .bind (.ofFiles _) fun found => .bind (.log _) fun _ => ?_
    exact .bind (.set ⟨alike.settings, alike.templates⟩) fun _ => .pure _

theorem looks_getIndex : Looks start getIndex := by
  apply Looks.get_bind
  intro ws _
  split
  · exact .pure _
  · refine .bind looks_getPlugins fun _ => ?_
    split
    · exact .fail _
    · apply Looks.get_bind
      intro ws alike
      exact .bind (.set ⟨alike.settings, alike.templates⟩) fun _ => .pure _

/-- An index asks plugins only. -/
theorem isQuestion_of_mem_lookup {index : Symbols.Index} {disk : Disk} {plugins : Option Registry}
    {name : String} {call : Call} (member : call ∈ (index.lookup disk plugins name).calls) :
    call.isQuestion = true := by
  unfold Symbols.Index.lookup Symbols.Index.answerFor at member
  cases plugins with
  | none => simp [Symbols.Index.calls_lookupFiles] at member
  | some registry =>
    have asked : call ∈ (registry.typeExists name).1 := by
      dsimp only at member
      split at member <;> rename_i answered <;> rw [answered] <;> exact member
    exact registry.isQuestion_of_mem_typeExists asked

theorem looks_lookup (name : String) : Looks start (lookup name) := by
  refine .bind looks_getIndex fun index => ?_
  apply Looks.get_bind
  intro ws alike
  refine .bind .disk fun disk => .bind (.keep ?_) fun _ => .bind (.log _) fun _ => ?_
  · intro call
    exact isQuestion_of_mem_lookup
  · exact .bind (.set ⟨alike.settings, alike.templates⟩) fun _ => .pure _

end Workspace

open Scaffold.Project.Action Workspace

variable {start : Workspace}

/-- Looking is kept by sequences. -/
theorem looks_sequential : Sequential fun _ x => Looks start x where
  pure a := .pure a
  fail fault := .fail fault
  get := fun w _ alike => ⟨.refl w, alike⟩
  disk := .disk
  ofFiles result := .ofFiles result
  log records := .log records
  note key value := .note key value
  spanning name looks := .spanning name looks
  bind_of first next := .bind_of first next
  getIndex := looks_getIndex
  lookup name := looks_lookup name

theorem looks_asker : Looks start asker := looks_sequential.asker

theorem looks_objection? (folder : Path) (name : String) : Looks start (objection? folder name) :=
  looks_sequential.objection? folder name

/-- Everything that decides whether a name can be created only looks. -/
theorem looks_accept (op : String) (folder : Option Path) (name : String) :
    Looks start (accept op folder name) :=
  looks_sequential.accept op folder name

end Scaffold.Project
