import Scaffold.Proofs.Project.Acceptance
import Scaffold.Proofs.Project.Transparency

/-!
# Refusals

Validating a name and creating its file stop for the same reason, which is a function of the files
and of the workspace: the project has no Scala sources, there is no folder, the verdict on the name
is not in its favour, or the name has no place.  Whatever is refused leaves the files as they are.
-/

namespace Scaffold.Project

open Files Workspace

variable {folder : Option Path} {op name : String} {w : World} {ws : Workspace}

/-- The error that an objection to a name is. -/
def rejectionError (name : String) (why : Scala.Rejection) : ErrorInfo :=
  ⟨rejectionCode why.kind, why.message, [("name", .str name)]⟩

/-- The error that a misplaced name is. -/
def misplacementError (name : String) (why : Misplacement) : ErrorInfo :=
  ⟨rejectionCode .invalidInput, why.message, [("name", .str name)]⟩

/-- What keeps a name from being accepted, if anything does: an error or a fault. -/
def refusal? (folder : Option Path) (name : String) (w : World) (ws : Workspace) :
    Option (Except Fault ErrorInfo) :=
  if ws.settings.isScala = false then
    some (.ok ⟨rejectionCode .notScalaProject, Scala.Rejection.notScalaProject.message, []⟩)
  else
    match (targetFolder folder w ws).1 with
    | .error fault => some (.error fault)
    | .ok none => some (.ok ⟨"NO_SOURCE_ROOT", "No source folder configured", []⟩)
    | .ok (some target) =>
      match verdict ws w.disk target name with
      | .error fault => some (.error fault)
      | .ok (some why) => some (.ok (rejectionError name why))
      | .ok none =>
        match place w.disk target name with
        | .ok _ => none
        | .error (.misplaced why) => some (.ok (misplacementError name why))
        | .error (.files fault) => some (.error (.files fault))

theorem of_refusal?_eq_none (unrefused : refusal? folder name w ws = none) :
    ∃ target, (targetFolder folder w ws).1 = .ok (some target) ∧
      verdict ws w.disk target name = .ok none := by
  rw [refusal?] at unrefused
  split at unrefused
  · cases unrefused
  split at unrefused
  · cases unrefused
  · cases unrefused
  · rename_i target chosen
    refine ⟨target, chosen, ?_⟩
    split at unrefused
    · cases unrefused
    · cases unrefused
    · assumption

/-- What kept a run from ending well, if anything did: the error of its result or a fault. -/
def setback? : Except Fault Result → Option (Except Fault ErrorInfo)
  | .error fault => some (.error fault)
  | .ok r => if r.ok then none else r.error.map .ok

theorem eq_error_of_setback? {ended : Except Fault Result} {fault : Fault}
    (stopped : setback? ended = some (.error fault)) : ended = .error fault := by
  rcases ended with other | r
  · cases stopped
    rfl
  · rw [setback?] at stopped
    split at stopped
    · cases stopped
    · cases failed : r.error <;> simp [failed] at stopped

/-- What kept a name from being accepted, if anything did. -/
def objected? {α : Type} : Except Fault (Except Result α) → Option (Except Fault ErrorInfo)
  | .error fault => some (.error fault)
  | .ok (.error failure) => setback? (.ok failure)
  | .ok (.ok _) => none

/-- Every operation accepts the same names, and refuses the others for the same reasons. -/
theorem accept_refusal? (op : String) (folder : Option Path) (name : String) (w : World)
    (ws : Workspace) :
    objected? (accept op folder name w ws).1 = refusal? folder name w ws := by
  rw [accept_apply, refusal?]
  by_cases scala : ws.settings.isScala = false
  · rw [if_pos scala, if_pos scala]
    rfl
  rw [if_neg scala, if_neg scala]
  rcases (targetFolder folder w ws).1 with fault | _ | target
  · rfl
  · rfl
  · dsimp only
    rw [← objection?_apply]
    have looked := (looks_objection? target name w ws (.refl ws)).1.disk
    rcases judged : objection? target name w ws with ⟨fault | _ | why, after⟩
    · rfl
    · rw [judged] at looked
      dsimp only at looked ⊢
      rw [looked]
      rcases place w.disk target name with (why | fault) | path <;> rfl
    · rfl

/-- The run does not end well, for this reason, and changes no file. -/
structure Stops (x : Action Workspace Result) (w : World) (ws : Workspace)
    (why : Except Fault ErrorInfo) : Prop where
  setback : setback? (x w ws).1 = some why
  disk : (x w ws).2.1.disk = w.disk

/-- The name is neither validated nor created, for this reason, whatever the kind of the file. -/
def Refuses (folder : Option Path) (name : String) (w : World) (ws : Workspace)
    (why : Except Fault ErrorInfo) : Prop :=
  Stops (validateName folder name) w ws why ∧ ∀ kind, Stops (createFile folder kind name) w ws why

theorem setback?_withoutMeta {ended ended' : Except Fault Result}
    (same : ended'.map Result.withoutMeta = ended.map Result.withoutMeta) :
    setback? ended' = setback? ended := by
  rcases ended with fault | r <;> rcases ended' with fault' | r'
  · cases same
    rfl
  · cases same
  · cases same
  · have fields : r'.withoutMeta = r.withoutMeta := Except.ok.inj same
    have ok := congrArg Result.ok fields
    have error := congrArg Result.error fields
    dsimp only [Result.withoutMeta] at ok error
    rw [setback?, setback?, ok, error]

/-- Tracing changes nothing about what kept a run from ending well. -/
theorem setback?_traced (label : String) (x : Action Workspace Result) (w : World)
    (ws : Workspace) :
    setback? (Action.traced label x w ws).1 =
      setback? (x { w with tracer := w.tracer.begin } ws).1 :=
  setback?_withoutMeta (Action.traced_spec label x w ws).1

theorem Stops.traced {x : Action Workspace Result} {why : Except Fault ErrorInfo} (label : String)
    (stops : Stops x { w with tracer := w.tracer.begin } ws why) :
    Stops (Action.traced label x) w ws why where
  setback := (setback?_traced label x w ws).trans stops.setback
  disk := (Action.traced_spec label x w ws).2.2.disk.trans stops.disk

theorem refusal?_tracer (folder : Option Path) (name : String) (w : World) (ws : Workspace)
    (tracer : Telemetry.Tracer) :
    refusal? folder name { w with tracer := tracer } ws = refusal? folder name w ws := by
  rw [refusal?, refusal?, targetFolder_tracer]

theorem validateNameCore_setback? (folder : Option Path) (name : String) (w : World)
    (ws : Workspace) :
    setback? (validateNameCore folder name w ws).1 = refusal? folder name w ws := by
  rw [← accept_refusal? "validate_name", validateNameCore, Action.bind_apply]
  rcases accept "validate_name" folder name w ws with ⟨fault | failure | ⟨target, path⟩, after⟩ <;>
    rfl

/-- Validating a name stops exactly where it is refused. -/
theorem validateName_setback? (folder : Option Path) (name : String) (w : World)
    (ws : Workspace) :
    setback? (validateName folder name w ws).1 = refusal? folder name w ws := by
  rw [validateName, setback?_traced, validateNameCore_setback?, refusal?_tracer]

theorem createFileCore_stops (kind : Option String) {why : Except Fault ErrorInfo}
    (refused : refusal? folder name w ws = some why) :
    Stops (createFileCore folder kind name) w ws why := by
  have looked := (looks_accept "create_file" folder name w ws (.refl ws)).1.disk
  rw [← accept_refusal? "create_file"] at refused
  change Stops (fun w ws => (accept "create_file" folder name >>= _) w ws) w ws why
  rcases judged : accept "create_file" folder name w ws with ⟨fault | failure | places, after⟩
  · rw [judged] at refused looked
    constructor <;> rw [Action.bind_apply, judged]
    · exact refused
    · exact looked
  · rw [judged] at refused looked
    constructor <;> rw [Action.bind_apply, judged]
    · exact refused
    · exact looked
  · rw [judged] at refused
    cases refused

/-- Whatever is refused is neither validated nor created, for the same reason. -/
theorem refuses_of_refusal? {why : Except Fault ErrorInfo}
    (refused : refusal? folder name w ws = some why) : Refuses folder name w ws why := by
  rw [← refusal?_tracer folder name w ws w.tracer.begin] at refused
  refine ⟨.traced _ ⟨?_, ?_⟩, fun kind => .traced _ (createFileCore_stops kind refused)⟩
  · rw [validateNameCore_setback?]
    exact refused
  · exact (looks_sequential.validateNameCore folder name _ ws (.refl ws)).1.disk

/-- What is created is not refused. -/
theorem refusal?_of_createFile {kind : Option String} {r : Result} {after : World × Workspace}
    (created : createFile folder kind name w ws = (.ok r, after)) (fine : r.ok = true) :
    refusal? folder name w ws = none := by
  cases refused : refusal? folder name w ws with
  | none => rfl
  | some why =>
    have stopped := ((refuses_of_refusal? refused).2 kind).setback
    rw [created, setback?, fine] at stopped
    cases stopped

end Scaffold.Project
