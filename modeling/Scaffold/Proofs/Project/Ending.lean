import Scaffold.Proofs.Project.Pipeline
import Scaffold.Proofs.Project.Refusal

/-!
# What a run ends in

Apart from reports, what a run shows is its result and the files that it leaves.  That of a
validation is a function of the files and of the verdict on the name, and that of a creation whose
name has been accepted is one of the files, of the templates and of the plugins that are found once
the file has been written.
-/

namespace Scaffold.Project

open Files Plugin Workspace

variable {folder : Option Path} {op kind name : String} {w : World} {ws : Workspace}

/-- What a run shows: its result without a report, and the files that it leaves. -/
def outcome (run : Except Fault Result × World × Workspace) : Except Fault Result × Disk :=
  (run.1.map Result.withoutMeta, run.2.1.disk)

/-- Tracing does not show. -/
theorem outcome_traced (label : String) (x : Action Workspace Result) (w : World)
    (ws : Workspace) :
    outcome (Action.traced label x w ws) = outcome (x { w with tracer := w.tracer.begin } ws) := by
  obtain ⟨same, -, twin⟩ := Action.traced_spec label x w ws
  exact Prod.ext same twin.disk

/-- The folder and the path that a name is accepted for, or why it is not, by the verdict on it. -/
def accepted (op : String) (folder : Option Path) (name : String) (w : World) (ws : Workspace) :
    Except Fault (Except Result (Path × Path)) :=
  if ws.settings.isScala = false then .ok (.error (notScala op))
  else
    match (targetFolder folder w ws).1 with
    | .error fault => .error fault
    | .ok none => .ok (.error (noSourceRoot op))
    | .ok (some target) =>
      match verdict ws w.disk target name with
      | .error fault => .error fault
      | .ok (some why) => .ok (.error (rejected op name why))
      | .ok none =>
        match place w.disk target name with
        | .ok path => .ok (.ok (target, path))
        | .error (.misplaced why) => .ok (.error (misplaced op name why))
        | .error (.files fault) => .error (.files fault)

theorem accept_accepted (op : String) (folder : Option Path) (name : String) (w : World)
    (ws : Workspace) : (accept op folder name w ws).1 = accepted op folder name w ws := by
  rw [accept_apply, accepted]
  by_cases scala : ws.settings.isScala = false
  · rw [if_pos scala, if_pos scala]
  rw [if_neg scala, if_neg scala]
  rcases (targetFolder folder w ws).1 with fault | _ | target
  · rfl
  · rfl
  · dsimp only
    rw [← objection?_apply]
    have looked := (looks_objection? target name w ws (.refl ws)).1.disk
    rcases judged : objection? target name w ws with ⟨fault | _ | why, after⟩
    · rfl
    · rw [judged] at looked
      dsimp only at looked ⊢
      generalize w.disk = disk at looked ⊢
      subst looked
      rcases place after.1.disk target name with (why | fault) | path <;> rfl
    · rfl

/-- What a validation ends in, once it is known whether the name is accepted. -/
def validated (root : Path) (name : String) : Except Result (Path × Path) → Result
  | .error failure => failure
  | .ok (target, _) => .success "validate_name" [("name", .str name),
      ("folder", displayed root target), ("variables", variableData name)] []

theorem outcome_validateNameCore (folder : Option Path) (name : String) (w : World)
    (ws : Workspace) :
    outcome (validateNameCore folder name w ws) =
      (((accepted "validate_name" folder name w ws).map (validated ws.settings.root name)).map
        Result.withoutMeta, w.disk) := by
  obtain ⟨looked, alike⟩ := looks_accept "validate_name" folder name w ws (.refl ws)
  rw [← accept_accepted, validateNameCore, Action.bind_apply]
  rcases judged : accept "validate_name" folder name w ws with
    ⟨fault | failure | ⟨target, path⟩, w', ws'⟩
  · rw [judged] at looked
    exact Prod.ext rfl looked.disk
  · rw [judged] at looked
    exact Prod.ext rfl looked.disk
  · rw [judged] at looked alike
    dsimp only at looked alike ⊢
    rw [Action.bind_apply, Action.get]
    dsimp only [outcome, Action.pure_apply]
    rw [looked.disk, alike.settings]
    rfl

/-- The result of a creation whose plugins have been told of the file. -/
def told (op kind name : String) (root path : Path) (registry : Registry) : Result :=
  .success op [("name", .str name), ("kind", .str kind), ("path", displayed root path),
    ("variables", variableData name)] (registry.notify path.toString name kind).2.2

/-- What a creation ends in once its name has been accepted: the text is rendered and written, and
    the plugins that are found then are told of the file. -/
def ending (op kind name : String) (root path : Path) (disk : Disk) (store : Template.Store)
    (found? : Disk → Except Fault Registry) : Except Fault Result × Disk :=
  match (store.render disk kind (Scala.QualifiedName.bindings name)).1 with
  | .error .notFound =>
    (.ok (unknownKind op kind
      ((store.render disk kind (Scala.QualifiedName.bindings name)).2.kinds disk)), disk)
  | .error fault => (.error (.template fault), disk)
  | .ok text =>
    match disk.writeNew path (.text text) with
    | (.error (.obstacle .alreadyExists _), disk) => (.ok (rejected op name .fileExists), disk)
    | (.error fault, disk) => (.error (.files fault), disk)
    | (.ok (), disk) => ((found? disk).map (told op kind name root path), disk)

theorem outcome_notify (root path : Path) (w : World) (ws : Workspace) :
    outcome ((onPlugins (Plugins.notify path.toString name kind) >>= fun warnings =>
      pure (.success op [("name", .str name), ("kind", .str kind),
        ("path", displayed root path), ("variables", variableData name)] warnings)) w ws) =
      ((ws.pluginsFound? w.disk).map (told op kind name root path), w.disk) := by
  obtain ⟨looked, -⟩ := looks_getPlugins w ws (.refl ws)
  obtain ⟨w', got⟩ := getPlugins_apply w ws
  rw [Action.bind_apply, onPlugins]
  cases found : ws.pluginsFound? w.disk with
  | error fault =>
    rw [found] at got
    rw [got]
    rfl
  | ok registry =>
    rw [found] at got
    rw [got] at looked ⊢
    exact Prod.ext rfl looked.disk

theorem outcome_finishFile (op kind name : String) (root path : Path) (w : World)
    (ws : Workspace) :
    outcome (finishFile op kind name root path w ws) =
      ending op kind name root path w.disk ws.store ws.pluginsFound? := by
  rw [finishFile, Action.bind_apply, renderOrFail, Action.spanning, Action.bind_apply,
    render_apply, ending]
  dsimp only
  cases (ws.store.render w.disk kind (Scala.QualifiedName.bindings name)).1 with
  | error fault =>
    cases fault with
    | notFound =>
      dsimp only
      rw [Action.bind_apply, kinds, Action.bind_apply, getTemplates_apply]
      rfl
    | _ => rfl
  | ok text =>
    dsimp only [Action.pure_apply]
    rw [Action.bind_apply, writeOrFail, Action.spanning, Action.bind_apply, Action.change]
    dsimp only
    rcases w.disk.writeNew path (.text text) with ⟨fault | done, d'⟩
    · rcases fault with ⟨why, q⟩ | path | bytes
      · cases why <;> rfl
      · rfl
      · rfl
    · exact outcome_notify root path _ _

/-- What a creation ends in; the plugins are those that are found by the workspace that has accepted
    the name. -/
theorem outcome_createFileCore (folder : Option Path) (kind : Option String) (name : String)
    (w : World) (ws : Workspace) :
    outcome (createFileCore folder kind name w ws) =
      match accepted "create_file" folder name w ws with
      | .error fault => (.error fault, w.disk)
      | .ok (.error failure) => (.ok failure.withoutMeta, w.disk)
      | .ok (.ok (_, path)) =>
        ending "create_file" (ws.kindFor kind) name ws.settings.root path w.disk ws.store
          (accept "create_file" folder name w ws).2.2.pluginsFound? := by
  obtain ⟨looked, alike⟩ := looks_accept "create_file" folder name w ws (.refl ws)
  rw [← accept_accepted]
  rcases judged : accept "create_file" folder name w ws with
    ⟨fault | failure | ⟨target, path⟩, w', ws'⟩
  · rw [judged] at looked
    change outcome ((accept "create_file" folder name >>= _) w ws) = _
    rw [Action.bind_apply, judged]
    exact Prod.ext rfl looked.disk
  · rw [judged] at looked
    change outcome ((accept "create_file" folder name >>= _) w ws) = _
    rw [Action.bind_apply, judged]
    exact Prod.ext rfl looked.disk
  · rw [judged] at looked alike
    rw [createFileCore_of_accept kind judged, outcome_finishFile, looked.disk, alike.store_eq]

end Scaffold.Project
