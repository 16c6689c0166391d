import Scaffold.Proofs.Project.Placement
import Scaffold.Proofs.Project.Verdict

/-!
# Accepting names

Every operation on a name goes through the same steps in front: the project has Scala sources, a
folder is chosen, there is no objection to the name, and it has a place.  The operation itself shows
in the failures only.
-/

namespace Scaffold.Project

open Files Workspace

variable {folder : Option Path} {op name : String} {w : World} {ws : Workspace}
  {after : World × Workspace} {target path : Path}

/-- Choosing a folder changes nothing, and the choice depends on the files and the settings. -/
theorem targetFolder_apply (folder : Option Path) (w : World) (ws : Workspace) :
    targetFolder folder w ws =
      (match folder with
        | some folder => .ok (some folder)
        | none => ((firstDirectory w.disk ws.settings.sourceRoots).mapError .files).map
            (·.orElse fun _ => ws.settings.sourceRoots.head?), w, ws) := by
  cases folder with
  | some folder => rfl
  | none =>
    simp only [targetFolder, Action.bind_apply, Action.get, Action.disk, Action.ofFiles]
    cases firstDirectory w.disk ws.settings.sourceRoots <;> rfl

theorem targetFolder_tracer (folder : Option Path) (w : World) (ws : Workspace)
    (tracer : Telemetry.Tracer) :
    (targetFolder folder { w with tracer := tracer } ws).1 = (targetFolder folder w ws).1 := by
  rw [targetFolder_apply, targetFolder_apply]

theorem placeOrFail_apply (op : String) (target : Path) (name : String) (w : World)
    (ws : Workspace) :
    placeOrFail op target name w ws =
      (match place w.disk target name with
        | .ok path => .ok (.ok path)
        | .error (.misplaced why) => .ok (.error (misplaced op name why))
        | .error (.files fault) => .error (.files fault), w, ws) := by
  rw [placeOrFail, Action.bind_apply, Action.disk]
  dsimp only
  rcases place w.disk target name with (why | fault) | path <;> rfl

/-- A name is accepted for a folder, with the path as its place. -/
structure Accepted (folder : Option Path) (name : String) (w : World) (ws : Workspace)
    (target path : Path) : Prop where
  chosen : (targetFolder folder w ws).1 = .ok (some target)
  unobjected : Scala.nameObjection? name.toList = none
  placed : place w.disk target name = .ok path

theorem verdict_of_objection? (judged : objection? target name w ws = (.ok none, after)) :
    verdict ws w.disk target name = .ok none := by
  rw [← objection?_apply, judged]

theorem nameObjection?_of_objection? (judged : objection? target name w ws = (.ok none, after)) :
    Scala.nameObjection? name.toList = none :=
  (verdict_eq_none.mp (verdict_of_objection? judged)).2.1

/-- There is no objection only to a name at whose path nothing is. -/
theorem exists?_of_objection? (judged : objection? target name w ws = (.ok none, after)) :
    w.disk.exists? (sourcePath target name) = .ok false := by
  obtain ⟨-, -, _, -, free, -⟩ := verdict_eq_none.mp (verdict_of_objection? judged)
  rw [sourceExists] at free
  exact free

/-- A name is accepted step by step: the project has Scala sources, a folder is chosen, there is no
    objection, and the name has a place. -/
theorem accept_apply (op : String) (folder : Option Path) (name : String) (w : World)
    (ws : Workspace) :
    accept op folder name w ws =
      if ws.settings.isScala = false then (.ok (.error (notScala op)), w, ws)
      else match (targetFolder folder w ws).1 with
        | .error fault => (.error fault, w, ws)
        | .ok none => (.ok (.error (noSourceRoot op)), w, ws)
        | .ok (some target) =>
          match objection? target name w ws with
          | (.error fault, after) => (.error fault, after)
          | (.ok (some why), after) => (.ok (.error (rejected op name why)), after)
          | (.ok none, after) =>
            (match place after.1.disk target name with
              | .ok path => .ok (.ok (target, path))
              | .error (.misplaced why) => .ok (.error (misplaced op name why))
              | .error (.files fault) => .error (.files fault), after) := by
  rw [accept, Action.bind_apply, Action.get]
  dsimp only
  cases ws.settings.isScala with
  | false => rfl
  | true =>
    simp only [Bool.not_true, Bool.false_eq_true, if_false, Bool.true_eq_false]
    have unchanged : targetFolder folder w ws = ((targetFolder folder w ws).1, w, ws) := by
      rw [targetFolder_apply]
    rw [Action.bind_apply, unchanged]
    rcases (targetFolder folder w ws).1 with fault | _ | target
    · rfl
    · rfl
    · dsimp only
      rw [Action.bind_apply]
      rcases objection? target name w ws with ⟨fault | _ | why, after⟩
      · rfl
      · dsimp only
        rw [Action.bind_apply, placeOrFail_apply]
        rcases place after.1.disk target name with (why | fault) | path <;> rfl
      · rfl

/-- The steps by which a name is accepted are the same for every operation. -/
theorem accept_ok_iff :
    accept op folder name w ws = (.ok (.ok (target, path)), after) ↔
      ws.settings.isScala = true ∧ (targetFolder folder w ws).1 = .ok (some target) ∧
        objection? target name w ws = (.ok none, after) ∧
        place after.1.disk target name = .ok path := by
  rw [accept_apply]
  cases ws.settings.isScala with
  | false => simp
  | true =>
    simp only [Bool.true_eq_false, if_false, true_and]
    rcases (targetFolder folder w ws).1 with fault | _ | chosen
    · simp
    · simp
    · dsimp only
      constructor
      · intro accepted
        rcases judged : objection? chosen name w ws with ⟨fault | _ | why, after'⟩
        · simp [judged] at accepted
        · rw [judged] at accepted
          dsimp only at accepted
          rcases placed : place after'.1.disk chosen name with (why | fault) | path'
          · simp [placed] at accepted
          · simp [placed] at accepted
          · rw [placed] at accepted
            cases accepted
            exact ⟨rfl, judged, placed⟩
        · simp [judged] at accepted
      · rintro ⟨chose, judged, placed⟩
        cases chose
        rw [judged]
        dsimp only
        rw [placed]

/-- A name is accepted, or the result is a failure. -/
theorem accept_eq_ok {verdict : Except Result (Path × Path)}
    (ran : accept op folder name w ws = (.ok verdict, after)) :
    (∃ target path, verdict = .ok (target, path) ∧ Accepted folder name w ws target path) ∨
      ∃ failure, verdict = .error failure ∧ failure.ok = false := by
  rcases verdict with failure | ⟨target, path⟩
  · refine .inr ⟨failure, rfl, ?_⟩
    rw [accept_apply] at ran
    split at ran
    · cases ran
      rfl
    split at ran
    · cases ran
    · cases ran
      rfl
    split at ran
    · cases ran
    · cases ran
      rfl
    split at ran
    · cases ran
    · cases ran
      rfl
    · cases ran
  · obtain ⟨-, chosen, judged, placed⟩ := accept_ok_iff.mp ran
    have looked := (looks_objection? target name w ws (.refl ws)).1
    rw [judged] at looked
    rw [looked.disk] at placed
    exact .inl ⟨target, path, rfl, chosen, nameObjection?_of_objection? judged, placed⟩

/-- Nothing is at the place of a name that is accepted. -/
theorem exists?_of_accept (ran : accept op folder name w ws = (.ok (.ok (target, path)), after)) :
    w.disk.exists? path = .ok false := by
  obtain ⟨-, -, judged, placed⟩ := accept_ok_iff.mp ran
  rw [(of_place_eq_ok placed).2.1]
  exact exists?_of_objection? judged

theorem Accepted.of_tracer {tracer : Telemetry.Tracer}
    (accepted : Accepted folder name { w with tracer := tracer } ws target path) :
    Accepted folder name w ws target path where
  chosen := targetFolder_tracer folder w ws tracer ▸ accepted.chosen
  unobjected := accepted.unobjected
  placed := accepted.placed

theorem validateNameCore_of_fault {fault : Fault}
    (failed : accept "validate_name" folder name w ws = (.error fault, after)) :
    validateNameCore folder name w ws = (.error fault, after) := by
  unfold validateNameCore
  rw [Action.bind_apply, failed]

theorem validateNameCore_of_verdict {verdict : Except Result (Path × Path)}
    (judged : accept "validate_name" folder name w ws = (.ok verdict, after)) :
    ∃ r, validateNameCore folder name w ws = (.ok r, after) ∧ r.ok = verdict.isOk := by
  have rejects := accept_eq_ok judged
  unfold validateNameCore
  rw [Action.bind_apply, judged]
  rcases verdict with failure | ⟨target, path⟩
  · rcases rejects with ⟨_, _, ⟨⟩, -⟩ | ⟨_, ⟨⟩, failed⟩
    exact ⟨failure, rfl, failed⟩
  · exact ⟨_, rfl, rfl⟩

/-- A validation ends as the acceptance of the name does. -/
theorem validateName_cases (folder : Option Path) (name : String) (w : World) (ws : Workspace) :
    (∃ fault after after', validateName folder name w ws = (.error fault, after) ∧
        accept "validate_name" folder name { w with tracer := w.tracer.begin } ws =
          (.error fault, after')) ∨
      ∃ r verdict w₁ w' ws', validateName folder name w ws = (.ok r, w₁, ws') ∧
        accept "validate_name" folder name { w with tracer := w.tracer.begin } ws =
          (.ok verdict, w', ws') ∧ r.ok = verdict.isOk := by
  rcases judged : accept "validate_name" folder name { w with tracer := w.tracer.begin } ws with
    ⟨fault | verdict, w', ws'⟩
  · obtain ⟨report, w'', ended, -, -, same⟩ :=
      Action.traced_cases "FileCreatorService.validate_name" (validateNameCore_of_fault judged)
    rcases report with fault' | r
    · cases same
      exact .inl ⟨fault, _, _, ended, rfl⟩
    · cases same
  · obtain ⟨inner, core, fine⟩ := validateNameCore_of_verdict judged
    obtain ⟨report, w'', ended, -, -, same⟩ :=
      Action.traced_cases "FileCreatorService.validate_name" core
    rcases report with fault | r
    · cases same
    · exact .inr ⟨r, verdict, w'', w', ws', ended, rfl, (Except.ok.inj same).trans fine⟩

/-- A validated name has been accepted, as it would be for every other operation, and all the while
    nothing was changed. -/
theorem accept_of_validateName {verdict : Result} {w₁ : World} {ws₁ : Workspace}
    (validated : validateName folder name w ws = (.ok verdict, w₁, ws₁))
    (fine : verdict.ok = true) :
    ∃ target path w', Accepted folder name w ws target path ∧ w'.disk = w.disk ∧ ws.Alike ws₁ ∧
      ∀ op, accept op folder name { w with tracer := w.tracer.begin } ws =
        (.ok (.ok (target, path)), w', ws₁) := by
  rcases validateName_cases folder name w ws with
    ⟨fault, _, _, failed, -⟩ | ⟨r, places, w₂, w', ws', ended, judged, same⟩
  · cases validated.symm.trans failed
  cases validated.symm.trans ended
  rcases places with failure | ⟨target, path⟩
  · rw [same] at fine
    cases fine
  obtain ⟨looked, alike⟩ := looks_accept "validate_name" folder name
    { w with tracer := w.tracer.begin } ws (.refl ws)
  rw [judged] at looked alike
  refine ⟨target, path, w', ?_, looked.disk, alike, ?_⟩
  · rcases accept_eq_ok judged with ⟨_, _, ⟨⟩, accepted⟩ | ⟨_, ⟨⟩, -⟩
    exact accepted.of_tracer
  · exact fun op => accept_ok_iff.mpr (accept_ok_iff.mp judged)

end Scaffold.Project
