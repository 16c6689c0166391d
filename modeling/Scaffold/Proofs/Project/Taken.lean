import Scaffold.Proofs.Project.Evolution
import Scaffold.Proofs.Project.Recreation
import Scaffold.Proofs.Project.Refusal
import Scaffold.Proofs.Template.SourceText

/-!
# Names that stay taken

A name whose file has been created is taken as long as the file is there: the file is found before
the symbols are asked, so that no answer counts against it.  Only a workspace whose symbols cannot
be got ready says nothing of the name, and the workspace that created the file is none of these.
-/

namespace Scaffold.Files.Disk

variable {d : Disk} {p : Path} {at_ : Location} {content : Content}

theorem exists?_of_isFile? (file : d.isFile? p = .ok true) : d.exists? p = .ok true := by
  rw [isFile?, test] at file
  rw [exists?, test]
  cases found : d.node p with
  | ok node => rfl
  | error why =>
    rw [found] at file
    cases absent : why.meansAbsent <;> simp [absent] at file

theorem isFile?_of_locate (located : d.locate true p = .ok at_)
    (file : d.tree.get? at_ = some (.file content)) : d.isFile? p = .ok true := by
  rw [isFile?, test, node, located]
  simp [file, Node.isFile]

end Scaffold.Files.Disk

namespace Scaffold.Project

open Files Plugin

namespace Workspace

variable {ws ws' ready : Workspace} {disk : Disk} {fault : Fault}

/-- The symbols can be got ready at any time: plugins are loaded, and a thread is not missing. -/
structure Settled (ws : Workspace) : Prop where
  loaded : ws.plugins ≠ none
  staffed : ws.looksUp = true → ws.Staffed

theorem Settled.step (step : ws.Step ws') (settled : ws.Settled) : ws'.Settled := by
  cases step with
  | plugins registry => exact ⟨by simp, settled.staffed⟩
  | templates store => exact ⟨settled.loaded, settled.staffed⟩
  | index _ _ _ => exact ⟨settled.loaded, settled.staffed⟩
  | asked disk name _ => exact ⟨settled.loaded, settled.staffed⟩

theorem Settled.close (settled : ws.Settled) : ws.close.Settled :=
  ⟨settled.loaded, settled.staffed⟩

theorem Settled.later (settled : ws.Settled) (later : ws.Later ws') : ws'.Settled :=
  later.induction settled .step .close

/-- A workspace with an index has threads for it. -/
def Equipped (ws : Workspace) : Prop := ws.index ≠ none → ws.Staffed

theorem Equipped.step (step : ws.Step ws') (equipped : ws.Equipped) : ws'.Equipped := by
  cases step with
  | plugins registry => exact equipped
  | templates store => exact equipped
  | index _ _ staffed => exact fun _ => staffed
  | asked disk name ready => exact fun _ => equipped (by simp [ready])

theorem Opened.equipped (opened : ws.Opened) : ws.Equipped := by
  obtain ⟨settings, sync, later⟩ := opened
  exact later.induction (fun made => absurd rfl made) .step fun _ made => absurd rfl made

/-- Where the symbols could be got ready, a thread was not missing. -/
theorem Equipped.staffed (equipped : ws.Equipped) (prepared : ws.readied? disk = .ok ready)
    (lookups : ws.looksUp = true) : ws.Staffed := by
  rw [readied?, lookups, Bool.true_and] at prepared
  cases indexed : ws.index with
  | some index => exact equipped (by simp [indexed])
  | none =>
    rw [indexed, Option.isNone_none, if_pos rfl] at prepared
    split at prepared
    · cases prepared
    split at prepared
    · cases prepared
    · rename_i threads
      rw [Staffed]
      by_cases sync : ws.sync = true
      · exact .inl sync
      · exact .inr (Int.not_le.mp (by simpa [sync] using threads))

theorem Settled.readied? (settled : ws.Settled) (disk : Disk) :
    ∃ ready, ws.readied? disk = .ok ready := by
  cases prepared : ws.readied? disk with
  | ok ready => exact ⟨ready, rfl⟩
  | error fault =>
    obtain ⟨lookups, -, ⟨tooLong, -⟩ | ⟨unstaffed, -⟩⟩ := readied?_eq_error prepared
    · exact absurd tooLong.unloaded settled.loaded
    · exact absurd (settled.staffed lookups) unstaffed

end Workspace

open Workspace

variable {folder : Option Path} {kind : Option String} {name : String} {w w' : World}
  {ws ws' : Workspace} {target : Path}

/-- A name at whose path something is, is refused for that, if the symbols can be got ready. -/
theorem refusal?_of_present (scala : ws.settings.isScala = true)
    (chosen : (targetFolder folder w ws).1 = .ok (some target))
    (accepted : Scala.nameObjection? name.toList = none)
    (present : w.disk.exists? (sourcePath target name) = .ok true) :
    refusal? folder name w ws =
      some ((ws.readied? w.disk).map fun _ => rejectionError name .fileExists) := by
  rw [refusal?, if_neg (by simp [scala]), chosen]
  dsimp only
  cases prepared : ws.readied? w.disk with
  | error fault =>
    rw [verdict_of_unready scala accepted prepared]
    rfl
  | ok ready =>
    rw [verdict_of_ready scala accepted prepared present]
    rfl

/-- A run of an operation is a part of what happens to a workspace. -/
theorem Operation.later (operation : Operation) (w : World) (ws : Workspace) :
    ws.Later (operation.run w ws).2.2 := by
  have traced : ∀ {x : Action Workspace Result} (label : String), Action.Evolving x →
      Action.Evolving (responding (Action.traced label x)) := fun label evolving =>
    (Action.Evolving.traced label evolving).bind fun _ => .pure _
  apply Evolves.later
  cases operation with
  | checkName folder name =>
    exact evolving_operational.bind (evolving_operational.objection? folder name)
      (fun _ => .pure _) w ws
  | validateName folder name =>
    exact traced _ (evolving_operational.validateNameCore folder name) w ws
  | createFile folder kind name =>
    exact traced _ (evolving_operational.createFileCore folder kind name) w ws
  | initialPath resource => exact traced _ (evolving_operational.initialPathCore resource) w ws
  | templateVariables name => exact traced _ (.pure _) w ws
  | completionEntries folder pre =>
    exact traced _ (evolving_operational.completionEntriesCore folder pre) w ws

section Created

variable {r : Result} {w₁ : World} {ws₁ : Workspace}

/-- The workspace that has created a file has its plugins loaded, and threads if it needs them. -/
theorem settled_of_createFile (opened : ws.Opened)
    (created : createFile folder kind name w ws = (.ok r, w₁, ws₁)) (fine : r.ok = true) :
    ws₁.Settled := by
  have evolved := evolving_createFile folder kind name w ws
  rw [created] at evolved
  have kept := evolved.later.settings
  obtain ⟨_, _, _, -, -, loaded⟩ := planned_of_createFile created fine
  refine ⟨loaded, fun lookups => ?_⟩
  obtain ⟨target, -, unobjected⟩ := of_refusal?_eq_none (refusal?_of_createFile created fine)
  obtain ⟨-, -, ready, prepared, -⟩ := verdict_eq_none.mp unobjected
  rw [looksUp, kept.1] at lookups
  have staffed := opened.equipped.staffed prepared lookups
  rw [Staffed, kept.1, kept.2]
  exact staffed

/-- The file that has been created is there. -/
theorem isFile?_of_createFile (created : createFile folder kind name w ws = (.ok r, w₁, ws₁))
    (fine : r.ok = true) :
    ∃ target, ws.settings.isScala = true ∧ (targetFolder folder w ws).1 = .ok (some target) ∧
      Scala.nameObjection? name.toList = none ∧
      w₁.disk.isFile? (sourcePath target name) = .ok true := by
  obtain ⟨other, -, unobjected⟩ := of_refusal?_eq_none (refusal?_of_createFile created fine)
  obtain ⟨target, path, text, planned, written, -⟩ := planned_of_createFile created fine
  obtain ⟨at_, located, file, -⟩ := Disk.of_writeNew_eq_ok written
  rw [(of_place_eq_ok planned.placed).2.1] at located
  exact ⟨target, (verdict_eq_none.mp unobjected).1, planned.chosen, planned.unobjected,
    Disk.isFile?_of_locate located file⟩

end Created

/-- Validating and creating a name are refused for the same reason, of whatever kind the file is to
    be.  A name whose file has been created is taken from then on, as long as something is at the
    path: always in the workspace that created it, whatever has happened to it, and in every other
    one whose symbols can be got ready, as they can unless there are no threads for them or the
    plugins cannot be looked for. -/
theorem createFile_taken (folder : Option Path) (name : String) (w : World) (ws : Workspace) :
    (∀ why, setback? (validateName folder name w ws).1 = some why →
      ∀ kind, Stops (createFile folder kind name) w ws why) ∧
    ∀ kind r w₁ ws₁, ws.Opened → createFile folder kind name w ws = (.ok r, w₁, ws₁) →
      r.ok = true →
      ∃ target, (targetFolder folder w ws).1 = .ok (some target) ∧
        w₁.disk.isFile? (sourcePath target name) = .ok true ∧
        ∀ folder' w' ws', (targetFolder folder' w' ws').1 = .ok (some target) →
          w'.disk.exists? (sourcePath target name) = .ok true →
          (ws₁.Later ws' ∨
              ws'.settings.isScala = true ∧ (∃ ready, ws'.readied? w'.disk = .ok ready) →
            Refuses folder' name w' ws'
              (.ok ⟨"NAME_COLLISION", "File already exists", [("name", .str name)]⟩)) ∧
          ∀ fault, ws'.settings.isScala = true → ws'.readied? w'.disk = .error fault →
            Refuses folder' name w' ws' (.error fault) ∧ ws'.looksUp = true ∧ ws'.index = none ∧
              (ws'.PluginsTooLong w'.disk ∧ fault = ws'.pluginsFault ∨
                ¬ ws'.Staffed ∧ fault = .noWorkers) := by
  refine ⟨?_, ?_⟩
  · intro why failed
    rw [validateName_setback?] at failed
    exact (refuses_of_refusal? failed).2
  · intro kind r w₁ ws₁ opened created fine
    obtain ⟨target, scala, chosen, accepted, file⟩ := isFile?_of_createFile created fine
    have settled := settled_of_createFile opened created fine
    have kept := (evolving_createFile folder kind name w ws).later.settings.1
    rw [created] at kept
    refine ⟨target, chosen, file, fun folder' w' ws' chosen' present => ⟨?_, ?_⟩⟩
    · intro known
      obtain ⟨scala', ready, prepared⟩ : ws'.settings.isScala = true ∧
          ∃ ready, ws'.readied? w'.disk = .ok ready := by
        rcases known with later | known
        · refine ⟨?_, (settled.later later).readied? w'.disk⟩
          rw [later.settings.1, kept]
          exact scala
        · exact known
      apply refuses_of_refusal?
      rw [refusal?_of_present scala' chosen' accepted present, prepared]
      rfl
    · intro fault scala' failed
      refine ⟨?_, readied?_eq_error failed⟩
      apply refuses_of_refusal?
      rw [refusal?_of_present scala' chosen' accepted present, failed]
      rfl

/-- The path that is looked at for a name in packages. -/
example : (sourcePath (sourceFolder "main") "org.acme.Main").toString =
    "/p/src/main/scala/org/acme/Main.scala" := by decide +kernel

/-- The name of a file that has just been created is taken also once the symbols are dropped. -/
theorem createFile_taken_twoFolders :
    twoFolderWorkspace.Opened ∧ ∃ r w₁ ws₁,
      createFile (some (sourceFolder "main")) (some "class") "A" twoFolderWorld
        twoFolderWorkspace = (.ok r, w₁, ws₁) ∧ r.ok = true ∧
      w₁.disk.exists? (sourcePath (sourceFolder "main") "A") = .ok true ∧ ws₁.Later ws₁.close ∧
      Refuses (some (sourceFolder "main")) "A" w₁ ws₁.close
        (.ok ⟨"NAME_COLLISION", "File already exists", [("name", .str "A")]⟩) := by
  have opened : twoFolderWorkspace.Opened := ⟨_, _, Relation.ReflTransGen.refl⟩
  obtain ⟨r, w₁, ws₁, _, _, _, created, fine, -⟩ := createFile_both
  obtain ⟨target, chosen, file, taken⟩ :=
    (createFile_taken (some (sourceFolder "main")) "A" twoFolderWorld twoFolderWorkspace).2
      (some "class") r w₁ ws₁ opened created fine
  cases chosen
  have present := Disk.exists?_of_isFile? file
  have later : ws₁.Later ws₁.close := Relation.ReflTransGen.single (.inr rfl)
  exact ⟨opened, r, w₁, ws₁, created, fine, present, later,
    (taken (some (sourceFolder "main")) w₁ ws₁.close rfl present).1 (.inl later)⟩

/-- The project with two source folders, opened anew without threads for its symbols. -/
def unstaffedWorkspace : Workspace :=
  .ofSettings { twoFolderWorkspace.settings with
    lookup := { Config.LookupSection.default with workers := 0 } } false

/-- Opened anew without threads for its symbols, a project does not say that a name is taken whose
    file has just been created. -/
theorem validateName_unstaffed :
    ∃ r w₁ ws₁ after, createFile (some (sourceFolder "main")) (some "class") "A" twoFolderWorld
        twoFolderWorkspace = (.ok r, w₁, ws₁) ∧ r.ok = true ∧
      w₁.disk.isFile? (sourcePath (sourceFolder "main") "A") = .ok true ∧
      unstaffedWorkspace.settings.isScala = true ∧
      validateName (some (sourceFolder "main")) "A" w₁ unstaffedWorkspace =
        (.error .noWorkers, after) := by
  have scala : unstaffedWorkspace.settings.isScala = true := by decide
  have lookups : (unstaffedWorkspace.looksUp && unstaffedWorkspace.index.isNone) = true := by
    decide
  obtain ⟨r, w₁, ws₁, _, _, _, created, fine, -, -, -, directory⟩ := createFile_both_shown
  have tested : w₁.disk.isDirectory? (pluginDir unstaffedWorkspace.settings) = .ok false :=
    eq_ok_of_toOption directory
  obtain ⟨target, -, chosen, accepted, file⟩ := isFile?_of_createFile created fine
  cases chosen
  have found : unstaffedWorkspace.pluginsFound? w₁.disk = .ok .empty := by
    have unloaded : unstaffedWorkspace.plugins = none := rfl
    rw [pluginsFound?, unloaded]
    dsimp only
    rw [discover, tested]
    rfl
  have unready : unstaffedWorkspace.readied? w₁.disk = .error .noWorkers := by
    rw [readied?, if_pos lookups, found]
    rfl
  have own : (targetFolder (some (sourceFolder "main")) w₁ unstaffedWorkspace).1 =
      .ok (some (sourceFolder "main")) := rfl
  have refused := refusal?_of_present scala own accepted (Disk.exists?_of_isFile? file)
  rw [unready] at refused
  have stopped := (refuses_of_refusal? refused).1.setback
  exact ⟨r, w₁, ws₁, _, created, fine, file, scala,
    Prod.ext (eq_error_of_setback? stopped) rfl⟩

end Scaffold.Project
