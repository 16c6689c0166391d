import Scaffold.Proofs.Files.Leftover
import Scaffold.Proofs.Project.Judgement
import Scaffold.Proofs.Project.Validated

/-!
# Creations that end in a fault

Nothing is rolled back: a creation that ends in a fault has done what it had done by then.  In a
folder without `..` that is nothing at all, except in two cases.  Directories were made on the way
to a component that is too long, and they stay; or the file was written, and then the plugins could
not be looked for.
-/

namespace Scaffold.Project

open Files Workspace

variable {folder : Option Path} {kind : Option String} {op name : String} {w w' : World}
  {ws ws' : Workspace} {target path q : Path} {text : String} {fault : Fault}

/-- Where a file cannot be written although nothing is in its place, what is left to do ends in that
    fault. -/
theorem finishFile_of_writeNew_eq_error {kind : String} {fault : Files.Fault} (root : Path)
    (rendered : (ws.store.render w.disk kind (Scala.QualifiedName.bindings name)).1 = .ok text)
    (failed : (w.disk.writeNew path (.text text)).1 = .error fault)
    (other : ∀ q, fault ≠ .obstacle .alreadyExists q) :
    ∃ w' ws', finishFile op kind name root path w ws = (.error (.files fault), w', ws') ∧
      w'.disk = (w.disk.writeNew path (.text text)).2 := by
  obtain ⟨w₁, templates, ran, same⟩ := renderOrFail_of_render op rendered
  obtain ⟨writing, w₂, wrote, disk, -, outcome⟩ :=
    writeOrFail_cases op name path text w₁ { ws with templates := templates }
  rw [same] at disk outcome
  rw [finishFile, Action.bind_apply, ran]
  dsimp only
  rw [Action.bind_apply, wrote]
  rcases outcome with ⟨done, -⟩ | ⟨_, sameFault, outcome⟩
  · cases failed.symm.trans done
  cases failed.symm.trans sameFault
  rcases writing with raised | written
  · obtain ⟨_, sameFault, rfl⟩ := writeOrFail_eq_error wrote
    rw [same] at sameFault
    cases failed.symm.trans sameFault
    exact ⟨_, _, rfl, disk⟩
  · obtain ⟨⟨q, taken⟩, -⟩ := outcome written rfl
    exact absurd taken (other q)

/-- A name that is spelled by the grammar meets no objection in a project that looks up no symbols,
    if nothing is at its path. -/
theorem objection?_of_free (scala : ws.settings.isScala = true) (unasked : ws.looksUp = false)
    (accepted : Scala.nameObjection? name.toList = none)
    (free : w.disk.exists? (sourcePath target name) = .ok false) :
    ∃ w', objection? target name w ws = (.ok none, w', ws) ∧ w'.disk = w.disk := by
  rw [objection?, Action.bind_apply, Action.get]
  dsimp only
  rw [scala, Bool.not_true, if_neg Bool.false_ne_true, Action.bind_apply, Action.spanning]
  dsimp only [Action.pure_apply]
  rw [accepted]
  dsimp only
  rw [Action.bind_apply, asker, Action.bind_apply, Action.get]
  dsimp only
  rw [unasked, if_neg Bool.false_ne_true]
  dsimp only [Action.pure_apply]
  rw [Action.spanning, takenObjection?, Action.bind_apply, Action.disk]
  dsimp only
  rw [Action.bind_apply, Action.ofFiles, sourceExists, free]
  exact ⟨_, rfl, rfl⟩

/-- Where a component of the path is too long and a directory above it is missing, a planned
    creation makes the missing directories, which stay when it ends in the fault. -/
theorem createFile_of_blocked (scala : ws.settings.isScala = true) (unasked : ws.looksUp = false)
    (planned : Planned folder kind name w ws target path text) (closed : w.disk.tree.Closed)
    (blocked : w.disk.Blocked path q) :
    ∃ w' ws', createFile folder kind name w ws =
      (.error (.files (.obstacle .nameTooLong q)), w', ws') ∧ w.disk.Leftover path q w'.disk := by
  have free := blocked.exists?_eq_false
  rw [(of_place_eq_ok planned.placed).2.1] at free
  obtain ⟨w₁, judged, same⟩ :=
    objection?_of_free (w := { w with tracer := w.tracer.begin }) scala unasked planned.unobjected
      free
  have accepts : accept "create_file" folder name { w with tracer := w.tracer.begin } ws =
      (.ok (.ok (target, path)), w₁, ws) := by
    refine accept_ok_iff.mpr ⟨scala, ?_, judged, ?_⟩
    · rw [targetFolder_tracer]
      exact planned.chosen
    · rw [same]
      exact planned.placed
  obtain ⟨d', failed, left⟩ := blocked.stops_writeNew closed (.text text)
  have rendered := planned.rendered
  dsimp only at same
  rw [← same] at rendered failed
  obtain ⟨w₂, ws₂, ended, disk⟩ := finishFile_of_writeNew_eq_error (w := w₁) ws.settings.root
    rendered (congrArg Prod.fst failed) (by simp)
  rw [← createFileCore_of_accept kind accepts] at ended
  obtain ⟨report, w', traced, traceDisk, -, told⟩ :=
    Action.traced_cases "FileCreatorService.create_file" ended
  rcases report with raised | r
  · cases told
    refine ⟨w', ws₂, traced, ?_⟩
    rw [traceDisk, disk, failed]
    exact left
  · cases told

/-- The text of an accepted name's path is no obstacle. -/
theorem Accepted.textObstacle? (accepted : Accepted folder name w ws target path)
    (free : w.disk.exists? path = .ok false) : Disk.textObstacle? path = none := by
  obtain ⟨-, -, real, -, resolved, -, -⟩ := of_place_eq_ok accepted.placed
  exact Disk.textObstacle?_of_exists? free resolved

/-- Where the file of an accepted name cannot be written, nothing has changed, or directories are
    left above a component that is too long. -/
theorem Accepted.leftover {content : Content} {d' : Disk} {fault : Files.Fault}
    (accepted : Accepted folder name w ws target path) (closed : w.disk.tree.Closed)
    (plain : ".." ∉ target.parts) (free : w.disk.exists? path = .ok false)
    (failed : w.disk.writeNew path content = (.error fault, d')) :
    d' = w.disk ∨ ∃ q, fault = .obstacle .nameTooLong q ∧ w.disk.Leftover path q d' := by
  obtain ⟨plainPath, nonempty⟩ := accepted.proper plain
  exact Disk.writeNew_leftover closed plainPath nonempty (accepted.textObstacle? free) failed

section DeepName

open Scala QualifiedName

/-- The name of a type in a package of an over-long segment inside another one. -/
def deepName : String := String.ofList ('a' :: '.' :: (longSegment ++ ['.', 'A']))

/-- The path of its file. -/
def deepPath : Path := ⟨.relative, ["src", "a", String.ofList longSegment, "A.scala"]⟩

theorem spells_deepName : Spells [['a'], longSegment] ['A'] deepName.toList where
  packageValid := by
    intro segment member
    rcases List.mem_cons.mp member with rfl | member
    · decide +kernel
    · rw [List.mem_singleton.mp member]
      exact isPackageIdent_longSegment
  typeValid := by decide +kernel
  undotted := by decide
  whole := by
    rw [deepName, String.toList_ofList, qualify_cons, qualify_cons, qualify_nil]
    rfl

theorem deepName_accepted : nameObjection? deepName.toList = none := by
  rw [nameObjection?_eq_none, spells_deepName.packageSegments_eq, spells_deepName.typeSegment_eq]
  exact spells_deepName

theorem deepName_whole : deepName.toList.any isSeparator = false := by
  have letter : isSeparator 'x' = false := rfl
  simp only [deepName, String.toList_ofList, longSegment, List.any_cons, List.any_append,
    List.any_replicate, letter]
  rfl

theorem sourcePath_deepName : sourcePath ⟨.relative, ["src"]⟩ deepName = deepPath := by
  refine sourcePath_of_spells _ spells_deepName fun member => ?_
  have separates : deepName.toList.any isSeparator = true :=
    List.any_eq_true.mpr ⟨'/', member, rfl⟩
  rw [deepName_whole] at separates
  cases separates

/-- No component of the path holds a null character. -/
theorem deepPath_clean :
    (deepPath.parts.any fun part => part.toList.contains '\x00') = false := by
  simp only [deepPath, List.any_cons, List.any_nil, longSegment_clean]
  decide

theorem resolve_deepPath :
    blockedWorld.disk.resolve deepPath = .ok ⟨.single, "p" :: deepPath.parts⟩ := by
  have stops : blockedWorld.disk.tree.walk true maxLinks
      (blockedWorld.disk.start ⟨.single, "p" :: deepPath.parts⟩) ("p" :: deepPath.parts) =
        .error .notFound := by decide +kernel
  exact Disk.resolve_of_found deepPath_clean (by decide +kernel)
    (Disk.node_ne_tooManyLinks stops (by decide))

theorem placed_deepName :
    place blockedWorld.disk ⟨.relative, ["src"]⟩ deepName = .ok deepPath := by
  have folder : blockedWorld.disk.resolve ⟨.relative, ["src"]⟩ = .ok ⟨.single, ["p", "src"]⟩ := rfl
  have inside : (Path.relativeTo? ⟨.single, ["p", "src"]⟩
      ⟨.single, "p" :: deepPath.parts⟩).isSome = true :=
    Path.relativeTo?_isSome.mpr ⟨rfl, _, rfl⟩
  have placed := place_of_resolve deepName_whole (sourcePath_deepName.symm ▸ resolve_deepPath)
    folder inside
  rwa [sourcePath_deepName] at placed

/-- The way to the over-long segment leads into the missing directory of the other one. -/
theorem blocked_deepPath :
    blockedWorld.disk.Blocked deepPath ⟨.relative, ["src", "a", String.ofList longSegment]⟩ where
  root := rfl
  onTheWay := ⟨["A.scala"], rfl⟩
  nonempty := by simp
  long := by decide +kernel
  spelled := by
    rw [Disk.textObstacle?, deepPath_clean]
    decide +kernel
  plain := by decide +kernel
  clear := by
    refine ⟨["src"], "a", [], ["p", "src"], ?_, rfl, ?_, ?_, ?_, ?_⟩
    · decide +kernel
    · decide +kernel
    · decide +kernel
    · rfl
    · decide +kernel

theorem planned_deepName : ∃ text, Planned (some ⟨.relative, ["src"]⟩) none deepName blockedWorld
    linkedWorkspace ⟨.relative, ["src"]⟩ deepPath text := by
  have packaged : linkedWorkspace.store.Packages blockedWorld.disk
      (linkedWorkspace.kindFor none) := ⟨by decide, by decide, by rintro _ ⟨⟩⟩
  obtain ⟨_, _, rendered⟩ := packaged.render (bindings deepName)
  exact ⟨_, ⟨rfl, deepName_accepted, placed_deepName⟩, rendered⟩

end DeepName

end Scaffold.Project
