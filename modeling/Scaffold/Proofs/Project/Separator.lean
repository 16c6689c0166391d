import Scaffold.Proofs.Project.Recreation
import Scaffold.Proofs.Project.Refusal
import Scaffold.Proofs.Template.SourceText

/-!
# Names with a separator

A name that is spelled by the grammar may hold a separator of path components all the same: in back
quotes, in a comment or in an operator.  It is never created, but what it is refused for depends:
before the separator is looked for, the name is taken as a path and asked for as a type, and where
one of the two is there, the name counts as taken.
-/

namespace Scaffold.Project

open Files Plugin Workspace Scala.QualifiedName

variable {folder : Option Path} {name : String} {w : World} {ws : Workspace} {target : Path}
  {found : Bool}

/-- A name with a separator has no place in any folder. -/
theorem place_of_separator {disk : Disk} (separated : name.toList.any isSeparator = true) :
    place disk target name = .error (.misplaced (.separator name)) := by
  rw [place, if_pos separated]
  rfl

/-- What a name with a separator is refused for, once the symbols are ready. -/
def separatorError (ready : Workspace) (disk : Disk) (name : String) (found : Bool) : ErrorInfo :=
  if found then rejectionError name .fileExists
  else if ready.knows disk name then rejectionError name .typeExists
  else misplacementError name (.separator name)

/-- A name with a separator in its type segment is neither validated nor created, and nothing is
    written, whatever the files, the plugins and the symbols are.  It counts as invalid exactly if
    nothing is at the path that it spells and the symbols do not have it, and as taken otherwise. -/
theorem refuses_separator (scala : ws.settings.isScala = true)
    (chosen : (targetFolder folder w ws).1 = .ok (some target))
    (accepted : Scala.nameObjection? name.toList = none)
    (separated : ∃ c ∈ typeSegment name.toList, isSeparator c = true)
    (tested : w.disk.exists? (sourcePath target name) = .ok found) :
    Refuses folder name w ws
        ((ws.readied? w.disk).map fun ready => separatorError ready w.disk name found) ∧
      ∀ ready, ws.readied? w.disk = .ok ready →
        ((separatorError ready w.disk name found).code = "INVALID_NAME" ↔
          found = false ∧ ready.knows w.disk name = false) ∧
        ((separatorError ready w.disk name found).code = "NAME_COLLISION" ↔
          found = true ∨ ready.knows w.disk name = true) := by
  obtain ⟨c, inside, separates⟩ := separated
  have misplaced : place w.disk target name = .error (.misplaced (.separator name)) :=
    place_of_separator (List.any_eq_true.mpr ⟨c, mem_of_mem_typeSegment inside, separates⟩)
  refine ⟨?_, ?_⟩
  · apply refuses_of_refusal?
    rw [refusal?, if_neg (by simp [scala]), chosen]
    dsimp only
    rcases prepared : ws.readied? w.disk with fault | ready
    · rw [verdict_of_unready scala accepted prepared]
      rfl
    · rw [verdict_of_ready scala accepted prepared tested, misplaced]
      dsimp only [Except.map, separatorError]
      cases found <;> cases ready.knows w.disk name <;> rfl
  · intro ready _
    cases found with
    | true => simp [separatorError, rejectionError, rejectionCode, Scala.Rejection.kind]
    | false =>
      cases known : ready.knows w.disk name <;>
        simp [separatorError, known, rejectionError, misplacementError, rejectionCode,
          Scala.Rejection.kind]

/-- A slash between back quotes is a separator in the type segment. -/
example : typeSegment "org.\x60a/b\x60".toList = "\x60a/b\x60".toList := by decide +kernel

/-- A quoted name with a slash in it is invalid in a folder where nothing is. -/
theorem refuses_separator_quoted :
    twoFolderWorkspace.settings.isScala = true ∧
      Scala.nameObjection? "\x60a/b\x60".toList = none ∧
      (∃ c ∈ typeSegment "\x60a/b\x60".toList, isSeparator c = true) ∧
      twoFolderWorld.disk.exists? (sourcePath (sourceFolder "main") "\x60a/b\x60") = .ok false ∧
      Refuses (some (sourceFolder "main")) "\x60a/b\x60" twoFolderWorld twoFolderWorkspace
        (.ok ⟨"INVALID_NAME", "Type name contains a path separator: '\x60a/b\x60'",
          [("name", .str "\x60a/b\x60")]⟩) := by
  have scala : twoFolderWorkspace.settings.isScala = true := by decide +kernel
  have accepted : Scala.nameObjection? "\x60a/b\x60".toList = none := by decide +kernel
  have separated : ∃ c ∈ typeSegment "\x60a/b\x60".toList, isSeparator c = true :=
    ⟨'/', by decide +kernel, by decide⟩
  have free : twoFolderWorld.disk.exists? (sourcePath (sourceFolder "main") "\x60a/b\x60") =
      .ok false := eq_ok_of_toOption (by decide +kernel)
  have message : (Misplacement.separator "\x60a/b\x60").message =
      "Type name contains a path separator: '\x60a/b\x60'" := by decide +kernel
  have unknown : (twoFolderWorkspace.readied? twoFolderWorld.disk).toOption.map
      (fun ready => ready.knows twoFolderWorld.disk "\x60a/b\x60") = some false := by decide +kernel
  refine ⟨scala, accepted, separated, free, ?_⟩
  have chosen : (targetFolder (some (sourceFolder "main")) twoFolderWorld twoFolderWorkspace).1 =
      .ok (some (sourceFolder "main")) := rfl
  have refused := (refuses_separator scala chosen accepted separated free).1
  cases prepared : twoFolderWorkspace.readied? twoFolderWorld.disk with
  | error fault =>
    rw [prepared] at unknown
    cases unknown
  | ok ready =>
    rw [prepared] at unknown refused
    have unknown : ready.knows twoFolderWorld.disk "\x60a/b\x60" = false := Option.some.inj unknown
    simpa [Except.map, separatorError, unknown, misplacementError, rejectionCode, message] using
      refused

/-- The project with two source folders, with a file where a name with a slash leads. -/
def slashedWorld : World :=
  { twoFolderWorld with disk := ⟨⟨twoFolderWorld.disk.tree.nodes ++
      [(["p", "src", "main", "scala", "\x60a"], .directory),
        (["p", "src", "main", "scala", "\x60a", "b\x60.scala"], .file (.text ""))]⟩, ["p"]⟩ }

/-- Where a file is at the path that it spells, a name with a separator counts as taken. -/
theorem validateName_slashed :
    Scala.nameObjection? "\x60a/b\x60".toList = none ∧
      (∃ c ∈ typeSegment "\x60a/b\x60".toList, isSeparator c = true) ∧
      ∃ r after, validateName (some (sourceFolder "main")) "\x60a/b\x60" slashedWorld
        twoFolderWorkspace = (.ok r, after) ∧
          r.error.map (·.code) = some "NAME_COLLISION" := by
  have accepted : Scala.nameObjection? "\x60a/b\x60".toList = none := by decide +kernel
  have code : (validateName (some (sourceFolder "main")) "\x60a/b\x60" slashedWorld
      twoFolderWorkspace).1.toOption.map (fun r => r.error.map (·.code)) =
        some (some "NAME_COLLISION") := by decide +kernel
  refine ⟨accepted, ⟨'/', by decide +kernel, by decide⟩, ?_⟩
  rcases validated : validateName (some (sourceFolder "main")) "\x60a/b\x60" slashedWorld
    twoFolderWorkspace with ⟨fault | r, after⟩
  · rw [validated] at code
    cases code
  · rw [validated] at code
    exact ⟨r, after, rfl, Option.some.inj code⟩

end Scaffold.Project
