import Scaffold.Project.SourcePath
import Scaffold.Proofs.Files.RealPath
import Scaffold.Proofs.Scala.NameGrammar

/-!
# Where source files are placed

The path of an accepted name is the folder with one component for each segment behind it: none is
`..`, and the name is no path by itself.  A placed name then leads into its folder, whatever links
are on the way, in the state in which it is written.
-/

namespace Scaffold.Project

open Files Scala QualifiedName

/-- The components of a type's source file below its source folder. -/
def sourceParts (package : List (List Char)) (type : List Char) : List String :=
  package.map String.ofList ++ [String.ofList (type ++ ".scala".toList)]

theorem sourceParts_ne_nil (package : List (List Char)) (type : List Char) :
    sourceParts package type ≠ [] := by
  simp [sourceParts]

section Spelled

variable {package : List (List Char)} {type : List Char} {name : String}

theorem dotsToSlashes_of_not_mem {cs : List Char} (undotted : '.' ∉ cs) :
    dotsToSlashes cs = cs := by
  unfold dotsToSlashes
  conv_rhs => rw [← List.map_id cs]
  apply List.map_congr_left
  intro c member
  rw [if_neg (ne_of_mem_of_not_mem member undotted), id]

theorem dotsToSlashes_append (cs more : List Char) :
    dotsToSlashes (cs ++ more) = dotsToSlashes cs ++ dotsToSlashes more := List.map_append

/-- Between slashes, the path of a spelled name has the segments of the name. -/
theorem splitOn_relativePath (plain : ∀ segment ∈ package, '.' ∉ segment) (undotted : '.' ∉ type)
    (whole : '/' ∉ qualify package type) :
    (relativePath (qualify package type)).splitOn '/' =
      package ++ [type ++ ".scala".toList] := by
  induction package with
  | nil =>
    rw [qualify_nil] at whole ⊢
    rw [relativePath, dotsToSlashes_of_not_mem undotted]
    apply List.splitOn_eq_singleton
    rw [List.mem_append, not_or]
    exact ⟨whole, by decide⟩
  | cons segment package ih =>
    rw [qualify_cons] at whole ⊢
    rw [List.mem_append, not_or] at whole
    have rest := ih (fun other member => plain other (List.mem_cons_of_mem _ member))
      (fun member => whole.2 (List.mem_cons_of_mem _ member))
    have front := dotsToSlashes_of_not_mem (plain segment List.mem_cons_self)
    rw [relativePath, dotsToSlashes_append, front, List.append_assoc]
    exact (List.splitOn_append_cons_self_of_not_mem whole.1 _).trans (congrArg _ rest)

/-- A name that is spelled by segments does not start with a dot. -/
theorem starts_of_spells (spelled : Spells package type name.toList) :
    ∃ c cs, name.toList = c :: cs ∧ c ≠ '.' := by
  rw [spelled.whole]
  cases package with
  | nil =>
    obtain ⟨c, cs, rfl⟩ := List.exists_cons_of_ne_nil (ne_nil_of_isTypeIdent spelled.typeValid)
    exact ⟨c, cs, rfl, (List.ne_and_not_mem_of_not_mem_cons spelled.undotted).1.symm⟩
  | cons segment package =>
    have plain := (spelled.plain segment List.mem_cons_self).1
    obtain ⟨c, cs, rfl⟩ : ∃ c cs, segment = c :: cs := by
      apply List.exists_cons_of_ne_nil
      exact ne_nil_of_isPackageIdent (spelled.packageValid segment List.mem_cons_self)
    refine ⟨c, cs ++ '.' :: qualify package type, by simp [qualify_cons], ?_⟩
    exact (List.ne_and_not_mem_of_not_mem_cons plain).1.symm

/-- The text of an accepted name's path does not start at a root. -/
theorem rootOf_relativePath (spelled : Spells package type name.toList)
    (whole : '/' ∉ name.toList) : Path.rootOf (relativePath name.toList) = .relative := by
  obtain ⟨c, cs, first, undotted⟩ := starts_of_spells spelled
  have slash : c ≠ '/' := by
    rw [first] at whole
    exact (List.ne_and_not_mem_of_not_mem_cons whole).1.symm
  simp [first, relativePath, dotsToSlashes, Path.rootOf, undotted, slash]

/-- The components of a source file are those of a proper path. -/
theorem proper_of_mem_sourceParts (spelled : Spells package type name.toList) {part : String}
    (member : part ∈ sourceParts package type) : part ≠ "" ∧ part ≠ "." ∧ part ≠ ".." := by
  rcases List.mem_append.mp member with packaged | last
  · obtain ⟨segment, segmentMember, rfl⟩ := List.mem_map.mp packaged
    have undotted := (spelled.plain segment segmentMember).1
    have nonempty := ne_nil_of_isPackageIdent (spelled.packageValid segment segmentMember)
    simp only [ne_eq, ← String.toList_inj, String.toList_ofList]
    refine ⟨nonempty, ?_, ?_⟩ <;> rintro rfl <;> exact undotted (by decide)
  · rw [List.mem_singleton] at last
    subst last
    simp only [ne_eq, ← String.toList_inj, String.toList_ofList]
    -- The ending alone is longer than any of the three.
    refine ⟨?_, ?_, ?_⟩ <;> intro equal <;> simpa using congrArg List.length equal

/-- The path of an accepted name is its folder with the segments of the name behind it. -/
theorem sourcePath_of_spells (folder : Path) (spelled : Spells package type name.toList)
    (whole : '/' ∉ name.toList) :
    sourcePath folder name = ⟨folder.root, folder.parts ++ sourceParts package type⟩ := by
  have parts : Path.partsOf (relativePath name.toList) = sourceParts package type := by
    have split := splitOn_relativePath (fun segment member => (spelled.plain segment member).1)
      spelled.undotted (spelled.whole ▸ whole)
    rw [← spelled.whole] at split
    rw [Path.partsOf, split, List.map_append]
    apply List.filter_eq_self.mpr
    intro part member
    have proper := proper_of_mem_sourceParts spelled member
    simp [proper.1, proper.2.1]
  rw [sourcePath, Path.ofString, String.toList_ofList, rootOf_relativePath spelled whole, parts,
    Path.join_relative]

theorem up_not_mem_sourceParts (spelled : Spells package type name.toList) :
    ".." ∉ sourceParts package type := by
  intro member
  exact (proper_of_mem_sourceParts spelled member).2.2 rfl

end Spelled

section Placed

variable {disk disk' : Disk} {folder path : Path} {name : String} {at_ : Location}

/-- What holds where a name has been placed. -/
theorem of_place_eq_ok (placed : place disk folder name = .ok path) :
    name.toList.any isSeparator = false ∧ path = sourcePath folder name ∧
      ∃ real realFolder, disk.resolve path = .ok real ∧ disk.resolve folder = .ok realFolder ∧
        (realFolder.relativeTo? real).isSome = true := by
  cases separated : name.toList.any isSeparator with
  | true =>
    simp [place, separated, throw, throwThe, MonadExceptOf.throw, bind, Except.bind] at placed
  | false =>
    cases resolved : disk.resolve (sourcePath folder name) with
    | error fault =>
      simp [place, separated, resolved, bind, Except.bind, Except.mapError] at placed
    | ok real =>
      cases resolvedFolder : disk.resolve folder with
      | error fault =>
        simp [place, separated, resolved, resolvedFolder, bind, Except.bind, Except.mapError]
          at placed
      | ok realFolder =>
        by_cases inside : (realFolder.relativeTo? real).isSome = true
        · simp [place, separated, resolved, resolvedFolder, inside, bind, Except.bind,
            Except.mapError, pure, Except.pure] at placed
          subst placed
          exact ⟨rfl, rfl, real, realFolder, resolved, rfl, inside⟩
        · simp [place, separated, resolved, resolvedFolder, inside, bind, Except.bind,
            Except.mapError, throw, throwThe, MonadExceptOf.throw] at placed

theorem place_of_resolve {real realFolder : Path}
    (separated : name.toList.any isSeparator = false)
    (resolved : disk.resolve (sourcePath folder name) = .ok real)
    (resolvedFolder : disk.resolve folder = .ok realFolder)
    (inside : (realFolder.relativeTo? real).isSome = true) :
    place disk folder name = .ok (sourcePath folder name) := by
  simp [place, separated, resolved, resolvedFolder, inside, bind, Except.bind, Except.mapError,
    pure, Except.pure]

/-- A placed name has no slash in it. -/
theorem slash_not_mem_of_place (placed : place disk folder name = .ok path) :
    '/' ∉ name.toList := by
  intro member
  have separates : name.toList.any isSeparator = true := List.any_eq_true.mpr ⟨'/', member, rfl⟩
  rw [(of_place_eq_ok placed).1] at separates
  cases separates

/-- The path of an accepted name that has been placed is its folder with the segments of the name
    behind it. -/
theorem path_of_place (accepted : nameObjection? name.toList = none)
    (placed : place disk folder name = .ok path) :
    path = ⟨folder.root, folder.parts ++
      sourceParts (packageSegments name.toList) (typeSegment name.toList)⟩ := by
  obtain ⟨-, equal, -⟩ := of_place_eq_ok placed
  exact equal.trans (sourcePath_of_spells folder (nameObjection?_eq_none.mp accepted)
    (slash_not_mem_of_place placed))

/-- The path of a placed name leads, links followed, strictly below its folder, on every disk with
    the same links on which there is a file at it. -/
theorem below_of_place {more : List String} {content : Content} (same : disk.SameLinks disk')
    (here : ".." ∉ disk.here) (placed : place disk folder name = .ok path)
    (spelled : path = ⟨folder.root, folder.parts ++ more⟩) (behind : more ≠ [])
    (located : disk'.locate true path = .ok at_)
    (file : disk'.tree.get? at_ = some (.file content)) :
    ∃ base, disk'.locate true folder = .ok base ∧ base <+: at_ ∧ base ≠ at_ := by
  obtain ⟨-, -, real, realFolder, resolved, resolvedFolder, inside⟩ := of_place_eq_ok placed
  obtain rfl := Disk.eq_of_resolve same here resolved located
  rw [spelled] at located
  obtain ⟨base, used, locatedFolder, onward⟩ := Disk.locate_append located
  obtain rfl := Disk.eq_of_resolve same here resolvedFolder locatedFolder
  rw [Path.relativeTo?_isSome] at inside
  refine ⟨base, locatedFolder, ?_, ?_⟩
  · exact inside.2
  · rintro rfl
    have directory := Tree.isDirectory_iff.mp (onward.isDirectory_of_ne_nil behind)
    rw [file] at directory
    cases directory

end Placed

end Scaffold.Project
