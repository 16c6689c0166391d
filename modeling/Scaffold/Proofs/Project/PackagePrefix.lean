import Mathlib.Data.List.Basic
import Scaffold.Proofs.Project.Placement

/-!
# Paths and package prefixes

The path of a source file tells the name of its type: the package prefix of the path, completed by
the type, is the name again, so that no two names have one path.
-/

namespace Scaffold.Project

open Files Scala QualifiedName

variable {disk : Disk} {folder path : Path} {name : String} {package : List (List Char)}
  {type : List Char}

/-- The components of a source file tell the segments that they were made of. -/
theorem sourceParts_injective {otherPackage : List (List Char)} {otherType : List Char}
    (equal : sourceParts package type = sourceParts otherPackage otherType) :
    package = otherPackage ∧ type = otherType := by
  obtain ⟨packages, files⟩ := List.append_inj' equal rfl
  have injective : Function.Injective String.ofList := fun _ _ => String.ofList_injective
  refine ⟨injective.list_map packages, ?_⟩
  exact List.append_cancel_right (injective (List.singleton_inj.mp files))

/-- The package prefix of a file in its source folder, completed by the type, is the name of the
    type in the package. -/
theorem packagePrefix_append (folder : Path) (named : ∀ segment ∈ package, segment ≠ [])
    (type : List Char) :
    packagePrefix ⟨folder.root, folder.parts ++ sourceParts package type⟩ [folder] false ++
      String.ofList type = String.ofList (qualify package type) := by
  have begins : folder.beginsWith ⟨folder.root, folder.parts ++ sourceParts package type⟩ = true :=
    List.isPrefixOf_iff_prefix.mpr (List.prefix_append _ _)
  simp only [packagePrefix, List.find?_cons, begins, List.drop_left, Bool.false_eq_true, if_false]
  rw [sourceParts, List.dropLast_concat]
  have joined : (".".intercalate (package.map String.ofList)).toList =
      ['.'].intercalate package := by
    simp [String.toList_intercalate, Function.comp_def]
  cases package with
  | nil => rfl
  | cons segment package =>
    have nonempty : ".".intercalate ((segment :: package).map String.ofList) ≠ "" := by
      rw [ne_eq, ← String.toList_inj, joined]
      have first := named segment List.mem_cons_self
      cases package <;> simp [List.intercalate_cons_cons, first]
    rw [if_neg nonempty, ← String.toList_inj]
    simp only [String.toList_append, String.toList_ofList, joined,
      ← intercalate_append (List.cons_ne_nil segment package) type]
    simp

/-- Paths and package prefixes are inverse: the path of a name has the segments of the name behind
    its folder, its package prefix completed by the type segment is the name again, and it is the
    path of no other name. -/
theorem path_of_name (accepted : nameObjection? name.toList = none)
    (placed : place disk folder name = .ok path) :
    path.root = folder.root ∧
      (∃ package type, segments name.toList = package ++ [type] ∧
        path.parts = folder.parts ++ package.map String.ofList ++
          [String.ofList (type ++ ".scala".toList)]) ∧
      packagePrefix path [folder] false ++ String.ofList (typeSegment name.toList) = name ∧
      ∀ disk' other otherPath, nameObjection? other.toList = none →
        place disk' folder other = .ok otherPath → other ≠ name → otherPath ≠ path := by
  have spelled := nameObjection?_eq_none.mp accepted
  obtain rfl := path_of_place accepted placed
  refine ⟨rfl, ⟨packageSegments name.toList, typeSegment name.toList, ?_, ?_⟩, ?_, ?_⟩
  · conv_lhs => rw [spelled.whole, segments_qualify spelled.plain spelled.undotted]
  · rw [sourceParts, List.append_assoc]
  · have named : ∀ segment ∈ packageSegments name.toList, segment ≠ [] :=
      fun segment member => ne_nil_of_isPackageIdent (spelled.packageValid segment member)
    rw [packagePrefix_append folder named, qualify_segments, String.ofList_toList]
  · intro disk' other otherPath otherAccepted otherPlaced different same
    obtain rfl := path_of_place otherAccepted otherPlaced
    have parts := List.append_cancel_left (congrArg Path.parts same)
    obtain ⟨packages, types⟩ := sourceParts_injective parts
    apply different
    rw [← String.toList_inj, ← qualify_segments other.toList, packages, types, qualify_segments]

/-- A disk with a source folder that is a link. -/
def linkedSource : Disk := ⟨⟨[(["src"], .link "lib"), (["lib"], .directory)]⟩, []⟩

/-- A type whose name is quoted and holds a space. -/
theorem path_of_name_quoted :
    nameObjection? "a.b.\x60x y\x60".toList = none ∧
      place linkedSource ⟨.single, ["src"]⟩ "a.b.\x60x y\x60" =
        .ok ⟨.single, ["src", "a", "b", "\x60x y\x60.scala"]⟩ ∧
      packagePrefix ⟨.single, ["src", "a", "b", "\x60x y\x60.scala"]⟩ [⟨.single, ["src"]⟩] false ++
        String.ofList (typeSegment "a.b.\x60x y\x60".toList) = "a.b.\x60x y\x60" ∧
      ∀ disk' other otherPath, nameObjection? other.toList = none →
        place disk' ⟨.single, ["src"]⟩ other = .ok otherPath → other ≠ "a.b.\x60x y\x60" →
          otherPath ≠ ⟨.single, ["src", "a", "b", "\x60x y\x60.scala"]⟩ := by
  have accepted : nameObjection? "a.b.\x60x y\x60".toList = none := by decide +kernel
  have found : (place linkedSource ⟨.single, ["src"]⟩ "a.b.\x60x y\x60").toOption =
      some ⟨.single, ["src", "a", "b", "\x60x y\x60.scala"]⟩ := by decide +kernel
  cases placed : place linkedSource ⟨.single, ["src"]⟩ "a.b.\x60x y\x60" with
  | error fault =>
    rw [placed] at found
    cases found
  | ok path =>
    rw [placed] at found
    cases found
    obtain ⟨-, -, inverse, only⟩ := path_of_name accepted placed
    exact ⟨accepted, rfl, inverse, only⟩

end Scaffold.Project
