import Mathlib.Data.List.TakeWhile
import Scaffold.Proofs.Scala.NameGrammar
import Scaffold.Proofs.Template.Packaged

/-!
# Texts of new source files

The text that a built-in kind of file is rendered to is spelled by the segments of the name: a
package clause, unless there is no package, and the type between the two texts of a frame.
-/

namespace Scaffold.Template

open Files Scala QualifiedName

/-- The package clause at the front of a source file. -/
def packageClause (package : List (List Char)) : List Char :=
  "package ".toList ++ (['.'].intercalate package ++ ['\n', '\n'])

/-- What a source file begins with: a package clause, unless there is no package. -/
def packageHead (package : List (List Char)) : List Char :=
  if package = [] then [] else packageClause package

/-- The text of a source file with a type between the two texts of a frame. -/
def sourceText (package : List (List Char)) (type : List Char) (frame : String × String) :
    List Char :=
  packageHead package ++ (frame.1.toList ++ (type ++ frame.2.toList))

section Names

variable {package : List (List Char)} {type : List Char} {name : String}

/-- The last dot of a name is the one in front of its type. -/
theorem cutAtLastDot_qualify (undotted : '.' ∉ type) :
    cutAtLastDot (qualify package type) = (['.'].intercalate package, type) := by
  have solid : ∀ c ∈ type.reverse, (c != '.') = true := by
    intro c member
    simpa using ne_of_mem_of_not_mem (List.mem_reverse.mp member) undotted
  cases package with
  | nil =>
    rw [qualify_nil, cutAtLastDot, List.takeWhile_eq_self_iff.mpr solid, List.reverse_reverse,
      Nat.sub_self]
    rfl
  | cons segment package =>
    rw [← intercalate_append (List.cons_ne_nil segment package), cutAtLastDot, List.reverse_append,
      List.reverse_cons, List.append_assoc, List.takeWhile_append_of_pos solid]
    simp only [List.singleton_append, List.takeWhile_cons, bne_self_eq_false, Bool.false_eq_true,
      if_false, List.append_nil, List.reverse_reverse, List.length_append, List.length_cons]
    rw [show ∀ m n : Nat, m + (n + 1) - n - 1 = m by omega, List.take_left]

/-- A name is cut in front of its type segment if no dot stands in that. -/
theorem cutAtLastDot_segments {name : List Char} (undotted : '.' ∉ typeSegment name) :
    cutAtLastDot name = (['.'].intercalate (packageSegments name), typeSegment name) := by
  conv => lhs; rw [← qualify_segments name]
  exact cutAtLastDot_qualify undotted

theorem valueOf_bindings (accepted : nameObjection? name.toList = none) :
    valueOf (bindings name) "package_name" =
        String.ofList (['.'].intercalate (packageSegments name.toList)) ∧
      valueOf (bindings name) "type_name" = String.ofList (typeSegment name.toList) := by
  have spelled := nameObjection?_eq_none.mp accepted
  rw [bindings, cutAtLastDot_segments spelled.undotted, valueOf, valueOf]
  by_cases bare : String.ofList (['.'].intercalate (packageSegments name.toList)) = "" <;>
    by_cases empty : String.ofList (typeSegment name.toList) = "" <;>
    simp [bare, empty, List.lookup_cons]

/-- The package of an accepted name is spelled by no characters only where there is none. -/
theorem intercalate_eq_nil (named : ∀ segment ∈ package, segment ≠ []) :
    ['.'].intercalate package = [] ↔ package = [] := by
  cases package with
  | nil => simp
  | cons segment package =>
    have first := named segment List.mem_cons_self
    cases package <;> simp [List.intercalate_cons_cons, first]

/-- The texts that are left of a built-in template are the text that the segments of an accepted
    name spell. -/
theorem flatten_packagedTexts (accepted : nameObjection? name.toList = none)
    (frame : String × String) :
    (packagedTexts (bindings name) frame.1 frame.2).flatten =
      sourceText (packageSegments name.toList) (typeSegment name.toList) frame := by
  obtain ⟨package, type⟩ := valueOf_bindings accepted
  have spelled := nameObjection?_eq_none.mp accepted
  have named := intercalate_eq_nil fun segment member =>
    ne_nil_of_isPackageIdent (spelled.packageValid segment member)
  unfold packagedTexts sourceText packageHead packageClause
  simp only [package, type, String.toList_ofList]
  by_cases bare : packageSegments name.toList = []
  · simp [bare]
  · have header : String.ofList (['.'].intercalate (packageSegments name.toList)) ≠ "" := by
      simpa [← String.toList_inj] using fun empty => bare (named.mp empty)
    simp [bare, header]

end Names

/-- A built-in kind of file that no file of the project replaces is rendered for an accepted name to
    the text that the segments of the name spell. -/
theorem Store.Packages.render_accepted {store : Store} {disk : Disk} {kind name : String}
    (packaged : store.Packages disk kind) (accepted : nameObjection? name.toList = none) :
    ∃ frame ∈ frames, (store.render disk kind (bindings name)).1 = .ok (String.ofList
      (sourceText (packageSegments name.toList) (typeSegment name.toList) frame)) := by
  obtain ⟨frame, framed, rendered⟩ := packaged.render_frame (bindings name)
  rw [flatten_packagedTexts accepted frame] at rendered
  exact ⟨frame, framed, rendered⟩

end Scaffold.Template
