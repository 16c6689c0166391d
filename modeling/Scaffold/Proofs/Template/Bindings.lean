import Scaffold.Proofs.Template.SourceText

/-!
# The variables of a name

A template is filled with the two parts of a name around its last dot, wherever that stands; the
segments of the name end at the dots outside of quotes.  `bindings_segments` says that these agree
for every name in which no dot follows a back-quote, so that a new file declares the type that was
judged, in the package that was.
-/

namespace Scaffold.Template

open Scala QualifiedName

/-- The variables of a name are its package segments with dots between them and its type segment,
    each of them unless it is empty, and there are no others. -/
structure BindsSegments (name : String) : Prop where
  distinct : ((bindings name).map Prod.fst).Nodup
  bound : ∀ key value, (bindings name).lookup key = some value ↔ value ≠ "" ∧
    (key = "package_name" ∧
        value = String.ofList (['.'].intercalate (packageSegments name.toList)) ∨
      key = "type_name" ∧ value = String.ofList (typeSegment name.toList))

variable {name key value : String}

section Lookup

/-- Of two texts those that are not empty are found under their keys. -/
theorem lookup_filter_pair {first second a b : String} (apart : first ≠ second) :
    ([(first, a), (second, b)].filter (·.2 ≠ "")).lookup key = some value ↔
      value ≠ "" ∧ (key = first ∧ value = a ∨ key = second ∧ value = b) := by
  by_cases bare : a = "" <;> by_cases empty : b = "" <;> grind

/-- The variables of a name are the parts around its last dot that are not empty. -/
theorem lookup_bindings :
    (bindings name).lookup key = some value ↔ value ≠ "" ∧
      (key = "package_name" ∧ value = String.ofList (cutAtLastDot name.toList).1 ∨
        key = "type_name" ∧ value = String.ofList (cutAtLastDot name.toList).2) :=
  lookup_filter_pair (by decide)

theorem nodup_bindings (name : String) : ((bindings name).map Prod.fst).Nodup := by
  have named : ["package_name", "type_name"].Nodup := by decide
  exact named.sublist (List.filter_sublist.map Prod.fst)

end Lookup

section Segments

/-- The type behind the last dot holds no dot. -/
theorem dot_not_mem_cutAtLastDot (name : List Char) : '.' ∉ (cutAtLastDot name).2 := by
  intro member
  simpa using List.mem_takeWhile_imp (List.mem_reverse.mp member)

/-- The variables of a name are its segments exactly if no dot stands in its type segment. -/
theorem bindsSegments_iff : BindsSegments name ↔ '.' ∉ typeSegment name.toList := by
  constructor
  · intro binds dotted
    have filled : String.ofList (typeSegment name.toList) ≠ "" := by
      intro empty
      rw [← String.toList_inj, String.toList_ofList] at empty
      rw [empty] at dotted
      cases dotted
    have bound := (binds.bound "type_name" _).mpr ⟨filled, .inr ⟨rfl, rfl⟩⟩
    obtain ⟨-, ⟨wrong, -⟩ | ⟨-, same⟩⟩ := lookup_bindings.mp bound
    · simp at wrong
    · rw [String.ofList_injective same] at dotted
      exact dot_not_mem_cutAtLastDot _ dotted
  · intro undotted
    refine ⟨nodup_bindings name, fun key value => ?_⟩
    rw [lookup_bindings, cutAtLastDot_segments undotted]

/-- The type of a name is found among its variables, if there is one. -/
theorem BindsSegments.type_name (binds : BindsSegments name)
    (typed : typeSegment name.toList ≠ []) :
    (bindings name).lookup "type_name" = some (String.ofList (typeSegment name.toList)) := by
  have filled : String.ofList (typeSegment name.toList) ≠ "" := by simpa using typed
  exact (binds.bound _ _).mpr ⟨filled, .inr ⟨rfl, rfl⟩⟩

/-- The package of a name is found among its variables, if there is one. -/
theorem BindsSegments.package_name (binds : BindsSegments name)
    (named : ∀ segment ∈ packageSegments name.toList, segment ≠ []) :
    (bindings name).lookup "package_name" =
      if packageSegments name.toList = [] then none
      else some (String.ofList (['.'].intercalate (packageSegments name.toList))) := by
  split
  · rename_i bare
    rw [Option.eq_none_iff_forall_ne_some]
    intro value found
    obtain ⟨filled, ⟨-, same⟩ | ⟨wrong, -⟩⟩ := (binds.bound _ _).mp found
    · rw [bare] at same
      exact filled same
    · simp at wrong
  · rename_i packaged
    have filled : String.ofList (['.'].intercalate (packageSegments name.toList)) ≠ "" := by
      simpa using mt (intercalate_eq_nil named).mp packaged
    exact (binds.bound _ _).mpr ⟨filled, .inl ⟨rfl, rfl⟩⟩

end Segments

/-- The variables of a name in which no dot follows a back-quote are its segments.  Of an accepted
    name they are the segment that was judged as the type and, if there is a package, the text in
    front of it, which are the name again with a dot between them. -/
theorem bindings_segments (name : String) :
    (hasDotAfterQuote name.toList = false → BindsSegments name) ∧
    (nameObjection? name.toList = none →
      ∃ type, (bindings name).lookup "type_name" = some type ∧
        type.toList = typeSegment name.toList ∧ isTypeIdent type.toList = true ∧
        match (bindings name).lookup "package_name" with
        | some package => package ++ "." ++ type = name
        | none => type = name) := by
  refine ⟨fun undotted => bindsSegments_iff.mpr (not_mem_typeSegment undotted), fun accepted => ?_⟩
  have spelled := nameObjection?_eq_none.mp accepted
  have binds : BindsSegments name := bindsSegments_iff.mpr spelled.undotted
  have named : ∀ segment ∈ packageSegments name.toList, segment ≠ [] :=
    fun segment member => ne_nil_of_isPackageIdent (spelled.packageValid segment member)
  refine ⟨_, binds.type_name (ne_nil_of_isTypeIdent spelled.typeValid), String.toList_ofList, ?_, ?_⟩
  · rw [String.toList_ofList]
    exact spelled.typeValid
  · have whole := qualify_segments name.toList
    rw [binds.package_name named]
    by_cases bare : packageSegments name.toList = []
    · rw [bare, qualify_nil] at whole
      rw [if_pos bare, whole, String.ofList_toList]
    · rw [← intercalate_append bare] at whole
      rw [if_neg bare]
      simp [← String.toList_inj, whole]

/-- A name with empty segments, and one whose type is quoted. -/
theorem bindings_segments_quoted :
    (hasDotAfterQuote "a..A".toList = false ∧ BindsSegments "a..A") ∧
    nameObjection? "a.b.\x60x y\x60".toList = none ∧
      (bindings "a.b.\x60x y\x60").lookup "type_name" = some "\x60x y\x60" ∧
      (bindings "a.b.\x60x y\x60").lookup "package_name" = some "a.b" ∧
      isTypeIdent "\x60x y\x60".toList = true ∧
      "a.b" ++ "." ++ "\x60x y\x60" = "a.b.\x60x y\x60" := by
  have undotted : hasDotAfterQuote "a..A".toList = false := by decide
  have accepted : nameObjection? "a.b.\x60x y\x60".toList = none := by decide +kernel
  have type : (bindings "a.b.\x60x y\x60").lookup "type_name" = some "\x60x y\x60" := by
    decide +kernel
  have package : (bindings "a.b.\x60x y\x60").lookup "package_name" = some "a.b" := by
    decide +kernel
  obtain ⟨_, found, -, valid, whole⟩ := (bindings_segments "a.b.\x60x y\x60").2 accepted
  cases found.symm.trans type
  rw [package] at whole
  exact ⟨⟨undotted, (bindings_segments "a..A").1 undotted⟩, accepted, type, package, valid, whole⟩

/-- A quoted dot separates no segments, but the name is cut there. -/
example : bindings "a.\x60b.c\x60" = [("package_name", "a.\x60b"), ("type_name", "c\x60")] ∧
    segments "a.\x60b.c\x60".toList = [['a'], "\x60b.c\x60".toList] := by decide +kernel

end Scaffold.Template
