import Scaffold.Proofs.Scala.Reading
import Scaffold.Proofs.Scala.Segments
import Scaffold.Scala.Verdict

/-!
# The grammar of qualified names

A name is accepted exactly if it is spelled by valid package segments and a valid type name
without a dot, and then in one way only.  An objection to a package segment is about the leftmost
one that is not valid.
-/

namespace Scaffold.Scala

open QualifiedName

/-- A dot stands in no Java identifier. -/
theorem isJavaPart_dot : isJavaPart '.' = false := by decide

/-- A back-quote stands in no Java identifier. -/
theorem isJavaPart_quote : isJavaPart '\x60' = false := by decide

/-- Every character of a package segment may stand inside a Java identifier. -/
theorem isJavaPart_of_mem {segment : List Char} {c : Char} (valid : isPackageIdent segment = true)
    (member : c ∈ segment) : isJavaPart c = true := by
  simp only [isPackageIdent, Bool.and_eq_true] at valid
  cases segment with
  | nil => cases member
  | cons first more =>
    simp only [isJavaIdent, Bool.and_eq_true, List.all_eq_true] at valid
    rcases List.mem_cons.mp member with equal | member
    · exact equal ▸ isJavaPart_of_isJavaStart valid.1.1
    · exact valid.1.2 c member

theorem not_mem_of_isPackageIdent {segment : List Char} {c : Char}
    (valid : isPackageIdent segment = true) (outside : isJavaPart c = false) : c ∉ segment := by
  intro member
  rw [isJavaPart_of_mem valid member] at outside
  cases outside

/-- A package segment is not empty. -/
theorem ne_nil_of_isPackageIdent {segment : List Char} (valid : isPackageIdent segment = true) :
    segment ≠ [] := by
  rintro rfl
  simp [isPackageIdent, isJavaIdent] at valid

/-- A type name is not empty. -/
theorem ne_nil_of_isTypeIdent {type : List Char} (valid : isTypeIdent type = true) : type ≠ [] := by
  rintro rfl
  simp [isTypeIdent, isSingleIdent, Text.trim_nil, tokenize_nil] at valid

/-- `name` is spelled by the segments of a package and a type, each of them valid. -/
structure Spells (package : List (List Char)) (type name : List Char) : Prop where
  packageValid : ∀ segment ∈ package, isPackageIdent segment = true
  typeValid : isTypeIdent type = true
  undotted : '.' ∉ type
  whole : name = qualify package type

namespace Spells

variable {package : List (List Char)} {type name : List Char}

/-- No segment of the package holds a mark that matters to splitting. -/
theorem plain (spelled : Spells package type name) :
    ∀ segment ∈ package, '.' ∉ segment ∧ '\x60' ∉ segment := by
  intro segment member
  have valid := spelled.packageValid segment member
  exact ⟨not_mem_of_isPackageIdent valid isJavaPart_dot,
    not_mem_of_isPackageIdent valid isJavaPart_quote⟩

theorem packageSegments_eq (spelled : Spells package type name) :
    packageSegments name = package := by
  rw [spelled.whole, packageSegments_qualify spelled.plain spelled.undotted]

theorem typeSegment_eq (spelled : Spells package type name) : typeSegment name = type := by
  rw [spelled.whole, typeSegment_qualify spelled.plain spelled.undotted]

/-- A name is spelled in at most one way. -/
theorem unique {otherPackage : List (List Char)} {otherType : List Char}
    (spelled : Spells package type name) (other : Spells otherPackage otherType name) :
    package = otherPackage ∧ type = otherType :=
  ⟨spelled.packageSegments_eq.symm.trans other.packageSegments_eq,
    spelled.typeSegment_eq.symm.trans other.typeSegment_eq⟩

theorem undotted_after_quote (spelled : Spells package type name) :
    hasDotAfterQuote name = false := by
  rw [spelled.whole]
  exact hasDotAfterQuote_qualify (fun segment member => (spelled.plain segment member).2)
    spelled.undotted

end Spells

theorem segmentsObjection?_eq_none {name : List Char} :
    segmentsObjection? name = none ↔
      (∀ segment ∈ packageSegments name, isPackageIdent segment = true) ∧
        isTypeIdent (typeSegment name) = true := by
  unfold segmentsObjection?
  cases found : (packageSegments name).find? (!isPackageIdent ·) with
  | none =>
    have valid : ∀ segment ∈ packageSegments name, isPackageIdent segment = true := by
      simpa using List.find?_eq_none.mp found
    simpa using fun _ => valid
  | some segment =>
    have invalid : isPackageIdent segment = false := by simpa using List.find?_some found
    simp only [reduceCtorEq, false_iff]
    rintro ⟨valid, -⟩
    rw [valid segment (List.mem_of_find?_eq_some found)] at invalid
    cases invalid

/-- A name meets no objection exactly if its own segments spell it. -/
theorem nameObjection?_eq_none {name : List Char} :
    nameObjection? name = none ↔ Spells (packageSegments name) (typeSegment name) name := by
  constructor
  · intro accepted
    simp only [nameObjection?, typeObjection?] at accepted
    split at accepted
    · cases accepted
    split at accepted
    · cases accepted
    rename_i undotted
    split at accepted
    · cases accepted
    obtain ⟨package, type⟩ := segmentsObjection?_eq_none.mp accepted
    exact ⟨package, type, not_mem_typeSegment (by simpa using undotted),
      (qualify_segments name).symm⟩
  · intro spelled
    have type : typeSegment name ≠ [] := ne_nil_of_isTypeIdent spelled.typeValid
    have named : name ≠ [] := by
      rintro rfl
      exact type rfl
    simp only [nameObjection?, typeObjection?, if_neg named, spelled.undotted_after_quote,
      if_neg type, Bool.false_eq_true, if_false]
    exact segmentsObjection?_eq_none.mpr ⟨spelled.packageValid, spelled.typeValid⟩

/-- Every objection of the judgement of names is to their input. -/
theorem kind_of_nameObjection? {name : List Char} {why : Rejection}
    (rejected : nameObjection? name = some why) : why.kind = .invalidInput := by
  simp only [nameObjection?, typeObjection?, segmentsObjection?] at rejected
  split at rejected
  · cases rejected; rfl
  split at rejected
  · cases rejected; rfl
  split at rejected
  · cases rejected; rfl
  split at rejected
  · cases rejected; rfl
  split at rejected
  · cases rejected
  · cases rejected; rfl

/-- An objection to a package segment is to the leftmost one that is not valid. -/
theorem leftmost_of_invalidPackage {name : List Char} {segment : String}
    (rejected : nameObjection? name = some (.invalidPackage segment)) :
    ∃ before behind, packageSegments name = before ++ segment.toList :: behind ∧
      (∀ other ∈ before, isPackageIdent other = true) ∧
      isPackageIdent segment.toList = false := by
  simp only [nameObjection?, typeObjection?, segmentsObjection?] at rejected
  split at rejected
  · cases rejected
  split at rejected
  · cases rejected
  split at rejected
  · cases rejected
  split at rejected
  · rename_i first found
    cases rejected
    obtain ⟨invalid, before, behind, whole, valid⟩ := List.find?_eq_some_iff_append.mp found
    refine ⟨before, behind, by simpa using whole, ?_, by simpa using invalid⟩
    intro other member
    simpa using valid other member
  · split at rejected <;> cases rejected

/-- Only the objection to a package segment is worded like one. -/
theorem eq_invalidPackage_of_message {why : Rejection} {segment : String}
    (worded : why.message = "'" ++ segment ++ "' is not a valid package name") :
    why = .invalidPackage segment := by
  have spelled := congrArg String.toList worded
  cases why with
  | invalidPackage other =>
    simp only [Rejection.message, String.toList_append] at spelled
    have equal := List.append_cancel_left (List.append_cancel_right spelled)
    rw [String.toList_inj.mp equal]
  | invalidType other =>
    -- Both wordings end in a word and " name", and the words differ.
    have ending := congrArg (fun cs => cs.reverse.take 10) spelled
    simp [Rejection.message] at ending
  | _ =>
    have beginning := congrArg List.head? spelled
    simp [Rejection.message] at beginning

/-- The grammar of qualified names: a name meets no objection exactly if it is spelled by valid
    package segments and a valid type name without a dot, and it is spelled in one way only.
    Every other name is rejected for its input, and an objection that is worded about a package
    segment is about the leftmost one that is not valid. -/
theorem nameObjection?_grammar (name : List Char) :
    (nameObjection? name = none ↔ ∃ package type, Spells package type name) ∧
    (∀ package type otherPackage otherType, Spells package type name →
      Spells otherPackage otherType name → package = otherPackage ∧ type = otherType) ∧
    (∀ why, nameObjection? name = some why → why.kind = .invalidInput ∧
      ∀ segment, why.message = "'" ++ segment ++ "' is not a valid package name" →
        ∃ before behind, packageSegments name = before ++ segment.toList :: behind ∧
          (∀ other ∈ before, isPackageIdent other = true) ∧
          isPackageIdent segment.toList = false) := by
  refine ⟨⟨?_, ?_⟩, ?_, ?_⟩
  · intro accepted
    exact ⟨_, _, nameObjection?_eq_none.mp accepted⟩
  · rintro ⟨package, type, spelled⟩
    rw [nameObjection?_eq_none, spelled.packageSegments_eq, spelled.typeSegment_eq]
    exact spelled
  · intro package type otherPackage otherType spelled other
    exact spelled.unique other
  · intro why rejected
    refine ⟨kind_of_nameObjection? rejected, ?_⟩
    intro segment worded
    apply leftmost_of_invalidPackage
    rw [rejected, eq_invalidPackage_of_message worded]

end Scaffold.Scala
