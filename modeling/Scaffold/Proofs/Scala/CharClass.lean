import Scaffold.Proofs.Text.Runs
import Scaffold.Scala.Ident

/-!
# Classes of characters

How the classes of characters lie to each other that tokens, package segments and scans of sources
are made of.  What can be told from general categories holds for all characters at once; white
space, the controls that may stand in Java identifiers and the operators of ASCII are checked one by
one.
-/

namespace Scaffold.Scala

open Text

variable {c : Char}

/-- The white space characters. -/
def blanks : List Char :=
  [9, 10, 11, 12, 13, 28, 29, 30, 31, 32, 0x85, 0xa0, 0x1680, 0x2000, 0x2001, 0x2002, 0x2003,
    0x2004, 0x2005, 0x2006, 0x2007, 0x2008, 0x2009, 0x200a, 0x2028, 0x2029, 0x202f, 0x205f,
    0x3000].map Char.ofNat

theorem mem_blanks (blank : isBlank c = true) : c ∈ blanks := by
  rw [← Char.ofNat_toNat c]
  refine List.mem_map_of_mem ?_
  unfold isBlank at blank
  generalize c.toNat = n at blank
  simp only [Bool.or_eq_true, Bool.and_eq_true, decide_eq_true_eq, beq_iff_eq] at blank
  simp only [List.mem_cons, List.mem_nil_iff, or_false]
  omega

/-- The categories of white space. -/
def blankCategories : List Category :=
  [.control, .spaceSeparator, .lineSeparator, .paragraphSeparator]

/-- The numbers of the runs in which there is white space beyond ASCII. -/
def blankRuns : List Nat := [0, 1, 1234, 1757, 1769, 1770, 1772, 1787, 2206]

/-- White space is made of controls and separators. -/
theorem category_of_isBlank (blank : isBlank c = true) : category c ∈ blankCategories := by
  -- Beyond ASCII the run is named, for the search in the whole table is long to check.
  have checked : (blanks.all fun c =>
      if c.toNat < 128 then blankCategories.contains (category c)
      else blankRuns.any fun i =>
        (runCategory? i c.toNat).any blankCategories.contains) = true := by decide +kernel
  have known := List.all_eq_true.mp checked c (mem_blanks blank)
  split at known
  · exact List.contains_iff_mem.mp known
  · rename_i beyond
    obtain ⟨i, -, kind⟩ := List.any_eq_true.mp known
    obtain ⟨kind, run, member⟩ := (Option.any_eq_true _ _).mp kind
    rw [category_of_run (Nat.le_of_not_lt beyond) run]
    exact List.contains_iff_mem.mp member

theorem not_mem_of_isBlank (blank : isBlank c = true) : c ∉ '_' :: '$' :: operatorChars := by
  have checked : (blanks.all fun c => !('_' :: '$' :: operatorChars).contains c) = true := by
    decide
  simpa using List.all_eq_true.mp checked c (mem_blanks blank)

/-- White space stands in no name, in no word and in no operator. -/
theorem isIdentPart_of_isBlank (blank : isBlank c = true) : isIdentPart c = false := by
  have kind := category_of_isBlank blank
  have marks := not_mem_of_isBlank blank
  simp only [blankCategories, List.mem_cons, List.mem_nil_iff, or_false, not_or] at kind marks
  rw [isIdentPart, isIdentStart, isLetter]
  rcases kind with kind | kind | kind | kind <;> simp [kind, marks, Category.isLetter]

theorem isWordChar_of_isBlank (blank : isBlank c = true) : isWordChar c = false := by
  have kind := category_of_isBlank blank
  have marks := not_mem_of_isBlank blank
  simp only [blankCategories, List.mem_cons, List.mem_nil_iff, or_false, not_or] at kind marks
  rw [isWordChar]
  rcases kind with kind | kind | kind | kind <;> simp [kind, marks, Category.isAlphanumeric]

theorem isOperatorChar_of_isBlank (blank : isBlank c = true) : isOperatorChar c = false := by
  have kind := category_of_isBlank blank
  have marks := not_mem_of_isBlank blank
  simp only [blankCategories, List.mem_cons, List.mem_nil_iff, or_false] at kind
  simp only [List.mem_cons, not_or] at marks
  rw [isOperatorChar]
  rcases kind with kind | kind | kind | kind <;> simp [kind, marks]

theorem isIdentPart_of_isIdentStart (start : isIdentStart c = true) : isIdentPart c = true := by
  rw [isIdentPart, start, Bool.true_or]

/-- Classes that are apart are so the other way round. -/
theorem apart_symm {p q : Char → Bool} (apart : p c = true → q c = false) (member : q c = true) :
    p c = false := by
  cases other : p c with
  | false => rfl
  | true =>
    rw [apart other] at member
    cases member

theorem isBlank_of_isIdentPart (part : isIdentPart c = true) : isBlank c = false :=
  apart_symm isIdentPart_of_isBlank part

theorem isBlank_of_isWordChar (word : isWordChar c = true) : isBlank c = false :=
  apart_symm isWordChar_of_isBlank word

theorem isBlank_of_isOperatorChar (operator : isOperatorChar c = true) : isBlank c = false :=
  apart_symm isOperatorChar_of_isBlank operator

/-- The digits. -/
def digits : List Char := (List.range' 48 10).map Char.ofNat

theorem mem_digits (digit : isDigit c = true) : c ∈ digits := by
  rw [← Char.ofNat_toNat c]
  refine List.mem_map_of_mem ?_
  simp only [isDigit, Bool.and_eq_true, decide_eq_true_eq, Char.le_def, UInt32.le_iff_toNat_le]
    at digit
  exact List.mem_range'_1.mpr ⟨digit.1, Nat.lt_succ_of_le digit.2⟩

/-- The quotes and the delimiters. -/
def marks : List Char := ['\x60', '"', '\'', '(', ')', '[', ']', '\x7b', '\x7d', '.', ',', ';']

/-- The controls that Java ignores in identifiers. -/
def ignoredControls : List Char :=
  (List.range 0x09 ++ List.range' 0x0e 0x0e ++ List.range' 0x7f 0x21).map Char.ofNat

/-- What has to be looked up in the table of categories. -/
structure Lookups : Prop where
  digits : (digits.all fun c => isIdentPart c && !isIdentStart c) = true
  openings : (['\x60', '/'].all fun c => !isIdentStart c) = true
  joiners : (['_', '$'].all fun c => isJavaPart c) = true
  operators : (operatorChars.all fun c => !isJavaPart c) = true
  controls : (ignoredControls.all fun c => !isOperatorChar c) = true
  marks : (marks.all fun c => !isIdentPart c && !isOperatorChar c) = true

theorem lookups : Lookups := by
  constructor <;> decide +kernel

/-- A digit may stand inside a name, but opens none. -/
theorem isIdentPart_of_isDigit (digit : isDigit c = true) :
    isIdentPart c = true ∧ isIdentStart c = false := by
  simpa using List.all_eq_true.mp lookups.digits c (mem_digits digit)

theorem isDigit_of_isIdentStart (start : isIdentStart c = true) : isDigit c = false :=
  apart_symm (fun digit => (isIdentPart_of_isDigit digit).2) start

/-- Neither a quoted name nor a comment begins where a plain name does. -/
theorem ne_of_isIdentStart (start : isIdentStart c = true) : c ≠ '\x60' ∧ c ≠ '/' := by
  have checked := lookups.openings
  constructor
  · rintro rfl
    simp [start] at checked
  · rintro rfl
    simp [start] at checked

/-- Whether a text is a plain name, without operators, quotes and white space. -/
def isPlainName : List Char → Bool
  | [] => false
  | c :: cs => isIdentStart c && cs.all isIdentPart

theorem exists_of_isPlainName {name : List Char} (plain : isPlainName name = true) :
    ∃ c cs, name = c :: cs ∧ isIdentStart c = true ∧ ∀ d ∈ cs, isIdentPart d = true := by
  cases name with
  | nil => cases plain
  | cons c cs =>
    rw [isPlainName, Bool.and_eq_true, List.all_eq_true] at plain
    exact ⟨c, cs, rfl, plain⟩

theorem isIdentPart_of_isPlainName {name : List Char} (plain : isPlainName name = true) :
    ∀ c ∈ name, isIdentPart c = true := by
  obtain ⟨first, others, rfl, start, part⟩ := exists_of_isPlainName plain
  exact List.forall_mem_cons.mpr ⟨isIdentPart_of_isIdentStart start, part⟩

/-- The characters of names are those of words and the dollar sign. -/
theorem isWordChar_of_isIdentPart (part : isIdentPart c = true) :
    isWordChar c = true ∨ c = '$' := by
  simp only [isIdentPart, isIdentStart, isLetter, Bool.or_eq_true, beq_iff_eq] at part
  rcases part with ((rfl | dollar) | letter) | digit
  · exact .inl rfl
  · exact .inr dollar
  · refine .inl ?_
    rw [isWordChar, Bool.or_eq_true]
    refine .inr ?_
    cases kind : category c <;> rw [kind] at letter <;> first | rfl | cases letter
  · rw [isWordChar, digit]
    exact .inl (Bool.or_true _)

theorem isOperatorChar_of_mem_ignoredControls (member : c ∈ ignoredControls) :
    isOperatorChar c = false := by
  simpa using List.all_eq_true.mp lookups.controls c member

theorem isJavaPart_of_mem_operatorChars (member : c ∈ operatorChars) : isJavaPart c = false := by
  simpa using List.all_eq_true.mp lookups.operators c member

theorem mem_ignoredControls
    (control : c.toNat ≤ 0x08 ∨ 0x0e ≤ c.toNat ∧ c.toNat ≤ 0x1b ∨ 0x7f ≤ c.toNat ∧ c.toNat ≤ 0x9f) :
    c ∈ ignoredControls := by
  rw [← Char.ofNat_toNat c]
  refine List.mem_map_of_mem ?_
  simp only [List.mem_append, List.mem_range, List.mem_range'_1]
  omega

/-- No operator stands in a Java identifier. -/
theorem isOperatorChar_of_isJavaPart (part : isJavaPart c = true) : isOperatorChar c = false := by
  cases operator : isOperatorChar c with
  | false => rfl
  | true =>
    by_cases basic : c ∈ operatorChars
    · rw [isJavaPart_of_mem_operatorChars basic] at part
      cases part
    · have symbol : category c = .mathSymbol ∨ category c = .otherSymbol := by
        simpa [isOperatorChar, basic] using operator
      have control : c.toNat ≤ 0x08 ∨ 0x0e ≤ c.toNat ∧ c.toNat ≤ 0x1b ∨
          0x7f ≤ c.toNat ∧ c.toNat ≤ 0x9f := by
        rcases symbol with symbol | symbol <;>
          simpa [isJavaPart, isJavaStart, symbol, Category.isLetter, or_assoc] using part
      rw [isOperatorChar_of_mem_ignoredControls (mem_ignoredControls control)] at operator
      cases operator

/-- The characters of plain names may stand in Java identifiers. -/
theorem isJavaPart_of_isIdentPart (part : isIdentPart c = true) : isJavaPart c = true := by
  have joiners := List.all_eq_true.mp lookups.joiners
  simp only [isIdentPart, isIdentStart, isLetter, Bool.or_eq_true, beq_iff_eq] at part
  rcases part with ((rfl | rfl) | letter) | digit
  · exact joiners _ (by simp)
  · exact joiners _ (by simp)
  · simp [isJavaPart, isJavaStart, letter]
  · simp [isJavaPart, digit]

/-- No character is one of plain names and of operators. -/
theorem isOperatorChar_of_isIdentPart (part : isIdentPart c = true) : isOperatorChar c = false :=
  isOperatorChar_of_isJavaPart (isJavaPart_of_isIdentPart part)

theorem isIdentPart_of_isOperatorChar (operator : isOperatorChar c = true) :
    isIdentPart c = false :=
  apart_symm isOperatorChar_of_isIdentPart operator

theorem isIdentStart_of_isOperatorChar (operator : isOperatorChar c = true) :
    isIdentStart c = false :=
  apart_symm (fun start => isOperatorChar_of_isIdentPart (isIdentPart_of_isIdentStart start))
    operator

theorem isDigit_of_isOperatorChar (operator : isOperatorChar c = true) : isDigit c = false :=
  apart_symm (fun digit => isOperatorChar_of_isIdentPart (isIdentPart_of_isDigit digit).1) operator

/-- No mark stands in a name or in an operator. -/
theorem not_mem_marks (named : isIdentPart c = true ∨ isOperatorChar c = true) : c ∉ marks := by
  intro mark
  obtain ⟨noPart, noOperator⟩ : isIdentPart c = false ∧ isOperatorChar c = false := by
    simpa using List.all_eq_true.mp lookups.marks c mark
  rcases named with part | operator
  · rw [noPart] at part
    cases part
  · rw [noOperator] at operator
    cases operator

theorem delimiterKind?_of_not_mem (noMark : c ∉ marks) : delimiterKind? c = none := by
  simp only [marks, List.mem_cons, List.mem_nil_iff, or_false, not_or] at noMark
  unfold delimiterKind?
  split <;> simp_all

end Scaffold.Scala
