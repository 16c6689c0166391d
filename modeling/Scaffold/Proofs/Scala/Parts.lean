import Mathlib.Algebra.Ring.Parity
import Scaffold.Scala.QualifiedName

/-!
# Parts between separators

Splitting looks at a whole text and carries along whether a quoted span is open; `AreParts` looks at
each part by itself.  Both describe the same lists: a text is split into parts that spell it, and
parts that meet the conditions are found again in the text that they spell.
-/

namespace Scaffold.Scala.QualifiedName

/-- Nowhere in the part does the separator stand behind an even number of back-quotes. -/
def Undivided (separator : Char) (part : List Char) : Prop :=
  ∀ before behind, part = before ++ separator :: behind → ¬ Even (before.count '\x60')

/-- What the parts of a text are like, each looked at by itself. -/
structure AreParts (separator : Char) (parts : List (List Char)) : Prop where
  undivided : ∀ part ∈ parts, Undivided separator part
  balanced : ∀ part ∈ parts.dropLast, Even (part.count '\x60')

/-- Whether a quoted span is open behind a text; `quoted` says whether one is open before it. -/
def isOpenAfter (quoted : Bool) (cs : List Char) : Bool :=
  cs.foldl (fun quoted c => quoted != (c == '\x60')) quoted

theorem isOpenAfter_cons (quoted : Bool) (c : Char) (cs : List Char) :
    isOpenAfter quoted (c :: cs) = isOpenAfter (quoted != (c == '\x60')) cs := rfl

/-- Only a back-quote opens or closes a span. -/
theorem bne_quote {c : Char} (different : c ≠ '\x60') (quoted : Bool) :
    (quoted != (c == '\x60')) = quoted := by
  rw [beq_false_of_ne different, Bool.bne_false]

/-- Every back-quote opens or closes a span. -/
theorem isOpenAfter_eq_self {quoted : Bool} {cs : List Char} :
    isOpenAfter quoted cs = quoted ↔ Even (cs.count '\x60') := by
  induction cs generalizing quoted with
  | nil => simp [isOpenAfter]
  | cons c cs ih =>
    rw [isOpenAfter_cons]
    by_cases quote : c = '\x60'
    · have turned : (quoted != (c == '\x60')) = !quoted := by simp [quote]
      have apart : isOpenAfter (!quoted) cs = quoted ↔ ¬ isOpenAfter (!quoted) cs = !quoted := by
        cases quoted <;> simp
      rw [turned, quote, List.count_cons_self, Nat.even_add_one, apart, ih]
    · rw [bne_quote quote, List.count_cons_of_ne quote, ih]

/-- Every separator in the text stands inside a quoted span; `quoted` says whether one is open
    before the text. -/
def Enclosed (separator : Char) (quoted : Bool) (cs : List Char) : Prop :=
  ∀ before behind, cs = before ++ separator :: behind → isOpenAfter quoted before = true

/-- The parts of a text before which a quoted span is open or not: every separator inside of a part
    is quoted, and none is behind a part. -/
def ArePartsFrom (separator : Char) (quoted : Bool) : List (List Char) → Prop
  | [] => False
  | [part] => Enclosed separator quoted part
  | part :: parts =>
    Enclosed separator quoted part ∧ isOpenAfter quoted part = false ∧
      ArePartsFrom separator false parts

section

variable {separator : Char} {quoted : Bool} {part rest : List Char} {parts : List (List Char)}

theorem enclosed_iff_undivided : Enclosed separator false part ↔ Undivided separator part := by
  refine forall₃_congr fun before behind spelled => ?_
  rw [← @isOpenAfter_eq_self false, Bool.not_eq_false]

theorem arePartsFrom_iff (some : parts ≠ []) :
    ArePartsFrom separator false parts ↔ AreParts separator parts := by
  induction parts with
  | nil => exact absurd rfl some
  | cons part parts ih =>
    cases parts with
    | nil =>
      rw [ArePartsFrom, enclosed_iff_undivided]
      exact ⟨fun undivided => ⟨by simpa using undivided, by simp⟩,
        fun are => are.undivided part List.mem_cons_self⟩
    | cons next more =>
      rw [ArePartsFrom, enclosed_iff_undivided, isOpenAfter_eq_self, ih (List.cons_ne_nil _ _)]
      · constructor
        · rintro ⟨undivided, balanced, are⟩
          exact ⟨List.forall_mem_cons.mpr ⟨undivided, are.undivided⟩,
            List.forall_mem_cons.mpr ⟨balanced, are.balanced⟩⟩
        · rintro ⟨undivided, balanced⟩
          rw [List.dropLast_cons_cons] at balanced
          obtain ⟨first, undivided⟩ := List.forall_mem_cons.mp undivided
          obtain ⟨closed, balanced⟩ := List.forall_mem_cons.mp balanced
          exact ⟨first, closed, undivided, balanced⟩
      · nofun

/-- What stands in a text stands in the text behind its first character. -/
theorem Enclosed.tail {c : Char} (enclosed : Enclosed separator quoted (c :: part)) :
    Enclosed separator (quoted != (c == '\x60')) part :=
  fun before behind spelled => enclosed (c :: before) behind (by rw [spelled, List.cons_append])

/-- A separator at the front of a text stands inside a quoted span. -/
theorem Enclosed.head (enclosed : Enclosed separator quoted (separator :: part)) :
    quoted = true :=
  enclosed [] part rfl

/-- A character may be put in front, unless it is a separator outside of quoted spans. -/
theorem Enclosed.cons {c : Char} (enclosed : Enclosed separator (quoted != (c == '\x60')) part)
    (inside : c = separator → quoted = true) : Enclosed separator quoted (c :: part) := by
  intro before behind spelled
  rcases List.cons_eq_append_iff.mp spelled with ⟨rfl, same⟩ | ⟨more, rfl, tail⟩
  · exact inside (List.cons.inj same).1.symm
  · exact enclosed more behind tail

/-- The first character of a text whose separators are all quoted does not separate. -/
theorem Enclosed.not_separates {c : Char} (enclosed : Enclosed separator quoted (c :: part))
    (plain : separator ≠ '\x60') :
    ¬ (some c = some separator ∧ (quoted != (c == '\x60')) = false) := by
  rintro ⟨same, outside⟩
  cases same
  rw [bne_quote plain, enclosed.head] at outside
  cases outside

/-- A text whose separators are all quoted is one part. -/
theorem splitFrom_of_enclosed (plain : separator ≠ '\x60')
    (enclosed : Enclosed separator quoted part) :
    splitFrom (some separator) quoted part = [part] := by
  induction part generalizing quoted with
  | nil => rfl
  | cons c part ih =>
    simp only [splitFrom, if_neg (enclosed.not_separates plain), ih enclosed.tail]

/-- A part ends at the first separator that is not quoted. -/
theorem splitFrom_append (plain : separator ≠ '\x60')
    (enclosed : Enclosed separator quoted part) (closed : isOpenAfter quoted part = false) :
    splitFrom (some separator) quoted (part ++ separator :: rest) =
      part :: splitFrom (some separator) false rest := by
  induction part generalizing quoted with
  | nil =>
    have outside : (quoted != (separator == '\x60')) = false := (bne_quote plain _).trans closed
    simp only [List.nil_append, splitFrom, outside, and_self, if_true]
  | cons c part ih =>
    simp only [List.cons_append, splitFrom, if_neg (enclosed.not_separates plain),
      ih enclosed.tail closed]

/-- Parts are found again in the text that they spell. -/
theorem splitFrom_intercalate (plain : separator ≠ '\x60')
    (are : ArePartsFrom separator quoted parts) :
    splitFrom (some separator) quoted ([separator].intercalate parts) = parts := by
  induction parts generalizing quoted with
  | nil => exact are.elim
  | cons part parts ih =>
    cases parts with
    | nil => simpa using splitFrom_of_enclosed plain are
    | cons next more =>
      obtain ⟨enclosed, closed, are⟩ := are
      rw [List.intercalate_cons_cons, List.append_assoc, List.singleton_append,
        splitFrom_append plain enclosed closed, ih are]

/-- Splitting yields parts. -/
theorem arePartsFrom_splitFrom (plain : separator ≠ '\x60') (quoted : Bool) (cs : List Char) :
    ArePartsFrom separator quoted (splitFrom (some separator) quoted cs) := by
  induction cs generalizing quoted with
  | nil =>
    intro before behind spelled
    simp at spelled
  | cons c cs ih =>
    have are := ih (quoted != (c == '\x60'))
    simp only [splitFrom]
    split
    · rename_i separates
      obtain ⟨same, outside⟩ := separates
      cases same
      have unquoted : quoted = false := (bne_quote plain quoted).symm.trans outside
      have nonempty := splitFrom_ne_nil (some separator) false cs
      rw [outside] at are ⊢
      obtain ⟨part, parts, split⟩ := List.exists_cons_of_ne_nil nonempty
      rw [split] at are ⊢
      refine ⟨?_, unquoted, are⟩
      intro before behind spelled
      simp at spelled
    · rename_i together
      have inside : c = separator → quoted = true := by
        rintro rfl
        by_contra unquoted
        rw [bne_quote plain] at together
        exact together ⟨rfl, Bool.not_eq_true _ |>.mp unquoted⟩
      -- The character joins the first part, which is the last one or has others behind it.
      cases split : splitFrom (some separator) (quoted != (c == '\x60')) cs with
      | nil => exact absurd split (splitFrom_ne_nil _ _ _)
      | cons part parts =>
        rw [split] at are
        cases parts with
        | nil => exact Enclosed.cons are inside
        | cons next more =>
          obtain ⟨enclosed, closed, are⟩ := are
          exact ⟨enclosed.cons inside, closed, are⟩

/-- The parts of a text spell it. -/
theorem intercalate_splitFrom (separator : Char) (quoted : Bool) (cs : List Char) :
    [separator].intercalate (splitFrom (some separator) quoted cs) = cs := by
  induction cs generalizing quoted with
  | nil => rfl
  | cons c cs ih =>
    have whole := ih (quoted != (c == '\x60'))
    have nonempty := splitFrom_ne_nil (some separator) (quoted != (c == '\x60')) cs
    obtain ⟨part, parts, split⟩ := List.exists_cons_of_ne_nil nonempty
    rw [split] at whole
    simp only [splitFrom, split]
    split
    · rename_i separates
      rw [List.intercalate_cons_cons, whole, Option.some.inj separates.1]
      rfl
    · cases parts with
      | nil => simpa using whole
      | cons next more =>
        rw [List.intercalate_cons_cons] at whole ⊢
        rw [← whole]
        rfl

end

/-- Splitting and joining are inverse: joining what a text is split into gives the text back, and,
    for every separator but the back-quote, which opens a span before it could separate, splitting
    yields parts and finds any parts again in the text that they spell. -/
theorem splitOn_join (separator : Char) (name : List Char) :
    [separator].intercalate (splitOn (some separator) name) = name ∧
    (separator ≠ '\x60' →
      AreParts separator (splitOn (some separator) name) ∧
      ∀ parts, parts ≠ [] → AreParts separator parts →
        splitOn (some separator) ([separator].intercalate parts) = parts) := by
  refine ⟨intercalate_splitFrom separator false name, fun plain => ⟨?_, ?_⟩⟩
  · have nonempty : splitOn (some separator) name ≠ [] := splitFrom_ne_nil _ _ _
    exact (arePartsFrom_iff nonempty).mp (arePartsFrom_splitFrom plain false name)
  · intro parts nonempty are
    exact splitFrom_intercalate plain ((arePartsFrom_iff nonempty).mpr are)

/-- A quoted dot, and a span that is not closed. -/
theorem splitOn_join_unclosed :
    AreParts '.' [['a'], "\x60b.c\x60".toList, [], "\x60d.e".toList] ∧
      ['.'].intercalate (splitOn (some '.') "a.\x60b.c\x60..\x60d.e".toList) =
        "a.\x60b.c\x60..\x60d.e".toList ∧
      splitOn (some '.') (['.'].intercalate [['a'], "\x60b.c\x60".toList, [], "\x60d.e".toList]) =
        [['a'], "\x60b.c\x60".toList, [], "\x60d.e".toList] := by
  obtain ⟨whole, inverse⟩ := splitOn_join '.' "a.\x60b.c\x60..\x60d.e".toList
  obtain ⟨are, found⟩ := inverse (by decide)
  have split : splitOn (some '.') "a.\x60b.c\x60..\x60d.e".toList =
      [['a'], "\x60b.c\x60".toList, [], "\x60d.e".toList] := by decide
  rw [split] at are
  exact ⟨are, whole, found _ (List.cons_ne_nil _ _) are⟩

/-- A back-quote separates only where it closes a span. -/
example : splitOn (some '\x60') "a\x60b\x60c".toList = ["a\x60b".toList, ['c']] := by decide

end Scaffold.Scala.QualifiedName
