import Scaffold.Proofs.Scala.NameEnd
import Scaffold.Proofs.Scala.Reading

/-!
# Nothing is read across the end of a line

A token or comment that is complete at the end of a text stays as it is when a further line follows:
no scanner takes in the line feed, and none decides otherwise for seeing it.  The one gap that is
open at the end of a text, a line comment, is closed by it.
-/

namespace Scaffold.Scala

open Text

/-- The cut of a text that a further line follows. -/
def Cut.withLine (cut : Cut) (line : List Char) : Cut := (cut.1, cut.2 ++ '\n' :: line)

variable {cs line : List Char} {kind : TokenKind} {cut : Cut}

@[simp] theorem Cut.withLine_fst (cut : Cut) (line : List Char) : (cut.withLine line).1 = cut.1 :=
  rfl

@[simp] theorem Cut.withLine_snd (cut : Cut) (line : List Char) :
    (cut.withLine line).2 = cut.2 ++ '\n' :: line := rfl

@[simp] theorem isDigit_lineFeed : isDigit '\n' = false := by decide

@[simp] theorem isHexDigit_lineFeed : isHexDigit '\n' = false := by decide

@[simp] theorem isIdentPart_lineFeed : isIdentPart '\n' = false := by decide

@[simp] theorem isOperatorChar_lineFeed : isOperatorChar '\n' = false := by decide

@[simp] theorem isBlank_lineFeed : isBlank '\n' = true := by decide

/-- A mark without a line feed begins where it began. -/
theorem prefix_line (mark : List Char) (absent : '\n' ∉ mark) (cs line : List Char) :
    mark <+: cs ++ '\n' :: line ↔ mark <+: cs := by
  induction mark generalizing cs with
  | nil => simp
  | cons c mark ih =>
    obtain ⟨different, absent⟩ := List.ne_and_not_mem_of_not_mem_cons absent
    cases cs with
    | nil => simp [Ne.symm different]
    | cons d cs => simp [List.cons_prefix_cons, ih absent]

theorem cutWhile_line {p : Char → Bool} (ends : p '\n' = false) (cs line : List Char) :
    cutWhile p (cs ++ '\n' :: line) = (cutWhile p cs).withLine line := by
  apply cutWhile_before
  rintro - _ ⟨⟩
  exact ends

/-- A name ends at the end of its line. -/
theorem endsName_lineFeed (line : List Char) : EndsName ('\n' :: line) :=
  endsName_cons isIdentPart_lineFeed isOperatorChar_lineFeed

theorem cutWord_line (c : Char) (cs line : List Char) :
    cutWord c (cs ++ '\n' :: line) = (cutWord c cs).withLine line :=
  cutWord_before c cs (endsName_lineFeed line)

theorem head?_line {c : Char} (different : c ≠ '\n') (cs line : List Char) :
    (cs ++ '\n' :: line).head? = some c ↔ cs.head? = some c := by
  cases cs with
  | nil => simp [different.symm]
  | cons => rfl

theorem cutOperator_line (cs line : List Char) :
    cutOperator (cs ++ '\n' :: line) = (cutOperator cs).withLine line :=
  cutOperator_before cs (endsName_lineFeed line)

theorem cutOne_line (choices : List Char) (absent : '\n' ∉ choices) (cs line : List Char) :
    cutOne choices (cs ++ '\n' :: line) = (cutOne choices cs).withLine line := by
  cases cs with
  | nil => simp [cutOne, Cut.withLine, absent]
  | cons c cs =>
    simp only [List.cons_append, cutOne]
    split <;> rfl

theorem cutFraction_line (cs line : List Char) :
    cutFraction (cs ++ '\n' :: line) = (cutFraction cs).withLine line := by
  match cs with
  | [] => simp [cutFraction, Cut.withLine]
  | [c] =>
    by_cases point : c = '.'
    · simp [point, cutFraction, Cut.withLine]
    · simp [point, cutFraction, Cut.withLine]
  | c :: d :: cs =>
    by_cases point : c = '.'
    · subst point
      simp only [List.cons_append, cutFraction, cutWhile_line isDigit_lineFeed]
      split <;> rfl
    · simp [point, cutFraction, Cut.withLine]

theorem cutQuotedName_line (read : cutQuotedName cs = .ok (kind, cut)) :
    cutQuotedName (cs ++ '\n' :: line) = .ok (kind, cut.withLine line) :=
  cutQuotedName_before read _

theorem cutHexDigits_line {mark : Char} (read : cutHexDigits mark cs = .ok (kind, cut)) :
    cutHexDigits mark (cs ++ '\n' :: line) = .ok (kind, cut.withLine line) := by
  simp only [cutHexDigits] at read
  split at read
  · cases read
  · rename_i digits
    cases read
    simp only [cutHexDigits, cutWhile_line isHexDigit_lineFeed, Cut.withLine_fst,
      Cut.withLine_snd, if_neg digits, cutOne_line ['l', 'L'] (by decide)]
    rfl

theorem cutExponent_line (read : cutExponent cs = .ok cut) :
    cutExponent (cs ++ '\n' :: line) = .ok (cut.withLine line) := by
  simp only [cutExponent] at read
  simp only [cutExponent, cutOne_line ['e', 'E'] (by decide),
    cutOne_line ['+', '-'] (by decide), cutWhile_line isDigit_lineFeed,
    Cut.withLine_fst, Cut.withLine_snd]
  split at read
  · rename_i mark
    cases read
    rw [if_pos mark]
    rfl
  · rename_i mark
    split at read
    · cases read
    · rename_i digits
      cases read
      rw [if_neg mark, if_neg digits]
      rfl

theorem cutDecimal_line (read : cutDecimal cs = .ok (kind, cut)) :
    cutDecimal (cs ++ '\n' :: line) = .ok (kind, cut.withLine line) := by
  simp only [cutDecimal] at read
  simp only [cutDecimal, cutWhile_line isDigit_lineFeed, cutFraction_line, Cut.withLine_fst,
    Cut.withLine_snd]
  split at read
  · cases read
  rename_i exponent rest exponentRead
  rw [cutExponent_line exponentRead]
  simp only [Cut.withLine, cutOne_line ['f', 'F', 'd', 'D'] (by decide)]
  split at read
  · rename_i suffixRead
    rw [suffixRead]
    cases read
    rfl
  · rename_i suffixRead
    simp only [suffixRead, cutOne_line ['l', 'L'] (by decide), Cut.withLine]
    split at read
    · rename_i whole
      cases read
      rw [if_pos whole]
    · rename_i whole
      cases read
      rw [if_neg whole]

theorem cutNumber_eq_cutDecimal
    (decimal : ∀ c rest, cs = '0' :: c :: rest → ¬ (c = 'x' ∨ c = 'X')) :
    cutNumber cs = cutDecimal cs := by
  unfold cutNumber
  split
  · rw [if_neg (decimal _ _ rfl)]
  · rfl

theorem cutNumber_line (read : cutNumber cs = .ok (kind, cut)) :
    cutNumber (cs ++ '\n' :: line) = .ok (kind, cut.withLine line) := by
  by_cases hexadecimal : ∃ c rest, cs = '0' :: c :: rest ∧ (c = 'x' ∨ c = 'X')
  · obtain ⟨c, rest, rfl, mark⟩ := hexadecimal
    simp only [cutNumber, if_pos mark] at read
    simp only [List.cons_append, cutNumber, if_pos mark]
    exact cutHexDigits_line read
  · have decimal : ∀ c rest, cs = '0' :: c :: rest → ¬ (c = 'x' ∨ c = 'X') :=
      fun c rest whole mark => hexadecimal ⟨c, rest, whole, mark⟩
    rw [cutNumber_eq_cutDecimal decimal] at read
    rw [cutNumber_eq_cutDecimal, cutDecimal_line read]
    intro c rest whole mark
    have absent : '\n' ∉ ['0', c] := by rcases mark with rfl | rfl <;> decide
    obtain ⟨more, begins⟩ := (prefix_line _ absent cs line).mp (whole ▸ ⟨rest, rfl⟩)
    exact decimal c more begins.symm mark

theorem cutEscape_line {cs line : List Char} {cut : Cut} (read : cutEscape cs = .ok cut) :
    cutEscape (cs ++ '\n' :: line) = .ok (cut.withLine line) := by
  cases cs with
  | nil => cases read
  | cons c cs =>
    simp only [cutEscape] at read
    simp only [List.cons_append, cutEscape, cutWhile_line (p := (· == 'u')) (by decide),
      Cut.withLine_fst, Cut.withLine_snd]
    split at read
    · rename_i unicode
      split at read
      · rename_i digits
        cases read
        have long : 4 ≤ (cutWhile (· == 'u') cs).2.length := by
          have taken := digits.1
          rw [List.length_take] at taken
          omega
        rw [if_pos unicode, List.take_append_of_le_length long, if_pos digits,
          List.drop_append_of_le_length long]
        rfl
      · cases read
    · rename_i plain
      split at read
      · rename_i known
        cases read
        rw [if_neg plain, if_pos known]
        rfl
      · cases read

/-- An escape is read as a whole, and the text behind it as the rest of the string. -/
theorem cutStringBody_escape {escape rest : List Char}
    (escaped : cutEscape cs = .ok (escape, rest)) :
    cutStringBody ('\\' :: cs) =
      (cutStringBody rest).map fun cut => ('\\' :: escape ++ cut.1, cut.2) := by
  rw [cutStringBody, if_neg (by decide), if_pos rfl]
  split
  · rename_i problem failed
    cases escaped.symm.trans failed
  · rename_i escape' rest' found
    cases escaped.symm.trans found
    rfl

theorem cutStringBody_line (read : cutStringBody cs = .ok cut) :
    cutStringBody (cs ++ '\n' :: line) = .ok (cut.withLine line) := by
  fun_induction cutStringBody cs generalizing cut with
  | case1 => cases read
  | case2 => cases read
  | case3 => cases read
  | case4 cs escape rest escaped ends ih =>
    obtain ⟨body, inner, rfl⟩ := map_eq_ok.mp read
    have front : cutEscape (cs ++ '\n' :: line) = .ok (escape, rest ++ '\n' :: line) :=
      cutEscape_line escaped
    rw [List.cons_append, cutStringBody_escape front, ih inner]
    rfl
  | case5 cs ends plain =>
    cases read
    rw [List.cons_append, cutStringBody, if_neg ends, if_neg plain, if_pos rfl]
    rfl
  | case6 c cs ends plain quote ih =>
    obtain ⟨body, inner, rfl⟩ := map_eq_ok.mp read
    rw [List.cons_append, cutStringBody, if_neg ends, if_neg plain, if_neg quote, ih inner]
    rfl

theorem cutMultiLineBody_line (read : cutMultiLineBody cs = some cut) :
    cutMultiLineBody (cs ++ '\n' :: line) = some (cut.withLine line) := by
  fun_induction cutMultiLineBody cs generalizing cut with
  | case1 cs quotes rest found =>
    cases read
    simp only [List.cons_append, cutMultiLineBody, found,
      cutWhile_line (p := (· == '"')) (by decide)]
    rfl
  | case2 c cs different ih =>
    obtain ⟨inner, innerRead, rfl⟩ := Option.map_eq_some_iff.mp read
    rw [List.cons_append, cutMultiLineBody, ih innerRead]
    · rfl
    · intro more quote whole
      obtain ⟨rest, begins⟩ := (prefix_line ['"', '"'] (by decide) cs line).mp
        (whole ▸ ⟨more, rfl⟩)
      exact different rest quote begins.symm
  | case3 => cases read

theorem cutString_line (read : cutString cs = .ok (kind, cut)) :
    cutString (cs ++ '\n' :: line) = .ok (kind, cut.withLine line) := by
  unfold cutString at read
  split at read
  · rename_i rest
    split at read
    · rename_i body behind bodyRead
      cases read
      simp only [List.cons_append, cutString, cutMultiLineBody_line bodyRead]
      rfl
    · cases read
  · rename_i single
    obtain ⟨inner, body, same⟩ := map_eq_ok.mp read
    cases same
    unfold cutString
    split
    · rename_i rest whole
      obtain ⟨more, begins⟩ := (prefix_line ['"', '"'] (by decide) cs line).mp
        (whole ▸ ⟨rest, rfl⟩)
      exact absurd begins.symm (single more)
    · rw [cutStringBody_line body]
      rfl

theorem closeCharacter_line {opened : List Char}
    (read : closeCharacter opened cs = .ok (kind, cut)) :
    closeCharacter opened (cs ++ '\n' :: line) = .ok (kind, cut.withLine line) := by
  unfold closeCharacter at read
  split at read
  · cases read
    rfl
  · cases read

theorem cutCharacter_line (read : cutCharacter cs = .ok (kind, cut)) :
    cutCharacter (cs ++ '\n' :: line) = .ok (kind, cut.withLine line) := by
  cases cs with
  | nil => cases read
  | cons c cs =>
    simp only [cutCharacter] at read
    simp only [List.cons_append, cutCharacter]
    split at read
    · cases read
    rename_i proper
    rw [if_neg proper]
    split at read
    · rename_i escape
      rw [if_pos escape]
      split at read
      · cases read
      · rename_i escaped
        rw [cutEscape_line escaped]
        exact closeCharacter_line read
    · rename_i plain
      rw [if_neg plain]
      exact closeCharacter_line read

theorem cutSingleQuoted_line (read : cutSingleQuoted cs = .ok (kind, cut)) :
    cutSingleQuoted (cs ++ '\n' :: line) = .ok (kind, cut.withLine line) := by
  cases cs with
  | nil => cases read
  | cons c cs =>
    have unclosed : ((cs ++ '\n' :: line).head? != some '\'') = (cs.head? != some '\'') := by
      rw [Bool.eq_iff_iff, bne_iff_ne, bne_iff_ne, ne_eq, ne_eq, head?_line (by decide)]
    have word := cutWhile_line isIdentPart_lineFeed (c :: cs) line
    simp only [cutSingleQuoted] at read
    rw [List.cons_append] at word
    simp only [List.cons_append, cutSingleQuoted, unclosed, word, Cut.withLine_fst,
      Cut.withLine_snd]
    split at read
    · rename_i symbol
      rw [if_pos symbol]
      cases read
      rfl
    · rename_i character
      rw [if_neg character]
      exact cutCharacter_line read

theorem startsNumber_line (c : Char) (cs line : List Char) :
    startsNumber c (cs ++ '\n' :: line) = startsNumber c cs := by
  cases cs <;> simp [startsNumber]

/-- A token is read the same where a further line follows. -/
theorem cutToken_line {c : Char} (read : cutToken c cs = .ok (kind, cut)) :
    cutToken c (cs ++ '\n' :: line) = .ok (kind, cut.withLine line) := by
  -- How a token begins is seen before the line feed, so both texts take the same branch.
  unfold cutToken at read ⊢
  rw [startsNumber_line]
  split at read
  · rename_i quoted
    rw [if_pos quoted]
    exact cutQuotedName_line read
  rename_i unquoted
  rw [if_neg unquoted]
  split at read
  · rename_i word
    rw [if_pos word, cutWord_line]
    cases read
    rfl
  rename_i noWord
  rw [if_neg noWord]
  split at read
  · rename_i number
    rw [if_pos number]
    exact cutNumber_line read
  rename_i noNumber
  rw [if_neg noNumber]
  split at read
  · rename_i string
    rw [if_pos string]
    exact cutString_line read
  rename_i noString
  rw [if_neg noString]
  split at read
  · rename_i single
    rw [if_pos single]
    exact cutSingleQuoted_line read
  rename_i noSingle
  rw [if_neg noSingle]
  split at read
  · cases read
    rfl
  split at read
  · rename_i operator
    have whole := cutOperator_line (c :: cs) line
    rw [List.cons_append] at whole
    rw [if_pos operator, whole]
    cases read
    rfl
  · cases read

end Scaffold.Scala
