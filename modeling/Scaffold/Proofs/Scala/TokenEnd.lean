import Mathlib.Data.List.Basic
import Scaffold.Proofs.Scala.TokenGrammar

/-!
# Tokens without the text behind them

Where a token ends is decided by the first characters of the text behind it.  A token is read the
same where a part of that text is cut off, even all of it, as long as the cut does not go through
the mark that opens a comment there: only an operator would go on at the half of a mark.
-/

namespace Scaffold.Scala

variable {cs word part rear text : List Char} {kind : TokenKind}

/-- What is left of a text if its end is cut off behind what was read. -/
theorem eq_append_of_cut (whole : text ++ (part ++ rear) = cs ++ rear) : cs = text ++ part := by
  rw [← List.append_assoc] at whole
  exact (List.append_cancel_right whole).symm

section Runs

theorem cutWhile_front {p : Char → Bool} (read : cutWhile p (cs ++ rear) = (word, part ++ rear)) :
    cutWhile p cs = (word, part) := by
  have whole := cutWhile_append p (cs ++ rear)
  have inside := cutWhile_sound p (cs ++ rear)
  have stop := cutWhile_stop p (cs ++ rear)
  rw [read] at whole inside stop
  rw [eq_append_of_cut whole]
  apply cutWhile_append_stop inside
  intro c head
  exact stop c (List.mem_head?_append_of_mem_head? head)

theorem cutOne_front {choices : List Char}
    (read : cutOne choices (cs ++ rear) = (word, part ++ rear)) :
    cutOne choices cs = (word, part) := by
  have whole := cutOne_append choices (cs ++ rear)
  rw [read] at whole
  have front : cs = word ++ part := eq_append_of_cut whole
  cases cs with
  | nil =>
    obtain ⟨rfl, rfl⟩ := List.append_eq_nil_iff.mp front.symm
    rfl
  | cons c cs =>
    rw [List.cons_append, cutOne] at read
    rw [cutOne]
    split at read
    · rename_i choice
      obtain ⟨rfl, behind⟩ := Prod.mk.inj read
      rw [if_pos choice, List.append_cancel_right behind]
    · rename_i other
      obtain ⟨rfl, -⟩ := Prod.mk.inj read
      rw [if_neg other, front, List.nil_append]

end Runs

section Names

theorem cutWord_front {c : Char} (read : cutWord c (cs ++ rear) = (word, part ++ rear)) :
    cutWord c cs = (word, part) := by
  rcases first : cutWhile isIdentPart (cs ++ rear) with ⟨parts, rest⟩
  simp only [cutWord, first] at read
  split at read
  · rename_i underscore
    rcases second : cutWhile isOperatorChar rest with ⟨operators, last⟩
    have behind := cutWhile_append isOperatorChar rest
    rw [second] at read behind
    obtain ⟨rfl, rfl⟩ := Prod.mk.inj read
    rw [← behind, ← List.append_assoc] at first second
    simp only [cutWord, cutWhile_front first, if_pos underscore, cutWhile_front second]
  · rename_i noUnderscore
    obtain ⟨rfl, rfl⟩ := Prod.mk.inj read
    simp only [cutWord, cutWhile_front first, if_neg noUnderscore]

/-- The cut between `part` and `rear` does not go through the mark of a comment that begins with
    `part`. -/
def KeepsMark (part rear : List Char) : Prop :=
  part = ['/'] → rear.head? ≠ some '/' ∧ rear.head? ≠ some '*'

theorem cutOperator_front (kept : KeepsMark part rear)
    (read : cutOperator (cs ++ rear) = (word, part ++ rear)) : cutOperator cs = (word, part) := by
  have whole := cutOperator_append (cs ++ rear)
  rw [read] at whole
  have front : cs = word ++ part := eq_append_of_cut whole
  induction cs generalizing word with
  | nil =>
    obtain ⟨rfl, rfl⟩ := List.append_eq_nil_iff.mp front.symm
    rfl
  | cons c cs ih =>
    rw [List.cons_append, cutOperator] at read
    rw [cutOperator]
    split at read
    · rename_i other
      obtain ⟨rfl, -⟩ := Prod.mk.inj read
      rw [if_pos other, front, List.nil_append]
    rename_i operator
    rw [if_neg operator]
    split at read
    · rename_i mark
      obtain ⟨rfl, -⟩ := Prod.mk.inj read
      rw [List.nil_append] at front
      cases cs with
      | nil =>
        obtain ⟨rfl, slash | star⟩ := mark
        · exact absurd slash (kept front.symm).1
        · exact absurd star (kept front.symm).2
      | cons d cs => exact (if_pos mark).trans (congrArg _ front)
    · rename_i noMark
      rcases inner : cutOperator (cs ++ rear) with ⟨operators, rest⟩
      rw [inner] at read
      obtain ⟨rfl, rfl⟩ := Prod.mk.inj read
      have noMarkLeft : ¬ (c = '/' ∧ (cs.head? = some '/' ∨ cs.head? = some '*')) := by
        rintro ⟨slash, head | head⟩
        · exact noMark ⟨slash, .inl (List.mem_head?_append_of_mem_head? head)⟩
        · exact noMark ⟨slash, .inr (List.mem_head?_append_of_mem_head? head)⟩
      have behind := cutOperator_append (cs ++ rear)
      rw [inner] at behind
      rw [if_neg noMarkLeft, ih inner behind (List.cons.inj front).2]

theorem cutQuotedName_front (read : cutQuotedName (cs ++ rear) = .ok (kind, text, part ++ rear)) :
    cutQuotedName cs = .ok (kind, text, part) := by
  rcases first : cutWhile (fun c => c != '\x60' && !isLineEnd c) (cs ++ rear) with ⟨name, rest⟩
  rw [cutQuotedName, first] at read
  split at read
  · cases read
  · rename_i c name behind closed
    obtain ⟨rfl, rfl⟩ := Prod.mk.inj closed
    simp only [Except.ok.injEq, Prod.mk.injEq] at read
    obtain ⟨rfl, rfl, rfl⟩ := read
    rw [← List.cons_append] at first
    rw [cutQuotedName, cutWhile_front first]
    rfl
  · cases read

end Names

section Numbers

theorem cutHexDigits_front {mark : Char}
    (read : cutHexDigits mark (cs ++ rear) = .ok (kind, text, part ++ rear)) :
    cutHexDigits mark cs = .ok (kind, text, part) := by
  rcases first : cutWhile isHexDigit (cs ++ rear) with ⟨digits, rest⟩
  simp only [cutHexDigits, first] at read
  split at read
  · cases read
  rename_i nonempty
  rcases second : cutOne ['l', 'L'] rest with ⟨suffix, last⟩
  have behind := cutOne_append ['l', 'L'] rest
  rw [second] at read behind
  simp only [Except.ok.injEq, Prod.mk.injEq] at read
  obtain ⟨rfl, rfl, rfl⟩ := read
  rw [← behind, ← List.append_assoc] at first second
  simp only [cutHexDigits, cutWhile_front first, if_neg nonempty, cutOne_front second]

theorem cutFraction_front (read : cutFraction (cs ++ rear) = (word, part ++ rear)) :
    cutFraction cs = (word, part) := by
  have whole := cutFraction_append (cs ++ rear)
  rw [read] at whole
  have front : cs = word ++ part := eq_append_of_cut whole
  match cs with
  | [] =>
    obtain ⟨rfl, rfl⟩ := List.append_eq_nil_iff.mp front.symm
    rfl
  | [c] =>
    -- No fraction is a point alone, so that nothing was cut.
    have none : word = [] := by
      have sound := cutFraction_sound ([c] ++ rear)
      rw [read] at sound
      rcases sound with none | ⟨nonempty, -⟩
      · exact none
      · have short := congrArg List.length front
        have positive := List.length_pos_iff.mpr nonempty
        simp only [List.length_cons, List.length_append, List.length_nil] at short
        omega
    rw [none, List.nil_append] at front
    rw [none, ← front]
    by_cases point : c = '.' <;> simp [point, cutFraction]
  | c :: d :: cs =>
    by_cases fraction : c = '.' ∧ isDigit d = true
    · obtain ⟨rfl, digit⟩ := fraction
      rcases first : cutWhile isDigit (cs ++ rear) with ⟨digits, rest⟩
      simp only [List.cons_append, cutFraction, if_pos digit, first] at read
      obtain ⟨rfl, rfl⟩ := Prod.mk.inj read
      simp only [cutFraction, if_pos digit, cutWhile_front first]
    · have none : ∀ more, cutFraction (c :: d :: more) = ([], c :: d :: more) := by
        intro more
        by_cases point : c = '.'
        · have noDigit : isDigit d ≠ true := fun digit => fraction ⟨point, digit⟩
          rw [point, cutFraction, if_neg noDigit]
        · simp [point, cutFraction]
      rw [List.cons_append, List.cons_append, none] at read
      obtain ⟨rfl, -⟩ := Prod.mk.inj read
      rw [none, front, List.nil_append]

theorem cutExponent_front (read : cutExponent (cs ++ rear) = .ok (word, part ++ rear)) :
    cutExponent cs = .ok (word, part) := by
  rcases first : cutOne ['e', 'E'] (cs ++ rear) with ⟨mark, rest⟩
  simp only [cutExponent, first] at read
  split at read
  · rename_i none
    have behind := cutOne_append ['e', 'E'] (cs ++ rear)
    rw [List.isEmpty_iff] at none
    simp only [Except.ok.injEq, Prod.mk.injEq] at read
    obtain ⟨rfl, whole⟩ := read
    obtain rfl := List.append_cancel_right whole
    simp only [first, none, List.nil_append] at behind
    rw [none, behind] at first
    simp only [cutExponent, cutOne_front first, List.isEmpty_nil, if_true]
  · rename_i marked
    rcases second : cutOne ['+', '-'] rest with ⟨sign, unsigned⟩
    rcases third : cutWhile isDigit unsigned with ⟨digits, last⟩
    have behindSign := cutOne_append ['+', '-'] rest
    have behindDigits := cutWhile_append isDigit unsigned
    simp only [second, third] at read behindSign behindDigits
    split at read
    · cases read
    rename_i nonempty
    simp only [Except.ok.injEq, Prod.mk.injEq] at read
    obtain ⟨rfl, rfl⟩ := read
    obtain rfl : unsigned = digits ++ part ++ rear := by simp [← behindDigits]
    obtain rfl : rest = sign ++ (digits ++ part) ++ rear := by simp [← behindSign]
    simp only [cutExponent, cutOne_front first, if_neg marked, cutOne_front second,
      cutWhile_front third, if_neg nonempty]

theorem cutDecimal_front (read : cutDecimal (cs ++ rear) = .ok (kind, text, part ++ rear)) :
    cutDecimal cs = .ok (kind, text, part) := by
  rcases first : cutWhile isDigit (cs ++ rear) with ⟨whole, rest⟩
  rcases second : cutFraction rest with ⟨fraction, rest'⟩
  have behindFraction := cutFraction_append rest
  simp only [cutDecimal, first, second] at read behindFraction
  split at read
  · cases read
  rename_i exponent rest'' third
  have behindExponent := cutExponent_append third
  dsimp only at behindExponent
  -- The parts before the suffix are read the same whatever is left of the text behind them.
  have parts : ∀ left, rest'' = left ++ rear →
      cutWhile isDigit cs = (whole, fraction ++ (exponent ++ left)) ∧
        cutFraction (fraction ++ (exponent ++ left)) = (fraction, exponent ++ left) ∧
        cutExponent (exponent ++ left) = .ok (exponent, left) := by
    rintro left rfl
    obtain rfl : rest' = exponent ++ left ++ rear := by simp [← behindExponent]
    obtain rfl : rest = fraction ++ (exponent ++ left) ++ rear := by simp [← behindFraction]
    exact ⟨cutWhile_front first, cutFraction_front second, cutExponent_front third⟩
  rcases fourth : cutOne ['f', 'F', 'd', 'D'] rest'' with ⟨suffix, last⟩
  have behindSuffix := cutOne_append ['f', 'F', 'd', 'D'] rest''
  simp only [fourth] at read behindSuffix
  cases suffix with
  | cons c suffix =>
    simp only [Except.ok.injEq, Prod.mk.injEq] at read
    obtain ⟨rfl, rfl, rfl⟩ := read
    obtain rfl : rest'' = c :: suffix ++ part ++ rear := by simp [← behindSuffix]
    obtain ⟨wholeCut, fractionCut, exponentCut⟩ := parts _ rfl
    simp only [cutDecimal, wholeCut, fractionCut, exponentCut, cutOne_front fourth]
  | nil =>
    rw [List.nil_append] at behindSuffix
    dsimp only at read
    split at read
    · rename_i bare
      rcases fifth : cutOne ['l', 'L'] last with ⟨mark, more⟩
      have behindMark := cutOne_append ['l', 'L'] last
      simp only [fifth, Except.ok.injEq, Prod.mk.injEq] at read behindMark
      obtain ⟨rfl, rfl, rfl⟩ := read
      obtain rfl : last = mark ++ part ++ rear := by simp [← behindMark]
      subst behindSuffix
      obtain ⟨wholeCut, fractionCut, exponentCut⟩ := parts _ rfl
      have noSuffix : cutOne ['f', 'F', 'd', 'D'] (mark ++ part) = ([], mark ++ part) :=
        cutOne_front fourth
      simp only [cutDecimal, wholeCut, fractionCut, exponentCut, noSuffix, if_pos bare,
        cutOne_front fifth]
    · rename_i notBare
      simp only [Except.ok.injEq, Prod.mk.injEq] at read
      obtain ⟨rfl, rfl, rfl⟩ := read
      subst behindSuffix
      obtain ⟨wholeCut, fractionCut, exponentCut⟩ := parts _ rfl
      simp only [cutDecimal, wholeCut, fractionCut, exponentCut, cutOne_front fourth,
        if_neg notBare]

/-- A hexadecimal number begins with its mark. -/
theorem mark_of_cutHexDigits {mark : Char} {cut : Cut}
    (read : cutHexDigits mark cs = .ok (kind, cut)) : ∃ more, cut.1 = '0' :: mark :: more := by
  simp only [cutHexDigits] at read
  split at read
  · cases read
  · cases read
    exact ⟨_, rfl⟩

theorem cutNumber_front (read : cutNumber (cs ++ rear) = .ok (kind, text, part ++ rear)) :
    cutNumber cs = .ok (kind, text, part) := by
  have front : cs = text ++ part := eq_append_of_cut (cutNumber_append read)
  by_cases hexadecimal : ∃ c rest, cs ++ rear = '0' :: c :: rest ∧ (c = 'x' ∨ c = 'X')
  · obtain ⟨c, rest, whole, mark⟩ := hexadecimal
    rw [whole, cutNumber, if_pos mark] at read
    obtain ⟨more, begins⟩ := mark_of_cutHexDigits read
    dsimp only at begins
    obtain ⟨digits, rfl⟩ : ∃ digits, cs = '0' :: c :: digits :=
      ⟨more ++ part, by simp [front, begins]⟩
    obtain rfl : rest = digits ++ rear := by simpa [eq_comm] using whole
    rw [cutNumber, if_pos mark]
    exact cutHexDigits_front read
  · have decimal : ∀ c rest, cs ++ rear = '0' :: c :: rest → ¬ (c = 'x' ∨ c = 'X') :=
      fun c rest whole mark => hexadecimal ⟨c, rest, whole, mark⟩
    have decimalLeft : ∀ c rest, cs = '0' :: c :: rest → ¬ (c = 'x' ∨ c = 'X') := by
      rintro c rest rfl
      exact decimal c (rest ++ rear) rfl
    rw [cutNumber_eq_cutDecimal decimal] at read
    rw [cutNumber_eq_cutDecimal decimalLeft]
    exact cutDecimal_front read

end Numbers

section Quotes

theorem EscapeText.length (escape : EscapeText text) : 2 ≤ text.length := by
  cases escape with
  | named | octal => exact le_rfl
  | unicode marked =>
    have nonempty := List.length_pos_iff.mpr marked.1
    simp only [List.length_cons, List.length_append]
    omega

theorem cutEscape_front (read : cutEscape (cs ++ rear) = .ok (word, part ++ rear)) :
    cutEscape cs = .ok (word, part) := by
  have front : cs = word ++ part := eq_append_of_cut (cutEscape_append read)
  cases cs with
  | nil =>
    obtain ⟨rfl, -⟩ := List.append_eq_nil_iff.mp front.symm
    have long := (cutEscape_sound read).length
    simp at long
  | cons c cs =>
    rw [List.cons_append, cutEscape] at read
    rw [cutEscape]
    split at read
    · rename_i unicode
      rw [if_pos unicode]
      rcases first : cutWhile (· == 'u') (cs ++ rear) with ⟨marks, rest⟩
      simp only [first] at read
      split at read
      · rename_i four
        simp only [Except.ok.injEq, Prod.mk.injEq] at read
        obtain ⟨rfl, behind⟩ := read
        have digitsBefore := List.take_append_drop 4 rest
        rw [behind] at digitsBefore
        generalize rest.take 4 = digits at four digitsBefore
        obtain rfl : rest = digits ++ part ++ rear := by simp [← digitsBefore]
        simp only [cutWhile_front first, List.take_left' four.1, List.drop_left' four.1,
          if_pos four]
      · cases read
    · rename_i plain
      rw [if_neg plain]
      split at read
      · rename_i known
        simp only [Except.ok.injEq, Prod.mk.injEq] at read
        obtain ⟨rfl, behind⟩ := read
        rw [if_pos known, List.append_cancel_right behind]
      · cases read

theorem cutStringBody_front (read : cutStringBody (cs ++ rear) = .ok (word, part ++ rear)) :
    cutStringBody cs = .ok (word, part) := by
  obtain rfl : cs = word ++ part := eq_append_of_cut (cutStringBody_append read)
  generalize whole : word ++ part ++ rear = source at read
  fun_induction cutStringBody source generalizing word with
  | case1 => cases read
  | case2 => cases read
  | case3 => cases read
  | case4 source escape rest escaped ends ih =>
    obtain ⟨⟨body, behind⟩, inner, same⟩ := map_eq_ok.mp read
    obtain ⟨rfl, rfl⟩ := Prod.mk.inj same
    obtain rfl : body ++ part ++ rear = rest := by simpa using cutStringBody_append inner
    obtain rfl : escape ++ (body ++ part) ++ rear = source := by simpa using whole
    rw [List.cons_append, List.cons_append, List.append_assoc,
      cutStringBody_escape (cutEscape_front escaped), ih rfl inner]
    rfl
  | case5 source ends plain =>
    simp only [Except.ok.injEq, Prod.mk.injEq] at read
    obtain ⟨rfl, rfl⟩ := read
    rw [List.cons_append, cutStringBody, if_neg ends, if_neg plain, if_pos rfl, List.nil_append]
  | case6 c source ends plain quote ih =>
    obtain ⟨⟨body, behind⟩, inner, same⟩ := map_eq_ok.mp read
    obtain ⟨rfl, rfl⟩ := Prod.mk.inj same
    rw [List.cons_append, cutStringBody, if_neg ends, if_neg plain, if_neg quote,
      ih (List.cons.inj whole).2 inner]
    rfl

theorem cutMultiLineBody_front (read : cutMultiLineBody (cs ++ rear) = some (word, part ++ rear)) :
    cutMultiLineBody cs = some (word, part) := by
  obtain rfl : cs = word ++ part := eq_append_of_cut (cutMultiLineBody_append read)
  generalize whole : word ++ part ++ rear = source at read
  fun_induction cutMultiLineBody source generalizing word with
  | case1 source quotes rest found =>
    simp only [Option.some.injEq, Prod.mk.injEq] at read
    obtain ⟨rfl, rfl⟩ := read
    obtain rfl : quotes ++ part ++ rear = source := by simpa using whole
    simp only [List.cons_append, cutMultiLineBody, cutWhile_front found]
  | case2 c source different ih =>
    obtain ⟨⟨body, behind⟩, inner, same⟩ := Option.map_eq_some_iff.mp read
    obtain ⟨rfl, rfl⟩ := Prod.mk.inj same
    obtain rfl : body ++ part ++ rear = source := by simpa using whole
    rw [List.cons_append, cutMultiLineBody, ih rfl inner]
    · rfl
    · intro more quote begins
      exact different (more ++ rear) quote (by simp [begins])
  | case3 => cases read

theorem cutString_front (read : cutString (cs ++ rear) = .ok (kind, text, part ++ rear)) :
    cutString cs = .ok (kind, text, part) := by
  have front : '"' :: cs = text ++ part := eq_append_of_cut (cutString_append read)
  unfold cutString at read
  split at read
  · rename_i rest whole
    split at read
    · rename_i body behind found
      simp only [Except.ok.injEq, Prod.mk.injEq] at read
      obtain ⟨rfl, rfl, rfl⟩ := read
      obtain rfl : body ++ part ++ rear = rest := by simpa using cutMultiLineBody_append found
      obtain rfl : cs = '"' :: '"' :: (body ++ part) := by simpa using front
      simp only [cutString, cutMultiLineBody_front found]
    · cases read
  · rename_i single
    obtain ⟨⟨body, behind⟩, inner, same⟩ := map_eq_ok.mp read
    simp only [Prod.mk.injEq] at same
    obtain ⟨rfl, rfl, rfl⟩ := same
    unfold cutString
    split
    · rename_i rest
      exact absurd rfl (single (rest ++ rear))
    · rw [cutStringBody_front inner]
      rfl

theorem closeCharacter_front {opened : List Char}
    (read : closeCharacter opened (cs ++ rear) = .ok (kind, text, part ++ rear)) :
    closeCharacter opened cs = .ok (kind, text, part) := by
  unfold closeCharacter at read
  split at read
  · rename_i rest whole
    simp only [Except.ok.injEq, Prod.mk.injEq] at read
    obtain ⟨rfl, rfl, rfl⟩ := read
    obtain rfl : cs = '\'' :: part := List.append_cancel_right whole
    rfl
  · cases read

theorem CharacterText.length (character : CharacterText text) : 3 ≤ text.length := by
  cases character with
  | plain => exact le_rfl
  | escaped escape =>
    have long := escape.length
    simp only [List.length_cons, List.length_append]
    omega

theorem SymbolText.length (symbol : SymbolText text) : 2 ≤ text.length := by
  cases symbol with
  | mk =>
    simp only [List.length_cons]
    omega

/-- Two characters at least follow the opening quote of a character literal. -/
theorem length_of_cutCharacter (read : cutCharacter (cs ++ rear) = .ok (kind, text, part ++ rear)) :
    2 ≤ cs.length := by
  have front : '\'' :: cs = text ++ part := eq_append_of_cut (cutCharacter_append read)
  have long := (cutCharacter_sound read).2.length
  have whole := congrArg List.length front
  simp only [List.length_cons, List.length_append] at whole long
  omega

theorem cutCharacter_front (read : cutCharacter (cs ++ rear) = .ok (kind, text, part ++ rear)) :
    cutCharacter cs = .ok (kind, text, part) := by
  have long := length_of_cutCharacter read
  cases cs with
  | nil => cases long
  | cons c cs =>
    rw [List.cons_append, cutCharacter] at read
    rw [cutCharacter]
    split at read
    · cases read
    rename_i proper
    rw [if_neg proper]
    split at read
    · rename_i backslash
      rw [if_pos backslash]
      split at read
      · cases read
      rename_i escape rest escaped
      obtain ⟨-, rfl⟩ := closeCharacter_sound read
      obtain rfl : rest = '\'' :: part ++ rear := by
        simpa [eq_comm] using closeCharacter_append read
      rw [cutEscape_front escaped]
      exact closeCharacter_front read
    · rename_i plain
      rw [if_neg plain]
      exact closeCharacter_front read

theorem cutSingleQuoted_front
    (read : cutSingleQuoted (cs ++ rear) = .ok (kind, text, part ++ rear)) :
    cutSingleQuoted cs = .ok (kind, text, part) := by
  have front : '\'' :: cs = text ++ part := eq_append_of_cut (cutSingleQuoted_append read)
  cases cs with
  | nil =>
    have short := congrArg List.length front
    have long : 2 ≤ text.length := by
      rcases cutSingleQuoted_sound read with ⟨-, symbol⟩ | ⟨-, character⟩
      · exact symbol.length
      · exact (Nat.le_succ 2).trans character.length
    simp only [List.length_cons, List.length_nil, List.length_append] at short
    omega
  | cons c cs =>
    rw [List.cons_append, cutSingleQuoted] at read
    rw [cutSingleQuoted]
    split at read
    · rename_i symbol
      have symbolLeft : (isIdentStart c && cs.head? != some '\'') = true := by
        rw [Bool.and_eq_true, bne_iff_ne] at symbol ⊢
        exact ⟨symbol.1, fun quote => symbol.2 (List.mem_head?_append_of_mem_head? quote)⟩
      rw [if_pos symbolLeft]
      rcases first : cutWhile isIdentPart (c :: (cs ++ rear)) with ⟨name, rest⟩
      simp only [first, Except.ok.injEq, Prod.mk.injEq] at read
      obtain ⟨rfl, rfl, rfl⟩ := read
      rw [← List.cons_append] at first
      rw [cutWhile_front first]
    · rename_i noSymbol
      rw [← List.cons_append] at read
      have long := length_of_cutCharacter read
      cases cs with
      | nil => simp at long
      | cons d cs =>
        have noSymbolLeft : ¬ (isIdentStart c && (d :: cs).head? != some '\'') = true := noSymbol
        rw [if_neg noSymbolLeft]
        exact cutCharacter_front read

end Quotes

section Tokens

variable {c : Char}

/-- Nothing is skipped where a token begins, whatever is cut off behind its first character. -/
theorem skipGap_front {source : List Char} (gap : skipGap source = .ok (c :: (cs ++ rear))) :
    skipGap (c :: cs) = .ok (c :: cs) := by
  apply skipGap_token (isBlank_of_skipGap gap)
  intro slash
  obtain ⟨noLine, noBlock⟩ := no_comment_of_skipGap gap slash
  exact ⟨fun head => noLine (List.mem_head?_append_of_mem_head? head),
    fun head => noBlock (List.mem_head?_append_of_mem_head? head)⟩

theorem startsNumber_append (starts : startsNumber c cs = true) (rear : List Char) :
    startsNumber c (cs ++ rear) = true := by
  cases cs with
  | nil =>
    have digit : isDigit c = true := by simpa [startsNumber] using starts
    exact startsNumber_of_isDigit digit _
  | cons d cs => exact starts

theorem IntegerText.head (integer : IntegerText text) :
    ∃ c cs, text = c :: cs ∧ startsNumber c cs = true := by
  cases integer with
  | hexadecimal => exact ⟨'0', _, rfl, startsNumber_of_isDigit rfl _⟩
  | @decimal digits suffix run =>
    obtain ⟨d, more, rfl⟩ := List.exists_cons_of_ne_nil run.1
    exact ⟨d, _, rfl, startsNumber_of_isDigit (run.2 d List.mem_cons_self) _⟩

/-- A token consists of the character at which it begins and a part of the text behind that. -/
theorem exists_of_cutToken {behind : List Char}
    (noComment : c = '/' → cs.head? ≠ some '/' ∧ cs.head? ≠ some '*')
    (read : cutToken c cs = .ok (kind, text, behind)) :
    ∃ more, text = c :: more ∧ cs = more ++ behind := by
  have whole : text ++ behind = c :: cs := cutToken_append read
  obtain ⟨d, more, rfl⟩ := List.exists_cons_of_ne_nil (cutToken_ne_nil noComment read)
  obtain ⟨rfl, rfl⟩ := List.cons.inj whole
  exact ⟨more, rfl, rfl⟩

/-- That a number begins is seen in the text of the number. -/
theorem startsNumber_front (starts : startsNumber c (cs ++ rear) = true)
    (read : cutNumber (c :: (cs ++ rear)) = .ok (kind, text, part ++ rear)) :
    startsNumber c cs = true := by
  have head : ∃ d more, text = d :: more ∧ startsNumber d more = true := by
    rcases cutNumber_sound starts read with ⟨-, integer⟩ | ⟨-, floating⟩
    · exact integer.head
    · exact floating.head
  obtain ⟨d, more, rfl, inside⟩ := head
  have front : c :: cs = d :: more ++ part := eq_append_of_cut (cutNumber_append read)
  obtain ⟨rfl, rfl⟩ := List.cons.inj front
  exact startsNumber_append inside part

/-- A token is read the same where the text behind it is cut off, though not through the mark of a
    comment. -/
theorem cutToken_front (kept : KeepsMark part rear)
    (read : cutToken c (cs ++ rear) = .ok (kind, text, part ++ rear)) :
    cutToken c cs = .ok (kind, text, part) := by
  unfold cutToken at read ⊢
  split at read
  · rename_i quoted
    rw [if_pos quoted]
    exact cutQuotedName_front read
  rename_i unquoted
  rw [if_neg unquoted]
  split at read
  · rename_i word
    simp only [Except.ok.injEq, Prod.mk.injEq] at read
    obtain ⟨rfl, cut⟩ := read
    rw [if_pos word, cut, cutWord_front cut]
  rename_i noWord
  rw [if_neg noWord]
  split at read
  · rename_i number
    rw [if_pos (startsNumber_front number read)]
    exact cutNumber_front read
  rename_i noNumber
  rw [if_neg fun number => noNumber (startsNumber_append number rear)]
  split at read
  · rename_i string
    rw [if_pos string]
    exact cutString_front read
  rename_i noString
  rw [if_neg noString]
  split at read
  · rename_i single
    rw [if_pos single]
    exact cutSingleQuoted_front read
  rename_i noSingle
  rw [if_neg noSingle]
  split at read
  · simp only [Except.ok.injEq, Prod.mk.injEq] at read
    obtain ⟨rfl, rfl, behind⟩ := read
    rw [List.append_cancel_right behind]
  split at read
  · rename_i operator
    simp only [Except.ok.injEq, Prod.mk.injEq] at read
    obtain ⟨rfl, cut⟩ := read
    rw [← List.cons_append] at cut ⊢
    rw [if_pos operator, cut, cutOperator_front kept cut]
  · cases read

end Tokens

end Scaffold.Scala
