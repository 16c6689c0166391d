import Scaffold.Proofs.Scala.FirstWord
import Scaffold.Proofs.Scala.Lexeme

/-!
# Names as the scan of sources and as tokens have them

The scan takes for a name what consists of word characters and dollar signs.  Where such a text can
be read, it is read as an identifier or a reserved word, with further operator characters behind a
final underscore, or a number begins there.
-/

namespace Scaffold.Scala.Declaration

open Text

section Chars

variable {c : Char} {cs : List Char} {start : Nat} {tokens : List Token}

theorem isOperatorChar_of_isTypeChar (known : isTypeChar c = true) : isOperatorChar c = false := by
  have basic : (operatorChars.all fun c => !isTypeChar c) = true := by decide +kernel
  have unlisted : c ∉ operatorChars := by
    intro member
    simpa [known] using List.all_eq_true.mp basic c member
  rw [isTypeChar, isWordChar, Bool.or_eq_true, Bool.or_eq_true, beq_iff_eq, beq_iff_eq] at known
  rcases known with (rfl | alphanumeric) | rfl
  · decide +kernel
  · have noSymbol : category c ≠ .mathSymbol ∧ category c ≠ .otherSymbol := by
      constructor <;> intro symbol <;> rw [symbol] at alphanumeric <;> cases alphanumeric
    simp [isOperatorChar, unlisted, noSymbol]
  · decide +kernel

theorem isTypeChar_of_isIdentPart (part : isIdentPart c = true) : isTypeChar c = true := by
  rw [isTypeChar, Bool.or_eq_true, beq_iff_eq]
  exact isWordChar_of_isIdentPart part

theorem isIdentPart_of_foreign (foreign : isTypeChar c = false) : isIdentPart c = false := by
  by_contra part
  rw [isTypeChar_of_isIdentPart (eq_true_of_ne_false part)] at foreign
  cases foreign

/-- No slash and no mark is white space or a character of names. -/
theorem apart_of_mem_marks (member : c ∈ '/' :: marks) :
    isBlank c = false ∧ isTypeChar c = false := by
  have checked : (('/' :: marks).all fun c => !isBlank c && !isTypeChar c) = true := by
    decide +kernel
  simpa using List.all_eq_true.mp checked c member

theorem not_mem_marks_of_isTypeChar (known : isTypeChar c = true) : c ∉ '/' :: marks := by
  intro member
  cases (apart_of_mem_marks member).2.symm.trans known

theorem skipGap_of_isTypeChar (known : isTypeChar c = true) (cs : List Char) :
    skipGap (c :: cs) = .ok (c :: cs) := by
  have noSlash := List.ne_of_not_mem_cons (not_mem_marks_of_isTypeChar known)
  exact skipGap_token (isBlank_of_isTypeChar known) fun slash => absurd slash noSlash

/-- Of the characters that the scan takes for those of a name, all but letters and digits are
    illegal at the beginning of a token. -/
theorem cutToken_illegal (known : isTypeChar c = true) (noStart : isIdentStart c = false)
    (noDigit : isDigit c = false) (cs : List Char) :
    cutToken c cs = .error (.illegalCharacter c) := by
  have noMark := List.not_mem_of_not_mem_cons (not_mem_marks_of_isTypeChar known)
  have noDelimiter := delimiterKind?_of_not_mem noMark
  simp only [marks, List.mem_cons, not_or] at noMark
  obtain ⟨noQuote, noString, noCharacter, -, -, -, -, -, -, noDot, -⟩ := noMark
  have noNumber : startsNumber c cs = false := by simp [startsNumber, noDigit, noDot]
  rw [cutToken, if_neg noQuote, noStart, if_neg Bool.false_ne_true, noNumber,
    if_neg Bool.false_ne_true, if_neg noString, if_neg noCharacter, noDelimiter]
  dsimp only
  rw [isOperatorChar_of_isTypeChar known, if_neg Bool.false_ne_true]

theorem cutToken_digit (digit : isDigit c = true) (cs : List Char) :
    cutToken c cs = cutNumber (c :: cs) := by
  obtain ⟨part, noStart⟩ := isIdentPart_of_isDigit digit
  have noMark := not_mem_marks (.inl part)
  have noQuote : c ≠ '\x60' := List.ne_of_not_mem_cons noMark
  rw [cutToken, if_neg noQuote, noStart, if_neg Bool.false_ne_true, startsNumber, digit,
    Bool.true_or, if_pos rfl]

/-- What is read at a character that the scan takes for one of a name is a token from there on. -/
theorem token_of_isTypeChar (known : isTypeChar c = true)
    (read : tokenizeFrom start (c :: cs) = .ok tokens) :
    ∃ kind text behind more, cutToken c cs = .ok (kind, text, behind) ∧
      tokens = ⟨kind, text, start⟩ :: more ∧
      tokenizeFrom (start + text.length) behind = .ok more := by
  have skipped := skipGap_of_isTypeChar known cs
  have begins : start + ((c :: cs).length - (cs.length + 1)) = start := by simp
  cases cut : cutToken c cs with
  | error problem =>
    rw [tokenizeFrom_of_malformed skipped cut] at read
    cases read
  | ok found =>
    obtain ⟨kind, text, behind⟩ := found
    rw [tokenizeFrom_of_token skipped cut, begins] at read
    obtain ⟨more, tail, rfl⟩ := map_eq_ok.mp read
    exact ⟨kind, text, behind, more, rfl, rfl, tail⟩

theorem tokenizeFrom_illegal (known : isTypeChar c = true) (noStart : isIdentStart c = false)
    (noDigit : isDigit c = false) : tokenizeFrom start (c :: cs) ≠ .ok tokens := by
  intro read
  obtain ⟨_, _, _, _, cut, -⟩ := token_of_isTypeChar known read
  rw [cutToken_illegal known noStart noDigit cs] at cut
  cases cut

/-- A character that the scan takes for one of a name, and that stands in no name, cannot be read
    at all. -/
theorem tokenizeFrom_foreign (known : isTypeChar c = true) (foreign : isIdentPart c = false) :
    tokenizeFrom start (c :: cs) ≠ .ok tokens := by
  have noStart : isIdentStart c = false := by
    rw [isIdentPart, Bool.or_eq_false_iff] at foreign
    exact foreign.1
  have noDigit : isDigit c = false := by
    by_contra digit
    rw [(isIdentPart_of_isDigit (eq_true_of_ne_false digit)).1] at foreign
    cases foreign
  exact tokenizeFrom_illegal known noStart noDigit

end Chars

section Names

variable {c : Char} {cs name rest text : List Char} {kind : TokenKind} {start : Nat}
  {tokens : List Token}

/-- How the token behind the head of a declaration has the name that the scan finds there: an
    identifier is the name, or the name and operator characters behind its final underscore; a
    reserved word is the name; and a number begins where the name does. -/
inductive Spelled (name : List Char) : TokenKind → List Char → Prop
  | identifier {kind : TokenKind} {operators : List Char} : kind.isIdentifier = true →
      (∀ c ∈ operators, isOperatorChar c = true) →
      (operators ≠ [] → name.getLast? = some '_') → Spelled name kind (name ++ operators)
  | reserved : isScalaKeyword name = true → Spelled name .keyword name
  | number {kind : TokenKind} {text : List Char} :
      kind = .integerLiteral ∨ kind = .floatingPointLiteral →
      (∀ c ∈ name.head?, isDigit c = true) → Spelled name kind text

/-- No reserved word goes on with operator characters behind an underscore. -/
theorem spelled_wordKind {operators : List Char} (named : name ≠ [])
    (operator : ∀ c ∈ operators, isOperatorChar c = true)
    (joined : operators ≠ [] → name.getLast? = some '_') :
    Spelled name (wordKind (name ++ operators)) (name ++ operators) := by
  cases reserved : isScalaKeyword (name ++ operators) with
  | false => exact .identifier (isIdentifier_wordKind reserved) operator joined
  | true =>
    have bare : operators = [] := by
      have only : ∀ word ∈ scalaKeywords, '_' ∈ word.toList → word.toList = ['_'] := by decide
      by_contra more
      have underscore := List.mem_of_getLast? (joined more)
      rw [isScalaKeyword, List.contains_iff_mem] at reserved
      have single := only _ reserved (by
        rw [String.toList_ofList]
        exact List.mem_append_left _ underscore)
      rw [String.toList_ofList] at single
      have length := congrArg List.length single
      have nameLength := List.length_pos_iff.mpr named
      have moreLength := List.length_pos_iff.mpr more
      simp only [List.length_append, List.length_singleton] at length
      omega
    subst bare
    rw [List.append_nil] at reserved ⊢
    unfold wordKind
    rw [if_pos reserved]
    exact .reserved reserved

theorem cutWord_of_parts (part : ∀ d ∈ cs, isIdentPart d = true)
    (stop : ∀ d, rest.head? = some d → isIdentPart d = false) :
    cutWord c (cs ++ rest) =
      if (c :: cs).getLast? = some '_' then
        (c :: cs ++ rest.takeWhile isOperatorChar, rest.dropWhile isOperatorChar)
      else (c :: cs, rest) := by
  obtain ⟨taken, left⟩ := takeWhile_append_stop part stop
  simp only [cutWord, cutWhile, taken, left]

/-- Where the text behind a name that the scan finds can be read, the name is read as a whole. -/
theorem isIdentPart_of_known (known : ∀ d ∈ cs, isTypeChar d = true)
    (read : tokenizeFrom start (cutWord c (cs ++ rest)).2 = .ok tokens) :
    ∀ d ∈ cs, isIdentPart d = true := by
  have whole : cs = cs.takeWhile isIdentPart ++ cs.dropWhile isIdentPart :=
    List.takeWhile_append_dropWhile.symm
  have part : ∀ d ∈ cs.takeWhile isIdentPart, isIdentPart d = true :=
    List.all_eq_true.mp List.all_takeWhile
  cases behind : cs.dropWhile isIdentPart with
  | nil =>
    rw [behind, List.append_nil] at whole
    rwa [← whole] at part
  | cons d more =>
    -- The character at which the name would be cut short cannot be read.
    rw [behind] at whole
    have foreign : isIdentPart d = false := by
      have first := List.head?_dropWhile_not isIdentPart cs
      simpa [behind] using first
    have inside : isTypeChar d = true := by
      apply known
      rw [whole]
      exact List.mem_append_right _ List.mem_cons_self
    have left : (cutWord c (cs ++ rest)).2 = d :: (more ++ rest) := by
      have stop : ∀ e, (d :: (more ++ rest)).head? = some e → isIdentPart e = false := by
        rintro e ⟨⟩
        exact foreign
      rw [whole, List.append_assoc, List.cons_append, cutWord_of_parts part stop]
      split
      · rw [List.dropWhile_cons, isOperatorChar_of_isTypeChar inside, if_neg Bool.false_ne_true]
      · rfl
    rw [left] at read
    exact absurd read (tokenizeFrom_foreign inside foreign)

/-- The word that is cut where the scan finds a name is the name, or the name with the operator
characters behind its final underscore. -/
theorem spelled_cutWord (known : ∀ d ∈ cs, isTypeChar d = true)
    (stop : ∀ d, rest.head? = some d → isTypeChar d = false)
    (read : tokenizeFrom start (cutWord c (cs ++ rest)).2 = .ok tokens) :
    Spelled (c :: cs) (wordKind (cutWord c (cs ++ rest)).1) (cutWord c (cs ++ rest)).1 := by
  have part := isIdentPart_of_known known read
  rw [cutWord_of_parts part fun d head => isIdentPart_of_foreign (stop d head)]
  split
  · rename_i underscore
    exact spelled_wordKind (List.cons_ne_nil c cs) (List.all_eq_true.mp List.all_takeWhile)
      fun _ => underscore
  · have whole := spelled_wordKind (List.cons_ne_nil c cs) (List.forall_mem_nil _)
      fun some => absurd rfl some
    rwa [List.append_nil] at whole

/-- What is read where the scan finds a name. -/
theorem spelled_of_tokenizeFrom (named : name ≠ []) (known : ∀ c ∈ name, isTypeChar c = true)
    (stop : ∀ c, rest.head? = some c → isTypeChar c = false)
    (read : tokenizeFrom start (name ++ rest) = .ok tokens) :
    ∃ t more, tokens = t :: more ∧ t.offset = start ∧ Spelled name t.kind t.text := by
  obtain ⟨c, cs, rfl⟩ := List.exists_cons_of_ne_nil named
  obtain ⟨first, others⟩ := List.forall_mem_cons.mp known
  obtain ⟨kind, text, behind, more, cut, rfl, tail⟩ := token_of_isTypeChar first read
  refine ⟨_, more, rfl, rfl, ?_⟩
  cases letter : isIdentStart c with
  | true =>
    rw [cutToken_start letter] at cut
    obtain ⟨rfl, parts⟩ := Prod.mk.inj (Except.ok.inj cut)
    obtain ⟨rfl, rfl⟩ : (cutWord c (cs ++ rest)).1 = text ∧ (cutWord c (cs ++ rest)).2 = behind :=
      Prod.ext_iff.mp parts
    exact spelled_cutWord others stop tail
  | false =>
    have digit : isDigit c = true := by
      by_contra noDigit
      exact tokenizeFrom_illegal first letter (eq_false_of_ne_true noDigit) read
    rw [cutToken_digit digit] at cut
    have numeral : ∀ d ∈ (c :: cs).head?, isDigit d = true := by
      rintro d ⟨⟩
      exact digit
    exact .number (kind_of_cutNumber cut) numeral

end Names

end Scaffold.Scala.Declaration
