import Scaffold.Outcome
import Scaffold.Scala.Lexer

/-!
# Token sequences

A source text is read from front to back: a gap, a token, a gap and so on up to the end, which
has a token of its own.  `cutToken_append` says that a token and the text behind it make up the text
from which it was read, and `cutToken_ne_nil` that it is not empty, so that reading comes to an end.
-/

namespace Scaffold.Scala

theorem cutWord_append (c : Char) (cs : List Char) :
    (cutWord c cs).1 ++ (cutWord c cs).2 = c :: cs := by
  simp only [cutWord]
  split <;> simp [cutWhile, List.takeWhile_append_dropWhile]

theorem cutWord_ne_nil (c : Char) (cs : List Char) : (cutWord c cs).1 ≠ [] := by
  simp only [cutWord]
  split <;> simp

theorem cutOperator_append (cs : List Char) : (cutOperator cs).1 ++ (cutOperator cs).2 = cs := by
  fun_induction cutOperator cs <;> simp_all

theorem cutOne_append (choices cs : List Char) :
    (cutOne choices cs).1 ++ (cutOne choices cs).2 = cs := by
  cases cs with
  | nil => rfl
  | cons c cs => simp only [cutOne]; split <;> rfl

theorem cutFraction_append (cs : List Char) :
    (cutFraction cs).1 ++ (cutFraction cs).2 = cs := by
  unfold cutFraction
  split
  · split <;> simp [cutWhile, List.takeWhile_append_dropWhile]
  · simp

theorem cutQuotedName_append {cs : List Char} {kind : TokenKind} {cut : Cut}
    (h : cutQuotedName cs = .ok (kind, cut)) : cut.1 ++ cut.2 = '\x60' :: cs := by
  unfold cutQuotedName at h
  have whole := cutWhile_append (fun c => c != '\x60' && !isLineEnd c) cs
  split at h
  · cases h
  · rename_i c name rest heq
    rw [heq] at whole
    cases h
    simp [← whole]
  · cases h

theorem cutHexDigits_append {mark : Char} {cs : List Char} {kind : TokenKind} {cut : Cut}
    (h : cutHexDigits mark cs = .ok (kind, cut)) : cut.1 ++ cut.2 = '0' :: mark :: cs := by
  simp only [cutHexDigits] at h
  split at h
  · cases h
  · cases h
    have := cutOne_append ['l', 'L'] (cutWhile isHexDigit cs).2
    simp only [List.cons_append, List.append_assoc, this, cutWhile_append]

theorem cutExponent_append {cs : List Char} {cut : Cut}
    (h : cutExponent cs = .ok cut) : cut.1 ++ cut.2 = cs := by
  simp only [cutExponent] at h
  split at h
  · cases h; rfl
  · split at h
    · cases h
    · cases h
      simp only [List.append_assoc, cutWhile_append, cutOne_append]

theorem cutDecimal_append {cs : List Char} {kind : TokenKind} {cut : Cut}
    (h : cutDecimal cs = .ok (kind, cut)) : cut.1 ++ cut.2 = cs := by
  simp only [cutDecimal] at h
  have whole := cutWhile_append isDigit cs
  have fraction := cutFraction_append (cutWhile isDigit cs).2
  split at h
  · cases h
  · rename_i exponent rest he
    have he := cutExponent_append he
    simp only at he
    have suffix := cutOne_append ['f', 'F', 'd', 'D'] rest
    split at h
    · rename_i c more rest' hs
      rw [hs] at suffix
      cases h
      simp only [List.append_assoc, suffix, he, fraction, whole]
    · rename_i rest' hs
      rw [hs] at suffix
      simp only [List.nil_append] at suffix
      split at h
      · cases h
        simp only [List.append_assoc, cutOne_append, suffix, he, fraction, whole]
      · cases h
        simp only [List.append_assoc, suffix, he, fraction, whole]

theorem cutNumber_append {cs : List Char} {kind : TokenKind} {cut : Cut}
    (h : cutNumber cs = .ok (kind, cut)) : cut.1 ++ cut.2 = cs := by
  unfold cutNumber at h
  split at h
  · split at h
    · exact cutHexDigits_append h
    · exact cutDecimal_append h
  · exact cutDecimal_append h

theorem cutStringBody_append {cs : List Char} {cut : Cut}
    (h : cutStringBody cs = .ok cut) : cut.1 ++ cut.2 = cs := by
  fun_induction cutStringBody cs generalizing cut with
  | case1 => cases h
  | case2 => cases h
  | case3 => cases h
  | case4 cs escape rest he _ ih =>
    have he := cutEscape_append he
    obtain ⟨⟨body, behind⟩, hb, rfl⟩ := map_eq_ok.mp h
    have := ih hb
    simpa [this] using he
  | case5 => cases h; rfl
  | case6 c cs _ _ _ ih =>
    obtain ⟨⟨body, behind⟩, hb, rfl⟩ := map_eq_ok.mp h
    simp [ih hb]

theorem cutMultiLineBody_append {cs : List Char} {cut : Cut}
    (h : cutMultiLineBody cs = some cut) : cut.1 ++ cut.2 = cs := by
  fun_induction cutMultiLineBody cs generalizing cut with
  | case1 cs quotes rest hq =>
    have := cutWhile_append (· == '"') cs
    rw [hq] at this
    cases h
    simpa using this
  | case2 c cs _ ih =>
    cases hb : cutMultiLineBody cs with
    | none => simp [hb] at h
    | some inner =>
      simp only [hb, Option.map_some, Option.some.injEq] at h
      cases h
      simp [ih hb]
  | case3 => cases h

theorem cutString_append {cs : List Char} {kind : TokenKind} {cut : Cut}
    (h : cutString cs = .ok (kind, cut)) : cut.1 ++ cut.2 = '"' :: cs := by
  unfold cutString at h
  split at h
  · rename_i rest
    split at h
    · rename_i hb
      cases h
      have := cutMultiLineBody_append hb
      simpa using this
    · cases h
  · obtain ⟨⟨body, behind⟩, hb, same⟩ := map_eq_ok.mp h
    cases same
    simp [cutStringBody_append hb]

theorem closeCharacter_append {opened cs : List Char} {kind : TokenKind} {cut : Cut}
    (h : closeCharacter opened cs = .ok (kind, cut)) : cut.1 ++ cut.2 = opened ++ cs := by
  unfold closeCharacter at h
  split at h
  · cases h; simp
  · cases h

theorem cutCharacter_append {cs : List Char} {kind : TokenKind} {cut : Cut}
    (h : cutCharacter cs = .ok (kind, cut)) : cut.1 ++ cut.2 = '\'' :: cs := by
  unfold cutCharacter at h
  split at h
  · cases h
  · split at h
    · cases h
    · split at h
      · split at h
        · cases h
        · rename_i he
          have he := cutEscape_append he
          have := closeCharacter_append h
          simpa [he] using this
      · simpa using closeCharacter_append h

theorem cutSingleQuoted_append {cs : List Char} {kind : TokenKind} {cut : Cut}
    (h : cutSingleQuoted cs = .ok (kind, cut)) : cut.1 ++ cut.2 = '\'' :: cs := by
  unfold cutSingleQuoted at h
  split at h
  · exact cutCharacter_append h
  · split at h
    · cases h; simp
    · exact cutCharacter_append h

/-- A token and the text behind it are the text from which it was read. -/
theorem cutToken_append {c : Char} {cs : List Char} {kind : TokenKind} {cut : Cut}
    (h : cutToken c cs = .ok (kind, cut)) : cut.1 ++ cut.2 = c :: cs := by
  unfold cutToken at h
  split at h
  · rename_i hc; subst hc; exact cutQuotedName_append h
  · split at h
    · cases h; exact cutWord_append c cs
    · split at h
      · exact cutNumber_append h
      · split at h
        · rename_i hc; subst hc; exact cutString_append h
        · split at h
          · rename_i hc; subst hc; exact cutSingleQuoted_append h
          · split at h
            · cases h; rfl
            · split at h
              · cases h; exact cutOperator_append (c :: cs)
              · cases h

theorem cutFraction_ne_nil {d : Char} {cs : List Char} (h : isDigit d = true) :
    (cutFraction ('.' :: d :: cs)).1 ≠ [] := by
  simp [cutFraction, h]

/-- A number that begins at a character has digits before or behind its point. -/
theorem cutDecimal_start {c : Char} {cs : List Char} (hs : startsNumber c cs = true) :
    (cutWhile isDigit (c :: cs)).1 ≠ [] ∨
      (cutFraction (cutWhile isDigit (c :: cs)).2).1 ≠ [] := by
  by_cases hd : isDigit c = true
  · left; simp [cutWhile, hd]
  · right
    simp only [startsNumber, hd, Bool.false_or, Bool.and_eq_true, beq_iff_eq] at hs
    obtain ⟨rfl, hs⟩ := hs
    cases cs with
    | nil => simp at hs
    | cons d cs =>
      have : (cutWhile isDigit ('.' :: d :: cs)).2 = '.' :: d :: cs := by
        simp [cutWhile, List.dropWhile, show isDigit '.' = false from rfl]
      rw [this]
      exact cutFraction_ne_nil (by simpa using hs)

theorem cutDecimal_ne_nil {c : Char} {cs : List Char} {kind : TokenKind} {cut : Cut}
    (hs : startsNumber c cs = true) (h : cutDecimal (c :: cs) = .ok (kind, cut)) :
    cut.1 ≠ [] := by
  have start := cutDecimal_start hs
  simp only [cutDecimal] at h
  split at h
  · cases h
  · split at h
    · cases h; simp
    · split at h
      · cases h
        rcases start with h | h <;> simp [h]
      · cases h
        rcases start with h | h <;> simp [h]

theorem cutOperator_ne_nil {c : Char} {cs : List Char} (ho : isOperatorChar c = true)
    (hc : c = '/' → cs.head? ≠ some '/' ∧ cs.head? ≠ some '*') :
    (cutOperator (c :: cs)).1 ≠ [] := by
  have : ¬ (c = '/' ∧ (cs.head? = some '/' ∨ cs.head? = some '*')) := by
    rintro ⟨h, h' | h'⟩
    · exact (hc h).1 h'
    · exact (hc h).2 h'
  simp [cutOperator, ho, this]

/-- A token is not empty where no comment begins. -/
theorem cutToken_ne_nil {c : Char} {cs : List Char} {kind : TokenKind} {cut : Cut}
    (hc : c = '/' → cs.head? ≠ some '/' ∧ cs.head? ≠ some '*')
    (h : cutToken c cs = .ok (kind, cut)) : cut.1 ≠ [] := by
  unfold cutToken at h
  split at h
  · unfold cutQuotedName at h
    split at h <;> cases h
    simp
  · split at h
    · cases h; exact cutWord_ne_nil c cs
    · split at h
      · rename_i hs
        unfold cutNumber at h
        split at h
        · split at h
          · simp only [cutHexDigits] at h
            split at h <;> cases h
            simp
          · rename_i heq _
            cases heq
            exact cutDecimal_ne_nil hs h
        · exact cutDecimal_ne_nil hs h
      · split at h
        · unfold cutString at h
          split at h
          · split at h <;> cases h
            simp
          · obtain ⟨inner, -, same⟩ := map_eq_ok.mp h
            cases same
            simp
        · split at h
          · have close : ∀ {opened rest : List Char}, opened ≠ [] →
                closeCharacter opened rest = .ok (kind, cut) → cut.1 ≠ [] := by
              intro opened rest ho hcl
              unfold closeCharacter at hcl
              split at hcl <;> cases hcl
              simp
            have character : ∀ {rest : List Char},
                cutCharacter rest = .ok (kind, cut) → cut.1 ≠ [] := by
              intro rest hr
              unfold cutCharacter at hr
              split at hr
              · cases hr
              · split at hr
                · cases hr
                · split at hr
                  · split at hr
                    · cases hr
                    · exact close (by simp) hr
                  · exact close (by simp) hr
            unfold cutSingleQuoted at h
            split at h
            · exact character h
            · split at h
              · cases h; simp
              · exact character h
          · split at h
            · cases h; simp
            · split at h
              · rename_i ho
                cases h
                exact cutOperator_ne_nil ho hc
              · cases h

/-- Behind a gap no comment begins. -/
theorem no_comment_of_skipGap {cs rest : List Char} {c : Char}
    (h : skipGap cs = .ok (c :: rest)) :
    c = '/' → rest.head? ≠ some '/' ∧ rest.head? ≠ some '*' := by
  fun_induction skipGap cs with
  | case1 => cases h
  | case2 _ ih => exact ih h
  | case3 _ _ _ ih => exact ih h
  | case4 => cases h
  | case5 _ _ _ _ _ ih => exact ih h
  | case6 c' cs' h₁ h₂ _ =>
    cases h
    rintro rfl
    constructor <;> intro hh
    · cases rest with
      | nil => simp at hh
      | cons d rest =>
        simp only [List.head?_cons, Option.some.injEq] at hh
        subst hh
        exact h₁ _ rfl rfl
    · cases rest with
      | nil => simp at hh
      | cons d rest =>
        simp only [List.head?_cons, Option.some.injEq] at hh
        subst hh
        exact h₂ _ rfl rfl

theorem length_cutToken {cs rest : List Char} {c : Char} {kind : TokenKind} {cut : Cut}
    (hg : skipGap cs = .ok (c :: rest)) (h : cutToken c rest = .ok (kind, cut)) :
    cut.2.length < cs.length := by
  have gap := length_skipGap hg
  have whole := congrArg List.length (cutToken_append h)
  have := List.length_pos_iff.2 (cutToken_ne_nil (no_comment_of_skipGap hg) h)
  simp at gap whole
  omega

/-- The tokens of `cs`, the part of a text behind its first `offset` characters, or the first
    fault. -/
def tokenizeFrom (offset : Nat) (cs : List Char) : Except LexFault (List Token) :=
  match _hg : skipGap cs with
  | .error rest => .error ⟨.unclosedComment, offset + (cs.length - rest.length)⟩
  | .ok [] => .ok [⟨.endOfText, [], offset + cs.length⟩]
  | .ok (c :: rest) =>
    let start := offset + (cs.length - (rest.length + 1))
    match _hs : cutToken c rest with
    | .error problem => .error ⟨problem, start⟩
    | .ok (kind, text, behind) =>
      (tokenizeFrom (start + text.length) behind).map (⟨kind, text, start⟩ :: ·)
  termination_by cs.length
  decreasing_by exact length_cutToken _hg _hs

/-- The tokens of a text, closed by the token for its end, or the first fault. -/
def tokenize (source : List Char) : Except LexFault (List Token) := tokenizeFrom 0 source

/-- The words for a problem. -/
def LexProblem.message : LexProblem → String
  | unclosedComment => "unclosed comment"
  | unclosedQuotedIdentifier => "unclosed quoted identifier"
  | emptyQuotedIdentifier => "empty quoted identifier"
  | malformedInteger => "malformed integer literal"
  | malformedFloatingPoint => "malformed floating point literal"
  | unclosedMultiLineString => "unclosed multi-line string literal"
  | unclosedString => "unclosed string literal"
  | emptyCharacter => "empty character literal"
  | unclosedCharacter => "unclosed character literal"
  | unclosedEscape => "unclosed escape sequence"
  | malformedUnicodeEscape => "malformed unicode escape"
  | invalidEscape c => "invalid escape character " ++ Text.quoteChar c
  | illegalCharacter c => "illegal character " ++ Text.quoteChar c

/-- The text of a fault: its place, then its problem. -/
def LexFault.message (f : LexFault) : String :=
  "Offset " ++ toString f.offset ++ ": " ++ f.problem.message

end Scaffold.Scala
