import Scaffold.Proofs.Scala.TokenEnd

/-!
# Printing tokens

The texts of tokens, one on each line, are read as the same tokens again: every token is read from
its own text, although where it ended was seen in the text behind it, and a line end is read as
white space behind every token.
-/

namespace Scaffold.Scala

open Text

/-- The texts of the tokens on a line each, without the token for the end. -/
def printed (tokens : List Token) : List Char :=
  ['\n'].intercalate ((tokens.filter (·.kind != .endOfText)).map Token.text)

variable {cs : List Char} {start : Nat} {tokens : List Token} {lexeme : Lexeme}

/-- The text of the lexeme is read as the lexeme where nothing else is there. -/
inductive Alone : Lexeme → Prop
  | mk {c : Char} {cs : List Char} {kind : TokenKind} : skipGap (c :: cs) = .ok (c :: cs) →
      cutToken c cs = .ok (kind, c :: cs, []) → Alone (kind, c :: cs)

/-- A token that is cut in a text is read alone. -/
theorem alone_of_cutToken {c : Char} {rest behind text : List Char} {kind : TokenKind}
    (gap : skipGap cs = .ok (c :: rest)) (cut : cutToken c rest = .ok (kind, text, behind)) :
    Alone (kind, text) := by
  obtain ⟨more, rfl, rfl⟩ := exists_of_cutToken (no_comment_of_skipGap gap) cut
  have kept : KeepsMark [] behind := fun slash => by cases slash
  exact .mk (skipGap_front gap) (cutToken_front kept cut)

/-- Every token but the one for the end is read alone. -/
theorem alone_of_tokenizeFrom (read : tokenizeFrom start cs = .ok tokens) :
    ∀ t ∈ tokens, t.kind ≠ .endOfText → Alone t.lexeme := by
  induction tokens generalizing start cs with
  | nil => exact List.forall_mem_nil _
  | cons t tokens ih =>
    rcases tokenizeFrom_eq_cons read with ⟨-, last, rfl⟩ | ⟨c, rest, behind, next, gap, cut, tail⟩
    · rw [List.forall_mem_singleton]
      intro other
      exact absurd (congrArg Prod.fst last) other
    · exact List.forall_mem_cons.mpr ⟨fun _ => alone_of_cutToken gap cut, ih tail⟩

theorem Alone.lexes (alone : Alone lexeme) : Lexes lexeme.2 [lexeme] [] := by
  cases alone with
  | mk gap cut => exact .token gap cut .done

/-- In front of a line end a lexeme is read as it is alone. -/
theorem Alone.lexes_line (alone : Alone lexeme) (line : List Char) :
    Lexes (lexeme.2 ++ '\n' :: line) [lexeme] line := by
  cases alone with
  | mk gap cut =>
    exact .token (skipGap_line_of_token gap) (cutToken_line cut) (.blank isBlank_lineFeed .done)

/-- Tokens that are read alone are read on a line each. -/
theorem readsAs_lines (alone : ∀ t ∈ tokens, Alone t.lexeme) :
    ReadsAs (['\n'].intercalate (tokens.map Token.text))
      (tokens.map Token.lexeme ++ [(.endOfText, [])]) := by
  induction tokens with
  | nil => exact readsAs_nil
  | cons t tokens ih =>
    obtain ⟨first, others⟩ := List.forall_mem_cons.mp alone
    cases tokens with
    | nil =>
      rw [List.map_singleton, List.intercalate_singleton]
      exact first.lexes.readsAs readsAs_nil
    | cons next tokens =>
      rw [List.map_cons, List.map_cons, List.intercalate_cons_cons, List.append_assoc]
      exact (first.lexes_line _).readsAs (ih others)

/-- The tokens of a text are read again from their printed texts. -/
theorem tokenize_printed {source : List Char} {tokens : List Token}
    (read : tokenize source = .ok tokens) :
    ∃ again, tokenize (printed tokens) = .ok again ∧
      again.map Token.lexeme = tokens.map Token.lexeme := by
  have alone := alone_of_tokenizeFrom read
  obtain ⟨body, rfl, proper⟩ := (tiles_of_tokenizeFrom read).ending
  have bodyAlone : ∀ t ∈ body, Alone t.lexeme :=
    fun t member => alone t (List.mem_append_left _ member) (proper t member).1
  have texts : printed (body ++ [⟨.endOfText, [], 0 + source.length⟩]) =
      ['\n'].intercalate (body.map Token.text) := by
    have kept : body.filter (·.kind != .endOfText) = body :=
      List.filter_eq_self.mpr fun t member => bne_iff_ne.mpr (proper t member).1
    simp [printed, kept]
  obtain ⟨again, reread, same⟩ := readsAs_lines bodyAlone 0
  rw [texts]
  exact ⟨again, reread, by simp [same, Token.lexeme]⟩

/-- An operator in front of a comment, a name that ends in an operator, and a string that ends in
    further quotes are read again. -/
theorem tokenize_printed_ends :
    tokenize "+/**/a_+b\"\"\"q\"\"\"\"".toList =
      .ok [⟨.otherId, ['+'], 0⟩, ⟨.varId, ['a', '_', '+'], 5⟩, ⟨.varId, ['b'], 8⟩,
        ⟨.stringLiteral, ['"', '"', '"', 'q', '"', '"', '"', '"'], 9⟩, ⟨.endOfText, [], 17⟩] ∧
    ∃ again, tokenize "+\na_+\nb\n\"\"\"q\"\"\"\"".toList = .ok again ∧
      again.map Token.lexeme =
        [(.otherId, ['+']), (.varId, ['a', '_', '+']), (.varId, ['b']),
          (.stringLiteral, ['"', '"', '"', 'q', '"', '"', '"', '"']), (.endOfText, [])] := by
  have read : tokenize "+/**/a_+b\"\"\"q\"\"\"\"".toList =
      .ok [⟨.otherId, ['+'], 0⟩, ⟨.varId, ['a', '_', '+'], 5⟩, ⟨.varId, ['b'], 8⟩,
        ⟨.stringLiteral, ['"', '"', '"', 'q', '"', '"', '"', '"'], 9⟩, ⟨.endOfText, [], 17⟩] := by
    decide +kernel
  exact ⟨read, tokenize_printed read⟩

end Scaffold.Scala
