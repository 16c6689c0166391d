import Mathlib.Data.List.TakeWhile
import Scaffold.Proofs.Scala.CharClass
import Scaffold.Proofs.Scala.Joining
import Scaffold.Proofs.Scala.NameEnd
import Scaffold.Proofs.Scala.TokenClass

/-!
# Lexemes

What a text is read as, apart from where it stands.  `Lexes` reads a text up to a text that is left,
which stays in view, so that no token is cut short where two texts are put together.  A plain name
and a name of any form are read as they are before every character that goes on no name.
-/

namespace Scaffold.Scala

open Text

/-- The class and the text of a token. -/
abbrev Lexeme := TokenKind × List Char

/-- A token without its place. -/
def Token.lexeme (t : Token) : Lexeme := (t.kind, t.text)

/-- The lexemes of a text, closed by the one for its end, or the first fault. -/
def lexemesOf (source : List Char) : Except LexFault (List Lexeme) :=
  (tokenize source).map (·.map Token.lexeme)

variable {cs rest more : List Char} {lexemes others : List Lexeme}

/-- The text is read as the lexemes, wherever it stands. -/
def ReadsAs (cs : List Char) (lexemes : List Lexeme) : Prop :=
  ∀ start, ∃ tokens, tokenizeFrom start cs = .ok tokens ∧ tokens.map Token.lexeme = lexemes

theorem lexemesOf_eq_ok : lexemesOf cs = .ok lexemes ↔ ReadsAs cs lexemes := by
  constructor
  · intro read start
    unfold lexemesOf tokenize at read
    have shifted := tokenizeFrom_add start 0 cs
    rw [Nat.zero_add] at shifted
    cases ended : tokenizeFrom 0 cs with
    | error fault =>
      rw [ended] at read
      cases read
    | ok tokens =>
      rw [ended] at read shifted
      cases read
      refine ⟨_, shifted, ?_⟩
      simp [Token.lexeme, Token.shift]
  · intro read
    obtain ⟨tokens, ended, rfl⟩ := read 0
    rw [lexemesOf, tokenize, ended]
    rfl

/-- A text is read as the token behind a gap and what the text behind the token is read as. -/
theorem ReadsAs.token {c : Char} {behind text : List Char} {kind : TokenKind}
    (gap : skipGap cs = .ok (c :: rest)) (cut : cutToken c rest = .ok (kind, text, behind))
    (read : ReadsAs behind lexemes) : ReadsAs cs ((kind, text) :: lexemes) := by
  intro start
  obtain ⟨tokens, ended, rfl⟩ := read (start + (cs.length - (rest.length + 1)) + text.length)
  rw [tokenizeFrom_of_token gap cut, ended]
  exact ⟨_, rfl, rfl⟩

/-- White space is read past. -/
theorem tokenizeFrom_blank {c : Char} (blank : isBlank c = true) (start : Nat) (cs : List Char) :
    tokenizeFrom start (c :: cs) = tokenizeFrom (start + 1) cs := by
  apply tokenizeFrom_congr (skipGap_blank blank cs)
  rw [List.length_cons]
  omega

/-- The text is read as white space and the lexemes, with a text left. -/
inductive Lexes : (cs : List Char) → List Lexeme → (rest : List Char) → Prop
  | done {cs : List Char} : Lexes cs [] cs
  | blank {c : Char} {cs rest : List Char} {lexemes : List Lexeme} : isBlank c = true →
      Lexes cs lexemes rest → Lexes (c :: cs) lexemes rest
  | token {c : Char} {cs behind rest : List Char} {kind : TokenKind} {text : List Char}
      {lexemes : List Lexeme} : skipGap (c :: cs) = .ok (c :: cs) →
      cutToken c cs = .ok (kind, text, behind) → Lexes behind lexemes rest →
      Lexes (c :: cs) ((kind, text) :: lexemes) rest

namespace Lexes

theorem trans (first : Lexes cs lexemes rest) (next : Lexes rest others more) :
    Lexes cs (lexemes ++ others) more := by
  induction first with
  | done => exact next
  | blank blank _ ih => exact .blank blank (ih next)
  | token gap cut _ ih => exact .token gap cut (ih next)

theorem blanks {front : List Char} (blank : ∀ c ∈ front, isBlank c = true)
    (next : Lexes cs lexemes rest) : Lexes (front ++ cs) lexemes rest := by
  induction front with
  | nil => exact next
  | cons c front ih =>
    obtain ⟨first, others⟩ := List.forall_mem_cons.mp blank
    exact .blank first (ih others)

/-- A text that is read up to a text is read as the lexemes and what that text is read as. -/
theorem readsAs {left : List Lexeme} (read : Lexes cs lexemes rest) (finish : ReadsAs rest left) :
    ReadsAs cs (lexemes ++ left) := by
  induction read with
  | done => exact finish
  | blank blank _ ih =>
    intro start
    rw [tokenizeFrom_blank blank]
    exact ih finish _
  | token gap cut _ ih => exact .token gap cut (ih finish)

end Lexes

/-- A gap alone is read as the end. -/
theorem readsAs_end (gap : skipGap cs = .ok []) : ReadsAs cs [(.endOfText, [])] := by
  exact fun _ => ⟨_, tokenizeFrom_of_end gap, rfl⟩

theorem readsAs_nil : ReadsAs [] [(.endOfText, [])] := readsAs_end skipGap_nil

/-- What is read first is the end behind a gap or a token that is cut behind it, and then the text
    behind the token is read. -/
theorem tokenizeFrom_eq_cons {start : Nat} {t : Token} {tokens : List Token}
    (read : tokenizeFrom start cs = .ok (t :: tokens)) :
    (skipGap cs = .ok [] ∧ t.lexeme = (.endOfText, []) ∧ tokens = []) ∨
      ∃ c rest behind next, skipGap cs = .ok (c :: rest) ∧
        cutToken c rest = .ok (t.kind, t.text, behind) ∧ tokenizeFrom next behind = .ok tokens := by
  cases gap : skipGap cs with
  | error unclosed =>
    rw [tokenizeFrom_of_unclosed gap] at read
    cases read
  | ok rest =>
    cases rest with
    | nil =>
      rw [tokenizeFrom_of_end gap] at read
      cases read
      exact .inl ⟨rfl, rfl, rfl⟩
    | cons c rest =>
      cases cut : cutToken c rest with
      | error problem =>
        rw [tokenizeFrom_of_malformed gap cut] at read
        cases read
      | ok token =>
        obtain ⟨kind, text, behind⟩ := token
        rw [tokenizeFrom_of_token gap cut] at read
        cases tail : tokenizeFrom (start + (cs.length - (rest.length + 1)) + text.length) behind
          with
        | error fault =>
          rw [tail] at read
          cases read
        | ok more =>
          rw [tail] at read
          cases read
          exact .inr ⟨c, rest, behind, _, rfl, cut, tail⟩

/-- Every token but the one for the end was cut where it begins, and no comment begins there. -/
theorem tokenizeFrom_forall_token {p : Lexeme → Prop} (ending : p (.endOfText, []))
    (each : ∀ c cs kind text behind, (c = '/' → cs.head? ≠ some '/' ∧ cs.head? ≠ some '*') →
      cutToken c cs = .ok (kind, text, behind) → p (kind, text))
    {start : Nat} {tokens : List Token} (read : tokenizeFrom start cs = .ok tokens) :
    ∀ t ∈ tokens, p t.lexeme := by
  induction tokens generalizing start cs with
  | nil => exact List.forall_mem_nil _
  | cons t tokens ih =>
    rcases tokenizeFrom_eq_cons read with ⟨-, last, rfl⟩ | ⟨c, rest, behind, next, gap, cut, tail⟩
    · rw [List.forall_mem_singleton, last]
      exact ending
    · have first := each c rest t.kind t.text behind (no_comment_of_skipGap gap) cut
      exact List.forall_mem_cons.mpr ⟨first, ih tail⟩

theorem tokenizeFrom_forall {p : Lexeme → Prop} (ending : p (.endOfText, []))
    (each : ∀ c cs kind text behind, cutToken c cs = .ok (kind, text, behind) → p (kind, text))
    {start : Nat} {tokens : List Token} (read : tokenizeFrom start cs = .ok tokens) :
    ∀ t ∈ tokens, p t.lexeme :=
  tokenizeFrom_forall_token ending (fun c cs kind text behind _ => each c cs kind text behind) read

theorem lexemesOf_forall {p : Lexeme → Prop} (ending : p (.endOfText, []))
    (each : ∀ c cs kind text behind, cutToken c cs = .ok (kind, text, behind) → p (kind, text))
    (read : lexemesOf cs = .ok lexemes) : ∀ lexeme ∈ lexemes, p lexeme := by
  obtain ⟨tokens, ended, rfl⟩ := lexemesOf_eq_ok.mp read 0
  exact List.forall_mem_map.mpr (tokenizeFrom_forall ending each ended)

/-- In a gap without comments there is nothing but white space. -/
theorem blanks_of_skipGap (noSlash : '/' ∉ cs) (gap : skipGap cs = .ok rest) :
    ∃ front, cs = front ++ rest ∧ ∀ c ∈ front, isBlank c = true := by
  fun_induction skipGap cs with
  | case1 =>
    cases gap
    exact ⟨[], rfl, by simp⟩
  | case2 => simp at noSlash
  | case3 => simp at noSlash
  | case4 => cases gap
  | case5 c cs _ _ blank ih =>
    obtain ⟨front, rfl, blanks⟩ := ih (List.not_mem_of_not_mem_cons noSlash) gap
    exact ⟨c :: front, rfl, List.forall_mem_cons.mpr ⟨blank, blanks⟩⟩
  | case6 =>
    cases gap
    exact ⟨[], rfl, by simp⟩

/-- A text is what is left of it between white space. -/
theorem trim_spec (cs : List Char) :
    ∃ front back, cs = front ++ (trim cs ++ back) ∧ (∀ c ∈ front, isBlank c = true) ∧
      ∀ c ∈ back, isBlank c = true := by
  refine ⟨cs.takeWhile isBlank, ((cs.dropWhile isBlank).reverse.takeWhile isBlank).reverse, ?_,
    List.all_eq_true.mp List.all_takeWhile, ?_⟩
  · rw [trim, trimEnd, ← List.reverse_append, List.takeWhile_append_dropWhile, List.reverse_reverse,
      List.takeWhile_append_dropWhile]
  · intro c member
    exact List.all_eq_true.mp List.all_takeWhile c (List.mem_reverse.mp member)

section Names

variable {c : Char} {kind : TokenKind} {text behind : List Char} {cut : Cut}

/-- Before white space a name ends. -/
theorem EndsName.blanks {front : List Char} (blank : ∀ c ∈ front, isBlank c = true)
    (ends : EndsName cs) : EndsName (front ++ cs) := by
  cases front with
  | nil => exact ends
  | cons c front =>
    have first := blank c List.mem_cons_self
    exact endsName_cons (isIdentPart_of_isBlank first) (isOperatorChar_of_isBlank first)

theorem isIdentifier_of_delimiter (delimiter : delimiterKind? c = some kind) :
    kind.isIdentifier = false := by
  unfold delimiterKind? at delimiter
  split at delimiter <;> cases delimiter <;> rfl

/-- The ways in which an identifier is cut: a quoted name, a plain one or an operator. -/
inductive Named (c : Char) (cs : List Char) : TokenKind → Cut → Prop
  | quoted {kind : TokenKind} {cut : Cut} : c = '\x60' → cutQuotedName cs = .ok (kind, cut) →
      Named c cs kind cut
  | word : isIdentStart c = true → Named c cs (wordKind (cutWord c cs).1) (cutWord c cs)
  | operator : c ≠ '\x60' → isIdentStart c = false → isDigit c = false → c ≠ '"' → c ≠ '\'' →
      delimiterKind? c = none → isOperatorChar c = true →
      Named c cs (operatorKind (cutOperator (c :: cs)).1) (cutOperator (c :: cs))

theorem named_of_cutToken (read : cutToken c cs = .ok (kind, cut))
    (identifier : kind.isIdentifier = true) : Named c cs kind cut := by
  unfold cutToken at read
  split at read
  · rename_i quote
    exact .quoted quote read
  rename_i noQuote
  split at read
  · rename_i start
    cases read
    exact .word start
  rename_i noStart
  split at read
  · rcases kind_of_cutNumber read with rfl | rfl <;> cases identifier
  rename_i noNumber
  split at read
  · cases kind_of_cutString read
    cases identifier
  rename_i noString
  split at read
  · rcases kind_of_cutSingleQuoted read with rfl | rfl <;> cases identifier
  rename_i noCharacter
  split at read
  · rename_i delimiter
    cases read
    rw [isIdentifier_of_delimiter delimiter] at identifier
    cases identifier
  rename_i noDelimiter
  split at read
  · rename_i operator
    cases read
    rw [startsNumber, Bool.or_eq_true, not_or] at noNumber
    exact .operator noQuote (by simpa using noStart) (by simpa using noNumber.1) noString
      noCharacter noDelimiter operator
  · cases read

/-- Where a plain name begins, one is cut. -/
theorem cutToken_start (start : isIdentStart c = true) (cs : List Char) :
    cutToken c cs = .ok (wordKind (cutWord c cs).1, cutWord c cs) := by
  rw [cutToken, if_neg (ne_of_isIdentStart start).1, if_pos start]

/-- Nothing is skipped where a plain name begins. -/
theorem skipGap_start (start : isIdentStart c = true) (cs : List Char) :
    skipGap (c :: cs) = .ok (c :: cs) :=
  skipGap_token (isBlank_of_isIdentPart (isIdentPart_of_isIdentStart start))
    fun slash => absurd slash (ne_of_isIdentStart start).2

/-- An identifier is read as it is before a text at which a name ends. -/
theorem cutToken_before (read : cutToken c cs = .ok (kind, cut))
    (identifier : kind.isIdentifier = true) (ends : EndsName rest) :
    cutToken c (cs ++ rest) = .ok (kind, cut.before rest) := by
  cases named_of_cutToken read identifier with
  | quoted quote read =>
    rw [cutToken, if_pos quote]
    exact cutQuotedName_before read rest
  | word start =>
    rw [cutToken_start start, cutWord_before c cs ends]
    rfl
  | operator noQuote noStart noDigit noString noCharacter noDelimiter operator =>
    have noNumber : startsNumber c (cs ++ rest) = false := by
      have noDot : c ≠ '.' := by
        rintro rfl
        cases noDelimiter
      simp [startsNumber, noDigit, noDot]
    rw [cutToken, if_neg noQuote, noStart, if_neg Bool.false_ne_true, noNumber,
      if_neg Bool.false_ne_true, if_neg noString, if_neg noCharacter, noDelimiter, if_pos operator,
      ← List.cons_append, cutOperator_before _ ends]
    rfl

/-- A plain name is read to its end. -/
theorem cutToken_word (start : isIdentStart c = true) (part : ∀ d ∈ cs, isIdentPart d = true)
    (ends : EndsName rest) :
    cutToken c (cs ++ rest) = .ok (wordKind (c :: cs), c :: cs, rest) := by
  have whole : cutWord c cs = (c :: cs, []) := by
    have all : cutWhile isIdentPart cs = (cs, []) := by
      rw [cutWhile, List.takeWhile_eq_self_iff.mpr part, List.dropWhile_eq_nil_iff.mpr part]
    rw [cutWord, all]
    dsimp only
    split <;> simp [cutWhile]
  rw [cutToken_start start, cutWord_before c cs ends, whole]
  rfl

/-- What a plain name is read as. -/
def wordLexeme (word : List Char) : Lexeme := (wordKind word, word)

theorem isIdentifier_wordKind {word : List Char} (free : isScalaKeyword word = false) :
    (wordKind word).isIdentifier = true := by
  unfold wordKind
  rw [free, if_neg Bool.false_ne_true]
  split
  · split <;> rfl
  · rfl

theorem lexes_word {name : List Char} (plain : isPlainName name = true) (ends : EndsName rest) :
    Lexes (name ++ rest) [wordLexeme name] rest := by
  obtain ⟨c, cs, rfl, start, part⟩ := exists_of_isPlainName plain
  exact .token (skipGap_start start _) (cutToken_word start part ends) .done

theorem operator_of_mem_cutOperator {d : Char} (member : d ∈ (cutOperator cs).1) :
    isOperatorChar d = true := by
  fun_induction cutOperator cs with
  | case1 => cases member
  | case2 => cases member
  | case3 => cases member
  | case4 c cs operator _ word rest cut ih =>
    rw [cut] at ih
    rcases List.mem_cons.mp member with rfl | member
    · simpa using operator
    · exact ih member

/-- An identifier that is not quoted is made of the characters of names and of operators. -/
theorem char_of_identifier (read : cutToken c cs = .ok (kind, text, behind))
    (identifier : kind.isIdentifier = true) :
    text.head? = some '\x60' ∨ ∀ d ∈ text, isIdentPart d = true ∨ isOperatorChar d = true := by
  generalize same : (text, behind) = cut at read
  cases named_of_cutToken read identifier with
  | quoted quote read =>
    refine .inl ?_
    unfold cutQuotedName at read
    split at read
    · cases read
    · simp only [Except.ok.injEq, Prod.mk.injEq] at read
      rw [← read.2] at same
      cases same
      rfl
    · cases read
  | word start =>
    refine .inr ?_
    rw [cutWord] at same
    have parts : ∀ d ∈ c :: (cutWhile isIdentPart cs).1, isIdentPart d = true :=
      List.forall_mem_cons.mpr
        ⟨isIdentPart_of_isIdentStart start, List.all_eq_true.mp List.all_takeWhile⟩
    dsimp only at same
    split at same
    · cases same
      rintro d member
      rcases List.mem_append.mp member with member | member
      · exact .inl (parts d member)
      · exact .inr (List.all_eq_true.mp List.all_takeWhile d member)
    · cases same
      exact fun d member => .inl (parts d member)
  | operator =>
    refine .inr fun d member => .inr ?_
    have text_eq := congrArg Prod.fst same
    dsimp only at text_eq
    exact operator_of_mem_cutOperator (text_eq ▸ member)

/-- Where nothing but the end is read, nothing but a gap is left. -/
theorem skipGap_of_singleton {start : Nat} {e : Token} (read : tokenizeFrom start cs = .ok [e]) :
    skipGap cs = .ok [] := by
  rcases tokenizeFrom_eq_cons read with ⟨gap, -⟩ | ⟨_, _, _, _, -, -, tail⟩
  · exact gap
  · obtain ⟨body, ending, -⟩ := (tiles_of_tokenizeFrom tail).ending
    simp at ending

/-- A text without slashes that is read as one token has it cut where it begins, and there is
    nothing but white space around it. -/
theorem cutToken_of_tokenize {t e : Token} (noSlash : '/' ∉ cs) (read : tokenize cs = .ok [t, e]) :
    ∃ front c rest behind, cs = front ++ c :: rest ∧ (∀ d ∈ front, isBlank d = true) ∧
      isBlank c = false ∧ cutToken c rest = .ok (t.kind, t.text, behind) ∧
      ∀ d ∈ behind, isBlank d = true := by
  rcases tokenizeFrom_eq_cons read with ⟨-, -, none⟩ | ⟨c, rest, behind, next, gap, cut, tail⟩
  · cases none
  obtain ⟨front, rfl, blanks⟩ := blanks_of_skipGap noSlash gap
  have noSlashBehind : '/' ∉ behind := by
    have whole : t.text ++ behind = c :: rest := cutToken_append cut
    rw [← whole] at noSlash
    exact fun member => noSlash (List.mem_append_right _ (List.mem_append_right _ member))
  obtain ⟨back, rfl, blankBehind⟩ := blanks_of_skipGap noSlashBehind (skipGap_of_singleton tail)
  rw [List.append_nil] at cut
  exact ⟨front, c, rest, back, rfl, blanks, isBlank_of_skipGap gap, cut, blankBehind⟩

/-- The name of a type, without slashes, is read as one identifier before a text at which a name
    ends. -/
theorem lexes_of_isTypeIdent {type : List Char} (valid : isTypeIdent type = true)
    (noSlash : '/' ∉ type) :
    ∃ lexeme : Lexeme, lexeme.1.isIdentifier = true ∧
      ∀ rest, EndsName rest → Lexes (type ++ rest) [lexeme] rest := by
  obtain ⟨front, back, whole, blankFront, blankBack⟩ := trim_spec type
  have single : isSingleIdent type = true := by
    rw [isTypeIdent, Bool.and_eq_true] at valid
    exact valid.1
  unfold isSingleIdent at single
  split at single
  · rename_i t e read
    have noSlashInside : '/' ∉ trim type := by
      rw [whole] at noSlash
      exact fun member => noSlash (List.mem_append_right _ (List.mem_append_left _ member))
    obtain ⟨gap, c, cs, behind, inside, blankGap, solid, cut, blankBehind⟩ :=
      cutToken_of_tokenize noSlashInside read
    have noComment : c ≠ '/' := by
      rintro rfl
      exact noSlashInside (inside ▸ List.mem_append_right _ List.mem_cons_self)
    refine ⟨t.lexeme, single, fun rest ends => ?_⟩
    have ends' : EndsName (back ++ rest) := ends.blanks blankBack
    have cut' := cutToken_before cut single ends'
    have read' : Lexes (c :: (cs ++ (back ++ rest))) [t.lexeme] rest := by
      refine .token (skipGap_token solid fun slash => absurd slash noComment) cut' ?_
      exact .blanks blankBehind (.blanks blankBack .done)
    rw [whole, inside]
    simpa using Lexes.blanks blankFront (Lexes.blanks blankGap read')
  · cases single

end Names

end Scaffold.Scala
