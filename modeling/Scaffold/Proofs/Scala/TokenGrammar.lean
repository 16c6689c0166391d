import Scaffold.Proofs.Scala.LiteralGrammar

/-!
# The grammar of tokens

Every class of tokens has a grammar of its own.  A text that belongs to the grammar of a class
determines that class, so that a token is of a class exactly if its text belongs to the grammar.
-/

namespace Scaffold.Scala

open Text

/-- The first character of a name, inside its quotes. -/
def initial? : List Char → Option Char
  | '\x60' :: cs => cs.head?
  | cs => cs.head?

/-- Whether a name begins with a lower-case letter. -/
def beginsLower (name : List Char) : Bool :=
  (initial? name).any fun c => category c == .lowercaseLetter

/-- The text belongs to the grammar of a class of tokens. -/
def TokenKind.Describes : TokenKind → List Char → Prop
  | .varId, text => TypeWord [] text ∧ beginsLower text = true
  | .otherId, text => TypeWord [] text ∧ beginsLower text = false
  | .keyword, text => isScalaKeyword text = true
  | .integerLiteral, text => IntegerText text
  | .floatingPointLiteral, text => FloatingPointText text
  | .characterLiteral, text => CharacterText text
  | .stringLiteral, text => StringText text
  | .symbolLiteral, text => SymbolText text
  | .leftParen, text => text = ['(']
  | .rightParen, text => text = [')']
  | .leftBracket, text => text = ['[']
  | .rightBracket, text => text = [']']
  | .leftBrace, text => text = ['\x7b']
  | .rightBrace, text => text = ['\x7d']
  | .dot, text => text = ['.']
  | .comma, text => text = [',']
  | .semicolon, text => text = [';']
  | .endOfText, text => text = []

section Sound

variable {c : Char} {cs word text behind : List Char} {kind : TokenKind}

theorem NoneBegins.alone {marks : List (List Char)} (clear : NoneBegins marks word behind) :
    NoneBegins marks word [] := by
  intro before more whole within mark member begins
  rw [List.append_nil] at whole
  refine clear before (more ++ behind) ?_ within mark member ?_
  · rw [whole, List.append_assoc]
  · exact begins.trans (List.prefix_append more behind)

/-- An identifier in front of a gap is one by itself. -/
theorem TypeWord.alone (named : TypeWord behind word) : TypeWord [] word := by
  cases named with
  | quoted nonempty quotable => exact .quoted nonempty quotable
  | plain start part operator joined _ free =>
    exact .plain start part operator joined (fun _ d head => by cases head) free
  | operator nonempty operators free clear => exact .operator nonempty operators free clear.alone

/-- An identifier belongs to the class that its first character tells. -/
theorem describes_identifier (named : TypeWord [] text) :
    (if beginsLower text = true then TokenKind.varId else .otherId).Describes text := by
  split
  · rename_i lower
    exact ⟨named, lower⟩
  · rename_i noLower
    exact ⟨named, by simpa using noLower⟩

theorem beginsLower_cons (noQuote : c ≠ '\x60') (cs : List Char) :
    beginsLower (c :: cs) = (category c == .lowercaseLetter) := by
  have first : initial? (c :: cs) = some c := by
    unfold initial?
    split
    · rename_i quote
      exact absurd (List.cons.inj quote).1 noQuote
    · rfl
  rw [beginsLower, first, Option.any_some]

theorem describes_wordKind (start : isIdentStart c = true)
    (named : (wordKind (c :: cs)).isIdentifier = true → TypeWord [] (c :: cs)) :
    (wordKind (c :: cs)).Describes (c :: cs) := by
  have noQuote := (ne_of_isIdentStart start).1
  cases reserved : isScalaKeyword (c :: cs) with
  | true =>
    rw [wordKind, if_pos reserved]
    exact reserved
  | false =>
    have identifier := describes_identifier (named (isIdentifier_wordKind reserved))
    simpa [wordKind, reserved, beginsLower_cons noQuote] using identifier

/-- No operator is a lower-case letter. -/
theorem category_of_isOperatorChar (operator : isOperatorChar c = true) :
    category c ≠ .lowercaseLetter := by
  intro lower
  have noPart := isIdentPart_of_isOperatorChar operator
  rw [isIdentPart, isIdentStart, isLetter, lower] at noPart
  simp [Category.isLetter] at noPart

theorem describes_operatorKind (operator : isOperatorChar c = true)
    (named : (operatorKind (c :: cs)).isIdentifier = true → TypeWord [] (c :: cs)) :
    (operatorKind (c :: cs)).Describes (c :: cs) := by
  have noMark := not_mem_marks (.inr operator)
  simp only [marks, List.mem_cons, not_or] at noMark
  cases reserved : isScalaKeyword (c :: cs) with
  | true =>
    rw [operatorKind, if_pos reserved]
    exact reserved
  | false =>
    rw [operatorKind, reserved, if_neg Bool.false_ne_true] at named ⊢
    refine ⟨named rfl, ?_⟩
    rw [beginsLower_cons noMark.1]
    simpa using category_of_isOperatorChar operator

theorem describes_delimiter (delimiter : delimiterKind? c = some kind) : kind.Describes [c] := by
  unfold delimiterKind? at delimiter
  split at delimiter <;> cases delimiter <;> rfl

/-- Every token that is cut belongs to the grammar of its class. -/
theorem describes_of_cutToken
    (noComment : c = '/' → cs.head? ≠ some '/' ∧ cs.head? ≠ some '*')
    (read : cutToken c cs = .ok (kind, text, behind)) : kind.Describes text := by
  have named : kind.isIdentifier = true → TypeWord [] text :=
    fun identifier => (typeWord_of_cutToken noComment read identifier).alone
  unfold cutToken at read
  split at read
  · obtain ⟨d, name, whole, -, rfl⟩ := cutQuotedName_sound read
    dsimp only at whole
    subst whole
    have identifier := describes_identifier (named (by split <;> rfl))
    simpa [beginsLower, initial?] using identifier
  split at read
  · rename_i start
    obtain ⟨rfl, cut⟩ := Prod.mk.inj (Except.ok.inj read)
    obtain ⟨parts, operators, whole, -⟩ := cutWord_sound c cs
    rw [cut] at whole named ⊢
    dsimp only at whole named ⊢
    subst whole
    exact describes_wordKind start named
  split at read
  · rename_i starts
    rcases cutNumber_sound starts read with ⟨rfl, number⟩ | ⟨rfl, number⟩
    · exact number
    · exact number
  split at read
  · obtain ⟨rfl, string⟩ := cutString_sound read
    exact string
  split at read
  · rcases cutSingleQuoted_sound read with ⟨rfl, quoted⟩ | ⟨rfl, quoted⟩
    · exact quoted
    · exact quoted
  split at read
  · rename_i delimiter
    cases read
    exact describes_delimiter delimiter
  split at read
  · rename_i operator
    obtain ⟨rfl, cut⟩ := Prod.mk.inj (Except.ok.inj read)
    have whole := cutOperator_append (c :: cs)
    have nonempty := cutOperator_ne_nil operator noComment
    rw [cut] at whole nonempty named ⊢
    obtain ⟨d, word, rfl⟩ := List.exists_cons_of_ne_nil nonempty
    obtain ⟨rfl, -⟩ := List.cons.inj whole
    exact describes_operatorKind operator named
  · cases read

end Sound

/-- Whether the text of a number is that of an integer. -/
def isIntegral (text : List Char) : Bool :=
  text.contains 'x' || text.contains 'X' || text.all fun c => isDigit c || c == 'l' || c == 'L'

/-- The class of a token with the text. -/
def kindOf : List Char → TokenKind
  | [] => .endOfText
  | c :: cs =>
    if startsNumber c cs then
      if isIntegral (c :: cs) then .integerLiteral else .floatingPointLiteral
    else if c = '"' then .stringLiteral
    else if c = '\'' then
      if (c :: cs).getLast? = some '\'' then .characterLiteral else .symbolLiteral
    else
      match delimiterKind? c with
      | some kind => kind
      | none =>
        if isScalaKeyword (c :: cs) then .keyword
        else if beginsLower (c :: cs) then .varId
        else .otherId

section Determined

variable {c : Char} {cs text : List Char} {kind : TokenKind}

/-- The class of a token that begins like a name. -/
theorem kindOf_name (noDigit : isDigit c = false) (noMark : c ∉ marks ∨ c = '\x60') :
    kindOf (c :: cs) = if isScalaKeyword (c :: cs) then .keyword
      else if beginsLower (c :: cs) then .varId else .otherId := by
  have others : c ≠ '.' ∧ c ≠ '"' ∧ c ≠ '\'' ∧ delimiterKind? c = none := by
    rcases noMark with noMark | rfl
    · have noDelimiter := delimiterKind?_of_not_mem noMark
      simp only [marks, List.mem_cons, List.mem_nil_iff, or_false, not_or] at noMark
      simp [noMark, noDelimiter]
    · decide
  obtain ⟨noDot, noString, noCharacter, noDelimiter⟩ := others
  have noNumber : ¬ startsNumber c cs = true := by simp [startsNumber, noDigit, noDot]
  rw [kindOf, if_neg noNumber, if_neg noString, if_neg noCharacter, noDelimiter]

theorem kindOf_number (starts : startsNumber c cs = true) :
    kindOf (c :: cs) =
      if isIntegral (c :: cs) then .integerLiteral else .floatingPointLiteral := by
  rw [kindOf, if_pos starts]

/-- A name begins neither with a digit nor with a mark other than the back-quote. -/
theorem TypeWord.head (named : TypeWord [] text) :
    ∃ c cs, text = c :: cs ∧ isDigit c = false ∧ (c ∉ marks ∨ c = '\x60') := by
  cases named with
  | quoted => exact ⟨_, _, rfl, by decide, .inr rfl⟩
  | plain start =>
    exact ⟨_, _, rfl, isDigit_of_isIdentStart start,
      .inl (not_mem_marks (.inl (isIdentPart_of_isIdentStart start)))⟩
  | operator nonempty operators =>
    obtain ⟨c, cs, rfl⟩ := List.exists_cons_of_ne_nil nonempty
    have operator := operators c List.mem_cons_self
    exact ⟨c, cs, rfl, isDigit_of_isOperatorChar operator, .inl (not_mem_marks (.inr operator))⟩

theorem kindOf_keyword (reserved : isScalaKeyword text = true) : kindOf text = .keyword := by
  have words : ∀ word ∈ scalaKeywords, kindOf word.toList = .keyword := by decide +kernel
  have word := words _ (List.contains_iff_mem.mp reserved)
  rwa [String.toList_ofList] at word

theorem kindOf_identifier (named : TypeWord [] text) :
    kindOf text = if beginsLower text then .varId else .otherId := by
  have free := named.not_isScalaKeyword
  obtain ⟨c, cs, rfl, noDigit, noMark⟩ := named.head
  rw [kindOf_name noDigit noMark, free, if_neg Bool.false_ne_true]

theorem startsNumber_of_isDigit (digit : isDigit c = true) (cs : List Char) :
    startsNumber c cs = true := by
  rw [startsNumber, digit, Bool.true_or]

theorem kindOf_integer (integer : IntegerText text) : kindOf text = .integerLiteral := by
  cases integer with
  | @hexadecimal mark digits suffix hex =>
    have integral : isIntegral ('0' :: mark :: (digits ++ suffix)) = true := by
      simp only [List.mem_cons, List.mem_nil_iff, or_false] at hex
      rcases hex with rfl | rfl
      · simp [isIntegral]
      · simp [isIntegral]
    rw [kindOf_number (startsNumber_of_isDigit rfl _), if_pos integral]
  | @decimal digits suffix run ended =>
    obtain ⟨nonempty, digit⟩ := run
    have letters : (['l', 'L'].all fun e => isDigit e || e == 'l' || e == 'L') = true := by decide
    have integral : isIntegral (digits ++ suffix) = true := by
      rw [isIntegral, Bool.or_eq_true]
      refine .inr (List.all_eq_true.mpr fun d member => ?_)
      rcases List.mem_append.mp member with member | member
      · rw [digit d member]
        rfl
      · rcases ended with rfl | ⟨e, choice, rfl⟩
        · cases member
        · rw [List.mem_singleton.mp member]
          exact List.all_eq_true.mp letters e choice
    obtain ⟨d, ds, rfl⟩ := List.exists_cons_of_ne_nil nonempty
    have starts := startsNumber_of_isDigit (digit d List.mem_cons_self) (ds ++ suffix)
    rw [List.cons_append] at integral ⊢
    rw [kindOf_number starts, if_pos integral]

/-- The characters that a fraction, an exponent or a suffix begins with. -/
def partMarks : List Char := ['.', 'e', 'E', 'f', 'F', 'd', 'D']

/-- A part of a number that may be missing is made of digits and signs behind its mark. -/
def NumberPart (part : List Char) : Prop :=
  (∀ d ∈ part, isDigit d = true ∨ d ∈ ['+', '-'] ∨ d ∈ partMarks) ∧
    (part ≠ [] → ∃ d ∈ part, d ∈ partMarks)

theorem numberPart_cons {mark : Char} {more : List Char} (begins : mark ∈ partMarks)
    (others : ∀ d ∈ more, isDigit d = true ∨ d ∈ ['+', '-']) : NumberPart (mark :: more) := by
  refine ⟨List.forall_mem_cons.mpr ⟨.inr (.inr begins), fun d member => ?_⟩, fun _ => ?_⟩
  · exact (others d member).imp_right Or.inl
  · exact ⟨mark, List.mem_cons_self, begins⟩

theorem numberPart_nil : NumberPart [] :=
  ⟨List.forall_mem_nil _, fun nonempty => absurd rfl nonempty⟩

theorem numberPart_fraction {part : List Char} (fraction : part = [] ∨ FractionText part) :
    NumberPart part := by
  rcases fraction with rfl | ⟨-, digits⟩
  · exact numberPart_nil
  · exact numberPart_cons (by decide) fun d member => .inl (digits d member)

theorem numberPart_exponent {part : List Char} (exponent : part = [] ∨ ExponentText part) :
    NumberPart part := by
  rcases exponent with rfl | ⟨mark, sign, -, digits⟩
  · exact numberPart_nil
  · have marks : ['e', 'E'] ⊆ partMarks := by simp [partMarks]
    refine numberPart_cons (marks mark) fun d member => ?_
    rcases List.mem_append.mp member with member | member
    · rcases sign with rfl | ⟨e, choice, rfl⟩
      · cases member
      · exact .inr (List.mem_singleton.mp member ▸ choice)
    · exact .inl (digits d member)

theorem numberPart_suffix {part : List Char} (suffix : AtMostOne ['f', 'F', 'd', 'D'] part) :
    NumberPart part := by
  rcases suffix with rfl | ⟨c, choice, rfl⟩
  · exact numberPart_nil
  · have marks : ['f', 'F', 'd', 'D'] ⊆ partMarks := by simp [partMarks]
    exact numberPart_cons (marks choice) (List.forall_mem_nil _)

/-- A number with a fraction, an exponent or a suffix has their marks and nothing that only integers
    have. -/
theorem FloatingPointText.chars (floating : FloatingPointText text) :
    (∀ d ∈ text, isDigit d = true ∨ d ∈ ['+', '-'] ∨ d ∈ partMarks) ∧
      ∃ d ∈ text, d ∈ partMarks := by
  obtain ⟨digits, fraction, exponent, suffix, parts, -⟩ := floating
  have fraction := numberPart_fraction fraction
  have exponent := numberPart_exponent exponent
  have suffix := numberPart_suffix suffix
  refine ⟨?_, ?_⟩
  · intro d member
    simp only [List.mem_append] at member
    rcases member with member | member | member | member
    · exact .inl (digits d member)
    · exact fraction.1 d member
    · exact exponent.1 d member
    · exact suffix.1 d member
  · simp only [List.mem_append]
    rcases parts with nonempty | nonempty | nonempty
    · obtain ⟨d, member, mark⟩ := fraction.2 nonempty
      exact ⟨d, .inr (.inl member), mark⟩
    · obtain ⟨d, member, mark⟩ := exponent.2 nonempty
      exact ⟨d, .inr (.inr (.inl member)), mark⟩
    · obtain ⟨d, member, mark⟩ := suffix.2 nonempty
      exact ⟨d, .inr (.inr (.inr member)), mark⟩

theorem FloatingPointText.not_isIntegral (floating : FloatingPointText text) :
    isIntegral text = false := by
  obtain ⟨chars, d, member, mark⟩ := floating.chars
  have noLower : 'x' ∉ text := fun within => absurd (chars 'x' within) (by decide)
  have noUpper : 'X' ∉ text := fun within => absurd (chars 'X' within) (by decide)
  have others : (partMarks.all fun d => !(isDigit d || d == 'l' || d == 'L')) = true := by decide
  have lower : text.contains 'x' = false := by simpa using noLower
  have upper : text.contains 'X' = false := by simpa using noUpper
  have digits : (text.all fun c => isDigit c || c == 'l' || c == 'L') = false :=
    List.all_eq_false.mpr ⟨d, member, by simpa using List.all_eq_true.mp others d mark⟩
  rw [isIntegral, lower, upper, digits]
  rfl

/-- A number begins with a digit, or with a point and a digit. -/
theorem FloatingPointText.head (floating : FloatingPointText text) :
    ∃ c cs, text = c :: cs ∧ startsNumber c cs = true := by
  obtain ⟨digits, fraction, -, -, -, nonempty⟩ := floating
  rename_i whole part exponent suffix
  cases whole with
  | cons d whole =>
    exact ⟨d, _, rfl, startsNumber_of_isDigit (digits d List.mem_cons_self) _⟩
  | nil =>
    have present := nonempty.resolve_left fun some => some rfl
    obtain ⟨some, digits⟩ := fraction.resolve_left present
    obtain ⟨d, more, rfl⟩ := List.exists_cons_of_ne_nil some
    refine ⟨'.', _, rfl, ?_⟩
    simp [startsNumber, digits d List.mem_cons_self]

theorem kindOf_floatingPoint (floating : FloatingPointText text) :
    kindOf text = .floatingPointLiteral := by
  have fractional := floating.not_isIntegral
  obtain ⟨c, cs, rfl, starts⟩ := floating.head
  rw [kindOf_number starts, fractional, if_neg Bool.false_ne_true]

/-- A text behind a single quote is a character if a single quote closes it, and else a symbol. -/
theorem kindOf_quote (cs : List Char) :
    kindOf ('\'' :: cs) =
      if ('\'' :: cs).getLast? = some '\'' then .characterLiteral else .symbolLiteral := by
  rw [kindOf, if_neg (by simp [startsNumber, isDigit]), if_neg (by decide), if_pos rfl]

theorem kindOf_character (character : CharacterText text) : kindOf text = .characterLiteral := by
  have quoted : ∃ body, text = '\'' :: (body ++ ['\'']) := by
    cases character with
    | @plain c => exact ⟨[c], rfl⟩
    | @escaped escape => exact ⟨escape, rfl⟩
  obtain ⟨body, rfl⟩ := quoted
  have closed : ('\'' :: (body ++ ['\''])).getLast? = some '\'' := by
    rw [← List.cons_append, List.getLast?_concat]
  rw [kindOf_quote, if_pos closed]

theorem kindOf_symbol (symbol : SymbolText text) : kindOf text = .symbolLiteral := by
  obtain ⟨start, part⟩ := symbol
  rename_i c cs
  have parts : ∀ d ∈ c :: cs, isIdentPart d = true :=
    List.forall_mem_cons.mpr ⟨isIdentPart_of_isIdentStart start, part⟩
  have opened : ('\'' :: c :: cs).getLast? ≠ some '\'' := by
    intro last
    rw [List.getLast?_cons_cons] at last
    have quote := parts '\'' (List.mem_of_getLast? last)
    exact not_mem_marks (.inl quote) (by decide)
  rw [kindOf_quote, if_neg opened]

/-- A text that belongs to the grammar of a class determines the class. -/
theorem kindOf_of_describes (described : kind.Describes text) : kindOf text = kind := by
  cases kind with
  | varId => rw [kindOf_identifier described.1, described.2, if_pos rfl]
  | otherId => rw [kindOf_identifier described.1, described.2, if_neg Bool.false_ne_true]
  | keyword => exact kindOf_keyword described
  | integerLiteral => exact kindOf_integer described
  | floatingPointLiteral => exact kindOf_floatingPoint described
  | characterLiteral => exact kindOf_character described
  | symbolLiteral => exact kindOf_symbol described
  | stringLiteral =>
    cases described with
    | line | multiLine => rfl
  | leftParen | rightParen | leftBracket | rightBracket | leftBrace | rightBrace | dot | comma
  | semicolon | endOfText =>
    cases described
    rfl

end Determined

/-- The classes of tokens are exact: a token is of a class if and only if its text belongs to the
    grammar of that class.  Of the two classes of names, the one is told from the other by the first
    character. -/
theorem tokenize_exact {source : List Char} {tokens : List Token}
    (read : tokenize source = .ok tokens) :
    ∀ t ∈ tokens, (∀ kind : TokenKind, t.kind = kind ↔ kind.Describes t.text) ∧
      (t.kind.isIdentifier = true → (t.kind = .varId ↔ beginsLower t.text = true)) := by
  have described : ∀ t ∈ tokens, t.kind.Describes t.text :=
    tokenizeFrom_forall_token (p := fun lexeme => lexeme.1.Describes lexeme.2) rfl
      (fun _ _ _ _ _ noComment cut => describes_of_cutToken noComment cut) read
  intro t member
  have belongs : ∀ kind : TokenKind, t.kind = kind ↔ kind.Describes t.text := by
    intro kind
    constructor
    · rintro rfl
      exact described t member
    · -- Two classes with the text in their grammars are both the one that the text determines.
      intro other
      rw [← kindOf_of_describes (described t member), kindOf_of_describes other]
  refine ⟨belongs, fun identifier => ⟨fun lower => ((belongs .varId).mp lower).2, fun lower => ?_⟩⟩
  rcases isIdentifier_cases identifier with known | known
  · exact known
  · have upper := ((belongs .otherId).mp known).2
    rw [lower] at upper
    cases upper

/-- The tokens of a text with literals of several classes. -/
theorem tokenize_exact_literals :
    tokenize "0xFL .5e-3 '\\n' \"\"\"q\"\"\"\"".toList =
      .ok [⟨.integerLiteral, ['0', 'x', 'F', 'L'], 0⟩,
        ⟨.floatingPointLiteral, ['.', '5', 'e', '-', '3'], 5⟩,
        ⟨.characterLiteral, ['\'', '\\', 'n', '\''], 11⟩,
        ⟨.stringLiteral, ['"', '"', '"', 'q', '"', '"', '"', '"'], 16⟩, ⟨.endOfText, [], 24⟩] ∧
    ∀ kind : TokenKind,
      .stringLiteral = kind ↔ kind.Describes ['"', '"', '"', 'q', '"', '"', '"', '"'] := by
  have read : tokenize "0xFL .5e-3 '\\n' \"\"\"q\"\"\"\"".toList =
      .ok [⟨.integerLiteral, ['0', 'x', 'F', 'L'], 0⟩,
        ⟨.floatingPointLiteral, ['.', '5', 'e', '-', '3'], 5⟩,
        ⟨.characterLiteral, ['\'', '\\', 'n', '\''], 11⟩,
        ⟨.stringLiteral, ['"', '"', '"', 'q', '"', '"', '"', '"'], 16⟩, ⟨.endOfText, [], 24⟩] := by
    decide +kernel
  exact ⟨read, (tokenize_exact read ⟨.stringLiteral, _, 16⟩ (by simp)).1⟩

end Scaffold.Scala
