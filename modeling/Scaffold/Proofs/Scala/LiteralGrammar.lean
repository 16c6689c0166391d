import Scaffold.Proofs.Scala.TypeGrammar

/-!
# The grammar of literals

What the texts of numbers, characters, strings and symbols are made of, apart from how they are
scanned.  Every scanner takes a text of its own grammar.
-/

namespace Scaffold.Scala

open Text

/-- At most one character, which is one of `choices`. -/
def AtMostOne (choices cs : List Char) : Prop := cs = [] ∨ ∃ c ∈ choices, cs = [c]

/-- At least one character, all of them in a class. -/
def Run (p : Char → Bool) (cs : List Char) : Prop := cs ≠ [] ∧ ∀ c ∈ cs, p c = true

/-- Hexadecimal digits behind their mark or decimal digits, and a suffix. -/
inductive IntegerText : List Char → Prop
  | hexadecimal {mark : Char} {digits suffix : List Char} : mark ∈ ['x', 'X'] →
      Run isHexDigit digits → AtMostOne ['l', 'L'] suffix →
      IntegerText ('0' :: mark :: (digits ++ suffix))
  | decimal {digits suffix : List Char} : Run isDigit digits → AtMostOne ['l', 'L'] suffix →
      IntegerText (digits ++ suffix)

/-- A point and digits. -/
inductive FractionText : List Char → Prop
  | mk {digits : List Char} : Run isDigit digits → FractionText ('.' :: digits)

/-- An exponent mark, a sign that may be missing, and digits. -/
inductive ExponentText : List Char → Prop
  | mk {mark : Char} {sign digits : List Char} : mark ∈ ['e', 'E'] → AtMostOne ['+', '-'] sign →
      Run isDigit digits → ExponentText (mark :: (sign ++ digits))

/-- Digits, then a fraction, an exponent and a suffix, one of which at least is there; a digit
    stands before or behind the point. -/
inductive FloatingPointText : List Char → Prop
  | mk {whole fraction exponent suffix : List Char} : (∀ d ∈ whole, isDigit d = true) →
      (fraction = [] ∨ FractionText fraction) → (exponent = [] ∨ ExponentText exponent) →
      AtMostOne ['f', 'F', 'd', 'D'] suffix →
      (fraction ≠ [] ∨ exponent ≠ [] ∨ suffix ≠ []) → (whole ≠ [] ∨ fraction ≠ []) →
      FloatingPointText (whole ++ (fraction ++ (exponent ++ suffix)))

/-- A backslash with a letter or a mark, with an octal digit, or with one `u` or more and four
    hexadecimal digits. -/
inductive EscapeText : List Char → Prop
  | named {c : Char} : c ∈ ['b', 't', 'n', 'f', 'r', '"', '\'', '\\'] → EscapeText ['\\', c]
  | octal {c : Char} : '0' ≤ c → c ≤ '7' → EscapeText ['\\', c]
  | unicode {marks digits : List Char} : Run (· == 'u') marks → digits.length = 4 →
      (∀ d ∈ digits, isHexDigit d = true) → EscapeText ('\\' :: (marks ++ digits))

/-- One plain character or one escape between single quotes. -/
inductive CharacterText : List Char → Prop
  | plain {c : Char} : c ≠ '\'' → c ≠ '\\' → isLineEnd c = false → CharacterText ['\'', c, '\'']
  | escaped {escape : List Char} : EscapeText escape → CharacterText ('\'' :: (escape ++ ['\'']))

/-- Plain characters and escapes of a string on one line. -/
inductive StringItems : List Char → Prop
  | nil : StringItems []
  | plain {c : Char} {items : List Char} : c ≠ '"' → c ≠ '\\' → isLineEnd c = false →
      StringItems items → StringItems (c :: items)
  | escaped {escape items : List Char} : EscapeText escape → StringItems items →
      StringItems (escape ++ items)

/-- Three quotes. -/
def tripleQuote : List Char := ['"', '"', '"']

/-- A string on one line, or one between triple quotes: it ends at the first triple quote and the
    further quotes behind it. -/
inductive StringText : List Char → Prop
  | line {items : List Char} : StringItems items → StringText ('"' :: (items ++ ['"']))
  | multiLine {body quotes : List Char} : NoneBegins [tripleQuote] body tripleQuote →
      (∀ c ∈ quotes, c = '"') → StringText (tripleQuote ++ (body ++ (tripleQuote ++ quotes)))

/-- A name behind a single quote. -/
inductive SymbolText : List Char → Prop
  | mk {c : Char} {cs : List Char} : isIdentStart c = true → (∀ d ∈ cs, isIdentPart d = true) →
      SymbolText ('\'' :: c :: cs)

section Numbers

variable {cs : List Char} {kind : TokenKind} {cut : Cut}

theorem cutOne_sound (choices cs : List Char) : AtMostOne choices (cutOne choices cs).1 := by
  cases cs with
  | nil => exact .inl rfl
  | cons c cs =>
    rw [cutOne]
    split
    · rename_i choice
      exact .inr ⟨c, List.contains_iff_mem.mp choice, rfl⟩
    · exact .inl rfl

theorem cutHexDigits_sound {mark : Char} (hex : mark ∈ ['x', 'X'])
    (read : cutHexDigits mark cs = .ok (kind, cut)) :
    kind = .integerLiteral ∧ IntegerText cut.1 := by
  simp only [cutHexDigits] at read
  split at read
  · cases read
  · rename_i nonempty
    cases read
    have digits : Run isHexDigit (cutWhile isHexDigit cs).1 :=
      ⟨by simpa using nonempty, cutWhile_sound isHexDigit cs⟩
    exact ⟨rfl, .hexadecimal hex digits (cutOne_sound _ _)⟩

theorem cutFraction_sound (cs : List Char) :
    (cutFraction cs).1 = [] ∨ FractionText (cutFraction cs).1 := by
  unfold cutFraction
  split
  · split
    · rename_i d cs digit
      have digits : Run isDigit (d :: (cutWhile isDigit cs).1) :=
        ⟨List.cons_ne_nil _ _, List.forall_mem_cons.mpr ⟨digit, cutWhile_sound isDigit cs⟩⟩
      exact .inr (.mk digits)
    · exact .inl rfl
  · exact .inl rfl

theorem cutExponent_sound (read : cutExponent cs = .ok cut) :
    cut.1 = [] ∨ ExponentText cut.1 := by
  have marks := cutOne_sound ['e', 'E'] cs
  simp only [cutExponent] at read
  split at read
  · cases read
    exact .inl rfl
  rename_i marked
  split at read
  · cases read
  · rename_i nonempty
    cases read
    rcases marks with none | ⟨mark, member, one⟩
    · simp [none] at marked
    · rw [one]
      exact .inr (.mk member (cutOne_sound _ _) ⟨by simpa using nonempty, cutWhile_sound _ _⟩)

theorem cutDecimal_sound {c : Char} (starts : startsNumber c cs = true)
    (read : cutDecimal (c :: cs) = .ok (kind, cut)) :
    (kind = .integerLiteral ∧ IntegerText cut.1) ∨
      (kind = .floatingPointLiteral ∧ FloatingPointText cut.1) := by
  have digits := cutWhile_sound isDigit (c :: cs)
  have fraction := cutFraction_sound (cutWhile isDigit (c :: cs)).2
  have start := cutDecimal_start starts
  simp only [cutDecimal] at read
  split at read
  · cases read
  rename_i exponent rest found
  have exponentText := cutExponent_sound found
  have suffix := cutOne_sound ['f', 'F', 'd', 'D'] rest
  split at read
  · rename_i d more rest' one
    cases read
    rw [one] at suffix
    rw [List.append_assoc, List.append_assoc]
    have parts := FloatingPointText.mk digits fraction exponentText suffix
      (.inr (.inr (List.cons_ne_nil _ _))) start
    exact .inr ⟨rfl, parts⟩
  split at read
  · rename_i bare
    cases read
    simp only [Bool.and_eq_true, List.isEmpty_iff] at bare
    rw [bare.1, ne_self_iff_false, or_false] at start
    rw [bare.1, bare.2, List.append_nil, List.append_nil]
    exact .inl ⟨rfl, .decimal ⟨start, digits⟩ (cutOne_sound _ _)⟩
  · rename_i parts
    cases read
    simp only [Bool.and_eq_true, List.isEmpty_iff, not_and_or] at parts
    have text := FloatingPointText.mk digits fraction exponentText (.inl rfl)
      (parts.imp_right Or.inl) start
    simp only [List.append_nil] at text
    rw [List.append_assoc]
    exact .inr ⟨rfl, text⟩

theorem cutNumber_sound {c : Char} (starts : startsNumber c cs = true)
    (read : cutNumber (c :: cs) = .ok (kind, cut)) :
    (kind = .integerLiteral ∧ IntegerText cut.1) ∨
      (kind = .floatingPointLiteral ∧ FloatingPointText cut.1) := by
  unfold cutNumber at read
  split at read
  · rename_i d more whole
    split at read
    · rename_i hex
      exact .inl (cutHexDigits_sound (by simpa using hex) read)
    · rw [← whole] at read
      exact cutDecimal_sound starts read
  · exact cutDecimal_sound starts read

end Numbers

section Quotes

variable {cs : List Char} {kind : TokenKind} {cut : Cut}

theorem cutEscape_sound (read : cutEscape cs = .ok cut) : EscapeText ('\\' :: cut.1) := by
  unfold cutEscape at read
  split at read
  · cases read
  rename_i c cs
  split at read
  · rename_i unicode
    simp only at read
    split at read
    · rename_i four
      cases read
      have marks : Run (· == 'u') (c :: (cutWhile (· == 'u') cs).1) :=
        ⟨List.cons_ne_nil _ _,
          List.forall_mem_cons.mpr ⟨beq_iff_eq.mpr unicode, cutWhile_sound _ cs⟩⟩
      exact .unicode marks four.1 (List.all_eq_true.mp four.2)
    · cases read
  split at read
  · rename_i single
    cases read
    rw [Bool.or_eq_true, Bool.and_eq_true, decide_eq_true_iff, decide_eq_true_iff] at single
    rcases single with letter | ⟨low, high⟩
    · exact .named (List.contains_iff_mem.mp letter)
    · exact .octal low high
  · cases read

theorem cutStringBody_sound (read : cutStringBody cs = .ok cut) :
    ∃ items, cut.1 = items ++ ['"'] ∧ StringItems items := by
  fun_induction cutStringBody cs generalizing cut with
  | case1 => cases read
  | case2 => cases read
  | case3 => cases read
  | case4 cs escape rest found _ ih =>
    obtain ⟨body, inner, rfl⟩ := map_eq_ok.mp read
    obtain ⟨items, whole, valid⟩ := ih inner
    have escaped := StringItems.escaped (cutEscape_sound found) valid
    exact ⟨_, by simp [whole], escaped⟩
  | case5 =>
    cases read
    exact ⟨[], rfl, .nil⟩
  | case6 c cs line noEscape noQuote ih =>
    obtain ⟨body, inner, rfl⟩ := map_eq_ok.mp read
    obtain ⟨items, whole, valid⟩ := ih inner
    exact ⟨c :: items, by simp [whole], .plain noQuote noEscape (by simpa using line) valid⟩

theorem cutMultiLineBody_sound (read : cutMultiLineBody cs = some cut) :
    ∃ body quotes, cut.1 = body ++ (tripleQuote ++ quotes) ∧
      NoneBegins [tripleQuote] body tripleQuote ∧ ∀ c ∈ quotes, c = '"' := by
  fun_induction cutMultiLineBody cs generalizing cut with
  | case1 cs quotes rest found =>
    have same := cutWhile_sound (· == '"') cs
    rw [found] at same
    cases read
    exact ⟨[], quotes, rfl, noneBegins_nil _ _, fun c member => beq_iff_eq.mp (same c member)⟩
  | case2 c cs noMark ih =>
    obtain ⟨closed, inner, rfl⟩ := Option.map_eq_some_iff.mp read
    have behind := cutMultiLineBody_append inner
    obtain ⟨body, quotes, whole, clear, same⟩ := ih inner
    refine ⟨c :: body, quotes, by simp [whole], noneBegins_cons.mpr ⟨?_, clear⟩, same⟩
    rw [List.forall_mem_singleton]
    -- A triple quote that begins here would have ended the body.
    intro mark
    have long : tripleQuote <+: c :: cs := by
      rw [← behind, whole, ← List.append_assoc, List.append_assoc]
      exact mark.trans (List.prefix_append (c :: (body ++ tripleQuote)) _)
    obtain ⟨more, marked⟩ := long
    obtain ⟨rfl, rfl⟩ := List.cons.inj marked
    exact noMark more rfl rfl
  | case3 => cases read

theorem cutString_sound (read : cutString cs = .ok (kind, cut)) :
    kind = .stringLiteral ∧ StringText cut.1 := by
  unfold cutString at read
  split at read
  · split at read
    · rename_i body rest found
      cases read
      obtain ⟨body, quotes, whole, clear, same⟩ := cutMultiLineBody_sound found
      dsimp only at whole
      rw [whole]
      exact ⟨rfl, .multiLine clear same⟩
    · cases read
  · obtain ⟨body, inner, same⟩ := map_eq_ok.mp read
    obtain ⟨items, whole, valid⟩ := cutStringBody_sound inner
    cases same
    rw [whole]
    exact ⟨rfl, .line valid⟩

theorem closeCharacter_sound {opened : List Char}
    (read : closeCharacter opened cs = .ok (kind, cut)) :
    kind = .characterLiteral ∧ cut.1 = opened ++ ['\''] := by
  unfold closeCharacter at read
  split at read
  · cases read
    exact ⟨rfl, rfl⟩
  · cases read

theorem cutCharacter_sound (read : cutCharacter cs = .ok (kind, cut)) :
    kind = .characterLiteral ∧ CharacterText cut.1 := by
  unfold cutCharacter at read
  split at read
  · cases read
  rename_i c cs
  split at read
  · cases read
  rename_i noEnd
  simp only [Bool.or_eq_true, not_or, Bool.not_eq_true, beq_eq_false_iff_ne] at noEnd
  split at read
  · rename_i backslash
    split at read
    · cases read
    · rename_i escape rest found
      obtain ⟨rfl, whole⟩ := closeCharacter_sound read
      have escaped := CharacterText.escaped (cutEscape_sound found)
      rw [whole, backslash]
      exact ⟨rfl, escaped⟩
  · rename_i noEscape
    obtain ⟨rfl, whole⟩ := closeCharacter_sound read
    rw [whole]
    exact ⟨rfl, .plain noEnd.2 noEscape noEnd.1⟩

theorem cutSingleQuoted_sound (read : cutSingleQuoted cs = .ok (kind, cut)) :
    (kind = .symbolLiteral ∧ SymbolText cut.1) ∨
      (kind = .characterLiteral ∧ CharacterText cut.1) := by
  unfold cutSingleQuoted at read
  split at read
  · exact .inr (cutCharacter_sound read)
  rename_i c cs
  split at read
  · rename_i opens
    rw [Bool.and_eq_true] at opens
    have parts : ∀ d ∈ (cutWhile isIdentPart cs).1, isIdentPart d = true := cutWhile_sound _ cs
    have first : (c :: cs).takeWhile isIdentPart = c :: cs.takeWhile isIdentPart := by
      rw [List.takeWhile_cons, if_pos (isIdentPart_of_isIdentStart opens.1)]
    cases read
    rw [first]
    exact .inl ⟨rfl, .mk opens.1 parts⟩
  · exact .inr (cutCharacter_sound read)

end Quotes

end Scaffold.Scala
