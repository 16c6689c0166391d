import Scaffold.Proofs.Scala.TokenGrammar

/-!
# Line ends inside tokens

No token goes on over the end of a line, except a string between triple quotes.
-/

namespace Scaffold.Scala

open Text

variable {p : Char → Bool} {cs choices text : List Char} {kind : TokenKind}

theorem line_of_forall (ends : p '\n' = false) (all : ∀ c ∈ cs, p c = true) : '\n' ∉ cs := by
  intro member
  rw [all _ member] at ends
  cases ends

theorem AtMostOne.line (one : AtMostOne choices cs) (absent : '\n' ∉ choices) : '\n' ∉ cs := by
  rcases one with rfl | ⟨c, member, rfl⟩
  · exact List.not_mem_nil
  · rw [List.mem_singleton]
    rintro rfl
    exact absent member

theorem line_of_typeWord (named : TypeWord [] text) : '\n' ∉ text := by
  cases named with
  | quoted nonempty quotable =>
    have inner := fun member => (quotable '\n' member).2.2 rfl
    simpa using inner
  | plain start part operator =>
    have first := line_of_forall isIdentPart_lineFeed part
    have behind := line_of_forall isOperatorChar_lineFeed operator
    simp only [List.mem_cons, List.mem_append, not_or]
    refine ⟨?_, first, behind⟩
    rintro rfl
    cases start
  | operator _ operator => exact line_of_forall isOperatorChar_lineFeed operator

theorem IntegerText.line (integer : IntegerText text) : '\n' ∉ text := by
  cases integer with
  | hexadecimal mark digits suffix =>
    have digitsLine := line_of_forall (by decide) digits.2
    have suffixLine := suffix.line (by decide)
    simp only [List.mem_cons, List.mem_append, not_or]
    refine ⟨by decide, ?_, digitsLine, suffixLine⟩
    rintro rfl
    simp at mark
  | decimal digits suffix =>
    rw [List.mem_append, not_or]
    exact ⟨line_of_forall (by decide) digits.2, suffix.line (by decide)⟩

theorem FractionText.line (fraction : FractionText text) : '\n' ∉ text := by
  cases fraction with
  | mk digits => simpa using line_of_forall (by decide) digits.2

theorem ExponentText.line (exponent : ExponentText text) : '\n' ∉ text := by
  cases exponent with
  | mk mark sign digits =>
    simp only [List.mem_cons, List.mem_append, not_or]
    refine ⟨?_, sign.line (by decide), line_of_forall (by decide) digits.2⟩
    rintro rfl
    simp at mark

theorem FloatingPointText.line (floating : FloatingPointText text) : '\n' ∉ text := by
  cases floating with
  | mk whole fraction exponent suffix =>
    simp only [List.mem_append, not_or]
    refine ⟨line_of_forall (by decide) whole, ?_, ?_, suffix.line (by decide)⟩
    · rcases fraction with rfl | fraction
      · exact List.not_mem_nil
      · exact fraction.line
    · rcases exponent with rfl | exponent
      · exact List.not_mem_nil
      · exact exponent.line

theorem EscapeText.line {escape : List Char} (escaped : EscapeText escape) : '\n' ∉ escape := by
  cases escaped with
  | named among =>
    simp only [List.mem_cons, not_or, List.not_mem_nil, not_false_eq_true, and_true]
    refine ⟨by decide, ?_⟩
    rintro rfl
    simp at among
  | octal low high =>
    simp only [List.mem_cons, not_or, List.not_mem_nil, not_false_eq_true, and_true]
    refine ⟨by decide, ?_⟩
    rintro rfl
    revert low
    decide
  | unicode marks _ digits =>
    simp only [List.mem_cons, List.mem_append, not_or]
    exact ⟨by decide, line_of_forall (by decide) marks.2, line_of_forall (by decide) digits⟩

theorem CharacterText.line (character : CharacterText text) : '\n' ∉ text := by
  cases character with
  | plain _ _ inside =>
    simp only [List.mem_cons, not_or, List.not_mem_nil, not_false_eq_true, and_true]
    refine ⟨by decide, ?_, by decide⟩
    rintro rfl
    cases inside
  | escaped escape => simpa using escape.line

theorem StringItems.line {items : List Char} (valid : StringItems items) : '\n' ∉ items := by
  induction valid with
  | nil => exact List.not_mem_nil
  | plain _ _ inside _ ih =>
    rw [List.mem_cons, not_or]
    refine ⟨?_, ih⟩
    rintro rfl
    cases inside
  | escaped escape _ ih =>
    rw [List.mem_append, not_or]
    exact ⟨escape.line, ih⟩

theorem SymbolText.line (symbol : SymbolText text) : '\n' ∉ text := by
  cases symbol with
  | mk start part =>
    simp only [List.mem_cons, not_or]
    refine ⟨by decide, ?_, line_of_forall isIdentPart_lineFeed part⟩
    rintro rfl
    cases start

/-- A line ends inside no token other than a string between triple quotes. -/
theorem tripleQuote_of_lineFeed (described : kind.Describes text) (feed : '\n' ∈ text) :
    kind = .stringLiteral ∧ tripleQuote <+: text ∧ text.getLast? = some '"' := by
  cases kind with
  | varId => exact absurd feed (line_of_typeWord described.1)
  | otherId => exact absurd feed (line_of_typeWord described.1)
  | keyword =>
    have free := not_isScalaKeyword feed (.inl isBlank_lineFeed)
    cases free.symm.trans described
  | integerLiteral => exact absurd feed (IntegerText.line described)
  | floatingPointLiteral => exact absurd feed (FloatingPointText.line described)
  | characterLiteral => exact absurd feed (CharacterText.line described)
  | symbolLiteral => exact absurd feed (SymbolText.line described)
  | stringLiteral =>
    cases described with
    | line valid => simp [valid.line] at feed
    | @multiLine body quotes _ same =>
      have quote : ∀ c ∈ tripleQuote ++ quotes, c = '"' :=
        List.forall_mem_append.mpr ⟨by simp [tripleQuote], same⟩
      have nonempty : tripleQuote ++ quotes ≠ [] := List.cons_ne_nil _ _
      refine ⟨rfl, List.prefix_append _ _, ?_⟩
      rw [← List.append_assoc, List.getLast?_append, List.getLast?_eq_some_getLast nonempty,
        quote _ (List.getLast_mem nonempty), Option.some_or]
  | _ =>
    cases described
    revert feed
    decide

end Scaffold.Scala
