import Scaffold.Scala.Tokens

/-!
# Classes of tokens

Which classes the scanners give to the tokens that they read.  None of them gives the class of the
token that marks the end of a text.
-/

namespace Scaffold.Scala

variable {cs : List Char} {kind : TokenKind} {cut : Cut}

theorem isIdentifier_cases (identifier : kind.isIdentifier = true) :
    kind = .varId ∨ kind = .otherId := by
  cases kind with
  | varId => exact .inl rfl
  | otherId => exact .inr rfl
  | _ => cases identifier

theorem wordKind_cases (word : List Char) :
    wordKind word = .keyword ∨ wordKind word = .varId ∨ wordKind word = .otherId := by
  unfold wordKind
  split
  · exact .inl rfl
  split
  · split
    · exact .inr (.inl rfl)
    · exact .inr (.inr rfl)
  · exact .inr (.inr rfl)

theorem operatorKind_cases (word : List Char) :
    operatorKind word = .keyword ∨ operatorKind word = .otherId := by
  unfold operatorKind
  split
  · exact .inl rfl
  · exact .inr rfl

theorem kind_of_cutQuotedName (read : cutQuotedName cs = .ok (kind, cut)) :
    kind = .varId ∨ kind = .otherId := by
  unfold cutQuotedName at read
  split at read
  · cases read
  · simp only [Except.ok.injEq, Prod.mk.injEq] at read
    rw [← read.1]
    split
    · exact .inl rfl
    · exact .inr rfl
  · cases read

theorem kind_of_cutDecimal (read : cutDecimal cs = .ok (kind, cut)) :
    kind = .integerLiteral ∨ kind = .floatingPointLiteral := by
  simp only [cutDecimal] at read
  split at read
  · cases read
  split at read
  · cases read; exact .inr rfl
  split at read
  · cases read; exact .inl rfl
  · cases read; exact .inr rfl

theorem kind_of_cutNumber (read : cutNumber cs = .ok (kind, cut)) :
    kind = .integerLiteral ∨ kind = .floatingPointLiteral := by
  unfold cutNumber at read
  split at read
  · split at read
    · simp only [cutHexDigits] at read
      split at read
      · cases read
      · cases read; exact .inl rfl
    · exact kind_of_cutDecimal read
  · exact kind_of_cutDecimal read

theorem kind_of_cutString (read : cutString cs = .ok (kind, cut)) : kind = .stringLiteral := by
  unfold cutString at read
  split at read
  · split at read
    · cases read; rfl
    · cases read
  · obtain ⟨inner, -, same⟩ := map_eq_ok.mp read
    cases same
    rfl

theorem kind_of_closeCharacter {opened : List Char}
    (read : closeCharacter opened cs = .ok (kind, cut)) : kind = .characterLiteral := by
  unfold closeCharacter at read
  split at read
  · cases read; rfl
  · cases read

theorem kind_of_cutCharacter (read : cutCharacter cs = .ok (kind, cut)) :
    kind = .characterLiteral := by
  unfold cutCharacter at read
  split at read
  · cases read
  split at read
  · cases read
  split at read
  · split at read
    · cases read
    · exact kind_of_closeCharacter read
  · exact kind_of_closeCharacter read

theorem kind_of_cutSingleQuoted (read : cutSingleQuoted cs = .ok (kind, cut)) :
    kind = .symbolLiteral ∨ kind = .characterLiteral := by
  unfold cutSingleQuoted at read
  split at read
  · exact .inr (kind_of_cutCharacter read)
  split at read
  · cases read; exact .inl rfl
  · exact .inr (kind_of_cutCharacter read)

theorem delimiterKind?_ne_endOfText (c : Char) : delimiterKind? c ≠ some .endOfText := by
  unfold delimiterKind?
  split <;> simp

/-- No scanner gives the class of the token that marks the end. -/
theorem cutToken_ne_endOfText {c : Char} (read : cutToken c cs = .ok (kind, cut)) :
    kind ≠ .endOfText := by
  rintro rfl
  unfold cutToken at read
  split at read
  · rcases kind_of_cutQuotedName read with equal | equal <;> cases equal
  split at read
  · have given := congrArg (Except.map Prod.fst) read
    simp only [Except.map, Except.ok.injEq] at given
    rcases wordKind_cases (cutWord c cs).1 with equal | equal | equal <;>
      rw [equal] at given <;> cases given
  split at read
  · rcases kind_of_cutNumber read with equal | equal <;> cases equal
  split at read
  · cases kind_of_cutString read
  split at read
  · rcases kind_of_cutSingleQuoted read with equal | equal <;> cases equal
  split at read
  · rename_i found
    cases read
    exact delimiterKind?_ne_endOfText c found
  split at read
  · have given := congrArg (Except.map Prod.fst) read
    simp only [Except.map, Except.ok.injEq] at given
    rcases operatorKind_cases (cutOperator (c :: cs)).1 with equal | equal <;>
      rw [equal] at given <;> cases given
  · cases read

end Scaffold.Scala
