import Mathlib.Data.List.Infix
import Scaffold.Proofs.Scala.TokenGrammar

/-!
# Comment marks inside names

The mark of a comment stands inside no operator and no reserved word, since operators end where a
comment begins.  The operator characters behind the final underscore of a plain name do not:
`holdsComment_iff` says which names hold the mark of a comment, and that all of these are read.
-/

namespace Scaffold.Scala

open Text

variable {c : Char} {cs text name operators : List Char}

/-- The mark of a comment stands inside the text. -/
def HoldsComment (text : List Char) : Prop := ∃ mark ∈ commentMarks, mark <:+: text

instance (text : List Char) : Decidable (HoldsComment text) :=
  inferInstanceAs (Decidable (∃ mark ∈ commentMarks, mark <:+: text))

/-- Every mark of a comment begins with a slash. -/
theorem slash_of_mem_commentMarks {mark : List Char} (member : mark ∈ commentMarks) :
    ∃ c, mark = ['/', c] := by
  simp only [commentMarks, List.mem_cons, List.mem_nil_iff, or_false] at member
  rcases member with rfl | rfl
  · exact ⟨_, rfl⟩
  · exact ⟨_, rfl⟩

theorem HoldsComment.slash_mem (holds : HoldsComment text) : '/' ∈ text := by
  obtain ⟨mark, member, inside⟩ := holds
  obtain ⟨c, rfl⟩ := slash_of_mem_commentMarks member
  exact inside.subset List.mem_cons_self

/-- Behind a text without slashes the mark of a comment stands in what follows. -/
theorem HoldsComment.of_append (noSlash : '/' ∉ name) (holds : HoldsComment (name ++ operators)) :
    HoldsComment operators := by
  obtain ⟨mark, member, inside⟩ := holds
  obtain ⟨c, rfl⟩ := slash_of_mem_commentMarks member
  refine ⟨_, member, ?_⟩
  induction name with
  | nil => exact inside
  | cons d name ih =>
    obtain ⟨different, others⟩ := not_or.mp (mt List.mem_cons.mpr noSlash)
    rcases List.infix_cons_iff.mp inside with front | behind
    · exact absurd (List.cons_prefix_cons.mp front).1 different
    · exact ih others behind

theorem HoldsComment.append (holds : HoldsComment operators) :
    HoldsComment (name ++ operators) := by
  obtain ⟨mark, member, inside⟩ := holds
  exact ⟨mark, member, inside.trans (List.suffix_append name operators).isInfix⟩

/-- A text inside which no mark begins holds none. -/
theorem not_holdsComment (clear : NoneBegins commentMarks text []) : ¬ HoldsComment text := by
  rintro ⟨mark, member, before, more, rfl⟩
  obtain ⟨c, rfl⟩ := slash_of_mem_commentMarks member
  have shorter : before.length < (before ++ ['/', c] ++ more).length := by simp
  exact clear before (['/', c] ++ more) (by simp) shorter _ member (List.prefix_append _ _)

/-- The text is a plain name that ends in an underscore, with operator characters behind it among
    which the mark of a comment stands. -/
def Overruns (text : List Char) : Prop :=
  ∃ name operators, text = name ++ operators ∧ isPlainName name = true ∧
    name.getLast? = some '_' ∧ (∀ c ∈ operators, isOperatorChar c = true) ∧ HoldsComment operators

/-- Of the names that are not quoted, only those that overrun the mark of a comment hold one. -/
theorem overruns_of_typeWord (named : TypeWord [] text) (unquoted : text.head? ≠ some '\x60')
    (holds : HoldsComment text) : Overruns text := by
  cases named with
  | quoted => exact absurd rfl unquoted
  | @plain c parts operators start part operator joined =>
    have plain : isPlainName (c :: parts) = true := by
      rw [isPlainName, start, List.all_eq_true.mpr part]
      rfl
    have noSlash : '/' ∉ c :: parts := by
      intro member
      have slash := isIdentPart_of_isPlainName plain '/' member
      rw [isIdentPart_of_isOperatorChar (by decide)] at slash
      cases slash
    have inside : HoldsComment operators := HoldsComment.of_append noSlash holds
    have underscore := joined (List.ne_nil_of_mem inside.slash_mem)
    exact ⟨_, _, rfl, plain, underscore, operator, inside⟩
  | operator _ _ _ clear => exact absurd holds (not_holdsComment clear)

/-- Of the words and names that are cut, only those that overrun the mark of a comment hold one. -/
theorem overruns_of_cutToken {behind : List Char} {kind : TokenKind}
    (noComment : c = '/' → cs.head? ≠ some '/' ∧ cs.head? ≠ some '*')
    (read : cutToken c cs = .ok (kind, text, behind))
    (named : kind = .keyword ∨ kind.isIdentifier = true) (unquoted : text.head? ≠ some '\x60')
    (holds : HoldsComment text) : Overruns text := by
  rcases named with rfl | identifier
  · have reserved : isScalaKeyword text = true := describes_of_cutToken noComment read
    rw [not_isScalaKeyword holds.slash_mem (.inr (.inl rfl))] at reserved
    cases reserved
  · exact overruns_of_typeWord (typeWord_of_cutToken noComment read identifier).alone unquoted holds

/-- A name that overruns the mark of a comment is read as one identifier. -/
theorem tokenize_overruns (overruns : Overruns text) :
    (wordKind text).isIdentifier = true ∧ text.head? ≠ some '\x60' ∧ HoldsComment text ∧
      tokenize text = .ok [⟨wordKind text, text, 0⟩, ⟨.endOfText, [], text.length⟩] := by
  obtain ⟨name, operators, rfl, plain, underscore, operator, holds⟩ := overruns
  have inside : HoldsComment (name ++ operators) := holds.append
  obtain ⟨c, parts, rfl, start, part⟩ := exists_of_isPlainName plain
  have free : isScalaKeyword (c :: parts ++ operators) = false :=
    not_isScalaKeyword inside.slash_mem (.inr (.inl rfl))
  have cut := cutToken_start start (parts ++ (operators ++ []))
  rw [cutWord_complete part operator (fun _ => underscore) (fun _ => by simp) .nil,
    List.append_nil] at cut
  refine ⟨isIdentifier_wordKind free, ?_, inside, ?_⟩
  · intro quote
    exact (ne_of_isIdentStart start).1 (Option.some.inj quote)
  · have gap := skipGap_start start (parts ++ operators)
    rw [tokenize, List.cons_append, tokenizeFrom_of_token gap cut,
      tokenizeFrom_of_end skipGap_nil]
    simp [Except.map]

/-- The reserved words and the names without quotes that hold the mark of a comment, in whatever
    text they are read, are the plain names that overrun it behind a final underscore. -/
theorem holdsComment_iff (text : List Char) :
    (∃ source tokens t, tokenize source = .ok tokens ∧ t ∈ tokens ∧ t.text = text ∧
        (t.kind = .keyword ∨ t.kind.isIdentifier = true) ∧ text.head? ≠ some '\x60' ∧
        HoldsComment text) ↔ Overruns text := by
  constructor
  · rintro ⟨source, tokens, t, read, member, rfl, named, unquoted, holds⟩
    have each := tokenizeFrom_forall_token
      (p := fun lexeme => (lexeme.1 = .keyword ∨ lexeme.1.isIdentifier = true) →
        lexeme.2.head? ≠ some '\x60' → HoldsComment lexeme.2 → Overruns lexeme.2)
      (by rintro (none | none) <;> cases none)
      (fun c cs kind text behind noComment cut => overruns_of_cutToken noComment cut) read
    exact each t member named unquoted holds
  · intro overruns
    obtain ⟨identifier, unquoted, holds, read⟩ := tokenize_overruns overruns
    exact ⟨_, _, _, read, List.mem_cons_self, rfl, .inr identifier, unquoted, holds⟩

/-- A name with two slashes behind its underscore. -/
theorem holdsComment_slashes :
    tokenize "a_//b".toList =
      .ok [⟨.varId, ['a', '_', '/', '/'], 0⟩, ⟨.varId, ['b'], 4⟩, ⟨.endOfText, [], 5⟩] ∧
    ¬ ∀ source tokens, tokenize source = .ok tokens → ∀ t ∈ tokens,
      (t.kind = .keyword ∨ t.kind.isIdentifier = true) → t.text.head? ≠ some '\x60' →
      ¬ HoldsComment t.text := by
  have read : tokenize "a_//b".toList =
      .ok [⟨.varId, ['a', '_', '/', '/'], 0⟩, ⟨.varId, ['b'], 4⟩, ⟨.endOfText, [], 5⟩] := by
    decide +kernel
  refine ⟨read, fun never => ?_⟩
  exact never _ _ read _ List.mem_cons_self (.inr rfl) (by decide) (by decide)

end Scaffold.Scala
