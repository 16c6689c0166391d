import Scaffold.Proofs.Scala.Lexeme
import Scaffold.Proofs.Scala.FirstWord
import Scaffold.Proofs.Scala.Skipping

/-!
# The grammar of type names

A type name is an identifier between gaps: a quoted name, a plain name or an operator.  Where one
ends depends on what follows it: a plain name that ends in an underscore goes on with operators, and
an operator ends where a comment begins.
-/

namespace Scaffold.Scala

open Text

/-- None of the marks begins inside `word` if `behind` follows it. -/
def NoneBegins (marks : List (List Char)) (word behind : List Char) : Prop :=
  ∀ before more, word ++ behind = before ++ more → before.length < word.length →
    ∀ mark ∈ marks, ¬ mark <+: more

/-- The marks that open a comment. -/
def commentMarks : List (List Char) := [['/', '/'], ['/', '*']]

/-- `word` is an identifier that is read as a whole if the gap `behind` follows it. -/
inductive TypeWord (behind : List Char) : List Char → Prop
  /-- Characters on one line between back-quotes. -/
  | quoted {name : List Char} : name ≠ [] → (∀ c ∈ name, c ≠ '\x60' ∧ c ≠ '\r' ∧ c ≠ '\n') →
      TypeWord behind ('\x60' :: (name ++ ['\x60']))
  /-- Letters and digits, and operator characters only behind a final underscore. -/
  | plain {c : Char} {parts operators : List Char} : isIdentStart c = true →
      (∀ d ∈ parts, isIdentPart d = true) → (∀ d ∈ operators, isOperatorChar d = true) →
      (operators ≠ [] → (c :: parts).getLast? = some '_') →
      ((c :: parts).getLast? = some '_' → ∀ d ∈ behind.head?, isOperatorChar d = false) →
      isScalaKeyword (c :: (parts ++ operators)) = false →
      TypeWord behind (c :: (parts ++ operators))
  /-- Operator characters among which no comment begins. -/
  | operator {word : List Char} : word ≠ [] → (∀ c ∈ word, isOperatorChar c = true) →
      isScalaKeyword word = false → NoneBegins commentMarks word behind → TypeWord behind word

section Operators

variable {c : Char} {cs word behind : List Char}

theorem noneBegins_nil (marks : List (List Char)) (behind : List Char) :
    NoneBegins marks [] behind :=
  fun _ _ _ within => absurd within (Nat.not_lt_zero _)

theorem noneBegins_cons {marks : List (List Char)} : NoneBegins marks (c :: word) behind ↔
    (∀ mark ∈ marks, ¬ mark <+: c :: (word ++ behind)) ∧ NoneBegins marks word behind := by
  constructor
  · intro clear
    refine ⟨clear [] _ rfl (Nat.succ_pos _), fun before more whole within => ?_⟩
    exact clear (c :: before) more (congrArg (c :: ·) whole) (Nat.succ_lt_succ within)
  · rintro ⟨first, clear⟩ before more whole within
    cases before with
    | nil =>
      rw [List.nil_append, List.cons_append] at whole
      exact whole ▸ first
    | cons d before =>
      rw [List.cons_append, List.cons_append] at whole
      exact clear before more (List.cons.inj whole).2 (Nat.lt_of_succ_lt_succ within)

/-- A comment begins at a slash with a slash or an asterisk behind it. -/
theorem commentMarks_iff : (∀ mark ∈ commentMarks, ¬ mark <+: c :: cs) ↔
    ¬ (c = '/' ∧ (cs.head? = some '/' ∨ cs.head? = some '*')) := by
  cases cs with
  | nil => simp [commentMarks]
  | cons d cs => simp [commentMarks, eq_comm, imp_and]

/-- No comment begins inside an operator that is cut. -/
theorem noneBegins_cutOperator (cs : List Char) :
    NoneBegins commentMarks (cutOperator cs).1 (cutOperator cs).2 := by
  fun_induction cutOperator cs with
  | case1 => exact noneBegins_nil _ _
  | case2 => exact noneBegins_nil _ _
  | case3 => exact noneBegins_nil _ _
  | case4 c cs _ noMark word rest cut ih =>
    have whole := cutOperator_append cs
    rw [cut] at ih whole
    rw [noneBegins_cons, whole, commentMarks_iff]
    exact ⟨noMark, ih⟩

/-- A gap is no operator. -/
theorem cutOperator_gap (skips : Gap [] behind) : cutOperator behind = ([], behind) := by
  cases skips with
  | nil => rfl
  | blank blank => simp [cutOperator, isOperatorChar_of_isBlank blank]
  | line | block => simp [cutOperator]

/-- Operator characters are cut up to a gap if no comment begins among them. -/
theorem cutOperator_complete (operators : ∀ c ∈ word, isOperatorChar c = true)
    (clear : NoneBegins commentMarks word behind) (skips : Gap [] behind) :
    cutOperator (word ++ behind) = (word, behind) := by
  induction word with
  | nil => exact cutOperator_gap skips
  | cons c word ih =>
    obtain ⟨operator, operators⟩ := List.forall_mem_cons.mp operators
    obtain ⟨noMark, clear⟩ := noneBegins_cons.mp clear
    rw [commentMarks_iff] at noMark
    rw [List.cons_append, cutOperator, if_neg (by simp [operator]), if_neg noMark,
      ih operators clear]

end Operators

section Words

variable {c : Char} {cs parts operators behind : List Char} {kind : TokenKind} {cut : Cut}

theorem cutWhile_append_stop {p : Char → Bool} (all : ∀ c ∈ cs, p c = true)
    (stop : ∀ c ∈ behind.head?, p c = false) : cutWhile p (cs ++ behind) = (cs, behind) := by
  obtain ⟨front, back⟩ := Declaration.takeWhile_append_stop all stop
  rw [cutWhile, front, back]

theorem cutWhile_sound (p : Char → Bool) (cs : List Char) : ∀ c ∈ (cutWhile p cs).1, p c = true :=
  List.all_eq_true.mp List.all_takeWhile

/-- A run ends where its characters do. -/
theorem cutWhile_stop (p : Char → Bool) (cs : List Char) :
    ∀ c ∈ (cutWhile p cs).2.head?, p c = false := by
  intro c head
  have stop := List.head?_dropWhile_not p cs
  rw [cutWhile] at head
  rw [Option.mem_def.mp head] at stop
  exact stop

/-- A gap goes on no plain name. -/
theorem isIdentPart_of_gap (skips : Gap [] behind) : ∀ c ∈ behind.head?, isIdentPart c = false := by
  intro c head
  rcases skips.head c head with blank | rfl
  · exact isIdentPart_of_isBlank blank
  · exact isIdentPart_of_isOperatorChar (by decide)

/-- A plain name is cut with the operators behind its final underscore. -/
theorem cutWord_complete (part : ∀ d ∈ parts, isIdentPart d = true)
    (operator : ∀ d ∈ operators, isOperatorChar d = true)
    (joined : operators ≠ [] → (c :: parts).getLast? = some '_')
    (ends : (c :: parts).getLast? = some '_' → ∀ d ∈ behind.head?, isOperatorChar d = false)
    (skips : Gap [] behind) :
    cutWord c (parts ++ (operators ++ behind)) = (c :: (parts ++ operators), behind) := by
  have stop : ∀ d ∈ (operators ++ behind).head?, isIdentPart d = false := by
    cases operators with
    | nil => exact isIdentPart_of_gap skips
    | cons d operators =>
      rintro _ ⟨⟩
      exact isIdentPart_of_isOperatorChar (operator d List.mem_cons_self)
  rw [cutWord, cutWhile_append_stop part stop]
  dsimp only
  split
  · rename_i underscore
    rw [cutWhile_append_stop operator (ends underscore)]
    rfl
  · rename_i noUnderscore
    have none : operators = [] := by
      by_contra some
      exact noUnderscore (joined some)
    rw [none, List.append_nil]
    rfl

/-- What a plain name is made of, with what may stand behind it. -/
theorem cutWord_sound (c : Char) (cs : List Char) :
    ∃ parts operators, (cutWord c cs).1 = c :: (parts ++ operators) ∧
      (∀ d ∈ parts, isIdentPart d = true) ∧ (∀ d ∈ operators, isOperatorChar d = true) ∧
      (operators ≠ [] → (c :: parts).getLast? = some '_') ∧
      ((c :: parts).getLast? = some '_' →
        ∀ d ∈ (cutWord c cs).2.head?, isOperatorChar d = false) := by
  have part := cutWhile_sound isIdentPart cs
  rw [cutWord]
  dsimp only
  split
  · rename_i underscore
    exact ⟨_, _, rfl, part, cutWhile_sound isOperatorChar _, fun _ => underscore,
      fun _ => cutWhile_stop isOperatorChar _⟩
  · rename_i noUnderscore
    exact ⟨_, [], by rw [List.append_nil], part, List.forall_mem_nil _, fun some => absurd rfl some,
      fun underscore => absurd underscore noUnderscore⟩

/-- Whether a character may stand in a quoted name. -/
def isQuotable (c : Char) : Bool := c != '\x60' && !isLineEnd c

theorem isQuotable_iff : isQuotable c = true ↔ c ≠ '\x60' ∧ c ≠ '\r' ∧ c ≠ '\n' := by
  simp [isQuotable, isLineEnd]

/-- What a quoted name is made of. -/
theorem cutQuotedName_sound (read : cutQuotedName cs = .ok (kind, cut)) :
    ∃ c name, cut.1 = '\x60' :: (c :: name ++ ['\x60']) ∧
      (∀ d ∈ c :: name, d ≠ '\x60' ∧ d ≠ '\r' ∧ d ≠ '\n') ∧
      kind = if category c = .lowercaseLetter then .varId else .otherId := by
  have quotable : ∀ d ∈ (cutWhile (fun c => c != '\x60' && !isLineEnd c) cs).1,
      isQuotable d = true := cutWhile_sound isQuotable cs
  unfold cutQuotedName at read
  split at read
  · cases read
  · rename_i c name rest found
    rw [found] at quotable
    cases read
    exact ⟨c, name, rfl, fun d member => isQuotable_iff.mp (quotable d member), rfl⟩
  · cases read

theorem cutQuotedName_complete {name : List Char} (nonempty : name ≠ [])
    (quotable : ∀ d ∈ name, d ≠ '\x60' ∧ d ≠ '\r' ∧ d ≠ '\n') (behind : List Char) :
    ∃ kind, kind.isIdentifier = true ∧ cutQuotedName (name ++ '\x60' :: behind) =
      .ok (kind, '\x60' :: (name ++ ['\x60']), behind) := by
  have found : cutWhile (fun c => c != '\x60' && !isLineEnd c) (name ++ '\x60' :: behind) =
      (name, '\x60' :: behind) :=
    cutWhile_append_stop (fun d member => isQuotable_iff.mpr (quotable d member)) (by simp)
  obtain ⟨c, name, rfl⟩ := List.exists_cons_of_ne_nil nonempty
  refine ⟨if category c = .lowercaseLetter then .varId else .otherId, ?_, ?_⟩
  · split <;> rfl
  · rw [cutQuotedName, found]
    rfl

end Words

section TypeNames

variable {c : Char} {cs gap word behind : List Char} {kind : TokenKind} {text : List Char}

/-- What is classed as an identifier once reserved words are told apart is none of them. -/
theorem not_isScalaKeyword_of_isIdentifier
    (identifier : (if isScalaKeyword word = true then .keyword else kind).isIdentifier = true) :
    isScalaKeyword word = false := by
  split at identifier
  · cases identifier
  · rename_i free
    exact eq_false_of_ne_true free

/-- An identifier that is cut is one that is read as a whole. -/
theorem typeWord_of_cutToken
    (noComment : c = '/' → cs.head? ≠ some '/' ∧ cs.head? ≠ some '*')
    (read : cutToken c cs = .ok (kind, text, behind)) (identifier : kind.isIdentifier = true) :
    TypeWord behind text := by
  generalize same : (text, behind) = cut at read
  obtain ⟨rfl, rfl⟩ : text = cut.1 ∧ behind = cut.2 := Prod.ext_iff.mp same
  cases named_of_cutToken read identifier with
  | quoted _ read =>
    obtain ⟨d, name, whole, quotable, -⟩ := cutQuotedName_sound read
    rw [whole]
    exact .quoted (List.cons_ne_nil _ _) quotable
  | word start =>
    have free := not_isScalaKeyword_of_isIdentifier identifier
    obtain ⟨parts, operators, whole, part, operator, joined, ends⟩ := cutWord_sound c cs
    rw [whole] at free ⊢
    exact .plain start part operator joined ends free
  | operator _ _ _ _ _ _ operator =>
    have free := not_isScalaKeyword_of_isIdentifier identifier
    exact .operator (cutOperator_ne_nil operator noComment)
      (fun d member => operator_of_mem_cutOperator member) free (noneBegins_cutOperator _)

/-- Where an operator begins, one is cut. -/
theorem cutToken_operator (operator : isOperatorChar c = true) (cs : List Char) :
    cutToken c cs = .ok (operatorKind (cutOperator (c :: cs)).1, cutOperator (c :: cs)) := by
  have noMark := not_mem_marks (.inr operator)
  have noDelimiter := delimiterKind?_of_not_mem noMark
  have noStart := isIdentStart_of_isOperatorChar operator
  have noDigit := isDigit_of_isOperatorChar operator
  simp only [marks, List.mem_cons, List.mem_nil_iff, or_false, not_or] at noMark
  have noNumber : startsNumber c cs = false := by simp [startsNumber, noDigit, noMark]
  rw [cutToken, if_neg noMark.1, noStart, if_neg Bool.false_ne_true, noNumber,
    if_neg Bool.false_ne_true, if_neg noMark.2.1, if_neg noMark.2.2.1, noDelimiter]
  dsimp only
  rw [if_pos operator]

/-- An identifier that is read as a whole is cut in front of its gap. -/
theorem cutToken_of_typeWord (named : TypeWord behind word) (skips : Gap [] behind) :
    ∃ c cs kind, word ++ behind = c :: cs ∧ skipGap (c :: cs) = .ok (c :: cs) ∧
      cutToken c cs = .ok (kind, word, behind) ∧ kind.isIdentifier = true := by
  cases named with
  | @quoted name nonempty quotable =>
    obtain ⟨kind, identifier, read⟩ := cutQuotedName_complete nonempty quotable behind
    refine ⟨'\x60', name ++ '\x60' :: behind, kind, by simp, ?_, ?_, identifier⟩
    · exact skipGap_token (by decide) (fun slash => absurd slash (by decide))
    · rw [cutToken, if_pos rfl, read]
  | @plain c parts operators start part operator joined ends free =>
    refine ⟨c, parts ++ (operators ++ behind), _, by simp, skipGap_start start _, ?_,
      isIdentifier_wordKind free⟩
    rw [cutToken_start start, cutWord_complete part operator joined ends skips]
  | operator nonempty operators free clear =>
    obtain ⟨c, word, rfl⟩ := List.exists_cons_of_ne_nil nonempty
    have noMark := commentMarks_iff.mp (noneBegins_cons.mp clear).1
    have operator := operators c List.mem_cons_self
    have solid := isBlank_of_isOperatorChar operator
    have cut := cutOperator_complete operators clear skips
    refine ⟨c, word ++ behind, operatorKind (c :: word), rfl, ?_, ?_, ?_⟩
    · refine skipGap_token solid fun slash => ⟨fun mark => ?_, fun mark => ?_⟩
      · exact noMark ⟨slash, .inl mark⟩
      · exact noMark ⟨slash, .inr mark⟩
    · rw [cutToken_operator operator, ← List.cons_append, cut]
    · rw [operatorKind, free, if_neg Bool.false_ne_true]
      rfl

/-- No reserved word holds white space, a slash or a back-quote. -/
theorem not_isScalaKeyword (member : c ∈ cs) (mark : isBlank c = true ∨ c = '/' ∨ c = '\x60') :
    isScalaKeyword cs = false := by
  have checked : (scalaKeywords.all fun word => word.toList.all fun c =>
      !isBlank c && c != '/' && c != '\x60') = true := by decide
  rw [isScalaKeyword, ← Bool.not_eq_true, List.contains_iff_mem]
  intro reserved
  have word := List.all_eq_true.mp checked _ reserved
  rw [String.toList_ofList] at word
  obtain ⟨⟨solid, noSlash⟩, noQuote⟩ :
      (isBlank c = false ∧ c ≠ '/') ∧ c ≠ '\x60' := by
    simpa using List.all_eq_true.mp word c member
  rcases mark with blank | slash | quote
  · rw [solid] at blank
    cases blank
  · exact noSlash slash
  · exact noQuote quote

/-- A gap makes the text around it no reserved word. -/
theorem Gap.not_isScalaKeyword {rest : List Char} (skips : Gap rest gap) (nonempty : gap ≠ [])
    (within : ∀ c ∈ gap, c ∈ cs) : isScalaKeyword cs = false := by
  obtain ⟨c, gap, rfl⟩ := List.exists_cons_of_ne_nil nonempty
  have first := skips.head c rfl
  refine Scala.not_isScalaKeyword (within c List.mem_cons_self) ?_
  rcases first with blank | slash
  · exact .inl blank
  · exact .inr (.inl slash)

theorem TypeWord.not_isScalaKeyword (named : TypeWord behind word) :
    isScalaKeyword word = false := by
  cases named with
  | quoted => exact Scala.not_isScalaKeyword List.mem_cons_self (.inr (.inr rfl))
  | plain _ _ _ _ _ free => exact free
  | operator _ _ free _ => exact free

/-- An identifier between gaps makes no reserved word. -/
theorem TypeWord.not_isScalaKeyword_between (named : TypeWord behind word)
    (skips : Gap (word ++ behind) gap) (skipsBehind : Gap [] behind) :
    isScalaKeyword (gap ++ (word ++ behind)) = false := by
  by_cases bare : gap = [] ∧ behind = []
  · rw [bare.1, bare.2, List.nil_append, List.append_nil]
    exact named.not_isScalaKeyword
  · rcases not_and_or.mp bare with gapBefore | gapBehind
    · exact skips.not_isScalaKeyword gapBefore fun d member => List.mem_append_left _ member
    · refine skipsBehind.not_isScalaKeyword gapBehind fun d member => ?_
      exact List.mem_append_right _ (List.mem_append_right _ member)

/-- A text is read as a single identifier exactly if it is one between gaps. -/
theorem isSingleIdent_iff (type : List Char) :
    isSingleIdent type = true ↔ ∃ before word behind, trim type = before ++ (word ++ behind) ∧
      Gap (word ++ behind) before ∧ Gap [] behind ∧ TypeWord behind word := by
  constructor
  · intro single
    unfold isSingleIdent at single
    split at single
    · rename_i t e read
      rcases tokenizeFrom_eq_cons read with ⟨-, -, none⟩ | ⟨c, rest, behind, next, gap, cut, tail⟩
      · cases none
      obtain ⟨before, whole, skips⟩ := gap_of_skipGap gap
      obtain ⟨behind, rfl, skipsBehind⟩ := gap_of_skipGap (skipGap_of_singleton tail)
      rw [List.append_nil] at cut
      have inside : t.text ++ behind = c :: rest := cutToken_append cut
      have named := typeWord_of_cutToken (no_comment_of_skipGap gap) cut single
      rw [← inside] at whole skips
      exact ⟨before, t.text, behind, whole, skips, skipsBehind, named⟩
    · cases single
  · rintro ⟨before, word, behind, whole, skips, skipsBehind, named⟩
    obtain ⟨c, cs, kind, inside, token, cut, identifier⟩ := cutToken_of_typeWord named skipsBehind
    have gap : skipGap (trim type) = .ok (c :: cs) := by
      rw [whole, skipGap_append skips, inside, token]
    have ending : skipGap behind = .ok [] := by
      have skipped := skipGap_append skipsBehind
      rw [List.append_nil] at skipped
      exact skipped.trans skipGap_nil
    rw [isSingleIdent, tokenize, tokenizeFrom_of_token gap cut, tokenizeFrom_of_end ending]
    exact identifier

/-- A text is a type name exactly if it is a single identifier between gaps, one that is read as a
    whole there. -/
theorem isTypeIdent_grammar (type : List Char) :
    isTypeIdent type = true ↔ ∃ before word behind, trim type = before ++ (word ++ behind) ∧
      Gap (word ++ behind) before ∧ Gap [] behind ∧ TypeWord behind word := by
  rw [isTypeIdent, Bool.and_eq_true, isSingleIdent_iff]
  constructor
  · rintro ⟨single, -⟩
    exact single
  · rintro ⟨before, word, behind, whole, skips, skipsBehind, named⟩
    refine ⟨⟨before, word, behind, whole, skips, skipsBehind, named⟩, ?_⟩
    rw [whole, named.not_isScalaKeyword_between skips skipsBehind]
    rfl

end TypeNames

end Scaffold.Scala
