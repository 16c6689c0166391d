import Scaffold.Proofs.Scala.Gap
import Scaffold.Proofs.Scala.Joining

/-!
# Gaps are skipped

The converse of what is said of gaps: all the text that may stand between two tokens is skipped, so
that a gap in front of a text makes no difference to what is read there.
-/

namespace Scaffold.Scala

open Text

variable {gap rest tail : List Char}

/-- A character at which no mark begins is skipped inside a comment. -/
theorem afterComment_other {c d : Char} (opens : ¬ (c = '/' ∧ d = '*'))
    (ends : ¬ (c = '*' ∧ d = '/')) (depth : Nat) (cs : List Char) :
    afterComment depth (c :: d :: cs) = afterComment depth (d :: cs) := by
  rw [afterComment.eq_4]
  · rintro _ rfl first
    exact opens ⟨rfl, (List.cons.inj first).1⟩
  · rintro _ rfl rfl first
    exact ends ⟨rfl, (List.cons.inj first).1⟩
  · rintro _ _ rfl rfl first
    exact ends ⟨rfl, (List.cons.inj first).1⟩

/-- A comment is left behind its closing mark. -/
theorem afterComment_tail (closed : CommentTail tail) :
    (∀ rest, afterComment 0 (tail ++ rest) = some rest) ∧
      ∀ depth rest, afterComment (depth + 1) (tail ++ rest) = afterComment depth rest := by
  -- Both at once: a comment nested in an outermost one is left one level down.
  induction closed with
  | close => exact ⟨fun _ => by simp [afterComment], fun _ _ => by simp [afterComment]⟩
  | nested _ _ inside outside =>
    refine ⟨fun rest => ?_, fun depth rest => ?_⟩
    · rw [List.cons_append, List.cons_append, List.cons_append, List.cons_append, afterComment,
        List.append_assoc, inside.2, outside.1]
    · rw [List.cons_append, List.cons_append, List.cons_append, List.cons_append, afterComment,
        List.append_assoc, inside.2, outside.2]
  | @other c tail opens ends closed ih =>
    obtain ⟨d, more, rfl⟩ : ∃ d more, tail = d :: more := by
      cases closed with
      | close | nested | other => exact ⟨_, _, rfl⟩
    have noOpening : ¬ (c = '/' ∧ d = '*') := by
      rintro ⟨rfl, rfl⟩
      exact opens ⟨more, rfl⟩
    have noEnd : ¬ (c = '*' ∧ d = '/') := by
      rintro ⟨rfl, rfl⟩
      exact ends ⟨more, rfl⟩
    refine ⟨fun rest => ?_, fun depth rest => ?_⟩
    · rw [List.cons_append, List.cons_append, afterComment_other noOpening noEnd]
      exact ih.1 rest
    · rw [List.cons_append, List.cons_append, afterComment_other noOpening noEnd]
      exact ih.2 depth rest

/-- A line comment is skipped up to the end of its line. -/
theorem skipGap_lineComment {body : List Char} (line : '\n' ∉ body)
    (ended : rest = [] ∨ ['\n'] <+: rest) :
    skipGap ('/' :: '/' :: (body ++ rest)) = skipGap rest := by
  have stop : rest.dropWhile (· != '\n') = rest := by
    rcases ended with rfl | ⟨more, rfl⟩
    · rfl
    · rfl
  have behind : (body ++ rest).dropWhile (· != '\n') = rest := by
    rw [List.dropWhile_append_of_pos, stop]
    intro c member
    rw [bne_iff_ne]
    rintro rfl
    exact line member
  rw [skipGap.eq_def]
  exact congrArg skipGap behind

/-- A gap is skipped. -/
theorem skipGap_append (skips : Gap rest gap) : skipGap (gap ++ rest) = skipGap rest := by
  induction skips with
  | nil => rfl
  | blank blank _ ih => rw [List.cons_append, skipGap_blank blank, ih]
  | line line ended _ ih =>
    rw [List.cons_append, List.cons_append, List.cons_append, List.cons_append, List.append_assoc,
      skipGap_lineComment line ended, ih]
  | block closed _ ih =>
    rw [List.cons_append, List.cons_append, List.cons_append, List.cons_append, List.append_assoc,
      skipGap_comment ((afterComment_tail closed).1 _), ih]

/-- A gap begins with white space or with a slash. -/
theorem Gap.head (skips : Gap rest gap) : ∀ c ∈ gap.head?, isBlank c = true ∨ c = '/' := by
  cases skips with
  | nil => simp
  | blank blank =>
    rintro _ ⟨⟩
    exact .inl blank
  | line | block =>
    rintro _ ⟨⟩
    exact .inr rfl

end Scaffold.Scala
