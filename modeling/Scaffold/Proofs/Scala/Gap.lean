import Mathlib.Data.List.TakeWhile
import Scaffold.Scala.Lexer

/-!
# Gaps

The text between two tokens consists of white space and comments.  A line comment goes up to the
end of its line; block comments nest, and their marks are read from left to right, each as a
whole.  `skipGap` skips nothing but such text.
-/

namespace Scaffold.Scala

open Text

/-- A block comment behind its opening mark, with its closing mark: comments and characters at
    which no mark begins stand before that. -/
inductive CommentTail : List Char → Prop
  | close : CommentTail ['*', '/']
  | nested {inner tail : List Char} : CommentTail inner → CommentTail tail →
      CommentTail ('/' :: '*' :: inner ++ tail)
  | other {c : Char} {tail : List Char} : ¬ ['/', '*'] <+: c :: tail → ¬ ['*', '/'] <+: c :: tail →
      CommentTail tail → CommentTail (c :: tail)

/-- The text that closes `depth` comments and the one that they stand in, the innermost first. -/
def Closes : (depth : Nat) → List Char → Prop
  | 0, cs => CommentTail cs
  | depth + 1, cs => ∃ inner outer, cs = inner ++ outer ∧ CommentTail inner ∧ Closes depth outer

theorem Closes.nested {depth : Nat} {inner outer : List Char} (closed : CommentTail inner)
    (closes : Closes depth outer) : Closes depth ('/' :: '*' :: inner ++ outer) := by
  cases depth with
  | zero => exact CommentTail.nested closed closes
  | succ depth =>
    obtain ⟨tail, rest, rfl, tailClosed, closes⟩ := closes
    exact ⟨_, rest, by simp, CommentTail.nested closed tailClosed, closes⟩

theorem Closes.other {depth : Nat} {c : Char} {cs : List Char}
    (opens : ¬ ['/', '*'] <+: c :: cs) (ends : ¬ ['*', '/'] <+: c :: cs)
    (closes : Closes depth cs) : Closes depth (c :: cs) := by
  cases depth with
  | zero => exact CommentTail.other opens ends closes
  | succ depth =>
    obtain ⟨inner, outer, rfl, closed, closes⟩ := closes
    have within : c :: inner <+: c :: (inner ++ outer) := List.prefix_append (c :: inner) outer
    have tailClosed : CommentTail (c :: inner) :=
      .other (fun mark => opens (mark.trans within)) (fun mark => ends (mark.trans within)) closed
    exact ⟨c :: inner, outer, rfl, tailClosed, closes⟩

/-- What `afterComment` skips closes the comments that are open. -/
theorem closes_of_afterComment {depth : Nat} {cs rest : List Char}
    (skipped : afterComment depth cs = some rest) :
    ∃ closing, cs = closing ++ rest ∧ Closes depth closing := by
  fun_induction afterComment depth cs with
  | case1 depth cs ih =>
    obtain ⟨_, rfl, inner, outer, rfl, closed, closes⟩ := ih skipped
    exact ⟨'/' :: '*' :: inner ++ outer, by simp, .nested closed closes⟩
  | case2 cs =>
    cases skipped
    exact ⟨['*', '/'], rfl, .close⟩
  | case3 depth cs ih =>
    obtain ⟨closing, rfl, closes⟩ := ih skipped
    exact ⟨'*' :: '/' :: closing, rfl, ['*', '/'], closing, rfl, .close, closes⟩
  | case4 depth c cs opens closesLast closesInner ih =>
    obtain ⟨closing, rfl, closes⟩ := ih skipped
    refine ⟨c :: closing, rfl, .other ?_ ?_ closes⟩
    · rintro ⟨more, mark⟩
      obtain ⟨rfl, rfl⟩ := List.cons.inj mark
      exact opens _ rfl rfl
    · rintro ⟨more, mark⟩
      obtain ⟨rfl, rfl⟩ := List.cons.inj mark
      cases depth with
      | zero => exact closesLast _ rfl rfl rfl
      | succ depth => exact closesInner _ _ rfl rfl rfl
  | case5 => cases skipped

/-- `gap` may stand between a token and the text `rest` that begins with the next one: white
    space, line comments up to the end of their line, and block comments. -/
inductive Gap (rest : List Char) : List Char → Prop
  | nil : Gap rest []
  | blank {c : Char} {gap : List Char} : isBlank c = true → Gap rest gap → Gap rest (c :: gap)
  | line {body gap : List Char} : '\n' ∉ body → (gap ++ rest = [] ∨ ['\n'] <+: gap ++ rest) →
      Gap rest gap → Gap rest ('/' :: '/' :: body ++ gap)
  | block {tail gap : List Char} : CommentTail tail → Gap rest gap →
      Gap rest ('/' :: '*' :: tail ++ gap)

/-- A line comment goes up to the end of its line. -/
theorem gap_lineComment {cs gap rest : List Char} (whole : cs.dropWhile (· != '\n') = gap ++ rest)
    (skips : Gap rest gap) : Gap rest ('/' :: '/' :: cs.takeWhile (· != '\n') ++ gap) := by
  refine .line ?_ ?_ skips
  · intro member
    simpa using List.mem_takeWhile_imp member
  · rw [← whole]
    cases behind : cs.dropWhile (· != '\n') with
    | nil => exact .inl rfl
    | cons c more =>
      have ends : c = '\n' := by simpa [behind] using List.head?_dropWhile_not (· != '\n') cs
      exact .inr (by simp [ends])

/-- A text begins with a gap, up to where `skipGap` ends or finds a comment that is not closed. -/
theorem exists_gap (cs : List Char) :
    ∃ gap rest, cs = gap ++ rest ∧ Gap rest gap ∧
      (skipGap cs = .ok rest ∨ skipGap cs = .error rest) := by
  fun_induction skipGap cs with
  | case1 => exact ⟨[], [], rfl, .nil, .inl rfl⟩
  | case2 cs ih =>
    obtain ⟨gap, rest, whole, skips, ended⟩ := ih
    refine ⟨_, rest, ?_, gap_lineComment whole skips, ended⟩
    simp [← whole]
  | case3 cs rest' closed ih =>
    obtain ⟨gap, rest, rfl, skips, ended⟩ := ih
    obtain ⟨tail, rfl, closes⟩ := closes_of_afterComment closed
    exact ⟨'/' :: '*' :: tail ++ gap, rest, by simp, .block closes skips, ended⟩
  | case4 cs => exact ⟨[], _, rfl, .nil, .inr rfl⟩
  | case5 c cs _ _ blank ih =>
    obtain ⟨gap, rest, rfl, skips, ended⟩ := ih
    exact ⟨c :: gap, rest, rfl, .blank blank skips, ended⟩
  | case6 c cs => exact ⟨[], c :: cs, rfl, .nil, .inl rfl⟩

/-- `skipGap` skips a gap. -/
theorem gap_of_skipGap {cs rest : List Char} (skipped : skipGap cs = .ok rest) :
    ∃ gap, cs = gap ++ rest ∧ Gap rest gap := by
  obtain ⟨gap, rest', whole, skips, ended | unclosed⟩ := exists_gap cs
  · cases skipped.symm.trans ended
    exact ⟨gap, whole, skips⟩
  · cases skipped.symm.trans unclosed

/-- A gap stands in front of a comment that is not closed. -/
theorem gap_of_unclosed {cs rest : List Char} (unclosed : skipGap cs = .error rest) :
    ∃ gap, cs = gap ++ rest ∧ Gap rest gap := by
  obtain ⟨gap, rest', whole, skips, ended | ended⟩ := exists_gap cs
  · cases unclosed.symm.trans ended
  · cases unclosed.symm.trans ended
    exact ⟨gap, whole, skips⟩

end Scaffold.Scala
