import Scaffold.Proofs.Scala.LineScan
import Scaffold.Proofs.Scala.Skipping
import Scaffold.Proofs.Scala.Tiling
import Scaffold.Proofs.Scala.TokenLine

/-!
# Where lines begin among tokens

In a text that can be read, a line begins between two tokens, inside a block comment or inside a
string between triple quotes.  A stretch without slashes and quotes at the beginning of a line is
as a whole inside that comment or string.
-/

namespace Scaffold.Scala

open Declaration Text

variable {front back rest text : List Char} {kind : TokenKind} {atLineStart : Bool}

/-- Between the tokens that begin at `start`, a block comment encloses the stretch from `first` up
    to `last`. -/
def InComment (source : List Char) (start : Nat) (tokens : List Token) (first last : Nat) : Prop :=
  ∃ bounds ∈ gapBounds start tokens, ∃ before tail behind,
    slice source bounds.1 bounds.2 = before ++ ('/' :: '*' :: tail ++ behind) ∧
    Gap ('/' :: '*' :: tail ++ behind ++ source.drop bounds.2) before ∧ CommentTail tail ∧
    Gap (source.drop bounds.2) behind ∧ bounds.1 + before.length + 2 ≤ first ∧
    last < bounds.1 + before.length + 2 + tail.length

/-- A string between triple quotes encloses the stretch from `first` up to `last`. -/
def InString (tokens : List Token) (first last : Nat) : Prop :=
  ∃ t ∈ tokens, t.kind = .stringLiteral ∧ tripleQuote <+: t.text ∧ t.offset < first ∧ last < t.stop

section LineEnds

theorem endsLine_true {cs : List Char} (ends : endsLine atLineStart cs = true) :
    endsLine true cs = true := by
  cases cs with
  | nil => rfl
  | cons => exact ends

/-- Where a line begins behind a text, it begins behind every end of it. -/
theorem endsLine_behind (ends : endsLine atLineStart (front ++ back) = true) :
    endsLine true back = true := by
  rw [endsLine_append] at ends
  exact endsLine_true ends

/-- Inside a line no line begins. -/
theorem lineFeed_mem (nonempty : front ≠ []) (ends : endsLine true front = true) :
    '\n' ∈ front := by
  by_contra line
  obtain ⟨c, cs, rfl⟩ := List.exists_cons_of_ne_nil nonempty
  obtain ⟨different, line⟩ := List.ne_and_not_mem_of_not_mem_cons line
  have goesOn : (c == '\n') = false := by simpa using Ne.symm different
  rw [endsLine, goesOn, endsLine_of_line line] at ends
  cases ends

end LineEnds

section Gaps

theorem CommentTail.getLast? {tail : List Char} (closed : CommentTail tail) :
    tail.getLast? = some '/' := by
  induction closed with
  | close => rfl
  | nested _ _ _ ih => rw [List.getLast?_append, ih, Option.some_or]
  | @other c tail _ _ _ ih =>
    rw [← List.singleton_append, List.getLast?_append, ih, Option.some_or]

/-- A gap is cut inside one of its block comments. -/
def CutsComment (rest front back : List Char) : Prop :=
  ∃ before inner outer behind, front = before ++ ('/' :: '*' :: inner) ∧ back = outer ++ behind ∧
    outer ≠ [] ∧ Gap ('/' :: '*' :: (inner ++ outer) ++ behind ++ rest) before ∧
    CommentTail (inner ++ outer) ∧ Gap rest behind

namespace CutsComment

theorem behind_blank {c : Char} (blank : isBlank c = true) (cuts : CutsComment rest front back) :
    CutsComment rest (c :: front) back := by
  obtain ⟨before, inner, outer, behind, rfl, rfl, nonempty, skips, closed, onward⟩ := cuts
  exact ⟨c :: before, inner, outer, behind, rfl, rfl, nonempty, .blank blank skips, closed, onward⟩

theorem behind_line {body : List Char} (line : '\n' ∉ body)
    (ended : front ++ back ++ rest = [] ∨ ['\n'] <+: front ++ back ++ rest)
    (cuts : CutsComment rest front back) :
    CutsComment rest ('/' :: '/' :: body ++ front) back := by
  obtain ⟨before, inner, outer, behind, rfl, rfl, nonempty, skips, closed, onward⟩ := cuts
  refine ⟨'/' :: '/' :: body ++ before, inner, outer, behind, by simp, rfl, nonempty,
    .line line ?_ skips, closed, onward⟩
  simpa using ended

theorem behind_block {tail : List Char} (ended : CommentTail tail)
    (cuts : CutsComment rest front back) :
    CutsComment rest ('/' :: '*' :: tail ++ front) back := by
  obtain ⟨before, inner, outer, behind, rfl, rfl, nonempty, skips, closed, onward⟩ := cuts
  exact ⟨'/' :: '*' :: tail ++ before, inner, outer, behind, by simp, rfl, nonempty,
    .block ended skips, closed, onward⟩

end CutsComment

/-- What is left of a gap from the beginning of a line on is a gap, unless the line begins inside a
    comment. -/
theorem Gap.cut {gap : List Char} (skips : Gap rest gap) (whole : gap = front ++ back)
    (ends : endsLine true front = true) : Gap rest back ∨ CutsComment rest front back := by
  induction skips generalizing front with
  | nil =>
    obtain ⟨rfl, rfl⟩ := List.append_eq_nil_iff.mp whole.symm
    exact .inl .nil
  | @blank c gap blank skips ih =>
    cases front with
    | nil =>
      rw [List.nil_append] at whole
      exact .inl (whole ▸ .blank blank skips)
    | cons d front =>
      obtain ⟨rfl, rfl⟩ := List.cons.inj whole
      exact (ih rfl (endsLine_true ends)).imp_right (.behind_blank blank)
  | @line body gap line ended skips ih =>
    rcases List.append_eq_append_iff.mp whole with ⟨more, rfl, rfl⟩ | ⟨more, within, rfl⟩
    · have onward := ih rfl (endsLine_behind ends)
      exact onward.imp_right (.behind_line line ended)
    · cases front with
      | nil =>
        rw [List.nil_append] at within
        exact .inl (within ▸ .line line ended skips)
      | cons d front =>
        have feed := lineFeed_mem (List.cons_ne_nil d front) ends
        have inside : '\n' ∈ '/' :: '/' :: body := by
          rw [within]
          exact List.mem_append_left _ feed
        simp [line] at inside
  | @block tail gap closed skips ih =>
    rcases List.append_eq_append_iff.mp whole with ⟨more, rfl, rfl⟩ | ⟨more, within, rfl⟩
    · exact (ih rfl (endsLine_behind ends)).imp_right (.behind_block closed)
    · match front, ends with
      | [], _ =>
        rw [List.nil_append] at within
        exact .inl (within ▸ .block closed skips)
      | [d], ends =>
        obtain ⟨rfl, -⟩ := List.cons.inj within
        cases ends
      | d :: e :: inner, ends =>
        obtain ⟨rfl, inside⟩ := List.cons.inj within
        obtain ⟨rfl, rfl⟩ := List.cons.inj inside
        by_cases empty : more = []
        · subst empty
          exact .inl skips
        · exact .inr ⟨[], inner, more, gap, rfl, rfl, empty, .nil, closed, skips⟩

theorem tokenizeFrom_gap {gap : List Char} (skips : Gap rest gap) (start : Nat) :
    tokenizeFrom start (gap ++ rest) = tokenizeFrom (start + gap.length) rest :=
  tokenizeFrom_congr (skipGap_append skips) (by rw [List.length_append, Nat.add_assoc])

end Gaps

section Places

variable {source before after : List Char} {start first : Nat} {t : Token} {tokens : List Token}

/-- A stretch without a mark ends before one that has the mark at its end. -/
theorem length_lt_of_mark {mark : Char} {outer behind : List Char}
    (last : outer.getLast? = some mark) (absent : mark ∉ text)
    (whole : outer ++ behind = text ++ after) : text.length < outer.length := by
  rcases List.append_eq_append_iff.mp whole with ⟨more, rfl, -⟩ | ⟨more, rfl, -⟩
  · exact absurd (List.mem_append_left more (List.mem_of_getLast? last)) absent
  · have nonempty : more ≠ [] := by
      rintro rfl
      rw [List.append_nil] at last
      exact absent (List.mem_of_getLast? last)
    have longer := List.length_pos_iff.mpr nonempty
    rw [List.length_append]
    omega

theorem getLast?_of_append {c : Char} (nonempty : back ≠ [])
    (last : (front ++ back).getLast? = some c) : back.getLast? = some c := by
  rw [List.getLast?_append, List.getLast?_eq_some_getLast nonempty, Option.some_or] at last
  rw [List.getLast?_eq_some_getLast nonempty, last]

/-- What becomes of a stretch at the beginning of a line, with a text behind it: it is read as
    tokens, or a comment or a string encloses it. -/
inductive Placed (source : List Char) (start : Nat) (tokens : List Token) (first : Nat)
    (text after : List Char) : Prop
  | read {body more : List Token} : tokens = body ++ more →
      tokenizeFrom first (text ++ after) = .ok more → Placed source start tokens first text after
  | comment : InComment source start tokens first (first + text.length) →
      Placed source start tokens first text after
  | string : InString tokens first (first + text.length) →
      Placed source start tokens first text after

/-- It is placed alike behind a token. -/
theorem Placed.behind (placed : Placed source t.stop tokens first text after) :
    Placed source start (t :: tokens) first text after := by
  cases placed with
  | @read body more whole read =>
    rw [whole]
    exact .read (List.cons_append.symm : t :: (body ++ more) = t :: body ++ more) read
  | comment inside =>
    obtain ⟨bounds, member, inside⟩ := inside
    exact .comment ⟨bounds, List.mem_cons_of_mem _ member, inside⟩
  | string inside =>
    obtain ⟨other, member, inside⟩ := inside
    exact .string ⟨other, List.mem_cons_of_mem _ member, inside⟩

/-- A stretch that begins in the gap in front of the first token. -/
theorem placed_in_gap {gap : List Char} (skips : Gap rest gap) (whole : gap = front ++ back)
    (ends : endsLine true front = true) (same : back ++ rest = text ++ after)
    (noSlash : '/' ∉ text) (located : source = before ++ (gap ++ rest))
    (begins : before.length = start) (read : tokenizeFrom start (gap ++ rest) = .ok (t :: tokens))
    (offset : t.offset = start + gap.length) :
    Placed source start (t :: tokens) (start + front.length) text after := by
  rcases skips.cut whole ends with onward | cuts
  · rw [tokenizeFrom_gap skips] at read
    refine .read (List.nil_append _).symm ?_
    rw [← same, tokenizeFrom_gap onward, ← read, whole, List.length_append, Nat.add_assoc]
  · obtain ⟨preceding, inner, outer, behind, rfl, rfl, nonempty, skips, closed, onward⟩ := cuts
    have part : slice source start t.offset = gap := by
      rw [located, offset, ← begins, slice_append]
    have left : source.drop t.offset = rest := by
      rw [located, offset, ← begins, ← List.append_assoc, ← List.length_append, List.drop_left]
    rw [List.append_assoc] at same
    have shorter := length_lt_of_mark (getLast?_of_append nonempty closed.getLast?) noSlash same
    refine .comment ⟨(start, t.offset), List.mem_cons_self, preceding, inner ++ outer, behind, ?_⟩
    dsimp only
    rw [part, left]
    refine ⟨by simp [whole], skips, closed, onward, ?_, ?_⟩
    · simp only [List.length_append, List.length_cons]
      omega
    · simp only [List.length_append, List.length_cons]
      omega

/-- A stretch that begins on a line inside a token. -/
theorem placed_in_token {inner outer behind : List Char} (described : t.kind.Describes t.text)
    (whole : t.text = inner ++ outer) (nonempty : inner ≠ []) (left : outer ≠ [])
    (ends : endsLine true inner = true) (same : outer ++ behind = text ++ after)
    (noQuote : '"' ∉ text) (offset : t.offset + inner.length = first) :
    Placed source start (t :: tokens) first text after := by
  have feed : '\n' ∈ t.text := by
    rw [whole]
    exact List.mem_append_left _ (lineFeed_mem nonempty ends)
  obtain ⟨string, quotes, last⟩ := tripleQuote_of_lineFeed described feed
  rw [whole] at last
  have shorter := length_lt_of_mark (getLast?_of_append left last) noQuote same
  have longer := List.length_pos_iff.mpr nonempty
  have length := congrArg List.length whole
  rw [List.length_append] at length
  refine .string ⟨t, List.mem_cons_self, string, quotes, by omega, ?_⟩
  rw [Token.stop]
  omega

/-- What is read first: a gap, and behind it the end of the text or a token. -/
theorem first_of_tokenizeFrom {cs : List Char} (read : tokenizeFrom start cs = .ok tokens) :
    ∃ gap rest t more, cs = gap ++ rest ∧ Gap rest gap ∧ tokens = t :: more ∧
      t.offset = start + gap.length ∧ ((rest = [] ∧ more = []) ∨
        ∃ behind, rest = t.text ++ behind ∧ t.kind.Describes t.text ∧
          tokenizeFrom t.stop behind = .ok more) := by
  fun_cases tokenizeFrom start cs with
  | case1 rest unclosed =>
    rw [tokenizeFrom_of_unclosed unclosed] at read
    cases read
  | case2 skipped =>
    obtain ⟨gap, rfl, skips⟩ := gap_of_skipGap skipped
    rw [tokenizeFrom_of_end skipped, List.append_nil] at read
    cases read
    exact ⟨gap, [], _, _, rfl, skips, rfl, rfl, .inl ⟨rfl, rfl⟩⟩
  | case3 c rest skipped begins problem malformed =>
    rw [tokenizeFrom_of_malformed skipped malformed] at read
    cases read
  | case4 c rest skipped begins kind text behind cut =>
    obtain ⟨gap, rfl, skips⟩ := gap_of_skipGap skipped
    rw [tokenizeFrom_of_token skipped cut] at read
    obtain ⟨more, tail, rfl⟩ := map_eq_ok.mp read
    have described := describes_of_cutToken (no_comment_of_skipGap skipped) cut
    refine ⟨gap, c :: rest, _, more, rfl, skips, rfl, by simp, .inr ⟨behind, ?_, described, tail⟩⟩
    exact (cutToken_append cut).symm

/-- At the beginning of a line, a stretch without slashes and quotes is read as tokens unless a
    comment or a string encloses it. -/
theorem placed_of_line (noSlash : '/' ∉ text) (noQuote : '"' ∉ text)
    (ends : endsLine true front = true) (located : source = before ++ (front ++ (text ++ after)))
    (begins : before.length = start)
    (read : tokenizeFrom start (front ++ (text ++ after)) = .ok tokens) :
    Placed source start tokens (start + front.length) text after := by
  induction tokens generalizing start before front with
  | nil =>
    obtain ⟨_, _, _, _, -, -, wrong, -⟩ := first_of_tokenizeFrom read
    cases wrong
  | cons t tokens ih =>
    obtain ⟨gap, rest, _, _, within, skips, same, offset, first⟩ := first_of_tokenizeFrom read
    obtain ⟨rfl, rfl⟩ := List.cons.inj same
    rw [within] at read located
    -- The line begins in the gap, where it ends, or behind that.
    rcases List.append_eq_append_iff.mp within with ⟨back, whole, left⟩ | ⟨more, rfl, left⟩
    · exact placed_in_gap skips whole ends left.symm noSlash located begins read offset
    by_cases inGap : more = []
    · subst inGap
      rw [List.append_nil] at ends ⊢
      exact placed_in_gap skips (List.append_nil gap).symm ends left noSlash located begins read
        offset
    rcases first with ⟨rfl, -⟩ | ⟨behind, rfl, described, tail⟩
    · exact absurd (List.append_eq_nil_iff.mp left.symm).1 inGap
    have behindToken : ∀ {onward}, more = t.text ++ onward → behind = onward ++ (text ++ after) →
        Placed source start (t :: tokens) (start + (gap ++ more).length) text after := by
      rintro onward rfl rfl
      have stop : (before ++ (gap ++ t.text)).length = t.stop := by
        rw [Token.stop, offset, List.length_append, List.length_append, begins, Nat.add_assoc]
      have place : start + (gap ++ (t.text ++ onward)).length = t.stop + onward.length := by
        rw [← stop]
        simp only [List.length_append]
        omega
      have rest : source = before ++ (gap ++ t.text) ++ (onward ++ (text ++ after)) := by
        simpa using located
      rw [place]
      exact (ih (endsLine_behind (endsLine_behind ends)) rest stop tail).behind
    rcases List.append_eq_append_iff.mp left with ⟨onward, whole, left⟩ | ⟨outer, whole, left⟩
    · exact behindToken whole left
    by_cases last : outer = []
    · subst last
      have ended : more = t.text ++ [] := by rw [whole, List.append_nil, List.append_nil]
      exact behindToken ended left.symm
    · apply placed_in_token described whole inGap last (endsLine_behind ends) left.symm noQuote
      rw [offset, List.length_append, Nat.add_assoc]

end Places

end Scaffold.Scala
