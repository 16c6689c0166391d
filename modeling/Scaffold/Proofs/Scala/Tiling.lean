import Scaffold.Proofs.Scala.Gap
import Scaffold.Proofs.Scala.Reading
import Scaffold.Proofs.Scala.TokenClass

/-!
# Tokens tile the source

The tokens of a text, in their order, are slices of it that do not overlap, and what lies before,
between and behind them is gaps.  The last token marks the end of the text.
-/

namespace Scaffold.Scala

/-- The part of a text from one offset up to another. -/
def slice (source : List Char) (start stop : Nat) : List Char :=
  (source.drop start).take (stop - start)

/-- The slice that begins where `before` ends and is as long as `text`. -/
theorem slice_append (before text behind : List Char) :
    slice (before ++ (text ++ behind)) before.length (before.length + text.length) = text := by
  simp [slice]

/-- The offset behind the last character of a token. -/
def Token.stop (t : Token) : Nat := t.offset + t.text.length

/-- Where the gaps around tokens begin and end, if the first one begins at `start`. -/
def gapBounds (start : Nat) (tokens : List Token) : List (Nat × Nat) :=
  (start :: tokens.map Token.stop).zip (tokens.map Token.offset)

theorem gapBounds_cons (start : Nat) (t : Token) (tokens : List Token) :
    gapBounds start (t :: tokens) = (start, t.offset) :: gapBounds t.stop tokens := rfl

/-- The gaps and tokens of `cs`, the part of a text behind its first `start` characters. -/
inductive Tiles : (start : Nat) → List Char → List Token → Prop
  | last {start : Nat} {gap : List Char} : Gap [] gap →
      Tiles start gap [⟨.endOfText, [], start + gap.length⟩]
  | token {start : Nat} {gap text behind : List Char} {kind : TokenKind} {tokens : List Token} :
      Gap (text ++ behind) gap → text ≠ [] → kind ≠ .endOfText →
      Tiles (start + gap.length + text.length) behind tokens →
      Tiles start (gap ++ (text ++ behind)) (⟨kind, text, start + gap.length⟩ :: tokens)

/-- The tokens that are read from a text tile it. -/
theorem tiles_of_tokenizeFrom {start : Nat} {cs : List Char} {tokens : List Token}
    (read : tokenizeFrom start cs = .ok tokens) : Tiles start cs tokens := by
  fun_induction tokenizeFrom start cs generalizing tokens with
  | case1 => cases read
  | case2 start cs skipped =>
    obtain ⟨gap, rfl, skips⟩ := gap_of_skipGap skipped
    cases read
    simpa using Tiles.last skips
  | case3 => cases read
  | case4 =>
    rename_i start cs c rest skipped begins kind text behind cut ih
    cases tail : tokenizeFrom (begins + text.length) behind with
    | error fault =>
      rw [tail] at read
      cases read
    | ok more =>
      rw [tail] at read
      cases read
      have tiles := ih tail
      obtain ⟨gap, rfl, skips⟩ := gap_of_skipGap skipped
      have whole : text ++ behind = c :: rest := cutToken_append cut
      have nonempty : text ≠ [] := cutToken_ne_nil (no_comment_of_skipGap skipped) cut
      have offset : begins = start + gap.length := by simp [begins]
      rw [offset] at tiles ⊢
      rw [← whole] at skips ⊢
      exact .token skips nonempty (cutToken_ne_endOfText cut) tiles

namespace Tiles

variable {start : Nat} {cs : List Char} {tokens : List Token}

theorem start_le (tiles : Tiles start cs tokens) : ∀ t ∈ tokens, start ≤ t.offset := by
  induction tiles with
  | last => simp
  | token _ _ _ _ ih =>
    intro t member
    rcases List.mem_cons.mp member with equal | member
    · simp [equal]
    · have := ih t member
      omega

/-- The tokens end with the one that marks the end; the others are not empty. -/
theorem ending (tiles : Tiles start cs tokens) :
    ∃ body, tokens = body ++ [⟨.endOfText, [], start + cs.length⟩] ∧
      ∀ t ∈ body, t.kind ≠ .endOfText ∧ t.text ≠ [] := by
  induction tiles with
  | last => exact ⟨[], rfl, by simp⟩
  | @token start gap text behind kind tokens _ nonempty different _ ih =>
    obtain ⟨body, rfl, proper⟩ := ih
    refine ⟨⟨kind, text, start + gap.length⟩ :: body, by simp [Nat.add_assoc], ?_⟩
    intro t member
    rcases List.mem_cons.mp member with equal | member
    · exact equal ▸ ⟨different, nonempty⟩
    · exact proper t member

/-- A later token begins where an earlier one has ended. -/
theorem ordered (tiles : Tiles start cs tokens) :
    tokens.Pairwise fun s t => s.stop ≤ t.offset := by
  induction tiles with
  | last => exact List.pairwise_singleton _ _
  | token _ _ _ tail ih => exact List.pairwise_cons.mpr ⟨tail.start_le, ih⟩

/-- Every token is the slice of the text that its place tells. -/
theorem slices (tiles : Tiles start cs tokens) (before : List Char)
    (behind : before.length = start) :
    ∀ t ∈ tokens, slice (before ++ cs) t.offset t.stop = t.text := by
  induction tiles generalizing before with
  | last => simp [slice, Token.stop]
  | @token start gap text rest kind tokens _ _ _ _ ih =>
    intro t member
    rcases List.mem_cons.mp member with equal | member
    · have part := slice_append (before ++ gap) text rest
      rw [List.length_append, behind] at part
      simpa only [equal, Token.stop, List.append_assoc] using part
    · have further : (before ++ gap ++ text).length = start + gap.length + text.length := by
        simp [behind, Nat.add_assoc]
      have tail := ih _ further t member
      simpa only [List.append_assoc] using tail

/-- What lies before, between and behind the tokens is gaps. -/
theorem gaps (tiles : Tiles start cs tokens) (before : List Char)
    (behind : before.length = start) :
    ∀ bounds ∈ gapBounds start tokens, bounds.1 ≤ bounds.2 ∧
      Gap ((before ++ cs).drop bounds.2) (slice (before ++ cs) bounds.1 bounds.2) := by
  induction tiles generalizing before with
  | @last start gap skips =>
    intro bounds member
    rw [gapBounds_cons] at member
    have member : bounds = (start, start + gap.length) := List.mem_singleton.mp member
    have part := slice_append before gap []
    rw [behind, List.append_nil] at part
    rw [member, part, ← behind]
    exact ⟨Nat.le_add_right _ _, by simpa using skips⟩
  | @token start gap text rest kind tokens skips _ _ _ ih =>
    intro bounds member
    rw [gapBounds_cons] at member
    rcases List.mem_cons.mp member with equal | member
    · have part := slice_append before gap (text ++ rest)
      rw [behind] at part
      rw [equal, part, ← behind]
      exact ⟨Nat.le_add_right _ _, by simpa [← List.drop_drop] using skips⟩
    · have further : (before ++ gap ++ text).length = start + gap.length + text.length := by
        simp [behind, Nat.add_assoc]
      have tail := ih _ further bounds member
      simpa only [List.append_assoc] using tail

end Tiles

/-- What it means that tokens tile a text: they end with one token of no text for its end, every
    other one is a slice of it that is not empty, none begins before an earlier one has ended, and
    the text before, between and behind them is gaps. -/
structure Tiling (source : List Char) (tokens : List Token) : Prop where
  ending : ∃ body, tokens = body ++ [⟨.endOfText, [], source.length⟩] ∧
    ∀ t ∈ body, t.kind ≠ .endOfText ∧ t.text ≠ []
  slices : ∀ t ∈ tokens, slice source t.offset t.stop = t.text
  ordered : tokens.Pairwise fun s t => s.stop ≤ t.offset
  gaps : ∀ bounds ∈ gapBounds 0 tokens, bounds.1 ≤ bounds.2 ∧
    Gap (source.drop bounds.2) (slice source bounds.1 bounds.2)

/-- The tokens of a text tile it. -/
theorem tokenize_tiling {source : List Char} {tokens : List Token}
    (read : tokenize source = .ok tokens) : Tiling source tokens := by
  have tiles := tiles_of_tokenizeFrom read
  have ending := tiles.ending
  rw [Nat.zero_add] at ending
  exact ⟨ending, tiles.slices [] rfl, tiles.ordered, tiles.gaps [] rfl⟩

/-- The tokens of a text with a nested comment and a comment that the end of the text ends. -/
theorem tokenize_tiling_nested_comment :
    tokenize "a/*/**/*/.C //".toList =
      .ok [⟨.varId, ['a'], 0⟩, ⟨.dot, ['.'], 9⟩, ⟨.otherId, ['C'], 10⟩, ⟨.endOfText, [], 14⟩] ∧
    Tiling "a/*/**/*/.C //".toList
      [⟨.varId, ['a'], 0⟩, ⟨.dot, ['.'], 9⟩, ⟨.otherId, ['C'], 10⟩, ⟨.endOfText, [], 14⟩] := by
  have read : tokenize "a/*/**/*/.C //".toList =
      .ok [⟨.varId, ['a'], 0⟩, ⟨.dot, ['.'], 9⟩, ⟨.otherId, ['C'], 10⟩, ⟨.endOfText, [], 14⟩] := by
    decide +kernel
  exact ⟨read, tokenize_tiling read⟩

end Scaffold.Scala
