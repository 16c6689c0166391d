import Scaffold.Proofs.Scala.TokenEnd

/-!
# The place of a fault

A text is read up to its first fault.  `tokenize_localised` says that the fault lies inside the
text, that what stands before it is read without a fault, and that what begins there has the fault
at its beginning, so that what stands before it has no part in it.
-/

namespace Scaffold.Scala

open Text

variable {cs front rear gap rest behind text : List Char} {c : Char} {start : Nat}
  {kind : TokenKind} {fault : LexFault} {problem : LexProblem}

/-- A gap is a gap where the text behind it is cut off. -/
theorem Gap.of_append (skips : Gap (front ++ rear) gap) : Gap front gap := by
  induction skips with
  | nil => exact .nil
  | blank blank _ ih => exact .blank blank ih
  | @line body gap line ended _ ih =>
    refine .line line ?_ ih
    by_cases none : gap ++ front = []
    · exact .inl none
    right
    rw [← List.append_assoc] at ended
    have ends := ended.resolve_left fun empty => none (List.append_eq_nil_iff.mp empty).1
    exact List.prefix_of_prefix_length_le ends (List.prefix_append _ rear)
      (List.length_pos_iff.mpr none)
  | block closed _ ih => exact .block closed ih

/-- A slash alone is no gap. -/
theorem Gap.ne_slash (skips : Gap rest gap) : gap ≠ ['/'] := by
  intro slash
  cases skips with
  | nil => cases slash
  | blank blank =>
    cases slash
    cases blank
  | line => cases slash
  | block => cases slash

/-- A gap is skipped to its end where the text behind it is cut off. -/
theorem Gap.skipGap_alone (skips : Gap rest gap) : skipGap gap = .ok [] := by
  have whole : Gap ([] ++ rest) gap := skips
  have skipped := skipGap_append whole.of_append
  rwa [List.append_nil, skipGap_nil] at skipped

/-- A text falls into what is read by itself and what has the fault at its beginning, and no mark of
    a comment stands between them. -/
structure SplitAt (problem : LexProblem) (front rear : List Char) : Prop where
  readable : ∃ lexemes, ReadsAs front lexemes
  faulty : tokenize rear = .error ⟨problem, 0⟩
  kept : KeepsMark front rear

/-- Behind a gap the text with the fault begins. -/
theorem Gap.splitAt (skips : Gap rest gap) (faulty : tokenize rest = .error ⟨problem, 0⟩) :
    SplitAt problem gap rest where
  readable := ⟨_, readsAs_end skips.skipGap_alone⟩
  faulty := faulty
  kept slash := absurd slash skips.ne_slash

/-- Where the text behind a token is split, the token belongs to what is read by itself. -/
theorem SplitAt.token (split : SplitAt problem front rear)
    (skips : Gap (c :: rest) gap) (gap_end : skipGap (gap ++ c :: rest) = .ok (c :: rest))
    (cut : cutToken c rest = .ok (kind, text, front ++ rear)) :
    gap ++ c :: rest = gap ++ (text ++ front) ++ rear ∧
      SplitAt problem (gap ++ (text ++ front)) rear := by
  obtain ⟨more, rfl, rfl⟩ := exists_of_cutToken (no_comment_of_skipGap gap_end) cut
  rw [← List.append_assoc] at skips gap_end cut
  obtain ⟨lexemes, read⟩ := split.readable
  have seen : Gap (c :: (more ++ front) ++ rear) gap := skips
  have ahead : skipGap (gap ++ c :: (more ++ front)) = .ok (c :: (more ++ front)) := by
    rw [skipGap_append seen.of_append, skipGap_front gap_end]
  refine ⟨by simp, ⟨_, read.token ahead (cutToken_front split.kept cut)⟩, split.faulty, ?_⟩
  -- A slash alone would be the token, and no comment begins at a token.
  intro slash
  cases gap with
  | nil =>
    obtain ⟨rfl, none⟩ := List.cons.inj slash
    have noComment := no_comment_of_skipGap gap_end rfl
    rwa [show more ++ front = [] from none, List.nil_append] at noComment
  | cons d gap => simp at slash

/-- A text with a fault is split at the place of the fault. -/
theorem splitAt_of_tokenizeFrom (failed : tokenizeFrom start cs = .error fault) :
    ∃ front rear, cs = front ++ rear ∧ fault.offset = start + front.length ∧
      SplitAt fault.problem front rear := by
  fun_induction tokenizeFrom start cs with
  | case1 start cs rest unclosed =>
    obtain ⟨gap, rfl, skips⟩ := gap_of_unclosed unclosed
    cases failed
    refine ⟨gap, rest, rfl, by simp, skips.splitAt ?_⟩
    have behind := (skipGap_append skips).symm.trans unclosed
    rw [tokenize, tokenizeFrom_of_unclosed behind, Nat.sub_self]
  | case2 => cases failed
  | case3 start cs c rest gap_end offset problem malformed =>
    obtain ⟨gap, rfl, skips⟩ := gap_of_skipGap gap_end
    cases failed
    have place : offset = start + gap.length := by simp [offset]
    refine ⟨gap, c :: rest, rfl, place, skips.splitAt ?_⟩
    have behind := (skipGap_append skips).symm.trans gap_end
    rw [tokenize, tokenizeFrom_of_malformed behind malformed, List.length_cons, Nat.sub_self]
  | case4 start cs c rest gap_end offset kind text behind cut ih =>
    cases ended : tokenizeFrom (offset + text.length) behind with
    | ok tokens =>
      rw [ended] at failed
      cases failed
    | error fault =>
      rw [ended] at failed
      cases failed
      obtain ⟨front, rear, rfl, place, split⟩ := ih ended
      obtain ⟨gap, rfl, skips⟩ := gap_of_skipGap gap_end
      obtain ⟨whole, split⟩ := split.token skips gap_end cut
      refine ⟨_, rear, whole, ?_, split⟩
      rw [place]
      simp [offset]
      omega

theorem SplitAt.rear_ne_nil (split : SplitAt problem front rear) : rear ≠ [] := by
  rintro rfl
  have faulty := split.faulty
  rw [tokenize_nil] at faulty
  cases faulty

/-- A text is read, or it has a first fault inside it: what stands before the fault is read by
    itself, and what begins there has the same fault at its beginning. -/
theorem tokenize_localised (source : List Char) :
    (∃ tokens, tokenize source = .ok tokens) ∨
      ∃ fault, tokenize source = .error fault ∧ fault.offset < source.length ∧
        (∃ tokens, tokenize (source.take fault.offset) = .ok tokens) ∧
        tokenize (source.drop fault.offset) = .error ⟨fault.problem, 0⟩ := by
  cases ended : tokenize source with
  | ok tokens => exact .inl ⟨tokens, rfl⟩
  | error fault =>
    obtain ⟨front, rear, rfl, place, split⟩ := splitAt_of_tokenizeFrom ended
    rw [Nat.zero_add] at place
    obtain ⟨lexemes, read⟩ := split.readable
    obtain ⟨tokens, read, -⟩ := read 0
    have inside := List.length_pos_iff.mpr split.rear_ne_nil
    refine .inr ⟨fault, rfl, ?_, ⟨tokens, ?_⟩, ?_⟩
    · rw [place, List.length_append]
      omega
    · rwa [place, List.take_left]
    · rw [place, List.drop_left, split.faulty]

example : tokenize "x +/* y".toList = .error ⟨.unclosedComment, 3⟩ ∧
    tokenize "x +".toList = .ok [⟨.varId, ['x'], 0⟩, ⟨.otherId, ['+'], 2⟩, ⟨.endOfText, [], 3⟩] ∧
    tokenize "/* y".toList = .error ⟨.unclosedComment, 0⟩ := by
  decide +kernel

end Scaffold.Scala
