import Scaffold.Scala.Tokens

/-!
# Reading one token after the other

What `tokenizeFrom` does at each kind of beginning: a comment that is not closed, nothing but a
gap, a token that is malformed, and a token with more text behind it.
-/

namespace Scaffold.Scala

variable {offset : Nat} {cs rest behind : List Char} {c : Char}

theorem tokenizeFrom_of_unclosed (gap : skipGap cs = .error rest) :
    tokenizeFrom offset cs =
      .error ⟨.unclosedComment, offset + (cs.length - rest.length)⟩ := by
  rw [tokenizeFrom]
  split <;> simp_all

theorem tokenizeFrom_of_end (gap : skipGap cs = .ok []) :
    tokenizeFrom offset cs = .ok [⟨.endOfText, [], offset + cs.length⟩] := by
  rw [tokenizeFrom]
  split <;> simp_all

theorem tokenizeFrom_of_malformed {problem : LexProblem} (gap : skipGap cs = .ok (c :: rest))
    (cut : cutToken c rest = .error problem) :
    tokenizeFrom offset cs =
      .error ⟨problem, offset + (cs.length - (rest.length + 1))⟩ := by
  rw [tokenizeFrom]
  split
  · simp_all
  · simp_all
  · rename_i first more found
    cases gap.symm.trans found
    simp only
    split <;> simp_all

theorem tokenizeFrom_of_token {kind : TokenKind} {text : List Char}
    (gap : skipGap cs = .ok (c :: rest)) (cut : cutToken c rest = .ok (kind, text, behind)) :
    tokenizeFrom offset cs =
      (tokenizeFrom (offset + (cs.length - (rest.length + 1)) + text.length) behind).map
        (⟨kind, text, offset + (cs.length - (rest.length + 1))⟩ :: ·) := by
  rw [tokenizeFrom]
  split
  · simp_all
  · simp_all
  · rename_i first more found
    cases gap.symm.trans found
    simp only
    split <;> simp_all

theorem skipGap_nil : skipGap [] = .ok [] := by
  unfold skipGap
  rfl

theorem tokenize_nil : tokenize [] = .ok [⟨.endOfText, [], 0⟩] :=
  tokenizeFrom_of_end skipGap_nil

end Scaffold.Scala
