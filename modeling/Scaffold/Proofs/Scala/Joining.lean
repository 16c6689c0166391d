import Scaffold.Proofs.Scala.LineEnd
import Scaffold.Proofs.Scala.Tiling

/-!
# Joining texts at line ends

The tokens of a text and a further line are the tokens of the text followed by those of the line,
which stand as much further on as the text and its line feed are long; a fault of the line is moved
in the same way.
-/

namespace Scaffold.Scala

open Text

variable {cs rest line : List Char} {start : Nat}

section Gap

/-- A comment that is closed is closed where it was. -/
theorem afterComment_append {depth : Nat} (closed : afterComment depth cs = some rest)
    (more : List Char) : afterComment depth (cs ++ more) = some (rest ++ more) := by
  fun_induction afterComment depth cs with
  | case1 depth cs ih => exact ih closed
  | case2 cs =>
    cases closed
    rfl
  | case3 depth cs ih => exact ih closed
  | case4 depth c cs opens closesLast closesInner ih =>
    cases cs with
    | nil => cases closed
    | cons d cs =>
      rw [List.cons_append, afterComment.eq_4]
      · exact ih closed
      · rintro _ rfl whole
        cases whole
        exact opens _ rfl rfl
      · rintro _ rfl rfl whole
        cases whole
        exact closesLast _ rfl rfl rfl
      · rintro _ _ rfl rfl whole
        cases whole
        exact closesInner _ _ rfl rfl rfl
  | case5 => cases closed

/-- At the opening mark of a comment it is told whether the comment is closed. -/
theorem skipGap_opening (cs : List Char) :
    skipGap ('/' :: '*' :: cs) =
      match afterComment 0 cs with
      | some rest => skipGap rest
      | none => .error ('/' :: '*' :: cs) := by
  rw [skipGap.eq_def]
  split
  · contradiction
  · rename_i slash
    simp at slash
  · rename_i same
    cases same
    split
    · rename_i found
      rw [found]
    · rename_i unclosed
      rw [unclosed]
  · rename_i none slash
    cases slash
    exact absurd rfl (none _ rfl)

/-- A closed comment is skipped. -/
theorem skipGap_comment (closed : afterComment 0 cs = some rest) :
    skipGap ('/' :: '*' :: cs) = skipGap rest := by
  rw [skipGap_opening, closed]

/-- White space is skipped. -/
theorem skipGap_blank {c : Char} (blank : isBlank c = true) (cs : List Char) :
    skipGap (c :: cs) = skipGap cs := by
  rw [skipGap.eq_def]
  split
  · contradiction
  · rename_i slash
    cases slash
    cases blank
  · rename_i slash
    cases slash
    cases blank
  · rename_i same
    cases same
    rw [if_pos blank]

/-- Nothing is skipped where a token begins. -/
theorem skipGap_token {c : Char} (solid : isBlank c = false)
    (token : c = '/' → rest.head? ≠ some '/' ∧ rest.head? ≠ some '*') :
    skipGap (c :: rest) = .ok (c :: rest) := by
  rw [skipGap.eq_def]
  split
  · contradiction
  · rename_i slash
    cases slash
    exact absurd rfl (token rfl).1
  · rename_i slash
    cases slash
    exact absurd rfl (token rfl).2
  · rename_i same
    cases same
    rw [if_neg (by simp [solid])]

/-- Behind a gap there is no white space. -/
theorem isBlank_of_skipGap {c : Char} (gap : skipGap cs = .ok (c :: rest)) :
    isBlank c = false := by
  fun_induction skipGap cs with
  | case1 => cases gap
  | case2 _ ih => exact ih gap
  | case3 _ _ _ ih => exact ih gap
  | case4 => cases gap
  | case5 _ _ _ _ _ ih => exact ih gap
  | case6 _ _ _ _ solid =>
    cases gap
    simpa using solid

/-- What is skipped in front of a token is skipped in front of a further line. -/
theorem skipGap_line (gap : skipGap cs = .ok rest) :
    skipGap (cs ++ '\n' :: line) = skipGap (rest ++ '\n' :: line) := by
  fun_induction skipGap cs with
  | case1 =>
    cases gap
    rfl
  | case2 cs ih =>
    have behind := congrArg Prod.snd (cutWhile_line (p := (· != '\n')) (by decide) cs line)
    rw [List.cons_append, List.cons_append, skipGap.eq_def]
    exact (congrArg skipGap behind).trans (ih gap)
  | case3 cs behind closed ih =>
    rw [List.cons_append, List.cons_append, skipGap_comment (afterComment_append closed _)]
    exact ih gap
  | case4 => cases gap
  | case5 c cs _ _ blank ih =>
    rw [List.cons_append, skipGap_blank blank]
    exact ih gap
  | case6 =>
    cases gap
    rfl

/-- A gap in front of a token ends there if a further line follows. -/
theorem skipGap_line_of_token {c : Char} (gap : skipGap cs = .ok (c :: rest)) :
    skipGap (cs ++ '\n' :: line) = .ok (c :: (rest ++ '\n' :: line)) := by
  rw [skipGap_line gap, List.cons_append]
  apply skipGap_token (isBlank_of_skipGap gap)
  intro slash
  have token := no_comment_of_skipGap gap slash
  rw [ne_eq, ne_eq, head?_line (by decide), head?_line (by decide)]
  exact token

/-- A gap up to the end of a text goes on in a further line. -/
theorem skipGap_line_of_end (gap : skipGap cs = .ok []) :
    skipGap (cs ++ '\n' :: line) = skipGap line := by
  rw [skipGap_line gap, List.nil_append, skipGap_blank isBlank_lineFeed]

/-- What is left from an unclosed comment on is no longer than the text. -/
theorem length_of_unclosed (gap : skipGap cs = .error rest) : rest.length ≤ cs.length := by
  obtain ⟨front, rfl, -⟩ := gap_of_unclosed gap
  rw [List.length_append]
  exact Nat.le_add_left _ _

end Gap

section Offset

/-- What comes of reading a text that stands `distance` characters further on. -/
def moved (distance : Nat) (outcome : Except LexFault (List Token)) :
    Except LexFault (List Token) :=
  (outcome.map (·.map (Token.shift distance))).mapError (LexFault.shift distance)

theorem moved_cons (distance : Nat) (t : Token) (outcome : Except LexFault (List Token)) :
    moved distance (outcome.map (t :: ·)) =
      (moved distance outcome).map (t.shift distance :: ·) := by
  cases outcome <;> rfl

/-- A text is read alike wherever it stands. -/
theorem tokenizeFrom_add (distance start : Nat) (cs : List Char) :
    tokenizeFrom (start + distance) cs = moved distance (tokenizeFrom start cs) := by
  fun_induction tokenizeFrom start cs with
  | case1 start cs rest gap =>
    rw [tokenizeFrom_of_unclosed gap, Nat.add_right_comm]
    rfl
  | case2 start cs gap =>
    rw [tokenizeFrom_of_end gap, Nat.add_right_comm]
    rfl
  | case3 start cs c rest gap begins problem cut =>
    rw [tokenizeFrom_of_malformed gap cut, Nat.add_right_comm]
    rfl
  | case4 start cs c rest gap begins kind text behind cut ih =>
    have place : start + distance + (cs.length - (rest.length + 1)) = begins + distance :=
      Nat.add_right_comm ..
    rw [tokenizeFrom_of_token gap cut, place, Nat.add_right_comm begins, ih, moved_cons]
    rfl

/-- What is read depends on the gap only through what is left behind it. -/
theorem tokenizeFrom_congr {start' : Nat} {cs' : List Char} (gap : skipGap cs = skipGap cs')
    (ends : start + cs.length = start' + cs'.length) :
    tokenizeFrom start cs = tokenizeFrom start' cs' := by
  cases skipped : skipGap cs' with
  | error rest =>
    rw [skipped] at gap
    have shorter := length_of_unclosed gap
    have shorter' := length_of_unclosed skipped
    rw [tokenizeFrom_of_unclosed gap, tokenizeFrom_of_unclosed skipped]
    congr 2
    omega
  | ok rest =>
    rw [skipped] at gap
    cases rest with
    | nil => rw [tokenizeFrom_of_end gap, tokenizeFrom_of_end skipped, ends]
    | cons c rest =>
      have shorter := length_skipGap gap
      have shorter' := length_skipGap skipped
      rw [List.length_cons] at shorter shorter'
      have place : start + (cs.length - (rest.length + 1)) =
          start' + (cs'.length - (rest.length + 1)) := by omega
      cases cut : cutToken c rest with
      | error problem =>
        rw [tokenizeFrom_of_malformed gap cut, tokenizeFrom_of_malformed skipped cut, place]
      | ok token =>
        obtain ⟨kind, text, behind⟩ := token
        rw [tokenizeFrom_of_token gap cut, tokenizeFrom_of_token skipped cut, place]

end Offset

/-- Behind a text that can be read, a further line is read as if it stood alone at its place, and
    its tokens replace the one for the end of the text. -/
theorem tokenizeFrom_line {tokens : List Token} (read : tokenizeFrom start cs = .ok tokens)
    (line : List Char) :
    ∃ body, tokens = body ++ [⟨.endOfText, [], start + cs.length⟩] ∧
      tokenizeFrom start (cs ++ '\n' :: line) =
        (tokenizeFrom (start + (cs.length + 1)) line).map (body ++ ·) := by
  fun_induction tokenizeFrom start cs generalizing tokens with
  | case1 => cases read
  | case2 start cs gap =>
    cases read
    refine ⟨[], rfl, ?_⟩
    -- The gap at the end of the text goes on over the line feed into the line.
    have ends : start + (cs ++ '\n' :: line).length = start + (cs.length + 1) + line.length := by
      simp only [List.length_append, List.length_cons]
      omega
    rw [tokenizeFrom_congr (skipGap_line_of_end gap) ends]
    cases tokenizeFrom (start + (cs.length + 1)) line <;> rfl
  | case3 => cases read
  | case4 =>
    rename_i start cs c rest gap begins kind text behind cut ih
    cases tail : tokenizeFrom (begins + text.length) behind with
    | error fault =>
      rw [tail] at read
      cases read
    | ok more =>
      rw [tail] at read
      cases read
      obtain ⟨body, rfl, joined⟩ := ih tail
      -- The gap, the token and what is behind it make up the text, so that all offsets agree.
      have whole := congrArg List.length (cutToken_append cut)
      have shorter := length_skipGap gap
      simp only [List.length_append, List.length_cons] at whole shorter
      have ends : begins + text.length + behind.length = start + cs.length := by omega
      have next : begins + text.length + (behind.length + 1) = start + (cs.length + 1) := by omega
      have place :
          start + ((cs ++ '\n' :: line).length - ((rest ++ '\n' :: line).length + 1)) = begins := by
        simp only [List.length_append, List.length_cons]
        omega
      refine ⟨⟨kind, text, begins⟩ :: body, by rw [ends]; rfl, ?_⟩
      rw [tokenizeFrom_of_token (skipGap_line_of_token gap) (cutToken_line cut), place]
      dsimp only
      rw [joined, next]
      cases tokenizeFrom (start + (cs.length + 1)) line <;> rfl

/-- Reading goes line by line: a further line behind a text that can be read can be read if it can
    be read alone.  Its tokens follow those of the text, and a fault in it is the fault that it has
    alone, both moved by the length of the text and its line feed. -/
theorem tokenize_joined {source : List Char} {tokens : List Token}
    (read : tokenize source = .ok tokens) (line : List Char) :
    ∃ body, tokens = body ++ [⟨.endOfText, [], source.length⟩] ∧
      ((∃ joined, tokenize (source ++ '\n' :: line) = .ok joined) ↔
        ∃ more, tokenize line = .ok more) ∧
      (∀ more, tokenize line = .ok more →
        tokenize (source ++ '\n' :: line) =
          .ok (body ++ more.map (Token.shift (source.length + 1)))) ∧
      (∀ fault, tokenize line = .error fault →
        ∃ later, tokenize (source ++ '\n' :: line) = .error later ∧
          later.offset = fault.offset + (source.length + 1) ∧
          fault.message = "Offset " ++ toString fault.offset ++ ": " ++ fault.problem.message ∧
          later.message = "Offset " ++ toString (fault.offset + (source.length + 1)) ++ ": " ++
            fault.problem.message) := by
  obtain ⟨body, whole, joined⟩ := tokenizeFrom_line read line
  rw [Nat.zero_add] at whole
  rw [tokenizeFrom_add] at joined
  have success : ∀ more, tokenize line = .ok more →
      tokenize (source ++ '\n' :: line) =
        .ok (body ++ more.map (Token.shift (source.length + 1))) := by
    intro more alone
    rw [tokenize] at alone ⊢
    rw [joined, alone]
    rfl
  have failure : ∀ fault, tokenize line = .error fault →
      tokenize (source ++ '\n' :: line) = .error (fault.shift (source.length + 1)) := by
    intro fault alone
    rw [tokenize] at alone ⊢
    rw [joined, alone]
    rfl
  refine ⟨body, whole, ⟨?_, fun ⟨more, alone⟩ => ⟨_, success more alone⟩⟩, success, ?_⟩
  · rintro ⟨tokens, together⟩
    cases alone : tokenize line with
    | ok more => exact ⟨more, rfl⟩
    | error fault => cases together.symm.trans (failure fault alone)
  · intro fault alone
    exact ⟨_, failure fault alone, rfl, rfl, rfl⟩

/-- Behind a line comment at the end of a text, a line that can be read and one that cannot. -/
theorem tokenize_joined_comment :
    tokenize "x 1//".toList =
      .ok [⟨.varId, ['x'], 0⟩, ⟨.integerLiteral, ['1'], 2⟩, ⟨.endOfText, [], 5⟩] ∧
    tokenize "x 1//\n.5".toList =
      .ok [⟨.varId, ['x'], 0⟩, ⟨.integerLiteral, ['1'], 2⟩,
        ⟨.floatingPointLiteral, ['.', '5'], 6⟩, ⟨.endOfText, [], 8⟩] ∧
    ∃ fault, tokenize "x 1//\n /*".toList = .error fault ∧ fault.offset = 7 ∧
      fault.message = "Offset 7: unclosed comment" := by
  have read : tokenize "x 1//".toList =
      .ok [⟨.varId, ['x'], 0⟩, ⟨.integerLiteral, ['1'], 2⟩, ⟨.endOfText, [], 5⟩] := by
    decide +kernel
  obtain ⟨body, whole, -, success, -⟩ := tokenize_joined read ".5".toList
  obtain ⟨_, _, -, -, failure⟩ := tokenize_joined read " /*".toList
  have front : [⟨.varId, ['x'], 0⟩, ⟨.integerLiteral, ['1'], 2⟩] = body :=
    (List.append_inj_left' whole rfl)
  refine ⟨read, ?_, ?_⟩
  · have alone : tokenize ".5".toList =
        .ok [⟨.floatingPointLiteral, ['.', '5'], 0⟩, ⟨.endOfText, [], 2⟩] := by decide +kernel
    rw [← front] at success
    exact success _ alone
  · obtain ⟨later, together, place, -, words⟩ :=
      failure ⟨.unclosedComment, 1⟩ (by decide +kernel)
    exact ⟨later, together, place, words⟩

end Scaffold.Scala
