import Scaffold.Scala.Tokens

/-!
# Where names end

Names are read as they are before every text at which a name ends, that is one that begins with no
character which goes on a name.
-/

namespace Scaffold.Scala

variable {cs rest : List Char} {kind : TokenKind} {cut : Cut}

/-- Before the text a name ends. -/
def EndsName (cs : List Char) : Prop :=
  ∀ c, cs.head? = some c → isIdentPart c = false ∧ isOperatorChar c = false

theorem endsName_cons {c : Char} {cs : List Char} (part : isIdentPart c = false)
    (operator : isOperatorChar c = false) : EndsName (c :: cs) := by
  rintro _ ⟨⟩
  exact ⟨part, operator⟩

/-- The cut of a text that another text follows. -/
def Cut.before (cut : Cut) (rest : List Char) : Cut := (cut.1, cut.2 ++ rest)

@[simp] theorem Cut.before_fst (cut : Cut) (rest : List Char) : (cut.before rest).1 = cut.1 := rfl

@[simp] theorem Cut.before_snd (cut : Cut) (rest : List Char) :
    (cut.before rest).2 = cut.2 ++ rest := rfl

/-- A run that ends in a text, or where the next one begins, ends there. -/
theorem cutWhile_before {p : Char → Bool} (cs : List Char)
    (stop : (cutWhile p cs).2 = [] → ∀ c, rest.head? = some c → p c = false) :
    cutWhile p (cs ++ rest) = (cutWhile p cs).before rest := by
  unfold cutWhile Cut.before at *
  induction cs with
  | nil =>
    cases rest with
    | nil => rfl
    | cons c rest => simp [stop rfl c rfl]
  | cons c cs ih =>
    by_cases inside : p c = true
    · rw [List.dropWhile_cons, if_pos inside] at stop
      simpa [inside] using ih stop
    · simp [inside]

theorem cutWord_before (c : Char) (cs : List Char) (ends : EndsName rest) :
    cutWord c (cs ++ rest) = (cutWord c cs).before rest := by
  have idents : cutWhile isIdentPart (cs ++ rest) = (cutWhile isIdentPart cs).before rest :=
    cutWhile_before cs fun _ d head => (ends d head).1
  have operators : cutWhile isOperatorChar ((cutWhile isIdentPart cs).2 ++ rest) =
      (cutWhile isOperatorChar (cutWhile isIdentPart cs).2).before rest :=
    cutWhile_before _ fun _ d head => (ends d head).2
  simp only [cutWord, idents, Cut.before_fst, Cut.before_snd, operators]
  split <;> rfl

theorem cutOperator_before (cs : List Char) (ends : EndsName rest) :
    cutOperator (cs ++ rest) = (cutOperator cs).before rest := by
  induction cs with
  | nil =>
    cases rest with
    | nil => rfl
    | cons d rest => simp [cutOperator, Cut.before, (ends d rfl).2]
  | cons c cs ih =>
    have slash : ∀ d, isOperatorChar d = true →
        ((cs ++ rest).head? = some d ↔ cs.head? = some d) := by
      intro d operator
      cases cs with
      | nil =>
        refine iff_of_false ?_ (by simp)
        intro head
        rw [(ends d head).2] at operator
        cases operator
      | cons => rfl
    simp only [List.cons_append, cutOperator, slash '/' (by decide), slash '*' (by decide), ih]
    split
    · rfl
    split <;> rfl

theorem cutQuotedName_before (read : cutQuotedName cs = .ok (kind, cut)) (rest : List Char) :
    cutQuotedName (cs ++ rest) = .ok (kind, cut.before rest) := by
  unfold cutQuotedName at read ⊢
  split at read
  · cases read
  · rename_i found
    rw [cutWhile_before cs (by simp [found]), found]
    cases read
    rfl
  · cases read

end Scaffold.Scala
