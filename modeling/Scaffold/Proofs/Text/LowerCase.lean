import Scaffold.Text.LowerCase

/-!
# Lower-case texts stay as they are

A text that is in lower case already and spells an ASCII word in lower case is that word: only
capitals and two letters outside of ASCII have ASCII letters as their lower-case form, and none of
these is a lower-case form itself.
-/

namespace Scaffold.Text

namespace CaseRun

/-- Whether a code point has another one in ASCII as its lower-case form. -/
def isCapital (n : Nat) : Bool := (0x41 ≤ n && n ≤ 0x5a) || n == 0x130 || n == 0x212a

/-- A run leads to characters behind the capitals of ASCII and around the two others, and only
    capitals lead into ASCII. -/
structure Fit (r : CaseRun) : Prop where
  valid : 0 < r.first + r.shift ∧ r.last + r.shift < 0x110000 ∧
    (r.last + r.shift < 0xd800 ∨ 0xdfff < r.first + r.shift)
  noCapital : 0x5a < r.first + r.shift ∧
    (r.last + r.shift < 0x130 ∨ 0x130 < r.first + r.shift) ∧
    (r.last + r.shift < 0x212a ∨ 0x212a < r.first + r.shift)
  capitals : 128 ≤ r.first + r.shift ∨ (0x41 ≤ r.first ∧ r.last ≤ 0x5a) ∨
    (0x130 ≤ r.first ∧ r.last ≤ 0x130) ∨ (0x212a ≤ r.first ∧ r.last ≤ 0x212a)

instance (r : CaseRun) : Decidable r.Fit :=
  decidable_of_iff (_ ∧ _ ∧ _) ⟨fun ⟨valid, noCapital, capitals⟩ => ⟨valid, noCapital, capitals⟩,
    fun fit => ⟨fit.valid, fit.noCapital, fit.capitals⟩⟩

theorem all_fit : ∀ r ∈ CaseRun.all, r.Fit := by decide +kernel

variable {r : CaseRun} {n : Nat}

theorem bounds_of_contains (inside : r.contains n = true) : r.first ≤ n ∧ n ≤ r.last := by
  simp only [contains, Bool.and_eq_true, decide_eq_true_eq] at inside
  exact inside.1

/-- Where a run leads is a character. -/
theorem Fit.toNat_ofNat (fit : r.Fit) (inside : r.contains n = true) :
    ((Char.ofNat (n + r.shift).toNat).toNat : Int) = n + r.shift := by
  have bounds := bounds_of_contains inside
  have valid := fit.valid
  have isValid : (n + r.shift).toNat.isValidChar := by
    unfold Nat.isValidChar
    omega
  have led : (Char.ofNat (n + r.shift).toNat).toNat = (n + r.shift).toNat := by
    rw [Char.ofNat, dif_pos isValid]
    rfl
  omega

theorem Fit.isCapital_of_lt (fit : r.Fit) (inside : r.contains n = true)
    (ascii : n + r.shift < 128) : isCapital n = true := by
  have bounds := bounds_of_contains inside
  have capitals := fit.capitals
  simp only [isCapital, Bool.or_eq_true, Bool.and_eq_true, decide_eq_true_eq, beq_iff_eq]
  omega

theorem Fit.not_isCapital (fit : r.Fit) (inside : r.contains n = true) {m : Nat}
    (led : (m : Int) = n + r.shift) : isCapital m = false := by
  have bounds := bounds_of_contains inside
  have noCapital := fit.noCapital
  simp only [isCapital, Bool.or_eq_false_iff, Bool.and_eq_false_iff, decide_eq_false_iff_not,
    beq_eq_false_iff_ne]
  omega

theorem exists_contains_of_isCapital (capital : isCapital n = true) :
    ∃ r ∈ CaseRun.all, r.contains n = true := by
  simp only [isCapital, Bool.or_eq_true, Bool.and_eq_true, decide_eq_true_eq, beq_iff_eq] at capital
  rcases capital with (letter | rfl) | rfl
  · refine ⟨⟨0x41, 0x5a, 1, 32⟩, List.mem_cons_self, ?_⟩
    simp [contains, letter, Nat.mod_one]
  · exact List.any_eq_true.mp (by decide)
  · exact List.any_eq_true.mp (by decide)

end CaseRun

/-- The character is no capital with an ASCII letter as its lower-case form. -/
def IsLow (c : Char) : Prop := CaseRun.isCapital c.toNat = false

instance (c : Char) : Decidable (IsLow c) := inferInstanceAs (Decidable (_ = _))

/-- A lower-case form is in lower case. -/
theorem isLow_lowerCase (c : Char) : IsLow (lowerCase c) := by
  unfold lowerCase
  cases found : CaseRun.all.find? (·.contains c.toNat) with
  | none =>
    dsimp only
    rw [IsLow, ← Bool.not_eq_true]
    intro capital
    obtain ⟨r, member, inside⟩ := CaseRun.exists_contains_of_isCapital capital
    exact List.find?_eq_none.mp found r member inside
  | some r =>
    have fit := CaseRun.all_fit r (List.mem_of_find?_eq_some found)
    have inside : r.contains c.toNat = true := by simpa using List.find?_some found
    exact fit.not_isCapital inside (fit.toNat_ofNat inside)

/-- What is in lower case and has an ASCII form in lower case is this form. -/
theorem lowerCase_eq_self {c : Char} (low : IsLow c) (ascii : (lowerCase c).toNat < 128) :
    lowerCase c = c := by
  unfold lowerCase at ascii ⊢
  cases found : CaseRun.all.find? (·.contains c.toNat) with
  | none => rfl
  | some r =>
    rw [found] at ascii
    have fit := CaseRun.all_fit r (List.mem_of_find?_eq_some found)
    have inside : r.contains c.toNat = true := by simpa using List.find?_some found
    have led := fit.toNat_ofNat inside
    have capital := fit.isCapital_of_lt inside (by dsimp only at ascii; omega)
    exact absurd capital (by rw [low]; decide)

theorem isLow_of_mem_lowerFrom {inWord : Bool} {cs : List Char} {c : Char}
    (member : c ∈ lowerFrom inWord cs) : IsLow c := by
  induction cs generalizing inWord with
  | nil => cases member
  | cons d cs ih =>
    rw [lowerFrom, List.mem_append] at member
    rcases member with here | behind
    · split at here
      · rcases List.mem_cons.mp here with rfl | dotted
        · decide
        · rw [List.mem_singleton.mp dotted]
          decide
      · split at here
        · rw [List.mem_singleton.mp here]
          decide
        · rw [List.mem_singleton.mp here]
          exact isLow_lowerCase d
    · exact ih behind

/-- Every character of a lower-case text is in lower case. -/
theorem isLow_of_mem_lower {cs : List Char} {c : Char} (member : c ∈ lower cs) : IsLow c :=
  isLow_of_mem_lowerFrom member

theorem eq_of_lowerFrom_eq {inWord : Bool} {cs word : List Char} (low : ∀ c ∈ cs, IsLow c)
    (ascii : ∀ c ∈ word, c.toNat < 128) (spelled : lowerFrom inWord cs = word) : cs = word := by
  induction cs generalizing inWord word with
  | nil => exact spelled
  | cons c cs ih =>
    rw [lowerFrom] at spelled
    subst spelled
    split at ascii
    · exact absurd (ascii '\u0307' (by simp)) (by decide)
    · split at ascii
      · exact absurd (ascii 'ς' (by simp)) (by decide)
      · rename_i noDot noSigma
        rw [if_neg noDot, if_neg noSigma]
        have same := lowerCase_eq_self (low c List.mem_cons_self) (ascii _ (by simp))
        rw [List.singleton_append, same]
        refine congrArg (c :: ·) (ih (fun d member => low d (List.mem_cons_of_mem _ member)) ?_ rfl)
        intro d member
        exact ascii d (List.mem_append_right _ member)

/-- A text in lower case whose lower-case form is an ASCII word is this word. -/
theorem eq_of_lower_eq {cs word : List Char} (low : ∀ c ∈ cs, IsLow c)
    (ascii : ∀ c ∈ word, c.toNat < 128) (spelled : lower cs = word) : cs = word :=
  eq_of_lowerFrom_eq low ascii spelled

end Scaffold.Text
