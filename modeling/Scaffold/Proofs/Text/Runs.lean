import Mathlib.Data.List.Pairwise
import Scaffold.Text.Category.Table

/-!
# The run of a character

The search in a table of runs halves the entries that are left.  In an ascending table it comes to
the last entry that is at most the key, so that the category of a character beyond ASCII is that of
the run around it and can be told without the search.
-/

namespace Scaffold.Text

/-- Whether entries ascend from a first one. -/
def ascends (first : Nat) : List Nat → Bool
  | [] => true
  | next :: entries => first < next && ascends next entries

theorem pairwise_of_ascends {first : Nat} {entries : List Nat} (up : ascends first entries = true) :
    (first :: entries).Pairwise (· < ·) := by
  induction entries generalizing first with
  | nil => exact List.pairwise_singleton _ _
  | cons next entries ih =>
    rw [ascends, Bool.and_eq_true, decide_eq_true_iff] at up
    have others := ih up.2
    refine List.pairwise_cons.mpr ⟨List.forall_mem_cons.mpr ⟨up.1, fun entry member => ?_⟩, others⟩
    exact Nat.lt_trans up.1 (List.rel_of_pairwise_cons others member)

section Search

variable {table : Array Nat} {key i first : Nat}

/-- In an ascending table the entries behind the last one that is at most the key are above it. -/
theorem lt_iff_of_pairwise (sorted : table.toList.Pairwise (· < ·)) (here : table[i]? = some first)
    (reached : first ≤ key) (next : ∀ entry ∈ table[i + 1]?, key < entry) {j entry : Nat}
    (there : table[j]? = some entry) : i < j ↔ key < entry := by
  rw [List.pairwise_iff_getElem] at sorted
  obtain ⟨inside, rfl⟩ := Array.getElem?_eq_some_iff.mp here
  obtain ⟨inside', rfl⟩ := Array.getElem?_eq_some_iff.mp there
  constructor
  · intro behind
    have above := next _ (Array.getElem?_eq_getElem (by omega : i + 1 < table.size))
    rcases Nat.eq_or_lt_of_le (Nat.succ_le_of_lt behind) with same | later
    · subst same
      exact above
    · exact Nat.lt_trans above (sorted (i + 1) j (by simpa using by omega) inside' later)
  · intro above
    by_contra before
    rcases Nat.eq_or_lt_of_le (Nat.le_of_not_lt before) with same | earlier
    · subst same
      omega
    · have below := sorted j i inside' inside earlier
      simp only [Array.getElem_toList] at below
      omega

/-- The search finds the last entry that is at most the key. -/
theorem floorIndex_eq (sorted : table.toList.Pairwise (· < ·)) (here : table[i]? = some first)
    (reached : first ≤ key) (next : ∀ entry ∈ table[i + 1]?, key < entry) {bits base : Nat}
    (low : base ≤ i) (high : i < base + Nat.pow 2 bits) : floorIndex table key bits base = i := by
  induction bits generalizing base with
  | zero =>
    rw [floorIndex]
    exact Nat.le_antisymm low (Nat.le_of_lt_succ high)
  | succ bits ih =>
    have half : Nat.pow 2 (bits + 1) = Nat.pow 2 bits * 2 := rfl
    rw [floorIndex]
    cases probe : table[base + Nat.pow 2 bits]? with
    | none =>
      have inside := (Array.getElem?_eq_some_iff.mp here).1
      have outside := Array.getElem?_eq_none_iff.mp probe
      exact ih low (by omega)
    | some entry =>
      -- The probe lies behind the place looked for exactly if the search goes on in front of it.
      have side := lt_iff_of_pairwise sorted here reached next probe
      dsimp only
      split
      · exact ih (by omega) (by omega)
      · exact ih low (by omega)

end Search

/-- The category that the run with the number `i` gives to a code point inside it. -/
def runCategory? (i point : Nat) : Option Category :=
  match Category.runs.toList.drop i with
  | first :: next :: _ =>
    if first ≤ point * 256 + 255 ∧ point * 256 + 255 < next then some (.ofCode (first % 256))
    else none
  | _ => none

theorem runs_ascend : Category.runs.toList.Pairwise (· < ·) := by
  have up : ascends 0 Category.runs.toList = true := by decide +kernel
  exact (List.pairwise_cons.mp (pairwise_of_ascends up)).2

/-- The category of a character beyond ASCII is that of the run around it. -/
theorem category_of_run {c : Char} {i : Nat} {kind : Category} (beyond : 128 ≤ c.toNat)
    (run : runCategory? i c.toNat = some kind) : category c = kind := by
  unfold runCategory? at run
  split at run
  · rename_i first next others found
    split at run
    · rename_i around
      have here : Category.runs[i]? = some first := by
        rw [← Array.getElem?_toList, ← List.head?_drop, found, List.head?_cons]
      have following : Category.runs[i + 1]? = some next := by
        rw [← Array.getElem?_toList, ← List.head?_drop, ← List.tail_drop, found, List.tail_cons,
          List.head?_cons]
      have size : Category.runs.size ≤ Nat.pow 2 12 := by decide +kernel
      have inside := (Array.getElem?_eq_some_iff.mp here).1
      have index : floorIndex Category.runs (c.toNat * 256 + 255) 12 0 = i := by
        refine floorIndex_eq runs_ascend here around.1 ?_ (Nat.zero_le _) (by omega)
        rintro entry member
        rw [following] at member
        cases member
        exact around.2
      cases run
      rw [category, if_neg (Nat.not_lt_of_le beyond), Category.find, index,
        Array.getD_eq_getD_getElem?, here]
      rfl
    · cases run
  · cases run

end Scaffold.Text
