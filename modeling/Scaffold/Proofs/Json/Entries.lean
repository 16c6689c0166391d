import Mathlib.Data.List.Induction
import Scaffold.Json.Value

/-!
# What maps say under a key

The entries of a map are looked at through `get?`, and every operation on them is told by what it
does to the value under a key and to the keys.
-/

namespace Scaffold.Json.Entries

variable {key other : String} {value : Value} {entries more : Entries}

theorem get?_nil (key : String) : Entries.get? [] key = none := rfl

theorem get?_cons (e : String × Value) (entries : Entries) (key : String) :
    Entries.get? (e :: entries) key = if e.1 = key then some e.2 else entries.get? key := by
  by_cases same : e.1 = key
  · simp [get?, same]
  · simp [get?, beq_false_of_ne same, same]

theorem get?_append (entries more : Entries) (key : String) :
    Entries.get? (entries ++ more) key = (entries.get? key).or (more.get? key) := by
  simp only [get?, List.find?_append]
  cases entries.find? (·.1 == key) <;> rfl

theorem get?_eq_none_iff : entries.get? key = none ↔ key ∉ entries.keys := by
  simp only [get?, keys, Option.map_eq_none_iff, List.find?_eq_none, List.mem_map, not_exists,
    not_and, beq_iff_eq]

/-- Setting a key changes what is under this key only. -/
theorem get?_insert (key : String) (value : Value) (entries : Entries) (other : String) :
    (insert key value entries).get? other =
      if key = other then some value else entries.get? other := by
  induction entries with
  | nil => rw [insert, get?_cons]
  | cons e entries ih =>
    rw [insert]
    by_cases here : e.1 = key
    · rw [if_pos here, get?_cons, get?_cons, here]
      by_cases same : key = other <;> simp [same]
    · rw [if_neg here, get?_cons, get?_cons, ih]
      dsimp only
      by_cases same : key = other
      · rw [if_neg (same ▸ here), if_pos same, if_pos same]
      · rw [if_neg same, if_neg same]

theorem mem_keys_insert :
    other ∈ (insert key value entries).keys ↔ other = key ∨ other ∈ entries.keys := by
  have untouched : other ∉ (insert key value entries).keys ↔
      other ≠ key ∧ other ∉ entries.keys := by
    rw [← get?_eq_none_iff, ← get?_eq_none_iff, get?_insert]
    by_cases same : key = other
    · simp [same]
    · simp [same, Ne.symm same]
  rw [← not_iff_not, untouched, not_or]

theorem nodup_keys_insert (distinct : entries.keys.Nodup) :
    (insert key value entries).keys.Nodup := by
  induction entries with
  | nil => simp [insert, keys]
  | cons e entries ih =>
    have inner := List.nodup_cons.mp distinct
    rw [insert]
    by_cases here : e.1 = key
    · rw [if_pos here]
      exact here ▸ distinct
    · rw [if_neg here]
      refine List.nodup_cons.mpr ⟨?_, ih inner.2⟩
      rw [← keys, mem_keys_insert, not_or]
      exact ⟨here, inner.1⟩

theorem ofPairs_concat (pairs : List (String × Value)) (pair : String × Value) :
    ofPairs (pairs ++ [pair]) = insert pair.1 pair.2 (ofPairs pairs) := by
  rw [ofPairs, List.foldl_append]
  rfl

/-- Of pairs with the same key the last one counts. -/
theorem get?_ofPairs (pairs : List (String × Value)) (key : String) :
    (ofPairs pairs).get? key = Entries.get? pairs.reverse key := by
  induction pairs using List.reverseRecOn with
  | nil => rfl
  | append_singleton pairs pair ih =>
    rw [ofPairs_concat, get?_insert, ih, List.reverse_append, List.reverse_singleton,
      List.singleton_append, get?_cons]

theorem nodup_keys_ofPairs (pairs : List (String × Value)) : (ofPairs pairs).keys.Nodup := by
  induction pairs using List.reverseRecOn with
  | nil => exact List.nodup_nil
  | append_singleton pairs pair ih =>
    rw [ofPairs_concat]
    exact nodup_keys_insert ih

end Scaffold.Json.Entries
