import Scaffold.Number.Binary64

/-!
# JSON values

Integers are unbounded and kept apart from fractional numbers, and a map keeps its entries in
the order in which they were inserted.
-/

namespace Scaffold.Json

/-- A JSON value. -/
inductive Value where
  | null
  | bool (b : Bool)
  | int (n : Int)
  | float (x : Binary64)
  | str (s : String)
  | list (items : List Value)
  | map (entries : List (String × Value))
  deriving Repr, Inhabited, BEq

/-- The entries of a map. -/
abbrev Entries := List (String × Value)

namespace Entries

/-- The value under a key. -/
def get? (entries : Entries) (key : String) : Option Value :=
  (entries.find? (·.1 == key)).map (·.2)

/-- Sets the value under a key: an old entry keeps its place, a new one goes to the end. -/
def insert (key : String) (value : Value) : Entries → Entries
  | [] => [(key, value)]
  | (k, v) :: rest => if k = key then (key, value) :: rest else (k, v) :: insert key value rest

/-- The entries obtained by setting all pairs in order. -/
def ofPairs (pairs : List (String × Value)) : Entries :=
  pairs.foldl (fun entries pair => insert pair.1 pair.2 entries) []

/-- The keys, in order. -/
def keys (entries : Entries) : List String := entries.map (·.1)

theorem get?_insert_self (key : String) (value : Value) (entries : Entries) :
    (insert key value entries).get? key = some value := by
  induction entries with
  | nil => simp [insert, get?]
  | cons e rest ih =>
    obtain ⟨k, v⟩ := e
    by_cases h : k = key
    · simp [insert, h, get?]
    · have hk : (k == key) = false := by simp [h]
      simp only [insert, h, if_false, get?, List.find?_cons, hk]
      simpa [get?] using ih

/-- A new key goes to the end. -/
theorem insert_of_not_mem {key : String} {value : Value} {entries : Entries}
    (fresh : key ∉ entries.keys) : insert key value entries = entries ++ [(key, value)] := by
  induction entries with
  | nil => rfl
  | cons e rest ih =>
    rw [keys, List.map_cons, List.mem_cons, not_or] at fresh
    rw [insert, if_neg (Ne.symm fresh.1), ih fresh.2, List.cons_append]

end Entries

namespace Value

/-- The entries of a map; other values have none. -/
def entries : Value → Entries
  | .map es => es
  | _ => []

/-- The value under a key of a map. -/
def get? (v : Value) (key : String) : Option Value := v.entries.get? key

/-- The texts among the items of a list. -/
def strings (items : List Value) : List String :=
  items.filterMap fun
    | .str s => some s
    | _ => none

/-- A list of texts. -/
def ofStrings (texts : List String) : Value := .list (texts.map .str)

end Value

end Scaffold.Json
