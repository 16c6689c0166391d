import Scaffold.Json.Value

/-!
# TOML values

Besides the values of JSON, apart from null, TOML has dates and times.  They are kept as the text
in which they are shown.
-/

namespace Scaffold.Toml

/-- A TOML value. -/
inductive Value where
  | bool (b : Bool)
  | int (n : Int)
  | float (x : Binary64)
  | str (s : String)
  /-- A date, a time, or both. -/
  | moment (text : String)
  | array (items : List Value)
  | table (entries : List (String × Value))
  deriving Repr, Inhabited

/-- The entries of a table, in the order of their keys' first appearance. -/
abbrev Table := List (String × Value)

namespace Table

/-- The value under a key. -/
def get? (t : Table) (key : String) : Option Value := (t.find? (·.1 == key)).map (·.2)

/-- Sets the value under a key; a key that is there keeps its place. -/
def insert (key : String) (value : Value) : Table → Table
  | [] => [(key, value)]
  | (k, v) :: rest => if k = key then (k, value) :: rest else (k, v) :: insert key value rest

/-- Changes the table behind a path of keys, making the tables on the way that are missing.  An
    array on the way stands for its last item where `throughArrays` says so.  The result is
    none where something else than a table is in the way. -/
def update (throughArrays : Bool) (change : Table → Option Table) :
    List String → Table → Option Table
  | [], t => change t
  | key :: path, t =>
    match t.get? key with
    | none => (update throughArrays change path []).map fun inner => t.insert key (.table inner)
    | some (.table inner) =>
      (update throughArrays change path inner).map fun inner => t.insert key (.table inner)
    | some (.array items) =>
      match throughArrays, items.getLast? with
      | true, some (.table inner) =>
        (update throughArrays change path inner).map fun inner =>
          t.insert key (.array (items.dropLast ++ [.table inner]))
      | _, _ => none
    | some _ => none

/-- Adds a key that is not there yet. -/
def add? (key : String) (value : Value) (t : Table) : Option Table :=
  if (t.get? key).isSome then none else some (t.insert key value)

/-- Adds an empty table to the array of tables under a key. -/
def appendTable? (key : String) (t : Table) : Option Table :=
  match t.get? key with
  | none => some (t.insert key (.array [.table []]))
  | some (.array items) => some (t.insert key (.array (items ++ [.table []])))
  | some _ => none

end Table

mutual

/-- A value as JSON; `moment` says what becomes of dates and times. -/
def Value.toJson (moment : String → Json.Value) : Value → Json.Value
  | .bool b => .bool b
  | .int n => .int n
  | .float x => .float x
  | .str s => .str s
  | .moment text => moment text
  | .array items => .list (itemsToJson moment items)
  | .table entries => .map (entriesToJson moment entries)

/-- The items of an array as JSON. -/
def itemsToJson (moment : String → Json.Value) : List Value → List Json.Value
  | [] => []
  | v :: rest => v.toJson moment :: itemsToJson moment rest

/-- The entries of a table as JSON. -/
def entriesToJson (moment : String → Json.Value) : List (String × Value) → Json.Entries
  | [] => []
  | (k, v) :: rest => (k, v.toJson moment) :: entriesToJson moment rest

end

end Scaffold.Toml
