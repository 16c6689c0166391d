import Scaffold.Text.Lines
import Scaffold.Toml.Scan

/-!
# Reading TOML documents

A document is a sequence of statements: table headers, headers of arrays of tables, and keys with
their values.  Marks on paths of keys keep track of what may no longer be changed: inline values are
frozen as a whole, and a table may be declared only once.
-/

namespace Scaffold.Toml

/-- A path of keys. -/
abbrev Key := List String

/-- What may not be done to a path any more. -/
inductive Mark where
  /-- The path and everything below it is fixed. -/
  | frozen
  /-- The table at the path has been declared. -/
  | declared
  deriving DecidableEq, Repr

/-- The marks that have been set. -/
abbrev Marks := List (Key × Mark)

/-- Whether a path or one above it is frozen. -/
def Marks.isFrozen (marks : Marks) (key : Key) : Bool :=
  marks.any fun m => m.2 == .frozen && m.1.isPrefixOf key

/-- Whether a path has been declared. -/
def Marks.isDeclared (marks : Marks) (key : Key) : Bool :=
  key ≠ [] && marks.any fun m => m.2 == .declared && m.1 == key

/-- The marks outside a path. -/
def Marks.clear (marks : Marks) (key : Key) : Marks := marks.filter fun m => !key.isPrefixOf m.1

/-- Whether a character may stand in a key without quotes. -/
def isBareKeyChar (c : Char) : Bool := c.isAlphanum || c == '-' || c == '_'

/-- Takes one part of a key. -/
def takeKeyPart (cs : List Char) : Except Fault (Reading String) :=
  let text (read : Except Fault (Reading (List Char))) : Except Fault (Reading String) :=
    read.map fun (s, rest) => (String.ofList s, rest)
  match cs with
  | '\'' :: rest => text (takeLiteralLine rest)
  | '"' :: rest => text (takeBasicLine rest)
  | _ =>
    match cs.takeWhile isBareKeyChar with
    | [] => fault .invalidKeyStart cs
    | part => .ok (String.ofList part, cs.dropWhile isBareKeyChar)

/-- Takes a key of parts separated by dots; `fuel` is the length of the text. -/
def takeKey : (fuel : Nat) → List Char → Except Fault (Reading Key)
  | 0, cs => fault .invalidKeyStart cs
  | fuel + 1, cs => do
    let (part, rest) ← takeKeyPart cs
    match skipSpaces rest with
    | '.' :: rest =>
      let (parts, rest) ← takeKey fuel (skipSpaces rest)
      return (part :: parts, rest)
    | rest => return ([part], rest)

/-- Whether a value is an array or a table. -/
def Value.isContainer : Value → Bool
  | .array _ => true
  | .table _ => true
  | _ => false

/-- Takes a key, its equals sign and the spaces around it. -/
def takeKeyAndEquals (cs : List Char) : Except Fault (Reading Key) := do
  let (key, rest) ← takeKey (cs.length + 1) cs
  match rest with
  | '=' :: rest => return (key, skipSpaces rest)
  | rest => fault .expectedEquals rest

/-- Adds a key with its value to an inline table; `at_` is the text behind the value. -/
def addInline (table : Table) (marks : Marks) (key : Key) (value : Value) (at_ : List Char) :
    Except Fault Table :=
  if marks.isFrozen key then fault (.immutable key) at_
  else
    match table.update false some key.dropLast with
    | none => fault .overwritten at_
    | some _ =>
      match table.update false (Table.add? (key.getLastD "") value) key.dropLast with
      | none => fault (.duplicateInlineKey (key.getLastD "")) at_
      | some table => .ok table

mutual

/-- Takes a value; `fuel` is twice the length of the text. -/
def takeValue : (fuel : Nat) → List Char → Except Fault (Reading Value)
  | 0, cs => fault .invalidValue cs
  | fuel + 1, cs =>
    match cs with
    | '[' :: rest => do
      let rest ← skipArrayGap rest.length rest
      match rest with
      | ']' :: rest => return (.array [], rest)
      | rest => takeItems fuel [] rest
    | '\x7b' :: rest =>
      match skipSpaces rest with
      | '\x7d' :: rest => .ok (.table [], rest)
      | rest => takeEntries fuel [] [] rest
    | _ => takeScalar cs

/-- Takes the items of an array from the point where one must follow; `acc` holds those before
    it, reversed. -/
def takeItems : (fuel : Nat) → (acc : List Value) → List Char → Except Fault (Reading Value)
  | 0, _, cs => fault .unclosedArray cs
  | fuel + 1, acc, cs => do
    let (item, rest) ← takeValue fuel cs
    let rest ← skipArrayGap rest.length rest
    match rest with
    | ']' :: rest => return (.array (item :: acc).reverse, rest)
    | ',' :: rest =>
      let rest ← skipArrayGap rest.length rest
      match rest with
      | ']' :: rest => return (.array (item :: acc).reverse, rest)
      | rest => takeItems fuel (item :: acc) rest
    | rest => fault .unclosedArray rest

/-- Takes the entries of an inline table from the point where one must follow. -/
def takeEntries : (fuel : Nat) → Table → Marks → List Char → Except Fault (Reading Value)
  | 0, _, _, cs => fault .unclosedInlineTable cs
  | fuel + 1, table, marks, cs => do
    let (key, rest) ← takeKeyAndEquals cs
    let (value, rest) ← takeValue fuel rest
    let table ← addInline table marks key value rest
    match skipSpaces rest with
    | '\x7d' :: rest => return (.table table, rest)
    | ',' :: rest =>
      let marks := if value.isContainer then (key, .frozen) :: marks else marks
      takeEntries fuel table marks (skipSpaces rest)
    | rest => fault .unclosedInlineTable rest

end

/-- A document that is being read: its table so far, the marks, those that hold from the next
    header on, and the path of the last header. -/
structure Document where
  table : Table
  marks : Marks
  pending : List Key
  header : Key

/-- The document at its next header. -/
def Document.settle (d : Document) : Document :=
  { d with marks := d.pending.map (·, Mark.declared) ++ d.marks, pending := [] }

/-- Takes the header of a table from behind its bracket. -/
def Document.takeTableHeader (d : Document) (cs : List Char) : Except Fault (Reading Document) := do
  let cs := skipSpaces cs
  let (key, rest) ← takeKey (cs.length + 1) cs
  if d.marks.isDeclared key || d.marks.isFrozen key then fault (.declaredTwice key) rest
  else
    match d.table.update true some key with
    | none => fault .overwritten rest
    | some table =>
      match rest with
      | ']' :: rest =>
        return ({ d with table := table, marks := (key, .declared) :: d.marks, header := key },
          rest)
      | rest => fault .expectedTableEnd rest

/-- Takes the header of an item of an array of tables from behind its brackets. -/
def Document.takeArrayHeader (d : Document) (cs : List Char) : Except Fault (Reading Document) := do
  let cs := skipSpaces cs
  let (key, rest) ← takeKey (cs.length + 1) cs
  if d.marks.isFrozen key then fault (.immutable key) rest
  else
    match d.table.update true (Table.appendTable? (key.getLastD "")) key.dropLast with
    | none => fault .overwritten rest
    | some table =>
      match rest with
      | ']' :: ']' :: rest =>
        let marks := (key, .declared) :: d.marks.clear key
        return ({ d with table := table, marks := marks, header := key }, rest)
      | rest => fault .expectedArrayEnd rest

/-- The proper beginnings of a key, shortest first, each behind the last header. -/
def Document.tablesOnTheWay (d : Document) (key : Key) : List Key :=
  (List.range (key.length - 1)).map fun n => d.header ++ key.take (n + 1)

/-- Takes a key with its value. -/
def Document.takePair (d : Document) (cs : List Char) : Except Fault (Reading Document) := do
  let (key, rest) ← takeKeyAndEquals cs
  let (value, rest) ← takeValue (2 * rest.length + 4) rest
  let onTheWay := d.tablesOnTheWay key
  let parent := d.header ++ key.dropLast
  match onTheWay.find? d.marks.isDeclared with
  | some path => fault (.redefined path) rest
  | none =>
    if d.marks.isFrozen parent then fault (.immutable parent) rest
    else
      match d.table.update true (Table.add? (key.getLastD "") value) parent with
      | none => fault .overwritten rest
      | some table =>
        let marks :=
          if value.isContainer then (d.header ++ key, .frozen) :: d.marks else d.marks
        return ({ d with table := table, marks := marks, pending := onTheWay ++ d.pending }, rest)

/-- Takes the statement at the front, if there is one. -/
def Document.takeStatement (d : Document) (cs : List Char) : Except Fault (Reading Document) :=
  match cs with
  | '#' :: _ => .ok (d, cs)
  | '[' :: '[' :: rest => (d.settle.takeArrayHeader rest).map fun (d, rest) => (d, skipSpaces rest)
  | '[' :: rest => (d.settle.takeTableHeader rest).map fun (d, rest) => (d, skipSpaces rest)
  | c :: _ =>
    if isBareKeyChar c || c == '"' || c == '\'' then
      (d.takePair cs).map fun (d, rest) => (d, skipSpaces rest)
    else fault .invalidStatement cs
  | [] => .ok (d, [])

/-- Takes all statements; `fuel` is the length of the text. -/
def Document.takeAll : (fuel : Nat) → Document → List Char → Except Fault Document
  | 0, d, _ => .ok d
  | fuel + 1, d, cs =>
    match skipSpaces cs with
    | [] => .ok d
    | '\n' :: rest => takeAll fuel d rest
    | cs => do
      let (d, rest) ← d.takeStatement cs
      let rest ← skipComment rest
      match rest with
      | [] => return d
      | '\n' :: rest => takeAll fuel d rest
      | rest => fault .expectedLineEnd rest

/-- The table that a document spells, or the fault with its text. -/
def parse (text : List Char) : Except String Table :=
  let text := Text.dropPairedReturns text
  match Document.takeAll (text.length + 1) ⟨[], [], [], []⟩ text with
  | .ok d => .ok d.table
  | .error f => .error (f.message text)

end Scaffold.Toml
