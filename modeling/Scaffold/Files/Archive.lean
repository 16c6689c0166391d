import Scaffold.Text.Utf8

/-!
# Archives

An archive ends with a record that says where its directory lies.  The directory names the members
one after the other.  Numbers are written with the least byte first.
-/

namespace Scaffold.Files.Archive

/-- The byte at an offset; behind the end there are zeros. -/
def byteAt (b : ByteArray) (i : Nat) : Nat := if h : i < b.size then b[i].toNat else 0

/-- The number in `width` bytes at an offset. -/
def numberAt (b : ByteArray) (i : Nat) : (width : Nat) → Nat
  | 0 => 0
  | width + 1 => byteAt b i + 256 * numberAt b (i + 1) width

/-- The number that marks the last record. -/
def endMark : Nat := 0x06054b50

/-- The number that marks an entry of the directory. -/
def entryMark : Nat := 0x02014b50

/-- The size of the last record without its comment. -/
def endSize : Nat := 22

/-- The size of an entry without its name and what follows the name. -/
def entrySize : Nat := 46

/-- The greatest size of a comment in the last record. -/
def commentLimit : Nat := 65535

/-- The offset of the last record, at `i` or at most `steps` bytes before it. -/
def endRecord? (b : ByteArray) (i : Nat) : (steps : Nat) → Option Nat
  | 0 => none
  | steps + 1 =>
    if numberAt b i 4 = endMark then some i
    else if i = 0 then none
    else endRecord? b (i - 1) steps

/-- The bytes from one offset to another. -/
def bytesIn (b : ByteArray) (start stop : Nat) : List UInt8 := (b.extract start stop).toList

/-- The names in the directory from `i` to `stop`, at most `limit` of them. -/
def namesFrom? (b : ByteArray) (i stop : Nat) : (limit : Nat) → Option (List String)
  | 0 => if stop ≤ i then some [] else none
  | limit + 1 =>
    if stop ≤ i then some []
    else if stop < i + entrySize ∨ numberAt b i 4 ≠ entryMark then none
    else
      let size := numberAt b (i + 28) 2
      let name := Text.Utf8.decodeReplacing (bytesIn b (i + entrySize) (i + entrySize + size))
      let behind := i + entrySize + size + numberAt b (i + 30) 2 + numberAt b (i + 32) 2
      (namesFrom? b behind stop limit).map (String.ofList name :: ·)

/-- The names of the members of an archive, if the bytes are one. -/
def members? (b : ByteArray) : Option (List String) :=
  if b.size < endSize then none
  else
    match endRecord? b (b.size - endSize) (commentLimit + 1) with
    | none => none
    | some record =>
      let size := numberAt b (record + 12) 4
      if record < size then none
      else namesFrom? b (record - size) record (size / entrySize)

end Scaffold.Files.Archive
