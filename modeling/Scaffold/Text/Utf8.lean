/-!
# UTF-8

Bytes are read as characters one sequence at a time.  A fault names the bytes that it is about:
the longest beginning of a sequence that was still good, or the single byte that cannot start one.
-/

namespace Scaffold.Text.Utf8

/-- What can be wrong with a sequence of bytes. -/
inductive Reason where
  /-- The byte opens no sequence. -/
  | invalidStart
  /-- The byte after the good ones does not continue the sequence. -/
  | invalidContinuation
  /-- The text ends inside the sequence. -/
  | unexpectedEnd
  deriving DecidableEq, Repr

/-- The words for a reason. -/
def Reason.message : Reason → String
  | .invalidStart => "invalid start byte"
  | .invalidContinuation => "invalid continuation byte"
  | .unexpectedEnd => "unexpected end of data"

/-- A fault in a text: `width` bytes from `position` on, the first of which is `byte`. -/
structure Fault where
  position : Nat
  width : Nat
  byte : UInt8
  reason : Reason
  deriving DecidableEq, Repr

/-- What a first byte promises: the number of bytes that follow, the bounds of the next of
    them, and the bits that it contributes itself. -/
structure Lead where
  following : Nat
  low : UInt8
  high : UInt8
  bits : Nat

/-- The promise of a first byte, if it can be one.  The bounds exclude forms longer than
    needed, surrogates and code points out of range. -/
def Lead.ofByte (b : UInt8) : Option Lead :=
  let n := b.toNat
  if n < 0x80 then some ⟨0, 0x80, 0xbf, n⟩
  else if n < 0xc2 then none
  else if n < 0xe0 then some ⟨1, 0x80, 0xbf, n - 0xc0⟩
  else if n == 0xe0 then some ⟨2, 0xa0, 0xbf, 0⟩
  else if n == 0xed then some ⟨2, 0x80, 0x9f, 0xd⟩
  else if n < 0xf0 then some ⟨2, 0x80, 0xbf, n - 0xe0⟩
  else if n == 0xf0 then some ⟨3, 0x90, 0xbf, 0⟩
  else if n < 0xf4 then some ⟨3, 0x80, 0xbf, n - 0xf0⟩
  else if n == 0xf4 then some ⟨3, 0x80, 0x8f, 4⟩
  else none

/-- The code point of the sequence whose remaining bytes start `bytes`, or what is wrong and
    after how many good bytes. -/
def follow : (following : Nat) → (low high : UInt8) → (bits width : Nat) → List UInt8 →
    Except (Reason × Nat) (Nat × Nat)
  | 0, _, _, bits, width, _ => .ok (bits, width)
  | _ + 1, _, _, _, width, [] => .error (.unexpectedEnd, width)
  | n + 1, low, high, bits, width, b :: bytes =>
    if low ≤ b && b ≤ high then
      follow n 0x80 0xbf (bits * 64 + (b.toNat - 0x80)) (width + 1) bytes
    else .error (.invalidContinuation, width)

/-- The first character of `first :: rest` and the number of its bytes after the first. -/
def decodeOne (first : UInt8) (rest : List UInt8) : Except (Reason × Nat) (Char × Nat) :=
  match Lead.ofByte first with
  | none => .error (.invalidStart, 0)
  | some lead =>
    match follow lead.following lead.low lead.high lead.bits 0 rest with
    | .ok (point, width) => .ok (Char.ofNat point, width)
    | .error fault => .error fault

/-- The characters from `position` on, or the first fault. -/
def decodeFrom (position : Nat) : List UInt8 → Except Fault (List Char)
  | [] => .ok []
  | b :: bytes =>
    match decodeOne b bytes with
    | .ok (c, width) =>
      (decodeFrom (position + width + 1) (bytes.drop width)).map (c :: ·)
    | .error (reason, width) => .error ⟨position, width + 1, b, reason⟩
  termination_by bytes => bytes.length
  decreasing_by all_goals (simp only [List.length_drop, List.length_cons]; omega)

/-- The characters of a text, or its first fault. -/
def decode (bytes : List UInt8) : Except Fault (List Char) := decodeFrom 0 bytes

/-- The characters of a text, with a replacement character for each fault. -/
def decodeReplacing : List UInt8 → List Char
  | [] => []
  | b :: bytes =>
    match decodeOne b bytes with
    | .ok (c, width) => c :: decodeReplacing (bytes.drop width)
    | .error (_, width) => '\ufffd' :: decodeReplacing (bytes.drop width)
  termination_by bytes => bytes.length
  decreasing_by all_goals (simp only [List.length_drop, List.length_cons]; omega)

/-- The number of bytes of a text. -/
def size (s : String) : Nat := s.utf8ByteSize

end Scaffold.Text.Utf8
