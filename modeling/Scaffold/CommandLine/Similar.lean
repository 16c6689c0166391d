/-!
# Similar words

What two words have in common is measured by their longest common run of characters, together with
what the parts before the run and the parts behind it have in common.  A word that is mistyped still
has most of its characters in common with the word that was meant.
-/

namespace Scaffold.CommandLine

/-- The length of the common beginning of two words. -/
def commonStart : List Char → List Char → Nat
  | x :: xs, y :: ys => if x = y then commonStart xs ys + 1 else 0
  | _, _ => 0

/-- A run of characters that two words have in common: where it begins in each of them, and its
    length. -/
structure CommonRun where
  left : Nat
  right : Nat
  length : Nat
  deriving DecidableEq, Repr

/-- The longest of the runs in `found` and of those between the front of `xs`, which is at `left`,
    and the places of `ys`, which is at `right`; of equal ones the first. -/
def longestFrom (found : CommonRun) (left : Nat) (xs : List Char) (right : Nat) :
    List Char → CommonRun
  | [] => found
  | y :: ys =>
    let length := commonStart xs (y :: ys)
    let found := if found.length < length then ⟨left, right, length⟩ else found
    longestFrom found left xs (right + 1) ys

/-- The longest run in common of `xs`, which is at `left`, and `ys`, or `found` if none is
    longer. -/
def longestRun (found : CommonRun) (ys : List Char) (left : Nat) : List Char → CommonRun
  | [] => found
  | x :: xs => longestRun (longestFrom found left (x :: xs) 0 ys) ys (left + 1) xs

/-- The number of characters that two words have in common; `fuel` is the length of the first. -/
def inCommon : (fuel : Nat) → List Char → List Char → Nat
  | 0, _, _ => 0
  | fuel + 1, xs, ys =>
    let run := longestRun ⟨0, 0, 0⟩ ys 0 xs
    if run.length = 0 then 0
    else
      inCommon fuel (xs.take run.left) (ys.take run.right) + run.length +
        inCommon fuel (xs.drop (run.left + run.length)) (ys.drop (run.right + run.length))

/-- A word with the number of characters that it has in common with another one, and the number of
    characters of both. -/
structure Likeness where
  word : String
  shared : Nat
  total : Nat
  deriving DecidableEq, Repr

namespace Likeness

/-- How like two words are. -/
def between (word other : String) : Likeness :=
  ⟨word, inCommon word.length word.toList other.toList, word.length + other.length⟩

/-- Whether a word is like the other one: at least three fifths of the characters of both are in
    common. -/
def isClose (l : Likeness) : Bool := 3 * l.total ≤ 10 * l.shared

/-- Whether one word is at least as like as another one; of equal ones the later in the order of
    words. -/
def atLeast (a b : Likeness) : Bool :=
  let x := a.shared * b.total
  let y := b.shared * a.total
  y < x || (x == y && b.word ≤ a.word)

end Likeness

/-- The greatest number of words that are offered for a mistyped one. -/
def offerLimit : Nat := 3

/-- The words that may have been meant by another one, in the order of words. -/
def similarWords (words : List String) (other : String) : List String :=
  let close := (words.map (Likeness.between · other)).filter Likeness.isClose
  let best := (close.mergeSort Likeness.atLeast).take offerLimit
  (best.map (·.word)).mergeSort fun a b => a ≤ b

end Scaffold.CommandLine
