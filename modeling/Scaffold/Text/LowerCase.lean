import Scaffold.Text.CaseMatch

/-!
# Lower-case texts

The lower-case form of a text is that of its characters with two exceptions: a dotted capital I
keeps its dot as a mark, and a capital sigma at the end of a word becomes a final sigma.  A word
ends where, marks and the like aside, no letter with case follows.
-/

namespace Scaffold.Text

/-- Characters with case whose category does not say so. -/
def casedRuns : List (Nat × Nat) :=
  [(0xaa, 0xaa), (0xba, 0xba), (0x2160, 0x217f), (0x24b6, 0x24e9), (0x1f130, 0x1f149),
    (0x1f150, 0x1f169), (0x1f170, 0x1f189)]

/-- Punctuation that may stand inside a word. -/
def innerPunctuation : List Nat :=
  [0x27, 0x2e, 0x3a, 0xb7, 0x387, 0x55f, 0x5f4, 0x2018, 0x2019, 0x2024, 0x2027, 0xfe13, 0xfe52,
    0xfe55, 0xff07, 0xff0e, 0xff1a]

/-- Whether a character is passed over in looking for the end of a word. -/
def isCaseIgnorable (c : Char) : Bool :=
  (match category c with
    | .nonspacingMark | .enclosingMark | .format | .modifierLetter | .modifierSymbol => true
    | _ => false) || innerPunctuation.contains c.toNat

/-- Whether a character is a letter with case, or like one. -/
def isCased (c : Char) : Bool :=
  (match category c with
    | .uppercaseLetter | .lowercaseLetter | .titlecaseLetter => true
    | _ => false) || casedRuns.any fun run => run.1 ≤ c.toNat && c.toNat ≤ run.2

/-- The lower-case form of a text that follows, marks and the like aside, a letter with case or
    does not. -/
def lowerFrom (inWord : Bool) : List Char → List Char
  | [] => []
  | c :: cs =>
    let lower :=
      if c = 'İ' then ['i', '\u0307']
      else if c = 'Σ' && inWord && !(cs.find? fun d => !isCaseIgnorable d).any isCased then ['ς']
      else [lowerCase c]
    lower ++ lowerFrom (if isCaseIgnorable c then inWord else isCased c) cs

/-- The lower-case form of a text. -/
def lower (cs : List Char) : List Char := lowerFrom false cs

end Scaffold.Text
