import Scaffold.Console.Emoji.Names
import Scaffold.Text.Blank
import Scaffold.Text.LowerCase

/-!
# Emoji in texts

A name between colons stands for an emoji.  The name may end in a dash and the form that the emoji
is to take, as text or as a picture.  Colons around anything else are text, but the colon that ends
one name does not begin another.
-/

namespace Scaffold.Console.Emoji

open Text

/-- The skin tones with the characters that give them. -/
def tones : List (String × Nat) :=
  [("light", 0x1f3fb), ("medium-light", 0x1f3fc), ("medium", 0x1f3fd), ("medium-dark", 0x1f3fe),
    ("dark", 0x1f3ff)]

/-- The form of an emoji in a skin tone: the tone comes behind the first character, in place of the
    selector that may be there. -/
def inTone (tone : Nat) : List Char → List Char
  | c :: '\ufe0f' :: cs => c :: Char.ofNat tone :: cs
  | c :: cs => c :: Char.ofNat tone :: cs
  | [] => []

/-- The name before an ending. -/
def stem? (name ending : String) : Option String :=
  if name.endsWith ending then some (name.dropEnd ending.length).toString else none

/-- The emoji of a name with a skin tone. -/
def toned? (name : String) : Option (List Char) :=
  tones.findSome? fun (tone, modifier) => do
    let stem ← stem? name ("_" ++ tone ++ "_skin_tone")
    let plain ← if tonedNames.contains stem then names.lookup stem else none
    return inTone modifier plain.toList

/-- The flag of a region code. -/
def flag (code : String) : List Char :=
  code.toList.map fun c => Char.ofNat (0x1f1e6 + (c.toNat - 'A'.toNat))

/-- The emoji of a country or region. -/
def flag? (name : String) : Option (List Char) :=
  let asked := if name.startsWith "flag_for_" then some (name.drop 9).toString else none
  let code? := match asked with
    | some region => (regions ++ flagRegions).lookup region
    | none => (regions ++ bareRegions).lookup name
  code?.map flag

/-- The emoji of a name in lower case. -/
def ofName? (name : String) : Option (List Char) :=
  ((names.lookup name).map String.toList <|> flag? name) <|> toned? name

/-- The forms that a name may ask for, with the selectors for them. -/
def forms : List (String × Char) := [("emoji", '\ufe0f'), ("text", '\ufe0e')]

/-- The name before the form that it asks for, and the selector for the form. -/
def splitForm (body : String) : String × List Char :=
  let asked? := forms.findSome? fun (form, selector) =>
    (stem? body ("-" ++ form)).map fun name => (name, [selector])
  asked?.getD (body, [])

/-- The emoji for what stands between two colons. -/
def ofBody? (body : List Char) : Option (List Char) :=
  let (name, selector) := splitForm (String.ofList body)
  (ofName? (String.ofList (lower name.toList))).map (· ++ selector)

/-- What stands before the next colon, if there is no white space in it, and the text behind the
    colon. -/
def cutBody? (cs : List Char) : Option (List Char × List Char) :=
  let body := cs.takeWhile (· != ':')
  match cs.drop body.length with
  | _ :: rest => if body.any isBlank then none else some (body, rest)
  | [] => none

theorem length_cutBody? {cs body rest : List Char} (h : cutBody? cs = some (body, rest)) :
    rest.length < cs.length := by
  unfold cutBody? at h
  dsimp only at h
  split at h
  · rename_i c tail hd
    split at h
    · cases h
    · simp only [Option.some.injEq, Prod.mk.injEq] at h
      have := congrArg List.length hd
      simp only [List.length_drop, List.length_cons, h.2] at this
      omega
  · cases h

/-- The text with names replaced by their emoji. -/
def replace : List Char → List Char
  | [] => []
  | c :: cs =>
    if c = ':' then
      match _h : cutBody? cs with
      | some (body, rest) => (ofBody? body).getD (':' :: body ++ [':']) ++ replace rest
      | none => ':' :: replace cs
    else c :: replace cs
  termination_by cs => cs.length
  decreasing_by
    · exact Nat.lt_succ_of_lt (length_cutBody? _h)
    · simp
    · simp

end Scaffold.Console.Emoji
