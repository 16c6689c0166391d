import Scaffold.Text.Blank
import Scaffold.Text.Digit
import Scaffold.Text.LowerCase

/-!
# Styles

A style is described in words: attributes, the colour of the text, the colour behind it and a link.
A colour is one of the named ones, a number, or a mixture of red, green and blue.  Descriptions that
have the same effect have one normal form; what describes no style is its own normal form, letter
case and white space around it aside.
-/

namespace Scaffold.Console

open Text

/-- Why a description cannot even be judged: a part of a mixture is not a number. -/
inductive MixtureFault where
  /-- There is nothing where a number should be. -/
  | noDigits
  /-- A number has more digits than are read. -/
  | tooLong (digits : Nat)
  deriving DecidableEq, Repr

/-- The greatest number of digits that are read. -/
def digitLimit : Nat := 4300

/-- The text of a fault. -/
def MixtureFault.message : MixtureFault → String
  | noDigits => "invalid literal for int() with base 10: ''"
  | tooLong digits =>
    "Exceeds the limit (" ++ toString digitLimit ++
      " digits) for integer string conversion: value has " ++ toString digits ++
      " digits; use sys.set_int_max_str_digits() to increase the limit"

namespace Colour

/-- The names of colours that need no number. -/
def plainNames : List String :=
  let names := ["black", "red", "green", "yellow", "blue", "magenta", "cyan", "white"]
  "default" :: names ++ names.map ("bright_" ++ ·) ++
    ["blue_violet", "cadet_blue", "cornflower_blue", "dark_blue", "dark_cyan", "dark_goldenrod",
      "dark_green", "dark_khaki", "dark_magenta", "dark_orange", "dark_red", "dark_sea_green",
      "dark_turquoise", "dark_violet", "green_yellow", "hot_pink", "indian_red", "light_coral",
      "light_green", "light_sea_green", "light_slate_blue", "light_slate_gray", "light_slate_grey",
      "light_steel_blue", "medium_orchid", "medium_purple", "medium_spring_green",
      "medium_turquoise", "medium_violet_red", "navy_blue", "orchid", "purple", "rosy_brown",
      "sandy_brown", "steel_blue", "tan", "violet"]

/-- The names of colours that come in several shades, with the numbers of the shades. -/
def shadedNames : List (String × List Nat) :=
  [("aquamarine", [1, 3]), ("blue", [1, 3]), ("chartreuse", [1, 2, 3, 4]), ("cornsilk", [1]),
    ("cyan", [1, 2, 3]), ("dark_olive_green", [1, 2, 3]), ("dark_orange", [3]),
    ("dark_sea_green", [1, 2, 3, 4]), ("dark_slate_gray", [1, 2, 3]), ("deep_pink", [1, 2, 3, 4]),
    ("deep_sky_blue", [1, 2, 3, 4]), ("dodger_blue", [1, 2, 3]), ("gold", [1, 3]),
    ("green", [1, 3, 4]), ("honeydew", [2]), ("hot_pink", [2, 3]), ("indian_red", [1]),
    ("khaki", [1, 3]), ("light_cyan", [1, 3]), ("light_goldenrod", [1, 2, 3]),
    ("light_pink", [1, 3, 4]), ("light_salmon", [1, 3]), ("light_sky_blue", [1, 3]),
    ("light_steel_blue", [1, 3]), ("light_yellow", [3]), ("magenta", [1, 2, 3]),
    ("medium_orchid", [1, 3]), ("medium_purple", [1, 2, 3, 4]), ("misty_rose", [1, 3]),
    ("navajo_white", [1, 3]), ("orange", [1, 3, 4]), ("orange_red", [1]), ("orchid", [1, 2]),
    ("pale_green", [1, 3]), ("pale_turquoise", [1, 4]), ("pale_violet_red", [1]), ("pink", [1, 3]),
    ("plum", [1, 2, 3, 4]), ("purple", [3, 4]), ("red", [1, 3]), ("royal_blue", [1]),
    ("salmon", [1]), ("sea_green", [1, 2, 3]), ("sky_blue", [1, 2, 3]), ("slate_blue", [1, 3]),
    ("spring_green", [1, 2, 3, 4]), ("steel_blue", [1, 3]), ("thistle", [1, 3]),
    ("turquoise", [2, 4]), ("wheat", [1, 4]), ("yellow", [1, 2, 3, 4])]

/-- The numbers of the shades of grey. -/
def greys : List Nat :=
  [0, 3, 7, 11, 15, 19, 23, 27, 30, 35, 37, 39, 42, 46, 50, 53, 54, 58, 62, 63, 66, 69, 70, 74, 78,
    82, 84, 85, 89, 93, 100]

/-- All names of colours. -/
def names : List String :=
  plainNames ++ shadedNames.flatMap (fun (name, shades) => shades.map (name ++ toString ·)) ++
    greys.flatMap fun n => ["grey" ++ toString n, "gray" ++ toString n]

/-- Whether a character is a hexadecimal digit in lower case. -/
def isHexDigit (c : Char) : Bool := c.isDigit || ('a' ≤ c && c ≤ 'f')

/-- What stands between a beginning and a closing parenthesis at the end. -/
def within? (start : String) (text : List Char) : Option (List Char) :=
  if start.toList.isPrefixOf text && text.getLast? = some ')' && start.length < text.length then
    some ((text.drop start.length).dropLast)
  else none

/-- Whether a part of a mixture is a number that is not too great. -/
def partFits (part : List Char) : Except MixtureFault Bool :=
  if part.isEmpty then .error .noDigits
  else if digitLimit < part.length then .error (.tooLong part.length)
  else .ok (numberOf part ≤ 255)

/-- Whether the parts of a mixture make a colour. -/
def mixtureFits (parts : List (List Char)) : Except MixtureFault Bool := do
  if parts.length ≠ 3 then return false
  let fits ← parts.mapM partFits
  return fits.all id

/-- Whether a text in lower case names a colour. -/
def isColour (text : List Char) : Except MixtureFault Bool :=
  if names.contains (String.ofList text) then .ok true
  else
    match text with
    | '#' :: digits => .ok (digits.length = 6 && digits.all isHexDigit)
    | _ =>
      match within? "color(" text, within? "rgb(" text with
      | some digits, _ =>
        .ok (0 < digits.length && digits.length ≤ 3 && digits.all Char.isDigit &&
          decide (numberOf digits ≤ 255))
      | none, some parts =>
        if !parts.isEmpty && parts.all fun c => c == ',' || isAnyDigit c then
          mixtureFits (parts.splitOn ',')
        else .ok false
      | none, none => .ok false

end Colour

/-- A style: attributes switched on or off, colours and a link. -/
structure Style where
  attributes : List (String × Bool)
  colour : Option (List Char)
  background : Option (List Char)
  link : Option (List Char)
  deriving Repr

namespace Style

/-- The style without any effect. -/
def none : Style := ⟨[], .none, .none, .none⟩

/-- The attributes of a style, in their order, each with its short name. -/
def attributeNames : List (String × List String) :=
  [("bold", ["b"]), ("dim", ["d"]), ("italic", ["i"]), ("underline", ["u"]), ("blink", []),
    ("blink2", []), ("reverse", ["r"]), ("conceal", ["c"]), ("strike", ["s"]),
    ("underline2", ["uu"]), ("frame", []), ("encircle", []), ("overline", ["o"])]

/-- The attribute that a word names. -/
def attribute? (word : List Char) : Option String :=
  let word := String.ofList word
  (attributeNames.find? fun a => a.1 = word || a.2.contains word).map (·.1)

/-- Takes up the words of a description; words that describe nothing make it no style.  The words
    behind `not` and `link` keep their letter case. -/
def take? (s : Style) : List (List Char) → Except MixtureFault (Option Style)
  | [] => .ok (some s)
  | word :: rest =>
    match String.ofList (lower word), rest with
    | "on", [] => .ok .none
    | "on", colour :: rest => do
      if ← Colour.isColour (lower colour) then
        take? { s with background := some (lower colour) } rest
      else return .none
    | "not", [] => .ok .none
    | "not", word :: rest =>
      match attribute? word with
      | some a => take? { s with attributes := (a, false) :: s.attributes } rest
      | .none => .ok .none
    | "link", [] => .ok .none
    | "link", target :: rest => take? { s with link := some target } rest
    | _, rest =>
      match attribute? (lower word) with
      | some a => take? { s with attributes := (a, true) :: s.attributes } rest
      | .none => do
        if ← Colour.isColour (lower word) then take? { s with colour := some (lower word) } rest
        else return .none

/-- The words of a text. -/
def wordsOf (text : List Char) : List (List Char) :=
  ((text.map fun c => if isBlank c then ' ' else c).splitOn ' ').filter (· ≠ [])

/-- The style that a description stands for. -/
def ofText? (text : List Char) : Except MixtureFault (Option Style) :=
  if trim text = "none".toList then .ok (some none) else take? none (wordsOf text)

/-- The words of a style in their fixed order. -/
def words (s : Style) : List (List Char) :=
  (attributeNames.flatMap fun (name, _) =>
    match s.attributes.lookup name with
    | some true => [name.toList]
    | some false => ["not".toList, name.toList]
    | .none => []) ++
  s.colour.toList ++
  (match s.background with
    | some colour => ["on".toList, colour]
    | .none => []) ++
  (match s.link with
    | some target => ["link".toList, target]
    | .none => [])

/-- The normal form of a style. -/
def text (s : Style) : List Char :=
  if s.words.isEmpty then "none".toList else [' '].intercalate s.words

/-- The normal form of a description. -/
def normalize (text : List Char) : Except MixtureFault (List Char) := do
  match ← ofText? text with
  | some s => return s.text
  | .none => return lower (trim text)

end Style

end Scaffold.Console
