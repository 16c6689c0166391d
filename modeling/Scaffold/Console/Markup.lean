import Scaffold.Console.Argument
import Scaffold.Console.Emoji
import Scaffold.Console.Style
import Scaffold.Console.Wrap

/-!
# Markup

Text may hold tags in square brackets that set a style and, with a slash, end it.  On a console
without colours the styles have no effect, so that reading markup means to drop the tags, after
checking that every closing tag has an opening one.  A backslash before a tag makes it text.  A tag
with an at sign names an action; its arguments are read when it is closed.
-/

namespace Scaffold.Console

/-- A tag: its name and its parameters behind an equals sign. -/
structure Tag where
  name : List Char
  parameters : Option (List Char)
  deriving DecidableEq, Repr

/-- Why a marked-up text cannot be read. -/
inductive MarkupFault where
  /-- A closing tag at a position closes nothing. -/
  | notOpen (tag : Tag) (position : Nat)
  /-- The arguments of an action are broken; they are given as they were read and as they stand
      in the tag. -/
  | arguments (read whole : List Char) (problem : Argument.Problem)
  /-- A tag mixes a colour from what is no number. -/
  | mixture (fault : MixtureFault)
  deriving DecidableEq, Repr

namespace Tag

/-- The tag inside brackets. -/
def ofText (text : List Char) : Tag :=
  match text.dropWhile (· != '=') with
  | [] => ⟨text, none⟩
  | _ :: parameters => ⟨text.takeWhile (· != '='), some parameters⟩

/-- The name of a closing tag behind its slash. -/
def closes? (t : Tag) : Option (List Char) :=
  match t.name with
  | '/' :: name => some (Text.trim name)
  | _ => none

/-- The text of a tag. -/
def text (t : Tag) : List Char :=
  '[' :: t.name ++ (match t.parameters with
    | none => []
    | some parameters => '=' :: parameters) ++ [']']

end Tag

/-- The text of a fault, unless it is one that is told without words. -/
def MarkupFault.message? : MarkupFault → Option String
  | notOpen tag position =>
    let place := "' at position " ++ toString position
    if tag.closes? = some [] then some ("closing tag '[/]" ++ place ++ " has nothing to close")
    else
      some ("closing tag '" ++ String.ofList tag.text ++ place ++ " doesn't match any open tag")
  | arguments read whole problem => problem.message?.map fun message =>
    let shown (cs : List Char) : String := String.ofList (Text.Quoted.encode cs)
    if problem.isSyntactic then
      "error parsing " ++ shown read ++ " in " ++ shown whole ++ "; " ++ message
    else "error parsing " ++ shown whole ++ "; " ++ message
  | mixture fault => some fault.message

/-- Whether a character may follow the opening bracket of a tag. -/
def opensTag (c : Char) : Bool := ('a' ≤ c && c ≤ 'z') || c == '#' || c == '/' || c == '@'

/-- The inside of a tag that begins behind a bracket at the front, and the text behind it. -/
def cutTag? : List Char → Option (List Char × List Char)
  | '[' :: c :: cs =>
    if opensTag c then
      let inside := cs.takeWhile fun c => c != '[' && c != ']'
      match cs.drop inside.length with
      | ']' :: rest => some (c :: inside, rest)
      | _ => none
    else none
  | _ => none

/-- The text with every escaped bracket made plain. -/
def unescape : List Char → List Char
  | '\\' :: '[' :: cs => '[' :: unescape cs
  | c :: cs => c :: unescape cs
  | [] => []

/-- A part of a marked-up text and its position. -/
inductive Part where
  | text (cs : List Char)
  | tag (position : Nat) (t : Tag)

/-- The parts of a text from a position on; `literal` is the text read since the last part, in
    reverse order, and `fuel` is the length of the text. -/
def partsFrom : (fuel position : Nat) → (literal : List Char) → List Char → List Part
  | 0, _, literal, cs => [.text (unescape (literal.reverse ++ cs))]
  | _ + 1, _, literal, [] => [.text (unescape literal.reverse)]
  | fuel + 1, position, literal, c :: cs =>
    let slashes := ((c :: cs).takeWhile (· == '\\')).length
    match cutTag? ((c :: cs).drop slashes) with
    | none =>
      if slashes = 0 then partsFrom fuel (position + 1) (c :: literal) cs
      else partsFrom fuel (position + slashes) (List.replicate slashes '\\' ++ literal)
        ((c :: cs).drop slashes)
    | some (inside, rest) =>
      let pairs := slashes / 2
      let behind := position + slashes + inside.length + 2
      let before := [.text (unescape literal.reverse), .text (List.replicate pairs '\\')]
      if slashes % 2 = 1 then
        before ++ .text ('[' :: inside ++ [']']) :: partsFrom fuel behind [] rest
      else
        before ++ .tag (position + 2 * pairs) (Tag.ofText inside) :: partsFrom fuel behind [] rest

/-- A tag that is open, with its name in normal form. -/
abbrev OpenTag := Tag

/-- Takes the innermost open tag of a name out of the open ones, innermost first. -/
def takeOpen? (name : List Char) : List OpenTag → Option (OpenTag × List OpenTag)
  | [] => none
  | t :: ts =>
    if t.name = name then some (t, ts)
    else (takeOpen? name ts).map fun (found, rest) => (found, t :: rest)

/-- Closes a tag: if it names an action, its arguments have to be in order. -/
def closeTag (t : OpenTag) : Except MarkupFault Unit :=
  match t.name, t.parameters with
  | '@' :: _, some parameters =>
    if parameters.isEmpty then .ok ()
    else
      let read := Argument.ofParameters (Text.trim parameters)
      (Argument.check read).mapError (.arguments read parameters)
  | _, _ => .ok ()

/-- The text of the parts, given the open tags, innermost first.  A run begins behind each tag. -/
def styledText (isOpen : List OpenTag) : List Part → Except MarkupFault (List Glyph)
  | [] => .ok []
  | .text cs :: parts =>
    (styledText isOpen parts).map
      (glyphs (!isOpen.isEmpty) (dropControls (Emoji.replace cs)) ++ ·)
  | .tag position t :: parts =>
    match t.closes? with
    | none => do
      let name ← (Style.normalize t.name).mapError .mixture
      openRun <$> styledText (⟨name, t.parameters⟩ :: isOpen) parts
    | some [] =>
      match isOpen with
      | [] => .error (.notOpen t position)
      | innermost :: outer => do
        closeTag innermost
        openRun <$> styledText outer parts
    | some name => do
      let name ← (Style.normalize name).mapError .mixture
      match takeOpen? name isOpen with
      | none => .error (.notOpen t position)
      | some (found, rest) => do
        closeTag found
        openRun <$> styledText rest parts

/-- The text that a marked-up text shows. -/
def readMarkup (cs : List Char) : Except MarkupFault (List Glyph) :=
  styledText [] (partsFrom (cs.length + 1) 0 [] cs)

end Scaffold.Console
