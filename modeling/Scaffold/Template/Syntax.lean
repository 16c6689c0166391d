import Scaffold.Text.Blank
import Scaffold.Text.Category.Table
import Scaffold.Text.Lines

/-!
# Template texts

A template is literal text with marks in double braces, which stand for the value of a variable,
and statements in braces with percent signs: conditions and inclusions.  Braces with hash signs are
notes.  A dash inside a brace removes the white space on its side.

A text is first cut into fragments, of which marks and statements hold words, and the fragments are
then nested into nodes.
-/

namespace Scaffold.Template

open Text

/-- A part of a template. -/
inductive Node where
  | text (s : List Char)
  | variable (name : String)
  | conditional (name : String) (whenSet otherwise : List Node)
  | inclusion (name : String)
  deriving Repr

/-- A word inside a mark or statement. -/
inductive Word where
  | name (s : String)
  | quoted (s : List Char)
  | sign (c : Char)
  deriving DecidableEq, Repr

/-- A piece of a template before nesting. -/
inductive Fragment where
  | text (s : List Char)
  | mark (words : List Word)
  | statement (words : List Word)
  deriving DecidableEq, Repr

/-- The text is not a template. -/
structure SyntaxFault where
  deriving DecidableEq, Repr

/-- The three kinds of braces. -/
inductive Brace where
  | mark
  | statement
  | note
  deriving DecidableEq, Repr

/-- The brace that a character opens or closes next to a curly one. -/
def Brace.ofInner? : Char → Option Brace
  | '\x7b' => some .mark
  | '%' => some .statement
  | '#' => some .note
  | _ => none

/-- The character next to the closing curly brace. -/
def Brace.closer : Brace → Char
  | .mark => '\x7d'
  | .statement => '%'
  | .note => '#'

/-- The literal text before the first brace, the brace, and the text behind it. -/
def cutAtBrace : List Char → List Char × Option (Brace × List Char)
  | '\x7b' :: c :: cs =>
    match Brace.ofInner? c with
    | some brace => ([], some (brace, cs))
    | none =>
      let (literal, found) := cutAtBrace (c :: cs)
      ('\x7b' :: literal, found)
  | c :: cs =>
    let (literal, found) := cutAtBrace cs
    (c :: literal, found)
  | [] => ([], none)

/-- The text behind a closing brace at the front, if there is one; with a dash, behind the white
    space after it. -/
def dropCloser? (brace : Brace) : List Char → Option (List Char)
  | '-' :: c :: '\x7d' :: cs => if c = brace.closer then some (cs.dropWhile isBlank) else none
  | '+' :: c :: '\x7d' :: cs => if c = brace.closer ∧ brace ≠ .mark then some cs else none
  | c :: '\x7d' :: cs => if c = brace.closer then some cs else none
  | _ => none

/-- The text behind a note. -/
def dropNote? : List Char → Option (List Char)
  | [] => none
  | c :: cs =>
    match dropCloser? .note (c :: cs) with
    | some rest => some rest
    | none => dropNote? cs

/-- A quoted word up to its closing quote, and the text behind it. -/
def takeQuoted (delimiter : Char) : List Char → Option (List Char × List Char)
  | [] => none
  | '\\' :: c :: cs => (takeQuoted delimiter cs).map fun (s, rest) => (c :: s, rest)
  | c :: cs =>
    if c = delimiter then some ([], cs)
    else (takeQuoted delimiter cs).map fun (s, rest) => (c :: s, rest)

/-- The words up to the closing brace, and the text behind it; `fuel` is the length of the
    text. -/
def takeWords (brace : Brace) : (fuel : Nat) → List Char → Option (List Word × List Char)
  | 0, _ => none
  | _ + 1, [] => none
  | fuel + 1, c :: cs =>
    match dropCloser? brace (c :: cs) with
    | some rest => some ([], rest)
    | none =>
      if isBlank c then takeWords brace fuel cs
      else if isWordChar c then
        let name := c :: cs.takeWhile isWordChar
        (takeWords brace fuel (cs.dropWhile isWordChar)).map fun (words, rest) =>
          (.name (String.ofList name) :: words, rest)
      else if c = '\'' ∨ c = '"' then
        match takeQuoted c cs with
        | none => none
        | some (s, rest) =>
          (takeWords brace fuel rest).map fun (words, rest) => (.quoted s :: words, rest)
      else (takeWords brace fuel cs).map fun (words, rest) => (.sign c :: words, rest)

/-- A dash or plus sign behind an opening brace: whether it is a dash, and the text behind. -/
def takeTrim : List Char → Bool × List Char
  | '-' :: cs => (true, cs)
  | '+' :: cs => (false, cs)
  | cs => (false, cs)

/-- The fragments of a text; `fuel` is its length. -/
def fragmentsOf : (fuel : Nat) → List Char → Except SyntaxFault (List Fragment)
  | 0, cs => .ok [.text cs]
  | fuel + 1, cs =>
    match cutAtBrace cs with
    | (literal, none) => .ok [.text literal]
    | (literal, some (brace, rest)) =>
      let (trimmed, rest) := takeTrim rest
      let before : Fragment := .text (if trimmed then trimEnd literal else literal)
      match brace with
      | .note =>
        match dropNote? rest with
        | some rest => (fragmentsOf fuel rest).map (before :: ·)
        | none => .error ⟨⟩
      | .mark =>
        match takeWords .mark (rest.length + 1) rest with
        | some (words, rest) =>
          (fragmentsOf fuel rest).map fun more => before :: .mark words :: more
        | none => .error ⟨⟩
      | .statement =>
        match takeWords .statement (rest.length + 1) rest with
        | some (words, rest) =>
          (fragmentsOf fuel rest).map fun more => before :: .statement words :: more
        | none => .error ⟨⟩

/-- An open condition: its variable, the nodes before it in reverse order, and the branch that
    is complete once the alternative has begun. -/
structure Open where
  name : String
  before : List Node
  whenSet : Option (List Node)

/-- The nesting state: the open conditions, innermost first, and the nodes read since, in
    reverse order. -/
structure Nesting where
  conditions : List Open
  nodes : List Node

/-- Adds a node. -/
def Nesting.push (n : Nesting) (node : Node) : Nesting := { n with nodes := node :: n.nodes }

/-- Ends the innermost condition. -/
def Nesting.close (n : Nesting) : Except SyntaxFault Nesting :=
  match n.conditions with
  | [] => .error ⟨⟩
  | c :: outer =>
    let node := match c.whenSet with
      | none => Node.conditional c.name n.nodes.reverse []
      | some whenSet => Node.conditional c.name whenSet n.nodes.reverse
    .ok ⟨outer, node :: c.before⟩

/-- Begins the alternative of the innermost condition. -/
def Nesting.alternative (n : Nesting) : Except SyntaxFault Nesting :=
  match n.conditions with
  | ⟨name, before, none⟩ :: outer => .ok ⟨⟨name, before, some n.nodes.reverse⟩ :: outer, []⟩
  | _ => .error ⟨⟩

/-- Takes up one fragment. -/
def Nesting.take (n : Nesting) : Fragment → Except SyntaxFault Nesting
  | .text s => .ok (n.push (.text s))
  | .mark [.name name] => .ok (n.push (.variable name))
  | .mark [.quoted s] => .ok (n.push (.text s))
  | .mark _ => .error ⟨⟩
  | .statement [.name "if", .name name] => .ok ⟨⟨name, n.nodes, none⟩ :: n.conditions, []⟩
  | .statement [.name "else"] => n.alternative
  | .statement [.name "endif"] => n.close
  | .statement [.name "include", .quoted s] => .ok (n.push (.inclusion (String.ofList s)))
  | .statement _ => .error ⟨⟩

/-- The nodes of a template. -/
def parse (source : List Char) : Except SyntaxFault (List Node) := do
  let cs := unifyLines source
  let fragments ← fragmentsOf (cs.length + 1) cs
  let nesting ← fragments.foldlM Nesting.take ⟨[], []⟩
  if nesting.conditions.isEmpty then return nesting.nodes.reverse else .error ⟨⟩

/-- What remains of a template once its variables are known. -/
inductive Piece where
  | text (s : List Char)
  | inclusion (name : String)
  deriving DecidableEq, Repr

/-- The value of a variable; one that is not given is empty. -/
def valueOf (bindings : List (String × String)) (name : String) : String :=
  (bindings.lookup name).getD ""

mutual

/-- The pieces of a node. -/
def Node.pieces (bindings : List (String × String)) : Node → List Piece
  | .text s => [.text s]
  | .variable name => [.text (valueOf bindings name).toList]
  | .conditional name whenSet otherwise =>
    if valueOf bindings name ≠ "" then piecesOf bindings whenSet
    else piecesOf bindings otherwise
  | .inclusion name => [.inclusion name]

/-- The pieces of all nodes. -/
def piecesOf (bindings : List (String × String)) : List Node → List Piece
  | [] => []
  | node :: nodes => node.pieces bindings ++ piecesOf bindings nodes

end

end Scaffold.Template
