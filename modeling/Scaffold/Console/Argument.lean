import Scaffold.Console.Argument.Token
import Scaffold.Text.Blank
import Scaffold.Text.Lines

/-!
# Arguments of actions

The parameters of an action are the name of a handler with its arguments in parentheses, or the
arguments by themselves.  Arguments are values: numbers, texts, fixed words, and tuples, sets and
maps of values.  They are written in the grammar of expressions, so that what is wrong with them is
either that they are no expression, or that the expression is no value.

The grammar is read twice where it has to be.  The first reading finds whether there is an
expression; the second one looks for the mistake at the same time.
-/

namespace Scaffold.Console.Argument

/-- What an expression is, as far as it matters whether it is a value. -/
inductive Expr where
  /-- A number. -/
  | number (imaginary : Bool)
  /-- A number with a sign. -/
  | signed (imaginary : Bool)
  /-- A sum or a difference. -/
  | sum (left right : Expr)
  /-- A text or bytes. -/
  | text
  /-- One of the fixed words, or three dots. -/
  | fixed (word : String)
  | name (word : String)
  | tuple (items : List Expr)
  | set (items : List Expr)
  | map (entries : List (Option Expr × Expr))
  /-- An expression that is unpacked. -/
  | starred (inner : Expr)
  /-- The question whether something is a member. -/
  | within (left : Expr)
  /-- The call that makes an empty set. -/
  | emptySet
  /-- Everything else. -/
  | other (what : String)
  deriving Inhabited

/-- The word for an expression in front of an equals sign. -/
def Expr.what : Expr → String
  | number _ => "literal"
  | text => "literal"
  | fixed "..." => "ellipsis"
  | fixed word => word
  | name _ => "name"
  | tuple _ => "tuple"
  | set _ => "set display"
  | map _ => "dict literal"
  | emptySet => "function call"
  | starred _ => "starred"
  | within _ => "comparison"
  | other what => what
  | _ => "expression"

/-- Why reading stops: at a token that does not fit, or with a problem. -/
inductive Stop where
  | at (tokens : List Token)
  | known (problem : Problem)

/-- The next token, which may be missing. -/
def peek : List Token → Except Stop Lexeme
  | [] => .ok .finish
  | ⟨.broken problem _, _, _⟩ :: _ => .error (.known problem)
  | ⟨lexeme, _, _⟩ :: _ => .ok lexeme

/-- The words that are no names. -/
def reserved : List String :=
  ["False", "None", "True", "and", "as", "assert", "async", "await", "break", "class", "continue",
    "def", "del", "elif", "else", "except", "finally", "for", "from", "global", "if", "import",
    "in", "is", "lambda", "nonlocal", "not", "or", "pass", "raise", "return", "try", "while",
    "with", "yield"]

/-- Whether the next token is a given mark or word. -/
def sees (text : String) (ts : List Token) : Except Stop Bool := do
  match ← peek ts with
  | .mark m => return m == text
  | .name n => return n == text && reserved.contains text
  | _ => return false

/-- Passes over a given mark or word. -/
def expect (text : String) (ts : List Token) : Except Stop (List Token) := do
  if ← sees text ts then return ts.drop 1 else .error (.at ts)

/-- The name that comes next. -/
def nameAt? (ts : List Token) : Except Stop (Option String) := do
  match ← peek ts with
  | .name n => return if reserved.contains n then none else some n
  | _ => return none

/-- Whether a name comes next and a given mark behind it. -/
def names (mark : String) (ts : List Token) : Except Stop Bool := do
  match ← nameAt? ts with
  | some _ => sees mark (ts.drop 1)
  | none => return false

/-- The binding strengths of the operators with two sides. -/
def strength? : Lexeme → Option Nat
  | .mark "|" => some 1
  | .mark "^" => some 2
  | .mark "&" => some 3
  | .mark "<<" => some 4
  | .mark ">>" => some 4
  | .mark "+" => some 5
  | .mark "-" => some 5
  | .mark "*" => some 6
  | .mark "/" => some 6
  | .mark "//" => some 6
  | .mark "%" => some 6
  | .mark "@" => some 6
  | _ => none

/-- The expression that an operator makes of its sides. -/
def combine (operator : Lexeme) (left right : Expr) : Expr :=
  match operator with
  | .mark "+" => .sum left right
  | .mark "-" => .sum left right
  | _ => .other "expression"

/-- Passes over a comparison. -/
def comparison? (ts : List Token) : Except Stop (Option (List Token)) := do
  match ← peek ts with
  | .mark m =>
    return if ["==", "!=", "<", "<=", ">", ">="].contains m then some (ts.drop 1) else none
  | .name "in" => return some (ts.drop 1)
  | .name "is" =>
    if ← sees "not" (ts.drop 1) then return some (ts.drop 2) else return some (ts.drop 1)
  | .name "not" =>
    match ts.drop 1 with
    | ⟨.name "in", _, _⟩ :: rest => return some rest
    | rest =>
      let _ ← peek rest
      return none
  | _ => return none

/-- What a reading finds; a text that does not fit is nothing found, a problem stays one. -/
def attempt {α : Type} : Except Stop α → Except Stop (Option α)
  | .ok found => .ok (some found)
  | .error (.at _) => .ok none
  | .error (.known problem) => .error (.known problem)

/-- Whether texts are of bytes, whether they are filled in, and what is wrong with them. -/
abbrev TextPart := Bool × Bool × Option Problem

/-- The texts that come next, one behind the other. -/
def textParts : List Token → List TextPart × List Token
  | ⟨.text bytes formatted problem, _, _⟩ :: ts =>
    let (more, rest) := textParts ts
    ((bytes, formatted, problem) :: more, rest)
  | ts => ([], ts)

/-- Texts that stand one behind the other, as one; the answer is whether it is filled in. -/
def joinTexts (ts : List Token) : Except Stop (Bool × List Token) := do
  let (parts, rest) := textParts ts
  let _ ← peek rest
  let kind := parts.head?.map Prod.fst
  for (bytes, _, problem) in parts do
    match problem with
    | some p => .error (.known p)
    | none => if kind ≠ some bytes then .error (.known .mixedTexts)
  return (parts.any fun (_, formatted, _) => formatted, rest)

/-- The token in front of `after` in `before`. -/
def lastBefore (before after : List Token) : Option Token :=
  (before.take (before.length - after.length)).getLast?

/-- Whether an expression is the name of what was once a statement. -/
def isOldStatement : Expr → Bool
  | .name word => word == "print" || word == "exec"
  | _ => false

/-- Whether the next token may stand between two operands. -/
def goesOn : List Token → Bool
  | ⟨.mark m, _, _⟩ :: _ => m == "+" || m == "-" || m == "*"
  | ⟨.name n, _, _⟩ :: _ => n == "not"
  | _ => false

/-- Whether what begins here may be something else than an expression: a name in front of a text, or
    a word that has a meaning of its own in places. -/
def beginsAmbiguously : List Token → Bool
  | ⟨.name n, _, _⟩ :: ⟨.text .., _, _⟩ :: _ => !reserved.contains n
  | ⟨.name n, _, _⟩ :: _ => ["_", "case", "match"].contains n
  | _ => false

mutual

/-- What stands, as a part of what a loop goes through its sequence with, where a name has to be. -/
def wrongTarget? : Expr → Option String
  | .tuple items => wrongTargets? items
  | .starred inner => wrongTarget? inner
  | .within left => wrongTarget? left
  | .name _ => none
  | .other what => if what == "attribute" || what == "comparison" then none else some what
  | e => some e.what

/-- The first of some expressions that a loop cannot go through its sequence with. -/
def wrongTargets? : List Expr → Option String
  | [] => none
  | e :: es => wrongTarget? e <|> wrongTargets? es

end

mutual

/-- Whether a loop can go through its sequence with an expression. -/
def isTarget : Expr → Bool
  | .name _ => true
  | .other what => what == "attribute"
  | .tuple items => areTargets items
  | .starred inner => isTarget inner
  | _ => false

/-- Whether a loop can go through its sequence with each of some expressions. -/
def areTargets : List Expr → Bool
  | [] => true
  | e :: es => isTarget e && areTargets es

end

/-- What an argument of a call is. -/
inductive ArgumentKind where
  | positional
  | unpacked
  | named
  | unpackedNamed
  deriving DecidableEq

mutual

/-- An expression in parentheses, a tuple or a sequence made by a loop, from behind the opening
    parenthesis. -/
def parenthesized (probe : Bool) : (fuel : Nat) → List Token → Except Stop (Expr × List Token)
  | 0, ts => .error (.at ts)
  | fuel + 1, ts => do
    if ← sees ")" ts then return (.tuple [], ts.drop 1)
    if ← sees "yield" ts then
      let behind := if ← sees "from" (ts.drop 1) then ts.drop 2 else ts.drop 1
      if ← sees ")" behind then return (.other "yield expression", behind.drop 1)
      let (_, rest) ← members probe fuel ")" behind
      return (.other "yield expression", ← expect ")" rest)
    if probe && (← sees "**" ts) then
      match expression probe fuel (ts.drop 1) with
      | .ok (_, rest) =>
        if ← sees ")" rest then .error (.known .doubleStarred) else .error (.at ts)
      | .error e => .error e
    else
    if ← sees "*" ts then
      if let some found ← attempt (starredTuple probe fuel ts) then return found
      if probe then
        if let some (_, rest) ← attempt (expression probe fuel (ts.drop 1)) then
          if ← sees ")" rest then .error (.known .starred)
        brokenLoop fuel false ts
      .error (.at ts)
    let (first, rest) ← member probe fuel ts
    if (← sees "for" rest) || (← sees "async" rest) then
      let rest ← loops probe fuel rest
      return (.other "generator expression", ← expect ")" rest)
    if ← sees "," rest then
      let (more, rest) ← members probe fuel ")" (rest.drop 1)
      return (.tuple (first :: more), ← expect ")" rest)
    return (first, ← expect ")" rest)

/-- A tuple whose first member is unpacked. -/
def starredTuple (probe : Bool) : (fuel : Nat) → List Token → Except Stop (Expr × List Token)
  | 0, ts => .error (.at ts)
  | fuel + 1, ts => do
    let (first, rest) ← member probe fuel ts
    let (more, rest) ← members probe fuel ")" (← expect "," rest)
    return (.tuple (first :: more), ← expect ")" rest)

/-- A set, a map, or one that is made by a loop, from behind the opening bracket. -/
def braced (probe : Bool) : (fuel : Nat) → List Token → Except Stop (Expr × List Token)
  | 0, ts => .error (.at ts)
  | fuel + 1, ts => do
    if ← sees "\x7d" ts then return (.map [], ts.drop 1)
    if ← sees "**" ts then
      let (value, rest) ← binary probe fuel 1 (ts.drop 1)
      if probe && (← sees "for" rest) then
        let _ ← loops probe fuel rest
        .error (.known .unpackedEntryLoop)
      return ← entries probe fuel [(none, value)] rest
    if let some found ← attempt (bracedPlain probe fuel ts) then return found
    if probe then brokenLoop fuel true ts
    .error (.at ts)

/-- A set or a map of at least one member that does not begin with two stars. -/
def bracedPlain (probe : Bool) : (fuel : Nat) → List Token → Except Stop (Expr × List Token)
  | 0, ts => .error (.at ts)
  | fuel + 1, ts => do
    let assigned ← names ":=" ts
    let (first, rest) ← member probe fuel ts
    let starred := match first with
      | .starred _ => true
      | _ => false
    if !assigned && !starred then
      if ← sees ":" rest then
        let (value, rest) ← entryValue probe fuel (rest.drop 1)
        if (← sees "for" rest) || (← sees "async" rest) then
          let rest ← loops probe fuel rest
          return (.other "dict comprehension", ← expect "\x7d" rest)
        return ← entries probe fuel [(some first, value)] rest
    if !starred then
      if (← sees "for" rest) || (← sees "async" rest) then
        let rest ← loops probe fuel rest
        return (.other "set comprehension", ← expect "\x7d" rest)
    if ← sees "\x7d" rest then return (.set [first], rest.drop 1)
    let (more, rest) ← members probe fuel "\x7d" (← expect "," rest)
    return (.set (first :: more), ← expect "\x7d" rest)

/-- The value of an entry of a map. -/
def entryValue (probe : Bool) : (fuel : Nat) → List Token → Except Stop (Expr × List Token)
  | 0, ts => .error (.at ts)
  | fuel + 1, ts => do
    if let some found ← attempt (expression probe fuel ts) then return found
    if ← sees "*" ts then
      let _ ← binary probe fuel 1 (ts.drop 1)
      .error (.known .starredValue)
    if (← sees "\x7d" ts) || (← sees "," ts) then .error (.known .missingValue)
    .error (.at ts)

/-- The entries of a map behind those in `found`, which are in reverse order. -/
def entries (probe : Bool) : (fuel : Nat) → List (Option Expr × Expr) → List Token →
    Except Stop (Expr × List Token)
  | 0, _, ts => .error (.at ts)
  | fuel + 1, found, ts => do
    if ← sees "\x7d" ts then return (.map found.reverse, ts.drop 1)
    let ts ← expect "," ts
    if ← sees "\x7d" ts then return (.map found.reverse, ts.drop 1)
    if ← sees "**" ts then
      let (value, rest) ← binary probe fuel 1 (ts.drop 1)
      entries probe fuel ((none, value) :: found) rest
    else
      let (key, rest) ←
        match ← attempt (expression false fuel ts) with
        | some found => pure found
        | none => expression probe fuel ts
      if ← sees ":" rest then
        let (value, rest) ← entryValue probe fuel (rest.drop 1)
        entries probe fuel ((some key, value) :: found) rest
      else .error (.known .missingColon)

/-- Looks for a loop in brackets that is written without the parentheses it needs. -/
def brokenLoop : (fuel : Nat) → (isBraced : Bool) → List Token → Except Stop Unit
  | 0, _, ts => .error (.at ts)
  | fuel + 1, isBraced, ts => do
    if ← sees "*" ts then
      match ← attempt (expression true fuel (ts.drop 1)) with
      | none => .error (.known .starAlone)
      | some (_, rest) =>
        if let some _ ← attempt (loops true fuel rest) then .error (.known .unpackedLoop)
    if isBraced then
      if let some (_, rest) ← attempt (member true fuel ts) then
        if ← sees "," rest then
          if let some (_, behind) ← attempt (members true fuel "\x7d" (rest.drop 1)) then
            if let some _ ← attempt (loops true fuel behind) then .error (.known .bareTarget)
    return ()

/-- Members up to a closing bracket, which may follow a comma. -/
def members (probe : Bool) : (fuel : Nat) → (closing : String) → List Token →
    Except Stop (List Expr × List Token)
  | 0, _, ts => .error (.at ts)
  | fuel + 1, closing, ts => do
    if ← sees closing ts then return ([], ts)
    let (first, rest) ← member probe fuel ts
    if ← sees "," rest then
      let (more, rest) ← members probe fuel closing (rest.drop 1)
      return (first :: more, rest)
    return ([first], rest)

/-- A member of a tuple or a set: an expression, one with a name, or one that is unpacked. -/
def member (probe : Bool) : (fuel : Nat) → List Token → Except Stop (Expr × List Token)
  | 0, ts => .error (.at ts)
  | fuel + 1, ts => do
    if ← sees "*" ts then
      let (inner, rest) ← binary probe fuel 1 (ts.drop 1)
      return (.starred inner, rest)
    if ← names ":=" ts then
      let (_, rest) ← expression probe fuel (ts.drop 2)
      return (.other "named expression", rest)
    let (e, rest) ← expression probe fuel ts
    if probe then
      if ← sees ":=" rest then
        let _ ← expression probe fuel (rest.drop 1)
        .error (.known (.namedAssignmentTo e.what))
      if ← sees "=" rest then
        let settled := match ← attempt (atom false fuel ts) with
          | some (.tuple _, _) => true
          | some (.fixed word, _) => word != "..."
          | some (.other what, _) => what == "generator expression"
          | _ => false
        if !settled then
          if let some (target, behind) ← attempt (binary false fuel 1 ts) then
            if ← sees "=" behind then
              if let some (_, behind) ← attempt (binary false fuel 1 (behind.drop 1)) then
                if !(← sees "=" behind) && !(← sees ":=" behind) then
                  .error (.known (if ← names "=" ts then .assignment
                    else .assignmentTo target.what))
    if ← sees ":=" rest then .error (.at rest)
    return (e, rest)

/-- The loops and conditions that make a sequence. -/
def loops (probe : Bool) : (fuel : Nat) → List Token → Except Stop (List Token)
  | 0, ts => .error (.at ts)
  | fuel + 1, ts => do
    let ts := if ← sees "async" ts then ts.drop 1 else ts
    let ts ← expect "for" ts
    match ← attempt (targets probe fuel ts) with
    | some rest =>
      let (_, rest) ← disjunction probe fuel rest
      let rest ← conditions probe fuel rest
      if (← sees "for" rest) || (← sees "async" rest) then loops probe fuel rest else return rest
    | none =>
      if probe then
        if let some (e, _) ← attempt (several probe fuel ts) then
          if let some what := wrongTarget? e then .error (.known (.fixedAssignment what))
      .error (.at ts)

/-- The conditions of a loop. -/
def conditions (probe : Bool) : (fuel : Nat) → List Token → Except Stop (List Token)
  | 0, ts => .error (.at ts)
  | fuel + 1, ts => do
    if ← sees "if" ts then
      let (_, rest) ← disjunction probe fuel (ts.drop 1)
      conditions probe fuel rest
    else return ts

/-- What a loop goes through its sequence with, and the word behind it. -/
def targets (probe : Bool) : (fuel : Nat) → List Token → Except Stop (List Token)
  | 0, ts => .error (.at ts)
  | fuel + 1, ts => do
    let ts := if ← sees "*" ts then ts.drop 1 else ts
    let (first, rest) ← primary probe fuel ts
    if !isTarget first then .error (.at ts)
    if ← sees "," rest then
      if ← sees "in" (rest.drop 1) then return rest.drop 2
      targets probe fuel (rest.drop 1)
    else expect "in" rest

/-- An expression. -/
def expression (probe : Bool) : (fuel : Nat) → List Token → Except Stop (Expr × List Token)
  | 0, ts => .error (.at ts)
  | fuel + 1, ts => do
    if ← sees "lambda" ts then
      let rest ← lambdaNames probe fuel (ts.drop 1)
      let rest ← expect ":" rest
      let (_, rest) ← expression probe fuel rest
      return (.other "lambda", rest)
    let (first, rest) ← disjunction probe fuel ts
    if probe then
      missingComma fuel ts first rest
      missingElse fuel rest
      missingCall fuel ts
    if ← sees "if" rest then
      if let some rest ← attempt (alternative probe fuel (rest.drop 1)) then
        return (.other "conditional expression", rest)
    return (first, rest)

/-- Looks for a second expression directly behind the one in front of `rest`. -/
def missingComma : (fuel : Nat) → List Token → Expr → (rest : List Token) → Except Stop Unit
  | 0, ts, _, _ => .error (.at ts)
  | fuel + 1, ts, first, rest => do
    if beginsAmbiguously ts then return ()
    if let some (_, behind) ← attempt (expression false fuel rest) then
      let depth := ((lastBefore rest behind).map Token.depth).getD 0
      if depth ≠ 0 && !isOldStatement first then .error (.known .missingComma)

/-- Looks for a condition without what is otherwise. -/
def missingElse : (fuel : Nat) → List Token → Except Stop Unit
  | 0, ts => .error (.at ts)
  | fuel + 1, ts => do
    if ← sees "if" ts then
      if let some (_, behind) ← attempt (disjunction false fuel (ts.drop 1)) then
        if !(← sees "else" behind) && !(← sees ":" behind) then .error (.known .missingElse)

/-- Looks for what was once a statement, written with its word in front. -/
def missingCall : (fuel : Nat) → List Token → Except Stop Unit
  | 0, ts => .error (.at ts)
  | fuel + 1, ts => do
    if let some word ← nameAt? ts then
      let behind := ts.drop 1
      let isOld := isOldStatement (.name word)
      if ← sees "(" behind then return ()
      if isOld || !goesOn behind then
        if let some _ ← attempt (several true fuel behind) then
          if isOld then .error (.known (.missingCall word))

/-- Expressions with commas between them, some of them unpacked. -/
def several (probe : Bool) : (fuel : Nat) → List Token → Except Stop (Expr × List Token)
  | 0, ts => .error (.at ts)
  | fuel + 1, ts => do
    let (first, rest) ←
      if ← sees "*" ts then do
        let (inner, rest) ← binary probe fuel 1 (ts.drop 1)
        pure (Expr.starred inner, rest)
      else expression probe fuel ts
    if ← sees "," rest then
      match ← attempt (several probe fuel (rest.drop 1)) with
      | some (.tuple more, rest) => return (.tuple (first :: more), rest)
      | some (next, rest) => return (.tuple [first, next], rest)
      | none => return (.tuple [first], rest.drop 1)
    return (first, rest)

/-- The condition of an expression and what it is otherwise. -/
def alternative (probe : Bool) : (fuel : Nat) → List Token → Except Stop (List Token)
  | 0, ts => .error (.at ts)
  | fuel + 1, ts => do
    let (_, rest) ← disjunction probe fuel ts
    let (_, rest) ← expression probe fuel (← expect "else" rest)
    return rest

/-- The names that a function without a name takes. -/
def lambdaNames (probe : Bool) : (fuel : Nat) → List Token → Except Stop (List Token)
  | 0, ts => .error (.at ts)
  | fuel + 1, ts => do
    if ← sees ":" ts then return ts
    let ts ← do
      if (← sees "*" ts) || (← sees "**" ts) then pure (ts.drop 1) else pure ts
    match ← nameAt? ts with
    | none => .error (.at ts)
    | some _ =>
      let rest := ts.drop 1
      let rest ← do
        if ← sees "=" rest then
          let (_, rest) ← expression probe fuel (rest.drop 1)
          pure rest
        else pure rest
      if ← sees "," rest then lambdaNames probe fuel (rest.drop 1) else return rest

/-- Alternatives of expressions that say yes or no. -/
def disjunction (probe : Bool) : (fuel : Nat) → List Token → Except Stop (Expr × List Token)
  | 0, ts => .error (.at ts)
  | fuel + 1, ts => do
    let (first, rest) ← conjunction probe fuel ts
    if ← sees "or" rest then
      if let some (_, rest) ← attempt (disjunction probe fuel (rest.drop 1)) then
        return (.other "expression", rest)
    return (first, rest)

/-- Expressions that say yes or no, all together. -/
def conjunction (probe : Bool) : (fuel : Nat) → List Token → Except Stop (Expr × List Token)
  | 0, ts => .error (.at ts)
  | fuel + 1, ts => do
    let (first, rest) ← inversion probe fuel ts
    if ← sees "and" rest then
      if let some (_, rest) ← attempt (conjunction probe fuel (rest.drop 1)) then
        return (.other "expression", rest)
    return (first, rest)

/-- The opposite of an expression, or a comparison. -/
def inversion (probe : Bool) : (fuel : Nat) → List Token → Except Stop (Expr × List Token)
  | 0, ts => .error (.at ts)
  | fuel + 1, ts => do
    if ← sees "not" ts then
      let (_, rest) ← inversion probe fuel (ts.drop 1)
      return (.other "expression", rest)
    let (first, rest) ← binary probe fuel 1 ts
    let rest' ← comparisons probe fuel rest
    if rest'.length = rest.length then return (first, rest')
    return (if ← sees "in" rest then .within first else .other "comparison", rest')

/-- The comparisons behind an expression. -/
def comparisons (probe : Bool) : (fuel : Nat) → List Token → Except Stop (List Token)
  | 0, ts => .error (.at ts)
  | fuel + 1, ts => do
    match ← comparison? ts with
    | none => return ts
    | some behind =>
      match ← attempt (binary probe fuel 1 behind) with
      | some (_, rest) => comparisons probe fuel rest
      | none => return ts

/-- An expression of operators that bind at least as strongly as `level`. -/
def binary (probe : Bool) : (fuel level : Nat) → List Token → Except Stop (Expr × List Token)
  | 0, _, ts => .error (.at ts)
  | fuel + 1, level, ts => do
    let (first, rest) ← unary probe fuel ts
    operators probe fuel level first rest

/-- The operators behind an expression. -/
def operators (probe : Bool) : (fuel level : Nat) → Expr → List Token →
    Except Stop (Expr × List Token)
  | 0, _, _, ts => .error (.at ts)
  | fuel + 1, level, left, ts => do
    let operator ← peek ts
    match strength? operator with
    | none => return (left, ts)
    | some strength =>
      if strength < level then return (left, ts)
      match ← attempt (binary probe fuel (strength + 1) (ts.drop 1)) with
      | some (right, rest) => operators probe fuel level (combine operator left right) rest
      | none => return (left, ts)

/-- An expression with signs. -/
def unary (probe : Bool) : (fuel : Nat) → List Token → Except Stop (Expr × List Token)
  | 0, ts => .error (.at ts)
  | fuel + 1, ts => do
    if (← sees "-" ts) || (← sees "+" ts) then
      let (e, rest) ← unary probe fuel (ts.drop 1)
      match e with
      | .number imaginary => return (.signed imaginary, rest)
      | _ => return (.other "expression", rest)
    if ← sees "~" ts then
      let (_, rest) ← unary probe fuel (ts.drop 1)
      return (.other "expression", rest)
    let awaited ← sees "await" ts
    let (e, rest) ← primary probe fuel (if awaited then ts.drop 1 else ts)
    let e := if awaited then .other "await expression" else e
    if ← sees "**" rest then
      if let some (_, rest) ← attempt (unary probe fuel (rest.drop 1)) then
        return (.other "expression", rest)
    return (e, rest)

/-- A value or a name with what is taken from it. -/
def primary (probe : Bool) : (fuel : Nat) → List Token → Except Stop (Expr × List Token)
  | 0, ts => .error (.at ts)
  | fuel + 1, ts => do
    let (e, rest) ← atom probe fuel ts
    trailers probe fuel e rest

/-- Attributes and calls behind an expression. -/
def trailers (probe : Bool) : (fuel : Nat) → Expr → List Token → Except Stop (Expr × List Token)
  | 0, _, ts => .error (.at ts)
  | fuel + 1, e, ts => do
    if ← sees "." ts then
      match ← nameAt? (ts.drop 1) with
      | some _ => trailers probe fuel (.other "attribute") (ts.drop 2)
      | none => return (e, ts)
    else if ← sees "(" ts then
      if probe then brokenLoop fuel false (ts.drop 1)
      if ← sees ")" (ts.drop 1) then
        let call := match e with
          | .name "set" => .emptySet
          | _ => .other "function call"
        trailers probe fuel call (ts.drop 2)
      else
        match ← attempt (arguments probe fuel [] (ts.drop 1)) with
        | some rest =>
          if ← sees ")" rest then trailers probe fuel (.other "function call") (rest.drop 1)
          else return (e, ts)
        | none => return (e, ts)
    else
      if probe && (← sees "\x7b" ts) then brokenLoop fuel true (ts.drop 1)
      return (e, ts)

/-- The arguments of a call behind those of the kinds in `found`. -/
def arguments (probe : Bool) : (fuel : Nat) → (found : List ArgumentKind) → List Token →
    Except Stop (List Token)
  | 0, _, ts => .error (.at ts)
  | fuel + 1, found, ts => do
    if ← sees ")" ts then
      return ts
    let (kind, rest) ← argument probe fuel found.isEmpty ts
    let late := (kind == .positional && (found.contains .named || found.contains .unpackedNamed)) ||
      (kind == .unpacked && found.contains .unpackedNamed)
    if late then
      if kind == .positional && probe then
        .error (.known (.orderOfArguments (!found.contains .named)))
      else .error (.at rest)
    if ← sees "," rest then arguments probe fuel (kind :: found) (rest.drop 1) else return rest

/-- An argument of a call. -/
def argument (probe : Bool) : (fuel : Nat) → (first : Bool) → List Token →
    Except Stop (ArgumentKind × List Token)
  | 0, _, ts => .error (.at ts)
  | fuel + 1, first, ts => do
    if ← sees "**" ts then
      let (_, rest) ← expression probe fuel (ts.drop 1)
      return (.unpackedNamed, rest)
    if ← sees "*" ts then
      match ← attempt (expression probe fuel (ts.drop 1)) with
      | some (_, rest) => return (.unpacked, rest)
      | none => .error (.known .starAlone)
    if ← names "=" ts then
      let (_, rest) ← expression probe fuel (ts.drop 2)
      return (.named, rest)
    if ← names ":=" ts then
      let (_, rest) ← expression probe fuel (ts.drop 2)
      return (.positional, rest)
    let (e, rest) ← expression probe fuel ts
    if probe && (← sees "=" rest) then
      match e with
      | .fixed "..." => .error (.known .callAssignment)
      | .fixed word => .error (.known (.fixedAssignment word))
      | _ => .error (.known .callAssignment)
    if (← sees "for" rest) || (← sees "async" rest) then
      let behind ← loops probe fuel rest
      if first && (← sees ")" behind) then return (.positional, behind)
      if !probe then .error (.at behind)
      if ← sees "," behind then
        let _ ← attempt (expression probe fuel (behind.drop 1))
      .error (.known .bareComprehension)
    return (.positional, rest)

/-- A value, a name, or something in brackets. -/
def atom (probe : Bool) : (fuel : Nat) → List Token → Except Stop (Expr × List Token)
  | 0, ts => .error (.at ts)
  | fuel + 1, ts => do
    match ← peek ts with
    | .number imaginary => return (.number imaginary, ts.drop 1)
    | .text .. =>
      let (formatted, rest) ← joinTexts ts
      return (if formatted then .other "f-string expression" else .text, rest)
    | .name "True" => return (.fixed "True", ts.drop 1)
    | .name "False" => return (.fixed "False", ts.drop 1)
    | .name "None" => return (.fixed "None", ts.drop 1)
    | .name n => if reserved.contains n then .error (.at ts) else return (.name n, ts.drop 1)
    | .mark "..." => return (.fixed "...", ts.drop 1)
    | .mark "(" => parenthesized probe fuel (ts.drop 1)
    | .mark "\x7b" => braced probe fuel (ts.drop 1)
    | _ => .error (.at ts)

end

/-- Expressions with commas between them, up to the end of the text. -/
def list (probe : Bool) (fuel : Nat) (ts : List Token) : Except Stop Expr := do
  let (first, rest) ← expression probe fuel ts
  let (whole, rest) ← do
    if ← sees "," rest then
      let (more, rest) ← further fuel (rest.drop 1)
      pure (Expr.tuple (first :: more), rest)
    else pure (first, rest)
  let rest := rest.dropWhile (·.lexeme == .lineEnd)
  match ← peek rest with
  | .finish => return whole
  | _ => .error (.at rest)
where
  /-- The expressions behind a comma. -/
  further : Nat → List Token → Except Stop (List Expr × List Token)
  | 0, ts => .error (.at ts)
  | n + 1, ts => do
    match ← peek ts with
    | .finish => return ([], ts)
    | .lineEnd => return ([], ts)
    | _ =>
      let (e, rest) ← expression probe fuel ts
      if ← sees "," rest then
        let (more, rest) ← further n (rest.drop 1)
        return (e :: more, rest)
      return ([e], rest)

/-- The bracket that is never closed, where reading stopped in a line below it. -/
def neverClosed? (ts : List Token) (stopped : List Token) : Option Problem := do
  let final ← ts.getLast?
  let stop ← stopped.head?
  match final.lexeme with
  | .broken _ (some (bracket, line)) =>
    if line < stop.line then some (.neverClosed bracket) else none
  | _ => none

/-- The expression that a text is. -/
def parse (cs : List Char) : Except Problem Expr := do
  let ts ← tokens cs
  let fuel := 24 * ts.length + 24
  match list false fuel ts with
  | .ok e => .ok e
  | .error (.known p) => .error p
  | .error (.at rest) =>
    let found := match list true fuel ts with
      | .error (.known p) => p
      | _ =>
        match rest with
        | ⟨.indent, _, _⟩ :: _ => .badIndent
        | _ => .badSyntax
    .error ((neverClosed? ts rest).getD found)

mutual

/-- Whether an expression is a value; it is one that may not change, unless a collection is
    named. -/
def value : Expr → Except Problem (Option String)
  | .number _ => .ok none
  | .signed _ => .ok none
  | .text => .ok none
  | .fixed _ => .ok none
  | .sum left right =>
    match left, right with
    | .number false, .number true => .ok none
    | .signed false, .number true => .ok none
    | _, _ => .error .noValue
  | .tuple items => values items
  | .set items => do
    fixedMembers items
    return some "set"
  | .map es => do
    mapEntries es
    return some "dict"
  | .emptySet => .ok (some "set")
  | .starred _ => .error .noValue
  | .within _ => .error .noValue
  | .name _ => .error .noValue
  | .other _ => .error .noValue

/-- Whether expressions are values, and the first collection that may change among them. -/
def values : List Expr → Except Problem (Option String)
  | [] => .ok none
  | e :: es => do
    let first ← value e
    let more ← values es
    return first <|> more

/-- Whether the members of a set are values that may not change. -/
def fixedMembers : List Expr → Except Problem Unit
  | [] => .ok ()
  | e :: es => do
    match ← value e with
    | some kind => .error (.unhashable kind)
    | none => fixedMembers es

/-- Whether the entries of a map are values, with keys that may not change. -/
def mapEntries : List (Option Expr × Expr) → Except Problem Unit
  | [] => .ok ()
  | (none, _) :: _ => .error .nothing
  | (some k, v) :: es => do
    let kind ← value k
    let _ ← value v
    match kind with
    | some kind => .error (.unhashable kind)
    | none => mapEntries es

end

/-- Checks that a text is a value. -/
def check (cs : List Char) : Except Problem Unit := do
  let cs := (Text.unifyLines cs).dropWhile fun c => c == ' ' || c == '\t'
  let _ ← value (← parse cs)
  return ()

/-- The part of the parameters of an action that is read as arguments: what is in parentheses behind
    the name of a handler, an empty tuple where there is a name only, and everything otherwise. -/
def ofParameters (cs : List Char) : List Char :=
  let name := cs.takeWhile fun c => c == '.' || Text.isWordChar c
  match cs.drop name.length with
  | [] => "()".toList
  | '(' :: inside =>
    if inside.getLast? = some ')' && !inside.contains '\n' then '(' :: inside else cs
  | _ => cs

/-- Whether a problem is that there is no expression at all. -/
def Problem.isSyntactic : Problem → Bool
  | noValue | nothing | unhashable _ => false
  | _ => true

/-- A character with its number. -/
def numbered (c : Char) : String :=
  let n := c.toNat
  let digits := if n < 0x10000 then 4 else if n < 0x100000 then 5 else 6
  "U+" ++ String.ofList ((Text.hexDigits digits n).map Char.toUpper)

/-- The text of a problem, unless it is one that is told without words. -/
def Problem.message? : Problem → Option String
  | neverClosed bracket => some ("'" ++ String.ofList [bracket] ++ "' was never closed")
  | unmatched bracket => some ("unmatched '" ++ String.ofList [bracket] ++ "'")
  | mismatched closing opening line =>
    some ("closing parenthesis '" ++ String.ofList [closing] ++
      "' does not match opening parenthesis '" ++ String.ofList [opening] ++ "'" ++
      ((line.map fun n => " on line " ++ toString n).getD ""))
  | tooManyBrackets => some "too many nested parentheses"
  | openText line => some ("unterminated string literal (detected at line " ++ toString line ++ ")")
  | openLongText line =>
    some ("unterminated triple-quoted string literal (detected at line " ++ toString line ++ ")")
  | badCharacter c =>
    some ("invalid character '" ++ String.ofList [c] ++ "' (" ++ numbered c ++ ")")
  | hiddenCharacter c => some ("invalid non-printable character " ++ numbered c)
  | badNumber kind => some ("invalid " ++ kind ++ " literal")
  | badDigit digit kind =>
    some ("invalid digit '" ++ String.ofList [digit] ++ "' in " ++ kind ++ " literal")
  | leadingZeros =>
    some ("leading zeros in decimal integer literals are not permitted; " ++
      "use an 0o prefix for octal integers")
  | characterAfterBackslash => some "unexpected character after line continuation character"
  | endAfterBackslash => some "unexpected EOF while parsing"
  | nullCharacter => some "source code string cannot contain null bytes"
  | wideCharacterInBytes => some "bytes can only contain ASCII literal characters"
  | mixedTexts => some "cannot mix bytes and nonbytes literals"
  | badEscape first last reason =>
    some ("(unicode error) 'unicodeescape' codec can't decode bytes in position " ++
      toString first ++ "-" ++ toString last ++ ": " ++ reason)
  | badByteEscape position =>
    some ("(value error) invalid \\x escape at position " ++ toString position)
  | badForm reason => some reason
  | badIndent => some "unexpected indent"
  | badSyntax => some "invalid syntax"
  | missingComma => some "invalid syntax. Perhaps you forgot a comma?"
  | missingElse => some "expected 'else' after 'if' expression"
  | missingCall name =>
    some ("Missing parentheses in call to '" ++ name ++ "'. Did you mean " ++ name ++ "(...)?")
  | assignment => some "invalid syntax. Maybe you meant '==' or ':=' instead of '='?"
  | assignmentTo what =>
    some ("cannot assign to " ++ what ++ " here. Maybe you meant '==' instead of '='?")
  | namedAssignmentTo what => some ("cannot use assignment expressions with " ++ what)
  | callAssignment => some "expression cannot contain assignment, perhaps you meant \"==\"?"
  | fixedAssignment word => some ("cannot assign to " ++ word)
  | orderOfArguments false => some "positional argument follows keyword argument"
  | orderOfArguments true => some "positional argument follows keyword argument unpacking"
  | bareComprehension => some "Generator expression must be parenthesized"
  | starred => some "cannot use starred expression here"
  | starAlone => some "Invalid star expression"
  | unpackedLoop => some "iterable unpacking cannot be used in comprehension"
  | unpackedEntryLoop => some "dict unpacking cannot be used in dict comprehension"
  | bareTarget => some "did you forget parentheses around the comprehension target?"
  | doubleStarred => some "cannot use double starred expression here"
  | missingColon => some "':' expected after dictionary key"
  | missingValue => some "expression expected after dictionary key and ':'"
  | starredValue => some "cannot use a starred expression in a dictionary value"
  | noValue => none
  | nothing => some "malformed node or string: None"
  | unhashable kind => some ("unhashable type: '" ++ kind ++ "'")

end Scaffold.Console.Argument
