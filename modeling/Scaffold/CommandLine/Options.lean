import Scaffold.CommandLine.Similar
import Scaffold.Text.Quoted

/-!
# Options on a command line

An option has a long name and perhaps a short one of one letter, and some take a value.  A value
follows its option, or stands in the same argument: behind an equals sign for a long name, directly
behind the letter for a short one.  Several short names may share an argument.  Two dashes end the
options; everything else is a positional argument.
-/

namespace Scaffold.CommandLine

/-- An option: its long name with the dashes, its short name, the name of its value if it takes
    one, and what it is for. -/
structure OptionSpec where
  long : String
  short : Option Char
  value : Option String
  help : String
  deriving DecidableEq, Repr

/-- A mistake in the use of the command line. -/
inductive Misuse where
  | noSuchOption (name : String) (similar : List String)
  | valueMissing (option : String)
  | valueUnexpected (option : String)
  | argumentMissing (name : String)
  | argumentsLeft (args : List String)
  | isFile (option path : String)
  | noSuchCommand (name : String) (similar : List String)
  deriving DecidableEq, Repr

/-- The question whether one of the similar names was meant. -/
def didYouMean (similar : List String) : String :=
  let names := ", ".intercalate (similar.map Text.quote)
  match similar with
  | [] => ""
  | [_] => " Did you mean " ++ names ++ "?"
  | _ => " (Did you mean one of: " ++ names ++ "?)"

/-- The words for a mistake. -/
def Misuse.message : Misuse → String
  | .noSuchOption name similar =>
    "No such option " ++ Text.quote name ++ "." ++ didYouMean similar
  | .valueMissing option => "Option " ++ Text.quote option ++ " requires an argument."
  | .valueUnexpected option => "Option " ++ Text.quote option ++ " does not take a value."
  | .argumentMissing name => "Missing argument " ++ Text.quote name ++ "."
  | .argumentsLeft args =>
    "Got unexpected extra argument" ++ (if args.length = 1 then "" else "s") ++ " (" ++
      " ".intercalate args ++ ")"
  | .isFile option path =>
    "Invalid value for " ++ Text.quote option ++ ": Directory " ++ Text.quote path ++ " is a file."
  | .noSuchCommand name similar =>
    "No such command " ++ Text.quote name ++ "." ++ didYouMean similar

/-- Whether the usage is shown with a mistake. -/
def Misuse.showsUsage : Misuse → Bool
  | .valueMissing _ => false
  | .valueUnexpected _ => false
  | _ => true

/-- What was read from a command line: the options in their order, by their long names, with their
    values, and the positional arguments. -/
structure Arguments where
  given : List (String × String)
  positional : List String
  deriving DecidableEq, Repr

namespace Arguments

/-- Whether an option was given. -/
def has (a : Arguments) (long : String) : Bool := a.given.any (·.1 == long)

/-- The value of an option; the last one counts. -/
def value? (a : Arguments) (long : String) : Option String := a.given.reverse.lookup long

/-- The arguments with options in front. -/
def withGiven (more : List (String × String)) (a : Arguments) : Arguments :=
  { a with given := more ++ a.given }

/-- The arguments with a positional one in front. -/
def withPositional (arg : String) (a : Arguments) : Arguments :=
  { a with positional := arg :: a.positional }

end Arguments

/-- What an argument that holds options says: the options with their values, and the name under
    which the last one still needs a value. -/
structure Group where
  given : List (String × String)
  open? : Option (String × String)

/-- The options in a run of short names. -/
def readShort (options : List OptionSpec) : List Char → Except Misuse Group
  | [] => .ok ⟨[], none⟩
  | c :: cs =>
    match options.find? (·.short == some c) with
    | none => .error (.noSuchOption (String.ofList ['-', c]) [])
    | some o =>
      if o.value.isSome then
        if cs.isEmpty then .ok ⟨[], some (o.long, String.ofList ['-', c])⟩
        else .ok ⟨[(o.long, String.ofList cs)], none⟩
      else
        match readShort options cs with
        | .error why => .error why
        | .ok group => .ok { group with given := (o.long, "") :: group.given }

/-- The option of a long name, with the value behind an equals sign if there is one. -/
def readLong (o : OptionSpec) (inline : Option String) : Except Misuse Group :=
  match o.value, inline with
  | some _, some value => .ok ⟨[(o.long, value)], none⟩
  | some _, none => .ok ⟨[], some (o.long, o.long)⟩
  | none, some _ => .error (.valueUnexpected o.long)
  | none, none => .ok ⟨[(o.long, "")], none⟩

/-- The options in an argument. -/
def readGroup (options : List OptionSpec) (arg : List Char) : Except Misuse Group :=
  let name := String.ofList (arg.takeWhile (· != '='))
  let inline := match arg.dropWhile (· != '=') with
    | _ :: value => some (String.ofList value)
    | [] => none
  match options.find? (·.long == name) with
  | some o => readLong o inline
  | none =>
    if ['-', '-'].isPrefixOf arg then
      .error (.noSuchOption name (similarWords (options.map (·.long)) name))
    else readShort options arg.tail

/-- Whether an argument holds options. -/
def isGroup : List Char → Bool
  | '-' :: _ :: _ => true
  | _ => false

/-- Reads arguments; `mixed` says whether options may follow positional ones. -/
def readArguments (options : List OptionSpec) (mixed : Bool) :
    List String → Except Misuse Arguments
  | [] => .ok ⟨[], []⟩
  | arg :: args =>
    if arg = "--" then .ok ⟨[], args⟩
    else if isGroup arg.toList then
      match readGroup options arg.toList, args with
      | .error why, _ => .error why
      | .ok ⟨given, none⟩, args => (readArguments options mixed args).map (.withGiven given)
      | .ok ⟨_, some (_, shown)⟩, [] => .error (.valueMissing shown)
      | .ok ⟨given, some (long, _)⟩, value :: args =>
        (readArguments options mixed args).map (.withGiven (given ++ [(long, value)]))
    else if mixed then (readArguments options mixed args).map (.withPositional arg)
    else .ok ⟨[], arg :: args⟩

end Scaffold.CommandLine
