import Scaffold.CommandLine.Help

/-!
# Commands

A command takes one positional argument and some options.  The program itself takes options and the
name of a command.
-/

namespace Scaffold.CommandLine

/-- The name of the program. -/
def program : String := "scalanew"

/-- The version of the program. -/
def version : String := "0.1.0"

/-- What the program does. -/
def programSummary : String := "scalanew — create new Scala source files."

/-- The option that asks for help. -/
def helpOption : OptionSpec := ⟨"--help", none, none, "Show this message and exit."⟩

/-- The options of the program. -/
def programOptions : List OptionSpec :=
  [⟨"--version", none, none, "Show the version and exit."⟩,
    ⟨"--json", none, none, "Structured JSON output."⟩,
    ⟨"--quiet", some 'q', none, "Minimal output."⟩,
    ⟨"--verbose", some 'v', none, "Detailed output with timing spans."⟩,
    ⟨"--log-json", none, none, "Structured JSON log output to stderr."⟩,
    ⟨"--config", some 'c', some "TEXT", "Override config file path."⟩,
    ⟨"--no-lookup", none, none, "Skip the symbol lookup during validation."⟩,
    helpOption]

/-- What a command does. -/
inductive Task where
  | complete
  | create
  | initialPath
  | validate
  | bindings
  deriving DecidableEq, Repr

/-- A command. -/
structure Command where
  name : String
  task : Task
  /-- The name of the positional argument. -/
  argument : String
  /-- Whether the argument may be left out. -/
  optional : Bool
  ownOptions : List OptionSpec
  summary : String
  examples : String
  deriving Repr

namespace Command

/-- All options of a command. -/
def options (c : Command) : List OptionSpec :=
  c.ownOptions ++ [⟨"--examples", none, none, "Show usage examples."⟩, helpOption]

/-- The path by which a command is called. -/
def path (c : Command) : String := program ++ " " ++ c.name

/-- The usage of a command. -/
def usage (c : Command) : String :=
  let argument := if c.optional then "[" ++ c.argument ++ "]" else c.argument
  "Usage: " ++ c.path ++ " [OPTIONS] " ++ argument ++ "\n"

/-- The help on a command. -/
def help (c : Command) : String :=
  c.usage ++ "\n  " ++ c.summary ++ "\n\n" ++ optionHelp c.options

/-- The examples for a command. -/
def exampleText (c : Command) : String :=
  "Examples for '" ++ c.path ++ "':\n\n" ++ c.examples ++ "\n"

end Command

/-- The option that names a source folder. -/
def folderOption (purpose : String) : OptionSpec :=
  ⟨"--folder", none, some "DIRECTORY", purpose ++ " (default: first source root)."⟩

/-- The commands, in alphabetical order. -/
def commands : List Command :=
  [{ name := "complete"
     task := .complete
     argument := "PREFIX"
     optional := true
     ownOptions := [folderOption "Source folder to list packages from"]
     summary := "List packages starting with PREFIX (case-insensitive)."
     examples := "  scalanew complete\n  scalanew complete com.ex\n" ++
      "  scalanew -q complete COM --folder src/test/scala" },
   { name := "create"
     task := .create
     argument := "NAME"
     optional := false
     ownOptions := [folderOption "Source folder to create the file in",
      ⟨"--kind", none, some "TEXT",
        "Template kind: class, trait, object, case-class, app, or a custom one."⟩]
     summary := "Create a Scala source file for the type NAME."
     examples := "  scalanew create com.example.Foo\n" ++
      "  scalanew create com.example.Shape --kind trait\n" ++
      "  scalanew create com.example.Point --kind case-class\n" ++
      "  scalanew create Main --kind app --folder src/main/scala" },
   { name := "initial-path"
     task := .initialPath
     argument := "PATH"
     optional := false
     ownOptions := []
     summary := "Print the package prefix to pre-fill for a file or folder PATH."
     examples := "  scalanew initial-path src/main/scala/com/example\n" ++
      "  scalanew -q initial-path src/main/scala/com/example/Foo.scala" },
   { name := "validate"
     task := .validate
     argument := "NAME"
     optional := false
     ownOptions := [folderOption "Source folder the file would be created in"]
     summary := "Validate NAME as a fully-qualified Scala type name."
     examples := "  scalanew validate com.example.Foo\n" ++
      "  scalanew validate Foo --folder src/test/scala\n" ++
      "  scalanew --json validate 'a.b.\x60my type\x60'" },
   { name := "vars"
     task := .bindings
     argument := "NAME"
     optional := false
     ownOptions := []
     summary := "Show package_name and type_name for NAME."
     examples := "  scalanew vars com.example.Foo\n  scalanew --json vars Foo" }]

/-- The command of a name. -/
def command? (name : String) : Option Command := commands.find? (·.name == name)

/-- The usage of the program. -/
def programUsage : String := "Usage: " ++ program ++ " [OPTIONS] [COMMAND] [ARGS]...\n"

/-- The help on the program. -/
def programHelp : String :=
  let widest := (commands.map (·.name.length)).foldl max 0
  let rows := commands.map fun c => (c.name, shortened (helpWidth - 6 - widest) c.summary)
  programUsage ++ "\n  " ++ programSummary ++ "\n\n" ++ optionHelp programOptions ++
    "\nCommands:\n" ++ table rows

end Scaffold.CommandLine
