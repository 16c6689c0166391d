import Scaffold.CommandLine.Command
import Scaffold.Project.Session
import Scaffold.Result.Render

/-!
# Running a command line

A run reads the options of the program, then the settings, then the command with its options, and
makes the operation that the command stands for.  Results go to the standard output, failures, log
records and warnings to the standard error output.
-/

namespace Scaffold.CommandLine

open Files Project

/-- A fault that ends a run without words of its own. -/
inductive Escape where
  | config (fault : Config.Fault)
  | project (fault : Project.Fault)
  | render (fault : RenderFault)
  deriving Repr

/-- The words for a fault that has none in a result. -/
def projectMessage : Project.Fault → String
  | .files fault => fault.message
  | .template (.unreadable fault) => fault.message
  | .template .notFound => "a template is missing"
  | .template .malformed => "a template is malformed"
  | .template .endless => "templates include each other without end"
  | .refused _ => "a plugin cannot be registered"
  | .noWorkers => "max_workers must be greater than 0"

/-- The words for an issue: where it is, and what is wrong. -/
def issueMessage (issue : Schema.Issue) : String :=
  let keys := issue.place.map fun key => match key with
    | .field name => name
    | .index n => toString n
  ".".intercalate keys ++ ": " ++ issue.defect.message

/-- The words for a fault that ends a run. -/
def Escape.message : Escape → String
  | .config (.invalid issues) => "\n".intercalate (issues.map issueMessage)
  | .config fault => fault.message
  | .project fault => projectMessage fault
  | .render fault => fault.message?.getD "the arguments of an action are no values"

/-- What a run leaves behind for the caller. -/
structure Output where
  exit : Nat
  stdout : String
  stderr : String
  escape : Option Escape
  deriving Repr

/-- A run that succeeds. -/
def Output.success (stdout : String) : Output := ⟨0, stdout, "", none⟩

/-- A run that fails with words. -/
def Output.failure (exit : Nat) (stderr : String) : Output := ⟨exit, "", stderr, none⟩

/-- A run that a fault ended. -/
def Output.escaped (fault : Escape) : Output := ⟨1, "", "", some fault⟩

/-- The output with log records in front. -/
def Output.withLog (text : String) (o : Output) : Output := { o with stderr := text ++ o.stderr }

/-- Whether a character stands between the bracket and the letter of a colour sequence. -/
def isColourPart (c : Char) : Bool := c.isDigit || c == ';' || c == '?'

/-- The text behind a sequence that colours terminals: an escape character and a bracket, numbers,
    and a letter. -/
def behindColour? : List Char → Option (List Char)
  | '\x1b' :: '[' :: rest =>
    match rest.dropWhile isColourPart with
    | c :: behind => if c.isAlpha then some behind else none
    | [] => none
  | _ => none

theorem length_behindColour? {cs rest : List Char} (h : behindColour? cs = some rest) :
    rest.length < cs.length := by
  unfold behindColour? at h
  split at h
  · rename_i tail
    have hle := (List.dropWhile_suffix isColourPart (l := tail)).length_le
    split at h
    · rename_i c behind heq
      rw [heq] at hle
      split at h
      · cases h
        simp only [List.length_cons] at hle ⊢
        omega
      · simp at h
    · simp at h
  · simp at h

/-- The text without sequences that colour terminals. -/
def withoutColours (cs : List Char) : List Char :=
  match _h : behindColour? cs with
  | some rest => withoutColours rest
  | none =>
    match cs with
    | [] => []
    | c :: cs => c :: withoutColours cs
  termination_by cs.length
  decreasing_by
    · exact length_behindColour? _h
    · simp

/-- A text as a line of output. -/
def echo (text : String) : String := String.ofList (withoutColours text.toList) ++ "\n"

/-- The end of a run by a mistake; `usage` and `path` are those of what was called. -/
def misuse (usage path : String) (why : Misuse) : Output :=
  let hint := usage ++ "Try '" ++ path ++ " --help' for help.\n\n"
  .failure 2 ((if why.showsUsage then hint else "") ++ echo ("Error: " ++ why.message))

/-- The end of a run by a mistake in the use of the program. -/
def programMisuse (why : Misuse) : Output := misuse programUsage program why

/-- The first option that ends a run before anything is done, and its text. -/
def firstText (texts : List (String × String)) (a : Arguments) : Option String :=
  (a.given.find? fun o => (texts.lookup o.1).isSome).bind fun o => texts.lookup o.1

/-- The options of the program that end a run at once. -/
def programTexts : List (String × String) :=
  [("--help", programHelp), ("--version", program ++ ", version " ++ version ++ "\n")]

/-- The flags of a run as settings. -/
def flagsOf (a : Arguments) : Json.Entries :=
  [("json_output", .bool (a.has "--json")), ("quiet", .bool (a.has "--quiet")),
    ("verbose", .bool (a.has "--verbose")), ("log_json", .bool (a.has "--log-json")),
    ("no_lookup", .bool (a.has "--no-lookup"))]

/-- The call for settings that a run makes. -/
def callOf (a : Arguments) : Config.Call :=
  ⟨none, ((a.value? "--config").filter (· ≠ "")).map .ofString, flagsOf a⟩

/-- What a command is to do. -/
structure Order where
  task : Task
  argument : String
  folder : Option Path
  kind : Option String

/-- The action for an order. -/
def Order.action (o : Order) : Action Workspace Result :=
  match o.task with
  | .complete => completionEntries o.folder o.argument
  | .create => createFile o.folder o.kind o.argument
  | .initialPath => initialPath (.ofString o.argument)
  | .validate => validateName o.folder o.argument
  | .bindings => templateVariables o.argument

/-- Whether a text is no path at all. -/
def isNoPath (text : String) : Bool := text.toList.contains '\x00'

/-- The fault that a text is no path. -/
def noPath (text : String) : Output :=
  .escaped (.project (.files (.obstacle .embeddedNull (.ofString text))))

/-- The order in the arguments of a command, or how the run ends without one.  The folder is
    looked at before the positional argument. -/
def orderOf (disk : Disk) (c : Command) (a : Arguments) : Except Output Order :=
  let wrong (why : Misuse) : Except Output Order := .error (misuse c.usage c.path why)
  let folder := a.value? "--folder"
  if folder.any isNoPath then .error (noPath (folder.getD ""))
  else if folder.any fun f => disk.hasFile (.ofString f) then
    wrong (.isFile "--folder" (folder.getD ""))
  else
    let order (argument : String) : Order :=
      ⟨c.task, argument, folder.map .ofString, a.value? "--kind"⟩
    match a.positional with
    | [] => if c.optional then .ok (order "") else wrong (.argumentMissing c.argument)
    | argument :: rest =>
      if c.task = .initialPath ∧ isNoPath argument then .error (noPath argument)
      else if rest.isEmpty then .ok (order argument)
      else wrong (.argumentsLeft rest)

/-- How the settings show results. -/
def outputMode (settings : Config.Settings) : OutputMode :=
  ⟨settings.jsonOutput, settings.quiet, settings.verbose⟩

/-- How the settings write log records. -/
def logMode (settings : Config.Settings) : Log.Mode :=
  ⟨if settings.verbose then .debug else .warning, settings.logJson⟩

/-- The output that shows a result. -/
def present (settings : Config.Settings) (r : Result) : Output :=
  match (outputMode settings).format r with
  | .error fault => .escaped (.render fault)
  | .ok text =>
    if r.ok then
      let warnings := if settings.jsonOutput then [] else r.warnings
      ⟨0, echo text, String.join (warnings.map fun w => echo ("WARNING: " ++ w)), none⟩
    else .failure 1 (echo text)

/-- Carries out an order; `time` is when log records are written. -/
def carryOut (time : String) (settings : Config.Settings) (order : Order) (w : World) :
    Output × World :=
  let (result, w, _) := order.action { w with log := [] } (.ofSettings settings false)
  let output := match result with
    | .ok r => present settings r
    | .error fault => .escaped (.project fault)
  (output.withLog ((logMode settings).text time w.log), { w with log := [] })

/-- Runs a command with its arguments. -/
def runCommand (time : String) (settings : Config.Settings) (c : Command) (args : List String)
    (w : World) : Output × World :=
  match readArguments c.options true args with
  | .error why => (misuse c.usage c.path why, w)
  | .ok a =>
    match firstText [("--help", c.help), ("--examples", c.exampleText)] a with
    | some text => (.success text, w)
    | none =>
      match orderOf w.disk c a with
      | .error output => (output, w)
      | .ok order => carryOut time settings order w

/-- The command that the positional arguments name, if they name any, or how the run ends.  What
    is no command is taken for an option if it looks like one. -/
def commandOf (positional : List String) : Except Output (Option Command) :=
  match positional with
  | [] => .ok none
  | name :: _ =>
    match command? name with
    | some c => .ok (some c)
    | none =>
      match readArguments programOptions false positional with
      | .error why => .error (programMisuse why)
      | .ok a =>
        match firstText programTexts a with
        | some text => .error (.success text)
        | none =>
          let similar := similarWords (commands.map (·.name)) name
          .error (programMisuse (.noSuchCommand name similar))

/-- The output for settings that cannot be had. -/
def settingsFailure : Config.Fault → Output
  | .invalidToml path message =>
    .failure 1 (echo ("Error: " ++ (Config.Fault.invalidToml path message).message))
  | fault => .escaped (.config fault)

/-- Runs a command line. -/
def run (time : String) (environment : List (String × String)) (args : List String) (w : World) :
    Output × World :=
  match readArguments programOptions false args with
  | .error why => (programMisuse why, w)
  | .ok a =>
    match firstText programTexts a with
    | some text => (.success text, w)
    | none =>
      match commandOf a.positional with
      | .error output => (output, w)
      | .ok command =>
        match Config.load w.disk environment (callOf a) with
        | .error fault => (settingsFailure fault, w)
        | .ok settings =>
          let w := { w with tracer :=
            { w.tracer with enabled := w.tracer.enabled || settings.verbose } }
          match command with
          | none => (.success programHelp, w)
          | some c => runCommand time settings c a.positional.tail w

end Scaffold.CommandLine
