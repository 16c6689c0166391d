import Scaffold.Json.Shown

/-!
# Log records

A record says what happened, in which part of the program, and how much it matters.  It is written
as one line, for people or as JSON.
-/

namespace Scaffold.Log

/-- How much a record matters. -/
inductive Level where
  | debug
  | warning
  deriving DecidableEq, Repr

/-- The name of a level. -/
def Level.name : Level → String
  | debug => "debug"
  | warning => "warning"

/-- Whether records of a level are kept where `least` is the lowest level that is. -/
def Level.reaches (least : Level) : Level → Bool
  | debug => least = debug
  | warning => true

/-- The name of the thread that looks symbols up. -/
def workerName : String := "scalanew-symbols_0"

/-- A record. -/
structure Record where
  level : Level
  /-- The part of the program that wrote it. -/
  source : String
  event : String
  /-- Whether it was written while symbols were looked up on a thread of their own. -/
  onWorker : Bool
  details : Json.Entries
  deriving Repr

/-- A record about details of interest to developers. -/
def Record.debug (source event : String) : Record := ⟨.debug, source, event, false, []⟩

/-- A record about something that went wrong. -/
def Record.warning (source event : String) : Record := ⟨.warning, source, event, false, []⟩

/-- The entry that names the thread, if it is not the main one. -/
def Record.threadEntry (r : Record) : Json.Entries :=
  if r.onWorker then [("thread", .str workerName)] else []

/-- A text with spaces up to a width. -/
def padded (width : Nat) (text : String) : String :=
  text ++ String.ofList (List.replicate (width - text.length) ' ')

/-- The line of a record for people; `time` is when it was written. -/
def Record.plainLine (time : String) (r : Record) : String :=
  let entries := (r.details ++ r.threadEntry).mergeSort fun a b => a.1 ≤ b.1
  time ++ " [" ++ padded 9 r.level.name ++ "] " ++ padded 30 r.event ++ " [" ++ r.source ++ "]" ++
    String.join (entries.map fun (k, v) => " " ++ k ++ "=" ++ v.shown)

/-- The line of a record as JSON. -/
def Record.jsonLine (time : String) (r : Record) : String :=
  Json.Layout.spaced.compact (.map (r.details ++ [("event", .str r.event),
    ("level", .str r.level.name), ("logger", .str r.source)] ++ r.threadEntry ++
    [("timestamp", .str time)]))

/-- How log records are written: which ones, and in which form. -/
structure Mode where
  least : Level
  json : Bool
  deriving Repr

/-- The text of the records that a mode lets through, one a line. -/
def Mode.text (mode : Mode) (time : String) (records : List Record) : String :=
  String.join ((records.filter fun r => mode.least.reaches r.level).map fun r =>
    (if mode.json then r.jsonLine time else r.plainLine time) ++ "\n")

end Scaffold.Log
