import Scaffold.Config.Settings
import Scaffold.Log.Record
import Scaffold.Plugin.Registry
import Scaffold.Result.Basic
import Scaffold.Telemetry.Tracer
import Scaffold.Template.Store

/-!
# Actions

An action works on the files and on a state of its own, and may open spans, write log records and
call plugins on the way.  A fault ends it, but what it did before stays done.
-/

namespace Scaffold.Project

/-- What actions share: the files, the open spans, the log so far, and the calls of plugins so
    far. -/
structure World where
  disk : Files.Disk
  tracer : Telemetry.Tracer
  log : List Log.Record
  calls : List Plugin.Call
  deriving Repr, Inhabited

/-- Why an action ended early. -/
inductive Fault where
  | files (fault : Files.Fault)
  | template (fault : Template.Fault)
  | refused (why : Plugin.Refusal)
  /-- Symbols cannot be looked up without a thread. -/
  | noWorkers
  deriving Repr

/-- An action on a world and a state `σ` with a value of type `α`. -/
def Action (σ α : Type) : Type := World → σ → Except Fault α × World × σ

namespace Action

variable {σ α β : Type}

/-- The action that does nothing. -/
def done (a : α) : Action σ α := fun w s => (.ok a, w, s)

/-- One action after another; a fault of the first is the end. -/
def andThen (x : Action σ α) (f : α → Action σ β) : Action σ β := fun w s =>
  match x w s with
  | (.ok a, w, s) => f a w s
  | (.error fault, w, s) => (.error fault, w, s)

instance : Monad (Action σ) where
  pure := done
  bind := andThen

@[simp] theorem pure_apply (a : α) (w : World) (s : σ) :
    (pure a : Action σ α) w s = (.ok a, w, s) := rfl

theorem bind_apply (x : Action σ α) (f : α → Action σ β) (w : World) (s : σ) :
    (x >>= f) w s = match x w s with
      | (.ok a, w, s) => f a w s
      | (.error fault, w, s) => (.error fault, w, s) := rfl

/-- The action that ends with a fault. -/
def fail (fault : Fault) : Action σ α := fun w s => (.error fault, w, s)

/-- The files as they are now. -/
def disk : Action σ Files.Disk := fun w s => (.ok w.disk, w, s)

/-- The state as it is now. -/
def get : Action σ σ := fun w s => (.ok s, w, s)

/-- Changes the state. -/
def set (s : σ) : Action σ Unit := fun w _ => (.ok (), w, s)

/-- Changes the files in a way that may fail. -/
def change (f : Files.Disk → Except Files.Fault α × Files.Disk) :
    Action σ (Except Files.Fault α) := fun w s =>
  let (result, disk) := f w.disk
  (.ok result, { w with disk := disk }, s)

/-- The value of a computation on the files; a failed one is a fault. -/
def ofFiles (result : Except Files.Fault α) : Action σ α := fun w s =>
  (result.mapError .files, w, s)

/-- Writes log records. -/
def log (records : List Log.Record) : Action σ Unit := fun w s =>
  (.ok (), { w with log := w.log ++ records }, s)

/-- Keeps calls of plugins. -/
def keep (calls : List Plugin.Call) : Action σ Unit := fun w s =>
  (.ok (), { w with calls := w.calls ++ calls }, s)

/-- Puts a note into the open span. -/
def note (key : String) (value : Json.Value) : Action σ Unit := fun w s =>
  (.ok (), { w with tracer := w.tracer.note key value }, s)

/-- Runs an action inside a span, which is closed however the action ends. -/
def spanning (name : String) (x : Action σ α) : Action σ α := fun w s =>
  match x { w with tracer := w.tracer.enter } s with
  | (result, w', s') => (result, { w' with tracer := w.tracer.leave name w'.tracer }, s')

/-- The part of the program that writes the records of traced runs. -/
def traceSource : String := "scalanew.telemetry"

/-- The record of a traced run; `span` is missing where the run failed. -/
def traceRecord (name : String) (span : Option Telemetry.Span) : Log.Record :=
  let details : Json.Entries := match span with
    | some span => [("span_name", .str name), ("duration_ms", .float (span.milliseconds.roundTo 2)),
        ("ok", .bool true), ("children", .int span.children.length)]
    | none => [("span_name", .str name), ("ok", .bool false)]
  ⟨.debug, traceSource, "span.complete", false, details⟩

/-- Makes a traced run of an action, whose result then carries the report. -/
def traced (name : String) (x : Action σ Result) : Action σ Result := fun w s =>
  match x { w with tracer := w.tracer.begin } s with
  | (result, w', s') =>
    match w.tracer.finish name w'.tracer, result with
    | (none, tracer), result => (result, { w' with tracer := tracer }, s')
    | (some span, tracer), .ok r =>
      (.ok (r.withSpan span),
        { w' with tracer := tracer, log := w'.log ++ [traceRecord name (some span)] }, s')
    | (some _, tracer), .error fault =>
      (.error fault, { w' with tracer := tracer, log := w'.log ++ [traceRecord name none] }, s')

end Action

end Scaffold.Project
