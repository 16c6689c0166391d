import Scaffold.Telemetry.Span

/-!
# Tracers

A tracer collects the spans that a run opens.  It has at most one span open at a time to put notes
and further spans into; opening a span inside it sets it aside, closing that span takes it up again.
Spans are opened only while the tracer is switched on, and only inside a traced run.
-/

namespace Scaffold.Telemetry

/-- What an open span has collected: its notes and the spans closed inside it. -/
structure Frame where
  notes : Json.Entries
  children : List Span
  deriving Repr

/-- A tracer: whether it is switched on, and what the open span has collected. -/
structure Tracer where
  enabled : Bool
  current : Option Frame
  deriving Repr, Inhabited

namespace Tracer

/-- Nothing collected yet. -/
def nothing : Frame := ⟨[], []⟩

/-- The tracer that is switched off. -/
def off : Tracer := ⟨false, none⟩

/-- Whether a span opened now is real. -/
def isTracing (t : Tracer) : Bool := t.enabled && t.current.isSome

/-- Opens a span, if spans are opened now. -/
def enter (t : Tracer) : Tracer := if t.isTracing then { t with current := some nothing } else t

/-- Puts a note into the open span, if it is real. -/
def note (t : Tracer) (key : String) (value : Json.Value) : Tracer :=
  if t.isTracing then
    { t with current := t.current.map fun f => { f with notes := f.notes.insert key value } }
  else t

/-- Closes the span that was opened when the tracer was `outer`. -/
def leave (outer : Tracer) (name : String) (inner : Tracer) : Tracer :=
  if outer.isTracing then
    let closed := inner.current.getD nothing
    { inner with current := outer.current.map fun f =>
        { f with children := f.children ++ [.instant name closed.notes closed.children] } }
  else inner

/-- Starts a traced run. -/
def begin (t : Tracer) : Tracer := if t.enabled then { t with current := some nothing } else t

/-- Ends the traced run that was started when the tracer was `outer`, with the span that it
    filled if it was traced. -/
def finish (outer : Tracer) (name : String) (inner : Tracer) : Option Span × Tracer :=
  if outer.enabled then
    let closed := inner.current.getD nothing
    (some (.instant name closed.notes closed.children), { inner with current := outer.current })
  else (none, inner)

end Tracer

end Scaffold.Telemetry
