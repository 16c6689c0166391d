import Scaffold.Json.Value
import Scaffold.Number.Style

/-!
# Spans

A span is a named stretch of time with notes and the spans inside it.  Times are seconds; reports
give milliseconds with two decimal places.
-/

namespace Scaffold.Telemetry

/-- A span of time; one without an end is still open. -/
inductive Span where
  | mk (name : String) (start : Binary64) (stop : Option Binary64) (notes : Json.Entries)
      (children : List Span)
  deriving Repr, Inhabited

namespace Span

/-- The time zero. -/
def zeroTime : Binary64 := .zero false

/-- A span that took no time. -/
def instant (name : String) (notes : Json.Entries) (children : List Span) : Span :=
  .mk name zeroTime (some zeroTime) notes children

/-- The name of a span. -/
def name : Span → String
  | mk name .. => name

/-- The spans directly inside a span. -/
def children : Span → List Span
  | mk _ _ _ _ children => children

/-- The length of a span in milliseconds; an open span has none yet. -/
def milliseconds : Span → Binary64
  | mk _ start (some stop) _ _ => (stop.sub start).mul (.ofInt 1000)
  | mk _ _ none _ _ => zeroTime

mutual

/-- The report on a span; empty parts are left out. -/
def report : Span → Json.Value
  | mk name start stop notes children =>
    .map ([("name", .str name),
        ("duration_ms", .float ((mk name start stop notes []).milliseconds.roundTo 2))] ++
      (if notes.isEmpty then [] else [("annotations", .map notes)]) ++
      (match children with
        | [] => []
        | child :: more => [("children", .list (child.report :: reports more))]))

/-- The reports on several spans. -/
def reports : List Span → List Json.Value
  | [] => []
  | span :: more => span.report :: reports more

end

end Span

end Scaffold.Telemetry
