import Scaffold.Telemetry.Tracer

/-!
# Traced jobs

A job opens spans, makes notes on them and may fail inside one.  A traced run of a job collects the
spans that it opens under a span of its own and reports them with the result.  The job runs all the
same where no spans are opened.
-/

namespace Scaffold.Telemetry

/-- A step of a job: a span with its notes and the steps inside it, after which it may fail. -/
inductive Step where
  | span (name : String) (notes : List (String × Json.Value)) (inner : List Step)
      (failure : Option String)
  deriving Inhabited

/-- A job: its steps, whether a failed step is passed over, whether its result is plain text,
    and else the meta data of the result. -/
structure Job where
  steps : List Step
  tolerant : Bool
  plain : Bool
  metaData : Option Json.Value

/-- What a job's result says: plain text, or a result with its meta data. -/
inductive Outcome where
  | plain
  | metaData (value : Json.Value)

/-- An entry of the record of a run: a span that was entered, and whether it was real, or the
    outcome of an inner job. -/
inductive Sight where
  | entered (name : String) (real : Bool)
  | inner (outcome : Outcome)

/-- What a run leaves behind: what was seen, how it ended, and the tracer. -/
structure Trail (α : Type) where
  seen : List Sight
  ending : Except String α
  tracer : Tracer

/-- The tracer with several notes. -/
def noteAll (t : Tracer) (notes : List (String × Json.Value)) : Tracer :=
  notes.foldl (fun t pair => t.note pair.1 pair.2) t

mutual

/-- Runs a step. -/
def Step.run (t : Tracer) : Step → Trail Unit
  | .span name notes inner failure =>
    let trail := runSteps (noteAll t.enter notes) inner
    let ending := match trail.ending, failure with
      | .ok (), some text => .error text
      | ending, _ => ending
    ⟨.entered name t.isTracing :: trail.seen, ending, t.leave name trail.tracer⟩

/-- Runs steps up to the first failure. -/
def runSteps (t : Tracer) : List Step → Trail Unit
  | [] => ⟨[], .ok (), t⟩
  | step :: steps =>
    let first := step.run t
    match first.ending with
    | .error text => ⟨first.seen, .error text, first.tracer⟩
    | .ok () =>
      let rest := runSteps first.tracer steps
      { rest with seen := first.seen ++ rest.seen }

end

/-- Runs the steps of a job; a tolerant one goes on behind a step that fails. -/
def runTop (tolerant : Bool) (t : Tracer) : List Step → Trail Unit
  | [] => ⟨[], .ok (), t⟩
  | step :: steps =>
    let first := step.run t
    match first.ending, tolerant with
    | .error text, false => ⟨first.seen, .error text, first.tracer⟩
    | _, _ =>
      let rest := runTop tolerant first.tracer steps
      { rest with seen := first.seen ++ rest.seen }

/-- The meta data of a result with the report on a span added. -/
def withReport (entries : Json.Entries) (span : Span) : Json.Entries :=
  entries.insert "telemetry" span.report

/-- The outcome of a job; `span` is the one of its run, if it was traced. -/
def Job.outcome (job : Job) (span : Option Span) : Outcome :=
  if job.plain then .plain
  else
    match span with
    | some span =>
      .metaData (.map (withReport ((job.metaData.map Json.Value.entries).getD []) span))
    | none => .metaData (job.metaData.getD .null)

/-- The name of the span of a traced run of a job. -/
def jobName : String := "job"

/-- Ends the run of a job that was started when the tracer was `t`. -/
def Job.finish (job : Job) (traced : Bool) (t : Tracer) (trail : Trail Unit) : Trail Outcome :=
  let (span, tracer) := if traced then t.finish jobName trail.tracer else (none, trail.tracer)
  ⟨trail.seen, trail.ending.map fun _ => job.outcome span, tracer⟩

/-- Runs a job, which in turn makes a traced run of the jobs in `inner`, one inside the other. -/
def Job.run (t : Tracer) (traced : Bool) (job : Job) : (inner : List Job) → Trail Outcome
  | [] => job.finish traced t (runTop job.tolerant (if traced then t.begin else t) job.steps)
  | next :: rest =>
    let trail := runTop job.tolerant (if traced then t.begin else t) job.steps
    match trail.ending with
    | .error _ => job.finish traced t trail
    | .ok () =>
      let called := next.run trail.tracer true rest
      let seen := match called.ending with
        | .ok outcome => [Sight.inner outcome]
        | .error _ => []
      job.finish traced t
        ⟨trail.seen ++ called.seen ++ seen, called.ending.map fun _ => (), called.tracer⟩

end Scaffold.Telemetry
