import Scaffold.Proofs.Telemetry.Program

/-!
# Reports on traced calls

The report on a traced call is about exactly the spans that its program entered in it, and the call
leaves the tracer as it was, whether it returns or fails.  The run of a job is such a call.
-/

namespace Scaffold.Telemetry

/-- The report on the run among the meta data of an outcome. -/
def Outcome.report? : Outcome → Option Json.Value
  | .plain => none
  | .metaData value => value.get? "telemetry"

section Jobs

variable {t : Tracer}

/-- What a job returns. -/
def Job.reply (job : Job) : Reply := ⟨job.plain, job.metaData⟩

mutual

/-- A step as a command. -/
def Step.command : Step → Command
  | .span name notes inner failure =>
    .span name (notes.map (fun pair => .note pair.1 pair.2) ++
      (commandsOf inner ++ (failure.map Command.fail).toList))

/-- Steps as commands. -/
def commandsOf : List Step → List Command
  | [] => []
  | step :: steps => step.command :: commandsOf steps

end

/-- A step of a job as a command; a tolerant job guards it. -/
def Step.topCommand (tolerant : Bool) (step : Step) : Command :=
  if tolerant then .guarded [step.command] else step.command

/-- The commands of a job. -/
def Job.ownCommands (job : Job) : List Command := job.steps.map (·.topCommand job.tolerant)

/-- The commands of a job that calls the jobs in `inner`, one inside the other. -/
def Job.commands (job : Job) : (inner : List Job) → List Command
  | [] => job.ownCommands
  | next :: rest => job.ownCommands ++ [.call jobName next.reply (next.commands rest)]

theorem Trail.andThen_assoc (first : Trail Unit) (second third : Tracer → Trail Unit) :
    (first.andThen second).andThen third = first.andThen fun t => (second t).andThen third := by
  rcases first with ⟨seen, text | done, tracer⟩
  · rfl
  · simp only [Trail.andThen]
    cases (second tracer).ending <;> simp

theorem Trail.andThen_nothing (trail : Trail Unit) :
    (trail.andThen fun t => ⟨[], .ok (), t⟩) = trail := by
  rcases trail with ⟨seen, text | done, tracer⟩ <;> simp [Trail.andThen]

theorem runAll_append (t : Tracer) (before after : List Command) :
    runAll t (before ++ after) = (runAll t before).andThen fun t => runAll t after := by
  induction before generalizing t with
  | nil => simp [runAll, Trail.andThen]
  | cons command before ih =>
    rw [List.cons_append, runAll, runAll, Trail.andThen_assoc]
    simp only [ih]

theorem runAll_singleton (t : Tracer) (command : Command) :
    runAll t [command] = command.run t := by
  rw [runAll]
  exact (command.run t).andThen_nothing

theorem runAll_notes (t : Tracer) (notes : List (String × Json.Value)) :
    runAll t (notes.map fun pair => .note pair.1 pair.2) = ⟨[], .ok (), noteAll t notes⟩ := by
  induction notes generalizing t with
  | nil => rfl
  | cons pair notes ih =>
    rw [List.map_cons, runAll, Command.run, Trail.andThen]
    simp only [ih]
    rfl

mutual

/-- A step runs as its command. -/
theorem Step.run_command (t : Tracer) : ∀ step : Step, step.command.run t = step.run t
  | .span name notes inner failure => by
    have body : runAll t.enter (notes.map (fun pair => .note pair.1 pair.2) ++
        (commandsOf inner ++ (failure.map Command.fail).toList)) =
        (runSteps (noteAll t.enter notes) inner).andThen fun t =>
          runAll t (failure.map Command.fail).toList := by
      rw [runAll_append, runAll_notes, ← runAll_commandsOf, ← runAll_append]
      rfl
    rw [Step.command, Command.run, body]
    unfold Step.run
    rcases runSteps (noteAll t.enter notes) inner with ⟨seen, text | done, tracer⟩
    · rfl
    · cases failure <;> simp [Trail.andThen, runAll, Command.run]

theorem runAll_commandsOf (t : Tracer) :
    ∀ steps : List Step, runAll t (commandsOf steps) = runSteps t steps
  | [] => rfl
  | step :: steps => by
    rw [commandsOf, runAll, runSteps, Step.run_command t step, Trail.andThen]
    rcases step.run t with ⟨seen, text | done, tracer⟩
    · rfl
    · simp only [runAll_commandsOf tracer steps]

end

/-- A tolerant job goes on behind a step that fails. -/
theorem runTop_cons (tolerant : Bool) (t : Tracer) (step : Step) (steps : List Step) :
    runTop tolerant t (step :: steps) =
      ((step.topCommand tolerant).run t).andThen fun t => runTop tolerant t steps := by
  cases tolerant with
  | true =>
    have guarded : (step.topCommand true).run t = { step.run t with ending := .ok () } := by
      rw [Step.topCommand, if_pos rfl, Command.run, runAll_singleton, Step.run_command]
    rw [guarded, runTop.eq_def true t (step :: steps), Trail.andThen]
    dsimp only
    rcases step.run t with ⟨seen, text | done, tracer⟩ <;> rfl
  | false =>
    have bare : (step.topCommand false).run t = step.run t := by
      rw [Step.topCommand, if_neg Bool.false_ne_true, Step.run_command]
    rw [bare, runTop.eq_def false t (step :: steps), Trail.andThen]
    dsimp only
    rcases step.run t with ⟨seen, text | done, tracer⟩ <;> rfl

/-- The steps of a job run as its commands. -/
theorem runAll_ownCommands (t : Tracer) (job : Job) :
    runAll t job.ownCommands = runTop job.tolerant t job.steps := by
  rw [Job.ownCommands]
  induction job.steps generalizing t with
  | nil => rfl
  | cons step steps ih =>
    rw [List.map_cons, runAll, runTop_cons]
    simp only [ih]

theorem Command.run_call (t : Tracer) (name : String) (reply : Reply) (body : List Command) :
    Command.run t (.call name reply body) = (runCall t name reply body).asInner := by
  rw [Command.run, runCall]

theorem Job.finish_eq (t : Tracer) (job : Job) (trail : Trail Unit) :
    job.finish true t trail = endCall t jobName job.reply trail := rfl

/-- A traced run of a job is a call of its commands. -/
theorem Job.run_eq_runCall (t : Tracer) (job : Job) (inner : List Job) :
    job.run t true inner = runCall t jobName job.reply (job.commands inner) := by
  induction inner generalizing t job with
  | nil => rw [Job.run, Job.commands, runCall, runAll_ownCommands, Job.finish_eq, if_pos rfl]
  | cons next rest ih =>
    rw [Job.run, Job.commands, runCall, runAll_append, runAll_ownCommands, if_pos rfl]
    rcases runTop job.tolerant t.begin job.steps with ⟨seen, text | done, tracer⟩
    · rfl
    · simp only [Trail.andThen, runAll_singleton, Job.finish_eq, ih, Command.run_call]
      rw [List.append_assoc]
      rfl

end Jobs

/-- The report on a traced call is among the meta data of its outcome, whatever else they hold. -/
theorem Reply.report?_outcome (reply : Reply) (span : Span) (structured : reply.plain = false) :
    (reply.outcome (some span)).report? = some span.report := by
  rw [Reply.outcome, Job.outcome, structured, if_neg Bool.false_ne_true]
  exact Json.Entries.get?_insert_self "telemetry" span.report _

/-- A program with a failure passed over, a key noted twice and a call inside a span. -/
def branchingBody : List Command :=
  [.note "round" (.bool false),
    .span "outer" [.note "depth" .null, .call "helper" ⟨false, none⟩ [.span "hidden" []],
      .span "inner" []],
    .note "round" (.bool true),
    .guarded [.span "broken" [.fail "no such file", .span "skipped" []], .span "skipped" []],
    .span "last" []]

end Scaffold.Telemetry
