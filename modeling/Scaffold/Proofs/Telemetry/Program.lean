import Mathlib.Data.List.Induction
import Scaffold.Telemetry.Job

/-!
# Programs that are traced

A program opens spans, makes notes on the open one, fails, passes over failures and makes traced
calls, each of them anywhere.  Its account says, without any tracer, which notes it makes and which
spans it enters; `runAll_keeps` says that a tracer collects exactly that.  Jobs are such programs.
-/

namespace Scaffold.Telemetry

/-- What a traced function returns: plain text, or a result with its meta data. -/
structure Reply where
  plain : Bool
  metaData : Option Json.Value

/-- The outcome of a call; `span` is the one of its run, if it was traced. -/
def Reply.outcome (reply : Reply) (span : Option Span) : Outcome :=
  Job.outcome ⟨[], false, reply.plain, reply.metaData⟩ span

/-- A command of a program. -/
inductive Command where
  /-- Makes a note on the open span. -/
  | note (key : String) (value : Json.Value)
  | fail (text : String)
  /-- Runs commands inside a span. -/
  | span (name : String) (body : List Command)
  /-- Runs commands and passes over their failure. -/
  | guarded (body : List Command)
  /-- Calls a traced function. -/
  | call (name : String) (reply : Reply) (body : List Command)

/-- Ends a traced call that was made when the tracer was `t`. -/
def endCall (t : Tracer) (name : String) (reply : Reply) (trail : Trail Unit) : Trail Outcome :=
  let (span, tracer) := t.finish name trail.tracer
  ⟨trail.seen, trail.ending.map fun _ => reply.outcome span, tracer⟩

/-- What the caller sees of a call: everything, and its outcome if it returned one. -/
def Trail.asInner (called : Trail Outcome) : Trail Unit :=
  let outcomes := match called.ending with
    | .ok outcome => [Sight.inner outcome]
    | .error _ => []
  ⟨called.seen ++ outcomes, called.ending.map fun _ => (), called.tracer⟩

/-- One run after another, unless the first one fails. -/
def Trail.andThen (first : Trail Unit) (rest : Tracer → Trail Unit) : Trail Unit :=
  match first.ending with
  | .error text => ⟨first.seen, .error text, first.tracer⟩
  | .ok () => { rest first.tracer with seen := first.seen ++ (rest first.tracer).seen }

mutual

/-- Runs a command. -/
def Command.run (t : Tracer) : Command → Trail Unit
  | .note key value => ⟨[], .ok (), t.note key value⟩
  | .fail text => ⟨[], .error text, t⟩
  | .span name body =>
    let trail := runAll t.enter body
    ⟨.entered name t.isTracing :: trail.seen, trail.ending, t.leave name trail.tracer⟩
  | .guarded body => { runAll t body with ending := .ok () }
  | .call name reply body => (endCall t name reply (runAll t.begin body)).asInner

/-- Runs commands up to the first failure. -/
def runAll (t : Tracer) : List Command → Trail Unit
  | [] => ⟨[], .ok (), t⟩
  | command :: commands => (command.run t).andThen fun t => runAll t commands

end

/-- Calls a traced function. -/
def runCall (t : Tracer) (name : String) (reply : Reply) (body : List Command) : Trail Outcome :=
  endCall t name reply (runAll t.begin body)

/-- What a program does in the span that is open when it starts: the notes that it makes on it, the
    spans that it enters directly in it, and the failure that it ends with. -/
structure Account where
  notes : List (String × Json.Value)
  spans : List Span
  failure : Option String

namespace Account

/-- The account of a program that does nothing. -/
def nothing : Account := ⟨[], [], none⟩

/-- One program after another, unless the first one fails. -/
def andThen (first rest : Account) : Account :=
  match first.failure with
  | some _ => first
  | none => ⟨first.notes ++ rest.notes, first.spans ++ rest.spans, rest.failure⟩

/-- The value of the last note under a key. -/
def lastValue (notes : List (String × Json.Value)) (key : String) : Json.Value :=
  (notes.reverse.lookup key).getD .null

/-- Every key that is noted, in the order of the first notes, with the value of its last one. -/
def lastValues (notes : List (String × Json.Value)) : Json.Entries :=
  (notes.map (·.1)).eraseDups.map fun key => (key, lastValue notes key)

/-- The span that a program fills. -/
def filled (account : Account) (name : String) : Span :=
  .instant name (lastValues account.notes) account.spans

/-- How a program ends. -/
def ending (account : Account) : Except String Unit :=
  match account.failure with
  | some text => .error text
  | none => .ok ()

end Account

mutual

/-- The account of a command.  A span is entered whether or not its commands fail; what a call does
    is no matter of the span that it is made in, apart from its failure. -/
def Command.account : Command → Account
  | .note key value => ⟨[(key, value)], [], none⟩
  | .fail text => ⟨[], [], some text⟩
  | .span name body => ⟨[], [(accountOf body).filled name], (accountOf body).failure⟩
  | .guarded body => { accountOf body with failure := none }
  | .call _ _ body => ⟨[], [], (accountOf body).failure⟩

/-- The account of commands in their order. -/
def accountOf : List Command → Account
  | [] => .nothing
  | command :: commands => command.account.andThen (accountOf commands)

end

section Notes

variable {keys : List String} {notes : List (String × Json.Value)} {key : String}

theorem eraseDups_concat_of_mem (known : key ∈ keys) :
    (keys ++ [key]).eraseDups = keys.eraseDups := by
  simp [List.eraseDups_append, List.removeAll, known]

theorem eraseDups_concat_of_not_mem (fresh : key ∉ keys) :
    (keys ++ [key]).eraseDups = keys.eraseDups ++ [key] := by
  simp [List.eraseDups_append, List.removeAll, fresh, List.eraseDups_cons]

theorem nodup_eraseDups (keys : List String) : keys.eraseDups.Nodup := by
  induction keys using List.reverseRecOn with
  | nil => exact List.nodup_nil
  | append_singleton keys key ih =>
    by_cases known : key ∈ keys
    · rwa [eraseDups_concat_of_mem known]
    · have fresh : key ∉ keys.eraseDups := by simpa using known
      rw [eraseDups_concat_of_not_mem known]
      refine List.nodup_append.mpr ⟨ih, List.nodup_cons.mpr ⟨List.not_mem_nil, .nil⟩, ?_⟩
      intro other member same equal
      rw [List.mem_singleton] at equal
      exact ne_of_mem_of_not_mem member (equal ▸ fresh)

/-- A new key goes to the end. -/
theorem insert_map_of_not_mem (f : String → Json.Value) (value : Json.Value) (fresh : key ∉ keys) :
    Json.Entries.insert key value (keys.map fun k => (k, f k)) =
      keys.map (fun k => (k, f k)) ++ [(key, value)] := by
  apply Json.Entries.insert_of_not_mem
  simpa [Json.Entries.keys] using fresh

/-- A key that is there keeps its place. -/
theorem insert_map_of_mem (f : String → Json.Value) (value : Json.Value) (distinct : keys.Nodup)
    (known : key ∈ keys) :
    Json.Entries.insert key value (keys.map fun k => (k, f k)) =
      keys.map fun k => (k, if k = key then value else f k) := by
  induction keys with
  | nil => cases known
  | cons first keys ih =>
    obtain ⟨absent, distinct⟩ := List.nodup_cons.mp distinct
    rw [List.map_cons, List.map_cons, Json.Entries.insert]
    by_cases equal : first = key
    · subst equal
      have others : ∀ k ∈ keys, (k, f k) = (k, if k = first then value else f k) := by
        intro k member
        rw [if_neg (ne_of_mem_of_not_mem member absent)]
      rw [if_pos rfl, if_pos rfl, List.map_congr_left others]
    · have behind : key ∈ keys := List.mem_of_ne_of_mem (Ne.symm equal) known
      rw [if_neg equal, if_neg equal, ih distinct behind]

theorem lastValue_concat (notes : List (String × Json.Value)) (key : String) (value : Json.Value)
    (k : String) :
    Account.lastValue (notes ++ [(key, value)]) k =
      if k = key then value else Account.lastValue notes k := by
  rw [Account.lastValue, List.reverse_append, List.reverse_singleton, List.singleton_append,
    List.lookup_cons]
  by_cases equal : k = key
  · simp [equal]
  · have different : (k == key) = false := by simpa using equal
    rw [if_neg equal, different]
    rfl

/-- A further note sets the value under its key. -/
theorem lastValues_concat (notes : List (String × Json.Value)) (key : String)
    (value : Json.Value) :
    Account.lastValues (notes ++ [(key, value)]) = (Account.lastValues notes).insert key value := by
  rw [Account.lastValues, Account.lastValues, List.map_append, List.map_singleton]
  simp only [lastValue_concat]
  by_cases known : key ∈ notes.map (·.1)
  · rw [eraseDups_concat_of_mem known,
      insert_map_of_mem _ _ (nodup_eraseDups _) (List.mem_eraseDups.mpr known)]
  · have fresh : key ∉ (notes.map (·.1)).eraseDups := by rwa [List.mem_eraseDups]
    have others : ∀ k ∈ (notes.map (·.1)).eraseDups,
        (k, if k = key then value else Account.lastValue notes k) =
          (k, Account.lastValue notes k) := by
      intro k member
      rw [if_neg (ne_of_mem_of_not_mem member fresh)]
    rw [eraseDups_concat_of_not_mem known, insert_map_of_not_mem _ _ fresh, List.map_append,
      List.map_congr_left others, List.map_singleton, if_pos rfl]

/-- Notes made one after the other leave the last value under each key. -/
theorem ofPairs_eq_lastValues (notes : List (String × Json.Value)) :
    Json.Entries.ofPairs notes = Account.lastValues notes := by
  induction notes using List.reverseRecOn with
  | nil => rfl
  | append_singleton notes pair ih =>
    rw [lastValues_concat, ← ih, Json.Entries.ofPairs, List.foldl_append]
    rfl

end Notes

/-- An open span that has taken in what a program does in it. -/
def Frame.add (frame : Frame) (account : Account) : Frame where
  notes := account.notes.foldl
    (fun entries pair => Json.Entries.insert pair.1 pair.2 entries) frame.notes
  children := frame.children ++ account.spans

theorem Frame.add_nothing (frame : Frame) : frame.add .nothing = frame := by
  rw [Frame.add, Account.nothing, List.append_nil]
  rfl

theorem Frame.add_andThen (frame : Frame) {first : Account} (rest : Account)
    (fine : first.failure = none) :
    frame.add (first.andThen rest) = (frame.add first).add rest := by
  rw [Account.andThen, fine]
  simp only [Frame.add, List.foldl_append, List.append_assoc]

/-- What a new span has taken in is what is reported of it. -/
theorem instant_add (account : Account) (name : String) :
    Span.instant name (Tracer.nothing.add account).notes (Tracer.nothing.add account).children =
      account.filled name := by
  rw [Account.filled, ← ofPairs_eq_lastValues]
  rfl

theorem Account.andThen_of_ending {first : Account} {text : String} (rest : Account)
    (failed : first.ending = .error text) : first.andThen rest = first := by
  rw [Account.ending] at failed
  rw [Account.andThen]
  cases ended : first.failure with
  | none =>
    rw [ended] at failed
    cases failed
  | some _ => rfl

theorem Account.failure_of_ending {first : Account} (fine : first.ending = .ok ()) :
    first.failure = none := by
  rw [Account.ending] at fine
  cases ended : first.failure with
  | none => rfl
  | some text =>
    rw [ended] at fine
    cases fine

/-- What a run does in the open span is its account, and it ends as that says.  Every span that it
    opened has been closed again, however it ended. -/
structure Keeps (frame : Frame) (account : Account) (trail : Trail Unit) : Prop where
  tracer : trail.tracer = ⟨true, some (frame.add account)⟩
  ending : trail.ending = account.ending

/-- A call leaves the tracer as it was, and its outcome has the span that its program filled. -/
theorem endCall_keeps {t : Tracer} {account : Account} {trail : Trail Unit} (on : t.enabled = true)
    (keeps : Keeps Tracer.nothing account trail) (name : String) (reply : Reply) :
    (endCall t name reply trail).tracer = t ∧
      (endCall t name reply trail).ending =
        account.ending.map fun _ => reply.outcome (some (account.filled name)) := by
  obtain ⟨enabled, current⟩ := t
  cases on
  rw [endCall, Tracer.finish]
  simp only [if_true, keeps.tracer, keeps.ending, Option.getD_some, instant_add]
  exact ⟨trivial, trivial⟩

/-- The account of commands is that of the first one, unless it fails, and then of the others. -/
theorem Keeps.andThen {frame : Frame} {command : Command} {commands : List Command}
    (first : Keeps frame command.account (command.run ⟨true, some frame⟩))
    (rest : Keeps (frame.add command.account) (accountOf commands)
      (runAll ⟨true, some (frame.add command.account)⟩ commands)) :
    Keeps frame (accountOf (command :: commands))
      (runAll ⟨true, some frame⟩ (command :: commands)) := by
  rw [accountOf, runAll, Trail.andThen]
  have ended := first.ending
  cases ending : (command.run ⟨true, some frame⟩).ending with
  | error text =>
    rw [ending] at ended
    simp only [Account.andThen_of_ending _ ended.symm]
    exact ⟨first.tracer, ended⟩
  | ok done =>
    rw [ending] at ended
    have fine := Account.failure_of_ending ended.symm
    simp only [first.tracer]
    refine ⟨?_, ?_⟩
    · rw [rest.tracer, frame.add_andThen _ fine]
    · rw [rest.ending, Account.andThen, fine]
      rfl

mutual

/-- By induction on the program: a span and a call start from a fresh frame and take the open one up
    again, which gets the closed span from the first and nothing from the second. -/
theorem Command.keeps (frame : Frame) :
    ∀ command : Command, Keeps frame command.account (command.run ⟨true, some frame⟩)
  | .note key value => by
    refine ⟨?_, rfl⟩
    rw [Command.run, Command.account, Frame.add, List.append_nil]
    rfl
  | .fail text => by
    refine ⟨?_, rfl⟩
    rw [Command.run, Command.account, Frame.add, List.append_nil]
    rfl
  | .span name body => by
    have inner := runAll_keeps Tracer.nothing body
    refine ⟨?_, inner.ending⟩
    change Tracer.leave ⟨true, some frame⟩ name (runAll ⟨true, some Tracer.nothing⟩ body).tracer = _
    rw [inner.tracer, Command.account, Frame.add, ← instant_add]
    rfl
  | .guarded body => by
    have inner := runAll_keeps frame body
    exact ⟨inner.tracer, rfl⟩
  | .call name reply body => by
    have inner := runAll_keeps Tracer.nothing body
    have called := endCall_keeps (t := ⟨true, some frame⟩) rfl inner name reply
    refine ⟨?_, ?_⟩
    · rw [Command.account, Frame.add, List.append_nil]
      exact called.1
    · change (endCall _ name reply (runAll ⟨true, some Tracer.nothing⟩ body)).ending.map _ = _
      rw [called.2, Command.account, Account.ending, Account.ending]
      cases (accountOf body).failure <;> rfl

theorem runAll_keeps (frame : Frame) :
    ∀ commands : List Command, Keeps frame (accountOf commands) (runAll ⟨true, some frame⟩ commands)
  | [] => by
    refine ⟨?_, rfl⟩
    rw [runAll, accountOf, frame.add_nothing]
  | command :: commands =>
    (Command.keeps frame command).andThen (runAll_keeps (frame.add command.account) commands)

end

end Scaffold.Telemetry
