import Scaffold.Project.Session
import Scaffold.Proofs.Symbols.History
import Scaffold.Proofs.Symbols.SourceNames
import Scaffold.Proofs.Template.SourceText

/-!
# Asking an index over time

While an index is in use, files come and go and plugins are added.  Plugins and directories of
compiled classes answer for the moment of the question, archives and sources for the moment of the
first question that got to them, whatever has happened since.  No question changes a file.
-/

namespace Scaffold.Project

open Files Plugin Symbols

/-- What happens while an index is in use: it is asked, the files become others, or the plugins
    do. -/
inductive Happening where
  | asked (name : String)
  | changed (disk : Disk)
  | equipped (registry : Registry)

namespace Session

/-- The session behind something that happens. -/
def happen (session : Session) : Happening → Session
  | .asked name => (session.askIndex [name]).2
  | .changed disk => session.withDisk fun _ => disk
  | .equipped registry => { session with registry := registry }

/-- The session behind a run of happenings. -/
def behind (session : Session) (run : List Happening) : Session := run.foldl happen session

/-- The question that a name is now. -/
def question (session : Session) (name : String) : Question :=
  ⟨session.world.disk,
    session.index.bind fun (_, own) => if own then some session.registry else none, name⟩

/-- The questions of a run, each as it was put. -/
def questions : Session → List Happening → List Question
  | _, [] => []
  | session, event :: run =>
    let others := (session.happen event).questions run
    match event with
    | .asked name => session.question name :: others
    | _ => others

/-- What the index has got by reading, if it has read. -/
def got (what : Index → Option (List String)) (session : Session) : Option (List String) :=
  session.index.bind fun (index, _) => what index

/-- How often in a run the index reads something. -/
def readings (what : Index → Option (List String)) : Session → List Happening → Nat
  | _, [] => 0
  | session, event :: run =>
    (if (session.got what).isNone && ((session.happen event).got what).isSome then 1 else 0) +
      (session.happen event).readings what run

variable {session : Session} {start index : Index} {own : Bool} {run : List Happening}
  {earlier : List Question} {name : String}

/-- A question is answered from the files and the plugins as they are, and changes no file. -/
theorem askIndex_apply (indexed : session.index = some (index, own)) (name : String) :
    let q := session.question name
    let reply := index.lookup q.disk q.plugins q.name
    ∃ after, session.askIndex [name] =
        ((reply.answer.mapError fun fault => .project (.files fault)).map ([·]), after) ∧
      after.index = some (reply.index, own) ∧ after.world.disk = session.world.disk ∧
      after.registry = session.registry := by
  dsimp only
  rw [askIndex, question, indexed]
  dsimp only [Option.bind_some]
  rw [act, known, Action.bind_apply, Action.get]
  dsimp only
  rw [Action.bind_apply, Action.disk]
  dsimp only
  rw [Action.bind_apply, Action.keep]
  dsimp only
  rw [Action.bind_apply, Action.log]
  dsimp only
  rw [Action.bind_apply, Action.set]
  dsimp only
  rw [Action.bind_apply, Action.ofFiles]
  cases (index.lookup session.world.disk (if own then some session.registry else none) name).answer
  · exact ⟨_, rfl, rfl, rfl, rfl⟩
  · exact ⟨_, rfl, rfl, rfl, rfl⟩

/-- The session uses the index from `start` that has been asked the questions. -/
def Uses (session : Session) (start : Index) (own : Bool) (earlier : List Question) : Prop :=
  ∃ index, session.index = some (index, own) ∧ start.HasRead earlier index

theorem Uses.happen (uses : session.Uses start own earlier) (event : Happening)
    (answerable : ∀ q ∈ session.questions [event], start.Answerable q) :
    (session.happen event).Uses start own (earlier ++ session.questions [event]) := by
  obtain ⟨index, indexed, read⟩ := uses
  cases event with
  | asked name =>
    obtain ⟨after, asked, indexedAfter, -, -⟩ := askIndex_apply indexed name
    have readAfter := (read.lookup (answerable (session.question name) List.mem_cons_self)).2
    rw [Session.happen, asked]
    exact ⟨_, indexedAfter, readAfter⟩
  | changed disk => exact ⟨index, indexed, (List.append_nil earlier).symm ▸ read⟩
  | equipped registry => exact ⟨index, indexed, (List.append_nil earlier).symm ▸ read⟩

theorem questions_cons (session : Session) (event : Happening) (run : List Happening) :
    session.questions (event :: run) =
      session.questions [event] ++ (session.happen event).questions run := by
  cases event <;> rfl

theorem questions_append (session : Session) (run more : List Happening) :
    session.questions (run ++ more) =
      session.questions run ++ (session.behind run).questions more := by
  induction run generalizing session with
  | nil => rfl
  | cons event run ih =>
    rw [List.cons_append, questions_cons, ih, questions_cons session event run, List.append_assoc]
    rfl

theorem Uses.behind (uses : session.Uses start own earlier)
    (answerable : ∀ q ∈ session.questions run, start.Answerable q) :
    (session.behind run).Uses start own (earlier ++ session.questions run) := by
  induction run generalizing session earlier with
  | nil => rwa [questions, List.append_nil]
  | cons event run ih =>
    rw [questions_cons, List.forall_mem_append] at answerable
    rw [questions_cons, ← List.append_assoc]
    exact ih (uses.happen event answerable.1) answerable.2

/-- What the index has once got by reading stays, whatever happens. -/
theorem got_happen {what : Index → Option (List String)}
    (archives : ∀ disk index, (what index).isSome → (what (index.withArchives disk).2.2).isSome)
    (declared : ∀ disk name index, (what index).isSome →
      (what (index.lookupDeclared disk name).index).isSome)
    (got : (session.got what).isSome) (event : Happening) :
    ((session.happen event).got what).isSome := by
  cases event with
  | asked name =>
    rcases indexed : session.index with _ | ⟨index, own⟩
    · rw [Session.got, indexed] at got
      cases got
    · rw [Session.got, indexed] at got
      obtain ⟨after, asked, indexedAfter, -, -⟩ := askIndex_apply indexed name
      rw [Session.happen, asked, Session.got, indexedAfter]
      exact Index.lookup_keeps (p := fun index => (what index).isSome) (archives _)
        (declared _ _) got
  | changed disk => exact got
  | equipped registry => exact got

theorem readings_le_one {what : Index → Option (List String)}
    (stays : ∀ (session : Session) (event : Happening), (session.got what).isSome →
      ((session.happen event).got what).isSome) (session : Session) (run : List Happening) :
    session.readings what run ≤ 1 ∧
      ((session.got what).isSome → session.readings what run = 0) := by
  induction run generalizing session with
  | nil => exact ⟨Nat.zero_le _, fun _ => rfl⟩
  | cons event run ih =>
    obtain ⟨most, none⟩ := ih (session.happen event)
    rw [readings]
    cases before : (session.got what).isSome with
    | true =>
      have after := stays session event before
      rw [Option.isSome_iff_ne_none] at before
      rw [none after]
      simp [Option.isNone_iff_eq_none, before]
    | false =>
      refine ⟨?_, nofun⟩
      cases after : ((session.happen event).got what).isSome with
      | true =>
        rw [none after]
        split <;> omega
      | false => simpa using most

theorem readings_archived_le_one (session : Session) (run : List Happening) :
    session.readings (·.archived) run ≤ 1 := by
  refine (readings_le_one (fun _ event got => got_happen ?_ ?_ got event) session run).1
  · intro disk index archived
    obtain ⟨classes, read⟩ := Option.isSome_iff_exists.mp archived
    rw [Index.withArchives, read]
    exact archived
  · intro disk name index archived
    have kept : (index.withSources disk).2.2.archived = index.archived := by
      rw [Index.withSources]
      split
      · rfl
      · split <;> rfl
    rw [← kept] at archived
    rw [Index.lookupDeclared]
    split
    · exact archived
    · rwa [kept] at archived

theorem readings_declared_le_one (session : Session) (run : List Happening) :
    session.readings (·.declared) run ≤ 1 := by
  refine (readings_le_one (fun _ event got => got_happen ?_ ?_ got event) session run).1
  · intro disk index declared
    rw [Index.withArchives]
    split
    · exact declared
    · split <;> exact declared
  · intro disk name index declared
    obtain ⟨types, read⟩ := Option.isSome_iff_exists.mp declared
    rw [Index.lookupDeclared, Index.withSources, read]
    split <;> exact declared

/-- An index that is to look into a source root, a directory and an archive. -/
def stockedIndex : Index :=
  .fresh [⟨.relative, ["src"]⟩] [⟨.relative, ["out"]⟩] [⟨.relative, ["lib.jar"]⟩] true false

/-- A source root with one type, and an archive with another one. -/
def stockedDisk : Disk :=
  ⟨⟨[(["src"], .directory), (["src", "A.scala"], .file (.text "class A\n")),
    (["lib.jar"], .file (.archive ["B.class"]))]⟩, []⟩

/-- A session in which nothing has been read yet. -/
def stockedSession : Session where
  world := ⟨stockedDisk, .off, [], []⟩
  environment := []
  workspace := none
  registry := .empty
  index := some (stockedIndex, false)

end Session

end Scaffold.Project
