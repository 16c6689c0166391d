import Scaffold.Proofs.Project.Preparation

/-!
# Verdicts on names

What is said of a name is a function of the files and of the workspace: the symbols are got ready,
the path of the name is tested, and only then they are asked.  The objection to a name is this
verdict, whatever has been done in the project before.
-/

namespace Scaffold.Project

open Files Plugin

namespace Workspace

variable {name : String} {w : World} {ws ready : Workspace} {disk : Disk} {registry : Registry}
  {fault : Fault}

/-- Whether a question is answered in time: a thread needs some time to answer. -/
def answersInTime (ws : Workspace) : Bool :=
  ws.sync || !(ws.settings.lookup.timeout.isNegative || ws.settings.lookup.timeout.isZero)

/-- Whether the symbols at hand are said to have a type. -/
def knows (ws : Workspace) (disk : Disk) (name : String) : Bool :=
  match ws.index with
  | none => false
  | some index =>
    ws.looksUp && ws.answersInTime &&
      (index.lookup disk ws.plugins name).answer.toOption.getD false

theorem ask_apply {index : Symbols.Index} (indexed : ws.index = some index) (name : String)
    (w : World) :
    ∃ answer after, ask name w ws = (.ok answer, after) ∧
      answer.isKnown = (ws.answersInTime &&
        (index.lookup w.disk ws.plugins name).answer.toOption.getD false) := by
  rcases ws with ⟨settings, sync, plugins, templates, _ | known⟩
  · cases indexed
  cases indexed
  have looked : ∃ after, lookup name w ⟨settings, sync, plugins, templates, some index⟩ =
      (.ok (index.lookup w.disk plugins name).answer, after) ∧
        after.2.settings = settings ∧ after.2.sync = sync := ⟨_, rfl, rfl, rfl⟩
  obtain ⟨⟨w', ws'⟩, asked, rfl, rfl⟩ := looked
  rw [ask, Action.bind_apply, asked]
  dsimp only
  rw [Action.bind_apply, Action.get, answersInTime]
  dsimp only
  by_cases late : (!ws'.sync &&
      (ws'.settings.lookup.timeout.isNegative || ws'.settings.lookup.timeout.isZero)) = true
  · rw [if_pos late]
    refine ⟨_, _, rfl, ?_⟩
    rw [← Bool.not_not ws'.sync, ← Bool.not_and, late]
    rfl
  · rw [if_neg late]
    rw [← Bool.not_not ws'.sync, ← Bool.not_and, Bool.not_eq_true _ |>.mp late]
    cases (index.lookup w.disk plugins name).answer with
    | ok known => exact ⟨_, _, rfl, rfl⟩
    | error fault => exact ⟨_, _, rfl, rfl⟩

end Workspace

open Workspace

variable {folder : Option Path} {op name : String} {w : World} {ws ready : Workspace}
  {target : Path}

/-- A type exists if the symbols at hand are said to have it. -/
theorem typeExists_apply (prepared : ready.looksUp = true → ready.index ≠ none) (name : String)
    (w : World) :
    ∃ after, typeExists (if ready.looksUp then some ask else none) name w ready =
      (.ok (ready.knows w.disk name), after) := by
  rw [knows]
  by_cases lookups : ready.looksUp = true
  · obtain ⟨index, indexed⟩ := Option.ne_none_iff_exists'.mp (prepared lookups)
    obtain ⟨answer, after, asked, known⟩ :=
      ask_apply indexed name { w with tracer := w.tracer.enter }
    rw [if_pos lookups, indexed, typeExists, Action.spanning, Action.bind_apply, asked, lookups]
    dsimp only at known ⊢
    rw [Bool.true_and, ← known]
    exact ⟨_, rfl⟩
  · rw [if_neg lookups, Bool.not_eq_true _ |>.mp lookups]
    cases ready.index <;> exact ⟨_, rfl⟩

/-- Why a name counts as taken once the symbols are ready, if it does. -/
def collision? (ready : Workspace) (disk : Disk) (target : Path) (name : String) :
    Except Fault (Option Scala.Rejection) :=
  match sourceExists disk target name with
  | .error fault => .error (.files fault)
  | .ok true => .ok (some .fileExists)
  | .ok false => .ok (if ready.knows disk name then some .typeExists else none)

/-- The verdict on a name for a new type in a folder: the objection to it, if there is one. -/
def verdict (ws : Workspace) (disk : Disk) (target : Path) (name : String) :
    Except Fault (Option Scala.Rejection) :=
  if ws.settings.isScala = false then .ok (some .notScalaProject)
  else
    match Scala.nameObjection? name.toList with
    | some why => .ok (some why)
    | none =>
      match ws.readied? disk with
      | .error fault => .error fault
      | .ok ready => collision? ready disk target name

/-- There is no objection only to a name that is spelled by the grammar, whose path is free and that
    the symbols do not have. -/
theorem verdict_eq_none {disk : Disk} :
    verdict ws disk target name = .ok none ↔
      ws.settings.isScala = true ∧ Scala.nameObjection? name.toList = none ∧
        ∃ ready, ws.readied? disk = .ok ready ∧ sourceExists disk target name = .ok false ∧
          ready.knows disk name = false := by
  rw [verdict]
  cases ws.settings.isScala with
  | false => simp
  | true =>
    cases Scala.nameObjection? name.toList with
    | some why => simp
    | none =>
      rcases ws.readied? disk with fault | ready
      · simp
      · dsimp only [collision?]
        rcases sourceExists disk target name with fault | _ | _ <;> simp

/-- Once the symbols are ready, a name that is spelled by the grammar is taken if something is at
    its path or if the symbols have it. -/
theorem verdict_of_ready {disk : Disk} {found : Bool} (scala : ws.settings.isScala = true)
    (accepted : Scala.nameObjection? name.toList = none)
    (prepared : ws.readied? disk = .ok ready)
    (tested : disk.exists? (sourcePath target name) = .ok found) :
    verdict ws disk target name = .ok (if found then some .fileExists
      else if ready.knows disk name then some .typeExists else none) := by
  rw [verdict, if_neg (by simp [scala]), accepted]
  dsimp only
  rw [prepared]
  dsimp only [collision?]
  rw [sourceExists, tested]
  cases found <;> rfl

/-- Nothing is said of such a name if its path cannot be tested. -/
theorem verdict_of_untested {disk : Disk} {fault : Files.Fault}
    (scala : ws.settings.isScala = true) (accepted : Scala.nameObjection? name.toList = none)
    (prepared : ws.readied? disk = .ok ready)
    (failed : disk.exists? (sourcePath target name) = .error fault) :
    verdict ws disk target name = .error (.files fault) := by
  rw [verdict, if_neg (by simp [scala]), accepted]
  dsimp only
  rw [prepared]
  dsimp only [collision?]
  rw [sourceExists, failed]

/-- Without its symbols nothing is said of such a name. -/
theorem verdict_of_unready {disk : Disk} {fault : Fault} (scala : ws.settings.isScala = true)
    (accepted : Scala.nameObjection? name.toList = none)
    (failed : ws.readied? disk = .error fault) :
    verdict ws disk target name = .error fault := by
  rw [verdict, if_neg (by simp [scala]), accepted]
  dsimp only
  rw [failed]

theorem takenObjection?_apply (prepared : ready.looksUp = true → ready.index ≠ none)
    (target : Path) (name : String) (w : World) :
    ∃ after, takenObjection? (if ready.looksUp then some ask else none) target name w ready =
      (collision? ready w.disk target name, after) := by
  rw [takenObjection?, Action.bind_apply, Action.disk]
  dsimp only [collision?]
  rw [Action.bind_apply, Action.ofFiles]
  rcases sourceExists w.disk target name with fault | _ | _
  · exact ⟨_, rfl⟩
  · obtain ⟨after, told⟩ := typeExists_apply prepared name w
    dsimp only [Except.mapError]
    rw [if_neg Bool.false_ne_true, Action.bind_apply, told]
    cases ready.knows w.disk name <;> exact ⟨_, rfl⟩
  · exact ⟨_, rfl⟩

/-- The objection to a name is the verdict on it. -/
theorem objection?_apply (target : Path) (name : String) (w : World) (ws : Workspace) :
    (objection? target name w ws).1 = verdict ws w.disk target name := by
  rw [objection?, verdict, Action.bind_apply, Action.get]
  dsimp only
  cases ws.settings.isScala with
  | false => rfl
  | true =>
    rw [Bool.not_true, if_neg Bool.false_ne_true, if_neg (by simp), Action.bind_apply,
      Action.spanning]
    dsimp only [Action.pure_apply]
    cases Scala.nameObjection? name.toList with
    | some why => rfl
    | none =>
      dsimp only
      have looked := looks_asker { w with tracer := w.tracer.leave "validate" w.tracer.enter } ws
        (.refl ws)
      obtain ⟨w', ws', got, readied⟩ :=
        asker_apply { w with tracer := w.tracer.leave "validate" w.tracer.enter } ws
      rw [got] at looked
      -- Getting the symbols ready only looks, so that the file is tested on the same disk.
      have same : w'.disk = w.disk := looked.1.disk
      rw [Action.bind_apply, got]
      dsimp only at readied ⊢
      cases prepared : ws.readied? w.disk with
      | error fault => rfl
      | ok ready =>
        obtain rfl := readied ready prepared
        obtain ⟨settings, -, indexed⟩ := readied?_eq_ok prepared
        have lookups : ws.looksUp = ws'.looksUp := by rw [looksUp, looksUp, settings]
        obtain ⟨after, taken⟩ := takenObjection?_apply indexed target name
          { w' with tracer := w'.tracer.enter }
        dsimp only [Except.map]
        rw [lookups, Action.spanning, taken, same]

end Scaffold.Project
