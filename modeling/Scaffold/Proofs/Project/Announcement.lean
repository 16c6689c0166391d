import Scaffold.Proofs.Plugin.Notice
import Scaffold.Proofs.Project.Creation
import Scaffold.Proofs.Project.Ending

/-!
# Announcing new files

Once its file has been written, a creation announces it to the plugins.  A plugin that listens is
told exactly if none that comes before it fails, and then once, with the path, the name and the
kind; there is a warning exactly if one of those that are told fails.  The plugins behind that one
never hear of the file.
-/

namespace Scaffold.Project

open Files Plugin Workspace

variable {folder : Option Path} {kind : Option String} {op name : String} {w w' : World}
  {ws ws' : Workspace} {target path root : Path} {r : Result}

/-- The plugins have been told once of a new file, and the warnings are about them. -/
theorem notify_told {path kind : String} {warnings : List String}
    (ended : onPlugins (Plugins.notify path name kind) w ws = (.ok warnings, w', ws')) :
    ∃ registry, ws'.plugins = some registry ∧ w.Told w' registry path name kind ∧
      warnings = (registry.notify path name kind).2.2 := by
  obtain ⟨looked, -⟩ := looks_getPlugins w ws (.refl ws)
  rw [onPlugins] at ended
  rcases getPlugins_cases w ws with ⟨-, failed⟩ | ⟨-, registry, w₁, got⟩
  · rw [failed] at ended
    cases ended
  · rw [got] at looked ended
    obtain ⟨asked, calls, questions⟩ := looked.asked
    cases ended
    refine ⟨registry, rfl, ⟨asked, questions, ?_⟩, rfl⟩
    rw [← calls]
    rfl

/-- What is left to do for an accepted name ends well only with the plugins told of its file. -/
theorem finishFile_told {kind : String}
    (ended : finishFile op kind name root path w ws = (.ok r, w', ws')) (fine : r.ok = true) :
    ∃ registry, ws'.plugins = some registry ∧ w.Told w' registry path.toString name kind ∧
      r = told op kind name root path registry := by
  obtain ⟨rendering, w₁, ws₁, ran, looked, -, renders⟩ := renderOrFail_cases op kind name w ws
  rw [finishFile, Action.bind_apply, ran] at ended
  rcases rendering with fault | rendering
  · cases ended
  rcases renders _ rfl with ⟨text, rfl, -⟩ | ⟨failure, rfl, failed⟩
  · obtain ⟨writing, w₂, wrote, -, calls, outcome⟩ := writeOrFail_cases op name path text w₁ ws₁
    dsimp only at ended
    rw [Action.bind_apply, wrote] at ended
    have asked : w.Asked w₂ := looked.asked.trans (.of_eq calls)
    rcases outcome with ⟨-, rfl⟩ | ⟨_, -, outcome⟩
    · dsimp only at ended
      rw [Action.bind_apply] at ended
      rcases telling : onPlugins (Plugins.notify path.toString name kind) w₂ ws₁ with
        ⟨fault | warnings, w₃, ws₃⟩
      · rw [telling] at ended
        cases ended
      · rw [telling] at ended
        obtain ⟨registry, loaded, heard, warns⟩ := notify_told telling
        cases ended
        refine ⟨registry, loaded, heard.of_asked asked, ?_⟩
        rw [told, ← warns]
    · rcases writing with fault | written
      · cases ended
      · obtain ⟨-, failure, rfl, failed⟩ := outcome _ rfl
        cases ended
        rw [failed] at fine
        cases fine
  · cases ended
    rw [failed] at fine
    cases fine

theorem createFileCore_told (ended : createFileCore folder kind name w ws = (.ok r, w', ws'))
    (fine : r.ok = true) :
    ∃ target path registry, Accepted folder name w ws target path ∧ ws'.plugins = some registry ∧
      w.Told w' registry path.toString name (ws.kindFor kind) ∧
      r = told "create_file" (ws.kindFor kind) name ws.settings.root path registry := by
  have looked := (looks_accept "create_file" folder name w ws (.refl ws)).1
  rcases judged : accept "create_file" folder name w ws with ⟨fault | verdict, w₁, ws₁⟩
  · change (accept "create_file" folder name >>= _) w ws = _ at ended
    rw [Action.bind_apply, judged] at ended
    cases ended
  rcases accept_eq_ok judged with ⟨target, path, rfl, accepted⟩ | ⟨failure, rfl, failed⟩
  · rw [createFileCore_of_accept kind judged] at ended
    obtain ⟨registry, loaded, heard, same⟩ := finishFile_told ended fine
    rw [judged] at looked
    exact ⟨target, path, registry, accepted, loaded, heard.of_asked looked.asked, same⟩
  · change (accept "create_file" folder name >>= _) w ws = _ at ended
    rw [Action.bind_apply, judged] at ended
    cases ended
    rw [failed] at fine
    cases fine

/-- What plugins hear of a new file: some of those that listen are told of it once, in their turn,
    namely those in front of which none fails, and the warnings say whether one of them has failed.
    Before that plugins are at most asked. -/
structure Announced (w w' : World) (registry : Registry) (path name kind : String)
    (warnings : List String) (told : List Member) : Prop where
  calls : ∃ asked, (∀ call ∈ asked, call.isQuestion = true) ∧
    w'.calls = w.calls ++ asked ++ told.map (Member.notice path name kind)
  in_turn : told <+: registry.listeners
  reaches : ∀ before m after, registry.listeners = before ++ m :: after →
    (before ++ [m] <+: told ↔ ∀ b ∈ before, b.failsWhenTold = false)
  quiet : (∀ m ∈ registry.listeners, m.failsWhenTold = false) → told = registry.listeners
  warns : warnings = if told.any Member.failsWhenTold then [Registry.noticeWarning name] else []

theorem announced_of_told {registry : Registry} {path kind : String}
    (heard : w.Told w' registry path name kind) :
    ∃ told, Announced w w' registry path name kind (registry.notify path name kind).2.2 told := by
  obtain ⟨asked, questions, calls⟩ := heard
  obtain ⟨told, round, notices, warns⟩ := registry.notify_round path name kind
  refine ⟨told, ⟨asked, questions, notices ▸ calls⟩, round.isPrefix, ?_, round.eq_of_quiet, warns⟩
  intro before m after split
  rw [split] at round
  exact round.reaches_iff

/-- A creation that ends well has announced its file: every plugin that listens is told of it once,
    with its path, its name and its kind, unless one that is told earlier fails, and there is a
    warning exactly if one of those that are told fails. -/
theorem createFile_announced (ended : createFile folder kind name w ws = (.ok r, w', ws'))
    (fine : r.ok = true) :
    ∃ target path text registry told, Planned folder kind name w ws target path text ∧
      w.disk.writeNew path (.text text) = (.ok (), w'.disk) ∧ ws'.plugins = some registry ∧
      Announced w w' registry path.toString name (ws.kindFor kind) r.warnings told := by
  obtain ⟨target, path, text, planned, written, -⟩ := planned_of_createFile ended fine
  obtain ⟨same, state, twin⟩ := Action.traced_spec "FileCreatorService.create_file"
    (createFileCore folder kind name) w ws
  change (createFile folder kind name w ws).1.map _ = _ at same
  change (createFile folder kind name w ws).2.2 = _ at state
  change World.Twin _ (createFile folder kind name w ws).2.1 at twin
  rw [ended] at same state twin
  rcases ran : createFileCore folder kind name { w with tracer := w.tracer.begin } ws with
    ⟨fault | inner, w₁, ws₁⟩
  · rw [ran] at same
    cases same
  rw [ran] at same state twin
  have unreported : r.withoutMeta = inner.withoutMeta := Except.ok.inj same
  have innerFine : inner.ok = true := (congrArg Result.ok unreported).symm.trans fine
  obtain ⟨target', path', registry, accepted, loaded, heard, rfl⟩ :=
    createFileCore_told ran innerFine
  replace accepted := accepted.of_tracer
  cases Option.some.inj (Except.ok.inj (planned.chosen.symm.trans accepted.chosen))
  cases Except.ok.inj (planned.placed.symm.trans accepted.placed)
  have told : w.Told w' registry path.toString name (ws.kindFor kind) := by
    obtain ⟨asked, questions, calls⟩ := heard
    exact ⟨asked, questions, twin.calls.trans calls⟩
  obtain ⟨reached, announced⟩ := announced_of_told told
  have warnings : r.warnings = (registry.notify path.toString name (ws.kindFor kind)).2.2 :=
    congrArg Result.warnings unreported
  refine ⟨target, path, text, registry, reached, planned, written, ?_, ?_⟩
  · exact (congrArg Workspace.plugins state).trans loaded
  · rw [warnings]
    exact announced

/-- A workspace with a plugin that listens, registered before one that fails when it is told. -/
def quarrelingWorkspace : Workspace := { linkedWorkspace with
  plugins := some ⟨[⟨"quiet", "Quiet", ⟨none, some false⟩⟩, ⟨"loud", "Loud", ⟨none, some true⟩⟩]⟩ }

theorem createFile_quarreling :
    ∃ r w' ws', createFile (some ⟨.relative, ["src"]⟩) none "a.B" linkedWorld quarrelingWorkspace =
      (.ok r, w', ws') ∧ r.ok = true ∧ r.warnings = [Registry.noticeWarning "a.B"] ∧
      w'.calls = [.created "Loud" "src/a/B.scala" "a.B" "class"] ∧
      ws'.plugins.map (·.listeners.map Member.label) = some ["Loud", "Quiet"] := by
  have shown : (fun run : Except Fault Result × World × Workspace =>
      (run.1.toOption.map (fun r => (r.ok, r.warnings)), run.2.1.calls,
        run.2.2.plugins.map (·.listeners.map Member.label)))
      (createFile (some ⟨.relative, ["src"]⟩) none "a.B" linkedWorld quarrelingWorkspace) =
        (some (true, [Registry.noticeWarning "a.B"]),
          [.created "Loud" "src/a/B.scala" "a.B" "class"], some ["Loud", "Quiet"]) := by
    decide +kernel
  rcases ended : createFile (some ⟨.relative, ["src"]⟩) none "a.B" linkedWorld
    quarrelingWorkspace with ⟨fault | r, w', ws'⟩
  · rw [ended] at shown
    cases shown
  · rw [ended] at shown
    obtain ⟨told, rest⟩ := Prod.mk.inj shown
    obtain ⟨calls, listeners⟩ := Prod.mk.inj rest
    obtain ⟨ok, warnings⟩ := Prod.mk.inj (Option.some.inj told)
    exact ⟨r, w', ws', rfl, ok, warnings, calls, listeners⟩

/-- A plugin that listens is not told of a file that is created well, because one that is told
    before it fails. -/
theorem createFile_unheard :
    ∃ r w' ws' registry, createFile (some ⟨.relative, ["src"]⟩) none "a.B" linkedWorld
        quarrelingWorkspace = (.ok r, w', ws') ∧ r.ok = true ∧ ws'.plugins = some registry ∧
      ∃ m ∈ registry.listeners, m.notice "src/a/B.scala" "a.B" "class" ∉ w'.calls := by
  obtain ⟨r, w', ws', ended, fine, -, calls, listeners⟩ := createFile_quarreling
  obtain ⟨registry, loaded, labels⟩ := Option.map_eq_some_iff.mp listeners
  have quiet : "Quiet" ∈ registry.listeners.map Member.label := by simp [labels]
  obtain ⟨m, among, label⟩ := List.mem_map.mp quiet
  refine ⟨r, w', ws', registry, ended, fine, loaded, m, among, ?_⟩
  rw [calls, Member.notice, label]
  decide

/-- The one that fails is told, with a warning. -/
theorem createFile_announced_quarreling :
    ∃ r w' ws', createFile (some ⟨.relative, ["src"]⟩) none "a.B" linkedWorld quarrelingWorkspace =
      (.ok r, w', ws') ∧ r.ok = true ∧ r.warnings = [Registry.noticeWarning "a.B"] ∧
      ∃ path registry told, ws'.plugins = some registry ∧
        Announced linkedWorld w' registry path "a.B" "class" r.warnings told := by
  obtain ⟨r, w', ws', ended, fine, warnings, -⟩ := createFile_quarreling
  obtain ⟨_, path, _, registry, told, -, -, loaded, announced⟩ := createFile_announced ended fine
  exact ⟨r, w', ws', ended, fine, warnings, path.toString, registry, told, loaded, announced⟩

end Scaffold.Project
