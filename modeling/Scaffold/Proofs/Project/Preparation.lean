import Scaffold.Proofs.Files.Obstacles
import Scaffold.Proofs.Project.Looking

/-!
# Plugins and symbols at hand

The plugins and the symbols of a project are got ready when they are first needed.  What is ready
then is a function of the files and of the workspace, which fails only where the path of the
plugins' directory is too long to be tested or where there is no thread for the symbols.
-/

namespace Scaffold.Project

open Files Plugin

namespace Workspace

variable {w : World} {ws ready : Workspace} {disk : Disk} {fault : Fault}

/-- Nothing has been loaded from the plugins' directory, whose path is too long to be tested. -/
structure PluginsTooLong (ws : Workspace) (disk : Disk) : Prop where
  unloaded : ws.plugins = none
  long : disk.node (pluginDir ws.settings) = .error .nameTooLong

/-- The fault that a path of the plugins' directory is that is too long to be tested. -/
def pluginsFault (ws : Workspace) : Fault := .files (.obstacle .nameTooLong (pluginDir ws.settings))

/-- The plugins of the project, which are looked for if nothing has been loaded. -/
def pluginsFound? (ws : Workspace) (disk : Disk) : Except Fault Registry :=
  match ws.plugins with
  | some registry => .ok registry
  | none => ((discover disk (pluginDir ws.settings) .empty).mapError .files).map Prod.snd

theorem pluginsFound?_eq_error :
    ws.pluginsFound? disk = .error fault ↔ ws.PluginsTooLong disk ∧ fault = ws.pluginsFault := by
  rw [pluginsFound?]
  cases loaded : ws.plugins with
  | some registry =>
    constructor
    · nofun
    · exact fun failed => nomatch loaded.symm.trans failed.1.unloaded
  | none =>
    dsimp only
    rw [discover]
    cases tested : disk.isDirectory? (pluginDir ws.settings) with
    | error raised =>
      obtain ⟨long, rfl⟩ := Disk.test_eq_error.mp tested
      constructor
      · rintro ⟨⟩
        exact ⟨⟨loaded, long⟩, rfl⟩
      · rintro ⟨-, rfl⟩
        rfl
    | ok found =>
      constructor
      · cases found <;> nofun
      · rintro ⟨tooLong, -⟩
        cases tested.symm.trans (Disk.test_eq_error.mpr ⟨tooLong.long, rfl⟩)

/-- Getting the plugins keeps them at hand; if they cannot be looked for, nothing changes. -/
theorem getPlugins_apply (w : World) (ws : Workspace) :
    ∃ w', getPlugins w ws = match ws.pluginsFound? w.disk with
      | .ok registry => (.ok registry, w', { ws with plugins := some registry })
      | .error fault => (.error fault, w, ws) := by
  rcases ws with ⟨settings, sync, _ | known, templates, index⟩
  · rw [pluginsFound?, getPlugins, Action.bind_apply, Action.get]
    dsimp only
    rw [Action.bind_apply, Action.disk]
    dsimp only
    rw [Action.bind_apply, Action.ofFiles]
    cases discover w.disk (pluginDir settings) .empty with
    | error fault => exact ⟨w, rfl⟩
    | ok found => exact ⟨_, rfl⟩
  · exact ⟨w, rfl⟩

/-- The plugins are at hand, unless they have to be looked for and cannot be. -/
theorem getPlugins_cases (w : World) (ws : Workspace) :
    (ws.PluginsTooLong w.disk ∧ getPlugins w ws = (.error ws.pluginsFault, w, ws)) ∨
      ¬ ws.PluginsTooLong w.disk ∧ ∃ registry w',
        getPlugins w ws = (.ok registry, w', { ws with plugins := some registry }) := by
  obtain ⟨w', got⟩ := getPlugins_apply w ws
  cases found : ws.pluginsFound? w.disk with
  | error fault =>
    obtain ⟨tooLong, rfl⟩ := pluginsFound?_eq_error.mp found
    rw [found] at got
    exact .inl ⟨tooLong, got⟩
  | ok registry =>
    rw [found] at got
    refine .inr ⟨?_, registry, w', got⟩
    intro tooLong
    cases found.symm.trans (pluginsFound?_eq_error.mpr ⟨tooLong, rfl⟩)

/-- Threads can be had for the symbols, or are not needed. -/
def Staffed (ws : Workspace) : Prop := ws.sync = true ∨ 0 < ws.settings.lookup.workers

/-- The workspace with its symbols ready, if they are looked up at all. -/
def readied? (ws : Workspace) (disk : Disk) : Except Fault Workspace :=
  if ws.looksUp && ws.index.isNone then
    match ws.pluginsFound? disk with
    | .error fault => .error fault
    | .ok registry =>
      if !ws.sync && ws.settings.lookup.workers ≤ 0 then .error .noWorkers
      else .ok { ws with plugins := some registry, index := some ws.freshIndex }
  else .ok ws

/-- The symbols are ready afterwards, if they can be got ready. -/
theorem getIndex_apply (w : World) (ws : Workspace) (lookups : ws.looksUp = true) :
    ∃ w' ws', getIndex w ws =
        ((ws.readied? w.disk).map fun ready => ready.index.getD ready.freshIndex, w', ws') ∧
      ∀ ready, ws.readied? w.disk = .ok ready → ws' = ready := by
  rw [readied?, lookups]
  rcases ws with ⟨settings, sync, plugins, templates, _ | index⟩
  · obtain ⟨w', got⟩ := getPlugins_apply w ⟨settings, sync, plugins, templates, none⟩
    rw [getIndex, Action.bind_apply, Action.get]
    dsimp only
    rw [Action.bind_apply, got]
    simp only [Option.isNone_none, Bool.and_self, if_true]
    rcases pluginsFound? ⟨settings, sync, plugins, templates, none⟩ w.disk with fault | registry
    · exact ⟨_, _, rfl, by simp⟩
    · dsimp only
      by_cases threads : (!sync && settings.lookup.workers ≤ 0) = true
      · rw [if_pos threads, if_pos threads]
        exact ⟨_, _, rfl, by simp⟩
      · rw [if_neg threads, if_neg threads]
        refine ⟨_, _, rfl, ?_⟩
        rintro _ ⟨⟩
        rfl
  · refine ⟨_, _, rfl, ?_⟩
    rintro _ ⟨⟩
    rfl

/-- Where symbols are looked up, there is a way to ask once they are ready. -/
theorem asker_apply (w : World) (ws : Workspace) :
    ∃ w' ws', asker w ws =
        ((ws.readied? w.disk).map fun _ => if ws.looksUp then some ask else none, w', ws') ∧
      ∀ ready, ws.readied? w.disk = .ok ready → ws' = ready := by
  rw [asker, Action.bind_apply, Action.get]
  dsimp only
  by_cases lookups : ws.looksUp = true
  · obtain ⟨w', ws', got, readied⟩ := getIndex_apply w ws lookups
    rw [if_pos lookups, Action.bind_apply, got]
    refine ⟨w', ws', ?_, readied⟩
    rw [if_pos lookups]
    cases ws.readied? w.disk <;> rfl
  · rw [readied?, if_neg lookups]
    have unready : ¬ (ws.looksUp && ws.index.isNone) = true := by simp [lookups]
    rw [if_neg unready, if_neg lookups]
    refine ⟨w, ws, rfl, ?_⟩
    rintro _ ⟨⟩
    rfl

/-- What is ready is the same project, with an index where symbols are looked up. -/
theorem readied?_eq_ok (prepared : ws.readied? disk = .ok ready) :
    ready.settings = ws.settings ∧ ready.sync = ws.sync ∧
      (ready.looksUp = true → ready.index ≠ none) := by
  rw [readied?] at prepared
  by_cases unready : (ws.looksUp && ws.index.isNone) = true
  · rw [if_pos unready] at prepared
    cases found : ws.pluginsFound? disk with
    | error fault =>
      rw [found] at prepared
      cases prepared
    | ok registry =>
      rw [found] at prepared
      dsimp only at prepared
      split at prepared
      · cases prepared
      · cases prepared
        exact ⟨rfl, rfl, by simp⟩
  · rw [if_neg unready] at prepared
    cases prepared
    refine ⟨rfl, rfl, ?_⟩
    intro lookups none
    simp [lookups, none] at unready

theorem readied?_of_index {index : Symbols.Index} (indexed : ws.index = some index)
    (disk : Disk) : ws.readied? disk = .ok ws := by
  rw [readied?, indexed, Option.isNone_some, Bool.and_false, if_neg Bool.false_ne_true]

/-- The symbols cannot be got ready only for a project that looks them up and has none at hand, and
    that has no threads or whose plugins cannot be looked for. -/
theorem readied?_eq_error (failed : ws.readied? disk = .error fault) :
    ws.looksUp = true ∧ ws.index = none ∧
      (ws.PluginsTooLong disk ∧ fault = ws.pluginsFault ∨ ¬ ws.Staffed ∧ fault = .noWorkers) := by
  rw [readied?] at failed
  split at failed
  · rename_i unready
    rw [Bool.and_eq_true, Option.isNone_iff_eq_none] at unready
    refine ⟨unready.1, unready.2, ?_⟩
    split at failed
    · rename_i raised found
      cases failed
      exact .inl (pluginsFound?_eq_error.mp found)
    split at failed
    · rename_i threads
      cases failed
      refine .inr ⟨?_, rfl⟩
      rw [Bool.and_eq_true, Bool.not_eq_true', decide_eq_true_eq] at threads
      rintro (sync | workers)
      · rw [threads.1] at sync
        cases sync
      · exact absurd workers (Int.not_lt.mpr threads.2)
    · cases failed
  · cases failed

end Workspace

end Scaffold.Project
