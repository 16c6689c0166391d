import Scaffold.Proofs.Files.ClearWay
import Scaffold.Proofs.Project.Acceptance
import Scaffold.Proofs.Project.Creation
import Scaffold.Proofs.Project.Preparation
import Scaffold.Proofs.Template.Packaged

/-!
# From a validated name to its file

Validating a name and creating its file accept the same names, but only the creation makes
directories and writes.  A validated name of a built-in kind can be created exactly if the way to
its file is clear and the plugins can be told of it.
-/

namespace Scaffold.Project

open Files Plugin Workspace

variable {folder : Option Path} {kind : Option String} {op name text : String} {w w₁ : World}
  {ws ws₁ : Workspace} {target path : Path}

/-- The plugins are told of a new file, unless they cannot be looked for. -/
theorem notify_ok_iff (path name kind : String) (w : World) (ws : Workspace) :
    (∃ warnings after, onPlugins (Plugins.notify path name kind) w ws = (.ok warnings, after)) ↔
      ¬ ws.PluginsTooLong w.disk := by
  rw [onPlugins]
  rcases getPlugins_cases w ws with ⟨tooLong, failed⟩ | ⟨loadable, registry, w', got⟩
  · rw [failed]
    exact iff_of_false (by simp) fun loadable => loadable tooLong
  · rw [got]
    exact iff_of_true ⟨_, _, rfl⟩ loadable

theorem renderOrFail_of_render {kind : String} (op : String)
    (rendered : (ws.store.render w.disk kind (Scala.QualifiedName.bindings name)).1 = .ok text) :
    ∃ w' templates, renderOrFail op kind name w ws =
      (.ok (.ok text), w', { ws with templates := templates }) ∧ w'.disk = w.disk := by
  unfold renderOrFail Action.spanning
  rw [Action.bind_apply, render_apply]
  dsimp only
  rw [rendered]
  exact ⟨_, _, rfl, rfl⟩

/-- What is left to do for a name that has been accepted is done exactly if the file can be written
    and the plugins can be told of it. -/
theorem finishFile_ok_iff {kind : String} (root : Path)
    (rendered : (ws.store.render w.disk kind (Scala.QualifiedName.bindings name)).1 = .ok text) :
    (∃ r after, finishFile op kind name root path w ws = (.ok r, after) ∧ r.ok = true) ↔
      (w.disk.writeNew path (.text text)).1 = .ok () ∧
        ¬ ws.PluginsTooLong (w.disk.writeNew path (.text text)).2 := by
  obtain ⟨w₁, templates, ran, same⟩ := renderOrFail_of_render op rendered
  obtain ⟨writing, w₂, wrote, disk, -, outcome⟩ :=
    writeOrFail_cases op name path text w₁ { ws with templates := templates }
  rw [same] at disk outcome
  rw [finishFile, Action.bind_apply, ran]
  dsimp only
  rw [Action.bind_apply, wrote]
  rcases outcome with ⟨done, rfl⟩ | ⟨fault, failed, outcome⟩
  · have told := notify_ok_iff path.toString name kind w₂ { ws with templates := templates }
    -- Rendering keeps templates and nothing else, so that the plugins are as they were.
    have alike : PluginsTooLong { ws with templates := templates } w₂.disk ↔
        ws.PluginsTooLong w₂.disk := ⟨fun h => ⟨h.unloaded, h.long⟩, fun h => ⟨h.unloaded, h.long⟩⟩
    rw [done, ← disk, ← alike, ← told]
    dsimp only
    rw [Action.bind_apply]
    rcases onPlugins (Plugins.notify path.toString name kind) w₂
      { ws with templates := templates } with ⟨fault | warnings, after⟩
    · simp
    · exact iff_of_true ⟨_, _, rfl, rfl⟩ ⟨rfl, warnings, after, rfl⟩
  · rw [failed]
    refine iff_of_false ?_ (by simp)
    rintro ⟨r, after, ended, fine⟩
    rcases writing with fault' | written
    · cases ended
    · obtain ⟨-, failure, rfl, unfine⟩ := outcome _ rfl
      cases ended
      rw [unfine] at fine
      cases fine

/-- A validated name of a built-in kind can be created exactly if its file can be written and the
    plugins can be told of it: validating looks at the file alone.  In a folder without `..`, the
    file can be written exactly if the way to it is clear. -/
theorem createFile_of_validated {verdict : Result}
    (packaged : ws.store.Packages w.disk (ws.kindFor kind))
    (validated : validateName folder name w ws = (.ok verdict, w₁, ws₁))
    (fine : verdict.ok = true) :
    ∃ target path text, Planned folder kind name w ws target path text ∧
      ((∃ r after, createFile folder kind name w ws = (.ok r, after) ∧ r.ok = true) ↔
        (w.disk.writeNew path (.text text)).1 = .ok () ∧
          ¬ ws₁.PluginsTooLong (w.disk.writeNew path (.text text)).2) ∧
      (w.disk.tree.Closed → ".." ∉ target.parts →
        ((w.disk.writeNew path (.text text)).1 = .ok () ↔ w.disk.Clear path)) := by
  obtain ⟨target, path, w', accepted, same, alike, accepts⟩ :=
    accept_of_validateName validated fine
  obtain ⟨opening, closing, rendered⟩ :=
    packaged.render (Scala.QualifiedName.bindings name)
  refine ⟨target, path, _, ⟨accepted, rendered⟩, ?_, ?_⟩
  · rw [← alike.store_eq, ← same] at rendered
    rw [createFile, Action.traced_ok_iff, createFileCore_of_accept kind (accepts "create_file"),
      finishFile_ok_iff _ rendered, same]
  · intro closed plain
    obtain ⟨plainPath, nonempty⟩ := accepted.proper plain
    exact Disk.writeNew_ok_iff closed plainPath nonempty _

/-- A project in which a file is where the directory of a package would have to be. -/
def blockedWorld : World where
  disk := ⟨⟨[(["p"], .directory), (["p", "src"], .directory),
    (["p", "src", "com"], .file (.text ""))]⟩, ["p"]⟩
  tracer := .off
  log := []
  calls := []

theorem validateName_blocked :
    ∃ r w' ws', validateName (some ⟨.relative, ["src"]⟩) "com.x.A" blockedWorld linkedWorkspace =
      (.ok r, w', ws') ∧ r.ok = true ∧ ws'.plugins ≠ none := by
  have fine : (validateName (some ⟨.relative, ["src"]⟩) "com.x.A" blockedWorld
      linkedWorkspace).1.toOption.map (·.ok) = some true := by decide +kernel
  have loaded : (validateName (some ⟨.relative, ["src"]⟩) "com.x.A" blockedWorld
      linkedWorkspace).2.2.plugins.isSome = true := by decide +kernel
  rcases ended : validateName (some ⟨.relative, ["src"]⟩) "com.x.A" blockedWorld
    linkedWorkspace with ⟨fault | r, w', ws'⟩
  · rw [ended] at fine
    cases fine
  · rw [ended] at fine loaded
    exact ⟨r, w', ws', rfl, Option.some.inj fine, Option.isSome_iff_ne_none.mp loaded⟩

theorem createFile_blocked (r : Result) (after : World × Workspace) :
    createFile (some ⟨.relative, ["src"]⟩) none "com.x.A" blockedWorld linkedWorkspace ≠
      (.ok r, after) := by
  intro ended
  have none : (createFile (some ⟨.relative, ["src"]⟩) none "com.x.A" blockedWorld
      linkedWorkspace).1.toOption.map (·.ok) = none := by decide +kernel
  rw [ended] at none
  cases none

/-- A name validates below a file that is in the way of its package, and yet creating it is no
    result but a fault. -/
theorem createFile_fails_validated :
    (∃ r after, validateName (some ⟨.relative, ["src"]⟩) "com.x.A" blockedWorld linkedWorkspace =
      (.ok r, after) ∧ r.ok = true) ∧
    ¬ ∃ r after, createFile (some ⟨.relative, ["src"]⟩) none "com.x.A" blockedWorld
      linkedWorkspace = (.ok r, after) := by
  obtain ⟨r, w', ws', validated, fine, -⟩ := validateName_blocked
  exact ⟨⟨r, _, validated, fine⟩, fun ⟨r, after, ended⟩ => createFile_blocked r after ended⟩

/-- Below that file, validation says yes and the way is not clear. -/
theorem createFile_of_validated_blocked :
    linkedWorkspace.store.Packages blockedWorld.disk (linkedWorkspace.kindFor none) ∧
      ∃ r after, validateName (some ⟨.relative, ["src"]⟩) "com.x.A" blockedWorld linkedWorkspace =
        (.ok r, after) ∧ r.ok = true ∧
        ∃ target path text,
          Planned (some ⟨.relative, ["src"]⟩) none "com.x.A" blockedWorld linkedWorkspace target
            path text ∧ ¬ blockedWorld.disk.Clear path := by
  have closed : blockedWorld.disk.tree.Closed := Tree.closed_of_nodes (by decide)
  have packaged : linkedWorkspace.store.Packages blockedWorld.disk
      (linkedWorkspace.kindFor none) := ⟨by decide, by decide, by rintro _ ⟨⟩⟩
  obtain ⟨r, w', ws', validated, fine, loaded⟩ := validateName_blocked
  obtain ⟨target, path, text, planned, created, writable⟩ :=
    createFile_of_validated packaged validated fine
  refine ⟨packaged, r, _, validated, fine, target, path, text, planned, ?_⟩
  intro clear
  have plain : ".." ∉ target.parts := by
    cases planned.chosen
    decide
  have written := (writable closed plain).mpr clear
  obtain ⟨r', after, ended, -⟩ := created.mpr ⟨written, fun tooLong => loaded tooLong.unloaded⟩
  exact createFile_blocked r' after ended

end Scaffold.Project
