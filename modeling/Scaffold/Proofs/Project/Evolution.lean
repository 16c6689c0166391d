import Mathlib.Logic.Relation
import Scaffold.Proofs.Project.Pipeline

/-!
# How workspaces evolve

Whatever is done with an open project, its workspace changes by a few steps only: plugins are loaded
or told of, templates are read, an index is made where there is none, and an index is asked.  Every
operation takes such steps, however it ends, so that what a step keeps is kept by every run.
-/

namespace Scaffold.Project

open Files Plugin Symbols

namespace Workspace

variable {ws ws' ws'' : Workspace}

/-- What changes in a workspace at a time. -/
inductive Step : Workspace → Workspace → Prop
  | plugins (ws : Workspace) (registry : Registry) : Step ws { ws with plugins := some registry }
  | templates (ws : Workspace) (store : Template.Store) :
      Step ws { ws with templates := some store }
  /-- An index is made when the plugins are at hand. -/
  | index {ws : Workspace} : ws.index = none → ws.plugins ≠ none → ws.Staffed →
      Step ws { ws with index := some ws.freshIndex }
  /-- An index that is asked may read archives and sources. -/
  | asked {ws : Workspace} {index : Index} (disk : Disk) (name : String) : ws.index = some index →
      Step ws { ws with index := some (index.lookup disk ws.plugins name).index }

/-- A workspace becomes another one by any number of steps. -/
def Evolves : Workspace → Workspace → Prop := Relation.ReflTransGen Step

theorem Evolves.refl (ws : Workspace) : ws.Evolves ws := Relation.ReflTransGen.refl

theorem Evolves.trans (first : ws.Evolves ws') (next : ws'.Evolves ws'') : ws.Evolves ws'' :=
  Relation.ReflTransGen.trans first next

/-- What a workspace is later on: it evolves, and its symbols may be dropped at any time. -/
def Later : Workspace → Workspace → Prop :=
  Relation.ReflTransGen fun ws ws' => ws.Step ws' ∨ ws' = ws.close

/-- The workspace was opened at some time. -/
def Opened (ws : Workspace) : Prop :=
  ∃ settings sync, (ofSettings settings sync).Later ws

theorem Evolves.later (evolves : ws.Evolves ws') : ws.Later ws' :=
  Relation.ReflTransGen.mono (fun _ _ step => Or.inl step) _ _ evolves

theorem Opened.later (opened : ws.Opened) (later : ws.Later ws') : ws'.Opened := by
  obtain ⟨settings, sync, first⟩ := opened
  exact ⟨settings, sync, Relation.ReflTransGen.trans first later⟩

/-- What steps and closing keep, holds later on. -/
theorem Later.induction {p : Workspace → Prop} (later : ws.Later ws') (holds : p ws)
    (step : ∀ {ws ws'}, Step ws ws' → p ws → p ws')
    (closed : ∀ {ws : Workspace}, p ws → p ws.close) : p ws' := by
  induction later with
  | refl => exact holds
  | tail _ next ih =>
    rcases next with taken | rfl
    · exact step taken ih
    · exact closed ih

/-- The settings of a workspace stay, and so does whether it has a thread of its own. -/
theorem Later.settings (later : ws.Later ws') :
    ws'.settings = ws.settings ∧ ws'.sync = ws.sync := by
  apply later.induction (p := fun ws' => ws'.settings = ws.settings ∧ ws'.sync = ws.sync)
  · exact ⟨rfl, rfl⟩
  · intro ws₁ ws₂ step same
    cases step <;> exact same
  · exact fun same => same

theorem Step.evolves (step : ws.Step ws') : ws.Evolves ws' := Relation.ReflTransGen.single step

end Workspace

namespace Action

variable {α β : Type}

/-- The workspace evolves by the action, however it ends. -/
def Evolving (x : Action Workspace α) : Prop :=
  ∀ (w : World) (ws : Workspace), ws.Evolves (x w ws).2.2

namespace Evolving

theorem of_same {x : Action Workspace α} (same : ∀ w ws, (x w ws).2.2 = ws) : Evolving x := by
  intro w ws
  rw [same]
  exact .refl ws

theorem get : Evolving (Action.get : Action Workspace Workspace) := of_same fun _ _ => rfl

theorem pure (a : α) : Evolving (Pure.pure a : Action Workspace α) := of_same fun _ _ => rfl

theorem fail (fault : Fault) : Evolving (Action.fail fault : Action Workspace α) :=
  of_same fun _ _ => rfl

theorem disk : Evolving (Action.disk : Action Workspace Disk) := of_same fun _ _ => rfl

theorem ofFiles (result : Except Files.Fault α) :
    Evolving (Action.ofFiles result : Action Workspace α) := of_same fun _ _ => rfl

/-- What comes next may rely on what was found. -/
theorem bind_of {x : Action Workspace α} {f : α → Action Workspace β} (first : Evolving x)
    (next : ∀ a w ws after, x w ws = (.ok a, after) → Evolving (f a)) : Evolving (x >>= f) := by
  intro w ws
  have evolved := first w ws
  rw [bind_apply]
  rcases ran : x w ws with ⟨fault | a, w', ws'⟩
  · rw [ran] at evolved
    exact evolved
  · rw [ran] at evolved
    exact evolved.trans (next a w ws _ ran w' ws')

theorem bind {x : Action Workspace α} {f : α → Action Workspace β} (first : Evolving x)
    (next : ∀ a, Evolving (f a)) : Evolving (x >>= f) :=
  first.bind_of fun a _ _ _ _ => next a

theorem spanning {x : Action Workspace α} (label : String) (evolving : Evolving x) :
    Evolving (Action.spanning label x) :=
  fun w ws => evolving { w with tracer := w.tracer.enter } ws

theorem traced {x : Action Workspace Result} (label : String) (evolving : Evolving x) :
    Evolving (Action.traced label x) := by
  intro w ws
  have evolved := evolving { w with tracer := w.tracer.begin } ws
  rcases ran : x { w with tracer := w.tracer.begin } ws with ⟨result, w', ws'⟩
  obtain ⟨report, w'', ended, -⟩ := traced_cases label ran
  rw [ended]
  rw [ran] at evolved
  exact evolved

end Evolving

end Action

namespace Workspace

open Scaffold.Project.Action

theorem evolving_getPlugins : Evolving getPlugins := by
  intro w ws
  rcases getPlugins_cases w ws with ⟨-, failed⟩ | ⟨-, registry, w', got⟩
  · rw [failed]
    exact .refl ws
  · rw [got]
    exact (Step.plugins ws registry).evolves

theorem evolving_onPlugins {α : Type} (x : Action Registry α) : Evolving (onPlugins x) := by
  intro w ws
  have evolved := evolving_getPlugins w ws
  unfold onPlugins
  generalize getPlugins w ws = got at evolved ⊢
  rcases got with ⟨fault | registry, w', ws'⟩
  · exact evolved
  · exact evolved.trans (Step.plugins _ _).evolves

theorem evolving_getIndex : Evolving getIndex := by
  intro w ws
  rcases ws with ⟨settings, sync, plugins, templates, _ | index⟩
  · rw [getIndex, bind_apply, Action.get]
    dsimp only
    rw [bind_apply]
    rcases getPlugins_cases w ⟨settings, sync, plugins, templates, none⟩ with
      ⟨-, failed⟩ | ⟨-, registry, w', got⟩
    · rw [failed]
      exact .refl _
    · rw [got]
      dsimp only
      have loaded : Evolves ⟨settings, sync, plugins, templates, none⟩
          ⟨settings, sync, some registry, templates, none⟩ := (Step.plugins _ registry).evolves
      by_cases threads : (!sync && settings.lookup.workers ≤ 0) = true
      · rw [if_pos threads]
        exact loaded
      · rw [if_neg threads]
        have staffed : Staffed ⟨settings, sync, some registry, templates, none⟩ := by
          cases sync with
          | true => exact .inl rfl
          | false => exact .inr (Int.not_le.mp (by simpa using threads))
        exact loaded.trans (Step.index rfl (by simp) staffed).evolves
  · exact .refl _

theorem index_of_getIndex {index : Index} {w : World} {ws : Workspace} {after : World × Workspace}
    (got : getIndex w ws = (.ok index, after)) : after.2.index = some index := by
  rcases ws with ⟨settings, sync, plugins, templates, _ | known⟩
  · rw [getIndex, bind_apply, Action.get] at got
    dsimp only at got
    obtain ⟨registry, w', ws', -, made⟩ := Action.bind_eq_ok.mp got
    split at made
    · cases made
    · cases made
      rfl
  · cases got
    rfl

/-- Asking puts back the index with what it has read. -/
theorem evolving_lookup (name : String) : Evolving (lookup name) := by
  intro w ws
  have evolved := evolving_getIndex w ws
  rw [lookup, bind_apply]
  rcases got : getIndex w ws with ⟨fault | index, w', ws'⟩
  · rw [got] at evolved
    exact evolved
  · rw [got] at evolved
    exact evolved.trans (Step.asked w'.disk name (index_of_getIndex got)).evolves

theorem evolving_render (kind : String) (bindings : List (String × String)) :
    Evolving (render kind bindings) := by
  intro w ws
  rw [render_apply]
  exact (Step.templates ws _).evolves

theorem evolving_kinds : Evolving kinds := by
  intro w ws
  rw [kinds, bind_apply, getTemplates_apply]
  exact (Step.templates ws _).evolves

end Workspace

open Scaffold.Project.Action Workspace

theorem evolving_writeOrFail (op name : String) (path : Path) (text : String) :
    Evolving (writeOrFail op name path text) := by
  apply Evolving.of_same
  intro w ws
  obtain ⟨result, w', ended, -⟩ := writeOrFail_cases op name path text w ws
  rw [ended]

/-- Evolving is kept by sequences. -/
theorem evolving_operational : Operational fun _ x => Evolving x where
  pure a := .pure a
  fail fault := .fail fault
  get := .get
  disk := .disk
  ofFiles result := .ofFiles result
  log _ := .of_same fun _ _ => rfl
  note _ _ := .of_same fun _ _ => rfl
  spanning name evolving := .spanning name evolving
  bind_of first next := .bind_of first next
  getIndex := evolving_getIndex
  lookup name := evolving_lookup name
  render kind bindings := evolving_render kind bindings
  kinds := evolving_kinds
  write op name path text := evolving_writeOrFail op name path text
  notify _ _ _ := evolving_onPlugins _

/-- Getting the symbols ready is a part of what happens to a workspace. -/
theorem Workspace.evolves_readied? {ws ready : Workspace} {disk : Disk}
    (prepared : ws.readied? disk = .ok ready) : ws.Evolves ready := by
  obtain ⟨w', ws', got, readied⟩ := asker_apply ⟨disk, .off, [], []⟩ ws
  have evolved := evolving_operational.asker ⟨disk, .off, [], []⟩ ws
  rw [got, readied ready prepared] at evolved
  exact evolved

theorem evolving_createFile (folder : Option Path) (kind : Option String) (name : String) :
    Evolving (createFile folder kind name) :=
  .traced _ (evolving_operational.createFileCore folder kind name)

end Scaffold.Project
