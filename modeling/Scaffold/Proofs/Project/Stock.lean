import Scaffold.Proofs.Project.Preparation

/-!
# Plugins in stock

Until a file is written, the plugins of a project change in one way only: they are looked for in the
files as they are, which stay the same all the while.
-/

namespace Scaffold.Project

open Files Plugin

namespace Workspace

variable {ws ws' ws'' : Workspace} {disk : Disk}

/-- The project is the same, and so are its plugins, unless they have been looked for in these
    files. -/
structure Stocked (disk : Disk) (ws ws' : Workspace) : Prop where
  settings : ws'.settings = ws.settings
  plugins : ws'.plugins = ws.plugins ∨
    ∃ registry, ws.pluginsFound? disk = .ok registry ∧ ws'.plugins = some registry

theorem Stocked.of_same (settings : ws'.settings = ws.settings)
    (plugins : ws'.plugins = ws.plugins) : Stocked disk ws ws' := ⟨settings, .inl plugins⟩

theorem pluginsFound?_of_same (settings : ws'.settings = ws.settings)
    (plugins : ws'.plugins = ws.plugins) : ws'.pluginsFound? = ws.pluginsFound? := by
  funext disk
  rw [pluginsFound?, pluginsFound?, settings, plugins]

theorem Stocked.trans (first : Stocked disk ws ws') (next : Stocked disk ws' ws'') :
    Stocked disk ws ws'' := by
  refine ⟨next.settings.trans first.settings, ?_⟩
  rcases next.plugins with same | ⟨registry, found, loaded⟩
  · rw [same]
    exact first.plugins
  refine .inr ⟨registry, ?_, loaded⟩
  rcases first.plugins with same | ⟨earlier, found', loaded'⟩
  · rw [← pluginsFound?_of_same first.settings same]
    exact found
  · rw [pluginsFound?, loaded'] at found
    cases found
    exact found'

end Workspace

open Workspace

namespace Action

variable {α β : Type}

/-- The action changes no file, and no plugins but by looking for them. -/
def Stocks (x : Action Workspace α) : Prop :=
  ∀ (w : World) (ws : Workspace), (x w ws).2.1.disk = w.disk ∧ Stocked w.disk ws (x w ws).2.2

namespace Stocks

theorem of_same {x : Action Workspace α} (disk : ∀ w ws, (x w ws).2.1.disk = w.disk)
    (settings : ∀ w ws, (x w ws).2.2.settings = ws.settings)
    (plugins : ∀ w ws, (x w ws).2.2.plugins = ws.plugins) : Stocks x :=
  fun w ws => ⟨disk w ws, .of_same (settings w ws) (plugins w ws)⟩

/-- What comes next may rely on what was found. -/
theorem bind_of {x : Action Workspace α} {f : α → Action Workspace β} (first : Stocks x)
    (next : ∀ a w ws after, x w ws = (.ok a, after) → Stocks (f a)) : Stocks (x >>= f) := by
  intro w ws
  obtain ⟨same, stocked⟩ := first w ws
  rw [bind_apply]
  rcases ran : x w ws with ⟨fault | a, w', ws'⟩
  · rw [ran] at same stocked
    exact ⟨same, stocked⟩
  · rw [ran] at same stocked
    obtain ⟨sameNext, stockedNext⟩ := next a w ws _ ran w' ws'
    dsimp only at same stockedNext
    rw [same] at stockedNext
    exact ⟨sameNext.trans same, stocked.trans stockedNext⟩

theorem getPlugins : Stocks getPlugins := by
  intro w ws
  obtain ⟨looked, -⟩ := looks_getPlugins w ws (.refl ws)
  obtain ⟨w', got⟩ := getPlugins_apply w ws
  refine ⟨looked.disk, ?_⟩
  rw [got]
  cases found : ws.pluginsFound? w.disk with
  | error fault => exact .of_same rfl rfl
  | ok registry => exact ⟨rfl, .inr ⟨registry, found, rfl⟩⟩

theorem getIndex : Stocks getIndex := by
  refine bind_of (of_same (fun _ _ => rfl) (fun _ _ => rfl) fun _ _ => rfl) fun ws _ _ _ _ => ?_
  split
  · exact of_same (fun _ _ => rfl) (fun _ _ => rfl) fun _ _ => rfl
  · refine bind_of getPlugins fun _ _ _ _ _ => ?_
    split
    · exact of_same (fun _ _ => rfl) (fun _ _ => rfl) fun _ _ => rfl
    · exact of_same (fun _ _ => rfl) (fun _ _ => rfl) fun _ _ => rfl

theorem lookup (name : String) : Stocks (lookup name) :=
  bind_of getIndex fun _ _ _ _ _ => of_same (fun _ _ => rfl) (fun _ _ => rfl) fun _ _ => rfl

end Stocks

theorem stocks_sequential : Sequential fun _ x => Stocks x where
  pure _ := .of_same (fun _ _ => rfl) (fun _ _ => rfl) fun _ _ => rfl
  fail _ := .of_same (fun _ _ => rfl) (fun _ _ => rfl) fun _ _ => rfl
  get := .of_same (fun _ _ => rfl) (fun _ _ => rfl) fun _ _ => rfl
  disk := .of_same (fun _ _ => rfl) (fun _ _ => rfl) fun _ _ => rfl
  ofFiles _ := .of_same (fun _ _ => rfl) (fun _ _ => rfl) fun _ _ => rfl
  log _ := .of_same (fun _ _ => rfl) (fun _ _ => rfl) fun _ _ => rfl
  note _ _ := .of_same (fun _ _ => rfl) (fun _ _ => rfl) fun _ _ => rfl
  spanning _ stocks := fun w ws => stocks { w with tracer := w.tracer.enter } ws
  bind_of first next := .bind_of first next
  getIndex := .getIndex
  lookup name := .lookup name

end Action

end Scaffold.Project
