import Scaffold.Proofs.Project.Creation
import Scaffold.Proofs.Project.Evolution
import Scaffold.Proofs.Project.Refusal
import Scaffold.Proofs.Symbols.SourceNames

/-!
# What a session retains

The sources are read when a question first gets to them, and not again: whatever runs afterwards,
the types that were found then are the ones that count.  A creation that ends well has asked for its
name where symbols are looked up, so that it is none of these types unless asking failed.
-/

namespace Scaffold.Project

open Files Plugin Symbols

/-- The settings stay, and so do the types that have been found in sources. -/
structure Workspace.Retains (ws ws' : Workspace) : Prop where
  settings : ws'.settings = ws.settings
  sync : ws'.sync = ws.sync
  index : ∀ index types counted, ws.index = some index → index.Holds types counted →
    ∃ index', ws'.index = some index' ∧ index'.Holds types counted

namespace Workspace.Retains

variable {ws ws' ws'' : Workspace}

theorem of_same (settings : ws'.settings = ws.settings) (sync : ws'.sync = ws.sync)
    (index : ws'.index = ws.index) : ws.Retains ws' where
  settings := settings
  sync := sync
  index known _ _ present holds := ⟨known, index.trans present, holds⟩

theorem refl (ws : Workspace) : ws.Retains ws := of_same rfl rfl rfl

theorem trans (first : ws.Retains ws') (next : ws'.Retains ws'') : ws.Retains ws'' where
  settings := next.settings.trans first.settings
  sync := next.sync.trans first.sync
  index known types counted present holds := by
    obtain ⟨between, presentBetween, holdsBetween⟩ := first.index known types counted present holds
    exact next.index between types counted presentBetween holdsBetween

/-- A fresh index is made only where there is none, and asking puts back the index with what it has
    read. -/
theorem of_step (step : ws.Step ws') : ws.Retains ws' := by
  cases step with
  | plugins registry => exact of_same rfl rfl rfl
  | templates store => exact of_same rfl rfl rfl
  | index missing _ _ =>
    refine ⟨rfl, rfl, ?_⟩
    intro known _ _ present
    cases missing.symm.trans present
  | asked disk name ready =>
    refine ⟨rfl, rfl, ?_⟩
    intro known types counted present holds
    cases ready.symm.trans present
    exact ⟨_, rfl, Index.lookup_holds holds⟩

theorem of_evolves (evolves : ws.Evolves ws') : ws.Retains ws' := by
  induction evolves with
  | refl => exact .refl ws
  | tail _ step retained => exact retained.trans (of_step step)

end Workspace.Retains

open Scaffold.Project.Action Workspace

/-- A run of creations reads no sources again. -/
theorem createFiles_retains (requests : List Request) (w : World) (ws : Workspace) :
    ws.Retains (createFiles requests w ws).2 := by
  induction requests generalizing w ws with
  | nil => exact .refl ws
  | cons request requests ih =>
    have first := evolving_createFile request.folder request.kind request.name w ws
    exact (Retains.of_evolves first).trans (ih _ _)

/-- A creation that ends well has asked for its name, so that the symbols at hand do not know it,
    where they are looked up without a thread. -/
theorem unknown_of_createFile {folder : Option Path} {kind : Option String} {name : String}
    {w : World} {ws : Workspace} {index : Index} {r : Result} {after : World × Workspace}
    (indexed : ws.index = some index) (lookups : ws.looksUp = true) (sync : ws.sync = true)
    (created : createFile folder kind name w ws = (.ok r, after)) (fine : r.ok = true) :
    (index.lookup w.disk ws.plugins name).answer ≠ .ok true := by
  obtain ⟨target, -, unobjected⟩ := of_refusal?_eq_none (refusal?_of_createFile created fine)
  obtain ⟨-, -, ready, prepared, -, unknown⟩ := verdict_eq_none.mp unobjected
  cases (readied?_of_index indexed w.disk).symm.trans prepared
  intro known
  rw [knows, indexed] at unknown
  simp [lookups, answersInTime, sync, known, Except.toOption] at unknown

end Scaffold.Project
