import Scaffold.Project.Creator

/-!
# Properties that sequences keep

An operation on a project is a sequence of primitives.  What sequences keep and all primitives have
is a property of every operation: how the operations are made up is gone through here once, whatever
the property.
-/

namespace Scaffold.Project

open Files Workspace

namespace Action

/-- A sequence of actions ends well exactly if both do. -/
theorem bind_eq_ok {σ α β : Type} {x : Action σ α} {f : α → Action σ β} {b : β} {w : World} {s : σ}
    {after : World × σ} :
    (x >>= f) w s = (.ok b, after) ↔
      ∃ a w' s', x w s = (.ok a, w', s') ∧ f a w' s' = (.ok b, after) := by
  rw [bind_apply]
  rcases x w s with ⟨_ | a, w', s'⟩
  · simp
  · constructor
    · exact fun ended => ⟨a, w', s', rfl, ended⟩
    · rintro ⟨_, _, _, same, ended⟩
      cases same
      exact ended

/-- Sequences keep the property, and it is one of everything that looks. -/
structure Sequential (p : (α : Type) → Action Workspace α → Prop) : Prop where
  pure {α : Type} (a : α) : p α (Pure.pure a)
  fail {α : Type} (fault : Fault) : p α (Action.fail fault)
  get : p Workspace Action.get
  disk : p Disk Action.disk
  ofFiles {α : Type} (result : Except Files.Fault α) : p α (Action.ofFiles result)
  log (records : List Log.Record) : p Unit (Action.log records)
  note (key : String) (value : Json.Value) : p Unit (Action.note key value)
  spanning {α : Type} {x : Action Workspace α} (name : String) :
    p α x → p α (Action.spanning name x)
  /-- What comes next may rely on what was found. -/
  bind_of {α β : Type} {x : Action Workspace α} {f : α → Action Workspace β} : p α x →
    (∀ a w ws after, x w ws = (.ok a, after) → p β (f a)) → p β (x >>= f)
  getIndex : p Symbols.Index getIndex
  lookup (name : String) : p (Except Files.Fault Bool) (lookup name)

/-- The property is also one of everything that makes a file. -/
structure Operational (p : (α : Type) → Action Workspace α → Prop) : Prop extends Sequential p where
  render (kind : String) (bindings : List (String × String)) :
    p (Except Template.Fault String) (render kind bindings)
  kinds : p (List String) kinds
  write (op name : String) (path : Path) (text : String) :
    p (Except Result Unit) (writeOrFail op name path text)
  notify (path name kind : String) :
    p (List String) (onPlugins (Plugins.notify path name kind))

end Action

/-- If symbols are looked up at all, the project itself is asked. -/
theorem Workspace.eq_of_asker {way : Option (String → Action Workspace Answer)} {w : World}
    {ws : Workspace} {after : World × Workspace} (found : asker w ws = (.ok way, after)) :
    way = none ∨ way = some ask := by
  change (if ws.looksUp then _ else _ : Action Workspace _) w ws = _ at found
  split at found
  · obtain ⟨index, w', ws', -, rest⟩ := Action.bind_eq_ok.mp found
    cases rest
    exact .inr rfl
  · cases found
    exact .inl rfl

namespace Action.Sequential

variable {p : (α : Type) → Action Workspace α → Prop} {α β : Type}

theorem bind (sequential : Sequential p) {x : Action Workspace α} {f : α → Action Workspace β}
    (first : p α x) (next : ∀ a, p β (f a)) : p β (x >>= f) :=
  sequential.bind_of first fun a _ _ _ _ => next a

theorem ask (sequential : Sequential p) (name : String) : p Answer (ask name) := by
  refine sequential.bind (sequential.lookup name) fun answer =>
    sequential.bind sequential.get fun ws => ?_
  dsimp only
  split
  · exact sequential.pure _
  · split <;> exact sequential.pure _

theorem asker (sequential : Sequential p) : p _ asker := by
  refine sequential.bind sequential.get fun ws => ?_
  split
  · exact sequential.bind sequential.getIndex fun _ => sequential.pure _
  · exact sequential.pure _

theorem typeExists (sequential : Sequential p)
    {way : Option (String → Action Workspace Answer)} (name : String)
    (asks : ∀ x, way = some x → p Answer (x name)) : p Bool (typeExists way name) := by
  cases way with
  | none => exact sequential.pure _
  | some x =>
    refine sequential.spanning _ (sequential.bind (asks x rfl) fun answer => ?_)
    exact sequential.bind (sequential.log _) fun _ =>
      sequential.bind (sequential.note _ _) fun _ => sequential.pure _

theorem takenObjection? (sequential : Sequential p)
    {way : Option (String → Action Workspace Answer)} (folder : Path) (name : String)
    (asks : ∀ x, way = some x → p Answer (x name)) : p _ (takenObjection? way folder name) := by
  refine sequential.bind sequential.disk fun disk =>
    sequential.bind (sequential.ofFiles _) fun present => ?_
  split
  · exact sequential.pure _
  · refine sequential.bind (sequential.typeExists name asks) fun known => ?_
    split <;> exact sequential.pure _

theorem objection? (sequential : Sequential p) (folder : Path) (name : String) :
    p _ (objection? folder name) := by
  refine sequential.bind sequential.get fun ws => ?_
  split
  · exact sequential.pure _
  · refine sequential.bind (sequential.spanning _ (sequential.pure _)) fun why => ?_
    split
    · exact sequential.pure _
    · -- Not every way to ask has the property, but the asker gives the project's own one or none.
      refine sequential.bind_of sequential.asker fun way _ _ _ found => sequential.spanning _ ?_
      apply sequential.takenObjection?
      rintro x rfl
      rcases eq_of_asker found with none | own
      · cases none
      · cases own
        exact sequential.ask name

theorem targetFolder (sequential : Sequential p) (folder : Option Path) :
    p _ (targetFolder folder) := by
  cases folder with
  | some folder => exact sequential.pure _
  | none =>
    exact sequential.bind sequential.get fun ws => sequential.bind sequential.disk fun disk =>
      sequential.bind (sequential.ofFiles _) fun found => sequential.pure _

theorem placeOrFail (sequential : Sequential p) (op : String) (folder : Path) (name : String) :
    p _ (placeOrFail op folder name) := by
  refine sequential.bind sequential.disk fun disk => ?_
  split
  · exact sequential.pure _
  · exact sequential.pure _
  · exact sequential.fail _

/-- Everything that decides whether a name can be created is made up of primitives that look. -/
theorem accept (sequential : Sequential p) (op : String) (folder : Option Path) (name : String) :
    p _ (accept op folder name) := by
  refine sequential.bind sequential.get fun ws => ?_
  split
  · exact sequential.pure _
  · refine sequential.bind (sequential.targetFolder folder) fun target => ?_
    split
    · exact sequential.pure _
    · refine sequential.bind (sequential.objection? _ name) fun why => ?_
      split
      · exact sequential.pure _
      · refine sequential.bind (sequential.placeOrFail op _ name) fun placed => ?_
        split <;> exact sequential.pure _

theorem validateNameCore (sequential : Sequential p) (folder : Option Path) (name : String) :
    p _ (validateNameCore folder name) := by
  refine sequential.bind (sequential.accept _ folder name) fun verdict => ?_
  split
  · exact sequential.pure _
  · exact sequential.bind sequential.get fun ws => sequential.pure _

theorem initialPathCore (sequential : Sequential p) (resource : Path) :
    p _ (initialPathCore resource) := by
  refine sequential.bind sequential.get fun ws => sequential.bind sequential.disk fun disk =>
    sequential.bind (sequential.ofFiles _) fun resource => ?_
  exact sequential.bind (sequential.ofFiles _) fun roots =>
    sequential.bind (sequential.ofFiles _) fun isDirectory => sequential.pure _

theorem completionEntriesCore (sequential : Sequential p) (folder : Option Path) (pre : String) :
    p _ (completionEntriesCore folder pre) := by
  refine sequential.bind (sequential.targetFolder folder) fun target => ?_
  split
  · exact sequential.pure _
  · exact sequential.bind sequential.disk fun disk =>
      sequential.bind (sequential.ofFiles _) fun items => sequential.pure _

end Action.Sequential

namespace Action.Operational

variable {p : (α : Type) → Action Workspace α → Prop}

theorem renderOrFail (operational : Operational p) (op kind name : String) :
    p _ (renderOrFail op kind name) := by
  refine operational.spanning _ (operational.bind (operational.render kind _) fun rendered => ?_)
  split
  · exact operational.pure _
  · exact operational.bind operational.kinds fun _ => operational.pure _
  · exact operational.fail _

theorem createFileCore (operational : Operational p) (folder : Option Path)
    (kind : Option String) (name : String) : p _ (createFileCore folder kind name) := by
  refine operational.bind operational.get fun ws =>
    operational.bind (operational.accept _ folder name) fun verdict => ?_
  split
  · exact operational.pure _
  · refine operational.bind (operational.renderOrFail _ _ name) fun rendered => ?_
    split
    · exact operational.pure _
    · refine operational.bind (operational.write _ name _ _) fun written => ?_
      split
      · exact operational.pure _
      · exact operational.bind (operational.notify _ name _) fun warnings => operational.pure _

end Action.Operational

end Scaffold.Project
