import Scaffold.Plugin.Registry

/-!
# Notices of new files

The plugins that listen for new files are told one after the other, the last one to be registered
first, and a plugin that fails ends the round.  A round therefore reaches exactly the listeners in
front of which none fails, each of them once.
-/

namespace Scaffold.Plugin

/-- Whether a plugin is to be told of new files. -/
def Member.listens (m : Member) : Bool := m.hooks.onCreated.isSome

/-- Whether a plugin fails when it is told of a new file. -/
def Member.failsWhenTold (m : Member) : Bool := m.hooks.onCreated == some true

/-- The call that tells a plugin of a new file. -/
def Member.notice (path name kind : String) (m : Member) : Call := .created m.label path name kind

/-- The plugins that are to be told of new files, in the order of a round. -/
def Registry.listeners (r : Registry) : List Member := r.members.reverse.filter Member.listens

/-- A round through listeners tells all of them, or those up to the first that fails. -/
inductive Round : (listeners told : List Member) → Prop
  | whole {told : List Member} : (∀ m ∈ told, m.failsWhenTold = false) → Round told told
  | cutShort {before after : List Member} {m : Member} :
      (∀ b ∈ before, b.failsWhenTold = false) → m.failsWhenTold = true →
      Round (before ++ m :: after) (before ++ [m])

namespace Round

variable {listeners told : List Member} {m : Member}

theorem cons (fine : m.failsWhenTold = false) (round : Round listeners told) :
    Round (m :: listeners) (m :: told) := by
  cases round with
  | whole quiet => exact .whole (List.forall_mem_cons.mpr ⟨fine, quiet⟩)
  | cutShort quiet fails => exact .cutShort (List.forall_mem_cons.mpr ⟨fine, quiet⟩) fails

/-- Nobody is told out of turn. -/
theorem isPrefix (round : Round listeners told) : told <+: listeners := by
  cases round with
  | whole => exact List.prefix_rfl
  | cutShort => exact ⟨_, List.append_assoc _ _ _⟩

theorem eq_of_quiet (round : Round listeners told)
    (quiet : ∀ m ∈ listeners, m.failsWhenTold = false) : told = listeners := by
  cases round with
  | whole => rfl
  | cutShort _ fails =>
    rw [quiet _ (List.mem_append_right _ List.mem_cons_self)] at fails
    cases fails

/-- A listener is told exactly if none in front of it fails. -/
theorem reaches_iff {before after : List Member}
    (round : Round (before ++ m :: after) told) :
    before ++ [m] <+: told ↔ ∀ b ∈ before, b.failsWhenTold = false := by
  generalize whole : before ++ m :: after = listeners at round
  cases round with
  | whole quiet =>
    subst whole
    refine iff_of_true ⟨after, by simp⟩ ?_
    exact fun b member => quiet b (List.mem_append_left _ member)
  | @cutShort front back culprit quiet fails =>
    constructor
    · intro reached b member
      -- What is told before `m` is told before the culprit as well.
      have short : before <+: front := by
        have shorter : before.length ≤ front.length := by
          have bounded := reached.length_le
          simpa using bounded
        exact List.prefix_of_prefix_length_le ((List.prefix_append before [m]).trans reached)
          (List.prefix_append front [culprit]) shorter
      exact quiet b (short.mem member)
    · intro calm
      have here : before ++ [m] <+: front ++ culprit :: back := ⟨after, by rw [← whole]; simp⟩
      have there : front ++ [culprit] <+: front ++ culprit :: back := ⟨back, by simp⟩
      rcases List.prefix_or_prefix_of_prefix here there with reached | beyond
      · exact reached
      · rcases List.prefix_concat_iff.mp beyond with same | inside
        · exact same ▸ List.prefix_rfl
        · rw [calm culprit (inside.mem (by simp))] at fails
          cases fails

end Round

namespace Registry

variable {path name kind : String}

/-- Telling members is a round through those that listen, and it goes well unless one of those that
    are told fails. -/
theorem tell_round (path name kind : String) (ms : List Member) :
    ∃ told, Round (ms.filter Member.listens) told ∧
      tell path name kind ms =
        (told.map (Member.notice path name kind), !told.any Member.failsWhenTold) := by
  fun_induction tell path name kind ms with
  | case1 => exact ⟨[], .whole nofun, rfl⟩
  | case2 m ms deaf ih =>
    obtain ⟨told, round, ended⟩ := ih
    have skipped : m.listens = false := by rw [Member.listens, deaf, Option.isSome_none]
    rw [List.filter_cons_of_neg (by simp [skipped])]
    exact ⟨told, round, ended⟩
  | case3 m ms failing =>
    have fails : m.failsWhenTold = true := by rw [Member.failsWhenTold, failing, beq_self_eq_true]
    have listens : m.listens = true := by rw [Member.listens, failing, Option.isSome_some]
    rw [List.filter_cons_of_pos listens]
    refine ⟨[m], @Round.cutShort [] _ m nofun fails, ?_⟩
    rw [List.any_cons, fails]
    rfl
  | case4 m ms fine calls well ended ih =>
    obtain ⟨told, round, same⟩ := ih
    have calm : m.failsWhenTold = false := by rw [Member.failsWhenTold, fine]; rfl
    have listens : m.listens = true := by rw [Member.listens, fine, Option.isSome_some]
    rw [ended] at same
    cases same
    rw [List.filter_cons_of_pos listens]
    refine ⟨m :: told, round.cons calm, ?_⟩
    rw [List.any_cons, calm]
    rfl

/-- The warning of a round in which a plugin has failed. -/
def noticeWarning (name : String) : String := "Plugin post-create hook failed for " ++ name

/-- A notice is a round through the listeners, with a warning exactly if one of those that are told
    fails. -/
theorem notify_round (r : Registry) (path name kind : String) :
    ∃ told, Round r.listeners told ∧
      (r.notify path name kind).1 = told.map (Member.notice path name kind) ∧
      (r.notify path name kind).2.2 =
        if told.any Member.failsWhenTold then [noticeWarning name] else [] := by
  obtain ⟨told, round, ended⟩ := tell_round path name kind r.members.reverse
  refine ⟨told, round, ?_⟩
  rw [notify, ended]
  cases told.any Member.failsWhenTold <;> exact ⟨rfl, rfl⟩

end Registry

end Scaffold.Plugin
