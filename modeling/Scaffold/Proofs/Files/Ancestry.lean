import Scaffold.Proofs.Files.PlainWay

/-!
# The directories above a place

The real path of a directory is made of directories all the way, so each of its ancestors is its
own real path.  Of a name in one of them only a link or the length of the path can be in the way of
a test.
-/

namespace Scaffold.Files

namespace Path

variable {p q : Path}

theorem mem_ancestors : q ∈ p.ancestors ↔ q.root = p.root ∧ q.parts <+: p.parts := by
  simp only [ancestors, List.mem_map, List.mem_reverse, List.mem_range]
  constructor
  · rintro ⟨n, -, rfl⟩
    exact ⟨rfl, List.take_prefix _ _⟩
  · rintro ⟨root, isPrefix⟩
    refine ⟨q.parts.length, Nat.lt_succ_of_le isPrefix.length_le, ?_⟩
    rw [← root, ← List.prefix_iff_eq_take.mp isPrefix]

/-- The ancestors of an ancestor are among the ancestors. -/
theorem ancestors_of_mem (member : q ∈ p.ancestors) :
    ∃ above, q.ancestors = q :: above ∧ ∀ r ∈ above, r ∈ p.ancestors := by
  have self : q.ancestors =
      q :: ((List.range q.parts.length).reverse.map fun n => ⟨q.root, q.parts.take n⟩) := by
    rw [ancestors, List.range_succ, List.reverse_append, List.reverse_singleton,
      List.singleton_append, List.map_cons, List.take_length]
  refine ⟨_, self, fun r inside => ?_⟩
  have further : r ∈ q.ancestors := self ▸ List.mem_cons_of_mem q inside
  rw [mem_ancestors] at member further ⊢
  exact ⟨further.1.trans member.1, further.2.trans member.2⟩

end Path

namespace Tree

variable {t : Tree} {base : Location}

/-- The components of a directory lead to it, through no links. -/
theorem leads_of_isDirectory (closed : t.Closed) (orderly : t.Orderly)
    (directory : t.isDirectory base = true) : t.Leads [] base 0 base := by
  induction base using List.reverseRecOn with
  | nil => exact .here
  | append_singleton front name ih =>
    have found := isDirectory_iff.mp directory
    have present : t.get? (front ++ [name]) ≠ none := found ▸ Option.some_ne_none _
    have above := closed front name present
    have proper := orderly.isName present (List.mem_append_right _ List.mem_cons_self)
    exact (ih above).append (.down above proper.plain proper.short found rfl .here)

end Tree

namespace Disk

variable {d : Disk} {p : Path} {base front : Location} {name : String} {used : Nat} {fault : Fault}

theorem node_ne_tooManyLinks_of_isDirectory (closed : d.tree.Closed) (orderly : d.tree.Orderly)
    (directory : d.tree.isDirectory base = true) :
    d.node ⟨.single, base⟩ ≠ .error .tooManyLinks := by
  have leads := Tree.leads_of_isDirectory closed orderly directory
  have walked : d.tree.walk true maxLinks (d.start ⟨.single, base⟩) base = .ok base :=
    Tree.walk_eq_ok.mpr ⟨0, Nat.zero_le _, leads⟩
  rw [node, locate]
  intro looped
  cases spelled : textObstacle? ⟨.single, base⟩ with
  | some why =>
    rw [spelled] at looped
    rcases textObstacle?_eq_some spelled with rfl | rfl <;> cases looped
  | none =>
    rw [spelled] at looped
    dsimp only at looped
    rw [walked] at looped
    dsimp only at looped
    rw [Tree.isDirectory_iff.mp directory] at looped
    cases looped

/-- The real path of what leads to a directory is the place of this directory. -/
theorem resolve_of_leads (sound : d.Sound) (orderly : d.tree.Orderly)
    (clean : (p.parts.any fun part => part.toList.contains '\x00') = false)
    (leads : d.tree.Leads (d.start p) p.parts used base)
    (directory : d.tree.isDirectory base = true) : d.resolve p = .ok ⟨.single, base⟩ := by
  refine resolve_of_found clean ?_
    (node_ne_tooManyLinks_of_isDirectory sound.closed orderly directory)
  rw [(resolves_of_leads sound.plain leads).location]

theorem clean_of_orderly (orderly : d.tree.Orderly) (directory : d.tree.isDirectory base = true) :
    (base.any fun part => part.toList.contains '\x00') = false := by
  rw [List.any_eq_false]
  intro part member
  have present : d.tree.get? base ≠ none :=
    Tree.isDirectory_iff.mp directory ▸ Option.some_ne_none _
  simpa using (orderly.isName present member).clean

/-- The place of a directory is its own real path. -/
theorem resolve_isDirectory (sound : d.Sound) (orderly : d.tree.Orderly)
    (directory : d.tree.isDirectory base = true) :
    d.resolve ⟨.single, base⟩ = .ok ⟨.single, base⟩ :=
  resolve_of_leads sound orderly (clean_of_orderly orderly directory)
    (Tree.leads_of_isDirectory sound.closed orderly directory) directory

/-- A directory that is found has a real path, which is its place. -/
theorem resolve_of_isDirectory? (sound : d.Sound) (orderly : d.tree.Orderly)
    (found : d.isDirectory? p = .ok true) :
    ∃ base, d.tree.isDirectory base = true ∧ d.resolve p = .ok ⟨.single, base⟩ := by
  obtain ⟨base, located, directory⟩ := isDirectory?_eq_true.mp found
  obtain ⟨fit, walked⟩ := locate_eq_ok.mp located
  obtain ⟨used, -, leads⟩ := Tree.walk_eq_ok.mp walked
  have clean := clean_under fit (List.forall_mem_nil fun name : String => '\x00' ∉ name.toList)
  rw [Path.under_nil] at clean
  exact ⟨base, directory, resolve_of_leads sound orderly clean leads directory⟩

/-- A test of a name in a directory fails only if the path is too long or the name is a link. -/
theorem tooLong_or_link_of_test {test : Node → Bool} (sound : d.Sound) (orderly : d.tree.Orderly)
    (directory : d.tree.isDirectory front = true) (proper : IsName name)
    (failed : d.test test ⟨.single, front ++ [name]⟩ = .error fault) :
    fault = .obstacle .nameTooLong ⟨.single, front ++ [name]⟩ ∧
      (Path.TooLong ⟨.single, front ++ [name]⟩ ∨
        ∃ target, d.tree.get? (front ++ [name]) = some (.link target)) := by
  obtain ⟨long, rfl⟩ := test_eq_error.mp failed
  refine ⟨rfl, ?_⟩
  by_contra neither
  rw [not_or, not_exists] at neither
  obtain ⟨short, noLink⟩ := neither
  have fit : textObstacle? ⟨.single, front ++ [name]⟩ = none := by
    have clean : ((front ++ [name]).any fun part => part.toList.contains '\x00') = false := by
      rw [List.any_append, clean_of_orderly orderly directory]
      simpa using proper.clean
    rw [textObstacle?, clean, if_neg Bool.false_ne_true]
    exact if_neg short
  have leads := Tree.leads_of_isDirectory sound.closed orderly directory
  have walked := Tree.walk_append_of_leads [name] leads (Nat.zero_le maxLinks)
  have start : d.start ⟨.single, front ++ [name]⟩ = [] := rfl
  rw [node, locate, fit, start] at long
  dsimp only at long
  rw [walked] at long
  cases found : d.tree.get? (front ++ [name]) with
  | none =>
    rw [Tree.walk_free true [] directory proper.plain proper.short found] at long
    cases long
  | some node =>
    have target : node.target? = none := by
      cases node with
      | link target => exact absurd found (noLink target)
      | _ => rfl
    rw [Tree.walk_down true [] directory proper.plain proper.short found target, Tree.walk_nil]
      at long
    dsimp only at long
    rw [found] at long
    cases long

/-- A test of a link to a name that is too long fails. -/
theorem test_link_tooLong {test : Node → Bool} {target : String} (sound : d.Sound)
    (orderly : d.tree.Orderly) (directory : d.tree.isDirectory front = true)
    (link : d.tree.get? (front ++ [name]) = some (.link target)) (undivided : '/' ∉ target.toList)
    (long : maxNameBytes < Text.Utf8.size target) :
    d.test test ⟨.single, front ++ [name]⟩ =
      .error (.obstacle .nameTooLong ⟨.single, front ++ [name]⟩) := by
  have proper : IsName name := orderly.isName (link ▸ Option.some_ne_none _) (by simp)
  have different (short : String) (few : Text.Utf8.size short ≤ maxNameBytes) : target ≠ short := by
    rintro rfl
    omega
  have path : Path.ofString target = ⟨.relative, [target]⟩ :=
    Path.ofString_of_undivided undivided (different "" (by decide)) (different "." (by decide))
  have leads := Tree.leads_of_isDirectory sound.closed orderly directory
  refine test_eq_error.mpr ⟨node_tooLong ?_ ?_, rfl⟩
  · rw [List.any_append, clean_of_orderly orderly directory]
    simpa using proper.clean
  · have start : targetStart front target = front := by
      rw [targetStart, path]
      rfl
    have walked := Tree.walk_append_of_leads [name] leads (Nat.zero_le maxLinks)
    refine walked.trans ?_
    rw [show maxLinks - 0 = 39 + 1 from rfl,
      Tree.walk_through [] directory proper.plain proper.short link, start, path]
    exact Tree.walk_long true _ directory (different ".." (by decide)) long

end Disk

end Scaffold.Files
