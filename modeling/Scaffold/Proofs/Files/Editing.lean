import Scaffold.Files.Edit
import Scaffold.Proofs.Files.Writing

/-!
# Edits keep disks sound

On a sound disk every node lies in a directory, and the place that the disk is seen from is spelled
without `..`.  The empty disk is sound, and edits, new directories and new files keep disks sound.
-/

namespace Scaffold.Files

namespace Tree

variable {t : Tree} {at_ reached : Location} {parts : List String} {used : Nat} {name : String}

theorem closed_empty : empty.Closed := by
  intro at_ name present
  simp [get?, empty] at present

/-- Entries that are kept by their locations only are found where they were. -/
theorem lookup_filter_fst (keep : Location → Bool) (nodes : List (Location × Node))
    (l : Location) :
    (nodes.filter fun entry => keep entry.1).lookup l =
      if keep l = true then nodes.lookup l else none := by
  induction nodes with
  | nil => simp
  | cons entry nodes ih =>
    obtain ⟨at_, node⟩ := entry
    rw [List.filter_cons]
    by_cases same : l = at_
    · subst same
      by_cases kept : keep l = true
      · rw [if_pos kept, if_pos kept, List.lookup_cons_self, List.lookup_cons_self]
      · rw [if_neg kept, ih, if_neg kept, if_neg kept]
    · have differs : (l == at_) = false := beq_eq_false_iff_ne.mpr same
      have onward : ((at_, node) :: nodes).lookup l = nodes.lookup l := by
        rw [List.lookup_cons, differs]
      rw [onward, ← ih]
      split
      · rw [List.lookup_cons, differs]
      · rfl

theorem get?_remove (t : Tree) (at_ l : Location) :
    (t.remove at_).get? l = if l ≠ [] ∧ at_ <+: l then none else t.get? l := by
  by_cases root : l = []
  · simp [get?, root]
  · have kept := lookup_filter_fst (fun l => !at_.isPrefixOf l) t.nodes l
    rw [get?, get?, if_neg root, if_neg root]
    refine kept.trans ?_
    by_cases below : at_ <+: l
    · rw [if_neg (by simpa using below), if_pos ⟨root, below⟩]
    · rw [if_pos (by simpa [← Bool.not_eq_true] using below), if_neg fun both => below both.2]

/-- What is above a place that is left is left, too. -/
theorem Closed.remove (closed : t.Closed) (at_ : Location) : (t.remove at_).Closed := by
  intro dir name present
  rw [get?_remove] at present
  split at present
  · exact absurd rfl present
  · rename_i kept
    have directory := closed dir name present
    rw [isDirectory_iff] at directory ⊢
    rw [get?_remove, if_neg, directory]
    rintro ⟨-, below⟩
    exact kept ⟨by simp, below.trans (List.prefix_append dir [name])⟩

/-- A node can be put in the place of any other one. -/
theorem Closed.replace (closed : t.Closed) (present : t.get? (at_ ++ [name]) ≠ none)
    (node : Node) : (t.replace (at_ ++ [name]) node).Closed := by
  apply (closed.remove _).insert
  · have directory := closed at_ name present
    rw [isDirectory_iff] at directory ⊢
    rw [get?_remove, if_neg, directory]
    exact fun below => not_concat_prefix below.2
  · rw [get?_remove, if_pos]
    exact ⟨by simp, List.prefix_rfl⟩

namespace Leads

/-- Components that start at a node lead to one. -/
theorem present (leads : t.Leads at_ parts used reached) (closed : t.Closed)
    (start : t.get? at_ ≠ none) : t.get? reached ≠ none := by
  induction leads with
  | here => exact start
  | @up at_ _ _ _ directory _ ih =>
    exact ih (closed.present_of_prefix directory (List.dropLast_prefix at_))
  | down _ _ _ found _ _ ih =>
    apply ih
    rw [found]
    exact Option.some_ne_none _
  | through _ _ _ _ _ ih =>
    apply ih
    unfold targetStart
    split
    · exact Option.some_ne_none _
    · exact start

/-- Following components leads to a place that is spelled without `..`. -/
theorem plain (leads : t.Leads at_ parts used reached) (start : ".." ∉ at_) : ".." ∉ reached := by
  induction leads with
  | here => exact start
  | up _ _ ih => exact ih fun member => start ((List.dropLast_sublist _).mem member)
  | down _ different _ _ _ _ ih =>
    apply ih
    rw [List.mem_append, List.mem_singleton, not_or]
    exact ⟨start, different.symm⟩
  | through _ _ _ _ _ ih =>
    apply ih
    unfold targetStart
    split
    · exact List.not_mem_nil
    · exact start

end Leads

end Tree

namespace Disk

variable {d d' : Disk} {p : Path} {node : Node}

/-- Every node lies in a directory, and the disk is seen from a place spelled without `..`. -/
structure Sound (d : Disk) : Prop where
  closed : d.tree.Closed
  plain : ".." ∉ d.here

/-- The disks that come from the empty one by edits. -/
inductive Edited : Disk → Prop
  | empty : Edited ⟨.empty, []⟩
  | put {d : Disk} {p : Path} (node : Node) : Edited d → p.isAbsolute = true ∨ p.parts ≠ [] →
      Edited (d.put p node)
  | removeAll {d : Disk} (p : Path) : Edited d → Edited (d.removeAll p)
  | seenFrom {d : Disk} (p : Path) : Edited d → Edited (d.seenFrom p)

namespace Sound

theorem of_grows {new : Node → Prop} (sound : d.Sound) (grows : d.tree.Grows new d'.tree)
    (here : d'.here = d.here) : d'.Sound :=
  ⟨grows.closed sound.closed, here ▸ sound.plain⟩

theorem makeDirectories (sound : d.Sound) (p : Path) (limit : Nat) :
    (d.makeDirectories p limit).2.Sound := by
  obtain ⟨grows, here⟩ := makeDirectories_grows d p limit
  exact sound.of_grows grows here

theorem add (sound : d.Sound) (added : d.add p node = .ok d') : d'.Sound := by
  obtain ⟨dir, free, rfl⟩ := add_eq_ok.mp added
  exact ⟨sound.closed.insert free.directory free.free, sound.plain⟩

/-- What a path leads to is there, unless the path is that of the place it is seen from. -/
theorem present {at_ : Location} (sound : d.Sound) (located : d.locate true p = .ok at_)
    (proper : p.isAbsolute = true ∨ p.parts ≠ []) : d.tree.get? at_ ≠ none := by
  obtain ⟨-, walked⟩ := locate_eq_ok.mp located
  obtain ⟨used, -, leads⟩ := Tree.walk_eq_ok.mp walked
  apply leads.present sound.closed
  rcases proper with absolute | nonempty
  · rw [start, if_pos absolute]
    exact Option.some_ne_none _
  · rw [Tree.isDirectory_iff.mp (leads.isDirectory_of_ne_nil nonempty)]
    exact Option.some_ne_none _

theorem put (sound : d.Sound) (proper : p.isAbsolute = true ∨ p.parts ≠ []) (node : Node) :
    (d.put p node).Sound := by
  unfold Disk.put
  have sound := sound.makeDirectories p.parent p.parts.length
  generalize (d.makeDirectories p.parent p.parts.length).2 = above at sound
  dsimp only
  split
  · exact sound.makeDirectories p _
  · split
    · rename_i at_ located
      split
      · exact sound
      · rename_i other
        refine ⟨?_, sound.plain⟩
        have present := sound.present located proper
        rcases List.eq_nil_or_concat at_ with rfl | ⟨dir, name, rfl⟩
        · exact absurd rfl other
        · rw [List.concat_eq_append] at present ⊢
          exact sound.closed.replace present node
    · split
      · rename_i added
        exact sound.add added
      · exact sound

theorem removeAll (sound : d.Sound) (p : Path) : (d.removeAll p).Sound := by
  unfold Disk.removeAll
  split
  · exact ⟨sound.closed.remove _, sound.plain⟩
  · exact sound

theorem seenFrom (sound : d.Sound) (p : Path) : (d.seenFrom p).Sound := by
  unfold Disk.seenFrom
  split
  · rename_i at_ located
    obtain ⟨-, walked⟩ := locate_eq_ok.mp located
    obtain ⟨used, -, leads⟩ := Tree.walk_eq_ok.mp walked
    refine ⟨sound.closed, leads.plain ?_⟩
    unfold start
    split
    · exact List.not_mem_nil
    · exact sound.plain
  · exact sound

end Sound

/-- Edits leave sound disks. -/
theorem Edited.sound (edited : d.Edited) : d.Sound := by
  induction edited with
  | empty => exact ⟨Tree.closed_empty, List.not_mem_nil⟩
  | put node _ proper ih => exact ih.put proper node
  | removeAll p _ ih => exact ih.removeAll p
  | seenFrom p _ ih => exact ih.seenFrom p

end Disk

end Scaffold.Files
