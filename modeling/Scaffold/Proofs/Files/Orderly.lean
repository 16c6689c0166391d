import Scaffold.Proofs.Files.Editing

/-!
# Orderly trees

In the tree of a disk as edits leave it, every place is listed once and under proper names, so that
what is listed is what is there.
-/

namespace Scaffold.Files

/-- A text that may be the name of a node. -/
structure IsName (name : String) : Prop where
  plain : name ≠ ".."
  short : Text.Utf8.size name ≤ maxNameBytes
  clean : '\x00' ∉ name.toList

namespace Tree

variable {t : Tree} {at_ dir base : Location} {rel : List String} {name : String} {node : Node}

/-- Every place is listed once, and its components are names. -/
structure Orderly (t : Tree) : Prop where
  distinct : (t.nodes.map Prod.fst).Nodup
  named : ∀ entry ∈ t.nodes, ∀ name ∈ entry.1, IsName name

theorem orderly_of_nodes (distinct : (t.nodes.map Prod.fst).Nodup)
    (named : ∀ entry ∈ t.nodes, ∀ name ∈ entry.1,
      name ≠ ".." ∧ Text.Utf8.size name ≤ maxNameBytes ∧ '\x00' ∉ name.toList) : t.Orderly := by
  refine ⟨distinct, fun entry member name inside => ?_⟩
  obtain ⟨plain, short, clean⟩ := named entry member name inside
  exact ⟨plain, short, clean⟩

theorem mem_nodes_of_get?_eq_some (nonempty : at_ ≠ []) (found : t.get? at_ = some node) :
    (at_, node) ∈ t.nodes := by
  rw [get?, if_neg nonempty] at found
  obtain ⟨before, behind, whole, -⟩ := List.lookup_eq_some_iff.mp found
  rw [whole]
  exact List.mem_append_right _ List.mem_cons_self

namespace Orderly

/-- What is listed is what is there. -/
theorem mem_nodes (orderly : t.Orderly) (nonempty : at_ ≠ []) :
    (at_, node) ∈ t.nodes ↔ t.get? at_ = some node := by
  refine ⟨?_, mem_nodes_of_get?_eq_some nonempty⟩
  intro member
  obtain ⟨before, behind, whole⟩ := List.append_of_mem member
  have distinct := orderly.distinct
  rw [whole, List.map_append, List.map_cons, List.nodup_append] at distinct
  rw [get?, if_neg nonempty, whole, List.lookup_eq_some_iff]
  refine ⟨before, behind, rfl, ?_⟩
  intro entry entryMember
  have apart := distinct.2.2 entry.1 (List.mem_map_of_mem entryMember) at_ List.mem_cons_self
  exact bne_iff_ne.mpr apart.symm

theorem isName (orderly : t.Orderly) (present : t.get? at_ ≠ none) (member : name ∈ at_) :
    IsName name := by
  obtain ⟨node, found⟩ := Option.ne_none_iff_exists'.mp present
  exact orderly.named _ (mem_nodes_of_get?_eq_some (List.ne_nil_of_mem member) found) name member

theorem empty : Tree.empty.Orderly := ⟨List.nodup_nil, by simp [Tree.empty]⟩

theorem insert (orderly : t.Orderly) (free : t.get? at_ = none)
    (named : ∀ name ∈ at_, IsName name) (node : Node) : (t.insert at_ node).Orderly where
  distinct := by
    refine List.nodup_cons.mpr ⟨?_, orderly.distinct⟩
    intro member
    obtain ⟨entry, entryMember, rfl⟩ := List.mem_map.mp member
    have nonempty : entry.1 ≠ [] := by
      intro root
      rw [root, get?, if_pos rfl] at free
      cases free
    rw [(orderly.mem_nodes nonempty).mp entryMember] at free
    cases free
  named := by
    intro entry member
    rcases List.mem_cons.mp member with rfl | member
    · exact named
    · exact orderly.named entry member

theorem remove (orderly : t.Orderly) (at_ : Location) : (t.remove at_).Orderly where
  distinct := orderly.distinct.sublist (List.filter_sublist.map _)
  named entry member := orderly.named entry (List.mem_filter.mp member).1

theorem replace (orderly : t.Orderly) (present : t.get? at_ ≠ none) (nonempty : at_ ≠ [])
    (node : Node) : (t.replace at_ node).Orderly := by
  refine (orderly.remove at_).insert ?_ (fun name => orderly.isName present) node
  rw [get?_remove, if_pos ⟨nonempty, List.prefix_rfl⟩]

end Orderly

end Tree

namespace Disk

variable {d d' : Disk} {p : Path} {node : Node} {dir : Location}

theorem FreeAt.isName (free : d.FreeAt p dir) : IsName p.name where
  plain := free.plain
  short := free.short
  clean := by
    have spelled := free.spelled
    intro member
    rw [textObstacle?, if_pos] at spelled
    · cases spelled
    · refine List.any_eq_true.mpr ⟨p.name, ?_, by simpa using member⟩
      rw [← Path.dropLast_append_name free.nonempty]
      exact List.mem_append_right _ List.mem_cons_self

end Disk

namespace Tree.Orderly

open Disk

variable {d d' : Disk} {p : Path} {node : Node}

theorem add (orderly : d.tree.Orderly) (added : d.add p node = .ok d') : d'.tree.Orderly := by
  obtain ⟨dir, free, rfl⟩ := add_eq_ok.mp added
  refine orderly.insert free.free ?_ node
  intro name member
  rcases List.mem_append.mp member with above | last
  · exact orderly.isName (by simp [isDirectory_iff.mp free.directory]) above
  · rw [List.mem_singleton.mp last]
    exact free.isName

theorem makeDirectory (orderly : d.tree.Orderly) (p : Path) :
    (d.makeDirectory p).2.tree.Orderly := by
  unfold Disk.makeDirectory
  split
  · rename_i added
    exact orderly.add added
  · exact orderly
  · rw [settle_disk]
    exact orderly

theorem makeDirectories (orderly : d.tree.Orderly) (p : Path) (limit : Nat) :
    (d.makeDirectories p limit).2.tree.Orderly := by
  fun_induction Disk.makeDirectories d p limit with
  | case1 p => exact orderly.makeDirectory p
  | case2 p limit d' added => exact orderly.add added
  | case3 => exact orderly
  | case4 p limit _ _ _ d' made ih =>
    rw [made] at ih
    exact ih.makeDirectory p
  | case5 _ _ _ _ _ _ ih => exact ih
  | case6 =>
    rw [settle_disk]
    exact orderly

theorem put (orderly : d.tree.Orderly) (sound : d.Sound)
    (proper : p.isAbsolute = true ∨ p.parts ≠ []) (node : Node) :
    (d.put p node).tree.Orderly := by
  unfold Disk.put
  replace sound := sound.makeDirectories p.parent p.parts.length
  replace orderly := orderly.makeDirectories p.parent p.parts.length
  generalize (d.makeDirectories p.parent p.parts.length).2 = above at sound orderly
  dsimp only
  split
  · exact orderly.makeDirectories p _
  · split
    · rename_i at_ located
      split
      · exact orderly
      · rename_i other
        refine orderly.replace (sound.present located proper) ?_ node
        rintro rfl
        exact other rfl
    · split
      · rename_i added
        exact orderly.add added
      · exact orderly

theorem removeAll (orderly : d.tree.Orderly) (p : Path) : (d.removeAll p).tree.Orderly := by
  unfold Disk.removeAll
  split
  · exact orderly.remove _
  · exact orderly

theorem seenFrom (orderly : d.tree.Orderly) (p : Path) : (d.seenFrom p).tree.Orderly := by
  unfold Disk.seenFrom
  split <;> exact orderly

end Tree.Orderly

/-- Edits leave orderly trees. -/
theorem Disk.Edited.orderly {d : Disk} (edited : d.Edited) : d.tree.Orderly := by
  induction edited with
  | empty => exact .empty
  | put node earlier proper ih => exact ih.put earlier.sound proper node
  | removeAll p _ ih => exact ih.removeAll p
  | seenFrom p _ ih => exact ih.seenFrom p

end Scaffold.Files
