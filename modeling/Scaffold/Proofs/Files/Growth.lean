import Mathlib.Data.List.Induction
import Scaffold.Proofs.Files.Following

/-!
# Growing trees

Making directories and writing new files only ever enters nodes at free places in directories that
are there.  `Tree.Grows` is the closure of that one step; every node stays in place, no link
appears, and a tree whose nodes all lie in directories stays one.
-/

namespace Scaffold.Files

namespace Tree

/-- Every node lies in a directory. -/
def Closed (t : Tree) : Prop :=
  ∀ (at_ : Location) (name : String), t.get? (at_ ++ [name]) ≠ none → t.isDirectory at_ = true

theorem isDirectory_iff {t : Tree} {at_ : Location} :
    t.isDirectory at_ = true ↔ t.get? at_ = some .directory := by
  unfold isDirectory
  cases found : t.get? at_ with
  | none => simp
  | some node => cases node <;> simp [Node.isDirectory]

/-- It is enough to look at the nodes that are listed. -/
theorem closed_of_nodes {t : Tree}
    (listed : ∀ entry ∈ t.nodes, entry.1 ≠ [] → t.isDirectory entry.1.dropLast = true) :
    t.Closed := by
  intro at_ name present
  have found : (t.nodes.lookup (at_ ++ [name])).isSome = true := by
    simpa [get?, Option.isSome_iff_ne_none] using present
  obtain ⟨entry, member, same⟩ := List.lookup_isSome_iff.mp found
  have equal : at_ ++ [name] = entry.1 := by simpa using same
  have directory := listed entry member (by simp [← equal])
  rwa [← equal, List.dropLast_concat] at directory

/-- All that is above a node is directories. -/
theorem Closed.isDirectory_of_prefix {t : Tree} (closed : t.Closed) {at_ above : Location}
    (present : t.get? at_ ≠ none) (isPrefix : above <+: at_) (different : above ≠ at_) :
    t.isDirectory above = true := by
  obtain ⟨behind, rfl⟩ := isPrefix
  induction behind using List.reverseRecOn with
  | nil => exact absurd (List.append_nil above).symm different
  | append_singleton front name ih =>
    rw [← List.append_assoc] at present
    have directory := closed _ _ present
    by_cases empty : front = []
    · simpa [empty] using directory
    · apply ih
      · rw [isDirectory_iff.mp directory]
        exact Option.some_ne_none _
      · simpa using empty

theorem not_concat_prefix {dir : Location} {name : String} : ¬ dir ++ [name] <+: dir := by
  intro isPrefix
  have shorter := isPrefix.length_le
  rw [List.length_append] at shorter
  exact Nat.not_succ_le_self _ shorter

/-- What is above a directory is not free. -/
theorem Closed.present_of_prefix {t : Tree} {dir l : Location} (closed : t.Closed)
    (directory : t.isDirectory dir = true) (above : l <+: dir) : t.get? l ≠ none := by
  have present : t.get? dir ≠ none := by
    rw [isDirectory_iff.mp directory]
    exact Option.some_ne_none _
  by_cases same : l = dir
  · exact same ▸ present
  · rw [isDirectory_iff.mp (closed.isDirectory_of_prefix present above same)]
    exact Option.some_ne_none _

/-- Nothing lies in a place that holds no directory. -/
theorem Closed.free_of_not_isDirectory {t : Tree} {dir : Location} {name : String}
    (closed : t.Closed) (absent : t.get? dir = none) : t.get? (dir ++ [name]) = none := by
  by_contra present
  have directory := isDirectory_iff.mp (closed dir name present)
  rw [absent] at directory
  cases directory

/-- A node entered at a free place leaves the directories as they are. -/
theorem isDirectory_insert {t : Tree} {dir l : Location} {name : String} {node : Node}
    (free : t.get? (dir ++ [name]) = none) (directory : t.isDirectory l = true) :
    (t.insert (dir ++ [name]) node).isDirectory l = true := by
  rw [isDirectory_iff] at directory ⊢
  rw [get?_insert_of_ne, directory]
  rintro rfl
  rw [free] at directory
  cases directory

theorem Closed.insert {t : Tree} {dir : Location} {name : String} {node : Node}
    (closed : t.Closed) (directory : t.isDirectory dir = true)
    (free : t.get? (dir ++ [name]) = none) : (t.insert (dir ++ [name]) node).Closed := by
  intro at_ child present
  apply isDirectory_insert free
  by_cases equal : at_ ++ [child] = dir ++ [name]
  · obtain ⟨rfl, -⟩ := List.append_inj' equal rfl
    exact directory
  · rw [get?_insert_of_ne _ _ equal] at present
    exact closed at_ child present

/-- The second tree comes from the first one by entering nodes that satisfy `new`, and are no
    links, at free places in directories. -/
inductive Grows (new : Node → Prop) (t : Tree) : Tree → Prop
  | same : Grows new t t
  | enter {t' : Tree} {at_ : Location} {name : String} {node : Node} : Grows new t t' →
      t'.isDirectory at_ = true → t'.get? (at_ ++ [name]) = none → new node →
      node.target? = none → Grows new t (t'.insert (at_ ++ [name]) node)

namespace Grows

variable {new : Node → Prop} {t t' t'' : Tree} {at_ : Location} {node : Node}

theorem trans (grows : Grows new t t') (goesOn : Grows new t' t'') : Grows new t t'' := by
  induction goesOn with
  | same => exact grows
  | enter _ directory free allowed target ih => exact .enter ih directory free allowed target

theorem weaken {wider : Node → Prop} (implies : ∀ node, new node → wider node)
    (grows : Grows new t t') : Grows wider t t' := by
  induction grows with
  | same => exact .same
  | enter _ directory free allowed target ih =>
    exact .enter ih directory free (implies _ allowed) target

/-- Every node stays in its place. -/
theorem keeps (grows : Grows new t t') (present : t.get? at_ = some node) :
    t'.get? at_ = some node := by
  induction grows with
  | same => exact present
  | @enter t' dir name _ _ _ free _ _ ih =>
    have different : at_ ≠ dir ++ [name] := by
      rintro rfl
      rw [ih] at free
      cases free
    rw [get?_insert_of_ne _ _ different, ih]

/-- What was not there before satisfies `new` and is no link. -/
theorem entered (grows : Grows new t t') (present : t'.get? at_ = some node) :
    t.get? at_ = some node ∨ t.get? at_ = none ∧ new node ∧ node.target? = none := by
  induction grows with
  | same => exact .inl present
  | @enter t' dir name other grown _ free allowed target ih =>
    by_cases equal : at_ = dir ++ [name]
    · subst equal
      rw [get?_insert_self _ _ (by simp)] at present
      cases present
      refine .inr ⟨?_, allowed, target⟩
      cases before : t.get? (dir ++ [name]) with
      | none => rfl
      | some old => rw [grown.keeps before] at free; cases free
    · rw [get?_insert_of_ne _ _ equal] at present
      exact ih present

/-- The links are the same ones. -/
theorem link_iff (grows : Grows new t t') (at_ : Location) (target : String) :
    t'.get? at_ = some (.link target) ↔ t.get? at_ = some (.link target) := by
  constructor
  · intro present
    rcases grows.entered present with before | ⟨_, _, noLink⟩
    · exact before
    · cases noLink
  · exact grows.keeps

theorem linkCount_eq (grows : Grows new t t') : t'.linkCount = t.linkCount := by
  induction grows with
  | same => rfl
  | @enter t' dir name node _ _ _ _ target ih =>
    rw [← ih]
    cases node with
    | link _ => cases target
    | directory => simp [linkCount, insert]
    | file content => simp [linkCount, insert]

theorem isDirectory (grows : Grows new t t') (directory : t.isDirectory at_ = true) :
    t'.isDirectory at_ = true :=
  isDirectory_iff.mpr (grows.keeps (isDirectory_iff.mp directory))

theorem closed (grows : Grows new t t') (closed : t.Closed) : t'.Closed := by
  induction grows with
  | same => exact closed
  | enter _ directory free _ _ ih => exact ih.insert directory free

theorem leads {parts : List String} {used : Nat} {reached : Location} (grows : Grows new t t')
    (leads : t.Leads at_ parts used reached) : t'.Leads at_ parts used reached :=
  leads.mono fun _ _ => grows.keeps

end Grows

end Tree

end Scaffold.Files
