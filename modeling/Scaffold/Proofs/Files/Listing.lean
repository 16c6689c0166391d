import Mathlib.Data.List.Lex
import Mathlib.Data.String.Basic
import Scaffold.Files.Discover
import Scaffold.Proofs.Files.Effect
import Scaffold.Proofs.Files.Obstacles
import Scaffold.Proofs.Files.Orderly

/-!
# What is listed below a directory

In an orderly tree exactly what is below a directory is listed there, in increasing order.  Where
there are no links below it, every entry is found at its path, unless one of the paths is too long
to be tested.
-/

namespace Scaffold.Files

namespace Tree

variable {t : Tree} {base : Location} {rel : List String} {node : Node}

/-- Exactly what is there is listed below a location. -/
theorem mem_below (orderly : t.Orderly) :
    (rel, node) ∈ t.below base ↔ rel ≠ [] ∧ t.get? (base ++ rel) = some node := by
  rw [below, List.mem_mergeSort, List.mem_filterMap]
  constructor
  · rintro ⟨⟨at_, other⟩, member, found⟩
    dsimp only at found
    split at found
    · rename_i behind
      obtain ⟨⟨more, rfl⟩, different⟩ : base <+: at_ ∧ base ≠ at_ :=
        ⟨List.isPrefixOf_iff_prefix.mp behind.1, behind.2⟩
      rw [List.drop_left] at found
      cases found
      have nonempty : rel ≠ [] := by
        rintro rfl
        exact different (List.append_nil base).symm
      exact ⟨nonempty, (orderly.mem_nodes (by simp [nonempty])).mp member⟩
    · cases found
  · rintro ⟨nonempty, found⟩
    refine ⟨(base ++ rel, node), (orderly.mem_nodes (by simp [nonempty])).mpr found, ?_⟩
    have behind : base.isPrefixOf (base ++ rel) = true ∧ base ≠ base ++ rel :=
      ⟨List.isPrefixOf_iff_prefix.mpr (List.prefix_append _ _), by simp [nonempty]⟩
    dsimp only
    rw [if_pos behind, List.drop_left]

/-- The order in which entries are listed. -/
theorem listed_before {a b : Location × Node} :
    (!b.1.lex a.1 fun x y => decide (x < y)) = true ↔ a.1 ≤ b.1 := by
  rw [Bool.not_eq_true', ← Bool.not_eq_true, List.lex_eq_true_iff_lt]
  exact not_lt

/-- What is below a location is listed in increasing order. -/
theorem below_increasing (orderly : t.Orderly) (base : Location) :
    ((t.below base).map Prod.fst).Pairwise (· < ·) := by
  have apart : (t.below base).Pairwise fun a b => a.1 ≠ b.1 := by
    rw [below, (List.mergeSort_perm _ _).pairwise_iff Ne.symm]
    have distinct := List.pairwise_map.mp orderly.distinct
    refine distinct.filterMap _ ?_
    rintro ⟨l, node⟩ ⟨l', node'⟩ different entry member entry' member' same
    dsimp only at member member'
    split at member
    · rename_i behind
      cases member
      split at member'
      · rename_i behind'
        cases member'
        obtain ⟨more, rfl⟩ := List.isPrefixOf_iff_prefix.mp behind.1
        obtain ⟨more', rfl⟩ := List.isPrefixOf_iff_prefix.mp behind'.1
        dsimp only at same
        rw [List.drop_left, List.drop_left] at same
        exact different (congrArg (base ++ ·) same)
      · cases member'
    · cases member
  have sorted : (t.below base).Pairwise fun a b => a.1 ≤ b.1 := by
    refine List.Pairwise.imp listed_before.mp ?_
    refine List.pairwise_mergeSort ?_ ?_ _
    · intro a b c first next
      exact listed_before.mpr ((listed_before.mp first).trans (listed_before.mp next))
    · intro a b
      rw [Bool.or_eq_true, listed_before, listed_before]
      exact le_total a.1 b.1
  rw [List.pairwise_map]
  exact (sorted.and apart).imp fun both => lt_of_le_of_ne both.1 both.2

/-- What is below a directory without links is led to by its components. -/
theorem leads_below (closed : t.Closed) (orderly : t.Orderly)
    (noLinks : ∀ rel target, t.get? (base ++ rel) ≠ some (.link target))
    (present : t.get? (base ++ rel) ≠ none) : t.Leads base rel 0 (base ++ rel) := by
  induction rel generalizing base with
  | nil =>
    rw [List.append_nil]
    exact .here
  | cons name rel ih =>
    have spelled : base ++ name :: rel = base ++ [name] ++ rel := List.append_cons base name rel
    have directory : t.isDirectory base = true :=
      closed.isDirectory_of_prefix present (List.prefix_append _ _) (by simp)
    have proper : IsName name := orderly.isName present (by simp)
    rw [spelled] at present ⊢
    have found : t.get? (base ++ [name]) ≠ none := by
      by_cases last : base ++ [name] = base ++ [name] ++ rel
      · rw [last]
        exact present
      · have inside := closed.isDirectory_of_prefix present (List.prefix_append _ _) last
        rw [isDirectory_iff.mp inside]
        exact Option.some_ne_none _
    obtain ⟨node, found⟩ := Option.ne_none_iff_exists'.mp found
    refine .down directory proper.plain proper.short found ?_ (ih ?_ present)
    · cases node with
      | link target => exact absurd found (noLinks [name] target)
      | _ => rfl
    · intro more target
      rw [List.append_assoc]
      exact noLinks _ target

theorem noLinks_of_nodes (listed : ∀ entry ∈ t.nodes, entry.2.target? = none) :
    ∀ target, t.get? base ≠ some (.link target) := by
  intro target found
  by_cases root : base = []
  · rw [root, get?, if_pos rfl] at found
    cases found
  · have linked := listed _ (mem_nodes_of_get?_eq_some root found)
    cases linked

end Tree

section Tested

variable {test : Location × Node → Except Fault Bool} {entries : List (Location × Node)}
  {fault : Fault}

/-- Where every test can be made, the entries that pass are listed. -/
theorem tested_of_ok {passes : Location × Node → Bool}
    (made : ∀ entry ∈ entries, test entry = .ok (passes entry)) :
    tested test entries = .ok ((entries.filter passes).map Prod.fst) := by
  induction entries with
  | nil => rfl
  | cons entry entries ih =>
    rw [tested, made entry List.mem_cons_self,
      ih fun other member => made other (List.mem_cons_of_mem _ member), List.filter_cons]
    cases passes entry <;> rfl

/-- A test that cannot be made ends the search, unless another one has ended it before. -/
theorem tested_of_error (failed : ∃ entry ∈ entries, ∃ fault, test entry = .error fault) :
    ∃ entry ∈ entries, ∃ fault, test entry = .error fault ∧ tested test entries = .error fault := by
  induction entries with
  | nil =>
    obtain ⟨_, member, -⟩ := failed
    cases member
  | cons entry entries ih =>
    cases first : test entry with
    | error fault =>
      refine ⟨entry, List.mem_cons_self, fault, first, ?_⟩
      rw [tested, first]
    | ok passed =>
      obtain ⟨other, member, fault, raised⟩ := failed
      rcases List.mem_cons.mp member with rfl | member
      · cases first.symm.trans raised
      · obtain ⟨culprit, inside, fault', raised', ended⟩ := ih ⟨other, member, fault, raised⟩
        refine ⟨culprit, List.mem_cons_of_mem _ inside, fault', raised', ?_⟩
        rw [tested, first, ended]
        rfl

end Tested

theorem Path.under_nil (p : Path) : p.under [] = p := by
  rw [under, List.append_nil]

/-- The path is too long to be used. -/
def Path.TooLong (p : Path) : Prop := maxPathBytes ≤ Text.Utf8.size p.toString

instance (p : Path) : Decidable p.TooLong := inferInstanceAs (Decidable (_ ≤ _))

namespace Disk

variable {d : Disk} {p : Path} {node : Node} {base : Location} {rel : List String}

/-- The path leads to a directory without links below it. -/
structure LinkFree (d : Disk) (p : Path) (base : Location) : Prop where
  located : d.locate true p = .ok base
  directory : d.tree.isDirectory base = true
  noLinks : ∀ rel target, d.tree.get? (base ++ rel) ≠ some (.link target)

/-- The path of everything below a directory is short enough to be used. -/
def Reaches (d : Disk) (p : Path) (base : Location) : Prop :=
  ∀ rel, d.tree.get? (base ++ rel) ≠ none → ¬ (p.under rel).TooLong

theorem not_tooLong_of_locate (located : d.locate true p = .ok base) : ¬ p.TooLong := by
  obtain ⟨fit, -⟩ := locate_eq_ok.mp located
  rw [textObstacle?] at fit
  split at fit
  · cases fit
  · exact fun long => absurd ((if_pos long).symm.trans fit) (Option.some_ne_none _)

/-- It is enough to look at the nodes that are listed. -/
theorem reaches_of_nodes (located : d.locate true p = .ok base)
    (short : ∀ entry ∈ d.tree.nodes, ¬ (p.under (entry.1.drop base.length)).TooLong) :
    d.Reaches p base := by
  intro rel present long
  by_cases self : rel = []
  · rw [self, Path.under_nil] at long
    exact not_tooLong_of_locate located long
  · obtain ⟨node, found⟩ := Option.ne_none_iff_exists'.mp present
    have listed := Tree.mem_nodes_of_get?_eq_some (by simp [self]) found
    have fine := short _ listed
    rw [List.drop_left] at fine
    exact fine long

theorem clean_under (fit : textObstacle? p = none) (clean : ∀ name ∈ rel, '\x00' ∉ name.toList) :
    ((p.under rel).parts.any fun part => part.toList.contains '\x00') = false := by
  rw [Path.under, List.any_append, Bool.or_eq_false_iff]
  constructor
  · rw [textObstacle?] at fit
    split at fit
    · cases fit
    · rename_i clean
      exact Bool.not_eq_true _ |>.mp clean
  · rw [List.any_eq_false]
    intro name member
    simpa using clean name member

/-- Of a path below one that is fit for use, only the length can be in the way. -/
theorem textObstacle?_under (fit : textObstacle? p = none) (named : ∀ name ∈ rel, IsName name) :
    textObstacle? (p.under rel) = if (p.under rel).TooLong then some .nameTooLong else none := by
  rw [textObstacle?, clean_under fit fun name member => (named name member).clean,
    if_neg Bool.false_ne_true]
  rfl

namespace LinkFree

theorem isName (orderly : d.tree.Orderly) (present : d.tree.get? (base ++ rel) ≠ none) :
    ∀ name ∈ rel, IsName name :=
  fun _ member => orderly.isName present (List.mem_append_right _ member)

/-- What is below the directory is found at its path, if that is short enough. -/
theorem locate_under (free : d.LinkFree p base) (closed : d.tree.Closed)
    (orderly : d.tree.Orderly) (present : d.tree.get? (base ++ rel) ≠ none)
    (short : ¬ (p.under rel).TooLong) : d.locate true (p.under rel) = .ok (base ++ rel) := by
  obtain ⟨fit, walked⟩ := locate_eq_ok.mp free.located
  obtain ⟨used, enough, leads⟩ := Tree.walk_eq_ok.mp walked
  have onward := Tree.leads_below closed orderly free.noLinks present
  refine locate_eq_ok.mpr ⟨?_, Tree.walk_eq_ok.mpr ⟨used, enough, leads.append onward⟩⟩
  rw [textObstacle?_under fit (isName orderly present), if_neg short]

theorem isDirectory?_under (free : d.LinkFree p base) (closed : d.tree.Closed)
    (orderly : d.tree.Orderly) (found : d.tree.get? (base ++ rel) = some node)
    (short : ¬ (p.under rel).TooLong) : d.isDirectory? (p.under rel) = .ok node.isDirectory := by
  have present : d.tree.get? (base ++ rel) ≠ none := by
    rw [found]
    exact Option.some_ne_none _
  rw [isDirectory?, test, Disk.node, free.locate_under closed orderly present short]
  dsimp only
  rw [found]

theorem isDirectory?_tooLong (free : d.LinkFree p base) (orderly : d.tree.Orderly)
    (present : d.tree.get? (base ++ rel) ≠ none) (long : (p.under rel).TooLong) :
    d.isDirectory? (p.under rel) = .error (.obstacle .nameTooLong (p.under rel)) := by
  obtain ⟨fit, -⟩ := locate_eq_ok.mp free.located
  refine test_eq_error.mpr ⟨?_, rfl⟩
  rw [Disk.node, locate, textObstacle?_under fit (isName orderly present), if_pos long]

theorem isDirectory?_self (free : d.LinkFree p base) : d.isDirectory? p = .ok true :=
  isDirectory?_eq_true.mpr ⟨base, free.located, free.directory⟩

theorem listing_eq (free : d.LinkFree p base) : d.listing p = d.tree.below base := by
  rw [listing, free.located]

/-- The directories below are found, if all paths are short enough. -/
theorem packageDirectories_eq (free : d.LinkFree p base) (closed : d.tree.Closed)
    (orderly : d.tree.Orderly) (reaches : d.Reaches p base) :
    d.packageDirectories p =
      .ok ((((d.tree.below base).filter (·.2.isDirectory)).map Prod.fst).filter isVisible) := by
  have made : ∀ entry ∈ d.tree.below base,
      d.isDirectory? (p.under entry.1) = .ok entry.2.isDirectory := by
    intro entry member
    obtain ⟨-, found⟩ := (Tree.mem_below orderly).mp member
    apply free.isDirectory?_under closed orderly found
    apply reaches
    rw [found]
    exact Option.some_ne_none _
  rw [packageDirectories, free.isDirectory?_self, free.listing_eq]
  dsimp only
  rw [tested_of_ok made]
  rfl

/-- A path below that is too long ends the search. -/
theorem packageDirectories_tooLong (free : d.LinkFree p base) (closed : d.tree.Closed)
    (orderly : d.tree.Orderly) (present : d.tree.get? (base ++ rel) ≠ none)
    (long : (p.under rel).TooLong) :
    ∃ rel, d.tree.get? (base ++ rel) ≠ none ∧ (p.under rel).TooLong ∧
      d.packageDirectories p = .error (.obstacle .nameTooLong (p.under rel)) := by
  obtain ⟨node, found⟩ := Option.ne_none_iff_exists'.mp present
  have nonempty : rel ≠ [] := by
    rintro rfl
    exact not_tooLong_of_locate free.located (Path.under_nil p ▸ long)
  have failed : ∃ entry ∈ d.tree.below base, ∃ fault,
      d.isDirectory? (p.under entry.1) = .error fault :=
    ⟨(rel, node), (Tree.mem_below orderly).mpr ⟨nonempty, found⟩, _,
      free.isDirectory?_tooLong orderly present long⟩
  obtain ⟨⟨culprit, other⟩, member, fault, raised, ended⟩ := tested_of_error failed
  obtain ⟨-, there⟩ := (Tree.mem_below orderly).mp member
  have presentThere : d.tree.get? (base ++ culprit) ≠ none := by
    rw [there]
    exact Option.some_ne_none _
  have longThere : (p.under culprit).TooLong := by
    by_contra short
    cases raised.symm.trans (free.isDirectory?_under closed orderly there short)
  refine ⟨culprit, presentThere, longThere, ?_⟩
  cases raised.symm.trans (free.isDirectory?_tooLong orderly presentThere longThere)
  rw [packageDirectories, free.isDirectory?_self, free.listing_eq]
  dsimp only
  rw [ended]
  rfl

end LinkFree

end Disk

end Scaffold.Files
