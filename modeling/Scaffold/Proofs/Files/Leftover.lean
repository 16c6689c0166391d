import Scaffold.Proofs.Files.ClearWay

/-!
# What is left of an attempt that failed

Making directories and writing a new file along a path without `..` fails with nothing changed,
unless a component is too long: the directories that were missing above it have then been made and
stay.  Nothing else ever stops an attempt halfway, and wherever a path is `Blocked` so, it is
stopped there.
-/

namespace Scaffold.Files.Disk

variable {d d' : Disk} {p q : Path} {dir : Location} {fault : Fault} {content : Content}
  {limit : Nat}

/-- The second path is on the way to the first one and ends with a component that is too long. -/
structure Overlong (p q : Path) : Prop where
  root : q.root = p.root
  onTheWay : q.parts <+: p.parts
  nonempty : q.parts ≠ []
  long : maxNameBytes < Text.Utf8.size q.name

namespace Overlong

theorem self (nonempty : p.parts ≠ []) (long : maxNameBytes < Text.Utf8.size p.name) :
    Overlong p p :=
  ⟨rfl, List.prefix_rfl, nonempty, long⟩

theorem of_parent (overlong : Overlong p.parent q) : Overlong p q :=
  ⟨overlong.root, overlong.onTheWay.trans (List.dropLast_prefix _), overlong.nonempty,
    overlong.long⟩

theorem ne_nil (overlong : Overlong p q) : p.parts ≠ [] :=
  fun empty => overlong.nonempty (List.prefix_nil.mp (empty ▸ overlong.onTheWay))

/-- The component that is too long is the last one of the path or is on the way to its parent. -/
theorem eq_or_parent (overlong : Overlong p q) : q = p ∨ Overlong p.parent q := by
  have whole := overlong.ne_nil
  obtain ⟨root, onTheWay, nonempty, long⟩ := overlong
  rw [← Path.dropLast_append_name whole] at onTheWay
  rcases List.prefix_concat_iff.mp onTheWay with same | above
  · rw [Path.dropLast_append_name whole] at same
    rcases p with ⟨_, _⟩
    rcases q with ⟨_, _⟩
    cases root
    cases same
    exact .inl rfl
  · exact .inr ⟨root, above, nonempty, long⟩

theorem prefix_dropLast (overlong : Overlong p q) : q.parts.dropLast <+: p.parts.dropLast := by
  rcases overlong.eq_or_parent with rfl | above
  · exact List.prefix_rfl
  · exact (List.dropLast_prefix _).trans above.onTheWay

end Overlong

/-- The missing directories above a component of the path that is too long have been made, at
    least one of them, and nothing else. -/
structure Leftover (d : Disk) (p q : Path) (d' : Disk) : Prop extends Overlong p q where
  made : ∃ dir, d.HasDirectory q.parent dir d' ∧ d.tree.get? dir = none

theorem Leftover.of_parent (left : d.Leftover p.parent q d') : d.Leftover p q d' :=
  ⟨left.toOverlong.of_parent, left.made⟩

/-- One directory that cannot be made leaves the disk as it is. -/
theorem makeDirectory_eq_of_error (failed : d.makeDirectory p = (.error fault, d')) : d' = d := by
  unfold makeDirectory at failed
  split at failed
  · cases failed
  · cases failed
    rfl
  · rename_i other _ _
    have same := settle_disk d p other
    rw [failed] at same
    exact same

/-- In a directory that had to be made, only a component that is too long stops an attempt. -/
theorem HasDirectory.leftover (parent : d.HasDirectory p.parent dir d') (closed : d.tree.Closed)
    (made : d.tree.get? dir = none) (nonempty : p.parts ≠ []) (plain : p.name ≠ "..")
    (spelled : textObstacle? p = none) :
    d'.FreeAt p dir ∨ d'.Unusable p .nameTooLong ∧ d.Leftover p p d' := by
  by_cases short : Text.Utf8.size p.name ≤ maxNameBytes
  · exact .inl (parent.freeAt closed made nonempty plain spelled short)
  · have long : maxNameBytes < Text.Utf8.size p.name := Nat.lt_of_not_le short
    exact .inr ⟨parent.unusable_of_long nonempty plain spelled long,
      .self nonempty long, dir, parent, made⟩

/-- Making directories fails with nothing changed, or with directories left above a component that
    is too long. -/
theorem makeDirectories_leftover (closed : d.tree.Closed) (plain : ".." ∉ p.parts)
    (spelled : textObstacle? p = none) (failed : d.makeDirectories p limit = (.error fault, d')) :
    d' = d ∨ ∃ q, fault = .obstacle .nameTooLong q ∧ d.Leftover p q d' := by
  fun_induction makeDirectories d p limit with
  | case1 p => exact .inl (makeDirectory_eq_of_error failed)
  | case2 => cases failed
  | case3 =>
    cases failed
    exact .inl rfl
  | case4 p limit q missing above between made ih =>
    have nonempty : p.parts ≠ [] := fun empty => above (Path.parent_of_parts_nil empty)
    have plainParent := Path.not_mem_parent plain
    have plainName := Path.name_ne plain nonempty
    have outcome := attempt_makeDirectories closed plainParent limit
    rw [made] at outcome
    cases outcome with
    | done parent =>
      obtain ⟨dir, parent⟩ := parent
      have absent := parent.made_of_missing (parent_of_add_notFound missing).2
      rcases parent.leftover closed absent nonempty plainName spelled with
        free | ⟨unusable, left⟩
      · have fine := makeDirectory_ok_iff.mpr (.inr ⟨dir, free⟩)
        rw [failed] at fine
        cases fine
      · cases failed.symm.trans (makeDirectory_of_unusable unusable)
        exact .inr ⟨p, rfl, left⟩
  | case5 p limit q missing above notMade ih =>
    have plainParent := Path.not_mem_parent plain
    rcases ih plainParent (textObstacle?_parent spelled) failed with same | ⟨q, rfl, left⟩
    · exact .inl same
    · exact .inr ⟨q, rfl, left.of_parent⟩
  | case6 p limit other _ _ =>
    have same := settle_disk d p other
    rw [failed] at same
    exact .inl same

/-- Writing a new file fails with nothing changed, or with directories left above a component that
    is too long. -/
theorem writeNew_leftover (closed : d.tree.Closed) (plain : ".." ∉ p.parts)
    (nonempty : p.parts ≠ []) (spelled : textObstacle? p = none)
    (failed : d.writeNew p content = (.error fault, d')) :
    d' = d ∨ ∃ q, fault = .obstacle .nameTooLong q ∧ d.Leftover p q d' := by
  have plainParent := Path.not_mem_parent plain
  have plainName := Path.name_ne plain nonempty
  have outcome := attempt_makeDirectories closed plainParent p.parts.length
  unfold writeNew at failed
  rcases ended : d.makeDirectories p.parent p.parts.length with ⟨notMade | ⟨⟩, between⟩
  · rw [ended] at failed
    cases failed
    rcases makeDirectories_leftover closed plainParent (textObstacle?_parent spelled) ended with
      same | ⟨q, rfl, left⟩
    · exact .inl same
    · exact .inr ⟨q, rfl, left.of_parent⟩
  · rw [ended] at outcome failed
    cases outcome with
    | done parent =>
      obtain ⟨dir, parent⟩ := parent
      dsimp only at failed
      split at failed
      · cases failed
      rename_i other notAdded
      cases failed
      by_cases absent : d.tree.get? dir = none
      · rcases parent.leftover closed absent nonempty plainName spelled with
          free | ⟨unusable, left⟩
        · cases notAdded.symm.trans (add_eq_ok.mpr ⟨dir, free, rfl⟩)
        · rw [add, unusable.2.1] at notAdded
          cases notAdded
          exact .inr ⟨p, rfl, left⟩
      · exact .inl (parent.same absent)

/-- A component of a path without `..` is too long, and the way to it leads into a missing
    directory. -/
structure Blocked (d : Disk) (p q : Path) : Prop extends Overlong p q where
  spelled : textObstacle? p = none
  plain : ".." ∉ p.parts
  clear : d.Clear q.parent

namespace Blocked

theorem plain_above (blocked : d.Blocked p q) : ".." ∉ q.parent.parts :=
  Path.not_mem_parent fun member => blocked.plain (blocked.onTheWay.subset member)

theorem at_parent (blocked : d.Blocked p q) (overlong : Overlong p.parent q) :
    d.Blocked p.parent q :=
  ⟨overlong, textObstacle?_parent blocked.spelled, Path.not_mem_parent blocked.plain,
    blocked.clear⟩

/-- Nothing is at the path. -/
theorem exists?_eq_false (blocked : d.Blocked p q) : d.exists? p = .ok false := by
  have missing := blocked.clear.walk_notFound blocked.root
    ((List.dropLast_prefix _).trans blocked.onTheWay) blocked.plain_above
  simp [exists?, test, node, locate, blocked.spelled, missing, Obstacle.meansAbsent]

/-- Nothing can be entered at the path, for lack of a directory above it. -/
theorem add_notFound (blocked : d.Blocked p q) (node : Node) :
    d.add p node = .error (.obstacle .notFound p) :=
  blocked.clear.add_notFound blocked.root blocked.prefix_dropLast blocked.plain_above
    blocked.spelled node

/-- Once the directories above the component have been made, it stops whatever is next. -/
theorem unusable (blocked : d.Blocked q q) (parent : d.HasDirectory q.parent dir d') :
    d'.Unusable q .nameTooLong ∧ d.Leftover q q d' := by
  have missing := blocked.add_notFound .directory
  have made := parent.made_of_missing (parent_of_add_notFound missing).2
  have plainName := Path.name_ne blocked.plain blocked.nonempty
  exact ⟨parent.unusable_of_long blocked.nonempty plainName blocked.spelled blocked.long,
    blocked.toOverlong, dir, parent, made⟩

/-- The directories above the component are made, and then making directories fails. -/
theorem stops_makeDirectories (blocked : d.Blocked p q) (closed : d.tree.Closed)
    (enough : p.parts.length ≤ limit) :
    ∃ d', d.makeDirectories p limit = (.error (.obstacle .nameTooLong q), d') ∧
      d.Leftover p q d' := by
  fun_induction makeDirectories d p limit with
  | case1 => exact absurd (List.eq_nil_of_length_eq_zero (Nat.le_zero.mp enough)) blocked.ne_nil
  | case2 p limit d' added => cases (blocked.add_notFound .directory).symm.trans added
  | case3 p limit other _ top => exact absurd (Path.parts_nil_of_parent top) blocked.ne_nil
  | case4 p limit other _ _ between made ih =>
    rcases blocked.eq_or_parent with rfl | above
    · have plainParent := Path.not_mem_parent blocked.plain
      have outcome := attempt_makeDirectories closed plainParent limit
      rw [made] at outcome
      cases outcome with
      | done parent =>
        obtain ⟨dir, parent⟩ := parent
        obtain ⟨unusable, left⟩ := blocked.unusable parent
        exact ⟨between, makeDirectory_of_unusable unusable, left⟩
    · obtain ⟨d', failed, -⟩ := ih (blocked.at_parent above) (parent_length_le enough)
      cases made.symm.trans failed
  | case5 p limit other _ _ failed ih =>
    rcases blocked.eq_or_parent with rfl | above
    · have plainParent := Path.not_mem_parent blocked.plain
      have reached := makeDirectories_ok_iff closed plainParent (parent_length_le enough)
      exact (failed _ (Prod.ext (reached.mpr (.inr blocked.clear)) rfl)).elim
    · obtain ⟨d', failed, left⟩ := ih (blocked.at_parent above) (parent_length_le enough)
      exact ⟨d', failed, left.of_parent⟩
  | case6 p limit fault other failed =>
    have missing := blocked.add_notFound .directory
    exact absurd (Except.error.inj (failed.symm.trans missing)) (other p)

/-- The directories above the component are made, and then writing a new file fails. -/
theorem stops_writeNew (blocked : d.Blocked p q) (closed : d.tree.Closed) (content : Content) :
    ∃ d', d.writeNew p content = (.error (.obstacle .nameTooLong q), d') ∧ d.Leftover p q d' := by
  have enough : p.parent.parts.length ≤ p.parts.length := (List.dropLast_sublist _).length_le
  unfold writeNew
  rcases blocked.eq_or_parent with rfl | above
  · have plainParent := Path.not_mem_parent blocked.plain
    have reached := (makeDirectories_ok_iff closed plainParent enough).mpr (.inr blocked.clear)
    have outcome := attempt_makeDirectories closed plainParent q.parts.length
    rcases ended : d.makeDirectories q.parent q.parts.length with ⟨result, between⟩
    rw [ended] at reached outcome
    cases outcome with
    | done parent =>
      obtain ⟨dir, parent⟩ := parent
      obtain ⟨unusable, left⟩ := blocked.unusable parent
      refine ⟨between, ?_, left⟩
      simp only [add, unusable.2.1]
    | failed => cases reached
    | halfway => cases reached
  · obtain ⟨d', failed, left⟩ := (blocked.at_parent above).stops_makeDirectories closed enough
    refine ⟨d', ?_, left.of_parent⟩
    rw [failed]

end Blocked

/-- What is left is a change. -/
theorem Leftover.tree_ne (left : d.Leftover p q d') : d'.tree ≠ d.tree := by
  obtain ⟨dir, parent, missing⟩ := left.made
  intro same
  have present := Tree.isDirectory_iff.mp parent.directory
  rw [same, missing] at present
  cases present

end Scaffold.Files.Disk
