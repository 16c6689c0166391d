import Scaffold.Proofs.Files.Writing

/-!
# What making directories and files leaves behind

Along a path without `..`, an attempt to make something succeeds with exactly what was missing,
fails with nothing changed, or stops halfway.  It never stops halfway because something is there:
once one directory has been made, everything below it is free.
-/

namespace Scaffold.Files

namespace Tree

variable {t t' t'' : Tree} {at_ dir : Location} {name : String}

/-- The second tree has, besides the nodes of the first one, directories at all free places down to
    `at_`. -/
def AddsDirectories (t t' : Tree) (at_ : Location) : Prop :=
  ∀ l node, t'.get? l = some node ↔
    t.get? l = some node ∨ t.get? l = none ∧ l <+: at_ ∧ node = .directory

/-- The second tree has, besides the nodes of the first one, a file at a free place and directories
    at all free places above it. -/
structure AddsFile (t t' : Tree) (at_ : Location) (content : Content) : Prop where
  free : t.get? at_ = none
  nodes : ∀ l node, t'.get? l = some node ↔
    t.get? l = some node ∨ l = at_ ∧ node = .file content ∨
      t.get? l = none ∧ l <+: at_ ∧ l ≠ at_ ∧ node = .directory

theorem get?_insert_concat {node : Node} {l : Location} {found : Node} :
    (t.insert (dir ++ [name]) node).get? l = some found ↔
      l = dir ++ [name] ∧ found = node ∨ l ≠ dir ++ [name] ∧ t.get? l = some found := by
  by_cases equal : l = dir ++ [name]
  · subst equal
    rw [get?_insert_self _ _ (by simp)]
    simp [eq_comm]
  · rw [get?_insert_of_ne _ _ equal]
    simp [equal]

/-- Entering a directory in a directory adds just that one. -/
theorem addsDirectories_insert (closed : t.Closed) (directory : t.isDirectory dir = true)
    (free : t.get? (dir ++ [name]) = none) :
    t.AddsDirectories (t.insert (dir ++ [name]) .directory) (dir ++ [name]) := by
  intro l node
  rw [get?_insert_concat, List.prefix_concat_iff]
  constructor
  · rintro (⟨rfl, rfl⟩ | ⟨-, found⟩)
    · exact .inr ⟨free, .inl rfl, rfl⟩
    · exact .inl found
  · rintro (found | ⟨absent, rfl | above, rfl⟩)
    · refine .inr ⟨?_, found⟩
      rintro rfl
      rw [free] at found
      cases found
    · exact .inl ⟨rfl, rfl⟩
    · exact absurd absent (closed.present_of_prefix directory above)

/-- Entering a directory in the last one that was added adds one more. -/
theorem AddsDirectories.insert (adds : t.AddsDirectories t' dir)
    (free : t.get? (dir ++ [name]) = none) :
    t.AddsDirectories (t'.insert (dir ++ [name]) .directory) (dir ++ [name]) := by
  intro l node
  rw [get?_insert_concat, List.prefix_concat_iff, adds l node]
  constructor
  · rintro (⟨rfl, rfl⟩ | ⟨-, found | ⟨absent, above, rfl⟩⟩)
    · exact .inr ⟨free, .inl rfl, rfl⟩
    · exact .inl found
    · exact .inr ⟨absent, .inr above, rfl⟩
  · rintro (found | ⟨absent, rfl | above, rfl⟩)
    · refine .inr ⟨?_, .inl found⟩
      rintro rfl
      rw [free] at found
      cases found
    · exact .inl ⟨rfl, rfl⟩
    · refine .inr ⟨?_, .inr ⟨absent, above, rfl⟩⟩
      rintro rfl
      exact not_concat_prefix above

/-- Nothing was added below the last directory. -/
theorem AddsDirectories.get?_concat (adds : t.AddsDirectories t' dir)
    (free : t.get? (dir ++ [name]) = none) : t'.get? (dir ++ [name]) = none := by
  cases found : t'.get? (dir ++ [name]) with
  | none => rfl
  | some node =>
    rcases (adds _ node).mp found with before | ⟨-, above, -⟩
    · rw [free] at before
      cases before
    · exact absurd above not_concat_prefix

/-- Directories down to one that is there add nothing. -/
theorem addsDirectories_same (closed : t.Closed) (directory : t.isDirectory dir = true) :
    t.AddsDirectories t dir := by
  intro l node
  constructor
  · exact .inl
  · rintro (found | ⟨absent, above, -⟩)
    · exact found
    · exact absurd absent (closed.present_of_prefix directory above)

/-- A file entered in the last directory adds the file and the directories above it. -/
theorem AddsDirectories.insert_file {content : Content} (adds : t.AddsDirectories t' dir)
    (free : t.get? (dir ++ [name]) = none) :
    t.AddsFile (t'.insert (dir ++ [name]) (.file content)) (dir ++ [name]) content := by
  refine ⟨free, ?_⟩
  intro l node
  rw [get?_insert_concat, List.prefix_concat_iff, adds l node]
  constructor
  · rintro (⟨rfl, rfl⟩ | ⟨different, found | ⟨absent, above, rfl⟩⟩)
    · exact .inr (.inl ⟨rfl, rfl⟩)
    · exact .inl found
    · exact .inr (.inr ⟨absent, .inr above, different, rfl⟩)
  · rintro (found | ⟨rfl, rfl⟩ | ⟨absent, rfl | above, different, rfl⟩)
    · refine .inr ⟨?_, .inl found⟩
      rintro rfl
      rw [free] at found
      cases found
    · exact .inl ⟨rfl, rfl⟩
    · exact absurd rfl different
    · exact .inr ⟨different, .inr ⟨absent, above, rfl⟩⟩

end Tree

namespace Disk

variable {d d' : Disk} {p : Path} {dir : Location}

/-- How an attempt to make something on a disk ends: with it made, with nothing changed, or
    halfway, and then not because something is there. -/
inductive Attempt (d : Disk) (made : Disk → Prop) : Except Fault Unit × Disk → Prop
  | done {d' : Disk} : made d' → Attempt d made (.ok (), d')
  | failed (fault : Fault) : Attempt d made (.error fault, d)
  | halfway {why : Obstacle} (q : Path) (d' : Disk) : why ≠ .alreadyExists →
      Attempt d made (.error (.obstacle why q), d')

/-- The path leads to a directory, which is all that was added to the first disk where it was
    missing. -/
structure HasDirectory (d : Disk) (p : Path) (dir : Location) (d' : Disk) : Prop where
  here : d'.here = d.here
  located : d'.locate true p = .ok dir
  directory : d'.tree.isDirectory dir = true
  adds : d.tree.AddsDirectories d'.tree dir
  /-- A directory that was there was all there was. -/
  same : d.tree.get? dir ≠ none → d' = d

theorem isDirectory?_eq_true :
    d.isDirectory? p = .ok true ↔
      ∃ dir, d.locate true p = .ok dir ∧ d.tree.isDirectory dir = true := by
  unfold isDirectory? test node
  cases located : d.locate true p with
  | error why => cases why <;> simp [Obstacle.meansAbsent]
  | ok dir =>
    cases found : d.tree.get? dir with
    | none => simp [Tree.isDirectory, found, Obstacle.meansAbsent]
    | some node => simp [Tree.isDirectory, found]

/-- Settling for a directory never changes a disk. -/
theorem attempt_settle (closed : d.tree.Closed) (p : Path) (fault : Fault) :
    d.Attempt (fun d' => ∃ dir, d.HasDirectory p dir d') (d.settle p fault) := by
  unfold settle
  split
  · rename_i found
    obtain ⟨dir, located, directory⟩ := isDirectory?_eq_true.mp found
    exact .done ⟨dir, rfl, located, directory, Tree.addsDirectories_same closed directory,
      fun _ => rfl⟩
  · exact .failed fault
  · exact .failed _

/-- A directory made in one that is there is all that is added. -/
theorem FreeAt.hasDirectory (free : d.FreeAt p dir) (closed : d.tree.Closed) :
    d.HasDirectory p (dir ++ [p.name]) (d.entering (dir ++ [p.name]) .directory) where
  here := rfl
  located := free.locate_entering rfl
  directory := Tree.isDirectory_iff.mpr (Tree.get?_insert_self _ _ (by simp))
  adds := Tree.addsDirectories_insert closed free.directory free.free
  same := fun present => absurd free.free present

theorem attempt_makeDirectory (closed : d.tree.Closed) (p : Path) :
    d.Attempt (fun d' => ∃ dir, d.HasDirectory p dir d') (d.makeDirectory p) := by
  unfold makeDirectory
  split
  · rename_i d' added
    obtain ⟨dir, free, rfl⟩ := add_eq_ok.mp added
    exact .done ⟨_, free.hasDirectory closed⟩
  · exact .failed _
  · exact attempt_settle closed p _

/-- Whether a path can be used at all is decided by its text and its last component. -/
def Unusable (d : Disk) (p : Path) (why : Obstacle) : Prop :=
  (why = .nameTooLong ∨ why = .embeddedNull) ∧ d.entry p = .error why ∧ d.locate true p = .error why

theorem textObstacle?_eq_some {why : Obstacle} (obstacle : textObstacle? p = some why) :
    why = .nameTooLong ∨ why = .embeddedNull := by
  unfold textObstacle? at obstacle
  split at obstacle
  · cases obstacle
    exact .inr rfl
  · split at obstacle
    · cases obstacle
      exact .inl rfl
    · cases obstacle

theorem Unusable.ne_alreadyExists {why : Obstacle} (unusable : d.Unusable p why) :
    why ≠ .alreadyExists := by
  rcases unusable.1 with rfl | rfl <;> simp

theorem makeDirectory_of_unusable {why : Obstacle} (unusable : d.Unusable p why) :
    d.makeDirectory p = (.error (.obstacle why p), d) := by
  obtain ⟨rfl | rfl, entered, located⟩ := unusable <;>
    simp [makeDirectory, add, entered, settle, isDirectory?, test, node, located,
      Obstacle.meansAbsent]

namespace HasDirectory

theorem walked (parent : d.HasDirectory p.parent dir d') :
    d'.tree.walk true maxLinks (d'.start p) p.parts.dropLast = .ok dir :=
  (locate_eq_ok.mp parent.located).2

/-- A directory that a path did not lead to has been made. -/
theorem made_of_missing (parent : d.HasDirectory p.parent dir d')
    (missing : ∀ dir, d.tree.walk true maxLinks (d.start p) p.parts.dropLast ≠ .ok dir) :
    d.tree.get? dir = none := by
  by_contra present
  obtain rfl := parent.same present
  exact missing dir parent.walked

/-- Below a directory that had to be made, a path that can be used leads to a free place. -/
theorem freeAt (parent : d.HasDirectory p.parent dir d') (closed : d.tree.Closed)
    (made : d.tree.get? dir = none) (nonempty : p.parts ≠ []) (plain : p.name ≠ "..")
    (spelled : textObstacle? p = none) (short : Text.Utf8.size p.name ≤ maxNameBytes) :
    d'.FreeAt p dir :=
  ⟨spelled, parent.walked, parent.directory, nonempty, plain, short,
    parent.adds.get?_concat (closed.free_of_not_isDirectory made)⟩

/-- A path cannot be used below a directory if its last component is too long. -/
theorem unusable_of_long (parent : d.HasDirectory p.parent dir d') (nonempty : p.parts ≠ [])
    (plain : p.name ≠ "..") (spelled : textObstacle? p = none)
    (long : maxNameBytes < Text.Utf8.size p.name) : d'.Unusable p .nameTooLong := by
  have walked := parent.walked
  refine ⟨.inl rfl, ?_, ?_⟩
  · simp [entry, spelled, walked, parent.directory, nonempty, plain, long]
  · obtain ⟨used, enough, leads⟩ := Tree.walk_eq_ok.mp walked
    have last := Tree.walk_append_of_leads [p.name] leads enough
    rw [Path.dropLast_append_name nonempty,
      Tree.walk_long true [] parent.directory plain long] at last
    simp only [locate, spelled, last]

/-- Below a directory that had to be made, a path leads to a free place or cannot be used. -/
theorem freeAt_or_unusable (parent : d.HasDirectory p.parent dir d') (closed : d.tree.Closed)
    (made : d.tree.get? dir = none) (nonempty : p.parts ≠ []) (plain : p.name ≠ "..") :
    d'.FreeAt p dir ∨ ∃ why, d'.Unusable p why := by
  cases spelled : textObstacle? p with
  | some why =>
    refine .inr ⟨why, textObstacle?_eq_some spelled, ?_, ?_⟩
    · simp only [entry, spelled]
    · simp only [locate, spelled]
  | none =>
    by_cases short : Text.Utf8.size p.name ≤ maxNameBytes
    · exact .inl (parent.freeAt closed made nonempty plain spelled short)
    · have long : maxNameBytes < Text.Utf8.size p.name := Nat.lt_of_not_le short
      exact .inr ⟨_, parent.unusable_of_long nonempty plain spelled long⟩

/-- Making a directory in one that had to be made adds both, or stops halfway. -/
theorem attempt_makeDirectory (parent : d.HasDirectory p.parent dir d') (closed : d.tree.Closed)
    (made : d.tree.get? dir = none) (nonempty : p.parts ≠ []) (plain : p.name ≠ "..") :
    d.Attempt (fun d' => ∃ dir, d.HasDirectory p dir d') (d'.makeDirectory p) := by
  rcases parent.freeAt_or_unusable closed made nonempty plain with free | ⟨why, unusable⟩
  · have unlisted : d.tree.get? (dir ++ [p.name]) = none := closed.free_of_not_isDirectory made
    rw [makeDirectory, add_eq_ok.mpr ⟨dir, free, rfl⟩]
    refine .done ⟨dir ++ [p.name], parent.here, free.locate_entering rfl, ?_, ?_, ?_⟩
    · exact Tree.isDirectory_iff.mpr (Tree.get?_insert_self _ _ (by simp))
    · exact parent.adds.insert unlisted
    · exact fun present => absurd unlisted present
  · rw [makeDirectory_of_unusable unusable]
    exact .halfway p d' unusable.ne_alreadyExists

end HasDirectory

/-- Making directories along a path without `..` adds exactly what is missing, or else changes
    nothing or stops halfway. -/
theorem attempt_makeDirectories (closed : d.tree.Closed) (plain : ".." ∉ p.parts) (limit : Nat) :
    d.Attempt (fun d' => ∃ dir, d.HasDirectory p dir d') (d.makeDirectories p limit) := by
  fun_induction makeDirectories d p limit with
  | case1 p => exact attempt_makeDirectory closed p
  | case2 p limit d' added =>
    obtain ⟨dir, free, rfl⟩ := add_eq_ok.mp added
    exact .done ⟨_, free.hasDirectory closed⟩
  | case3 => exact .failed _
  | case4 p limit q missing above d' made ih =>
    obtain ⟨-, noParent⟩ := parent_of_add_notFound missing
    have outcome := ih (Path.not_mem_parent plain)
    rw [made] at outcome
    cases outcome with
    | done parent =>
      obtain ⟨dir, parent⟩ := parent
      have nonempty : p.parts ≠ [] := fun empty => above (Path.parent_of_parts_nil empty)
      have made := parent.made_of_missing noParent
      exact parent.attempt_makeDirectory closed made nonempty (Path.name_ne plain nonempty)
  | case5 p limit q missing above failed ih =>
    have outcome := ih (Path.not_mem_parent plain)
    cases ended : d.makeDirectories p.parent limit with
    | mk result d' =>
      rw [ended] at outcome
      cases outcome with
      | done => exact absurd ended (failed d')
      | failed fault => exact .failed fault
      | halfway q d' other => exact .halfway q d' other
  | case6 => exact attempt_settle closed _ _

/-- The path leads to a file with a content, which is all that was added to the first disk besides
    missing directories above it. -/
structure HasNewFile (d : Disk) (p : Path) (content : Content) (at_ : Location) (d' : Disk) :
    Prop where
  here : d'.here = d.here
  located : d'.locate true p = .ok at_
  adds : d.tree.AddsFile d'.tree at_ content

theorem HasDirectory.hasNewFile (parent : d.HasDirectory p.parent dir d') (content : Content)
    (free : d'.FreeAt p dir) (unlisted : d.tree.get? (dir ++ [p.name]) = none) :
    d.HasNewFile p content (dir ++ [p.name]) (d'.entering (dir ++ [p.name]) (.file content)) :=
  ⟨parent.here, free.locate_entering rfl, parent.adds.insert_file unlisted⟩

/-- Entering a file below a directory that is there now adds just the file and what had to be
    made. -/
theorem HasDirectory.attempt_add (parent : d.HasDirectory p.parent dir d')
    (closed : d.tree.Closed) (nonempty : p.parts ≠ []) (plain : p.name ≠ "..")
    (content : Content) :
    d.Attempt (fun d' => ∃ at_, d.HasNewFile p content at_ d')
      (match d'.add p (.file content) with
        | .ok d'' => (.ok (), d'')
        | .error fault => (.error fault, d')) := by
  by_cases made : d.tree.get? dir = none
  · rcases parent.freeAt_or_unusable closed made nonempty plain with free | ⟨why, unusable⟩
    · have unlisted : d.tree.get? (dir ++ [p.name]) = none := closed.free_of_not_isDirectory made
      rw [add_eq_ok.mpr ⟨dir, free, rfl⟩]
      exact .done ⟨_, parent.hasNewFile content free unlisted⟩
    · simp only [add, unusable.2.1]
      exact .halfway p d' unusable.ne_alreadyExists
  · obtain rfl := parent.same made
    cases added : d'.add p (.file content) with
    | error fault => exact .failed fault
    | ok d'' =>
      obtain ⟨other, free, rfl⟩ := add_eq_ok.mp added
      obtain rfl := Except.ok.inj (free.parent.symm.trans parent.walked)
      exact .done ⟨_, parent.hasNewFile content free free.free⟩

/-- Writing a new file along a path without `..` adds the file and what is missing above it, or
    else changes nothing or stops halfway. -/
theorem attempt_writeNew (closed : d.tree.Closed) (plain : ".." ∉ p.parts)
    (nonempty : p.parts ≠ []) (content : Content) :
    d.Attempt (fun d' => ∃ at_, d.HasNewFile p content at_ d') (d.writeNew p content) := by
  have plainParent := Path.not_mem_parent plain
  have plainName := Path.name_ne plain nonempty
  have outcome := attempt_makeDirectories closed plainParent p.parts.length
  unfold writeNew
  cases ended : d.makeDirectories p.parent p.parts.length with
  | mk result d' =>
    rw [ended] at outcome
    cases outcome with
    | failed fault => exact .failed fault
    | halfway q d' other => exact .halfway q d' other
    | done parent =>
      obtain ⟨dir, parent⟩ := parent
      exact parent.attempt_add closed nonempty plainName content

end Disk

end Scaffold.Files
