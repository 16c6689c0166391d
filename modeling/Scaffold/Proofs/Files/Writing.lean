import Scaffold.Proofs.Files.Growth

/-!
# Making directories and writing new files

`add` enters a node where its path leads to a free place, and nothing else changes files.  Along a
path without `..`, making directories fills in exactly what is missing: once one directory has been
made, everything below it is free, and only a component that is too long can still be in the way.
-/

namespace Scaffold.Files

namespace Disk

variable {d d' : Disk} {p : Path} {node : Node} {at_ dir : Location}

/-- The path leads to a free place in the directory `dir`. -/
structure FreeAt (d : Disk) (p : Path) (dir : Location) : Prop where
  spelled : textObstacle? p = none
  parent : d.tree.walk true maxLinks (d.start p) p.parts.dropLast = .ok dir
  directory : d.tree.isDirectory dir = true
  nonempty : p.parts ≠ []
  plain : p.name ≠ ".."
  short : Text.Utf8.size p.name ≤ maxNameBytes
  free : d.tree.get? (dir ++ [p.name]) = none

theorem entry_eq_ok : d.entry p = .ok at_ ↔ ∃ dir, d.FreeAt p dir ∧ at_ = dir ++ [p.name] := by
  constructor
  · intro entered
    unfold entry at entered
    split at entered
    · cases entered
    rename_i spelled
    split at entered
    · cases entered
    rename_i dir parent
    split at entered
    · cases entered
    rename_i directory
    split at entered
    · cases entered
    rename_i proper
    split at entered
    · cases entered
    rename_i short
    split at entered
    · cases entered
    rename_i free
    cases entered
    refine ⟨dir, ⟨spelled, parent, by simpa using directory, ?_, ?_, ?_, ?_⟩, rfl⟩
    · exact fun empty => proper (.inl empty)
    · exact fun up => proper (.inr up)
    · exact Nat.not_lt.mp short
    · simpa using free
  · rintro ⟨dir, free, rfl⟩
    have proper : ¬ (p.parts = [] ∨ p.name = "..") := not_or.mpr ⟨free.nonempty, free.plain⟩
    have short : ¬ maxNameBytes < Text.Utf8.size p.name := Nat.not_lt.mpr free.short
    simp [entry, free.spelled, free.parent, free.directory, proper, short, free.free]

/-- The disk with a node entered in a directory. -/
def entering (d : Disk) (at_ : Location) (node : Node) : Disk :=
  { d with tree := d.tree.insert at_ node }

theorem add_eq_ok :
    d.add p node = .ok d' ↔ ∃ dir, d.FreeAt p dir ∧ d' = d.entering (dir ++ [p.name]) node := by
  unfold add
  constructor
  · intro added
    split at added
    · rename_i at_ entered
      obtain ⟨dir, free, rfl⟩ := entry_eq_ok.mp entered
      cases added
      exact ⟨dir, free, rfl⟩
    · cases added
  · rintro ⟨dir, free, rfl⟩
    rw [entry_eq_ok.mpr ⟨dir, free, rfl⟩]
    rfl

namespace FreeAt

theorem grows {new : Node → Prop} (free : d.FreeAt p dir) (allowed : new node)
    (target : node.target? = none) :
    d.tree.Grows new (d.entering (dir ++ [p.name]) node).tree :=
  .enter .same free.directory free.free allowed target

/-- A node that was entered is where its path leads. -/
theorem locate_entering (free : d.FreeAt p dir) (target : node.target? = none) :
    (d.entering (dir ++ [p.name]) node).locate true p = .ok (dir ++ [p.name]) := by
  have grows : d.tree.Grows (fun _ => True) (d.entering (dir ++ [p.name]) node).tree :=
    free.grows trivial target
  obtain ⟨used, enough, leads⟩ := Tree.walk_eq_ok.mp free.parent
  have found : (d.entering (dir ++ [p.name]) node).tree.get? (dir ++ [p.name]) = some node :=
    Tree.get?_insert_self _ _ (by simp)
  have last : (d.entering (dir ++ [p.name]) node).tree.Leads dir [p.name] 0 (dir ++ [p.name]) :=
    .down (grows.isDirectory free.directory) free.plain free.short found target .here
  have whole := (grows.leads leads).append last
  rw [Path.dropLast_append_name free.nonempty] at whole
  exact locate_eq_ok.mpr ⟨free.spelled, Tree.walk_eq_ok.mpr ⟨used, enough, whole⟩⟩

end FreeAt

/-- Only a missing directory above a path keeps a node from being entered for lack of a file. -/
theorem parent_of_add_notFound {q : Path} (failed : d.add p node = .error (.obstacle .notFound q)) :
    textObstacle? p = none ∧
      ∀ dir, d.tree.walk true maxLinks (d.start p) p.parts.dropLast ≠ .ok dir := by
  unfold add at failed
  split at failed
  · cases failed
  rename_i entered
  cases failed
  unfold entry at entered
  split at entered
  · rename_i text
    cases entered
    unfold textObstacle? at text
    split at text
    · cases text
    · split at text <;> cases text
  rename_i spelled
  refine ⟨spelled, ?_⟩
  intro dir parent
  rw [parent] at entered
  simp only at entered
  split at entered
  · cases entered
  split at entered
  · cases entered
  split at entered
  · cases entered
  split at entered <;> cases entered

theorem settle_disk (d : Disk) (p : Path) (fault : Fault) : (d.settle p fault).2 = d := by
  unfold settle
  split <;> rfl

theorem makeDirectory_grows (d : Disk) (p : Path) :
    d.tree.Grows (· = .directory) (d.makeDirectory p).2.tree ∧
      (d.makeDirectory p).2.here = d.here := by
  unfold makeDirectory
  split
  · rename_i d' added
    obtain ⟨dir, free, rfl⟩ := add_eq_ok.mp added
    exact ⟨free.grows rfl rfl, rfl⟩
  · exact ⟨.same, rfl⟩
  · rw [settle_disk]
    exact ⟨.same, rfl⟩

/-- Making directories enters directories at free places. -/
theorem makeDirectories_grows (d : Disk) (p : Path) (limit : Nat) :
    d.tree.Grows (· = .directory) (d.makeDirectories p limit).2.tree ∧
      (d.makeDirectories p limit).2.here = d.here := by
  fun_induction makeDirectories d p limit with
  | case1 p => exact makeDirectory_grows d p
  | case2 p limit d' added =>
    obtain ⟨dir, free, rfl⟩ := add_eq_ok.mp added
    exact ⟨free.grows rfl rfl, rfl⟩
  | case3 => exact ⟨.same, rfl⟩
  | case4 p limit _ _ _ d' made ih =>
    rw [made] at ih
    have last := makeDirectory_grows d' p
    exact ⟨ih.1.trans last.1, last.2.trans ih.2⟩
  | case5 _ _ _ _ _ _ ih => exact ih
  | case6 =>
    rw [settle_disk]
    exact ⟨.same, rfl⟩

/-- What writing a new file does: directories are made, and then the file is entered or nothing
    more happens. -/
theorem writeNew_cases (d : Disk) (p : Path) (content : Content) :
    ∃ d', d.tree.Grows (· = .directory) d'.tree ∧ d'.here = d.here ∧
      ((∃ dir, d'.FreeAt p dir ∧
          d.writeNew p content = (.ok (), d'.entering (dir ++ [p.name]) (.file content))) ∨
        ∃ fault, d.writeNew p content = (.error fault, d')) := by
  have grown := makeDirectories_grows d p.parent p.parts.length
  unfold writeNew
  split
  · rename_i fault d' made
    rw [made] at grown
    exact ⟨d', grown.1, grown.2, .inr ⟨fault, rfl⟩⟩
  · rename_i d' made
    rw [made] at grown
    refine ⟨d', grown.1, grown.2, ?_⟩
    split
    · rename_i d'' added
      obtain ⟨dir, free, rfl⟩ := add_eq_ok.mp added
      exact .inl ⟨dir, free, rfl⟩
    · exact .inr ⟨_, rfl⟩

/-- Writing a new file enters nodes at free places and nothing else. -/
theorem writeNew_grows (d : Disk) (p : Path) (content : Content) :
    d.tree.Grows (fun node => node = .directory ∨ node = .file content)
        (d.writeNew p content).2.tree ∧
      (d.writeNew p content).2.here = d.here := by
  obtain ⟨d', grows, here, ⟨dir, free, written⟩ | ⟨fault, failed⟩⟩ := writeNew_cases d p content
  · rw [written]
    exact ⟨(grows.weaken fun _ => .inl).trans (free.grows (.inr rfl) rfl), here⟩
  · rw [failed]
    exact ⟨grows.weaken fun _ => .inl, here⟩

/-- A new file that was written is where its path leads, at a place that was free, and the only
    one. -/
theorem of_writeNew_eq_ok {content : Content} (written : d.writeNew p content = (.ok (), d')) :
    ∃ at_, d'.locate true p = .ok at_ ∧ d'.tree.get? at_ = some (.file content) ∧
      d.tree.get? at_ = none ∧ ∀ l other, d'.tree.get? l = some (.file other) →
        l = at_ ∨ d.tree.get? l = some (.file other) := by
  obtain ⟨between, grows, -, ⟨dir, free, ended⟩ | ⟨fault, failed⟩⟩ := writeNew_cases d p content
  · cases written.symm.trans ended
    refine ⟨dir ++ [p.name], free.locate_entering rfl, Tree.get?_insert_self _ _ (by simp), ?_, ?_⟩
    · cases before : d.tree.get? (dir ++ [p.name]) with
      | none => rfl
      | some node =>
        rw [← grows.keeps before]
        exact free.free
    · intro l other present
      by_cases equal : l = dir ++ [p.name]
      · exact .inl equal
      · refine .inr ?_
        rw [entering, Tree.get?_insert_of_ne _ _ equal] at present
        rcases grows.entered present with before | ⟨-, directory, -⟩
        · exact before
        · cases directory
  · cases written.symm.trans failed

/-- Where a new file was not written, there are no new files. -/
theorem file_of_writeNew_eq_error {content other : Content} {fault : Fault} {l : Location}
    (failed : d.writeNew p content = (.error fault, d'))
    (present : d'.tree.get? l = some (.file other)) : d.tree.get? l = some (.file other) := by
  obtain ⟨between, grows, -, ⟨dir, free, written⟩ | ⟨fault, ended⟩⟩ := writeNew_cases d p content
  · cases failed.symm.trans written
  · cases failed.symm.trans ended
    rcases grows.entered present with before | ⟨-, directory, -⟩
    · exact before
    · cases directory

end Disk

end Scaffold.Files
