import Scaffold.Proofs.Files.Effect

/-!
# When a new file can be written

A file can be written at a path without `..` exactly if the way to it is clear: the path leads to a
directory up to some component which is free there, and neither this one nor any behind it is too
long.  Everything from that component on is then made.
-/

namespace Scaffold.Files

namespace Disk

variable {d d' : Disk} {p : Path} {node : Node} {dir : Location}

/-- The way to a path is clear: the components `front` lead to a directory in which the next one,
    `name`, is free, and the components from there on are short enough. -/
structure ClearFrom (d : Disk) (p : Path) (front : List String) (name : String)
    (rest : List String) (dir : Location) : Prop where
  spelled : textObstacle? p = none
  whole : p.parts = front ++ name :: rest
  walked : d.tree.walk true maxLinks (d.start p) front = .ok dir
  directory : d.tree.isDirectory dir = true
  free : d.tree.get? (dir ++ [name]) = none
  short : ∀ part ∈ name :: rest, Text.Utf8.size part ≤ maxNameBytes

/-- The way to a path is clear from some component on. -/
def Clear (d : Disk) (p : Path) : Prop := ∃ front name rest dir, d.ClearFrom p front name rest dir

theorem Clear.nonempty (clear : d.Clear p) : p.parts ≠ [] := by
  obtain ⟨front, name, rest, dir, clear⟩ := clear
  simp [clear.whole]

theorem Clear.spelled (clear : d.Clear p) : textObstacle? p = none := by
  obtain ⟨front, name, rest, dir, clear⟩ := clear
  exact clear.spelled

theorem Clear.short (clear : d.Clear p) : Text.Utf8.size p.name ≤ maxNameBytes := by
  obtain ⟨front, name, rest, dir, clear⟩ := clear
  have last : p.name = (name :: rest).getLast (List.cons_ne_nil name rest) := by
    rw [Path.name, clear.whole, List.getLastD_eq_getLast?, List.getLast?_append,
      List.getLast?_eq_some_getLast (List.cons_ne_nil name rest)]
    rfl
  exact clear.short _ (last ▸ List.getLast_mem _)

/-- The way to a free place in a directory is clear. -/
theorem FreeAt.clear (free : d.FreeAt p dir) : d.Clear p :=
  ⟨p.parts.dropLast, p.name, [], dir, free.spelled, (Path.dropLast_append_name free.nonempty).symm,
    free.parent, free.directory, free.free, by simpa using free.short⟩

/-- Where the way to a directory is clear, so is the way to what may be made in it. -/
theorem Clear.below (clear : d.Clear p.parent) (nonempty : p.parts ≠ [])
    (spelled : textObstacle? p = none) (short : Text.Utf8.size p.name ≤ maxNameBytes) :
    d.Clear p := by
  obtain ⟨front, name, rest, dir, clear⟩ := clear
  refine ⟨front, name, rest ++ [p.name], dir, spelled, ?_, clear.walked, clear.directory,
    clear.free, ?_⟩
  · have parts : p.parts.dropLast = front ++ name :: rest := clear.whole
    rw [← Path.dropLast_append_name nonempty, parts, List.append_assoc, List.cons_append]
  · rw [← List.cons_append]
    exact List.forall_mem_append.mpr ⟨clear.short, by simpa using short⟩

theorem textObstacle?_parent (spelled : textObstacle? p = none) :
    textObstacle? p.parent = none := by
  by_cases empty : p.parts = []
  · rwa [Path.parent_of_parts_nil empty]
  · have whole : p = ⟨p.root, p.parts.dropLast ++ [p.name]⟩ := by
      rw [Path.dropLast_append_name empty]
    rw [whole] at spelled
    exact textObstacle?_of_append spelled

/-- A free place lies in a directory. -/
theorem FreeAt.isDirectory?_parent (free : d.FreeAt p dir) : d.isDirectory? p.parent = .ok true :=
  isDirectory?_eq_true.mpr
    ⟨dir, locate_eq_ok.mpr ⟨textObstacle?_parent free.spelled, free.parent⟩, free.directory⟩

/-- Components are followed up to a directory that is missing. -/
theorem Clear.walk_notFound {q : Path} {parts : List String} (clear : d.Clear q)
    (root : q.root = p.root) (above : q.parts <+: parts) (plain : ".." ∉ q.parts) :
    d.tree.walk true maxLinks (d.start p) parts = .error .notFound := by
  obtain ⟨front, name, rest, dir, clear⟩ := clear
  obtain ⟨more, rfl⟩ := above
  have plainName : name ≠ ".." := by
    rintro rfl
    exact plain (by simp [clear.whole])
  have start : d.start q = d.start p := by
    rw [Disk.start, Disk.start, Path.isAbsolute, Path.isAbsolute, root]
  obtain ⟨used, enough, leads⟩ := Tree.walk_eq_ok.mp clear.walked
  have stops := Tree.walk_append_of_leads (name :: (rest ++ more)) leads enough
  rwa [Tree.walk_free true (rest ++ more) clear.directory plainName
    (clear.short name List.mem_cons_self) clear.free, ← List.cons_append, ← List.append_assoc,
    ← clear.whole, start] at stops

/-- Nothing can be entered below a directory that is missing itself. -/
theorem Clear.add_notFound {q : Path} (clear : d.Clear q) (root : q.root = p.root)
    (above : q.parts <+: p.parts.dropLast) (plain : ".." ∉ q.parts)
    (spelled : textObstacle? p = none) (node : Node) :
    d.add p node = .error (.obstacle .notFound p) := by
  simp only [add, entry, spelled, clear.walk_notFound root above plain]

/-- A clear way ends at a free place, or with a directory that is missing but can be made. -/
theorem Clear.freeAt_or_parent (clear : d.Clear p) (plain : ".." ∉ p.parts) :
    (∃ dir, d.FreeAt p dir) ∨
      d.Clear p.parent ∧ ∀ node, d.add p node = .error (.obstacle .notFound p) := by
  have nonempty := clear.nonempty
  have last := clear.short
  obtain ⟨front, name, rest, dir, clear⟩ := clear
  rcases List.eq_nil_or_concat rest with rfl | ⟨rest, final, rfl⟩
  · have parts : p.parts.dropLast = front := by rw [clear.whole, List.dropLast_concat]
    have equal : p.name = name := by rw [Path.name, clear.whole, List.getLastD_concat]
    refine .inl ⟨dir, clear.spelled, parts.symm ▸ clear.walked, clear.directory, nonempty, ?_, last,
      ?_⟩
    · exact Path.name_ne plain nonempty
    · rw [equal]
      exact clear.free
  · rw [List.concat_eq_append] at clear
    have parts : p.parts.dropLast = front ++ name :: rest := by
      rw [clear.whole, ← List.cons_append, ← List.append_assoc, List.dropLast_concat]
    have short : ∀ part ∈ name :: rest, Text.Utf8.size part ≤ maxNameBytes := by
      intro part member
      exact clear.short part (List.mem_append_left [final] member)
    have parentClear : d.Clear p.parent := ⟨front, name, rest, dir,
      textObstacle?_parent clear.spelled, parts, clear.walked, clear.directory, clear.free, short⟩
    have plainParent := Path.not_mem_parent plain
    exact .inr ⟨parentClear,
      parentClear.add_notFound rfl List.prefix_rfl plainParent clear.spelled⟩

/-- A path that leads to a directory is not kept from being entered by a missing one. -/
theorem add_ne_notFound {q : Path} (directory : d.isDirectory? p = .ok true) :
    d.add p node ≠ .error (.obstacle .notFound q) := by
  intro missing
  obtain ⟨-, noParent⟩ := parent_of_add_notFound missing
  obtain ⟨dir, located, -⟩ := isDirectory?_eq_true.mp directory
  by_cases empty : p.parts = []
  · apply noParent (d.start p)
    rw [empty, List.dropLast_nil, Tree.walk_nil]
  · have whole : p = ⟨p.root, p.parts.dropLast ++ [p.name]⟩ := by
      rw [Path.dropLast_append_name empty]
    rw [whole] at located
    obtain ⟨base, used, locatedParent, -⟩ := locate_append located
    exact noParent base (locate_eq_ok.mp locatedParent).2

theorem settle_ok_iff {fault : Fault} :
    (d.settle p fault).1 = .ok () ↔ d.isDirectory? p = .ok true := by
  unfold settle
  split <;> simp_all

theorem makeDirectory_ok_iff :
    (d.makeDirectory p).1 = .ok () ↔ d.isDirectory? p = .ok true ∨ ∃ dir, d.FreeAt p dir := by
  unfold makeDirectory
  split
  · rename_i d' added
    obtain ⟨dir, free, -⟩ := add_eq_ok.mp added
    exact iff_of_true rfl (.inr ⟨dir, free⟩)
  · rename_i q missing
    refine iff_of_false (by simp) ?_
    rintro (directory | ⟨dir, free⟩)
    · exact add_ne_notFound directory missing
    · cases missing.symm.trans (add_eq_ok.mpr ⟨dir, free, rfl⟩)
  · rename_i fault _ failed
    rw [settle_ok_iff]
    refine ⟨.inl, ?_⟩
    rintro (directory | ⟨dir, free⟩)
    · exact directory
    · cases failed.symm.trans (add_eq_ok.mpr ⟨dir, free, rfl⟩)

/-- In a directory that had to be made, a further one can be made if the way to it is clear. -/
theorem HasDirectory.makeDirectory_ok_iff (parent : d.HasDirectory p.parent dir d')
    (closed : d.tree.Closed) (made : d.tree.get? dir = none) (clear : d.Clear p.parent)
    (nonempty : p.parts ≠ []) (plain : p.name ≠ "..") (spelled : textObstacle? p = none) :
    (d'.makeDirectory p).1 = .ok () ↔ d.Clear p := by
  constructor
  · intro ended
    rcases parent.freeAt_or_unusable closed made nonempty plain with free | ⟨why, unusable⟩
    · exact clear.below nonempty spelled free.short
    · rw [makeDirectory_of_unusable unusable] at ended
      cases ended
  · intro clear
    exact Disk.makeDirectory_ok_iff.mpr
      (.inr ⟨dir, parent.freeAt closed made nonempty plain clear.spelled clear.short⟩)

theorem parent_length_le {limit : Nat} (enough : p.parts.length ≤ limit + 1) :
    p.parent.parts.length ≤ limit := by
  rw [Path.parent, List.length_dropLast]
  omega

/-- Once the directory above has been made because it was missing, a directory can be made in it
    exactly if it was there or the way to it was clear. -/
theorem HasDirectory.makeDirectory_ok_iff_of_missing {q : Path}
    (parent : d.HasDirectory p.parent dir d') (closed : d.tree.Closed)
    (missing : d.add p .directory = .error (.obstacle .notFound q))
    (reached : d.isDirectory? p.parent = .ok true ∨ d.Clear p.parent) (nonempty : p.parts ≠ [])
    (plain : p.name ≠ "..") :
    (d'.makeDirectory p).1 = .ok () ↔ d.isDirectory? p = .ok true ∨ d.Clear p := by
  obtain ⟨spelled, noParent⟩ := parent_of_add_notFound missing
  have parentClear : d.Clear p.parent := by
    rcases reached with directory | clear
    · obtain ⟨other, located, -⟩ := isDirectory?_eq_true.mp directory
      exact absurd (locate_eq_ok.mp located).2 (noParent other)
    · exact clear
  rw [parent.makeDirectory_ok_iff closed (parent.made_of_missing noParent) parentClear nonempty
    plain spelled]
  refine ⟨.inr, ?_⟩
  rintro (directory | clear)
  · exact absurd missing (add_ne_notFound directory)
  · exact clear

/-- Directories can be made along a path without `..` exactly if the path leads to one or the way
    to it is clear. -/
theorem makeDirectories_ok_iff {limit : Nat} (closed : d.tree.Closed) (plain : ".." ∉ p.parts)
    (enough : p.parts.length ≤ limit) :
    (d.makeDirectories p limit).1 = .ok () ↔ d.isDirectory? p = .ok true ∨ d.Clear p := by
  -- `limit` bounds the components, so that the recursion never ends before the top of the path.
  fun_induction makeDirectories d p limit with
  | case1 p =>
    have empty : p.parts = [] := List.eq_nil_of_length_eq_zero (Nat.le_zero.mp enough)
    rw [makeDirectory_ok_iff]
    refine or_congr_right (iff_of_false ?_ fun clear => clear.nonempty empty)
    rintro ⟨dir, free⟩
    exact free.nonempty empty
  | case2 p limit d' added =>
    obtain ⟨dir, free, -⟩ := add_eq_ok.mp added
    exact iff_of_true rfl (.inr free.clear)
  | case3 p limit q missing top =>
    refine iff_of_false (by simp) ?_
    rintro (directory | clear)
    · exact add_ne_notFound directory missing
    · exact clear.nonempty (Path.parts_nil_of_parent top)
  | case4 p limit q missing above d' made ih =>
    have nonempty : p.parts ≠ [] := fun empty => above (Path.parent_of_parts_nil empty)
    have plainParent := Path.not_mem_parent plain
    have plainName := Path.name_ne plain nonempty
    have outcome := attempt_makeDirectories closed plainParent limit
    have parentMade := ih plainParent (parent_length_le enough)
    rw [made] at outcome parentMade
    cases outcome with
    | done parent =>
      obtain ⟨dir, parent⟩ := parent
      exact parent.makeDirectory_ok_iff_of_missing closed missing (parentMade.mp rfl) nonempty
        plainName
  | case5 p limit q missing above failed ih =>
    have plainParent := Path.not_mem_parent plain
    have parentMade := ih plainParent (parent_length_le enough)
    refine iff_of_false ?_ ?_
    · intro ended
      exact failed _ (Prod.ext ended rfl)
    · rintro (directory | clear)
      · exact add_ne_notFound directory missing
      · rcases clear.freeAt_or_parent plain with ⟨dir, free⟩ | ⟨parentClear, -⟩
        · cases missing.symm.trans (add_eq_ok.mpr ⟨dir, free, rfl⟩)
        · exact failed _ (Prod.ext (parentMade.mpr (.inr parentClear)) rfl)
  | case6 p limit fault other failed =>
    rw [settle_ok_iff]
    refine ⟨.inl, ?_⟩
    rintro (directory | clear)
    · exact directory
    · rcases clear.freeAt_or_parent plain with ⟨dir, free⟩ | ⟨-, missing⟩
      · cases failed.symm.trans (add_eq_ok.mpr ⟨dir, free, rfl⟩)
      · exact absurd (Except.error.inj (failed.symm.trans (missing _))) (other p)

/-- Where a path leads to a directory, nothing had to be made. -/
theorem HasDirectory.eq_of_isDirectory (made : d.HasDirectory p dir d')
    (directory : d.isDirectory? p = .ok true) : d' = d := by
  obtain ⟨other, located, present⟩ := isDirectory?_eq_true.mp directory
  obtain ⟨fit, walked⟩ := locate_eq_ok.mp located
  obtain ⟨used, enough, leads⟩ := Tree.walk_eq_ok.mp walked
  have kept : ∀ l node, d.tree.get? l = some node → d'.tree.get? l = some node :=
    fun l node found => (made.adds l node).mpr (.inl found)
  have start : d'.start p = d.start p := by rw [Disk.start, Disk.start, made.here]
  have still : d'.locate true p = .ok other :=
    locate_eq_ok.mpr ⟨fit, Tree.walk_eq_ok.mpr ⟨used, enough, start ▸ leads.mono kept⟩⟩
  obtain rfl := Except.ok.inj (still.symm.trans made.located)
  apply made.same
  rw [Tree.isDirectory_iff.mp present]
  exact Option.some_ne_none _

/-- In a directory that was there or has been made, a path leads to a free place exactly if the way
    to it was clear. -/
theorem HasDirectory.freeAt_iff_clear (parent : d.HasDirectory p.parent dir d')
    (closed : d.tree.Closed) (reached : d.isDirectory? p.parent = .ok true ∨ d.Clear p.parent)
    (nonempty : p.parts ≠ []) (plain : ".." ∉ p.parts) :
    (∃ other, d'.FreeAt p other) ↔ d.Clear p := by
  constructor
  · rintro ⟨other, free⟩
    rcases reached with directory | clear
    · obtain rfl := parent.eq_of_isDirectory directory
      exact free.clear
    · exact clear.below nonempty free.spelled free.short
  · intro clear
    rcases clear.freeAt_or_parent plain with ⟨other, free⟩ | ⟨-, missing⟩
    · obtain rfl := parent.eq_of_isDirectory free.isDirectory?_parent
      exact ⟨other, free⟩
    · have made := parent.made_of_missing (parent_of_add_notFound (missing .directory)).2
      have plainName := Path.name_ne plain nonempty
      exact ⟨dir, parent.freeAt closed made nonempty plainName clear.spelled clear.short⟩

theorem add_ok_iff (node : Node) : (∃ d', d.add p node = .ok d') ↔ ∃ dir, d.FreeAt p dir := by
  constructor
  · rintro ⟨d', added⟩
    obtain ⟨dir, free, -⟩ := add_eq_ok.mp added
    exact ⟨dir, free⟩
  · rintro ⟨dir, free⟩
    exact ⟨_, add_eq_ok.mpr ⟨dir, free, rfl⟩⟩

/-- A new file can be written at a path without `..` exactly if the way to it is clear. -/
theorem writeNew_ok_iff (closed : d.tree.Closed) (plain : ".." ∉ p.parts) (nonempty : p.parts ≠ [])
    (content : Content) : (d.writeNew p content).1 = .ok () ↔ d.Clear p := by
  have plainParent := Path.not_mem_parent plain
  have enough : p.parent.parts.length ≤ p.parts.length := (List.dropLast_sublist _).length_le
  have outcome := attempt_makeDirectories closed plainParent p.parts.length
  have reached := makeDirectories_ok_iff closed plainParent enough
  unfold writeNew
  rcases ended : d.makeDirectories p.parent p.parts.length with ⟨fault | ⟨⟩, d'⟩
  · rw [ended] at reached
    refine iff_of_false (by simp) fun clear => ?_
    have failed := reached.not.mp (by simp)
    rcases clear.freeAt_or_parent plain with ⟨dir, free⟩ | ⟨parentClear, -⟩
    · exact failed (.inl free.isDirectory?_parent)
    · exact failed (.inr parentClear)
  · rw [ended] at outcome reached
    cases outcome with
    | done parent =>
      obtain ⟨dir, parent⟩ := parent
      rw [← parent.freeAt_iff_clear closed (reached.mp rfl) nonempty plain,
        ← add_ok_iff (.file content)]
      simp only
      split
      · rename_i d'' added
        exact iff_of_true rfl ⟨d'', added⟩
      · rename_i fault failed
        exact iff_of_false (by simp) fun ⟨_, added⟩ => by cases failed.symm.trans added

end Disk

end Scaffold.Files
