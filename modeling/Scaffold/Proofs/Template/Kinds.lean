import Scaffold.Proofs.Files.Listing
import Scaffold.Proofs.Template.Packaged
import Scaffold.Proofs.Text.Suffix

/-!
# Which kinds there are, and which can be had

The kinds of a store are read off the names of the files in its directories, while a template is
looked for at its path, in one directory after the other.  Where the directories hold no links both
come to the same files, but one can be listed whose path is too long for it to be found.
-/

namespace Scaffold.Files

namespace Tree

variable {t : Tree} {at_ : Location} {name : String}

/-- Exactly the names of what is in a directory are listed there. -/
theorem mem_children (orderly : t.Orderly) :
    name ∈ t.children at_ ↔ t.get? (at_ ++ [name]) ≠ none := by
  rw [children, List.mem_mergeSort, List.mem_filterMap]
  constructor
  · rintro ⟨⟨place, node⟩, member, found⟩
    dsimp only at found
    split at found
    · rename_i inside
      obtain ⟨nonempty, rfl⟩ := inside
      rw [List.dropLast_append_getLast? name found, (orderly.mem_nodes nonempty).mp member]
      exact Option.some_ne_none _
    · cases found
  · intro present
    obtain ⟨node, found⟩ := Option.ne_none_iff_exists'.mp present
    exact ⟨(at_ ++ [name], node), mem_nodes_of_get?_eq_some (by simp) found, by simp⟩

end Tree

namespace Disk

variable {d : Disk} {dir : Path} {name : String}

/-- No link is directly in the directory that a path leads to. -/
def Unlinked (d : Disk) (dir : Path) : Prop :=
  ∀ base name target, d.locate true dir = .ok base →
    d.tree.get? (base ++ [name]) ≠ some (.link target)

/-- A file of a name is directly in the directory that a path leads to. -/
def Holds (d : Disk) (dir : Path) (name : String) : Prop :=
  ∃ base content, d.locate true dir = .ok base ∧ d.tree.get? (base ++ [name]) = some (.file content)

/-- A file that a directory holds is found at its path exactly if that is short enough. -/
theorem hasFile_child_iff (closed : d.tree.Closed) (orderly : d.tree.Orderly)
    (unlinked : d.Unlinked dir) (plain : name ≠ "..") :
    d.hasFile (dir.child name) = true ↔ d.Holds dir name ∧ ¬ (dir.child name).TooLong := by
  constructor
  · intro found
    rw [hasFile, node] at found
    rcases located : d.locate true (dir.child name) with why | at_
    · rw [located] at found
      cases found
    rw [located] at found
    refine ⟨?_, not_tooLong_of_locate located⟩
    have whole : d.locate true ⟨dir.root, dir.parts ++ [name]⟩ = .ok at_ := located
    obtain ⟨base, used, toBase, leads⟩ := locate_append whole
    cases leads with
    | up => exact absurd rfl plain
    | through _ _ _ link => exact absurd link (unlinked _ _ _ toBase)
    | @down _ _ _ _ _ entry _ _ _ there _ onward =>
      cases onward
      dsimp only at found
      rw [there] at found
      cases entry with
      | file content => exact ⟨base, content, toBase, there⟩
      | directory => cases found
      | link => cases found
  · rintro ⟨⟨base, content, toBase, there⟩, short⟩
    have present : d.tree.get? (base ++ [name]) ≠ none := by
      rw [there]
      exact Option.some_ne_none _
    have proper : IsName name := orderly.isName present (by simp)
    obtain ⟨fit, walked⟩ := locate_eq_ok.mp toBase
    obtain ⟨used, enough, leads⟩ := Tree.walk_eq_ok.mp walked
    have directory : d.tree.isDirectory base = true :=
      closed.isDirectory_of_prefix present (List.prefix_append _ _) (by simp)
    have onward : d.tree.Leads base [name] 0 (base ++ [name]) :=
      .down directory proper.plain proper.short there rfl .here
    have located : d.locate true (dir.child name) = .ok (base ++ [name]) := by
      refine locate_eq_ok.mpr ⟨?_, Tree.walk_eq_ok.mpr ⟨used, enough, leads.append onward⟩⟩
      have named : ∀ other ∈ [name], IsName other := by simpa using proper
      exact (textObstacle?_under fit named).trans (if_neg short)
    rw [hasFile, node, located]
    dsimp only
    rw [there]
    rfl

end Disk

end Scaffold.Files

namespace Scaffold.Template

open Files

variable {disk : Disk} {dir : Path} {dirs : List Path} {kind name : String} {store : Store}
  {bindings : List (String × String)}

theorem mem_fileNames (orderly : disk.tree.Orderly) (unlinked : disk.Unlinked dir) :
    name ∈ fileNames disk dir ↔ disk.Holds dir name := by
  unfold fileNames Disk.Holds
  cases located : disk.locate true dir with
  | error => simp
  | ok base =>
    simp only [List.mem_filter, Tree.mem_children orderly, Except.ok.injEq, exists_and_left,
      exists_eq_left']
    have noLink := fun target => unlinked base name target located
    cases found : disk.tree.get? (base ++ [name]) with
    | none => simp
    | some node =>
      cases node with
      | directory => simp [isListed]
      | file content => simp [isListed]
      | link target => exact absurd found (noLink target)

theorem kindOf?_eq_some : kindOf? name = some kind ↔ name = kind ++ fileEnding := by
  constructor
  · intro known
    rw [kindOf?] at known
    split at known
    · rename_i ends
      rw [← Option.some.inj known, Text.append_of_endsWith ends]
    · cases known
  · rintro rfl
    rw [kindOf?, if_pos (Text.endsWith_append _ _), Text.dropEnd_append]

/-- The template of a kind is among those that are built in. -/
def IsBuiltIn (kind : String) : Prop := kind ++ fileEnding ∈ builtIn.map (·.1)

/-- The kinds of a store are those that a directory holds a file for, and the built-in ones. -/
theorem mem_kinds (orderly : disk.tree.Orderly)
    (unlinked : ∀ dir ∈ store.directories, disk.Unlinked dir) :
    kind ∈ store.kinds disk ↔
      (∃ dir ∈ store.directories, disk.Holds dir (kind ++ fileEnding)) ∨ IsBuiltIn kind := by
  simp only [Store.kinds, List.mem_eraseDups, List.mem_mergeSort, List.mem_filterMap,
    kindOf?_eq_some, exists_eq_right, List.mem_append, List.mem_flatMap]
  refine or_congr_left ⟨?_, ?_⟩
  · rintro ⟨dir, among, listed⟩
    exact ⟨dir, among, (mem_fileNames orderly (unlinked dir among)).mp listed⟩
  · rintro ⟨dir, among, holds⟩
    exact ⟨dir, among, (mem_fileNames orderly (unlinked dir among)).mpr holds⟩

theorem pairwise_lt_eraseDups {names : List String} (sorted : names.Pairwise (· ≤ ·)) :
    names.eraseDups.Pairwise (· < ·) := by
  induction h : names.length using Nat.strong_induction_on generalizing names with
  | h n ih =>
    cases names with
    | nil => exact List.Pairwise.nil
    | cons name rest =>
      obtain ⟨least, others⟩ := List.pairwise_cons.mp sorted
      rw [List.eraseDups_cons]
      have shorter : (rest.filter fun other => !other == name).length < n := by
        rw [← h, List.length_cons]
        exact Nat.lt_succ_of_le (List.length_filter_le _ _)
      refine List.pairwise_cons.mpr ⟨?_, ih _ shorter (others.filter _) rfl⟩
      intro other member
      obtain ⟨inside, different⟩ := List.mem_filter.mp (List.mem_eraseDups.mp member)
      refine lt_of_le_of_ne (least other inside) ?_
      rintro rfl
      simp at different

/-- The kinds are in order, and none is listed twice. -/
theorem kinds_increasing (store : Store) (disk : Disk) :
    (store.kinds disk).Pairwise (· < ·) := by
  refine pairwise_lt_eraseDups ?_
  refine List.Pairwise.imp of_decide_eq_true (List.pairwise_mergeSort ?_ ?_ _)
  · intro a b c first next
    exact decide_eq_true (le_trans (of_decide_eq_true first) (of_decide_eq_true next))
  · intro a b
    simpa using le_total a b

/-- The template of a kind is in the directory, and its path is short enough for it to be found. -/
def Usable (disk : Disk) (kind : String) (dir : Path) : Prop :=
  disk.Holds dir (kind ++ fileEnding) ∧ ¬ (dir.child (kind ++ fileEnding)).TooLong

/-- The text of a kind's template: that of the first directory that has one, else the built-in
    one. -/
inductive Supplied (disk : Disk) (kind : String) : (dirs : List Path) → (text : List Char) → Prop
  | here {dir : Path} {dirs : List Path} {text : List Char} : Usable disk kind dir →
      disk.readText (dir.child (kind ++ fileEnding)) = .ok text →
      Supplied disk kind (dir :: dirs) text
  | behind {dir : Path} {dirs : List Path} {text : List Char} : ¬ Usable disk kind dir →
      Supplied disk kind dirs text → Supplied disk kind (dir :: dirs) text
  | packaged {text : String} : (kind ++ fileEnding, text) ∈ builtIn →
      Supplied disk kind [] text.toList

theorem length_fileName (kind : String) :
    9 ≤ (kind ++ fileEnding).toList.length := by
  rw [String.toList_append, List.length_append]
  exact Nat.le_add_left _ _

theorem fileName_ne (kind : String) {other : String} (short : other.toList.length < 9) :
    kind ++ fileEnding ≠ other := by
  rintro rfl
  exact absurd (length_fileName kind) (Nat.not_le.mpr short)

theorem nameParts?_of_undivided (undivided : '/' ∉ name.toList) (nonempty : name ≠ "")
    (here : name ≠ ".") (up : name ≠ "..") : nameParts? name = some [name] := by
  have split := List.splitOn_eq_singleton undivided
  have upward : ['.', '.'] ≠ name.toList := by
    intro same
    exact up (String.toList_inj.mp same.symm)
  rw [nameParts?, split, Path.partsOf_of_undivided undivided nonempty here]
  simp [upward]

/-- The template of an undivided kind is looked for by its name alone. -/
theorem nameParts?_fileName (undivided : '/' ∉ kind.toList) :
    nameParts? (kind ++ fileEnding) = some [kind ++ fileEnding] := by
  have whole : '/' ∉ (kind ++ fileEnding).toList := by
    rw [String.toList_append, List.mem_append, not_or]
    exact ⟨undivided, by decide⟩
  exact nameParts?_of_undivided whole (fileName_ne kind (by decide))
    (fileName_ne kind (by decide)) (fileName_ne kind (by decide))

section Search

variable {text : List Char} (closed : disk.tree.Closed) (orderly : disk.tree.Orderly)
  (unlinked : ∀ dir ∈ dirs, disk.Unlinked dir)

include closed orderly unlinked

theorem hasFile_fileName_iff (among : dir ∈ dirs) :
    disk.hasFile (dir.child (kind ++ fileEnding)) = true ↔ Usable disk kind dir :=
  Disk.hasFile_child_iff closed orderly (unlinked dir among) (fileName_ne kind (by decide))

/-- The search ends with the path of a file that holds the text, or the text is built in. -/
theorem Supplied.search (supplied : Supplied disk kind dirs text) :
    (∃ path, (dirs.map (·.child (kind ++ fileEnding))).find? disk.hasFile = some path ∧
      disk.readText path = .ok text) ∨
    (dirs.map (·.child (kind ++ fileEnding))).find? disk.hasFile = none ∧
      ∃ own : String, own.toList = text ∧ (kind ++ fileEnding, own) ∈ builtIn := by
  induction supplied with
  | @here dir dirs text usable read =>
    have found := (hasFile_fileName_iff closed orderly unlinked List.mem_cons_self).mpr usable
    exact .inl ⟨_, List.find?_cons_of_pos found, read⟩
  | @behind dir dirs text useless _ ih =>
    have missed : ¬ disk.hasFile (dir.child (kind ++ fileEnding)) = true := fun found =>
      useless ((hasFile_fileName_iff closed orderly unlinked List.mem_cons_self).mp found)
    rw [List.map_cons, List.find?_cons_of_neg missed]
    exact ih fun other among => unlinked other (List.mem_cons_of_mem _ among)
  | packaged member => exact .inr ⟨rfl, _, rfl, member⟩

theorem search_eq_none (useless : ∀ dir ∈ dirs, ¬ Usable disk kind dir) :
    (dirs.map (·.child (kind ++ fileEnding))).find? disk.hasFile = none := by
  rw [List.find?_eq_none]
  intro path member found
  obtain ⟨dir, among, rfl⟩ := List.mem_map.mp member
  exact useless dir among ((hasFile_fileName_iff closed orderly unlinked among).mp found)

end Search

theorem lookup_builtIn {packaged : String} (member : (name, packaged) ∈ builtIn) :
    builtIn.lookup name = some packaged :=
  (by decide +kernel : ∀ entry ∈ builtIn, builtIn.lookup entry.1 = some entry.2) _ member

theorem lookup_builtIn_eq_none (foreign : ¬ IsBuiltIn kind) :
    builtIn.lookup (kind ++ fileEnding) = none := by
  rw [List.lookup_eq_none_iff]
  intro entry member
  refine bne_iff_ne.mpr fun same => foreign ?_
  rw [IsBuiltIn, same]
  exact List.mem_map_of_mem member

/-- What a template without inclusions comes to once the variables are known. -/
def Fills (bindings : List (String × String)) (text : List Char) (filled : String) : Prop :=
  ∃ (nodes : List Node) (texts : List (List Char)), parse text = .ok nodes ∧
    piecesOf bindings nodes = texts.map .text ∧ filled = String.ofList texts.flatten

/-- The built-in templates parse, and include no others. -/
theorem fills_builtIn {packaged : String} (member : (name, packaged) ∈ builtIn)
    (bindings : List (String × String)) : ∃ filled, Fills bindings packaged.toList filled := by
  obtain ⟨frame, -, parsed⟩ := parse_of_mem_builtIn member
  exact ⟨_, _, _, parsed, piecesOf_packagedNodes bindings frame.1 frame.2, rfl⟩

namespace Store

variable (closed : disk.tree.Closed) (orderly : disk.tree.Orderly)
  (unlinked : ∀ dir ∈ store.directories, disk.Unlinked dir) (undivided : '/' ∉ kind.toList)
  (unread : store.cache.lookup (kind ++ fileEnding) = none)

include closed orderly unlinked undivided

theorem load_of_supplied {text : List Char}
    (supplied : Supplied disk kind store.directories text) :
    ∃ origin, store.load disk (kind ++ fileEnding) = entryOf origin text := by
  rw [load, nameParts?_fileName undivided]
  dsimp only
  rcases supplied.search closed orderly unlinked with
    ⟨path, found, read⟩ | ⟨missed, packaged, rfl, member⟩
  · refine ⟨.file path text, ?_⟩
    have chosen : store.fileOf? disk [kind ++ fileEnding] = some path := found
    rw [chosen]
    dsimp only
    rw [read]
  · refine ⟨.builtIn, ?_⟩
    have chosen : store.fileOf? disk [kind ++ fileEnding] = none := missed
    rw [chosen, String.intercalate_singleton, lookup_builtIn member]

theorem load_of_missing (useless : ∀ dir ∈ store.directories, ¬ Usable disk kind dir)
    (foreign : ¬ IsBuiltIn kind) :
    store.load disk (kind ++ fileEnding) = .error .notFound := by
  have chosen : store.fileOf? disk [kind ++ fileEnding] = none :=
    search_eq_none closed orderly unlinked useless
  rw [load, nameParts?_fileName undivided]
  dsimp only
  rw [chosen, String.intercalate_singleton, lookup_builtIn_eq_none foreign]

include unread

/-- The text of a kind is the first template that is supplied, filled. -/
theorem render_of_supplied {text : List Char} {filled : String}
    (supplied : Supplied disk kind store.directories text) (fills : Fills bindings text filled) :
    (store.render disk kind bindings).1 = .ok filled := by
  obtain ⟨nodes, texts, parsed, plain, rfl⟩ := fills
  obtain ⟨origin, loaded⟩ := load_of_supplied closed orderly unlinked undivided supplied
  have got : ∃ after, store.get disk (kind ++ fileEnding) = (.ok nodes, after) := by
    rw [entryOf, parsed] at loaded
    rw [get, unread]
    dsimp only
    rw [get.fresh, loaded]
    exact ⟨_, rfl⟩
  obtain ⟨after, got⟩ := got
  rw [render, show inclusionLimit = 199 + 1 from rfl, expand_inclusion 199 got plain]

theorem render_of_missing (useless : ∀ dir ∈ store.directories, ¬ Usable disk kind dir)
    (foreign : ¬ IsBuiltIn kind) :
    store.render disk kind bindings = (.error .notFound, store) := by
  have loaded := load_of_missing closed orderly unlinked undivided useless foreign
  have got : store.get disk (kind ++ fileEnding) = (.error .notFound, store) := by
    rw [get, unread]
    dsimp only
    rw [get.fresh, loaded]
  rw [render, show inclusionLimit = 199 + 1 from rfl, expand, expandWith, got]

end Store

end Scaffold.Template
