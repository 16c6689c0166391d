import Mathlib.Data.List.Nodup
import Scaffold.Proofs.Files.PlainWay
import Scaffold.Proofs.Files.SourceRoots
import Scaffold.Proofs.Project.Ending
import Scaffold.Proofs.Project.PackagePrefix
import Scaffold.Proofs.Project.Recreation

/-!
# Completing package names

The completions of a prefix are the dotted names of the directories below the source folder that can
be packages.  Where there are no links, they are complete and in order, and each leads back to the
directory that it comes from: a type in it is accepted and placed there, and the directory is given
the completion as its package prefix.  A path that is too long to be tested leaves no completions at
all.
-/

namespace Scaffold.Project

open Files Scala QualifiedName

variable {disk : Disk} {target : Path} {base : Location} {segments : List String} {type : String}

/-- The dotted name of a package. -/
def dotted (segments : List String) : String := ".".intercalate segments

/-- All segments may be those of a package. -/
def ArePackages (segments : List String) : Prop :=
  ∀ segment ∈ segments, isPackageIdent segment.toList = true

/-- The name of a type that is no path and holds no mark of names. -/
structure PlainType (type : String) : Prop where
  valid : isTypeIdent type.toList = true
  undotted : '.' ∉ type.toList
  whole : type.toList.any isSeparator = false
  clean : '\x00' ∉ type.toList

theorem toList_dotted (segments : List String) :
    (dotted segments).toList = ['.'].intercalate (segments.map String.toList) := by
  rw [dotted, String.toList_intercalate]
  rfl

/-- A type behind a dotted package is a qualified name. -/
theorem toList_dotted_append (nonempty : segments ≠ []) (type : String) :
    (dotted segments ++ "." ++ type).toList =
      qualify (segments.map String.toList) type.toList := by
  rw [String.toList_append, String.toList_append, toList_dotted,
    ← intercalate_append (by simpa using nonempty)]
  simp

theorem spells_dotted (packages : ArePackages segments) (nonempty : segments ≠ [])
    (plain : PlainType type) :
    Spells (segments.map String.toList) type.toList (dotted segments ++ "." ++ type).toList where
  packageValid := by
    intro segment member
    obtain ⟨text, inside, rfl⟩ := List.mem_map.mp member
    exact packages text inside
  typeValid := plain.valid
  undotted := plain.undotted
  whole := toList_dotted_append nonempty type

theorem any_qualify {p : Char → Bool} (dot : p '.' = false) (package : List (List Char))
    (type : List Char) :
    (qualify package type).any p = (package.any (·.any p) || type.any p) := by
  induction package with
  | nil => simp [qualify_nil]
  | cons segment package ih =>
    rw [qualify_cons, List.any_append, List.any_cons, ih, dot, List.any_cons, Bool.false_or,
      Bool.or_assoc]

/-- No segment of a package separates components of a path. -/
theorem any_isSeparator (packages : ArePackages segments) :
    (segments.map String.toList).any (·.any isSeparator) = false := by
  rw [List.any_eq_false]
  intro segment member
  obtain ⟨text, inside, rfl⟩ := List.mem_map.mp member
  rw [Bool.not_eq_true, List.any_eq_false]
  intro c within separates
  have java := isJavaPart_of_mem (packages text inside) within
  rw [isSeparator, Bool.or_eq_true, beq_iff_eq, beq_iff_eq] at separates
  rcases separates with rfl | rfl <;> revert java <;> decide

theorem separated_dotted (packages : ArePackages segments) (nonempty : segments ≠ [])
    (plain : PlainType type) :
    (dotted segments ++ "." ++ type).toList.any isSeparator = false := by
  rw [toList_dotted_append nonempty, any_qualify (by decide), any_isSeparator packages, plain.whole]
  rfl

theorem sourceParts_dotted (segments : List String) (type : String) :
    sourceParts (segments.map String.toList) type.toList = segments ++ [type ++ ".scala"] := by
  simp [sourceParts, Function.comp_def]

/-- The path of a type in a package is in the directory of the package. -/
theorem sourcePath_dotted (packages : ArePackages segments) (nonempty : segments ≠ [])
    (plain : PlainType type) (target : Path) :
    sourcePath target (dotted segments ++ "." ++ type) =
      target.under (segments ++ [type ++ ".scala"]) := by
  have separated := separated_dotted packages nonempty plain
  have whole : '/' ∉ (dotted segments ++ "." ++ type).toList := by
    intro member
    rw [List.any_eq_false] at separated
    exact separated '/' member rfl
  rw [sourcePath_of_spells target (spells_dotted packages nonempty plain) whole,
    sourceParts_dotted, Path.under]

theorem clean_source (named : ∀ name ∈ segments, IsName name) (plain : PlainType type) :
    ∀ name ∈ segments ++ [type ++ ".scala"], '\x00' ∉ name.toList := by
  intro name member
  rcases List.mem_append.mp member with above | last
  · exact (named name above).clean
  · rw [List.mem_singleton.mp last, String.toList_append, List.mem_append, not_or]
    exact ⟨plain.clean, by decide⟩

/-- A type in a package is placed in the directory of the package. -/
theorem place_dotted (free : disk.LinkFree target base) (sound : disk.Sound)
    (orderly : disk.tree.Orderly) (named : ∀ name ∈ segments, IsName name)
    (packages : ArePackages segments) (nonempty : segments ≠ []) (plain : PlainType type) :
    place disk target (dotted segments ++ "." ++ type) =
      .ok (target.under (segments ++ [type ++ ".scala"])) := by
  have up : ".." ∉ segments ++ [type ++ ".scala"] := by
    rw [← sourceParts_dotted]
    exact up_not_mem_sourceParts (spells_dotted packages nonempty plain)
  have path := sourcePath_dotted packages nonempty plain target
  have real := free.resolve_under sound orderly up (clean_source named plain)
  have folder := free.resolve_under sound orderly (List.not_mem_nil) nofun
  rw [Path.under_nil] at folder
  rw [← path] at real ⊢
  apply place_of_resolve (separated_dotted packages nonempty plain) real folder
  rw [Path.relativeTo?_isSome, List.append_nil]
  exact ⟨rfl, List.prefix_append base _⟩

theorem dotted_ne_empty (packages : ArePackages segments) (nonempty : segments ≠ []) :
    dotted segments ≠ "" := by
  obtain ⟨first, more, rfl⟩ := List.exists_cons_of_ne_nil nonempty
  have filled := ne_nil_of_isPackageIdent (packages first List.mem_cons_self)
  rw [ne_eq, ← String.toList_inj, toList_dotted]
  cases more <;> simp [List.intercalate_cons_cons, filled]

/-- The package prefix of the directory of a package is the package and a dot. -/
theorem packagePrefix_under (packages : ArePackages segments) (nonempty : segments ≠ [])
    (target : Path) :
    packagePrefix (target.under segments) [target] true = dotted segments ++ "." :=
  packagePrefix_of_append rfl (dotted_ne_empty packages nonempty)

/-- Different packages have different dotted names. -/
theorem dotted_injective {others : List String} (packages : ArePackages segments)
    (nonempty : segments ≠ []) (otherPackages : ArePackages others) (otherNonempty : others ≠ [])
    (same : dotted segments = dotted others) : segments = others := by
  have plain : PlainType "A" := ⟨by decide +kernel, by decide, by decide, by decide⟩
  have spelled := spells_dotted packages nonempty plain
  rw [same] at spelled
  have toLists := (spelled.unique (spells_dotted otherPackages otherNonempty plain)).1
  exact (List.map_injective_iff.mpr fun _ _ => String.toList_inj.mp) toLists

/-- The packages below a location. -/
def packagesBelow (tree : Tree) (base : Location) : List (List String) :=
  ((((tree.below base).filter (·.2.isDirectory)).map Prod.fst).filter isVisible).filter
    fun parts => parts.all fun part => isPackageIdent part.toList

/-- The dotted names of packages that start with a text, letter case aside. -/
def matching (pre : String) (packages : List (List String)) : List String :=
  (packages.map dotted).filter fun item => Text.startsWithLetters pre.toList item.toList

theorem isVisible_of_arePackages (packages : ArePackages segments) : isVisible segments = true := by
  rw [isVisible, List.all_eq_true]
  intro segment member
  have undotted := not_mem_of_isPackageIdent (packages segment member) isJavaPart_dot
  rw [Bool.not_eq_true', ← Bool.not_eq_true, String.startsWith_string_iff]
  intro dot
  exact undotted (dot.mem (by decide))

theorem mem_packagesBelow {tree : Tree} (orderly : tree.Orderly) :
    segments ∈ packagesBelow tree base ↔
      segments ≠ [] ∧ tree.get? (base ++ segments) = some .directory ∧ ArePackages segments := by
  rw [packagesBelow, List.mem_filter, List.mem_filter, List.mem_map, List.all_eq_true]
  constructor
  · rintro ⟨⟨⟨⟨rel, node⟩, listed, rfl⟩, -⟩, packages⟩
    obtain ⟨below, directory⟩ := List.mem_filter.mp listed
    obtain ⟨nonempty, found⟩ := (Tree.mem_below orderly).mp below
    cases node with
    | directory => exact ⟨nonempty, found, packages⟩
    | file => cases directory
    | link => cases directory
  · rintro ⟨nonempty, found, packages⟩
    refine ⟨⟨⟨(segments, .directory), ?_, rfl⟩, isVisible_of_arePackages packages⟩, packages⟩
    exact List.mem_filter.mpr ⟨(Tree.mem_below orderly).mpr ⟨nonempty, found⟩, rfl⟩

/-- Exactly the directories below a location that can be packages, in increasing order, and so that
    they can be told by their dotted names. -/
structure Completes (tree : Tree) (base : Location) (packages : List (List String)) : Prop where
  increasing : packages.Pairwise (· < ·)
  mem_iff : ∀ segments, segments ∈ packages ↔
    segments ≠ [] ∧ tree.get? (base ++ segments) = some .directory ∧ ArePackages segments
  distinct : (packages.map dotted).Nodup

theorem completes_packagesBelow {tree : Tree} (orderly : tree.Orderly) (base : Location) :
    Completes tree base (packagesBelow tree base) := by
  have increasing : (packagesBelow tree base).Pairwise (· < ·) := by
    refine (Tree.below_increasing orderly base).sublist ?_
    exact (List.filter_sublist.trans List.filter_sublist).trans (List.filter_sublist.map _)
  refine ⟨increasing, fun segments => mem_packagesBelow orderly, ?_⟩
  have different : (packagesBelow tree base).Nodup := increasing.imp ne_of_lt
  refine List.Nodup.map_on ?_ different
  intro segments member others otherMember same
  obtain ⟨nonempty, -, packages⟩ := (mem_packagesBelow orderly).mp member
  obtain ⟨otherNonempty, -, otherPackages⟩ := (mem_packagesBelow orderly).mp otherMember
  exact dotted_injective packages nonempty otherPackages otherNonempty same

/-- A package leads back to its directory: a type in it is accepted and placed directly there, and
    the directory has it as its package prefix. -/
structure LeadsBack (disk : Disk) (target : Path) (base : Location) (segments : List String) :
    Prop where
  located : disk.locate true (target.under segments) = .ok (base ++ segments)
  accepted : ∀ type, PlainType type →
    nameObjection? (dotted segments ++ "." ++ type).toList = none
  placed : ∀ type, PlainType type →
    place disk target (dotted segments ++ "." ++ type) =
      .ok ((target.under segments).child (type ++ ".scala"))
  package_prefix : packagePrefix (target.under segments) [target] true = dotted segments ++ "."

theorem leadsBack (free : disk.LinkFree target base) (sound : disk.Sound)
    (orderly : disk.tree.Orderly) (reaches : disk.Reaches target base) (nonempty : segments ≠ [])
    (found : disk.tree.get? (base ++ segments) = some .directory)
    (packages : ArePackages segments) : LeadsBack disk target base segments where
  located := by
    have present : disk.tree.get? (base ++ segments) ≠ none := by
      rw [found]
      exact Option.some_ne_none _
    exact free.locate_under sound.closed orderly present (reaches segments present)
  accepted type plain := nameObjection?_eq_none.mpr (by
    have spelled := spells_dotted packages nonempty plain
    rw [spelled.packageSegments_eq, spelled.typeSegment_eq]
    exact spelled)
  placed type plain := by
    have named : ∀ name ∈ segments, IsName name := Disk.LinkFree.isName orderly (by
      rw [found]
      exact Option.some_ne_none _)
    rw [place_dotted free sound orderly named packages nonempty plain, Path.under, Path.under,
      Path.child, List.append_assoc]
  package_prefix := packagePrefix_under packages nonempty target

theorem packagesFor_eq (free : disk.LinkFree target base) (sound : disk.Sound)
    (orderly : disk.tree.Orderly) (reaches : disk.Reaches target base) (pre : String) :
    packagesFor disk target pre = .ok (matching pre (packagesBelow disk.tree base)) := by
  rw [packagesFor, free.packageDirectories_eq sound.closed orderly reaches]
  rfl

theorem startsWithLetters_of_append {front more cs : List Char}
    (starts : Text.startsWithLetters (front ++ more) cs = true) :
    Text.startsWithLetters front cs = true := by
  induction front generalizing cs with
  | nil => rfl
  | cons a front ih =>
    cases cs with
    | nil => cases starts
    | cons c cs =>
      rw [List.cons_append, Text.startsWithLetters, Bool.and_eq_true] at starts
      rw [Text.startsWithLetters, starts.1, ih starts.2]
      rfl

/-- A longer prefix leaves some of the completions, in the same order. -/
theorem matching_sublist (pre more : String) (packages : List (List String)) :
    (matching (pre ++ more) packages).Sublist (matching pre packages) := by
  refine List.monotone_filter_right _ ?_
  intro item starts
  rw [String.toList_append] at starts
  exact startsWithLetters_of_append starts

variable {folder : Option Path} {w : World} {ws : Workspace}

/-- The result that completing a prefix with some items has. -/
def completion (pre : String) (items : List String) : Result :=
  .success "completion_entries" [("prefix", .str pre), ("items", .ofStrings items),
    ("count", .int items.length)] []

theorem outcome_completionEntries (chosen : (targetFolder folder w ws).1 = .ok (some target))
    (pre : String) :
    outcome (completionEntries folder pre w ws) =
      (((packagesFor w.disk target pre).mapError .files).map (completion pre), w.disk) := by
  rw [completionEntries, outcome_traced, completionEntriesCore, Action.bind_apply]
  rw [← targetFolder_tracer folder w ws w.tracer.begin] at chosen
  have unchanged : targetFolder folder { w with tracer := w.tracer.begin } ws =
      (.ok (some target), { w with tracer := w.tracer.begin }, ws) := by
    rw [← chosen, targetFolder_apply]
  rw [unchanged]
  dsimp only
  rw [Action.bind_apply, Action.disk]
  dsimp only
  rw [Action.bind_apply, Action.ofFiles]
  cases packagesFor w.disk target pre <;> rfl

/-- A path below that is too long to be tested keeps the completions from being listed. -/
theorem outcome_tooLong (sound : w.disk.Sound) (orderly : w.disk.tree.Orderly)
    (chosen : (targetFolder folder w ws).1 = .ok (some target))
    (free : w.disk.LinkFree target base) (present : w.disk.tree.get? (base ++ segments) ≠ none)
    (long : (target.under segments).TooLong) (pre : String) :
    ∃ rel, w.disk.tree.get? (base ++ rel) ≠ none ∧ (target.under rel).TooLong ∧
      outcome (completionEntries folder pre w ws) =
        (.error (.files (.obstacle .nameTooLong (target.under rel))), w.disk) := by
  obtain ⟨culprit, there, longThere, ended⟩ :=
    free.packageDirectories_tooLong sound.closed orderly present long
  refine ⟨culprit, there, longThere, ?_⟩
  rw [outcome_completionEntries chosen, packagesFor, ended]
  rfl

/-- A project of some packages, of a directory that cannot be one, and of a file. -/
def packagesWorld : World where
  disk := ⟨⟨[(["p"], .directory), (["p", "src"], .directory), (["p", "src", "com"], .directory),
    (["p", "src", "com", "example"], .directory), (["p", "src", "com", "Exotic"], .directory),
    (["p", "src", "com", ".git"], .directory),
    (["p", "src", "com", "A.scala"], .file (.text "class A"))]⟩, ["p"]⟩
  tracer := .off
  log := []
  calls := []

/-- Letter case does not matter, and what does not start with the prefix is left out. -/
example : matching "COM.E" [["com", "Exotic"], ["com", "example"], ["common"]] =
    ["com.Exotic", "com.example"] := by decide +kernel

/-- A tower of directories of the same name in a source folder. -/
def tower (name : String) (height : Nat) : Tree :=
  ⟨(List.range height).map fun floor => ("src" :: List.replicate floor name, .directory)⟩

theorem tower_orderly {name : String} (proper : IsName name) (height : Nat) :
    (tower name height).Orderly where
  distinct := by
    rw [tower, List.map_map]
    refine List.Nodup.map ?_ List.nodup_range
    intro floor other same
    simpa using congrArg List.length same
  named := by
    intro entry member part inside
    obtain ⟨floor, -, rfl⟩ := List.mem_map.mp member
    rcases List.mem_cons.mp inside with rfl | inside
    · exact ⟨by decide, by decide, by decide⟩
    · rw [List.eq_of_mem_replicate inside]
      exact proper

theorem tower_floor {name : String} (proper : IsName name) {floor height : Nat}
    (within : floor < height) :
    (tower name height).get? ("src" :: List.replicate floor name) = some .directory :=
  ((tower_orderly proper height).mem_nodes (List.cons_ne_nil _ _)).mp
    (List.mem_map.mpr ⟨floor, List.mem_range.mpr within, rfl⟩)

theorem tower_present {name : String} (proper : IsName name) {floor height : Nat}
    (within : floor < height) :
    (tower name height).get? (["src"] ++ List.replicate floor name) ≠ none := by
  rw [List.singleton_append, tower_floor proper within]
  exact Option.some_ne_none _

theorem tower_closed {name : String} (proper : IsName name) (height : Nat) :
    (tower name height).Closed := by
  refine Tree.closed_of_nodes ?_
  intro entry member _
  obtain ⟨floor, within, rfl⟩ := List.mem_map.mp member
  cases floor with
  | zero => rfl
  | succ floor =>
    have lower : floor < height := Nat.lt_of_succ_lt (List.mem_range.mp within)
    have above : ("src" :: List.replicate (floor + 1) name).dropLast =
        "src" :: List.replicate floor name := by
      rw [List.replicate_succ', ← List.cons_append, List.dropLast_concat]
    rw [above, Tree.isDirectory_iff, tower_floor proper lower]

/-- A path is as long as its components. -/
theorem le_size_replicate (first name : String) (count : Nat) :
    Text.Utf8.size first + count * Text.Utf8.size name ≤
      Text.Utf8.size ("/".intercalate (first :: List.replicate count name)) := by
  induction count generalizing first with
  | zero => simp [Text.Utf8.size]
  | succ count ih =>
    have onward := ih name
    rw [List.replicate_succ, String.intercalate_cons_cons, Nat.succ_mul]
    simp only [Text.Utf8.size, String.utf8ByteSize_append] at onward ⊢
    omega

theorem clean_replicate (count : Nat) :
    '\x00' ∉ (String.ofList (List.replicate count 'a')).toList := by
  intro member
  rw [String.toList_ofList] at member
  exact absurd (List.eq_of_mem_replicate member) (by decide)

/-- A name of a directory that is almost as long as one can be. -/
def wideName : String := String.ofList (List.replicate 250 'a')

/-- A world with a tower whose highest floors are too far to be reached. -/
def towerWorld : World where
  disk := ⟨tower wideName 18, []⟩
  tracer := .off
  log := []
  calls := []

theorem tower_tooLong :
    (Path.under ⟨.relative, ["src"]⟩ (List.replicate 17 wideName)).TooLong := by
  have size : Text.Utf8.size wideName = 250 := by decide +kernel
  have enough := le_size_replicate "src" wideName 17
  rw [size] at enough
  exact le_trans (by decide +kernel) enough

end Scaffold.Project
