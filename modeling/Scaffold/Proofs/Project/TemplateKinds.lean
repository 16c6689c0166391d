import Scaffold.Proofs.Project.Completion
import Scaffold.Proofs.Project.Ending
import Scaffold.Proofs.Template.Kinds
import Scaffold.Proofs.Template.SourceText

/-!
# Kinds that are listed and kinds that work

In a project that has just been opened, a file of a kind can be created exactly if the kind is
listed, as long as no path of a template is too long; a template whose path is too long is listed
and cannot be found.  The text comes from the first directory in which the template is found.
-/

namespace Scaffold.Project

open Files Plugin Workspace Template

variable {folder : Option Path} {op kind name : String} {w : World} {settings : Config.Settings}
  {sync : Bool} {target path root : Path}

theorem accepted_tracer (op : String) (folder : Option Path) (name : String) (w : World)
    (ws : Workspace) (tracer : Telemetry.Tracer) :
    accepted op folder name { w with tracer := tracer } ws = accepted op folder name w ws := by
  rw [accepted, accepted, targetFolder_tracer]

/-- A run ends with the failure that its kind is not known. -/
def IsUnknownKind (result : Except Fault Result) : Prop :=
  ∃ r e, result = .ok r ∧ r.error = some e ∧ e.code = "UNKNOWN_TEMPLATE"

theorem isUnknownKind_unknownKind (op kind : String) (available : List String) :
    IsUnknownKind (.ok (unknownKind op kind available)) := ⟨_, _, rfl, rfl, rfl⟩

/-- What a creation ends in once its text has been rendered. -/
def writing (op kind name : String) (root path : Path) (disk : Disk) (text : String)
    (found? : Disk → Except Fault Registry) : Except Fault Result × Disk :=
  match disk.writeNew path (.text text) with
  | (.error (.obstacle .alreadyExists _), disk) => (.ok (rejected op name .fileExists), disk)
  | (.error fault, disk) => (.error (.files fault), disk)
  | (.ok (), disk) => ((found? disk).map (told op kind name root path), disk)

theorem not_isUnknownKind_writing (disk : Disk) (text : String)
    (found? : Disk → Except Fault Registry) :
    ¬ IsUnknownKind (writing op kind name root path disk text found?).1 := by
  rintro ⟨r, e, ended, failed, code⟩
  unfold writing at ended
  split at ended
  · cases ended
    cases failed
    have same : rejectionCode Scala.Rejection.fileExists.kind = "UNKNOWN_TEMPLATE" := code
    exact absurd same (by decide)
  · cases ended
  · rename_i after _
    rcases found : found? after with fault | registry
    · rw [found] at ended
      cases ended
    · rw [found] at ended
      cases ended
      cases failed

/-- The directories of a project's own templates. -/
def templateDirectories (settings : Config.Settings) : List Path :=
  (Store.ofProject settings.root).directories

section Rendering

variable (closed : w.disk.tree.Closed) (orderly : w.disk.tree.Orderly)
  (unlinked : ∀ dir ∈ templateDirectories settings, w.disk.Unlinked dir)
  (nonempty : kind ≠ "") (undivided : '/' ∉ kind.toList)
  (ready : accepted "create_file" folder name w (.ofSettings settings sync) =
    .ok (.ok (target, path)))

include nonempty ready in
theorem outcome_createFile_fresh :
    ∃ found?, outcome (createFile folder (some kind) name w (.ofSettings settings sync)) =
      ending "create_file" kind name settings.root path w.disk (Store.ofProject settings.root)
        found? := by
  have chosen : (ofSettings settings sync).kindFor (some kind) = kind := by
    simp [kindFor, Option.filter, nonempty]
  rw [createFile, outcome_traced, outcome_createFileCore, accepted_tracer, ready, chosen]
  exact ⟨_, rfl⟩

include closed orderly unlinked nonempty undivided ready

/-- The text of a template that is supplied is what is written. -/
theorem outcome_of_supplied {text : List Char} {filled : String}
    (supplied : Supplied w.disk kind (templateDirectories settings) text)
    (fills : Fills (Scala.QualifiedName.bindings name) text filled) :
    ∃ found?, outcome (createFile folder (some kind) name w (.ofSettings settings sync)) =
      writing "create_file" kind name settings.root path w.disk filled found? := by
  obtain ⟨found?, ended⟩ := outcome_createFile_fresh nonempty ready
  refine ⟨found?, ?_⟩
  rw [ended, ending, Store.render_of_supplied closed orderly unlinked undivided rfl supplied fills]
  rfl

theorem outcome_of_missing
    (useless : ∀ dir ∈ templateDirectories settings, ¬ Usable w.disk kind dir)
    (foreign : ¬ IsBuiltIn kind) :
    outcome (createFile folder (some kind) name w (.ofSettings settings sync)) =
      (.ok (unknownKind "create_file" kind ((Store.ofProject settings.root).kinds w.disk)),
        w.disk) := by
  obtain ⟨found?, ended⟩ := outcome_createFile_fresh nonempty ready
  rw [ended, ending, Store.render_of_missing closed orderly unlinked undivided rfl useless foreign]

end Rendering

/-- Where every template that is found can be filled, one is supplied, unless there is none. -/
theorem supplied_or_missing {disk : Disk} {dirs : List Path} {bindings : List (String × String)}
    (loads : ∀ dir ∈ dirs, Usable disk kind dir → ∃ text filled,
      disk.readText (dir.child (kind ++ fileEnding)) = .ok text ∧ Fills bindings text filled) :
    (∃ text filled, Supplied disk kind dirs text ∧ Fills bindings text filled) ∨
      (∀ dir ∈ dirs, ¬ Usable disk kind dir) ∧ ¬ IsBuiltIn kind := by
  induction dirs with
  | nil =>
    by_cases own : IsBuiltIn kind
    · obtain ⟨⟨file, text⟩, member, same⟩ := List.mem_map.mp own
      dsimp only at same
      rw [same] at member
      obtain ⟨filled, fills⟩ := fills_builtIn member bindings
      exact .inl ⟨_, filled, .packaged member, fills⟩
    · exact .inr ⟨nofun, own⟩
  | cons dir dirs ih =>
    by_cases usable : Usable disk kind dir
    · obtain ⟨text, filled, read, fills⟩ := loads dir List.mem_cons_self usable
      exact .inl ⟨text, filled, .here usable read, fills⟩
    · rcases ih fun other among => loads other (List.mem_cons_of_mem _ among) with
        ⟨text, filled, supplied, fills⟩ | ⟨useless, foreign⟩
      · exact .inl ⟨text, filled, .behind usable supplied, fills⟩
      · exact .inr ⟨List.forall_mem_cons.mpr ⟨usable, useless⟩, foreign⟩

/-- What is known of kinds, and what follows for a creation of one of them that comes to its
    template. -/
structure KindsTell (disk : Disk) (dirs : List Path) (kinds : List String) (root path : Path)
    (kind name : String) (result : Except Fault Result × Disk) : Prop where
  increasing : kinds.Pairwise (· < ·)
  /-- The kinds are those that a directory holds a file for, and the built-in ones. -/
  listed : ∀ other, other ∈ kinds ↔
    (∃ dir ∈ dirs, disk.Holds dir (other ++ fileEnding)) ∨ IsBuiltIn other
  /-- Where no path of a template is too long, the kinds that work are those that are listed. -/
  agrees : (∀ dir ∈ dirs, disk.Holds dir (kind ++ fileEnding) →
      ¬ (dir.child (kind ++ fileEnding)).TooLong) →
    (IsUnknownKind result.1 ↔ kind ∉ kinds)
  /-- In any case the templates with such a path are the only ones that make a difference. -/
  unknown_iff : IsUnknownKind result.1 ↔
    (∀ dir ∈ dirs, disk.Holds dir (kind ++ fileEnding) →
      (dir.child (kind ++ fileEnding)).TooLong) ∧ ¬ IsBuiltIn kind
  /-- The failure lists the kinds, and no file has changed. -/
  available : IsUnknownKind result.1 →
    result = (.ok (unknownKind "create_file" kind kinds), disk)
  /-- Otherwise the text is that of the first template that is found, filled. -/
  rendered : ¬ IsUnknownKind result.1 → ∃ text filled found?, Supplied disk kind dirs text ∧
    Fills (Scala.QualifiedName.bindings name) text filled ∧
    result = writing "create_file" kind name root path disk filled found?

theorem useless_iff {disk : Disk} {dirs : List Path} :
    (∀ dir ∈ dirs, ¬ Usable disk kind dir) ↔
      ∀ dir ∈ dirs, disk.Holds dir (kind ++ fileEnding) →
        (dir.child (kind ++ fileEnding)).TooLong := by
  simp only [Usable, not_and, not_not]

theorem supplied_not_missing {disk : Disk} {dirs : List Path} {text : List Char}
    (supplied : Supplied disk kind dirs text) :
    ¬ ((∀ dir ∈ dirs, ¬ Usable disk kind dir) ∧ ¬ IsBuiltIn kind) := by
  rintro ⟨useless, foreign⟩
  induction supplied with
  | here usable => exact useless _ List.mem_cons_self usable
  | behind _ _ ih => exact ih fun other among => useless other (List.mem_cons_of_mem _ among)
  | packaged member => exact foreign (List.mem_map_of_mem member)

theorem kindsTell_of {disk : Disk} {dirs : List Path} {kinds : List String}
    {result : Except Fault Result × Disk} (increasing : kinds.Pairwise (· < ·))
    (listed : ∀ other, other ∈ kinds ↔
      (∃ dir ∈ dirs, disk.Holds dir (other ++ fileEnding)) ∨ IsBuiltIn other)
    (unknown_iff : IsUnknownKind result.1 ↔
      (∀ dir ∈ dirs, ¬ Usable disk kind dir) ∧ ¬ IsBuiltIn kind)
    (available : IsUnknownKind result.1 →
      result = (.ok (unknownKind "create_file" kind kinds), disk))
    (rendered : ¬ IsUnknownKind result.1 → ∃ text filled found?, Supplied disk kind dirs text ∧
      Fills (Scala.QualifiedName.bindings name) text filled ∧
      result = writing "create_file" kind name root path disk filled found?) :
    KindsTell disk dirs kinds root path kind name result where
  increasing := increasing
  listed := listed
  agrees short := by
    rw [unknown_iff, listed, not_or]
    refine and_congr_left fun _ => ⟨?_, ?_⟩
    · rintro useless ⟨dir, among, holds⟩
      exact useless dir among ⟨holds, short dir among holds⟩
    · intro none dir among usable
      exact none ⟨dir, among, usable.1⟩
  unknown_iff := by rw [unknown_iff, useless_iff]
  available := available
  rendered := rendered

/-- In a project that has just been opened, with template directories that hold no links and
    templates that load and include no others, a file of an accepted name can be created exactly if
    its kind is listed, unless the path of a template is too long; else the failure lists the
    kinds. -/
theorem createFile_tells_kinds (closed : w.disk.tree.Closed) (orderly : w.disk.tree.Orderly)
    (unlinked : ∀ dir ∈ templateDirectories settings, w.disk.Unlinked dir)
    (nonempty : kind ≠ "") (undivided : '/' ∉ kind.toList)
    (ready : accepted "create_file" folder name w (.ofSettings settings sync) =
      .ok (.ok (target, path)))
    (loads : ∀ dir ∈ templateDirectories settings, Usable w.disk kind dir → ∃ text filled,
      w.disk.readText (dir.child (kind ++ fileEnding)) = .ok text ∧
        Fills (Scala.QualifiedName.bindings name) text filled) :
    ∃ kinds, (Workspace.kinds w (.ofSettings settings sync)).1 = .ok kinds ∧
      KindsTell w.disk (templateDirectories settings) kinds settings.root path kind name
        (outcome (createFile folder (some kind) name w (.ofSettings settings sync))) := by
  refine ⟨(Store.ofProject settings.root).kinds w.disk, rfl, ?_⟩
  rcases supplied_or_missing loads with ⟨text, filled, supplied, fills⟩ | missing
  · obtain ⟨found?, ended⟩ :=
      outcome_of_supplied closed orderly unlinked nonempty undivided ready supplied fills
    have known : ¬ IsUnknownKind
        (writing "create_file" kind name settings.root path w.disk filled found?).1 :=
      not_isUnknownKind_writing _ _ _
    rw [ended]
    exact kindsTell_of (kinds_increasing _ _) (fun _ => mem_kinds orderly unlinked)
      (iff_of_false known (supplied_not_missing supplied)) (fun unknown => absurd unknown known)
      fun _ => ⟨text, filled, found?, supplied, fills, rfl⟩
  · have unknown := isUnknownKind_unknownKind "create_file" kind
      ((Store.ofProject settings.root).kinds w.disk)
    rw [outcome_of_missing closed orderly unlinked nonempty undivided ready missing.1 missing.2]
    exact kindsTell_of (kinds_increasing _ _) (fun _ => mem_kinds orderly unlinked)
      (iff_of_true unknown missing) (fun _ => rfl) fun known => absurd unknown known

/-- It is enough to see that a name is accepted at all. -/
theorem accepted_of_isSome {ws : Workspace}
    (fine : (accepted op folder name w ws).toOption.map (·.toOption.isSome) = some true) :
    ∃ target path, accepted op folder name w ws = .ok (.ok (target, path)) := by
  rcases judged : accepted op folder name w ws with fault | failure | ⟨target, path⟩
  · rw [judged] at fine
    cases fine
  · rw [judged] at fine
    cases fine
  · exact ⟨target, path, rfl⟩

/-- The settings of a project in which no symbols are looked up. -/
def settingsAt (root : Path) : Config.Settings :=
  ⟨root, none, false, false, false, false, true, .default, .default, "class"⟩

/-- A template of two parts. -/
def typeTemplate (keyword : String) : String := keyword ++ " \x7b\x7b type_name \x7d\x7d"

theorem fills_typeTemplate {keyword : String} (known : keyword = "class" ∨ keyword = "trait") :
    Fills (Scala.QualifiedName.bindings "A") (typeTemplate keyword).toList (keyword ++ " A") := by
  refine ⟨[.text (keyword ++ " ").toList, .variable "type_name", .text []],
    [(keyword ++ " ").toList, ['A'], []], ?_, rfl, ?_⟩
  · rcases known with rfl | rfl <;>
      simp only [typeTemplate, String.toList_append, String.reduceToList] <;> rfl
  · apply String.toList_inj.mp
    simp

/-- A project with templates for classes in the directory for this kind of source and in the shared
    one. -/
def overriddenWorld : World where
  disk := ⟨⟨[(["p"], .directory), (["p", "src"], .directory), (["p", ".scalanew"], .directory),
    (["p", ".scalanew", "templates"], .directory),
    (["p", ".scalanew", "templates", "class.scala.j2"], .file (.text (typeTemplate "trait"))),
    (["p", ".scalanew", "templates", "scala"], .directory),
    (["p", ".scalanew", "templates", "scala", "class.scala.j2"],
      .file (.text (typeTemplate "class")))]⟩, ["p"]⟩
  tracer := .off
  log := []
  calls := []

/-- Its root. -/
def overriddenRoot : Path := ⟨.single, ["p"]⟩

theorem createFile_tells_kinds_overridden :
    overriddenWorld.disk.tree.Closed ∧ overriddenWorld.disk.tree.Orderly ∧
    (∀ dir ∈ templateDirectories (settingsAt overriddenRoot), overriddenWorld.disk.Unlinked dir) ∧
    "class" ≠ "" ∧ '/' ∉ "class".toList ∧
    ∃ target path kinds, accepted "create_file" (some ⟨.relative, ["src"]⟩) "A" overriddenWorld
        (.ofSettings (settingsAt overriddenRoot) true) = .ok (.ok (target, path)) ∧
      (Workspace.kinds overriddenWorld (.ofSettings (settingsAt overriddenRoot) true)).1 =
        .ok kinds ∧
      KindsTell overriddenWorld.disk (templateDirectories (settingsAt overriddenRoot)) kinds
        overriddenRoot path "class" "A"
        (outcome (createFile (some ⟨.relative, ["src"]⟩) (some "class") "A" overriddenWorld
          (.ofSettings (settingsAt overriddenRoot) true))) := by
  have closed : overriddenWorld.disk.tree.Closed := Tree.closed_of_nodes (by decide)
  have orderly : overriddenWorld.disk.tree.Orderly :=
    Tree.orderly_of_nodes (by decide) (by decide)
  have unlinked : ∀ dir ∈ templateDirectories (settingsAt overriddenRoot),
      overriddenWorld.disk.Unlinked dir :=
    fun _ _ _ _ _ _ => Tree.noLinks_of_nodes (by decide) _
  have nonempty : "class" ≠ "" := by decide
  have undivided : '/' ∉ "class".toList := by decide
  obtain ⟨target, path, ready⟩ : ∃ target path,
      accepted "create_file" (some ⟨.relative, ["src"]⟩) "A" overriddenWorld
        (.ofSettings (settingsAt overriddenRoot) true) = .ok (.ok (target, path)) :=
    accepted_of_isSome (by decide +kernel)
  have read : ∀ dir ∈ templateDirectories (settingsAt overriddenRoot),
      ∃ keyword, (keyword = "class" ∨ keyword = "trait") ∧
        overriddenWorld.disk.readText (dir.child ("class" ++ fileEnding)) =
          .ok (typeTemplate keyword).toList := by
    have first : (overriddenWorld.disk.readText
        ⟨.single, ["p", ".scalanew", "templates", "scala", "class" ++ fileEnding]⟩).toOption =
          some (typeTemplate "class").toList := by decide
    have second : (overriddenWorld.disk.readText
        ⟨.single, ["p", ".scalanew", "templates", "class" ++ fileEnding]⟩).toOption =
          some (typeTemplate "trait").toList := by decide
    intro dir among
    rcases List.mem_pair.mp among with rfl | rfl
    · exact ⟨"class", .inl rfl, eq_ok_of_toOption first⟩
    · exact ⟨"trait", .inr rfl, eq_ok_of_toOption second⟩
  obtain ⟨kinds, listed, tells⟩ := createFile_tells_kinds closed orderly unlinked nonempty
    undivided ready fun dir among _ => by
      obtain ⟨keyword, known, same⟩ := read dir among
      exact ⟨_, _, same, fills_typeTemplate known⟩
  exact ⟨closed, orderly, unlinked, nonempty, undivided, target, path, kinds, ready, listed, tells⟩

/-- Templates for this kind of source come before the shared ones. -/
example : (templateDirectories (settingsAt overriddenRoot)).map Path.toString =
    ["/p/.scalanew/templates/scala", "/p/.scalanew/templates"] := by decide +kernel

/-- A path that goes into a directory and out of it again, and into it in the end. -/
def detour (name : String) (times : Nat) : Path :=
  ⟨.relative, (List.replicate times [name, ".."]).flatten ++ [name]⟩

theorem leads_detour {t : Tree} {name : String} (proper : IsName name)
    (found : t.get? [name] = some .directory) (times : Nat) :
    t.Leads [] (detour name times).parts 0 [name] := by
  have into {rest : List String} {reached : Location} (leads : t.Leads [name] rest 0 reached) :
      t.Leads [] (name :: rest) 0 reached :=
    .down rfl proper.plain proper.short found rfl leads
  induction times with
  | zero => exact into .here
  | succ times ih =>
    rw [detour, List.replicate_succ, List.flatten_cons, List.append_assoc]
    exact into (.up (Tree.isDirectory_iff.mpr found) ih)

/-- Each turn makes a path longer by the name, the way back and two slashes. -/
theorem size_detour (name : String) (times : Nat) (rest : List String) :
    Text.Utf8.size ((detour name times).under rest).toString =
      times * (Text.Utf8.size name + 4) + Text.Utf8.size ("/".intercalate (name :: rest)) := by
  have spelled (times : Nat) : ((detour name times).under rest).toString =
      "/".intercalate ((List.replicate times [name, ".."]).flatten ++ name :: rest) := by
    rw [Path.under, detour, Disk.toString_eq (.inr (by simp)), List.append_assoc]
    exact String.empty_append
  have slash : "/".utf8ByteSize = 1 := rfl
  have back : "..".utf8ByteSize = 2 := rfl
  rw [spelled]
  induction times with
  | zero => simp
  | succ times ih =>
    rw [List.replicate_succ, List.flatten_cons, List.append_assoc,
      String.intercalate_append_of_ne_nil (by simp) (by simp), String.intercalate_cons_cons,
      String.intercalate_singleton]
    simp only [Text.Utf8.size, String.utf8ByteSize_append, slash, back] at ih ⊢
    rw [ih, Nat.succ_mul]
    omega

/-- The kind of a template with a long name. -/
def wideKind : String := String.ofList (List.replicate 200 'k')

/-- A project in a directory with a long name, with a template of such a name. -/
def wideWorld : World where
  disk := ⟨⟨[(["src"], .directory), ([wideName], .directory),
    ([wideName, ".scalanew"], .directory), ([wideName, ".scalanew", "templates"], .directory),
    ([wideName, ".scalanew", "templates", wideKind ++ fileEnding],
      .file (.text (typeTemplate "class")))]⟩, []⟩
  tracer := .off
  log := []
  calls := []

/-- A long way to that project. -/
def wideRoot : Path := detour wideName 15

theorem size_replicate (c : Char) (count : Nat) :
    Text.Utf8.size (String.ofList (List.replicate count c)) = count * c.utf8Size := by
  rw [Text.Utf8.size, String.utf8ByteSize_ofList]
  induction count with
  | zero => simp
  | succ count ih =>
    rw [List.replicate_succ, String.utf8Len_cons, ih, Nat.succ_mul]

theorem size_wideName : Text.Utf8.size wideName = 250 := size_replicate 'a' 250

theorem size_wideKind : Text.Utf8.size (wideKind ++ fileEnding) = 209 := by
  have own : Text.Utf8.size wideKind = 200 := size_replicate 'k' 200
  rw [Text.Utf8.size] at own ⊢
  rw [String.utf8ByteSize_append, own]
  rfl

theorem wideName_ne {name : String} (shorter : Text.Utf8.size name < 250) : wideName ≠ name := by
  rintro rfl
  exact absurd size_wideName (Nat.ne_of_lt shorter)

theorem isName_wideName : IsName wideName :=
  ⟨wideName_ne (by decide), size_wideName ▸ by decide, clean_replicate 250⟩

theorem eq_of_mem_replicated {c d : Char} {count : Nat}
    (member : c ∈ (String.ofList (List.replicate count d)).toList) : c = d := by
  rw [String.toList_ofList] at member
  exact List.eq_of_mem_replicate member

theorem not_mem_wideKind {c : Char} (other : c ≠ 'k') : c ∉ wideKind.toList :=
  fun member => other (eq_of_mem_replicated member)

theorem isName_wideKind : IsName (wideKind ++ fileEnding) where
  plain := fileName_ne wideKind (by decide)
  short := by
    rw [size_wideKind]
    decide
  clean := by
    rw [String.toList_append, List.mem_append, not_or]
    exact ⟨not_mem_wideKind (by decide), by decide⟩

theorem wide_orderly : wideWorld.disk.tree.Orderly := by
  have source : IsName "src" := ⟨by decide, by decide, by decide⟩
  have hidden : IsName ".scalanew" := ⟨by decide, by decide, by decide⟩
  have templates : IsName "templates" := ⟨by decide, by decide, by decide⟩
  have other : wideName ≠ "src" := wideName_ne (by decide)
  constructor
  · simp [wideWorld, other.symm]
  · simp [wideWorld, source, hidden, templates, isName_wideName, isName_wideKind]

theorem wide_get? {at_ : Location} {node : Files.Node} (nonempty : at_ ≠ [])
    (member : (at_, node) ∈ wideWorld.disk.tree.nodes) :
    wideWorld.disk.tree.get? at_ = some node :=
  (wide_orderly.mem_nodes nonempty).mp member

theorem size_wideRoot (rest : List String) :
    Text.Utf8.size (wideRoot.under rest).toString =
      15 * 254 + Text.Utf8.size ("/".intercalate (wideName :: rest)) := by
  rw [wideRoot, size_detour, size_wideName]

/-- The shared directory for templates can be reached. -/
theorem wide_located : wideWorld.disk.locate true (wideRoot.under [".scalanew", "templates"]) =
    .ok [wideName, ".scalanew", "templates"] := by
  have clean : ((wideRoot.under [".scalanew", "templates"]).parts.any
      fun part => part.toList.contains '\x00') = false := by
    have named := isName_wideName.clean
    simp [wideRoot, detour, Path.under, named]
  have short : ¬ (wideRoot.under [".scalanew", "templates"]).TooLong := by
    have size : Text.Utf8.size ("/".intercalate [wideName, ".scalanew", "templates"]) = 270 := by
      have own := size_wideName
      rw [String.intercalate_cons_cons]
      rw [Text.Utf8.size] at own ⊢
      rw [String.utf8ByteSize_append, String.utf8ByteSize_append, own]
      rfl
    rw [Path.TooLong, size_wideRoot, size]
    decide
  have fit : Disk.textObstacle? (wideRoot.under [".scalanew", "templates"]) = none := by
    rw [Disk.textObstacle?, clean, if_neg Bool.false_ne_true]
    exact if_neg short
  have wide : wideWorld.disk.tree.get? [wideName] = some .directory :=
    wide_get? (by simp) (by simp [wideWorld])
  have hidden : wideWorld.disk.tree.get? [wideName, ".scalanew"] = some .directory :=
    wide_get? (by simp) (by simp [wideWorld])
  have templates : wideWorld.disk.tree.get? [wideName, ".scalanew", "templates"] =
      some .directory := wide_get? (by simp) (by simp [wideWorld])
  have onward : wideWorld.disk.tree.Leads [wideName] [".scalanew", "templates"] 0
      [wideName, ".scalanew", "templates"] :=
    .down (Tree.isDirectory_iff.mpr wide) (by decide) (by decide) hidden rfl
      (.down (Tree.isDirectory_iff.mpr hidden) (by decide) (by decide) templates rfl .here)
  have leads := (leads_detour isName_wideName wide 15).append onward
  exact Disk.locate_eq_ok.mpr ⟨fit, Tree.walk_eq_ok.mpr ⟨0, Nat.zero_le _, leads⟩⟩

/-- The template's path is too long for the template to be found. -/
theorem wide_tooLong : ∀ dir ∈ templateDirectories (settingsAt wideRoot),
    (dir.child (wideKind ++ fileEnding)).TooLong := by
  have longer (middle : List String) :
      (wideRoot.under (middle ++ [wideKind ++ fileEnding])).TooLong := by
    have first := Disk.size_intercalate_le [wideName] middle
    have last := size_wideKind
    rw [String.intercalate_singleton, size_wideName] at first
    rw [Path.TooLong, maxPathBytes, size_wideRoot, ← List.cons_append,
      String.intercalate_append_of_ne_nil (by simp) (by simp), String.intercalate_singleton]
    rw [Text.Utf8.size] at first last ⊢
    rw [String.utf8ByteSize_append, String.utf8ByteSize_append, last]
    simp only [List.cons_append, List.nil_append] at first
    omega
  have spelled (middle : List String) :
      (wideRoot.under middle).child (wideKind ++ fileEnding) =
        wideRoot.under (middle ++ [wideKind ++ fileEnding]) := by
    rw [Path.child, Path.under, Path.under, List.append_assoc]
  intro dir among
  rcases List.mem_pair.mp among with rfl | rfl
  · exact spelled [".scalanew", "templates", "scala"] ▸ longer _
  · exact spelled [".scalanew", "templates"] ▸ longer _

/-- A kind is listed, and it is not known when a file of it is to be created. -/
theorem createFile_listed_unknown :
    wideWorld.disk.tree.Closed ∧ wideWorld.disk.tree.Orderly ∧
    (∀ dir ∈ templateDirectories (settingsAt wideRoot), wideWorld.disk.Unlinked dir) ∧
    wideKind ≠ "" ∧ '/' ∉ wideKind.toList ∧
    (∃ filled, Fills (Scala.QualifiedName.bindings "A") (typeTemplate "class").toList filled) ∧
    ∃ target path kinds, accepted "create_file" (some ⟨.relative, ["src"]⟩) "A" wideWorld
        (.ofSettings (settingsAt wideRoot) true) = .ok (.ok (target, path)) ∧
      (Workspace.kinds wideWorld (.ofSettings (settingsAt wideRoot) true)).1 = .ok kinds ∧
      wideKind ∈ kinds ∧
      IsUnknownKind (outcome (createFile (some ⟨.relative, ["src"]⟩) (some wideKind) "A" wideWorld
        (.ofSettings (settingsAt wideRoot) true))).1 := by
  have closed : wideWorld.disk.tree.Closed := Tree.closed_of_nodes (by decide +kernel)
  have unlinked : ∀ dir ∈ templateDirectories (settingsAt wideRoot),
      wideWorld.disk.Unlinked dir :=
    fun _ _ _ _ _ _ => Tree.noLinks_of_nodes (by decide) _
  have nonempty : wideKind ≠ "" := by decide +kernel
  have undivided : '/' ∉ wideKind.toList := not_mem_wideKind (by decide)
  have foreign : ¬ IsBuiltIn wideKind := by
    rw [IsBuiltIn]
    decide +kernel
  obtain ⟨target, path, ready⟩ : ∃ target path,
      accepted "create_file" (some ⟨.relative, ["src"]⟩) "A" wideWorld
        (.ofSettings (settingsAt wideRoot) true) = .ok (.ok (target, path)) :=
    accepted_of_isSome (by decide +kernel)
  have holds : wideWorld.disk.Holds (wideRoot.under [".scalanew", "templates"])
      (wideKind ++ fileEnding) :=
    ⟨_, .text (typeTemplate "class"), wide_located, wide_get? (by simp) (by simp [wideWorld])⟩
  have listed : wideKind ∈ (Store.ofProject wideRoot).kinds wideWorld.disk :=
    (mem_kinds wide_orderly unlinked).mpr
      (.inl ⟨_, List.mem_cons_of_mem _ List.mem_cons_self, holds⟩)
  refine ⟨closed, wide_orderly, unlinked, nonempty, undivided,
    ⟨_, fills_typeTemplate (.inl rfl)⟩, target, path, _, ready, rfl, listed, ?_⟩
  rw [outcome_of_missing closed wide_orderly unlinked nonempty undivided ready
    (useless_iff.mpr fun dir among _ => wide_tooLong dir among) foreign]
  exact isUnknownKind_unknownKind ..

end Scaffold.Project
