import Scaffold.Proofs.Config.Merging

/-!
# Settings read one by one

Settings are read from merged entries place by place: every setting is what is said at its place,
or what holds where nothing is said, and nothing else has a part in it.
-/

namespace Scaffold.Config

open Json Schema

/-- A setting: where it is said, how it is read, what holds where nothing is said, and where it is
    found in the end. -/
structure Setting (α : Type) where
  place : Place
  read : Value → Read α
  fallback : α
  get : Settings → α

/-- What a setting is where `said` is said of it. -/
def Setting.reading {α : Type} (s : Setting α) (said : Option Value) : Read α :=
  said.elim (.ok s.fallback) s.read

/-- The section about the project. -/
def projectShape : SectionShape :=
  ⟨"project", ["name", "natures", "source_dirs", "class_dirs", "classpath"],
    ["natures", "source_dirs", "class_dirs", "classpath"]⟩

/-- The section about the lookup of symbols. -/
def lookupShape : SectionShape := ⟨"lookup", ["enabled", "timeout", "workers", "index_sources"], []⟩

/-- The section about templates. -/
def templatesShape : SectionShape := ⟨"templates", ["default"], []⟩

theorem sectionShapes_eq : sectionShapes = [projectShape, lookupShape, templatesShape] := rfl

namespace Setting

/-- A flag. -/
def flag (name : String) (get : Settings → Bool) : Setting Bool :=
  ⟨.top name, fun v => whole (readBool v), false, get⟩

/-- The flags. -/
def flags : List (Setting Bool) :=
  [flag "json_output" (·.jsonOutput), flag "quiet" (·.quiet), flag "verbose" (·.verbose),
    flag "log_json" (·.logJson), flag "no_lookup" (·.noLookup)]

/-- The keys of the sections. -/
def keys : List ((α : Type) × Setting α) :=
  [⟨_, .inside projectShape "name", fun v => whole (readText v), ProjectSection.default.name,
      (·.project.name)⟩,
    ⟨_, .inside projectShape "natures", readTexts .memory, ProjectSection.default.natures,
      (·.project.natures)⟩,
    ⟨_, .inside projectShape "source_dirs", readTexts .memory, ProjectSection.default.sourceDirs,
      (·.project.sourceDirs)⟩,
    ⟨_, .inside projectShape "class_dirs", readTexts .memory, ProjectSection.default.classDirs,
      (·.project.classDirs)⟩,
    ⟨_, .inside projectShape "classpath", readTexts .memory, ProjectSection.default.classpath,
      (·.project.classpath)⟩,
    ⟨_, .inside lookupShape "enabled", fun v => whole (readBool v), LookupSection.default.enabled,
      (·.lookup.enabled)⟩,
    ⟨_, .inside lookupShape "timeout", fun v => whole (readFloat v), LookupSection.default.timeout,
      (·.lookup.timeout)⟩,
    ⟨_, .inside lookupShape "workers", fun v => whole (readInt v), LookupSection.default.workers,
      (·.lookup.workers)⟩,
    ⟨_, .inside lookupShape "index_sources", fun v => whole (readBool v),
      LookupSection.default.indexSources, (·.lookup.indexSources)⟩,
    ⟨_, .inside templatesShape "default", fun v => whole (readText v), "class",
      (·.defaultTemplate)⟩]

end Setting

theorem readField_eq_ok {α : Type} {es : Entries} {name : String} {fallback a : α}
    {read : Value → Read α} :
    readField es name (.ok fallback) read = .ok a ↔
      (es.get? name).elim (.ok fallback) read = .ok a := by
  unfold readField
  cases es.get? name with
  | none => rfl
  | some v =>
    dsimp only [Option.elim]
    cases read v with
    | ok b => rfl
    | error issues => simp [Except.mapError]

/-- A section about the project that is read field by field. -/
structure ProjectSection.Reads (es : Entries) (p : ProjectSection) : Prop where
  name : (es.get? "name").elim (.ok default.name) (fun v => whole (readText v)) = .ok p.name
  natures : (es.get? "natures").elim (.ok default.natures) (readTexts .memory) = .ok p.natures
  sourceDirs : (es.get? "source_dirs").elim (.ok default.sourceDirs) (readTexts .memory) =
    .ok p.sourceDirs
  classDirs : (es.get? "class_dirs").elim (.ok default.classDirs) (readTexts .memory) =
    .ok p.classDirs
  classpath : (es.get? "classpath").elim (.ok default.classpath) (readTexts .memory) =
    .ok p.classpath

theorem ProjectSection.read_eq_ok {v : Value} {p : ProjectSection} :
    ProjectSection.read v = .ok p ↔ ∃ es, v = .map es ∧ ProjectSection.Reads es p := by
  constructor
  · intro done
    cases v with
    | map es =>
      rw [ProjectSection.read] at done
      split at done
      · rename_i name natures sources classes classpath
        cases done
        exact ⟨es, rfl, readField_eq_ok.mp name, readField_eq_ok.mp natures,
          readField_eq_ok.mp sources, readField_eq_ok.mp classes, readField_eq_ok.mp classpath⟩
      · cases done
    | _ => cases done
  · rintro ⟨es, rfl, reads⟩
    rw [ProjectSection.read]
    rw [readField_eq_ok.mpr reads.name, readField_eq_ok.mpr reads.natures,
      readField_eq_ok.mpr reads.sourceDirs, readField_eq_ok.mpr reads.classDirs,
      readField_eq_ok.mpr reads.classpath]

/-- A section about the lookup that is read field by field. -/
structure LookupSection.Reads (es : Entries) (s : LookupSection) : Prop where
  enabled : (es.get? "enabled").elim (.ok default.enabled) (fun v => whole (readBool v)) =
    .ok s.enabled
  timeout : (es.get? "timeout").elim (.ok default.timeout) (fun v => whole (readFloat v)) =
    .ok s.timeout
  workers : (es.get? "workers").elim (.ok default.workers) (fun v => whole (readInt v)) =
    .ok s.workers
  indexSources : (es.get? "index_sources").elim (.ok default.indexSources)
    (fun v => whole (readBool v)) = .ok s.indexSources

theorem LookupSection.read_eq_ok {v : Value} {s : LookupSection} :
    LookupSection.read v = .ok s ↔ ∃ es, v = .map es ∧ LookupSection.Reads es s := by
  constructor
  · intro done
    cases v with
    | map es =>
      rw [LookupSection.read] at done
      split at done
      · rename_i enabled timeout workers sources
        cases done
        exact ⟨es, rfl, readField_eq_ok.mp enabled, readField_eq_ok.mp timeout,
          readField_eq_ok.mp workers, readField_eq_ok.mp sources⟩
      · cases done
    | _ => cases done
  · rintro ⟨es, rfl, reads⟩
    rw [LookupSection.read]
    rw [readField_eq_ok.mpr reads.enabled, readField_eq_ok.mpr reads.timeout,
      readField_eq_ok.mpr reads.workers, readField_eq_ok.mpr reads.indexSources]

theorem readTemplates_eq_ok {v : Value} {kind : String} :
    readTemplates v = .ok kind ↔ ∃ es, v = .map es ∧
      (Entries.get? es "default").elim (.ok "class") (fun v => whole (readText v)) = .ok kind := by
  cases v with
  | map es =>
    rw [readTemplates, readField_eq_ok]
    simp
  | _ => simp [readTemplates]

/-- The entries of a section; none where it is not given. -/
def entriesUnder (es : Entries) (name : String) : Entries :=
  (es.get? name).elim [] Value.entries

theorem find?_inside (es : Entries) (shape : SectionShape) (key : String) :
    Place.find? es (.inside shape key) = (entriesUnder es shape.name).get? key := by
  rw [Place.find?, entriesUnder]
  cases es.get? shape.name <;> rfl

/-- A section is read as the entries it has, if it is a table at all. -/
theorem readField_section_eq_ok {β : Type} {read : Value → Read β} {Reads : Entries → β → Prop}
    {fallback : β} (reads : ∀ v b, read v = .ok b ↔ ∃ es, v = .map es ∧ Reads es b)
    (empty : ∀ b, Reads [] b ↔ fallback = b) {es : Entries} {name : String} {b : β} :
    readField es name (.ok fallback) read = .ok b ↔
      (∀ v, es.get? name = some v → ∃ inner, v = .map inner) ∧ Reads (entriesUnder es name) b := by
  rw [readField_eq_ok, entriesUnder]
  cases es.get? name with
  | none => simp [empty]
  | some v =>
    simp only [Option.elim, reads]
    constructor
    · rintro ⟨inner, rfl, done⟩
      exact ⟨fun v same => ⟨inner, (Option.some_inj.mp same).symm⟩, done⟩
    · rintro ⟨table, done⟩
      obtain ⟨inner, rfl⟩ := table v rfl
      exact ⟨inner, rfl, done⟩

theorem ProjectSection.reads_nil (p : ProjectSection) :
    ProjectSection.Reads [] p ↔ ProjectSection.default = p := by
  constructor
  · intro reads
    obtain ⟨name, natures, sources, classes, classpath⟩ := reads
    cases p
    cases name
    cases natures
    cases sources
    cases classes
    cases classpath
    rfl
  · rintro rfl
    exact ⟨rfl, rfl, rfl, rfl, rfl⟩

theorem LookupSection.reads_nil (s : LookupSection) :
    LookupSection.Reads [] s ↔ LookupSection.default = s := by
  constructor
  · intro reads
    obtain ⟨enabled, timeout, workers, sources⟩ := reads
    cases s
    cases enabled
    cases timeout
    cases workers
    cases sources
    rfl
  · rintro rfl
    exact ⟨rfl, rfl, rfl, rfl⟩

theorem templates_reads_nil (kind : String) :
    (Entries.get? [] "default").elim (.ok "class") (fun v => whole (readText v)) = Except.ok kind ↔
      "class" = kind := by
  simp [Entries.get?_nil]

theorem readProject_eq_ok {es : Entries} {p : ProjectSection} :
    readField es "project" (.ok .default) ProjectSection.read = .ok p ↔
      (∀ v, es.get? "project" = some v → ∃ inner, v = .map inner) ∧
        ProjectSection.Reads (entriesUnder es "project") p :=
  readField_section_eq_ok (fun _ _ => ProjectSection.read_eq_ok) ProjectSection.reads_nil

theorem readLookup_eq_ok {es : Entries} {l : LookupSection} :
    readField es "lookup" (.ok .default) LookupSection.read = .ok l ↔
      (∀ v, es.get? "lookup" = some v → ∃ inner, v = .map inner) ∧
        LookupSection.Reads (entriesUnder es "lookup") l :=
  readField_section_eq_ok (fun _ _ => LookupSection.read_eq_ok) LookupSection.reads_nil

theorem readTemplatesUnder_eq_ok {es : Entries} {kind : String} :
    readField es "templates" (.ok "class") readTemplates = .ok kind ↔
      (∀ v, es.get? "templates" = some v → ∃ inner, v = .map inner) ∧
        ((entriesUnder es "templates").get? "default").elim (.ok "class")
          (fun v => whole (readText v)) = .ok kind :=
  readField_section_eq_ok (fun _ _ => readTemplates_eq_ok) templates_reads_nil

theorem unknown_eq_nil {es : Entries} :
    Settings.unknown es = [] ↔ ∀ key ∈ es.keys, key ∈ Settings.names := by
  simp [Settings.unknown]

theorem readFlag_eq_ok {es : Entries} {name : String} {b : Bool} (get : Settings → Bool) :
    Settings.readFlag es name = .ok b ↔
      (Setting.flag name get).reading ((Setting.flag name get).place.find? es) = .ok b :=
  readField_eq_ok

/-- The keys of the sections are read one by one, or section by section. -/
theorem reading_keys_iff {es : Entries} {settings : Settings} :
    (∀ s ∈ Setting.keys, s.2.reading (s.2.place.find? es) = .ok (s.2.get settings)) ↔
      ProjectSection.Reads (entriesUnder es "project") settings.project ∧
        LookupSection.Reads (entriesUnder es "lookup") settings.lookup ∧
        ((entriesUnder es "templates").get? "default").elim (.ok "class")
          (fun v => whole (readText v)) = .ok settings.defaultTemplate := by
  simp only [Setting.keys, List.forall_mem_cons, Setting.reading, find?_inside]
  constructor
  · rintro ⟨name, natures, sources, classes, classpath, enabled, timeout, workers, index, kind, _⟩
    exact ⟨⟨name, natures, sources, classes, classpath⟩, ⟨enabled, timeout, workers, index⟩, kind⟩
  · rintro ⟨⟨name, natures, sources, classes, classpath⟩, ⟨enabled, timeout, workers, index⟩, kind⟩
    exact ⟨name, natures, sources, classes, classpath, enabled, timeout, workers, index, kind,
      by simp⟩

theorem givesTables_iff {es : Entries} :
    GivesTables es ↔
      (∀ v, es.get? "project" = some v → ∃ inner, v = .map inner) ∧
        (∀ v, es.get? "lookup" = some v → ∃ inner, v = .map inner) ∧
        ∀ v, es.get? "templates" = some v → ∃ inner, v = .map inner := by
  rw [GivesTables, sectionShapes_eq]
  simp only [List.forall_mem_cons, List.not_mem_nil, false_implies, implies_true, and_true]
  rfl

/-- Settings are read if all keys at the top are known, every section is a table, and every setting
    can be read at its place; what is read is then what they are. -/
theorem Settings.read_eq_ok {root : Files.Path} {configPath : Option Files.Path} {es : Entries}
    {settings : Settings} :
    Settings.read root configPath es = .ok settings ↔
      (∀ key ∈ es.keys, key ∈ Settings.names) ∧ GivesTables es ∧
        settings.root = root ∧ settings.configPath = configPath ∧
        (∀ s ∈ Setting.flags, s.reading (s.place.find? es) = .ok (s.get settings)) ∧
        ∀ s ∈ Setting.keys, s.2.reading (s.2.place.find? es) = .ok (s.2.get settings) := by
  rw [reading_keys_iff, givesTables_iff]
  simp only [Setting.flags, List.forall_mem_cons, ← readFlag_eq_ok]
  constructor
  · intro done
    unfold Settings.read at done
    dsimp only at done
    split at done
    · rename_i json quiet verbose logJson noLookup project lookup template
      split at done
      · rename_i noIssues
        cases done
        obtain ⟨projectTable, project⟩ := readProject_eq_ok.mp project
        obtain ⟨lookupTable, lookup⟩ := readLookup_eq_ok.mp lookup
        obtain ⟨templateTable, template⟩ := readTemplatesUnder_eq_ok.mp template
        have known : Settings.unknown es = [] := by
          simp only [List.isEmpty_iff, List.append_eq_nil_iff] at noIssues
          exact noIssues.2
        exact ⟨unknown_eq_nil.mp known, ⟨projectTable, lookupTable, templateTable⟩, rfl, rfl,
          ⟨json, quiet, verbose, logJson, noLookup, by simp⟩, project, lookup, template⟩
      · cases done
    · cases done
  · rintro ⟨known, ⟨projectTable, lookupTable, templateTable⟩, rfl, rfl,
      ⟨json, quiet, verbose, logJson, noLookup, _⟩, project, lookup, template⟩
    have project := readProject_eq_ok.mpr ⟨projectTable, project⟩
    have lookup := readLookup_eq_ok.mpr ⟨lookupTable, lookup⟩
    have template := readTemplatesUnder_eq_ok.mpr ⟨templateTable, template⟩
    unfold Settings.read
    dsimp only
    rw [json, quiet, verbose, logJson, noLookup, project, lookup, template]
    simp only [unknown_eq_nil.mpr known]
    rfl

/-- Settings can be had that hold whatever can be read. -/
theorem exists_settings (root : Files.Path) (configPath : Option Files.Path)
    {said : Place → Option Value}
    (flags : ∀ s ∈ Setting.flags, ∃ b, s.reading (said s.place) = .ok b)
    (keys : ∀ s ∈ Setting.keys, ∃ a, s.2.reading (said s.2.place) = .ok a) :
    ∃ settings : Settings, settings.root = root ∧ settings.configPath = configPath ∧
      (∀ s ∈ Setting.flags, s.reading (said s.place) = .ok (s.get settings)) ∧
      ∀ s ∈ Setting.keys, s.2.reading (said s.2.place) = .ok (s.2.get settings) := by
  simp only [Setting.flags, List.forall_mem_cons] at flags ⊢
  simp only [Setting.keys, List.forall_mem_cons] at keys ⊢
  obtain ⟨⟨json, hJson⟩, ⟨quiet, hQuiet⟩, ⟨verbose, hVerbose⟩, ⟨logJson, hLogJson⟩,
    ⟨noLookup, hNoLookup⟩, _⟩ := flags
  obtain ⟨⟨name, hName⟩, ⟨natures, hNatures⟩, ⟨sources, hSources⟩, ⟨classes, hClasses⟩,
    ⟨classpath, hClasspath⟩, ⟨enabled, hEnabled⟩, ⟨timeout, hTimeout⟩, ⟨workers, hWorkers⟩,
    ⟨index, hIndex⟩, ⟨kind, hKind⟩, _⟩ := keys
  exact ⟨⟨root, configPath, json, quiet, verbose, logJson, noLookup,
    ⟨name, natures, sources, classes, classpath⟩, ⟨enabled, timeout, workers, index⟩, kind⟩,
    rfl, rfl, ⟨hJson, hQuiet, hVerbose, hLogJson, hNoLookup, by simp⟩,
    hName, hNatures, hSources, hClasses, hClasspath, hEnabled, hTimeout, hWorkers, hIndex, hKind,
    by simp⟩

/-- A setting that is at a place for settings and is no map. -/
structure Setting.IsSimple {α : Type} (s : Setting α) : Prop where
  proper : s.place.IsProper
  notMap : ∀ es a, s.read (.map es) ≠ .ok a

theorem isSimple_of_mem_flags : ∀ s ∈ Setting.flags, s.IsSimple := by
  have simple (name : String) (get : Settings → Bool) (member : name ∈ flagNames) :
      (Setting.flag name get).IsSimple :=
    ⟨member, fun es a read => by simp [Setting.flag, readBool, whole] at read⟩
  simp only [Setting.flags, List.forall_mem_cons]
  exact ⟨simple _ _ (by decide), simple _ _ (by decide), simple _ _ (by decide),
    simple _ _ (by decide), simple _ _ (by decide), by simp⟩

theorem exists_eq_flag_of_mem_flags :
    ∀ s ∈ Setting.flags, ∃ name get, s = Setting.flag name get := by
  simp only [Setting.flags, List.forall_mem_cons]
  exact ⟨⟨_, _, rfl⟩, ⟨_, _, rfl⟩, ⟨_, _, rfl⟩, ⟨_, _, rfl⟩, ⟨_, _, rfl⟩, by simp⟩

theorem exists_place_of_mem_keys :
    ∀ s ∈ Setting.keys, ∃ shape key, s.2.place = .inside shape key := by
  simp [Setting.keys]

theorem isSimple_of_mem_keys : ∀ s ∈ Setting.keys, s.2.IsSimple := by
  have proper : ∀ place ∈ Setting.keys.map (·.2.place), place.IsProper := by decide
  have notMap : ∀ s ∈ Setting.keys, ∀ es a, s.2.read (.map es) ≠ .ok a := by
    simp [Setting.keys, readText, readTexts, readBool, readFloat, readInt, whole]
  exact fun s member => ⟨proper _ (List.mem_map_of_mem member), notMap s member⟩

variable {α : Type} {s : Setting α} {said other : Option Value} {a : α}

/-- What is alike is read alike. -/
theorem Setting.IsSimple.reading_congr (simple : s.IsSimple) (alike : Alike said other) :
    s.reading said = .ok a ↔ s.reading other = .ok a := by
  rcases alike with rfl | ⟨es, more, rfl, rfl⟩
  · rfl
  · exact iff_of_false (simple.notMap es a) (simple.notMap more a)

end Scaffold.Config
