import Scaffold.Outcome
import Scaffold.Proofs.Config.Reading
import Scaffold.Proofs.Config.Sections

/-!
# Which source counts

Flags come before the environment, the environment before the configuration file, and the file
before what holds by default.  This is so for every setting on its own, whatever the sources say of
others.
-/

namespace Scaffold.Config

open Files Json Schema

/-- What the sources say of a place: the first one that says anything counts. -/
def said? (flags : Entries) (environment : List (String × String)) (file : Entries)
    (place : Place) : Option Value :=
  (place.find? flags).or ((environmentValue? environment place).or (place.find? file))

/-- Settings are loaded if each of the sources can be had and the merged ones can be read. -/
theorem load_eq_ok {disk : Disk} {environment : List (String × String)} {call : Call}
    {settings : Settings} :
    load disk environment call = .ok settings ↔
      ∃ location, call.place disk environment = .ok location ∧
        ∃ file, fileEntries disk location.configPath = .ok file ∧
          ∃ named, environmentEntries environment = .ok named ∧
            Settings.read location.root location.configPath
              (mergedEntries call.flags named file) = .ok settings := by
  simp only [load, bind_eq_ok, mapError_eq_ok]

section

variable {disk : Disk} {environment : List (String × String)} {call : Call} {location : Location}
  {flags named file : Entries}

/-- Merged sources say of a place what the first of them says that says anything. -/
theorem alike_find?_mergedEntries (once : GivesOnce flags) (flagTables : GivesTables flags)
    (environs : Environs environment named) (fileTables : GivesTables file) {place : Place}
    (proper : place.IsProper) :
    Alike (place.find? (mergedEntries flags named file))
      (said? flags environment file place) := by
  have below := alike_find?_mergeEntries environs.once environs.tables fileTables proper
  have lower := GivesTables.merge environs.once environs.tables fileTables
  exact (alike_find?_mergeEntries once flagTables lower proper).trans
    (.or_ (.refl _) (below.trans (.or_ (environs.value place proper) (.refl _))))

/-- Settings can be loaded where every setting can be read from the source that counts for it, and
    are then what is read from it. -/
theorem exists_load (placed : call.place disk environment = .ok location)
    (contents : fileEntries disk location.configPath = .ok file)
    (given : WellGiven environment) (once : GivesOnce call.flags)
    (flagTables : GivesTables call.flags) (fileTables : GivesTables file)
    (known : ∀ key ∈ call.flags.keys ++ file.keys, key ∈ Settings.names)
    (flags : ∀ s ∈ Setting.flags,
      ∃ b, s.reading (said? call.flags environment file s.place) = .ok b)
    (keys : ∀ s ∈ Setting.keys,
      ∃ a, s.2.reading (said? call.flags environment file s.2.place) = .ok a) :
    ∃ settings, load disk environment call = .ok settings ∧
      (∀ s ∈ Setting.flags,
        s.reading (said? call.flags environment file s.place) = .ok (s.get settings)) ∧
      ∀ s ∈ Setting.keys,
        s.2.reading (said? call.flags environment file s.2.place) = .ok (s.2.get settings) := by
  obtain ⟨named, told, environs⟩ := exists_environmentEntries given
  obtain ⟨settings, root, configPath, flagsHold, keysHold⟩ :=
    exists_settings location.root location.configPath flags keys
  have merged {place : Place} (proper : place.IsProper) :=
    alike_find?_mergedEntries once flagTables environs fileTables proper
  refine ⟨settings, load_eq_ok.mpr ⟨location, placed, file, contents, named, told, ?_⟩,
    flagsHold, keysHold⟩
  refine Settings.read_eq_ok.mpr ⟨?_, ?_, root, configPath, ?_, ?_⟩
  · intro key member
    rw [mergedEntries, mem_keys_mergeEntries, mem_keys_mergeEntries] at member
    rcases member with (low | middle) | high
    · exact known key (List.mem_append_right _ low)
    · rw [Settings.names, List.append_assoc]
      exact List.mem_append_right _ (environs.known key middle)
    · exact known key (List.mem_append_left _ high)
  · exact .merge once flagTables (.merge environs.once environs.tables fileTables)
  · intro s member
    have simple := isSimple_of_mem_flags s member
    exact (simple.reading_congr (merged simple.proper)).mpr (flagsHold s member)
  · intro s member
    have simple := isSimple_of_mem_keys s member
    exact (simple.reading_congr (merged simple.proper)).mpr (keysHold s member)

/-- Flags say nothing of sections. -/
theorem get?_section_of_flags (onlyFlags : ∀ key ∈ flags.keys, key ∈ flagNames)
    {shape : SectionShape} (member : shape ∈ sectionShapes) : flags.get? shape.name = none :=
  Entries.get?_eq_none_iff.mpr fun given =>
    (List.nodup_append.mp nodup_names).2.2 _ (onlyFlags _ given) _ (List.mem_map_of_mem member) rfl

theorem said?_key_of_flags (environment : List (String × String)) (file : Entries)
    (onlyFlags : ∀ key ∈ flags.keys, key ∈ flagNames) :
    ∀ s ∈ Setting.keys, said? flags environment file s.2.place =
      (environmentValue? environment s.2.place).or (s.2.place.find? file) := by
  intro s member
  have proper := (isSimple_of_mem_keys s member).proper
  obtain ⟨shape, key, place⟩ := exists_place_of_mem_keys s member
  rw [place] at proper ⊢
  rw [said?, Place.find?, get?_section_of_flags onlyFlags proper.1, Option.bind_none,
    Option.none_or]

/-- A call that gives flags only leaves the sections to the environment and the file. -/
theorem exists_load_of_flags (placed : call.place disk environment = .ok location)
    (contents : fileEntries disk location.configPath = .ok file)
    (given : WellGiven environment) (tables : GivesTables file)
    (known : ∀ key ∈ file.keys, key ∈ Settings.names)
    (once : call.flags.keys.Nodup) (onlyFlags : ∀ key ∈ call.flags.keys, key ∈ flagNames)
    (flagsValid : ∀ s ∈ Setting.flags,
      ∃ b, s.reading (said? call.flags environment file s.place) = .ok b)
    (keysValid : ∀ s ∈ Setting.keys, ∃ a,
      s.2.reading ((environmentValue? environment s.2.place).or (s.2.place.find? file)) = .ok a) :
    ∃ settings, load disk environment call = .ok settings ∧
      (∀ s ∈ Setting.flags,
        s.reading (said? call.flags environment file s.place) = .ok (s.get settings)) ∧
      ∀ s ∈ Setting.keys,
        s.2.reading ((environmentValue? environment s.2.place).or (s.2.place.find? file)) =
          .ok (s.2.get settings) := by
  have said := said?_key_of_flags environment file onlyFlags
  have absent : ∀ shape ∈ sectionShapes, call.flags.get? shape.name = none :=
    fun shape member => get?_section_of_flags onlyFlags member
  have flagsOnce : GivesOnce call.flags :=
    ⟨once, fun shape member inner found => by rw [absent shape member] at found; cases found⟩
  have flagTables : GivesTables call.flags :=
    fun shape member v found => by rw [absent shape member] at found; cases found
  have allKnown : ∀ key ∈ call.flags.keys ++ file.keys, key ∈ Settings.names := by
    intro key member
    rcases List.mem_append.mp member with flag | inFile
    · rw [Settings.names, List.append_assoc]
      exact List.mem_append_right _ (List.mem_append_left _ (onlyFlags key flag))
    · exact known key inFile
  obtain ⟨settings, loaded, flags, keys⟩ :=
    exists_load placed contents given flagsOnce flagTables tables allKnown flagsValid
      fun s member => said s member ▸ keysValid s member
  exact ⟨settings, loaded, flags, fun s member => said s member ▸ keys s member⟩

/-- Sections are merged key by key: each key of each section has the value of the environment if
    the environment sets this key, or else that of the configuration file if the file sets it, or
    else what holds by default, whatever is said of other keys. -/
theorem load_key_by_key (placed : call.place disk environment = .ok location)
    (contents : fileEntries disk location.configPath = .ok file)
    (given : WellGiven environment) (tables : GivesTables file)
    (known : ∀ key ∈ file.keys, key ∈ Settings.names)
    (once : call.flags.keys.Nodup) (onlyFlags : ∀ key ∈ call.flags.keys, key ∈ flagNames)
    (flagsValid : ∀ s ∈ Setting.flags,
      ∃ b, s.reading (said? call.flags environment file s.place) = .ok b)
    (keysValid : ∀ s ∈ Setting.keys, ∃ a,
      s.2.reading ((environmentValue? environment s.2.place).or (s.2.place.find? file)) = .ok a) :
    ∃ settings, load disk environment call = .ok settings ∧
      ∀ s ∈ Setting.keys,
        s.2.reading ((environmentValue? environment s.2.place).or (s.2.place.find? file)) =
          .ok (s.2.get settings) := by
  obtain ⟨settings, loaded, _, keys⟩ :=
    exists_load_of_flags placed contents given tables known once onlyFlags flagsValid keysValid
  exact ⟨settings, loaded, keys⟩

end

/-- A project whose configuration file says something of two sections. -/
def layeredDisk : Disk :=
  ⟨⟨[(["scalanew.toml"], .file (.text
    "[project]\nname = \"a\"\nnatures = [\"java\"]\n[lookup]\nworkers = 3\n"))]⟩, []⟩

/-- An environment that gives one section as a whole and a key of another one. -/
def layeredEnvironment : List (String × String) :=
  [("SCALANEW_PROJECT", "\x7b\"Natures\": [\"scala\", \"sbt\"]\x7d"),
    ("scalanew_LOOKUP__workers", "5")]

/-- A call with one flag. -/
def layeredCall : Call := ⟨none, none, [("quiet", .bool true)]⟩

/-- Where the call leads to. -/
def layeredLocation : Location := ⟨⟨.single, []⟩, some ⟨.single, ["scalanew.toml"]⟩⟩

/-- What the configuration file says. -/
def layeredFile : Entries := ((fileEntries layeredDisk layeredLocation.configPath).toOption).getD []

/-- A list in the environment replaces the one in the file, and the other keys of its section stay;
    keys that only one source gives are taken from there. -/
theorem load_key_by_key_layered :
    layeredCall.place layeredDisk layeredEnvironment = .ok layeredLocation ∧
      fileEntries layeredDisk layeredLocation.configPath = .ok layeredFile ∧
      WellGiven layeredEnvironment ∧
      ∃ settings, load layeredDisk layeredEnvironment layeredCall = .ok settings ∧
        settings.project.name = "a" ∧ settings.project.natures = ["scala", "sbt"] ∧
        settings.lookup.workers = 5 ∧ settings.lookup.enabled = true := by
  have contents : fileEntries layeredDisk layeredLocation.configPath = .ok layeredFile := by
    have done : (fileEntries layeredDisk layeredLocation.configPath).isOk := by decide +kernel
    obtain ⟨file, found⟩ := eq_ok_of_isOk done
    rw [layeredFile, found]
    rfl
  have given : WellGiven layeredEnvironment := by decide +kernel
  have valid : ∀ s ∈ Setting.keys, (s.2.reading ((environmentValue? layeredEnvironment
      s.2.place).or (s.2.place.find? layeredFile))).isOk := by decide +kernel
  have flags : ∀ s ∈ Setting.flags, (s.reading (said? layeredCall.flags layeredEnvironment
      layeredFile s.place)).isOk := by decide +kernel
  obtain ⟨settings, loaded, keys⟩ := load_key_by_key rfl contents given (by decide +kernel)
    (by decide +kernel) (by decide) (by decide) (fun s member => eq_ok_of_isOk (flags s member))
    fun s member => eq_ok_of_isOk (valid s member)
  simp only [Setting.keys, List.forall_mem_cons] at keys
  obtain ⟨name, natures, _, _, _, enabled, _, workers, _⟩ := keys
  exact ⟨rfl, contents, given, settings, loaded,
    Except.ok.inj (name.symm.trans (eq_ok_of_toOption (by decide +kernel))),
    Except.ok.inj (natures.symm.trans (eq_ok_of_toOption (by decide +kernel))),
    Except.ok.inj (workers.symm.trans (eq_ok_of_toOption (by decide +kernel))),
    Except.ok.inj (enabled.symm.trans (eq_ok_of_toOption (by decide +kernel)))⟩

end Scaffold.Config
