import Scaffold.CommandLine.Run
import Scaffold.Proofs.Config.Precedence

/-!
# Flags on a command line

A command line says something of every flag: true where its option is given, and false where it is
not.  So the options decide about the flags, and neither the environment nor the configuration file
has a part in it; only what a call leaves out is taken from there.
-/

namespace Scaffold.CommandLine

open Config Files Json Schema

/-- The options of the flags, with the settings they are about. -/
def flagOptions : List (String × Setting Bool) :=
  ["--json", "--quiet", "--verbose", "--log-json", "--no-lookup"].zip Setting.flags

theorem mem_flags_of_mem_flagOptions : ∀ o ∈ flagOptions, o.2 ∈ Setting.flags :=
  fun _ member => (List.of_mem_zip member).2

theorem exists_option_of_mem_flags : ∀ s ∈ Setting.flags, ∃ option, (option, s) ∈ flagOptions := by
  simp only [Setting.flags, List.forall_mem_cons]
  exact ⟨⟨"--json", .head _⟩, ⟨"--quiet", .tail _ (.head _)⟩,
    ⟨"--verbose", .tail _ (.tail _ (.head _))⟩,
    ⟨"--log-json", .tail _ (.tail _ (.tail _ (.head _)))⟩,
    ⟨"--no-lookup", .tail _ (.tail _ (.tail _ (.tail _ (.head _))))⟩, by simp⟩

section

variable {a : Arguments} {disk : Disk} {environment : List (String × String)}
  {settings : Settings}

/-- A command line says of every flag whether its option is given. -/
theorem find?_flagsOf (a : Arguments) :
    ∀ o ∈ flagOptions, o.2.place.find? (flagsOf a) = some (.bool (a.has o.1)) := by
  simp [flagOptions, Setting.flags, Setting.flag, Place.find?, flagsOf, Entries.get?_cons]

theorem keys_flagsOf (a : Arguments) : (flagsOf a).keys = flagNames := rfl

theorem keys_flagsOf_nodup (a : Arguments) : (flagsOf a).keys.Nodup := by
  rw [keys_flagsOf]
  decide

/-- What the settings say of the flags of a command line is what its options say. -/
theorem flag_eq_has (loaded : load disk environment (callOf a) = .ok settings) :
    ∀ o ∈ flagOptions, o.2.get settings = a.has o.1 := by
  intro o member
  obtain ⟨location, -, file, -, named, -, read⟩ := load_eq_ok.mp loaded
  obtain ⟨-, -, -, -, flags, -⟩ := Settings.read_eq_ok.mp read
  have inFlags := mem_flags_of_mem_flagOptions o member
  have read := flags o.2 inFlags
  have said := find?_flagsOf a o member
  obtain ⟨name, get, same⟩ := exists_eq_flag_of_mem_flags o.2 inFlags
  rw [same] at read said ⊢
  have above : Alike ((mergedEntries (flagsOf a) named file).get? name) _ :=
    alike_get?_mergeEntries (keys_flagsOf_nodup a) name
  rw [show (flagsOf a).get? name = _ from said, Option.some_or] at above
  have there : Place.find? (mergedEntries (flagsOf a) named file) (.top name) = _ :=
    above.eq_of_noMap (by simp)
  rw [show (Setting.flag name get).place = .top name from rfl, callOf, there] at read
  exact (Except.ok.inj read).symm

/-- What the other sources say of a flag. -/
def flagBelow (environment : List (String × String)) (file : Entries) (s : Setting Bool) :
    Read Bool :=
  s.reading ((environmentValue? environment s.place).or (s.place.find? file))

/-- What is documented of a flag: it is true where its option is given, and otherwise what the
    environment says, or else the file, or else false. -/
def documentedFlag (a : Arguments) (environment : List (String × String)) (file : Entries)
    (o : String × Setting Bool) : Read Bool :=
  if a.has o.1 then .ok true else flagBelow environment file o.2

/-- The settings that are in effect for a command line, if it is read and they can be had. -/
def settingsOf? (disk : Disk) (environment : List (String × String)) (args : List String) :
    Option Settings :=
  match readArguments programOptions false args with
  | .ok a => (load disk environment (callOf a)).toOption
  | .error _ => none

theorem settingsOf?_eq_some {args : List String}
    (read : readArguments programOptions false args = .ok a) :
    settingsOf? disk environment args = some settings ↔
      load disk environment (callOf a) = .ok settings := by
  rw [settingsOf?, read]
  dsimp only
  cases load disk environment (callOf a) <;> simp [Except.toOption]

/-- Whatever variables the flags have, they do not keep a command line from having settings. -/
theorem exists_load_callOf {location : Config.Location} {file : Entries}
    (placed : (callOf a).place disk environment = .ok location)
    (contents : fileEntries disk location.configPath = .ok file)
    (given : WellGiven environment) (tables : GivesTables file)
    (known : ∀ key ∈ file.keys, key ∈ Settings.names)
    (keysValid : ∀ s ∈ Setting.keys, ∃ b,
      s.2.reading ((environmentValue? environment s.2.place).or (s.2.place.find? file)) = .ok b) :
    ∃ settings, load disk environment (callOf a) = .ok settings := by
  have flags : ∀ s ∈ Setting.flags,
      ∃ b, s.reading (said? (callOf a).flags environment file s.place) = .ok b := by
    intro s member
    obtain ⟨option, inOptions⟩ := exists_option_of_mem_flags s member
    obtain ⟨name, get, rfl⟩ := exists_eq_flag_of_mem_flags s member
    refine ⟨a.has option, ?_⟩
    rw [said?, callOf, find?_flagsOf a _ inOptions, Option.some_or]
    rfl
  obtain ⟨settings, loaded, -, -⟩ :=
    exists_load_of_flags placed contents given tables known (keys_flagsOf_nodup a)
      (fun key member => keys_flagsOf a ▸ member) flags keysValid
  exact ⟨settings, loaded⟩

/-- The options alone decide about the flags: an absent option hides what the environment and the
    file say.  So a flag has its documented value exactly if its option is given or nothing else
    turns the flag on. -/
theorem flags_of_commandLine {args : List String}
    (read : readArguments programOptions false args = .ok a) (disk : Disk)
    (environment : List (String × String)) :
    (∀ settings, settingsOf? disk environment args = some settings → ∀ o ∈ flagOptions,
      o.2.get settings = a.has o.1 ∧
        ∀ file, documentedFlag a environment file o = .ok (o.2.get settings) ↔
          a.has o.1 ∨ flagBelow environment file o.2 = .ok false) ∧
      ∀ location file, (callOf a).place disk environment = .ok location →
        fileEntries disk location.configPath = .ok file → WellGiven environment →
        GivesTables file → (∀ key ∈ file.keys, key ∈ Settings.names) →
        (∀ s ∈ Setting.keys, ∃ b, s.2.reading
          ((environmentValue? environment s.2.place).or (s.2.place.find? file)) = .ok b) →
        ∃ settings, settingsOf? disk environment args = some settings := by
  refine ⟨fun settings effective o member => ?_, ?_⟩
  · have decided := flag_eq_has ((settingsOf?_eq_some read).mp effective) o member
    refine ⟨decided, fun file => ?_⟩
    rw [decided, documentedFlag]
    cases a.has o.1 <;> simp
  · intro location file placed contents given tables known keysValid
    obtain ⟨settings, loaded⟩ := exists_load_callOf placed contents given tables known keysValid
    exact ⟨settings, (settingsOf?_eq_some read).mpr loaded⟩

end

/-- An environment that asks for minimal output. -/
def quietEnvironment : List (String × String) := [("SCALANEW_QUIET", "true")]

/-- Every key has a value where the environment says nothing but a flag. -/
theorem reading_quietEnvironment : ∀ s ∈ Setting.keys, ∃ b, s.2.reading
    ((environmentValue? quietEnvironment s.2.place).or (s.2.place.find? [])) = .ok b := by
  have all : ∀ s ∈ Setting.keys, (s.2.reading ((environmentValue? quietEnvironment
      s.2.place).or (s.2.place.find? []))).isOk := by decide +kernel
  exact fun s member => eq_ok_of_isOk (all s member)

/-- With the option the flag is on, as the environment says it should be. -/
theorem flags_of_commandLine_quiet :
    ∃ a settings, readArguments programOptions false ["-q", "vars", "a.B"] = .ok a ∧
      settingsOf? ⟨.empty, []⟩ quietEnvironment ["-q", "vars", "a.B"] = some settings ∧
      settings.quiet = true ∧ settings.verbose = false := by
  have read : readArguments programOptions false ["-q", "vars", "a.B"] =
      .ok ⟨[("--quiet", "")], ["vars", "a.B"]⟩ := by decide
  obtain ⟨flags, effect⟩ := flags_of_commandLine read ⟨.empty, []⟩ quietEnvironment
  obtain ⟨settings, effective⟩ := effect ⟨⟨.single, []⟩, none⟩ [] rfl rfl (by decide +kernel)
    (by decide) (by decide) reading_quietEnvironment
  exact ⟨_, settings, read, effective,
    (flags settings effective _ (.tail _ (.head _))).1,
    (flags settings effective _ (.tail _ (.tail _ (.head _)))).1⟩

/-- Without the option the flag is off, although the environment turns it on. -/
theorem settingsOf?_hides_environment :
    ∃ a settings, readArguments programOptions false ["vars", "a.B"] = .ok a ∧
      settingsOf? ⟨.empty, []⟩ quietEnvironment ["vars", "a.B"] = some settings ∧
      settings.quiet = false ∧
      documentedFlag a quietEnvironment [] ("--quiet", .flag "quiet" (·.quiet)) = .ok true := by
  have read : readArguments programOptions false ["vars", "a.B"] =
      .ok ⟨[], ["vars", "a.B"]⟩ := by decide
  have placed : (callOf ⟨[], ["vars", "a.B"]⟩).place ⟨.empty, []⟩ quietEnvironment =
      .ok ⟨⟨.single, []⟩, none⟩ := rfl
  obtain ⟨settings, loaded⟩ := exists_load_callOf placed rfl (by decide +kernel) (by decide)
    (by decide) reading_quietEnvironment
  have off := flag_eq_has loaded ("--quiet", .flag "quiet" (·.quiet)) (.tail _ (.head _))
  exact ⟨_, settings, read, (settingsOf?_eq_some read).mpr loaded, off, by decide +kernel⟩

end Scaffold.CommandLine
