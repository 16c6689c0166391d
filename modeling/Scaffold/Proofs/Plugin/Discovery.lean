import Scaffold.Plugin.Discover
import Scaffold.Proofs.Text.Suffix

/-!
# What discovery registers

Each class that a plugin file defines, marks hooks in, can be started and fits its events is
offered under the name of its file.  A registry admits the first offer of each name and refuses
the others, whole: so a file or a class that fails takes nothing from the others and leaves nothing
behind, but a second class of one file is refused because of the first.
-/

namespace Scaffold.Files

theorem Path.name_child (dir : Path) (name : String) : (dir.child name).name = name := by
  simp [Path.name, Path.child]

end Scaffold.Files

namespace Scaffold.Plugin

open Files

/-- The hooks that a class marks. -/
def Definition.markedHooks (d : Definition) : Hooks := if d.marked then d.hooks else ⟨none, none⟩

/-- Whether instances of a class can be made and take part in events as those are. -/
def Definition.isSound (d : Definition) : Bool := !d.failsToStart && !d.wrongArguments

/-- An instance of a class, registered with all the hooks that it marks. -/
def Definition.offer (name : String) (d : Definition) : Member := ⟨name, d.name, d.markedHooks⟩

/-- The plugin classes of a module, sorted by name. -/
def Module.plugins (m : Module) : List Definition :=
  (m.classes.filter (·.isPlugin)).mergeSort fun a b => a.name ≤ b.name

theorem Module.mem_plugins {m : Module} {d : Definition} :
    d ∈ m.plugins ↔ d ∈ m.classes ∧ d.isPlugin = true := by
  rw [plugins, List.mem_mergeSort, List.mem_filter]

/-- What a plugin file has to register. -/
def fileOffers (disk : Disk) (path : Path) : List Member :=
  if (moduleOf disk path).loads then
    ((moduleOf disk path).plugins.filter Definition.isSound).map
      (Definition.offer (moduleName path.name))
  else []

/-- What a directory of plugin files has to register, in the order of the files. -/
def offers (disk : Disk) (dir : Path) : List Member :=
  (pluginFiles disk dir).flatMap (fileOffers disk)

theorem mem_fileOffers {disk : Disk} {path : Path} {m : Member} :
    m ∈ fileOffers disk path ↔ (moduleOf disk path).loads = true ∧
      ∃ d ∈ (moduleOf disk path).classes, d.isPlugin = true ∧ d.failsToStart = false ∧
        d.wrongArguments = false ∧ m = d.offer (moduleName path.name) := by
  unfold fileOffers
  split
  case isTrue loads =>
    simp only [loads, true_and, List.mem_map, List.mem_filter, Module.mem_plugins,
      Definition.isSound, Bool.and_eq_true, Bool.not_eq_true']
    constructor
    · rintro ⟨d, ⟨⟨defined, plugin⟩, starts, fits⟩, rfl⟩
      exact ⟨d, defined, plugin, starts, fits, rfl⟩
    · rintro ⟨d, defined, plugin, starts, fits, rfl⟩
      exact ⟨d, ⟨⟨defined, plugin⟩, starts, fits⟩, rfl⟩
  case isFalse broken =>
    exact iff_of_false nofun fun offered => broken offered.1

theorem mem_pluginFiles {disk : Disk} {dir path : Path} :
    path ∈ pluginFiles disk dir ↔ ∃ base name, disk.locate true dir = .ok base ∧
      name ∈ disk.tree.children base ∧ name.endsWith ".py" = true ∧
      name.startsWith "_" = false ∧ path = dir.child name := by
  unfold pluginFiles
  split
  case h_1 why failed => simp [failed]
  case h_2 base found =>
    simp only [found, Except.ok.injEq, List.mem_map, List.mem_filter, Bool.and_eq_true,
      Bool.not_eq_true']
    constructor
    · rintro ⟨name, ⟨listed, ending, front⟩, rfl⟩
      exact ⟨base, name, rfl, listed, ending, front, rfl⟩
    · rintro ⟨base, name, rfl, listed, ending, front, rfl⟩
      exact ⟨name, ⟨listed, ending, front⟩, rfl⟩

/-- What a directory has to offer: an instance of a class that is defined in a file directly in it
    whose name ends in `.py` and does not start with `_`, with all the hooks that the class marks;
    the file loads, and the class takes part in an event, can be started and fits its events. -/
inductive Offered (disk : Disk) (dir : Path) : Member → Prop
  | intro {base : Location} {name : String} {d : Definition} :
      disk.locate true dir = .ok base → name ∈ disk.tree.children base →
      name.endsWith ".py" = true → name.startsWith "_" = false →
      (moduleOf disk (dir.child name)).loads = true →
      d ∈ (moduleOf disk (dir.child name)).classes → d.isPlugin = true →
      d.failsToStart = false → d.wrongArguments = false →
      Offered disk dir (d.offer (moduleName name))

theorem mem_offers {disk : Disk} {dir : Path} {m : Member} :
    m ∈ offers disk dir ↔ Offered disk dir m := by
  simp only [offers, List.mem_flatMap, mem_pluginFiles, mem_fileOffers]
  constructor
  · rintro ⟨_, ⟨base, name, found, listed, ending, front, rfl⟩, loads, d, defined, plugin, starts,
      fits, rfl⟩
    rw [Path.name_child]
    exact .intro found listed ending front loads defined plugin starts fits
  · rintro ⟨found, listed, ending, front, loads, defined, plugin, starts, fits⟩
    refine ⟨_, ⟨_, _, found, listed, ending, front, rfl⟩, loads, _, defined, plugin, starts,
      fits, ?_⟩
    rw [Path.name_child]

/-- Two plugin files have different module names, apart from `.py` and `.py.py`. -/
theorem moduleName_inj {a b : String} (first : a.endsWith ".py" = true)
    (second : b.endsWith ".py" = true) (same : moduleName a = moduleName b) :
    a = b ∨ a = ".py" ∧ b = ".py.py" ∨ a = ".py.py" ∧ b = ".py" := by
  have three : ".py".length = 3 := rfl
  have stems := String.append_right_inj _ |>.mp same
  have whole {s : String} (ends : s.endsWith ".py" = true) :
      (s.dropEnd 3).toString ++ ".py" = s := three ▸ Text.append_of_endsWith ends
  by_cases short : a = ".py" <;> by_cases other : b = ".py"
  · exact .inl (short.trans other.symm)
  · rw [if_pos short, if_neg other, short] at stems
    exact .inr (.inl ⟨short, by rw [← whole second, ← stems]; rfl⟩)
  · rw [if_neg short, if_pos other, other] at stems
    exact .inr (.inr ⟨by rw [← whole first, stems]; rfl, other⟩)
  · rw [if_neg short, if_neg other] at stems
    exact .inl (by rw [← whole first, stems, whole second])

theorem name_of_mem_fileOffers {disk : Disk} {path : Path} {m : Member}
    (offered : m ∈ fileOffers disk path) : m.name = moduleName path.name := by
  obtain ⟨-, d, -, -, -, -, rfl⟩ := mem_fileOffers.mp offered
  rfl

theorem find?_fileOffers (disk : Disk) (path : Path) (name : String) :
    (fileOffers disk path).find? (·.name == name) =
      if moduleName path.name = name then (fileOffers disk path).head? else none := by
  have named (m : Member) (offered : m ∈ fileOffers disk path) := name_of_mem_fileOffers offered
  rcases whole : fileOffers disk path with _ | ⟨m, ms⟩
  · simp
  · rw [whole] at named
    split
    case isTrue same => simp [named m List.mem_cons_self, same]
    case isFalse different =>
      refine List.find?_eq_none.mpr fun other offered => ?_
      rw [named other offered]
      simpa using different

/-- What is offered under the name of a file, if no other file has the name. -/
theorem find?_offers {disk : Disk} {dir file : Path} (among : file ∈ pluginFiles disk dir)
    (alone : ∀ other ∈ pluginFiles disk dir, moduleName other.name = moduleName file.name →
      other = file) :
    (offers disk dir).find? (·.name == moduleName file.name) = (fileOffers disk file).head? := by
  simp only [offers, List.find?_flatMap, find?_fileOffers]
  rcases found : (fileOffers disk file).head? with _ | m
  · refine List.findSome?_eq_none_iff.mpr fun other member => ?_
    split
    case isTrue same => rw [alone other member same, found]
    case isFalse => rfl
  · obtain ⟨before, after, split, fresh⟩ := List.eq_append_cons_of_mem among
    refine List.findSome?_eq_some_iff.mpr
      ⟨before, file, after, split, by rw [if_pos rfl, found], ?_⟩
    intro other earlier
    refine if_neg fun same => fresh ?_
    have member : other ∈ pluginFiles disk dir := split ▸ List.mem_append_left _ earlier
    exact alone other member same ▸ earlier

/-- Offers are admitted in turn: one whose name is taken is refused. -/
inductive Admission : (taken : List String) → (offered admitted : List Member) → Prop
  | done {taken : List String} : Admission taken [] []
  | grant {taken : List String} {m : Member} {offered admitted : List Member} :
      m.name ∉ taken → Admission (taken ++ [m.name]) offered admitted →
      Admission taken (m :: offered) (m :: admitted)
  | refuse {taken : List String} {m : Member} {offered admitted : List Member} :
      m.name ∈ taken → Admission taken offered admitted → Admission taken (m :: offered) admitted

namespace Admission

variable {taken : List String} {offered admitted more others : List Member}

theorem append (first : Admission taken offered admitted)
    (second : Admission (taken ++ admitted.map Member.name) more others) :
    Admission taken (offered ++ more) (admitted ++ others) := by
  induction first with
  | done => simpa using second
  | grant free _ ih => exact .grant free (ih (by simpa using second))
  | refuse used _ ih => exact .refuse used (ih second)

theorem sublist (admission : Admission taken offered admitted) : admitted.Sublist offered := by
  induction admission with
  | done => exact .slnil
  | grant _ _ ih => exact ih.cons_cons _
  | refuse _ _ ih => exact ih.cons _

/-- No name is used twice. -/
theorem nodup (admission : Admission taken offered admitted) (distinct : taken.Nodup) :
    (taken ++ admitted.map Member.name).Nodup := by
  induction admission with
  | done => simpa using distinct
  | @grant taken m _ _ free _ ih =>
    have extended : (taken ++ [m.name]).Nodup := by
      rw [List.nodup_append]
      refine ⟨distinct, by simp, ?_⟩
      rintro a used b only rfl
      exact free (List.mem_singleton.mp only ▸ used)
    simpa using ih extended
  | refuse _ _ ih => exact ih distinct

/-- Under each name that is free, the first offer is admitted. -/
theorem first (admission : Admission taken offered admitted) (name : String) :
    admitted.find? (·.name == name) =
      if name ∈ taken then none else offered.find? (·.name == name) := by
  induction admission with
  | done => simp
  | @grant taken m offered admitted free _ ih =>
    by_cases same : m.name = name
    · simp [← same, free]
    · simp [ih, same, Ne.symm same]
  | @refuse taken m offered admitted used _ ih =>
    rw [ih]
    by_cases same : m.name = name
    · simp [← same, used]
    · simp [same]

/-- Where no two offers share a name and no name is taken, every offer is admitted. -/
theorem whole (admission : Admission taken offered admitted)
    (distinct : (taken ++ offered.map Member.name).Nodup) : admitted = offered := by
  induction admission with
  | done => rfl
  | grant free _ ih => rw [ih (by simpa using distinct)]
  | @refuse taken m offered admitted used _ ih =>
    rw [List.nodup_append] at distinct
    exact absurd rfl (distinct.2.2 _ used _ (by simp))

end Admission

namespace Registry

variable {r : Registry} {name label : String} {d : Definition}

/-- The registry with more plugins. -/
def extend (r : Registry) (news : List Member) : Registry := ⟨r.members ++ news⟩

@[simp] theorem extend_nil (r : Registry) : r.extend [] = r := by simp [extend]

@[simp] theorem extend_extend (r : Registry) (news more : List Member) :
    (r.extend news).extend more = r.extend (news ++ more) := by simp [extend]

@[simp] theorem names_extend (r : Registry) (news : List Member) :
    (r.extend news).names = r.names ++ news.map Member.name := by simp [extend, names]

/-- An instance of a class that fits its events is registered with all its marked hooks, if the
    name is free. -/
theorem register_of_free (free : name ∉ r.names) (fits : d.wrongArguments = false) :
    r.register name d.name d = .ok (r.extend [d.offer name]) := by
  simp [register, free, fits, extend, Definition.offer, Definition.markedHooks]

theorem register_of_taken (taken : name ∈ r.names) :
    r.register name label d = .error .nameTaken := by
  simp [register, taken]

/-- An instance of a class with an ill-fitting hook is refused with all its hooks. -/
theorem register_of_misfit (misfit : d.wrongArguments = true) :
    (r.register name label d).toOption = none := by
  by_cases taken : name ∈ r.names
  · rw [register_of_taken taken]
    rfl
  · simp [register, taken, misfit, Except.toOption]

end Registry

open Registry

/-- The classes of a file are admitted in turn, those that fail left out. -/
theorem registerAll_admits (path : Path) (name : String) (ds : List Definition) (r : Registry) :
    ∃ news, (registerAll path name ds r).2 = r.extend news ∧
      Admission r.names ((ds.filter Definition.isSound).map (Definition.offer name)) news := by
  induction ds generalizing r with
  | nil => exact ⟨[], by simp [registerAll], .done⟩
  | cons d ds ih =>
    by_cases sound : d.isSound = true
    · obtain ⟨starts, fits⟩ : d.failsToStart = false ∧ d.wrongArguments = false := by
        simpa [Definition.isSound] using sound
      rw [List.filter_cons_of_pos sound, List.map_cons]
      by_cases taken : name ∈ r.names
      · obtain ⟨news, ended, admission⟩ := ih r
        refine ⟨news, ?_, .refuse taken admission⟩
        simp [registerAll, starts, register_of_taken taken, Except.toOption, ended]
      · obtain ⟨news, ended, admission⟩ := ih (r.extend [d.offer name])
        refine ⟨d.offer name :: news, ?_, .grant taken ?_⟩
        · simp [registerAll, starts, register_of_free taken fits, Except.toOption, ended]
        · simpa [Definition.offer] using admission
    · obtain ⟨news, ended, admission⟩ := ih r
      refine ⟨news, ?_, by rwa [List.filter_cons_of_neg sound]⟩
      have refused :
          (if d.failsToStart then none else (r.register name d.name d).toOption) = none := by
        split
        case isTrue => rfl
        case isFalse starts =>
          exact register_of_misfit (by simpa [Definition.isSound, starts] using sound)
      simp only [registerAll, refused]
      exact ended

theorem loadFile_admits (disk : Disk) (path : Path) (r : Registry) :
    ∃ news, (loadFile disk path r).2 = r.extend news ∧
      Admission r.names (fileOffers disk path) news := by
  by_cases loads : (moduleOf disk path).loads = true
  · rw [loadFile, fileOffers, if_pos loads, if_pos loads]
    exact registerAll_admits path (moduleName path.name) (moduleOf disk path).plugins r
  · rw [loadFile, fileOffers, if_neg loads, if_neg loads]
    exact ⟨[], r.extend_nil.symm, .done⟩

/-- The files are admitted in turn; what one of them adds is in the way of a later one only by the
    names. -/
theorem loadFiles_admits (disk : Disk) (paths : List Path) (r : Registry) :
    ∃ news, (loadFiles disk paths r).2 = r.extend news ∧
      Admission r.names (paths.flatMap (fileOffers disk)) news := by
  induction paths generalizing r with
  | nil => exact ⟨[], by simp [loadFiles], .done⟩
  | cons path paths ih =>
    obtain ⟨news, loaded, admission⟩ := loadFile_admits disk path r
    obtain ⟨others, ended, later⟩ := ih (r.extend news)
    refine ⟨news ++ others, ?_, ?_⟩
    · simp [loadFiles, loaded, ended]
    · rw [List.flatMap_cons]
      exact admission.append (r.names_extend news ▸ later)

/-- What a registry `r'` has after discovery in a directory: the plugins of `r`, and news. -/
structure Discovered (disk : Disk) (dir : Path) (r : Registry) (news : List Member)
    (r' : Registry) : Prop where
  members : r'.members = r.members ++ news
  offered : ∀ m, m ∈ offers disk dir ↔ Offered disk dir m
  /-- Whatever is new was offered, and is registered in the order of the offers. -/
  in_order : news.Sublist (offers disk dir)
  distinct : r.names.Nodup → r'.names.Nodup
  /-- Under each free name the first offer is registered. -/
  first : ∀ name, news.find? (·.name == name) =
    if name ∈ r.names then none else (offers disk dir).find? (·.name == name)
  /-- So each file registers the first of its classes, whatever the other files do. -/
  each : ∀ file ∈ pluginFiles disk dir, file.name ≠ ".py" → file.name ≠ ".py.py" →
    moduleName file.name ∉ r.names →
    news.find? (·.name == moduleName file.name) = (fileOffers disk file).head?
  /-- Where no two offers share a name and none is taken, all of them are registered. -/
  whole : (r.names ++ (offers disk dir).map Member.name).Nodup → news = offers disk dir

theorem Admission.discovered {disk : Disk} {dir : Path} {r : Registry} {news : List Member}
    (admission : Admission r.names (offers disk dir) news) :
    Discovered disk dir r news (r.extend news) where
  members := rfl
  offered _ := mem_offers
  in_order := admission.sublist
  distinct nodup := by simpa using admission.nodup nodup
  first := admission.first
  each file among single double free := by
    rw [admission.first, if_neg free]
    refine find?_offers among fun other member same => ?_
    obtain ⟨_, name, -, -, ends, -, rfl⟩ := mem_pluginFiles.mp among
    obtain ⟨_, name', -, -, ends', -, rfl⟩ := mem_pluginFiles.mp member
    rw [Path.name_child] at single double same
    rw [Path.name_child] at same
    rcases moduleName_inj ends' ends same with rfl | ⟨-, twice⟩ | ⟨-, once⟩
    · rfl
    · exact absurd twice double
    · exact absurd once single
  whole := admission.whole

/-- A class that listens for new files. -/
def listening (name : String) : Definition := ⟨name, ⟨none, some false⟩, false, true, false⟩

/-- A directory with one plugin file, which defines two classes. -/
def pairedDisk : Disk :=
  ⟨⟨[(["plugins"], .directory),
    (["plugins", "two.py"], .file (.plugin ⟨true, [listening "A", listening "B"]⟩))]⟩, []⟩

/-- The directory itself. -/
def pairedDirectory : Path := ⟨.relative, ["plugins"]⟩

theorem offers_paired : offers pairedDisk pairedDirectory =
    [(listening "A").offer (moduleName "two.py"), (listening "B").offer (moduleName "two.py")] := by
  have located : pairedDisk.locate true pairedDirectory = .ok ["plugins"] := by decide +kernel
  have listed : pairedDisk.tree.children ["plugins"] = ["two.py"] := by decide +kernel
  have ends : "two.py".endsWith ".py" = true := Text.endsWith_iff.mpr (by decide)
  have front : "two.py".startsWith "_" = false :=
    String.startsWith_string_eq_false_iff.mpr (by decide)
  have files : pluginFiles pairedDisk pairedDirectory = [pairedDirectory.child "two.py"] := by
    simp [pluginFiles, located, listed, ends, front]
  have loaded : moduleOf pairedDisk (pairedDirectory.child "two.py") =
      ⟨true, [listening "A", listening "B"]⟩ := rfl
  have sorted : (Module.plugins ⟨true, [listening "A", listening "B"]⟩) =
      [listening "A", listening "B"] := by
    refine List.mergeSort_of_pairwise (List.pairwise_pair.mpr ?_)
    decide
  have sound (name : String) : (listening name).isSound = true := rfl
  simp [offers, files, fileOffers, loaded, sorted, Path.name_child, sound]

theorem discover_paired : ∃ records r', discover pairedDisk pairedDirectory .empty =
    .ok (records, r') ∧ r'.members.map Member.label = ["A"] := by
  obtain ⟨news, ended, admission⟩ :=
    loadFiles_admits pairedDisk (pluginFiles pairedDisk pairedDirectory) .empty
  have there : pairedDisk.isDirectory? pairedDirectory = .ok true := rfl
  refine ⟨(loadFiles pairedDisk (pluginFiles pairedDisk pairedDirectory) .empty).1,
    Registry.empty.extend news, by rw [discover, there, ← ended], ?_⟩
  change Admission _ (offers pairedDisk pairedDirectory) news at admission
  rw [offers_paired] at admission
  -- The second offer has the name of the first, which is free before and taken then.
  cases admission with
  | refuse taken => cases taken
  | grant _ admission =>
    cases admission with
    | grant free => exact absurd (List.mem_append_right _ List.mem_cons_self) free
    | refuse _ admission =>
      cases admission
      rfl

end Scaffold.Plugin
