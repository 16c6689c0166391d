import Scaffold.Proofs.Project.Retention

/-!
# Creating a type again

No type is created twice in one real folder, since its file is in the way.  The symbols guard less:
they are those of the sources as they were first read, so that a type is created again in another
folder, while a type that was found then is not created at all.
-/

namespace Scaffold.Files.Disk

variable {d d' : Disk} {p : Path} {at_ : Location} {new : Node → Prop}

/-- A path leads where it led once nodes have been entered. -/
theorem locate_of_grows (grows : d.tree.Grows new d'.tree) (here : d'.here = d.here)
    (located : d.locate true p = .ok at_) : d'.locate true p = .ok at_ := by
  obtain ⟨fit, walked⟩ := locate_eq_ok.mp located
  obtain ⟨used, enough, leads⟩ := Tree.walk_eq_ok.mp walked
  have start : d'.start p = d.start p := by rw [start, start, here]
  refine locate_eq_ok.mpr ⟨fit, Tree.walk_eq_ok.mpr ⟨used, enough, ?_⟩⟩
  rw [start]
  exact grows.leads leads

end Scaffold.Files.Disk

namespace Scaffold.Project

open Files Plugin Symbols Workspace Scala.QualifiedName

variable {folder : Option Path} {kind : Option String} {name : String} {w w' : World}
  {ws ws' : Workspace}

theorem createFiles_here (requests : List Request) (w : World) (ws : Workspace) :
    (createFiles requests w ws).1.disk.here = w.disk.here := by
  induction requests generalizing w ws with
  | nil => rfl
  | cons request requests ih =>
    have first := createFile_grows request.folder request.kind request.name w ws
    exact (ih _ _).trans first.2

/-- The file of a name is at the place where the name leads from the real folder `base`, a place
    that was free before. -/
structure Landed (name : String) (disk disk' : Disk) (target : Path) (base at_ : Location) :
    Prop where
  located : disk'.locate true target = .ok base
  leads : ∃ used, disk'.tree.Leads base
    (sourceParts (packageSegments name.toList) (typeSegment name.toList)) used at_
  free : disk.tree.get? at_ = none
  file : ∃ content, disk'.tree.get? at_ = some (.file content)

theorem createFile_landed {r : Result}
    (created : createFile folder kind name w ws = (.ok r, w', ws')) (fine : r.ok = true) :
    ∃ target base at_, (targetFolder folder w ws).1 = .ok (some target) ∧
      Landed name w.disk w'.disk target base at_ := by
  obtain ⟨target, path, text, planned, written, -⟩ := planned_of_createFile created fine
  obtain ⟨at_, located, file, free, -⟩ := Disk.of_writeNew_eq_ok written
  rw [path_of_place planned.unobjected planned.placed] at located
  obtain ⟨base, used, locatedFolder, leads⟩ := Disk.locate_append located
  exact ⟨target, base, at_, planned.chosen, locatedFolder, ⟨used, leads⟩, free, _, file⟩

/-- Where the file of a name in packages lands, seen from its folder. -/
example :
    sourceParts (packageSegments "org.acme.Main".toList) (typeSegment "org.acme.Main".toList) =
      ["org", "acme", "Main.scala"] := by decide +kernel

/-- Two files of one name lie in different real folders, if the first is there before the second is
    written. -/
theorem Landed.base_ne {d₁ d₂ d₃ d₄ : Disk} {target target' : Path} {base base' at_ at' : Location}
    {new : Node → Prop} (first : Landed name d₁ d₂ target base at_)
    (second : Landed name d₃ d₄ target' base' at') (between : d₂.tree.Grows new d₃.tree)
    (after : d₃.tree.Grows new d₄.tree) : base ≠ base' := by
  rintro rfl
  obtain ⟨used, leads⟩ := first.leads
  obtain ⟨used', leads'⟩ := second.leads
  obtain ⟨content, file⟩ := first.file
  obtain ⟨-, rfl⟩ := leads'.unique ((between.trans after).leads leads)
  cases second.free.symm.trans (between.keeps file)

/-- Two creations of one name in a session, both of which end well, are in different real folders.
    A type that had been found in the sources before the first of them is not created later, unless
    the question for it fails. -/
theorem createFile_again (first second : Request) (between : List Request) (w : World)
    (ws : Workspace) {r₁ r₂ : Result} {w₁ w₂ : World} {ws₁ ws₂ : Workspace}
    (created : createFile first.folder first.kind first.name w ws = (.ok r₁, w₁, ws₁))
    (fine : r₁.ok = true)
    (recreated : createFile second.folder second.kind second.name (createFiles between w₁ ws₁).1
      (createFiles between w₁ ws₁).2 = (.ok r₂, w₂, ws₂))
    (fineAgain : r₂.ok = true) :
    (first.name = second.name → ∃ target target' base base',
      (targetFolder first.folder w ws).1 = .ok (some target) ∧
      (targetFolder second.folder (createFiles between w₁ ws₁).1 (createFiles between w₁ ws₁).2).1 =
        .ok (some target') ∧
      w₂.disk.locate true target = .ok base ∧ w₂.disk.locate true target' = .ok base' ∧
      base ≠ base') ∧
    ∀ index types, ws₁.index = some index → index.declared = some types →
      index.indexSources = true → ws₁.looksUp = true → ws₁.sync = true →
      (∀ registry, (createFiles between w₁ ws₁).2.plugins = some registry →
        (registry.typeExists second.name).2.2 = none) →
      second.name ∈ types →
      ∃ index' fault, (createFiles between w₁ ws₁).2.index = some index' ∧
        (index'.lookup (createFiles between w₁ ws₁).1.disk (createFiles between w₁ ws₁).2.plugins
          second.name).answer = .error fault := by
  refine ⟨?_, ?_⟩
  · intro same
    obtain ⟨target, base, at_, chosen, landed⟩ := createFile_landed created fine
    obtain ⟨target', base', at', chosenAgain, landedAgain⟩ :=
      createFile_landed recreated fineAgain
    have grows := createFiles_grows between w₁ ws₁
    have here := createFiles_here between w₁ ws₁
    obtain ⟨last, lastHere⟩ := createFile_grows second.folder second.kind second.name
      (createFiles between w₁ ws₁).1 (createFiles between w₁ ws₁).2
    rw [recreated] at last lastHere
    rw [← same] at landedAgain
    have located : w₂.disk.locate true target = .ok base :=
      Disk.locate_of_grows (grows.trans last) (lastHere.trans here) landed.located
    exact ⟨target, target', base, base', chosen, chosenAgain, located, landedAgain.located,
      landed.base_ne landedAgain grows last⟩
  · intro index types ready declared counted lookups sync silent member
    have retained := createFiles_retains between w₁ ws₁
    obtain ⟨index', ready', holds⟩ := retained.index index types true ready ⟨declared, counted⟩
    rw [looksUp, ← retained.settings] at lookups
    have unknown := unknown_of_createFile ready' lookups (retained.sync.trans sync) recreated
      fineAgain
    have known : (index'.lookup (createFiles between w₁ ws₁).1.disk
        (createFiles between w₁ ws₁).2.plugins second.name).answer ≠ .ok false :=
      Index.lookup_of_mem holds member silent
    refine ⟨index', ?_⟩
    cases answer : (index'.lookup (createFiles between w₁ ws₁).1.disk
        (createFiles between w₁ ws₁).2.plugins second.name).answer with
    | error fault => exact ⟨fault, ready', rfl⟩
    | ok found => cases found <;> contradiction

/-- A project with two source folders. -/
def twoFolderWorld : World where
  disk := ⟨⟨[(["p"], .directory), (["p", "src"], .directory), (["p", "src", "main"], .directory),
    (["p", "src", "main", "scala"], .directory), (["p", "src", "test"], .directory),
    (["p", "src", "test", "scala"], .directory)]⟩, ["p"]⟩
  tracer := .off
  log := []
  calls := []

/-- Its workspace, of which nothing is ready yet. -/
def twoFolderWorkspace : Workspace :=
  .ofSettings ⟨⟨.single, ["p"]⟩, none, false, false, false, false, false, .default, .default,
    "class"⟩ true

/-- The source folder of the two that is called so. -/
def sourceFolder (called : String) : Path := ⟨.single, ["p", "src", called, "scala"]⟩

/-- What two creations of one type in the two folders show; the first run is evaluated once. -/
theorem createFile_both_shown :
    ∃ r₁ w₁ ws₁ r₂ w₂ ws₂,
      createFile (some (sourceFolder "main")) (some "class") "A" twoFolderWorld
        twoFolderWorkspace = (.ok r₁, w₁, ws₁) ∧ r₁.ok = true ∧
      (ws₁.plugins.map fun registry => registry.names) = some [] ∧
      createFile (some (sourceFolder "test")) (some "class") "A" w₁ ws₁ = (.ok r₂, w₂, ws₂) ∧
      r₂.ok = true ∧
      (w₁.disk.isDirectory? (pluginDir twoFolderWorkspace.settings)).toOption = some false := by
  have shown : (fun run : Except Fault Result × World × Workspace =>
      (run.1.toOption.map (·.ok), run.2.2.plugins.map fun registry => registry.names,
        (createFile (some (sourceFolder "test")) (some "class") "A" run.2.1
          run.2.2).1.toOption.map (·.ok),
        (run.2.1.disk.isDirectory? (pluginDir twoFolderWorkspace.settings)).toOption))
      (createFile (some (sourceFolder "main")) (some "class") "A" twoFolderWorld
        twoFolderWorkspace) = (some true, some [], some true, some false) := by decide +kernel
  rcases created : createFile (some (sourceFolder "main")) (some "class") "A" twoFolderWorld
    twoFolderWorkspace with ⟨fault | r₁, w₁, ws₁⟩
  · rw [created] at shown
    cases shown
  rw [created] at shown
  obtain ⟨fine, rest⟩ := Prod.mk.inj shown
  obtain ⟨plugins, rest⟩ := Prod.mk.inj rest
  obtain ⟨fineAgain, directory⟩ := Prod.mk.inj rest
  rcases recreated : createFile (some (sourceFolder "test")) (some "class") "A" w₁ ws₁ with
    ⟨fault | r₂, w₂, ws₂⟩
  · rw [recreated] at fineAgain
    cases fineAgain
  rw [recreated] at fineAgain
  exact ⟨r₁, w₁, ws₁, r₂, w₂, ws₂, rfl, Option.some.inj fine, plugins, recreated,
    Option.some.inj fineAgain, directory⟩

theorem createFile_both :
    ∃ r₁ w₁ ws₁ r₂ w₂ ws₂,
      createFile (some (sourceFolder "main")) (some "class") "A" twoFolderWorld
        twoFolderWorkspace = (.ok r₁, w₁, ws₁) ∧ r₁.ok = true ∧
      (ws₁.plugins.map fun registry => registry.names) = some [] ∧
      createFile (some (sourceFolder "test")) (some "class") "A" w₁ ws₁ = (.ok r₂, w₂, ws₂) ∧
      r₂.ok = true := by
  obtain ⟨r₁, w₁, ws₁, r₂, w₂, ws₂, created, fine, plugins, recreated, fineAgain, -⟩ :=
    createFile_both_shown
  exact ⟨r₁, w₁, ws₁, r₂, w₂, ws₂, created, fine, plugins, recreated, fineAgain⟩

/-- In each of two source folders the same type is created, though symbols are looked up on the
    spot, sources are read and there are no plugins. -/
theorem createFile_twice :
    twoFolderWorkspace.looksUp = true ∧ twoFolderWorkspace.sync = true ∧
      twoFolderWorkspace.settings.lookup.indexSources = true ∧
      twoFolderWorkspace.settings.sourceRoots = [sourceFolder "main", sourceFolder "test"] ∧
      ∃ r₁ w₁ ws₁ r₂ w₂ ws₂,
        createFile (some (sourceFolder "main")) (some "class") "A" twoFolderWorld
          twoFolderWorkspace = (.ok r₁, w₁, ws₁) ∧ r₁.ok = true ∧
        (ws₁.plugins.map fun registry => registry.names) = some [] ∧
        createFile (some (sourceFolder "test")) (some "class") "A" w₁ ws₁ = (.ok r₂, w₂, ws₂) ∧
        r₂.ok = true :=
  ⟨by decide +kernel, rfl, rfl, by decide +kernel, createFile_both⟩

theorem createFile_again_both :
    ∃ r₁ w₁ ws₁ r₂ w₂ ws₂,
      createFile (some (sourceFolder "main")) (some "class") "A" twoFolderWorld
        twoFolderWorkspace = (.ok r₁, w₁, ws₁) ∧ r₁.ok = true ∧
      createFile (some (sourceFolder "test")) (some "class") "A" w₁ ws₁ = (.ok r₂, w₂, ws₂) ∧
      r₂.ok = true ∧ ∃ base base', w₂.disk.locate true (sourceFolder "main") = .ok base ∧
        w₂.disk.locate true (sourceFolder "test") = .ok base' ∧ base ≠ base' := by
  obtain ⟨r₁, w₁, ws₁, r₂, w₂, ws₂, created, fine, -, recreated, fineAgain⟩ := createFile_both
  obtain ⟨target, target', base, base', chosen, chosenAgain, located, locatedAgain, different⟩ :=
    (createFile_again ⟨some (sourceFolder "main"), some "class", "A"⟩
      ⟨some (sourceFolder "test"), some "class", "A"⟩ [] twoFolderWorld twoFolderWorkspace created
      fine recreated fineAgain).1 rfl
  cases chosen
  cases chosenAgain
  exact ⟨r₁, w₁, ws₁, r₂, w₂, ws₂, created, fine, recreated, fineAgain, base, base', located,
    locatedAgain, different⟩

end Scaffold.Project
