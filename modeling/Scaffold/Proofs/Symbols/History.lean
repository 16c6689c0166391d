import Scaffold.Symbols.Index

/-!
# What an index has read

An index reads its archives at the first question that gets to them, its sources at the first one
that gets to those, and keeps both.  So what it has read is a function of the questions that have
been put to it, each with the files and the plugins of its time, and so is every answer.
-/

namespace Scaffold.Symbols

open Files Plugin

/-- The classes in what was read, which are none if it is no archive. -/
def classesOf : Except Files.Fault Content → List String
  | .ok (.archive members) => members.filter (·.endsWith ".class")
  | _ => []

/-- The classes in archives; one that cannot be read has none. -/
def classesIn (disk : Disk) (archives : List Path) : List String :=
  archives.flatMap fun path => classesOf (disk.read path)

/-- The types declared in source files; one that cannot be read declares none. -/
def declaredIn (disk : Disk) (files : List Path) : List String :=
  files.flatMap fun path =>
    match disk.readText path with
    | .ok text => Scala.Declaration.qualifiedTypes text
    | .error _ => []

/-- The types declared below source roots. -/
def typesBelow (disk : Disk) (roots : List Path) : List String :=
  roots.flatMap fun root => declaredIn disk ((disk.sourceFiles root).toOption.getD [])

/-- Archives that can be read or not, but whose paths are paths. -/
theorem readArchives_eq_ok {disk : Disk} {archives : List Path}
    (paths : ∀ path ∈ archives, ∀ p, disk.read path ≠ .error (.obstacle .embeddedNull p)) :
    (readArchives disk archives).2 = .ok (classesIn disk archives) := by
  induction archives with
  | nil => rfl
  | cons path archives ih =>
    obtain ⟨here, others⟩ := List.forall_mem_cons.mp paths
    rw [readArchives, classesIn, List.flatMap_cons, ← classesIn]
    split
    · rename_i p failed
      exact absurd failed (here p)
    · rename_i members read
      dsimp only
      rw [ih others, read]
      rfl
    · rename_i unread
      dsimp only
      rw [ih others, classesOf.eq_2 _ unread]
      rfl

theorem readSources_eq (disk : Disk) (files : List Path) :
    (readSources disk files).2 = declaredIn disk files := by
  induction files with
  | nil => rfl
  | cons path files ih =>
    rw [readSources, declaredIn, List.flatMap_cons, ← declaredIn, ← ih]
    cases disk.readText path <;> rfl

theorem readRoots_eq_ok {disk : Disk} {roots : List Path}
    (searched : ∀ root ∈ roots, ∃ files, disk.sourceFiles root = .ok files) :
    (readRoots disk roots).2 = .ok (typesBelow disk roots) := by
  induction roots with
  | nil => rfl
  | cons root roots ih =>
    obtain ⟨⟨files, found⟩, others⟩ := List.forall_mem_cons.mp searched
    rw [readRoots, typesBelow, List.flatMap_cons, ← typesBelow, found]
    dsimp only [Except.toOption, Option.getD_some]
    rw [ih others, readSources_eq]
    rfl

/-- A search through directories that ends without a fault finds what is in one of them. -/
theorem inClassDirs_eq_ok {disk : Disk} {file : Path} {dirs : List Path} {found : Bool}
    (searched : inClassDirs disk file dirs = .ok found) :
    found = true ↔ ∃ dir ∈ dirs, disk.isFile? (dir.join file) = .ok true := by
  induction dirs with
  | nil =>
    cases searched
    simp
  | cons dir dirs ih =>
    rw [inClassDirs] at searched
    simp only [List.mem_cons, exists_eq_or_imp]
    cases tested : disk.isFile? (dir.join file) with
    | error fault =>
      rw [tested] at searched
      cases searched
    | ok here =>
      rw [tested] at searched
      cases here with
      | true =>
        cases searched
        simp
      | false => simpa using ih searched

/-- A question to an index, with the files and the plugins as they are when it is put. -/
structure Question where
  disk : Disk
  plugins : Option Registry
  name : String

namespace Question

/-- What the plugins answer, if they do. -/
def told? (q : Question) : Option Json.Value :=
  q.plugins.bind fun registry => (registry.typeExists q.name).2.2

/-- The class file of the type, as it stands in a directory of compiled classes or an archive. -/
def classFile (q : Question) : String := String.ofList (Scala.QualifiedName.classPath q.name.toList)

/-- Whether the class file is in one of the directories at that time. -/
def isCompiled (q : Question) (dirs : List Path) : Bool :=
  (inClassDirs q.disk (.ofString q.classFile) dirs).toOption.getD false

end Question

namespace Index

/-- Whether a question gets to the archives: neither a plugin nor a directory has answered it. -/
def reachesArchives (index : Index) (q : Question) : Bool :=
  q.told?.isNone && !q.isCompiled index.classDirs

/-- The classes in the archives at the first of the questions that gets to them. -/
def classesAt (index : Index) (questions : List Question) : Option (List String) :=
  (questions.find? index.reachesArchives).map fun q => classesIn q.disk index.classpath

/-- Whether a question gets to the sources, if these are the classes in the archives. -/
def reachesSources (index : Index) (classes : List String) (q : Question) : Bool :=
  index.reachesArchives q && (index.indexSources && !classes.contains q.classFile)

/-- The first of the questions that gets to the sources. -/
def firstAtSources (index : Index) (questions : List Question) : Option Question :=
  (index.classesAt questions).bind fun classes =>
    questions.find? (index.reachesSources classes)

/-- The types in the sources at the first of the questions that gets to them. -/
def typesAt (index : Index) (questions : List Question) : Option (List String) :=
  (index.firstAtSources questions).map fun q => typesBelow q.disk index.sourceRoots

/-- None of the tests that a question leads to fails, and the archives have paths. -/
structure Answerable (index : Index) (q : Question) : Prop where
  tested : ∃ found, inClassDirs q.disk (.ofString q.classFile) index.classDirs = .ok found
  paths : ∀ path ∈ index.classpath, ∀ p, q.disk.read path ≠ .error (.obstacle .embeddedNull p)
  searched : ∀ root ∈ index.sourceRoots, ∃ files, q.disk.sourceFiles root = .ok files

/-- The index is the one from `start` that has been asked the questions. -/
structure HasRead (start : Index) (questions : List Question) (index : Index) : Prop where
  sourceRoots : index.sourceRoots = start.sourceRoots
  classDirs : index.classDirs = start.classDirs
  classpath : index.classpath = start.classpath
  indexSources : index.indexSources = start.indexSources
  archived : index.archived = (start.classesAt questions).map List.eraseDups
  declared : index.declared = (start.typesAt questions).map List.eraseDups

/-- The answer to a question that is put behind earlier ones. -/
def answerTo (index : Index) (earlier : List Question) (q : Question) : Bool :=
  match q.told? with
  | some answer => answer.isPresent
  | none =>
    q.isCompiled index.classDirs ||
      (((index.classesAt (earlier ++ [q])).getD []).contains q.classFile ||
        (index.indexSources && ((index.typesAt (earlier ++ [q])).getD []).contains q.name))

variable {start index : Index} {earlier : List Question} {q : Question} {classes : List String}

theorem hasRead_nil (archives : start.archived = none) (sources : start.declared = none) :
    start.HasRead [] start := ⟨rfl, rfl, rfl, rfl, archives, sources⟩

/-- A further question changes the classes that count only if it is the first to get to them. -/
theorem classesAt_append (start : Index) (earlier : List Question) (q : Question) :
    start.classesAt (earlier ++ [q]) = (start.classesAt earlier).or
      (if start.reachesArchives q then some (classesIn q.disk start.classpath) else none) := by
  rw [classesAt, classesAt, List.find?_append, List.find?_singleton]
  cases earlier.find? start.reachesArchives with
  | some first => rfl
  | none => cases start.reachesArchives q <;> rfl

/-- No question gets to the sources if none has got to the archives. -/
theorem find?_reachesSources_eq_none (unread : start.classesAt earlier = none)
    (classes : List String) : earlier.find? (start.reachesSources classes) = none := by
  rw [classesAt, Option.map_eq_none_iff, List.find?_eq_none] at unread
  rw [List.find?_eq_none]
  intro q among reached
  rw [reachesSources, Bool.and_eq_true] at reached
  exact unread q among reached.1

/-- A further question is the first at the sources only if there is none before it. -/
theorem firstAtSources_append (read : start.classesAt (earlier ++ [q]) = some classes) :
    start.firstAtSources (earlier ++ [q]) = (start.firstAtSources earlier).or
      (if start.reachesSources classes q then some q else none) := by
  rw [firstAtSources, read, Option.bind_some, List.find?_append, List.find?_singleton,
    firstAtSources]
  rw [classesAt_append] at read
  cases before : start.classesAt earlier with
  | none => rw [find?_reachesSources_eq_none before, Option.bind_none]
  | some known =>
    rw [before] at read
    cases read
    rfl

theorem firstAtSources_of_unread (unread : start.classesAt earlier = none) :
    start.firstAtSources earlier = none := by
  rw [firstAtSources, unread, Option.bind_none]

/-- A question that does not get to the archives leaves what counts. -/
theorem classesAt_of_not_reached (earlier : List Question)
    (unreached : start.reachesArchives q = false) :
    start.classesAt (earlier ++ [q]) = start.classesAt earlier ∧
      start.firstAtSources (earlier ++ [q]) = start.firstAtSources earlier := by
  have classes : start.classesAt (earlier ++ [q]) = start.classesAt earlier := by
    rw [classesAt_append, unreached, if_neg Bool.false_ne_true, Option.or_none]
  refine ⟨classes, ?_⟩
  cases before : start.classesAt earlier with
  | none =>
    rw [firstAtSources_of_unread before, firstAtSources_of_unread (classes.trans before)]
  | some known =>
    rw [firstAtSources_append (classes.trans before), reachesSources, unreached, Bool.false_and,
      if_neg Bool.false_ne_true, Option.or_none]

/-- A question that gets to the archives finds what they held at the first one that did. -/
theorem HasRead.withArchives (read : start.HasRead earlier index) (answerable : start.Answerable q)
    (reached : start.reachesArchives q = true) :
    ∃ classes, start.classesAt (earlier ++ [q]) = some classes ∧
      (index.withArchives q.disk).2 =
        (.ok classes.eraseDups, { index with archived := some classes.eraseDups }) := by
  have archived := read.archived
  rw [classesAt_append, reached, if_pos rfl]
  cases before : start.classesAt earlier with
  | some classes =>
    rw [before] at archived
    refine ⟨classes, rfl, ?_⟩
    rw [Index.withArchives, archived]
    dsimp only [Option.map_some]
    rw [← Option.map_some, ← archived]
  | none =>
    rw [before] at archived
    refine ⟨_, rfl, ?_⟩
    have found := readArchives_eq_ok answerable.paths
    rw [← read.classpath] at found ⊢
    rw [Index.withArchives, archived]
    dsimp only [Option.map_none]
    rcases ran : readArchives q.disk index.classpath with ⟨records, result⟩
    rw [ran] at found
    cases found
    rfl

/-- A question that gets to the sources finds what they declared at the first one that did. -/
theorem withSources_of_reached
    (declared : index.declared = (start.typesAt earlier).map List.eraseDups)
    (roots : index.sourceRoots = start.sourceRoots) (answerable : start.Answerable q)
    (read : start.classesAt (earlier ++ [q]) = some classes)
    (reached : start.reachesSources classes q = true) :
    ∃ types, start.typesAt (earlier ++ [q]) = some types ∧
      (index.withSources q.disk).2 =
        (.ok types.eraseDups, { index with declared := some types.eraseDups }) := by
  rw [typesAt] at declared ⊢
  rw [firstAtSources_append read, reached, if_pos rfl]
  cases before : start.firstAtSources earlier with
  | some first =>
    rw [before] at declared
    refine ⟨_, rfl, ?_⟩
    rw [Index.withSources, declared]
    exact congrArg (fun declared => (Except.ok _, { index with declared := declared })) declared
  | none =>
    rw [before] at declared
    refine ⟨_, rfl, ?_⟩
    have found := readRoots_eq_ok answerable.searched
    rw [← roots] at found ⊢
    rw [Index.withSources, declared]
    dsimp only [Option.map_none]
    rcases ran : readRoots q.disk index.sourceRoots with ⟨records, result⟩
    rw [ran] at found
    cases found
    rfl

/-- A question that the archives do not answer is answered by the sources, if these count. -/
theorem HasRead.lookupDeclared (read : start.HasRead earlier index)
    (archived : start.classesAt (earlier ++ [q]) = some classes)
    (answerable : start.Answerable q) (reached : start.reachesArchives q = true)
    (unlisted : classes.contains q.classFile = false) :
    let reply := lookupDeclared { index with archived := some classes.eraseDups } q.disk q.name
    reply.answer = .ok (start.indexSources &&
        ((start.typesAt (earlier ++ [q])).getD []).contains q.name) ∧
      start.HasRead (earlier ++ [q]) reply.index := by
  have listed : some classes.eraseDups =
      (start.classesAt (earlier ++ [q])).map List.eraseDups := by rw [archived, Option.map_some]
  dsimp only
  rw [Index.lookupDeclared]
  dsimp only
  cases counted : start.indexSources with
  | false =>
    have own : index.indexSources = false := read.indexSources.trans counted
    have unreached : start.reachesSources classes q = false := by simp [reachesSources, counted]
    rw [if_neg (by simp [own])]
    refine ⟨rfl, read.sourceRoots, read.classDirs, read.classpath, read.indexSources, listed, ?_⟩
    rw [typesAt, firstAtSources_append archived, unreached, if_neg Bool.false_ne_true,
      Option.or_none]
    exact read.declared
  | true =>
    have own : index.indexSources = true := read.indexSources.trans counted
    have gets : start.reachesSources classes q = true := by
      simp only [reachesSources, counted, reached, unlisted, Bool.not_false, Bool.and_self]
    let archivesRead : Index := { index with archived := some classes.eraseDups }
    obtain ⟨types, declared, found⟩ : ∃ types, start.typesAt (earlier ++ [q]) = some types ∧
        (archivesRead.withSources q.disk).2 =
          (.ok types.eraseDups, { archivesRead with declared := some types.eraseDups }) :=
      withSources_of_reached read.declared read.sourceRoots answerable archived gets
    rw [if_pos own]
    rcases ran : archivesRead.withSources q.disk with ⟨records, result⟩
    rw [ran] at found
    subst found
    refine ⟨?_, read.sourceRoots, read.classDirs, read.classpath, read.indexSources, listed, ?_⟩
    · simp [declared, Except.map]
    · rw [declared, Option.map_some]

/-- What the files answer, if no plugin does. -/
theorem HasRead.lookupFiles (read : start.HasRead earlier index)
    (answerable : start.Answerable q) (untold : q.told? = none) :
    (index.lookupFiles q.disk q.name).answer = .ok (start.answerTo earlier q) ∧
      start.HasRead (earlier ++ [q]) (index.lookupFiles q.disk q.name).index := by
  obtain ⟨compiled, tested⟩ := answerable.tested
  have there : q.isCompiled start.classDirs = compiled := by
    rw [Question.isCompiled, tested]
    rfl
  rw [answerTo, untold, Index.lookupFiles]
  dsimp only
  rw [there, read.classDirs, ← Question.classFile, tested]
  cases compiled with
  | true =>
    have unreached : start.reachesArchives q = false := by simp [reachesArchives, there]
    obtain ⟨classes, first⟩ := classesAt_of_not_reached earlier unreached
    refine ⟨rfl, read.sourceRoots, read.classDirs, read.classpath, read.indexSources, ?_, ?_⟩
    · rw [classes]
      exact read.archived
    · rw [typesAt, first]
      exact read.declared
  | false =>
    have reached : start.reachesArchives q = true := by simp [reachesArchives, there, untold]
    obtain ⟨classes, archived, found⟩ := read.withArchives answerable reached
    dsimp only
    rw [Bool.false_or, Index.lookupArchived]
    rcases ran : index.withArchives q.disk with ⟨records, result⟩
    rw [ran] at found
    subst found
    dsimp only
    rw [archived, Option.getD_some]
    cases listed : classes.contains q.classFile with
    | true =>
      have unreached : start.reachesSources classes q = false := by
        rw [reachesSources, listed, Bool.not_true, Bool.and_false, Bool.and_false]
      rw [if_pos (by simpa using listed)]
      refine ⟨rfl, read.sourceRoots, read.classDirs, read.classpath, read.indexSources, ?_, ?_⟩
      · rw [archived, Option.map_some]
      · rw [typesAt, firstAtSources_append archived, unreached, if_neg Bool.false_ne_true,
          Option.or_none]
        exact read.declared
    | false =>
      rw [if_neg (by simpa using listed), Bool.false_or]
      exact read.lookupDeclared archived answerable reached listed

/-- A question is answered from what the earlier ones have made the index read, and from what it
    makes it read itself. -/
theorem HasRead.lookup (read : start.HasRead earlier index) (answerable : start.Answerable q) :
    (index.lookup q.disk q.plugins q.name).answer = .ok (start.answerTo earlier q) ∧
      start.HasRead (earlier ++ [q]) (index.lookup q.disk q.plugins q.name).index := by
  unfold Index.lookup Index.answerFor
  dsimp only
  cases plugins : q.plugins with
  | none => exact read.lookupFiles answerable (by rw [Question.told?, plugins, Option.bind_none])
  | some registry =>
    have told : q.told? = (registry.typeExists q.name).2.2 := by
      rw [Question.told?, plugins, Option.bind_some]
    dsimp only
    rcases asked : registry.typeExists q.name with ⟨calls, records, _ | answer⟩
    · rw [asked] at told
      exact read.lookupFiles answerable told
    · rw [asked] at told
      have unreached : start.reachesArchives q = false := by simp [reachesArchives, told]
      obtain ⟨classes, first⟩ := classesAt_of_not_reached earlier unreached
      refine ⟨?_, read.sourceRoots, read.classDirs, read.classpath, read.indexSources, ?_, ?_⟩
      · rw [answerTo, told]
      · rw [classes]
        exact read.archived
      · rw [typesAt, first]
        exact read.declared

end Index

end Scaffold.Symbols
