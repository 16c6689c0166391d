import Scaffold.Proofs.Scala.FirstWord
import Scaffold.Symbols.Index

/-!
# Names found in sources

What an index has found in sources stays, whatever it is asked, and such a name is known unless a
plugin says otherwise.  A name with white space is never among them: a question for it is answered
by the plugins, the directories of compiled classes and the archives alone, as if no source counted.
-/

namespace Scaffold.Symbols

open Files Plugin Text

variable {disk : Disk}

namespace Index

variable {index : Index} {plugins : Option Registry} {name : String} {types : List String}

/-- What looking into archives and into sources keeps, a question keeps. -/
theorem lookup_keeps {p : Index → Prop}
    (archives : ∀ index, p index → p (index.withArchives disk).2.2)
    (declared : ∀ index, p index → p (index.lookupDeclared disk name).index) (holds : p index) :
    p (index.lookup disk plugins name).index := by
  have files : p (index.lookupFiles disk name).index := by
    have archived := archives index holds
    unfold lookupFiles lookupArchived
    dsimp only
    split
    · exact holds
    · exact holds
    · rcases read : index.withArchives disk with ⟨records, fault | members, index'⟩
      · rw [read] at archived
        exact archived
      · rw [read] at archived
        dsimp only
        split
        · exact archived
        · exact declared index' archived
  unfold lookup answerFor
  dsimp only
  cases plugins with
  | none => exact files
  | some registry =>
    dsimp only
    split
    · exact holds
    · exact files

/-- The types that have been found in sources are there, and they count as they did. -/
structure Holds (index : Index) (types : List String) (counted : Bool) : Prop where
  declared : index.declared = some types
  counted : index.indexSources = counted

theorem withArchives_holds {counted : Bool} (holds : index.Holds types counted) :
    (index.withArchives disk).2.2.Holds types counted := by
  unfold withArchives
  split
  · exact holds
  · split
    · exact holds
    · exact ⟨holds.declared, holds.counted⟩

theorem lookupDeclared_of_holds {counted : Bool} (holds : index.Holds types counted) :
    index.lookupDeclared disk name =
      ⟨.ok (counted && types.contains name), index, [], []⟩ := by
  rw [lookupDeclared, withSources, holds.declared, holds.counted]
  cases counted <;> rfl

/-- A question leaves the types that have been found in sources. -/
theorem lookup_holds {counted : Bool} (holds : index.Holds types counted) :
    (index.lookup disk plugins name).index.Holds types counted := by
  apply lookup_keeps (p := fun index => index.Holds types counted) _ _ holds
  · exact fun _ => withArchives_holds
  intro index holds
  rw [lookupDeclared_of_holds holds]
  exact holds

theorem lookupFiles_of_mem (holds : index.Holds types true) (member : name ∈ types) :
    (index.lookupFiles disk name).answer ≠ .ok false := by
  have archived : (index.withArchives disk).2.2.Holds types true := withArchives_holds holds
  unfold lookupFiles lookupArchived
  dsimp only
  split
  · simp
  · simp
  · rcases read : index.withArchives disk with ⟨records, fault | members, index'⟩
    · simp
    · rw [read] at archived
      dsimp only
      split
      · simp
      · rw [lookupDeclared_of_holds archived]
        simp [member]

/-- A type that has been found in sources is known, unless a plugin says otherwise or the question
    fails. -/
theorem lookup_of_mem (holds : index.Holds types true) (member : name ∈ types)
    (silent : ∀ registry, plugins = some registry → (registry.typeExists name).2.2 = none) :
    (index.lookup disk plugins name).answer ≠ .ok false := by
  unfold lookup answerFor
  dsimp only
  cases plugins with
  | none => exact lookupFiles_of_mem holds member
  | some registry =>
    have unanswered := silent registry rfl
    rcases asked : registry.typeExists name with ⟨calls, records, _ | answer⟩
    · dsimp only
      rw [asked]
      exact lookupFiles_of_mem holds member
    · rw [asked] at unanswered
      cases unanswered

end Index

/-- No white space is in any of the names. -/
def Unspaced (names : List String) : Prop := ∀ name ∈ names, ∀ c ∈ name.toList, isBlank c = false

theorem Unspaced.append {names more : List String} (first : Unspaced names)
    (next : Unspaced more) : Unspaced (names ++ more) :=
  List.forall_mem_append.mpr ⟨first, next⟩

theorem unspaced_readSources (paths : List Path) : Unspaced (readSources disk paths).2 := by
  induction paths with
  | nil => exact List.forall_mem_nil _
  | cons path paths ih =>
    rw [readSources]
    cases disk.readText path with
    | ok text =>
      have fresh : Unspaced (Scala.Declaration.qualifiedTypes text) :=
        fun _ among => Scala.Declaration.isBlank_of_mem_qualifiedTypes among
      exact fresh.append ih
    | error fault => exact ih

theorem unspaced_readRoots {roots : List Path} {types : List String}
    (read : (readRoots disk roots).2 = .ok types) : Unspaced types := by
  induction roots generalizing types with
  | nil =>
    cases read
    exact List.forall_mem_nil _
  | cons root roots ih =>
    rw [readRoots] at read
    cases files : disk.sourceFiles root with
    | error fault =>
      rw [files] at read
      cases read
    | ok paths =>
      rw [files] at read
      dsimp only at read
      cases rest : (readRoots disk roots).2 with
      | error fault =>
        rw [rest] at read
        cases read
      | ok others =>
        rw [rest] at read
        cases read
        exact (unspaced_readSources paths).append (ih rest)

namespace Index

variable {index : Index} {plugins : Option Registry} {name : String}

/-- No white space is in what the index has found in sources. -/
def DeclaresUnspaced (index : Index) : Prop :=
  ∀ types, index.declared = some types → Unspaced types

theorem DeclaresUnspaced.withSources (unspaced : index.DeclaresUnspaced) (disk : Disk) :
    (index.withSources disk).2.2.DeclaresUnspaced ∧
      ∀ types, (index.withSources disk).2.1 = .ok types → Unspaced types := by
  rw [Index.withSources]
  cases declared : index.declared with
  | some types =>
    refine ⟨unspaced, ?_⟩
    rintro _ ⟨⟩
    exact unspaced types declared
  | none =>
    dsimp only
    rcases read : readRoots disk index.sourceRoots with ⟨records, fault | found⟩
    · exact ⟨unspaced, nofun⟩
    · have fresh : Unspaced found.eraseDups := by
        intro name among
        exact unspaced_readRoots (congrArg Prod.snd read) name (List.mem_eraseDups.mp among)
      refine ⟨?_, ?_⟩
      · rintro _ ⟨⟩
        exact fresh
      · rintro _ ⟨⟩
        exact fresh

theorem DeclaresUnspaced.withArchives (unspaced : index.DeclaresUnspaced) (disk : Disk) :
    (index.withArchives disk).2.2.DeclaresUnspaced := by
  rw [Index.withArchives]
  split
  · exact unspaced
  · split
    · exact unspaced
    · exact unspaced

theorem DeclaresUnspaced.lookupDeclared (unspaced : index.DeclaresUnspaced) :
    (index.lookupDeclared disk name).index.DeclaresUnspaced := by
  rw [Index.lookupDeclared]
  split
  · exact (unspaced.withSources disk).1
  · exact unspaced

/-- A question leaves it so that no white space is in what has been found in sources. -/
theorem DeclaresUnspaced.lookup (unspaced : index.DeclaresUnspaced) :
    (index.lookup disk plugins name).index.DeclaresUnspaced := by
  apply lookup_keeps (p := DeclaresUnspaced) _ _ unspaced
  · exact fun _ unspaced => unspaced.withArchives disk
  · exact fun _ unspaced => unspaced.lookupDeclared

/-- The index for which no source counts. -/
def sourceless (index : Index) : Index := { index with indexSources := false }

/-- No source declares a name with white space. -/
theorem lookupDeclared_of_blank (unspaced : index.DeclaresUnspaced)
    (blank : ∃ c ∈ name.toList, isBlank c = true) :
    (index.lookupDeclared disk name).answer.toOption.getD false = false := by
  obtain ⟨c, inside, blank⟩ := blank
  rw [Index.lookupDeclared]
  split
  · have names := (unspaced.withSources disk).2
    rcases read : index.withSources disk with ⟨records, fault | types, index'⟩
    · rfl
    · rw [read] at names
      have absent : name ∉ types := by
        intro among
        rw [names types rfl name among c inside] at blank
        cases blank
      simpa [Except.map, Except.toOption] using absent
  · rfl

theorem withArchives_sourceless (index : Index) :
    index.sourceless.withArchives disk =
      ((index.withArchives disk).1, (index.withArchives disk).2.1,
        (index.withArchives disk).2.2.sourceless) := by
  unfold withArchives sourceless
  dsimp only
  split
  · rfl
  · split <;> rfl

theorem lookupFiles_sourceless (unspaced : index.DeclaresUnspaced)
    (blank : ∃ c ∈ name.toList, isBlank c = true) :
    (index.lookupFiles disk name).answer.toOption.getD false =
      (index.sourceless.lookupFiles disk name).answer.toOption.getD false := by
  have archived := unspaced.withArchives disk
  unfold lookupFiles lookupArchived
  rw [withArchives_sourceless]
  dsimp only [sourceless]
  split
  · rfl
  · rfl
  · rcases read : index.withArchives disk with ⟨records, fault | members, index'⟩
    · rfl
    · rw [read] at archived
      dsimp only at archived ⊢
      split
      · rfl
      · exact lookupDeclared_of_blank archived blank

/-- A name with white space is known exactly if it is known without any source. -/
theorem lookup_sourceless (unspaced : index.DeclaresUnspaced)
    (blank : ∃ c ∈ name.toList, isBlank c = true) :
    (index.lookup disk plugins name).answer.toOption.getD false =
      (index.sourceless.lookup disk plugins name).answer.toOption.getD false := by
  unfold lookup answerFor
  dsimp only
  cases plugins with
  | none => exact lookupFiles_sourceless unspaced blank
  | some registry =>
    dsimp only
    split
    · rfl
    · exact lookupFiles_sourceless unspaced blank

end Index

end Scaffold.Symbols
