import Scaffold.Proofs.Project.Evolution
import Scaffold.Proofs.Project.Recreation
import Scaffold.Proofs.Project.Refusal
import Scaffold.Proofs.Symbols.SourceNames
import Scaffold.Proofs.Template.SourceText

/-!
# Names with white space around the type

The grammar of names lets white space stand around the type, but whether a name is taken is found
out for the spelling as it is.  Two spellings of one type are judged apart, each by its own path and
by what is said of its own spelling, and a spelling with white space is in no source.
-/

namespace Scaffold.Text

/-- Only white space is trimmed. -/
theorem exists_blank_of_trim_ne {cs : List Char} (trimmed : trim cs ≠ cs) :
    ∃ c ∈ cs, isBlank c = true := by
  by_contra none
  have solid : ∀ c ∈ cs, isBlank c = false := by
    intro c member
    by_contra blank
    exact none ⟨c, member, Bool.not_eq_false _ |>.mp blank⟩
  have kept : ∀ text : List Char, (∀ c ∈ text, isBlank c = false) →
      text.dropWhile isBlank = text := by
    intro text solid
    cases text with
    | nil => rfl
    | cons c text =>
      rw [List.dropWhile_cons, solid c List.mem_cons_self, if_neg Bool.false_ne_true]
  apply trimmed
  have reversed : ∀ c ∈ cs.reverse, isBlank c = false :=
    fun c member => solid c (List.mem_reverse.mp member)
  rw [trim, kept cs solid, trimEnd, kept cs.reverse reversed, List.reverse_reverse]

end Scaffold.Text

namespace Scaffold.Project

open Files Plugin Symbols Workspace Scala.QualifiedName Text

namespace Workspace

variable {ws ws' ready : Workspace} {disk : Disk} {name : String}

/-- The workspace for which no source counts. -/
def sourceless (ws : Workspace) : Workspace := { ws with index := ws.index.map Index.sourceless }

/-- No white space is in what the symbols have found in sources. -/
def DeclaresUnspaced (ws : Workspace) : Prop :=
  ∀ index, ws.index = some index → index.DeclaresUnspaced

theorem DeclaresUnspaced.step (step : ws.Step ws') (unspaced : ws.DeclaresUnspaced) :
    ws'.DeclaresUnspaced := by
  cases step with
  | plugins registry => exact unspaced
  | templates store => exact unspaced
  | index _ _ _ =>
    rintro _ ⟨⟩ types declared
    cases declared
  | asked disk name ready =>
    rintro _ ⟨⟩
    exact (unspaced _ ready).lookup

theorem Opened.declaresUnspaced (opened : ws.Opened) : ws.DeclaresUnspaced := by
  obtain ⟨settings, sync, later⟩ := opened
  exact later.induction nofun .step fun _ => nofun

/-- A name with white space is known exactly if it is known without any source. -/
theorem knows_sourceless (unspaced : ws.DeclaresUnspaced)
    (blank : ∃ c ∈ name.toList, isBlank c = true) :
    ws.knows disk name = ws.sourceless.knows disk name := by
  rcases ws with ⟨settings, sync, plugins, templates, _ | index⟩
  · rfl
  · have same : ((index.lookup disk plugins name).answer.toOption.getD false) =
        (index.sourceless.lookup disk plugins name).answer.toOption.getD false :=
      Index.lookup_sourceless (unspaced index rfl) blank
    rw [knows, knows]
    dsimp only [sourceless, Option.map]
    rw [same]
    rfl

end Workspace

variable {name other : String} {w : World} {ws : Workspace} {target : Path}

/-- Two names spell one type in one package, apart from white space around the type. -/
structure Respells (name other : String) : Prop where
  package : packageSegments name.toList = packageSegments other.toList
  type : trim (typeSegment name.toList) = trim (typeSegment other.toList)

/-- White space is around the type. -/
def Padded (name : String) : Prop := trim (typeSegment name.toList) ≠ typeSegment name.toList

theorem Respells.typeSegment_ne (respells : Respells name other) (different : name ≠ other) :
    typeSegment name.toList ≠ typeSegment other.toList := by
  intro same
  apply different
  rw [← String.toList_inj, ← qualify_segments name.toList, ← qualify_segments other.toList,
    respells.package, same]

/-- Of two spellings one has white space around the type. -/
theorem Respells.padded (respells : Respells name other) (different : name ≠ other) :
    Padded name ∨ Padded other := by
  by_contra neither
  rw [not_or, Padded, Padded, not_not, not_not] at neither
  apply respells.typeSegment_ne different
  rw [← neither.1, ← neither.2, respells.type]

/-- Two spellings are judged apart: each leads to a file of its own in the same directory, and is
    asked for as it is. -/
structure JudgedApart (name other : String) (target : Path) (w : World) (ws : Workspace) :
    Prop where
  differ : name ≠ other → typeSegment name.toList ≠ typeSegment other.toList
  padded : name ≠ other → Padded name ∨ Padded other
  paths : ∃ dir, ∀ spelling ∈ [name, other], '/' ∉ spelling.toList → sourcePath target spelling =
    ⟨target.root, dir ++ [String.ofList (typeSegment spelling.toList ++ ".scala".toList)]⟩
  notScala : ws.settings.isScala = false →
    (objection? target name w ws).1 = (objection? target other w ws).1
  unready : ∀ fault, ws.settings.isScala = true → ws.readied? w.disk = .error fault →
    ∀ spelling ∈ [name, other], (objection? target spelling w ws).1 = .error fault
  /-- The verdicts agree exactly if both files are there or neither is, and in this case the symbols
      have both spellings or neither. -/
  agree : ∀ ready found foundOther, ws.settings.isScala = true → ws.readied? w.disk = .ok ready →
    w.disk.exists? (sourcePath target name) = .ok found →
    w.disk.exists? (sourcePath target other) = .ok foundOther →
    ((objection? target name w ws).1 = (objection? target other w ws).1 ↔ found = foundOther ∧
      (found = false → ready.knows w.disk name = ready.knows w.disk other))
  /-- No source has a spelling with white space. -/
  sourceless : ∀ ready, ws.readied? w.disk = .ok ready → ∀ spelling ∈ [name, other],
    Padded spelling → ready.knows w.disk spelling = ready.sourceless.knows w.disk spelling

/-- Two spellings of one type are judged apart, so that a name that is taken in one of them may be
    free in the other. -/
theorem judgedApart_of_respells (opened : ws.Opened)
    (accepted : Scala.nameObjection? name.toList = none)
    (acceptedOther : Scala.nameObjection? other.toList = none) (respells : Respells name other)
    (target : Path) (w : World) : JudgedApart name other target w ws where
  differ different := respells.typeSegment_ne different
  padded different := respells.padded different
  paths := by
    refine ⟨target.parts ++ (packageSegments name.toList).map String.ofList, ?_⟩
    intro spelling among whole
    have path : ∀ spelling : String, Scala.nameObjection? spelling.toList = none →
        '/' ∉ spelling.toList → packageSegments spelling.toList = packageSegments name.toList →
        sourcePath target spelling = ⟨target.root, target.parts ++
          (packageSegments name.toList).map String.ofList ++
            [String.ofList (typeSegment spelling.toList ++ ".scala".toList)]⟩ := by
      intro spelling accepted whole same
      rw [sourcePath_of_spells target (Scala.nameObjection?_eq_none.mp accepted) whole, sourceParts,
        same, List.append_assoc]
    simp only [List.mem_cons, List.mem_nil_iff, or_false] at among
    rcases among with rfl | rfl
    · exact path _ accepted whole rfl
    · exact path _ acceptedOther whole respells.package.symm
  notScala none := by
    rw [objection?_apply, objection?_apply, verdict, verdict, if_pos none, if_pos none]
  unready fault scala failed spelling among := by
    rw [objection?_apply]
    simp only [List.mem_cons, List.mem_nil_iff, or_false] at among
    rcases among with rfl | rfl
    · exact verdict_of_unready scala accepted failed
    · exact verdict_of_unready scala acceptedOther failed
  agree ready found foundOther scala prepared tested testedOther := by
    rw [objection?_apply, objection?_apply, verdict_of_ready scala accepted prepared tested,
      verdict_of_ready scala acceptedOther prepared testedOther]
    cases found <;> cases foundOther <;> cases ready.knows w.disk name <;>
      cases ready.knows w.disk other <;> simp
  sourceless ready prepared spelling _ padded := by
    have unspaced := (opened.later (evolves_readied? prepared).later).declaresUnspaced
    obtain ⟨c, inside, blank⟩ := exists_blank_of_trim_ne padded
    exact knows_sourceless unspaced ⟨c, mem_of_mem_typeSegment inside, blank⟩

/-- The project with two source folders, with a file for the type `A` in the first. -/
def typedWorld : World :=
  { twoFolderWorld with disk := ⟨⟨twoFolderWorld.disk.tree.nodes ++
      [(["p", "src", "main", "scala", "A.scala"], .file (.text "class A"))]⟩, ["p"]⟩ }

theorem respells_spaced : Respells "A" " A" := ⟨by decide, by decide⟩

/-- The type `A` spelled with a space before it. -/
theorem judgedApart_of_respells_spaced :
    twoFolderWorkspace.Opened ∧ Scala.nameObjection? "A".toList = none ∧
      Scala.nameObjection? " A".toList = none ∧ Respells "A" " A" ∧
      JudgedApart "A" " A" (sourceFolder "main") typedWorld twoFolderWorkspace := by
  have opened : twoFolderWorkspace.Opened := ⟨_, _, Relation.ReflTransGen.refl⟩
  have accepted : Scala.nameObjection? "A".toList = none := by decide +kernel
  have acceptedOther : Scala.nameObjection? " A".toList = none := by decide +kernel
  exact ⟨opened, accepted, acceptedOther, respells_spaced,
    judgedApart_of_respells opened accepted acceptedOther respells_spaced _ _⟩

/-- With a space before it, the name of a type is free whose file is there. -/
theorem objection?_spaced :
    Scala.nameObjection? "A".toList = none ∧ Scala.nameObjection? " A".toList = none ∧
      Respells "A" " A" ∧
      (objection? (sourceFolder "main") "A" typedWorld twoFolderWorkspace).1 =
        .ok (some .fileExists) ∧
      (objection? (sourceFolder "main") " A" typedWorld twoFolderWorkspace).1 = .ok none :=
  ⟨by decide +kernel, by decide +kernel, respells_spaced,
    eq_ok_of_toOption (by decide +kernel), eq_ok_of_toOption (by decide +kernel)⟩

end Scaffold.Project
