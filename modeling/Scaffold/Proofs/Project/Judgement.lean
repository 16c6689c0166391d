import Scaffold.Proofs.Project.Acceptance
import Scaffold.Proofs.Project.Creation

/-!
# Judging names

Validating a name ends with a result, which says yes only to a name that is spelled by the grammar
and has a free place in its folder.  It fails without a result where the path of the name's file is
too long to be tested, or where a real path is in a loop of links; apart from the name, only the
source roots and the directory of the plugins can make it fail so.
-/

namespace Scaffold.Project

open Files Workspace

variable {folder : Option Path} {op name : String} {w : World} {ws : Workspace} {target : Path}

/-- Choosing a folder fails only over a source root whose path is too long to be tested. -/
theorem firstDirectory_eq_error {disk : Disk} {roots : List Path} {fault : Files.Fault}
    (failed : firstDirectory disk roots = .error fault) :
    ∃ root ∈ roots, disk.node root = .error .nameTooLong ∧
      fault = .obstacle .nameTooLong root := by
  induction roots with
  | nil => cases failed
  | cons root roots ih =>
    rw [firstDirectory] at failed
    cases tested : disk.isDirectory? root with
    | error fault =>
      obtain ⟨long, rfl⟩ := Disk.test_eq_error.mp tested
      rw [tested] at failed
      cases failed
      exact ⟨root, List.mem_cons_self, long, rfl⟩
    | ok found =>
      rw [tested] at failed
      dsimp only at failed
      cases rest : firstDirectory disk roots with
      | error fault =>
        rw [rest] at failed
        cases failed
        obtain ⟨other, member, long, equal⟩ := ih rest
        exact ⟨other, List.mem_cons_of_mem _ member, long, equal⟩
      | ok other =>
        rw [rest] at failed
        cases failed

theorem targetFolder_eq_error {fault : Fault}
    (failed : (targetFolder folder w ws).1 = .error fault) :
    folder = none ∧ ∃ root ∈ ws.settings.sourceRoots, w.disk.node root = .error .nameTooLong ∧
      fault = .files (.obstacle .nameTooLong root) := by
  rw [targetFolder_apply] at failed
  cases folder with
  | some folder => cases failed
  | none =>
    cases first : firstDirectory w.disk ws.settings.sourceRoots with
    | error fault =>
      rw [first] at failed
      cases failed
      obtain ⟨root, member, long, rfl⟩ := firstDirectory_eq_error first
      exact ⟨rfl, root, member, long, rfl⟩
    | ok found =>
      rw [first] at failed
      cases failed

/-- A real path that cannot be told is no misplacement only in a loop of links. -/
theorem loop_of_ofFiles {disk : Disk} {p : Path} {found fault : Files.Fault}
    (failed : disk.resolve p = .error found) (same : PlaceFault.ofFiles found = .files fault) :
    disk.resolve p = .error fault ∧
      ∃ real, disk.node real = .error .tooManyLinks ∧ fault = .linkLoop real := by
  rcases Disk.resolve_eq_error failed with rfl | ⟨real, looping, rfl⟩
  · cases same
  · cases same
    exact ⟨failed, real, looping, rfl⟩

/-- Placing a name fails without a verdict only over a loop of links at its path or at the
    folder. -/
theorem place_eq_files {disk : Disk} {fault : Files.Fault}
    (failed : place disk target name = .error (.files fault)) :
    (disk.resolve (sourcePath target name) = .error fault ∨ disk.resolve target = .error fault) ∧
      ∃ real, disk.node real = .error .tooManyLinks ∧ fault = .linkLoop real := by
  cases separated : name.toList.any isSeparator with
  | true =>
    simp [place, separated, throw, throwThe, MonadExceptOf.throw, bind, Except.bind] at failed
  | false =>
    cases resolved : disk.resolve (sourcePath target name) with
    | error found =>
      simp only [place, separated, resolved, bind, Except.bind, Except.mapError, Bool.false_eq_true,
        if_false, Except.error.injEq] at failed
      obtain ⟨looping, loop⟩ := loop_of_ofFiles resolved failed
      exact ⟨.inl (resolved.symm.trans looping), loop⟩
    | ok real =>
      cases resolvedFolder : disk.resolve target with
      | error found =>
        simp only [place, separated, resolved, resolvedFolder, bind, Except.bind, Except.mapError,
          Bool.false_eq_true, if_false, Except.error.injEq] at failed
        obtain ⟨looping, loop⟩ := loop_of_ofFiles resolvedFolder failed
        exact ⟨.inr (resolvedFolder.symm.trans looping), loop⟩
      | ok realFolder =>
        by_cases inside : (realFolder.relativeTo? real).isSome = true <;>
          simp [place, separated, resolved, resolvedFolder, inside, bind, Except.bind,
            Except.mapError, throw, throwThe, MonadExceptOf.throw, pure, Except.pure] at failed

/-- The verdict on a name is told, unless the plugins cannot be looked for or the path of its file
    is too long to be tested; there is no objection only to a name that is spelled by the grammar
    and whose path is free. -/
theorem objection?_cases (target : Path) (name : String) (w : World)
    (workers : ws.sync = true ∨ 0 < ws.settings.lookup.workers) :
    (Scala.nameObjection? name.toList = none ∧ ∃ fault after,
        objection? target name w ws = (.error fault, after) ∧
          (ws.PluginsTooLong w.disk ∧ fault = ws.pluginsFault ∨
            w.disk.node (sourcePath target name) = .error .nameTooLong ∧
              fault = .files (.obstacle .nameTooLong (sourcePath target name)))) ∨
      ∃ why after, objection? target name w ws = (.ok why, after) ∧
        (ws.settings.isScala = true → Scala.nameObjection? name.toList = none →
          ∃ found, w.disk.exists? (sourcePath target name) = .ok found ∧
            (why = none → found = false)) := by
  have judged := objection?_apply target name w ws
  cases scala : ws.settings.isScala with
  | false =>
    rw [verdict, if_pos scala] at judged
    exact .inr ⟨_, _, Prod.ext judged rfl, by simp⟩
  | true =>
    cases accepted : Scala.nameObjection? name.toList with
    | some why =>
      rw [verdict, if_neg (by simp [scala]), accepted] at judged
      exact .inr ⟨_, _, Prod.ext judged rfl, by simp⟩
    | none =>
      cases prepared : ws.readied? w.disk with
      | error fault =>
        rw [verdict_of_unready scala accepted prepared] at judged
        obtain ⟨-, -, ⟨tooLong, rfl⟩ | ⟨unstaffed, -⟩⟩ := readied?_eq_error prepared
        · exact .inl ⟨rfl, _, _, Prod.ext judged rfl, .inl ⟨tooLong, rfl⟩⟩
        · exact absurd workers unstaffed
      | ok ready =>
        cases tested : w.disk.exists? (sourcePath target name) with
        | error fault =>
          rw [verdict_of_untested scala accepted prepared tested] at judged
          obtain ⟨long, rfl⟩ := Disk.test_eq_error.mp tested
          exact .inl ⟨rfl, _, _, Prod.ext judged rfl, .inr ⟨long, rfl⟩⟩
        | ok found =>
          rw [verdict_of_ready scala accepted prepared tested] at judged
          refine .inr ⟨_, _, Prod.ext judged rfl, fun _ _ => ⟨found, rfl, ?_⟩⟩
          cases found <;> simp

/-- Why a name cannot be judged: the path of a source root, of the plugins' directory or of the
    name's own file is too long to be tested, or a real path is in a loop of links. -/
inductive Unjudged (folder : Option Path) (name : String) (w : World) (ws : Workspace) :
    Fault → Prop
  | sourceRoot {root : Path} : folder = none → root ∈ ws.settings.sourceRoots →
      w.disk.node root = .error .nameTooLong →
      Unjudged folder name w ws (.files (.obstacle .nameTooLong root))
  | plugins : ws.PluginsTooLong w.disk → Unjudged folder name w ws ws.pluginsFault
  | file {target : Path} : (targetFolder folder w ws).1 = .ok (some target) →
      Scala.nameObjection? name.toList = none →
      w.disk.node (sourcePath target name) = .error .nameTooLong →
      Unjudged folder name w ws (.files (.obstacle .nameTooLong (sourcePath target name)))
  | loop {target real : Path} : (targetFolder folder w ws).1 = .ok (some target) →
      Scala.nameObjection? name.toList = none → w.disk.node real = .error .tooManyLinks →
      w.disk.resolve (sourcePath target name) = .error (.linkLoop real) ∨
        w.disk.resolve target = .error (.linkLoop real) →
      Unjudged folder name w ws (.files (.linkLoop real))

theorem Unjudged.of_tracer {tracer : Telemetry.Tracer} {fault : Fault}
    (unjudged : Unjudged folder name { w with tracer := tracer } ws fault) :
    Unjudged folder name w ws fault := by
  cases unjudged with
  | sourceRoot unset member long => exact .sourceRoot unset member long
  | plugins tooLong => exact .plugins tooLong
  | file chosen accepted long =>
    exact .file (targetFolder_tracer folder w ws tracer ▸ chosen) accepted long
  | loop chosen accepted looping resolved =>
    exact .loop (targetFolder_tracer folder w ws tracer ▸ chosen) accepted looping resolved

/-- A name is accepted or not, unless it cannot be judged.  It is accepted only if its path is free,
    and a name that is spelled by the grammar is judged only if its path can be tested. -/
theorem accept_cases (op : String) (folder : Option Path) (name : String) (w : World)
    (workers : ws.sync = true ∨ 0 < ws.settings.lookup.workers) :
    (∃ fault after, accept op folder name w ws = (.error fault, after) ∧
        Unjudged folder name w ws fault) ∨
      ∃ verdict after, accept op folder name w ws = (.ok verdict, after) ∧
        ∀ target, ws.settings.isScala = true → (targetFolder folder w ws).1 = .ok (some target) →
          Scala.nameObjection? name.toList = none →
          ∃ found, w.disk.exists? (sourcePath target name) = .ok found ∧
            ∀ places, verdict = .ok places → found = false := by
  rw [accept_apply]
  by_cases scala : ws.settings.isScala = false
  · rw [if_pos scala]
    refine .inr ⟨_, _, rfl, ?_⟩
    simp [scala]
  rw [if_neg scala]
  rcases chosen : (targetFolder folder w ws).1 with fault | _ | target
  · obtain ⟨unset, root, member, long, rfl⟩ := targetFolder_eq_error chosen
    exact .inl ⟨_, _, rfl, .sourceRoot unset member long⟩
  · exact .inr ⟨_, _, rfl, by simp⟩
  · dsimp only
    rcases objection?_cases target name w workers with
      ⟨accepted, fault, after, failed, why⟩ | ⟨why, after, judged, tested⟩
    · rw [failed]
      refine .inl ⟨_, _, rfl, ?_⟩
      rcases why with ⟨tooLong, rfl⟩ | ⟨long, rfl⟩
      · exact .plugins tooLong
      · exact .file chosen accepted long
    · rw [judged]
      cases why with
      | some why =>
        refine .inr ⟨_, _, rfl, ?_⟩
        rintro _ scala ⟨⟩ accepted
        obtain ⟨found, tested, -⟩ := tested scala accepted
        exact ⟨found, tested, by simp⟩
      | none =>
        have accepted := nameObjection?_of_objection? judged
        obtain ⟨found, free, none⟩ := tested (by simpa using scala) accepted
        have looked := (looks_objection? target name w ws (.refl ws)).1
        rw [judged] at looked
        dsimp only
        rw [looked.disk]
        rcases placed : place w.disk target name with (why | fault) | path
        · refine .inr ⟨_, _, rfl, ?_⟩
          rintro _ - ⟨⟩ -
          exact ⟨found, free, by simp⟩
        · obtain ⟨resolved, real, looping, rfl⟩ := place_eq_files placed
          exact .inl ⟨_, _, rfl, .loop chosen accepted looping resolved⟩
        · refine .inr ⟨_, _, rfl, ?_⟩
          rintro _ - ⟨⟩ -
          exact ⟨found, free, fun _ _ => none rfl⟩

/-- A name that is spelled by the grammar gets no verdict where the path of its file is too long to
    be tested. -/
theorem accept_of_tooLong (op : String) (workers : ws.sync = true ∨ 0 < ws.settings.lookup.workers)
    (scala : ws.settings.isScala = true)
    (chosen : (targetFolder folder w ws).1 = .ok (some target))
    (accepted : Scala.nameObjection? name.toList = none)
    (long : w.disk.node (sourcePath target name) = .error .nameTooLong) :
    ∃ fault after, accept op folder name w ws = (.error fault, after) := by
  rcases accept_cases op folder name w workers with
    ⟨fault, after, failed, -⟩ | ⟨verdict, after, -, tested⟩
  · exact ⟨fault, after, failed⟩
  · obtain ⟨found, tested, -⟩ := tested target scala chosen accepted
    cases tested.symm.trans (Disk.test_eq_error.mpr ⟨long, rfl⟩)

theorem validateName_of_tooLong (workers : ws.sync = true ∨ 0 < ws.settings.lookup.workers)
    (scala : ws.settings.isScala = true)
    (chosen : (targetFolder folder w ws).1 = .ok (some target))
    (accepted : Scala.nameObjection? name.toList = none)
    (long : w.disk.node (sourcePath target name) = .error .nameTooLong) :
    ∃ fault after, validateName folder name w ws = (.error fault, after) := by
  rcases validateName_cases folder name w ws with
    ⟨fault, after, -, ended, -⟩ | ⟨_, _, _, _, _, -, judged, -⟩
  · exact ⟨fault, after, ended⟩
  · rw [← targetFolder_tracer folder w ws w.tracer.begin] at chosen
    obtain ⟨fault, after, failed⟩ :=
      accept_of_tooLong (w := { w with tracer := w.tracer.begin }) "validate_name" workers scala
        chosen accepted long
    cases judged.symm.trans failed

/-- Validating a name ends with a result unless the name cannot be judged.  The result says yes only
    to a name that is spelled by the grammar and has a place that is free; and a name that is
    spelled by the grammar gets no result where the path of its file is too long to be tested. -/
theorem validateName_ends (folder : Option Path) (name : String) (w : World)
    (workers : ws.sync = true ∨ 0 < ws.settings.lookup.workers) :
    ((∃ r after, validateName folder name w ws = (.ok r, after) ∧
        (r.ok = true → ∃ target path, Accepted folder name w ws target path ∧
          w.disk.exists? path = .ok false)) ∨
      ∃ fault after, validateName folder name w ws = (.error fault, after) ∧
        Unjudged folder name w ws fault) ∧
    ∀ target, ws.settings.isScala = true → (targetFolder folder w ws).1 = .ok (some target) →
      Scala.nameObjection? name.toList = none →
      w.disk.node (sourcePath target name) = .error .nameTooLong →
      ∃ fault after, validateName folder name w ws = (.error fault, after) := by
  refine ⟨?_, fun target => validateName_of_tooLong workers⟩
  rcases accept_cases "validate_name" folder name { w with tracer := w.tracer.begin } workers with
    ⟨fault, after, failed, unjudged⟩ | ⟨verdict, after, judged, tested⟩
  · rcases validateName_cases folder name w ws with
      ⟨fault', after', _, ended, failed'⟩ | ⟨_, _, _, _, _, -, judged, -⟩
    · cases failed.symm.trans failed'
      exact .inr ⟨fault, after', ended, unjudged.of_tracer⟩
    · cases judged.symm.trans failed
  · rcases validateName_cases folder name w ws with
      ⟨_, _, _, -, failed⟩ | ⟨r, _, _, _, _, ended, -, -⟩
    · cases failed.symm.trans judged
    refine .inl ⟨r, _, ended, fun fine => ?_⟩
    obtain ⟨target, path, _, accepted, -, -, accepts⟩ := accept_of_validateName ended fine
    cases judged.symm.trans (accepts "validate_name")
    obtain ⟨scala, chosen, -, -⟩ := accept_ok_iff.mp (accepts "validate_name")
    obtain ⟨found, free, none⟩ := tested target scala chosen accepted.unobjected
    obtain ⟨-, spelled, -⟩ := of_place_eq_ok accepted.placed
    rw [none _ rfl, ← spelled] at free
    exact ⟨target, path, accepted, free⟩

section LongName

open Scala QualifiedName

theorem isJavaIdent_replicate {c : Char} (starts : isJavaStart c = true) (n : Nat) :
    isJavaIdent (List.replicate (n + 1) c) = true := by
  rw [List.replicate_succ, isJavaIdent, starts, Bool.true_and, List.all_eq_true]
  intro d member
  rw [List.eq_of_mem_replicate member]
  exact isJavaPart_of_isJavaStart starts

/-- A package segment of more bytes than a component of a path may have. -/
def longSegment : List Char := List.replicate 256 'x'

/-- The name of a type in that package. -/
def longName : String := String.ofList (longSegment ++ ".A".toList)

theorem isPackageIdent_longSegment : isPackageIdent longSegment = true := by
  have java : isJavaIdent longSegment = true := isJavaIdent_replicate (by decide +kernel) 255
  have free : (isScalaKeyword longSegment || isJavaKeyword longSegment) = false := by
    decide +kernel
  rw [isPackageIdent, java, free]
  rfl

theorem spells_longName : Spells [longSegment] ['A'] longName.toList where
  packageValid := by
    intro segment member
    rw [List.mem_singleton.mp member]
    exact isPackageIdent_longSegment
  typeValid := by decide +kernel
  undotted := by decide
  whole := by
    rw [longName, String.toList_ofList, qualify_cons, qualify_nil]
    rfl

theorem longName_accepted : nameObjection? longName.toList = none := by
  rw [nameObjection?_eq_none, spells_longName.packageSegments_eq, spells_longName.typeSegment_eq]
  exact spells_longName

theorem not_mem_longSegment {c : Char} (different : c ≠ 'x') : c ∉ longSegment :=
  fun member => different (List.eq_of_mem_replicate member)

theorem longSegment_clean : (String.ofList longSegment).toList.contains '\x00' = false := by
  rw [String.toList_ofList, List.contains_eq_mem, decide_eq_false_iff_not]
  exact not_mem_longSegment (by decide)

theorem longName_tooLong :
    linkedWorld.disk.node (sourcePath ⟨.relative, ["src"]⟩ longName) = .error .nameTooLong := by
  have whole : '/' ∉ longName.toList := by
    rw [longName, String.toList_ofList, List.mem_append, not_or]
    exact ⟨not_mem_longSegment (by decide), by decide⟩
  rw [sourcePath_of_spells _ spells_longName whole]
  apply Disk.node_tooLong
  · simp only [sourceParts, List.map_cons, List.map_nil, List.cons_append, List.nil_append,
      List.any_cons, List.any_nil, longSegment_clean]
    decide
  · decide +kernel

/-- The name of a type in a package of an over-long segment is spelled by the grammar, and yet its
    validation is no result but a fault. -/
theorem validateName_longName_fails :
    nameObjection? longName.toList = none ∧
      ¬ ∃ r after, validateName (some ⟨.relative, ["src"]⟩) longName linkedWorld linkedWorkspace =
        (.ok r, after) := by
  refine ⟨longName_accepted, ?_⟩
  rintro ⟨r, after, ended⟩
  have chosen : (targetFolder (some ⟨.relative, ["src"]⟩) linkedWorld linkedWorkspace).1 =
      .ok (some ⟨.relative, ["src"]⟩) := rfl
  obtain ⟨fault, after', failed⟩ :=
    validateName_of_tooLong (.inl rfl) rfl chosen longName_accepted longName_tooLong
  cases ended.symm.trans failed

/-- With lookups made one by one, that name is a case of the second part. -/
theorem validateName_ends_longName :
    (linkedWorkspace.sync = true ∨ 0 < linkedWorkspace.settings.lookup.workers) ∧
      ∃ fault after, validateName (some ⟨.relative, ["src"]⟩) longName linkedWorld
        linkedWorkspace = (.error fault, after) :=
  ⟨.inl rfl, (validateName_ends (some ⟨.relative, ["src"]⟩) longName linkedWorld (.inl rfl)).2
    ⟨.relative, ["src"]⟩ rfl rfl longName_accepted longName_tooLong⟩

end LongName

end Scaffold.Project
