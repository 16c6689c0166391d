import Scaffold.Config.Locate
import Scaffold.Proofs.Files.Ancestry

/-!
# Where a project is found

The search for a project goes up once, with an eye on two things, and is the same as two searches:
one for the configuration file, and one for a build definition where there is none.  Searching again
from where the project was found ends there.  Only names that cannot be tested get in the way.
-/

namespace Scaffold.Config

open Files

section Search

variable {disk : Disk} {start root : Path} {build : Option Path} {dirs above : List Path}
  {location : Location} {names : List String} {fault : Fault}

/-- Whether a directory holds the configuration file. -/
def holdsConfig (disk : Disk) (dir : Path) : Bool := disk.hasFile (dir.child fileName)

/-- Whether a directory holds a build definition. -/
def holdsBuild (disk : Disk) (dir : Path) : Bool :=
  buildMarkers.any fun name => disk.hasFile (dir.child name)

/-- The location of a project by two searches among directories, nearest first: for the
    configuration file, and then for a build definition. -/
def twoPass (disk : Disk) (start : Path) (dirs : List Path) : Location :=
  match dirs.find? (holdsConfig disk) with
  | some dir => ⟨dir, some (dir.child fileName)⟩
  | none => ⟨(dirs.find? (holdsBuild disk)).getD start, none⟩

theorem hasFile_of_isFile? {p : Path} {found : Bool} (tested : disk.isFile? p = .ok found) :
    disk.hasFile p = found := by
  unfold Disk.isFile? Disk.test at tested
  unfold Disk.hasFile
  split at tested
  · exact Except.ok.inj tested
  · split at tested
    · exact Except.ok.inj tested
    · cases tested

theorem any_of_hasAnyFile {dir : Path} {found : Bool}
    (tested : hasAnyFile disk dir names = .ok found) :
    (names.any fun name => disk.hasFile (dir.child name)) = found := by
  induction names with
  | nil => exact Except.ok.inj tested
  | cons name names ih =>
    rw [hasAnyFile] at tested
    rw [List.any_cons]
    cases first : disk.isFile? (dir.child name) with
    | error f =>
      rw [first] at tested
      cases tested
    | ok there =>
      rw [first] at tested
      rw [hasFile_of_isFile? first]
      cases there with
      | true => exact Except.ok.inj tested
      | false => exact ih tested

/-- What one step of a search that ends well does. -/
theorem searchUp_cons_eq_ok {dir : Path} :
    searchUp disk start build (dir :: above) = .ok location ↔
      (disk.isFile? (dir.child fileName) = .ok true ∧
        location = ⟨dir, some (dir.child fileName)⟩) ∨
      (disk.isFile? (dir.child fileName) = .ok false ∧
        ((build ≠ none ∧ searchUp disk start build above = .ok location) ∨
          (build = none ∧ ∃ found, hasAnyFile disk dir buildMarkers = .ok found ∧
            searchUp disk start (if found then some dir else none) above = .ok location))) := by
  rw [searchUp.eq_def]
  dsimp only
  cases disk.isFile? (dir.child fileName) with
  | error f => simp
  | ok there =>
    cases there with
    | true => simp [eq_comm]
    | false =>
      cases build with
      | some b => simp
      | none => cases hasAnyFile disk dir buildMarkers <;> simp

/-- A search that fails fails at a test. -/
theorem exists_isFile?_of_hasAnyFile {dir : Path}
    (failed : hasAnyFile disk dir names = .error fault) :
    ∃ name ∈ names, disk.isFile? (dir.child name) = .error fault := by
  induction names with
  | nil => cases failed
  | cons name names ih =>
    rw [hasAnyFile] at failed
    cases first : disk.isFile? (dir.child name) with
    | error f =>
      rw [first] at failed
      exact ⟨name, List.mem_cons_self, first.trans (by rw [Except.error.inj failed])⟩
    | ok there =>
      rw [first] at failed
      cases there with
      | true => cases failed
      | false =>
        obtain ⟨other, member, raised⟩ := ih failed
        exact ⟨other, List.mem_cons_of_mem _ member, raised⟩

theorem exists_isFile?_of_searchUp (failed : searchUp disk start build dirs = .error fault) :
    ∃ dir ∈ dirs, ∃ name ∈ fileName :: buildMarkers,
      disk.isFile? (dir.child name) = .error fault := by
  induction dirs generalizing build with
  | nil => cases failed
  | cons dir above ih =>
    have onward {build : Option Path} (failed : searchUp disk start build above = .error fault) :
        ∃ dir' ∈ dir :: above, ∃ name ∈ fileName :: buildMarkers,
          disk.isFile? (dir'.child name) = .error fault := by
      obtain ⟨other, member, tested⟩ := ih failed
      exact ⟨other, List.mem_cons_of_mem _ member, tested⟩
    rw [searchUp.eq_def] at failed
    dsimp only at failed
    cases config : disk.isFile? (dir.child fileName) with
    | error f =>
      rw [config] at failed
      exact ⟨dir, List.mem_cons_self, fileName, List.mem_cons_self,
        config.trans (by rw [Except.error.inj failed])⟩
    | ok there =>
      rw [config] at failed
      cases there with
      | true => cases failed
      | false =>
        cases build with
        | some b => exact onward failed
        | none =>
          dsimp only at failed
          cases marked : hasAnyFile disk dir buildMarkers with
          | error f =>
            obtain ⟨name, member, raised⟩ := exists_isFile?_of_hasAnyFile marked
            rw [marked] at failed
            exact ⟨dir, List.mem_cons_self, name, List.mem_cons_of_mem _ member,
              raised.trans (by rw [Except.error.inj failed])⟩
          | ok found =>
            rw [marked] at failed
            exact onward failed

/-- A build definition that cannot be tested ends a search that has found nothing. -/
theorem searchUp_untested {dir : Path} (absent : disk.isFile? (dir.child fileName) = .ok false)
    (failed : hasAnyFile disk dir buildMarkers = .error fault) :
    searchUp disk start none (dir :: above) = .error fault := by
  rw [searchUp.eq_def]
  dsimp only
  rw [absent]
  dsimp only
  rw [failed]

/-- A search that ends well ends where the two searches do. -/
theorem eq_twoPass_of_searchUp (searched : searchUp disk start build dirs = .ok location) :
    location = match dirs.find? (holdsConfig disk) with
      | some dir => ⟨dir, some (dir.child fileName)⟩
      | none => ⟨(build.or (dirs.find? (holdsBuild disk))).getD start, none⟩ := by
  induction dirs generalizing build with
  | nil =>
    rw [searchUp] at searched
    rw [← Except.ok.inj searched]
    simp
  | cons dir above ih =>
    rcases searchUp_cons_eq_ok.mp searched with ⟨config, rfl⟩ | ⟨config, onward⟩
    · have holds : holdsConfig disk dir = true := hasFile_of_isFile? config
      rw [List.find?_cons_of_pos holds]
    · have holds : holdsConfig disk dir = false := hasFile_of_isFile? config
      rw [List.find?_cons_of_neg (by simp [holds])]
      rcases onward with ⟨known, onward⟩ | ⟨rfl, found, marked, onward⟩
      · obtain ⟨b, rfl⟩ := Option.ne_none_iff_exists'.mp known
        exact ih onward
      · have builds : holdsBuild disk dir = found := any_of_hasAnyFile marked
        rw [ih onward, List.find?_cons, builds]
        cases found <;> rfl

/-- A build definition found below is kept where there is no configuration file. -/
theorem searchUp_of_build {b : Path}
    (absent : ∀ dir ∈ dirs, disk.isFile? (dir.child fileName) = .ok false) :
    searchUp disk start (some b) dirs = .ok ⟨b, none⟩ := by
  induction dirs with
  | nil => rfl
  | cons dir above ih =>
    rw [List.forall_mem_cons] at absent
    exact searchUp_cons_eq_ok.mpr (.inr ⟨absent.1, .inl ⟨Option.some_ne_none b, ih absent.2⟩⟩)

/-- What was tested in a search that ended well. -/
theorem tested_of_searchUp (searched : searchUp disk start build dirs = .ok location) :
    (∃ dir ∈ dirs, disk.isFile? (dir.child fileName) = .ok true ∧
      location = ⟨dir, some (dir.child fileName)⟩) ∨
    ((∀ dir ∈ dirs, disk.isFile? (dir.child fileName) = .ok false) ∧
      (location = ⟨build.getD start, none⟩ ∨
        ∃ dir ∈ dirs, hasAnyFile disk dir buildMarkers = .ok true ∧ location = ⟨dir, none⟩)) := by
  induction dirs generalizing build with
  | nil => exact .inr ⟨by simp, .inl (Except.ok.inj searched).symm⟩
  | cons dir above ih =>
    rcases searchUp_cons_eq_ok.mp searched with ⟨config, rfl⟩ | ⟨config, onward⟩
    · exact .inl ⟨dir, List.mem_cons_self, config, rfl⟩
    · -- The search goes on with what it knew of a build definition, or with the one found here.
      obtain ⟨known, onward, origin⟩ : ∃ known, searchUp disk start known above = .ok location ∧
          (known = build ∨ (known = some dir ∧ hasAnyFile disk dir buildMarkers = .ok true)) := by
        rcases onward with ⟨-, onward⟩ | ⟨rfl, found, marked, onward⟩
        · exact ⟨build, onward, .inl rfl⟩
        · cases found with
          | true => exact ⟨some dir, onward, .inr ⟨rfl, marked⟩⟩
          | false => exact ⟨none, onward, .inl rfl⟩
      rw [List.forall_mem_cons]
      rcases ih onward with ⟨other, member, tested, same⟩ |
        ⟨absent, same | ⟨other, member, tested, same⟩⟩
      · exact .inl ⟨other, List.mem_cons_of_mem _ member, tested, same⟩
      · rcases origin with rfl | ⟨rfl, marked⟩
        · exact .inr ⟨⟨config, absent⟩, .inl same⟩
        · exact .inr ⟨⟨config, absent⟩, .inr ⟨dir, List.mem_cons_self, marked, same⟩⟩
      · exact .inr ⟨⟨config, absent⟩, .inr ⟨other, List.mem_cons_of_mem _ member, tested, same⟩⟩

/-- Searching again from where a project was found ends there. -/
theorem searchUp_again {real : Path}
    (searched : searchUp disk real none real.ancestors = .ok location) :
    searchUp disk location.root none location.root.ancestors = .ok location := by
  rcases tested_of_searchUp searched with
    ⟨dir, member, config, rfl⟩ | ⟨absent, rfl | ⟨dir, member, marked, rfl⟩⟩
  · obtain ⟨above, ancestors, -⟩ := Path.ancestors_of_mem member
    rw [ancestors]
    exact searchUp_cons_eq_ok.mpr (.inl ⟨config, rfl⟩)
  · exact searched
  · obtain ⟨above, ancestors, further⟩ := Path.ancestors_of_mem member
    rw [ancestors]
    refine searchUp_cons_eq_ok.mpr (.inr ⟨absent dir member, .inr ⟨rfl, true, marked, ?_⟩⟩)
    exact searchUp_of_build fun other inside => absent other (further other inside)

theorem root_mem_of_searchUp {real : Path}
    (searched : searchUp disk real none real.ancestors = .ok location) :
    location.root ∈ real.ancestors := by
  rcases tested_of_searchUp searched with
    ⟨dir, member, -, rfl⟩ | ⟨-, rfl | ⟨dir, member, -, rfl⟩⟩
  · exact member
  · exact Path.mem_ancestors.mpr ⟨rfl, List.prefix_rfl⟩
  · exact member

end Search

section Locating

variable {disk : Disk} {environment : List (String × String)} {start : Path} {base : Files.Location}

/-- No configuration file is named in the environment. -/
def Unnamed (environment : List (String × String)) : Prop :=
  ∀ name, environment.lookup fileVariable = some name → name = ""

theorem locate_of_resolve {real : Path} (unnamed : Unnamed environment)
    (resolved : disk.resolve start = .ok real) :
    locate disk environment start = searchUp disk real none real.ancestors := by
  unfold locate
  rw [resolved]
  cases named : environment.lookup fileVariable with
  | none => rfl
  | some name =>
    rw [unnamed name named]
    rfl

theorem isName_of_mem : ∀ name ∈ fileName :: buildMarkers, IsName name := by
  have proper : ∀ name ∈ fileName :: buildMarkers, name ≠ ".." ∧
      Text.Utf8.size name ≤ maxNameBytes ∧ '\x00' ∉ name.toList := by decide +kernel
  intro name member
  obtain ⟨plain, short, clean⟩ := proper name member
  exact ⟨plain, short, clean⟩

end Locating

/-- A project with its configuration file at the top and, in a module below, a build definition that
    may be a link. -/
def nestedDisk (build : Node) : Disk :=
  ⟨⟨[(["scalanew.toml"], .file (.text "")), (["core"], .directory),
    (["core", "build.sbt"], build)]⟩, []⟩

theorem nestedDisk_orderly (build : Node) : (nestedDisk build).tree.Orderly :=
  Tree.orderly_of_nodes (by simp [nestedDisk]) (by simp [nestedDisk]; decide +kernel)

theorem nestedDisk_sound (build : Node) : (nestedDisk build).Sound :=
  ⟨Tree.closed_of_nodes (List.forall_mem_cons.mpr ⟨fun _ => rfl,
    List.forall_mem_cons.mpr ⟨fun _ => rfl, List.forall_mem_singleton.mpr fun _ => rfl⟩⟩),
    List.not_mem_nil⟩

theorem nestedDisk_core (build : Node) : (nestedDisk build).tree.isDirectory ["core"] = true := rfl

/-- A build definition that is a link to a name too long for any file keeps the configuration file
    above it from being found. -/
theorem locate_linked {target : String} (undivided : '/' ∉ target.toList)
    (long : maxNameBytes < Text.Utf8.size target) :
    locate (nestedDisk (.link target)) [] ⟨.single, ["core"]⟩ =
      .error (.obstacle .nameTooLong ⟨.single, ["core", "build.sbt"]⟩) := by
  -- The first name of a build definition that is looked for is the link.
  have linked : hasAnyFile (nestedDisk (.link target)) ⟨.single, ["core"]⟩ buildMarkers =
      .error (.obstacle .nameTooLong ⟨.single, ["core", "build.sbt"]⟩) := by
    have tested : (nestedDisk (.link target)).isFile? ⟨.single, ["core"] ++ ["build.sbt"]⟩ =
        .error (.obstacle .nameTooLong ⟨.single, ["core"] ++ ["build.sbt"]⟩) :=
      Disk.test_link_tooLong (nestedDisk_sound _) (nestedDisk_orderly _) (nestedDisk_core _) rfl
        undivided long
    rw [buildMarkers, hasAnyFile, Path.child, tested]
    rfl
  have absent : (nestedDisk (.link target)).isFile? ⟨.single, ["core"] ++ [fileName]⟩ =
      .ok false := rfl
  have resolved : (nestedDisk (.link target)).resolve ⟨.single, ["core"]⟩ =
      .ok ⟨.single, ["core"]⟩ :=
    Disk.resolve_isDirectory (nestedDisk_sound _) (nestedDisk_orderly _) (nestedDisk_core _)
  have above : Path.ancestors ⟨.single, ["core"]⟩ = [⟨.single, ["core"]⟩, ⟨.single, []⟩] := rfl
  rw [locate_of_resolve (fun name named => by cases named) resolved, above]
  exact searchUp_untested absent linked

end Scaffold.Config
