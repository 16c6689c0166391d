import Scaffold.Proofs.Files.Editing
import Scaffold.Proofs.Project.Pipeline

/-!
# Creating source files

A creation that ends well has written exactly one file, in the place of its name, and told the
plugins of it once.  A creation that fails with a result has changed no file and told no plugin
anything.  However creations end, none changes or removes what is there, and none writes a file
outside its folder.
-/

namespace Scaffold.Project

open Files Plugin Workspace

variable {folder : Option Path} {kind : Option String} {name : String} {w w' : World}
  {ws ws' : Workspace} {target path : Path} {text : String}

/-- The path of an accepted name is the folder with proper components behind it. -/
theorem Accepted.path_eq (accepted : Accepted folder name w ws target path) :
    ∃ more, more ≠ [] ∧ ".." ∉ more ∧ path = ⟨target.root, target.parts ++ more⟩ := by
  have spelled := Scala.nameObjection?_eq_none.mp accepted.unobjected
  exact ⟨_, sourceParts_ne_nil _ _, up_not_mem_sourceParts spelled,
    path_of_place accepted.unobjected accepted.placed⟩

theorem Accepted.proper (accepted : Accepted folder name w ws target path)
    (plain : ".." ∉ target.parts) : ".." ∉ path.parts ∧ path.parts ≠ [] := by
  obtain ⟨more, behind, proper, rfl⟩ := accepted.path_eq
  refine ⟨?_, by simp [behind]⟩
  exact fun member => (List.mem_append.mp member).elim plain proper

/-- What a creation that ended well has done: besides missing directories above it one file is new,
    with the text of the template, and the plugins were told of it once. -/
structure Created (folder : Option Path) (kind : Option String) (name : String) (w : World)
    (ws : Workspace) (w' : World) (ws' : Workspace) (target path : Path) (text : String)
    (at_ : Location) (registry : Registry) : Prop
    extends Planned folder kind name w ws target path text where
  file : w.disk.HasNewFile path (.text text) at_ w'.disk
  plugins : ws'.plugins = some registry
  told : w.Told w' registry path.toString name (ws.kindFor kind)

section Frame

variable {r : Result}

/-- Writing the file of an accepted name adds it, changes nothing or stops halfway. -/
theorem Accepted.attempt (accepted : Accepted folder name w ws target path)
    (closed : w.disk.tree.Closed) (plain : ".." ∉ target.parts) (content : Content) :
    w.disk.Attempt (fun d' => ∃ at_, w.disk.HasNewFile path content at_ d')
      (w.disk.writeNew path content) := by
  obtain ⟨plainPath, nonempty⟩ := accepted.proper plain
  exact Disk.attempt_writeNew closed plainPath nonempty content

theorem created_of_ok (closed : w.disk.tree.Closed)
    (plain : ∀ target, (targetFolder folder w ws).1 = .ok (some target) → ".." ∉ target.parts)
    (ended : createFile folder kind name w ws = (.ok r, w', ws')) (fine : r.ok = true) :
    ∃ target path text at_ registry,
      Created folder kind name w ws w' ws' target path text at_ registry := by
  have steps := creating folder kind name w ws
  rw [ended] at steps
  cases steps with
  | stopped _ failed =>
    rw [failed r rfl] at fine
    cases fine
  | unwritten _ _ _ failed =>
    rw [(failed r rfl).1] at fine
    cases fine
  | @written target path text _ _ _ planned written told =>
    obtain ⟨-, registry, plugins, told⟩ := told r rfl
    have attempt := planned.attempt closed (plain target planned.chosen) (.text text)
    rw [written] at attempt
    cases attempt with
    | done file =>
      obtain ⟨at_, file⟩ := file
      exact ⟨target, path, text, at_, registry, planned, file, plugins, told⟩

theorem looked_of_failed (closed : w.disk.tree.Closed)
    (plain : ∀ target, (targetFolder folder w ws).1 = .ok (some target) → ".." ∉ target.parts)
    (ended : createFile folder kind name w ws = (.ok r, w', ws')) (failed : r.ok = false) :
    w.Looked w' := by
  have steps := creating folder kind name w ws
  rw [ended] at steps
  cases steps with
  | stopped looked _ => exact looked
  | @unwritten target path text fault _ _ _ planned unwritten asked taken =>
    refine ⟨?_, asked⟩
    obtain ⟨-, q, rfl⟩ := taken r rfl
    have attempt := planned.attempt closed (plain target planned.chosen) (.text text)
    rw [unwritten] at attempt
    generalize w'.disk = after at attempt
    cases attempt with
    | failed => rfl
    | halfway _ _ other => exact absurd rfl other
  | written _ _ told =>
    rw [(told r rfl).1] at failed
    cases failed

end Frame

/-- However a creation ends, it has at most entered nodes at free places. -/
theorem createFile_grows (folder : Option Path) (kind : Option String) (name : String) (w : World)
    (ws : Workspace) :
    w.disk.tree.Grows (fun _ => True) (createFile folder kind name w ws).2.1.disk.tree ∧
      (createFile folder kind name w ws).2.1.disk.here = w.disk.here := by
  have steps := creating folder kind name w ws
  generalize createFile folder kind name w ws = outcome at steps
  cases steps with
  | stopped looked _ =>
    rw [looked.disk]
    exact ⟨.same, rfl⟩
  | @unwritten target path text _ _ _ _ _ unwritten _ _ =>
    obtain ⟨grows, here⟩ := w.disk.writeNew_grows path (.text text)
    rw [unwritten] at grows here
    exact ⟨grows.weaken fun _ _ => trivial, here⟩
  | @written target path text _ _ _ _ written _ =>
    obtain ⟨grows, here⟩ := w.disk.writeNew_grows path (.text text)
    rw [written] at grows here
    exact ⟨grows.weaken fun _ _ => trivial, here⟩

/-- A creation leaves a sound disk, on which the next one can start. -/
theorem createFile_sound (folder : Option Path) (kind : Option String) (name : String)
    (ws : Workspace) (sound : w.disk.Sound) :
    (createFile folder kind name w ws).2.1.disk.Sound := by
  obtain ⟨grows, here⟩ := createFile_grows folder kind name w ws
  exact sound.of_grows grows here

/-- A request for a new file. -/
structure Request where
  folder : Option Path
  kind : Option String
  name : String

/-- What is there after a run of creations, however each of them ended. -/
def createFiles : List Request → World → Workspace → World × Workspace
  | [], w, ws => (w, ws)
  | request :: requests, w, ws =>
    let after := createFile request.folder request.kind request.name w ws
    createFiles requests after.2.1 after.2.2

theorem createFiles_append (before after : List Request) (w : World) (ws : Workspace) :
    createFiles (before ++ after) w ws =
      createFiles after (createFiles before w ws).1 (createFiles before w ws).2 := by
  induction before generalizing w ws with
  | nil => rfl
  | cons request before ih => exact ih _ _

theorem createFiles_grows (requests : List Request) (w : World) (ws : Workspace) :
    w.disk.tree.Grows (fun _ => True) (createFiles requests w ws).1.disk.tree := by
  induction requests generalizing w ws with
  | nil => exact .same
  | cons request requests ih =>
    have first := createFile_grows request.folder request.kind request.name w ws
    exact first.1.trans (ih _ _)

/-- Every creation of a run starts on a sound disk if the first one does. -/
theorem createFiles_sound (requests : List Request) (ws : Workspace) (sound : w.disk.Sound) :
    (createFiles requests w ws).1.disk.Sound := by
  induction requests generalizing w ws with
  | nil => exact sound
  | cons request requests ih =>
    exact ih _ (createFile_sound request.folder request.kind request.name ws sound)

/-- A project whose source folder is a link out of the project. -/
def linkedWorld : World where
  disk := ⟨⟨[(["p"], .directory), (["p", "src"], .link "../lib"), (["lib"], .directory),
    (["lib", "A.scala"], .file (.text "class A"))]⟩, ["p"]⟩
  tracer := .off
  log := []
  calls := []

/-- Its workspace, with a plugin that wants to be told of new files. -/
def linkedWorkspace : Workspace where
  settings := ⟨⟨.single, ["p"]⟩, none, false, false, false, false, true, .default, .default,
    "class"⟩
  sync := true
  plugins := some ⟨[⟨"listener", "Listener", ⟨none, some false⟩⟩]⟩
  templates := none
  index := none

theorem createFile_linked_ok :
    ∃ r w' ws', createFile (some ⟨.relative, ["src"]⟩) none "a.B" linkedWorld linkedWorkspace =
      (.ok r, w', ws') ∧ r.ok = true := by
  have fine : (createFile (some ⟨.relative, ["src"]⟩) none "a.B" linkedWorld
      linkedWorkspace).1.toOption.map (·.ok) = some true := by decide +kernel
  rcases ended : createFile (some ⟨.relative, ["src"]⟩) none "a.B" linkedWorld linkedWorkspace with
    ⟨fault | r, w', ws'⟩
  · rw [ended] at fine
    cases fine
  · rw [ended] at fine
    exact ⟨r, w', ws', rfl, Option.some.inj fine⟩

/-- The file of an accepted name, once it has been written, lies strictly below its folder. -/
theorem Accepted.below {content : Content} {d' : Disk} {at_ : Location}
    (accepted : Accepted folder name w ws target path) (here : ".." ∉ w.disk.here)
    (written : w.disk.writeNew path content = (.ok (), d'))
    (located : d'.locate true path = .ok at_) (file : d'.tree.get? at_ = some (.file content)) :
    ∃ base, d'.locate true target = .ok base ∧ base <+: at_ ∧ base ≠ at_ := by
  obtain ⟨more, behind, -, spelled⟩ := accepted.path_eq
  have grows := w.disk.writeNew_grows path content
  rw [written] at grows
  have same : w.disk.SameLinks d' := .of_grows grows.2 grows.1
  exact below_of_place same here accepted.placed spelled behind located file

end Scaffold.Project
