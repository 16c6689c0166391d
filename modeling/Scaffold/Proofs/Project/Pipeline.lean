import Scaffold.Proofs.Files.Effect
import Scaffold.Proofs.Project.Acceptance
import Scaffold.Proofs.Project.Preparation

/-!
# The steps of a creation

A creation accepts a name, renders a text, writes the file and tells the plugins, and each step may
be the last one.  `Creating` lists the ways in which it can end, with what each leaves behind; the
steps before writing only look, so that the file is written on the disk that was found.
-/

namespace Scaffold.Project

open Files Plugin Workspace

variable {folder : Option Path} {kind : Option String} {op name : String} {w : World}
  {ws : Workspace} {target path : Path} {text : String}

/-- The templates of a project, which are got ready when they are first needed. -/
def Workspace.store (ws : Workspace) : Template.Store :=
  ws.templates.getD (.ofProject ws.settings.root)

/-- The kind of file that a request is for. -/
def Workspace.kindFor (ws : Workspace) (kind : Option String) : String :=
  (kind.filter (· ≠ "")).getD ws.settings.defaultTemplate

theorem getTemplates_apply :
    getTemplates w ws = (.ok ws.store, w, { ws with templates := some ws.store }) := by
  rcases ws with ⟨settings, sync, plugins, _ | store, index⟩ <;> rfl

theorem render_apply (kind : String) (bindings : List (String × String)) :
    render kind bindings w ws =
      (.ok (ws.store.render w.disk kind bindings).1, w,
        { ws with templates := some (ws.store.render w.disk kind bindings).2 }) := by
  unfold render
  rw [Action.bind_apply, getTemplates_apply]
  rfl

/-- Rendering ends with the text of the template, with a failure or with a fault, and leaves the
    files and the calls of plugins alone. -/
theorem renderOrFail_cases (op kind name : String) (w : World) (ws : Workspace) :
    ∃ result w' ws', renderOrFail op kind name w ws = (result, w', ws') ∧ w.Looked w' ∧
      ws'.settings = ws.settings ∧ ∀ rendered, result = .ok rendered →
        (∃ text, rendered = .ok text ∧
          (ws.store.render w.disk kind (Scala.QualifiedName.bindings name)).1 = .ok text) ∨
        ∃ failure, rendered = .error failure ∧ failure.ok = false := by
  unfold renderOrFail Action.spanning
  rw [Action.bind_apply, render_apply]
  have looked : ∀ tracer, w.Looked { w with tracer := tracer } := fun _ => ⟨rfl, .of_eq rfl⟩
  cases rendered : (ws.store.render w.disk kind (Scala.QualifiedName.bindings name)).1 with
  | ok text =>
    refine ⟨_, _, _, rfl, looked _, rfl, ?_⟩
    rintro _ ⟨⟩
    exact .inl ⟨text, rfl, rfl⟩
  | error fault =>
    cases fault with
    | notFound =>
      simp only
      rw [Action.bind_apply, kinds, Action.bind_apply, getTemplates_apply]
      refine ⟨_, _, _, rfl, looked _, rfl, ?_⟩
      rintro _ ⟨⟩
      exact .inr ⟨_, rfl, rfl⟩
    | _ =>
      refine ⟨_, _, _, rfl, looked _, rfl, ?_⟩
      rintro _ ⟨⟩

/-- Writing ends as writing a new file does; only where something is in the way, that is a failure
    and not a fault. -/
theorem writeOrFail_cases (op name : String) (path : Path) (text : String) (w : World)
    (ws : Workspace) :
    ∃ result w', writeOrFail op name path text w ws = (result, w', ws) ∧
      w'.disk = (w.disk.writeNew path (.text text)).2 ∧ w'.calls = w.calls ∧
      ((w.disk.writeNew path (.text text)).1 = .ok () ∧ result = .ok (.ok ()) ∨
        ∃ fault, (w.disk.writeNew path (.text text)).1 = .error fault ∧
          ∀ written, result = .ok written → (∃ q, fault = .obstacle .alreadyExists q) ∧
            ∃ failure, written = .error failure ∧ failure.ok = false) := by
  unfold writeOrFail Action.spanning
  rw [Action.bind_apply, Action.change]
  rcases w.disk.writeNew path (.text text) with ⟨fault | done, d'⟩
  · rcases fault with ⟨why, q⟩ | path | bytes
    · cases why with
      | alreadyExists =>
        refine ⟨_, _, rfl, rfl, rfl, .inr ⟨_, rfl, ?_⟩⟩
        rintro _ ⟨⟩
        exact ⟨⟨q, rfl⟩, _, rfl, rfl⟩
      | _ =>
        refine ⟨_, _, rfl, rfl, rfl, .inr ⟨_, rfl, ?_⟩⟩
        rintro _ ⟨⟩
    · refine ⟨_, _, rfl, rfl, rfl, .inr ⟨_, rfl, ?_⟩⟩
      rintro _ ⟨⟩
    · refine ⟨_, _, rfl, rfl, rfl, .inr ⟨_, rfl, ?_⟩⟩
      rintro _ ⟨⟩
  · exact ⟨_, _, rfl, rfl, rfl, .inl ⟨rfl, rfl⟩⟩

/-- Where writing ends in a fault, it is the one that writing the new file ended in. -/
theorem writeOrFail_eq_error {raised : Fault} {after : World × Workspace}
    (ran : writeOrFail op name path text w ws = (.error raised, after)) :
    ∃ fault, (w.disk.writeNew path (.text text)).1 = .error fault ∧ raised = .files fault := by
  unfold writeOrFail Action.spanning at ran
  rw [Action.bind_apply, Action.change] at ran
  dsimp only at ran
  cases wrote : (w.disk.writeNew path (.text text)).1 with
  | ok done =>
    rw [wrote] at ran
    cases ran
  | error fault =>
    rw [wrote] at ran
    refine ⟨fault, rfl, ?_⟩
    rcases fault with ⟨why, q⟩ | path | bytes
    · cases why with
      | alreadyExists => cases ran
      | _ =>
        cases ran
        rfl
    · cases ran
      rfl
    · cases ran
      rfl

/-- The plugins have been told once of a new file, and before that at most asked. -/
def World.Told (w w' : World) (registry : Registry) (path name kind : String) : Prop :=
  ∃ asked, (∀ call ∈ asked, call.isQuestion = true) ∧
    w'.calls = w.calls ++ asked ++ (registry.notify path name kind).1

theorem World.Told.of_asked {w' w'' : World} {registry : Registry} {path name kind : String}
    (told : w'.Told w'' registry path name kind) (asked : w.Asked w') :
    w.Told w'' registry path name kind := by
  obtain ⟨first, calls, questions⟩ := asked
  obtain ⟨more, moreQuestions, moreCalls⟩ := told
  refine ⟨first ++ more, ?_, ?_⟩
  · exact List.forall_mem_append.mpr ⟨questions, moreQuestions⟩
  · rw [moreCalls, calls, List.append_assoc w.calls]

/-- Telling the plugins changes no file, and where it ends well they have been told once.  It fails
    only where they cannot be looked for. -/
theorem notify_cases (path name kind : String) (w : World) (ws : Workspace) :
    ∃ result w' ws', onPlugins (Plugins.notify path name kind) w ws = (result, w', ws') ∧
      w'.disk = w.disk ∧
      (∀ warnings, result = .ok warnings →
        ∃ registry, ws'.plugins = some registry ∧ w.Told w' registry path name kind) ∧
      ∀ raised, result = .error raised → raised = ws.pluginsFault := by
  obtain ⟨looked, -⟩ := looks_getPlugins w ws (.refl ws)
  unfold onPlugins
  rcases getPlugins_cases w ws with ⟨-, failed⟩ | ⟨-, registry, w₁, got⟩
  · rw [failed]
    refine ⟨_, _, _, rfl, rfl, ?_, ?_⟩
    · rintro _ ⟨⟩
    · rintro _ ⟨⟩
      rfl
  · rw [got] at looked ⊢
    refine ⟨_, _, _, rfl, looked.disk, ?_, ?_⟩
    · rintro _ -
      obtain ⟨asked, calls, questions⟩ := looked.asked
      refine ⟨registry, rfl, asked, questions, ?_⟩
      rw [← calls]
      rfl
    · rintro _ ⟨⟩

/-- A name is accepted, and there is a text for its file. -/
structure Planned (folder : Option Path) (kind : Option String) (name : String) (w : World)
    (ws : Workspace) (target path : Path) (text : String) : Prop
    extends Accepted folder name w ws target path where
  rendered : (ws.store.render w.disk (ws.kindFor kind) (Scala.QualifiedName.bindings name)).1 =
    .ok text

/-- How a creation ends: before anything is written, with the file not written, or with the file
    written and the plugins told of it.  A fault may end it at any time, and once a file is to be
    written it is told which one. -/
inductive Creating (folder : Option Path) (kind : Option String) (name : String) (w : World)
    (ws : Workspace) : Except Fault Result × World × Workspace → Prop
  | stopped {result : Except Fault Result} {w' : World} {ws' : Workspace} : w.Looked w' →
      (∀ r, result = .ok r → r.ok = false) → Creating folder kind name w ws (result, w', ws')
  | unwritten {target path : Path} {text : String} {fault : Files.Fault}
      {result : Except Fault Result} {w' : World} {ws' : Workspace} :
      Planned folder kind name w ws target path text →
      w.disk.writeNew path (.text text) = (.error fault, w'.disk) → w.Asked w' →
      (∀ r, result = .ok r → r.ok = false ∧ ∃ q, fault = .obstacle .alreadyExists q) →
      w.disk.exists? path = .ok false →
      (∀ raised, result = .error raised → raised = .files fault) →
      Creating folder kind name w ws (result, w', ws')
  | written {target path : Path} {text : String} {result : Except Fault Result} {w' : World}
      {ws' : Workspace} : Planned folder kind name w ws target path text →
      w.disk.writeNew path (.text text) = (.ok (), w'.disk) →
      (∀ r, result = .ok r → r.ok = true ∧ ∃ registry, ws'.plugins = some registry ∧
        w.Told w' registry path.toString name (ws.kindFor kind)) →
      (∀ raised, result = .error raised → raised = ws.pluginsFault) →
      Creating folder kind name w ws (result, w', ws')

/-- What is left to do once a name has been accepted. -/
def finishFile (op kind name : String) (root path : Path) : Action Workspace Result := do
  match ← renderOrFail op kind name with
  | .error failure => return failure
  | .ok text =>
    match ← writeOrFail op name path text with
    | .error failure => return failure
    | .ok () =>
      let warnings ← onPlugins (Plugins.notify path.toString name kind)
      return .success op [("name", .str name), ("kind", .str kind),
        ("path", displayed root path), ("variables", variableData name)] warnings

/-- Once a name has been accepted, the rest is left to do. -/
theorem createFileCore_of_accept {w₁ : World} {ws₁ : Workspace} (kind : Option String)
    (accepts : accept "create_file" folder name w ws = (.ok (.ok (target, path)), w₁, ws₁)) :
    createFileCore folder kind name w ws =
      finishFile "create_file" (ws.kindFor kind) name ws.settings.root path w₁ ws₁ := by
  change (accept "create_file" folder name >>= _) _ ws = _
  rw [Action.bind_apply, accepts]
  rfl

theorem Workspace.Alike.store_eq {ws' : Workspace} (alike : ws.Alike ws') :
    ws'.store = ws.store := by
  rw [store, store, alike.templates, alike.settings]

/-- Once the file has been written, the plugins are told of it. -/
theorem creating_tell {w₁ : World} {ws₁ : Workspace} {report : List String → Result}
    (planned : Planned folder kind name w ws target path text)
    (written : w.disk.writeNew path (.text text) = (.ok (), w₁.disk)) (asked : w.Asked w₁)
    (settings : ws₁.settings = ws.settings) (fine : ∀ warnings, (report warnings).ok = true) :
    Creating folder kind name w ws
      ((onPlugins (Plugins.notify path.toString name (ws.kindFor kind)) >>= fun warnings =>
        pure (report warnings)) w₁ ws₁) := by
  obtain ⟨telling, w₂, ws₂, ran, same, told, untold⟩ :=
    notify_cases path.toString name (ws.kindFor kind) w₁ ws₁
  rw [Action.bind_apply, ran]
  rw [← same] at written
  rcases telling with fault | warnings
  · refine .written planned written ?_ ?_
    · rintro _ ⟨⟩
    · rintro _ ⟨⟩
      rw [untold _ rfl, pluginsFault, pluginsFault, settings]
  · obtain ⟨registry, plugins, told⟩ := told warnings rfl
    refine .written planned written ?_ ?_
    · rintro _ ⟨⟩
      exact ⟨fine warnings, registry, plugins, told.of_asked asked⟩
    · rintro _ ⟨⟩

theorem creating_finish {w₁ : World} {ws₁ : Workspace} {root : Path}
    (accepted : Accepted folder name w ws target path) (free : w.disk.exists? path = .ok false)
    (looked : w.Looked w₁) (alike : ws.Alike ws₁) :
    Creating folder kind name w ws (finishFile op (ws.kindFor kind) name root path w₁ ws₁) := by
  unfold finishFile
  obtain ⟨rendering, w₂, ws₂, ran, lookedOn, settings, rendersOrFails⟩ :=
    renderOrFail_cases op (ws.kindFor kind) name w₁ ws₁
  replace lookedOn := looked.trans lookedOn
  rw [Action.bind_apply, ran]
  rcases rendering with fault | rendering
  · refine .stopped lookedOn ?_
    rintro _ ⟨⟩
  rcases rendersOrFails _ rfl with ⟨text, rfl, rendered⟩ | ⟨failure, rfl, failed⟩
  · rw [alike.store_eq, looked.disk] at rendered
    have planned : Planned folder kind name w ws target path text := ⟨accepted, rendered⟩
    obtain ⟨writing, w₃, wrote, disk, calls, outcome⟩ := writeOrFail_cases op name path text w₂ ws₂
    simp only
    rw [Action.bind_apply, wrote]
    rw [lookedOn.disk] at disk outcome
    have asked : w.Asked w₃ := lookedOn.asked.trans (.of_eq calls)
    rcases outcome with ⟨done, rfl⟩ | ⟨fault, failed, outcome⟩
    · have ended : w.disk.writeNew path (.text text) = (.ok (), w₃.disk) :=
        Prod.ext done disk.symm
      exact creating_tell planned ended asked (settings.trans alike.settings) fun _ => rfl
    · have ended : w.disk.writeNew path (.text text) = (.error fault, w₃.disk) :=
        Prod.ext failed disk.symm
      rcases writing with raised | writing
      · refine .unwritten planned ended asked ?_ free ?_
        · rintro _ ⟨⟩
        · rintro _ ⟨⟩
          obtain ⟨other, same, rfl⟩ := writeOrFail_eq_error wrote
          rw [lookedOn.disk, failed] at same
          cases same
          rfl
      · obtain ⟨taken, failure, rfl, failed⟩ := outcome _ rfl
        refine .unwritten planned ended asked ?_ free ?_
        · rintro _ ⟨⟩
          exact ⟨failed, taken⟩
        · rintro _ ⟨⟩
  · refine .stopped lookedOn ?_
    rintro _ ⟨⟩
    exact failed

theorem creating_core (folder : Option Path) (kind : Option String) (name : String) (w : World)
    (ws : Workspace) : Creating folder kind name w ws (createFileCore folder kind name w ws) := by
  have looked := looks_accept "create_file" folder name w ws (.refl ws)
  change Creating folder kind name w ws ((accept "create_file" folder name >>= _) w ws)
  rw [Action.bind_apply]
  rcases ran : accept "create_file" folder name w ws with ⟨fault | verdict, w₁, ws₁⟩
  · rw [ran] at looked
    refine .stopped looked.1 ?_
    rintro _ ⟨⟩
  · rw [ran] at looked
    rcases accept_eq_ok ran with ⟨target, path, rfl, accepted⟩ | ⟨failure, rfl, failed⟩
    · exact creating_finish accepted (exists?_of_accept ran) looked.1 looked.2
    · refine .stopped looked.1 ?_
      rintro _ ⟨⟩
      exact failed

theorem Planned.of_tracer {tracer : Telemetry.Tracer}
    (planned : Planned folder kind name { w with tracer := tracer } ws target path text) :
    Planned folder kind name w ws target path text where
  toAccepted := planned.toAccepted.of_tracer
  rendered := planned.rendered

/-- Tracing a creation changes only what it reports. -/
theorem Creating.of_tracer {tracer : Telemetry.Tracer} {result report : Except Fault Result}
    {w' w'' : World} {ws' : Workspace}
    (creating : Creating folder kind name { w with tracer := tracer } ws (result, w', ws'))
    (disk : w''.disk = w'.disk) (calls : w''.calls = w'.calls)
    (reported : report.map (·.ok) = result.map (·.ok)) :
    Creating folder kind name w ws (report, w'', ws') := by
  have ended : ∀ r, report = .ok r → ∃ inner, result = .ok inner ∧ r.ok = inner.ok := by
    rintro r rfl
    rcases result with fault | inner
    · cases reported
    · exact ⟨inner, rfl, Except.ok.inj reported⟩
  have raises : ∀ raised, report = .error raised → result = .error raised := by
    rintro raised rfl
    rcases result with fault | inner
    · cases reported
      rfl
    · cases reported
  cases creating with
  | stopped looked failed =>
    refine .stopped ⟨disk.trans looked.disk, looked.asked.trans (.of_eq calls)⟩ ?_
    intro r told
    obtain ⟨inner, same, ok⟩ := ended r told
    rw [ok]
    exact failed inner same
  | unwritten planned written asked failed free fault =>
    refine .unwritten planned.of_tracer (disk ▸ written) (asked.trans (.of_eq calls)) ?_ free
      fun raised ended => fault raised (raises raised ended)
    intro r told
    obtain ⟨inner, same, ok⟩ := ended r told
    rw [ok]
    exact failed inner same
  | written planned written told fault =>
    refine .written planned.of_tracer (disk ▸ written) ?_
      fun raised ended => fault raised (raises raised ended)
    intro r reported
    obtain ⟨inner, same, ok⟩ := ended r reported
    obtain ⟨fine, registry, plugins, asked, questions, told⟩ := told inner same
    rw [ok]
    exact ⟨fine, registry, plugins, asked, questions, calls.trans told⟩

/-- Every creation ends in one of the ways that there are. -/
theorem creating (folder : Option Path) (kind : Option String) (name : String) (w : World)
    (ws : Workspace) : Creating folder kind name w ws (createFile folder kind name w ws) := by
  have core := creating_core folder kind name { w with tracer := w.tracer.begin } ws
  rcases ran : createFileCore folder kind name { w with tracer := w.tracer.begin } ws with
    ⟨result, w', ws'⟩
  rw [ran] at core
  obtain ⟨report, w'', ended, disk, calls, same⟩ :=
    Action.traced_cases "FileCreatorService.create_file" ran
  rw [createFile, ended]
  exact core.of_tracer disk calls same

/-- A creation that ends well has written the file that was planned, and its plugins are loaded. -/
theorem planned_of_createFile {r : Result} {w' : World} {ws' : Workspace}
    (created : createFile folder kind name w ws = (.ok r, w', ws')) (fine : r.ok = true) :
    ∃ target path text, Planned folder kind name w ws target path text ∧
      w.disk.writeNew path (.text text) = (.ok (), w'.disk) ∧ ws'.plugins ≠ none := by
  have steps := creating folder kind name w ws
  rw [created] at steps
  cases steps with
  | stopped _ failed =>
    rw [failed r rfl] at fine
    cases fine
  | unwritten _ _ _ failed =>
    rw [(failed r rfl).1] at fine
    cases fine
  | written planned written told =>
    obtain ⟨-, registry, loaded, -⟩ := told r rfl
    exact ⟨_, _, _, planned, written, by simp [loaded]⟩

end Scaffold.Project
