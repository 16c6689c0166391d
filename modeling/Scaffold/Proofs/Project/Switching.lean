import Scaffold.Proofs.Project.Ending
import Scaffold.Proofs.Project.Judgement
import Scaffold.Proofs.Project.Recreation
import Scaffold.Proofs.Project.Stock

/-!
# Switching the lookup of symbols off

A run that looks symbols up and the same run that does not differ in one objection only, that the
type exists already.  Everything else that the symbols may do, be it to fail, is taken for no
answer; but the plugins have to be found before the symbols can be asked, and they are found in the
files as they are then.
-/

namespace Scaffold.Project

open Files Plugin

namespace Workspace

/-- The workspace with the flag and the option as given that switch the lookup of symbols. -/
def switched (ws : Workspace) (noLookup enabled : Bool) : Workspace :=
  { ws with settings := { ws.settings with
      noLookup := noLookup, lookup := { ws.settings.lookup with enabled := enabled } } }

/-- The symbols, once they are ready, have the type. -/
def Knows (ws : Workspace) (disk : Disk) (name : String) : Prop :=
  ∃ ready index, ws.readied? disk = .ok ready ∧ ready.index = some index ∧
    (index.lookup disk ready.plugins name).answer = .ok true

/-- There are no symbols yet, and the plugins cannot be looked for that they need. -/
structure Unready (ws : Workspace) (disk : Disk) : Prop extends ws.PluginsTooLong disk where
  missing : ws.index = none

end Workspace

open Workspace

variable {folder : Option Path} {kind : Option String} {op name : String} {w : World}
  {ws : Workspace} {noLookup enabled : Bool} {target : Path}

/-- Where symbols are not looked up, nothing of the workspace changes until a file is written. -/
theorem objection?_silent (silent : ws.looksUp = false) (target : Path) (name : String)
    (w : World) : (objection? target name w ws).2.2 = ws := by
  rw [objection?, Action.bind_apply, Action.get]
  dsimp only
  split
  · rfl
  rw [Action.bind_apply, Action.spanning]
  dsimp only [Action.pure_apply]
  cases Scala.nameObjection? name.toList with
  | some why => rfl
  | none =>
    dsimp only
    rw [Action.bind_apply, asker, Action.bind_apply, Action.get]
    dsimp only
    rw [silent, if_neg Bool.false_ne_true]
    dsimp only [Action.pure_apply, Action.spanning]
    rw [takenObjection?, Action.bind_apply, Action.disk]
    dsimp only
    rw [Action.bind_apply, Action.ofFiles]
    rcases sourceExists w.disk target name with fault | _ | _ <;> rfl

theorem accept_silent (silent : ws.looksUp = false) (op : String) (folder : Option Path)
    (name : String) (w : World) : (accept op folder name w ws).2.2 = ws := by
  rw [accept_apply]
  split
  · rfl
  split
  · rfl
  · rfl
  · rename_i target _
    have same := objection?_silent silent target name w
    split <;> rename_i judged <;> rw [judged] at same <;> exact same

theorem knows_eq_true {disk : Disk} (known : ws.knows disk name = true) :
    ∃ index, ws.index = some index ∧ (index.lookup disk ws.plugins name).answer = .ok true := by
  rw [knows] at known
  cases indexed : ws.index with
  | none =>
    rw [indexed] at known
    cases known
  | some index =>
    rw [indexed, Bool.and_eq_true] at known
    refine ⟨index, rfl, ?_⟩
    obtain ⟨-, found⟩ := known
    rcases answer : (index.lookup disk ws.plugins name).answer with fault | _ | _
    · rw [answer] at found
      cases found
    · rw [answer] at found
      cases found
    · rfl

theorem readied?_silent (silent : ws.looksUp = false) (disk : Disk) :
    ws.readied? disk = .ok ws := by
  rw [readied?, silent, Bool.false_and, if_neg Bool.false_ne_true]

/-- Looking symbols up changes the verdict on a name in two ways only: the type is known, or the
    plugins cannot be looked for. -/
theorem verdict_switched (sync : ws.sync = true) (off : (!noLookup && enabled) = false)
    (disk : Disk) (target : Path) (name : String) :
    verdict (ws.switched false true) disk target name =
        verdict (ws.switched noLookup enabled) disk target name ∨
      (ws.switched false true).Knows disk name ∧
        verdict (ws.switched false true) disk target name = .ok (some .typeExists) ∨
      ws.Unready disk ∧
        verdict (ws.switched false true) disk target name = .error ws.pluginsFault := by
  have silent : (ws.switched noLookup enabled).looksUp = false := off
  have scala : (ws.switched noLookup enabled).settings.isScala =
      (ws.switched false true).settings.isScala := rfl
  have unknown : (ws.switched noLookup enabled).knows disk name = false := by
    rw [knows]
    split
    · rfl
    · rw [silent, Bool.false_and, Bool.false_and]
  rw [verdict, verdict, scala, readied?_silent silent]
  by_cases other : (ws.switched false true).settings.isScala = false
  · rw [if_pos other, if_pos other]
    exact .inl rfl
  rw [if_neg other, if_neg other]
  cases Scala.nameObjection? name.toList with
  | some why => exact .inl rfl
  | none =>
    dsimp only
    cases prepared : (ws.switched false true).readied? disk with
    | error fault =>
      obtain ⟨-, missing, ⟨tooLong, rfl⟩ | ⟨unstaffed, -⟩⟩ := readied?_eq_error prepared
      · exact .inr (.inr ⟨⟨⟨tooLong.unloaded, tooLong.long⟩, missing⟩, rfl⟩)
      · exact absurd (.inl sync) unstaffed
    | ok ready =>
      dsimp only [collision?]
      rw [unknown]
      rcases sourceExists disk target name with fault | _ | _
      · exact .inl rfl
      · cases known : ready.knows disk name with
        | false => exact .inl rfl
        | true =>
          obtain ⟨index, indexed, answer⟩ := knows_eq_true known
          exact .inr (.inl ⟨⟨ready, index, prepared, indexed, answer⟩, rfl⟩)
      · exact .inl rfl

theorem accepted_switched (sync : ws.sync = true) (off : (!noLookup && enabled) = false)
    (op : String) (folder : Option Path) (name : String) (w : World) :
    accepted op folder name w (ws.switched false true) =
        accepted op folder name w (ws.switched noLookup enabled) ∨
      (ws.switched false true).Knows w.disk name ∧
        accepted op folder name w (ws.switched false true) =
          .ok (.error (rejected op name .typeExists)) ∨
      ws.Unready w.disk ∧
        accepted op folder name w (ws.switched false true) = .error ws.pluginsFault := by
  have scala : (ws.switched noLookup enabled).settings.isScala =
      (ws.switched false true).settings.isScala := rfl
  have chosen : (targetFolder folder w (ws.switched noLookup enabled)).1 =
      (targetFolder folder w (ws.switched false true)).1 := by
    rw [targetFolder_apply, targetFolder_apply]
    rfl
  rw [accepted, accepted, scala, chosen]
  split
  · exact .inl rfl
  rcases (targetFolder folder w (ws.switched false true)).1 with fault | _ | target
  · exact .inl rfl
  · exact .inl rfl
  · dsimp only
    rcases verdict_switched sync off w.disk target name with same | ⟨known, judged⟩ |
      ⟨unready, judged⟩
    · rw [same]
      exact .inl rfl
    · rw [judged]
      exact .inr (.inl ⟨known, rfl⟩)
    · rw [judged]
      exact .inr (.inr ⟨unready, rfl⟩)

/-- Two runs end alike, apart from what they report; or else the one is the failure that the type
    exists already, which the symbols say, or it ends in the fault that the plugins cannot be looked
    for, and then it has changed no file. -/
inductive OnlyCollides (op name : String) (w : World) (ws : Workspace)
    (on off : Except Fault Result × Disk) : Prop
  | alike : on = off → OnlyCollides op name w ws on off
  | collides : (ws.switched false true).Knows w.disk name →
      on = (.ok (rejected op name .typeExists), w.disk) → OnlyCollides op name w ws on off
  | unready : ws.Unready w.disk → on = (.error ws.pluginsFault, w.disk) →
      OnlyCollides op name w ws on off

/-- Both runs have written the file, but other plugins are told of it: the ones that were found
    before it was written, and the ones that are found afterwards. -/
structure ToldApart (kind name : String) (w : World) (ws : Workspace)
    (on off : Except Fault Result × Disk) : Prop where
  unloaded : ws.plugins = none
  files : on.2 = off.2
  told : ∃ path registry, ws.pluginsFound? w.disk = .ok registry ∧
    ws.pluginsFound? off.2 ≠ .ok registry ∧
    on.1 = .ok (told "create_file" kind name ws.settings.root path registry) ∧
    off.1 = (ws.pluginsFound? off.2).map (told "create_file" kind name ws.settings.root path)

/-- What is left to do for a name that has been accepted ends alike with other plugins, unless the
    file is written and the plugins are told of it. -/
theorem ending_cases (op kind name : String) (root path : Path) (disk : Disk)
    (store : Template.Store) (found? found?' : Disk → Except Fault Registry) :
    ending op kind name root path disk store found? =
        ending op kind name root path disk store found?' ∨
      ∃ d', ending op kind name root path disk store found? =
          ((found? d').map (told op kind name root path), d') ∧
        ending op kind name root path disk store found?' =
          ((found?' d').map (told op kind name root path), d') := by
  rw [ending, ending]
  rcases (store.render disk kind (Scala.QualifiedName.bindings name)).1 with fault | text
  · cases fault <;> exact .inl rfl
  · dsimp only
    rcases disk.writeNew path (.text text) with ⟨fault | done, d'⟩
    · rcases fault with ⟨why, q⟩ | p | bytes
      · cases why <;> exact .inl rfl
      · exact .inl rfl
      · exact .inl rfl
    · exact .inr ⟨d', rfl, rfl⟩

/-- Plugins that have been looked for before the file is written make a difference only where others
    are found once it is written. -/
theorem ending_stocked {ws' : Workspace} (stocked : Stocked w.disk ws ws') (kind name : String)
    (path : Path) :
    let on := ending "create_file" kind name ws.settings.root path w.disk ws.store
      ws'.pluginsFound?
    let off := ending "create_file" kind name ws.settings.root path w.disk ws.store
      ws.pluginsFound?
    on = off ∨ ToldApart kind name w ws on off := by
  intro on off
  rcases stocked.plugins with kept | ⟨registry, found, loaded⟩
  · left
    unfold on
    rw [pluginsFound?_of_same stocked.settings kept]
  have before : ∀ disk, ws'.pluginsFound? disk = .ok registry := by
    intro disk
    rw [pluginsFound?, loaded]
  rcases ending_cases "create_file" kind name ws.settings.root path w.disk ws.store
    ws'.pluginsFound? ws.pluginsFound? with same | ⟨d', ended, endedOff⟩
  · exact .inl same
  rw [before] at ended
  by_cases after : ws.pluginsFound? d' = .ok registry
  · rw [after] at endedOff
    exact .inl (ended.trans endedOff.symm)
  · right
    have written : off.2 = d' := congrArg Prod.snd endedOff
    refine ⟨?_, (congrArg Prod.snd ended).trans written.symm, path, registry, found, ?_, ?_, ?_⟩
    · cases unloaded : ws.plugins with
      | none => rfl
      | some other =>
        rw [pluginsFound?, unloaded] at found after
        exact absurd found after
    · rw [written]
      exact after
    · exact congrArg Prod.fst ended
    · rw [written]
      exact congrArg Prod.fst endedOff

theorem createFileCore_switched (sync : ws.sync = true) (off : (!noLookup && enabled) = false)
    (folder : Option Path) (kind : Option String) (name : String) (w : World) :
    let on := outcome (createFileCore folder kind name w (ws.switched false true))
    let off := outcome (createFileCore folder kind name w (ws.switched noLookup enabled))
    OnlyCollides "create_file" name w ws on off ∨ ToldApart (ws.kindFor kind) name w ws on off := by
  dsimp only
  rw [outcome_createFileCore, outcome_createFileCore]
  rcases accepted_switched sync off "create_file" folder name w with same | ⟨known, judged⟩ |
    ⟨unready, judged⟩
  · have silent : (ws.switched noLookup enabled).looksUp = false := off
    rw [same, accept_silent silent]
    rcases accepted "create_file" folder name w (ws.switched noLookup enabled) with
      fault | failure | ⟨target, path⟩
    · exact .inl (.alike rfl)
    · exact .inl (.alike rfl)
    · obtain ⟨-, stocked⟩ := (Action.stocks_sequential.accept "create_file" folder name) w
        (ws.switched false true)
      rcases ending_stocked stocked (ws.kindFor kind) name path with same | apart
      · exact .inl (.alike same)
      · exact .inr ⟨apart.unloaded, apart.files, apart.told⟩
  · rw [judged]
    exact .inl (.collides known rfl)
  · rw [judged]
    exact .inl (.unready unready rfl)

theorem validateNameCore_switched (sync : ws.sync = true) (off : (!noLookup && enabled) = false)
    (folder : Option Path) (name : String) (w : World) :
    OnlyCollides "validate_name" name w ws
      (outcome (validateNameCore folder name w (ws.switched false true)))
      (outcome (validateNameCore folder name w (ws.switched noLookup enabled))) := by
  rw [outcome_validateNameCore, outcome_validateNameCore]
  rcases accepted_switched sync off "validate_name" folder name w with same | ⟨known, judged⟩ |
    ⟨unready, judged⟩
  · rw [same]
    exact .alike rfl
  · rw [judged]
    exact .collides known rfl
  · rw [judged]
    exact .unready unready rfl

/-- Looking symbols up on the calling thread can only add the objection that a type exists already:
    from one state, with the lookup switched on and with it switched off, validating a name or
    creating its file ends alike and leaves the same files, unless the symbols have the type, which
    a lookup that fails does not say, or the plugins that the symbols need cannot be looked for.
    A creation that has written its file may also tell it to other plugins, if other ones are found
    once it is written. -/
theorem lookup_onlyCollides (sync : ws.sync = true) (off : (!noLookup && enabled) = false)
    (folder : Option Path) (name : String) (w : World) :
    OnlyCollides "validate_name" name w ws
        (outcome (validateName folder name w (ws.switched false true)))
        (outcome (validateName folder name w (ws.switched noLookup enabled))) ∧
      ∀ kind,
        let on := outcome (createFile folder kind name w (ws.switched false true))
        let off := outcome (createFile folder kind name w (ws.switched noLookup enabled))
        OnlyCollides "create_file" name w ws on off ∨
          ToldApart (ws.kindFor kind) name w ws on off := by
  refine ⟨?_, fun kind => ?_⟩
  · rw [validateName, outcome_traced, outcome_traced]
    rcases validateNameCore_switched sync off folder name { w with tracer := w.tracer.begin } with
      same | ⟨known, ended⟩ | ⟨unready, ended⟩
    · exact .alike same
    · exact .collides known ended
    · exact .unready unready ended
  · rw [createFile, outcome_traced, outcome_traced]
    rcases createFileCore_switched sync off folder kind name
      { w with tracer := w.tracer.begin } with (same | ⟨known, ended⟩ | ⟨unready, ended⟩) | apart
    · exact .inl (.alike same)
    · exact .inl (.collides known ended)
    · exact .inl (.unready unready ended)
    · exact .inr ⟨apart.unloaded, apart.files, apart.told⟩

/-- A project with two source folders, in one of which a type is declared in a file of another
    name. -/
def declaringWorld : World where
  disk := ⟨⟨twoFolderWorld.disk.tree.nodes ++
    [(["p", "src", "test", "scala", "B.scala"], .file (.text "class A"))]⟩, ["p"]⟩
  tracer := .off
  log := []
  calls := []

/-- A type that is declared in a source is an objection to its name where symbols are looked up, and
    none where they are not. -/
theorem lookup_onlyCollides_declared :
    twoFolderWorkspace.sync = true ∧ (!true && true) = false ∧
      outcome (validateName (some (sourceFolder "main")) "A" declaringWorld
          (twoFolderWorkspace.switched false true)) =
        (.ok (rejected "validate_name" "A" .typeExists), declaringWorld.disk) ∧
      (validateName (some (sourceFolder "main")) "A" declaringWorld
        (twoFolderWorkspace.switched true true)).1.toOption.map (·.ok) = some true := by
  have rejects : (validateName (some (sourceFolder "main")) "A" declaringWorld
      (twoFolderWorkspace.switched false true)).1.toOption.map (·.ok) = some false := by
    decide +kernel
  have accepts : (validateName (some (sourceFolder "main")) "A" declaringWorld
      (twoFolderWorkspace.switched true true)).1.toOption.map (·.ok) = some true := by
    decide +kernel
  have shown : ∀ run : Except Fault Result × World × Workspace,
      (outcome run).1.toOption.map (·.ok) = run.1.toOption.map (·.ok) := by
    rintro ⟨fault | r, after⟩ <;> rfl
  have sync : twoFolderWorkspace.sync = true := rfl
  have off : (!true && true) = false := rfl
  refine ⟨sync, off, ?_, accepts⟩
  rw [← shown] at rejects accepts
  rcases (lookup_onlyCollides sync off (some (sourceFolder "main")) "A" declaringWorld).1 with
    same | ⟨-, collides⟩ | ⟨-, failed⟩
  · rw [same, accepts] at rejects
    cases rejects
  · exact collides
  · rw [failed] at rejects
    cases rejects

/-- A project in which the way to the plugins leads to a name that is too long. -/
def overlongWorld : World where
  disk := ⟨⟨[(["p"], .directory), (["p", "src"], .directory),
    (["p", ".scalanew"], .link (String.ofList longSegment))]⟩, ["p"]⟩
  tracer := .off
  log := []
  calls := []

theorem ofString_longSegment :
    Path.ofString (String.ofList longSegment) = ⟨.relative, [String.ofList longSegment]⟩ := by
  have undivided : '/' ∉ (String.ofList longSegment).toList := by
    rw [String.toList_ofList]
    decide +kernel
  exact Path.ofString_of_undivided undivided (by decide +kernel) (by decide +kernel)

theorem node_of_walk {d : Disk} {p : Path} {why : Obstacle} (fine : Disk.textObstacle? p = none)
    (walked : d.tree.walk true maxLinks (d.start p) p.parts = .error why) :
    d.node p = .error why := by
  rw [Disk.node, Disk.locate, fine]
  dsimp only
  rw [walked]

theorem pluginDir_overlong :
    overlongWorld.disk.node (pluginDir (twoFolderWorkspace.switched false true).settings) =
      .error .nameTooLong := by
  have fine : Disk.textObstacle? (pluginDir (twoFolderWorkspace.switched false true).settings) =
      none := by decide +kernel
  have root : overlongWorld.disk.tree.isDirectory [] = true := by decide +kernel
  have project : overlongWorld.disk.tree.isDirectory ["p"] = true := by decide +kernel
  have walked : overlongWorld.disk.tree.walk true maxLinks [] ["p", ".scalanew", "plugins"] =
      .error .nameTooLong := by
    have named : String.ofList longSegment ≠ ".." := by decide +kernel
    have long : maxNameBytes < Text.Utf8.size (String.ofList longSegment) := by decide +kernel
    have linked : overlongWorld.disk.tree.get? (["p"] ++ [".scalanew"]) =
        some (.link (String.ofList longSegment)) := rfl
    have target : targetStart ["p"] (String.ofList longSegment) = ["p"] := by
      rw [targetStart, ofString_longSegment]
      rfl
    rw [Tree.walk_down true _ root (by decide) (by decide) rfl rfl, List.nil_append, maxLinks,
      Tree.walk_through _ project (by decide) (by decide) linked, ofString_longSegment, target]
    exact Tree.walk_long true _ project named long
  exact node_of_walk fine walked

theorem refusal?_of_unready {fault : Fault} (scala : ws.settings.isScala = true)
    (chosen : (targetFolder folder w ws).1 = .ok (some target))
    (unobjected : Scala.nameObjection? name.toList = none)
    (failed : ws.readied? w.disk = .error fault) :
    refusal? folder name w ws = some (.error fault) := by
  rw [refusal?, if_neg (by simp [scala]), chosen]
  dsimp only
  rw [verdict_of_unready scala unobjected failed]

/-- Where the plugins cannot be looked for, a name that is fine without the lookup ends in a fault
    with it. -/
theorem validateName_unready :
    twoFolderWorkspace.sync = true ∧
      (validateName (some ⟨.single, ["p", "src"]⟩) "A" overlongWorld
        (twoFolderWorkspace.switched false true)).1 = .error twoFolderWorkspace.pluginsFault ∧
      ∃ r, (validateName (some ⟨.single, ["p", "src"]⟩) "A" overlongWorld
        (twoFolderWorkspace.switched true true)).1 = .ok r ∧ r.ok = true := by
  have accepts : (validateName (some ⟨.single, ["p", "src"]⟩) "A" overlongWorld
      (twoFolderWorkspace.switched true true)).1.toOption.map (·.ok) = some true := by
    decide +kernel
  have scala : (twoFolderWorkspace.switched false true).settings.isScala = true := by
    decide +kernel
  have unready : (twoFolderWorkspace.switched false true).readied? overlongWorld.disk =
      .error twoFolderWorkspace.pluginsFault := by
    have missing : ((twoFolderWorkspace.switched false true).looksUp &&
        (twoFolderWorkspace.switched false true).index.isNone) = true := by decide +kernel
    rw [readied?, if_pos missing, pluginsFound?_eq_error.mpr ⟨⟨rfl, pluginDir_overlong⟩, rfl⟩]
    rfl
  have chosen : (targetFolder (some ⟨.single, ["p", "src"]⟩) overlongWorld
      (twoFolderWorkspace.switched false true)).1 = .ok (some ⟨.single, ["p", "src"]⟩) := rfl
  have unobjected : Scala.nameObjection? "A".toList = none := by decide +kernel
  have refused := refusal?_of_unready scala chosen unobjected unready
  refine ⟨rfl, eq_error_of_setback? (refuses_of_refusal? refused).1.setback, ?_⟩
  rcases ended : (validateName (some ⟨.single, ["p", "src"]⟩) "A" overlongWorld
    (twoFolderWorkspace.switched true true)).1 with fault | r
  · rw [ended] at accepts
    cases accepts
  · rw [ended] at accepts
    exact ⟨r, rfl, Option.some.inj accepts⟩

end Scaffold.Project
