import Scaffold.Project.Creator

/-!
# Sessions

A session is a run of operations in one place: on the project that is open, on plugins and symbols
that belong to no project, and on the files.  Operations that fail change what they had changed
before, and the session goes on.
-/

namespace Scaffold.Project

open Files

/-- A session. -/
structure Session where
  world : World
  environment : List (String × String)
  workspace : Option Workspace
  /-- The plugins that belong to no project. -/
  registry : Plugin.Registry
  /-- The symbols that belong to no project, and whether the plugins are asked for them. -/
  index : Option (Symbols.Index × Bool)

/-- Why an operation of a session failed. -/
inductive SessionFault where
  | project (fault : Fault)
  | config (fault : Config.Fault)
  /-- No project is open. -/
  | nothingOpen
  /-- There is no index. -/
  | noIndex

namespace Session

variable {σ α : Type}

/-- The session in which nothing has happened yet. -/
def start (disk : Disk) (environment : List (String × String)) : Session :=
  ⟨⟨disk, .off, [], []⟩, environment, none, .empty, none⟩

/-- Runs an action on a state. -/
def act (session : Session) (x : Action σ α) (s : σ) : Except SessionFault α × σ × Session :=
  let (result, world, s) := x session.world s
  (result.mapError .project, s, { session with world := world })

/-- Runs an action on the open project. -/
def inProject (session : Session) (x : Action Workspace α) : Except SessionFault α × Session :=
  match session.workspace with
  | none => (.error .nothingOpen, session)
  | some ws =>
    let (result, ws, session) := session.act x ws
    (result, { session with workspace := some ws })

/-- Runs an action on the plugins that belong to no project, or on those of the project. -/
def inPlugins (session : Session) (own : Bool) (x : Action Plugin.Registry α) :
    Except SessionFault α × Session :=
  if own then
    let (result, registry, session) := session.act x session.registry
    (result, { session with registry := registry })
  else session.inProject (Workspace.onPlugins x)

/-- The settings for a call. -/
def settingsFor (session : Session) (call : Config.Call) :
    Except SessionFault Config.Settings :=
  (Config.load session.world.disk session.environment call).mapError .config

/-- Opens the project that a call leads to. -/
def openProject (session : Session) (call : Config.Call) (sync : Bool) :
    Except SessionFault Config.Settings × Session :=
  match session.settingsFor call with
  | .error fault => (.error fault, session)
  | .ok settings =>
    (.ok settings, { session with workspace := some (.ofSettings settings sync) })

/-- Drops the symbols of the open project. -/
def closeProject (session : Session) : Session :=
  { session with workspace := session.workspace.map Workspace.close }

/-- Whether types are known to the open project, one after the other; none if symbols are not
    looked up. -/
def lookup (names : List String) : Action Workspace (Option (List Bool)) := do
  match ← Workspace.asker with
  | none => return none
  | some _ =>
    let found ← names.mapM fun name => do Action.ofFiles (← Workspace.lookup name)
    return some found

/-- Takes an index that belongs to no project. -/
def takeIndex (session : Session) (index : Symbols.Index) (workers : Int) (withPlugins : Bool) :
    Except SessionFault Unit × Session :=
  if index.onWorker && workers ≤ 0 then (.error (.project .noWorkers), session)
  else (.ok (), { session with index := some (index, withPlugins) })

/-- Whether types are known to an index, one after the other. -/
def known (plugins : Option Plugin.Registry) : List String → Action Symbols.Index (List Bool)
  | [] => pure []
  | name :: names => do
    let reply := (← Action.get).lookup (← Action.disk) plugins name
    Action.keep reply.calls
    Action.log reply.records
    Action.set reply.index
    let found ← Action.ofFiles reply.answer
    return found :: (← known plugins names)

/-- Whether types are known to the index that belongs to no project. -/
def askIndex (session : Session) (names : List String) :
    Except SessionFault (List Bool) × Session :=
  match session.index with
  | none => (.error .noIndex, session)
  | some (index, withPlugins) =>
    let plugins := if withPlugins then some session.registry else none
    let (result, index, session) := session.act (known plugins names) index
    (result, { session with index := some (index, withPlugins) })

/-- Shuts down the index that belongs to no project. -/
def shutdownIndex (session : Session) : Session :=
  { session with index := session.index.map fun (index, p) => (index.shutdown, p) }

/-- Checks whether a name is taken where every question gets the same answer; `names` are the
    questions that were asked. -/
def checkTaken (answer : Option Answer) (folder : Path) (name : String) :
    Action (List String) (Option Scala.Rejection) :=
  let ask := answer.map fun answer name => do
    Action.set ((← Action.get) ++ [name])
    return answer
  takenObjection? ask folder name

/-- The calls of plugins so far, which are then forgotten. -/
def takeCalls (session : Session) : List Plugin.Call × Session :=
  (session.world.calls, { session with world := { session.world with calls := [] } })

/-- The session with its files changed. -/
def withDisk (session : Session) (f : Disk → Disk) : Session :=
  { session with world := { session.world with disk := f session.world.disk } }

/-- Switches tracing on or off. -/
def setTracing (session : Session) (on : Bool) : Session :=
  { session with world := { session.world with
      tracer := { session.world.tracer with enabled := on } } }

end Session

end Scaffold.Project
