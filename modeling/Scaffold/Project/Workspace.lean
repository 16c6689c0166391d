import Scaffold.Project.Existence
import Scaffold.Project.Plugins
import Scaffold.Symbols.Index

/-!
# Workspaces

A workspace is an open project: its settings, and the plugins, templates and symbols that are got
ready when they are first needed.
-/

namespace Scaffold.Project

open Files

/-- An open project. -/
structure Workspace where
  settings : Config.Settings
  /-- Whether symbols are looked up without a thread of their own. -/
  sync : Bool
  plugins : Option Plugin.Registry
  templates : Option Template.Store
  index : Option Symbols.Index

namespace Workspace

/-- A project of which nothing is ready yet. -/
def ofSettings (settings : Config.Settings) (sync : Bool) : Workspace :=
  ⟨settings, sync, none, none, none⟩

/-- The part of the program that writes the records of this module. -/
def logSource : String := "scalanew.infrastructure.workspace"

/-- The directory of the project's own plugins. -/
def pluginDir (settings : Config.Settings) : Path :=
  ⟨settings.root.root, settings.root.parts ++ [".scalanew", "plugins"]⟩

/-- The record of the plugins that were found. -/
def loadedRecords (names : List String) : List Log.Record :=
  if names.isEmpty then []
  else [.debug logSource ("Loaded plugins: " ++ ", ".intercalate names)]

/-- The plugins of the project. -/
def getPlugins : Action Workspace Plugin.Registry := do
  let ws ← Action.get
  match ws.plugins with
  | some registry => return registry
  | none =>
    let (records, registry) ←
      Action.ofFiles (Plugin.discover (← Action.disk) (pluginDir ws.settings) .empty)
    Action.log (records ++ loadedRecords registry.names)
    Action.set { ws with plugins := some registry }
    return registry

/-- An action on the plugins of the project. -/
def onPlugins {α : Type} (x : Action Plugin.Registry α) : Action Workspace α := fun w ws =>
  match getPlugins w ws with
  | (.error fault, w, ws) => (.error fault, w, ws)
  | (.ok registry, w, ws) =>
    let (result, w, registry) := x w registry
    (result, w, { ws with plugins := some registry })

/-- The templates of the project. -/
def getTemplates : Action Workspace Template.Store := do
  let ws ← Action.get
  match ws.templates with
  | some store => return store
  | none =>
    let store := Template.Store.ofProject ws.settings.root
    Action.set { ws with templates := some store }
    return store

/-- The text of a kind of source file, or why there is none. -/
def render (kind : String) (bindings : List (String × String)) :
    Action Workspace (Except Template.Fault String) := do
  let store ← getTemplates
  let disk ← Action.disk
  let (result, store) := store.render disk kind bindings
  let ws ← Action.get
  Action.set { ws with templates := some store }
  return result

/-- The kinds of source files that there are templates for. -/
def kinds : Action Workspace (List String) := do
  let store ← getTemplates
  return store.kinds (← Action.disk)

/-- Whether symbols are looked up at all. -/
def looksUp (ws : Workspace) : Bool := !ws.settings.noLookup && ws.settings.lookup.enabled

/-- The index of a project that has read nothing yet. -/
def freshIndex (ws : Workspace) : Symbols.Index :=
  let paths (names : List String) := names.map fun name => ws.settings.root.join (.ofString name)
  .fresh ws.settings.sourceRoots (paths ws.settings.project.classDirs)
    (paths ws.settings.project.classpath) ws.settings.lookup.indexSources (!ws.sync)

/-- The symbols of the project. -/
def getIndex : Action Workspace Symbols.Index := do
  let ws ← Action.get
  match ws.index with
  | some index => return index
  | none =>
    let _ ← getPlugins
    if !ws.sync && ws.settings.lookup.workers ≤ 0 then Action.fail .noWorkers
    else
      let ws ← Action.get
      let index := ws.freshIndex
      Action.set { ws with index := some index }
      return index

/-- Whether a type is known to the project, or the fault that the question ran into. -/
def lookup (name : String) : Action Workspace (Except Files.Fault Bool) := do
  let index ← getIndex
  let ws ← Action.get
  let reply := index.lookup (← Action.disk) ws.plugins name
  Action.keep reply.calls
  Action.log reply.records
  Action.set { ws with index := some reply.index }
  return reply.answer

/-- Asks whether a type is known; without any time to wait, a thread cannot have answered. -/
def ask (name : String) : Action Workspace Answer := do
  let answer ← lookup name
  let ws ← Action.get
  let timeout := ws.settings.lookup.timeout
  if !ws.sync && (timeout.isNegative || timeout.isZero) then return .late
  else
    match answer with
    | .ok known => return .found known
    | .error _ => return .failed

/-- The way to ask whether a type is known, if symbols are looked up. -/
def asker : Action Workspace (Option (String → Action Workspace Answer)) := do
  let ws ← Action.get
  if ws.looksUp then
    let _ ← getIndex
    return some ask
  else return none

/-- The workspace with its symbols dropped. -/
def close (ws : Workspace) : Workspace := { ws with index := none }

end Workspace

end Scaffold.Project
