import Scaffold.Plugin.Discover
import Scaffold.Project.Action

/-!
# Plugins in a project

The actions on a registry of plugins.
-/

namespace Scaffold.Project

open Plugin

namespace Plugins

/-- Registers an instance of a plugin class under a name. -/
def register (name label : String) (d : Definition) : Action Registry Unit := do
  match (← Action.get).register name label d with
  | .error why => Action.fail (.refused why)
  | .ok registry =>
    Action.set registry
    Action.log [Registry.registered name]

/-- Registers the plugins of a directory. -/
def discover (dir : Files.Path) : Action Registry Unit := do
  let (records, registry) ←
    Action.ofFiles (Plugin.discover (← Action.disk) dir (← Action.get))
  Action.log records
  Action.set registry

/-- What the plugins say on whether a type exists. -/
def typeExists (name : String) : Action Registry (Option Json.Value) := do
  let (calls, records, answer) := (← Action.get).typeExists name
  Action.keep calls
  Action.log records
  return answer

/-- Tells the plugins that a file was created; the warnings are about plugins that failed. -/
def notify (path name kind : String) : Action Registry (List String) := do
  let (calls, records, warnings) := (← Action.get).notify path name kind
  Action.keep calls
  Action.log records
  return warnings

end Plugins

end Scaffold.Project
