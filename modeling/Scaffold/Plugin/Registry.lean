import Scaffold.Log.Record
import Scaffold.Plugin.Module

/-!
# Plugin registries

A registry holds the plugins that take part in events, each under a name of its own.  An event goes
to the plugin that was registered last first.
-/

namespace Scaffold.Plugin

/-- The part of the program that writes the records of this folder. -/
def logSource : String := "scalanew.plugins.manager"

/-- A registered plugin: the name that it is registered under, the label that its calls are
    recorded with, and its hooks. -/
structure Member where
  name : String
  label : String
  hooks : Hooks
  deriving Repr

/-- A registry: its plugins in the order of their registration. -/
structure Registry where
  members : List Member
  deriving Repr, Inhabited

/-- A call of a hook. -/
inductive Call where
  | typeExists (plugin name : String)
  | created (plugin path name kind : String)
  deriving DecidableEq, Repr

/-- Why a plugin cannot be registered. -/
inductive Refusal where
  /-- Another plugin has the name. -/
  | nameTaken
  /-- A hook does not fit its event. -/
  | wrongArguments
  deriving DecidableEq, Repr

namespace Registry

/-- The registry without plugins. -/
def empty : Registry := ⟨[]⟩

/-- The names of the plugins. -/
def names (r : Registry) : List String := r.members.map (·.name)

/-- The registry with one more plugin, an instance of `d`. -/
def register (r : Registry) (name label : String) (d : Definition) : Except Refusal Registry :=
  if r.names.contains name then .error .nameTaken
  else if d.wrongArguments then .error .wrongArguments
  else .ok ⟨r.members ++ [⟨name, label, if d.marked then d.hooks else ⟨none, none⟩⟩]⟩

/-- The record of a registration. -/
def registered (name : String) : Log.Record := .debug logSource ("Registered plugin: " ++ name)

/-- Asks members in turn whether a type exists: the calls made, and the first answer that is one,
    or none where a plugin fails. -/
def ask (name : String) : List Member → List Call × Option (Option Json.Value)
  | [] => ([], some none)
  | m :: ms =>
    match m.hooks.typeExists with
    | none => ask name ms
    | some hook =>
      if hook.fails then ([.typeExists m.label name], none)
      else
        match hook.answer name with
        | .null =>
          let (calls, answer) := ask name ms
          (.typeExists m.label name :: calls, answer)
        | answer => ([.typeExists m.label name], some (some answer))

/-- What the plugins say on whether a type exists: the calls made, the records written, and the
    answer if there is one.  A plugin that fails counts as no answer. -/
def typeExists (r : Registry) (name : String) :
    List Call × List Log.Record × Option Json.Value :=
  match ask name r.members.reverse with
  | (calls, some answer) => (calls, [], answer)
  | (calls, none) =>
    (calls, [.warning logSource ("Plugin type lookup failed for " ++ name)], none)

/-- Tells members in turn that a file was created, up to the first that fails: the calls made, and
    whether all went well. -/
def tell (path name kind : String) : List Member → List Call × Bool
  | [] => ([], true)
  | m :: ms =>
    match m.hooks.onCreated with
    | none => tell path name kind ms
    | some true => ([.created m.label path name kind], false)
    | some false =>
      let (calls, fine) := tell path name kind ms
      (.created m.label path name kind :: calls, fine)

/-- Tells the plugins that a file was created: the calls made, the records written, and a warning
    if a plugin failed. -/
def notify (r : Registry) (path name kind : String) :
    List Call × List Log.Record × List String :=
  match tell path name kind r.members.reverse with
  | (calls, true) => (calls, [], [])
  | (calls, false) =>
    (calls, [.debug logSource ("post_create dispatch failed for " ++ path)],
      ["Plugin post-create hook failed for " ++ name])

end Registry

end Scaffold.Plugin
