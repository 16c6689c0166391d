import Scaffold.Json.Value

/-!
# Plugin modules

A plugin module is a file that defines classes; an instance of a class that marks hooks takes part
in two events, the question whether a type exists and the notice that a file was created.  What a
hook does is declared: which answers it gives, and whether it fails.
-/

namespace Scaffold.Plugin

/-- How a plugin answers whether a type exists: by name, else by the fallback; a null is no
    answer. -/
structure TypeHook where
  fails : Bool
  answers : Json.Entries
  fallback : Json.Value
  deriving Repr

/-- The answer for a type name. -/
def TypeHook.answer (hook : TypeHook) (name : String) : Json.Value :=
  (hook.answers.get? name).getD hook.fallback

/-- The hooks of a plugin; `onCreated` says whether the notice makes it fail. -/
structure Hooks where
  typeExists : Option TypeHook
  onCreated : Option Bool
  deriving Repr

/-- A class of a plugin module. -/
structure Definition where
  name : String
  hooks : Hooks
  /-- Whether making an instance fails. -/
  failsToStart : Bool
  /-- Whether the hook methods carry the mark that makes them hooks. -/
  marked : Bool
  /-- Whether a hook takes arguments that its event does not have. -/
  wrongArguments : Bool
  deriving Repr

/-- Whether a class takes part in any event. -/
def Definition.isPlugin (d : Definition) : Bool :=
  (d.marked && (d.hooks.typeExists.isSome || d.hooks.onCreated.isSome)) || d.wrongArguments

/-- A plugin module: whether it loads, and the classes that it defines itself. -/
structure Module where
  loads : Bool
  classes : List Definition
  deriving Repr

/-- A plugin module that loads and defines nothing. -/
def Module.empty : Module := ⟨true, []⟩

/-- A plugin module that does not load. -/
def Module.broken : Module := ⟨false, []⟩

end Scaffold.Plugin
