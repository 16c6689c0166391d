import Scaffold.Project.Action
import Scaffold.Project.SourcePath
import Scaffold.Scala.Verdict

/-!
# Existence

A name is taken if a file is at its path, or if a type of that name is known.  Whether one is known
may be asked in any way; a question that fails or is not answered in time counts as not known.
-/

namespace Scaffold.Project

open Files

/-- What comes of asking whether a type is known. -/
inductive Answer where
  | found (known : Bool)
  | failed
  | late
  deriving DecidableEq, Repr

/-- Whether an answer says that the type is known. -/
def Answer.isKnown : Answer → Bool
  | .found known => known
  | _ => false

/-- The part of the program that writes the records of this module. -/
def existenceSource : String := "scalanew.services.existence"

/-- The records about an answer for a name. -/
def Answer.records (name : String) : Answer → List Log.Record
  | .found _ => []
  | .failed => [.debug existenceSource ("Symbol lookup failed for " ++ name)]
  | .late => [.debug existenceSource ("Symbol lookup timed out for " ++ name)]

variable {σ : Type}

/-- Whether a type is known, by a way to ask if there is one. -/
def typeExists (ask : Option (String → Action σ Answer)) (name : String) : Action σ Bool :=
  match ask with
  | none => pure false
  | some ask => Action.spanning "symbol_lookup" do
      let answer ← ask name
      Action.log (answer.records name)
      Action.note "found" (.bool answer.isKnown)
      return answer.isKnown

/-- The objection that a name is taken, if it is. -/
def takenObjection? (ask : Option (String → Action σ Answer)) (folder : Path) (name : String) :
    Action σ (Option Scala.Rejection) := do
  let disk ← Action.disk
  if ← Action.ofFiles (sourceExists disk folder name) then return some .fileExists
  else if ← typeExists ask name then return some .typeExists
  else return none

end Scaffold.Project
