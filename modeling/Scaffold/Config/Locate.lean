import Scaffold.Files.Resolve

/-!
# Locating a project

A project is anchored by its configuration file, or by the build definition nearest above the
starting directory where there is no configuration file above it at all.  An environment variable
may name the configuration file and so replace the search.
-/

namespace Scaffold.Config

open Files

/-- The name of the configuration file. -/
def fileName : String := "scalanew.toml"

/-- The variable that names a configuration file. -/
def fileVariable : String := "SCALANEW_CONFIG"

/-- The files that mark the root of a build. -/
def buildMarkers : List String :=
  ["build.sbt", "build.sc", "build.mill", "pom.xml", "build.gradle", "build.gradle.kts"]

/-- Where a project lies, and the configuration file that applies to it. -/
structure Location where
  root : Path
  configPath : Option Path
  deriving DecidableEq, Repr

/-- Whether any of the names is a file in a directory; the search ends at the first one. -/
def hasAnyFile (disk : Disk) (dir : Path) : List String → Except Fault Bool
  | [] => .ok false
  | name :: names =>
    match disk.isFile? (dir.child name) with
    | .error f => .error f
    | .ok true => .ok true
    | .ok false => hasAnyFile disk dir names

/-- The location among directories, nearest first; `build` is the nearest build root so far. -/
def searchUp (disk : Disk) (start : Path) (build : Option Path) :
    List Path → Except Fault Location
  | [] => .ok ⟨build.getD start, none⟩
  | dir :: above =>
    match disk.isFile? (dir.child fileName) with
    | .error f => .error f
    | .ok true => .ok ⟨dir, some (dir.child fileName)⟩
    | .ok false =>
      match build with
      | some _ => searchUp disk start build above
      | none =>
        match hasAnyFile disk dir buildMarkers with
        | .error f => .error f
        | .ok found => searchUp disk start (if found then some dir else none) above

/-- The location of the project that a directory belongs to. -/
def locate (disk : Disk) (environment : List (String × String)) (start : Path) :
    Except Fault Location := do
  let start ← disk.resolve start
  match environment.lookup fileVariable with
  | some name =>
    if name ≠ "" then
      let path := Path.ofString name
      if ← disk.isFile? path then
        let real ← disk.resolve path
        return ⟨real.parent, some path⟩
      else return ⟨start, none⟩
    else searchUp disk start none start.ancestors
  | none => searchUp disk start none start.ancestors

end Scaffold.Config
