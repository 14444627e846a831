import Redaction.Code.Path
import Redaction.Error

/-!
# Finding a crate in a manifest

Generated code names other crates by the name that the consuming package has for them, which a
dependency may change. The manifest of that package says which name a package goes by: its own
dependencies come first, then those for development, then both again of each of its targets. A
package that is there twice goes by the later name. A dependency taken from the workspace is the
package that the workspace says.
-/

namespace Redaction

open Code

/-- A dependency of a package. -/
structure Dependency where
  /-- The name that the consuming package has for it. -/
  name : String
  /-- The package that it is, if that has another name. -/
  package : Option String
  /-- Whether the workspace says what it is. -/
  fromWorkspace : Bool
deriving DecidableEq

/-- What a package depends on for one target. -/
structure TargetDependencies where
  targetDependencies : List Dependency := []
  targetDevDependencies : List Dependency := []

/-- The manifest of a package, and what its workspace depends on. The targets come in the order of
the manifest, the first of them by itself. -/
structure Manifest extends TargetDependencies where
  package : Option String := none
  dependencies : List Dependency := []
  devDependencies : List Dependency := []
  buildDependencies : List Dependency := []
  otherTargets : List TargetDependencies := []
  workspaceDependencies : List Dependency := []

/-- How a package is reached. -/
inductive FoundCrate where
  /-- It is the consuming package itself. -/
  | itself
  | named (name : String)
deriving DecidableEq

namespace Manifest

/-- The package that a dependency is by itself. -/
def packageOf (d : Dependency) : String := d.package.getD d.name

/-- A package name as a crate name. -/
def crateName (name : String) : String :=
  String.ofList (name.toList.map fun c => if c = '-' then '_' else c)

/-- The package that the workspace has under a name; of several entries the last counts. -/
def workspacePackage? (m : Manifest) (name : String) : Option String :=
  (m.workspaceDependencies.reverse.find? (·.name == name)).map packageOf

/-- The package that a dependency is, and the crate name that it goes by. The package itself is no
dependency of its own. -/
def resolve (m : Manifest) (d : Dependency) : Option (String × FoundCrate) :=
  if m.package = some (packageOf d) then none
  else
    let package :=
      if d.fromWorkspace then (m.workspacePackage? (packageOf d)).getD (packageOf d)
      else packageOf d
    some (package, .named (crateName d.name))

/-- How the package itself is reached: from a test of its own it is a crate like others. -/
def own (m : Manifest) (inTest : Bool) : List (String × FoundCrate) :=
  match m.package with
  | none => []
  | some name => [(name, if inTest then .named (crateName name) else .itself)]

/-- The dependencies of the targets, table by table. -/
def targetTables (m : Manifest) : List (List Dependency) :=
  (m.toTargetDependencies :: m.otherTargets).flatMap fun t =>
    [t.targetDependencies, t.targetDevDependencies]

/-- The dependencies in order. Those for builds do not count. -/
def allDependencies (m : Manifest) : List Dependency :=
  m.dependencies ++ m.devDependencies ++ m.targetTables.flatten

/-- The packages of a manifest, a later entry counting more than an earlier one. -/
def packages (m : Manifest) (inTest : Bool) : List (String × FoundCrate) :=
  m.own inTest ++ m.allDependencies.filterMap m.resolve

/-- **How a package is reached,** if the manifest has it. -/
def find? (m : Manifest) (inTest : Bool) (package : String) : Option FoundCrate :=
  (m.packages inTest).reverse.lookup package

/-- Whether no table of the manifest has a name twice. -/
def isValid (m : Manifest) : Bool :=
  ([m.dependencies, m.devDependencies, m.buildDependencies, m.workspaceDependencies] ++
    m.targetTables).all fun ds => (ds.map (·.name)).Nodup

end Manifest

/-- The path of a crate that was found, whose name must be an identifier, raw or not, and no
keyword. -/
def FoundCrate.path : FoundCrate → Except Failure Path
  | itself => .ok .ownCrate
  | named name =>
    if Path.token? name.toList = some (.name name, []) ∧ name ∉ Path.refusedSegments then
      .ok (.ofCrate name)
    else .error .unnameable

end Redaction
