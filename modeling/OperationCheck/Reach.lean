import OperationCheck.Run

/-!
What a run can look at. Its configuration tells this before it begins.
-/

namespace OperationCheck

open OperationCheck.CommandLine OperationCheck.Documents OperationCheck.Rules

/-- A run looks at some files by their names, at the entries of some directories, and at
everything below others. -/
structure Reach where
  named : List String
  listed : List String
  walked : List String
deriving Repr, DecidableEq

def Reach.nothing : Reach := ⟨[], [], []⟩

/-- Tables are listed, and only documents are searched for below a directory. -/
def Configuration.reach (configuration : Configuration) : Reach :=
  let finder := finderFor configuration.schema
  { named := configuration.rules :: Files.join finder.root configuration.operation
      :: finder.excluded
    listed := configuration.directories.map Directory.path
    walked := [finder.base configuration.operation] }

/-- Arguments that are refused reach nothing. -/
def Reach.ofArguments (environment : Environment) (arguments : List String) : Reach :=
  match Arguments.read arguments with
  | .error _ => Reach.nothing
  | .ok arguments =>
      match Configuration.make environment arguments with
      | .error _ => Reach.nothing
      | .ok configuration => configuration.reach

end OperationCheck
