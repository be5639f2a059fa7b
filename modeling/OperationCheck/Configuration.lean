import OperationCheck.CommandLine.Reader
import OperationCheck.Files.Path
import OperationCheck.Http.Header
import OperationCheck.Report.Style
import OperationCheck.Rules.Registry

/-!
The configuration of a run. It comes from the command line and from the environment.
-/

namespace OperationCheck

open OperationCheck.CommandLine OperationCheck.Files OperationCheck.Http OperationCheck.Report
open OperationCheck.Rules

/-- The variables of an environment, and whether its output is shown on a terminal. -/
structure Environment where
  values : List (String × String)
  isTerminal : Bool
deriving Repr

def Environment.value? (environment : Environment) (name : String) : Option String :=
  environment.values.lookup name

structure Configuration where
  schema : String
  operation : String
  headers : List Header
  rules : String
  directories : List Directory
  links : Choice
  color : Choice
  logLevel : String

/-- The other variables of an environment do not count. -/
def environmentNames : List String :=
  ["XDG_CONFIG_HOME", "HOME", "TERM", "CLICOLOR", "CLICOLOR_FORCE", "NO_COLOR"]

/-- A path that is relative does not name the directory of the user's configuration. -/
def Environment.userDirectory? (environment : Environment) : Option String :=
  match (environment.value? "XDG_CONFIG_HOME").filter isAbsolute with
  | some path => some path
  | none =>
      ((environment.value? "HOME").filter (· ≠ "")).map fun home => join home ".config"

/-- Below the user's configuration, tables are in this directory. -/
def userTables (directory : String) : String := join (join directory programName) "rules"

def workspaceTables : String := join ("." ++ programName) "rules"

/-- Directories of tables come in the order of their priorities. -/
def Environment.directories (environment : Environment) (explicit : Option String) :
    List Directory :=
  (environment.userDirectory?.map fun path => ⟨userTables path, .userGlobal⟩).toList
    ++ [⟨workspaceTables, .workspace⟩]
    ++ (explicit.map fun path => ⟨path, .explicit⟩).toList

/-- This function makes a configuration. The first header that is malformed is refused. -/
def Configuration.make (environment : Environment) (arguments : Arguments) :
    Except HeaderError Configuration := do
  let headers ← arguments.headers.mapM Header.parse
  return {
    schema := arguments.schema
    operation := arguments.operation
    headers
    rules := arguments.rules
    directories := environment.directories arguments.rulesDirectory
    links := arguments.links
    color := arguments.color
    logLevel := arguments.logLevel }

def Configuration.linkStyle (configuration : Configuration) (environment : Environment) :
    LinkStyle :=
  match configuration.links with
  | .always => .hyperlink
  | .never => .plain
  | .auto => LinkStyle.detect environment.isTerminal (environment.value? "TERM")

/-- Colors are not ruled out. -/
def Configuration.usesColor (configuration : Configuration) : Bool :=
  configuration.color ≠ .never

/-- A variable counts as set unless it is zero. -/
def isSet (value : String) : Bool := value ≠ "0"

/-- Variables can force colors or rule them out. Otherwise a terminal shows them. -/
def Environment.showsColors (environment : Environment) : Bool :=
  if (environment.value? "CLICOLOR_FORCE").any isSet then true
  else if (environment.value? "NO_COLOR").isSome then false
  else environment.isTerminal && (environment.value? "CLICOLOR").all isSet

/-- A choice on the command line overrides the environment. -/
def Configuration.terminalColors (configuration : Configuration) (environment : Environment) :
    Bool :=
  match configuration.color with
  | .always => true
  | .never => false
  | .auto => environment.showsColors

end OperationCheck
