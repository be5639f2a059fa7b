import OperationCheck.Program

/-!
The flags of the command line, and the text that explains them.
-/

namespace OperationCheck.CommandLine

/-- Each of these flags has a value. -/
inductive Flag where
  | schema
  | operation
  | header
  | rules
  | rulesDirectory
  | links
  | color
  | logLevel
deriving Repr, DecidableEq

def Flag.all : List Flag :=
  [.schema, .operation, .header, .rules, .rulesDirectory, .links, .color, .logLevel]

/-- The name that stands behind two dashes. -/
def Flag.name : Flag → String
  | .schema => "schema"
  | .operation => "operation"
  | .header => "header"
  | .rules => "rules"
  | .rulesDirectory => "rules-dir"
  | .links => "links"
  | .color => "color"
  | .logLevel => "log-level"

/-- The letter that stands behind one dash. -/
def Flag.letter? : Flag → Option Char
  | .schema => some 's'
  | .operation => some 'o'
  | .header => some 'H'
  | _ => none

def Flag.ofName? (name : String) : Option Flag := Flag.all.find? fun flag => flag.name == name

def Flag.ofLetter? (letter : Char) : Option Flag :=
  Flag.all.find? fun flag => flag.letter? == some letter

/-- Only headers can be given more than once. -/
def Flag.isRepeatable (flag : Flag) : Bool := flag == .header

inductive Choice where
  | auto
  | always
  | never
deriving Repr, DecidableEq

def Choice.all : List Choice := [.auto, .always, .never]

def Choice.name : Choice → String
  | .auto => "auto"
  | .always => "always"
  | .never => "never"

def Choice.ofName? (name : String) : Option Choice :=
  Choice.all.find? fun choice => choice.name == name

/-- The value of a flag that is not given. -/
def Flag.default? : Flag → Option String
  | .operation => some "**/*.graphql"
  | .rules => some "apollo"
  | .links | .color => some Choice.auto.name
  | .logLevel => some "warn"
  | _ => none

def Flag.placeholder : Flag → String
  | .schema => "SCHEMA"
  | .operation => "OPERATION"
  | .header => "NAME: VALUE"
  | .rules => "RULES"
  | .rulesDirectory => "RULES_DIR"
  | .links => "LINKS"
  | .color => "COLOR"
  | .logLevel => "LOG_LEVEL"

def Flag.explanation : Flag → String
  | .schema => "Path to the schema file or URL to fetch the schema from"
  | .operation => "Path to the operation files"
  | .header => "HTTP header sent when fetching a remote schema (repeatable)"
  | .rules => "Rule table name or path to a rule table TOML file"
  | .rulesDirectory => "Directory containing rule table TOML files"
  | .links => "Render documentation links as terminal hyperlinks"
  | .color => "Colorize output"
  | .logLevel => "Log level (trace, debug, info, warn, error)"

def Flag.isChoice (flag : Flag) : Bool := flag == .links || flag == .color

/-- A line of the help has a flag on its left and the explanation on its right. -/
def Flag.helpLine (flag : Flag) : String × String :=
  let letter := match flag.letter? with
    | some letter => "-" ++ letter.toString ++ ", "
    | none => "    "
  let default := (flag.default?.map fun value => " [default: " ++ value ++ "]").getD ""
  let values := if flag.isChoice then
      " [possible values: " ++ ", ".intercalate (Choice.all.map Choice.name) ++ "]"
    else ""
  (letter ++ "--" ++ flag.name ++ " <" ++ flag.placeholder ++ ">",
    flag.explanation ++ default ++ values)

def helpLines : List (String × String) :=
  Flag.all.map Flag.helpLine
    ++ [("-h, --help", "Print help"), ("-V, --version", "Print version")]

/-- The right sides of the lines stand below each other. -/
def alignLines (lines : List (String × String)) : String :=
  let width := (lines.map fun line => line.1.length).foldl max 0
  String.join (lines.map fun line =>
    "  " ++ line.1 ++ "".pushn ' ' (width + 2 - line.1.length) ++ line.2 ++ "\n")

def helpText : String :=
  "CLI to validate GraphQL operations against a schema\n\nUsage: " ++ programName
    ++ " [OPTIONS] --schema <SCHEMA>\n\nOptions:\n" ++ alignLines helpLines

def versionText : String := programName ++ " " ++ programVersion ++ "\n"

end OperationCheck.CommandLine
