import OperationCheck.Run

/-!
What the program does with its arguments: what it writes, what it complains of, and the code that it
exits with.
-/

namespace OperationCheck

open OperationCheck.CommandLine OperationCheck.Http OperationCheck.Report OperationCheck.TypeSystem

/-- The complaints are lines. -/
structure Exit where
  code : Nat
  written : List UInt8
  complaints : List String
deriving Repr, DecidableEq

def Exit.ofText (text : String) : Exit := ⟨0, Text.bytes text.toList, []⟩

/-- A failure is told with its details. -/
def Exit.failure (message : String) (details : List String) : Exit :=
  ⟨1, [], ("Error: " ++ message) :: details⟩

def complaintOf : Refusal → String
  | .help | .version => ""
  | .unknownArgument => "error: unexpected argument found"
  | .invalidValue => "error: invalid value for one of the arguments"
  | .givenTwice => "error: an argument cannot be used multiple times"
  | .unneededValue => "error: unexpected value found"
  | .missingSchema => "error: the required argument --schema <SCHEMA> was not provided"

/-- Arguments that ask for a text get it, and others are refused. -/
def exitOfRefusal : Refusal → Exit
  | .help => Exit.ofText helpText
  | .version => Exit.ofText versionText
  | refusal => ⟨2, [], [complaintOf refusal]⟩

def reportLine (report : SchemaReport) : String :=
  report.headline ++
    match report.snippet with
    | some (location, place) =>
        " (" ++ location ++ ":" ++ toString place.line ++ ":" ++ toString place.column ++ ")"
    | none => ""

/-- The reports about an invalid schema are the details of the failure. -/
def RunError.details : RunError → List String
  | RunError.schema (.invalid invalid) => invalid.reports.map reportLine
  | _ => []

/-- Warnings are shown unless only graver messages are asked for. -/
def Configuration.showsWarnings (configuration : Configuration) : Bool :=
  !(["off", "error"].contains (Text.lowercase configuration.logLevel))

/-- The exit of a run with a configuration. -/
def exitOfRun (world : World) (environment : Environment) (configuration : Configuration) :
    Exit :=
  let presentation : Presentation := ⟨configuration.linkStyle environment,
    configuration.usesColor, configuration.terminalColors environment⟩
  let ended := run world configuration presentation Writer.unlimited
  let warnings :=
    if configuration.showsWarnings then ended.warnings.map Warning.message else []
  match ended.result with
  | .ok _ => ⟨0, ended.writer.written, warnings⟩
  | .error error =>
      let failure := Exit.failure error.message error.details
      { failure with written := ended.writer.written
                     complaints := warnings ++ failure.complaints }

/-- This function runs the program. -/
def invoke (world : World) (environment : Environment) (arguments : List String) : Exit :=
  match Arguments.read arguments with
  | .error refusal => exitOfRefusal refusal
  | .ok arguments =>
      match Configuration.make environment arguments with
      | .error error => Exit.failure error.message []
      | .ok configuration => exitOfRun world environment configuration

end OperationCheck
