import OperationCheck.Introspection.Printer

/-!
The query that asks a server for its schema.
-/

namespace OperationCheck.Introspection

/-- What is asked for, with what is asked for within it. -/
inductive Asked where
  | mk (name : String) (within : List Asked)

mutual

def Asked.show : Asked → String
  | .mk name [] => name ++ "\n"
  | .mk name (first :: rest) =>
      name ++ " \x7b\n" ++ indent (showAsked (first :: rest)) ++ "\x7d\n"

def showAsked : List Asked → String
  | [] => ""
  | first :: rest => first.show ++ showAsked rest

end

def plain (name : String) : Asked := .mk name []

def askName (name : String) : Asked := .mk name [plain "name"]

/-- A reference with a number of references within it. -/
def askRef : Nat → List Asked
  | 0 => [plain "kind", plain "name"]
  | depth + 1 => [plain "kind", plain "name", .mk "ofType" (askRef depth)]

/-- This many references are asked for within a reference. -/
def refDepth : Nat := 6

def askType : Asked := .mk "type" (askRef refDepth)

def askInputs (name : String) : Asked :=
  .mk name [plain "name", plain "description", askType, plain "defaultValue"]

def askDeprecation : List Asked := [plain "isDeprecated", plain "deprecationReason"]

def askFields : Asked :=
  .mk "fields(includeDeprecated: true)"
    ([plain "name", plain "description", askInputs "args", askType] ++ askDeprecation)

def askValues : Asked :=
  .mk "enumValues(includeDeprecated: true)"
    ([plain "name", plain "description"] ++ askDeprecation)

def askTypes : Asked :=
  .mk "types" [plain "kind", plain "name", plain "description", askFields,
    askInputs "inputFields", askName "interfaces", askValues, askName "possibleTypes"]

def askDirectives : Asked :=
  .mk "directives" [plain "name", plain "description", askInputs "args", plain "locations"]

def operationName : String := "IntrospectionQuery"

/-- The text of the query. -/
def query : String :=
  (Asked.mk ("query " ++ operationName) [.mk "__schema"
    [askName "queryType", askName "mutationType", askName "subscriptionType", askTypes,
      askDirectives]]).show

/-- The query as it is sent to a server. It has no variables. -/
def requestBody : String :=
  "\x7b\"query\":" ++ quoted query ++ ",\"variables\":null,\"operationName\":"
    ++ quoted operationName ++ "\x7d"

end OperationCheck.Introspection
