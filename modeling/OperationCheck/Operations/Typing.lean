import OperationCheck.Operations.Typed
import OperationCheck.Validation.Finding

/-!
Finding the types of a document's operations and fragments. What cannot be typed gives a finding,
and it is left out.
-/

namespace OperationCheck.Operations

open OperationCheck.Language OperationCheck.TypeSystem OperationCheck.Validation

/-- Nothing can be selected from scalars and enums. -/
def leafKind : TypeBody → Option String
  | .scalar => some "scalar"
  | .enum _ => some "enum"
  | _ => none

/-- The kind of the leaf at the core of a type. -/
def leafOf (schema : Schema) (type : TypeRef) : Option String :=
  (schema.body? type.core.text).bind leafKind

mutual

def typeSelection (schema : Schema) (parent : String) :
    Selection → List TypedSelection × List Finding
  | .field place aliasName name arguments directives selections =>
      match schema.field? parent name.text with
      | none => ([], [found name.place (.undefinedField parent name.text)])
      | some definition =>
          let core := definition.type.core.text
          let (chosen, findings) := typeSelections schema core selections
          let typed :=
            ([.field place parent aliasName definition arguments directives chosen], findings)
          match leafOf schema definition.type with
          | none => typed
          | some kind =>
              if selections.isEmpty then typed
              else ([], [found place (.selectionOnLeaf kind core)])
  | .spread place name directives => ([.spread place parent name.text directives], [])
  | .inline place none directives selections =>
      let (chosen, findings) := typeSelections schema parent selections
      ([.inline place parent none directives chosen], findings)
  | .inline place (some condition) directives selections =>
      if (schema.type? condition.text).isSome then
        let (chosen, findings) := typeSelections schema condition.text selections
        ([.inline place parent (some condition.text) directives chosen], findings)
      else ([], [found condition.place (.unknownInlineType condition.text)])

def typeSelections (schema : Schema) (parent : String) :
    List Selection → List TypedSelection × List Finding
  | [] => ([], [])
  | selection :: rest =>
      let (first, findings) := typeSelection schema parent selection
      let (others, more) := typeSelections schema parent rest
      (first ++ others, findings ++ more)

end

/-- A document that is being typed. -/
structure Typing where
  document : TypedDocument
  findings : List Finding
  manyAnonymous : Bool

def Typing.add (typing : Typing) (findings : List Finding) : Typing :=
  { typing with findings := typing.findings ++ findings }

/-- The schema must have a type for operations of the kind. -/
def typeOperation (schema : Schema) (operation : Operation) :
    Option TypedOperation × List Finding :=
  match schema.root? operation.kind with
  | none => (none, [found operation.place (.undefinedRoot operation.kind)])
  | some root =>
      let (selections, findings) := typeSelections schema root operation.selections
      (some ⟨operation.place, operation.kind, operation.name.map Name.text, operation.definedVariables,
        operation.directives, root, selections⟩, findings)

def ambiguous (place : Nat) : Finding := found place .ambiguousOperation

/-- An operation with a name is not preceded by one without a name, and its name is its own. -/
def Typing.addNamed (schema : Schema) (typing : Typing) (operation : Operation) (name : Name) :
    Typing :=
  let typing := match typing.document.anonymous with
    | some anonymous => typing.add [ambiguous anonymous.place]
    | none => typing
  if typing.document.named.any fun held => held.name == some name.text then
    typing.add [found name.place (.operationDefinedTwice name.text)]
  else
    let (typed, findings) := typeOperation schema operation
    let document := typing.document
    { typing with
      document := { document with named := document.named ++ typed.toList }
      findings := typing.findings ++ findings }

/-- An operation without a name is the only one. -/
def Typing.addAnonymous (schema : Schema) (typing : Typing) (operation : Operation) : Typing :=
  match typing.document.anonymous with
  | some anonymous =>
      let earlier := if typing.manyAnonymous then [] else [ambiguous anonymous.place]
      { typing with
        findings := typing.findings ++ earlier ++ [ambiguous operation.place]
        manyAnonymous := true }
  | none =>
      if typing.document.named.isEmpty then
        let (typed, findings) := typeOperation schema operation
        { typing with
          document := { typing.document with anonymous := typed }
          findings := typing.findings ++ findings }
      else typing.add [ambiguous operation.place]

/-- A fragment has its own name, and it is for a known type. -/
def Typing.addFragment (schema : Schema) (typing : Typing) (fragment : Fragment) : Typing :=
  let name := fragment.name.text
  let condition := fragment.condition.text
  if (typing.document.fragment? name).isSome then
    typing.add [found fragment.name.place (.fragmentDefinedTwice name)]
  else if (schema.type? condition).isNone then
    typing.add [found fragment.condition.place (.unknownFragmentType condition name)]
  else
    let (selections, findings) := typeSelections schema condition fragment.selections
    let typed : TypedFragment :=
      ⟨fragment.place, name, condition, fragment.directives, selections⟩
    let document := typing.document
    { typing with
      document := { document with fragments := document.fragments ++ [typed] }
      findings := typing.findings ++ findings }

def Typing.addDefinition (schema : Schema) (typing : Typing) : Definition → Typing
  | .operation operation =>
      match operation.name with
      | some name => typing.addNamed schema operation name
      | none => typing.addAnonymous schema operation
  | .fragment fragment => typing.addFragment schema fragment
  | definition =>
      typing.add [found definition.place (.typeSystemDefinition definition.description)]

/-- This function types a document. -/
def typeDocument (schema : Schema) (definitions : List Definition) :
    TypedDocument × List Finding :=
  let typing := definitions.foldl (Typing.addDefinition schema) ⟨.empty, [], false⟩
  (typing.document, typing.findings)

end OperationCheck.Operations
