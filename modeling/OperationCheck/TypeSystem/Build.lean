import OperationCheck.Language.Reading.Document
import OperationCheck.TypeSystem.BuiltIn
import OperationCheck.Validation.Finding

/-!
Building a schema from the definitions of a document. A definition is added to what is known, an
extension is added to its definition, and what cannot be added gives a finding.
-/

namespace OperationCheck.TypeSystem

open OperationCheck.Language OperationCheck.Validation

/-- Items that are told apart by a key are added in order. An item with the key of an earlier one
gives a finding. -/
def addDistinct {α : Type} (key : α → String) (repeated : α → Finding) (held : List α) :
    List α → List α × List Finding
  | [] => (held, [])
  | item :: items =>
      if held.any fun other => key other == key item then
        let (all, findings) := addDistinct key repeated held items
        (all, repeated item :: findings)
      else addDistinct key repeated (held ++ [item]) items

def addInterfaces (owner type : String) : List Name → List Name → List Name × List Finding :=
  addDistinct Name.text fun name => found name.place (.interfaceListedTwice owner type name.text)

def addFields (owner type : String) :
    List FieldDefinition → List FieldDefinition → List FieldDefinition × List Finding :=
  addDistinct (fun field => field.name.text) fun field =>
    found field.place (.fieldDefinedTwice owner type field.name.text)

def addInputs (owner type : String) :
    List InputValue → List InputValue → List InputValue × List Finding :=
  addDistinct (fun input => input.name.text) fun input =>
    found input.place (.fieldDefinedTwice owner type input.name.text)

def addMembers (type : String) : List Name → List Name → List Name × List Finding :=
  addDistinct Name.text fun name => found name.place (.memberListedTwice type name.text)

def addValues (type : String) : List EnumValue → List EnumValue → List EnumValue × List Finding :=
  addDistinct (fun value => value.name.text) fun value =>
    found value.place (.enumValueDefinedTwice type value.name.text)

/-- The parts of an extension are added to a body of the same kind. -/
def addBody (type : String) : TypeBody → TypeBody → Option (TypeBody × List Finding)
  | .scalar, .scalar => some (.scalar, [])
  | .object interfaces fields, .object moreInterfaces moreFields =>
      let (interfaces, first) := addInterfaces "object type" type interfaces moreInterfaces
      let (fields, second) := addFields "object type" type fields moreFields
      some (.object interfaces fields, first ++ second)
  | .interface interfaces fields, .interface moreInterfaces moreFields =>
      let (interfaces, first) := addInterfaces "interface type" type interfaces moreInterfaces
      let (fields, second) := addFields "interface type" type fields moreFields
      some (.interface interfaces fields, first ++ second)
  | .union members, .union more =>
      let (members, findings) := addMembers type members more
      some (.union members, findings)
  | .enum values, .enum more =>
      let (values, findings) := addValues type values more
      some (.enum values, findings)
  | .inputObject fields, .inputObject more =>
      let (fields, findings) := addInputs "input object type" type fields more
      some (.inputObject fields, findings)
  | _, _ => none

def emptyBody : TypeBody → TypeBody
  | .scalar => .scalar
  | .object _ _ => .object [] []
  | .interface _ _ => .interface [] []
  | .union _ => .union []
  | .enum _ => .enum []
  | .inputObject _ => .inputObject []

/-- A definition has its parts once. -/
def distinctParts (definition : TypeDefinition) : TypeDefinition × List Finding :=
  match addBody definition.name.text (emptyBody definition.body) definition.body with
  | some (body, findings) => ({ definition with body }, findings)
  | none => (definition, [])

/-- This function adds an extension to its type, if they are of the same kind. -/
def extend (definition addition : TypeDefinition) : Option (TypeDefinition × List Finding) :=
  (addBody definition.name.text definition.body addition.body).map fun (body, findings) =>
    ({ definition with body, directives := definition.directives ++ addition.directives }, findings)

/-- Extensions of another kind are passed over. -/
def extendAll (definition : TypeDefinition) (additions : List TypeDefinition) :
    TypeDefinition × List Finding :=
  additions.foldl (fun (definition, findings) addition =>
    match extend definition addition with
    | some (extended, more) => (extended, findings ++ more)
    | none => (definition, findings)) (definition, [])

/-- A kind of operation has one type. -/
def addRoots (roots : List RootType) : List RootType → List RootType × List Finding :=
  addDistinct (fun root => kindName root.kind) (fun root =>
    found root.place (.rootDefinedTwice root.kind)) roots

/-- A schema that is being built. Extensions wait for what they extend. -/
structure Building where
  schema : Schema
  waitingSchemas : List SchemaDefinition
  waitingTypes : List TypeDefinition
  findings : List Finding

def Building.add (building : Building) (findings : List Finding) : Building :=
  { building with findings := building.findings ++ findings }

/-- A type whose name is known already is refused, unless nothing but a built-in scalar is
repeated. -/
def Building.addType (building : Building) (definition : TypeDefinition) : Building :=
  let name := definition.name.text
  match building.schema.known? name with
  | some known =>
      let repeatsScalar := match definition.body with
        | .scalar => known.isBuiltIn
        | _ => false
      if repeatsScalar then building.add [found definition.place .builtInScalarDefined]
      else building.add [found definition.name.place (.typeDefinedTwice name (builtInLine name))]
  | none =>
      let (defined, first) := distinctParts definition
      let (waiting, others) := building.waitingTypes.partition fun addition =>
        addition.name.text == name
      let (extended, second) := extendAll defined waiting
      { building with
        schema := { building.schema with types := building.schema.types ++ [⟨extended, false⟩] }
        waitingTypes := others
        findings := building.findings ++ first ++ second }

/-- The description of an extension of a kind of type. -/
def extensionOf (body : TypeBody) : String := body.description ++ " extension"

def Building.extendType (building : Building) (addition : TypeDefinition) : Building :=
  let name := addition.name.text
  match building.schema.type? name with
  | none => { building with waitingTypes := building.waitingTypes ++ [addition] }
  | some definition =>
      match extend definition addition with
      | none => building.add [found addition.name.place
          (.extensionMismatch (extensionOf addition.body) name definition.body.description)]
      | some (extended, findings) =>
          let types := building.schema.types.map fun known =>
            if known.definition.name.text = name then { known with definition := extended }
            else known
          { building with
            schema := { building.schema with types }, findings := building.findings ++ findings }

/-- A built-in directive may be defined once more. -/
def Building.addDirective (building : Building) (definition : DirectiveDefinition) : Building :=
  let name := definition.name.text
  let held := building.schema.directives
  match held.find? fun known => known.definition.name.text == name with
  | none =>
      { building with schema := { building.schema with
          directives := held ++ [⟨definition, false⟩] } }
  | some ⟨_, true⟩ =>
      let directives := held.map fun known =>
        if known.definition.name.text = name then ⟨definition, false⟩ else known
      { building with schema := { building.schema with directives } }
  | some ⟨_, false⟩ =>
      building.add [found definition.name.place (.directiveDefinedTwice name)]

def Building.extendSchema (building : Building) (addition : SchemaDefinition) : Building :=
  let (roots, findings) := addRoots building.schema.roots addition.roots
  let schemaDirectives := building.schema.schemaDirectives ++ addition.directives
  { building with
    schema := { building.schema with roots, schemaDirectives }
    findings := building.findings ++ findings }

def Building.addSchema (building : Building) (definition : SchemaDefinition) : Building :=
  if building.schema.place.isSome then building.add [found definition.place .secondSchema]
  else
    let defined := { building with
      schema := { building.schema with place := some definition.place }, waitingSchemas := [] }
    building.waitingSchemas.foldl Building.extendSchema (defined.extendSchema definition)

def Building.addDefinition (building : Building) : Definition → Building
  | .schema false definition => building.addSchema definition
  | .schema true addition =>
      if building.schema.place.isSome then building.extendSchema addition
      else { building with waitingSchemas := building.waitingSchemas ++ [addition] }
  | .type false definition => building.addType definition
  | .type true addition => building.extendType addition
  | .directive definition => building.addDirective definition
  | definition =>
      building.add [found definition.place (.executableDefinition definition.description)]

/-- Without a schema definition, the types of operations are object types with these names. -/
def defaultRoot : OperationKind → String
  | .query => "Query"
  | .mutation => "Mutation"
  | .subscription => "Subscription"

def Schema.defaultRoots (schema : Schema) : List RootType :=
  [.query, .mutation, .subscription].filterMap fun kind =>
    match schema.body? (defaultRoot kind) with
    | some (.object _ _) => some ⟨0, kind, noName (defaultRoot kind)⟩
    | _ => none

/-- Extensions of a schema also extend the default one, if there is any. -/
def Building.addDefaultRoots (building : Building) : Building :=
  if building.schema.place.isSome then building
  else
    match building.schema.defaultRoots with
    | [] => building.add (building.waitingSchemas.map fun addition =>
        found addition.place .orphanSchemaExtension)
    | roots =>
        building.waitingSchemas.foldl Building.extendSchema
          { building with schema := { building.schema with roots } }

def Building.reportWaiting (building : Building) : Building :=
  building.add (building.waitingTypes.map fun addition =>
    found addition.name.place (.orphanTypeExtension addition.name.text))

/-- This function builds a schema. The findings come with whatever could be built. -/
def build (document : Document) : Schema × List Finding :=
  let start : Building := ⟨Schema.builtIn, [], [], []⟩
  let built := (document.definitions.foldl Building.addDefinition start).addDefaultRoots
  (built.reportWaiting.schema, built.reportWaiting.findings)

end OperationCheck.TypeSystem
