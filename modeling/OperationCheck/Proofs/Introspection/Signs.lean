import OperationCheck.Introspection.Printer
import OperationCheck.Proofs.Language.Parts

/-!
The tokens that a schema is written with. They depend on its names, on the tokens of its defaults,
and on what is described or deprecated.
-/

namespace OperationCheck.Introspection

open OperationCheck.Language OperationCheck.Language.Reading

/-- A literal is a text with the tokens of a value. -/
def IsLiteral (text : String) : Prop := ∃ signs, Lexes text.toList signs ∧ IsValue signs

/-- A description stays within its block: the quotes that close the block are those behind it. -/
def StaysInBlock (text : String) : Prop :=
  blockPiece 0 (text.toList ++ "\n\"\"\"".toList) = ⟨.token .text, text.toList.length + 4⟩

/-- What a schema is written with that is not fixed. -/
inductive Word where
  | name (text : String)
  | literal (text : String)
  | description (text : String)

/-- A name is a name, a literal is a literal, and a description stays where it is. -/
def Word.IsSound : Word → Prop
  | .name text => IsName text
  | .literal text => IsLiteral text
  | .description text => StaysInBlock text

def describingWords (description : Option String) : List Word :=
  description.toList.map Word.description

def DescribedInput.words (input : DescribedInput) : List Word :=
  describingWords input.description ++ [.name input.name, .name input.type.core.text]
    ++ input.default.toList.map Word.literal

def DescribedField.words (field : DescribedField) : List Word :=
  describingWords field.description ++ [.name field.name, .name field.type.core.text]
    ++ field.arguments.flatMap DescribedInput.words

def DescribedValue.words (value : DescribedValue) : List Word :=
  describingWords value.description ++ [.name value.name]

def DescribedBody.words : DescribedBody → List Word
  | .scalar => []
  | .object interfaces fields | .interface interfaces fields =>
      interfaces.map Word.name ++ fields.flatMap DescribedField.words
  | .union members => members.map Word.name
  | .enum values => values.flatMap DescribedValue.words
  | .inputObject _ fields => fields.flatMap DescribedInput.words

def DescribedType.words (type : DescribedType) : List Word :=
  describingWords type.description ++ [.name type.name] ++ type.body.words

def DescribedDirective.words (directive : DescribedDirective) : List Word :=
  describingWords directive.description ++ [.name directive.name]
    ++ directive.arguments.flatMap DescribedInput.words

/-- The types and directives that every schema has are not written. -/
def DescribedSchema.words (schema : DescribedSchema) : List Word :=
  [.name schema.query] ++ schema.mutation.toList.map Word.name
    ++ schema.subscription.toList.map Word.name
    ++ (schema.types.filter isOwnType).flatMap DescribedType.words
    ++ (schema.directives.filter isOwnDirective).flatMap DescribedDirective.words

/-- Each part of something sound is sound. -/
theorem each_sound {α : Type} {parts : List α} {words : α → List Word}
    (sound : ∀ word ∈ parts.flatMap words, word.IsSound) {part : α} (member : part ∈ parts) :
    ∀ word ∈ words part, word.IsSound := fun word isWord =>
  sound word (List.mem_flatMap.2 ⟨part, member, isWord⟩)

/-- Names that are sound words are names. -/
theorem each_name {names : List String} (sound : ∀ word ∈ names.map Word.name, word.IsSound) :
    ∀ name ∈ names, IsName name := fun name member =>
  sound (.name name) (List.mem_map_of_mem member)

/-- The signs of a text without faults. -/
def signsOf (text : String) : List Sign := ((tokens text.toList).map Token.sign).dropLast

/-- A text has only one list of tokens. -/
theorem signsOf_eq {text : String} {signs : List Sign} (lexes : Lexes text.toList signs) :
    signsOf text = signs := by
  rw [signsOf, lexes.tokens.1, List.dropLast_concat]

theorem IsLiteral.lexes {text : String} (isLiteral : IsLiteral text) :
    Lexes text.toList (signsOf text) := by
  obtain ⟨signs, lexes, -⟩ := isLiteral
  rwa [signsOf_eq lexes]

/-- A literal is the text of one value. -/
theorem IsLiteral.isValue {text : String} (isLiteral : IsLiteral text) :
    IsValue (signsOf text) := by
  obtain ⟨signs, lexes, isValue⟩ := isLiteral
  rwa [signsOf_eq lexes]

def descriptionSigns : Option String → List Sign
  | some _ => [.text]
  | none => []

def deprecationSigns : Option Deprecation → List Sign
  | some ⟨some _⟩ =>
      [.mark '@', .name "deprecated", .mark '(', .name "reason", .mark ':', .text, .mark ')']
  | some ⟨none⟩ => [.mark '@', .name "deprecated"]
  | none => []

def defaultSigns : Option String → List Sign
  | some text => [.mark '='] ++ signsOf text
  | none => []

def inputSigns (input : DescribedInput) : List Sign :=
  descriptionSigns input.description ++ [.name input.name] ++ [.mark ':'] ++ typeSigns input.type
    ++ defaultSigns input.default ++ deprecationSigns input.deprecation

def argumentSigns (arguments : List DescribedInput) : List Sign :=
  if arguments.isEmpty then [] else [.mark '('] ++ arguments.flatMap inputSigns ++ [.mark ')']

def fieldSigns (field : DescribedField) : List Sign :=
  descriptionSigns field.description ++ [.name field.name] ++ argumentSigns field.arguments
    ++ [.mark ':'] ++ typeSigns field.type ++ deprecationSigns field.deprecation

def valueSigns (value : DescribedValue) : List Sign :=
  descriptionSigns value.description ++ [.name value.name] ++ deprecationSigns value.deprecation

def bodySigns (parts : List (List Sign)) : List Sign :=
  if parts.isEmpty then [] else [.mark '\x7b'] ++ parts.flatten ++ [.mark '\x7d']

/-- Names with a mark between them. -/
def listSigns (mark : Char) (names : List String) : List Sign :=
  [.mark mark].intercalate (names.map fun name => [.name name])

def interfaceSigns (interfaces : List String) : List Sign :=
  if interfaces.isEmpty then [] else [.name "implements"] ++ listSigns '&' interfaces

/-- The word that begins the definition of a type. -/
def typeWord : DescribedBody → String
  | .scalar => "scalar"
  | .object _ _ => "type"
  | .interface _ _ => "interface"
  | .union _ => "union"
  | .enum _ => "enum"
  | .inputObject _ _ => "input"

/-- What comes behind the name of a type. -/
def partSigns : DescribedBody → List Sign
  | .scalar => []
  | .object interfaces fields | .interface interfaces fields =>
      interfaceSigns interfaces ++ bodySigns (fields.map fieldSigns)
  | .union members => [.mark '='] ++ listSigns '|' members
  | .enum values => bodySigns (values.map valueSigns)
  | .inputObject isOneOf fields =>
      (if isOneOf then [.mark '@', .name "oneOf"] else []) ++ bodySigns (fields.map inputSigns)

def definitionSigns (type : DescribedType) : List Sign :=
  descriptionSigns type.description ++ [.name (typeWord type.body), .name type.name]
    ++ partSigns type.body

def directiveSigns (directive : DescribedDirective) : List Sign :=
  descriptionSigns directive.description ++ [.name "directive", .mark '@']
    ++ [.name directive.name] ++ argumentSigns directive.arguments
    ++ (if directive.isRepeatable then [.name "repeatable"] else []) ++ [.name "on"]
    ++ listSigns '|' directive.locations

/-- The signs of a root. -/
def rootSigns (kind : String) : Option String → List Sign
  | some name => [.name kind, .mark ':', .name name]
  | none => []

def schemaSigns (schema : DescribedSchema) : List Sign :=
  [.name "schema", .mark '\x7b'] ++ rootSigns "query" (some schema.query)
    ++ rootSigns "mutation" schema.mutation ++ rootSigns "subscription" schema.subscription
    ++ [.mark '\x7d']

def rootsSigns (schema : DescribedSchema) : List Sign :=
  if hasUsualRoots schema then [] else schemaSigns schema

def sourceSigns (schema : DescribedSchema) : List Sign :=
  rootsSigns schema ++ (schema.types.filter isOwnType).flatMap definitionSigns
    ++ (schema.directives.filter isOwnDirective).flatMap directiveSigns

end OperationCheck.Introspection
