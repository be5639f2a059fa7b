import OperationCheck.Rules.Sheet

/-!
The built-in rule sheets. Each one covers the messages of one validation engine.
-/

namespace OperationCheck.Rules

/-- A built-in rule links to the section of the documentation that has its name. -/
def documented (name pattern : String) : Line :=
  ⟨some name, pattern, "https://thegraph.com/docs/en/#" ++ name⟩

def apolloSheet : Sheet where
  name := "apollo"
  description := some "Links for apollo-compiler validation messages"
  lines := [
    documented "ExecutableDefinitionsRule" "an executable document must not contain (.*)",
    documented "FieldsOnCorrectTypeRule" "type \x60(.*)\x60 does not have a field \x60(.*)\x60",
    documented "FragmentsOnCompositeTypesRule" "must have a composite type in its type condition",
    documented "KnownArgumentNamesRule"
      "the argument \x60(.*)\x60 is not supported by \x60(.*)\x60",
    documented "KnownDirectivesRule" "cannot find directive \x60@(.*)\x60 in this document",
    documented "KnownDirectivesRule" "(.*) directive is not supported for (.*) location",
    documented "KnownFragmentNamesRule" "cannot find fragment \x60(.*)\x60 in this document",
    documented "KnownTypeNamesRule" "cannot find type \x60(.*)\x60 in this document",
    documented "KnownTypeNamesRule"
      "type condition \x60(.*)\x60 of (.*) is not a type defined in the schema",
    documented "LoneAnonymousOperationRule"
      "anonymous operation cannot be selected when the document contains other operations",
    documented "NoFragmentCyclesRule" "\x60(.*)\x60 fragment cannot reference itself",
    documented "NoUndefinedVariablesRule" "variable \x60\\$(.*)\x60 is not defined",
    documented "NoUnusedFragmentsRule" "fragment \x60(.*)\x60 must be used in an operation",
    documented "NoUnusedVariablesRule" "unused variable: \x60\\$(.*)\x60",
    documented "OverlappingFieldsCanBeMergedRule"
      "operation must not select different types using the same name \x60(.*)\x60",
    documented "OverlappingFieldsCanBeMergedRule"
      "operation must not provide conflicting field arguments for the same name \x60(.*)\x60",
    documented "OverlappingFieldsCanBeMergedRule"
      "cannot select different fields into the same alias \x60(.*)\x60",
    documented "PossibleFragmentSpreadsRule"
      "with type condition \x60(.*)\x60 cannot be applied to \x60(.*)\x60",
    documented "ProvidedRequiredArgumentsRule" "the required argument \x60(.*)\x60 is not provided",
    documented "ScalarLeafsRule"
      "field selection of (scalar|enum) type \x60(.*)\x60 must not have subselections",
    documented "ScalarLeafsRule" "interface, union and object types must have a subselection set",
    documented "SingleFieldSubscriptionsRule" "subscription(.*) can only have one root field",
    documented "SingleFieldSubscriptionsRule"
      "subscription(.*) can not have an introspection field as a root field",
    documented "UniqueArgumentNamesRule" "the argument \x60(.*)\x60 is provided multiple times",
    documented "UniqueDirectivesPerLocationRule"
      "non-repeatable directive (.*) can only be used once per location",
    documented "UniqueFragmentNamesRule"
      "the fragment \x60(.*)\x60 is defined multiple times in the document",
    documented "UniqueOperationNamesRule"
      "the operation \x60(.*)\x60 is defined multiple times in the document",
    documented "UniqueVariableNamesRule" "the variable \x60\\$(.*)\x60 is declared multiple times",
    documented "ValuesOfCorrectTypeRule" "expected value of type (.*), found (.*)",
    documented "VariablesAreInputTypesRule" "\x60\\$(.*)\x60 variable must be of an input type",
    documented "VariablesInAllowedPositionRule"
      ("variable \x60\\$(.*)\x60 of type \x60(.*)\x60 cannot be used for"
        ++ " argument \x60(.*)\x60 of type \x60(.*)\x60")]

def graphQlJsSheet : Sheet where
  name := "graphql-js"
  description := some "Links for graphql-js validation messages"
  lines := [
    documented "FieldsOnCorrectTypeRule" "Cannot query field \"(.*)\" on type \"(.*)\"",
    documented "FragmentsOnCompositeTypesRule"
      "Fragment cannot condition on non composite type \"(.*)\"",
    documented "KnownDirectivesRule" "Unknown directive \"(.*)\"",
    documented "KnownDirectivesRule" "Directive \"(.*)\" may not be used on (.*)\\.",
    documented "KnownFragmentNamesRule" "Unknown fragment \"(.*)\"",
    documented "KnownTypeNamesRule" "Unknown type \"(.*)\"",
    documented "LoneAnonymousOperationRule"
      "This anonymous operation must be the only defined operation",
    documented "NoFragmentCyclesRule" "Cannot spread fragment \"(.*)\" within itself",
    documented "NoUndefinedVariablesRule" "Variable \"(.*)\" is not defined",
    documented "NoUnusedFragmentsRule" "Fragment \"(.*)\" is never used",
    documented "NoUnusedVariablesRule" "Variable \"(.*)\" is never used",
    documented "OverlappingFieldsCanBeMergedRule"
      ("Fields \"(.*)\" conflict because (.*)\\. Use different aliases on the fields"
        ++ " to fetch both if this was intentional\\."),
    documented "PossibleFragmentSpreadsRule" "Fragment cannot be spread here as objects",
    documented "PossibleTypeExtensionsRule" "Cannot extend non-(.*) type \"(.*)\"",
    documented "ProvidedRequiredArgumentsRule"
      "Field \"(.*)\" argument \"(.*)\" of type \"(.*)\" is required, but it was not provided",
    documented "ScalarLeafsRule"
      "Field \"(.*)\" must not have a selection since type \"(.*)\" has no subfields.",
    documented "ScalarLeafsRule"
      ("Field \"(.*)\" of type \"(.*)\" must have a selection of"
        ++ " subfields. Did you mean \"(.*) \\\x7b ... \\\x7d\""),
    documented "SingleFieldSubscriptionsRule"
      "Subscription \"(.*)\" must select only one top level field",
    documented "SingleFieldSubscriptionsRule"
      "Anonymous Subscription must select only one top level field",
    documented "SingleFieldSubscriptionsRule"
      "Subscription \"(.*)\" must not select an introspection top level field",
    documented "SingleFieldSubscriptionsRule"
      "Anonymous Subscription must not select an introspection top level field",
    documented "UniqueArgumentDefinitionNamesRule" "Argument \"(.*)\" can only be defined once",
    documented "UniqueArgumentNamesRule" "There can be only one argument named \"(.*)\"",
    documented "UniqueDirectiveNamesRule"
      "Directive \"(.*)\" already exists in the schema. It cannot be redefined",
    documented "UniqueDirectiveNamesRule" "There can be only one directive named \"(.*)\"",
    documented "UniqueDirectivesPerLocationRule"
      "The directive \"(.*)\" can only be used once at this location",
    documented "UniqueEnumValueNamesRule"
      ("Enum value \"(.*)\" already exists in the schema. It cannot also"
        ++ " be defined in this type extension"),
    documented "UniqueEnumValueNamesRule" "Enum value \"(.*)\" can only be defined once",
    documented "UniqueFieldDefinitionNamesRule"
      ("Field \"(.*)\" already exists in the schema. It cannot also"
        ++ " be defined in this type extension"),
    documented "UniqueFieldDefinitionNamesRule" "Field \"(.*)\" can only be defined once",
    documented "UniqueFragmentNamesRule" "There can be only one fragment named \"(.*)\"",
    documented "UniqueInputFieldNamesRule" "There can be only one input field named \"(.*)\"",
    documented "UniqueOperationNamesRule" "There can be only one operation named \"(.*)\"",
    documented "UniqueOperationTypesRule"
      "Type for (.*) already defined in the schema. It cannot be redefined",
    documented "UniqueOperationTypesRule" "There can be only one (.*) type in schema",
    documented "UniqueTypeNamesRule"
      ("Type \"(.*)\" already exists in the schema. It cannot also be"
        ++ " defined in this type definition"),
    documented "UniqueTypeNamesRule" "There can be only one type named \"(.*)\"",
    documented "UniqueVariableNamesRule" "There can be only one variable named \"(.*)\"",
    documented "VariablesAreInputTypesRule" "Variable \"(.*)\" cannot be non-input type \"(.*)\"",
    documented "VariablesInAllowedPositionRule"
      "Variable \"(.*)\" of type \"(.*)\" used in position expecting type \"(.*)\""]

def builtInSheets : List Sheet := [apolloSheet, graphQlJsSheet]

end OperationCheck.Rules
