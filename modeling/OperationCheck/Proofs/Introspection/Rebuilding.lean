import OperationCheck.Introspection.Answer
import OperationCheck.Proofs.Introspection.Definitions
import OperationCheck.Proofs.Introspection.Printing
import OperationCheck.Proofs.TypeSystem.Building

/-!
Building a described schema again from its source. The main statement says that the schema which is
built has one type for each type that is described and one directive for each directive, except
those that every schema has.
-/

namespace OperationCheck.Introspection

open OperationCheck.Language OperationCheck.TypeSystem

section parts

def Part.type? : Part → Option DescribedType
  | .type described => some described
  | _ => none

def Part.directive? : Part → Option DescribedDirective
  | .directive described => some described
  | _ => none

/-- A directive has the name of the directive that it is written for. -/
def DescribedDirective.IsWrittenAs (described : DescribedDirective)
    (definition : DirectiveDefinition) : Prop := definition.name.text = described.name

variable {schema : DescribedSchema}

/-- The types among the parts are those that the source defines itself. -/
theorem types_of_parts :
    schema.parts.filterMap Part.type? = schema.types.filter isOwnType := by
  have roots : (if hasUsualRoots schema then [] else [Part.roots schema]).filterMap Part.type? =
      [] := by
    split <;> rfl
  have types : ((schema.types.filter isOwnType).map Part.type).filterMap Part.type? =
      schema.types.filter isOwnType := by
    rw [List.filterMap_map]
    exact List.filterMap_some
  have directives :
      ((schema.directives.filter isOwnDirective).map Part.directive).filterMap Part.type? = [] := by
    rw [List.filterMap_map]
    exact List.filterMap_eq_nil_iff.2 fun _ _ => rfl
  rw [DescribedSchema.parts, List.filterMap_append, List.filterMap_append, roots, types, directives,
    List.nil_append, List.append_nil]

/-- The directives among the parts are those that the source defines itself. -/
theorem directives_of_parts :
    schema.parts.filterMap Part.directive? = schema.directives.filter isOwnDirective := by
  have roots :
      (if hasUsualRoots schema then [] else [Part.roots schema]).filterMap Part.directive? = [] := by
    split <;> rfl
  have types : ((schema.types.filter isOwnType).map Part.type).filterMap Part.directive? = [] := by
    rw [List.filterMap_map]
    exact List.filterMap_eq_nil_iff.2 fun _ _ => rfl
  have directives :
      ((schema.directives.filter isOwnDirective).map Part.directive).filterMap Part.directive? =
        schema.directives.filter isOwnDirective := by
    rw [List.filterMap_map]
    exact List.filterMap_some
  rw [DescribedSchema.parts, List.filterMap_append, List.filterMap_append, roots, types, directives,
    List.append_nil, List.nil_append]

/-- The definitions that are written for some parts define the types of these parts. -/
theorem definedTypes {parts : List Part} {definitions : List Definition}
    (areWritten : List.Forall₂ Part.IsWrittenAs parts definitions) :
    List.Forall₂ DescribedType.IsWrittenAs (parts.filterMap Part.type?)
      (definitions.filterMap definedType) := by
  induction areWritten with
  | nil => exact .nil
  | @cons part definition _ _ isWritten _ ih =>
      unfold Part.IsWrittenAs at isWritten
      split at isWritten
      · exact ih
      · exact .cons isWritten ih
      · exact ih
      · exact isWritten.elim

/-- The directives that are defined are the described ones in their order. -/
theorem definedDirectives {parts : List Part} {definitions : List Definition}
    (areWritten : List.Forall₂ Part.IsWrittenAs parts definitions) :
    List.Forall₂ DescribedDirective.IsWrittenAs (parts.filterMap Part.directive?)
      (definitions.filterMap definedDirective) := by
  induction areWritten with
  | nil => exact .nil
  | @cons part definition _ _ isWritten _ ih =>
      unfold Part.IsWrittenAs at isWritten
      split at isWritten
      · exact ih
      · exact ih
      · exact .cons isWritten ih
      · exact isWritten.elim

/-- A directive that is not left out is none of those that are built in. -/
theorem isPlain_of_written {part : Part} (member : part ∈ schema.parts) {definition : Definition}
    (isWritten : part.IsWrittenAs definition) : IsPlain definition := by
  unfold Part.IsWrittenAs at isWritten
  split at isWritten
  · trivial
  · trivial
  · next described definition =>
      have isOwn : described ∈ schema.directives.filter isOwnDirective :=
        directives_of_parts ▸ List.mem_filterMap.2 ⟨_, member, rfl⟩
      have notLeftOut := (List.mem_filter.1 isOwn).2
      rw [isOwnDirective, Bool.not_eq_true', ← isWritten] at notLeftOut
      have areLeftOut : ∀ directive ∈ TypeSystem.builtInDirectives,
          builtInDirectives.contains directive.name.text = true := by decide
      intro directive isBuiltIn same
      rw [← same, areLeftOut directive isBuiltIn] at notLeftOut
      cases notLeftOut
  · exact isWritten.elim

/-- No part of a schema extends anything. -/
theorem isPlain_of_all {parts : List Part} {definitions : List Definition}
    (areWritten : List.Forall₂ Part.IsWrittenAs parts definitions)
    (ofSchema : ∀ part ∈ parts, part ∈ schema.parts) :
    ∀ definition ∈ definitions, IsPlain definition := by
  induction areWritten with
  | nil => nofun
  | cons isWritten _ ih =>
      obtain ⟨first, others⟩ := List.forall_mem_cons.1 ofSchema
      exact List.forall_mem_cons.2 ⟨isPlain_of_written first isWritten, ih others⟩

end parts

section source

variable {schema : DescribedSchema}

/-- The parts of a sound schema are sound. -/
theorem isSound_of_parts (sound : ∀ word ∈ schema.words, word.IsSound)
    (haveMembers : ∀ type ∈ schema.types, type.body ≠ .union []) :
    ∀ part ∈ schema.parts, part.IsSound := by
  simp only [DescribedSchema.words, List.forall_mem_append] at sound
  obtain ⟨⟨-, types⟩, directives⟩ := sound
  intro part member
  rcases List.mem_append.1 member with member | isDirective
  · rcases List.mem_append.1 member with isRoots | isType
    · split at isRoots
      · cases isRoots
      · rw [List.mem_singleton.1 isRoots]
        trivial
    · obtain ⟨type, isOwn, rfl⟩ := List.mem_map.1 isType
      exact ⟨each_sound types isOwn, haveMembers type (List.mem_filter.1 isOwn).1⟩
  · obtain ⟨directive, isOwn, rfl⟩ := List.mem_map.1 isDirective
    exact each_sound directives isOwn

/-- Without faults, the source of a schema is read as one definition for each of its parts. -/
theorem parse_source (sound : ∀ word ∈ schema.words, word.IsSound)
    (haveMembers : ∀ type ∈ schema.types, type.body ≠ .union [])
    (places : ∀ directive ∈ schema.directives, ∀ place ∈ directive.locations, IsName place)
    (clean : (Document.parse schema.source).faults = []) :
    List.Forall₂ Part.IsWrittenAs schema.parts (Document.parse schema.source).definitions := by
  obtain ⟨areSigns, -⟩ := (lexes_source sound places).tokens
  rw [sourceSigns_eq] at areSigns
  have enough : 2 * (schema.parts.flatMap Part.signs).length ≤
      2 * (tokens schema.source.toList).length + 8 := by
    have count := congrArg List.length areSigns
    rw [List.length_map, List.length_append] at count
    omega
  have stands : Stands 0 (schema.parts.flatMap Part.signs ++ [.stop])
      ⟨tokens schema.source.toList, [], 0, false⟩ := ⟨rfl, rfl, rfl, areSigns⟩
  exact leads_definitions (isSound_of_parts sound haveMembers) enough _ stands
    (List.reverse_eq_nil_iff.1 (List.append_eq_nil_iff.1 clean).2)

/-- A schema is only read when nothing was found in its source. -/
theorem build_of_read {location source : String} {schema : TypeSystem.Schema}
    (isRead : TypeSystem.Schema.read location source = .ok schema) :
    (Document.parse source).faults = [] ∧ (build (Document.parse source)).2 = [] ∧
      schema = (build (Document.parse source)).1.withoutUnused := by
  unfold TypeSystem.Schema.read at isRead
  split at isRead
  · next built examined =>
      have isBuilt : (build (Document.parse source)).1 = built := congrArg Prod.fst examined
      have clean : Validation.inOrder (Validation.syntaxFindings (Document.parse source) ++
          (build (Document.parse source)).2 ++ check (build (Document.parse source)).1) = [] :=
        congrArg Prod.snd examined
      have count := congrArg List.length clean
      rw [Validation.inOrder, List.length_mergeSort, List.length_append, List.length_append,
        Validation.syntaxFindings, List.length_map, List.length_nil] at count
      refine ⟨List.length_eq_zero_iff.1 (by omega), List.length_eq_zero_iff.1 (by omega), ?_⟩
      rw [isBuilt]
      exact (Except.ok.inj isRead).symm
  · cases isRead

/-- The places where a directive can stand are names. -/
theorem isName_of_location {place : String} (isPlace : directiveLocations.contains place = true) :
    IsName place := by
  have names : ∀ place ∈ directiveLocations, IsName place := by decide
  exact names place (List.contains_iff_mem.1 isPlace)

end source

section descriptions

/-- Three quotes in a row. -/
def blockQuotes : List Char := ['"', '"', '"']

/-- A block goes on up to the quotes behind a text in which three quotes never stand in a row. -/
theorem blockFrom_text {text : List Char} {free seen length : Nat} (few : seen ≤ 2)
    (apart : ¬blockQuotes <:+: List.replicate seen '"' ++ text) :
    blockFrom free seen length (text ++ '\n' :: blockQuotes) =
      ⟨.token .text, length + text.length + 4⟩ := by
  induction text generalizing free seen length with
  | nil =>
      rw [List.nil_append, blockFrom, if_neg (by decide)]
      rfl
  | cons c text ih =>
      have behind : blockQuotes <:+: text → blockQuotes <:+: List.replicate seen '"' ++ c :: text :=
        fun found => found.trans ((List.suffix_cons c text).trans (List.suffix_append _ _)).isInfix
      have later (free : Nat) : blockFrom free 0 (length + 1) (text ++ '\n' :: blockQuotes) =
          ⟨.token .text, length + 1 + text.length + 4⟩ := ih (Nat.zero_le 2) (apart ∘ behind)
      have count : length + (c :: text).length + 4 = length + 1 + text.length + 4 := by
        rw [List.length_cons]
        omega
      rw [List.cons_append, blockFrom, count]
      split
      · next isQuote =>
          subst isQuote
          split
          · exact later _
          have notLast : seen ≠ 2 := by
            rintro rfl
            exact apart ⟨[], text, rfl⟩
          rw [if_neg notLast]
          refine ih (by omega) ?_
          rwa [List.replicate_succ', List.append_assoc]
      · exact later _

/-- A description in which three quotes never stand in a row stays within its block. -/
theorem staysInBlock_of_apart {text : String} (apart : ¬blockQuotes <:+: text.toList) :
    StaysInBlock text := by
  have whole : blockFrom 0 0 0 (text.toList ++ '\n' :: blockQuotes) =
      ⟨.token .text, 0 + text.toList.length + 4⟩ := blockFrom_text (Nat.zero_le 2) apart
  rw [Nat.zero_add] at whole
  rw [StaysInBlock, blockPiece_eq]
  exact whole

end descriptions

section answers

/-- What holds of everything that is made of an item holds of all that is made of some items. -/
theorem forall_of_mapM {α β : Type} {make : α → Option β} {holds : β → Prop}
    (each : ∀ item result, make item = some result → holds result) {items : List α}
    {results : List β} (areMade : items.mapM make = some results) :
    ∀ result ∈ results, holds result := by
  induction items generalizing results with
  | nil =>
      cases areMade
      nofun
  | cons item items ih =>
      rw [List.mapM_cons] at areMade
      obtain ⟨first, isMade, areMade⟩ := Option.bind_eq_some_iff.1 areMade
      obtain ⟨others, areOthers, areMade⟩ := Option.bind_eq_some_iff.1 areMade
      cases areMade
      exact List.forall_mem_cons.2 ⟨each item first isMade, ih areOthers⟩

/-- A chain succeeds when both of its steps do. -/
theorem bind_eq_ok {α β ε : Type} {first : Except ε α} {next : α → Except ε β} {result : β}
    (isOk : first >>= next = .ok result) :
    ∃ between, first = .ok between ∧ next between = .ok result := by
  cases first with
  | error error => cases isOk
  | ok between => exact ⟨between, rfl, isOk⟩

/-- What is made of every item holds for all results. -/
theorem forall_of_mapM_ok {α β ε : Type} {make : α → Except ε β} {wanted : α → Prop}
    {holds : β → Prop} (each : ∀ item result, wanted item → make item = .ok result → holds result)
    {items : List α} (areWanted : ∀ item ∈ items, wanted item) {results : List β}
    (areMade : items.mapM make = .ok results) : ∀ result ∈ results, holds result := by
  induction items generalizing results with
  | nil =>
      cases areMade
      nofun
  | cons item items ih =>
      obtain ⟨isWanted, areWanted⟩ := List.forall_mem_cons.1 areWanted
      rw [List.mapM_cons] at areMade
      obtain ⟨first, isMade, areMade⟩ := bind_eq_ok areMade
      obtain ⟨others, areOthers, areMade⟩ := bind_eq_ok areMade
      cases areMade
      exact List.forall_mem_cons.2 ⟨each item first isWanted isMade, ih areWanted areOthers⟩

/-- The place of a directive is listed by a name. -/
theorem isName_of_decodeLocation {value : Json.Value} {place : String}
    (decoded : decodeLocation value = some place) : IsName place := by
  obtain ⟨name, -, decoded⟩ := Option.bind_eq_some_iff.1 decoded
  split at decoded
  · next isPlace =>
      cases decoded
      exact isName_of_location isPlace
  · cases decoded

/-- All places of a directive are listed by names. -/
theorem isName_of_decodeDirective {value : Json.Value} {listed : ListedDirective}
    (decoded : decodeDirective value = some listed) : ∀ place ∈ listed.locations, IsName place := by
  unfold decodeDirective at decoded
  simp only [Option.bind_eq_bind, Option.bind_eq_some_iff] at decoded
  obtain ⟨name, -, description, -, arguments, -, locations, areLocations, _, -, same⟩ := decoded
  cases same
  obtain ⟨held, -, areLocations⟩ := Option.bind_eq_some_iff.1 areLocations
  unfold listOf at areLocations
  split at areLocations
  · exact forall_of_mapM (fun _ _ => isName_of_decodeLocation) areLocations
  · cases areLocations

/-- The places of all directives in a listing are names. -/
theorem isName_of_decode {value : Json.Value} {listing : Listing}
    (decoded : Listing.decode value = some listing) :
    ∀ directive ∈ listing.directives, ∀ place ∈ directive.locations, IsName place := by
  unfold Listing.decode at decoded
  simp only [Option.bind_eq_bind, Option.bind_eq_some_iff] at decoded
  obtain ⟨query, -, mutation, -, subscription, -, types, -, directives, areDirectives, same⟩ :=
    decoded
  cases same
  obtain ⟨held, -, areDirectives⟩ := Option.bind_eq_some_iff.1 areDirectives
  unfold listOf at areDirectives
  split at areDirectives
  · exact forall_of_mapM (fun _ _ => isName_of_decodeDirective) areDirectives
  · cases areDirectives

/-- The places of all described directives are names. -/
theorem isName_of_ofListing {listing : Listing} {schema : DescribedSchema}
    (areNames : ∀ directive ∈ listing.directives, ∀ place ∈ directive.locations, IsName place)
    (isListed : DescribedSchema.ofListing listing = .ok schema) :
    ∀ directive ∈ schema.directives, ∀ place ∈ directive.locations, IsName place := by
  obtain ⟨query, -, isListed⟩ := bind_eq_ok isListed
  obtain ⟨mutation, -, isListed⟩ := bind_eq_ok isListed
  obtain ⟨subscription, -, isListed⟩ := bind_eq_ok isListed
  obtain ⟨types, -, isListed⟩ := bind_eq_ok isListed
  obtain ⟨directives, areDirectives, isListed⟩ := bind_eq_ok isListed
  cases isListed
  refine forall_of_mapM_ok (fun listed described areNames isMade => ?_) areNames areDirectives
  unfold describedDirective at isMade
  cases areArguments : listed.arguments.mapM inputOf with
  | error error =>
      rw [areArguments] at isMade
      cases isMade
  | ok arguments =>
      rw [areArguments] at isMade
      cases isMade
      exact areNames

/-- The directives of an answer can stand at places that are names. -/
theorem isName_of_ofAnswer {answer : Json.Value} {schema : DescribedSchema}
    (isDescribed : DescribedSchema.ofAnswer answer = .ok schema) :
    ∀ directive ∈ schema.directives, ∀ place ∈ directive.locations, IsName place := by
  unfold DescribedSchema.ofAnswer at isDescribed
  split at isDescribed
  · cases isDescribed
  split at isDescribed
  · cases isDescribed
  · cases isDescribed
  split at isDescribed
  · cases isDescribed
  · next listing decoded =>
      refine isName_of_ofListing (isName_of_decode decoded) ?_
      cases isListed : DescribedSchema.ofListing listing with
      | error error =>
          rw [isListed] at isDescribed
          cases isDescribed
      | ok described =>
          rw [isListed] at isDescribed
          cases isDescribed
          rfl

end answers

/-- A schema that is built from the source of a described schema has a type for each type and a
directive for each directive, in their order, except those that every schema has. The names must be
those of the language, the defaults must be literals, descriptions must stay within their blocks,
and unions must have members. -/
theorem described_is_built {answer : Json.Value} {described : DescribedSchema}
    (isDescribed : DescribedSchema.ofAnswer answer = .ok described)
    (sound : ∀ word ∈ described.words, word.IsSound)
    (haveMembers : ∀ type ∈ described.types, type.body ≠ .union []) {location : String}
    {schema : TypeSystem.Schema}
    (isBuilt : TypeSystem.Schema.read location described.source = .ok schema) :
    List.Forall₂ DescribedType.IsWrittenAs (described.types.filter isOwnType) schema.ownTypes ∧
      List.Forall₂ DescribedDirective.IsWrittenAs (described.directives.filter isOwnDirective)
        schema.ownDirectives := by
  obtain ⟨noFaults, noFindings, rfl⟩ := build_of_read isBuilt
  have areWritten := parse_source sound haveMembers (isName_of_ofAnswer isDescribed) noFaults
  obtain ⟨types, directives⟩ := build_own (isPlain_of_all areWritten fun _ => id) noFindings
  rw [types, directives, ← types_of_parts, ← directives_of_parts]
  exact ⟨definedTypes areWritten, definedDirectives areWritten⟩

/-- A union without members takes the word behind it for its member, so that the type with that word
is lost. Its name and its field are read as the roots of the schema. -/
example : (TypeSystem.Schema.read "introspection.json" (DescribedSchema.source
      ⟨"Query", none, none, [⟨"Any", none, .union []⟩,
        ⟨"schema", none, .object [] [⟨"query", none, [], .named ⟨"type", 0⟩, none⟩]⟩,
        ⟨"type", none, .object [] [⟨"a", none, [], .named ⟨"Int", 0⟩, none⟩]⟩], []⟩)).toOption.map
      (fun schema => schema.ownTypes.map fun type => type.name.text) = some ["Any", "type"] := by
  decide +kernel

section samples

/-- This answer tells of a schema with one described type, which has one field. -/
def sampleAnswer (description : String) : Json.Value :=
  .object [("__schema", .object [
    ("queryType", .object [("name", .text "Query")]), ("mutationType", .null),
    ("subscriptionType", .null),
    ("types", .list [.object [("kind", .text "OBJECT"), ("name", .text "Query"),
      ("description", .text description),
      ("fields", .list [.object [("name", .text "a"), ("description", .null), ("args", .list []),
        ("type", .object [("kind", .text "SCALAR"), ("name", .text "Int"), ("ofType", .null)]),
        ("isDeprecated", .boolean false), ("deprecationReason", .null)]]),
      ("inputFields", .null), ("interfaces", .list []), ("enumValues", .null),
      ("possibleTypes", .null)]]),
    ("directives", .list [])])]

def sampleSchema (description : String) : DescribedSchema :=
  ⟨"Query", none, none, [⟨"Query", some description,
    .object [] [⟨"a", none, [], .named ⟨"Int", 0⟩, none⟩]⟩], []⟩

/-- The sample answer describes the sample schema. -/
theorem ofAnswer_sample (description : String) :
    DescribedSchema.ofAnswer (sampleAnswer description) = .ok (sampleSchema description) := rfl

/-- Only the description of the sample may not be sound. -/
theorem sound_or_description (description : String) :
    ∀ word ∈ (sampleSchema description).words, word.IsSound ∨ word = .description description := by
  have noReserved : "Query".startsWith "__" = false := by decide +kernel
  have own : (sampleSchema description).types.filter isOwnType =
      (sampleSchema description).types := by
    refine List.filter_eq_self.2 fun type member => ?_
    rw [List.mem_singleton.1 member]
    exact congrArg Bool.not noReserved
  intro word member
  have isWord : word = .name "Query" ∨ word = .description description ∨ word = .name "Query" ∨
      word = .name "a" ∨ word = .name "Int" := by
    simp only [DescribedSchema.words, own] at member
    simpa [sampleSchema, DescribedType.words, DescribedBody.words, DescribedField.words,
      describingWords, TypeRef.core] using member
  rcases isWord with rfl | rfl | rfl | rfl | rfl
  · exact .inl (by decide : IsName "Query")
  · exact .inr rfl
  · exact .inl (by decide : IsName "Query")
  · exact .inl (by decide : IsName "a")
  · exact .inl (by decide : IsName "Int")

/-- This description has quotes, but three of them never stand in a row. -/
def quotingDescription : String := "say \"\"now\"\""

/-- A description with quotes in it stays within its block, and the schema is built. -/
theorem described_is_built_quoting : ∃ schema,
    DescribedSchema.ofAnswer (sampleAnswer quotingDescription) =
      .ok (sampleSchema quotingDescription) ∧
    (∀ word ∈ (sampleSchema quotingDescription).words, word.IsSound) ∧
    (∀ type ∈ (sampleSchema quotingDescription).types, type.body ≠ .union []) ∧
    TypeSystem.Schema.read "introspection.json" (sampleSchema quotingDescription).source =
      .ok schema ∧
    List.Forall₂ DescribedType.IsWrittenAs
      ((sampleSchema quotingDescription).types.filter isOwnType) schema.ownTypes ∧
    List.Forall₂ DescribedDirective.IsWrittenAs
      ((sampleSchema quotingDescription).directives.filter isOwnDirective)
      schema.ownDirectives := by
  have isDescribed := ofAnswer_sample quotingDescription
  have stays : StaysInBlock quotingDescription := staysInBlock_of_apart (by decide +kernel)
  have sound : ∀ word ∈ (sampleSchema quotingDescription).words, word.IsSound := by
    intro word member
    rcases sound_or_description _ word member with isSound | rfl
    · exact isSound
    · exact stays
  have haveMembers : ∀ type ∈ (sampleSchema quotingDescription).types, type.body ≠ .union [] := by
    intro type member
    rw [List.mem_singleton.1 member]
    nofun
  have isRead : (TypeSystem.Schema.read "introspection.json"
      (sampleSchema quotingDescription).source).isOk = true := by
    decide +kernel
  cases isBuilt : TypeSystem.Schema.read "introspection.json"
      (sampleSchema quotingDescription).source with
  | error invalid =>
      rw [isBuilt] at isRead
      cases isRead
  | ok schema =>
      exact ⟨schema, isDescribed, sound, haveMembers, rfl,
        described_is_built isDescribed sound haveMembers isBuilt⟩

/-- This description closes its block. -/
def closingDescription : String := "x\"\"\"\nscalar Injected\n\"\"\"y"

/-- What stands behind a description that closes its block is read as a definition. -/
theorem description_defines_type : ∃ schema,
    DescribedSchema.ofAnswer (sampleAnswer closingDescription) =
      .ok (sampleSchema closingDescription) ∧
    (∀ word ∈ (sampleSchema closingDescription).words,
      word.IsSound ∨ word = .description closingDescription) ∧
    TypeSystem.Schema.read "introspection.json" (sampleSchema closingDescription).source =
      .ok schema ∧
    ((sampleSchema closingDescription).types.filter isOwnType).map DescribedType.name =
      ["Query"] ∧
    schema.ownTypes.map (fun type => type.name.text) = ["Injected", "Query"] := by
  have areBuilt : (TypeSystem.Schema.read "introspection.json"
      (sampleSchema closingDescription).source).toOption.map (fun schema =>
        schema.ownTypes.map fun type => type.name.text) = some ["Injected", "Query"] := by
    decide +kernel
  cases isBuilt : TypeSystem.Schema.read "introspection.json"
      (sampleSchema closingDescription).source with
  | error invalid =>
      rw [isBuilt] at areBuilt
      cases areBuilt
  | ok schema =>
      rw [isBuilt] at areBuilt
      exact ⟨schema, ofAnswer_sample _, sound_or_description _, rfl, by decide +kernel,
        Option.some.inj areBuilt⟩

end samples

end OperationCheck.Introspection
