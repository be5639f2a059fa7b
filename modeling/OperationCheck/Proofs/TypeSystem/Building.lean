import OperationCheck.TypeSystem.Source
import Mathlib.Logic.Basic

/-!
What is built without any finding. Definitions that clash with nothing are held in their order,
behind everything that is built in.
-/

namespace OperationCheck.TypeSystem

open OperationCheck.Language OperationCheck.Validation

section parts

variable {α : Type} {key : α → String} {repeated : α → Finding}

/-- Without findings, all items are added. -/
theorem addDistinct_eq {held items : List α} (clean : (addDistinct key repeated held items).2 = []) :
    (addDistinct key repeated held items).1 = held ++ items := by
  induction items generalizing held with
  | nil => exact (List.append_nil held).symm
  | cons item items ih =>
      rw [addDistinct] at clean ⊢
      split at clean
      · cases clean
      · next isNew =>
          rw [if_neg isNew, ih clean, List.append_assoc]
          rfl

end parts

/-- Without findings, a definition keeps its parts. -/
theorem distinctParts_eq {definition : TypeDefinition}
    (clean : (distinctParts definition).2 = []) : (distinctParts definition).1 = definition := by
  obtain ⟨place, name, directives, body⟩ := definition
  cases body with
  | scalar => rfl
  | object interfaces fields =>
      obtain ⟨first, second⟩ := List.append_eq_nil_iff.1 clean
      exact congrArg₂ (fun interfaces fields =>
        (⟨place, name, directives, .object interfaces fields⟩ : TypeDefinition))
        (addDistinct_eq first) (addDistinct_eq second)
  | interface interfaces fields =>
      obtain ⟨first, second⟩ := List.append_eq_nil_iff.1 clean
      exact congrArg₂ (fun interfaces fields =>
        (⟨place, name, directives, .interface interfaces fields⟩ : TypeDefinition))
        (addDistinct_eq first) (addDistinct_eq second)
  | union members =>
      exact congrArg (fun members => (⟨place, name, directives, .union members⟩ : TypeDefinition))
        (addDistinct_eq clean)
  | enum values =>
      exact congrArg (fun values => (⟨place, name, directives, .enum values⟩ : TypeDefinition))
        (addDistinct_eq clean)
  | inputObject fields =>
      exact congrArg (fun fields => (⟨place, name, directives, .inputObject fields⟩ : TypeDefinition))
        (addDistinct_eq clean)

section findings

variable {building : Building}

/-- What has been found stays found. -/
theorem findings_extendSchema (addition : SchemaDefinition) :
    building.findings <+: (building.extendSchema addition).findings := List.prefix_append _ _

/-- Extending a schema only adds findings. -/
theorem findings_extendSchemas (additions : List SchemaDefinition) (building : Building) :
    building.findings <+: (additions.foldl Building.extendSchema building).findings := by
  induction additions generalizing building with
  | nil => exact List.prefix_refl _
  | cons addition additions ih =>
      exact (findings_extendSchema addition).trans (ih (building.extendSchema addition))

theorem findings_addSchema (definition : SchemaDefinition) :
    building.findings <+: (building.addSchema definition).findings := by
  unfold Building.addSchema
  dsimp only
  split
  · exact List.prefix_append _ _
  · refine List.IsPrefix.trans ?_ (findings_extendSchemas _ _)
    exact List.prefix_append _ _

theorem findings_addType (definition : TypeDefinition) :
    building.findings <+: (building.addType definition).findings := by
  have either (holds : Bool) (first second : List Finding) : building.findings <+:
      (if holds then building.add first else building.add second).findings := by
    cases holds <;> exact List.prefix_append _ _
  unfold Building.addType
  dsimp only
  split
  · exact either _ _ _
  · rw [List.append_assoc]
    exact List.prefix_append _ _

theorem findings_extendType (addition : TypeDefinition) :
    building.findings <+: (building.extendType addition).findings := by
  unfold Building.extendType
  simp only
  split
  · exact List.prefix_refl _
  · split <;> exact List.prefix_append _ _

theorem findings_addDirective (definition : DirectiveDefinition) :
    building.findings <+: (building.addDirective definition).findings := by
  unfold Building.addDirective
  simp only
  split
  · exact List.prefix_refl _
  · exact List.prefix_refl _
  · exact List.prefix_append _ _

/-- No definition takes a finding away. -/
theorem findings_addDefinition (definition : Definition) :
    building.findings <+: (building.addDefinition definition).findings := by
  unfold Building.addDefinition
  split
  · exact findings_addSchema _
  · split
    · exact findings_extendSchema _
    · exact List.prefix_refl _
  · exact findings_addType _
  · exact findings_extendType _
  · exact findings_addDirective _
  · exact List.prefix_append _ _

/-- Findings are never taken away while definitions are added. -/
theorem findings_foldl (definitions : List Definition) (building : Building) :
    building.findings <+: (definitions.foldl Building.addDefinition building).findings := by
  induction definitions generalizing building with
  | nil => exact List.prefix_refl _
  | cons definition definitions ih =>
      exact (findings_addDefinition definition).trans (ih (building.addDefinition definition))

end findings

/-- The type that a definition defines. -/
def definedType : Definition → Option TypeDefinition
  | .type false definition => some definition
  | _ => none

def definedDirective : Definition → Option DirectiveDefinition
  | .directive definition => some definition
  | _ => none

/-- Nothing is extended, and no directive that is built in is defined once more. -/
def IsPlain : Definition → Prop
  | .schema false _ | .type false _ => True
  | .directive definition =>
      ∀ directive ∈ builtInDirectives, directive.name.text ≠ definition.name.text
  | _ => False

/-- What is built of some definitions of types and directives when nothing clashes. -/
structure Gathers (types : List TypeDefinition) (directives : List DirectiveDefinition)
    (building : Building) : Prop where
  hasTypes : building.schema.types = Schema.builtIn.types ++ types.map (⟨·, false⟩)
  hasDirectives :
    building.schema.directives = Schema.builtIn.directives ++ directives.map (⟨·, false⟩)
  noScalar : ∀ type ∈ types, isBuiltInScalar type.name.text = false
  noSchemaWaits : building.waitingSchemas = []
  noTypeWaits : building.waitingTypes = []

section steps

variable {building : Building} {types : List TypeDefinition}
  {directives : List DirectiveDefinition}

/-- A finding that is added is there. -/
theorem add_ne_nil (finding : Finding) : (building.add [finding]).findings ≠ [] :=
  List.append_ne_nil_of_right_ne_nil _ (by nofun)

/-- A schema definition adds no type and no directive. -/
theorem Gathers.addSchema (gathers : Gathers types directives building)
    (definition : SchemaDefinition) (clean : (building.addSchema definition).findings = []) :
    Gathers types directives (building.addSchema definition) := by
  unfold Building.addSchema at clean ⊢
  dsimp only at clean ⊢
  split at clean
  · exact absurd clean (add_ne_nil _)
  · next isFirst =>
      rw [if_neg isFirst, gathers.noSchemaWaits]
      exact ⟨gathers.hasTypes, gathers.hasDirectives, gathers.noScalar, rfl, gathers.noTypeWaits⟩

/-- A name that is not known is not that of a built-in scalar. -/
theorem Gathers.isBuiltInScalar (gathers : Gathers types directives building) {name : String}
    (unknown : building.schema.known? name = none) : isBuiltInScalar name = false := by
  unfold Schema.known? at unknown
  rw [gathers.hasTypes, List.find?_append, Option.or_eq_none_iff] at unknown
  have others := List.find?_eq_none.1 unknown.1
  have none : ∀ scalar ∈ builtInScalars, scalar.1 ≠ name := by
    intro scalar member same
    refine others ⟨⟨0, noName scalar.1, [], .scalar⟩, true⟩ ?_ (beq_iff_eq.2 same)
    refine List.mem_map.2 ⟨_, List.mem_append_right _ ?_, rfl⟩
    exact List.mem_map.2 ⟨scalar, member, rfl⟩
  exact List.any_eq_false.2 fun scalar member same => none scalar member (eq_of_beq same)

/-- A type that does not clash is added behind the others. -/
theorem Gathers.addType (gathers : Gathers types directives building) (definition : TypeDefinition)
    (clean : (building.addType definition).findings = []) :
    Gathers (types ++ [definition]) directives (building.addType definition) := by
  have either (holds : Bool) (first second : Finding) :
      (if holds then building.add [first] else building.add [second]).findings ≠ [] := by
    cases holds <;> exact add_ne_nil _
  unfold Building.addType at clean ⊢
  dsimp only at clean ⊢
  cases isKnown : building.schema.known? definition.name.text with
  | some known =>
      rw [isKnown] at clean
      exact absurd clean (either _ _ _)
  | none =>
      rw [isKnown] at clean
      dsimp only at clean ⊢
      rw [gathers.noTypeWaits] at clean ⊢
      have isWhole : (distinctParts definition).1 = definition :=
        distinctParts_eq (List.append_eq_nil_iff.1 (List.append_eq_nil_iff.1 clean).1).2
      refine ⟨?_, gathers.hasDirectives, ?_, gathers.noSchemaWaits, rfl⟩
      · show building.schema.types ++ [⟨(distinctParts definition).1, false⟩] = _
        rw [isWhole, gathers.hasTypes, List.map_append, List.append_assoc]
        rfl
      · intro type member
        rcases List.mem_append.1 member with isEarlier | isLast
        · exact gathers.noScalar type isEarlier
        · rw [List.mem_singleton.1 isLast]
          exact gathers.isBuiltInScalar isKnown

/-- A directive that does not clash is added behind the others. -/
theorem Gathers.addDirective (gathers : Gathers types directives building)
    {definition : DirectiveDefinition} (plain : IsPlain (.directive definition))
    (clean : (building.addDirective definition).findings = []) :
    Gathers types (directives ++ [definition]) (building.addDirective definition) := by
  unfold Building.addDirective at clean ⊢
  dsimp only at clean ⊢
  cases isKnown : building.schema.directives.find? fun known =>
      known.definition.name.text == definition.name.text with
  | none =>
      refine ⟨gathers.hasTypes, ?_, gathers.noScalar, gathers.noSchemaWaits, gathers.noTypeWaits⟩
      show building.schema.directives ++ [⟨definition, false⟩] = _
      rw [gathers.hasDirectives, List.map_append, List.append_assoc]
      rfl
  | some known =>
      obtain ⟨known, isBuiltIn⟩ := known
      rw [isKnown] at clean
      cases isBuiltIn with
      | false => exact absurd clean (add_ne_nil _)
      | true =>
          have held := List.mem_of_find?_eq_some isKnown
          have sameName := List.find?_some isKnown
          rw [gathers.hasDirectives] at held
          rcases List.mem_append.1 held with isBuiltIn | isOwn
          · obtain ⟨directive, member, same⟩ := List.mem_map.1 isBuiltIn
            cases same
            exact absurd (eq_of_beq sameName) (plain known member)
          · obtain ⟨directive, member, same⟩ := List.mem_map.1 isOwn
            cases same

/-- A definition that does not clash is added behind those of its kind. -/
theorem Gathers.addDefinition (gathers : Gathers types directives building)
    {definition : Definition} (plain : IsPlain definition)
    (clean : (building.addDefinition definition).findings = []) :
    Gathers (types ++ (definedType definition).toList)
      (directives ++ (definedDirective definition).toList) (building.addDefinition definition) := by
  cases definition with
  | schema isExtension definition =>
      cases isExtension with
      | false =>
          simp only [definedType, definedDirective, Option.toList_none, List.append_nil]
          exact gathers.addSchema definition clean
      | true => exact plain.elim
  | type isExtension definition =>
      cases isExtension with
      | false =>
          simp only [definedDirective, Option.toList_none, List.append_nil]
          exact gathers.addType definition clean
      | true => exact plain.elim
  | directive definition =>
      simp only [definedType, Option.toList_none, List.append_nil]
      exact gathers.addDirective plain clean
  | operation operation => exact plain.elim
  | fragment fragment => exact plain.elim

/-- What one definition adds is behind what the definitions before it have added. -/
theorem Gathers.foldl {definitions : List Definition} (plain : ∀ definition ∈ definitions,
    IsPlain definition) (gathers : Gathers types directives building)
    (clean : (definitions.foldl Building.addDefinition building).findings = []) :
    Gathers (types ++ definitions.filterMap definedType)
      (directives ++ definitions.filterMap definedDirective)
      (definitions.foldl Building.addDefinition building) := by
  induction definitions generalizing building types directives with
  | nil =>
      simp only [List.filterMap_nil, List.append_nil]
      exact gathers
  | cons definition definitions ih =>
      have grows : (building.addDefinition definition).findings <+:
          (definitions.foldl Building.addDefinition (building.addDefinition definition)).findings :=
        findings_foldl definitions _
      have first : (building.addDefinition definition).findings = [] :=
        List.prefix_nil.1 (clean ▸ grows)
      have rest := ih (fun later member => plain later (List.mem_cons_of_mem _ member))
        (gathers.addDefinition (plain definition List.mem_cons_self) first) clean
      have split {α : Type} (part : Definition → Option α) :
          (definition :: definitions).filterMap part =
            (part definition).toList ++ definitions.filterMap part := by
        rw [List.filterMap_cons]
        cases part definition <;> rfl
      rwa [split, split, ← List.append_assoc, ← List.append_assoc]

/-- Default roots add no type and no directive. -/
theorem Gathers.addDefaultRoots (gathers : Gathers types directives building) :
    Gathers types directives building.addDefaultRoots := by
  obtain ⟨hasTypes, hasDirectives, noScalar, noSchemaWaits, noTypeWaits⟩ := gathers
  unfold Building.addDefaultRoots
  split
  · exact ⟨hasTypes, hasDirectives, noScalar, noSchemaWaits, noTypeWaits⟩
  split
  · exact ⟨hasTypes, hasDirectives, noScalar, noSchemaWaits, noTypeWaits⟩
  · rw [noSchemaWaits]
    exact ⟨hasTypes, hasDirectives, noScalar, rfl, noTypeWaits⟩

/-- Default roots only add findings. -/
theorem findings_addDefaultRoots (building : Building) :
    building.findings <+: building.addDefaultRoots.findings := by
  unfold Building.addDefaultRoots
  split
  · exact List.prefix_refl _
  split
  · exact List.prefix_append _ _
  · exact findings_extendSchemas building.waitingSchemas { building with
      schema := { building.schema with roots := building.schema.defaultRoots } }

end steps

/-- The types of a schema that come from its source. -/
def Schema.ownTypes (schema : Schema) : List TypeDefinition :=
  (schema.types.filter fun known => !known.isBuiltIn).map KnownType.definition

def Schema.ownDirectives (schema : Schema) : List DirectiveDefinition :=
  (schema.directives.filter fun known => !known.isBuiltIn).map KnownDirective.definition

section own

variable {schema : Schema}

/-- Types that are built in are not of the source, and the types of the source are kept when none of
them has the name of a built-in scalar. -/
theorem ownTypes_withoutUnused {types : List TypeDefinition}
    (hasTypes : schema.types = Schema.builtIn.types ++ types.map (⟨·, false⟩))
    (noScalar : ∀ type ∈ types, isBuiltInScalar type.name.text = false) :
    schema.withoutUnused.ownTypes = types := by
  have kept (known : KnownType) (member : known ∈ types.map (KnownType.mk · false)) :
      (!known.isBuiltIn && (!isBuiltInScalar known.definition.name.text ||
        schema.usedTypes.contains known.definition.name.text)) = true := by
    obtain ⟨type, isOwn, rfl⟩ := List.mem_map.1 member
    rw [noScalar type isOwn]
    rfl
  have left (known : KnownType) (member : known ∈ Schema.builtIn.types) :
      ¬(!known.isBuiltIn && (!isBuiltInScalar known.definition.name.text ||
        schema.usedTypes.contains known.definition.name.text)) = true := by
    obtain ⟨type, -, rfl⟩ := List.mem_map.1 member
    exact Bool.false_ne_true
  simp only [Schema.ownTypes, Schema.withoutUnused, List.filter_filter, hasTypes,
    List.filter_append, List.filter_eq_nil_iff.2 left, List.filter_eq_self.2 kept,
    List.nil_append, List.map_map]
  exact List.map_id types

/-- The directives that are not built in are those that were gathered. -/
theorem ownDirectives_eq {directives : List DirectiveDefinition}
    (hasDirectives : schema.directives = Schema.builtIn.directives ++ directives.map (⟨·, false⟩)) :
    schema.ownDirectives = directives := by
  have kept (known : KnownDirective) (member : known ∈ directives.map (KnownDirective.mk · false)) :
      (!known.isBuiltIn) = true := by
    obtain ⟨directive, -, rfl⟩ := List.mem_map.1 member
    rfl
  have left (known : KnownDirective) (member : known ∈ Schema.builtIn.directives) :
      ¬(!known.isBuiltIn) = true := by
    obtain ⟨directive, -, rfl⟩ := List.mem_map.1 member
    exact Bool.false_ne_true
  simp only [Schema.ownDirectives, hasDirectives, List.filter_append,
    List.filter_eq_nil_iff.2 left, List.filter_eq_self.2 kept, List.nil_append, List.map_map]
  exact List.map_id directives

end own

/-- A schema without findings has the types and the directives that its document defines. -/
theorem build_own {document : Document}
    (plain : ∀ definition ∈ document.definitions, IsPlain definition)
    (clean : (build document).2 = []) :
    (build document).1.withoutUnused.ownTypes = document.definitions.filterMap definedType ∧
      (build document).1.withoutUnused.ownDirectives =
        document.definitions.filterMap definedDirective := by
  have start : Gathers [] [] ⟨Schema.builtIn, [], [], []⟩ :=
    ⟨(List.append_nil _).symm, (List.append_nil _).symm, nofun, rfl, rfl⟩
  have defined : (document.definitions.foldl Building.addDefinition
      ⟨Schema.builtIn, [], [], []⟩).findings = [] := by
    have grows := findings_addDefaultRoots
      (document.definitions.foldl Building.addDefinition ⟨Schema.builtIn, [], [], []⟩)
    rw [(List.append_eq_nil_iff.1 clean).1] at grows
    exact List.prefix_nil.1 grows
  obtain ⟨hasTypes, hasDirectives, noScalar, -, -⟩ := (start.foldl plain defined).addDefaultRoots
  rw [List.nil_append] at hasTypes hasDirectives noScalar
  exact ⟨ownTypes_withoutUnused hasTypes noScalar, ownDirectives_eq hasDirectives⟩

end OperationCheck.TypeSystem
