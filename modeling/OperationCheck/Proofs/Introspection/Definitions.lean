import OperationCheck.Proofs.Introspection.Signs
import OperationCheck.TypeSystem.Build

/-!
Reading the definitions of a schema as they are written. Each one gives a definition of its name and
of its kind, unless a fault is noted.
-/

namespace OperationCheck.Introspection

open OperationCheck.Language OperationCheck.Language.Reading

variable {depth : Nat} {rest : List Sign}

/-- No part goes on here: something begins, or a group or the source ends. -/
def EndsPart : List Sign → Prop
  | .name _ :: _ | .text :: _ | .stop :: _ | .mark ')' :: _ | .mark '\x7d' :: _ => True
  | _ => False

/-- What ends a part has no mark in front but one that closes a group. -/
theorem EndsPart.head_ne (ends : EndsPart rest) {c : Char} (opens : c ≠ ')' ∧ c ≠ '\x7d') :
    rest.head? ≠ some (.mark c) := by
  intro isMark
  obtain ⟨others, rfl⟩ := List.head?_eq_some_iff.1 isMark
  unfold EndsPart at ends
  split at ends
  · next same => cases same
  · next same => cases same
  · next same => cases same
  · next same =>
      cases same
      exact opens.1 rfl
  · next same =>
      cases same
      exact opens.2 rfl
  · exact ends

/-- A described item ends the part in front of it. -/
theorem endsPart_of_isDescribed (described : isDescribed rest = true) : EndsPart rest := by
  rcases rest with - | ⟨sign, others⟩
  · cases described
  · cases sign
    case name => trivial
    case text => trivial
    all_goals cases described

/-- An item has its description and its name in front. -/
theorem isDescribed_described (description : Option String) (name : String) (behind : List Sign) :
    isDescribed (descriptionSigns description ++ .name name :: behind) = true := by
  cases description <;> rfl

/-- A description is passed over if there is one. -/
theorem leads_described (description : Option String) (name : String) :
    Leads passDescription (Stands depth (descriptionSigns description ++ .name name :: rest))
      fun _ => Stands depth (.name name :: rest) := by
  cases description with
  | some text => exact leads_passDescription
  | none => exact leads_noDescription (by nofun)

/-- The directives that tell of a deprecation. -/
def deprecations : Option Deprecation → List (String × List (String × List Sign))
  | some ⟨some _⟩ => [("deprecated", [("reason", [.text])])]
  | some ⟨none⟩ => [("deprecated", [])]
  | none => []

/-- A deprecation is a directive that is applied. -/
theorem deprecationSigns_eq (deprecation : Option Deprecation) :
    deprecationSigns deprecation = (deprecations deprecation).flatMap appliedSigns := by
  rcases deprecation with - | ⟨- | reason⟩
  all_goals rfl

/-- A deprecation is read to its end. -/
theorem leads_deprecation (deprecation : Option Deprecation) (ends : EndsPart rest) {fuel : Nat}
    (enough : 2 * (deprecationSigns deprecation).length ≤ fuel) :
    Leads (readDirectives true fuel) (Stands depth (deprecationSigns deprecation ++ rest))
      fun _ => Stands depth rest := by
  rw [deprecationSigns_eq] at enough ⊢
  refine leads_readDirectives ?_ (ends.head_ne (by decide)) (ends.head_ne (by decide)) enough
  rcases deprecation with - | ⟨- | reason⟩
  · nofun
  · intro directive member argument isArgument
    obtain rfl := List.mem_singleton.1 member
    cases isArgument
  · intro directive member argument isArgument
    obtain rfl := List.mem_singleton.1 member
    obtain rfl := List.mem_singleton.1 isArgument
    exact .text

/-- A deprecation has no mark but its own in front. -/
theorem deprecation_head (deprecation : Option Deprecation) (ends : EndsPart rest) {c : Char}
    (opens : c ≠ ')' ∧ c ≠ '\x7d') (other : c ≠ '@') :
    (deprecationSigns deprecation ++ rest).head? ≠ some (.mark c) := by
  rcases deprecation with - | ⟨- | reason⟩
  · exact ends.head_ne opens
  all_goals
    rintro ⟨⟩
    exact other rfl

theorem leads_default {default : Option String} (isLiteral : ∀ text ∈ default, IsLiteral text)
    (unset : rest.head? ≠ some (.mark '=')) {fuel : Nat}
    (enough : 2 * (defaultSigns default).length ≤ fuel) :
    Leads (readDefault fuel) (Stands depth (defaultSigns default ++ rest))
      fun _ => Stands depth rest := by
  refine (asks_isAt '=').bind ?_
  cases default with
  | none =>
      rw [show defaultSigns none ++ rest = rest from rfl, beq_eq_false_iff_ne.2 unset]
      exact .pure fun _ stands => stands
  | some text =>
      simp only [defaultSigns, List.singleton_append, List.length_cons] at enough
      refine leads_pass.bind fun _ => ?_
      exact leads_readValue (isLiteral text rfl).isValue true false (by omega)

/-- A reader that is stuck reads no default. -/
theorem stuck_default (fuel : Nat) :
    Leads (readDefault fuel) (Stuck depth) fun _ => Stuck depth := by
  refine .exists fun signs => .and fun isStuck => (asks_isAt '=').bind ?_
  obtain ⟨others, rfl⟩ := List.head?_eq_some_iff.1 isStuck
  exact .pure fun reader stands => ⟨_, isStuck, stands⟩

/-- Where the reader is stuck, no directives are read. -/
theorem stuck_directives (fuel : Nat) :
    Leads (readDirectives true fuel) (Stuck depth) fun _ => Stuck depth := by
  refine .exists fun signs => .and fun isStuck => ?_
  obtain ⟨others, rfl⟩ := List.head?_eq_some_iff.1 isStuck
  refine (leads_many_none (asks_isAt '@') _ rfl fuel).imp fun _ reader stands => ?_
  exact ⟨_, isStuck, stands.2⟩

theorem leads_input {input : DescribedInput} (sound : ∀ word ∈ input.words, word.IsSound)
    (ends : EndsPart rest) {fuel : Nat} (enough : 2 * (inputSigns input).length ≤ fuel) :
    Leads (readInput fuel) (Stands depth (inputSigns input ++ rest))
      fun _ reader => Stands depth rest reader ∨ Stuck depth reader := by
  simp only [inputSigns, List.length_append, List.length_singleton] at enough
  simp only [inputSigns, List.append_assoc, List.cons_append, List.nil_append]
  have areLiterals : ∀ text ∈ input.default, IsLiteral text := fun text isDefault =>
    sound (.literal text) (List.mem_append_right _
      (List.mem_map.2 ⟨text, Option.mem_toList.2 isDefault, rfl⟩))
  have unset : (deprecationSigns input.deprecation ++ rest).head? ≠ some (.mark '=') :=
    deprecation_head _ ends (by decide) (by decide)
  have nullable : (defaultSigns input.default ++
      (deprecationSigns input.deprecation ++ rest)).head? ≠ some (.mark '!') := by
    cases input.default with
    | none => exact deprecation_head _ ends (by decide) (by decide)
    | some text => nofun
  refine leads_here fun place => (leads_described _ _).bind fun _ => ?_
  refine (leads_nameOr _).bind fun name => .and fun _ => ?_
  refine (asks_isAt ':').bind (leads_pass.bind fun _ => ?_)
  refine asks_isAtType.bind ?_
  rw [isAtType_typeSigns, if_pos rfl]
  refine (leads_readType _ nullable (by omega)).bind fun type => .or ?_ ?_
  · refine (leads_default areLiterals unset (by omega)).bind fun default => ?_
    refine (leads_deprecation _ ends (by omega)).bind fun directives => ?_
    exact .pure fun _ stands => .inl stands
  · refine (stuck_default fuel).bind fun default => ?_
    exact (stuck_directives fuel).bind fun directives => .pure fun _ stuck => .inr stuck

/-- Described items are read up to the mark that closes their group. -/
theorem leads_items {α γ : Type} {step : Reading (Option α)} {signsOf : γ → List Sign}
    {items : List γ} (nonempty : items ≠ [])
    (described : ∀ item behind, isDescribed (signsOf item ++ behind) = true) {fuel : Nat}
    (each : ∀ item ∈ items, ∀ behind, EndsPart behind → 2 * (signsOf item).length ≤ fuel →
      Leads step (Stands depth (signsOf item ++ behind))
        fun _ reader => Stands depth behind reader ∨ Stuck depth reader)
    {c : Char} (closes : c = ')' ∨ c = '\x7d') (form : String)
    (enough : 2 * (items.flatMap signsOf).length ≤ fuel) :
    Leads (atLeastOne isAtDescribed step form fuel)
      (Stands depth (items.flatMap signsOf ++ .mark c :: rest))
      fun _ reader => Stands depth (.mark c :: rest) reader ∨ Stuck depth reader := by
  have count : items.length ≤ (items.flatMap signsOf).length := by
    refine length_le_of_nonempty fun item member isNil => ?_
    have begun := described item []
    rw [isNil] at begun
    cases begun
  have starts : isDescribed (items.flatMap signsOf ++ .mark c :: rest) = true := by
    obtain ⟨first, others, rfl⟩ := List.exists_cons_of_ne_nil nonempty
    rw [List.flatMap_cons, List.append_assoc]
    exact described first _
  have ends : EndsPart (.mark c :: rest) := by rcases closes with rfl | rfl <;> trivial
  refine leads_atLeastOne asks_isAtDescribed starts ?_ form
  have stopped (signs : List Sign) (isStuck : IsStuck signs) : isDescribed signs = false := by
    obtain ⟨others, rfl⟩ := List.head?_eq_some_iff.1 isStuck
    rfl
  have one (item) (member : item ∈ items) (behind : List Sign) (isEnd : EndsPart behind) :
      Leads step (Stands depth (signsOf item ++ behind)) fun _ reader =>
        True ∧ Stands depth behind reader ∨ Stuck depth reader := by
    have within : (signsOf item).length ≤ (items.flatMap signsOf).length :=
      length_le_flatMap member
    exact (each item member behind isEnd (by omega)).imp fun _ _ => Or.imp_left (⟨trivial, ·⟩)
  have all := leads_many asks_isAtDescribed stopped rfl (fun item _ => described item) one
    (fun item _ behind => endsPart_of_isDescribed (described item behind)) ends
    (show items.length ≤ fuel by omega)
  exact all.imp fun _ _ => Or.imp_left And.right

theorem isDescribed_input (input : DescribedInput) (behind : List Sign) :
    isDescribed (inputSigns input ++ behind) = true := by
  simp only [inputSigns, List.append_assoc, List.cons_append]
  exact isDescribed_described _ _ _

/-- The arguments of a field or of a directive. -/
theorem leads_arguments {arguments : List DescribedInput}
    (sound : ∀ argument ∈ arguments, ∀ word ∈ argument.words, word.IsSound)
    (noArguments : rest.head? ≠ some (.mark '(')) {fuel : Nat}
    (enough : 2 * (argumentSigns arguments).length ≤ fuel) :
    Leads (readArgumentDefinitions fuel) (Stands depth (argumentSigns arguments ++ rest))
      fun _ => Stands depth rest := by
  refine (asks_isAt '(').bind ?_
  cases isFull : arguments.isEmpty with
  | true =>
      rw [show argumentSigns arguments = [] from if_pos isFull, List.nil_append,
        beq_eq_false_iff_ne.2 noArguments]
      exact .pure fun _ stands => stands
  | false =>
      have isGroup : argumentSigns arguments =
          .mark '(' :: (arguments.flatMap inputSigns ++ [.mark ')']) := by
        simp only [argumentSigns, isFull, List.cons_append, List.nil_append]
        rfl
      rw [isGroup, List.length_cons, List.length_append] at enough
      rw [isGroup, List.cons_append, List.append_assoc]
      refine leads_pass.bind fun _ => ?_
      refine (leads_items (by simpa using isFull) isDescribed_input
        (fun argument member _ ends => leads_input (sound argument member) ends) (.inl rfl) _
        (by omega)).bind fun inputs => ?_
      exact (leads_close (by decide)).bind fun _ => .pure fun _ stands => stands

theorem leads_field {field : DescribedField} (sound : ∀ word ∈ field.words, word.IsSound)
    (ends : EndsPart rest) {fuel : Nat} (enough : 2 * (fieldSigns field).length ≤ fuel) :
    Leads (readFieldDefinition fuel) (Stands depth (fieldSigns field ++ rest))
      fun _ reader => Stands depth rest reader ∨ Stuck depth reader := by
  simp only [fieldSigns, List.length_append, List.length_singleton] at enough
  simp only [fieldSigns, List.append_assoc, List.cons_append, List.nil_append]
  have arguments : ∀ argument ∈ field.arguments, ∀ word ∈ argument.words, word.IsSound :=
    fun argument member word isWord => sound word (List.mem_append_right _
      (List.mem_flatMap.2 ⟨argument, member, isWord⟩))
  have nullable : (deprecationSigns field.deprecation ++ rest).head? ≠ some (.mark '!') :=
    deprecation_head _ ends (by decide) (by decide)
  refine leads_here fun place => (leads_described _ _).bind fun _ => ?_
  refine (leads_nameOr _).bind fun name => .and fun _ => ?_
  refine (leads_arguments arguments (by nofun) (by omega)).bind fun _ => ?_
  refine (asks_isAt ':').bind (leads_pass.bind fun _ => ?_)
  refine asks_isAtType.bind ?_
  rw [isAtType_typeSigns, if_pos rfl]
  refine (leads_readType _ nullable (by omega)).bind fun type => .or ?_ ?_
  · refine (leads_deprecation _ ends (by omega)).bind fun directives => ?_
    exact .pure fun _ stands => .inl stands
  · exact (stuck_directives fuel).bind fun directives => .pure fun _ stuck => .inr stuck

theorem isDescribed_field (field : DescribedField) (behind : List Sign) :
    isDescribed (fieldSigns field ++ behind) = true := by
  simp only [fieldSigns, List.append_assoc, List.cons_append]
  exact isDescribed_described _ _ _

/-- The words of the literals are refused as the names of enum values. -/
theorem leads_value (value : DescribedValue) (ends : EndsPart rest) {fuel : Nat}
    (enough : 2 * (valueSigns value).length ≤ fuel) :
    Leads (readEnumValue fuel) (Stands depth (valueSigns value ++ rest))
      fun _ => Stands depth rest := by
  simp only [valueSigns, List.length_append, List.length_singleton] at enough
  simp only [valueSigns, List.append_assoc, List.cons_append, List.nil_append]
  refine leads_here fun place => (leads_described _ _).bind fun _ => ?_
  refine asks_isAtName.bind (leads_peekText fun text => ?_)
  split
  · exact (leads_note _).bind fun _ _ none => none.elim
  · refine (leads_nameOr _).bind fun name => .and fun _ => ?_
    refine (leads_deprecation _ ends (by omega)).bind fun directives => ?_
    exact .pure fun _ stands => stands

theorem isDescribed_value (value : DescribedValue) (behind : List Sign) :
    isDescribed (valueSigns value ++ behind) = true := by
  simp only [valueSigns, List.append_assoc, List.cons_append]
  exact isDescribed_described _ _ _

/-- The parts of a type stand between braces. -/
theorem leads_braced {α γ : Type} {step : Reading (Option α)} {signsOf : γ → List Sign}
    {items : List γ} (described : ∀ item behind, isDescribed (signsOf item ++ behind) = true)
    {fuel : Nat}
    (each : ∀ item ∈ items, ∀ behind, EndsPart behind → 2 * (signsOf item).length ≤ fuel →
      Leads step (Stands depth (signsOf item ++ behind))
        fun _ reader => Stands depth behind reader ∨ Stuck depth reader)
    (form : String) (unbraced : rest.head? ≠ some (.mark '\x7b'))
    (enough : 2 * (bodySigns (items.map signsOf)).length ≤ fuel) :
    Leads (braced step form fuel) (Stands depth (bodySigns (items.map signsOf) ++ rest))
      fun _ => Stands depth rest := by
  refine (asks_isAt '\x7b').bind ?_
  cases isFull : items.isEmpty with
  | true =>
      rw [show bodySigns (items.map signsOf) = [] from if_pos (by rwa [List.isEmpty_map]),
        List.nil_append, beq_eq_false_iff_ne.2 unbraced]
      exact .pure fun _ stands => stands
  | false =>
      have isGroup : bodySigns (items.map signsOf) =
          .mark '\x7b' :: (items.flatMap signsOf ++ [.mark '\x7d']) := by
        simp only [bodySigns, List.isEmpty_map, isFull, List.cons_append, List.nil_append,
          ← List.flatMap_def]
        rfl
      rw [isGroup, List.length_cons, List.length_append] at enough
      rw [isGroup, List.cons_append, List.append_assoc]
      refine leads_pass.bind fun _ => ?_
      refine (leads_items (by simpa using isFull) described each (.inr rfl) _
        (by omega)).bind fun _ => ?_
      exact (leads_close (by decide)).bind fun _ => .pure fun _ stands => stands

/-- A mark stands in front of every name of a list but the first. -/
theorem listSigns_cons (mark : Char) (first : String) (others : List String) :
    listSigns mark (first :: others) =
      .name first :: others.flatMap fun name => [.mark mark, .name name] := by
  induction others generalizing first with
  | nil => rfl
  | cons second others ih =>
      have next := ih second
      rw [listSigns, List.map_cons] at next ⊢
      rw [List.map_cons, List.intercalate_cons_cons, next]
      rfl

/-- Names are listed with a mark between them. -/
theorem leads_list {α : Type} {mark : Char} {step : Reading (Option α)} {names : List String}
    (nonempty : names ≠ [])
    (each : ∀ name behind, Leads step (Stands depth (.name name :: behind)) fun _ =>
      Stands depth behind)
    (ends : rest.head? ≠ some (.mark mark)) {fuel : Nat}
    (enough : (listSigns mark names).length ≤ fuel) :
    Leads (Reading.separated mark step fuel) (Stands depth (listSigns mark names ++ rest))
      fun _ => Stands depth rest := by
  obtain ⟨first, others, rfl⟩ := List.exists_cons_of_ne_nil nonempty
  rw [listSigns_cons, List.length_cons] at enough
  rw [listSigns_cons, List.cons_append]
  have count : others.length ≤
      (others.flatMap fun name => [Sign.mark mark, .name name]).length :=
    length_le_of_nonempty (by nofun)
  exact leads_separated first others each ends (by omega)

/-- A name in a list is passed. -/
theorem leads_listed (form name : String) (behind : List Sign) :
    Leads (nameOr form) (Stands depth (.name name :: behind)) fun _ => Stands depth behind :=
  (leads_nameOr form).imp fun _ _ => And.right

/-- The interfaces of a type are read to their end. -/
theorem leads_interfaces (interfaces : List String) (unlisted : nameAt rest ≠ some "implements")
    (ends : rest.head? ≠ some (.mark '&')) {fuel : Nat}
    (enough : (interfaceSigns interfaces).length ≤ fuel) :
    Leads (readInterfaces fuel) (Stands depth (interfaceSigns interfaces ++ rest))
      fun _ => Stands depth rest := by
  refine asks_isAtName.bind ?_
  cases interfaces with
  | nil =>
      rw [show interfaceSigns [] ++ rest = rest from rfl]
      cases isName : nameAt rest with
      | none => exact leads_peekText fun text => .pure fun _ stands => stands
      | some name =>
          obtain ⟨others, rfl⟩ : ∃ others, rest = .name name :: others := by
            unfold nameAt at isName
            split at isName
            · cases isName
              exact ⟨_, rfl⟩
            · cases isName
          have other : name ≠ "implements" := fun same => unlisted (by rw [isName, same])
          refine leads_peekName ?_
          rw [beq_eq_false_iff_ne.2 other]
          exact .pure fun _ stands => stands
  | cons first others =>
      have isGroup : interfaceSigns (first :: others) =
          .name "implements" :: listSigns '&' (first :: others) := rfl
      rw [isGroup, List.length_cons] at enough
      rw [isGroup, List.cons_append]
      refine leads_peekName (leads_pass.bind fun _ => ?_)
      refine (leads_list (by nofun) (leads_listed _) ends (by omega)).bind fun _ => ?_
      exact .pure fun _ stands => stands

/-- The members of a union are read to their end when there are some. -/
theorem leads_members {members : List String} (nonempty : members ≠ [])
    (ends : rest.head? ≠ some (.mark '|')) {fuel : Nat}
    (enough : (listSigns '|' members).length ≤ fuel) :
    Leads (readMembers fuel) (Stands depth (.mark '=' :: (listSigns '|' members ++ rest)))
      fun _ => Stands depth rest := by
  refine (asks_isAt '=').bind (leads_pass.bind fun _ => ?_)
  refine (leads_list nonempty (leads_listed _) ends enough).bind fun _ => ?_
  exact .pure fun _ stands => stands

/-- The words that begin the definitions of a type system. -/
def definitionWords : List String := "schema" :: "directive" :: typeWords

/-- A definition begins here, or the source ends. -/
def EndsDefinition : List Sign → Prop
  | .name word :: _ => word ∈ definitionWords
  | .text :: _ | .stop :: _ => True
  | _ => False

/-- What ends a definition ends its last part. -/
theorem EndsDefinition.endsPart (ends : EndsDefinition rest) : EndsPart rest := by
  unfold EndsDefinition at ends
  split at ends
  · trivial
  · trivial
  · trivial
  · exact ends.elim

/-- A definition begins with a word for its kind. -/
theorem EndsDefinition.word {name : String} (ends : EndsDefinition rest)
    (isName : nameAt rest = some name) : name ∈ definitionWords := by
  unfold EndsDefinition at ends
  split at ends
  · cases isName
    exact ends
  · cases isName
  · cases isName
  · exact ends.elim

/-- What ends a definition has no mark in front but one that closes a group. -/
theorem EndsDefinition.head_ne (ends : EndsDefinition rest) {c : Char}
    (opens : c ≠ ')' ∧ c ≠ '\x7d') : rest.head? ≠ some (.mark c) := ends.endsPart.head_ne opens

/-- A body has no mark but its brace in front. -/
theorem body_head (parts : List (List Sign)) {c : Char} (other : c ≠ '\x7b')
    (next : rest.head? ≠ some (.mark c)) : (bodySigns parts ++ rest).head? ≠ some (.mark c) := by
  cases parts with
  | nil => exact next
  | cons part parts =>
      rintro ⟨⟩
      exact other rfl

/-- No interfaces are listed where a body stands, or behind it. -/
theorem body_unlisted (parts : List (List Sign)) (ends : EndsDefinition rest) :
    nameAt (bodySigns parts ++ rest) ≠ some "implements" := by
  cases parts with
  | nil =>
      intro isName
      exact absurd (ends.word isName) (by decide)
  | cons part parts => nofun

/-- Where there is no sign of a directive, none is read. -/
theorem leads_noDirectives (undirected : rest.head? ≠ some (.mark '@')) (fuel : Nat) :
    Leads (readDirectives true fuel) (Stands depth rest) fun _ => Stands depth rest :=
  (leads_many_none (asks_isAt '@') _ (beq_eq_false_iff_ne.2 undirected) fuel).imp
    fun _ _ => And.right

/-- A kind of type without any parts. -/
def DescribedBody.emptied : DescribedBody → TypeBody
  | .scalar => .scalar
  | .object _ _ => .object [] []
  | .interface _ _ => .interface [] []
  | .union _ => .union []
  | .enum _ => .enum []
  | .inputObject _ _ => .inputObject []

/-- The fields of a type are read to the brace that closes them. -/
theorem leads_fields {fields : List DescribedField}
    (sound : ∀ field ∈ fields, ∀ word ∈ field.words, word.IsSound)
    (unbraced : rest.head? ≠ some (.mark '\x7b')) {fuel : Nat}
    (enough : 2 * (bodySigns (fields.map fieldSigns)).length ≤ fuel) :
    Leads (readFieldDefinitions fuel) (Stands depth (bodySigns (fields.map fieldSigns) ++ rest))
      fun _ => Stands depth rest :=
  leads_braced isDescribed_field
    (fun field member _ ends => leads_field (sound field member) ends) _ unbraced enough

/-- Object types and interface types have the same parts. -/
theorem leads_implementing {interfaces : List String} {fields : List DescribedField}
    (sound : ∀ field ∈ fields, ∀ word ∈ field.words, word.IsSound) (ends : EndsDefinition rest)
    {fuel : Nat}
    (enough : 2 * (interfaceSigns interfaces ++ bodySigns (fields.map fieldSigns)).length ≤ fuel)
    {make : List Name → List FieldDefinition → TypeBody} {kind : TypeBody}
    (isKind : ∀ interfaces fields, TypeSystem.emptyBody (make interfaces fields) = kind) :
    Leads (do
        let (listed, interfaces) ← readInterfaces fuel
        let directives ← readDirectives true fuel
        let (braces, fields) ← readFieldDefinitions fuel
        return (listed || braces || !directives.isEmpty, directives, make interfaces fields))
      (Stands depth (interfaceSigns interfaces ++ bodySigns (fields.map fieldSigns) ++ rest))
      fun result reader =>
        TypeSystem.emptyBody result.2.2 = kind ∧ Stands depth rest reader := by
  rw [List.length_append] at enough
  rw [List.append_assoc]
  refine (leads_interfaces interfaces (body_unlisted _ ends)
    (body_head _ (by decide) (ends.head_ne (by decide))) (by omega)).bind fun listed => ?_
  refine (leads_noDirectives (body_head _ (by decide) (ends.head_ne (by decide))) fuel).bind
    fun directives => ?_
  refine (leads_fields sound (ends.head_ne (by decide)) (by omega)).bind fun fields => ?_
  exact .pure fun _ stands => ⟨isKind _ _, stands⟩

/-- The parts of a type are read to its end, and its body is of the kind that was described. -/
theorem leads_parts {body : DescribedBody} (sound : ∀ word ∈ body.words, word.IsSound)
    (hasMembers : body ≠ .union []) (ends : EndsDefinition rest) {fuel : Nat}
    (enough : 2 * (partSigns body).length ≤ fuel) :
    Leads (readTypeParts (typeWord body) fuel) (Stands depth (partSigns body ++ rest))
      fun result reader =>
        TypeSystem.emptyBody result.2.2 = body.emptied ∧ Stands depth rest reader := by
  have undirected : rest.head? ≠ some (.mark '@') := ends.head_ne (by decide)
  have unbraced : rest.head? ≠ some (.mark '\x7b') := ends.head_ne (by decide)
  cases body with
  | scalar =>
      simp only [typeWord, readTypeParts]
      refine (leads_noDirectives undirected fuel).bind fun directives => ?_
      exact .pure fun _ stands => ⟨rfl, stands⟩
  | object interfaces fields | interface interfaces fields =>
      simp only [typeWord, readTypeParts]
      have areSound := (List.forall_mem_append.1 sound).2
      exact leads_implementing (fun _ => each_sound areSound) ends enough fun _ _ => rfl
  | union members =>
      simp only [partSigns, List.length_append, List.length_singleton] at enough
      simp only [typeWord, readTypeParts, partSigns, List.cons_append, List.nil_append]
      have nonempty : members ≠ [] := fun isNil => hasMembers (by rw [isNil])
      refine (leads_noDirectives (by nofun) fuel).bind fun directives => ?_
      refine (leads_members nonempty (ends.head_ne (by decide)) (by omega)).bind fun listed => ?_
      exact .pure fun _ stands => ⟨rfl, stands⟩
  | enum values =>
      simp only [partSigns] at enough
      simp only [typeWord, readTypeParts, partSigns]
      refine (leads_noDirectives (body_head _ (by decide) undirected) fuel).bind
        fun directives => ?_
      refine (leads_braced isDescribed_value (fun value member behind isEnd within =>
        (leads_value value isEnd within).imp fun _ _ => .inl) _ unbraced enough).bind
          fun values => ?_
      exact .pure fun _ stands => ⟨rfl, stands⟩
  | inputObject isOneOf fields =>
      simp only [partSigns, List.length_append] at enough
      simp only [typeWord, readTypeParts, partSigns, List.append_assoc]
      -- The mark for one of several fields is read like any other directive.
      have isApplied : (if isOneOf then [.mark '@', .name "oneOf"] else []) =
          (if isOneOf then [("oneOf", [])] else []).flatMap appliedSigns := by
        cases isOneOf <;> rfl
      rw [isApplied] at enough ⊢
      refine (leads_readDirectives ?_ (body_head _ (by decide) (ends.head_ne (by decide)))
        (body_head _ (by decide) undirected) (by omega)).bind fun directives => ?_
      · cases isOneOf
        · nofun
        · intro directive member argument isArgument
          obtain rfl := List.mem_singleton.1 member
          cases isArgument
      refine (leads_braced isDescribed_input (fun field member _ isEnd =>
        leads_input (each_sound sound member) isEnd) _ unbraced (by omega)).bind fun fields => ?_
      exact .pure fun _ stands => ⟨rfl, stands⟩

/-- A definition is written for a type when it has its name and its kind. -/
structure DescribedType.IsWrittenAs (type : DescribedType) (definition : TypeDefinition) :
    Prop where
  hasName : definition.name.text = type.name
  isKind : TypeSystem.emptyBody definition.body = type.body.emptied

/-- A type is read to its end, and it is the one that was described. -/
theorem leads_type {type : DescribedType} (sound : ∀ word ∈ type.words, word.IsSound)
    (hasMembers : type.body ≠ .union []) (ends : EndsDefinition rest) {fuel : Nat}
    (enough : 2 * (definitionSigns type).length ≤ fuel) :
    Leads (readTypeDefinition (typeWord type.body) fuel)
      (Stands depth (definitionSigns type ++ rest)) fun result reader =>
        (∃ definition, result = some (.type false definition) ∧ type.IsWrittenAs definition) ∧
          Stands depth rest reader := by
  simp only [definitionSigns, List.length_append] at enough
  simp only [definitionSigns, List.append_assoc, List.cons_append, List.nil_append]
  refine leads_here fun place => (leads_described _ _).bind fun _ => ?_
  refine leads_pass.bind fun _ => (leads_nameOr _).bind fun name => .and fun isName => ?_
  refine (leads_parts (List.forall_mem_append.1 sound).2 hasMembers ends (by omega)).bind
    fun read => .and fun isKind => .pure fun reader stands => ⟨?_, stands⟩
  cases name with
  | none => cases isName
  | some name => exact ⟨_, rfl, Option.some.inj isName, isKind⟩

/-- The places where a directive may stand are listed at its end. -/
theorem leads_place (name : String) (behind : List Sign) :
    Leads readDirectivePlace (Stands depth (.name name :: behind)) fun _ => Stands depth behind := by
  refine leads_peekText fun text => asks_isAtName.bind ?_
  split
  · exact leads_pass.bind fun _ => .pure fun _ stands => stands
  · exact (leads_note _).bind fun _ _ none => none.elim

/-- Definitions do not begin with such a place. -/
theorem leads_noPlace (ends : EndsDefinition rest) :
    Leads readDirectivePlace (Stands depth rest) fun _ _ => False := by
  unfold EndsDefinition at ends
  split at ends
  · next word others =>
      have noPlace : ∀ word ∈ definitionWords, directivePlaces.contains word = false := by decide
      refine leads_peekName (asks_isAtName.bind ?_)
      rw [noPlace word ends]
      exact (leads_note _).bind fun _ _ none => none.elim
  · refine leads_peekText fun text => asks_isAtName.bind ?_
    exact (leads_note _).bind fun _ _ none => none.elim
  · refine leads_peekText fun text => asks_isAtName.bind ?_
    exact (leads_note _).bind fun _ _ none => none.elim
  · exact ends.elim

/-- The places of a directive are read to their end. -/
theorem leads_places (places : List String) (ends : EndsDefinition rest) {fuel : Nat}
    (enough : (listSigns '|' places).length ≤ fuel) :
    Leads (Reading.separated '|' readDirectivePlace fuel)
      (Stands depth (listSigns '|' places ++ rest)) fun _ => Stands depth rest := by
  cases places with
  | nil =>
      refine (asks_isAt '|').bind ?_
      rw [show listSigns '|' [] ++ rest = rest from rfl,
        beq_eq_false_iff_ne.2 (ends.head_ne (by decide))]
      exact (leads_noPlace ends).bind fun _ _ none => none.elim
  | cons place places =>
      exact leads_list (by nofun) leads_place (ends.head_ne (by decide)) enough

/-- A directive is read to its end under its own name. -/
theorem leads_directive {directive : DescribedDirective}
    (sound : ∀ word ∈ directive.words, word.IsSound) (ends : EndsDefinition rest) {fuel : Nat}
    (enough : 2 * (directiveSigns directive).length ≤ fuel) :
    Leads (readDirectiveDefinition fuel) (Stands depth (directiveSigns directive ++ rest))
      fun result reader =>
        (∃ definition, result = some definition ∧ definition.name.text = directive.name) ∧
          Stands depth rest reader := by
  simp only [directiveSigns, List.length_append] at enough
  simp only [directiveSigns, List.append_assoc, List.cons_append, List.nil_append]
  have areSound := (List.forall_mem_append.1 sound).2
  refine leads_here fun place => (leads_described _ _).bind fun _ => leads_pass.bind fun _ => ?_
  refine (asks_isAt '@').bind (leads_pass.bind fun _ => ?_)
  refine (leads_nameOr _).bind fun name => .and fun isName => ?_
  refine (leads_arguments (fun _ => each_sound areSound) ?_ (by omega)).bind fun arguments => ?_
  · cases directive.isRepeatable <;> nofun
  have closing (repeatable : Bool) : Leads (do
      if (← peekText) == "on" then pass else note (.expected "Directive Locations")
      let locations ← Reading.separated '|' readDirectivePlace fuel
      return name.map fun name =>
        (⟨place, name, arguments, repeatable, locations⟩ : DirectiveDefinition))
      (Stands depth (.name "on" :: (listSigns '|' directive.locations ++ rest)))
      fun result reader =>
        (∃ definition, result = some definition ∧ definition.name.text = directive.name) ∧
          Stands depth rest reader := by
    refine leads_peekName (leads_pass.bind fun _ => ?_)
    refine (leads_places _ ends (by omega)).bind fun places => .pure fun reader stands => ?_
    cases name with
    | none => cases isName
    | some name => exact ⟨⟨_, rfl, Option.some.inj isName⟩, stands⟩
  cases directive.isRepeatable with
  | true => exact leads_peekName (leads_pass.bind fun _ => closing true)
  | false => exact leads_peekName (closing false)

/-- Each root names the type of one kind of operation. -/
theorem leads_root (kind name : String) :
    Leads readRoot (Stands depth (.name kind :: .mark ':' :: .name name :: rest))
      fun _ => Stands depth rest := by
  refine leads_here fun place => leads_peekText fun text => ?_
  have named : Leads (do
      if ← isAt ':' then
        pass
        let type ← takeName
        return (operationKind? text).bind fun kind => type.map fun type =>
          (⟨place, kind, type⟩ : RootType)
      else
        note (.expected "a Name Type")
        return none)
      (Stands depth (.mark ':' :: .name name :: rest)) fun _ => Stands depth rest := by
    refine (asks_isAt ':').bind (leads_pass.bind fun _ => ?_)
    exact leads_takeName.bind fun type => .pure fun _ => And.right
  simp only
  split
  · exact leads_pass.bind fun _ => named
  · refine Leads.bind ?_ fun _ => named
    exact ((leads_note _).bind fun _ _ none => none.elim)

/-- The roots of a schema with the kinds of their operations. -/
def namedRoots (schema : DescribedSchema) : List (String × String) :=
  ("query", schema.query) :: (schema.mutation.toList.map fun name => ("mutation", name))
    ++ schema.subscription.toList.map fun name => ("subscription", name)

/-- The part of the schema is a group of its named roots. -/
theorem schemaSigns_eq (schema : DescribedSchema) : schemaSigns schema =
    .name "schema" :: .mark '\x7b' :: ((namedRoots schema).flatMap
      (fun root => [.name root.1, .mark ':', .name root.2]) ++ [.mark '\x7d']) := by
  unfold schemaSigns namedRoots
  cases schema.mutation <;> cases schema.subscription <;> rfl

/-- A schema names its roots. -/
theorem leads_schema (schema : DescribedSchema) {fuel : Nat}
    (enough : 2 * (schemaSigns schema).length ≤ fuel) :
    Leads (readSchema fuel) (Stands depth (schemaSigns schema ++ rest)) fun result reader =>
      (∃ definition, result = .schema false definition) ∧ Stands depth rest reader := by
  rw [schemaSigns_eq] at enough ⊢
  simp only [List.length_cons, List.length_append] at enough
  simp only [List.cons_append, List.append_assoc, List.nil_append]
  have count : (namedRoots schema).length ≤ ((namedRoots schema).flatMap
      fun root => [Sign.name root.1, .mark ':', .name root.2]).length :=
    length_le_of_nonempty (by nofun)
  have each (root) (_ : root ∈ namedRoots schema) (behind : List Sign) (_ : True) :
      Leads readRoot (Stands depth ([.name root.1, .mark ':', .name root.2] ++ behind))
        fun _ => Stands depth behind := leads_root root.1 root.2
  have roots : Leads (readRoots fuel) (Stands depth (.mark '\x7b' :: ((namedRoots schema).flatMap
      (fun root => [.name root.1, .mark ':', .name root.2]) ++ .mark '\x7d' :: rest)))
      fun _ => Stands depth rest := by
    refine (asks_isAt '\x7b').bind (leads_pass.bind fun _ => ?_)
    refine (leads_atLeastOne asks_isAtName rfl (leads_each (fun _ => True) asks_isAtName rfl
      (fun _ _ _ => rfl) each (fun _ _ _ => trivial) trivial (by omega)) _).bind fun _ => ?_
    exact (leads_expect '\x7d').bind fun _ => .pure fun _ stands => stands
  refine leads_here fun place => (leads_noDescription (by nofun)).bind fun _ => ?_
  refine leads_pass.bind fun _ => (leads_noDirectives (by nofun) fuel).bind fun directives => ?_
  exact roots.bind fun read => .pure fun _ stands => ⟨⟨_, rfl⟩, stands⟩

/-- The parts of a source: the roots, if they are written, the types and the directives. -/
inductive Part where
  | roots (schema : DescribedSchema)
  | type (described : DescribedType)
  | directive (described : DescribedDirective)

def Part.signs : Part → List Sign
  | .roots schema => schemaSigns schema
  | .type described => definitionSigns described
  | .directive described => directiveSigns described

/-- The words of a part are sound, and a union has members. -/
def Part.IsSound : Part → Prop
  | .roots _ => True
  | .type described => (∀ word ∈ described.words, word.IsSound) ∧ described.body ≠ .union []
  | .directive described => ∀ word ∈ described.words, word.IsSound

/-- A definition is written for a part. -/
def Part.IsWrittenAs : Part → Definition → Prop
  | .roots _, .schema false _ => True
  | .type described, .type false definition => described.IsWrittenAs definition
  | .directive described, .directive definition => definition.name.text = described.name
  | _, _ => False

def DescribedSchema.parts (schema : DescribedSchema) : List Part :=
  (if hasUsualRoots schema then [] else [.roots schema])
    ++ (schema.types.filter isOwnType).map .type
    ++ (schema.directives.filter isOwnDirective).map .directive

/-- A source is made up of its parts. -/
theorem sourceSigns_eq (schema : DescribedSchema) :
    sourceSigns schema = schema.parts.flatMap Part.signs := by
  simp only [sourceSigns, DescribedSchema.parts, List.flatMap_append, List.flatMap_map]
  unfold rootsSigns
  split
  · rfl
  · rw [List.flatMap_singleton]
    rfl

/-- What is read next is told by the word behind the description. -/
theorem leads_described_word {fuel : Nat} (description : Option String) {word : String}
    {after : Option Definition → Reader → Prop}
    (leads : Leads (readDefinition word fuel)
      (Stands depth (descriptionSigns description ++ .name word :: rest)) after) :
    Leads (readNext fuel) (Stands depth (descriptionSigns description ++ .name word :: rest))
      after := by
  cases description with
  | none =>
      refine leads_peek fun kind text isSign => ?_
      cases kind
      case name => exact leads_peekName leads
      all_goals cases isSign
  | some text =>
      refine leads_peek fun kind text isSign => ?_
      cases kind
      case text =>
        refine leads_second fun token isText => ?_
        rw [isText]
        exact leads
      all_goals cases isSign

/-- The word of a type leads to the definition of a type. -/
theorem readDefinition_typeWord (body : DescribedBody) (fuel : Nat) :
    readDefinition (typeWord body) fuel = readTypeDefinition (typeWord body) fuel := by
  cases body <;> rfl

/-- A part of a source is read to its end, and it is the one that was described. -/
theorem leads_part {part : Part} (sound : part.IsSound) (ends : EndsDefinition rest) {fuel : Nat}
    (enough : 2 * part.signs.length ≤ fuel) :
    Leads (readNext fuel) (Stands depth (part.signs ++ rest)) fun result reader =>
      (∃ definition, result = some definition ∧ part.IsWrittenAs definition) ∧
        Stands depth rest reader := by
  cases part with
  | roots schema =>
      have next : Leads (readDefinition "schema" fuel) (Stands depth (schemaSigns schema ++ rest))
          fun result reader =>
            (∃ definition, result = some definition ∧ (Part.roots schema).IsWrittenAs definition) ∧
              Stands depth rest reader := by
        refine (leads_schema schema enough).bind fun result => .and fun isSchema => ?_
        obtain ⟨definition, rfl⟩ := isSchema
        exact .pure fun reader stands => ⟨⟨_, rfl, trivial⟩, stands⟩
      rw [schemaSigns_eq] at next
      rw [Part.signs, schemaSigns_eq]
      exact leads_described_word none next
  | type described =>
      have next : Leads (readDefinition (typeWord described.body) fuel)
          (Stands depth (definitionSigns described ++ rest)) fun result reader =>
            (∃ definition, result = some definition ∧
              (Part.type described).IsWrittenAs definition) ∧ Stands depth rest reader := by
        rw [readDefinition_typeWord]
        refine (leads_type sound.1 sound.2 ends enough).imp fun result reader => ?_
        rintro ⟨⟨definition, rfl, isWritten⟩, stands⟩
        exact ⟨⟨_, rfl, isWritten⟩, stands⟩
      simp only [definitionSigns, List.append_assoc, List.cons_append] at next
      simp only [Part.signs, definitionSigns, List.append_assoc, List.cons_append]
      exact leads_described_word described.description next
  | directive described =>
      have next : Leads (readDefinition "directive" fuel)
          (Stands depth (directiveSigns described ++ rest)) fun result reader =>
            (∃ definition, result = some definition ∧
              (Part.directive described).IsWrittenAs definition) ∧ Stands depth rest reader := by
        refine (leads_directive sound ends enough).bind fun result => .and fun isWritten => ?_
        obtain ⟨definition, rfl, hasName⟩ := isWritten
        exact .pure fun reader stands => ⟨⟨_, rfl, hasName⟩, stands⟩
      simp only [directiveSigns, List.append_assoc, List.cons_append] at next
      simp only [Part.signs, directiveSigns, List.append_assoc, List.cons_append]
      exact leads_described_word described.description next

/-- A part begins with its description, if it has one, and with a word that tells its form. -/
theorem Part.signs_eq (part : Part) : ∃ description word others, word ∈ definitionWords ∧
    part.signs = descriptionSigns description ++ .name word :: others := by
  cases part with
  | roots schema => exact ⟨none, "schema", _, by decide, schemaSigns_eq schema⟩
  | type described =>
      have isWord (body : DescribedBody) : typeWord body ∈ definitionWords := by
        cases body <;> exact List.mem_of_elem_eq_true rfl
      simp only [Part.signs, definitionSigns, List.append_assoc, List.cons_append]
      exact ⟨_, _, _, isWord _, rfl⟩
  | directive described =>
      simp only [Part.signs, directiveSigns, List.append_assoc, List.cons_append]
      exact ⟨_, "directive", _, by decide, rfl⟩

/-- A part ends the definition in front of it. -/
theorem Part.endsDefinition (part : Part) (behind : List Sign) :
    EndsDefinition (part.signs ++ behind) := by
  obtain ⟨description, word, others, isWord, isPart⟩ := part.signs_eq
  rw [isPart, List.append_assoc]
  cases description with
  | none => exact isWord
  | some text => trivial

/-- The source does not end where a part begins. -/
theorem Part.isBeforeEnd (part : Part) (behind : List Sign) :
    (part.signs ++ behind).head?.any (· != .stop) = true := by
  obtain ⟨description, word, others, -, isPart⟩ := part.signs_eq
  rw [isPart]
  cases description <;> rfl

/-- Definitions are written as their parts when each part has a result. -/
theorem areWritten_of_results {parts : List Part} {results : List (Option Definition)}
    (areResults : List.Forall₂ (fun part result =>
      ∃ definition, result = some definition ∧ part.IsWrittenAs definition) parts results) :
    List.Forall₂ Part.IsWrittenAs parts (results.flatMap Option.toList) := by
  induction areResults with
  | nil => exact .nil
  | cons isResult areResults ih =>
      obtain ⟨definition, rfl, isWritten⟩ := isResult
      exact .cons isWritten ih

/-- Definition after definition is read up to the end of the source. -/
theorem leads_definitions {parts : List Part} (sound : ∀ part ∈ parts, part.IsSound) {fuel : Nat}
    (enough : 2 * (parts.flatMap Part.signs).length ≤ fuel) :
    Leads (readDefinitions fuel) (Stands depth (parts.flatMap Part.signs ++ [.stop]))
      fun definitions _ => List.Forall₂ Part.IsWrittenAs parts definitions := by
  have count : parts.length ≤ (parts.flatMap Part.signs).length := by
    refine length_le_of_nonempty fun part member isNil => ?_
    have begun := part.isBeforeEnd []
    rw [isNil] at begun
    cases begun
  have each (part) (member : part ∈ parts) (behind) (ends : EndsDefinition behind) :
      Leads (readNext fuel) (Stands depth (part.signs ++ behind)) fun result reader =>
        (∃ definition, result = some definition ∧ part.IsWrittenAs definition) ∧
          Stands depth behind reader ∨ ∃ signs, False ∧ Stands depth signs reader := by
    have within : part.signs.length ≤ (parts.flatMap Part.signs).length := length_le_flatMap member
    exact (leads_part (sound part member) ends (by omega)).imp fun _ _ => .inl
  have ends : EndsDefinition [.stop] := trivial
  have enoughParts : parts.length ≤ fuel := by omega
  have all := leads_many asks_isBeforeEnd (fun _ none => none.elim) rfl
    (fun part _ => part.isBeforeEnd) each (fun part _ => part.endsDefinition) ends enoughParts
  obtain ⟨sign, others, begun⟩ : ∃ sign others,
      parts.flatMap Part.signs ++ [.stop] = sign :: others :=
    List.exists_cons_of_ne_nil (List.append_ne_nil_of_right_ne_nil _ (by nofun))
  rw [begun] at all ⊢
  refine leads_peek fun kind text isSign => ?_
  split
  · exact (leads_note _).bind fun _ _ none => none.elim
  · refine all.imp fun definitions reader => ?_
    rintro (⟨⟨results, areResults, rfl⟩, -⟩ | ⟨_, none, -⟩)
    · exact areWritten_of_results areResults
    · exact none.elim

end OperationCheck.Introspection
