import Mathlib.Data.List.Forall2
import OperationCheck.Proofs.Rules.Apart

/-!
Messages of the built-in tables. The main statement says that a message which is written from the
pattern of a rule belongs to that rule and to no earlier one, with one exception: a message about
the extension of something whose kind ends in `Unknown` also is one about an unknown type.
-/

namespace OperationCheck.Rules

open OperationCheck.Glob OperationCheck.Pattern

def Line.shape (line : Line) : Shape := Shape.ofText line.pattern

/-- The rule that a line is read as. -/
def Line.rule (line : Line) : Rule := ⟨line.name, line.pattern, line.shape.pattern, line.link⟩

def Sheet.table (sheet : Sheet) : Table :=
  ⟨sheet.name, sheet.description, sheet.lines.map Line.rule⟩

/-- A table whose patterns are all writings of shapes compiles, each line to its own rule. -/
theorem compile_of_writings (table : String) (index : Nat) {lines : List Line}
    (writings : ∀ line ∈ lines, isWriting line.pattern.toList = true) :
    compile table index lines = .ok (lines.map Line.rule) := by
  induction lines generalizing index with
  | nil => rfl
  | cons line lines ih =>
      obtain ⟨first, others⟩ := List.forall_mem_cons.1 writings
      have isRule : Rule.ofLine? line = some line.rule := by
        rw [Rule.ofLine?, Pattern.parse?, ofText_of_writing first]
        rfl
      rw [compile, isRule, ih (index + 1) others]
      rfl

/-- The rules of messages about the extension of types and about unknown types. -/
def extensionPattern : String := "Cannot extend non-(.*) type \"(.*)\""

def unknownPattern : String := "Unknown type \"(.*)\""

/-- A message about the extension of something whose kind ends in `Unknown`. -/
def ExtendsUnknown (line : Line) (fillings : List (List Char)) : Prop :=
  line.pattern = extensionPattern ∧
    ∃ kind others, fillings = (kind ++ "Unknown".toList) :: others

/-- What the check of a sheet needs to know about a pattern. -/
structure Outline where
  text : List Char
  pieces : List (List Char × List Char)
  blanks : List (List Cell × List Cell)

def Outline.ofText (text : List Char) : Outline :=
  let shape := Shape.readFrom none text
  ⟨text, shape.pieces, shape.blanks⟩

/-- A pattern is not found in the messages of a later one, or the two are those of the
exception. -/
def Outline.isBefore (earlier later : Outline) : Bool :=
  isApart earlier.pieces later.blanks ||
    (earlier.text == unknownPattern.toList && later.text == extensionPattern.toList)

def areApart : List Outline → Bool
  | [] => true
  | outline :: outlines => outlines.all outline.isBefore && areApart outlines

/-- All patterns are writings, their choices are parts of names, and they keep apart. -/
def isSound (texts : List (List Char)) : Bool :=
  (texts.all fun text => isWriting text && (Shape.readFrom none text).all Part.isNamed) &&
    areApart (texts.map Outline.ofText)

/-- A list that passes the check has each outline apart from every later one. -/
theorem pairwise_of_areApart {outlines : List Outline} (apart : areApart outlines = true) :
    outlines.Pairwise fun earlier later => earlier.isBefore later = true := by
  induction outlines with
  | nil => exact .nil
  | cons outline outlines ih =>
      rw [areApart, Bool.and_eq_true, List.all_eq_true] at apart
      exact .cons apart.1 (ih apart.2)

/-- A text is spelled by its characters. -/
inductive IsSpelled : String → List Char → Prop where
  | ofList (characters : List Char) : IsSpelled (String.ofList characters) characters
  | append {first second : String} {front back : List Char} (isFirst : IsSpelled first front)
      (isSecond : IsSpelled second back) : IsSpelled (first ++ second) (front ++ back)

/-- The characters a text is spelled with are its characters. -/
theorem IsSpelled.toList_eq {text : String} {characters : List Char}
    (spelled : IsSpelled text characters) : text.toList = characters := by
  induction spelled with
  | ofList characters => exact String.toList_ofList
  | append _ _ ihFirst ihSecond => rw [String.toList_append, ihFirst, ihSecond]

def Sheet.texts (sheet : Sheet) : List (List Char) :=
  sheet.lines.map fun line => line.pattern.toList

/-- The check of a sheet takes the characters of its patterns as they are spelled. -/
theorem isSound_of_spelled {sheet : Sheet} {texts : List (List Char)}
    (spelled : List.Forall₂ (fun line text => IsSpelled line.pattern text) sheet.lines texts)
    (sound : isSound texts = true) : isSound sheet.texts = true := by
  have same : List.Forall₂ Eq sheet.texts texts :=
    List.forall₂_map_left_iff.2 (spelled.imp fun _ _ isSpelled => isSpelled.toList_eq)
  rw [List.forall₂_eq_eq_eq] at same
  rwa [same]

/-- The first table passes the check: each pattern is a writing and stays apart from the later
ones. -/
theorem apolloSheet_isSound : isSound apolloSheet.texts = true :=
  isSound_of_spelled (by repeat' constructor) (by decide +kernel)

/-- The second table passes the check too, which allows for the two patterns of the exception. -/
theorem graphQlJsSheet_isSound : isSound graphQlJsSheet.texts = true :=
  isSound_of_spelled (by repeat' constructor) (by decide +kernel)

/-- Both built-in tables are sound. -/
theorem isSound_of_mem {sheet : Sheet} (member : sheet ∈ builtInSheets) :
    isSound sheet.texts = true := by
  rcases List.mem_cons.1 member with rfl | other
  · exact apolloSheet_isSound
  · rw [List.mem_singleton.1 other]
    exact graphQlJsSheet_isSound

section exception

/-- The letters of a shape begin its messages. -/
theorem Shape.Writes.of_letters {word : List Char} {shape : Shape} {fillings : List (List Char)}
    {message : List Char} (writes : Shape.Writes (word.map .letter ++ shape) fillings message) :
    ∃ rest, message = word ++ rest ∧ shape.Writes fillings rest := by
  induction word generalizing message with
  | nil => exact ⟨message, rfl, writes⟩
  | cons c word ih =>
      cases writes with
      | letter others =>
          obtain ⟨rest, rfl, isRest⟩ := ih others
          exact ⟨rest, rfl, isRest⟩

/-- Letters write themselves in front of whatever the rest of the shape writes. -/
theorem writes_letters {shape : Shape} {fillings : List (List Char)} {rest : List Char}
    (writes : shape.Writes fillings rest) (word : List Char) :
    Shape.Writes (word.map .letter ++ shape) fillings (word ++ rest) := by
  induction word with
  | nil => exact writes
  | cons c word ih => exact .letter ih

/-- The parts the extension pattern is made of. -/
theorem extension_shape : Shape.ofText extensionPattern =
    "Cannot extend non-".toList.map .letter ++ .gap :: (" type \"".toList.map .letter ++
      .gap :: (['"'].map .letter ++ [])) := by
  decide +kernel

/-- The messages about extensions are written out of a kind and a name. -/
theorem extension_message {fillings : List (List Char)} {message : List Char}
    (writes : (Shape.ofText extensionPattern).Writes fillings message) :
    ∃ kind name, fillings = [kind, name] ∧ (∀ c ∈ kind, isNamePart c = true) ∧
      (∀ c ∈ name, isNamePart c = true) ∧
      message = "Cannot extend non-".toList ++ (kind ++ (" type \"".toList ++ (name ++ ['"']))) := by
  rw [extension_shape] at writes
  obtain ⟨_, rfl, behindOpening⟩ := writes.of_letters
  cases behindOpening with
  | @gap kind isKind _ _ _ behindKind =>
      obtain ⟨_, rfl, behindMiddle⟩ := behindKind.of_letters
      cases behindMiddle with
      | @gap name isName _ _ _ behindName =>
          obtain ⟨_, rfl, behindEnd⟩ := behindName.of_letters
          cases behindEnd with
          | nil => exact ⟨kind, name, rfl, isKind, isName, rfl⟩

/-- Two texts that are the same are cut at the same first blank, or one is cut behind it. -/
theorem cut_at_blank {word before after rest : List Char} (noBlank : ' ' ∉ word)
    (same : word ++ ' ' :: rest = before ++ ' ' :: after) :
    before = word ∧ after = rest ∨ ∃ more, before = word ++ ' ' :: more ∧
      rest = more ++ ' ' :: after := by
  rcases List.append_eq_append_iff.1 same with ⟨more, rfl, tail⟩ | ⟨more, rfl, tail⟩
  · cases more with
    | nil => exact .inl ⟨List.append_nil _, (List.cons.inj tail).2.symm⟩
    | cons c more =>
        obtain ⟨rfl, isRest⟩ := List.cons.inj tail
        exact .inr ⟨more, rfl, isRest⟩
  · cases more with
    | nil => exact .inl ⟨(List.append_nil _).symm, (List.cons.inj tail).2⟩
    | cons c more =>
        obtain ⟨rfl, -⟩ := List.cons.inj tail
        exact absurd (List.mem_append_right _ List.mem_cons_self) noBlank

/-- A name holds no blank. -/
theorem blank_notMem_of_names {text : List Char} (names : ∀ c ∈ text, isNamePart c = true) :
    ' ' ∉ text := fun member => absurd (names ' ' member) (by decide)

/-- A dash cannot be part of what stands behind it. -/
theorem suffix_behind_dash {before kind : List Char}
    (same : before ++ "Unknown".toList = "Cannot extend non-".toList ++ kind) :
    ∃ front, kind = front ++ "Unknown".toList := by
  rcases List.append_eq_append_iff.1 same with ⟨front, isOpening, isUnknown⟩ | ⟨front, -, isKind⟩
  · by_cases none : front = []
    · subst none
      exact ⟨[], isUnknown.symm⟩
    · have last : front.getLast? = some '-' := by
        rw [← List.getLast?_append_of_ne_nil before none, ← isOpening]
        decide +kernel
      have dash : '-' ∈ "Unknown".toList :=
        isUnknown ▸ List.mem_append_left kind (List.mem_of_getLast? last)
      exact absurd dash (by decide +kernel)
  · exact ⟨front, isKind⟩

/-- A message about an extension speaks of an unknown type only if its kind ends in `Unknown`. -/
theorem kind_of_found {kind name before after : List Char}
    (isKind : ∀ c ∈ kind, isNamePart c = true) (isName : ∀ c ∈ name, isNamePart c = true)
    (same : "Cannot extend non-".toList ++ (kind ++ (" type \"".toList ++ (name ++ ['"']))) =
      before ++ "Unknown type \"".toList ++ after) :
    ∃ front, kind = front ++ "Unknown".toList := by
  have noBlank : ' ' ∉ "non-".toList ++ kind := by
    rw [List.mem_append, not_or]
    exact ⟨by decide +kernel, blank_notMem_of_names isKind⟩
  have words : "Cannot".toList ++ ' ' :: ("extend".toList ++ ' ' :: ("non-".toList ++ kind ++
      ' ' :: ("type".toList ++ ' ' :: '"' :: (name ++ ['"'])))) =
        before ++ "Unknown".toList ++ ' ' :: ("type \"".toList ++ after) := by
    simpa using same
  -- The blank behind `Unknown` must be the third one, since only there a type is spoken of.
  rcases cut_at_blank (by decide +kernel) words with ⟨-, wrong⟩ | ⟨fromExtend, first, words⟩
  · simp at wrong
  rcases cut_at_blank (by decide +kernel) words with ⟨-, wrong⟩ | ⟨fromKind, second, words⟩
  · simp at wrong
  rcases cut_at_blank noBlank words with ⟨third, -⟩ | ⟨fromType, third, words⟩
  · have cut : before ++ "Unknown".toList = "Cannot extend non-".toList ++ kind := by
      rw [first, second, third]
      simp
    exact suffix_behind_dash cut
  rcases cut_at_blank (by decide +kernel) words with ⟨-, wrong⟩ | ⟨fromName, fourth, words⟩
  · simp at wrong
  have member : ' ' ∈ '"' :: (name ++ ['"']) := by
    rw [words]
    simp
  simp [blank_notMem_of_names isName] at member

/-- The fixed piece of text every message of the unknown type pattern holds. -/
theorem unknown_pieces : "Unknown type \"".toList ∈ piecesFrom [] (Shape.ofText unknownPattern) := by
  decide +kernel

/-- The pattern of unknown types is found in a message about an extension only in the exception. -/
theorem extendsUnknown_of_found {earlier later : Line} (isUnknown : earlier.pattern = unknownPattern)
    (isExtension : later.pattern = extensionPattern) {fillings : List (List Char)} {message : String}
    (writes : later.shape.Writes fillings message.toList)
    (found : earlier.rule.isFoundIn message = true) : ExtendsUnknown later fillings := by
  rw [Line.shape, isExtension] at writes
  obtain ⟨kind, name, rfl, isKind, isName, same⟩ := extension_message writes
  obtain ⟨word, isWord, inMessage⟩ := Shape.exists_word found
  rw [Line.shape, isUnknown] at isWord
  obtain ⟨before, after, stands⟩ := (infix_of_mem_piecesFrom isWord unknown_pieces).trans inMessage
  obtain ⟨front, rfl⟩ := kind_of_found isKind isName (same.symm.trans stands.symm)
  exact ⟨isExtension, front, [name], rfl⟩

end exception

section sound

variable {sheet : Sheet}

/-- In a sound table a pattern is read as its shape, and its gaps stand for names. -/
theorem writing_of_sound (sound : isSound sheet.texts = true) {line : Line}
    (member : line ∈ sheet.lines) :
    isWriting line.pattern.toList = true ∧ line.shape.all Part.isNamed = true := by
  rw [isSound, Bool.and_eq_true, List.all_eq_true] at sound
  exact Bool.and_eq_true_iff.1 (sound.1 _ (List.mem_map_of_mem member))

/-- A sound table compiles to the table of its rules. -/
theorem ofSheet_of_sound (sound : isSound sheet.texts = true) :
    Table.ofSheet sheet = .ok sheet.table := by
  rw [Table.ofSheet, compile_of_writings _ _ fun line member => (writing_of_sound sound member).1]
  rfl

/-- The table of a built-in sheet is one of the built-in tables. -/
theorem table_mem_builtInTables (member : sheet ∈ builtInSheets) :
    sheet.table ∈ builtInTables := by
  refine List.mem_filterMap.2 ⟨sheet, member, ?_⟩
  rw [ofSheet_of_sound (isSound_of_mem member)]
  rfl

/-- A rule is not found in the messages of a later one, up to the exception. -/
theorem not_found_of_sound (sound : isSound sheet.texts = true) {first second : Nat}
    (before : first < second) {earlier later : Line} (isEarlier : sheet.lines[first]? = some earlier)
    (isLater : sheet.lines[second]? = some later) {fillings : List (List Char)} {message : String}
    (writes : later.shape.Writes fillings message.toList)
    (regular : earlier.pattern = unknownPattern → ¬ExtendsUnknown later fillings) :
    earlier.rule.isFoundIn message = false := by
  have named := (writing_of_sound sound (List.mem_of_getElem? isLater)).2
  rw [isSound, Bool.and_eq_true] at sound
  have pairwise := List.pairwise_map.1 (List.pairwise_map.1 (pairwise_of_areApart sound.2))
  obtain ⟨inEarlier, same⟩ := List.getElem?_eq_some_iff.1 isEarlier
  obtain ⟨inLater, same'⟩ := List.getElem?_eq_some_iff.1 isLater
  have ordered := List.pairwise_iff_getElem.1 pairwise first second inEarlier inLater before
  rw [same, same', Outline.isBefore, Bool.or_eq_true, Bool.and_eq_true, beq_iff_eq, beq_iff_eq]
    at ordered
  rcases ordered with apart | ⟨isUnknown, isExtension⟩
  · exact isFound_eq_false_of_isApart apart named writes
  · have isUnknown := String.toList_inj.1 isUnknown
    refine Bool.eq_false_iff.2 fun found => regular isUnknown ?_
    exact extendsUnknown_of_found isUnknown (String.toList_inj.1 isExtension) writes found

/-- A message belongs to the first rule that is found in it. -/
theorem resolve_of_first {index : Nat} {line : Line} {message : String}
    (isLine : sheet.lines[index]? = some line) (found : line.rule.isFoundIn message = true)
    (first : ∀ before other, before < index → sheet.lines[before]? = some other →
      other.rule.isFoundIn message = false) :
    sheet.table.rules.findIdx? (fun rule => rule.isFoundIn message) = some index ∧
      sheet.table.resolve message = sheet.table.rules[index]? := by
  have isRule : sheet.table.rules[index]? = some line.rule := by
    rw [Sheet.table, List.getElem?_map, isLine]
    rfl
  obtain ⟨inside, same⟩ := List.getElem?_eq_some_iff.1 isRule
  have earlier : ∀ before (less : before < index),
      sheet.table.rules[before].isFoundIn message = false := by
    intro before less
    have short : before < sheet.lines.length := by
      rw [Sheet.table, List.length_map] at inside
      exact Nat.lt_trans less inside
    have isRule : sheet.table.rules[before] = sheet.lines[before].rule := List.getElem_map ..
    rw [isRule]
    exact first before _ less (List.getElem?_eq_getElem short)
  constructor
  · exact List.findIdx?_eq_some_iff_getElem.2 ⟨inside, same ▸ found, fun before less =>
      Bool.eq_false_iff.1 (earlier before less)⟩
  · rw [isRule]
    exact List.find?_eq_some_iff_getElem.2 ⟨found, index, inside, same, fun before less => by
      rw [earlier before less, Bool.not_false]⟩

end sound

/-- In each built-in table, a message of the shape of a rule belongs to that rule. No earlier rule is
found in it, unless it is about the extension of something whose kind ends in `Unknown`. -/
theorem builtIn_resolves_messages : ∀ sheet ∈ builtInSheets, ∃ table ∈ builtInTables,
    Table.ofSheet sheet = .ok table ∧ table.rules.length = sheet.lines.length ∧
      ∀ (index : Nat) (line : Line) (fillings : List (List Char)) (message : String),
        sheet.lines[index]? = some line → line.shape.Writes fillings message.toList →
        ¬ExtendsUnknown line fillings →
          table.rules.findIdx? (fun rule => rule.isFoundIn message) = some index ∧
            table.resolve message = table.rules[index]? := by
  intro sheet member
  have sound := isSound_of_mem member
  refine ⟨sheet.table, table_mem_builtInTables member, ofSheet_of_sound sound,
    List.length_map .., fun index line fillings message isLine writes regular => ?_⟩
  exact resolve_of_first isLine (writes.isFound (List.infix_refl _)) fun before other less isOther =>
    not_found_of_sound sound less isOther isLine writes fun _ => regular

/-- The message on an unknown directive is resolved to the third rule of its table. -/
theorem builtIn_resolves_messages_directive : ∃ table ∈ builtInTables,
    Table.ofSheet graphQlJsSheet = .ok table ∧
      table.rules.findIdx? (fun rule => rule.isFoundIn "Unknown directive \"skip\"") = some 2 ∧
        table.resolve "Unknown directive \"skip\"" = table.rules[2]? := by
  obtain ⟨table, member, isTable, -, resolves⟩ :=
    builtIn_resolves_messages graphQlJsSheet (by simp [builtInSheets])
  have isShape : Shape.ofText "Unknown directive \"(.*)\"" =
      "Unknown directive \"".toList.map .letter ++ [.gap, .letter '"'] := by decide +kernel
  have isMessage : "Unknown directive \"skip\"".toList =
      "Unknown directive \"".toList ++ ("skip".toList ++ ['"']) := by decide +kernel
  have writes : (Shape.ofText "Unknown directive \"(.*)\"").Writes ["skip".toList]
      "Unknown directive \"skip\"".toList := by
    rw [isShape, isMessage]
    exact writes_letters (.gap (List.all_eq_true.1 (by decide +kernel)) (.letter .nil)) _
  have regular : ¬ExtendsUnknown
      (documented "KnownDirectivesRule" "Unknown directive \"(.*)\"") ["skip".toList] :=
    fun exception => absurd exception.1 (by decide +kernel)
  exact ⟨table, member, isTable, resolves 2 _ _ _ rfl writes regular⟩

section unknown

theorem unknown_line : graphQlJsSheet.lines[5]? =
    some (documented "KnownTypeNamesRule" unknownPattern) := rfl

theorem extension_line : graphQlJsSheet.lines[13]? =
    some (documented "PossibleTypeExtensionsRule" extensionPattern) := rfl

variable {kind name : List Char}

/-- The word in front of the exception's message is made of the characters of a name. -/
theorem unknown_parts : ∀ c ∈ "Unknown".toList, isNamePart c = true :=
  List.all_eq_true.1 (by decide +kernel)

/-- The message of the extension rule for any kind and any name. -/
theorem extension_writes (isKind : ∀ c ∈ kind, isNamePart c = true)
    (isName : ∀ c ∈ name, isNamePart c = true) :
    (Shape.ofText extensionPattern).Writes [kind, name]
      ("Cannot extend non-".toList ++ (kind ++ (" type \"".toList ++ (name ++ ['"'])))) := by
  rw [extension_shape]
  exact writes_letters (.gap isKind (writes_letters (.gap isName (.letter .nil)) _)) _

/-- The message of the unknown type rule for any name. -/
theorem unknown_writes (isName : ∀ c ∈ name, isNamePart c = true) :
    (Shape.ofText unknownPattern).Writes [name] ("Unknown type \"".toList ++ (name ++ ['"'])) := by
  have isShape : Shape.ofText unknownPattern =
      "Unknown type \"".toList.map .letter ++ [.gap, .letter '"'] := by decide +kernel
  rw [isShape]
  exact writes_letters (.gap isName (.letter .nil)) _

/-- A message about the extension of something whose kind ends in `Unknown` belongs to the rule of
messages about unknown types. -/
theorem extension_resolves_to_unknown (isKind : ∀ c ∈ kind, isNamePart c = true)
    (isName : ∀ c ∈ name, isNamePart c = true) {message : String}
    (same : message.toList = "Cannot extend non-".toList ++
      (kind ++ "Unknown".toList ++ (" type \"".toList ++ (name ++ ['"'])))) :
    graphQlJsSheet.table.rules.findIdx? (fun rule => rule.isFoundIn message) = some 5 := by
  have isWhole : ∀ c ∈ kind ++ "Unknown".toList, isNamePart c = true := by
    intro c member
    rcases List.mem_append.1 member with inKind | inUnknown
    · exact isKind c inKind
    · exact unknown_parts c inUnknown
  have writes := extension_writes isWhole isName
  rw [← same] at writes
  have stands : "Unknown type \"".toList ++ (name ++ ['"']) <:+: message.toList := by
    refine ⟨"Cannot extend non-".toList ++ kind, [], ?_⟩
    rw [same]
    simp
  have different : ∀ line ∈ graphQlJsSheet.lines.take 5, line.pattern ≠ unknownPattern := by
    decide +kernel
  have first : ∀ before other, before < 5 → graphQlJsSheet.lines[before]? = some other →
      other.rule.isFoundIn message = false := by
    intro before other less isOther
    obtain ⟨short, isOther'⟩ := List.getElem?_eq_some_iff.1 isOther
    refine not_found_of_sound graphQlJsSheet_isSound (Nat.lt_trans less (by decide)) isOther
      extension_line writes fun isUnknown => ?_
    have early : other ∈ graphQlJsSheet.lines.take 5 :=
      List.mem_take_iff_getElem.2 ⟨before, Nat.lt_min.2 ⟨less, short⟩, isOther'⟩
    exact absurd isUnknown (different _ early)
  have found : (documented "KnownTypeNamesRule" unknownPattern).rule.isFoundIn message = true :=
    (unknown_writes isName).isFound stands
  exact (resolve_of_first unknown_line found first).1

/-- The one exception is a real one: the message of the extension rule for the kind "Unknown" holds
the message of an earlier rule, and that rule is found first. -/
theorem extension_of_unknown_is_shadowed : ∃ table ∈ builtInTables,
    Table.ofSheet graphQlJsSheet = .ok table ∧
      graphQlJsSheet.lines[13]? = some (documented "PossibleTypeExtensionsRule" extensionPattern) ∧
      (Shape.ofText extensionPattern).Writes ["Unknown".toList, "Foo".toList]
        "Cannot extend non-Unknown type \"Foo\"".toList ∧
      table.rules.findIdx? (fun rule => rule.isFoundIn "Cannot extend non-Unknown type \"Foo\"") =
        some 5 := by
  have isMessage : "Cannot extend non-Unknown type \"Foo\"".toList = "Cannot extend non-".toList ++
      ("Unknown".toList ++ (" type \"".toList ++ ("Foo".toList ++ ['"']))) := by decide +kernel
  have isName : ∀ c ∈ "Foo".toList, isNamePart c = true :=
    List.all_eq_true.1 (by decide +kernel)
  refine ⟨graphQlJsSheet.table, table_mem_builtInTables (by simp [builtInSheets]),
    ofSheet_of_sound graphQlJsSheet_isSound, extension_line, ?_, ?_⟩
  · rw [isMessage]
    exact extension_writes unknown_parts isName
  · have noKind : ∀ c ∈ ([] : List Char), isNamePart c = true := nofun
    exact extension_resolves_to_unknown noKind isName isMessage

end unknown

end OperationCheck.Rules
