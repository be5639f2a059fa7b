import OperationCheck.Proofs.Introspection.Signs

/-!
Cutting what is written into tokens. The layout makes no difference: lines may be indented, and
parts stand on one line or on lines of their own.
-/

namespace OperationCheck.Introspection

open OperationCheck.Language OperationCheck.Language.Reading

theorem closes_colon : Closes ": ".toList [.mark ':'] := closes_joints _ (by decide)

theorem closes_lineBreak : Closes "\n".toList [] := closes_joints _ (by decide)

theorem closes_blankLine : Closes "\n\n".toList [] := closes_joints _ (by decide)

/-- A text and the separators behind it. -/
theorem separated {text separators : List Char} {signs : List Sign} (lexes : Lexes text signs)
    (closes : Closes separators []) (apart : Apart separators) (nonempty : separators ≠ []) :
    Closes (text ++ separators) signs := by
  have whole := lexes.closes closes apart nonempty
  rwa [List.append_nil] at whole

/-- A quote begins a text. -/
theorem pieceOf_quote (rest : List Char) : pieceOf '"' rest = quotePiece rest := by
  rw [pieceOf, if_neg (by decide), if_neg (by decide), if_neg (by decide), if_neg (by decide),
    if_neg (by decide), if_neg (by decide), if_neg (by decide), if_pos rfl]

/-- A description and the line break behind it. -/
theorem closes_describe {description : Option String}
    (stays : ∀ text ∈ description, StaysInBlock text) :
    Closes (describe description).toList (descriptionSigns description) := by
  cases description with
  | none => exact .nil
  | some text =>
      have isBlock := stays text rfl
      rw [StaysInBlock, blockPiece_eq] at isBlock
      have isBlock : blockFrom 0 0 0 ((text.toList ++ "\n\"\"\"".toList) ++ []) =
          ⟨.token .text, 0 + (text.toList ++ "\n\"\"\"".toList).length⟩ := by
        rw [List.append_nil, isBlock, List.length_append, Nat.zero_add]
        rfl
      refine ⟨fun {rest others} lexes => ?_⟩
      have again := blockFrom_indented isBlock (Indented.refl _) 4 ('\n' :: rest)
      have found : pieceOf '"'
          (('"' :: '"' :: '\n' :: (text.toList ++ "\n\"\"\"".toList)) ++ '\n' :: rest) =
            ⟨.token .text,
              1 + ('"' :: '"' :: '\n' :: (text.toList ++ "\n\"\"\"".toList)).length⟩ := by
        rw [pieceOf_quote]
        refine (blockPiece_eq 3 _).trans (again.trans ?_)
        simp only [List.length_cons]
        congr 1
        omega
      have whole := Lexes.token found (.separator (by decide) lexes)
      have same : (describe (some text)).toList ++ rest =
          '"' :: (('"' :: '"' :: '\n' :: (text.toList ++ "\n\"\"\"".toList)) ++ '\n' :: rest) := by
        simp [describe]
      rw [same]
      exact whole

/-- An escaped character is part of a string. -/
theorem stringPiece_escapeChar (c : Char) (length : Nat) (rest : List Char) :
    stringPiece .plain false none length ((escapeChar c).toList ++ rest) =
      stringPiece .plain false none (length + (escapeChar c).toList.length) rest := by
  unfold escapeChar
  split
  · rfl
  · rfl
  · rfl
  · rfl
  · next noQuote noBackslash noBreak noReturn =>
      have onLine : isLineBreak c = false := by
        simp [isLineBreak]
        exact ⟨noBreak, noReturn⟩
      have single : c.toString.toList = [c] := String.toList_singleton c
      rw [single, List.singleton_append, stringPiece]
      dsimp only
      rw [if_neg noQuote, if_neg (Bool.eq_false_iff.1 onLine), if_neg noBackslash]
      rfl

/-- An escaped text is the whole of a string. -/
theorem stringPiece_escape (text : List Char) (length : Nat) (rest : List Char) :
    stringPiece .plain false none length
        ((text.map escapeChar).flatMap String.toList ++ '"' :: rest) =
      ⟨.token .text, length + ((text.map escapeChar).flatMap String.toList).length + 1⟩ := by
  induction text generalizing length with
  | nil => rfl
  | cons c text ih =>
      rw [List.map_cons, List.flatMap_cons, List.append_assoc, stringPiece_escapeChar, ih,
        List.length_append, Nat.add_assoc length]

/-- An escaped character does not begin with a quote. -/
theorem head_escapeChar (c : Char) : ∃ first others, (escapeChar c).toList = first :: others ∧
    first ≠ '"' := by
  unfold escapeChar
  split
  · exact ⟨'\\', ['"'], rfl, by decide⟩
  · exact ⟨'\\', ['\\'], rfl, by decide⟩
  · exact ⟨'\\', ['n'], rfl, by decide⟩
  · exact ⟨'\\', ['r'], rfl, by decide⟩
  · next noQuote _ _ _ => exact ⟨c, [], String.toList_singleton c, noQuote⟩

/-- A reason is one string, whatever is in it. -/
theorem lexes_quoted (reason : String) : Lexes (quoted reason).toList [.text] := by
  have same : (quoted reason).toList =
      '"' :: (((reason.toList.map escapeChar).flatMap String.toList ++ ['"']) ++ []) := by
    simp [quoted, escape]
  have found : pieceOf '"' (((reason.toList.map escapeChar).flatMap String.toList ++ ['"']) ++ []) =
      ⟨.token .text,
        1 + ((reason.toList.map escapeChar).flatMap String.toList ++ ['"']).length⟩ := by
    rw [pieceOf_quote, List.append_nil]
    cases isText : reason.toList with
    | nil => rfl
    | cons c text =>
        obtain ⟨first, others, isFirst, noQuote⟩ := head_escapeChar c
        have found := stringPiece_escape (c :: text) 1 []
        rw [List.map_cons, List.flatMap_cons, isFirst] at found ⊢
        rw [List.cons_append, List.cons_append] at found ⊢
        rw [quotePiece_string noQuote, found]
        simp only [List.length_cons, List.length_append]
        rfl
  rw [same]
  exact .token found .nil

/-- What stands in front of a reason has five tokens. -/
theorem closes_reason : Closes " @deprecated(reason: ".toList
    [.mark '@', .name "deprecated", .mark '(', .name "reason", .mark ':'] :=
  (closes_joints [' ', '@'] (by decide)).append <|
    (closes_word "deprecated" ['('] (by decide) (by decide) (by decide)).append <|
      closes_word "reason" [':', ' '] (by decide) (by decide) (by decide)

/-- A deprecation in writing has the tokens of its directive. -/
theorem lexes_deprecation (deprecation : Option Deprecation) :
    Lexes (showDeprecation deprecation).toList (deprecationSigns deprecation) := by
  match deprecation with
  | none => exact .nil
  | some ⟨none⟩ =>
      have isName : IsName "deprecated" := by decide
      exact (closes_joints [' ', '@'] (by decide)).before isName.lexes
  | some ⟨some reason⟩ =>
      show Lexes (" @deprecated(reason: " ++ quoted reason ++ ")").toList _
      rw [String.toList_append, String.toList_append]
      exact (closes_reason.before (lexes_quoted reason)).append
        (closes_joints _ (by decide)).lexes (apart_joints (by decide))

/-- A deprecation in writing stands apart. -/
theorem apart_deprecation (deprecation : Option Deprecation) :
    Apart (showDeprecation deprecation).toList := by
  match deprecation with
  | none => exact apart_nil
  | some ⟨none⟩ => exact apart_of_head (by decide)
  | some ⟨some reason⟩ =>
      show Apart (" @deprecated(reason: " ++ quoted reason ++ ")").toList
      rw [String.toList_append, String.toList_append, List.append_assoc]
      exact (apart_of_head (by decide)).before (by decide) _

theorem lexes_type {type : TypeRef} (isName : IsName type.core.text) :
    Lexes type.text.toList (typeSigns type) := by
  induction type with
  | named name => exact isName.lexes
  | list item ih =>
      rw [TypeRef.text, String.toList_append, String.toList_append]
      have opened := (closes_joints "[".toList (by decide)).before (ih isName)
      exact opened.append (closes_joints _ (by decide)).lexes (apart_joints (by decide))
  | nonNull inner ih =>
      rw [TypeRef.text, String.toList_append]
      exact (ih isName).append (closes_joints _ (by decide)).lexes (apart_joints (by decide))

def showDefault (default : Option String) : String := (default.map (" = " ++ ·)).getD ""

theorem lexes_default {default : Option String} (isLiteral : ∀ text ∈ default, IsLiteral text) :
    Lexes (showDefault default).toList (defaultSigns default) := by
  cases default with
  | none => exact .nil
  | some text =>
      show Lexes (" = " ++ text).toList _
      rw [String.toList_append]
      exact (closes_joints _ (by decide)).before (isLiteral text rfl).lexes

theorem apart_default (default : Option String) : Apart (showDefault default).toList := by
  cases default with
  | none => exact apart_nil
  | some text =>
      show Apart (" = " ++ text).toList
      rw [String.toList_append]
      exact (apart_of_head (by decide)).before (by decide) _

section layout

variable {α : Type} {items : List α} {write : α → String} {signs : α → List Sign}

/-- Items on lines of their own. -/
theorem closes_lines (each : ∀ item ∈ items, Lexes (write item).toList (signs item)) :
    Closes (String.join (items.map fun item => write item ++ "\n")).toList
      (items.flatMap signs) := by
  induction items with
  | nil => exact .nil
  | cons item items ih =>
      rw [List.map_cons, String.join_cons, String.toList_append, String.toList_append,
        List.flatMap_cons]
      have line := separated (each item List.mem_cons_self) closes_lineBreak
        (apart_joints (by decide)) (by decide)
      exact line.append (ih fun other member => each other (List.mem_cons_of_mem _ member))

/-- Items with the same text between them. -/
theorem lexes_intercalate {between : String} {betweenSigns : List Sign}
    (closes : Closes between.toList betweenSigns) (apart : Apart between.toList)
    (nonempty : between.toList ≠ [])
    (each : ∀ item ∈ items, Lexes (write item).toList (signs item)) :
    Lexes (between.intercalate (items.map write)).toList
      (betweenSigns.intercalate (items.map signs)) := by
  rw [String.toList_intercalate, List.map_map]
  induction items with
  | nil => exact .nil
  | cons item items ih =>
      have first := each item List.mem_cons_self
      cases items with
      | nil =>
          simpa [List.intercalate_singleton] using first
      | cons second items =>
          have others := ih fun other member => each other (List.mem_cons_of_mem _ member)
          simp only [List.map_cons, List.intercalate_cons_cons] at others ⊢
          exact ((first.closes closes apart nonempty).before others)

/-- Lists with nothing between them stand one behind the other. -/
theorem intercalate_nothing (items : List α) (signs : α → List Sign) :
    ([] : List Sign).intercalate (items.map signs) = items.flatMap signs := by
  induction items with
  | nil => rfl
  | cons item items ih =>
      cases items with
      | nil => simp [List.intercalate_singleton]
      | cons second items =>
          rw [List.map_cons, List.map_cons, List.intercalate_cons_cons, ← List.map_cons, ih]
          simp

end layout

/-- A line of an indented text has blanks in front, unless it is empty. -/
def indentLine (line : List Char) : List Char :=
  List.replicate (if line.isEmpty then 0 else 2) ' ' ++ line

/-- Every line of a text is indented. -/
theorem toList_indent (text : String) :
    (indent text).toList =
      ['\n'].intercalate ((text.toList.splitOn '\n').map indentLine) := by
  rw [indent, String.toList_intercalate, List.map_map]
  congr 1
  refine List.map_congr_left fun line _ => ?_
  rw [Function.comp_apply, indentLine]
  split
  · next empty => rw [List.isEmpty_iff.1 empty]; rfl
  · rw [String.toList_append]
    exact congrArg ("  ".toList ++ ·) String.toList_ofList

/-- A line break stands in front of every line but the first. -/
theorem intercalate_lines (first : List Char) (others : List (List Char)) :
    ['\n'].intercalate (first :: others) = first ++ others.flatMap ('\n' :: ·) := by
  induction others generalizing first with
  | nil => simp [List.intercalate_singleton]
  | cons second others ih =>
      rw [List.intercalate_cons_cons, ih, List.flatMap_cons]
      simp

/-- All lines but the first are indented where they begin. -/
theorem indented_lines {text first : List Char} {others : List (List Char)}
    (isLines : text.splitOn '\n' = first :: others) :
    Indented text (first ++ (others.map indentLine).flatMap ('\n' :: ·)) := by
  induction text generalizing first others with
  | nil =>
      cases isLines
      exact .nil
  | cons c text ih =>
      rw [List.splitOn_cons_eq_if_modifyHead] at isLines
      cases held : text.splitOn '\n' with
      | nil => exact absurd held (List.splitOn_ne_nil _ _)
      | cons line lines =>
          have inner := ih held
          rw [held] at isLines
          split at isLines
          · next isBreak =>
              obtain rfl := eq_of_beq isBreak
              obtain ⟨rfl, rfl⟩ := List.cons.inj isLines
              rw [List.map_cons, List.flatMap_cons, indentLine]
              simp only [List.nil_append, List.cons_append, List.append_assoc]
              exact .line _ inner
          · next onLine =>
              obtain ⟨rfl, rfl⟩ := List.cons.inj isLines
              exact .char (by simpa using onLine) inner

/-- An indented text has the tokens of the text. -/
theorem lexes_indent {text : String} {signs : List Sign} (lexes : Lexes text.toList signs) :
    Lexes (indent text).toList signs := by
  rw [toList_indent]
  cases isLines : text.toList.splitOn '\n' with
  | nil => exact absurd isLines (List.splitOn_ne_nil _ _)
  | cons first others =>
      rw [List.map_cons, intercalate_lines, indentLine, List.append_assoc]
      exact (lexes.indented (indented_lines isLines)).blanks _

/-- A sound description stays within its block. -/
theorem stays_of_sound {description : Option String}
    (sound : ∀ word ∈ describingWords description, word.IsSound) :
    ∀ text ∈ description, StaysInBlock text := by
  rintro text rfl
  exact sound (.description text) List.mem_cons_self

/-- An input in writing has its tokens. -/
theorem lexes_input {input : DescribedInput} (sound : ∀ word ∈ input.words, word.IsSound) :
    Lexes (showInput input).toList (inputSigns input) := by
  simp only [DescribedInput.words, List.forall_mem_append] at sound
  obtain ⟨⟨described, named⟩, literal⟩ := sound
  have isName : IsName input.name := named (.name input.name) List.mem_cons_self
  have isType : IsName input.type.core.text :=
    named (.name input.type.core.text) (List.mem_cons_of_mem _ List.mem_cons_self)
  have isLiteral : ∀ text ∈ input.default, IsLiteral text := by
    intro text isDefault
    exact literal (.literal text) (List.mem_map.2 ⟨text, by simpa using isDefault, rfl⟩)
  rw [showInput]
  simp only [String.toList_append]
  have beginning := ((closes_describe (stays_of_sound described)).before isName.lexes).closes
    closes_colon (apart_joints (by decide)) (by decide)
  have typed := beginning.before (lexes_type isType)
  have defaulted := typed.append (lexes_default isLiteral) (apart_default _)
  exact defaulted.append (lexes_deprecation _) (apart_deprecation _)

/-- Arguments in writing have their tokens, on one line or on several. -/
theorem lexes_arguments (room : Nat) {arguments : List DescribedInput}
    (sound : ∀ word ∈ arguments.flatMap DescribedInput.words, word.IsSound) :
    Lexes (showArguments room arguments).toList (argumentSigns arguments) := by
  have each : ∀ argument ∈ arguments, Lexes (showInput argument).toList (inputSigns argument) :=
    fun argument member => lexes_input fun word isWord =>
      sound word (List.mem_flatMap.2 ⟨argument, member, isWord⟩)
  unfold showArguments argumentSigns
  split
  · exact .nil
  split
  · simp only [String.toList_append]
    have lines := lexes_indent (closes_lines each).lexes
    have opened := (closes_joints "(\n".toList (by decide)).before lines
    exact opened.append (closes_joints _ (by decide)).lexes (apart_joints (by decide))
  · simp only [String.toList_append]
    have line := lexes_intercalate (show Closes ", ".toList [] from closes_joints _ (by decide))
      (apart_joints (by decide)) (by decide) each
    rw [intercalate_nothing] at line
    have opened := (closes_joints "(".toList (by decide)).before line
    exact opened.append (closes_joints _ (by decide)).lexes (apart_joints (by decide))

theorem apart_arguments (room : Nat) (arguments : List DescribedInput) :
    Apart (showArguments room arguments).toList := by
  unfold showArguments
  split
  · exact apart_nil
  split
  · simp only [String.toList_append, List.append_assoc]
    exact (apart_joints (by decide)).before (by decide) _
  · simp only [String.toList_append, List.append_assoc]
    exact (apart_joints (by decide)).before (by decide) _

/-- A field in writing has its tokens. -/
theorem lexes_field {field : DescribedField} (sound : ∀ word ∈ field.words, word.IsSound) :
    Lexes (showField field).toList (fieldSigns field) := by
  simp only [DescribedField.words, List.forall_mem_append] at sound
  obtain ⟨⟨described, named⟩, arguments⟩ := sound
  have isName : IsName field.name := named (.name field.name) List.mem_cons_self
  have isType : IsName field.type.core.text :=
    named (.name field.type.core.text) (List.mem_cons_of_mem _ List.mem_cons_self)
  simp only [showField, String.toList_append]
  have beginning := (closes_describe (stays_of_sound described)).before isName.lexes
  have called (room : Nat) :=
    beginning.append (lexes_arguments room arguments) (apart_arguments room _)
  have typed (room : Nat) := ((called room).closes closes_colon (apart_joints (by decide))
    (by decide)).before (lexes_type isType)
  exact (typed _).append (lexes_deprecation _) (apart_deprecation _)

theorem lexes_value {value : DescribedValue} (sound : ∀ word ∈ value.words, word.IsSound) :
    Lexes (showValue value).toList (valueSigns value) := by
  simp only [DescribedValue.words, List.forall_mem_append] at sound
  obtain ⟨described, named⟩ := sound
  have isName : IsName value.name := named (.name value.name) List.mem_cons_self
  simp only [showValue, String.toList_append]
  exact ((closes_describe (stays_of_sound described)).before isName.lexes).append
    (lexes_deprecation _) (apart_deprecation _)

section parts

variable {α : Type} {parts : List α} {write : α → String} {signs : α → List Sign}

/-- The body of a definition and the line break behind it. -/
theorem closes_body (each : ∀ part ∈ parts, Lexes (write part).toList (signs part)) :
    Closes (showBody (parts.map write)).toList (bodySigns (parts.map signs)) := by
  unfold showBody bodySigns
  cases parts with
  | nil => exact closes_lineBreak
  | cons part parts =>
      have isPart (β : Type) (f : α → β) : ((part :: parts).map f).isEmpty = false := rfl
      rw [isPart, isPart, if_neg (by decide), if_neg (by decide), ← List.flatMap_def, List.map_map]
      simp only [String.toList_append]
      have lines := lexes_indent (closes_lines each).lexes
      have opened := (closes_joints " \x7b\n".toList (by decide)).before lines
      exact opened.closes (closes_joints "\x7d\n\n".toList (by decide)) (apart_joints (by decide))
        (by decide)

/-- A body in writing stands apart. -/
theorem apart_body (parts : List String) : Apart (showBody parts).toList := by
  unfold showBody
  split
  · exact apart_joints (by decide)
  · simp only [String.toList_append, List.append_assoc]
    exact (apart_joints (by decide)).before (by decide) _

theorem body_ne_nil (parts : List String) : (showBody parts).toList ≠ [] := by
  unfold showBody
  split
  · decide
  · simp only [String.toList_append, List.append_assoc]
    exact fun none => absurd (List.append_eq_nil_iff.1 none).1 (by decide)

end parts

/-- Names with a mark between them. -/
theorem lexes_names {names : List String} (areNames : ∀ name ∈ names, IsName name)
    {between : String} {mark : Char} (closes : Closes between.toList [.mark mark])
    (apart : Apart between.toList) (nonempty : between.toList ≠ []) :
    Lexes (between.intercalate names).toList (listSigns mark names) := by
  have lexes := lexes_intercalate closes apart nonempty fun name member =>
    (areNames name member).lexes
  rwa [List.map_id'] at lexes

theorem lexes_interfaces {interfaces : List String}
    (areNames : ∀ name ∈ interfaces, IsName name) :
    Lexes (showInterfaces interfaces).toList (interfaceSigns interfaces) := by
  unfold showInterfaces interfaceSigns
  split
  · exact .nil
  · rw [String.toList_append]
    have names := lexes_names areNames
      (show Closes " & ".toList [.mark '&'] from closes_joints _ (by decide))
      (apart_joints (by decide)) (by decide)
    have word : Closes " implements ".toList [.name "implements"] :=
      (closes_joints [' '] (by decide)).append
        (closes_word "implements" [' '] (by decide) (by decide) (by decide))
    exact word.before names

theorem apart_interfaces (interfaces : List String) : Apart (showInterfaces interfaces).toList := by
  unfold showInterfaces
  split
  · exact apart_nil
  · rw [String.toList_append]
    exact (apart_of_head (by decide)).before (by decide) _

theorem lexes_members {members : List String} (areNames : ∀ name ∈ members, IsName name) :
    Lexes (showMembers members).toList (listSigns '|' members) := by
  unfold showMembers
  split
  · rw [String.toList_append]
    have names := lexes_names areNames
      (show Closes "\n  | ".toList [.mark '|'] from closes_joints _ (by decide))
      (apart_joints (by decide)) (by decide)
    exact (closes_joints "\n    ".toList (by decide)).before names
  split
  · next none =>
      rw [List.isEmpty_iff.1 none]
      exact .nil
  · rw [String.toList_append]
    have names := lexes_names areNames
      (show Closes " | ".toList [.mark '|'] from closes_joints _ (by decide))
      (apart_joints (by decide)) (by decide)
    exact (closes_joints " ".toList (by decide)).before names

/-- A word and the name behind it. -/
theorem lexes_named (word : String) (isWord : IsName word) {name : String}
    (isName : IsName name) :
    Lexes (word.toList ++ [' '] ++ name.toList) [.name word, .name name] :=
  (closes_word word [' '] isWord (by decide) (by decide)).before isName.lexes

theorem lexes_oneOf (isOneOf : Bool) :
    Lexes (if isOneOf then " @oneOf" else "").toList
      (if isOneOf then [.mark '@', .name "oneOf"] else []) := by
  cases isOneOf with
  | false => exact .nil
  | true =>
      have isName : IsName "oneOf" := by decide
      exact (closes_joints [' ', '@'] (by decide)).before isName.lexes

theorem apart_oneOf (isOneOf : Bool) : Apart (if isOneOf then " @oneOf" else "").toList := by
  cases isOneOf with
  | false => exact apart_nil
  | true => exact apart_of_head (by decide)

/-- Objects and interfaces: a word and a name, what is implemented, and the fields. -/
theorem closes_implementing (word : String) (isWord : IsName word) {name : String}
    (isName : IsName name) {interfaces : List String} {fields : List DescribedField}
    (areNames : ∀ part ∈ interfaces.map Word.name, part.IsSound)
    (sound : ∀ part ∈ fields.flatMap DescribedField.words, part.IsSound) :
    Closes (word.toList ++ [' '] ++ name.toList ++ (showInterfaces interfaces).toList ++
        (showBody (fields.map showField)).toList)
      ([.name word, .name name] ++ interfaceSigns interfaces ++
        bodySigns (fields.map fieldSigns)) := by
  have begun := lexes_named word isWord isName
  have listed := begun.append (lexes_interfaces (each_name areNames)) (apart_interfaces _)
  exact listed.closes (closes_body fun _ member => lexes_field (each_sound sound member))
    (apart_body _) (body_ne_nil _)

/-- A type in writing has its tokens, and a mark or a blank closes it. -/
theorem closes_type {type : DescribedType} (sound : ∀ word ∈ type.words, word.IsSound) :
    Closes (showType type).toList (definitionSigns type) := by
  simp only [DescribedType.words, List.forall_mem_append] at sound
  obtain ⟨⟨described, named⟩, parts⟩ := sound
  have isName : IsName type.name := named (.name type.name) List.mem_cons_self
  rw [showType, definitionSigns, String.toList_append, List.append_assoc]
  refine (closes_describe (stays_of_sound described)).append ?_
  cases isBody : type.body with
  | scalar =>
      simp only [String.toList_append]
      exact separated (lexes_named "scalar" (by decide) isName) closes_blankLine
        (apart_joints (by decide)) (by decide)
  | object interfaces fields =>
      rw [isBody] at parts
      simp only [DescribedBody.words, List.forall_mem_append] at parts
      simp only [String.toList_append, partSigns, ← List.append_assoc]
      exact closes_implementing "type" (by decide) isName parts.1 parts.2
  | interface interfaces fields =>
      rw [isBody] at parts
      simp only [DescribedBody.words, List.forall_mem_append] at parts
      simp only [String.toList_append, partSigns, ← List.append_assoc]
      exact closes_implementing "interface" (by decide) isName parts.1 parts.2
  | union members =>
      rw [isBody] at parts
      simp only [String.toList_append, partSigns, ← List.append_assoc]
      have begun := lexes_named "union" (by decide) isName
      have equals := begun.closes (closes_joints " =".toList (by decide)) (apart_joints (by decide))
        (by decide)
      exact separated (equals.before (lexes_members (each_name parts))) closes_blankLine
        (apart_joints (by decide)) (by decide)
  | enum values =>
      rw [isBody] at parts
      simp only [String.toList_append]
      exact (lexes_named "enum" (by decide) isName).closes
        (closes_body fun _ member => lexes_value (each_sound parts member)) (apart_body _)
        (body_ne_nil _)
  | inputObject isOneOf fields =>
      rw [isBody] at parts
      simp only [String.toList_append, partSigns, ← List.append_assoc]
      have begun := lexes_named "input" (by decide) isName
      have flagged := begun.append (lexes_oneOf isOneOf) (apart_oneOf isOneOf)
      exact flagged.closes (closes_body fun _ member => lexes_input (each_sound parts member))
        (apart_body _) (body_ne_nil _)

theorem closes_on : Closes " on ".toList [.name "on"] :=
  (closes_joints [' '] (by decide)).append
    (closes_word "on" [' '] (by decide) (by decide) (by decide))

theorem lexes_repeatable (isRepeatable : Bool) :
    Lexes (if isRepeatable then " repeatable" else "").toList
      (if isRepeatable then [.name "repeatable"] else []) := by
  cases isRepeatable with
  | false => exact .nil
  | true =>
      have isName : IsName "repeatable" := by decide
      exact (closes_joints [' '] (by decide)).before isName.lexes

theorem apart_repeatable (isRepeatable : Bool) :
    Apart (if isRepeatable then " repeatable" else "").toList := by
  cases isRepeatable with
  | false => exact apart_nil
  | true => exact apart_of_head (by decide)

/-- A directive in writing has its tokens, and a name closes it. -/
theorem closes_directive {directive : DescribedDirective}
    (sound : ∀ word ∈ directive.words, word.IsSound)
    (places : ∀ place ∈ directive.locations, IsName place) :
    Closes (showDirective directive).toList (directiveSigns directive) := by
  simp only [DescribedDirective.words, List.forall_mem_append] at sound
  obtain ⟨⟨described, named⟩, arguments⟩ := sound
  have isName : IsName directive.name := named (.name directive.name) List.mem_cons_self
  simp only [showDirective, String.toList_append]
  have word : Closes "directive @".toList [.name "directive", .mark '@'] :=
    closes_word "directive" [' ', '@'] (by decide) (by decide) (by decide)
  have begun := ((closes_describe (stays_of_sound described)).append word).before isName.lexes
  have called (room : Nat) :=
    begun.append (lexes_arguments room arguments) (apart_arguments room _)
  have flagged (room : Nat) := (called room).append (lexes_repeatable directive.isRepeatable)
    (apart_repeatable _)
  have placed (room : Nat) := ((flagged room).closes closes_on (apart_of_head (by decide))
    (by decide)).before (lexes_names places
      (show Closes " | ".toList [.mark '|'] from closes_joints _ (by decide))
      (apart_joints (by decide)) (by decide))
  exact separated (placed _) closes_blankLine (apart_joints (by decide)) (by decide)

/-- The line of a root. -/
theorem closes_root (kind : String) (isWord : IsName kind) {name : String} (isName : IsName name) :
    Closes ("  ".toList ++ (kind.toList ++ ": ".toList) ++ name.toList ++ "\n".toList)
      (rootSigns kind (some name)) := by
  have word := (closes_joints "  ".toList (by decide)).append
    (closes_word kind ": ".toList isWord (by decide) (by decide))
  exact separated (word.before isName.lexes) closes_lineBreak (apart_joints (by decide)) (by decide)

/-- A root that may be missing. Its line `begins` with the word and a colon. -/
theorem closes_optionalRoot (kind : String) (isWord : IsName kind) {begins : String}
    (isBeginning : begins.toList = "  ".toList ++ (kind.toList ++ ": ".toList))
    {root : Option String} (isName : ∀ name ∈ root, IsName name) :
    Closes ((root.map fun name => begins ++ name ++ "\n").getD "").toList
      (rootSigns kind root) := by
  cases root with
  | none => exact .nil
  | some name =>
      show Closes (begins ++ name ++ "\n").toList _
      rw [String.toList_append, String.toList_append, isBeginning]
      exact closes_root kind isWord (isName name rfl)

/-- The roots in writing have their tokens. -/
theorem closes_roots {schema : DescribedSchema} (query : IsName schema.query)
    (mutation : ∀ name ∈ schema.mutation, IsName name)
    (subscription : ∀ name ∈ schema.subscription, IsName name) :
    Closes (showRoots schema).toList (rootsSigns schema) := by
  unfold showRoots rootsSigns schemaSigns
  split
  · exact .nil
  · have opened : Closes "schema \x7b\n".toList [.name "schema", .mark '\x7b'] :=
      closes_word "schema" " \x7b\n".toList (by decide) (by decide) (by decide)
    have asked := opened.append (closes_root "query" (by decide) query)
    have changed := closes_optionalRoot "mutation" (by decide)
      (show "  mutation: ".toList = _ from rfl) mutation
    have followed := closes_optionalRoot "subscription" (by decide)
      (show "  subscription: ".toList = _ from rfl) subscription
    have closed : Closes "\x7d\n".toList [.mark '\x7d'] := closes_joints _ (by decide)
    have begins : "schema \x7b\n  query: ".toList =
        "schema \x7b\n".toList ++ ("  ".toList ++ ("query".toList ++ ": ".toList)) := rfl
    simp only [String.toList_append]
    rw [begins]
    have whole := ((asked.append changed).append followed).append closed
    simpa only [List.append_assoc] using whole

/-- Definitions stand one behind the other. -/
theorem closes_all {α : Type} {items : List α} {write : α → String} {signs : α → List Sign}
    (each : ∀ item ∈ items, Closes (write item).toList (signs item)) :
    Closes (String.join (items.map write)).toList (items.flatMap signs) := by
  induction items with
  | nil => exact .nil
  | cons item items ih =>
      rw [List.map_cons, String.join_cons, String.toList_append, List.flatMap_cons]
      exact (each item List.mem_cons_self).append
        (ih fun other member => each other (List.mem_cons_of_mem _ member))

/-- The source of a schema is cut into its signs. -/
theorem lexes_source {schema : DescribedSchema} (sound : ∀ word ∈ schema.words, word.IsSound)
    (places : ∀ directive ∈ schema.directives, ∀ place ∈ directive.locations, IsName place) :
    Lexes schema.source.toList (sourceSigns schema) := by
  simp only [DescribedSchema.words, List.forall_mem_append] at sound
  obtain ⟨⟨⟨⟨query, mutation⟩, subscription⟩, types⟩, directives⟩ := sound
  have roots := closes_roots (query (.name schema.query) List.mem_cons_self)
    (fun name isRoot => each_name mutation name (by simpa using isRoot))
    (fun name isRoot => each_name subscription name (by simpa using isRoot))
  have first := closes_all fun _ member => closes_type (each_sound types member)
  have second := closes_all fun directive member => closes_directive (each_sound directives member)
    (places directive (List.mem_filter.1 member).1)
  simp only [DescribedSchema.source, String.toList_append]
  exact ((roots.append first).append second).lexes

end OperationCheck.Introspection
