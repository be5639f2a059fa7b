import Mathlib.Data.List.AList
import OperationCheck.Http.Message

/-!
Headers as they are carried. The main statements say which values a name has among the headers of a
request, and that these are the values that a client assembles, where each header that was chosen
replaces a default.
-/

namespace OperationCheck.Http

/-- The values that headers give to a name, in the order of the headers. -/
def valuesOf (headers : List Header) (name : String) : List String :=
  (headers.filter fun header => header.hasName name).map Header.value

section Values

theorem valuesOf_append (headers others : List Header) (name : String) :
    valuesOf (headers ++ others) name = valuesOf headers name ++ valuesOf others name := by
  rw [valuesOf, List.filter_append, List.map_append, valuesOf, valuesOf]

/-- A header in front adds its value to those of its own name, in any case of letters. -/
theorem valuesOf_cons (header : Header) (headers : List Header) (name : String) :
    valuesOf (header :: headers) name =
      (if Text.lowercase name = Text.lowercase header.name then [header.value] else []) ++
        valuesOf headers name := by
  by_cases same : Text.lowercase name = Text.lowercase header.name
  · have hasName : header.hasName name = true := beq_iff_eq.2 same.symm
    rw [if_pos same, valuesOf, List.filter_cons, if_pos hasName]
    rfl
  · have noName : ¬header.hasName name = true := fun hasName => same (beq_iff_eq.1 hasName).symm
    rw [if_neg same, valuesOf, List.filter_cons, if_neg noName]
    rfl

/-- A name has no value just where no header carries it. -/
theorem valuesOf_eq_nil_iff {headers : List Header} {name : String} :
    valuesOf headers name = [] ↔ hasHeader headers name = false := by
  rw [valuesOf, List.map_eq_nil_iff, List.filter_eq_nil_iff, hasHeader, List.any_eq_false]

/-- Names that differ in case only are carried by the same headers. -/
theorem hasHeader_congr {header : Header} {name : String} (hasName : header.hasName name = true)
    (headers : List Header) : hasHeader headers header.name = hasHeader headers name := by
  have sameName : Text.lowercase header.name = Text.lowercase name := beq_iff_eq.1 hasName
  simp only [hasHeader, Header.hasName, sameName]

/-- What was held of a name is kept where no header of that name was given, and dropped whole
otherwise. -/
theorem valuesOf_unchosen (headers held : List Header) (name : String) :
    valuesOf (held.filter fun header => !hasHeader headers header.name) name =
      if hasHeader headers name then [] else valuesOf held name := by
  have same : ∀ header : Header, (header.hasName name && !hasHeader headers header.name) =
      (header.hasName name && !hasHeader headers name) := by
    intro header
    cases hasName : header.hasName name with
    | false => rfl
    | true => rw [hasHeader_congr hasName]
  rw [valuesOf, List.filter_filter, List.filter_congr fun header _ => same header]
  cases hasHeader headers name with
  | false => simp only [Bool.not_false, Bool.and_true, Bool.false_eq_true, if_false, valuesOf]
  | true => simp

/-- A request carries the values that were chosen for a name, or else the default ones. -/
theorem valuesOf_complete (request : Request) (name : String) :
    valuesOf request.complete.headers name =
      if hasHeader request.headers name then valuesOf request.headers name
      else valuesOf request.defaults name := by
  rw [Request.complete]
  dsimp only
  rw [valuesOf_append, valuesOf_unchosen]
  split
  · exact List.append_nil _
  · next notChosen =>
      rw [valuesOf_eq_nil_iff.2 (Bool.eq_false_iff.2 notChosen), List.nil_append]

end Values

/-- A field has a first value, and it may have further ones. -/
structure Field where
  first : String
  others : List String

def Field.values (field : Field) : List String := field.first :: field.others

/-- A table has at most one field for a name. The names are in lower case. -/
structure Fields where
  held : AList fun _ : String => Field

namespace Fields

def empty : Fields := ⟨∅⟩

def field? (fields : Fields) (key : String) : Option Field := AList.lookup key fields.held

def values (fields : Fields) (key : String) : List String :=
  ((fields.field? key).map Field.values).getD []

def put (fields : Fields) (key : String) (field : Field) : Fields :=
  ⟨AList.insert key field fields.held⟩

/-- A value is added behind the other ones of its field. -/
def append (fields : Fields) (key value : String) : Fields :=
  match fields.field? key with
  | some field => fields.put key { field with others := field.others ++ [value] }
  | none => fields.put key ⟨value, []⟩

def appendHeader (fields : Fields) (header : Header) : Fields :=
  fields.append (Text.lowercase header.name) header.value

def putMissing (fields : Fields) (header : Header) : Fields :=
  match fields.field? (Text.lowercase header.name) with
  | some _ => fields
  | none => fields.put (Text.lowercase header.name) ⟨header.value, []⟩

def ofHeaders (headers : List Header) : Fields := headers.foldl appendHeader empty

/-- The first value replaces the field that was there, and the others are added to it. -/
def replaceField (fields : Fields) (given : Sigma fun _ : String => Field) : Fields :=
  given.2.others.foldl (fun fields value => fields.append given.1 value)
    (fields.put given.1 ⟨given.2.first, []⟩)

def replace (fields given : Fields) : Fields := given.held.entries.foldl replaceField fields

variable (fields : Fields) (key other value : String)

theorem values_of_some {fields : Fields} {key : String} {field : Field}
    (held : fields.field? key = some field) : fields.values key = field.values := by
  rw [values, held]
  rfl

theorem values_of_none {fields : Fields} {key : String} (missing : fields.field? key = none) :
    fields.values key = [] := by
  rw [values, missing]
  rfl

/-- A field that is held has a value. -/
theorem values_ne_nil {fields : Fields} {key : String} {field : Field}
    (held : fields.field? key = some field) : fields.values key ≠ [] := by
  rw [values_of_some held]
  exact List.cons_ne_nil _ _

/-- Putting a field changes its own values and no other's. -/
theorem values_put (field : Field) :
    (fields.put key field).values other =
      if other = key then field.values else fields.values other := by
  by_cases same : other = key
  · subst same
    rw [if_pos rfl, values, field?, put, AList.lookup_insert]
    rfl
  · rw [if_neg same, values, field?, put, AList.lookup_insert_ne same]
    rfl

/-- Appending a value puts a field with that value behind the others. -/
theorem exists_append : ∃ field : Field, fields.append key value = fields.put key field ∧
    field.values = fields.values key ++ [value] := by
  cases held : fields.field? key with
  | none =>
      refine ⟨⟨value, []⟩, by rw [append, held], ?_⟩
      rw [values_of_none held]
      rfl
  | some field =>
      refine ⟨{ field with others := field.others ++ [value] }, by rw [append, held], ?_⟩
      rw [values_of_some held]
      rfl

/-- Appending a value to a field leaves the others. -/
theorem values_append :
    (fields.append key value).values other =
      fields.values other ++ if other = key then [value] else [] := by
  obtain ⟨field, appended, isField⟩ := exists_append fields key value
  rw [appended, values_put]
  split
  · next same => rw [same, isField]
  · exact (List.append_nil _).symm

/-- A default is put only where its name has no value yet. -/
theorem values_putMissing (header : Header) :
    (fields.putMissing header).values key =
      if key = Text.lowercase header.name ∧ fields.values key = [] then [header.value]
      else fields.values key := by
  by_cases same : key = Text.lowercase header.name
  · subst same
    cases held : fields.field? (Text.lowercase header.name) with
    | none =>
        rw [putMissing, held]
        dsimp only
        rw [values_put, if_pos rfl, if_pos ⟨rfl, values_of_none held⟩]
        rfl
    | some field => rw [putMissing, held, if_neg (mt And.right (values_ne_nil held))]
  · rw [if_neg (mt And.left same), putMissing]
    split
    · rfl
    · rw [values_put, if_neg same]

/-- Headers appended one by one leave their values in order behind those that were there. -/
theorem values_foldl_appendHeader (headers : List Header) (name : String) :
    (headers.foldl appendHeader fields).values (Text.lowercase name) =
      fields.values (Text.lowercase name) ++ valuesOf headers name := by
  induction headers generalizing fields with
  | nil => exact (List.append_nil _).symm
  | cons header headers ih =>
      rw [List.foldl_cons, ih, appendHeader, values_append, List.append_assoc, valuesOf_cons]

/-- A table has the values of its headers, whatever the case of their names. -/
theorem values_ofHeaders (headers : List Header) (name : String) :
    (ofHeaders headers).values (Text.lowercase name) = valuesOf headers name := by
  rw [ofHeaders, values_foldl_appendHeader]
  exact List.nil_append _

/-- Values appended to one field stand in order behind its others, and leave the other fields. -/
theorem values_foldl_append (others : List String) :
    (others.foldl (fun fields value => fields.append key value) fields).values other =
      fields.values other ++ if other = key then others else [] := by
  induction others generalizing fields with
  | nil => rw [ite_self, List.append_nil, List.foldl_nil]
  | cons value others ih =>
      rw [List.foldl_cons, ih, values_append, List.append_assoc]
      split <;> rfl

/-- Replacing a field leaves its new values only, and the other fields. -/
theorem values_replaceField (given : Sigma fun _ : String => Field) :
    (fields.replaceField given).values other =
      if other = given.1 then given.2.values else fields.values other := by
  rw [replaceField, values_foldl_append, values_put]
  split
  · rfl
  · exact List.append_nil _

/-- Replacing fields of distinct names leaves the new values of each name that has some. -/
theorem values_foldl_replaceField {entries : List (Sigma fun _ : String => Field)}
    (distinct : entries.NodupKeys) :
    (entries.foldl replaceField fields).values key =
      ((entries.dlookup key).map Field.values).getD (fields.values key) := by
  induction entries generalizing fields with
  | nil => rfl
  | cons given entries ih =>
      rw [List.nodupKeys_cons] at distinct
      rw [List.foldl_cons, ih _ distinct.2, values_replaceField]
      by_cases same : key = given.1
      · subst same
        rw [List.dlookup_eq_none.2 distinct.1, List.dlookup_cons_eq, if_pos rfl]
        rfl
      · rw [List.dlookup_cons_ne _ _ same, if_neg same]

/-- A field that is given replaces the one that was there. -/
theorem values_replace (given : Fields) :
    (fields.replace given).values key =
      if given.values key = [] then fields.values key else given.values key := by
  rw [replace, values_foldl_replaceField fields key given.held.nodupKeys]
  change ((given.field? key).map Field.values).getD _ = _
  cases held : given.field? key with
  | none =>
      rw [if_pos (values_of_none held)]
      rfl
  | some field =>
      rw [if_neg (values_ne_nil held), values_of_some held]
      rfl

end Fields

/-- A client begins with its defaults. The headers that were chosen replace them, and the type of a
body is put in at last, if it is missing. -/
def Request.assemble (request : Request) : Fields :=
  let fields := (Fields.ofHeaders { request with body := none }.defaults).replace
    (Fields.ofHeaders request.headers)
  if request.body.isSome then fields.putMissing ⟨"content-type", "application/json"⟩ else fields

section Assembling

variable (method : Method) (address : Address) (headers : List Header) (name : String)

/-- The type of a body is the last default. -/
theorem valuesOf_defaults (body : String) :
    valuesOf (Request.mk method address headers (some body)).defaults name =
      valuesOf (Request.mk method address headers none).defaults name ++
        if Text.lowercase name = Text.lowercase "content-type" then ["application/json"] else [] := by
  have isLast : (Request.mk method address headers (some body)).defaults =
      (Request.mk method address headers none).defaults ++
        [⟨"content-type", "application/json"⟩] := by
    simp only [Request.defaults, Option.isSome_some, Option.isSome_none, if_true,
      Bool.false_eq_true, if_false, List.append_nil]
  rw [isLast, valuesOf_append, valuesOf_cons]
  exact congrArg _ (List.append_nil _)

/-- A request without a body carries headers of four names by itself. -/
theorem name_of_default {header : Header}
    (member : header ∈ (Request.mk method address headers none).defaults) :
    header.name ∈ ["user-agent", "accept", "host", "authorization"] := by
  cases isAuthorized : address.authorization with
  | none =>
      simp only [Request.defaults, isAuthorized, Option.map_none, Option.toList_none,
        Option.isSome_none, Bool.false_eq_true, if_false, List.append_nil, List.mem_cons,
        List.not_mem_nil, or_false] at member
      rcases member with rfl | rfl | rfl <;> simp
  | some value =>
      simp only [Request.defaults, isAuthorized, Option.map_some, Option.toList_some,
        Option.isSome_none, Bool.false_eq_true, if_false, List.append_nil, List.cons_append,
        List.nil_append, List.mem_cons, List.not_mem_nil, or_false] at member
      rcases member with rfl | rfl | rfl | rfl <;> simp

/-- Without a body, no type is given. -/
theorem valuesOf_defaults_of_type {name : String}
    (isType : Text.lowercase name = Text.lowercase "content-type") :
    valuesOf (Request.mk method address headers none).defaults name = [] := by
  have noType : ∀ other ∈ ["user-agent", "accept", "host", "authorization"],
      Text.lowercase other ≠ Text.lowercase "content-type" := by decide +kernel
  apply valuesOf_eq_nil_iff.2
  apply List.any_eq_false.2
  intro header member hasName
  have sameName : Text.lowercase header.name = Text.lowercase name := beq_iff_eq.1 hasName
  exact noType _ (name_of_default method address headers member) (sameName.trans isType)

/-- The given headers replace the defaults of their names, and the other defaults stay. -/
theorem values_replace_defaults :
    ((Fields.ofHeaders (Request.mk method address headers none).defaults).replace
        (Fields.ofHeaders headers)).values (Text.lowercase name) =
      if hasHeader headers name then valuesOf headers name
      else valuesOf (Request.mk method address headers none).defaults name := by
  rw [Fields.values_replace, Fields.values_ofHeaders, Fields.values_ofHeaders]
  simp only [valuesOf_eq_nil_iff]
  cases hasHeader headers name <;> rfl

end Assembling

/-- What a client assembles are the values that a request carries. -/
theorem values_assemble (request : Request) (name : String) :
    request.assemble.values (Text.lowercase name) = valuesOf request.complete.headers name := by
  obtain ⟨method, address, headers, body⟩ := request
  have replaced := values_replace_defaults method address headers name
  rw [valuesOf_complete]
  cases body with
  | none => exact replaced
  | some body =>
      rw [Request.assemble]
      dsimp only
      rw [Option.isSome_some, if_pos rfl, Fields.values_putMissing, replaced, valuesOf_defaults]
      by_cases isType : Text.lowercase name = Text.lowercase "content-type"
      · rw [if_pos isType, valuesOf_defaults_of_type method address headers isType, List.nil_append]
        cases chosen : hasHeader headers name with
        | false => exact if_pos ⟨isType, rfl⟩
        | true =>
            have present : valuesOf headers name ≠ [] := by simp [valuesOf_eq_nil_iff, chosen]
            exact if_neg (mt And.right present)
      · rw [if_neg (mt And.left isType), if_neg isType, List.append_nil]

end OperationCheck.Http
