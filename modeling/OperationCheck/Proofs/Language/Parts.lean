import OperationCheck.Proofs.Language.Reading

/-!
What it leads to when values, directives and types are read that are there.
-/

namespace OperationCheck.Language.Reading

/-- A field of an object and what stands before its value. -/
def memberSigns (field : String × List Sign) : List Sign := .name field.1 :: .mark ':' :: field.2

/-- Values as they are written: words, numbers, strings, and lists and objects of these. There are
no variables in them. -/
inductive IsValue : List Sign → Prop
  | number : IsValue [.number]
  | text : IsValue [.text]
  | word (text : String) : IsValue [.name text]
  | list {items : List (List Sign)} (each : ∀ item ∈ items, IsValue item) :
      IsValue (.mark '[' :: (items.flatten ++ [.mark ']']))
  | object {fields : List (String × List Sign)} (each : ∀ field ∈ fields, IsValue field.2) :
      IsValue (.mark '\x7b' :: (fields.flatMap memberSigns ++ [.mark '\x7d']))

section values

variable {depth : Nat} {rest : List Sign}

/-- A value begins with a token that closes nothing. -/
theorem IsValue.begins {signs : List Sign} (isValue : IsValue signs) :
    ∃ first others, signs = first :: others ∧ first ≠ .mark ']' ∧ first ≠ .stop := by
  cases isValue
  all_goals exact ⟨_, _, rfl, by nofun, by nofun⟩

/-- The items of a list are read one after another up to its end. -/
theorem leads_readItems {constant : Bool} {items : List (List Sign)}
    (areValues : ∀ item ∈ items, IsValue item)
    (each : ∀ item ∈ items, ∀ {passes : Bool} {fuel depth : Nat} {rest : List Sign},
      2 * item.length ≤ fuel → Leads (readValue constant passes fuel) (Stands depth (item ++ rest))
        fun _ => Stands depth rest)
    {fuel : Nat} (enough : 2 * items.flatten.length < fuel) :
    Leads (readItems constant fuel) (Stands depth (items.flatten ++ .mark ']' :: rest))
      fun _ => Stands depth (.mark ']' :: rest) := by
  induction items generalizing fuel with
  | nil =>
      cases fuel with
      | zero => cases enough
      | succ fuel =>
          rw [readItems]
          refine leads_peek fun kind text isSign => ?_
          cases kind
          case mark c =>
            cases isSign
            exact .pure fun _ stands => stands
          all_goals cases isSign
  | cons item items ih =>
      cases fuel with
      | zero => cases enough
      | succ fuel =>
          obtain ⟨first, others, rfl, notClosing, notStop⟩ :=
            (areValues item List.mem_cons_self).begins
          rw [List.flatten_cons, List.length_append, List.length_cons] at enough
          rw [List.flatten_cons, List.append_assoc, readItems]
          refine leads_peek fun kind text isSign => ?_
          split
          · next none => cases none
          · next isClosing =>
              cases isClosing
              exact absurd isSign.symm notClosing
          · next isStop =>
              cases isStop
              exact absurd isSign.symm notStop
          · refine leads_entered (List.cons_ne_nil _ _) ?_
            refine (each _ List.mem_cons_self (by rw [List.length_cons]; omega)).bind fun value => ?_
            refine leads_leave.bind fun _ => ?_
            refine (ih (fun other member => areValues other (List.mem_cons_of_mem _ member))
              (fun other member => each other (List.mem_cons_of_mem _ member))
              (by omega)).bind fun _ => ?_
            exact .pure fun _ stands => stands

/-- The fields of an object are read one after another up to its end. -/
theorem leads_readFields {constant : Bool} {fields : List (String × List Sign)}
    (areValues : ∀ field ∈ fields, IsValue field.2)
    (each : ∀ field ∈ fields, ∀ {passes : Bool} {fuel depth : Nat} {rest : List Sign},
      2 * field.2.length ≤ fuel →
        Leads (readValue constant passes fuel) (Stands depth (field.2 ++ rest))
          fun _ => Stands depth rest)
    {fuel : Nat} (enough : 2 * (fields.flatMap memberSigns).length < fuel) :
    Leads (readFields constant fuel)
      (Stands depth (fields.flatMap memberSigns ++ .mark '\x7d' :: rest))
      fun _ => Stands depth (.mark '\x7d' :: rest) := by
  induction fields generalizing fuel with
  | nil =>
      cases fuel with
      | zero => cases enough
      | succ fuel =>
          rw [readFields]
          refine (leads_noName rfl).bind fun name => .and fun isNone => ?_
          subst isNone
          exact .pure fun _ stands => stands
  | cons field fields ih =>
      cases fuel with
      | zero => cases enough
      | succ fuel =>
          obtain ⟨name, value⟩ := field
          obtain ⟨first, others, rfl, -, -⟩ := (areValues _ List.mem_cons_self).begins
          rw [List.flatMap_cons, List.length_append] at enough
          simp only [memberSigns, List.length_cons] at enough
          rw [List.flatMap_cons, List.append_assoc, readFields]
          refine leads_takeName.bind fun named => .and fun isNamed => ?_
          cases named with
          | none => cases isNamed
          | some named =>
              refine (asks_isAt ':').bind (leads_pass.bind fun _ => ?_)
              refine leads_entered (List.cons_ne_nil _ _) ?_
              refine (each _ List.mem_cons_self (by simp only [List.length_cons]; omega)).bind
                fun value => ?_
              refine leads_leave.bind fun _ => ?_
              refine (ih (fun other member => areValues other (List.mem_cons_of_mem _ member))
                (fun other member => each other (List.mem_cons_of_mem _ member))
                (by omega)).bind fun _ => ?_
              exact .pure fun _ stands => stands

/-- A value that is one token. -/
theorem leads_readValue_single {sign : Sign}
    (single : sign = .number ∨ sign = .text ∨ ∃ text, sign = .name text) (constant passes : Bool)
    {fuel : Nat} (enough : 0 < fuel) :
    Leads (readValue constant passes fuel) (Stands depth (sign :: rest)) fun _ => Stands depth rest := by
  cases fuel with
  | zero => cases enough
  | succ fuel =>
      rw [readValue]
      refine leads_current fun token isSign => ?_
      obtain ⟨kind, written, place⟩ := token
      cases kind
      case int => exact leads_pass.bind fun _ => .pure fun _ stands => stands
      case float => exact leads_pass.bind fun _ => .pure fun _ stands => stands
      case text => exact leads_pass.bind fun _ => .pure fun _ stands => stands
      case name => exact leads_pass.bind fun _ => .pure fun _ stands => stands
      all_goals
        subst isSign
        rcases single with isSign | isSign | ⟨text, isSign⟩
        all_goals cases isSign

/-- A value is read to its end. -/
theorem leads_readValue {signs : List Sign} (isValue : IsValue signs) (constant passes : Bool)
    {fuel : Nat} (enough : 2 * signs.length ≤ fuel) :
    Leads (readValue constant passes fuel) (Stands depth (signs ++ rest))
      fun _ => Stands depth rest := by
  induction isValue generalizing passes fuel depth rest with
  | number =>
      have some : 0 < fuel := lt_of_lt_of_le Nat.two_pos enough
      exact leads_readValue_single (.inl rfl) constant passes some
  | text =>
      have some : 0 < fuel := lt_of_lt_of_le Nat.two_pos enough
      exact leads_readValue_single (.inr (.inl rfl)) constant passes some
  | word text =>
      have some : 0 < fuel := lt_of_lt_of_le Nat.two_pos enough
      exact leads_readValue_single (.inr (.inr ⟨text, rfl⟩)) constant passes some
  | @list items areValues each =>
      cases fuel with
      | zero => cases enough
      | succ fuel =>
          simp only [List.length_cons, List.length_append, List.length_nil] at enough
          rw [readValue, List.cons_append, List.append_assoc]
          refine leads_currentMark fun text place => leads_pass.bind fun _ => ?_
          refine (leads_readItems areValues (fun item member => each item member _)
            (by omega)).bind fun items => ?_
          exact (leads_expect ']').bind fun _ => .pure fun _ stands => stands
  | @object fields areValues each =>
      cases fuel with
      | zero => cases enough
      | succ fuel =>
          simp only [List.length_cons, List.length_append, List.length_nil] at enough
          rw [readValue, List.cons_append, List.append_assoc]
          refine leads_currentMark fun text place => leads_pass.bind fun _ => ?_
          refine (leads_readFields areValues (fun field member => each field member _)
            (by omega)).bind fun fields => ?_
          exact (leads_expect '\x7d').bind fun _ => .pure fun _ stands => stands

end values

section directives

variable {depth : Nat} {rest : List Sign}

/-- An argument is read to its end. -/
theorem leads_readArgument {constant : Bool} {argument : String × List Sign}
    (isValue : IsValue argument.2) {fuel : Nat} (enough : 2 * (memberSigns argument).length ≤ fuel) :
    Leads (readArgument constant fuel) (Stands depth (memberSigns argument ++ rest))
      fun _ => Stands depth rest := by
  simp only [memberSigns, List.length_cons] at enough
  refine (leads_nameOr _).bind fun name => .and fun _ => ?_
  refine (asks_isAt ':').bind (leads_pass.bind fun _ => ?_)
  exact (leads_readValue isValue constant false (by omega)).bind fun _ =>
    .pure fun _ stands => stands

/-- The arguments of a directive. -/
def givenSigns (arguments : List (String × List Sign)) : List Sign :=
  if arguments.isEmpty then [] else .mark '(' :: (arguments.flatMap memberSigns ++ [.mark ')'])

/-- A directive with its arguments. -/
def appliedSigns (directive : String × List (String × List Sign)) : List Sign :=
  .mark '@' :: .name directive.1 :: givenSigns directive.2

/-- Arguments are read to their end, and none are read where there are none. -/
theorem leads_readArguments {constant : Bool} {arguments : List (String × List Sign)}
    (areValues : ∀ argument ∈ arguments, IsValue argument.2)
    (noArguments : rest.head? ≠ some (.mark '(')) {fuel : Nat}
    (enough : 2 * (givenSigns arguments).length ≤ fuel) :
    Leads (readArguments constant fuel) (Stands depth (givenSigns arguments ++ rest))
      fun _ => Stands depth rest := by
  refine (asks_isAt '(').bind ?_
  cases isFull : arguments.isEmpty with
  | true =>
      have isRest : givenSigns arguments = [] := if_pos isFull
      rw [isRest, List.nil_append, beq_eq_false_iff_ne.2 noArguments, if_neg (by decide)]
      exact .pure fun _ stands => stands
  | false =>
      have isGroup : givenSigns arguments =
          .mark '(' :: (arguments.flatMap memberSigns ++ [.mark ')']) :=
        if_neg (by rw [isFull]; decide)
      rw [isGroup, List.length_cons, List.length_append] at enough
      rw [isGroup, List.cons_append, List.append_assoc]
      have count : arguments.length ≤ (arguments.flatMap memberSigns).length :=
        length_le_of_nonempty (by nofun)
      have starts : (nameAt (arguments.flatMap memberSigns ++ .mark ')' :: rest)).isSome = true := by
        cases arguments with
        | nil => cases isFull
        | cons argument arguments => rfl
      have each (argument) (member : argument ∈ arguments) (behind : List Sign) (_ : True) :
          Leads (readArgument constant fuel) (Stands depth (memberSigns argument ++ behind))
            fun _ => Stands depth behind :=
        have within : (memberSigns argument).length ≤ (arguments.flatMap memberSigns).length :=
          length_le_flatMap member
        leads_readArgument (areValues argument member) (by omega)
      have all : Leads (many isAtName (readArgument constant fuel) fuel)
          (Stands depth (arguments.flatMap memberSigns ++ .mark ')' :: rest))
          fun _ => Stands depth (.mark ')' :: rest) :=
        leads_each (fun _ => True) asks_isAtName rfl (fun _ _ _ => rfl) each (fun _ _ _ => trivial)
          trivial (by omega)
      refine leads_pass.bind fun _ => ?_
      refine (leads_atLeastOne asks_isAtName starts all _).bind fun _ => ?_
      exact (leads_expect ')').bind fun _ => .pure fun _ stands => stands

/-- A directive is read with its arguments. -/
theorem leads_readDirective {constant : Bool} {directive : String × List (String × List Sign)}
    (areValues : ∀ argument ∈ directive.2, IsValue argument.2)
    (noArguments : rest.head? ≠ some (.mark '(')) {fuel : Nat}
    (enough : 2 * (appliedSigns directive).length ≤ fuel) :
    Leads (readDirective constant fuel) (Stands depth (appliedSigns directive ++ rest))
      fun _ => Stands depth rest := by
  simp only [appliedSigns, List.length_cons] at enough
  refine leads_here fun place => leads_pass.bind fun _ => ?_
  refine (leads_nameOr _).bind fun name => .and fun _ => ?_
  refine (leads_readArguments areValues noArguments (by omega)).bind fun _ => ?_
  exact .pure fun _ stands => stands

/-- The directives behind a part are read. -/
theorem leads_readDirectives {constant : Bool}
    {directives : List (String × List (String × List Sign))}
    (areValues : ∀ directive ∈ directives, ∀ argument ∈ directive.2, IsValue argument.2)
    (noArguments : rest.head? ≠ some (.mark '(')) (noDirective : rest.head? ≠ some (.mark '@'))
    {fuel : Nat} (enough : 2 * (directives.flatMap appliedSigns).length ≤ fuel) :
    Leads (readDirectives constant fuel) (Stands depth (directives.flatMap appliedSigns ++ rest))
      fun _ => Stands depth rest := by
  have count : directives.length ≤ (directives.flatMap appliedSigns).length :=
    length_le_of_nonempty (by nofun)
  refine leads_each (fun behind => behind.head? ≠ some (.mark '(')) (asks_isAt '@')
    (by simpa using noDirective) (fun _ _ _ => rfl) (fun directive member behind isFollowed => ?_)
    (fun _ _ _ => by nofun) noArguments (by omega)
  exact leads_readDirective (areValues directive member) isFollowed
    (le_trans (Nat.mul_le_mul_left 2 (length_le_flatMap member)) enough)

end directives

section types

variable {depth : Nat} {rest : List Sign}

def typeSigns : TypeRef → List Sign
  | .named name => [.name name.text]
  | .list item => [.mark '['] ++ typeSigns item ++ [.mark ']']
  | .nonNull inner => typeSigns inner ++ [.mark '!']

/-- What stands behind a mark against null, if there is one. -/
def behindNonNull : List Sign → List Sign
  | .mark '!' :: rest => rest
  | rest => rest

/-- Without an exclamation mark, nothing is passed. -/
theorem behindNonNull_of_head (nullable : rest.head? ≠ some (.mark '!')) :
    behindNonNull rest = rest := by
  unfold behindNonNull
  split
  · exact absurd rfl nullable
  · rfl

/-- Where the reader stands behind a type. A type with two marks against null is not read to its
end. -/
def IsBehindType (type : TypeRef) (rest finish : List Sign) : Prop :=
  if type.isNonNull then finish = rest ∨ IsStuck finish else finish = behindNonNull rest

/-- An exclamation mark behind a type is passed. -/
theorem leads_markNonNull (type : Option TypeRef) :
    Leads (do
      if ← isAt '!' then
        pass
        return (type.map .nonNull, none)
      return (type, none) : Reading (Option TypeRef × Option Token)) (Stands depth rest)
      fun result reader => result.2 = none ∧ Stands depth (behindNonNull rest) reader := by
  refine (asks_isAt '!').bind ?_
  split
  · next isNonNull =>
      obtain ⟨others, rfl⟩ := List.head?_eq_some_iff.1 (eq_of_beq isNonNull)
      exact leads_pass.bind fun _ => .pure fun _ stands => ⟨rfl, stands⟩
  · next isNullable =>
      rw [behindNonNull_of_head (by simpa using isNullable)]
      exact .pure fun _ stands => ⟨rfl, stands⟩

theorem typeSigns_ne_nil (type : TypeRef) : typeSigns type ≠ [] := by
  cases type with
  | named name => exact List.cons_ne_nil _ _
  | list item => exact List.cons_ne_nil _ _
  | nonNull inner => exact List.append_ne_nil_of_right_ne_nil _ (List.cons_ne_nil _ _)

/-- A type begins with a name or with a bracket. -/
theorem isAtType_typeSigns (type : TypeRef) (behind : List Sign) :
    ((nameAt (typeSigns type ++ behind)).isSome ||
      (typeSigns type ++ behind).head? == some (.mark '[')) = true := by
  induction type generalizing behind with
  | named name => rfl
  | list item => exact Bool.or_true _
  | nonNull inner ih =>
      rw [typeSigns, List.append_assoc]
      exact ih _

/-- The mark behind the item of a list closes it, unless the reader is stuck behind the item. -/
theorem leads_closeList (item : TypeRef) (read : Option TypeRef) {finish : List Sign}
    (isBehind : IsBehindType item (.mark ']' :: rest) finish) :
    Leads (do
      expect ']'
      if ← isAt '!' then
        pass
        return ((read.map TypeRef.list).map .nonNull, none)
      return (read.map .list, none) : Reading (Option TypeRef × Option Token))
      (Stands depth finish) fun result reader => result.2 = none ∧
        ∃ finish, IsBehindType (.list item) rest finish ∧ Stands depth finish reader := by
  have either : finish = .mark ']' :: rest ∨ IsStuck finish := by
    unfold IsBehindType at isBehind
    split at isBehind
    · exact isBehind
    · exact .inl isBehind
  rcases either with rfl | stuck
  · refine (leads_expect ']').bind fun _ => (leads_markNonNull _).imp fun result reader => ?_
    exact fun stands => ⟨stands.1, behindNonNull rest, rfl, stands.2⟩
  · obtain ⟨others, rfl⟩ := List.head?_eq_some_iff.1 stuck
    exact (leads_expect_other (by decide)).bind fun _ => fun _ none => none.elim

/-- The first mark against null is passed over, and the reader is stuck at a second one. -/
theorem IsBehindType.nonNull {inner : TypeRef} {finish : List Sign}
    (isBehind : IsBehindType inner (.mark '!' :: rest) finish) :
    IsBehindType (.nonNull inner) rest finish := by
  unfold IsBehindType at isBehind ⊢
  rw [if_pos (show inner.nonNull.isNonNull = true from rfl)]
  split at isBehind
  · rcases isBehind with rfl | stuck
    · exact .inr rfl
    · exact .inr stuck
  · exact .inl isBehind

theorem leads_readTypeOrToken (type : TypeRef) {fuel : Nat}
    (enough : (typeSigns type).length ≤ fuel) :
    Leads (readTypeOrToken fuel) (Stands depth (typeSigns type ++ rest)) fun result reader =>
      result.2 = none ∧ ∃ finish, IsBehindType type rest finish ∧ Stands depth finish reader := by
  induction type generalizing fuel depth rest with
  | named name =>
      cases fuel with
      | zero => cases enough
      | succ fuel =>
          rw [readTypeOrToken]
          refine leads_current fun token isSign => ?_
          obtain ⟨kind, written, place⟩ := token
          cases kind
          case name =>
            refine leads_pass.bind fun _ => (leads_markNonNull _).imp fun result reader => ?_
            exact fun stands => ⟨stands.1, behindNonNull rest, rfl, stands.2⟩
          all_goals cases isSign
  | list item ih =>
      cases fuel with
      | zero => cases enough
      | succ fuel =>
          simp only [typeSigns, List.length_append, List.length_cons, List.length_nil] at enough
          rw [readTypeOrToken, typeSigns, List.append_assoc, List.append_assoc,
            List.singleton_append]
          refine leads_currentMark fun text place => leads_pass.bind fun _ => ?_
          refine leads_entered (List.append_ne_nil_of_left_ne_nil (typeSigns_ne_nil item) _) ?_
          refine (ih (by omega)).bind fun result => .and fun isNone => .exists fun finish =>
            .and fun isBehind => ?_
          obtain ⟨read, refused⟩ := result
          cases isNone
          refine leads_leave.bind fun _ => ?_
          exact leads_closeList item read isBehind
  | nonNull inner ih =>
      rw [typeSigns, List.length_append] at enough
      rw [typeSigns, List.append_assoc]
      refine (ih (by omega)).imp fun result reader => ?_
      rintro ⟨isNone, finish, isBehind, stands⟩
      exact ⟨isNone, finish, isBehind.nonNull, stands⟩

/-- Behind a type the reader stands before what is next, or it is stuck. -/
theorem leads_readType (type : TypeRef) (nullable : rest.head? ≠ some (.mark '!')) {fuel : Nat}
    (enough : (typeSigns type).length ≤ fuel) :
    Leads (readType fuel) (Stands depth (typeSigns type ++ rest)) fun _ reader =>
      Stands depth rest reader ∨ Stuck depth reader := by
  refine (leads_readTypeOrToken type enough).bind fun result => .and fun isNone => .exists
    fun finish => .and fun isBehind => ?_
  obtain ⟨read, refused⟩ := result
  cases isNone
  refine .pure fun reader stands => ?_
  unfold IsBehindType at isBehind
  rw [behindNonNull_of_head nullable] at isBehind
  split at isBehind
  · rcases isBehind with rfl | stuck
    · exact .inl stands
    · exact .inr ⟨finish, stuck, stands⟩
  · rw [isBehind] at stands
    exact .inl stands

end types

end OperationCheck.Language.Reading
