import OperationCheck.Language.Reading.Document
import OperationCheck.Proofs.Language.Lexing
import Mathlib.Data.List.Forall2

/-!
What a reading leads to. A reading leads from one state of a reader to another one unless a fault is
noted. What has been noted stays noted, so that this goes through step by step.
-/

namespace OperationCheck.Language

/-- A reader that has noted nothing stands before tokens with these signs. -/
structure Stands (depth : Nat) (signs : List Sign) (reader : Reader) : Prop where
  clean : reader.faults = []
  goesOn : reader.isStopped = false
  isDeep : reader.depth = depth
  isBefore : reader.tokens.map Token.sign = signs

/-- A reader that stands before something has a token. -/
theorem Stands.token {depth : Nat} {sign : Sign} {signs : List Sign} {reader : Reader}
    (stands : Stands depth (sign :: signs) reader) :
    ∃ token tokens, reader = ⟨token :: tokens, [], depth, false⟩ ∧ token.sign = sign ∧
      tokens.map Token.sign = signs := by
  obtain ⟨tokens, faults, deep, isStopped⟩ := reader
  obtain ⟨rfl, rfl, rfl, isBefore⟩ := stands
  cases tokens with
  | nil => cases isBefore
  | cons token tokens =>
      obtain ⟨isSign, others⟩ := List.cons.inj isBefore
      exact ⟨token, tokens, rfl, isSign, others⟩

namespace Reading

variable {α β : Type}

/-- Unless a fault is noted, a reading goes from one state to another. -/
def Leads (reading : Reading α) (before : Reader → Prop) (after : α → Reader → Prop) : Prop :=
  ∀ reader, before reader → (reading.run reader).2.faults = [] →
    after (reading.run reader).1 (reading.run reader).2

theorem Leads.pure {before : Reader → Prop} {after : α → Reader → Prop} {result : α}
    (holds : ∀ reader, before reader → after result reader) :
    Leads (Pure.pure result) before after := fun reader isBefore _ => holds reader isBefore

/-- What is noted on the way would still be noted at the end. -/
theorem Leads.bind {first : Reading α} {next : α → Reading β} {before : Reader → Prop}
    {between : α → Reader → Prop} {after : β → Reader → Prop} (leads : Leads first before between)
    (others : ∀ result, Leads (next result) (between result) after) :
    Leads (first >>= next) before after := by
  intro reader isBefore clean
  have isClean : (first.run reader).2.faults = [] := by
    have kept := (next (first.run reader).1).keeps (first.run reader).2
    rw [show (next (first.run reader).1).run (first.run reader).2 = (first >>= next).run reader
      from rfl, clean] at kept
    exact List.suffix_nil.1 kept
  exact others _ _ (leads reader isBefore isClean) clean

/-- What holds behind a reading may be restated. -/
theorem Leads.imp {reading : Reading α} {before : Reader → Prop} {after others : α → Reader → Prop}
    (leads : Leads reading before after) (implies : ∀ result reader, after result reader →
      others result reader) : Leads reading before others := fun reader isBefore clean =>
  implies _ _ (leads reader isBefore clean)

/-- A reading leads on from each of two places. -/
theorem Leads.or {reading : Reading α} {first second : Reader → Prop}
    {after : α → Reader → Prop} (isFirst : Leads reading first after)
    (isSecond : Leads reading second after) :
    Leads reading (fun reader => first reader ∨ second reader) after := fun reader either clean =>
  either.elim (isFirst reader · clean) (isSecond reader · clean)

/-- A fact that does not depend on the reader may be assumed. -/
theorem Leads.and {reading : Reading α} {holds : Prop} {before : Reader → Prop}
    {after : α → Reader → Prop} (leads : holds → Leads reading before after) :
    Leads reading (fun reader => holds ∧ before reader) after := fun reader both clean =>
  leads both.1 reader both.2 clean

/-- A reading leads on from wherever a choice puts the reader. -/
theorem Leads.exists {γ : Type} {reading : Reading α} {before : γ → Reader → Prop}
    {after : α → Reader → Prop} (leads : ∀ choice, Leads reading (before choice) after) :
    Leads reading (fun reader => ∃ choice, before choice reader) after :=
  fun reader some clean => some.elim fun choice isBefore => leads choice reader isBefore clean

/-- A reading only asks for something that the signs before it tell. -/
def Asks (reading : Reading α) (answer : List Sign → α) : Prop :=
  ∀ reader, reading.run reader = (answer (reader.tokens.map Token.sign), reader)

/-- A question leaves the reader where it stands, and its answer is told by the signs. -/
theorem Asks.bind {reading : Reading α} {answer : List Sign → α} (asks : Asks reading answer)
    {next : α → Reading β} {depth : Nat} {signs : List Sign} {after : β → Reader → Prop}
    (leads : Leads (next (answer signs)) (Stands depth signs) after) :
    Leads (reading >>= next) (Stands depth signs) after := by
  intro reader stands clean
  have run : (reading >>= next).run reader = (next (answer signs)).run reader := by
    show (next (reading.run reader).1).run (reading.run reader).2 = _
    rw [asks, stands.isBefore]
  rw [run] at clean ⊢
  exact leads reader stands clean

/-- The name that a text begins with. -/
def nameAt : List Sign → Option String
  | .name text :: _ => some text
  | _ => none

theorem asks_isAt (c : Char) : Asks (isAt c) fun signs => signs.head? == some (.mark c) := by
  rintro ⟨tokens, faults, depth, isStopped⟩
  refine Prod.ext ?_ rfl
  cases tokens with
  | nil => rfl
  | cons token tokens =>
      obtain ⟨kind, text, place⟩ := token
      show (some kind == some (.mark c)) = (some (signOf kind text) == some (Sign.mark c))
      cases kind <;> simp [signOf]

theorem asks_isAtName : Asks isAtName fun signs => (nameAt signs).isSome := by
  rintro ⟨tokens, faults, depth, isStopped⟩
  refine Prod.ext ?_ rfl
  cases tokens with
  | nil => rfl
  | cons token tokens =>
      obtain ⟨kind, text, place⟩ := token
      cases kind <;> rfl

/-- A name or a description stands before this. -/
def isDescribed (signs : List Sign) : Bool :=
  (nameAt signs).isSome || signs.head? == some .text

theorem asks_isAtDescribed : Asks isAtDescribed isDescribed := by
  rintro ⟨tokens, faults, depth, isStopped⟩
  refine Prod.ext ?_ rfl
  cases tokens with
  | nil => rfl
  | cons token tokens =>
      obtain ⟨kind, text, place⟩ := token
      cases kind <;> rfl

theorem asks_isAtType :
    Asks isAtType fun signs => (nameAt signs).isSome || signs.head? == some (.mark '[') := by
  intro reader
  show ((isAtName.run reader).1 || ((isAt '[').run reader).1, reader) = _
  rw [asks_isAtName, asks_isAt]

theorem asks_isBeforeEnd :
    Asks (do return (← peek).any (· != .stop)) fun signs => signs.head?.any (· != .stop) := by
  rintro ⟨tokens, faults, depth, isStopped⟩
  refine Prod.ext ?_ rfl
  cases tokens with
  | nil => rfl
  | cons token tokens =>
      obtain ⟨kind, text, place⟩ := token
      cases kind <;> rfl

section steps

variable {depth : Nat} {signs : List Sign} {after : α → Reader → Prop}

/-- Some place is that of the next token. -/
theorem leads_here {next : Nat → Reading α}
    (others : ∀ place, Leads (next place) (Stands depth signs) after) :
    Leads (here >>= next) (Stands depth signs) after := fun reader stands clean =>
  others ((reader.tokens.head?.map Token.place).getD 0) reader stands clean

/-- Some text is that of the next token. -/
theorem leads_peekText {next : String → Reading α}
    (others : ∀ text, Leads (next text) (Stands depth signs) after) :
    Leads (peekText >>= next) (Stands depth signs) after := fun reader stands clean =>
  others ((reader.tokens.head?.map Token.text).getD "") reader stands clean

/-- The text of a name is the name. -/
theorem leads_peekName {text : String} {next : String → Reading α}
    (others : Leads (next text) (Stands depth (.name text :: signs)) after) :
    Leads (peekText >>= next) (Stands depth (.name text :: signs)) after := by
  intro reader stands clean
  obtain ⟨⟨kind, written, place⟩, tokens, rfl, isSign, -⟩ := stands.token
  cases kind
  case name =>
    cases isSign
    exact others _ stands clean
  all_goals cases isSign

/-- A name may also be the token after the next one. -/
theorem leads_second {sign : Sign} {text : String} {next : Option Token → Reading α}
    (others : ∀ token, token.map Token.text = some text →
      Leads (next token) (Stands depth (sign :: .name text :: signs)) after) :
    Leads (second >>= next) (Stands depth (sign :: .name text :: signs)) after := by
  intro reader stands clean
  obtain ⟨token, tokens, rfl, -, isBehind⟩ := stands.token
  obtain ⟨⟨kind, written, place⟩, tokens, rfl, isSign, -⟩ := List.map_eq_cons_iff.1 isBehind
  cases kind
  case name =>
    cases isSign
    exact others _ rfl _ stands clean
  all_goals cases isSign

theorem leads_pass {sign : Sign} : Leads pass (Stands depth (sign :: signs))
    fun _ => Stands depth signs := by
  intro reader stands _
  obtain ⟨token, tokens, rfl, -, others⟩ := stands.token
  exact ⟨rfl, rfl, rfl, others⟩

/-- A name that is there is read. -/
theorem leads_takeName {text : String} : Leads takeName (Stands depth (.name text :: signs))
    fun name reader => name.map Name.text = some text ∧ Stands depth signs reader := by
  intro reader stands _
  obtain ⟨⟨kind, written, place⟩, tokens, rfl, isSign, others⟩ := stands.token
  cases kind
  case name =>
    cases isSign
    exact ⟨rfl, rfl, rfl, rfl, others⟩
  all_goals cases isSign

/-- Where there is no name, none is taken. -/
theorem leads_noName (unnamed : nameAt signs = none) : Leads takeName (Stands depth signs)
    fun name reader => name = none ∧ Stands depth signs reader := by
  rintro ⟨tokens, faults, deep, isStopped⟩ stands _
  obtain ⟨rfl, rfl, rfl, rfl⟩ := stands
  cases tokens with
  | nil => exact ⟨rfl, rfl, rfl, rfl, rfl⟩
  | cons token tokens =>
      obtain ⟨kind, written, place⟩ := token
      cases kind
      case name => cases unnamed
      all_goals exact ⟨rfl, rfl, rfl, rfl, rfl⟩

/-- A fault at a token is noted. -/
theorem leads_note {sign : Sign} (fault : SyntaxFault) :
    Leads (note fault) (Stands depth (sign :: signs)) fun _ _ => False := by
  intro reader stands clean
  obtain ⟨token, tokens, rfl, -, -⟩ := stands.token
  cases clean

/-- A name that is there is taken. -/
theorem leads_nameOr {text : String} (form : String) :
    Leads (nameOr form) (Stands depth (.name text :: signs))
      fun name reader => name.map Name.text = some text ∧ Stands depth signs reader := by
  refine leads_takeName.bind fun name => ?_
  cases name with
  | none => exact fun reader stands => nomatch stands.1
  | some name => exact .pure fun reader stands => stands

/-- A mark that is expected is passed. -/
theorem leads_expect (c : Char) : Leads (expect c) (Stands depth (.mark c :: signs))
    fun _ => Stands depth signs := by
  intro reader stands clean
  obtain ⟨⟨kind, written, place⟩, tokens, rfl, isSign, others⟩ := stands.token
  cases kind
  case mark found =>
    cases isSign
    have passed : (expect c).run ⟨⟨.mark c, written, place⟩ :: tokens, [], depth, false⟩ =
        ((), ⟨tokens, [], depth, false⟩) := by
      show (if TokenKind.mark c = .mark c then pass else _ : Reading Unit).run _ = _
      rw [if_pos rfl]
      rfl
    rw [passed]
    exact ⟨rfl, rfl, rfl, others⟩
  all_goals cases isSign

/-- A mark that is not there is a fault. -/
theorem leads_expect_other {sign : Sign} {c : Char} (other : sign ≠ .mark c) :
    Leads (expect c) (Stands depth (sign :: signs)) fun _ _ => False := by
  intro reader stands clean
  obtain ⟨⟨kind, written, place⟩, tokens, rfl, isSign, others⟩ := stands.token
  have isOther : kind ≠ .mark c := by
    rintro rfl
    exact other isSign.symm
  have noted : ((expect c).run ⟨⟨kind, written, place⟩ :: tokens, [], depth, false⟩).2.faults ≠ [] := by
    show ((if kind = .mark c then pass else _ : Reading Unit).run _).2.faults ≠ []
    rw [if_neg isOther]
    exact List.cons_ne_nil _ _
  exact noted clean

/-- A description is passed over. -/
theorem leads_passDescription : Leads passDescription (Stands depth (.text :: signs))
    fun _ => Stands depth signs := by
  intro reader stands _
  obtain ⟨⟨kind, written, place⟩, tokens, rfl, isSign, others⟩ := stands.token
  cases kind
  case text => exact ⟨rfl, rfl, rfl, others⟩
  all_goals cases isSign

/-- Where there is no description, nothing is passed. -/
theorem leads_noDescription (named : signs.head? ≠ some .text) :
    Leads passDescription (Stands depth signs) fun _ => Stands depth signs := by
  rintro ⟨tokens, faults, deep, isStopped⟩ stands _
  obtain ⟨rfl, rfl, rfl, rfl⟩ := stands
  cases tokens with
  | nil => exact ⟨rfl, rfl, rfl, rfl⟩
  | cons token tokens =>
      obtain ⟨kind, written, place⟩ := token
      cases kind
      case text => exact absurd rfl named
      all_goals exact ⟨rfl, rfl, rfl, rfl⟩

/-- A reader goes deeper as long as it may. -/
theorem leads_enter {sign : Sign} : Leads enter (Stands depth (sign :: signs))
    fun entered reader => entered = true ∧ Stands (depth + 1) (sign :: signs) reader := by
  intro reader stands clean
  obtain ⟨token, tokens, rfl, isSign, others⟩ := stands.token
  have run : enter.run ⟨token :: tokens, [], depth, false⟩ =
      if nestingLimit < depth + 1 then
        (false, ⟨token :: tokens, [(token.place, .tooDeep)], depth + 1, true⟩)
      else (true, ⟨token :: tokens, [], depth + 1, false⟩) := by
    show (if nestingLimit < depth + 1 then _ else _ : Reading Bool).run _ = _
    split <;> rfl
  rw [run] at clean ⊢
  split at clean
  · cases clean
  · next goesOn =>
      rw [if_neg goesOn]
      exact ⟨rfl, rfl, rfl, rfl, by rw [List.map_cons, isSign, others]⟩

/-- What is read deeper is read when the reader may go there. -/
theorem leads_entered (isBefore : signs ≠ []) {deeper otherwise : Reading α}
    (leads : Leads deeper (Stands (depth + 1) signs) after) :
    Leads (enter >>= fun entered => if entered = true then deeper else otherwise)
      (Stands depth signs) after := by
  obtain ⟨sign, others, rfl⟩ := List.exists_cons_of_ne_nil isBefore
  refine leads_enter.bind fun entered => .and fun isEntered => ?_
  rwa [isEntered, if_pos rfl]

/-- The reader comes back from a nesting. -/
theorem leads_leave : Leads leave (Stands (depth + 1) signs) fun _ => Stands depth signs := by
  rintro reader ⟨clean, goesOn, isDeep, isBefore⟩ _
  exact ⟨clean, goesOn, by show reader.depth - 1 = depth; omega, isBefore⟩

/-- Nothing is repeated where no item begins. -/
theorem leads_many_none {begins : Reading Bool} {isBegun : List Sign → Bool}
    (asks : Asks begins isBegun) (step : Reading (Option α)) (stops : isBegun signs = false)
    (fuel : Nat) :
    Leads (many begins step fuel) (Stands depth signs)
      fun results reader => results = [] ∧ Stands depth signs reader := by
  cases fuel with
  | zero => exact .pure fun reader stands => ⟨rfl, stands⟩
  | succ fuel =>
      refine asks.bind ?_
      rw [stops]
      exact .pure fun reader stands => ⟨rfl, stands⟩

/-- A step is repeated for item after item, and then the reader stands behind all of them. It stops
where a step leads to a place where no item begins. -/
theorem leads_many {γ : Type} {begins : Reading Bool} {isBegun : List Sign → Bool}
    (asks : Asks begins isBegun) {step : Reading (Option α)} {signsOf : γ → List Sign}
    {Result : γ → Option α → Prop} {IsFollowed Stops : List Sign → Prop} {rest : List Sign}
    (stopped : ∀ signs, Stops signs → isBegun signs = false) (stops : isBegun rest = false)
    {items : List γ}
    (starts : ∀ item ∈ items, ∀ behind, isBegun (signsOf item ++ behind) = true)
    (each : ∀ item ∈ items, ∀ behind, IsFollowed behind →
      Leads step (Stands depth (signsOf item ++ behind)) fun result reader =>
        Result item result ∧ Stands depth behind reader ∨
          ∃ signs, Stops signs ∧ Stands depth signs reader)
    (followed : ∀ item ∈ items, ∀ behind, IsFollowed (signsOf item ++ behind))
    (ends : IsFollowed rest) {fuel : Nat} (enough : items.length ≤ fuel) :
    Leads (many begins step fuel) (Stands depth (items.flatMap signsOf ++ rest))
      fun results reader =>
        (∃ all, List.Forall₂ Result items all ∧ results = all.flatMap Option.toList) ∧
            Stands depth rest reader ∨
          ∃ signs, Stops signs ∧ Stands depth signs reader := by
  induction items generalizing fuel with
  | nil =>
      refine (leads_many_none asks step stops fuel).imp fun results reader stands => .inl ?_
      exact ⟨⟨[], .nil, stands.1⟩, stands.2⟩
  | cons item items ih =>
      cases fuel with
      | zero => exact absurd enough (Nat.not_succ_le_zero _)
      | succ fuel =>
          rw [List.flatMap_cons, List.append_assoc]
          refine asks.bind ?_
          rw [starts item List.mem_cons_self]
          -- What follows an item is the next one, or the end of the list.
          have isFollowed : IsFollowed (items.flatMap signsOf ++ rest) := by
            cases items with
            | nil => exact ends
            | cons second items =>
                rw [List.flatMap_cons, List.append_assoc]
                exact followed second (List.mem_cons_of_mem _ List.mem_cons_self) _
          refine (each item List.mem_cons_self _ isFollowed).bind fun result => .or (.and ?_) ?_
          · intro isResult
            have others := ih (fun other member => starts other (List.mem_cons_of_mem _ member))
              (fun other member => each other (List.mem_cons_of_mem _ member))
              (fun other member => followed other (List.mem_cons_of_mem _ member))
              (Nat.le_of_succ_le_succ enough)
            refine others.bind fun results => .or (.and ?_) ?_
            · rintro ⟨all, areResults, rfl⟩
              refine .pure fun reader stands => .inl ⟨⟨result :: all, .cons isResult areResults, ?_⟩,
                stands⟩
              rw [List.flatMap_cons]
            · exact .pure fun reader stuck => .inr stuck
          -- The step got stuck, and where it did no item begins.
          · refine .exists fun signs => .and fun isStop => ?_
            refine (leads_many_none asks step (stopped signs isStop) fuel).bind fun results => ?_
            exact .pure fun reader stands => .inr ⟨signs, isStop, stands.2⟩

/-- What is done next depends on the token that stands there. -/
theorem leads_current {sign : Sign} {next : Option Token → Reading α}
    (others : ∀ token, token.sign = sign →
      Leads (next (some token)) (Stands depth (sign :: signs)) after) :
    Leads (current >>= next) (Stands depth (sign :: signs)) after := by
  intro reader stands clean
  obtain ⟨token, tokens, rfl, isSign, -⟩ := stands.token
  exact others token isSign _ stands clean

/-- The current token is the mark at which the reader stands. -/
theorem leads_currentMark {c : Char} {next : Option Token → Reading α}
    (others : ∀ text place,
      Leads (next (some ⟨.mark c, text, place⟩)) (Stands depth (.mark c :: signs)) after) :
    Leads (current >>= next) (Stands depth (.mark c :: signs)) after := by
  refine leads_current fun token isSign => ?_
  obtain ⟨kind, text, place⟩ := token
  cases kind
  case mark found =>
    cases isSign
    exact others text place
  all_goals cases isSign

/-- The kind of the next token is that of the sign at which the reader stands. -/
theorem leads_peek {sign : Sign} {next : Option TokenKind → Reading α}
    (others : ∀ kind text, signOf kind text = sign →
      Leads (next (some kind)) (Stands depth (sign :: signs)) after) :
    Leads (peek >>= next) (Stands depth (sign :: signs)) after := by
  intro reader stands clean
  obtain ⟨token, tokens, rfl, isSign, -⟩ := stands.token
  exact others token.kind token.text isSign _ stands clean

end steps

/-- A second mark against null belongs to no type, so that nothing goes on there. -/
def IsStuck (signs : List Sign) : Prop := signs.head? = some (.mark '!')

/-- The reader stands where nothing goes on. -/
def Stuck (depth : Nat) (reader : Reader) : Prop :=
  ∃ signs, IsStuck signs ∧ Stands depth signs reader

/-- A mark that closes something is not there for a reader that is stuck. -/
theorem leads_close {depth : Nat} {signs : List Sign} {c : Char} (closes : c ≠ '!') :
    Leads (expect c) (fun reader => Stands depth (.mark c :: signs) reader ∨ Stuck depth reader)
      fun _ => Stands depth signs := by
  refine .or (leads_expect c) (.exists fun others => .and fun isStuck => ?_)
  obtain ⟨behind, rfl⟩ := List.head?_eq_some_iff.1 isStuck
  have other : Sign.mark '!' ≠ .mark c := by
    rintro ⟨⟩
    exact closes rfl
  exact (leads_expect_other other).imp fun _ _ none => none.elim

section items

variable {depth : Nat} {rest : List Sign}

/-- Items are read one after the other, and nothing is kept of them. -/
theorem leads_each {γ : Type} (IsFollowed : List Sign → Prop) {begins : Reading Bool}
    {isBegun : List Sign → Bool} (asks : Asks begins isBegun) {step : Reading (Option α)}
    {signsOf : γ → List Sign} (stops : isBegun rest = false) {items : List γ}
    (starts : ∀ item ∈ items, ∀ behind, isBegun (signsOf item ++ behind) = true)
    (each : ∀ item ∈ items, ∀ behind, IsFollowed behind →
      Leads step (Stands depth (signsOf item ++ behind)) fun _ => Stands depth behind)
    (followed : ∀ item ∈ items, ∀ behind, IsFollowed (signsOf item ++ behind))
    (ends : IsFollowed rest) {fuel : Nat} (enough : items.length ≤ fuel) :
    Leads (many begins step fuel) (Stands depth (items.flatMap signsOf ++ rest))
      fun _ => Stands depth rest := by
  have anyResult (item) (member : item ∈ items) (behind : List Sign)
      (isFollowed : IsFollowed behind) :
      Leads step (Stands depth (signsOf item ++ behind)) fun _ reader =>
        True ∧ Stands depth behind reader ∨ ∃ signs, False ∧ Stands depth signs reader :=
    (each item member behind isFollowed).imp fun _ _ stands => .inl ⟨trivial, stands⟩
  have all := leads_many asks (fun _ none => none.elim) stops starts anyResult followed ends enough
  refine all.imp fun results reader => ?_
  rintro (⟨-, stands⟩ | ⟨_, none, -⟩)
  · exact stands
  · exact none.elim

/-- A list that must not be empty is read like any other when its first item is there. -/
theorem leads_atLeastOne {begins : Reading Bool} {isBegun : List Sign → Bool}
    (asks : Asks begins isBegun) {step : Reading (Option α)} {signs : List Sign}
    {after : List α → Reader → Prop} (starts : isBegun signs = true) {fuel : Nat}
    (leads : Leads (many begins step fuel) (Stands depth signs) after) (form : String) :
    Leads (atLeastOne begins step form fuel) (Stands depth signs) after := by
  refine asks.bind ?_
  rw [starts, if_pos rfl]
  exact leads

theorem length_le_flatMap {γ : Type} {items : List γ} {signsOf : γ → List Sign} {item : γ}
    (member : item ∈ items) : (signsOf item).length ≤ (items.flatMap signsOf).length := by
  obtain ⟨front, back, rfl⟩ := List.append_of_mem member
  rw [List.flatMap_append, List.flatMap_cons, List.length_append, List.length_append]
  omega

/-- Items have at least one sign each. -/
theorem length_le_of_nonempty {γ : Type} {items : List γ} {signsOf : γ → List Sign}
    (nonempty : ∀ item ∈ items, signsOf item ≠ []) :
    items.length ≤ (items.flatMap signsOf).length := by
  induction items with
  | nil => exact le_rfl
  | cons item items ih =>
      have some := List.length_pos_iff.2 (nonempty item List.mem_cons_self)
      have others := ih fun other member => nonempty other (List.mem_cons_of_mem _ member)
      rw [List.flatMap_cons, List.length_append, List.length_cons]
      omega

/-- Names are separated by a mark. -/
theorem leads_separated {mark : Char} {step : Reading (Option α)} (first : String)
    (others : List String)
    (each : ∀ name behind, Leads step (Stands depth (.name name :: behind)) fun _ =>
      Stands depth behind)
    (ends : rest.head? ≠ some (.mark mark)) {fuel : Nat} (enough : others.length ≤ fuel) :
    Leads (separated mark step fuel)
      (Stands depth (.name first :: (others.flatMap (fun name => [.mark mark, .name name]) ++ rest)))
      fun _ => Stands depth rest := by
  refine (asks_isAt mark).bind ((each first _).bind fun _ => ?_)
  have next (name) (_ : name ∈ others) (behind : List Sign) (_ : True) :
      Leads (do pass; step) (Stands depth ([.mark mark, .name name] ++ behind)) fun _ =>
        Stands depth behind := leads_pass.bind fun _ => each name behind
  refine (leads_each (fun _ => True) (asks_isAt mark) (by simpa using ends) ?_ next
    (fun _ _ _ => trivial) trivial enough).bind fun _ => .pure fun _ stands => stands
  intro name member behind
  exact beq_self_eq_true (some (Sign.mark mark))

end items

end Reading

end OperationCheck.Language
