/-!
Outcomes that come with warnings. An activity that goes on after a minor fault gives a warning,
and the warnings given before a failure are kept. The main statements say that outcomes can be
chained and that the warnings of a chain are those of its parts in order.
-/

namespace OperationCheck

/-- A warning tells what was left out. -/
inductive Warning where
  | unplacedProblem (document message : String)
  | skippedTable (path reason : String)
  | emptyDocument (path : String)
  | noDocuments (pointer : String)
deriving Repr, DecidableEq

def Warning.message : Warning → String
  | .unplacedProblem document message => document ++ ": error without a location: " ++ message
  | .skippedTable path reason => "Skipping rule table " ++ path ++ ": " ++ reason
  | .emptyDocument path => "Skipping empty document " ++ path
  | .noDocuments pointer => "No GraphQL documents found for '" ++ pointer ++ "'"

/-- A value is the result unless there is an error. -/
def resultOf {ε α : Type} (error? : Option ε) (value : α) : Except ε α :=
  match error? with
  | some error => .error error
  | none => .ok value

@[simp] theorem resultOf_none {ε α : Type} (value : α) :
    resultOf (none : Option ε) value = .ok value := rfl

@[simp] theorem resultOf_some {ε α : Type} (error : ε) (value : α) :
    resultOf (some error) value = .error error := rfl

/-- Only a failure has an error. -/
def errorOf {ε α : Type} : Except ε α → Option ε
  | .error error => some error
  | .ok _ => none

@[simp] theorem errorOf_ok {ε α : Type} (value : α) :
    errorOf (.ok value : Except ε α) = none := rfl

@[simp] theorem errorOf_error {ε α : Type} (error : ε) :
    errorOf (.error error : Except ε α) = some error := rfl

/-- A failure can be restated before it is passed on. -/
theorem mapError_bind {ε δ α β : Type} (change : ε → δ) (result : Except ε α)
    (next : α → Except ε β) :
    (result.bind next).mapError change =
      (result.mapError change).bind fun value => (next value).mapError change := by
  cases result <;> rfl

/-- A failure may be restated twice at once. -/
theorem mapError_mapError {ε δ γ α : Type} (first : ε → δ) (second : δ → γ)
    (result : Except ε α) :
    (result.mapError first).mapError second = result.mapError fun error => second (first error) := by
  cases result <;> rfl

/-- The warnings of an outcome are in the order in which they were given. -/
structure Outcome (ε α : Type) where
  result : Except ε α
  warnings : List Warning

namespace Outcome

variable {ε α β γ : Type}

def succeed (value : α) : Outcome ε α := ⟨.ok value, []⟩

def ofExcept (result : Except ε α) : Outcome ε α := ⟨result, []⟩

/-- This outcome only gives a warning. -/
def warn (warning : Warning) : Outcome ε Unit := ⟨.ok (), [warning]⟩

/-- The next activity takes place when the first one succeeds. -/
def chain (first : Outcome ε α) (next : α → Outcome ε β) : Outcome ε β :=
  match first.result with
  | .error error => ⟨.error error, first.warnings⟩
  | .ok value => ⟨(next value).result, first.warnings ++ (next value).warnings⟩

instance : Monad (Outcome ε) where
  pure := succeed
  bind := chain

/-- A failure is stated in the words of a larger activity. -/
def mapError {δ : Type} (change : ε → δ) (outcome : Outcome ε α) : Outcome δ α :=
  ⟨outcome.result.mapError change, outcome.warnings⟩

@[simp] theorem result_pure (value : α) : (pure value : Outcome ε α).result = .ok value := rfl

/-- The result of a chain is that of its parts. -/
@[simp] theorem result_bind (first : Outcome ε α) (next : α → Outcome ε β) :
    (first >>= next).result = first.result.bind fun value => (next value).result := by
  obtain ⟨result, warnings⟩ := first
  cases result <;> rfl

@[simp] theorem result_ofExcept (result : Except ε α) : (ofExcept result).result = result := rfl

@[simp] theorem result_warn (warning : Warning) :
    (warn warning : Outcome ε Unit).result = .ok () := rfl

/-- Restating a failure restates the result. -/
@[simp] theorem result_mapError {δ : Type} (change : ε → δ) (outcome : Outcome ε α) :
    (outcome.mapError change).result = outcome.result.mapError change := rfl

/-- A success without warnings adds nothing to a chain. -/
theorem chain_succeed (value : α) (next : α → Outcome ε β) :
    (succeed value).chain next = next value := by
  simp [chain, succeed]

theorem chain_associative (first : Outcome ε α) (second : α → Outcome ε β)
    (third : β → Outcome ε γ) :
    (first.chain second).chain third = first.chain fun value => (second value).chain third := by
  obtain ⟨result, warnings⟩ := first
  cases result with
  | error error => rfl
  | ok value =>
      obtain ⟨next, nextWarnings⟩ : Outcome ε β := second value
      simp only [chain]
      cases inner : (second value).result <;> simp [List.append_assoc]

end Outcome

end OperationCheck
