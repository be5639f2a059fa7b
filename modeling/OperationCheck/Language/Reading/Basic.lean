import OperationCheck.Language.Syntax
import OperationCheck.Language.Token

/-!
The state of reading a document. A reader goes through the tokens, notes faults at their places,
and goes on behind them.
-/

namespace OperationCheck.Language

/-- A reader that has gone too deep notes no further fault. The faults are in reverse order. -/
structure Reader where
  tokens : List Token
  faults : List (Nat × SyntaxFault)
  depth : Nat
  isStopped : Bool

/-- A reading gives a result and goes on. What has been noted stays noted. -/
structure Reading (α : Type) where
  run : Reader → α × Reader
  keeps : ∀ reader, reader.faults <:+ (run reader).2.faults

/-- Selections, lists and types nest at most this deep. -/
def nestingLimit : Nat := 500

namespace Reading

variable {α β : Type}

/-- A reading that only has a result. -/
def just (result : α) : Reading α where
  run reader := (result, reader)
  keeps _ := List.suffix_refl _

/-- A reading goes on where another one has come to. -/
def andThen (first : Reading α) (next : α → Reading β) : Reading β where
  run reader :=
    let (result, behind) := first.run reader
    (next result).run behind
  keeps reader := (first.keeps reader).trans ((next (first.run reader).1).keeps _)

instance : Monad Reading where
  pure := just
  bind := andThen

/-- This function asks for something and reads nothing. -/
def ask (question : Reader → α) : Reading α where
  run reader := (question reader, reader)
  keeps _ := List.suffix_refl _

/-- The token that is read next. There is none behind the end of the source. -/
def current : Reading (Option Token) := ask fun reader => reader.tokens.head?

def peek : Reading (Option TokenKind) := return (← current).map Token.kind

/-- The text of the next token. -/
def peekText : Reading String := return ((← current).map Token.text).getD ""

/-- The token after the next one. -/
def second : Reading (Option Token) := ask fun reader => reader.tokens[1]?

/-- The place of the next token. -/
def here : Reading Nat := return ((← current).map Token.place).getD 0

def isAt (mark : Char) : Reading Bool := return (← peek) == some (.mark mark)

def isAtName : Reading Bool := return (← peek) == some .name

/-- Descriptions may stand before names. -/
def isAtDescribed : Reading Bool := do
  let kind ← peek
  return kind == some .name || kind == some .text

/-- This function passes the next token. -/
def pass : Reading Unit where
  run reader := ((), { reader with tokens := reader.tokens.tail })
  keeps _ := List.suffix_refl _

def noteAt (place : Nat) (fault : SyntaxFault) : Reading Unit where
  run reader :=
    if reader.isStopped then ((), reader)
    else ((), { reader with faults := (place, fault) :: reader.faults })
  keeps reader := by
    split
    · exact List.suffix_refl _
    · exact List.suffix_cons _ _

/-- A fault is noted at the next token. -/
def note (fault : SyntaxFault) : Reading Unit := do
  match ← current with
  | some token => noteAt token.place fault
  | none => return

def noteAndPass (fault : SyntaxFault) : Reading Unit := do
  note fault
  pass

/-- This function passes a mark that must be there. -/
def expect (mark : Char) : Reading Unit := do
  match ← current with
  | none => return
  | some token =>
      if token.kind = .mark mark then pass else note (.expectedMark mark token.text)

def deepen : Reading Unit where
  run reader := ((), { reader with depth := reader.depth + 1 })
  keeps _ := List.suffix_refl _

def stop : Reading Unit where
  run reader := ((), { reader with isStopped := true })
  keeps _ := List.suffix_refl _

/-- This function goes one level deeper. The answer is whether it can. -/
def enter : Reading Bool := do
  deepen
  if nestingLimit < (← ask Reader.depth) then
    note .tooDeep
    stop
    return false
  return true

def leave : Reading Unit where
  run reader := ((), { reader with depth := reader.depth - 1 })
  keeps _ := List.suffix_refl _

/-- This function reads a name that is there. -/
def takeName : Reading (Option Name) := do
  match ← current with
  | some ⟨.name, text, place⟩ =>
      pass
      return some ⟨text, place⟩
  | _ => return none

def nameOr (form : String) : Reading (Option Name) := do
  match ← takeName with
  | some name => return some name
  | none =>
      note (.expected form)
      return none

/-- This function reads a name that must be there. -/
def readName : Reading (Option Name) := nameOr "a Name"

/-- A description is passed over. -/
def passDescription : Reading Unit := do
  if (← peek) == some .text then pass

/-- This function repeats a step as long as the reader is at its beginning. Each step gives an
item or nothing. -/
def many (begins : Reading Bool) (step : Reading (Option α)) :
    Nat → Reading (List α)
  | 0 => return []
  | fuel + 1 => do
      if ← begins then
        let item ← step
        let items ← many begins step fuel
        return item.toList ++ items
      else return []

/-- Items are separated by a mark, which may also stand before the first one. -/
def separated (mark : Char) (step : Reading (Option α)) (fuel : Nat) :
    Reading (List α) := do
  if ← isAt mark then pass
  let first ← step
  let others ← many (isAt mark) (do pass; step) fuel
  return first.toList ++ others

/-- A group has a first item, which must be there, and others. -/
def atLeastOne (begins : Reading Bool) (step : Reading (Option α)) (form : String)
    (fuel : Nat) : Reading (List α) := do
  if ← begins then
    many begins step fuel
  else
    note (.expected form)
    return []

end Reading

end OperationCheck.Language
