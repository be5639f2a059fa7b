import OperationCheck.Pattern.Escape

/-!
Sets in brackets. A bracket holds characters, ranges, named sets and further brackets, and it may
combine what stands on both sides of an operator.
-/

namespace OperationCheck.Pattern

/-- A set is read together with the depth of its nesting. -/
structure SetPiece where
  set : CharSet
  depth : Nat

/-- Operators have the same rank and are applied from the left. -/
inductive SetOperator where
  | intersection
  | difference
  | symmetricDifference

def SetOperator.apply : SetOperator → CharSet → CharSet → CharSet
  | .intersection => .intersection
  | .difference => .difference
  | .symmetricDifference => .symmetricDifference

/-- An open bracket waits for the items before it, and an operator for its right side. -/
inductive SetFrame where
  | bracket (outer : List SetPiece) (negated : Bool)
  | operator (operator : SetOperator) (left : SetPiece)

/-- One item stands for itself. Several items are united one level deeper. -/
def uniteItems : List SetPiece → SetPiece
  | [] => ⟨.empty, 0⟩
  | [item] => item
  | item :: items =>
      ⟨items.foldl (fun set piece => .union set piece.set) item.set,
        1 + (item :: items).foldl (fun depth piece => max depth piece.depth) 0⟩

/-- An operator that waits on the stack is applied to its right side. -/
def applyOperator (flags : Flags) (right : SetPiece) : List SetFrame → SetPiece × List SetFrame
  | .operator operator left :: stack =>
      (⟨operator.apply (flags.fold left.set) (flags.fold right.set), 1 + max left.depth right.depth⟩,
        stack)
  | stack => (right, stack)

def asciiClasses : List (String × List (Nat × Nat)) := [
  ("alnum", [(48, 57), (65, 90), (97, 122)]),
  ("alpha", [(65, 90), (97, 122)]),
  ("ascii", [(0, 127)]),
  ("blank", [(9, 9), (32, 32)]),
  ("cntrl", [(0, 31), (127, 127)]),
  ("digit", [(48, 57)]),
  ("graph", [(33, 126)]),
  ("lower", [(97, 122)]),
  ("print", [(32, 126)]),
  ("punct", [(33, 47), (58, 64), (91, 96), (123, 126)]),
  ("space", [(9, 13), (32, 32)]),
  ("upper", [(65, 90)]),
  ("word", [(48, 57), (65, 90), (95, 95), (97, 122)]),
  ("xdigit", [(48, 57), (65, 70), (97, 102)])]

/-- A class is written as a name between colons, right behind a bracket. Anything else behind a
bracket is an inner set. The inner result is missing when the class is known but cannot be
negated. -/
def readAsciiClass (flags : Flags) : List Char → Option (Option SetPiece × List Char)
  | ':' :: source =>
      let (negated, named) := match source with
        | '^' :: rest => (true, rest)
        | _ => (false, source)
      let name := named.takeWhile (· ≠ ':')
      match named.drop name.length with
      | ':' :: ']' :: rest =>
          ((asciiClasses.find? fun entry => entry.1.toList = name).map fun entry =>
            ((flags.negate negated (flags.fold (.ranges entry.2))).map fun set => ⟨set, 0⟩, rest))
      | _ => none
  | _ => none

/-- Hyphens at the beginning of a bracket stand for themselves. -/
def leadingHyphens (flags : Flags) : Nat → List SetPiece → List Char → List SetPiece × List Char
  | fuel + 1, items, source =>
      match source with
      | '-' :: rest => leadingHyphens flags fuel (⟨.single '-', 0⟩ :: items) (flags.skip rest)
      | _ => (items, source)
  | 0, items, source => (items, source)

/-- A bracket opens with an optional negation, hyphens, and a closing bracket that stands for
itself when it comes first. -/
def openBracket (flags : Flags) (source : List Char) : Bool × List SetPiece × List Char :=
  let (negated, source) := match flags.skip source with
    | '^' :: rest => (true, flags.skip rest)
    | source => (false, source)
  let (items, source) := leadingHyphens flags (source.length + 1) [] source
  match items, source with
  | [], ']' :: rest => (negated, [⟨.single ']', 0⟩], flags.skip rest)
  | _, _ => (negated, items, source)

/-- An item of a bracket is a character or a set. -/
inductive SetItem where
  | literal (c : Char) (byte : Bool)
  | set (named : CharSet)

def readSetItem (flags : Flags) : List Char → Option (SetItem × List Char)
  | [] => none
  | '\\' :: rest =>
      match readEscape flags rest with
      | some (.literal c byte, rest) => some (.literal c byte, rest)
      | some (.set set, rest) => some (.set set, rest)
      | _ => none
  | c :: rest => some (.literal c false, rest)

/-- Without Unicode, only ASCII characters may stand in a bracket. -/
def literalPoint (flags : Flags) (c : Char) : Option Nat :=
  if flags.unicode || c.toNat < 128 then some c.toNat else none

def SetItem.piece (flags : Flags) : SetItem → Option SetPiece
  | .literal c _ => (literalPoint flags c).map fun point => ⟨.ranges [(point, point)], 0⟩
  | .set named => some ⟨named, 0⟩

/-- A hyphen joins two characters to a range, unless a hyphen or the closing bracket follows. -/
def readSetRange (flags : Flags) (source : List Char) : Option (SetPiece × List Char) :=
  (readSetItem flags source).bind fun (first, rest) =>
    let single := (first.piece flags).map fun piece => (piece, flags.skip rest)
    match flags.skip rest with
    | '-' :: more =>
        match flags.skip more with
        | [] => none
        | c :: _ =>
            if c = ']' ∨ c = '-' then single
            else
              match first, readSetItem flags (flags.skip more) with
              | .literal low _, some (.literal high _, rest) =>
                  if low ≤ high then
                    (literalPoint flags low).bind fun low => (literalPoint flags high).map fun high =>
                      (⟨.ranges [(low, high)], 0⟩, rest)
                  else none
              | _, _ => none
    | [] => none
    | _ => single

/-- This function reads up to the bracket that closes the outermost one. The fuel bounds the
number of steps, each of which consumes a character. -/
def readSet (flags : Flags) :
    Nat → List SetFrame → List SetPiece → List Char → Option (SetPiece × List Char)
  | 0, _, _, _ => none
  | fuel + 1, stack, items, source =>
      match flags.skip source with
      | [] => none
      | '[' :: rest =>
          match readAsciiClass flags rest with
          | some (some piece, rest) => readSet flags fuel stack (piece :: items) rest
          | some (none, _) => none
          | none =>
              let (negated, inner, rest) := openBracket flags rest
              readSet flags fuel (.bracket items negated :: stack) inner rest
      | ']' :: rest =>
          let (whole, stack) := applyOperator flags (uniteItems items) stack
          match stack with
          | .bracket outer negated :: stack =>
              (flags.negate negated (flags.fold whole.set)).bind fun set =>
                let piece : SetPiece := ⟨set, whole.depth + 1⟩
                if stack.isEmpty then some (piece, rest)
                else readSet flags fuel stack (piece :: outer) rest
          | _ => none
      | '&' :: '&' :: rest => operate fuel stack items .intersection rest
      | '-' :: '-' :: rest => operate fuel stack items .difference rest
      | '~' :: '~' :: rest => operate fuel stack items .symmetricDifference rest
      | source =>
          (readSetRange flags source).bind fun (piece, rest) =>
            readSet flags fuel stack (piece :: items) rest
where
  operate (fuel : Nat) (stack : List SetFrame) (items : List SetPiece) (operator : SetOperator)
      (rest : List Char) : Option (SetPiece × List Char) :=
    let (left, stack) := applyOperator flags (uniteItems items) stack
    readSet flags fuel (.operator operator left :: stack) [] rest

/-- This function reads a set behind its opening bracket. -/
def readBracket (flags : Flags) (source : List Char) : Option (SetPiece × List Char) :=
  let (negated, items, rest) := openBracket flags source
  readSet flags (source.length + 1) [.bracket [] negated] items rest

end OperationCheck.Pattern
