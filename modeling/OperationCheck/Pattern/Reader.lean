import OperationCheck.Pattern.Bracket

/-!
Reading a pattern from its text. Groups are kept on a stack, so that one pass over the text
suffices. A pattern is refused when it is malformed, when it nests too deep, or when it would be
too large with all its repetitions written out.
-/

namespace OperationCheck.Pattern

/-- A piece of a pattern knows its depth and its size. A change of flags is a piece that cannot be
repeated. -/
structure Piece where
  pattern : Pattern
  depth : Nat
  size : Nat
  repeatable : Bool

/-- Within a group, alternatives follow each other, and the last one is still being read. Both
lists are in reverse order. -/
structure Branches where
  finished : List Piece
  current : List Piece

def Branches.start : Branches := ⟨[], []⟩

def Branches.push (branches : Branches) (piece : Piece) : Branches :=
  { branches with current := piece :: branches.current }

/-- A state of a compiled pattern takes this many bytes. -/
def stateSize : Nat := 32

/-- Pieces in a row match one after the other. -/
def sequence : List Piece → Piece
  | [] => ⟨.empty, 0, stateSize, true⟩
  | [piece] => piece
  | last :: before =>
      ⟨before.foldl (fun pattern piece => .both piece.pattern pattern) last.pattern,
        1 + (last :: before).foldl (fun depth piece => max depth piece.depth) 0,
        (last :: before).foldl (fun size piece => size + piece.size) 0, true⟩

/-- This function ends the alternative that is being read. -/
def Branches.nextBranch (branches : Branches) : Branches :=
  ⟨sequence branches.current :: branches.finished, []⟩

/-- All alternatives of a group together are one piece. -/
def Branches.close (branches : Branches) : Piece :=
  match branches.finished with
  | [] => sequence branches.current
  | finished =>
      let last := sequence branches.current
      ⟨finished.foldl (fun pattern piece => .either piece.pattern pattern) last.pattern,
        1 + (last :: finished).foldl (fun depth piece => max depth piece.depth) 0,
        (last :: finished).foldl (fun size piece => size + piece.size + 4) (2 * stateSize), true⟩

/-- An open group remembers what is around it, the flags to go back to, and whether it
captures. -/
structure Group where
  outer : Branches
  flags : Flags
  captures : Bool

structure Reading where
  groups : List Group
  branches : Branches
  flags : Flags
  names : List (List Char)

/-- A set that is one range of ASCII is one state, and other sets take more room with each
range. -/
def setSize (set : CharSet) : Nat :=
  if set.isAscii then stateSize + 8 * set.rangeCount else 12 * stateSize + 56 * set.rangeCount

def setPiece (set : CharSet) (depth : Nat) : Piece := ⟨.one set, depth, setSize set, true⟩

def conditionPiece (condition : Assertion) : Piece := ⟨.assertion condition, 0, stateSize, true⟩

/-- A literal takes one state for each byte, unless case is ignored. -/
def literalPiece (flags : Flags) (c : Char) (byte : Bool) : Option Piece :=
  (flags.literalSet c byte).map fun set =>
    ⟨.one set, 0, if flags.caseless then setSize set else stateSize * c.utf8Size, true⟩

/-- A dot accepts any character that does not end a line. Without Unicode, it would accept bytes
that are no text. -/
def dotSet? (flags : Flags) : Option CharSet :=
  if !flags.unicode then none
  else if flags.dotAll then some .full
  else if flags.anyBreak then some (.complement (.ranges [(10, 10), (13, 13)]))
  else some (.complement (.single '\n'))

def lineStart (flags : Flags) : Assertion :=
  if !flags.multiline then .textStart
  else if flags.anyBreak then .lineStartAnyBreak
  else .lineStart

def lineEnd (flags : Flags) : Assertion :=
  if !flags.multiline then .textEnd
  else if flags.anyBreak then .lineEndAnyBreak
  else .lineEnd

/-- Repetition applies to the last piece. -/
def Reading.repeatLast (reading : Reading) (least : Nat) (most : Option Nat) : Option Reading :=
  match reading.branches.current with
  | [] => none
  | piece :: before =>
      if !piece.repeatable then none
      else
        let optional := piece.size + 2 * stateSize
        let size := least * piece.size + match most with
          | none => if least = 0 then optional else 2 * stateSize
          | some most => (most - least) * optional
        let repeated : Piece := ⟨.repeated least most piece.pattern, piece.depth + 1, size, true⟩
        some { reading with branches := { reading.branches with current := repeated :: before } }

/-- A question mark behind a repetition only changes which match is preferred. -/
def dropLazy : List Char → List Char
  | '?' :: rest => rest
  | source => source

/-- A count is a decimal number of 32 bits, and blanks may stand around it. -/
def readCount (flags : Flags) (source : List Char) : Option (Nat × List Char) :=
  let source := source.dropWhile Text.isBlank
  let rec digits : Nat → Option Nat → List Char → Option Nat × List Char
    | 0, value, source => (value, source)
    | fuel + 1, value, source =>
        match source with
        | c :: rest =>
            if c.isDigit then
              digits fuel (some (min (10 * value.getD 0 + (c.toNat - 48)) 4294967296)) (flags.skip rest)
            else (value, source)
        | [] => (value, [])
  match digits (source.length + 1) none source with
  | (some value, rest) =>
      if value < 4294967296 then some (value, flags.skip (rest.dropWhile Text.isBlank)) else none
  | (none, _) => none

/-- Counts in braces give the least number of rounds, and after a comma the greatest one. -/
def readCounts (flags : Flags) (source : List Char) : Option (Nat × Option Nat × List Char) :=
  (readCount flags (flags.skip source)).bind fun (least, rest) =>
    match rest with
    | '\x7d' :: rest => some (least, some least, flags.skip rest)
    | ',' :: rest =>
        match flags.skip rest with
        | '\x7d' :: rest => some (least, none, flags.skip rest)
        | rest =>
            (readCount flags rest).bind fun (most, rest) =>
              match rest with
              | '\x7d' :: rest => if least ≤ most then some (least, some most, flags.skip rest) else none
              | _ => none
    | _ => none

/-- The name of a group begins with a letter or an underscore. -/
def isNameStart (c : Char) : Bool :=
  c == '_' || c.isAlpha ||
    (128 ≤ c.toNat && (((Unicode.named? Unicode.binaryProperties "alphabetic").map fun property =>
      Unicode.within property.ranges c.toNat).getD false))

def isNumeric (c : Char) : Bool :=
  if c.toNat < 128 then c.isDigit
  else ((Unicode.named? Unicode.categories "n").map fun property =>
    Unicode.within property.ranges c.toNat).getD false

def isNameCharacter (c : Char) : Bool :=
  isNameStart c || isNumeric c || c == '.' || c == '[' || c == ']'

/-- A name ends at a closing angle bracket and is used once. -/
def readName (names : List (List Char)) (source : List Char) : Option (List Char × List Char) :=
  let name := source.takeWhile (· ≠ '>')
  match name, source.drop name.length with
  | first :: more, _ :: rest =>
      if isNameStart first && more.all isNameCharacter && !names.contains name then some (name, rest)
      else none
  | _, _ => none

def Reading.openGroup (reading : Reading) (flags : Flags) (captures : Bool) : Reading :=
  { reading with
    groups := ⟨reading.branches, reading.flags, captures⟩ :: reading.groups
    branches := .start
    flags := flags }

/-- A parenthesis opens a group that captures, a named group, a group with flags, or changes the
flags of the group around it. What looks at the text around a match is not supported. -/
def openParenthesis (reading : Reading) (source : List Char) : Option (Reading × List Char) :=
  let named (rest : List Char) : Option (Reading × List Char) :=
    (readName reading.names rest).map fun (name, rest) =>
      ({ reading.openGroup reading.flags true with names := name :: reading.names }, rest)
  match reading.flags.skip source with
  | '?' :: '=' :: _ | '?' :: '!' :: _ | '?' :: '<' :: '=' :: _ | '?' :: '<' :: '!' :: _ => none
  | '?' :: 'P' :: '<' :: rest => named rest
  | '?' :: '<' :: rest => named rest
  | '?' :: rest =>
      match readFlags reading.flags [] rest with
      | some (flags, _, ':', rest) => some (reading.openGroup flags false, rest)
      | some (flags, true, _, rest) =>
          some ({ reading with flags := flags, branches := reading.branches.push ⟨.empty, 0, stateSize, false⟩ },
            rest)
      | _ => none
  | rest => some (reading.openGroup reading.flags true, rest)

/-- A closing parenthesis makes its group one piece of the group around it. -/
def Reading.closeGroup (reading : Reading) : Option Reading :=
  match reading.groups with
  | [] => none
  | group :: groups =>
      let inner := reading.branches.close
      let size := if group.captures then inner.size + 2 * stateSize else inner.size
      some { reading with
        groups := groups
        branches := group.outer.push ⟨inner.pattern, inner.depth + 1, size, true⟩
        flags := group.flags }

def Reading.push (reading : Reading) (piece : Piece) : Reading :=
  { reading with branches := reading.branches.push piece }

/-- This function reads one item and leaves what follows it. -/
def readItem (reading : Reading) (c : Char) (rest : List Char) : Option (Reading × List Char) :=
  let flags := reading.flags
  let keep (reading : Reading) : Reading × List Char := (reading, rest)
  match c with
  | '(' => openParenthesis reading rest
  | ')' => reading.closeGroup.map keep
  | '|' => some (keep { reading with branches := reading.branches.nextBranch })
  | '[' => (readBracket flags rest).map fun (piece, rest) =>
      (reading.push (setPiece piece.set piece.depth), rest)
  | '?' => (reading.repeatLast 0 (some 1)).map fun reading => (reading, dropLazy rest)
  | '*' => (reading.repeatLast 0 none).map fun reading => (reading, dropLazy rest)
  | '+' => (reading.repeatLast 1 none).map fun reading => (reading, dropLazy rest)
  | '\x7b' =>
      (readCounts flags rest).bind fun (least, most, rest) =>
        (reading.repeatLast least most).map fun reading => (reading, dropLazy rest)
  | '.' => (dotSet? flags).map fun set => keep (reading.push (setPiece set 0))
  | '^' => some (keep (reading.push (conditionPiece (lineStart flags))))
  | '$' => some (keep (reading.push (conditionPiece (lineEnd flags))))
  | '\\' =>
      match readEscape flags rest with
      | none => none
      | some (.literal c byte, rest) =>
          (literalPiece flags c byte).map fun piece => (reading.push piece, rest)
      | some (.set set, rest) => some (reading.push (setPiece set 0), rest)
      | some (.condition condition, rest) => some (reading.push (conditionPiece condition), rest)
  | c => (literalPiece flags c false).map fun piece => keep (reading.push piece)

/-- The fuel bounds the number of items. Each of them consumes a character. -/
def readItems : Nat → Reading → List Char → Option Reading
  | 0, _, _ => none
  | fuel + 1, reading, source =>
      match reading.flags.skip source with
      | [] => some reading
      | c :: rest => (readItem reading c rest).bind fun (reading, rest) => readItems fuel reading rest

/-- The nesting of groups, repetitions and sets is limited. -/
def depthLimit : Nat := 250

/-- The size is limited to ten mebibytes. -/
def sizeLimit : Nat := 10485760

/-- This function reads a pattern. All its groups must be closed. -/
def ofText? (source : List Char) : Option Pattern :=
  (readItems (source.length + 1) ⟨[], .start, .default, []⟩ source).bind fun reading =>
    let whole := reading.branches.close
    if reading.groups.isEmpty && whole.depth ≤ depthLimit && whole.size ≤ sizeLimit then
      some whole.pattern
    else none

def parse? (source : String) : Option Pattern := ofText? source.toList

end OperationCheck.Pattern
