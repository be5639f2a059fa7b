import OperationCheck.Pattern.Search
import OperationCheck.Text.Bytes

/-!
Globs that match the path of a file. A path is matched byte by byte, and each byte is taken as the
character with its number. The meaning of a glob is a pattern over these characters.
-/

namespace OperationCheck

namespace Glob

/-- A bracket accepts the bytes within its ranges, or those without. -/
structure Bracket where
  negated : Bool
  ranges : List (Char × Char)
deriving Repr

/-- A token stands for one character, for anything within a name, or for whole directories at the
beginning, in the middle or at the end of a path. -/
inductive Token where
  | literal (c : Char)
  | anyByte
  | anyBytes
  | leading
  | between
  | trailing
  | bracket (bracket : Bracket)
  | branches (branches : List (List Token))

/-- The bytes of a character are numbers below 256. -/
def bytesOf (c : Char) : List Nat := (String.utf8EncodeChar c).map UInt8.toNat

/-- The path as a matcher sees it has one character for each byte. -/
def pathText (path : String) : List Char :=
  (Text.bytes path.toList).map fun byte => Char.ofNat byte.toNat

def byteSet (byte : Nat) : Pattern.CharSet := .ranges [(byte, byte)]

/-- Any byte is accepted. -/
def anySet : Pattern.CharSet := .ranges [(0, 255)]

/-- The slash separates names. -/
def nameSet : Pattern.CharSet := .difference anySet (byteSet 47)

/-- The ends of a range are characters, but its members are bytes: the last one of its first
character joins with the first one of its last character. -/
def rangeBytes (range : Char × Char) : List (Nat × Nat) :=
  let first := bytesOf range.1
  let last := bytesOf range.2
  if range.1 = range.2 then first.map fun byte => (byte, byte)
  else
    first.dropLast.map (fun byte => (byte, byte)) ++
      [(first.getLast?.getD 0, last.head?.getD 0)] ++ (last.drop 1).map fun byte => (byte, byte)

/-- A negated bracket also accepts the slash, unless it names it. -/
def Bracket.set (bracket : Bracket) : Pattern.CharSet :=
  let members := Pattern.CharSet.ranges (bracket.ranges.flatMap rangeBytes)
  if bracket.negated then .difference anySet members else members

def slash : Pattern := .one (byteSet 47)

/-- Any text may cross directories. -/
def anyText : Pattern := .repeated 0 none (.one anySet)

/-- Patterns in a row match one after the other. -/
def inOrder : List Pattern → Pattern
  | [] => .empty
  | [pattern] => pattern
  | pattern :: rest => .both pattern (inOrder rest)

def oneOf : List Pattern → Pattern
  | [] => .empty
  | [pattern] => pattern
  | pattern :: rest => .either pattern (oneOf rest)

mutual

/-- Branches without any token are left out, and so are tokens without any branch. -/
def Token.pattern? : Token → Option Pattern
  | .literal c => some (inOrder ((bytesOf c).map fun byte => .one (byteSet byte)))
  | .anyByte => some (.one nameSet)
  | .anyBytes => some (.repeated 0 none (.one nameSet))
  | .leading => some (.either (.repeated 0 (some 1) slash) (.both anyText slash))
  | .between => some (.either slash (.both slash (.both anyText slash)))
  | .trailing => some (.both slash anyText)
  | .bracket held => some (.one held.set)
  | .branches held =>
      match branchPatterns held with
      | [] => none
      | patterns => some (oneOf patterns)

/-- The tokens of a branch follow each other. -/
def tokenPatterns : List Token → List Pattern
  | [] => []
  | token :: tokens =>
      match token.pattern? with
      | some pattern => pattern :: tokenPatterns tokens
      | none => tokenPatterns tokens

def branchPatterns : List (List Token) → List Pattern
  | [] => []
  | branch :: branches =>
      match tokenPatterns branch with
      | [] => branchPatterns branches
      | patterns => inOrder patterns :: branchPatterns branches

end

end Glob

/-- A glob is a list of tokens. -/
structure Glob where
  tokens : List Glob.Token

/-- Two stars alone match everything. Any other glob matches the whole path. -/
def Glob.pattern (glob : Glob) : Pattern :=
  let body := match glob.tokens with
    | [.leading] => anyText
    | tokens => inOrder (tokenPatterns tokens)
  .both (.assertion .textStart) (.both body (.assertion .textEnd))

/-- This function tells whether a glob accepts a path. -/
def Glob.accepts (glob : Glob) (path : String) : Bool :=
  Pattern.isFound glob.pattern (pathText path)

end OperationCheck
