import OperationCheck.Text.Blank

/-!
Flags change how the rest of a group is read.
-/

namespace OperationCheck.Pattern

/-- The flags say whether case is ignored, whether lines have anchors of their own, whether a dot
accepts a line feed, whether sets are those of Unicode, whether a carriage return breaks a line
too, and whether blanks and comments are left out. -/
structure Flags where
  caseless : Bool
  multiline : Bool
  dotAll : Bool
  unicode : Bool
  anyBreak : Bool
  verbose : Bool
deriving Repr

def Flags.default : Flags := ⟨false, false, false, true, false, false⟩

/-- One letter stands for one flag. The letter `U` only changes which match is preferred, so it
has no effect on a search. -/
def Flags.set? (flags : Flags) (value : Bool) : Char → Option Flags
  | 'i' => some { flags with caseless := value }
  | 'm' => some { flags with multiline := value }
  | 's' => some { flags with dotAll := value }
  | 'u' => some { flags with unicode := value }
  | 'R' => some { flags with anyBreak := value }
  | 'x' => some { flags with verbose := value }
  | 'U' => some flags
  | _ => none

/-- A comment goes from a hash sign to the end of its line. -/
def dropBlanks : Bool → List Char → List Char
  | _, [] => []
  | true, c :: rest => dropBlanks (c ≠ '\n') rest
  | false, c :: rest =>
      if Text.isBlank c then dropBlanks false rest
      else if c = '#' then dropBlanks true rest
      else c :: rest

/-- Blanks and comments are left out only in verbose patterns. -/
def Flags.skip (flags : Flags) (source : List Char) : List Char :=
  if flags.verbose then dropBlanks false source else source

/-- A list of flags ends with a colon or a closing parenthesis. No letter comes twice, at most one
minus sign turns the flags after it off, and one must follow it. The result holds the new flags,
whether any item was read, the character at the end, and what follows it. -/
def readFlags (flags : Flags) (seen : List Char) : List Char → Option (Flags × Bool × Char × List Char)
  | [] => none
  | c :: rest =>
      if c = ':' ∨ c = ')' then
        if seen.head? = some '-' then none else some (flags, !seen.isEmpty, c, rest)
      else if seen.contains c then none
      else if c = '-' then readFlags flags (c :: seen) rest
      else
        match flags.set? (!seen.contains '-') c with
        | none => none
        | some flags => readFlags flags (c :: seen) rest

end OperationCheck.Pattern
