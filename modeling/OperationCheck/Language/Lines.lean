import OperationCheck.Language.Token
import OperationCheck.Validation.Problem

/-!
Lines and columns of a source. A line ends at any of the line breaks of Unicode, and a carriage
return with a line feed behind it is one of them. A break at the end of the source begins no line.
-/

namespace OperationCheck.Language

open OperationCheck.Validation

/-- The characters that end a line. -/
def endsLine (c : Char) : Bool :=
  "\n\r\x0b\x0c\u0085\u2028\u2029".toList.contains c

/-- This function finds the location of a place. The text begins at the given place and location.
Each character is as wide as the given function says. -/
def locateFrom (width : Char → Nat) (place : Nat) (start : Nat) (location : Location) :
    List Char → Location
  | [] => location
  | c :: rest =>
      if place ≤ start then location
      else
        let breaks := endsLine c && !rest.isEmpty && !(c == '\r' && rest.head? == some '\n')
        let next : Location :=
          if breaks then ⟨location.line + 1, 1⟩ else ⟨location.line, location.column + width c⟩
        locateFrom width place (start + c.utf8Size) next rest

/-- Both parts of a carriage return with a line feed belong to the line that they end. A break at
the end of the source stays on its line. -/
def locate (width : Char → Nat) (source : String) (place : Nat) : Location :=
  locateFrom width place 0 ⟨1, 1⟩ source.toList

/-- Columns are counted in bytes. -/
def locateByBytes : String → Nat → Location := locate Char.utf8Size

/-- Columns are counted in characters. -/
def locateByCharacters : String → Nat → Location := locate fun _ => 1

end OperationCheck.Language
