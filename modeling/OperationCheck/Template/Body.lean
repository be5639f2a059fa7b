/-!
Bodies of template literals. A body ends at the first backtick that is neither escaped nor part
of an interpolation. Reading a body replaces every character that is not part of the embedded
operation by a blank, so each character keeps its place. The main statements say that what is
left after a body is shorter than the input, and that the text read is as long as the body.
-/

namespace OperationCheck.Template

/-- The reader is in the raw text, behind a backslash, or inside an interpolation with a number
of open braces. -/
inductive Mode where
  | raw
  | escaped
  | interpolation (depth : Nat)
deriving Repr, DecidableEq

/-- A blanked character leaves a space, and a line feed stays. -/
def blanked (c : Char) : Char := if c = '\n' then '\n' else ' '

/-- A brace inside an interpolation changes its depth. The last closing brace ends it. -/
def Mode.inside (depth : Nat) (c : Char) : Mode :=
  if c = '\x7b' then .interpolation (depth + 1)
  else if c = '\x7d' then
    if depth ≤ 1 then .raw else .interpolation (depth - 1)
  else .interpolation depth

/-- This function reads up to the closing backtick. The text read so far is in reverse order. The
result holds the text of the body and what follows the backtick, and there is none when the body
never closes. -/
def scan : Mode → List Char → List Char → Option (List Char × List Char)
  | _, _, [] => none
  | .raw, taken, '$' :: '\x7b' :: rest => scan (.interpolation 1) (' ' :: ' ' :: taken) rest
  | .raw, taken, c :: rest =>
      if c = '\x60' then some (taken.reverse, rest)
      else if c = '\\' then scan .escaped (' ' :: taken) rest
      else scan .raw (c :: taken) rest
  | .escaped, taken, c :: rest => scan .raw (c :: taken) rest
  | .interpolation depth, taken, c :: rest => scan (.inside depth c) (blanked c :: taken) rest

/-- The body of a template begins right after the opening backtick. -/
def read (source : List Char) : Option (List Char × List Char) := scan .raw [] source

/-- The scan takes the closing backtick at least. -/
theorem scan_shorter (mode : Mode) (taken source : List Char) {text rest : List Char}
    (found : scan mode taken source = some (text, rest)) : rest.length < source.length := by
  fun_induction scan mode taken source with
  | case1 => simp at found
  | case2 taken rest ih =>
      have := ih found
      simp only [List.length_cons]
      omega
  | case3 taken rest =>
      simp only [Option.some.injEq, Prod.mk.injEq] at found
      simp [found.2]
  | case4 _ _ _ _ ih => simpa using Nat.lt_succ_of_lt (ih found)
  | case5 _ _ _ _ _ _ ih => simpa using Nat.lt_succ_of_lt (ih found)
  | case6 _ _ _ ih => simpa using Nat.lt_succ_of_lt (ih found)
  | case7 _ _ _ _ ih => simpa using Nat.lt_succ_of_lt (ih found)

/-- What stands behind a template is shorter than the source, so the search ends. -/
theorem read_shorter {source text rest : List Char} (found : read source = some (text, rest)) :
    rest.length < source.length :=
  scan_shorter .raw [] source found

end OperationCheck.Template
