import OperationCheck.Glob.Basic

/-!
Reading a glob. Two stars stand for directories only as a whole name. Braces hold branches, and
brackets hold characters and ranges.
-/

namespace OperationCheck.Glob

/-- A bracket is being read. Its last range waits for its end behind a hyphen. -/
structure BracketState where
  ranges : List (Char × Char)
  first : Bool
  inRange : Bool

/-- This function reads a bracket behind its opening and its negation. The ranges are in reverse
order, and a hyphen before the closing bracket stands for itself. -/
def readRanges (state : BracketState) : List Char → Option (List (Char × Char) × List Char)
  | [] => none
  | c :: rest =>
      let single : BracketState := ⟨(c, c) :: state.ranges, false, false⟩
      if c = ']' ∧ !state.first then
        let ranges := if state.inRange then ('-', '-') :: state.ranges else state.ranges
        some (ranges.reverse, rest)
      else if state.inRange then
        match state.ranges with
        | (low, _) :: ranges =>
            if c < low then none else readRanges ⟨(low, c) :: ranges, false, false⟩ rest
        | [] => none
      else if c = '-' ∧ !state.first then readRanges ⟨state.ranges, false, true⟩ rest
      else readRanges single rest

/-- A bracket may be negated by an exclamation mark or a caret. -/
def readBracket (source : List Char) : Option (Bracket × List Char) :=
  let (negated, source) := match source with
    | '!' :: rest | '^' :: rest => (true, rest)
    | _ => (false, source)
  (readRanges ⟨[], true, false⟩ source).map fun (ranges, rest) => (⟨negated, ranges⟩, rest)

/-- Open braces keep the branches that are finished and the tokens before the brace. The tokens of
the branch being read are in reverse order. -/
structure Reading where
  outer : List (List (List Token) × List Token)
  tokens : List Token
  before : Option Char

def Reading.push (reading : Reading) (token : Token) (last : Char) : Reading :=
  { reading with tokens := token :: reading.tokens, before := some last }

/-- Two stars that are no whole name act like a single one. -/
def Reading.twoStars (reading : Reading) (last : Char) : Reading :=
  (reading.push .anyBytes last).push .anyBytes last

/-- At the beginning of a branch, two stars and a slash stand for any directories. -/
def starsFirst (reading : Reading) (rest : List Char) : Reading × List Char :=
  match rest with
  | [] => (reading.push .leading '*', [])
  | '/' :: rest => (reading.push .leading '/', rest)
  | _ => (reading.twoStars '*', rest)

/-- Behind a slash, two stars take the place of that slash. -/
def Reading.replaceSlash (reading : Reading) (token : Token) (last : Char) : Reading :=
  match reading.tokens with
  | .leading :: _ => { reading with before := some last }
  | .trailing :: _ => { reading with before := some last }
  | _ :: tokens => { reading with tokens := token :: tokens, before := some last }
  | [] => reading.push token last

/-- This function reads behind two stars. -/
def readStars (reading : Reading) (rest : List Char) : Reading × List Char :=
  let inBraces := !reading.outer.isEmpty
  if reading.tokens.isEmpty then starsFirst reading rest
  else if reading.before = some '/'
      ∨ (inBraces ∧ (reading.before = some ',' ∨ reading.before = some '\x7b')) then
    match rest with
    | [] => (reading.replaceSlash .trailing '*', [])
    | '/' :: rest => (reading.replaceSlash .between '/', rest)
    | c :: _ =>
        if inBraces ∧ (c = ',' ∨ c = '\x7d') then (reading.replaceSlash .trailing '*', rest)
        else (reading.twoStars '*', rest)
  else (reading.twoStars '*', rest)

/-- A closing brace ends the last branch and makes all of them one token. -/
def Reading.closeBraces (reading : Reading) : Option Reading :=
  match reading.outer with
  | [] => none
  | (branches, tokens) :: outer =>
      let token := Token.branches (branches ++ [reading.tokens.reverse])
      some ⟨outer, token :: tokens, some '\x7d'⟩

/-- A comma between braces begins a new branch. -/
def Reading.nextBranch (reading : Reading) : Reading :=
  match reading.outer with
  | [] => reading.push (.literal ',') ','
  | (branches, tokens) :: outer =>
      ⟨(branches ++ [reading.tokens.reverse], tokens) :: outer, [], some ','⟩

/-- This function reads one token or one mark of braces. The flag tells whether a bracket that never
closes stands for itself; otherwise the glob is refused. -/
def readToken (lenient : Bool) (reading : Reading) (c : Char) (rest : List Char) :
    Option (Reading × List Char) :=
  match c with
  | '?' => some (reading.push .anyByte c, rest)
  | '*' =>
      match rest with
      | '*' :: rest => some (readStars reading rest)
      | _ => some (reading.push .anyBytes c, rest)
  | '[' =>
      match readBracket rest with
      | some (bracket, rest) => some (reading.push (.bracket bracket) ']', rest)
      | none => if lenient then some (reading.push (.literal c) c, rest) else none
  | '\x7b' => some (⟨([], reading.tokens) :: reading.outer, [], some c⟩, rest)
  | '\x7d' => reading.closeBraces.map fun reading => (reading, rest)
  | ',' => some (reading.nextBranch, rest)
  | '\\' =>
      match rest with
      | escaped :: rest => some (reading.push (.literal escaped) escaped, rest)
      | [] => none
  | _ => some (reading.push (.literal c) c, rest)

/-- The fuel bounds the number of steps. -/
def readTokens (lenient : Bool) : Nat → Reading → List Char → Option Reading
  | 0, _, _ => none
  | _ + 1, reading, [] => some reading
  | fuel + 1, reading, c :: rest =>
      (readToken lenient reading c rest).bind fun (reading, rest) =>
        readTokens lenient fuel reading rest

def readWith (lenient : Bool) (source : String) : Option Glob :=
  let text := source.toList
  (readTokens lenient (text.length + 1) ⟨[], [], none⟩ text).bind fun reading =>
    if reading.outer.isEmpty then some ⟨reading.tokens.reverse⟩ else none

/-- This function reads a glob. All its braces and brackets must be closed. -/
def parse? (source : String) : Option Glob := readWith false source

end OperationCheck.Glob
