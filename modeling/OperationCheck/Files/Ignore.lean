import OperationCheck.Files.Tree
import OperationCheck.Glob.Reader
import OperationCheck.Text.Blank

/-!
Ignore files. Each line of an ignore file is a glob for entries that a walk leaves out, and a line
that begins with an exclamation mark keeps entries instead. The last line that matches an entry
decides.
-/

namespace OperationCheck.Files

/-- An ignore rule may apply to directories only, and it may keep an entry instead of ignoring
it. -/
structure IgnoreRule where
  glob : Glob
  directoryOnly : Bool
  keeps : Bool

inductive Verdict where
  | ignored
  | kept
deriving Repr, DecidableEq

/-- Blanks at the end of a line count only behind a backslash. -/
def trimLine (line : List Char) : List Char :=
  match line.reverse with
  | ' ' :: '\\' :: _ => line
  | _ => (line.reverse.dropWhile Text.isBlank).reverse

/-- A slash at the end is no part of the glob, and neither is a backslash before it. -/
def splitDirectory (glob : List Char) : List Char × Bool :=
  match glob.reverse with
  | '/' :: '\\' :: rest => (rest.reverse, true)
  | '/' :: rest => (rest.reverse, true)
  | _ => (glob, false)

/-- A glob without a slash matches names in all directories. -/
def anchorGlob (anchored : Bool) (glob : List Char) : List Char :=
  if anchored || glob.contains '/' || glob == "**".toList then glob else "**/".toList ++ glob

/-- A glob that ends with two stars matches what is in a directory and not the directory. -/
def closeGlob (glob : List Char) : List Char :=
  match glob.reverse with
  | '*' :: '*' :: '/' :: _ => glob ++ "/*".toList
  | _ => glob

def ruleOfGlob? (keeps anchored : Bool) (line : List Char) : Option IgnoreRule :=
  let (glob, directoryOnly) := splitDirectory line
  (Glob.readWith true (String.ofList (closeGlob (anchorGlob anchored glob)))).map fun glob =>
    ⟨glob, directoryOnly, keeps⟩

/-- A slash at the beginning only ties the glob to its directory. -/
def ruleBehindMark? (keeps : Bool) : List Char → Option IgnoreRule
  | '/' :: rest => ruleOfGlob? keeps true rest
  | rest => ruleOfGlob? keeps false rest

/-- Comments, blank lines and lines that are no glob give no rule. -/
def IgnoreRule.parse? (line : List Char) : Option IgnoreRule :=
  match line with
  | '#' :: _ => none
  | _ =>
      match trimLine line with
      | [] => none
      | '\\' :: '!' :: rest => ruleOfGlob? false false ('!' :: rest)
      | '\\' :: '#' :: rest => ruleOfGlob? false false ('#' :: rest)
      | '!' :: rest => ruleBehindMark? true rest
      | rest => ruleBehindMark? false rest

/-- A line ends at a line feed, and a carriage return before it belongs to the line break. -/
def fileLines (bytes : List UInt8) : List (List UInt8) :=
  let lines := bytes.splitOn 10
  let withBreak (line : List UInt8) :=
    match line.reverse with
    | 13 :: rest => rest.reverse
    | _ => line
  lines.dropLast.map withBreak ++ lines.drop (lines.length - 1)

/-- A file is read up to the first line that is no text. -/
def readableLines (lines : List (List UInt8)) : List (List Char) :=
  ((lines.map fun line => String.fromUTF8? ⟨line.toArray⟩).takeWhile Option.isSome).map fun line =>
    (line.getD "").toList

/-- A byte order mark before the first line is left out. -/
def dropMark : List (List Char) → List (List Char)
  | ('\ufeff' :: first) :: rest => first :: rest
  | lines => lines

def ignoreRules (bytes : ByteArray) : List IgnoreRule :=
  (dropMark (readableLines (fileLines bytes.data.toList))).filterMap IgnoreRule.parse?

/-- A path is relative to the directory of the rules. -/
def IgnoreRule.applies (rule : IgnoreRule) (path : String) (isDirectory : Bool) : Bool :=
  (isDirectory || !rule.directoryOnly) && rule.glob.accepts path

/-- The last rule that applies decides. -/
def verdict? (rules : List IgnoreRule) (path : String) (isDirectory : Bool) : Option Verdict :=
  (rules.reverse.find? fun rule => rule.applies path isDirectory).map fun rule =>
    if rule.keeps then .kept else .ignored

/-- The rules of one directory come from three files. Those of a repository only count within
one. -/
structure DirectoryRules where
  general : List IgnoreRule
  repository : List IgnoreRule
  excluded : List IgnoreRule
  beginsRepository : Bool

def Tree.contentBelow? (tree : Tree) (place : Place) (names : List String) : Option Content :=
  (tree.follow linkLimit place names).toOption.bind tree.content?

/-- A file that cannot be read holds no rules. -/
def Tree.rulesIn (tree : Tree) (place : Place) (names : List String) : List IgnoreRule :=
  match (tree.follow linkLimit place names).bind tree.bytesAt with
  | .ok bytes => ignoreRules bytes
  | .error _ => []

/-- A directory begins a repository when it holds the data of one. -/
def Tree.directoryRules (tree : Tree) (place : Place) : DirectoryRules where
  general := tree.rulesIn place [".ignore"]
  repository := tree.rulesIn place [".gitignore"]
  excluded := tree.rulesIn place [".git", "info", "exclude"]
  beginsRepository :=
    (tree.contentBelow? place [".git"]).isSome || (tree.contentBelow? place [".jj"]).isSome

/-- These paths below a directory bear on its rules. -/
def rulePaths : List (List String) :=
  [[".ignore"], [".gitignore"], [".git", "info", "exclude"], [".jj"]]

/-- The directories above a place come with the rest of the path, nearest first. -/
def surroundings (place : Place) : List (Place × String) :=
  ((List.range place.length).map fun count =>
    (place.take count, "/".intercalate (place.drop count))).reverse

/-- The directories up to the one that begins the repository belong to it. -/
def withinRepository : List (DirectoryRules × String) → List (DirectoryRules × String)
  | [] => []
  | directory :: rest =>
      if directory.1.beginsRepository then [directory] else directory :: withinRepository rest

/-- The nearest directory with a verdict decides. Rules for everyone come before those of a
repository, and the rules that a repository shares come before the ones that it keeps to itself. -/
def Tree.verdict? (tree : Tree) (place : Place) (isDirectory : Bool) : Option Verdict :=
  let directories := (surroundings place).map fun (directory, path) =>
    (tree.directoryRules directory, path)
  let nearest (rules : DirectoryRules → List IgnoreRule)
      (directories : List (DirectoryRules × String)) :=
    directories.findSome? fun (held, path) => Files.verdict? (rules held) path isDirectory
  let repository :=
    if directories.any fun directory => directory.1.beginsRepository then
      withinRepository directories
    else []
  (nearest DirectoryRules.general directories).or
    ((nearest DirectoryRules.repository repository).or
      (nearest DirectoryRules.excluded repository))

end OperationCheck.Files
