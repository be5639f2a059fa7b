import OperationCheck.Files.Tree
import OperationCheck.Outcome
import OperationCheck.Rules.Table

/-!
The registry of rule tables. It holds at most one table under each key. A table that is offered is
held under its name, and it replaces the one that is there unless that one has a higher priority.
The main statement says which table is held under a name after an offer.
-/

namespace OperationCheck.Rules

open OperationCheck.Files

/-- Tables of the program give way to those of a user, those to the tables of a workspace, and all
of them to tables that were asked for. -/
inductive Priority where
  | builtIn
  | userGlobal
  | workspace
  | explicit
deriving Repr, DecidableEq

def Priority.rank : Priority → Nat
  | .builtIn => 0
  | .userGlobal => 1
  | .workspace => 2
  | .explicit => 3

/-- A table in a registry has a priority, and a path if it was read from a file. -/
structure Held where
  table : Table
  priority : Priority
  path : Option String

/-- A registry holds tables under keys, and its keys are different. -/
structure Registry where
  entries : List (String × Held)
  distinct : (entries.map Prod.fst).Nodup

inductive RegistryError where
  | unreadableDirectory (path : String) (fault : Fault)
  | unreadableTable (path : String) (fault : Fault)
  | invalidTable (path : String) (error : TableError)
  | unknownTable (name : String) (available : List String)
deriving Repr, DecidableEq

def RegistryError.message : RegistryError → String
  | .unreadableDirectory path _ => "Failed to read rule table directory " ++ path
  | .unreadableTable path _ => "Failed to read rule table " ++ path
  | .invalidTable path _ => "Invalid rule table " ++ path
  | .unknownTable name available =>
      "unknown rule table '" ++ name ++ "' (available: " ++ ", ".intercalate available ++ ")"

/-- A directory of rule tables has one priority for all its tables. -/
structure Directory where
  path : String
  priority : Priority
deriving Repr, DecidableEq

namespace Registry

def empty : Registry := ⟨[], List.nodup_nil⟩

def get? (registry : Registry) (name : String) : Option Held := registry.entries.lookup name

/-- A table takes the place of the one under its key, or comes last. -/
def put (name : String) (held : Held) : List (String × Held) → List (String × Held)
  | [] => [(name, held)]
  | entry :: rest =>
      if entry.1 = name then (name, held) :: rest else entry :: put name held rest

theorem lookup_entry (key : String) (held : Held) (rest : List (String × Held)) (name : String) :
    ((key, held) :: rest).lookup name = if key = name then some held else rest.lookup name := by
  by_cases same : key = name
  · simp [same]
  · have different : (name == key) = false := beq_false_of_ne (Ne.symm same)
    simp only [List.lookup_cons, different, same, ↓reduceIte]

/-- Putting a table under a name changes what that name gives and no other. -/
theorem lookup_put (name : String) (held : Held) (entries : List (String × Held))
    (other : String) :
    (put name held entries).lookup other =
      if name = other then some held else entries.lookup other := by
  induction entries with
  | nil => exact lookup_entry name held [] other
  | cons entry rest ih =>
      obtain ⟨key, first⟩ := entry
      by_cases replaced : key = name
      · simp only [put, replaced, ↓reduceIte, lookup_entry]
        by_cases same : name = other <;> simp only [same, ↓reduceIte]
      · simp only [put, replaced, ↓reduceIte, lookup_entry, ih]
        by_cases same : name = other
        · simp only [same ▸ replaced, same, ↓reduceIte]
        · simp only [same, ↓reduceIte]

theorem mem_put {name : String} {held : Held} {entries : List (String × Held)}
    {entry : String × Held} (member : entry ∈ put name held entries) :
    entry = (name, held) ∨ entry ∈ entries := by
  induction entries with
  | nil => exact .inl (List.mem_singleton.1 member)
  | cons first rest ih =>
      simp only [put] at member
      split at member
      · rcases List.mem_cons.1 member with new | old
        · exact .inl new
        · exact .inr (List.mem_cons_of_mem _ old)
      · rcases List.mem_cons.1 member with rfl | later
        · exact .inr List.mem_cons_self
        · rcases ih later with new | old
          · exact .inl new
          · exact .inr (List.mem_cons_of_mem _ old)

/-- Every key stays, and at most the given one is new. -/
theorem keys_put (name : String) (held : Held) (entries : List (String × Held)) :
    (put name held entries).map Prod.fst =
      if name ∈ entries.map Prod.fst then entries.map Prod.fst
      else entries.map Prod.fst ++ [name] := by
  induction entries with
  | nil => simp [put]
  | cons entry rest ih =>
      by_cases replaced : entry.1 = name
      · simp [put, replaced]
      · have different : name ≠ entry.1 := fun same => replaced same.symm
        by_cases present : name ∈ rest.map Prod.fst
        · rw [if_pos present] at ih
          rw [put, if_neg replaced, if_pos (by simp [List.map_cons, present]), List.map_cons,
            List.map_cons, ih]
        · rw [if_neg present] at ih
          have absent : name ∉ (entry :: rest).map Prod.fst := by
            simp only [List.map_cons, List.mem_cons, not_or]
            exact ⟨different, present⟩
          rw [put, if_neg replaced, if_neg absent, List.map_cons, List.map_cons, ih,
            List.cons_append]

theorem distinct_put (name : String) (held : Held) {entries : List (String × Held)}
    (distinct : (entries.map Prod.fst).Nodup) :
    ((put name held entries).map Prod.fst).Nodup := by
  rw [keys_put]
  by_cases present : name ∈ entries.map Prod.fst
  · rw [if_pos present]
    exact distinct
  · rw [if_neg present]
    refine List.nodup_append.2 ⟨distinct, by simp, fun key member other isName => ?_⟩
    rw [List.mem_singleton.1 isName]
    exact fun same => present (same ▸ member)

/-- This function holds a table under a key. -/
def insert (registry : Registry) (name : String) (held : Held) : Registry :=
  ⟨put name held registry.entries, distinct_put name held registry.distinct⟩

/-- A registry after an insertion gives the inserted table under its name and is unchanged
elsewhere. -/
theorem get_insert (registry : Registry) (name : String) (held : Held) (other : String) :
    (registry.insert name held).get? other =
      if name = other then some held else registry.get? other :=
  lookup_put name held registry.entries other

/-- A table is held under its name. A table of a higher priority stays. -/
def offer (registry : Registry) (offered : Held) : Registry :=
  match registry.get? offered.table.name with
  | some held =>
      if offered.priority.rank < held.priority.rank then registry
      else registry.insert offered.table.name offered
  | none => registry.insert offered.table.name offered

/-- An offer changes what is held under the name of the offered table and nothing else. -/
theorem get_offer (registry : Registry) (offered : Held) (name : String) :
    (registry.offer offered).get? name =
      if offered.table.name = name then
        match registry.get? name with
        | some held =>
            if offered.priority.rank < held.priority.rank then some held else some offered
        | none => some offered
      else registry.get? name := by
  by_cases same : offered.table.name = name
  · subst same
    simp only [offer, ↓reduceIte]
    cases found : registry.get? offered.table.name with
    | none => simp [get_insert]
    | some held =>
        by_cases lower : offered.priority.rank < held.priority.rank
        · simp [lower, found]
        · simp [lower, get_insert]
  · simp only [offer, same, ↓reduceIte]
    cases registry.get? offered.table.name with
    | none => simp [get_insert, same]
    | some held =>
        by_cases lower : offered.priority.rank < held.priority.rank
        · simp [lower]
        · simp [lower, get_insert, same]

def offerAll (registry : Registry) (offers : List Held) : Registry := offers.foldl offer registry

/-- The built-in tables have the lowest priority and no path. -/
def builtInOffers : List Held := builtInTables.map fun table => ⟨table, .builtIn, none⟩

def addBuiltIn (registry : Registry) : Registry := registry.offerAll builtInOffers

def withBuiltIn : Registry := empty.addBuiltIn

/-- The names of the tables are in ascending order. -/
def names (registry : Registry) : List String :=
  (registry.entries.map Prod.fst).mergeSort (· ≤ ·)

end Registry

/-- This function reads a table from its file. -/
def readTable (tree : Tree) (path : String) : Except RegistryError Table :=
  match tree.readText path with
  | .error fault => .error (.unreadableTable path fault)
  | .ok text => (Table.parse text).mapError (.invalidTable path)

def tableExtension : String := "toml"

/-- Only files with the extension of tables are read, in the order of their paths. -/
def tablePaths (path : String) (names : List String) : List String :=
  ((names.map (join path)).filter fun entry => extension? entry == some tableExtension).mergeSort
    pathLe

/-- A file that cannot be read gives a warning. The result has one offer for each of the others. -/
def readOffers (tree : Tree) (priority : Priority) :
    List String → Outcome RegistryError (List Held)
  | [] => pure []
  | path :: paths =>
      match readTable tree path with
      | .ok table => do
          let offers ← readOffers tree priority paths
          return ⟨table, priority, some path⟩ :: offers
      | .error error => do
          Outcome.warn (.skippedTable path error.message)
          readOffers tree priority paths

/-- A directory that is missing holds no tables. -/
def directoryOffers (tree : Tree) (directory : Directory) :
    Outcome RegistryError (List Held) :=
  match tree.locate directory.path with
  | .error _ => pure []
  | .ok place =>
      match tree.list place with
      | .ok names => readOffers tree directory.priority (tablePaths directory.path names)
      | .error fault => .ofExcept (.error (.unreadableDirectory directory.path fault))

namespace Registry

/-- This function loads the tables of a directory. The number counts the tables that were read,
whether or not they are held afterwards. -/
def loadDirectory (registry : Registry) (tree : Tree) (directory : Directory) :
    Outcome RegistryError (Registry × Nat) := do
  let offers ← directoryOffers tree directory
  return (registry.offerAll offers, offers.length)

def loadDirectories (tree : Tree) (registry : Registry) :
    List Directory → Outcome RegistryError Registry
  | [] => pure registry
  | directory :: rest => do
      let (registry, _) ← registry.loadDirectory tree directory
      loadDirectories tree registry rest

/-- A registry begins with the built-in tables, and each directory is added in turn. -/
def load (tree : Tree) (directories : List Directory) : Outcome RegistryError Registry :=
  loadDirectories tree withBuiltIn directories

/-- A selector names a file or else a table that is held. -/
def select (registry : Registry) (tree : Tree) (selector : String) :
    Except RegistryError Table :=
  if tree.isFile selector then readTable tree selector
  else
    match registry.get? selector with
    | some held => .ok held.table
    | none => .error (.unknownTable selector registry.names)

end Registry

end OperationCheck.Rules
