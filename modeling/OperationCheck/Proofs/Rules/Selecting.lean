import Mathlib.Data.String.Basic
import OperationCheck.Proofs.Files.Following
import OperationCheck.Proofs.Rules.History

/-!
Selecting a table from a registry. A selector is a path or else a name. The main statement says that
a file alone decides what is selected by its path, and that all that was offered before decides what
is selected by a name, whatever was selected in between.
-/

namespace OperationCheck.Rules

open OperationCheck.Files

/-- The table in the bytes of a file. -/
def tableIn (path : String) (bytes : ByteArray) : Except RegistryError Table :=
  match String.fromUTF8? bytes with
  | some text => (Table.parse text).mapError (.invalidTable path)
  | none => .error (.unreadableTable path .notText)

/-- A caller changes a registry or selects a table from it. The files may be others at each call. -/
inductive Call where
  | change (operation : Operation)
  | select (tree : Tree) (selector : String)

def Call.operation? : Call → Option Operation
  | .change operation => some operation
  | .select _ _ => none

namespace Registry

/-- A selection leaves the registry as it is. -/
def serve (registry : Registry) : Call → Registry
  | .change operation => registry.apply operation
  | .select _ _ => registry

/-- The registry that is reached by some calls. -/
def reached (calls : List Call) : Registry := calls.foldl serve empty

/-- Selections have no part in what is reached. -/
theorem reached_eq_run (calls : List Call) :
    reached calls = run (calls.filterMap Call.operation?) := by
  have general (registry : Registry) :
      calls.foldl serve registry = (calls.filterMap Call.operation?).foldl apply registry := by
    induction calls generalizing registry with
    | nil => rfl
    | cons call calls ih =>
        rw [List.foldl_cons, ih]
        cases call <;> rfl
  exact general empty

/-- The names a registry lists are those it holds a table under. -/
theorem mem_names {registry : Registry} {name : String} :
    name ∈ registry.names ↔ ∃ held, registry.get? name = some held := by
  rw [names, List.mem_mergeSort, get?, ← Option.isSome_iff_exists]
  induction registry.entries with
  | nil => simp
  | cons entry rest ih =>
      rw [List.map_cons, List.mem_cons, ih, lookup_entry]
      by_cases same : entry.1 = name
      · simp [same]
      · simp [same, Ne.symm same]

/-- The names are in order, and none is listed twice. -/
theorem names_ascending (registry : Registry) : registry.names.Pairwise (· < ·) := by
  have ordered := @List.pairwise_mergeSort String (· ≤ ·) (by simpa using fun _ _ _ => le_trans)
    (by simpa using le_total) (registry.entries.map Prod.fst)
  have sorted : registry.names.Pairwise (· ≤ ·) := by simpa [names] using ordered
  have distinct : registry.names.Nodup :=
    (List.mergeSort_perm _ _).nodup_iff.2 registry.distinct
  exact sorted.imp₂ (fun _ _ before different => lt_of_le_of_ne before different) distinct

/-- A file at the path decides, whatever the registry holds. -/
theorem select_of_file (registry : Registry) {tree : Tree} {selector : String} {place : Place}
    {bytes : ByteArray} (isPlace : tree.canonical? selector = some place)
    (isContent : tree.content? place = some (.file bytes)) :
    registry.select tree selector =
      if tree.isOpen place then tableIn selector bytes
      else .error (.unreadableTable selector .permissionDenied) := by
  have isFile := isFile_of_locate (locate_of_canonical isPlace) isContent
  rw [select, if_pos isFile, readTable, Tree.readText, readBytes_of_canonical isPlace isContent,
    tableIn]
  cases tree.isOpen place with
  | false => rfl
  | true =>
      simp only [if_true]
      cases String.fromUTF8? bytes <;> rfl

/-- Without a file at the path, the name decides, whatever the files hold. -/
theorem select_of_name (registry : Registry) {tree : Tree} {selector : String}
    (absent : ∀ bytes, tree.found? selector ≠ some (.file bytes)) :
    registry.select tree selector =
      match registry.get? selector with
      | some held => .ok held.table
      | none => .error (.unknownTable selector registry.names) := by
  have noFile : tree.isFile selector = false := by
    unfold Tree.isFile
    split
    · next bytes found => exact absurd found (absent bytes)
    · rfl
  rw [select, noFile]
  rfl

/-- A table is found under the names of all offers, and under no other. -/
theorem Reflects.get_eq_none_iff {registry : Registry} {offers : List Held}
    (reflects : registry.Reflects offers) (name : String) :
    registry.get? name = none ↔ ∀ offered ∈ offers, offered.table.name ≠ name := by
  have holds := reflects name
  cases found : registry.get? name with
  | none =>
      rw [found] at holds
      exact iff_of_true rfl holds
  | some held =>
      rw [found] at holds
      apply iff_of_false nofun
      intro noOffer
      exact noOffer held holds.mem holds.name_eq

/-- The names listed are those that were ever offered. -/
theorem Reflects.mem_names {registry : Registry} {offers : List Held}
    (reflects : registry.Reflects offers) {name : String} :
    name ∈ registry.names ↔ ∃ offered ∈ offers, offered.table.name = name := by
  rw [Registry.mem_names, ← Option.ne_none_iff_exists', ne_eq, reflects.get_eq_none_iff]
  simp only [ne_eq, not_forall, not_not, exists_prop]

end Registry

/-- A file at the path of a selector decides alone, even if it cannot be opened. Otherwise the files
do not bear on the selection. It gives the table that is held under the name, and it fails exactly when no table of the name was
offered. The error lists the names of all offers in ascending order. A selection leaves the registry
as it is. -/
theorem file_or_name_selected (calls : List Call) (tree : Tree) (selector : String) :
    let registry := Registry.reached calls
    let offers := history (calls.filterMap Call.operation?)
    Registry.reached (calls ++ [.select tree selector]) = registry ∧
    (∀ place bytes, tree.canonical? selector = some place →
      tree.content? place = some (.file bytes) → registry.select tree selector =
        if tree.isOpen place then tableIn selector bytes
        else .error (.unreadableTable selector .permissionDenied)) ∧
    ((∀ bytes, tree.found? selector ≠ some (.file bytes)) →
      (∀ other : Tree, (∀ bytes, other.found? selector ≠ some (.file bytes)) →
        registry.select other selector = registry.select tree selector) ∧
      (∀ held, registry.get? selector = some held →
        registry.select tree selector = .ok held.table) ∧
      ((∃ error, registry.select tree selector = .error error) ↔
        ∀ offered ∈ offers, offered.table.name ≠ selector) ∧
      ∀ error, registry.select tree selector = .error error →
        error = .unknownTable selector registry.names) ∧
    registry.names.Pairwise (· < ·) ∧
    ∀ name, name ∈ registry.names ↔ ∃ offered ∈ offers, offered.table.name = name := by
  intro registry offers
  have reflects : registry.Reflects offers := by
    simpa only [registry, Registry.reached_eq_run] using run_reflects _
  have unchanged : Registry.reached (calls ++ [.select tree selector]) = registry := by
    simp [registry, Registry.reached_eq_run, Call.operation?, List.filterMap_append,
      List.filterMap_cons]
  refine ⟨unchanged, fun place bytes => registry.select_of_file, fun absent => ?_,
    registry.names_ascending, fun name => reflects.mem_names⟩
  have decided := registry.select_of_name absent
  -- Without a file of that name the tree plays no part in the selection.
  have independent (other : Tree) (noFile : ∀ bytes, other.found? selector ≠ some (.file bytes)) :
      registry.select other selector = registry.select tree selector := by
    rw [registry.select_of_name noFile, decided]
  rw [← reflects.get_eq_none_iff selector]
  apply And.intro independent
  cases found : registry.get? selector with
  | none =>
      rw [found] at decided
      simp [decided]
  | some held =>
      rw [found] at decided
      simp [decided]

end OperationCheck.Rules
