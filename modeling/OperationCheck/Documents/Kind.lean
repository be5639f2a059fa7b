import OperationCheck.Source.Pointer

/-!
The kinds of files that hold operations.
-/

namespace OperationCheck.Documents

open OperationCheck.Files

def codeExtensions : List String :=
  ["js", "jsx", "mjs", "cjs", "ts", "tsx", "mts", "cts", "vue", "svelte", "astro"]

/-- A file is one document, or source code with any number of embedded documents. -/
inductive Kind where
  | graphQl
  | code
deriving Repr, DecidableEq

/-- The kind of a file is told by its extension alone. -/
def Kind.ofPath? (path : String) : Option Kind :=
  match fileKind? path with
  | none => none
  | some kind =>
      if Source.graphQlExtensions.contains kind then some .graphQl
      else if codeExtensions.contains kind then some .code
      else none

end OperationCheck.Documents
