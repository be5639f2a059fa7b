import OperationCheck.Files.Path

/-!
Pieces and components of paths. The pieces of a path are joined by slashes again, and a path below a
directory goes on from the components of that directory. The main statement says that paths are in
a total order of their components.
-/

namespace OperationCheck.Files

/-- A slash begins a new piece, and any other character goes on with the first one. -/
theorem splitOn_slash_cons (c : Char) (text : List Char) :
    (c :: text).splitOn '/' =
      if c = '/' then [] :: text.splitOn '/' else (text.splitOn '/').modifyHead (c :: ·) := by
  rw [List.splitOn_cons_eq_if_modifyHead]
  simp only [beq_iff_eq]

/-- A piece between slashes has none in it. -/
theorem notMem_of_splitOn {text piece : List Char} (member : piece ∈ text.splitOn '/') :
    '/' ∉ piece := by
  induction text generalizing piece with
  | nil =>
      obtain rfl := List.mem_singleton.1 member
      exact List.not_mem_nil
  | cons c text ih =>
      rw [splitOn_slash_cons] at member
      split at member
      · rcases List.mem_cons.1 member with rfl | later
        · exact List.not_mem_nil
        · exact ih later
      · next other =>
          cases held : text.splitOn '/' with
          | nil => exact absurd held (List.splitOn_ne_nil _ _)
          | cons first others =>
              rw [held] at ih member
              rcases List.mem_cons.1 member with rfl | later
              · intro inside
                rcases List.mem_cons.1 inside with same | inFirst
                · exact other same.symm
                · exact ih List.mem_cons_self inFirst
              · exact ih (List.mem_cons_of_mem _ later)

/-- There is one more piece than there are slashes. -/
theorem length_splitOn (text : List Char) :
    (text.splitOn '/').length = text.count '/' + 1 := by
  induction text with
  | nil => rfl
  | cons c text ih =>
      rw [splitOn_slash_cons, List.count_cons]
      split
      · next same => rw [List.length_cons, ih, same, if_pos (BEq.refl _)]
      · next other =>
          rw [List.length_modifyHead, ih, if_neg (by simpa using other), Nat.add_zero]

/-- A piece of a path has no slash. -/
theorem slash_notMem_piece {path piece : String} (member : piece ∈ pieces path) :
    '/' ∉ piece.toList := by
  obtain ⟨text, inSplit, rfl⟩ := List.mem_map.1 member
  rw [String.toList_ofList]
  exact notMem_of_splitOn inSplit

theorem pieces_ne_nil (path : String) : pieces path ≠ [] := fun none =>
  List.splitOn_ne_nil _ _ (List.map_eq_nil_iff.1 none)

/-- A path has one more piece than slashes. -/
theorem length_pieces (path : String) : (pieces path).length = path.toList.count '/' + 1 := by
  rw [pieces, List.length_map, length_splitOn]

/-- The pieces of a path are its texts between slashes. -/
theorem map_toList_pieces (path : String) :
    (pieces path).map String.toList = path.toList.splitOn '/' := by
  rw [pieces, List.map_map]
  exact (List.map_congr_left fun text _ => String.toList_ofList).trans (List.map_id _)

/-- The pieces of a path joined by slashes are the path. -/
theorem intercalate_pieces (path : String) : "/".intercalate (pieces path) = path := by
  refine String.toList_inj.1 ?_
  rw [String.toList_intercalate, map_toList_pieces]
  exact List.intercalate_splitOn '/'

/-- Names joined by slashes are the pieces of their path. -/
theorem pieces_intercalate {names : List String} (nonempty : names ≠ [])
    (noSlash : ∀ name ∈ names, '/' ∉ name.toList) : pieces ("/".intercalate names) = names := by
  have split : ("/".intercalate names).toList.splitOn '/' = names.map String.toList := by
    rw [String.toList_intercalate]
    refine List.splitOn_intercalate '/' (fun text member => ?_) (mt List.map_eq_nil_iff.1 nonempty)
    obtain ⟨name, inNames, rfl⟩ := List.mem_map.1 member
    exact noSlash name inNames
  rw [pieces, split, List.map_map]
  exact (List.map_congr_left fun name _ => String.ofList_toList).trans (List.map_id _)

/-- An entry of a directory has a name without a slash that leads to no other place. -/
structure IsEntryName (name : String) : Prop where
  nonempty : name ≠ ""
  notCurrent : name ≠ "."
  notParent : name ≠ ".."
  noSlash : '/' ∉ name.toList

/-- The name of an entry is a component. -/
theorem IsEntryName.component {name : String} (isName : IsEntryName name) :
    component? name = some (.normal name) := by
  rw [component?, if_neg (not_or.2 ⟨isName.nonempty, isName.notCurrent⟩), if_neg isName.notParent]

/-- Names of entries are components, each by itself. -/
theorem filterMap_component {names : List String} (areNames : ∀ name ∈ names, IsEntryName name) :
    names.filterMap component? = names.map .normal := by
  induction names with
  | nil => rfl
  | cons name names ih =>
      obtain ⟨isName, others⟩ := List.forall_mem_cons.1 areNames
      rw [List.filterMap_cons_some isName.component, ih others, List.map_cons]

/-- The first piece tells where a path begins. -/
def beginning (first : String) (rest : List String) : List Component :=
  if first = "" ∧ rest ≠ [] then [.root] else if first = "." then [.current] else []

/-- The components of a path are its beginning and those of its pieces. -/
theorem components_eq {path first : String} {rest : List String}
    (isPieces : pieces path = first :: rest) :
    components path = beginning first rest ++ (first :: rest).filterMap component? := by
  unfold components
  rw [isPieces, beginning]
  split
  · next same =>
      obtain ⟨rfl, rfl⟩ := List.cons.inj same
      rw [if_pos ⟨rfl, List.cons_ne_nil _ _⟩]
      rfl
  · next same =>
      obtain ⟨rfl, rfl⟩ := List.cons.inj same
      rw [if_neg fun empty => absurd empty.1 (by decide), if_pos rfl]
      rfl
  · next notRoot notCurrent =>
      rw [if_neg, if_neg]
      · rfl
      · rintro rfl
        exact notCurrent rest rfl
      · rintro ⟨rfl, nonempty⟩
        cases rest with
        | nil => exact nonempty rfl
        | cons second rest => exact notRoot second rest rfl

/-- What is behind the first piece only matters when that piece is empty. -/
theorem beginning_congr {first : String} {rest other : List String}
    (same : first = "" → rest ≠ [] ∧ other ≠ []) : beginning first rest = beginning first other := by
  unfold beginning
  by_cases empty : first = ""
  · obtain ⟨some, others⟩ := same empty
    rw [if_pos ⟨empty, some⟩, if_pos ⟨empty, others⟩]
  · rw [if_neg (not_and_of_not_left _ empty), if_neg (not_and_of_not_left _ empty)]

/-- The characters of a path that goes on below a base. -/
theorem toList_below (base path : String) :
    (base ++ "/" ++ path).toList = base.toList ++ '/' :: path.toList := by
  rw [String.toList_append, String.toList_append, List.append_assoc]
  rfl

/-- The pieces of two texts with a slash between them. -/
theorem pieces_append (front back : String) :
    pieces (front ++ "/" ++ back) = pieces front ++ pieces back := by
  rw [pieces, toList_below, List.splitOn_append_cons_self, List.map_append]
  rfl

/-- A character of joined names is a slash or in one of the names. -/
theorem mem_toList_intercalate {names : List String} {c : Char}
    (member : c ∈ ("/".intercalate names).toList) : c = '/' ∨ ∃ name ∈ names, c ∈ name.toList := by
  induction names with
  | nil => cases member
  | cons first names ih =>
      cases names with
      | nil =>
          rw [String.intercalate_singleton] at member
          exact .inr ⟨first, List.mem_cons_self, member⟩
      | cons second names =>
          rw [String.intercalate_cons_cons, toList_below] at member
          rcases List.mem_append.1 member with inFirst | later
          · exact .inr ⟨first, List.mem_cons_self, inFirst⟩
          · rcases List.mem_cons.1 later with slash | later
            · exact .inl slash
            · rcases ih later with slash | ⟨name, inNames, inName⟩
              · exact .inl slash
              · exact .inr ⟨name, List.mem_cons_of_mem _ inNames, inName⟩

/-- An absolute path begins with a slash. -/
theorem isAbsolute_iff (path : String) : isAbsolute path = true ↔ ∃ rest, path.toList = '/' :: rest := by
  rw [isAbsolute, String.startsWith_string_iff]
  exact ⟨fun ⟨rest, same⟩ => ⟨rest, same.symm⟩, fun ⟨rest, same⟩ => ⟨rest, same.symm⟩⟩

/-- What is behind a base does not change whether it is absolute. -/
theorem isAbsolute_append {base : String} (isBase : base ≠ "") (behind : String) :
    isAbsolute (base ++ behind) = isAbsolute base := by
  rw [Bool.eq_iff_iff, isAbsolute_iff, isAbsolute_iff, String.toList_append]
  cases text : base.toList with
  | nil => exact absurd (String.toList_eq_nil_iff.1 text) isBase
  | cons c rest => simp

/-- A path of names does not begin with a slash. -/
theorem isAbsolute_intercalate {names : List String}
    (areNames : ∀ name ∈ names, IsEntryName name) :
    isAbsolute ("/".intercalate names) = false := by
  refine Bool.eq_false_iff.2 fun isRoot => ?_
  obtain ⟨rest, same⟩ := (isAbsolute_iff _).1 isRoot
  cases names with
  | nil => cases same
  | cons name names =>
      obtain ⟨nonempty, -, -, noSlash⟩ := areNames name List.mem_cons_self
      cases text : name.toList with
      | nil => exact nonempty (String.toList_eq_nil_iff.1 text)
      | cons c others =>
          have first : ∃ more, ("/".intercalate (name :: names)).toList = c :: more := by
            cases names with
            | nil => exact ⟨others, by rw [String.intercalate_singleton, text]⟩
            | cons second names =>
                rw [String.intercalate_cons_cons, String.toList_append, String.toList_append, text]
                exact ⟨_, rfl⟩
          obtain ⟨more, isFirst⟩ := first
          rw [isFirst] at same
          rw [(List.cons.inj same).1] at text
          exact noSlash (text ▸ List.mem_cons_self)

/-- A slash at the end can be cut off. -/
theorem exists_of_endsWith_slash {path : String} (closed : path.endsWith "/" = true) :
    ∃ front, path = front ++ "/" := by
  rw [← String.endsWith_toSlice, String.Slice.endsWith_string_iff, String.copy_toSlice] at closed
  obtain ⟨front, same⟩ := closed
  refine ⟨String.ofList front, String.toList_inj.1 ?_⟩
  rw [String.toList_append, String.toList_ofList, same]

/-- An absolute path takes the place of its base. -/
theorem join_of_absolute {path : String} (isRoot : isAbsolute path = true) (base : String) :
    join base path = path := if_pos isRoot

/-- A relative path goes on below the current directory. -/
theorem join_current {path : String} (isRelative : isAbsolute path = false) :
    join "." path = "." ++ "/" ++ path := by
  have open_ : ¬("." = "" ∨ ".".endsWith "/" = true) := by decide +kernel
  rw [join, if_neg (Bool.eq_false_iff.1 isRelative), if_neg open_]

/-- The current directory is one more piece in front. -/
theorem pieces_current (path : String) : pieces ("." ++ "/" ++ path) = "." :: pieces path := by
  have isPiece : pieces "." = ["."] := by decide +kernel
  rw [pieces_append, isPiece, List.singleton_append]

/-- A path that is joined to a directory goes on behind it, and one slash at its end is enough. -/
theorem join_cases {base path : String} (isBase : base ≠ "") (isRelative : isAbsolute path = false) :
    (∃ front, base = front ++ "/" ∧ join base path = front ++ "/" ++ path) ∨
      join base path = base ++ "/" ++ path := by
  rw [join, if_neg (Bool.eq_false_iff.1 isRelative)]
  split
  · next closed =>
      obtain ⟨front, rfl⟩ := exists_of_endsWith_slash (closed.resolve_left isBase)
      exact .inl ⟨front, rfl, rfl⟩
  · exact .inr rfl

/-- A joined path begins with the directory, and there is only a slash between the two. -/
theorem exists_join {base path : String} (isBase : base ≠ "")
    (isRelative : isAbsolute path = false) :
    ∃ behind, join base path = base ++ behind ∧ ∀ c ∈ behind.toList, c = '/' ∨ c ∈ path.toList := by
  rcases join_cases isBase isRelative with ⟨front, rfl, isJoin⟩ | isJoin
  · exact ⟨path, isJoin, fun c member => .inr member⟩
  · refine ⟨"/" ++ path, by rw [isJoin, String.append_assoc], fun c member => ?_⟩
    rw [String.toList_append] at member
    exact List.mem_cons.1 member

/-- A path below a directory goes on from the components of that directory. -/
theorem components_join {base : String} {names : List String} (isBase : base ≠ "")
    (nonempty : names ≠ []) (areNames : ∀ name ∈ names, IsEntryName name) :
    components (join base ("/".intercalate names)) = components base ++ names.map .normal := by
  have named := filterMap_component areNames
  have isPath := pieces_intercalate nonempty fun name member => (areNames name member).noSlash
  rcases join_cases isBase (isAbsolute_intercalate areNames) with ⟨front, rfl, isJoin⟩ | isJoin
  · have whole := pieces_append front ("/".intercalate names)
    have isClosed := pieces_append front ""
    rw [String.append_empty] at isClosed
    rw [isPath, ← isJoin] at whole
    cases isPieces : pieces front with
    | nil => exact absurd isPieces (pieces_ne_nil front)
    | cons first rest =>
        rw [isPieces, List.cons_append] at whole isClosed
        have begins : first = "" → rest ++ names ≠ [] ∧ rest ++ pieces "" ≠ [] := fun _ =>
          ⟨fun none => nonempty (List.append_eq_nil_iff.1 none).2,
            fun none => pieces_ne_nil "" (List.append_eq_nil_iff.1 none).2⟩
        have noName : (pieces "").filterMap component? = [] := rfl
        rw [components_eq whole, components_eq isClosed, beginning_congr begins,
          ← List.cons_append, ← List.cons_append, List.filterMap_append, List.filterMap_append,
          named, noName, List.append_nil, List.append_assoc]
  · have whole := pieces_append base ("/".intercalate names)
    rw [isPath, ← isJoin] at whole
    cases isPieces : pieces base with
    | nil => exact absurd isPieces (pieces_ne_nil base)
    | cons first rest =>
        rw [isPieces, List.cons_append] at whole
        have begins : first = "" → rest ++ names ≠ [] ∧ rest ≠ [] := by
          rintro rfl
          refine ⟨fun none => nonempty (List.append_eq_nil_iff.1 none).2, ?_⟩
          rintro rfl
          exact isBase (by rw [← intercalate_pieces base, isPieces]; rfl)
        rw [components_eq whole, components_eq isPieces, ← List.cons_append,
          List.filterMap_append, named, beginning_congr begins, List.append_assoc]

/-- Only an absolute path has an empty piece in front of others. -/
theorem first_piece_ne_empty {path first : String} {rest : List String}
    (isPieces : pieces path = first :: rest) (isRelative : isAbsolute path = false)
    (nonempty : path ≠ "") : first ≠ "" := by
  rintro rfl
  have whole := intercalate_pieces path
  rw [isPieces] at whole
  cases rest with
  | nil => exact nonempty whole.symm
  | cons second rest =>
      rw [String.intercalate_cons_cons] at whole
      have begins : isAbsolute path = true := by
        rw [isAbsolute_iff, ← whole, toList_below]
        exact ⟨_, rfl⟩
      rw [isRelative] at begins
      cases begins

/-- Only the names in a path can be the name of its file. -/
theorem fileName_eq (path : String) :
    fileName? path =
      match ((pieces path).filterMap component?).getLast? with
      | some (.normal name) => some name
      | _ => none := by
  cases isPieces : pieces path with
  | nil => exact absurd isPieces (pieces_ne_nil path)
  | cons first rest =>
      have begins : beginning first rest = [.root] ∨ beginning first rest = [.current] ∨
          beginning first rest = [] := by
        unfold beginning
        split
        · exact .inl rfl
        · split
          · exact .inr (.inl rfl)
          · exact .inr (.inr rfl)
      rw [fileName?, components_eq isPieces, List.getLast?_append]
      cases ((first :: rest).filterMap component?).getLast? with
      | some last => rfl
      | none => rcases begins with isRoot | isCurrent | nothing <;> simp [*]

/-- The current directory in front of a path does not change the name of its file. -/
theorem fileName_current (path : String) : fileName? (join "." path) = fileName? path := by
  cases isRoot : isAbsolute path with
  | true => rw [join_of_absolute isRoot]
  | false =>
      have noName : component? "." = none := rfl
      rw [join_current isRoot, fileName_eq, fileName_eq path, pieces_current,
        List.filterMap_cons_none noName]

/-- Components are in the order of their ranks. -/
theorem Component.le_iff (first second : Component) :
    first.le second = true ↔ first.rank.1 < second.rank.1 ∨
      first.rank.1 = second.rank.1 ∧ first.rank.2 ≤ second.rank.2 := by
  simp only [Component.le, Bool.or_eq_true, Bool.and_eq_true, decide_eq_true_eq, beq_iff_eq]

/-- A component is told by its rank. -/
theorem Component.rank_injective {first second : Component} (same : first.rank = second.rank) :
    first = second := by
  cases first <;> cases second <;> simp_all [Component.rank]

theorem Component.le_total (first second : Component) :
    first.le second = true ∨ second.le first = true := by
  rw [Component.le_iff, Component.le_iff]
  rcases Nat.lt_trichotomy first.rank.1 second.rank.1 with less | same | more
  · exact .inl (.inl less)
  · rcases String.le_total first.rank.2 second.rank.2 with name | name
    · exact .inl (.inr ⟨same, name⟩)
    · exact .inr (.inr ⟨same.symm, name⟩)
  · exact .inr (.inl more)

theorem Component.le_trans {first second third : Component} (le : first.le second = true)
    (le' : second.le third = true) : first.le third = true := by
  rw [Component.le_iff] at le le' ⊢
  rcases le with less | ⟨same, name⟩
  · rcases le' with less' | ⟨same', -⟩
    · exact .inl (Nat.lt_trans less less')
    · exact .inl (same' ▸ less)
  · rcases le' with less' | ⟨same', name'⟩
    · exact .inl (same ▸ less')
    · exact .inr ⟨same.trans same', String.le_trans name name'⟩

/-- Only the same component comes both before and behind another one. -/
theorem Component.le_antisymm {first second : Component} (le : first.le second = true)
    (le' : second.le first = true) : first = second := by
  rw [Component.le_iff] at le le'
  rcases le with less | ⟨same, name⟩
  · rcases le' with less' | ⟨same', -⟩ <;> omega
  · rcases le' with less' | ⟨-, name'⟩
    · omega
    · exact Component.rank_injective (Prod.ext same (String.le_antisymm name name'))

theorem componentsLe_total (first second : List Component) :
    componentsLe first second = true ∨ componentsLe second first = true := by
  induction first generalizing second with
  | nil => exact .inl (by cases second <;> rfl)
  | cons component first ih =>
      cases second with
      | nil => exact .inr rfl
      | cons other second =>
          by_cases same : component = other
          · subst same
            simpa only [componentsLe, if_pos] using ih second
          · rw [componentsLe, componentsLe, if_neg same, if_neg (Ne.symm same)]
            exact component.le_total other

/-- Only the same list of components comes both before and behind another one. -/
theorem componentsLe_antisymm {first second : List Component}
    (le : componentsLe first second = true) (le' : componentsLe second first = true) :
    first = second := by
  induction first generalizing second with
  | nil =>
      cases second with
      | nil => rfl
      | cons => cases le'
  | cons component first ih =>
      cases second with
      | nil => cases le
      | cons other second =>
          rw [componentsLe] at le le'
          by_cases same : component = other
          · subst same
            rw [if_pos rfl] at le le'
            rw [ih le le']
          · rw [if_neg same] at le
            rw [if_neg (Ne.symm same)] at le'
            exact absurd (Component.le_antisymm le le') same

theorem componentsLe_trans {first second third : List Component}
    (le : componentsLe first second = true) (le' : componentsLe second third = true) :
    componentsLe first third = true := by
  induction first generalizing second third with
  | nil => cases third <;> rfl
  | cons component first ih =>
      cases second with
      | nil => cases le
      | cons other second =>
          cases third with
          | nil => cases le'
          | cons last third =>
              rw [componentsLe] at le le' ⊢
              by_cases same : component = other
              · subst same
                rw [if_pos rfl] at le
                split at le'
                · next isLast => rw [if_pos isLast]; exact ih le le'
                · next notLast => rw [if_neg notLast]; exact le'
              · rw [if_neg same] at le
                split at le'
                · next isLast =>
                    subst isLast
                    rw [if_neg same]
                    exact le
                · next notLast =>
                    have below := Component.le_trans le le'
                    split
                    · next isLast =>
                        subst isLast
                        exact absurd (Component.le_antisymm le le') same
                    · exact below

theorem pathLe_total (first second : String) :
    pathLe first second = true ∨ pathLe second first = true :=
  componentsLe_total _ _

theorem pathLe_trans {first second third : String} (le : pathLe first second = true)
    (le' : pathLe second third = true) : pathLe first third = true :=
  componentsLe_trans le le'

/-- Sorted paths are in order. -/
theorem pairwise_mergeSort_pathLe (paths : List String) :
    (paths.mergeSort pathLe).Pairwise fun earlier later => pathLe earlier later = true := by
  have trans (first second third : String) (le : pathLe first second = true)
      (le' : pathLe second third = true) : pathLe first third = true := pathLe_trans le le'
  have total (first second : String) : (pathLe first second || pathLe second first) = true :=
    (Bool.or_eq_true _ _).symm ▸ pathLe_total first second
  exact List.pairwise_mergeSort trans total paths

/-- Paths that are in order both ways have the same components. -/
theorem components_eq_of_pathLe {first second : String} (le : pathLe first second = true)
    (le' : pathLe second first = true) : components first = components second :=
  componentsLe_antisymm le le'

/-- Paths are in strict order when each is before all later ones. -/
def Ascending (paths : List String) : Prop :=
  paths.Pairwise fun earlier later =>
    pathLe earlier later = true ∧ pathLe later earlier = false

/-- Paths with different components are in strict order once they are sorted. -/
theorem mergeSort_ascending {paths : List String}
    (distinct : paths.Pairwise fun first second => components first ≠ components second) :
    Ascending (paths.mergeSort pathLe) := by
  have sorted := pairwise_mergeSort_pathLe paths
  have differ := (List.mergeSort_perm paths pathLe).symm.pairwise distinct fun other => other.symm
  refine (sorted.and differ).imp fun ⟨le, other⟩ => ⟨le, Bool.eq_false_iff.2 fun le' => ?_⟩
  exact other (components_eq_of_pathLe le le')

/-- Paths in strict order stand in one order only. -/
theorem eq_of_ascending {first second : List String} (same : first.Perm second)
    (ascending : Ascending first) (ascending' : Ascending second) : first = second :=
  List.Perm.eq_of_pairwise
    (fun _ _ _ _ ⟨le, _⟩ ⟨_, notLe⟩ => absurd le (Bool.eq_false_iff.1 notLe))
    ascending ascending' same

/-- Paths below a directory are the same when their components are. -/
theorem join_injective {base : String} {names others : List String} (isBase : base ≠ "")
    (nonempty : names ≠ []) (othersNonempty : others ≠ [])
    (areNames : ∀ name ∈ names, IsEntryName name) (areOthers : ∀ name ∈ others, IsEntryName name)
    (same : components (join base ("/".intercalate names)) =
      components (join base ("/".intercalate others))) : names = others := by
  rw [components_join isBase nonempty areNames, components_join isBase othersNonempty areOthers]
    at same
  exact (List.map_inj_right fun _ _ => Component.normal.inj).1 (List.append_cancel_left same)

end OperationCheck.Files
