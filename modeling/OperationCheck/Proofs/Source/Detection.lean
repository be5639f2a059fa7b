import OperationCheck.Proofs.Files.Extension
import OperationCheck.Proofs.Files.Path
import OperationCheck.Source.Pointer

/-!
The forms of pointers that are URLs. The form is told by the last name in the server and the path of
a URL, so its query and its fragment never count. The main statement says when this is the form that
the end of the path alone asks for.
-/

namespace OperationCheck.Source

open OperationCheck.Files

/-- A URL goes on behind its scheme and two slashes. -/
def behindScheme (url : String) : List Char := (url.toList.dropWhile (· ≠ '/')).drop 2

/-- The server of a URL ends where the path, the query or the fragment begins. -/
def urlServer (url : String) : List Char :=
  (behindScheme url).takeWhile fun c => c ≠ '/' && c ≠ '?' && c ≠ '#'

/-- The path of a URL begins with the slash behind the server, and it ends where the query or the
fragment begins. It may be empty. -/
def urlPath (url : String) : List Char :=
  ((behindScheme url).dropWhile fun c => c ≠ '/' && c ≠ '?' && c ≠ '#').takeWhile
    fun c => c ≠ '?' && c ≠ '#'

/-- A path may end in a dot and an extension in any case. -/
def endsIn (path : List Char) (extension : String) : Bool :=
  ('.' :: extension.toList).isSuffixOf (path.map Char.toLower)

/-- Remote files of these kinds are fetched as they are. -/
def remoteKinds : List String := graphQlExtensions ++ ["json"]

/-- This is the form that the end of a path asks for. -/
def Pointer.ofPath (url : String) (path : List Char) : Pointer :=
  if graphQlExtensions.any (endsIn path) then .remoteGraphQl url
  else if endsIn path "json" then .remoteJson url
  else .endpoint url

/-- This is the form that a kind of file asks for. -/
def Pointer.ofKind (url : String) : Option String → Pointer
  | some kind =>
      if graphQlExtensions.contains kind then .remoteGraphQl url
      else if kind = "json" then .remoteJson url
      else .endpoint url
  | none => .endpoint url

/-- Empty pieces and pieces `.` name nothing. -/
def isNamed (piece : String) : Bool := piece ≠ "" && piece ≠ "."

/-- The names in the server and the path of a URL. -/
def urlNames (url : String) : List String :=
  (pieces (String.ofList (urlServer url ++ urlPath url))).filter isNamed

/-- The last name of a URL tells its kind. -/
def urlKind? (url : String) : Option String :=
  ((urlNames url).getLast?.bind extensionOf).map Text.lowercase

/-- What is behind the last slash of a path. -/
def lastSegment (path : List Char) : List Char := (path.reverse.takeWhile (· ≠ '/')).reverse

/-- A URL is detected by the kind of its scheme, server and path read as one path. -/
theorem detect_of_isUrl {pointer : String} (isRemote : isUrl pointer = true) :
    Pointer.detect pointer =
      some (Pointer.ofKind pointer (fileKind? (addressPath pointer))) := by
  rw [Pointer.detect, if_pos isRemote]
  cases fileKind? (addressPath pointer) with
  | none => rfl
  | some kind =>
      simp only [Pointer.ofKind]
      split
      · rfl
      · split <;> rfl

/-- A URL has one of two schemes. -/
theorem exists_scheme {pointer : String} (isRemote : isUrl pointer = true) :
    ∃ scheme ∈ ["http:", "https:"],
      pointer.toList = scheme.toList ++ '/' :: '/' :: behindScheme pointer := by
  unfold isUrl at isRemote
  rw [Bool.or_eq_true, String.startsWith_string_iff, String.startsWith_string_iff] at isRemote
  rcases isRemote with ⟨rest, isText⟩ | ⟨rest, isText⟩
  · refine ⟨"http:", by decide, ?_⟩
    rw [behindScheme, ← isText]
    rfl
  · refine ⟨"https:", by decide, ?_⟩
    rw [behindScheme, ← isText]
    rfl

/-- A URL without its query and its fragment ends with its path. -/
theorem takeWhile_behindScheme (url : String) :
    (behindScheme url).takeWhile (fun c => c ≠ '?' && c ≠ '#') = urlServer url ++ urlPath url := by
  have whole := @List.takeWhile_append_dropWhile _ (fun c => c ≠ '/' && c ≠ '?' && c ≠ '#')
    (behindScheme url)
  rw [← whole, List.takeWhile_append_of_pos]
  · rfl
  · intro c member
    have inServer := List.mem_takeWhile_imp member
    simp only [Bool.and_eq_true] at inServer ⊢
    exact ⟨inServer.1.2, inServer.2⟩

/-- A URL without its query is a scheme, two slashes, a server and a path. -/
theorem addressPath_eq {pointer scheme : String} (isScheme : scheme ∈ ["http:", "https:"])
    (isText : pointer.toList = scheme.toList ++ '/' :: '/' :: behindScheme pointer) :
    addressPath pointer =
      scheme ++ "/" ++ ("" ++ "/" ++ String.ofList (urlServer pointer ++ urlPath pointer)) := by
  have plain : ∀ scheme ∈ ["http:", "https:"],
      (scheme.toList ++ ['/', '/']).all (fun c => c ≠ '?' && c ≠ '#') = true := by decide +kernel
  have split : scheme.toList ++ '/' :: '/' :: behindScheme pointer =
      (scheme.toList ++ ['/', '/']) ++ behindScheme pointer := by simp
  refine String.toList_inj.1 ?_
  rw [addressPath, String.toList_ofList, isText, split,
    List.takeWhile_append_of_pos (List.all_eq_true.1 (plain scheme isScheme)),
    takeWhile_behindScheme, toList_below, toList_below, String.toList_ofList]
  simp

/-- A piece that is a name leads to a parent or to an entry. -/
def componentOf (name : String) : Component := if name = ".." then .parent else .normal name

/-- The components of a list of pieces are those of its pieces that name something. -/
theorem filterMap_component_eq (names : List String) :
    names.filterMap component? = (names.filter isNamed).map componentOf := by
  induction names with
  | nil => rfl
  | cons name names ih =>
      by_cases isNothing : name = "" ∨ name = "."
      · have noComponent : component? name = none := by rw [component?, if_pos isNothing]
        rw [List.filterMap_cons_none noComponent, ih, List.filter_cons_of_neg]
        rcases isNothing with rfl | rfl <;> decide
      · have isComponent : component? name = some (componentOf name) := by
          rw [component?, if_neg isNothing, componentOf]
          split <;> rfl
        rw [List.filterMap_cons_some isComponent, ih, List.filter_cons_of_pos, List.map_cons]
        simpa [isNamed, not_or] using isNothing

/-- The server or the scheme is the file of a URL that has no other name. -/
theorem fileName_addressPath {pointer scheme : String} (isScheme : scheme ∈ ["http:", "https:"])
    (isText : pointer.toList = scheme.toList ++ '/' :: '/' :: behindScheme pointer) :
    fileName? (addressPath pointer) =
      match (urlNames pointer).getLast? with
      | some name => if name = ".." then none else some name
      | none => some scheme := by
  have onePiece : ∀ scheme ∈ ["http:", "https:"], pieces scheme = [scheme] ∧
      component? scheme = some (.normal scheme) := by decide +kernel
  obtain ⟨isPiece, isName⟩ := onePiece scheme isScheme
  have noPiece : pieces "" = [""] := by decide +kernel
  have noName : component? "" = none := rfl
  rw [fileName_eq, addressPath_eq isScheme isText, pieces_append, pieces_append, isPiece, noPiece,
    List.singleton_append, List.singleton_append, List.filterMap_cons_some isName,
    List.filterMap_cons_none noName, filterMap_component_eq, ← urlNames, List.getLast?_cons,
    List.getLast?_map]
  cases (urlNames pointer).getLast? with
  | none => rfl
  | some name =>
      simp only [Option.map_some, Option.getD_some, componentOf]
      split
      · next isNormal =>
          split at isNormal
          · cases isNormal
          · next other => rw [if_neg other, ← Component.normal.inj (Option.some.inj isNormal)]
      · next notNormal =>
          split
          · rfl
          · next other => exact absurd (by rw [if_neg other]) (notNormal name)

/-- The form of a URL is told by its last name. -/
theorem ofKind_fileKind {pointer : String} (isRemote : isUrl pointer = true) :
    Pointer.ofKind pointer (fileKind? (addressPath pointer)) =
      Pointer.ofKind pointer (urlKind? pointer) := by
  obtain ⟨scheme, isScheme, isText⟩ := exists_scheme isRemote
  have noExtension : ∀ scheme ∈ ["http:", "https:"], extensionOf scheme = none := by
    decide +kernel
  have parent : (extensionOf "..").map Text.lowercase = some "" := by decide +kernel
  rw [fileKind?, extension?, fileName_addressPath isScheme isText, urlKind?]
  cases (urlNames pointer).getLast? with
  | none =>
      dsimp only
      rw [Option.bind_some, noExtension scheme isScheme]
      rfl
  | some name =>
      dsimp only
      split
      · next isParent =>
          subst isParent
          rw [Option.bind_some, parent]
          rfl
      · rfl

/-- A pointer that is a URL has the form that the kind of its last name asks for. -/
theorem detect_eq_ofKind {pointer : String} (isRemote : isUrl pointer = true) :
    Pointer.detect pointer = some (Pointer.ofKind pointer (urlKind? pointer)) := by
  rw [detect_of_isUrl isRemote, ofKind_fileKind isRemote]

/-- The last segment holds no slash. -/
theorem slash_notMem_lastSegment (path : List Char) : '/' ∉ lastSegment path := by
  intro member
  have inTaken := List.mem_takeWhile_imp (List.mem_reverse.1 member)
  simp at inTaken

/-- A path that is not empty ends with a slash and its last segment. -/
theorem exists_lastSegment {path : List Char} (hasSlash : '/' ∈ path) :
    ∃ front, path = front ++ '/' :: lastSegment path := by
  obtain ⟨front, behind, isPath, noSlash⟩ := exists_behind_last hasSlash
  have isLast : lastSegment path = behind := by
    rw [lastSegment, isPath, takeWhile_reverse_of_last noSlash, List.reverse_reverse]
  exact ⟨front, by rw [isLast, isPath]⟩

/-- A path begins with a slash, or it is empty. -/
theorem urlPath_cases (url : String) : urlPath url = [] ∨ '/' ∈ urlPath url := by
  unfold urlPath
  cases isRest : (behindScheme url).dropWhile fun c => c ≠ '/' && c ≠ '?' && c ≠ '#' with
  | nil => exact .inl rfl
  | cons c rest =>
      have stops := List.head?_dropWhile_not (fun c => c ≠ '/' && c ≠ '?' && c ≠ '#')
        (behindScheme url)
      rw [isRest, List.head?_cons] at stops
      by_cases isSlash : c = '/'
      · subst isSlash
        exact .inr List.mem_cons_self
      · refine .inl (List.takeWhile_cons_of_neg ?_)
        simpa [isSlash] using stops

/-- Whether a path ends in an extension is told by its last segment. -/
theorem endsIn_lastSegment {path : List Char} (isPath : path = [] ∨ '/' ∈ path)
    {extension : String} (noSlash : '/' ∉ '.' :: extension.toList) :
    endsIn path extension = endsIn (lastSegment path) extension := by
  rcases isPath with rfl | hasSlash
  · rfl
  · obtain ⟨front, isPath⟩ := exists_lastSegment hasSlash
    generalize lastSegment path = last at isPath
    subst isPath
    have whole : (front ++ '/' :: last).map Char.toLower =
        front.map Char.toLower ++ '/' :: last.map Char.toLower := by
      rw [List.map_append, List.map_cons]
      rfl
    rw [endsIn, endsIn, whole, Bool.eq_iff_iff, List.isSuffixOf_iff_suffix,
      List.isSuffixOf_iff_suffix]
    constructor
    · intro ends
      have behind := List.suffix_append (front.map Char.toLower) ('/' :: last.map Char.toLower)
      rcases List.suffix_or_suffix_of_suffix ends behind with within | beyond
      · rcases List.suffix_cons_iff.1 within with same | later
        · exact absurd (same ▸ List.mem_cons_self) noSlash
        · exact later
      · exact absurd (beyond.subset List.mem_cons_self) noSlash
    · exact fun ends => (ends.trans (List.suffix_cons _ _)).trans (List.suffix_append _ _)

/-- A segment has the extension that it ends in, unless it is nothing else. -/
theorem extensionOf_eq_iff {segment : List Char} {extension : String}
    (noDot : '.' ∉ extension.toList)
    (notAlone : segment.map Char.toLower ≠ '.' :: extension.toList) :
    (extensionOf (String.ofList segment)).map Text.lowercase = some extension ↔
      endsIn segment extension = true := by
  have isName : (String.ofList segment).toList = segment := String.toList_ofList
  rw [endsIn, List.isSuffixOf_iff_suffix]
  by_cases hasDot : '.' ∈ segment
  · obtain ⟨front, behind, isSegment, absent⟩ := exists_behind_last hasDot
    have isLower : segment.map Char.toLower =
        front.map Char.toLower ++ '.' :: behind.map Char.toLower := by
      rw [isSegment, List.map_append, List.map_cons]
      rfl
    have absentLower : '.' ∉ behind.map Char.toLower := fun member =>
      absent ((Text.mem_map_toLower (by decide)).1 member)
    rw [extensionOf_of_dot (isName.trans isSegment) absent, isLower,
      suffix_mark_iff noDot absentLower]
    split
    · next empty =>
        rw [isLower, empty] at notAlone
        refine iff_of_false nofun fun same => notAlone ?_
        rw [same]
        rfl
    · rw [Option.map_some, Option.some.injEq, Text.lowercase, String.toList_ofList, eq_comm,
        ← String.toList_inj, String.toList_ofList]
  · rw [extensionOf_of_noDot (by rwa [isName])]
    refine iff_of_false nofun fun ends => hasDot ?_
    exact (Text.mem_map_toLower (by decide)).1 (ends.subset List.mem_cons_self)

/-- A path that ends in a name has that name as the last one of its URL. -/
theorem getLast_urlNames {url : String} (hasSlash : '/' ∈ urlPath url)
    (nonempty : lastSegment (urlPath url) ≠ []) (notCurrent : lastSegment (urlPath url) ≠ ['.']) :
    (urlNames url).getLast? = some (String.ofList (lastSegment (urlPath url))) := by
  obtain ⟨front, isPath⟩ := exists_lastSegment hasSlash
  have noSlash := slash_notMem_lastSegment (urlPath url)
  generalize lastSegment (urlPath url) = last at isPath nonempty notCurrent noSlash
  have whole : String.ofList (urlServer url ++ urlPath url) =
      String.ofList (urlServer url ++ front) ++ "/" ++ String.ofList last := by
    refine String.toList_inj.1 ?_
    rw [toList_below, String.toList_ofList, String.toList_ofList, String.toList_ofList, isPath,
      List.append_assoc]
  have onePiece : pieces (String.ofList last) = [String.ofList last] := by
    have isPiece := pieces_intercalate (List.cons_ne_nil (String.ofList last) [])
      fun name member => by rwa [List.mem_singleton.1 member, String.toList_ofList]
    rwa [String.intercalate_singleton] at isPiece
  have isName : isNamed (String.ofList last) = true := by
    rw [isNamed, Bool.and_eq_true, decide_eq_true_eq, decide_eq_true_eq]
    constructor
    · intro empty
      exact nonempty (by rw [← @String.toList_ofList last, empty]; rfl)
    · intro current
      exact notCurrent (by rw [← @String.toList_ofList last, current]; rfl)
  rw [urlNames, whole, pieces_append, onePiece, List.filter_append, List.filter_cons_of_pos isName,
    List.filter_nil, List.getLast?_concat]

/-- Kinds and ends of paths that mean the same ask for the same form. -/
theorem ofKind_eq_ofPath {url : String} {kind? : Option String} {path : List Char}
    (same : ∀ kind ∈ remoteKinds, kind? = some kind ↔ endsIn path kind = true) :
    Pointer.ofKind url kind? = Pointer.ofPath url path := by
  have ofGraphQl {kind : String} (member : kind ∈ graphQlExtensions) :=
    same kind (List.mem_append_left _ member)
  have ofJson := same "json" (List.mem_append_right _ List.mem_cons_self)
  unfold Pointer.ofPath
  split
  · next ends =>
      obtain ⟨kind, member, endsInKind⟩ := List.any_eq_true.1 ends
      rw [(ofGraphQl member).2 endsInKind, Pointer.ofKind, if_pos (List.contains_iff_mem.2 member)]
  · next noGraphQl =>
      split
      · next ends =>
          rw [ofJson.2 ends]
          rfl
      · next noJson =>
          cases kind? with
          | none => rfl
          | some kind =>
              rw [Pointer.ofKind, if_neg, if_neg]
              · rintro rfl
                exact noJson (ofJson.1 rfl)
              · intro isKind
                have member := List.contains_iff_mem.1 isKind
                exact noGraphQl (List.any_eq_true.2 ⟨kind, member, (ofGraphQl member).1 rfl⟩)

/-- A kind gives an endpoint just where it is none of the remote kinds. -/
theorem ofKind_eq_endpoint_iff {url : String} {kind? : Option String} :
    Pointer.ofKind url kind? = .endpoint url ↔ ∀ kind ∈ remoteKinds, kind? ≠ some kind := by
  cases kind? with
  | none => exact iff_of_true rfl fun _ _ => nofun
  | some kind =>
      have members : kind ∈ remoteKinds ↔ kind ∈ graphQlExtensions ∨ kind = "json" := by
        rw [remoteKinds, List.mem_append, List.mem_singleton]
      simp only [ne_eq, Option.some.injEq, Pointer.ofKind, List.contains_iff_mem]
      constructor
      · rintro isEndpoint _ member rfl
        rcases members.1 member with isGraphQl | isJson
        · rw [if_pos isGraphQl] at isEndpoint
          cases isEndpoint
        · subst isJson
          cases isEndpoint
      · intro other
        have unknown := not_or.1 fun known => other kind (members.2 known) rfl
        rw [if_neg unknown.1, if_neg unknown.2]

/-- A path gives an endpoint just where it ends in none of their extensions. -/
theorem ofPath_eq_endpoint_iff {url : String} {path : List Char} :
    Pointer.ofPath url path = .endpoint url ↔
      ∀ kind ∈ remoteKinds, endsIn path kind = false := by
  unfold Pointer.ofPath
  rw [remoteKinds, List.forall_mem_append, List.forall_mem_singleton]
  split
  · next ends =>
      obtain ⟨kind, member, endsInKind⟩ := List.any_eq_true.1 ends
      refine iff_of_false nofun fun none => ?_
      rw [none.1 kind member] at endsInKind
      cases endsInKind
  · next noGraphQl =>
      have others : ∀ kind ∈ graphQlExtensions, endsIn path kind = false := fun kind member =>
        Bool.eq_false_iff.2 fun ends => noGraphQl (List.any_eq_true.2 ⟨kind, member, ends⟩)
      split
      · next ends => exact iff_of_false nofun fun none => by simp [none.2] at ends
      · next noJson => exact iff_of_true rfl ⟨others, Bool.eq_false_iff.2 noJson⟩

/-- No known extension has a dot or a slash, or is empty. -/
theorem plain_of_remoteKinds : ∀ kind ∈ remoteKinds,
    '.' ∉ kind.toList ∧ '/' ∉ '.' :: kind.toList ∧ endsIn [] kind = false ∧
      endsIn ['.'] kind = false := by
  decide +kernel

/-- A segment that is an extension alone is a name without one. -/
theorem extensionOf_of_alone {segment : List Char} {extension : String}
    (noDot : '.' ∉ extension.toList)
    (alone : segment.map Char.toLower = '.' :: extension.toList) :
    extensionOf (String.ofList segment) = none := by
  cases segment with
  | nil => cases alone
  | cons c behind =>
      obtain ⟨isDot, isBehind⟩ := List.cons.inj alone
      obtain rfl := (Text.toLower_eq_iff (by decide)).1 isDot
      have absent : '.' ∉ behind := fun member => by
        rw [← isBehind, Text.mem_map_toLower (by decide)] at noDot
        exact noDot member
      have isName : (String.ofList ('.' :: behind)).toList = [] ++ '.' :: behind :=
        String.toList_ofList
      rw [extensionOf_of_dot isName absent, if_pos rfl]

/-- These segments name nothing below the directory that they stand in. -/
def directorySegments : List (List Char) := [[], ['.']]

/-- A path that ends in a name asks for the form of its URL, unless that name is an extension
alone. -/
theorem ofKind_eq_ofPath_iff {url : String}
    (isFile : lastSegment (urlPath url) ∉ directorySegments) :
    Pointer.ofKind url (urlKind? url) = Pointer.ofPath url (urlPath url) ↔
      ∀ kind ∈ remoteKinds,
        (lastSegment (urlPath url)).map Char.toLower ≠ '.' :: kind.toList := by
  simp only [directorySegments, List.mem_cons, List.not_mem_nil, or_false, not_or] at isFile
  have hasSlash : '/' ∈ urlPath url := by
    refine (urlPath_cases url).resolve_left fun empty => isFile.1 ?_
    rw [empty]
    rfl
  have isKind : urlKind? url =
      (extensionOf (String.ofList (lastSegment (urlPath url)))).map Text.lowercase := by
    rw [urlKind?, getLast_urlNames hasSlash isFile.1 isFile.2, Option.bind_some]
  constructor
  · intro same kind member alone
    obtain ⟨noDot, noSlash, -⟩ := plain_of_remoteKinds kind member
    have ends : endsIn (urlPath url) kind = true := by
      rw [endsIn_lastSegment (.inr hasSlash) noSlash, endsIn, alone]
      exact List.isSuffixOf_iff_suffix.2 (List.suffix_refl _)
    rw [isKind, extensionOf_of_alone noDot alone] at same
    have none := ofPath_eq_endpoint_iff.1 same.symm kind member
    rw [ends] at none
    cases none
  · intro notAlone
    refine ofKind_eq_ofPath fun kind member => ?_
    obtain ⟨noDot, noSlash, -⟩ := plain_of_remoteKinds kind member
    rw [isKind, endsIn_lastSegment (.inr hasSlash) noSlash]
    exact extensionOf_eq_iff noDot (notAlone kind member)

/-- A path that is empty or ends in a directory asks for a server. -/
theorem ofPath_of_directory {url : String}
    (isDirectory : lastSegment (urlPath url) ∈ directorySegments) :
    Pointer.ofPath url (urlPath url) = .endpoint url ∧
      ∀ kind ∈ remoteKinds,
        (lastSegment (urlPath url)).map Char.toLower ≠ '.' :: kind.toList := by
  have noEnd : ∀ kind ∈ remoteKinds, endsIn (lastSegment (urlPath url)) kind = false := by
    intro kind member
    obtain ⟨-, -, ofNothing, ofDot⟩ := plain_of_remoteKinds kind member
    rcases List.mem_cons.1 isDirectory with isEmpty | isCurrent
    · rw [isEmpty, ofNothing]
    · rw [List.mem_singleton.1 isCurrent, ofDot]
  refine ⟨ofPath_eq_endpoint_iff.2 fun kind member => ?_, fun kind member alone => ?_⟩
  · obtain ⟨-, noSlash, -⟩ := plain_of_remoteKinds kind member
    rw [endsIn_lastSegment (urlPath_cases url) noSlash, noEnd kind member]
  · have none := noEnd kind member
    rw [endsIn, alone, Bool.eq_false_iff, ne_eq, List.isSuffixOf_iff_suffix] at none
    exact none (List.suffix_refl _)

/-- The form of a URL is told by the last name in its server and its path, where empty segments and
segments `.` name nothing. Its query and its fragment never count. This is the form that the end of
the path asks for, unless the last segment is a known extension and nothing else, or the path is
empty or ends in a directory, and the last name before that has a known extension. -/
theorem detect_url {pointer : String} (isRemote : isUrl pointer = true) :
    Pointer.detect pointer = some (.ofKind pointer (urlKind? pointer)) ∧
      (∀ other, isUrl other = true → urlServer other = urlServer pointer →
        urlPath other = urlPath pointer →
          Pointer.detect other = some (.ofKind other (urlKind? pointer))) ∧
      (Pointer.detect pointer = some (.ofPath pointer (urlPath pointer)) ↔
        (∀ kind ∈ remoteKinds,
          (lastSegment (urlPath pointer)).map Char.toLower ≠ '.' :: kind.toList) ∧
        (lastSegment (urlPath pointer) ∈ directorySegments →
          ∀ kind ∈ remoteKinds, urlKind? pointer ≠ some kind)) := by
  refine ⟨detect_eq_ofKind isRemote, fun other isOther sameServer samePath => ?_, ?_⟩
  · rw [detect_eq_ofKind isOther, urlKind?, urlNames, sameServer, samePath]
    rfl
  · rw [detect_eq_ofKind isRemote, Option.some.injEq]
    by_cases isDirectory : lastSegment (urlPath pointer) ∈ directorySegments
    · obtain ⟨isEndpoint, notAlone⟩ := ofPath_of_directory isDirectory
      rw [isEndpoint, ofKind_eq_endpoint_iff]
      exact ⟨fun unknown => ⟨notAlone, fun _ => unknown⟩, fun ⟨_, unknown⟩ => unknown isDirectory⟩
    · rw [ofKind_eq_ofPath_iff isDirectory]
      exact ⟨fun notAlone => ⟨notAlone, fun directory => absurd directory isDirectory⟩, And.left⟩

/-- A file of operations is told by its path, whatever the query ends in. -/
theorem detect_url_query :
    isUrl "http://h.json/a/s.GQL?f=/b.json#c.json" = true ∧
      urlPath "http://h.json/a/s.GQL?f=/b.json#c.json" = "/a/s.GQL".toList ∧
      Pointer.detect "http://h.json/a/s.GQL?f=/b.json#c.json" =
        some (.remoteGraphQl "http://h.json/a/s.GQL?f=/b.json#c.json") := by
  have isRemote : isUrl "http://h.json/a/s.GQL?f=/b.json#c.json" = true := by decide +kernel
  have isPath : urlPath "http://h.json/a/s.GQL?f=/b.json#c.json" = "/a/s.GQL".toList := by
    decide +kernel
  have isForm : Pointer.ofPath "http://h.json/a/s.GQL?f=/b.json#c.json" "/a/s.GQL".toList =
      .remoteGraphQl "http://h.json/a/s.GQL?f=/b.json#c.json" := by decide +kernel
  obtain ⟨-, -, byPath⟩ := detect_url isRemote
  rw [isPath] at byPath
  rw [← isForm]
  exact ⟨isRemote, isPath, byPath.2 ⟨by decide +kernel, by decide +kernel⟩⟩

/-- The server decides when there is no path. A slash at the end does not count, and a name that is
an extension alone does not either. -/
theorem server_decides :
    urlPath "http://h.json" = [] ∧
      Pointer.ofPath "http://h.json" [] = .endpoint "http://h.json" ∧
      Pointer.detect "http://h.json" = some (.remoteJson "http://h.json") ∧
      urlPath "http://h/s.json/" = "/s.json/".toList ∧
      Pointer.ofPath "http://h/s.json/" "/s.json/".toList = .endpoint "http://h/s.json/" ∧
      Pointer.detect "http://h/s.json/" = some (.remoteJson "http://h/s.json/") ∧
      urlPath "http://h/.json" = "/.json".toList ∧
      Pointer.ofPath "http://h/.json" "/.json".toList = .remoteJson "http://h/.json" ∧
      Pointer.detect "http://h/.json" = some (.endpoint "http://h/.json") := by
  refine ⟨?_, ?_, ?_, ?_, ?_, ?_, ?_, ?_, ?_⟩ <;> decide +kernel

end OperationCheck.Source
