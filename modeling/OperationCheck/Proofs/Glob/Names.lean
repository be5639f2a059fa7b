import OperationCheck.Proofs.Glob.Pieces

/-!
Globs and the names of a path. The main statement says that a path matches a glob name by name: each
piece of the glob accepts one name, and only two stars stand for any number of names.
-/

namespace OperationCheck.Glob

open OperationCheck.Files OperationCheck.Pattern

/-- The names of a path match the pieces of a pattern one to one, except that two stars stand for
any number of names. -/
inductive MatchesNames : List String → List String → Prop where
  | done : MatchesNames [] []
  | name {piece name : String} {pieces names : List String} {own : Glob}
      (isOwn : parse? piece = some own) (accepted : own.accepts name = true)
      (others : MatchesNames pieces names) : MatchesNames (piece :: pieces) (name :: names)
  | skip {pieces names : List String} (others : MatchesNames pieces names) :
      MatchesNames ("**" :: pieces) names
  | cross {pieces names : List String} (name : String)
      (others : MatchesNames ("**" :: pieces) names) :
      MatchesNames ("**" :: pieces) (name :: names)

/-- Two stars cross any number of names. -/
theorem MatchesNames.crossAll {pieces names : List String}
    (others : MatchesNames ("**" :: pieces) names) (skipped : List String) :
    MatchesNames ("**" :: pieces) (skipped ++ names) := by
  induction skipped with
  | nil => exact others
  | cons name skipped ih => exact .cross name ih

/-- Two stars alone match all names. -/
theorem matchesNames_stars (names : List String) : MatchesNames ["**"] names := by
  have none : MatchesNames ["**"] [] := .skip .done
  simpa only [List.append_nil] using none.crossAll names

/-- A piece that is not two stars accepts the first name. -/
theorem MatchesNames.of_name {piece : String} {pieces names : List String}
    (matched : MatchesNames (piece :: pieces) names) (single : piece ≠ "**") :
    ∃ name others own, names = name :: others ∧ parse? piece = some own ∧
      own.accepts name = true ∧ MatchesNames pieces others := by
  cases matched with
  | name isOwn accepted others => exact ⟨_, _, _, rfl, isOwn, accepted, others⟩
  | skip => exact absurd rfl single
  | cross => exact absurd rfl single

/-- Two stars skip some of the names. -/
theorem MatchesNames.of_stars {pieces names : List String}
    (matched : MatchesNames ("**" :: pieces) names) :
    ∃ skipped rest, names = skipped ++ rest ∧ MatchesNames pieces rest := by
  generalize whole : "**" :: pieces = all at matched
  induction matched with
  | done => cases whole
  | @name piece name _ others _ _ _ rest =>
      obtain ⟨-, rfl⟩ := List.cons.inj whole
      exact ⟨[name], others, rfl, rest⟩
  | skip rest =>
      obtain ⟨-, rfl⟩ := List.cons.inj whole
      exact ⟨[], _, rfl, rest⟩
  | cross name _ ih =>
      obtain ⟨skipped, rest, rfl, others⟩ := ih whole
      exact ⟨name :: skipped, rest, rfl, others⟩

/-- The bytes of two texts stand one behind the other. -/
theorem pathText_append (first second : String) :
    pathText (first ++ second) = pathText first ++ pathText second := by
  rw [pathText, String.toList_append, Text.bytes_append, List.map_append]
  rfl

/-- A byte stands for the character of its number. -/
theorem toNat_ofNat_byte (byte : UInt8) : (Char.ofNat byte.toNat).toNat = byte.toNat := by
  have small : byte.toNat.isValidChar := .inl (Nat.lt_trans byte.toNat_lt (by decide))
  rw [Char.ofNat, dif_pos small]
  rfl

/-- The bytes of a name without a slash are none of a slash. -/
theorem slash_notMem_pathText {name : String} (noSlash : '/' ∉ name.toList) :
    '/' ∉ pathText name := by
  intro member
  obtain ⟨byte, inBytes, same⟩ := List.mem_map.1 member
  obtain ⟨c, inName, inChar⟩ := List.mem_flatMap.1 inBytes
  have code : byte.toNat = 47 := by
    rw [← toNat_ofNat_byte, same]
    rfl
  by_cases isSlash : c = '/'
  · exact noSlash (isSlash ▸ inName)
  · exact slash_notMem_bytesOf isSlash (code ▸ List.mem_map_of_mem inChar)

/-- Each name that follows another one has a slash before it. -/
def behindNames : List String → List Char
  | [] => []
  | name :: names => '/' :: (pathText name ++ behindNames names)

/-- The first name of a path has no slash before it. -/
def aheadNames : List String → List Char
  | [] => []
  | name :: names => pathText name ++ behindNames names

/-- Names joined by slashes are spelled one behind the other. -/
theorem pathText_intercalate (names : List String) :
    pathText ("/".intercalate names) = aheadNames names := by
  induction names with
  | nil => rfl
  | cons name names ih =>
      cases names with
      | nil => rw [String.intercalate_singleton, aheadNames, behindNames, List.append_nil]
      | cons second names =>
          rw [String.intercalate_cons_cons, pathText_append, pathText_append, ih,
            List.append_assoc]
          rfl

/-- Each name has one slash in front of it. -/
theorem count_behindNames {names : List String} (noSlash : ∀ name ∈ names, '/' ∉ name.toList) :
    (behindNames names).count '/' = names.length := by
  induction names with
  | nil => rfl
  | cons name names ih =>
      obtain ⟨first, others⟩ := List.forall_mem_cons.1 noSlash
      rw [behindNames, List.count_cons_self, List.count_append, ih others,
        List.count_eq_zero_of_not_mem (slash_notMem_pathText first), Nat.zero_add,
        List.length_cons]

/-- A path has one slash less than names. -/
theorem count_aheadNames {names : List String} (nonempty : names ≠ [])
    (noSlash : ∀ name ∈ names, '/' ∉ name.toList) :
    (aheadNames names).count '/' + 1 = names.length := by
  cases names with
  | nil => exact absurd rfl nonempty
  | cons name names =>
      obtain ⟨first, others⟩ := List.forall_mem_cons.1 noSlash
      rw [aheadNames, List.count_append, count_behindNames others,
        List.count_eq_zero_of_not_mem (slash_notMem_pathText first), Nat.zero_add,
        List.length_cons]

/-- A text behind another one is empty or begins with a slash. -/
def IsBehind (text : List Char) : Prop := text = [] ∨ ∃ rest, text = '/' :: rest

/-- Names with slashes in front begin with a slash, if there are any. -/
theorem isBehind_behindNames (names : List String) : IsBehind (behindNames names) := by
  cases names with
  | nil => exact .inl rfl
  | cons name names => exact .inr ⟨_, rfl⟩

/-- What is before the first slash of a text is known from the text. -/
theorem append_inj_of_slash {front back otherFront otherBack : List Char}
    (same : front ++ back = otherFront ++ otherBack) (isBehind : IsBehind back)
    (otherBehind : IsBehind otherBack) (noSlash : '/' ∉ front) (otherNoSlash : '/' ∉ otherFront) :
    front = otherFront ∧ back = otherBack := by
  induction front generalizing otherFront with
  | nil =>
      cases otherFront with
      | nil => exact ⟨rfl, same⟩
      | cons c otherFront =>
          rw [List.nil_append, List.cons_append] at same
          rcases isBehind with rfl | ⟨rest, rfl⟩
          · cases same
          · exact absurd ((List.cons.inj same).1 ▸ List.mem_cons_self) otherNoSlash
  | cons c front ih =>
      cases otherFront with
      | nil =>
          rw [List.nil_append, List.cons_append] at same
          rcases otherBehind with rfl | ⟨rest, rfl⟩
          · cases same
          · exact absurd ((List.cons.inj same).1 ▸ List.mem_cons_self) noSlash
      | cons d otherFront =>
          obtain ⟨rfl, rest⟩ := List.cons.inj same
          obtain ⟨rfl, rfl⟩ := ih rest (fun member => noSlash (List.mem_cons_of_mem _ member))
            (fun member => otherNoSlash (List.mem_cons_of_mem _ member))
          exact ⟨rfl, rfl⟩

/-- A slash in a path is before one of its later names. -/
theorem aheadNames_split {names : List String} (noSlash : ∀ name ∈ names, '/' ∉ name.toList)
    {front back : List Char} (split : aheadNames names = front ++ '/' :: back) :
    ∃ skipped rest, names = skipped ++ rest ∧ rest ≠ [] ∧ back = aheadNames rest := by
  induction names generalizing front with
  | nil => cases front <;> cases split
  | cons name names ih =>
      obtain ⟨first, others⟩ := List.forall_mem_cons.1 noSlash
      have later : ∃ middle, behindNames names = middle ++ '/' :: back := by
        rcases List.append_eq_append_iff.1 split with ⟨middle, -, isBack⟩ | ⟨middle, isName, isBack⟩
        · exact ⟨middle, isBack⟩
        · cases middle with
          | nil => exact ⟨[], isBack.symm⟩
          | cons c middle =>
              refine absurd ?_ (slash_notMem_pathText first)
              rw [isName, (List.cons.inj isBack).1]
              exact List.mem_append_right _ List.mem_cons_self
      obtain ⟨middle, isBack⟩ := later
      cases names with
      | nil => cases middle <;> cases isBack
      | cons second names =>
          cases middle with
          | nil =>
              obtain ⟨-, same⟩ := List.cons.inj isBack
              exact ⟨[name], second :: names, rfl, List.cons_ne_nil _ _, same.symm⟩
          | cons c middle =>
              obtain ⟨-, same⟩ := List.cons.inj isBack
              obtain ⟨skipped, rest, isNames, nonempty, isRest⟩ := ih others same
              exact ⟨name :: skipped, rest, congrArg _ isNames, nonempty, isRest⟩

/-- A slash has one word. -/
theorem derives_slash_iff (word : List Char) : Derives slash word ↔ word = ['/'] := by
  rw [slash, derives_one_iff]
  constructor
  · rintro ⟨c, accepted, rfl⟩
    have same : c = '/' := char_eq_of_toNat ((byteSet_contains_iff 47 c).1 accepted)
    rw [same]
  · rintro rfl
    exact ⟨'/', rfl, rfl⟩

theorem spells_slash_iff (word : List Char) : Spells [.literal '/'] word ↔ word = ['/'] := by
  rw [spells_singleton_iff rfl]
  exact derives_slash_iff word

/-- A text with a slash at its end has that slash. -/
theorem derives_text_slash {word : List Char} (isWord : Derives (.both anyText slash) word) :
    ∃ front, word = front ++ ['/'] := by
  cases isWord with
  | both isFront isBack =>
      obtain rfl := (derives_slash_iff _).1 isBack
      exact ⟨_, rfl⟩

theorem derives_never {inner : Pattern} {word : List Char}
    (isWord : Derives (.repeated 0 (some 0) inner) word) : word = [] := by
  cases isWord with
  | done => rfl
  | optional allowed => exact absurd rfl allowed

/-- Two stars at the beginning have the empty word, and words that end with a slash. -/
theorem spells_leading {word : List Char} (isWord : Spells [.leading] word) :
    word = [] ∨ ∃ front, word = front ++ ['/'] := by
  rw [spells_singleton_iff rfl] at isWord
  cases isWord with
  | left isWord =>
      cases isWord with
      | done => exact .inl rfl
      | optional _ isFront isBack =>
          obtain rfl := (derives_slash_iff _).1 isFront
          obtain rfl := derives_never isBack
          exact .inr ⟨[], rfl⟩
  | right isWord => exact .inr (derives_text_slash isWord)

/-- Two stars between pieces begin and end with a slash. -/
theorem spells_between {word : List Char} (isWord : Spells [.between] word) :
    word = ['/'] ∨ ∃ front, word = '/' :: (front ++ ['/']) := by
  rw [spells_singleton_iff rfl] at isWord
  cases isWord with
  | left isWord => exact .inl ((derives_slash_iff _).1 isWord)
  | right isWord =>
      cases isWord with
      | both isFront isBack =>
          obtain rfl := (derives_slash_iff _).1 isFront
          obtain ⟨front, rfl⟩ := derives_text_slash isBack
          exact .inr ⟨front, rfl⟩

/-- What two stars stand for at the end is behind a slash. -/
theorem spells_trailing {word : List Char} (isWord : Spells [.trailing] word) :
    ∃ rest, word = '/' :: rest := by
  rw [spells_singleton_iff rfl] at isWord
  cases isWord with
  | both isFront isBack =>
      obtain rfl := (derives_slash_iff _).1 isFront
      exact ⟨_, rfl⟩

/-- A joint may stand for names between its pieces. -/
def Joint.crosses : Joint → Bool
  | .start | .slash => false
  | .leading | .between => true

/-- What a joint and the pieces behind it match. -/
def Joint.text : Joint → List String → List Char
  | .start | .leading => aheadNames
  | .slash | .between => behindNames

def Joint.pieces (joint : Joint) (pieces : List String) : List String :=
  if joint.crosses then "**" :: pieces else pieces

/-- A joint stands for the names that it skips. -/
theorem Joint.matchesNames {joint : Joint} {pieces names skipped : List String}
    (others : MatchesNames pieces names) (none : joint.crosses = false → skipped = []) :
    MatchesNames (joint.pieces pieces) (skipped ++ names) := by
  rw [Joint.pieces]
  split
  · exact others.skip.crossAll skipped
  · next stays =>
      rw [none (Bool.eq_false_of_not_eq_true stays)]
      exact others

/-- Behind a joint, a path goes on with one of its names. -/
theorem Joint.split {joint : Joint} {tokens : List Token} {names : List String}
    (noSlash : ∀ name ∈ names, '/' ∉ name.toList)
    (nonempty : joint = .start ∨ joint = .leading → names ≠ [])
    (spells : Spells (joint.tokens ++ tokens) (joint.text names)) :
    ∃ skipped rest, names = skipped ++ rest ∧ rest ≠ [] ∧ Spells tokens (aheadNames rest) ∧
      (joint.crosses = false → skipped = []) := by
  cases joint with
  | start => exact ⟨[], names, rfl, nonempty (.inl rfl), spells, fun _ => rfl⟩
  | slash =>
      obtain ⟨front, back, split, isSlash, spells⟩ := (spells_append_iff _ _ _).1 spells
      obtain rfl := (spells_slash_iff _).1 isSlash
      cases names with
      | nil => cases split
      | cons name names =>
          obtain ⟨-, rfl⟩ := List.cons.inj split
          exact ⟨[], name :: names, rfl, List.cons_ne_nil _ _, spells, fun _ => rfl⟩
  | leading =>
      obtain ⟨front, back, split, isLeading, spells⟩ := (spells_append_iff _ _ _).1 spells
      change aheadNames names = _ at split
      rcases spells_leading isLeading with rfl | ⟨front, rfl⟩
      · rw [List.nil_append] at split
        exact ⟨[], names, rfl, nonempty (.inr rfl), split ▸ spells, nofun⟩
      · rw [List.append_assoc] at split
        obtain ⟨skipped, rest, isNames, some, rfl⟩ := aheadNames_split noSlash split
        exact ⟨skipped, rest, isNames, some, spells, nofun⟩
  | between =>
      obtain ⟨front, back, split, isBetween, spells⟩ := (spells_append_iff _ _ _).1 spells
      cases names with
      | nil => rcases spells_between isBetween with rfl | ⟨front, rfl⟩ <;> cases split
      | cons name names =>
          rcases spells_between isBetween with rfl | ⟨front, rfl⟩
          · obtain ⟨-, rfl⟩ := List.cons.inj split
            exact ⟨[], name :: names, rfl, List.cons_ne_nil _ _, spells, nofun⟩
          · have isAhead : aheadNames (name :: names) = front ++ '/' :: back := by
              rw [aheadNames, (List.cons.inj split).2]
              exact List.append_assoc _ _ _
            obtain ⟨skipped, rest, isNames, some, rfl⟩ := aheadNames_split noSlash isAhead
            exact ⟨skipped, rest, isNames, some, spells, nofun⟩

/-- A piece whose words have no slash stands for one name. -/
theorem name_of_split {names : List String} (nonempty : names ≠ [])
    (noSlash : ∀ name ∈ names, '/' ∉ name.toList) {front back : List Char}
    (split : aheadNames names = front ++ back) (isName : '/' ∉ front) (isBehind : IsBehind back) :
    ∃ name others, names = name :: others ∧ front = pathText name ∧ back = behindNames others := by
  cases names with
  | nil => exact absurd rfl nonempty
  | cons name names =>
      obtain ⟨same, rest⟩ := append_inj_of_slash split (isBehind_behindNames names) isBehind
        (slash_notMem_pathText (noSlash name List.mem_cons_self)) isName
      exact ⟨name, names, rfl, same.symm, rest.symm⟩

/-- A word behind a slash begins with it. -/
theorem Joint.isBehind {joint : Joint} (behind : joint = .slash ∨ joint = .between)
    {tokens : List Token} {word : List Char} (spells : Spells (joint.tokens ++ tokens) word) :
    IsBehind word := by
  obtain ⟨front, back, rfl, isJoint, -⟩ := (spells_append_iff _ _ _).1 spells
  rcases behind with rfl | rfl
  · obtain rfl := (spells_slash_iff _).1 isJoint
    exact .inr ⟨_, rfl⟩
  · rcases spells_between isJoint with rfl | ⟨front, rfl⟩ <;> exact .inr ⟨_, rfl⟩

/-- Behind a piece, a glob goes on with a slash. -/
theorem Joined.isBehind {joint : Joint} {pieces : List String} {tokens : List Token}
    (joined : Joined joint pieces tokens) (behind : joint = .slash ∨ joint = .between)
    {word : List Char} (spells : Spells tokens word) : IsBehind word := by
  induction joined with
  | ending => rcases behind with rfl | rfl <;> exact .inr (spells_trailing spells)
  | crossing _ ih =>
      refine ih ?_ spells
      rcases behind with rfl | rfl <;> exact .inr rfl
  | last => exact Joint.isBehind behind spells
  | piece =>
      rw [List.append_assoc] at spells
      exact Joint.isBehind behind spells

/-- Without two stars, there is a slash before each of the pieces that follow another one. -/
theorem Joined.length_le {pieces : List String} {tokens : List Token}
    (joined : Joined .slash pieces tokens) (single : "**" ∉ pieces) {word : List Char}
    (spells : Spells tokens word) : pieces.length ≤ word.count '/' := by
  have begins {tokens : List Token} {word : List Char}
      (spells : Spells (Joint.slash.tokens ++ tokens) word) :
      ∃ rest, Spells tokens rest ∧ word.count '/' = rest.count '/' + 1 := by
    obtain ⟨front, rest, rfl, isSlash, others⟩ := (spells_append_iff _ _ _).1 spells
    obtain rfl := (spells_slash_iff _).1 isSlash
    exact ⟨rest, others, List.count_cons_self⟩
  generalize same : Joint.slash = joint at joined
  induction joined generalizing word with
  | ending => exact absurd List.mem_cons_self single
  | crossing => exact absurd List.mem_cons_self single
  | last =>
      subst same
      obtain ⟨rest, -, count⟩ := begins spells
      rw [count]
      exact Nat.le_add_left _ _
  | piece _ _ _ others ih =>
      subst same
      rw [List.append_assoc] at spells
      obtain ⟨rest, spells, count⟩ := begins spells
      obtain ⟨front, back, rfl, -, spells⟩ := (spells_append_iff _ _ _).1 spells
      have bound := ih (fun member => single (List.mem_cons_of_mem _ member)) spells rfl
      rw [count, List.count_append, List.length_cons]
      omega

/-- A piece is a part of a pattern that no token leaves. -/
def IsPiece (piece : String) : Prop :=
  '/' ∉ piece.toList ∧
    (piece = "**" ∨ ∀ own, parse? piece = some own → tokensEvery isWithinName own.tokens = true)

/-- A glob stands for whole names when its brackets refuse the slash, or when a path has no more
names than the glob has pieces. -/
def WholeNames (joint : Joint) (pieces names : List String) : Prop :=
  (∀ piece ∈ pieces, ∀ own, parse? piece = some own → tokensEvery refusesSlash own.tokens = true) ∨
    (joint.crosses = false ∧ "**" ∉ pieces ∧ names.length ≤ pieces.length)

/-- Where the tokens of a piece refuse the slash, its words have none. -/
theorem slash_notMem_word {piece : String} {own : Glob} (isOwn : parse? piece = some own)
    (noSlash : '/' ∉ piece.toList) (within : tokensEvery isWithinName own.tokens = true)
    (refuses : tokensEvery refusesSlash own.tokens = true) {word : List Char}
    (spells : Spells own.tokens word) : '/' ∉ word := by
  have bound := (spells.count_slash_le within refuses).trans (slashes_le_of_parse isOwn)
  rw [List.count_eq_zero_of_not_mem noSlash] at bound
  exact List.count_eq_zero.1 (Nat.le_zero.1 bound)

/-- A glob that stays within a name accepts the names that it spells. -/
theorem accepts_of_spells {own : Glob} (within : tokensEvery isWithinName own.tokens = true)
    {name : String} (spells : Spells own.tokens (pathText name)) : own.accepts name = true := by
  refine (accepts_iff_spells (fun leads => ?_) name).2 spells
  rw [leads] at within
  cases within

/-- Behind a joint, a piece accepts one name. Its words have no slash when its brackets refuse the
slash, or when the slashes of the path are used up by what is behind it. -/
theorem Joint.name {joint : Joint} {piece : String} {own : Glob} {tokens : List Token}
    {names : List String} (isPiece : IsPiece piece) (isOwn : parse? piece = some own)
    (single : piece ≠ "**") (noSlash : ∀ name ∈ names, '/' ∉ name.toList)
    (nonempty : joint = .start ∨ joint = .leading → names ≠ [])
    (isBehind : ∀ word, Spells tokens word → IsBehind word)
    (whole : tokensEvery refusesSlash own.tokens = true ∨
      ∃ count, joint.crosses = false ∧ names.length ≤ count + 1 ∧
        ∀ word, Spells tokens word → count ≤ word.count '/')
    (spells : Spells (joint.tokens ++ own.tokens ++ tokens) (joint.text names)) :
    ∃ skipped name others, names = skipped ++ name :: others ∧ own.accepts name = true ∧
      Spells tokens (behindNames others) ∧ (joint.crosses = false → skipped = []) := by
  rw [List.append_assoc] at spells
  obtain ⟨skipped, rest, rfl, some, spells, none⟩ := Joint.split noSlash nonempty spells
  have restNoSlash : ∀ name ∈ rest, '/' ∉ name.toList := fun name member =>
    noSlash name (List.mem_append_right _ member)
  obtain ⟨word, back, split, isWord, isBack⟩ := (spells_append_iff _ _ _).1 spells
  have within := isPiece.2.resolve_left single own isOwn
  have isName : '/' ∉ word := by
    rcases whole with refuses | ⟨count, stays, short, uses⟩
    · exact slash_notMem_word isOwn isPiece.1 within refuses isWord
    · rw [none stays, List.nil_append] at short
      have total := count_aheadNames some restNoSlash
      have used := uses back isBack
      rw [split, List.count_append] at total
      exact List.count_eq_zero.1 (by omega)
  obtain ⟨name, others, rfl, rfl, rfl⟩ :=
    name_of_split some restNoSlash split isName (isBehind back isBack)
  exact ⟨skipped, name, others, rfl, accepts_of_spells within isWord, isBack, none⟩

-- The induction follows the pieces. A joint hands the names behind it to the next piece, and two
-- stars take the names that the joint skips.
/-- The words of joined pieces are names that match the pieces. -/
theorem Joined.matchesNames {joint : Joint} {pieces names : List String} {tokens : List Token}
    (joined : Joined joint pieces tokens) (each : ∀ piece ∈ pieces, IsPiece piece)
    (noSlash : ∀ name ∈ names, '/' ∉ name.toList)
    (nonempty : joint = .start ∨ joint = .leading → names ≠ [])
    (whole : WholeNames joint pieces names) (spells : Spells tokens (joint.text names)) :
    MatchesNames (joint.pieces pieces) names := by
  induction joined generalizing names with
  | ending joint =>
      rw [Joint.pieces]
      split
      · exact .skip (matchesNames_stars names)
      · exact matchesNames_stars names
  | @crossing joint pieces tokens others ih =>
      have refuses := whole.resolve_right fun limited => limited.2.1 List.mem_cons_self
      have isPieces := (List.forall_mem_cons.1 each).2
      have isWhole : WholeNames joint.crossing pieces names :=
        .inl (List.forall_mem_cons.1 refuses).2
      cases joint with
      | start => exact ih isPieces noSlash (fun _ => nonempty (.inl rfl)) isWhole spells
      | leading => exact .skip (ih isPieces noSlash (fun _ => nonempty (.inr rfl)) isWhole spells)
      | slash => exact ih isPieces noSlash nofun isWhole spells
      | between => exact .skip (ih isPieces noSlash nofun isWhole spells)
  | @last joint piece own isOwn single =>
      rw [← List.append_nil (joint.tokens ++ own.tokens)] at spells
      obtain ⟨skipped, name, others, rfl, accepted, isBack, none⟩ :=
        Joint.name (each piece List.mem_cons_self) isOwn single noSlash nonempty
          (fun word isWord => .inl ((spells_nil_iff word).1 isWord))
          (whole.imp (fun refuses => refuses piece List.mem_cons_self own isOwn)
            fun limited => ⟨0, limited.1, limited.2.2, fun _ _ => Nat.zero_le _⟩)
          spells
      cases others with
      | nil => exact Joint.matchesNames (.name isOwn accepted .done) none
      | cons => cases (spells_nil_iff _).1 isBack
  | @piece joint piece pieces own tokens isOwn single others ih =>
      obtain ⟨first, isPieces⟩ := List.forall_mem_cons.1 each
      obtain ⟨skipped, name, rest, rfl, accepted, isBack, none⟩ :=
        Joint.name first isOwn single noSlash nonempty
          (fun word isWord => others.isBehind (.inl rfl) isWord)
          (whole.imp (fun refuses => refuses piece List.mem_cons_self own isOwn)
            fun limited => ⟨pieces.length, limited.1, limited.2.2, fun word isWord =>
              others.length_le (fun member => limited.2.1 (List.mem_cons_of_mem _ member)) isWord⟩)
          spells
      refine Joint.matchesNames (.name isOwn accepted (ih isPieces (fun name member =>
        noSlash name (List.mem_append_right _ (List.mem_cons_of_mem _ member))) nofun ?_ isBack))
        none
      refine whole.imp (fun refuses => (List.forall_mem_cons.1 refuses).2) fun limited =>
        ⟨rfl, fun member => limited.2.1 (List.mem_cons_of_mem _ member), ?_⟩
      have short := limited.2.2
      rw [none limited.1, List.nil_append, List.length_cons, List.length_cons] at short
      omega

/-- Something is read of a source that is not empty. -/
theorem Reads.started {reading last : Reading} {source : List Char}
    (reads : Reads reading source last) (nonempty : source ≠ []) :
    ¬(last.outer = [] ∧ last.tokens = []) := by
  induction reads with
  | done => exact absurd rfl nonempty
  | @token _ next last _ _ behind isToken others ih =>
      cases behind with
      | nil =>
          cases others
          exact (step_of_readToken isToken).started
      | cons => exact ih (List.cons_ne_nil _ _)

/-- A piece that is not empty has a token. -/
theorem tokens_ne_nil_of_parse {piece : String} {own : Glob} (isOwn : parse? piece = some own)
    (nonempty : piece ≠ "") : own.tokens ≠ [] := by
  obtain ⟨last, reads, closed, isTokens⟩ := reads_of_parse isOwn
  rw [isTokens]
  exact fun none => reads.started (fun none => nonempty (String.toList_eq_nil_iff.1 none))
    ⟨closed, List.reverse_eq_nil_iff.1 none⟩

/-- The tokens of a piece are not just those of two stars. -/
theorem Joint.ne_leading {joint : Joint} {piece : String} {own : Glob}
    (begins : joint = .start ∨ joint = .leading) (isPiece : IsPiece piece) (nonempty : piece ≠ "")
    (isOwn : parse? piece = some own) (single : piece ≠ "**") (tokens : List Token) :
    joint.tokens ++ own.tokens ++ tokens ≠ [.leading] := by
  have within := isPiece.2.resolve_left single own isOwn
  have ownTokens := tokens_ne_nil_of_parse isOwn nonempty
  intro same
  rcases begins with rfl | rfl
  · cases held : own.tokens with
    | nil => exact ownTokens held
    | cons token rest =>
        rw [held] at within same
        rw [(List.cons.inj same).1] at within
        cases within
  · exact ownTokens (List.append_eq_nil_iff.1 (List.cons.inj same).2).1

/-- A glob whose only token is that of two stars at the beginning has no other pieces. -/
theorem Joined.matchesNames_leading {joint : Joint} {pieces : List String} {tokens : List Token}
    (joined : Joined joint pieces tokens) (leads : tokens = [.leading])
    (begins : joint = .start ∨ joint = .leading)
    (each : ∀ piece ∈ pieces, IsPiece piece ∧ piece ≠ "") (names : List String) :
    MatchesNames pieces names := by
  induction joined with
  | ending => exact matchesNames_stars names
  | crossing _ ih =>
      refine .skip (ih leads ?_ (List.forall_mem_cons.1 each).2)
      rcases begins with rfl | rfl <;> exact .inr rfl
  | last _ isOwn single =>
      obtain ⟨isPiece, nonempty⟩ := each _ List.mem_cons_self
      rw [← List.append_nil (Joint.tokens _ ++ _)] at leads
      exact absurd leads (Joint.ne_leading begins isPiece nonempty isOwn single [])
  | piece _ isOwn single =>
      obtain ⟨isPiece, nonempty⟩ := each _ List.mem_cons_self
      exact absurd leads (Joint.ne_leading begins isPiece nonempty isOwn single _)

/-- A path that a glob accepts matches the pieces of the glob name by name. -/
theorem matchesNames_of_accepts {pattern : String} {glob : Glob} {names : List String}
    (isGlob : parse? pattern = some glob)
    (each : ∀ piece ∈ pieces pattern, piece ≠ "" ∧ (piece = "**" ∨
      ∃ own, parse? piece = some own ∧ tokensEvery isWithinName own.tokens = true))
    (nonempty : names ≠ []) (noSlash : ∀ name ∈ names, '/' ∉ name.toList)
    (whole : WholeNames .start (pieces pattern) names)
    (accepted : glob.accepts ("/".intercalate names) = true) :
    MatchesNames (pieces pattern) names := by
  have joined := joined_of_parse isGlob fun piece member =>
    (each piece member).2.imp_right fun ⟨own, isOwn, _⟩ => ⟨own, isOwn⟩
  have isPieces : ∀ piece ∈ pieces pattern, IsPiece piece := fun piece member =>
    ⟨slash_notMem_piece member, (each piece member).2.imp_right
      fun ⟨_, isOwn, within⟩ _ isOther => Option.some.inj (isOwn.symm.trans isOther) ▸ within⟩
  by_cases leads : glob.tokens = [.leading]
  · exact joined.matchesNames_leading leads (.inl rfl)
      (fun piece member => ⟨isPieces piece member, (each piece member).1⟩) names
  · rw [accepts_iff_spells leads, pathText_intercalate] at accepted
    exact joined.matchesNames isPieces noSlash (fun _ => nonempty) whole accepted

end OperationCheck.Glob
