import OperationCheck.Glob.Basic
import OperationCheck.Proofs.Pattern.Words

/-!
The words of globs. A glob accepts a path when the bytes of the path are one of its words. The main
statement bounds the slashes of a word: unless stars cross directories or a bracket accepts the
slash, a word has no more slashes than the glob.
-/

namespace OperationCheck.Glob

open OperationCheck.Pattern

/-- A word of patterns in a row has a word of each of them. -/
inductive DerivesAll : List Pattern → List Char → Prop where
  | nil : DerivesAll [] []
  | cons {pattern : Pattern} {patterns : List Pattern} {front back : List Char}
      (isFront : Derives pattern front) (isBack : DerivesAll patterns back) :
      DerivesAll (pattern :: patterns) (front ++ back)

/-- Patterns in order match words one behind the other. -/
theorem derives_inOrder_iff (patterns : List Pattern) (word : List Char) :
    Derives (inOrder patterns) word ↔ DerivesAll patterns word := by
  induction patterns generalizing word with
  | nil =>
      constructor
      · rintro ⟨⟩
        exact .nil
      · rintro ⟨⟩
        exact .empty
  | cons pattern patterns ih =>
      cases patterns with
      | nil =>
          constructor
          · intro isWord
            change Derives pattern word at isWord
            simpa only [List.append_nil] using DerivesAll.cons isWord .nil
          · rintro (_ | ⟨isFront, ⟨⟩⟩)
            rwa [List.append_nil]
      | cons second rest =>
          constructor
          · rintro ⟨⟩
            next isFront isBack => exact .cons isFront ((ih _).1 isBack)
          · rintro (_ | ⟨isFront, isBack⟩)
            exact .both isFront ((ih _).2 isBack)

/-- A word of two lists of patterns is split into a word of each. -/
theorem derivesAll_append_iff (first second : List Pattern) (word : List Char) :
    DerivesAll (first ++ second) word ↔
      ∃ front back, word = front ++ back ∧ DerivesAll first front ∧ DerivesAll second back := by
  induction first generalizing word with
  | nil =>
      constructor
      · exact fun isWord => ⟨[], word, rfl, .nil, isWord⟩
      · rintro ⟨_, back, rfl, ⟨⟩, isBack⟩
        exact isBack
  | cons pattern first ih =>
      constructor
      · rintro (_ | ⟨isFront, isBack⟩)
        obtain ⟨front, back, rfl, inFirst, inSecond⟩ := (ih _).1 isBack
        exact ⟨_, back, (List.append_assoc _ _ _).symm, .cons isFront inFirst, inSecond⟩
      · rintro ⟨_, back, rfl, _ | ⟨isFront, inFirst⟩, inSecond⟩
        rw [List.append_assoc]
        exact .cons isFront ((ih _).2 ⟨_, back, rfl, inFirst, inSecond⟩)

/-- The tokens of a branch have these words. -/
def Spells (tokens : List Token) (word : List Char) : Prop :=
  DerivesAll (tokenPatterns tokens) word

theorem tokenPatterns_append (first second : List Token) :
    tokenPatterns (first ++ second) = tokenPatterns first ++ tokenPatterns second := by
  induction first with
  | nil => rfl
  | cons token first ih =>
      simp only [List.cons_append, tokenPatterns, ih]
      cases token.pattern? <;> rfl

/-- A word of two lists of tokens is split into a word of each. -/
theorem spells_append_iff (first second : List Token) (word : List Char) :
    Spells (first ++ second) word ↔
      ∃ front back, word = front ++ back ∧ Spells first front ∧ Spells second back := by
  rw [Spells, tokenPatterns_append, derivesAll_append_iff]
  rfl

theorem spells_nil_iff (word : List Char) : Spells [] word ↔ word = [] := by
  constructor
  · rintro ⟨⟩
    rfl
  · rintro rfl
    exact .nil

/-- A token that stands for one pattern has the words of that pattern. -/
theorem spells_singleton_iff {token : Token} {pattern : Pattern}
    (stands : token.pattern? = some pattern) (word : List Char) :
    Spells [token] word ↔ Derives pattern word := by
  simp only [Spells, tokenPatterns, stands]
  exact (derives_inOrder_iff [pattern] word).symm

/-- The set of a byte holds one character. -/
theorem byteSet_contains_iff (byte : Nat) (c : Char) :
    (byteSet byte).contains c = true ↔ c.toNat = byte := by
  simp only [byteSet, CharSet.contains, CharSet.holds, Unicode.within, List.any_cons, List.any_nil,
    Bool.or_false, Bool.and_eq_true, decide_eq_true_eq]
  omega

/-- A character is told by its number. -/
theorem char_eq_of_toNat {first second : Char} (same : first.toNat = second.toNat) :
    first = second :=
  Char.ext (UInt32.toNat_inj.1 same)

/-- No slash is part of a name. -/
theorem nameSet_contains_slash : nameSet.contains '/' = false := by decide

/-- A set of characters has words of one character each. -/
theorem derives_one_iff (set : CharSet) (word : List Char) :
    Derives (.one set) word ↔ ∃ c, set.contains c = true ∧ word = [c] := by
  constructor
  · rintro ⟨⟩
    next c accepted => exact ⟨c, accepted, rfl⟩
  · rintro ⟨c, accepted, rfl⟩
    exact .one accepted

/-- A word of any number of characters has only characters of the set. -/
theorem derives_star_iff (set : CharSet) (word : List Char) :
    Derives (.repeated 0 none (.one set)) word ↔ ∀ c ∈ word, set.contains c = true := by
  constructor
  · intro isWord
    generalize whole : Pattern.repeated 0 none (.one set) = pattern at isWord
    induction isWord with
    | optional _ isFront _ _ ih =>
        obtain ⟨_, rfl, rfl⟩ := Pattern.repeated.inj whole
        obtain ⟨c, accepted, rfl⟩ := (derives_one_iff set _).1 isFront
        exact List.forall_mem_cons.2 ⟨accepted, ih rfl⟩
    | done => exact nofun
    | required => simp at whole
    | empty | one | both | left | right => cases whole
  · intro accepted
    induction word with
    | nil => exact .done
    | cons c word ih =>
        obtain ⟨first, others⟩ := List.forall_mem_cons.1 accepted
        exact @Derives.optional none _ [c] word nofun (.one first) (ih others)

mutual

/-- A token passes a test, or all the tokens of its branches do. -/
def Token.every (test : Token → Bool) : Token → Bool
  | .literal c => test (.literal c)
  | .anyByte => test .anyByte
  | .anyBytes => test .anyBytes
  | .leading => test .leading
  | .between => test .between
  | .trailing => test .trailing
  | .bracket held => test (.bracket held)
  | .branches held => branchesEvery test held

def tokensEvery (test : Token → Bool) : List Token → Bool
  | [] => true
  | token :: tokens => token.every test && tokensEvery test tokens

def branchesEvery (test : Token → Bool) : List (List Token) → Bool
  | [] => true
  | branch :: branches => tokensEvery test branch && branchesEvery test branches

end

/-- Tokens pass a test when those of both lists do. -/
theorem tokensEvery_append (test : Token → Bool) (first second : List Token) :
    tokensEvery test (first ++ second) = (tokensEvery test first && tokensEvery test second) := by
  induction first with
  | nil => rfl
  | cons token first ih => rw [List.cons_append, tokensEvery, tokensEvery, ih, Bool.and_assoc]

/-- Branches pass a test when those of both lists do. -/
theorem branchesEvery_append (test : Token → Bool) (first second : List (List Token)) :
    branchesEvery test (first ++ second) =
      (branchesEvery test first && branchesEvery test second) := by
  induction first with
  | nil => rfl
  | cons branch first ih =>
      rw [List.cons_append, branchesEvery, branchesEvery, ih, Bool.and_assoc]

theorem tokensEvery_reverse (test : Token → Bool) (tokens : List Token) :
    tokensEvery test tokens.reverse = tokensEvery test tokens := by
  induction tokens with
  | nil => rfl
  | cons token tokens ih =>
      rw [List.reverse_cons, tokensEvery_append, ih, tokensEvery, tokensEvery, tokensEvery,
        Bool.and_true, Bool.and_comm]

/-- Stars that cross directories stand for more than a part of one name. -/
def isWithinName : Token → Bool
  | .leading | .between | .trailing => false
  | _ => true

/-- A bracket that does not accept the slash stands for a byte of a name. -/
def refusesSlash : Token → Bool
  | .bracket held => !held.set.contains '/'
  | _ => true

mutual

/-- These are the slashes that a token stands for, counted in all its branches. -/
def Token.slashes : Token → Nat
  | .literal c => if c = '/' then 1 else 0
  | .branches held => branchesSlashes held
  | _ => 0

def tokensSlashes : List Token → Nat
  | [] => 0
  | token :: tokens => token.slashes + tokensSlashes tokens

def branchesSlashes : List (List Token) → Nat
  | [] => 0
  | branch :: branches => tokensSlashes branch + branchesSlashes branches

end

/-- The slashes of two lists of tokens add up. -/
theorem tokensSlashes_append (first second : List Token) :
    tokensSlashes (first ++ second) = tokensSlashes first + tokensSlashes second := by
  induction first with
  | nil => exact (Nat.zero_add _).symm
  | cons token first ih => rw [List.cons_append, tokensSlashes, tokensSlashes, ih, Nat.add_assoc]

/-- The slashes of two lists of branches add up. -/
theorem branchesSlashes_append (first second : List (List Token)) :
    branchesSlashes (first ++ second) = branchesSlashes first + branchesSlashes second := by
  induction first with
  | nil => exact (Nat.zero_add _).symm
  | cons branch first ih =>
      rw [List.cons_append, branchesSlashes, branchesSlashes, ih, Nat.add_assoc]

theorem tokensSlashes_reverse (tokens : List Token) :
    tokensSlashes tokens.reverse = tokensSlashes tokens := by
  induction tokens with
  | nil => rfl
  | cons token tokens ih =>
      rw [List.reverse_cons, tokensSlashes_append, ih, tokensSlashes, tokensSlashes, tokensSlashes,
        Nat.add_zero, Nat.add_comm]

/-- The bytes of a character other than the slash are none of a slash. -/
theorem slash_notMem_bytesOf {c : Char} (other : c ≠ '/') : 47 ∉ bytesOf c := by
  have code : c.val.toNat ≠ 47 := fun same => other (char_eq_of_toNat same)
  intro member
  simp only [bytesOf, String.utf8EncodeChar] at member
  split at member
  · simp only [List.map_cons, List.map_nil, List.mem_singleton, UInt8.toNat_ofNat'] at member
    omega
  · split at member
    · simp only [List.map_cons, List.map_nil, List.mem_cons, List.not_mem_nil, or_false,
        UInt8.toNat_ofNat'] at member
      omega
    · split at member <;>
      · simp only [List.map_cons, List.map_nil, List.mem_cons, List.not_mem_nil, or_false,
          UInt8.toNat_ofNat'] at member
        omega

/-- A word of a literal character has its bytes. -/
theorem derivesAll_bytes {bytes : List Nat} {word : List Char}
    (isWord : DerivesAll (bytes.map fun byte => .one (byteSet byte)) word) :
    word.map Char.toNat = bytes := by
  induction bytes generalizing word with
  | nil =>
      cases isWord
      rfl
  | cons byte bytes ih =>
      cases isWord with
      | cons isFront isBack =>
          obtain ⟨c, accepted, rfl⟩ := (derives_one_iff _ _).1 isFront
          rw [List.singleton_append, List.map_cons, ih isBack, (byteSet_contains_iff byte c).1 accepted]

/-- A literal has as many slashes as its word. -/
theorem count_slash_literal {c : Char} {word : List Char}
    (isWord : Spells [.literal c] word) : word.count '/' ≤ (Token.literal c).slashes := by
  rw [spells_singleton_iff rfl, derives_inOrder_iff] at isWord
  have bytes := derivesAll_bytes isWord
  by_cases same : c = '/'
  · subst same
    have single : word.length = 1 := by
      rw [← List.length_map Char.toNat, bytes]
      decide
    have := List.count_le_length (a := '/') (l := word)
    simpa [Token.slashes, single] using this
  · have absent : '/' ∉ word := fun member =>
      slash_notMem_bytesOf same (bytes ▸ List.mem_map_of_mem member)
    rw [List.count_eq_zero_of_not_mem absent]
    exact Nat.zero_le _

/-- Characters of a set without the slash have no slashes. -/
theorem count_slash_of_name {set : CharSet} (refuses : set.contains '/' = false) {word : List Char}
    (accepted : ∀ c ∈ word, set.contains c = true) : word.count '/' = 0 :=
  List.count_eq_zero_of_not_mem fun member => by
    rw [accepted '/' member] at refuses
    cases refuses

/-- A token that stays within a name, or refuses the slash, has no slash in its words. -/
theorem count_slash_leaf {token : Token} {pattern : Pattern} {word : List Char}
    (stands : token.pattern? = some pattern) (isWord : Derives pattern word)
    (within : isWithinName token = true) (refuses : refusesSlash token = true)
    (noBranches : ∀ held, token ≠ .branches held) : word.count '/' ≤ token.slashes := by
  cases token with
  | literal c => exact count_slash_literal ((spells_singleton_iff stands word).2 isWord)
  | anyByte =>
      obtain rfl := Option.some.inj stands
      obtain ⟨c, accepted, rfl⟩ := (derives_one_iff _ _).1 isWord
      exact Nat.le_of_eq (count_slash_of_name nameSet_contains_slash
        (List.forall_mem_singleton.2 accepted))
  | anyBytes =>
      obtain rfl := Option.some.inj stands
      exact Nat.le_of_eq (count_slash_of_name nameSet_contains_slash
        ((derives_star_iff _ _).1 isWord))
  | bracket held =>
      obtain rfl := Option.some.inj stands
      obtain ⟨c, accepted, rfl⟩ := (derives_one_iff _ _).1 isWord
      exact Nat.le_of_eq (count_slash_of_name (by simpa [refusesSlash] using refuses)
        (List.forall_mem_singleton.2 accepted))
  | leading | between | trailing => cases within
  | branches held => exact absurd rfl (noBranches held)

/-- A word of several patterns is one of them. -/
theorem derives_oneOf {patterns : List Pattern} (some : patterns ≠ []) {word : List Char}
    (isWord : Derives (oneOf patterns) word) : ∃ pattern ∈ patterns, Derives pattern word := by
  induction patterns with
  | nil => exact absurd rfl some
  | cons pattern patterns ih =>
      cases patterns with
      | nil => exact ⟨pattern, List.mem_singleton_self pattern, isWord⟩
      | cons second rest =>
          cases isWord with
          | left isWord => exact ⟨pattern, List.mem_cons_self, isWord⟩
          | right isWord =>
              obtain ⟨found, member, derives⟩ := ih (List.cons_ne_nil _ _) isWord
              exact ⟨found, List.mem_cons_of_mem pattern member, derives⟩

-- The induction follows the tokens. Words are those of the patterns, of which branches without any
-- token have none.
mutual

/-- A word of a token has no more slashes than the token, if it stays within a name. -/
theorem count_slash_token (token : Token) (within : token.every isWithinName = true)
    (refuses : token.every refusesSlash = true) {pattern : Pattern} {word : List Char}
    (stands : token.pattern? = some pattern) (isWord : Derives pattern word) :
    word.count '/' ≤ token.slashes := by
  cases token with
  | branches held =>
      rw [Token.pattern?] at stands
      split at stands
      · cases stands
      · next noneLeft =>
          obtain rfl := Option.some.inj stands
          obtain ⟨pattern, member, derives⟩ := derives_oneOf noneLeft isWord
          exact count_slash_branches held within refuses member derives
  | literal | anyByte | anyBytes | leading | between | trailing | bracket =>
      exact count_slash_leaf stands isWord within refuses nofun

/-- A word of tokens that stay within names has no more slashes than they have. -/
theorem count_slash_tokens (tokens : List Token) (within : tokensEvery isWithinName tokens = true)
    (refuses : tokensEvery refusesSlash tokens = true) {word : List Char}
    (isWord : DerivesAll (tokenPatterns tokens) word) : word.count '/' ≤ tokensSlashes tokens := by
  cases tokens with
  | nil =>
      cases isWord
      exact Nat.le_refl 0
  | cons token tokens =>
      rw [tokensEvery, Bool.and_eq_true] at within refuses
      rw [tokenPatterns] at isWord
      rw [tokensSlashes]
      split at isWord
      · next pattern stands =>
          cases isWord with
          | cons isFront isBack =>
              rw [List.count_append]
              exact Nat.add_le_add (count_slash_token token within.1 refuses.1 stands isFront)
                (count_slash_tokens tokens within.2 refuses.2 isBack)
      · exact Nat.le_add_left_of_le (count_slash_tokens tokens within.2 refuses.2 isWord)

/-- A word of a branch has no more slashes than all the branches. -/
theorem count_slash_branches (branches : List (List Token))
    (within : branchesEvery isWithinName branches = true)
    (refuses : branchesEvery refusesSlash branches = true) {pattern : Pattern}
    (member : pattern ∈ branchPatterns branches) {word : List Char}
    (isWord : Derives pattern word) : word.count '/' ≤ branchesSlashes branches := by
  cases branches with
  | nil => cases member
  | cons branch branches =>
      rw [branchesEvery, Bool.and_eq_true] at within refuses
      rw [branchPatterns] at member
      rw [branchesSlashes]
      split at member
      · exact Nat.le_add_left_of_le
          (count_slash_branches branches within.2 refuses.2 member isWord)
      · rcases List.mem_cons.1 member with rfl | later
        · exact Nat.le_add_right_of_le (count_slash_tokens branch within.1 refuses.1
            ((derives_inOrder_iff _ _).1 isWord))
        · exact Nat.le_add_left_of_le
            (count_slash_branches branches within.2 refuses.2 later isWord)

end

/-- Unless stars cross directories or a bracket accepts the slash, a word has no more slashes than
the tokens have. -/
theorem Spells.count_slash_le {tokens : List Token} {word : List Char} (spells : Spells tokens word)
    (within : tokensEvery isWithinName tokens = true)
    (refuses : tokensEvery refusesSlash tokens = true) : word.count '/' ≤ tokensSlashes tokens :=
  count_slash_tokens tokens within refuses spells

theorem isPlain_inOrder {patterns : List Pattern} (plain : ∀ pattern ∈ patterns, pattern.IsPlain) :
    (inOrder patterns).IsPlain := by
  induction patterns with
  | nil => trivial
  | cons pattern patterns ih =>
      obtain ⟨first, others⟩ := List.forall_mem_cons.1 plain
      cases patterns with
      | nil => exact first
      | cons => exact ⟨first, ih others⟩

theorem isPlain_oneOf {patterns : List Pattern} (plain : ∀ pattern ∈ patterns, pattern.IsPlain) :
    (oneOf patterns).IsPlain := by
  induction patterns with
  | nil => trivial
  | cons pattern patterns ih =>
      obtain ⟨first, others⟩ := List.forall_mem_cons.1 plain
      cases patterns with
      | nil => exact first
      | cons => exact ⟨first, ih others⟩

mutual

/-- The pattern of a token has no assertions. -/
theorem isPlain_token (token : Token) {pattern : Pattern}
    (stands : token.pattern? = some pattern) : pattern.IsPlain := by
  cases token with
  | branches held =>
      rw [Token.pattern?] at stands
      split at stands
      · cases stands
      · obtain rfl := Option.some.inj stands
        exact isPlain_oneOf (isPlain_branches held)
  | literal c =>
      obtain rfl := Option.some.inj stands
      refine isPlain_inOrder fun pattern member => ?_
      obtain ⟨_, _, rfl⟩ := List.mem_map.1 member
      trivial
  | anyByte | anyBytes | leading | between | trailing | bracket =>
      obtain rfl := Option.some.inj stands
      simp only [Pattern.IsPlain, slash, anyText, and_self]

theorem isPlain_tokens (tokens : List Token) : ∀ pattern ∈ tokenPatterns tokens, pattern.IsPlain := by
  cases tokens with
  | nil => nofun
  | cons token tokens =>
      rw [tokenPatterns]
      split
      · next stands =>
          exact List.forall_mem_cons.2 ⟨isPlain_token token stands, isPlain_tokens tokens⟩
      · exact isPlain_tokens tokens

theorem isPlain_branches (branches : List (List Token)) :
    ∀ pattern ∈ branchPatterns branches, pattern.IsPlain := by
  cases branches with
  | nil => nofun
  | cons branch branches =>
      rw [branchPatterns]
      split
      · exact isPlain_branches branches
      · exact List.forall_mem_cons.2
          ⟨isPlain_inOrder (isPlain_tokens branch), isPlain_branches branches⟩

end

/-- A glob other than two stars accepts a path exactly when the bytes of the path are its word. -/
theorem accepts_iff_spells {glob : Glob} (other : glob.tokens ≠ [.leading]) (path : String) :
    glob.accepts path = true ↔ Spells glob.tokens (pathText path) := by
  have body : glob.pattern = .both (.assertion .textStart)
      (.both (inOrder (tokenPatterns glob.tokens)) (.assertion .textEnd)) := by
    unfold Glob.pattern
    split
    · next alone => exact absurd alone other
    · rfl
  rw [Glob.accepts, body, isFound_anchored_iff (isPlain_inOrder (isPlain_tokens _)),
    derives_inOrder_iff]
  rfl

end OperationCheck.Glob
