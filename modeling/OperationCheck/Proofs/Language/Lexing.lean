import OperationCheck.Proofs.Language.Locality

/-!
Cutting texts into tokens. The relation between a text and its tokens holds for texts one behind
the other, and it does not depend on the indentation of the lines.
-/

namespace OperationCheck.Language

/-- A text is indented: blanks stand behind some of its line breaks. -/
inductive Indented : List Char → List Char → Prop
  | nil : Indented [] []
  | char {c text indented} (onLine : c ≠ '\n') (others : Indented text indented) :
      Indented (c :: text) (c :: indented)
  | line {text indented} (blanks : Nat) (others : Indented text indented) :
      Indented ('\n' :: text) ('\n' :: (List.replicate blanks ' ' ++ indented))

theorem Indented.refl (text : List Char) : Indented text text := by
  induction text with
  | nil => exact .nil
  | cons c text ih =>
      by_cases isBreak : c = '\n'
      · subst isBreak
        exact .line 0 ih
      · exact .char isBreak ih

/-- Indentation leaves the first character as it is. -/
theorem Indented.head? {text indented : List Char} (same : Indented text indented) :
    indented.head? = text.head? := by
  cases same <;> rfl

/-- Indentation makes a text no shorter. -/
theorem Indented.length_le {text indented : List Char} (same : Indented text indented) :
    text.length ≤ indented.length := by
  induction same with
  | nil => exact le_rfl
  | char _ _ ih => exact Nat.succ_le_succ ih
  | line blanks _ ih =>
      simp only [List.length_cons, List.length_append]
      omega

/-- A text on one line has no place for blanks. -/
theorem Indented.eq_of_onLine {text indented : List Char} (same : Indented text indented)
    (onLine : '\n' ∉ text) : indented = text := by
  induction same with
  | nil => rfl
  | char _ _ ih => rw [ih fun member => onLine (List.mem_cons_of_mem _ member)]
  | line => exact absurd List.mem_cons_self onLine

/-- A character that ends no line stays in front of what is behind it. -/
theorem Indented.of_cons {c : Char} {text indented : List Char}
    (same : Indented (c :: text) indented) (onLine : c ≠ '\n') :
    ∃ others, indented = c :: others ∧ Indented text others := by
  cases same with
  | char _ others => exact ⟨_, rfl, others⟩
  | line => exact absurd rfl onLine

/-- Two texts one behind the other are indented each on its own. -/
theorem Indented.of_append {first second indented : List Char}
    (same : Indented (first ++ second) indented) :
    ∃ before behind, indented = before ++ behind ∧ Indented first before ∧
      Indented second behind := by
  induction first generalizing indented with
  | nil => exact ⟨[], indented, rfl, .nil, same⟩
  | cons c first ih =>
      cases same with
      | char onLine others =>
          obtain ⟨before, behind, rfl, isBefore, isBehind⟩ := ih others
          exact ⟨c :: before, behind, rfl, .char onLine isBefore, isBehind⟩
      | line blanks others =>
          obtain ⟨before, behind, rfl, isBefore, isBehind⟩ := ih others
          exact ⟨'\n' :: (List.replicate blanks ' ' ++ before), behind, by simp,
            .line blanks isBefore, isBehind⟩

/-- This function reads a block one character at a time. A number of quotes behind a backslash are
free, and others count up to the three that close the block. -/
def blockFrom (free seen length : Nat) : List Char → Piece
  | [] => ⟨.fault .unfinishedString, length⟩
  | c :: rest =>
      if c = '"' then
        if 0 < free then blockFrom (free - 1) 0 (length + 1) rest
        else if seen = 2 then ⟨.token .text, length + 1⟩
        else blockFrom 0 (seen + 1) (length + 1) rest
      else blockFrom (if c = '\\' then 3 else 0) 0 (length + 1) rest

/-- Quotes that do not come make no difference. -/
theorem blockFrom_reset (free seen length : Nat) {source : List Char}
    (others : source.head? ≠ some '"') :
    blockFrom free seen length source = blockFrom 0 0 length source := by
  cases source with
  | nil => rfl
  | cons c rest =>
      have noQuote : c ≠ '"' := fun isQuote => others (congrArg some isQuote)
      rw [blockFrom, blockFrom, if_neg noQuote, if_neg noQuote]

theorem noQuote_of_others {source : List Char} (others : ∀ behind, source ≠ '"' :: behind) :
    source.head? ≠ some '"' :=
  fun isQuote => (List.head?_eq_some_iff.1 isQuote).elim others

/-- A single quote does not count when no two others stand behind it. -/
theorem blockFrom_single (length : Nat) {rest : List Char}
    (others : ∀ behind, rest ≠ '"' :: '"' :: behind) :
    blockFrom 0 1 length rest = blockFrom 0 0 length rest := by
  by_cases again : rest.head? = some '"'
  · obtain ⟨behind, rfl⟩ := List.head?_eq_some_iff.1 again
    have noQuote : behind.head? ≠ some '"' :=
      noQuote_of_others fun _ same => others _ (congrArg _ same)
    rw [blockFrom, blockFrom, if_pos rfl, if_pos rfl, if_neg (by decide), if_neg (by decide),
      if_neg (by decide), if_neg (by decide), blockFrom_reset 0 _ _ noQuote,
      blockFrom_reset 0 (0 + 1) _ noQuote]
  · exact blockFrom_reset 0 _ _ again

/-- A block begins with no quotes that are free or seen. -/
theorem blockPiece_eq (length : Nat) (source : List Char) :
    blockPiece length source = blockFrom 0 0 length source := by
  fun_induction blockPiece length source with
  | case1 => rfl
  | case2 => rfl
  | case3 length rest ih =>
      rw [ih]
      rfl
  | case4 length rest others ih =>
      rw [ih]
      exact (blockFrom_reset 1 0 _ (noQuote_of_others others)).symm
  | case5 length rest notThree notTwo ih =>
      rw [ih]
      exact (blockFrom_reset 2 0 _ (noQuote_of_others notTwo)).symm
  | case6 length c rest noEnd three two one ih =>
      rw [ih, blockFrom]
      split
      · next isQuote =>
          rw [if_neg (Nat.lt_irrefl 0), if_neg (by decide)]
          exact (blockFrom_single _ fun behind => noEnd behind isQuote).symm
      · split
        · next isBackslash =>
            have noQuote := noQuote_of_others fun behind => one behind isBackslash
            exact (blockFrom_reset 3 0 _ noQuote).symm
        · rfl

/-- Blanks only make a block longer. -/
theorem blockFrom_blanks (length blanks : Nat) (source : List Char) :
    blockFrom 0 0 length (List.replicate blanks ' ' ++ source) =
      blockFrom 0 0 (length + blanks) source := by
  induction blanks generalizing length with
  | zero => rfl
  | succ blanks ih =>
      rw [List.replicate_succ, List.cons_append, blockFrom, if_neg (by decide), if_neg (by decide),
        ih, Nat.add_right_comm, Nat.add_assoc]

/-- The token of a block ends behind what was read of it. -/
theorem length_lt_of_blockFrom {free seen length : Nat} {source : List Char} {kind : TokenKind}
    {count : Nat} (found : blockFrom free seen length source = ⟨.token kind, count⟩) :
    length < count := by
  fun_induction blockFrom free seen length source
  all_goals grind

/-- A block ends with its quotes, whatever comes behind and however its lines are indented. -/
theorem blockFrom_indented {free seen length : Nat} {tail rest : List Char} {kind : TokenKind}
    (found : blockFrom free seen length (tail ++ rest) = ⟨.token kind, length + tail.length⟩)
    {indented : List Char} (same : Indented tail indented) (before : Nat) (other : List Char) :
    blockFrom free seen before (indented ++ other) = ⟨.token kind, before + indented.length⟩ := by
  -- Blanks come in behind line breaks only, so that quotes in a row stay together.
  induction same generalizing free seen length before with
  | nil => exact absurd (length_lt_of_blockFrom found) (Nat.lt_irrefl length)
  | @char c tail indented onLine others ih =>
      rw [List.cons_append, length_behind, blockFrom] at found ⊢
      split
      · next isQuote =>
          rw [if_pos isQuote] at found
          split
          · next isFree =>
              rw [if_pos isFree] at found
              exact ih found (before + 1)
          · next notFree =>
              rw [if_neg notFree] at found
              split
              · next closes =>
                  rw [if_pos closes] at found
                  obtain ⟨isKind, ends⟩ := Piece.mk.inj found
                  have noTail : tail = [] := List.eq_nil_of_length_eq_zero (by omega)
                  subst noTail
                  cases others
                  rw [isKind]
                  rfl
              · next stays =>
                  rw [if_neg stays] at found
                  exact ih found (before + 1)
      · next noQuote =>
          rw [if_neg noQuote] at found
          exact ih found (before + 1)
  | line blanks others ih =>
      rw [List.cons_append, length_behind, blockFrom, if_neg (by decide), if_neg (by decide)]
        at found
      rw [List.cons_append, blockFrom, if_neg (by decide), if_neg (by decide), List.append_assoc,
        blockFrom_blanks, ih found, List.length_cons, List.length_append, List.length_replicate]
      congr 1
      omega

/-- A token that is found behind its first character is found again where its lines are indented and
the text behind it goes on alike. Only strings go over several lines. -/
structure IsSteady (find : List Char → Piece) : Prop where
  again : ∀ {tail rest indented other kind}, Indented tail indented → GoesOn rest other →
    find (tail ++ rest) = ⟨.token kind, 1 + tail.length⟩ →
    find (indented ++ other) = ⟨.token kind, 1 + indented.length⟩
  onLine : ∀ {tail rest kind}, find (tail ++ rest) = ⟨.token kind, 1 + tail.length⟩ →
    kind ≠ .text → '\n' ∉ tail

/-- A choice between two steady functions is steady when it does not depend on the text. -/
theorem isSteady_ite (p : Prop) [Decidable p] {first second : List Char → Piece}
    (isFirst : IsSteady first) (isSecond : IsSteady second) :
    IsSteady fun rest => if p then first rest else second rest := by
  by_cases holds : p
  · simpa only [if_pos holds] using isFirst
  · simpa only [if_neg holds] using isSecond

/-- What is local is steady behind the first character of a token. -/
theorem IsLocal.isSteady {find : Nat → List Char → Piece} (isLocal : IsLocal find) :
    IsSteady (find 1) where
  again same goesOn found := by
    rw [same.eq_of_onLine (isLocal.unbroken found)]
    exact isLocal.goesOn goesOn found
  onLine found _ := isLocal.unbroken found

theorem isSteady_nothing (length : List Char → Nat) :
    IsSteady fun rest => ⟨.nothing, length rest⟩ where
  again _ _ found := by cases found
  onLine found := by cases found

/-- A function that finds tokens on one line only. -/
theorem IsSteady.of_onLine {find : List Char → Piece}
    (onLine : ∀ {tail rest kind}, find (tail ++ rest) = ⟨.token kind, 1 + tail.length⟩ →
      '\n' ∉ tail)
    (again : ∀ {tail rest other kind}, GoesOn rest other →
      find (tail ++ rest) = ⟨.token kind, 1 + tail.length⟩ →
      find (tail ++ other) = ⟨.token kind, 1 + tail.length⟩) : IsSteady find where
  again same goesOn found := by
    rw [same.eq_of_onLine (onLine found)]
    exact again goesOn found
  onLine found _ := onLine found

/-- A token of one character does not depend on what is behind it. -/
theorem isSteady_single (kind : TokenKind) : IsSteady fun _ => ⟨.token kind, 1⟩ := by
  refine .of_onLine (fun {tail rest found} isFound => ?_) fun _ found => found
  have ends := congrArg Piece.length isFound
  have noTail : tail = [] := List.eq_nil_of_length_eq_zero (by simp only at ends; omega)
  rw [noTail]
  exact List.not_mem_nil

/-- Characters that are taken are told by their number. -/
theorem takeWhile_eq_of_length {p : Char → Bool} {tail rest : List Char}
    (count : ((tail ++ rest).takeWhile p).length = tail.length) :
    (tail ++ rest).takeWhile p = tail :=
  (List.prefix_of_prefix_length_le (List.takeWhile_prefix _) (List.prefix_append tail rest)
    count.le).eq_of_length count

/-- A name is read to its end, whatever is behind it. -/
theorem isSteady_name :
    IsSteady fun rest => ⟨.token .name, 1 + (rest.takeWhile isNamePart).length⟩ := by
  refine .of_onLine (fun {tail rest kind} found => ?_) fun {tail rest other kind} goesOn found => ?_
  · have count := Nat.add_left_cancel (congrArg Piece.length found)
    intro member
    rw [← takeWhile_eq_of_length count] at member
    exact absurd (List.mem_takeWhile_imp member) (by decide)
  · have count := Nat.add_left_cancel (congrArg Piece.length found)
    rw [takeWhile_goesOn (fun c joint => (plain_of_isJoint joint).1) goesOn count.le]
    exact found

/-- Only two further dots make a token with the first one. -/
theorem dotPiece_tail {tail rest : List Char} {kind : TokenKind}
    (found : dotPiece (tail ++ rest) = ⟨.token kind, 1 + tail.length⟩) :
    tail = ['.', '.'] ∧ kind = .spread := by
  unfold dotPiece at found
  split at found
  · next others isSource =>
      obtain ⟨isKind, ends⟩ := Piece.mk.inj found
      rcases tail with _ | ⟨a, _ | ⟨b, _ | ⟨c, tail⟩⟩⟩
      all_goals simp at isSource ends isKind
      all_goals try omega
      obtain ⟨rfl, rfl, -⟩ := isSource
      exact ⟨rfl, isKind.symm⟩
  · cases found
  · cases found

theorem isSteady_dotPiece : IsSteady dotPiece := by
  refine .of_onLine (fun found => ?_) fun _ found => ?_
  · rw [(dotPiece_tail found).1]
    decide
  · obtain ⟨rfl, rfl⟩ := dotPiece_tail found
    rfl

/-- Two quotes without a third one are an empty text. -/
theorem quotePiece_empty {rest : List Char} (noQuote : rest.head? ≠ some '"') :
    quotePiece ('"' :: rest) = ⟨.token .text, 2⟩ := by
  cases rest with
  | nil => rfl
  | cons c rest =>
      unfold quotePiece
      split
      all_goals simp_all

/-- One quote begins a text on a line. -/
theorem quotePiece_string {c : Char} (noQuote : c ≠ '"') (rest : List Char) :
    quotePiece (c :: rest) = stringPiece .plain false none 1 (c :: rest) := by
  unfold quotePiece
  split
  all_goals simp_all

/-- A text has two quotes at least. -/
theorem two_le_of_quotePiece {source : List Char} {kind : TokenKind} {count : Nat}
    (found : quotePiece source = ⟨.token kind, count⟩) : 2 ≤ count := by
  unfold quotePiece at found
  split at found
  · cases found
  · cases found
    exact le_rfl
  · have := length_lt_of_blockPiece found
    omega
  · cases found
    exact le_rfl
  · exact length_lt_of_stringPiece found

theorem stringPiece_kind {mode : StringMode} {second : Bool} {fault : Option SyntaxFault}
    {length : Nat} {source : List Char} {kind : TokenKind} {count : Nat}
    (found : stringPiece mode second fault length source = ⟨.token kind, count⟩) :
    kind = .text := by
  fun_induction stringPiece mode second fault length source
  all_goals grind

theorem blockPiece_kind {length : Nat} {source : List Char} {kind : TokenKind} {count : Nat}
    (found : blockPiece length source = ⟨.token kind, count⟩) : kind = .text := by
  fun_induction blockPiece length source
  all_goals grind

theorem quotePiece_kind {source : List Char} {kind : TokenKind} {count : Nat}
    (found : quotePiece source = ⟨.token kind, count⟩) : kind = .text := by
  unfold quotePiece at found
  split at found
  · cases found
  · cases found
    rfl
  · exact blockPiece_kind found
  · cases found
    rfl
  · exact stringPiece_kind found

/-- Two quotes are an empty text when no third one is behind them. -/
theorem quotePiece_pair {rest other : List Char} {kind : TokenKind} (goesOn : GoesOn rest other)
    (found : quotePiece ('"' :: rest) = ⟨.token kind, 2⟩) :
    quotePiece ('"' :: other) = ⟨.token kind, 2⟩ := by
  have noQuote : rest.head? ≠ some '"' := by
    refine noQuote_of_others fun behind isBlock => ?_
    subst isBlock
    have := length_lt_of_blockPiece (show blockPiece 3 behind = _ from found)
    simp at this
  have others : other.head? ≠ some '"' := by
    rcases goesOn with alike | ⟨-, apart⟩
    · rwa [alike]
    · intro isQuote
      exact absurd (apart _ isQuote) (by decide)
  rw [quotePiece_empty noQuote] at found
  rw [quotePiece_empty others, found]

/-- Three quotes open a block, which does not depend on the indentation of its lines. -/
theorem quotePiece_block {tail rest indented other : List Char} {kind : TokenKind}
    (same : Indented tail indented)
    (found : quotePiece ('"' :: '"' :: (tail ++ rest)) = ⟨.token kind, 3 + tail.length⟩) :
    quotePiece ('"' :: '"' :: (indented ++ other)) = ⟨.token kind, 3 + indented.length⟩ := by
  have isBlock : blockPiece 3 (tail ++ rest) = ⟨.token kind, 3 + tail.length⟩ := found
  rw [blockPiece_eq] at isBlock
  exact (blockPiece_eq 3 (indented ++ other)).trans (blockFrom_indented isBlock same 3 other)

/-- An indented text gives the same token with the blanks in its length. -/
theorem quotePiece_again {tail rest indented other : List Char} {kind : TokenKind}
    (same : Indented tail indented) (goesOn : GoesOn rest other)
    (found : quotePiece (tail ++ rest) = ⟨.token kind, 1 + tail.length⟩) :
    quotePiece (indented ++ other) = ⟨.token kind, 1 + indented.length⟩ := by
  rcases tail with _ | ⟨c, tail⟩
  · exact absurd (two_le_of_quotePiece found) (by decide)
  by_cases isQuote : c = '"'
  · subst isQuote
    obtain ⟨inner, rfl, sameInner⟩ := same.of_cons (by decide)
    rcases tail with _ | ⟨d, tail⟩
    · cases sameInner
      exact quotePiece_pair goesOn found
    · by_cases again : d = '"'
      · subst again
        obtain ⟨inner, rfl, sameBlock⟩ := sameInner.of_cons (by decide)
        have three (text : List Char) : 1 + ('"' :: '"' :: text).length = 3 + text.length := by
          simp only [List.length_cons]
          omega
        rw [three] at found ⊢
        exact quotePiece_block sameBlock found
      · have noQuote : ((d :: tail) ++ rest).head? ≠ some '"' := by simpa using again
        rw [List.cons_append, quotePiece_empty noQuote] at found
        have := congrArg Piece.length found
        simp at this
        omega
  · rw [List.cons_append, quotePiece_string isQuote] at found
    have isLocal := isLocal_stringPiece .plain false none
    have onLine : '\n' ∉ c :: tail := isLocal.unbroken found
    rw [same.eq_of_onLine onLine, List.cons_append, quotePiece_string isQuote]
    rw [← List.cons_append] at found ⊢
    exact isLocal.goesOn goesOn found

/-- A text in quotes is read to its end, whatever is behind it. -/
theorem isSteady_quotePiece : IsSteady quotePiece where
  again := quotePiece_again
  onLine found isOther := absurd (quotePiece_kind found) isOther

/-- Every token is read to its end, whatever is behind it. -/
theorem isSteady_pieceOf (c : Char) : IsSteady (pieceOf c) :=
  isSteady_ite _ (isSteady_nothing _) <| isSteady_ite _ (isSteady_nothing _) <|
    isSteady_ite _ (isSteady_single _) <| isSteady_ite _ isSteady_name <|
    isSteady_ite _ (isLocal_digitsPiece c).isSteady <| isSteady_ite _ isLocal_minus.isSteady <|
    isSteady_ite _ isSteady_dotPiece <| isSteady_ite _ isSteady_quotePiece
      (isLocal_fault _).isSteady

/-- What a reader sees of a token. Only names are told apart by their text. -/
inductive Sign where
  | mark (c : Char)
  | spread
  | name (text : String)
  | text
  | number
  | stop
deriving Repr, DecidableEq

def signOf (kind : TokenKind) (text : String) : Sign :=
  match kind with
  | .mark c => .mark c
  | .spread => .spread
  | .name => .name text
  | .text => .text
  | .int | .float => .number
  | .stop => .stop

def Token.sign (token : Token) : Sign := signOf token.kind token.text

/-- A text is cut into tokens with these signs, and there is no fault in it. -/
inductive Lexes : List Char → List Sign → Prop
  | nil : Lexes [] []
  | separator {c rest signs} (separates : isSeparator c = true) (others : Lexes rest signs) :
      Lexes (c :: rest) signs
  | comment {line rest signs} (onLine : ∀ c ∈ line, isLineBreak c = false)
      (ends : rest.head?.any isLineBreak = true) (others : Lexes rest signs) :
      Lexes ('#' :: (line ++ rest)) signs
  | token {c tail rest kind signs}
      (found : pieceOf c (tail ++ rest) = ⟨.token kind, 1 + tail.length⟩)
      (others : Lexes rest signs) :
      Lexes (c :: (tail ++ rest)) (signOf kind (String.ofList (c :: tail)) :: signs)

/-- Texts that stand apart are cut one behind the other. -/
theorem Lexes.append {first second : List Char} {signs others : List Sign}
    (isFirst : Lexes first signs) (isSecond : Lexes second others) (apart : Apart second) :
    Lexes (first ++ second) (signs ++ others) := by
  induction isFirst with
  | nil => exact isSecond
  | separator separates _ ih => exact .separator separates ih
  | @comment line rest signs onLine ends _ ih =>
      rw [List.cons_append, List.append_assoc]
      refine .comment onLine ?_ ih
      cases rest with
      | nil => cases ends
      | cons c rest => exact ends
  | @token c tail rest kind signs found _ ih =>
      rw [List.cons_append, List.append_assoc, List.cons_append]
      refine .token ((isSteady_pieceOf c).again (Indented.refl tail) ?_ found) ih
      cases rest with
      | nil => exact .inr ⟨rfl, apart⟩
      | cons d rest => exact .inl rfl

/-- Blanks in front of a text give no token. -/
theorem Lexes.blanks {text : List Char} {signs : List Sign} (lexes : Lexes text signs)
    (count : Nat) : Lexes (List.replicate count ' ' ++ text) signs := by
  induction count with
  | zero => exact lexes
  | succ count ih => exact .separator (by decide) ih

/-- The indentation of a text makes no difference to its tokens. -/
theorem Lexes.indented {text indented : List Char} {signs : List Sign} (lexes : Lexes text signs)
    (same : Indented text indented) : Lexes indented signs := by
  induction lexes generalizing indented with
  | nil =>
      cases same
      exact .nil
  | separator separates _ ih =>
      cases same with
      | char _ others => exact .separator separates (ih others)
      | line blanks others => exact .separator separates ((ih others).blanks blanks)
  | comment onLine ends _ ih =>
      obtain ⟨inner, rfl, sameInner⟩ := same.of_cons (by decide)
      obtain ⟨before, behind, rfl, sameLine, sameRest⟩ := sameInner.of_append
      rw [sameLine.eq_of_onLine fun member => absurd (onLine _ member) (by decide)]
      exact .comment onLine (sameRest.head? ▸ ends) (ih sameRest)
  | @token c tail rest kind signs found _ ih =>
      by_cases onLine : c = '\n'
      · subst onLine
        cases found
      · obtain ⟨inner, rfl, sameInner⟩ := same.of_cons onLine
        obtain ⟨before, behind, rfl, sameTail, sameRest⟩ := sameInner.of_append
        have again := (isSteady_pieceOf c).again sameTail (.inl sameRest.head?) found
        have sign : signOf kind (String.ofList (c :: tail))
            = signOf kind (String.ofList (c :: before)) := by
          cases kind with
          | name => rw [sameTail.eq_of_onLine ((isSteady_pieceOf c).onLine found (by decide))]
          | _ => rfl
        rw [sign]
        exact .token again (ih sameRest)

/-- The tokens of a text end with the one that stands for its end. -/
theorem Lexes.cut {text : List Char} {signs : List Sign} (lexes : Lexes text signs)
    (place : Nat) :
    ∃ tokens : List Token, tokens.map Token.sign = signs ++ [.stop] ∧
      cut place text = tokens.map .inl := by
  induction lexes generalizing place with
  | nil => exact ⟨[stopToken place], rfl, by rw [Language.cut]; rfl⟩
  | @separator c rest signs separates _ ih =>
      obtain ⟨tokens, isSigns, isCut⟩ := ih (place + byteLength [c])
      have piece : pieceOf c rest = ⟨.nothing, 1⟩ := by rw [pieceOf, if_pos separates]
      refine ⟨tokens, isSigns, ?_⟩
      rw [Language.cut, piece]
      exact isCut
  | @comment line rest signs onLine ends _ ih =>
      have isLine : (line ++ rest).takeWhile (fun c => !isLineBreak c) = line := by
        rw [List.takeWhile_append_of_pos fun c member => by simp [onLine c member]]
        cases rest with
        | nil => cases ends
        | cons c rest => simp [show isLineBreak c = true from ends]
      have piece : pieceOf '#' (line ++ rest) = ⟨.nothing, 1 + line.length⟩ := by
        rw [pieceOf, if_neg (by decide), if_pos rfl, isLine]
      obtain ⟨tokens, isSigns, isCut⟩ := ih (place + byteLength ('#' :: line))
      refine ⟨tokens, isSigns, ?_⟩
      rw [Language.cut, piece]
      simp only [Nat.add_sub_cancel_left, List.take_left, List.drop_left]
      exact isCut
  | @token c tail rest kind signs found _ ih =>
      obtain ⟨tokens, isSigns, isCut⟩ := ih (place + byteLength (c :: tail))
      refine ⟨⟨kind, String.ofList (c :: tail), place⟩ :: tokens, ?_, ?_⟩
      · rw [List.map_cons, isSigns]
        rfl
      · rw [Language.cut, found]
        simp only [Nat.add_sub_cancel_left, List.take_left, List.drop_left, isCut, List.map_cons]

/-- A text whose signs are known has these tokens and no faults. -/
theorem Lexes.tokens {text : List Char} {signs : List Sign} (lexes : Lexes text signs) :
    (tokens text).map Token.sign = signs ++ [.stop] ∧ tokenFaults text = [] := by
  obtain ⟨tokens, isSigns, isCut⟩ := lexes.cut 0
  rw [Language.tokens, tokenFaults, isCut, List.filterMap_map, List.filterMap_map]
  refine ⟨?_, ?_⟩
  · rw [← isSigns]
    exact congrArg (List.map Token.sign) List.filterMap_some
  · exact List.filterMap_eq_nil_iff.2 fun _ _ => rfl

/-- A text that has these tokens whatever comes behind it. -/
structure Closes (text : List Char) (signs : List Sign) : Prop where
  before : ∀ {rest : List Char} {others : List Sign}, Lexes rest others →
    Lexes (text ++ rest) (signs ++ others)

namespace Closes

variable {first second : List Char} {signs others : List Sign}

theorem nil : Closes [] [] := ⟨id⟩

theorem lexes (closes : Closes first signs) : Lexes first signs := by
  have whole := closes.before .nil
  rwa [List.append_nil, List.append_nil] at whole

/-- Texts that close do so one behind the other. -/
theorem append (isFirst : Closes first signs) (isSecond : Closes second others) :
    Closes (first ++ second) (signs ++ others) where
  before lexes := by
    rw [List.append_assoc, List.append_assoc]
    exact isFirst.before (isSecond.before lexes)

/-- A separator closes, and it gives no token. -/
theorem separator {c : Char} (separates : isSeparator c = true) : Closes [c] [] :=
  ⟨fun lexes => .separator separates lexes⟩

theorem mark {c : Char} (isMark : marks.contains c = true) : Closes [c] [.mark c] where
  before {rest others} lexes := by
    have noSeparator : isSeparator c = false ∧ c ≠ '#' := by
      have plain := List.all_eq_true.1
        (by decide : (marks.all fun c => !isSeparator c && c != '#') = true) c
        (List.contains_iff_mem.1 isMark)
      simpa only [Bool.and_eq_true, Bool.not_eq_true', bne_iff_ne] using plain
    have found : pieceOf c ([] ++ rest) = ⟨.token (.mark c), 1 + ([] : List Char).length⟩ := by
      rw [pieceOf, if_neg (Bool.eq_false_iff.1 noSeparator.1), if_neg noSeparator.2,
        if_pos isMark]
      rfl
    exact .token found lexes

end Closes

/-- A text is closed by another one that stands apart from it. -/
theorem Lexes.closes {first second : List Char} {signs others : List Sign}
    (isFirst : Lexes first signs) (isSecond : Closes second others) (apart : Apart second)
    (nonempty : second ≠ []) : Closes (first ++ second) (signs ++ others) where
  before lexes := by
    rw [List.append_assoc, List.append_assoc]
    refine isFirst.append (isSecond.before lexes) ?_
    cases second with
    | nil => exact absurd rfl nonempty
    | cons c second => exact .cons (apart c rfl) _

/-- Separators and marks are cut alone. -/
theorem closes_joints (text : List Char) (joints : text.all isJoint = true) :
    Closes text ((text.filter marks.contains).map .mark) := by
  induction text with
  | nil => exact .nil
  | cons c text ih =>
      rw [List.all_cons, Bool.and_eq_true] at joints
      rw [List.filter_cons]
      split
      · next isMark => exact (Closes.mark isMark).append (ih joints.2)
      · next noMark =>
          have separates : isSeparator c = true := by
            have joint := joints.1
            rw [isJoint, Bool.or_eq_true] at joint
            exact joint.resolve_right noMark
          exact (Closes.separator separates).append (ih joints.2)

/-- Joints stand apart from what is in front of them. -/
theorem apart_joints {text : List Char} (joints : text.all isJoint = true) : Apart text := by
  cases text with
  | nil => exact apart_nil
  | cons c text => exact .cons (List.all_eq_true.1 joints c List.mem_cons_self) _

/-- A name has letters, digits and underscores, and it does not begin with a digit. -/
def IsName (name : String) : Prop :=
  name.toList.head?.any isNameStart = true ∧ name.toList.all isNamePart = true

instance (name : String) : Decidable (IsName name) := inferInstanceAs (Decidable (_ ∧ _))

/-- A name is one token. -/
theorem IsName.lexes {name : String} (isName : IsName name) :
    Lexes name.toList [.name name] := by
  obtain ⟨starts, parts⟩ := isName
  cases isText : name.toList with
  | nil =>
      rw [isText] at starts
      cases starts
  | cons c tail =>
      rw [isText] at starts parts
      have starts : isNameStart c = true := starts
      have parts : tail.takeWhile isNamePart = tail :=
        List.takeWhile_eq_self_iff.2 fun d member =>
          List.all_eq_true.1 parts d (List.mem_cons_of_mem _ member)
      have noJoint : isJoint c = false := by
        by_contra joint
        have plain := plain_of_isJoint (Bool.of_not_eq_false joint)
        exact absurd (plain.2.1.symm.trans starts) (by decide)
      have noComment : c ≠ '#' := by
        rintro rfl
        exact absurd starts (by decide)
      rw [isJoint, Bool.or_eq_false_iff] at noJoint
      have found : pieceOf c (tail ++ []) = ⟨.token .name, 1 + tail.length⟩ := by
        rw [List.append_nil, pieceOf, if_neg (Bool.eq_false_iff.1 noJoint.1), if_neg noComment,
          if_neg (Bool.eq_false_iff.1 noJoint.2), if_pos starts, parts]
      have lexes := Lexes.token found .nil
      rw [List.append_nil, ← isText, String.ofList_toList] at lexes
      rwa [← isText]

/-- A word that is followed by separators and marks. -/
theorem closes_word (word : String) (joints : List Char) (isName : IsName word)
    (areJoints : joints.all isJoint = true) (nonempty : joints ≠ []) :
    Closes (word.toList ++ joints) ([.name word] ++ (joints.filter marks.contains).map .mark) :=
  isName.lexes.closes (closes_joints joints areJoints) (apart_joints areJoints) nonempty

end OperationCheck.Language
