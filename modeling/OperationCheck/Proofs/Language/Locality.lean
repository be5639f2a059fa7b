import OperationCheck.Language.Token
import Mathlib.Data.List.TakeWhile

/-!
How far a token depends on what stands behind it. A token that has been found is found again before
another text, as long as that text goes on with the same character or, where nothing stood behind
the token, with a separator or a mark.
-/

namespace OperationCheck.Language

/-- Separators and marks end any token before them. -/
def isJoint (c : Char) : Bool := isSeparator c || marks.contains c

/-- A text stands apart from what is before it. -/
def Apart (text : List Char) : Prop := ∀ c ∈ text.head?, isJoint c = true

/-- A token that stands before the first text has the same next character before the other one, or
it ends there. -/
def GoesOn (rest other : List Char) : Prop := other.head? = rest.head? ∨ rest = [] ∧ Apart other

theorem Apart.cons {c : Char} (joint : isJoint c = true) (rest : List Char) : Apart (c :: rest) := by
  intro first isFirst
  cases isFirst
  exact joint

theorem apart_nil : Apart [] := by
  intro c isFirst
  cases isFirst

/-- Two texts that stand apart do so one behind the other. -/
theorem Apart.append {text rest : List Char} (apart : Apart text) (others : Apart rest) :
    Apart (text ++ rest) := by
  cases text with
  | nil => exact others
  | cons c text => exact Apart.cons (apart c rfl) _

/-- Whether a text stands apart is told by its first character. -/
theorem apart_of_head {text : List Char} (joint : text.head?.all isJoint = true) : Apart text := by
  intro c isFirst
  rw [isFirst] at joint
  exact joint

/-- What is behind a text that stands apart does not matter. -/
theorem Apart.before {text : List Char} (apart : Apart text) (nonempty : text ≠ [])
    (rest : List Char) : Apart (text ++ rest) := by
  cases text with
  | nil => exact absurd rfl nonempty
  | cons c text => exact .cons (apart c rfl) _

/-- A joint goes on with no name, no number and no text. -/
theorem plain_of_isJoint {c : Char} (joint : isJoint c = true) :
    isNamePart c = false ∧ isNameStart c = false ∧ c.isDigit = false ∧
      c ∉ ['.', '"', 'e', 'E'] := by
  have member : c ∈ "\t\n\r ,\ufeff".toList ++ marks := by
    simpa [isJoint, isSeparator, or_assoc] using joint
  have plain := List.all_eq_true.1 (by decide : ("\t\n\r ,\ufeff".toList ++ marks).all
    (fun c => !isNamePart c && !isNameStart c && !c.isDigit && c ∉ ['.', '"', 'e', 'E']) = true)
    c member
  simpa only [Bool.and_eq_true, Bool.not_eq_true', decide_eq_true_eq, and_assoc] using plain

/-- What no joint is and what does not come next in the one text does not come next in the other. -/
theorem GoesOn.head {rest other : List Char} (goesOn : GoesOn rest other) {p : Char → Bool}
    (noJoint : ∀ c, isJoint c = true → p c = false) (ends : ∀ c ∈ rest.head?, p c = false) :
    ∀ c ∈ other.head?, p c = false := by
  intro c isNext
  rcases goesOn with same | ⟨-, apart⟩
  · exact ends c (same ▸ isNext)
  · exact noJoint c (apart c isNext)

/-- A piece of a text is found by this function from a number of characters that come before. If the
piece is a token, the characters before belong to it, it depends on one character behind it, and it
stands on one line. -/
structure IsLocal (find : Nat → List Char → Piece) : Prop where
  le_length : ∀ {length source kind count}, find length source = ⟨.token kind, count⟩ →
    length ≤ count
  goesOn : ∀ {length tail rest other kind}, GoesOn rest other →
    find length (tail ++ rest) = ⟨.token kind, length + tail.length⟩ →
    find length (tail ++ other) = ⟨.token kind, length + tail.length⟩
  unbroken : ∀ {length tail rest kind},
    find length (tail ++ rest) = ⟨.token kind, length + tail.length⟩ → '\n' ∉ tail

theorem length_behind (length : Nat) (c : Char) (tail : List Char) :
    length + (c :: tail).length = length + 1 + tail.length := by
  simp only [List.length_cons]
  omega

theorem isLocal_fault (fault : SyntaxFault) : IsLocal fun length _ => ⟨.fault fault, length⟩ where
  le_length found := by cases found
  goesOn _ found := by cases found
  unbroken found := by cases found

/-- A function that reads one more character, and then goes on as that character tells. -/
theorem IsLocal.step {find : Nat → List Char → Piece} {next : Char → Nat → List Char → Piece}
    (nothing : ∀ length kind count, find length [] ≠ ⟨.token kind, count⟩)
    (step : ∀ length c rest, find length (c :: rest) = next c (length + 1) rest)
    (onLine : ∀ length source kind count, next '\n' length source ≠ ⟨.token kind, count⟩)
    (isLocal : ∀ c, IsLocal (next c)) : IsLocal find where
  le_length {length source kind count} found := by
    cases source with
    | nil => exact absurd found (nothing _ _ _)
    | cons c rest =>
        rw [step] at found
        exact Nat.le_of_succ_le ((isLocal c).le_length found)
  goesOn {length tail rest other kind} goesOn found := by
    cases tail with
    | nil =>
        cases rest with
        | nil => exact absurd found (nothing _ _ _)
        | cons c rest =>
            rw [List.nil_append, step] at found
            exact absurd ((isLocal c).le_length found) (Nat.not_succ_le_self length)
    | cons c tail =>
        rw [List.cons_append, step, length_behind] at found ⊢
        exact (isLocal c).goesOn goesOn found
  unbroken {length tail rest kind} found := by
    cases tail with
    | nil => exact List.not_mem_nil
    | cons c tail =>
        rw [List.cons_append, step, length_behind] at found
        rintro (_ | ⟨_, member⟩)
        · exact onLine _ _ _ _ found
        · exact (isLocal c).unbroken found member

/-- This function looks at the next character. Where that does not belong to the token, the token
ends. -/
def peeking (ending : TokenKind) (next : Char → Option (Nat → List Char → Piece)) (length : Nat)
    (source : List Char) : Piece :=
  match source.head?.bind next with
  | none => ⟨.token ending, length⟩
  | some others => others (length + 1) source.tail

/-- Looking at the next character is local when a joint ends the token. -/
theorem isLocal_peeking (ending : TokenKind) {next : Char → Option (Nat → List Char → Piece)}
    (joint : ∀ c, isJoint c = true → next c = none)
    (isLocal : ∀ c others, next c = some others → IsLocal others) :
    IsLocal (peeking ending next) where
  le_length {length source kind count} found := by
    unfold peeking at found
    split at found
    · cases found
      exact le_rfl
    · next others goesOn =>
        obtain ⟨c, -, isNext⟩ := Option.bind_eq_some_iff.1 goesOn
        exact Nat.le_of_succ_le ((isLocal c others isNext).le_length found)
  goesOn {length tail rest other kind} goesOn found := by
    cases tail with
    | nil =>
        rw [List.nil_append, peeking] at found
        split at found
        -- The token ended at the end of its text, so the next character must not go on with it.
        · next ends =>
            have ending : other.head?.bind next = none := by
              rcases goesOn with same | ⟨-, apart⟩
              · rw [same, ends]
              · exact Option.bind_eq_none_iff.2 fun c isNext => joint c (apart c isNext)
            rw [List.nil_append, peeking, ending]
            exact found
        · next others isNext =>
            obtain ⟨c, -, isNext⟩ := Option.bind_eq_some_iff.1 isNext
            exact absurd ((isLocal c others isNext).le_length found) (Nat.not_succ_le_self length)
    | cons c tail =>
        simp only [peeking, List.cons_append, List.head?_cons, Option.bind_some, List.tail_cons,
          length_behind] at found ⊢
        split at found
        · have := congrArg Piece.length found
          simp only at this
          omega
        · next others isNext => exact (isLocal c others isNext).goesOn goesOn found
  unbroken {length tail rest kind} found := by
    cases tail with
    | nil => exact List.not_mem_nil
    | cons c tail =>
        simp only [peeking, List.cons_append, List.head?_cons, Option.bind_some, List.tail_cons,
          length_behind] at found
        split at found
        · have := congrArg Piece.length found
          simp only at this
          omega
        · next others isNext =>
            rintro (_ | ⟨_, member⟩)
            · cases (joint '\n' (by decide)).symm.trans isNext
            · exact (isLocal c others isNext).unbroken found member

/-- What satisfies a test is taken alike, as long as it ends within the text. -/
theorem takeWhile_goesOn {p : Char → Bool} (noJoint : ∀ c, isJoint c = true → p c = false)
    {tail rest other : List Char} (goesOn : GoesOn rest other)
    (within : ((tail ++ rest).takeWhile p).length ≤ tail.length) :
    (tail ++ other).takeWhile p = (tail ++ rest).takeWhile p := by
  induction tail with
  | nil =>
      have ends : ∀ c ∈ rest.head?, p c = false := by
        intro c isNext
        cases rest with
        | nil => cases isNext
        | cons first rest =>
            cases isNext
            by_contra satisfies
            simp [satisfies] at within
      have none (text : List Char) (ends : ∀ c ∈ text.head?, p c = false) : text.takeWhile p = [] := by
        cases text with
        | nil => rfl
        | cons c text => simp [ends c rfl]
      rw [List.nil_append, List.nil_append, none rest ends, none other (goesOn.head noJoint ends)]
  | cons c tail ih =>
      simp only [List.cons_append, List.takeWhile_cons] at within ⊢
      split
      · next satisfies =>
          rw [if_pos satisfies] at within
          rw [ih (Nat.le_of_succ_le_succ within)]
      · rfl

/-- A function that passes digits first. -/
theorem IsLocal.digits {find next : Nat → List Char → Piece}
    (step : ∀ length source, find length source =
      next (length + (source.takeWhile Char.isDigit).length)
        (source.drop (source.takeWhile Char.isDigit).length))
    (isLocal : IsLocal next) : IsLocal find where
  le_length found := by
    rw [step] at found
    exact le_trans (Nat.le_add_right _ _) (isLocal.le_length found)
  goesOn {length tail rest other kind} goesOn found := by
    rw [step] at found ⊢
    have within : ((tail ++ rest).takeWhile Char.isDigit).length ≤ tail.length := by
      have := isLocal.le_length found
      omega
    rw [takeWhile_goesOn (fun c joint => (plain_of_isJoint joint).2.2.1) goesOn within]
    rw [List.drop_append_of_le_length within] at found ⊢
    have behind : length + tail.length = length + ((tail ++ rest).takeWhile Char.isDigit).length
        + (tail.drop ((tail ++ rest).takeWhile Char.isDigit).length).length := by
      rw [List.length_drop]
      omega
    rw [behind] at found ⊢
    exact isLocal.goesOn goesOn found
  unbroken {length tail rest kind} found := by
    rw [step] at found
    have within : ((tail ++ rest).takeWhile Char.isDigit).length ≤ tail.length := by
      have := isLocal.le_length found
      omega
    obtain ⟨behind, same⟩ := List.prefix_of_prefix_length_le (List.takeWhile_prefix Char.isDigit)
      (List.prefix_append tail rest) within
    intro member
    rw [← same] at member
    rcases List.mem_append.1 member with isDigit | isBehind
    · exact absurd (List.mem_takeWhile_imp isDigit) (by decide)
    · have split : (tail ++ rest).drop ((tail ++ rest).takeWhile Char.isDigit).length
          = behind ++ rest := by
        rw [List.drop_append_of_le_length within]
        exact congrArg (· ++ rest) ((congrArg (List.drop _) same).symm.trans List.drop_left)
      have count : length + tail.length =
          length + ((tail ++ rest).takeWhile Char.isDigit).length + behind.length := by
        have := congrArg List.length same
        rw [List.length_append] at this
        omega
      rw [split, count] at found
      exact isLocal.unbroken found isBehind

section numbers

/-- A choice between two local functions is local when it does not depend on the text. -/
theorem isLocal_ite (p : Prop) [Decidable p] {first second : Nat → List Char → Piece}
    (isFirst : IsLocal first) (isSecond : IsLocal second) :
    IsLocal (if p then first else second) := by
  split
  · exact isFirst
  · exact isSecond

theorem isLocal_floatEnd : IsLocal floatEnd := by
  have same : floatEnd = peeking .float fun c =>
      if c = '.' ∨ isNameStart c then some fun length _ => ⟨.fault (.floatSuffix c), length⟩
      else none := by
    funext length source
    cases source with
    | nil => rfl
    | cons c rest =>
        simp only [floatEnd, peeking, List.head?_cons, Option.bind_some]
        split <;> rfl
  rw [same]
  refine isLocal_peeking _ (fun c joint => ?_) (fun c others isNext => ?_)
  · have plain := plain_of_isJoint joint
    simp_all
  · split at isNext <;> cases isNext
    exact isLocal_fault _

theorem isLocal_exponentDigits : IsLocal exponentDigits :=
  .digits (fun _ _ => rfl) isLocal_floatEnd

theorem isLocal_signedExponent : IsLocal signedExponent := by
  refine @IsLocal.step _ (fun c => if c.isDigit then exponentDigits
    else fun length _ => ⟨.fault (.noExponentDigit c), length⟩) (by nofun) ?_ (by nofun) fun c =>
      isLocal_ite _ isLocal_exponentDigits (isLocal_fault _)
  intro length c rest
  rw [signedExponent]
  split <;> rfl

theorem isLocal_exponentPiece : IsLocal exponentPiece := by
  refine @IsLocal.step _ (fun c => if c.isDigit then exponentDigits
    else if c = '+' ∨ c = '-' then signedExponent
    else fun length _ => ⟨.fault (.noExponent c), length⟩) (by nofun) ?_ (by nofun) fun c =>
      isLocal_ite _ isLocal_exponentDigits (isLocal_ite _ isLocal_signedExponent (isLocal_fault _))
  intro length c rest
  rw [exponentPiece]
  split
  · rfl
  · split <;> rfl

theorem isLocal_afterFraction : IsLocal afterFraction := by
  have same : afterFraction = peeking .float fun c =>
      if c = 'e' ∨ c = 'E' then some exponentPiece
      else if c = '.' ∨ isNameStart c then some fun length _ => ⟨.fault (.floatSuffix c), length⟩
      else none := by
    funext length source
    cases source with
    | nil => rfl
    | cons c rest =>
        simp only [afterFraction, floatEnd, peeking, List.head?_cons, Option.bind_some]
        split
        · rfl
        · split <;> rfl
  rw [same]
  refine isLocal_peeking _ (fun c joint => ?_) (fun c others isNext => ?_)
  · have plain := plain_of_isJoint joint
    simp_all
  · split at isNext
    · cases isNext
      exact isLocal_exponentPiece
    · split at isNext <;> cases isNext
      exact isLocal_fault _

theorem isLocal_fractionPiece : IsLocal fractionPiece := by
  refine @IsLocal.step _ (fun c => if c.isDigit then
      fun length rest => afterFraction (length + (rest.takeWhile Char.isDigit).length)
        (rest.drop (rest.takeWhile Char.isDigit).length)
    else fun length _ => ⟨.fault (.noFraction c), length⟩) (by nofun) ?_ (by nofun) fun c =>
      isLocal_ite _ (.digits (fun _ _ => rfl) isLocal_afterFraction) (isLocal_fault _)
  intro length c rest
  rw [fractionPiece]
  split <;> rfl

/-- What may come behind the digits of an integer. -/
def integerNext (c : Char) : Option (Nat → List Char → Piece) :=
  if c = '.' then some fractionPiece
  else if c = 'e' ∨ c = 'E' then some exponentPiece
  else if isNameStart c then some fun length _ => ⟨.fault (.integerSuffix c), length⟩
  else none

/-- No joint goes on with an integer. -/
theorem integerNext_joint {c : Char} (joint : isJoint c = true) : integerNext c = none := by
  have plain := plain_of_isJoint joint
  simp_all [integerNext]

/-- What goes on with an integer is local. -/
theorem isLocal_integerNext {c : Char} {others : Nat → List Char → Piece}
    (isNext : integerNext c = some others) : IsLocal others := by
  unfold integerNext at isNext
  split at isNext
  · cases isNext
    exact isLocal_fractionPiece
  · split at isNext
    · cases isNext
      exact isLocal_exponentPiece
    · split at isNext <;> cases isNext
      exact isLocal_fault _

/-- An integer ends unless its next character goes on with it. -/
theorem afterInteger_eq : afterInteger = peeking .int integerNext := by
  funext length source
  cases source with
  | nil => rfl
  | cons c rest =>
      simp only [afterInteger, peeking, integerNext, List.head?_cons, Option.bind_some]
      by_cases isPoint : c = '.'
      · simp only [isPoint, if_true, List.tail_cons]
      · by_cases isExponent : c = 'e' ∨ c = 'E'
        · simp only [isPoint, isExponent, if_true, if_false, List.tail_cons]
        · simp only [isPoint, isExponent, if_false]
          split <;> rfl

theorem isLocal_afterInteger : IsLocal afterInteger := by
  rw [afterInteger_eq]
  exact isLocal_peeking _ (fun _ => integerNext_joint) fun _ _ => isLocal_integerNext

/-- The digits of a number are read to their end, whatever is behind them. -/
theorem isLocal_digitsPiece (first : Char) :
    IsLocal fun length source => digitsPiece length first source := by
  by_cases isZero : first = '0'
  · have same : (fun length source => digitsPiece length first source) = peeking .int fun c =>
        if c.isDigit then some fun length _ => ⟨.fault .leadingZero, length⟩ else integerNext c := by
      funext length source
      cases source with
      | nil => simp [digitsPiece, isZero, peeking]
      | cons c rest =>
          simp only [digitsPiece, isZero, if_true, peeking, List.head?_cons, Option.bind_some]
          split
          · rfl
          · rw [afterInteger_eq]
            rfl
    rw [same]
    refine isLocal_peeking _ (fun c joint => ?_) (fun c others isNext => ?_)
    · rw [(plain_of_isJoint joint).2.2.1]
      exact integerNext_joint joint
    · split at isNext
      · cases isNext
        exact isLocal_fault _
      · exact isLocal_integerNext isNext
  · refine @IsLocal.digits _ afterInteger (fun length source => ?_) isLocal_afterInteger
    simp only [digitsPiece, isZero, if_false]

/-- A minus sign belongs to the digits behind it. -/
theorem isLocal_minus : IsLocal fun length source =>
    match source with
    | [] => ⟨.fault (.unknownCharacter '-'), length⟩
    | c :: rest =>
        if c.isDigit then digitsPiece (length + 1) c rest
        else ⟨.fault (.loneMinus c), length + 1⟩ := by
  refine @IsLocal.step _ (fun c => if c.isDigit then fun length rest => digitsPiece length c rest
    else fun length _ => ⟨.fault (.loneMinus c), length⟩) (by nofun) ?_ (by nofun) fun c =>
      isLocal_ite _ (isLocal_digitsPiece c) (isLocal_fault _)
  intro length c rest
  dsimp only
  split <;> rfl

end numbers

/-- The token of a text on a line ends behind what was read of it. -/
theorem length_lt_of_stringPiece {mode : StringMode} {second : Bool} {fault : Option SyntaxFault}
    {length : Nat} {source : List Char} {kind : TokenKind} {count : Nat}
    (found : stringPiece mode second fault length source = ⟨.token kind, count⟩) :
    length < count := by
  fun_induction stringPiece mode second fault length source
  all_goals grind

/-- A fault in a string stays. -/
theorem stringPiece_faulty {mode : StringMode} {second : Bool} {fault : Option SyntaxFault}
    {length : Nat} {source : List Char} {kind : TokenKind} {count : Nat}
    (faulty : fault.isSome) :
    stringPiece mode second fault length source ≠ ⟨.token kind, count⟩ := by
  fun_induction stringPiece mode second fault length source
  all_goals grind

/-- A text on a line does not go on behind the end of the line. -/
theorem stringPiece_lineBreak (mode : StringMode) (second : Bool) (fault : Option SyntaxFault)
    (length : Nat) (source : List Char) (kind : TokenKind) (count : Nat) :
    stringPiece mode second fault length ('\n' :: source) ≠ ⟨.token kind, count⟩ := by
  have noEscape : simpleEscapes.contains '\n' = false := by decide
  have noDigit : isHexDigit '\n' = false := by decide
  have isBreak : isLineBreak '\n' = true := by decide
  intro found
  cases mode
  all_goals
    rw [stringPiece] at found
    simp only [noEscape, noDigit, isBreak, Char.reduceEq, Char.reduceBEq, Bool.and_false, if_false,
      if_true, Bool.not_false, Bool.false_eq_true] at found
    exact stringPiece_faulty rfl found

/-- A string ends with its quote, whatever comes behind. -/
theorem isLocal_stringPiece (mode : StringMode) (second : Bool) (fault : Option SyntaxFault) :
    IsLocal (stringPiece mode second fault) where
  le_length found := (length_lt_of_stringPiece found).le
  goesOn {length tail rest other kind} _ found := by
    induction tail generalizing mode second fault length with
    | nil => exact absurd (length_lt_of_stringPiece found) (Nat.lt_irrefl length)
    | cons c tail ih =>
        rw [length_behind, List.cons_append] at found ⊢
        cases mode
        all_goals
          simp only [stringPiece] at found ⊢
          grind
  unbroken {length tail rest kind} found := by
    induction tail generalizing mode second fault length with
    | nil => exact List.not_mem_nil
    | cons c tail ih =>
        rw [length_behind, List.cons_append] at found
        intro member
        rcases List.mem_cons.1 member with rfl | member
        · exact stringPiece_lineBreak _ _ _ _ _ _ _ found
        · cases mode
          all_goals
            simp only [stringPiece] at found
            grind

/-- The token of a block has three quotes more than what was read of it. -/
theorem length_lt_of_blockPiece {length : Nat} {source : List Char} {kind : TokenKind}
    {count : Nat} (found : blockPiece length source = ⟨.token kind, count⟩) : length + 3 ≤ count := by
  fun_induction blockPiece length source
  all_goals grind

end OperationCheck.Language
