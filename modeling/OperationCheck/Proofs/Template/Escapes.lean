import OperationCheck.Proofs.Template.Interpolation

/-!
Escapes of template bodies. A script replaces an escape by the character that it stands for, and the
reader leaves a blank and the character behind the backslash. The main statements say that a
template with escapes is read to its own closing backtick, that nothing visible of its value is
lost, and that the text shows exactly the value when no escape stands for a blank. An escape for a
blank leaves its letter in the text.
-/

namespace OperationCheck.Template

open OperationCheck.Text

/-- This is what a script takes an escape for, told by the character behind the backslash. -/
def escapeValue? (c : Char) : Option Char :=
  if c ∈ ['\x60', '\\', '$'] then some c
  else if c = 'n' then some '\n'
  else if c = 'r' then some '\r'
  else if c = 't' then some '\t'
  else none

/-- These escapes stand for blanks. -/
def blankEscapes : List Char := ['n', 'r', 't']

/-- The value of a template is the string that a script makes of its body. A line break counts as a
line feed. There is no value when the body has an interpolation, another escape, or a backtick that
is not escaped. -/
def value? : List Char → Option (List Char)
  | [] => some []
  | '\\' :: c :: rest => (escapeValue? c).bind fun first => (value? rest).map (first :: ·)
  | '$' :: '\x7b' :: _ => none
  | '\r' :: '\n' :: rest => (value? rest).map ('\n' :: ·)
  | c :: rest =>
      if c = '\x60' ∨ c = '\\' then none
      else (value? rest).map ((if c = '\r' then '\n' else c) :: ·)

/-- The characters behind the backslashes of a body. -/
def escapes : List Char → List Char
  | '\\' :: c :: rest => c :: escapes rest
  | _ :: rest => escapes rest
  | [] => []

/-- A backslash leaves a blank, and all other characters stay. -/
def unescaped : List Char → List Char
  | '\\' :: c :: rest => ' ' :: c :: unescaped rest
  | c :: rest => c :: unescaped rest
  | [] => []

/-- Blanks have no part in the meaning of an operation. -/
def visible (text : List Char) : List Char := text.filter fun c => !isBlank c

/-- A body has a value when it is made of escapes and plain characters. -/
inductive HasValue : List Char → List Char → Prop where
  | nil : HasValue [] []
  | escape {c first : Char} {rest value : List Char} : escapeValue? c = some first →
      HasValue rest value → HasValue ('\\' :: c :: rest) (first :: value)
  | lineBreak {rest value : List Char} : HasValue rest value →
      HasValue ('\r' :: '\n' :: rest) ('\n' :: value)
  | plain {c : Char} {rest value : List Char} : c ≠ '\x60' → c ≠ '\\' →
      (c = '$' → rest.head? ≠ some '\x7b') → HasValue rest value →
      HasValue (c :: rest) ((if c = '\r' then '\n' else c) :: value)

/-- A body whose value is computed has that value. -/
theorem hasValue_of_value {body value : List Char} (isValue : value? body = some value) :
    HasValue body value := by
  fun_induction value? body generalizing value with
  | case1 =>
      cases isValue
      exact .nil
  | case2 c rest ih =>
      obtain ⟨first, isFirst, isRest⟩ := Option.bind_eq_some_iff.1 isValue
      obtain ⟨others, isOthers, rfl⟩ := Option.map_eq_some_iff.1 isRest
      exact .escape isFirst (ih isOthers)
  | case3 => cases isValue
  | case4 rest ih =>
      obtain ⟨others, isOthers, rfl⟩ := Option.map_eq_some_iff.1 isValue
      exact .lineBreak (ih isOthers)
  | case5 => cases isValue
  | case6 c rest _ noOpening _ plain ih =>
      obtain ⟨others, isOthers, rfl⟩ := Option.map_eq_some_iff.1 isValue
      obtain ⟨noBacktick, noBackslash⟩ := not_or.1 plain
      refine .plain noBacktick noBackslash (fun dollar opens => ?_) (ih isOthers)
      cases rest with
      | nil => cases opens
      | cons next rest => exact noOpening rest dollar (by rw [Option.some.inj opens])

theorem unescaped_plain {c : Char} (noBackslash : c ≠ '\\') (rest : List Char) :
    unescaped (c :: rest) = c :: unescaped rest := by
  rw [unescaped]
  rintro next others rfl
  exact absurd rfl noBackslash

theorem escapes_plain {c : Char} (noBackslash : c ≠ '\\') (rest : List Char) :
    escapes (c :: rest) = escapes rest := by
  rw [escapes]
  rintro next others rfl
  exact absurd rfl noBackslash

/-- The scan puts a space in the place of a backslash and keeps the character behind it. -/
theorem scan_escape (taken rest : List Char) (c : Char) :
    scan .raw taken ('\\' :: c :: rest) = scan .raw (c :: ' ' :: taken) rest := by
  simp [scan]

/-- The backtick behind a body opens nothing. -/
theorem head_append_backtick {rest : List Char} (noOpening : rest.head? ≠ some '\x7b')
    (behind : List Char) : (rest ++ '\x60' :: behind).head? ≠ some '\x7b' := by
  cases rest with
  | nil => simp
  | cons next others => exact noOpening

/-- A body that has a value is read to its end. -/
theorem HasValue.scan {body value : List Char} (hasValue : HasValue body value)
    (taken rest : List Char) :
    scan .raw taken (body ++ '\x60' :: rest) =
      some (taken.reverse ++ unescaped body, rest) := by
  induction hasValue generalizing taken with
  | nil => rw [List.nil_append, scan_backtick, unescaped, List.append_nil]
  | escape _ _ ih =>
      rw [List.cons_append, List.cons_append, scan_escape, ih]
      simp [unescaped]
  | lineBreak _ ih =>
      rw [List.cons_append, List.cons_append, scan_plain (by decide) (by decide)
          (fun dollar => absurd dollar (by decide)),
        scan_plain (by decide) (by decide) (fun dollar => absurd dollar (by decide)), ih]
      simp [unescaped]
  | plain noBacktick noBackslash noOpening _ ih =>
      rw [List.cons_append, scan_plain noBacktick noBackslash
        (fun dollar => head_append_backtick (noOpening dollar) rest), ih,
        unescaped_plain noBackslash]
      simp

/-- A text shows all that a value shows, and a number of further characters between that. -/
structure ShowsMore (more : Nat) (value text : List Char) : Prop where
  sublist : (visible value).Sublist (visible text)
  length : (visible text).length = (visible value).length + more

theorem visible_cons_of_blank {c : Char} (blank : isBlank c = true) (text : List Char) :
    visible (c :: text) = visible text := by
  rw [visible, List.filter_cons_of_neg (by simp [blank]), visible]

theorem visible_cons_of_visible {c : Char} (isVisible : isBlank c = false) (text : List Char) :
    visible (c :: text) = c :: visible text := by
  rw [visible, List.filter_cons_of_pos (by simp [isVisible]), visible]

namespace ShowsMore

variable {more : Nat} {value text : List Char}

/-- The same character in front of value and text shows no more. -/
theorem cons (shown : ShowsMore more value text) (c : Char) :
    ShowsMore more (c :: value) (c :: text) := by
  obtain ⟨sublist, length⟩ := shown
  cases blank : isBlank c with
  | true => exact ⟨by simpa only [visible_cons_of_blank blank], by
      simpa only [visible_cons_of_blank blank]⟩
  | false =>
      constructor
      · simpa only [visible_cons_of_visible blank] using sublist.cons_cons c
      · simp only [visible_cons_of_visible blank, List.length_cons, length]
        omega

/-- A blank in front of the text shows no more. -/
theorem text_blank (shown : ShowsMore more value text) {c : Char} (blank : isBlank c = true) :
    ShowsMore more value (c :: text) := by
  obtain ⟨sublist, length⟩ := shown
  exact ⟨by rwa [visible_cons_of_blank blank], by rwa [visible_cons_of_blank blank]⟩

/-- A blank in front of the value shows no more. -/
theorem value_blank (shown : ShowsMore more value text) {c : Char} (blank : isBlank c = true) :
    ShowsMore more (c :: value) text := by
  obtain ⟨sublist, length⟩ := shown
  exact ⟨by rwa [visible_cons_of_blank blank], by rwa [visible_cons_of_blank blank]⟩

/-- A visible character of the text alone is one more. -/
theorem letter (shown : ShowsMore more value text) {c : Char} (isVisible : isBlank c = false) :
    ShowsMore (more + 1) value (c :: text) := by
  obtain ⟨sublist, length⟩ := shown
  constructor
  · rw [visible_cons_of_visible isVisible]
    exact sublist.cons c
  · rw [visible_cons_of_visible isVisible, List.length_cons, length]
    omega

/-- Nothing else is shown exactly when there are no further characters. -/
theorem visible_eq_iff (shown : ShowsMore more value text) :
    visible text = visible value ↔ more = 0 := by
  constructor
  · intro same
    have length := shown.length
    rw [same] at length
    omega
  · rintro rfl
    exact (shown.sublist.eq_of_length shown.length.symm).symm

end ShowsMore

/-- An escape for a blank has a letter behind its backslash. Every other escape stands for that
character. -/
theorem escapeValue_cases {c first : Char} (isFirst : escapeValue? c = some first) :
    (c ∈ blankEscapes ∧ isBlank first = true ∧ isBlank c = false) ∨
      (c ∉ blankEscapes ∧ first = c) := by
  unfold escapeValue? at isFirst
  split at isFirst
  · next inEscapes =>
      have noLetter : ['\x60', '\\', '$'].all (fun c => c ∉ blankEscapes) = true := by decide
      exact .inr ⟨of_decide_eq_true (List.all_eq_true.1 noLetter c inEscapes),
        (Option.some.inj isFirst).symm⟩
  · split at isFirst
    · next isLetter =>
        obtain ⟨rfl, rfl⟩ : c = 'n' ∧ first = '\n' := ⟨isLetter, (Option.some.inj isFirst).symm⟩
        exact .inl (by decide)
    · split at isFirst
      · next isLetter =>
          obtain ⟨rfl, rfl⟩ : c = 'r' ∧ first = '\r' := ⟨isLetter, (Option.some.inj isFirst).symm⟩
          exact .inl (by decide)
      · split at isFirst
        · next isLetter =>
            obtain ⟨rfl, rfl⟩ : c = 't' ∧ first = '\t' :=
              ⟨isLetter, (Option.some.inj isFirst).symm⟩
            exact .inl (by decide)
        · cases isFirst

/-- The text of a body shows its value, and the letter of each escape that stands for a blank. -/
theorem HasValue.showsMore {body value : List Char} (hasValue : HasValue body value) :
    ShowsMore ((escapes body).countP fun c => c ∈ blankEscapes) value (unescaped body) := by
  induction hasValue with
  | nil => exact ⟨.refl _, rfl⟩
  | @escape c first rest value isFirst _ ih =>
      rw [unescaped, escapes, List.countP_cons]
      rcases escapeValue_cases isFirst with ⟨isLetter, blank, isVisible⟩ | ⟨noLetter, rfl⟩
      · rw [if_pos (decide_eq_true isLetter)]
        exact ((ih.letter isVisible).value_blank blank).text_blank (by decide)
      · rw [if_neg (by simpa using noLetter), Nat.add_zero]
        exact (ih.cons first).text_blank (by decide)
  | lineBreak _ ih =>
      rw [unescaped_plain (by decide), unescaped_plain (by decide), escapes_plain (by decide),
        escapes_plain (by decide)]
      exact (ih.cons '\n').text_blank (by decide)
  | @plain c rest value _ noBackslash _ _ ih =>
      rw [unescaped_plain noBackslash, escapes_plain noBackslash]
      split
      · next isReturn =>
          -- A carriage return and the line feed that it counts as are both blank.
          subst isReturn
          exact (ih.value_blank (by decide)).text_blank (by decide)
      · exact ih.cons c

/-- A template that has a value is read to its own closing backtick, and its block shows all that
the value shows. Only an escape for a blank adds to that, and it adds its letter. So the two show
the same exactly when no escape stands for a blank. -/
theorem escapes_show_value {body value : List Char} (isValue : value? body = some value) :
    (∀ rest, read (body ++ '\x60' :: rest) = some (unescaped body, rest)) ∧
      (∀ before position source opening rest,
        matchOpener before source = some (opening, body ++ '\x60' :: rest) →
          blocksFrom before position source =
            ⟨position.after opening, unescaped body⟩ ::
              blocksFrom (some '\x60')
                (((position.after opening).after (unescaped body)).next '\x60') rest) ∧
      (visible value).Sublist (visible (unescaped body)) ∧
      (visible (unescaped body)).length =
        (visible value).length + (escapes body).countP (fun c => c ∈ blankEscapes) ∧
      (visible (unescaped body) = visible value ↔ ∀ c ∈ escapes body, c ∉ blankEscapes) := by
  have hasValue := hasValue_of_value isValue
  have shown := hasValue.showsMore
  have isRead (rest : List Char) :
      read (body ++ '\x60' :: rest) = some (unescaped body, rest) := by
    rw [read, hasValue.scan, List.reverse_nil, List.nil_append]
  refine ⟨isRead, ?_, shown.sublist, shown.length, ?_⟩
  · intro before position source opening rest opens
    exact blocksFrom_of_read position opens (isRead rest)
  · rw [shown.visible_eq_iff, List.countP_eq_zero]
    simp only [decide_eq_true_eq]

/-- This body has all three escapes for signs, and one of them is right before its end. -/
def signsBody : List Char := "\x7b a(b: \"\\\x60\\$\x7bc\x7d\") \x7d#\\\\".toList

/-- The value of the body with signs. -/
def signsValue : List Char := "\x7b a(b: \"\x60$\x7bc\x7d\") \x7d#\\".toList

/-- A dollar sign that is escaped opens no interpolation. -/
theorem escapes_show_value_signs :
    value? signsBody = some signsValue ∧
      read (signsBody ++ ['\x60', ';']) =
        some ("\x7b a(b: \" \x60 $\x7bc\x7d\") \x7d# \\".toList, [';']) ∧
      visible "\x7b a(b: \" \x60 $\x7bc\x7d\") \x7d# \\".toList = visible signsValue := by
  have isValue : value? signsBody = some signsValue := by decide +kernel
  have isText : unescaped signsBody = "\x7b a(b: \" \x60 $\x7bc\x7d\") \x7d# \\".toList := by
    decide +kernel
  have signs : (escapes signsBody).all (fun c => c ∉ blankEscapes) = true := by decide +kernel
  obtain ⟨isRead, -, -, -, same⟩ := escapes_show_value isValue
  rw [isText] at isRead same
  exact ⟨isValue, isRead [';'], same.2 fun c member =>
    of_decide_eq_true (List.all_eq_true.1 signs c member)⟩

/-- The escape for a line feed leaves its letter, which is read as a field of the operation. -/
theorem escaped_letter_stays :
    value? "\x7b a\\n b \x7d".toList = some "\x7b a\n b \x7d".toList ∧
      blocks "gql\x60\x7b a\\n b \x7d\x60".toList = [⟨⟨0, 4⟩, "\x7b a n b \x7d".toList⟩] ∧
      visible "\x7b a\n b \x7d".toList = "\x7bab\x7d".toList ∧
      visible "\x7b a n b \x7d".toList = "\x7banb\x7d".toList := by
  have opens : matchOpener none "gql\x60\x7b a\\n b \x7d\x60".toList =
      some ("gql\x60".toList, "\x7b a\\n b \x7d\x60".toList) := by decide +kernel
  have isRead : read "\x7b a\\n b \x7d\x60".toList = some ("\x7b a n b \x7d".toList, []) := by
    decide +kernel
  refine ⟨by decide +kernel, ?_, by decide +kernel, by decide +kernel⟩
  rw [blocks, blocksFrom_of_read .start opens isRead, blocksFrom]
  rfl

end OperationCheck.Template
