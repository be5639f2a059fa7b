import Mathlib.Data.List.Forall2
import OperationCheck.Template.Body

/-!
The grammar of template bodies. A body is a sequence of escaped characters, interpolations, and
other characters. The main statements say that what the reader takes for a body is one, that
the text it leaves has the length and the line feeds of the body, and that the reader takes every
body, so that a template closes at one backtick at most.
-/

namespace OperationCheck.Template

/-- A text closes a number of open braces when closing braces outnumber the opening ones by that
number, for the first time at its end. -/
def Closes (depth : Nat) (inner : List Char) : Prop :=
  inner.count '\x7b' + depth ≤ inner.count '\x7d' ∧
    ∀ length < inner.length,
      (inner.take length).count '\x7d' < (inner.take length).count '\x7b' + depth

/-- This is a sequence of the items of a template. A backtick is only part of an item when it is
escaped or interpolated. -/
inductive IsBody : List Char → Prop where
  | nil : IsBody []
  | escaped (c : Char) {rest : List Char} : IsBody rest → IsBody ('\\' :: c :: rest)
  | interpolation {inner rest : List Char} :
      Closes 1 inner → IsBody rest → IsBody ('$' :: '\x7b' :: (inner ++ rest))
  | plain {c : Char} {rest : List Char} : c ≠ '\x60' → c ≠ '\\' →
      (c = '$' → rest.head? ≠ some '\x7b') → IsBody rest → IsBody (c :: rest)

/-- One brace closes the last open one. -/
theorem closes_last : Closes 1 ['\x7d'] := by
  refine ⟨by decide, fun length short => ?_⟩
  have empty : length = 0 := by simpa using short
  subst empty
  decide

/-- A further brace that is opened must be closed as well. -/
theorem Closes.open {depth : Nat} {inner : List Char} (positive : 0 < depth)
    (closes : Closes (depth + 1) inner) : Closes depth ('\x7b' :: inner) := by
  obtain ⟨total, shorter⟩ := closes
  refine ⟨by simp; omega, fun length short => ?_⟩
  cases length with
  | zero => simpa using positive
  | succ length =>
      have before := shorter length (by simpa using short)
      simp
      omega

/-- A brace in front closes one more. -/
theorem Closes.close {depth : Nat} {inner : List Char} (closes : Closes depth inner) :
    Closes (depth + 1) ('\x7d' :: inner) := by
  obtain ⟨total, shorter⟩ := closes
  refine ⟨by simp; omega, fun length short => ?_⟩
  cases length with
  | zero => simp
  | succ length =>
      have before := shorter length (by simpa using short)
      simp
      omega

/-- A character in front that is no brace closes none. -/
theorem Closes.other {depth : Nat} {inner : List Char} {c : Char} (positive : 0 < depth)
    (noOpening : c ≠ '\x7b') (noClosing : c ≠ '\x7d') (closes : Closes depth inner) :
    Closes depth (c :: inner) := by
  obtain ⟨total, shorter⟩ := closes
  refine ⟨by simpa [List.count_cons, noOpening, noClosing] using total, fun length short => ?_⟩
  cases length with
  | zero => simpa using positive
  | succ length =>
      simpa [List.count_cons, noOpening, noClosing] using shorter length (by simpa using short)

/-- The reader has not counted all braces of an interpolation as closed. -/
def Mode.IsOpen : Mode → Prop
  | .interpolation depth => 0 < depth
  | _ => True

/-- This is what may be left of a body when the reader is in a mode. -/
def Mode.Continues : Mode → List Char → Prop
  | .raw, body => IsBody body
  | .escaped, body => ∃ c rest, body = c :: rest ∧ IsBody rest
  | .interpolation depth, body =>
      ∃ inner rest, body = inner ++ rest ∧ Closes depth inner ∧ IsBody rest

/-- A character inside an interpolation leads to a mode that is open. -/
theorem isOpen_inside {depth : Nat} (positive : 0 < depth) (c : Char) :
    (Mode.inside depth c).IsOpen := by
  unfold Mode.inside
  split
  · exact Nat.succ_pos depth
  · split
    · split
      · exact trivial
      · change 0 < depth - 1
        omega
    · exact positive

/-- A character of an interpolation stands before what may follow it. -/
theorem continues_inside {depth : Nat} (positive : 0 < depth) {c : Char} {body : List Char}
    (continues : (Mode.inside depth c).Continues body) :
    (Mode.interpolation depth).Continues (c :: body) := by
  unfold Mode.inside at continues
  split at continues
  · next opening =>
      subst opening
      obtain ⟨inner, rest, rfl, closes, isBody⟩ := continues
      exact ⟨'\x7b' :: inner, rest, rfl, closes.open positive, isBody⟩
  · next noOpening =>
      split at continues
      · next closing =>
          subst closing
          split at continues
          · next last =>
              have single : depth = 1 := by omega
              subst single
              exact ⟨['\x7d'], body, rfl, closes_last, continues⟩
          · next more =>
              obtain ⟨inner, rest, rfl, closes, isBody⟩ := continues
              have closed := closes.close
              rw [Nat.sub_add_cancel positive] at closed
              exact ⟨'\x7d' :: inner, rest, rfl, closed, isBody⟩
      · next noClosing =>
          obtain ⟨inner, rest, rfl, closes, isBody⟩ := continues
          exact ⟨c :: inner, rest, rfl, closes.other positive noOpening noClosing, isBody⟩

/-- A line feed stays, and any other character stays or leaves a space. -/
def KeepsPlace (original kept : Char) : Prop :=
  (kept = '\n' ↔ original = '\n') ∧ (original ≠ '\n' → kept = original ∨ kept = ' ')

theorem keepsPlace_self (c : Char) : KeepsPlace c c := ⟨Iff.rfl, fun _ => .inl rfl⟩

/-- A space keeps the place of every character but the line feed. -/
theorem keepsPlace_space {c : Char} (visible : c ≠ '\n') : KeepsPlace c ' ' :=
  ⟨⟨fun same => absurd same (by decide), fun same => absurd same visible⟩, fun _ => .inr rfl⟩

/-- Blanking keeps the place of every character, the line feed being left. -/
theorem keepsPlace_blanked (c : Char) : KeepsPlace c (blanked c) := by
  unfold blanked
  split
  · next same => exact same ▸ keepsPlace_self '\n'
  · next visible => exact keepsPlace_space visible

/-- The reader takes a body, up to a backtick, and leaves its text. -/
theorem scan_sound (mode : Mode) (taken source : List Char) {text rest : List Char}
    (found : scan mode taken source = some (text, rest)) (isOpen : mode.IsOpen) :
    ∃ body kept, source = body ++ '\x60' :: rest ∧ text = taken.reverse ++ kept ∧
      mode.Continues body ∧ List.Forall₂ KeepsPlace body kept := by
  -- Each mode goes on with its own grammar, so the cases are those of the scanner.
  fun_induction scan mode taken source with
  | case1 => simp at found
  | case2 taken source ih =>
      obtain ⟨body, kept, rfl, rfl, ⟨inner, last, rfl, closes, isBody⟩, keeps⟩ :=
        ih found Nat.one_pos
      refine ⟨'$' :: '\x7b' :: (inner ++ last), ' ' :: ' ' :: kept, rfl, by simp, ?_, ?_⟩
      · exact .interpolation closes isBody
      · exact .cons (keepsPlace_space (by decide)) (.cons (keepsPlace_space (by decide)) keeps)
  | case3 taken source =>
      simp only [Option.some.injEq, Prod.mk.injEq] at found
      exact ⟨[], [], by simp [found.2], by simp [found.1], .nil, .nil⟩
  | case4 taken source _ _ ih =>
      obtain ⟨body, kept, rfl, rfl, ⟨c, last, rfl, isBody⟩, keeps⟩ := ih found trivial
      exact ⟨'\\' :: c :: last, ' ' :: kept, rfl, by simp, .escaped c isBody,
        .cons (keepsPlace_space (by decide)) keeps⟩
  | case5 taken c source noInterpolation noBacktick noBackslash ih =>
      obtain ⟨body, kept, rfl, rfl, isBody, keeps⟩ := ih found trivial
      refine ⟨c :: body, c :: kept, rfl, by simp, .plain noBacktick noBackslash ?_ isBody,
        .cons (keepsPlace_self c) keeps⟩
      intro dollar opens
      cases body with
      | nil => cases opens
      | cons first others =>
          rw [List.head?_cons, Option.some.injEq] at opens
          exact noInterpolation (others ++ '\x60' :: rest) dollar (by rw [opens]; rfl)
  | case6 taken c source ih =>
      obtain ⟨body, kept, rfl, rfl, isBody, keeps⟩ := ih found trivial
      exact ⟨c :: body, c :: kept, rfl, by simp, ⟨c, body, rfl, isBody⟩,
        .cons (keepsPlace_self c) keeps⟩
  | case7 depth taken c source ih =>
      obtain ⟨body, kept, rfl, rfl, continues, keeps⟩ := ih found (isOpen_inside isOpen c)
      exact ⟨c :: body, blanked c :: kept, rfl, by simp, continues_inside isOpen continues,
        .cons (keepsPlace_blanked c) keeps⟩

/-- What is read from a source is a body that a backtick closes, and its blanked text. -/
theorem read_sound {source text rest : List Char} (found : read source = some (text, rest)) :
    ∃ body, source = body ++ '\x60' :: rest ∧ IsBody body ∧ List.Forall₂ KeepsPlace body text := by
  obtain ⟨body, kept, whole, rfl, isBody, keeps⟩ := scan_sound .raw [] source found trivial
  exact ⟨body, whole, isBody, keeps⟩

theorem closes_nil {depth : Nat} (closes : Closes depth []) : depth = 0 := by
  have total := closes.1
  simp only [List.count_nil, Nat.zero_add] at total
  omega

/-- What closes some braces and begins with an opening one closes one more behind it. -/
theorem Closes.of_open {depth : Nat} {inner : List Char} (closes : Closes depth ('\x7b' :: inner)) :
    Closes (depth + 1) inner := by
  obtain ⟨total, shorter⟩ := closes
  simp only [List.count_cons_self, List.count_cons_of_ne (by decide : '\x7b' ≠ '\x7d')] at total
  refine ⟨by omega, fun length short => ?_⟩
  have before := shorter (length + 1) (by simpa using short)
  simp only [List.take_succ_cons, List.count_cons_self,
    List.count_cons_of_ne (by decide : '\x7b' ≠ '\x7d')] at before
  omega

/-- What closes some braces and begins with a closing one closes one less behind it. -/
theorem Closes.of_close {depth : Nat} {inner : List Char}
    (closes : Closes (depth + 1) ('\x7d' :: inner)) : Closes depth inner := by
  obtain ⟨total, shorter⟩ := closes
  simp only [List.count_cons_self, List.count_cons_of_ne (by decide : '\x7d' ≠ '\x7b')] at total
  refine ⟨by omega, fun length short => ?_⟩
  have before := shorter (length + 1) (by simpa using short)
  simp only [List.take_succ_cons, List.count_cons_self,
    List.count_cons_of_ne (by decide : '\x7d' ≠ '\x7b')] at before
  omega

/-- Nothing more belongs to what is closed already. -/
theorem Closes.eq_nil {inner : List Char} (closes : Closes 0 inner) : inner = [] := by
  cases inner with
  | nil => rfl
  | cons c inner =>
      have first := closes.2 0 (Nat.succ_pos _)
      simp at first

/-- What closes some braces and begins with no brace closes as many behind it. -/
theorem Closes.of_other {depth : Nat} {inner : List Char} {c : Char} (noOpening : c ≠ '\x7b')
    (noClosing : c ≠ '\x7d') (closes : Closes depth (c :: inner)) : Closes depth inner := by
  obtain ⟨total, shorter⟩ := closes
  simp only [List.count_cons_of_ne noOpening, List.count_cons_of_ne noClosing] at total
  refine ⟨total, fun length short => ?_⟩
  have before := shorter (length + 1) (by simpa using short)
  simpa only [List.take_succ_cons, List.count_cons_of_ne noOpening,
    List.count_cons_of_ne noClosing] using before

/-- An interpolation that is open has a next character, and the rest goes on behind it. -/
theorem continues_of_inside {depth : Nat} (positive : 0 < depth) {body : List Char}
    (continues : (Mode.interpolation depth).Continues body) :
    ∃ c rest, body = c :: rest ∧ (Mode.inside depth c).Continues rest := by
  obtain ⟨inner, last, rfl, closes, isBody⟩ := continues
  cases inner with
  | nil =>
      have := closes_nil closes
      omega
  | cons c inner =>
      refine ⟨c, inner ++ last, rfl, ?_⟩
      unfold Mode.inside
      split
      · next opening =>
          subst opening
          exact ⟨inner, last, rfl, closes.of_open, isBody⟩
      · next noOpening =>
          split
          · next closing =>
              subst closing
              obtain ⟨depth, rfl⟩ := Nat.exists_eq_succ_of_ne_zero (Nat.ne_of_gt positive)
              have closed := closes.of_close
              split
              · next last =>
                  have zero : depth = 0 := by omega
                  subst zero
                  rw [closed.eq_nil]
                  exact isBody
              · exact ⟨inner, last, rfl, closed, isBody⟩
          · next noClosing =>
              exact ⟨inner, last, rfl, closes.of_other noOpening noClosing, isBody⟩

/-- The reader takes whatever its mode allows up to the closing backtick. -/
theorem scan_complete (mode : Mode) (taken body rest : List Char) (isOpen : mode.IsOpen)
    (continues : mode.Continues body) :
    ∃ text, scan mode taken (body ++ '\x60' :: rest) = some (text, rest) := by
  -- An interpolation opens with two characters at once, so the induction is on the length.
  induction size : body.length using Nat.strongRecOn generalizing mode taken body with
  | ind size ih =>
      subst size
      cases mode with
      | raw =>
          cases continues with
          | nil => exact ⟨taken.reverse, by simp [scan]⟩
          | escaped c isBody =>
              next others =>
                obtain ⟨text, found⟩ := ih (c :: others).length (by simp) .escaped (' ' :: taken)
                  (c :: others) trivial ⟨c, others, rfl, isBody⟩ rfl
                exact ⟨text, by simpa [scan] using found⟩
          | interpolation closes isBody =>
              next inner last =>
                have shorter : (inner ++ last).length < ('$' :: '\x7b' :: (inner ++ last)).length := by
                  simp only [List.length_cons]
                  omega
                obtain ⟨text, found⟩ := ih (inner ++ last).length shorter
                  (.interpolation 1) (' ' :: ' ' :: taken) (inner ++ last) Nat.one_pos
                  ⟨inner, last, rfl, closes, isBody⟩ rfl
                exact ⟨text, by simpa [scan] using found⟩
          | plain noBacktick noBackslash noDollar isBody =>
              next c others =>
                obtain ⟨text, found⟩ := ih others.length (by simp) .raw (c :: taken) others trivial
                  isBody rfl
                refine ⟨text, ?_⟩
                rw [List.cons_append, scan, if_neg noBacktick, if_neg noBackslash, found]
                rintro after rfl opens
                cases others with
                | nil => cases opens
                | cons first others => exact noDollar rfl (congrArg List.head? opens)
      | escaped =>
          obtain ⟨c, others, rfl, isBody⟩ := continues
          obtain ⟨text, found⟩ := ih others.length (by simp) .raw (c :: taken) others trivial
            isBody rfl
          exact ⟨text, by rw [List.cons_append, scan, found]⟩
      | interpolation depth =>
          obtain ⟨c, others, rfl, goesOn⟩ := continues_of_inside isOpen continues
          obtain ⟨text, found⟩ := ih others.length (by simp) (.inside depth c)
            (blanked c :: taken) others (isOpen_inside isOpen c) goesOn rfl
          exact ⟨text, by rw [List.cons_append, scan, found]⟩

/-- A body that a backtick closes is read, and reading goes on behind that backtick. -/
theorem read_complete {body : List Char} (isBody : IsBody body) (rest : List Char) :
    ∃ text, read (body ++ '\x60' :: rest) = some (text, rest) :=
  scan_complete .raw [] body rest trivial isBody

/-- A template closes at one backtick at most. -/
theorem body_unique {first second firstRest secondRest : List Char} (isFirst : IsBody first)
    (isSecond : IsBody second)
    (same : first ++ '\x60' :: firstRest = second ++ '\x60' :: secondRest) : first = second := by
  obtain ⟨_, firstRead⟩ := read_complete isFirst firstRest
  obtain ⟨_, secondRead⟩ := read_complete isSecond secondRest
  rw [same, secondRead, Option.some.injEq, Prod.mk.injEq] at firstRead
  rw [firstRead.2] at same
  exact List.append_cancel_right same

end OperationCheck.Template
