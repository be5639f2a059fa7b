import Mathlib.Tactic.SplitIfs
import OperationCheck.Text.Bytes
import OperationCheck.Text.Decoding

/-!
Damaged texts. A character of a decoded text is a mark unless exactly its bytes were read. The main
statement says that there is a mark in the text of all bytes that are damaged.
-/

namespace OperationCheck.Text

/-- A character is encoded by the digits of its number. -/
theorem utf8EncodeChar_ofNat {code : Nat} (valid : code.isValidChar) :
    String.utf8EncodeChar (Char.ofNat code) =
      if code ≤ 0x7F then [.ofNat code]
      else if code ≤ 0x7FF then [.ofNat (code / 64 % 32 + 192), .ofNat (code % 64 + 128)]
      else if code ≤ 0xFFFF then
        [.ofNat (code / 4096 % 16 + 224), .ofNat (code / 64 % 64 + 128), .ofNat (code % 64 + 128)]
      else
        [.ofNat (code / 262144 % 8 + 240), .ofNat (code / 4096 % 64 + 128),
          .ofNat (code / 64 % 64 + 128), .ofNat (code % 64 + 128)] := by
  have isCode : (Char.ofNat code).val.toNat = code := by
    rw [Char.ofNat, dif_pos valid]
    rfl
  rw [String.utf8EncodeChar, isCode]

/-- The first byte of a longer character leaves out numbers that are no character, and those that
have a shorter form. -/
theorem readLead_cases {byte count value low high : Nat}
    (lead : readLead byte = some (count, value, low, high)) :
    0x80 ≤ low ∧ high ≤ 0xBF ∧
      ((count = 1 ∧ 0xC2 ≤ byte ∧ byte ≤ 0xDF ∧ value = byte - 0xC0) ∨
        (count = 2 ∧ 0xE0 ≤ byte ∧ byte ≤ 0xEF ∧ value = byte - 0xE0 ∧
          (byte = 0xE0 → 0xA0 ≤ low) ∧ (byte = 0xED → high ≤ 0x9F)) ∨
        (count = 3 ∧ 0xF0 ≤ byte ∧ byte ≤ 0xF4 ∧ value = byte - 0xF0 ∧
          (byte = 0xF0 → 0x90 ≤ low) ∧ (byte = 0xF4 → high ≤ 0x8F))) := by
  unfold readLead at lead
  split_ifs at lead <;>
    simp only [Option.some.injEq, Prod.mk.injEq] at lead <;>
    omega

/-- With no byte to come the code is what was gathered. -/
theorem readContinuation_zero {value low high code : Nat} {input left : List UInt8}
    (isRead : readContinuation 0 value low high input = (some code, left)) :
    code = value ∧ left = input := by
  cases isRead
  exact ⟨rfl, rfl⟩

/-- One more byte continues a character. -/
theorem readContinuation_succ {count value low high code : Nat} {input left : List UInt8}
    (isRead : readContinuation (count + 1) value low high input = (some code, left)) :
    ∃ byte rest, input = byte :: rest ∧ low ≤ byte.toNat ∧ byte.toNat ≤ high ∧
      readContinuation count (value * 64 + (byte.toNat - 0x80)) 0x80 0xBF rest =
        (some code, left) := by
  cases input with
  | nil => cases isRead
  | cons byte rest =>
      rw [readContinuation] at isRead
      split at isRead
      · next within => exact ⟨byte, rest, rfl, within.1, within.2, isRead⟩
      · cases isRead

/-- A byte within these bounds continues a character. -/
def Continues (byte : UInt8) : Prop := 0x80 ≤ byte.toNat ∧ byte.toNat ≤ 0xBF

/-- Two bytes that a lead and a continuation make a character of are the encoding of that
character. -/
theorem utf8EncodeChar_two {first second : UInt8} (isFirst : 0xC2 ≤ first.toNat)
    (isLead : first.toNat ≤ 0xDF) (continues : Continues second) :
    String.utf8EncodeChar
        (Char.ofNat ((first.toNat - 0xC0) * 64 + (second.toNat - 0x80))) = [first, second] := by
  obtain ⟨least, greatest⟩ := continues
  have valid : Nat.isValidChar ((first.toNat - 0xC0) * 64 + (second.toNat - 0x80)) := by
    left
    omega
  rw [utf8EncodeChar_ofNat valid, if_neg (by omega), if_pos (by omega)]
  simp only [List.cons.injEq, ← UInt8.toNat_inj, UInt8.toNat_ofNat', and_true]
  omega

/-- Three bytes are the encoding of their character, if the second rules out a shorter one and a
surrogate. -/
theorem utf8EncodeChar_three {first second third : UInt8} (isFirst : 0xE0 ≤ first.toNat)
    (isLead : first.toNat ≤ 0xEF) (continues : Continues second) (goesOn : Continues third)
    (long : first.toNat = 0xE0 → 0xA0 ≤ second.toNat)
    (noSurrogate : first.toNat = 0xED → second.toNat ≤ 0x9F) :
    String.utf8EncodeChar
        (Char.ofNat (((first.toNat - 0xE0) * 64 + (second.toNat - 0x80)) * 64 +
          (third.toNat - 0x80))) = [first, second, third] := by
  obtain ⟨least, greatest⟩ := continues
  obtain ⟨least', greatest'⟩ := goesOn
  have valid : Nat.isValidChar
      (((first.toNat - 0xE0) * 64 + (second.toNat - 0x80)) * 64 + (third.toNat - 0x80)) := by
    unfold Nat.isValidChar
    omega
  rw [utf8EncodeChar_ofNat valid, if_neg (by omega), if_neg (by omega), if_pos (by omega)]
  simp only [List.cons.injEq, ← UInt8.toNat_inj, UInt8.toNat_ofNat', and_true]
  omega

/-- Four bytes are the encoding of their character, if the second rules out a shorter one and a code
past the last. -/
theorem utf8EncodeChar_four {first second third fourth : UInt8} (isFirst : 0xF0 ≤ first.toNat)
    (isLead : first.toNat ≤ 0xF4) (continues : Continues second) (goesOn : Continues third)
    (ends : Continues fourth) (long : first.toNat = 0xF0 → 0x90 ≤ second.toNat)
    (within : first.toNat = 0xF4 → second.toNat ≤ 0x8F) :
    String.utf8EncodeChar
        (Char.ofNat ((((first.toNat - 0xF0) * 64 + (second.toNat - 0x80)) * 64 +
          (third.toNat - 0x80)) * 64 + (fourth.toNat - 0x80))) = [first, second, third, fourth] := by
  obtain ⟨least, greatest⟩ := continues
  obtain ⟨least', greatest'⟩ := goesOn
  obtain ⟨least'', greatest''⟩ := ends
  have valid : Nat.isValidChar
      ((((first.toNat - 0xF0) * 64 + (second.toNat - 0x80)) * 64 + (third.toNat - 0x80)) * 64 +
        (fourth.toNat - 0x80)) := by
    unfold Nat.isValidChar
    omega
  rw [utf8EncodeChar_ofNat valid, if_neg (by omega), if_neg (by omega), if_neg (by omega)]
  simp only [List.cons.injEq, ← UInt8.toNat_inj, UInt8.toNat_ofNat', and_true]
  omega

/-- A longer character has the bytes that were read for it. -/
theorem readContinuation_exact {byte : UInt8} {count value low high code : Nat}
    {rest left : List UInt8} (lead : readLead byte.toNat = some (count, value, low, high))
    (isRead : readContinuation count value low high rest = (some code, left)) :
    String.utf8EncodeChar (Char.ofNat code) ++ left = byte :: rest := by
  obtain ⟨least, greatest, shape⟩ := readLead_cases lead
  rcases shape with ⟨isCount, isFirst, isLead, isValue⟩ |
    ⟨isCount, isFirst, isLead, isValue, long, noSurrogate⟩ |
    ⟨isCount, isFirst, isLead, isValue, long, within⟩ <;>
    rw [isCount, isValue] at isRead
  -- Each case peels off as many bytes as the first one asks for.
  · obtain ⟨second, rest, rfl, lower, upper, isRead⟩ := readContinuation_succ isRead
    obtain ⟨isCode, rfl⟩ := readContinuation_zero isRead
    rw [isCode, utf8EncodeChar_two isFirst isLead ⟨by omega, by omega⟩]
    rfl
  · obtain ⟨second, rest, rfl, lower, upper, isRead⟩ := readContinuation_succ isRead
    obtain ⟨third, rest, rfl, lower', upper', isRead⟩ := readContinuation_succ isRead
    obtain ⟨isCode, rfl⟩ := readContinuation_zero isRead
    rw [isCode, utf8EncodeChar_three isFirst isLead ⟨by omega, by omega⟩ ⟨lower', upper'⟩
      (by omega) (by omega)]
    rfl
  · obtain ⟨second, rest, rfl, lower, upper, isRead⟩ := readContinuation_succ isRead
    obtain ⟨third, rest, rfl, lower', upper', isRead⟩ := readContinuation_succ isRead
    obtain ⟨fourth, rest, rfl, lower'', upper'', isRead⟩ := readContinuation_succ isRead
    obtain ⟨isCode, rfl⟩ := readContinuation_zero isRead
    rw [isCode, utf8EncodeChar_four isFirst isLead ⟨by omega, by omega⟩ ⟨lower', upper'⟩
      ⟨lower'', upper''⟩ (by omega) (by omega)]
    rfl

/-- Exactly the bytes of a character were read, unless it is a mark. -/
theorem decodeNext_exact {byte : UInt8} {rest left : List UInt8} {c : Char}
    (decoded : decodeNext byte rest = (c, left)) (noMark : c ≠ replacement) :
    String.utf8EncodeChar c ++ left = byte :: rest := by
  unfold decodeNext at decoded
  split at decoded
  · next short =>
      obtain ⟨rfl, rfl⟩ := Prod.mk.inj decoded
      rw [utf8EncodeChar_ofNat (.inl (by omega)), if_pos (by omega), UInt8.ofNat_toNat]
      rfl
  · split at decoded
    · exact absurd (Prod.mk.inj decoded).1.symm noMark
    · next count value low high lead =>
        split at decoded
        · next code behind isRead =>
            obtain ⟨rfl, rfl⟩ := Prod.mk.inj decoded
            exact readContinuation_exact lead isRead
        · exact absurd (Prod.mk.inj decoded).1.symm noMark

/-- A text without marks has the bytes that were decoded. -/
theorem bytes_decodeDamaged {fuel : Nat} {input : List UInt8} (enough : input.length ≤ fuel)
    (noMark : replacement ∉ decodeDamaged fuel input) :
    bytes (decodeDamaged fuel input) = input := by
  -- A character without a mark takes at least one byte, so the fuel lasts.
  induction fuel generalizing input with
  | zero =>
      obtain rfl := List.length_eq_zero_iff.1 (Nat.le_zero.1 enough)
      rfl
  | succ fuel ih =>
      cases input with
      | nil => rfl
      | cons byte rest =>
          rw [decodeDamaged] at noMark ⊢
          cases decoded : decodeNext byte rest with
          | mk c left =>
              rw [decoded] at noMark
              rw [List.mem_cons, not_or] at noMark
              have exact := decodeNext_exact decoded (Ne.symm noMark.1)
              have shorter : left.length ≤ fuel := by
                have visible := List.length_pos_iff.2 (String.utf8EncodeChar_ne_nil (c := c))
                have sizes := congrArg List.length exact
                rw [List.length_append, List.length_cons] at sizes
                rw [List.length_cons] at enough
                omega
              rw [← exact]
              exact congrArg _ (ih shorter noMark.2)

/-- The loop over the bytes puts those from its index on behind those it has. -/
theorem toList_loop_eq (input : ByteArray) (index : Nat) (before : List UInt8) :
    ByteArray.toList.loop input index before = before.reverse ++ input.data.toList.drop index := by
  fun_induction ByteArray.toList.loop input index before with
  | case1 index before within ih =>
      have inside : index < input.data.toList.length := within
      rw [ih, List.drop_eq_getElem_cons inside]
      simp [ByteArray.get!, within]
  | case2 index before outside =>
      have behind : input.data.toList.length ≤ index := Nat.le_of_not_lt outside
      rw [List.drop_eq_nil_of_le behind, List.append_nil]

/-- The list of the bytes makes up the same bytes. -/
theorem toList_toByteArray (input : ByteArray) : input.toList.toByteArray = input := by
  rw [ByteArray.toList, toList_loop_eq]
  apply ByteArray.ext
  simp

/-- Damaged bytes leave a mark. -/
theorem replacement_mem_decode {input : ByteArray} (damaged : String.fromUTF8? input = none) :
    replacement ∈ (decode input).toList := by
  apply Classical.byContradiction
  intro noMark
  rw [decode, damaged] at noMark
  simp only [String.toList_ofList] at noMark
  have enough : input.toList.length ≤ input.size := by
    have sameSize := congrArg ByteArray.size (toList_toByteArray input)
    rw [List.size_toByteArray] at sameSize
    exact Nat.le_of_eq sameSize
  have exact := bytes_decodeDamaged enough noMark
  have valid : input.IsValidUTF8 := by
    apply ByteArray.IsValidUTF8.intro (decodeDamaged input.size input.toList)
    rw [List.utf8Encode, ← bytes, exact, toList_toByteArray]
  rw [String.fromUTF8?, dif_pos valid] at damaged
  cases damaged

end OperationCheck.Text
