import OperationCheck.Text.Bytes

/-!
Writers, which take the bytes of a report. The main statement says what a writer with enough room
has taken after a text.
-/

namespace OperationCheck.Report

open OperationCheck.Text

/-- A writer may have a limit on the number of bytes that it takes in all. -/
structure Writer where
  limit : Option Nat
  written : List UInt8
deriving Repr, DecidableEq

def Writer.unlimited : Writer := ⟨none, []⟩

def Writer.limited (limit : Nat) : Writer := ⟨some limit, []⟩

/-- A text fits when the limit is not exceeded. -/
def Writer.fits (writer : Writer) (text : List Char) : Bool :=
  writer.limit.all fun limit => writer.written.length + (bytes text).length ≤ limit

/-- A writer takes as much of a text as there is room for. -/
def Writer.write (writer : Writer) (text : List Char) : Writer :=
  let written := writer.written ++ bytes text
  { writer with written := match writer.limit with
    | none => written
    | some limit => written.take limit }

/-- A text that fits is written whole. -/
theorem Writer.write_written (writer : Writer) (text : List Char)
    (room : writer.fits text = true) :
    (writer.write text).written = writer.written ++ bytes text := by
  simp only [write]
  cases found : writer.limit with
  | none => rfl
  | some limit =>
      simp only [fits, found, Option.all_some, decide_eq_true_eq] at room
      exact List.take_of_length_le (by simpa using room)

/-- A writer never takes more than its limit. -/
@[simp] theorem Writer.fits_nil_write (writer : Writer) (text : List Char) :
    (writer.write text).fits [] = true := by
  obtain ⟨limit, written⟩ := writer
  cases limit with
  | none => rfl
  | some limit =>
      exact decide_eq_true (List.length_take_le limit (written ++ bytes text))

/-- Writing nothing changes nothing, unless the writer has already run over. -/
theorem Writer.write_nil {writer : Writer} (within : writer.fits [] = true) :
    writer.write [] = writer := by
  obtain ⟨limit, written⟩ := writer
  cases limit with
  | none => simp [write]
  | some limit =>
      have short : written.length ≤ limit := of_decide_eq_true within
      simp [write, List.take_of_length_le short]

/-- Bytes beyond the limit do not matter for what is taken later. -/
theorem take_take_append (limit : Nat) (first second : List UInt8) :
    (first.take limit ++ second).take limit = (first ++ second).take limit := by
  by_cases short : first.length ≤ limit
  · rw [List.take_of_length_le short]
  · have long : limit ≤ first.length := by omega
    rw [List.take_append_of_le_length long,
      List.take_append_of_le_length (by simp [long]), List.take_take, Nat.min_self]

/-- Two texts written one after the other are their concatenation written at once. -/
theorem Writer.write_append (writer : Writer) (first second : List Char) :
    (writer.write first).write second = writer.write (first ++ second) := by
  obtain ⟨limit, written⟩ := writer
  cases limit with
  | none => simp [write, bytes_append]
  | some limit =>
      simp only [write, bytes_append, take_take_append, List.append_assoc]

/-- Two texts fit when the second one fits behind the first. -/
theorem Writer.fits_append (writer : Writer) (first second : List Char) :
    writer.fits (first ++ second) = (writer.fits first && (writer.write first).fits second) := by
  obtain ⟨limit, written⟩ := writer
  cases limit with
  | none => rfl
  | some limit =>
      by_cases room : written.length + (bytes first).length ≤ limit
      · have whole : (written ++ bytes first).take limit = written ++ bytes first :=
          List.take_of_length_le (by simpa using room)
        simp [fits, write, bytes_append, whole, room, Nat.add_assoc]
      · have more : ¬ written.length + ((bytes first).length + (bytes second).length) ≤ limit := by
          omega
        simp [fits, bytes_append, room, more]

/-- What comes behind a text that does not fit is lost. -/
theorem Writer.write_append_of_full {writer : Writer} {first : List Char}
    (full : writer.fits first = false) (second : List Char) :
    writer.write (first ++ second) = writer.write first := by
  obtain ⟨limit, written⟩ := writer
  cases limit with
  | none => simp [fits] at full
  | some limit =>
      have beyond : limit ≤ (written ++ bytes first).length := by
        simp only [fits, Option.all_some, decide_eq_false_iff_not] at full
        simp only [List.length_append]
        omega
      simp only [write, bytes_append, Writer.mk.injEq, true_and]
      rw [← List.append_assoc, List.take_append_of_le_length beyond]

end OperationCheck.Report
