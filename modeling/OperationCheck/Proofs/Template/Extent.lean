import OperationCheck.Proofs.Template.Parse
import OperationCheck.Text.Bytes

/-!
How far templates go. Behind an opener, the reader takes the only beginning of a source that is a
body with the backtick that closes it. The main statement says when there is such a beginning, how
many bytes of the source it has, and that every search for openers begins behind the one before.
-/

namespace OperationCheck.Template

open OperationCheck.Text

/-- Behind its opener, a template is a body and the backtick that closes it. -/
def IsClosed (taken : List Char) : Prop := ∃ body, IsBody body ∧ taken = body ++ ['\x60']

theorem IsClosed.ne_nil {taken : List Char} (closed : IsClosed taken) : taken ≠ [] := by
  obtain ⟨body, -, rfl⟩ := closed
  simp

/-- A closed body is read to its end, whatever stands behind. -/
theorem IsClosed.read {taken : List Char} (closed : IsClosed taken) (rest : List Char) :
    ∃ text, Template.read (taken ++ rest) = some (text, rest) := by
  obtain ⟨body, isBody, rfl⟩ := closed
  rw [List.append_assoc, List.singleton_append]
  exact read_complete isBody rest

/-- What is read off a source is a closed body in front of the rest. -/
theorem exists_closed_of_read {source text rest : List Char}
    (isRead : read source = some (text, rest)) :
    ∃ taken, IsClosed taken ∧ taken ++ rest = source := by
  obtain ⟨body, rfl, isBody, -⟩ := read_sound isRead
  exact ⟨body ++ ['\x60'], ⟨body, isBody, rfl⟩, by simp⟩

/-- A source has one closed beginning at most. -/
theorem IsClosed.unique {source taken other : List Char} (closed : IsClosed taken)
    (otherClosed : IsClosed other) (begins : taken <+: source) (otherBegins : other <+: source) :
    taken = other := by
  obtain ⟨rest, rfl⟩ := begins
  obtain ⟨otherRest, same⟩ := otherBegins
  obtain ⟨text, isRead⟩ := closed.read rest
  obtain ⟨otherText, isOther⟩ := otherClosed.read otherRest
  rw [same, isRead] at isOther
  obtain ⟨-, rfl⟩ := Prod.mk.inj (Option.some.inj isOther)
  exact (List.append_cancel_right same).symm

/-- The number of bytes that the reader takes of a source. -/
def readSize? (source : List Char) : Option Nat :=
  (read source).map fun (_, rest) => (bytes source).length - (bytes rest).length

theorem length_bytes_append (front rest : List Char) :
    (bytes (front ++ rest)).length = (bytes front).length + (bytes rest).length := by
  rw [bytes_append, List.length_append]

/-- Every character has at least one byte. -/
theorem length_bytes_pos {text : List Char} (visible : text ≠ []) : 0 < (bytes text).length := by
  cases text with
  | nil => exact absurd rfl visible
  | cons c rest =>
      have first := c.utf8Size_pos
      simp only [bytes, List.flatMap_cons, List.length_append, String.length_utf8EncodeChar]
      omega

/-- The bytes of a beginning end between two characters. -/
theorem isValid_of_begins {source taken : List Char} (begins : taken <+: source) :
    (String.Pos.Raw.mk (bytes taken).length).IsValid (String.ofList source) := by
  obtain ⟨rest, rfl⟩ := begins
  rw [String.Pos.Raw.isValid_ofList]
  use taken.length
  rw [List.take_left]
  simp [← String.size_toByteArray, List.utf8Encode, bytes]

/-- The size of a closed body is its length in bytes. -/
theorem readSize_of_closed {taken : List Char} (closed : IsClosed taken) (rest : List Char) :
    readSize? (taken ++ rest) = some (bytes taken).length := by
  obtain ⟨text, isRead⟩ := closed.read rest
  rw [readSize?, isRead, Option.map_some, length_bytes_append]
  dsimp only
  rw [Nat.add_sub_cancel]

/-- What is read has the size of the closed beginning. -/
theorem readSize_eq_some_iff {source : List Char} {size : Nat} :
    readSize? source = some size ↔
      ∃ taken, IsClosed taken ∧ taken <+: source ∧ (bytes taken).length = size := by
  constructor
  · intro isSize
    obtain ⟨⟨text, rest⟩, isRead, -⟩ := Option.map_eq_some_iff.1 isSize
    obtain ⟨taken, closed, rfl⟩ := exists_closed_of_read isRead
    rw [readSize_of_closed closed, Option.some.injEq] at isSize
    exact ⟨taken, closed, List.prefix_append taken rest, isSize⟩
  · rintro ⟨taken, closed, ⟨rest, rfl⟩, rfl⟩
    exact readSize_of_closed closed rest

/-- There is no size just where no beginning of the source is a closed body. -/
theorem readSize_eq_none_iff {source : List Char} :
    readSize? source = none ↔ ∀ taken, IsClosed taken → ¬taken <+: source := by
  rw [Option.eq_none_iff_forall_ne_some]
  constructor
  · intro unread taken closed begins
    exact unread _ (readSize_eq_some_iff.2 ⟨taken, closed, begins, rfl⟩)
  · intro noBeginning size isSize
    obtain ⟨taken, closed, begins, -⟩ := readSize_eq_some_iff.1 isSize
    exact noBeginning taken closed begins

/-- The number of bytes before a place of a source. -/
def byteOffset (source : List Char) (place : Nat) : Nat := (bytes (source.take place)).length

/-- Offsets grow with positions, each character taking a byte at least. -/
theorem byteOffset_lt {source : List Char} {first second : Nat} (before : first < second)
    (within : second ≤ source.length) : byteOffset source first < byteOffset source second := by
  have split : source.take second =
      source.take first ++ (source.drop first).take (second - first) := by
    rw [← List.take_add, Nat.add_sub_cancel' (Nat.le_of_lt before)]
  have between : (source.drop first).take (second - first) ≠ [] := by
    apply List.ne_nil_of_length_pos
    rw [List.length_take, List.length_drop]
    omega
  have further := length_bytes_pos between
  rw [byteOffset, byteOffset, split, length_bytes_append]
  omega

/-- Where a template closes, the reader has taken all its bytes. -/
theorem ClosesAt.byteOffset_eq {source : List Char} {inside stop : Nat}
    (closes : ClosesAt source inside stop) :
    ∃ size, readSize? (source.drop inside) = some size ∧
      byteOffset source stop = byteOffset source inside + size := by
  obtain ⟨body, rest, split, rfl, isBody⟩ := closes
  have closed : IsClosed (body ++ ['\x60']) := ⟨body, isBody, rfl⟩
  have whole : source.drop inside = (body ++ ['\x60']) ++ rest := by
    rw [split, List.append_assoc, List.singleton_append]
  have passed : source.take (inside + body.length + 1) =
      source.take inside ++ (body ++ ['\x60']) := by
    rw [Nat.add_assoc, List.take_add, whole, List.take_left' (by simp)]
  refine ⟨(bytes (body ++ ['\x60'])).length, ?_, ?_⟩
  · rw [whole, readSize_of_closed closed]
  · rw [byteOffset, passed, length_bytes_append, byteOffset]

/-- A source is searched from its start, and then from behind each span. -/
def searches (spans : List Span) : List Nat := 0 :: spans.map Span.stop

/-- No search begins where another one did, or before that. -/
theorem GreedyParse.searches_ascending {source : List Char} {spans : List Span} {limit : Nat}
    (parse : GreedyParse source 0 spans limit) :
    ((searches spans).map (byteOffset source)).Pairwise (· < ·) := by
  obtain ⟨-, -, ordered⟩ := parse.ordered (Nat.zero_le _)
  have closed := parse.spans_closed
  have moves : ∀ span ∈ spans, span.start < span.stop ∧ span.stop ≤ source.length := by
    intro span member
    obtain ⟨opens, closes⟩ := closed span member
    exact ⟨Nat.lt_trans opens.lt closes.lt, closes.le_length⟩
  rw [searches, List.map_cons, List.pairwise_cons, List.map_map, List.pairwise_map]
  constructor
  · intro offset member
    obtain ⟨span, isSpan, rfl⟩ := List.mem_map.1 member
    obtain ⟨further, within⟩ := moves span isSpan
    exact byteOffset_lt (Nat.zero_lt_of_lt further) within
  · apply ordered.imp_of_mem
    intro earlier later isEarlier isLater behind
    obtain ⟨further, within⟩ := moves later isLater
    exact byteOffset_lt (Nat.lt_of_le_of_lt behind further) within

/-- The reader takes a template exactly when a beginning of the source is one. There is only one such
beginning, and its bytes are what is taken: at least one, at most all, and only whole characters. In
the parse of a source, the next search begins behind the bytes that were taken, and so behind every
search before. -/
theorem readSize_exact (source : List Char) :
    ((∃ text rest, read source = some (text, rest)) ↔
        ∃ taken, IsClosed taken ∧ taken <+: source) ∧
      (read source = none ↔ ∀ taken, IsClosed taken → ¬taken <+: source) ∧
      (∀ taken other, IsClosed taken → IsClosed other → taken <+: source → other <+: source →
        taken = other) ∧
      (∀ taken, IsClosed taken → taken <+: source →
        readSize? source = some (bytes taken).length ∧ 0 < (bytes taken).length ∧
          (bytes taken).length ≤ (bytes source).length ∧
          (String.Pos.Raw.mk (bytes taken).length).IsValid (String.ofList source)) ∧
      ∃ spans limit, GreedyParse source 0 spans limit ∧
        List.Forall₂ (Span.Gives source) spans (blocks source) ∧
        (∀ span ∈ spans, ∃ size, readSize? (source.drop span.inside) = some size ∧
          byteOffset source span.stop = byteOffset source span.inside + size) ∧
        ((searches spans).map (byteOffset source)).Pairwise (· < ·) := by
  have isNone : read source = none ↔ ∀ taken, IsClosed taken → ¬taken <+: source := by
    rw [← readSize_eq_none_iff, readSize?, Option.map_eq_none_iff]
  refine ⟨?_, isNone, ?_, ?_, ?_⟩
  · constructor
    · rintro ⟨text, rest, isRead⟩
      obtain ⟨taken, closed, rfl⟩ := exists_closed_of_read isRead
      exact ⟨taken, closed, List.prefix_append taken rest⟩
    · rintro ⟨taken, closed, rest, rfl⟩
      obtain ⟨text, isRead⟩ := closed.read rest
      exact ⟨text, rest, isRead⟩
  · intro taken other closed otherClosed begins otherBegins
    exact closed.unique otherClosed begins otherBegins
  · intro taken closed begins
    have isSize := readSize_eq_some_iff.2 ⟨taken, closed, begins, rfl⟩
    have within : (bytes taken).length ≤ (bytes source).length := by
      obtain ⟨rest, rfl⟩ := begins
      simp only [length_bytes_append]
      omega
    exact ⟨isSize, length_bytes_pos closed.ne_nil, within, isValid_of_begins begins⟩
  · obtain ⟨spans, limit, parse, gives⟩ := blocksFrom_parse none .start source [] rfl rfl
    refine ⟨spans, limit, parse, gives, ?_, parse.searches_ascending⟩
    intro span member
    exact (parse.spans_closed span member).2.byteOffset_eq

end OperationCheck.Template
