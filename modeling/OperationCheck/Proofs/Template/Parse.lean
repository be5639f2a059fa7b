import OperationCheck.Proofs.Template.Openers
import OperationCheck.Proofs.Template.Places

/-!
The parse of a source into embedded operations. It takes the next opener and the backtick that
closes its template, and goes on behind that backtick. The main statement says that the blocks of
a source are those of this parse, and which openers it leaves out.
-/

namespace OperationCheck.Template

open OperationCheck.Text

/-- An opener stands at a place of a source, and the body begins at another place behind it. -/
def OpensAt (source : List Char) (start inside : Nat) : Prop :=
  ∃ opening rest, source.drop start = opening ++ rest ∧ inside = start + opening.length ∧
    IsOpener (source.take start) opening

/-- The template whose body begins at a place closes just before another one. -/
def ClosesAt (source : List Char) (inside stop : Nat) : Prop :=
  ∃ body rest, source.drop inside = body ++ '\x60' :: rest ∧ stop = inside + body.length + 1 ∧
    IsBody body

/-- A span has an opener, a body and the backtick that closes it. -/
structure Span where
  start : Nat
  inside : Nat
  stop : Nat

/-- This is the first opener from a place on. -/
structure IsNext (source : List Char) (reached start inside : Nat) : Prop where
  behind : reached ≤ start
  opens : OpensAt source start inside
  first : ∀ earlier, reached ≤ earlier → earlier < start → ∀ inside, ¬OpensAt source earlier inside

/-- The parse from a place on gives spans in order. It goes up to the end of the source, or to the
first opener whose template never closes. -/
inductive GreedyParse (source : List Char) : Nat → List Span → Nat → Prop where
  | finished {reached : Nat} (none : ∀ start, reached ≤ start → ∀ inside,
      ¬OpensAt source start inside) : GreedyParse source reached [] source.length
  | unclosed {reached start inside : Nat} (next : IsNext source reached start inside)
      (never : ∀ stop, ¬ClosesAt source inside stop) : GreedyParse source reached [] start
  | block {reached limit : Nat} {span : Span} {spans : List Span}
      (next : IsNext source reached span.start span.inside)
      (closes : ClosesAt source span.inside span.stop)
      (rest : GreedyParse source span.stop spans limit) :
      GreedyParse source reached (span :: spans) limit

/-- The block of a span has the place and the text of its body. -/
structure Span.Gives (source : List Char) (span : Span) (block : Block) : Prop where
  place : block.position = placeOf (source.take span.inside)
  text : read (source.drop span.inside) = some (block.text, source.drop span.stop)

/-- The backtick of an opener is one of its characters. -/
theorem isOpener_ne_nil {before opening : List Char} (isOpener : IsOpener before opening) :
    opening ≠ [] := by
  rintro rfl
  have found := (recognizes_matchOpener before [] ([], [])).2 ⟨rfl, isOpener⟩
  obtain ⟨taken, isEnd⟩ := endsOpener_matchOpener _ _ _ found
  simp at isEnd

theorem OpensAt.lt {source : List Char} {start inside : Nat} (opens : OpensAt source start inside) :
    start < inside := by
  obtain ⟨opening, _, _, rfl, isOpener⟩ := opens
  have := List.length_pos_of_ne_nil (isOpener_ne_nil isOpener)
  omega

theorem OpensAt.start_lt {source : List Char} {start inside : Nat}
    (opens : OpensAt source start inside) : start < source.length := by
  obtain ⟨opening, rest, split, _, isOpener⟩ := opens
  have := List.length_pos_of_ne_nil (isOpener_ne_nil isOpener)
  have total := congrArg List.length split
  rw [List.length_drop, List.length_append] at total
  omega

/-- One opener at most stands at a place. -/
theorem OpensAt.unique {source : List Char} {start first second : Nat}
    (isFirst : OpensAt source start first) (isSecond : OpensAt source start second) :
    first = second := by
  obtain ⟨opening, rest, split, rfl, isOpener⟩ := isFirst
  obtain ⟨other, otherRest, otherSplit, rfl, isOther⟩ := isSecond
  have found := (recognizes_matchOpener _ _ (opening, rest)).2 ⟨split.symm, isOpener⟩
  rw [(recognizes_matchOpener _ _ (other, otherRest)).2 ⟨otherSplit.symm, isOther⟩,
    Option.some.injEq, Prod.mk.injEq] at found
  rw [found.1]

theorem ClosesAt.lt {source : List Char} {inside stop : Nat} (closes : ClosesAt source inside stop) :
    inside < stop := by
  obtain ⟨body, _, _, rfl, _⟩ := closes
  omega

theorem ClosesAt.le_length {source : List Char} {inside stop : Nat}
    (closes : ClosesAt source inside stop) : stop ≤ source.length := by
  obtain ⟨body, rest, split, rfl, _⟩ := closes
  have total := congrArg List.length split
  rw [List.length_drop, List.length_append, List.length_cons] at total
  omega

/-- A body closes in one place only. -/
theorem ClosesAt.unique {source : List Char} {inside first second : Nat}
    (isFirst : ClosesAt source inside first) (isSecond : ClosesAt source inside second) :
    first = second := by
  obtain ⟨body, _, split, rfl, isBody⟩ := isFirst
  obtain ⟨other, _, otherSplit, rfl, isOther⟩ := isSecond
  rw [body_unique isBody isOther (split.symm.trans otherSplit)]

/-- What the reader takes for an opener is the one at the place that it has reached. -/
theorem opensAt_of_matchOpener {passed source opening inside : List Char}
    (found : matchOpener passed.getLast? source = some (opening, inside)) :
    OpensAt (passed ++ source) passed.length (passed ++ opening).length := by
  obtain ⟨whole, isOpener⟩ := (recognizes_matchOpener passed source _).1 found
  exact ⟨opening, inside, by rw [List.drop_left, ← whole], List.length_append, by
    rwa [List.take_left]⟩

/-- The reader leaves no opener out. -/
theorem not_opensAt_of_matchOpener {passed source : List Char}
    (found : matchOpener passed.getLast? source = none) (inside : Nat) :
    ¬OpensAt (passed ++ source) passed.length inside := by
  rintro ⟨opening, rest, split, _, isOpener⟩
  rw [List.drop_left] at split
  rw [List.take_left] at isOpener
  rw [(recognizes_matchOpener passed source (opening, rest)).2 ⟨split.symm, isOpener⟩] at found
  cases found

/-- When there is no opener at a place, the parse may as well begin behind it. -/
theorem GreedyParse.skip {source : List Char} {reached limit : Nat} {spans : List Span}
    (noOpener : ∀ inside, ¬OpensAt source reached inside)
    (parse : GreedyParse source (reached + 1) spans limit) :
    GreedyParse source reached spans limit := by
  have next {start inside : Nat} (isNext : IsNext source (reached + 1) start inside) :
      IsNext source reached start inside := by
    refine ⟨Nat.le_of_succ_le isNext.behind, isNext.opens, fun earlier behind short => ?_⟩
    rcases Nat.eq_or_lt_of_le behind with rfl | later
    · exact noOpener
    · exact isNext.first earlier later short
  cases parse with
  | finished none =>
      refine .finished fun start behind => ?_
      rcases Nat.eq_or_lt_of_le behind with rfl | later
      · exact noOpener
      · exact none start later
  | unclosed isNext never => exact .unclosed (next isNext) never
  | block isNext closes rest => exact .block (next isNext) closes rest

/-- Reading from a place on gives the blocks of the parse from there on. -/
theorem blocksFrom_parse (before : Option Char) (position : Position) (source passed : List Char)
    (last : before = passed.getLast?) (reached : position = placeOf passed) :
    ∃ spans limit, GreedyParse (passed ++ source) passed.length spans limit ∧
      List.Forall₂ (Span.Gives (passed ++ source)) spans (blocksFrom before position source) := by
  -- The induction carries along what was passed, since openers look at the character before them.
  fun_induction blocksFrom before position source generalizing passed with
  | case1 before position =>
      refine ⟨[], _, .finished fun start behind inside opens => ?_, .nil⟩
      have := opens.start_lt
      rw [List.append_nil] at this
      omega
  | case2 before position c rest noOpener ih =>
      obtain ⟨spans, limit, parse, gives⟩ :=
        ih (passed ++ [c]) (by simp) (by rw [placeOf_concat, reached])
      rw [List.append_assoc, List.singleton_append] at parse gives
      rw [List.length_append] at parse
      rw [last] at noOpener
      exact ⟨spans, limit, parse.skip (not_opensAt_of_matchOpener noOpener), gives⟩
  | case3 before position c rest opening inside opener unread =>
      rw [last] at opener
      refine ⟨[], passed.length, .unclosed ⟨Nat.le_refl _, opensAt_of_matchOpener opener,
        fun earlier behind short => absurd behind (Nat.not_le_of_lt short)⟩ ?_, .nil⟩
      rintro stop ⟨body, behind, split, _, isBody⟩
      have whole : opening ++ inside = c :: rest := splits_matchOpener _ _ _ opener
      rw [← whole, ← List.append_assoc, List.drop_left] at split
      obtain ⟨text, found⟩ := read_complete isBody behind
      rw [split, found] at unread
      cases unread
  | case4 before position c rest opening inside opener text remaining body start =>
      rename_i ih
      rw [last] at opener
      obtain ⟨inner, rfl, encloses, keeps⟩ := encloses_of_read opener body
      have split : (passed ++ c :: rest).drop (passed ++ opening).length =
          inner ++ '\x60' :: remaining := by
        rw [encloses.whole, List.append_assoc, List.drop_left]
      obtain ⟨spans, limit, parse, gives⟩ := ih (passed ++ opening ++ inner ++ ['\x60']) (by simp)
        (placeOf_closed reached keeps opening)
      rw [encloses.split] at parse gives
      refine ⟨⟨passed.length, (passed ++ opening).length,
        (passed ++ opening ++ inner ++ ['\x60']).length⟩ :: spans, limit,
        .block ⟨Nat.le_refl _, opensAt_of_matchOpener opener,
          fun earlier behind short => absurd behind (Nat.not_le_of_lt short)⟩ ?_ parse,
        .cons ⟨?_, ?_⟩ gives⟩
      · exact ⟨inner, remaining, split, by
          simp only [List.length_append, List.length_singleton], encloses.closed⟩
      · change start = placeOf ((passed ++ c :: rest).take (passed ++ opening).length)
        rw [encloses.whole, List.append_assoc, List.take_left, placeOf_append, ← reached]
      · change read ((passed ++ c :: rest).drop (passed ++ opening).length) =
          some (text, (passed ++ c :: rest).drop (passed ++ opening ++ inner ++ ['\x60']).length)
        rw [split, body, ← encloses.split, List.drop_left]

/-- The spans of a parse come one after the other, from its beginning up to its limit. -/
theorem GreedyParse.ordered {source : List Char} {reached limit : Nat} {spans : List Span}
    (parse : GreedyParse source reached spans limit) (within : reached ≤ source.length) :
    reached ≤ limit ∧ (∀ span ∈ spans, reached ≤ span.start ∧ span.stop ≤ limit) ∧
      spans.Pairwise fun earlier later => earlier.stop ≤ later.start := by
  induction parse with
  | finished => exact ⟨within, nofun, .nil⟩
  | unclosed isNext => exact ⟨isNext.behind, nofun, .nil⟩
  | @block reached limit span spans isNext closes rest ih =>
      obtain ⟨behind, bounds, ordered⟩ := ih closes.le_length
      have first := isNext.behind
      have second := isNext.opens.lt
      have third := closes.lt
      refine ⟨by omega, fun member inSpans => ?_, .cons (fun member later => ?_) ordered⟩
      · rcases List.mem_cons.1 inSpans with rfl | later
        · exact ⟨first, behind⟩
        · exact ⟨by have := (bounds member later).1; omega, (bounds member later).2⟩
      · exact (bounds member later).1

/-- Each span of a parse has an opener and the closing backtick of its template. -/
theorem GreedyParse.spans_closed {source : List Char} {reached limit : Nat} {spans : List Span}
    (parse : GreedyParse source reached spans limit) :
    ∀ span ∈ spans, OpensAt source span.start span.inside ∧
      ClosesAt source span.inside span.stop := by
  induction parse with
  | finished => nofun
  | unclosed => nofun
  | block isNext closes rest ih =>
      rintro member inSpans
      rcases List.mem_cons.1 inSpans with rfl | later
      · exact ⟨isNext.opens, closes⟩
      · exact ih member later

/-- An opener before the limit of a parse begins a span unless it stands within an earlier one. -/
theorem GreedyParse.complete {source : List Char} {reached limit : Nat} {spans : List Span}
    (parse : GreedyParse source reached spans limit) {start inside : Nat}
    (opens : OpensAt source start inside) (behind : reached ≤ start) (before : start < limit)
    (outside : ∀ span ∈ spans, span.start < start → span.stop ≤ start) :
    ∃ span ∈ spans, span.start = start ∧ span.inside = inside := by
  induction parse with
  | finished none => exact absurd opens (none start behind inside)
  | unclosed isNext => exact absurd opens (isNext.first start behind before inside)
  | @block reached limit span spans isNext closes rest ih =>
      rcases Nat.lt_trichotomy start span.start with earlier | same | later
      · exact absurd opens (isNext.first start behind earlier inside)
      · subst same
        exact ⟨span, List.mem_cons_self, rfl, isNext.opens.unique opens⟩
      · obtain ⟨found, member, isStart⟩ := ih (outside span List.mem_cons_self later) before
          fun other member => outside other (List.mem_cons_of_mem span member)
        exact ⟨found, List.mem_cons_of_mem span member, isStart⟩

/-- A parse ends where the source does, or at an opener whose template never closes. -/
theorem GreedyParse.ends {source : List Char} {reached limit : Nat} {spans : List Span}
    (parse : GreedyParse source reached spans limit) :
    limit = source.length ∨
      ∃ inside, OpensAt source limit inside ∧ ∀ stop, ¬ClosesAt source inside stop := by
  induction parse with
  | finished => exact .inl rfl
  | unclosed isNext never => exact .inr ⟨_, isNext.opens, never⟩
  | block _ _ _ ih => exact ih

/-- There is one next opener at most. -/
theorem IsNext.unique {source : List Char} {reached start inside otherStart otherInside : Nat}
    (isNext : IsNext source reached start inside)
    (isOther : IsNext source reached otherStart otherInside) :
    start = otherStart ∧ inside = otherInside := by
  have same : start = otherStart := by
    rcases Nat.lt_trichotomy start otherStart with earlier | same | later
    · exact absurd isNext.opens (isOther.first start isNext.behind earlier inside)
    · exact same
    · exact absurd isOther.opens (isNext.first otherStart isOther.behind later otherInside)
  subst same
  exact ⟨rfl, isNext.opens.unique isOther.opens⟩

/-- A source has one parse from each place. -/
theorem GreedyParse.unique {source : List Char} {reached limit otherLimit : Nat}
    {spans others : List Span} (parse : GreedyParse source reached spans limit)
    (other : GreedyParse source reached others otherLimit) :
    others = spans ∧ otherLimit = limit := by
  induction parse generalizing others otherLimit with
  | finished none =>
      cases other with
      | finished => exact ⟨rfl, rfl⟩
      | unclosed isNext => exact absurd isNext.opens (none _ isNext.behind _)
      | block isNext => exact absurd isNext.opens (none _ isNext.behind _)
  | unclosed isNext never =>
      cases other with
      | finished none => exact absurd isNext.opens (none _ isNext.behind _)
      | unclosed isOther => exact ⟨rfl, (isNext.unique isOther).1.symm⟩
      | block isOther closes =>
          rw [← (isNext.unique isOther).2] at closes
          exact absurd closes (never _)
  | @block reached limit span spans isNext closes rest ih =>
      cases other with
      | finished none => exact absurd isNext.opens (none _ isNext.behind _)
      | unclosed isOther never =>
          rw [(isNext.unique isOther).2] at closes
          exact absurd closes (never _)
      | @block _ _ member members isOther otherCloses otherRest =>
          obtain ⟨start, inside, stop⟩ := span
          obtain ⟨otherStart, otherInside, otherStop⟩ := member
          obtain ⟨rfl, rfl⟩ := isNext.unique isOther
          obtain rfl := closes.unique otherCloses
          obtain ⟨rfl, rfl⟩ := ih otherRest
          exact ⟨rfl, rfl⟩

/-- The blocks of a source are those of its greedy parse, which is unique. Their spans do not overlap and are in
order. Each body begins behind an opener and goes up to the first backtick that closes it. Every
opener begins a block unless it stands within the span of an earlier one, up to the first opener
whose template never closes. -/
theorem blocks_parse (source : List Char) :
    ∃ spans limit, GreedyParse source 0 spans limit ∧
      (∀ others otherLimit, GreedyParse source 0 others otherLimit →
        others = spans ∧ otherLimit = limit) ∧
      List.Forall₂ (Span.Gives source) spans (blocks source) ∧
      (spans.Pairwise fun earlier later => earlier.stop ≤ later.start) ∧
      (∀ span ∈ spans, span.start < span.inside ∧ span.inside < span.stop ∧
        OpensAt source span.start span.inside ∧ ClosesAt source span.inside span.stop ∧
        ∀ other, ClosesAt source span.inside other → span.stop ≤ other) ∧
      (∀ span ∈ spans, span.stop ≤ limit) ∧
      (limit = source.length ∨
        ∃ inside, OpensAt source limit inside ∧ ∀ stop, ¬ClosesAt source inside stop) ∧
      ∀ start inside, OpensAt source start inside → start < limit →
        (∀ span ∈ spans, span.start < start → span.stop ≤ start) →
        ∃ span ∈ spans, span.start = start ∧ span.inside = inside := by
  obtain ⟨spans, limit, parse, gives⟩ := blocksFrom_parse none .start source [] rfl rfl
  obtain ⟨_, bounds, ordered⟩ := parse.ordered (Nat.zero_le _)
  refine ⟨spans, limit, parse, fun _ _ => parse.unique, gives, ordered, fun span member => ?_,
    fun span member => (bounds span member).2, parse.ends,
    fun start inside opens before outside =>
      parse.complete opens (Nat.zero_le _) before outside⟩
  obtain ⟨opens, closes⟩ := parse.spans_closed span member
  exact ⟨opens.lt, closes.lt, opens, closes,
    fun other isOther => Nat.le_of_eq (closes.unique isOther)⟩

end OperationCheck.Template
