import OperationCheck.Proofs.Report.Account

/-!
Reports with a limit on their length. A report is a list of actions, which can be carried out with
any sink for its texts. The main statement says that a report with a limited sink fails exactly when
the whole report is longer than the limit. What was taken until then is the beginning of the whole
report, and without a failure the two reports are the same.
-/

namespace OperationCheck.Report

open OperationCheck.Documents OperationCheck.Text OperationCheck.Validation

/-- A report counts and warns, and it writes texts. -/
inductive Action where
  | count (summary : Summary) (warnings : List Warning)
  | write (text : List Char)

def Action.account : Action → Account
  | .count summary warnings => ⟨summary, [], warnings⟩
  | .write text => ⟨.zero, text, []⟩

/-- A diagnostic is counted when it has been written. -/
def locationActions (formatter : Formatter) (document : Document) (problem : Problem)
    (location : Location) : List Action :=
  [.write (locationText formatter document problem location), .count ⟨0, 0, 0, 1⟩ []]

def problemActions (formatter : Formatter) (document : Document) (problem : Problem) :
    List Action :=
  .count ⟨0, 0, 1, 0⟩ (problemWarnings document problem) ::
    problem.locations.flatMap (locationActions formatter document problem)

def documentActions (validator : Validator) (formatter : Formatter) (pointer : String)
    (document : Document) : List Action :=
  match validator document with
  | [] => [.count ⟨1, 1, 0, 0⟩ [], .write (formatter.success pointer ++ ['\n'])]
  | problems => .count ⟨1, 0, 0, 0⟩ [] :: problems.flatMap (problemActions formatter document)

def reportActions (validator : Validator) (formatter : Formatter) (pointer : String)
    (documents : List Document) : List Action :=
  documents.flatMap (documentActions validator formatter pointer)

/-- A sink takes texts in turn, and it gives an error when it fails. In each state it has taken some
bytes. -/
structure Sink (σ ε : Type) where
  taken : σ → List UInt8
  write : σ → List Char → Except (ε × σ) σ

/-- This is what a report with a sink has counted and warned of so far. -/
structure Standing (σ : Type) where
  summary : Summary
  state : σ
  warnings : List Warning

section Sinks

variable {σ ε : Type}

/-- An action that fails ends the report. -/
def Sink.perform (sink : Sink σ ε) (standing : Standing σ) :
    Action → Except (ε × Standing σ) (Standing σ)
  | .count summary warnings => .ok { standing with
      summary := standing.summary.add summary
      warnings := standing.warnings ++ warnings }
  | .write text =>
      match sink.write standing.state text with
      | .ok state => .ok { standing with state }
      | .error (error, state) => .error (error, { standing with state })

/-- This function reports on all documents with a sink. -/
def Sink.report (sink : Sink σ ε) (validator : Validator) (formatter : Formatter)
    (pointer : String) (start : σ) (documents : List Document) :
    Except (ε × Standing σ) (Standing σ) :=
  (reportActions validator formatter pointer documents).foldlM sink.perform ⟨.zero, start, []⟩

/-- A text is taken as a whole when the bytes stay within the limit. -/
def Sink.HasRoom (sink : Sink σ ε) (limit : Nat) : Prop :=
  ∀ state text, (sink.taken state ++ bytes text).length ≤ limit →
    ∃ next, sink.write state text = .ok next ∧ sink.taken next = sink.taken state ++ bytes text

/-- A sink fails with an error as soon as there are more bytes than the limit. It may have taken a
part of the text that does not fit. -/
structure Sink.IsLimited (sink : Sink σ ε) (limit : Nat) (error : ε) : Prop where
  hasRoom : sink.HasRoom limit
  fails : ∀ state text, (sink.taken state).length ≤ limit →
    limit < (sink.taken state ++ bytes text).length →
      ∃ last part, sink.write state text = .error (error, last) ∧ part <+: bytes text ∧
        sink.taken last = sink.taken state ++ part

variable {sink : Sink σ ε} {limit : Nat} {error : ε}

/-- An action that fits is carried out: its counts, its bytes and its warnings are added. -/
theorem Sink.HasRoom.perform (room : sink.HasRoom limit) (standing : Standing σ) (action : Action)
    (fits : (sink.taken standing.state ++ bytes action.account.text).length ≤ limit) :
    ∃ next, sink.perform standing action = .ok ⟨standing.summary.add action.account.summary, next,
        standing.warnings ++ action.account.warnings⟩ ∧
      sink.taken next = sink.taken standing.state ++ bytes action.account.text := by
  cases action with
  | count summary warnings => exact ⟨standing.state, rfl, (List.append_nil _).symm⟩
  | write text =>
      obtain ⟨next, written, isTaken⟩ := room standing.state text fits
      refine ⟨next, ?_, isTaken⟩
      simp only [Sink.perform, written, Action.account, Summary.add, Summary.zero, Nat.add_zero,
        List.append_nil]

/-- All actions are carried out when their texts stay within the limit. -/
theorem Sink.HasRoom.performAll (room : sink.HasRoom limit) (actions : List Action)
    (standing : Standing σ)
    (fits : (sink.taken standing.state ++
      bytes (Account.all (actions.map Action.account)).text).length ≤ limit) :
    ∃ next, actions.foldlM sink.perform standing =
        .ok ⟨standing.summary.add (Account.all (actions.map Action.account)).summary, next,
          standing.warnings ++ (Account.all (actions.map Action.account)).warnings⟩ ∧
      sink.taken next =
        sink.taken standing.state ++ bytes (Account.all (actions.map Action.account)).text := by
  induction actions generalizing standing with
  | nil =>
      refine ⟨standing.state, ?_, (List.append_nil _).symm⟩
      simp only [List.foldlM_nil, List.map_nil, Account.all, List.sum_nil, List.flatMap_nil,
        List.append_nil, Summary.add, Nat.add_zero]
      rfl
  | cons action actions ih =>
      rw [List.map_cons, Account.all_cons, Account.append, bytes_append,
        ← List.append_assoc] at fits
      have fitsFirst : (sink.taken standing.state ++ bytes action.account.text).length ≤ limit :=
        Nat.le_trans (List.prefix_append ..).length_le fits
      obtain ⟨middle, performed, isTaken⟩ := room.perform standing action fitsFirst
      rw [← isTaken] at fits
      obtain ⟨next, others, areTaken⟩ := ih ⟨_, middle, _⟩ fits
      refine ⟨next, ?_, ?_⟩
      · rw [List.foldlM_cons, performed]
        change actions.foldlM sink.perform _ = _
        rw [others, List.map_cons, Account.all_cons, Account.append, Summary.add_assoc,
          List.append_assoc]
      · rw [areTaken, isTaken, List.map_cons, Account.all_cons, Account.append, bytes_append,
          List.append_assoc]

/-- The action that would run over the limit fails, and what it leaves written is a beginning of its
text behind all that was written before. -/
theorem Sink.IsLimited.perform (limited : sink.IsLimited limit error) (standing : Standing σ)
    (action : Action) (within : (sink.taken standing.state).length ≤ limit)
    (full : limit < (sink.taken standing.state ++ bytes action.account.text).length) :
    ∃ last part, sink.perform standing action = .error (error, last) ∧
      part <+: bytes action.account.text ∧
      sink.taken last.state = sink.taken standing.state ++ part := by
  cases action with
  | count summary warnings =>
      simp only [Action.account, bytes_nil, List.append_nil] at full
      omega
  | write text =>
      obtain ⟨last, part, failed, isPart, isTaken⟩ := limited.fails standing.state text within full
      refine ⟨{ standing with state := last }, part, ?_, isPart, isTaken⟩
      simp only [Sink.perform, failed]

/-- The first action that does not fit ends the report, and what comes behind it is not taken. -/
theorem Sink.IsLimited.performAll (limited : sink.IsLimited limit error) (actions : List Action)
    (standing : Standing σ) (within : (sink.taken standing.state).length ≤ limit)
    (full : limit < (sink.taken standing.state ++
      bytes (Account.all (actions.map Action.account)).text).length) :
    ∃ last part, actions.foldlM sink.perform standing = .error (error, last) ∧
      part <+: bytes (Account.all (actions.map Action.account)).text ∧
      sink.taken last.state = sink.taken standing.state ++ part := by
  induction actions generalizing standing with
  | nil =>
      simp only [List.map_nil, Account.all, List.flatMap_nil, bytes_nil, List.append_nil] at full
      omega
  | cons action actions ih =>
      rw [List.map_cons, Account.all_cons, Account.append, bytes_append] at full ⊢
      rw [List.foldlM_cons]
      by_cases fits : (sink.taken standing.state ++ bytes action.account.text).length ≤ limit
      · obtain ⟨middle, performed, isTaken⟩ := limited.hasRoom.perform standing action fits
        rw [← List.append_assoc, ← isTaken] at full
        obtain ⟨last, part, failed, isPart, areTaken⟩ :=
          ih ⟨_, middle, _⟩ (isTaken ▸ fits) full
        refine ⟨last, bytes action.account.text ++ part, ?_,
          (List.prefix_append_right_inj _).2 isPart, ?_⟩
        · rw [performed]
          exact failed
        · rw [areTaken, isTaken, List.append_assoc]
      · obtain ⟨last, part, failed, isPart, isTaken⟩ :=
          limited.perform standing action within (Nat.lt_of_not_le fits)
        refine ⟨last, part, ?_, isPart.trans (List.prefix_append ..), isTaken⟩
        rw [failed]
        rfl

end Sinks

/-- A writer is a sink whose state is what was written. -/
def Writer.sink (limit : Option Nat) : Sink (List UInt8) Unit where
  taken written := written
  write written text :=
    let writer : Writer := ⟨limit, written⟩
    if writer.fits text then .ok (writer.write text).written
    else .error ((), (writer.write text).written)

/-- The writer's sink takes a text that fits as the writer does. -/
theorem Writer.sink_write_of_fits {limit : Option Nat} {written : List UInt8} {text : List Char}
    (room : (Writer.mk limit written).fits text = true) :
    (Writer.sink limit).write written text = .ok ((Writer.mk limit written).write text).written := by
  simp only [Writer.sink, room, if_true]

/-- The writer's sink fails on a text that does not fit, and holds the part the writer holds
then. -/
theorem Writer.sink_write_of_full {limit : Option Nat} {written : List UInt8} {text : List Char}
    (full : (Writer.mk limit written).fits text = false) :
    (Writer.sink limit).write written text =
      .error ((), ((Writer.mk limit written).write text).written) := by
  simp only [Writer.sink, full, Bool.false_eq_true, if_false]

/-- A report with the sink of a writer, as a report in progress. -/
def Standing.progress (limit : Option Nat) (standing : Standing (List UInt8)) : Progress :=
  ⟨standing.summary, ⟨limit, standing.state⟩, standing.warnings⟩

def stepOf (limit : Option Nat) :
    Except (Unit × Standing (List UInt8)) (Standing (List UInt8)) → Step
  | .ok standing => .ok (standing.progress limit)
  | .error (_, standing) => .error (standing.progress limit)

/-- A step of a report carries out some actions with its writer. -/
def CarriesOut (limit : Option Nat) (step : Progress → Step) (actions : List Action) : Prop :=
  ∀ standing : Standing (List UInt8), step (standing.progress limit) =
    stepOf limit (actions.foldlM (Writer.sink limit).perform standing)

section Steps

variable {limit : Option Nat}

theorem carriesOut_write (text : List Char) :
    CarriesOut limit (fun progress => progress.write text) [.write text] := by
  intro standing
  rw [List.foldlM_cons, Sink.perform]
  cases room : (Writer.mk limit standing.state).fits text with
  | true =>
      rw [Writer.sink_write_of_fits room]
      simp only [Progress.write, Standing.progress, room, if_true]
      rfl
  | false =>
      rw [Writer.sink_write_of_full room]
      simp only [Progress.write, Standing.progress, room, Bool.false_eq_true, if_false]
      rfl

/-- Counting and warning is one action, and writes nothing. -/
theorem carriesOut_count (summary : Summary) (warnings : List Warning) :
    CarriesOut limit (fun progress => .ok { progress with
      summary := progress.summary.add summary
      warnings := progress.warnings ++ warnings }) [.count summary warnings] :=
  fun _ => rfl

/-- One step behind another carries out the actions of both, in that order. -/
theorem CarriesOut.andThen {first second : Progress → Step} {actions others : List Action}
    (isFirst : CarriesOut limit first actions) (isSecond : CarriesOut limit second others) :
    CarriesOut limit (fun progress => (first progress).bind second) (actions ++ others) := by
  intro standing
  dsimp only
  rw [List.foldlM_append, isFirst standing]
  cases actions.foldlM (Writer.sink limit).perform standing with
  | error failure => rfl
  | ok next => exact isSecond next

/-- A loop carries out the actions of its rounds, in the order of the list. -/
theorem CarriesOut.foldlM {α : Type} {step : Progress → α → Step} {actions : α → List Action}
    (each : ∀ item, CarriesOut limit (fun progress => step progress item) (actions item))
    (items : List α) :
    CarriesOut limit (fun progress => items.foldlM step progress) (items.flatMap actions) := by
  induction items with
  | nil => exact fun _ => rfl
  | cons item rest ih => exact (each item).andThen ih

/-- Steps that agree on every progress carry out the same actions. -/
theorem CarriesOut.congr {step other : Progress → Step} {actions : List Action}
    (carriesOut : CarriesOut limit step actions) (same : ∀ progress, other progress = step progress) :
    CarriesOut limit other actions := by
  rwa [funext same]

/-- A location writes the diagnostic and is counted behind it. -/
theorem carriesOut_reportLocation (formatter : Formatter) (document : Document) (problem : Problem)
    (location : Location) :
    CarriesOut limit (fun progress => reportLocation formatter document problem progress location)
      (locationActions formatter document problem location) := by
  have written := (@carriesOut_write limit (locationText formatter document problem location)).andThen
    (carriesOut_count ⟨0, 0, 0, 1⟩ [])
  refine written.congr fun progress => ?_
  simp only [reportLocation, locationText]
  cases progress.write _ with
  | ok next => simp [Except.map, Except.bind, Summary.add]
  | error last => rfl

/-- A problem is counted, with a warning if it has no location, and then its locations are
written. -/
theorem carriesOut_reportProblem (formatter : Formatter) (document : Document)
    (problem : Problem) :
    CarriesOut limit (fun progress => reportProblem formatter document progress problem)
      (problemActions formatter document problem) := by
  have counted := (@carriesOut_count limit ⟨0, 0, 1, 0⟩ (problemWarnings document problem)).andThen
    (CarriesOut.foldlM (carriesOut_reportLocation formatter document problem) problem.locations)
  refine counted.congr fun progress => ?_
  simp only [reportProblem, problemWarnings, Except.bind]
  cases problem.locations.isEmpty <;> simp [Summary.add]

/-- A document is counted, and then its problems or the line on success are written. -/
theorem carriesOut_reportDocument (validator : Validator) (formatter : Formatter)
    (pointer : String) (document : Document) :
    CarriesOut limit (fun progress => reportDocument validator formatter pointer progress document)
      (documentActions validator formatter pointer document) := by
  cases found : validator document with
  | nil =>
      have counted := (@carriesOut_count limit ⟨1, 1, 0, 0⟩ []).andThen
        (carriesOut_write (formatter.success pointer ++ ['\n']))
      rw [documentActions, found]
      refine counted.congr fun progress => ?_
      simp [reportDocument, found, Except.bind, Summary.add]
  | cons first rest =>
      have counted := (@carriesOut_count limit ⟨1, 0, 0, 0⟩ []).andThen
        (CarriesOut.foldlM (carriesOut_reportProblem formatter document) (first :: rest))
      rw [documentActions, found]
      refine counted.congr fun progress => ?_
      simp [reportDocument, found, Except.bind, Summary.add]

/-- A report is the one with the sink of its writer. -/
theorem report_eq_sink (validator : Validator) (formatter : Formatter) (pointer : String)
    (writer : Writer) (documents : List Document) :
    report validator formatter pointer writer documents =
      stepOf writer.limit ((Writer.sink writer.limit).report validator formatter pointer
        writer.written documents) :=
  CarriesOut.foldlM (carriesOut_reportDocument validator formatter pointer) documents
    ⟨.zero, writer.written, []⟩

end Steps

/-- A writer without a limit always has room. -/
theorem Writer.sink_hasRoom (limit : Nat) : (Writer.sink none).HasRoom limit :=
  fun written text _ => ⟨written ++ bytes text, rfl, rfl⟩

/-- A limited writer takes what there is room for of a text that does not fit. -/
theorem Writer.sink_isLimited (limit : Nat) : (Writer.sink (some limit)).IsLimited limit () where
  hasRoom written text fits := by
    have room : (Writer.mk (some limit) written).fits text = true :=
      decide_eq_true (by rwa [← List.length_append])
    refine ⟨written ++ bytes text, ?_, rfl⟩
    rw [Writer.sink_write_of_fits room, Writer.write_written _ _ room]
  fails written text within full := by
    have noRoom : (Writer.mk (some limit) written).fits text = false :=
      decide_eq_false (by rw [← List.length_append]; exact Nat.not_le_of_lt full)
    have taken : ((Writer.mk (some limit) written).write text).written =
        written ++ (bytes text).take (limit - written.length) := by
      have short : written.length ≤ limit := within
      simp only [Writer.write, List.take_append, List.take_of_length_le short]
    exact ⟨_, _, Writer.sink_write_of_full noRoom, List.take_prefix .., taken⟩

/-- The account of a whole report. -/
def reportAccount (validator : Validator) (formatter : Formatter) (pointer : String)
    (documents : List Document) : Account :=
  Account.all ((reportActions validator formatter pointer documents).map Action.account)

/-- A writer without a limit takes the whole account. -/
theorem report_whole (validator : Validator) (formatter : Formatter) (pointer : String)
    (documents : List Document) :
    report validator formatter pointer Writer.unlimited documents =
      .ok ⟨(reportAccount validator formatter pointer documents).summary,
        ⟨none, bytes (reportAccount validator formatter pointer documents).text⟩,
        (reportAccount validator formatter pointer documents).warnings⟩ := by
  obtain ⟨written, carriedOut, areTaken⟩ := (Writer.sink_hasRoom _).performAll
    (reportActions validator formatter pointer documents) ⟨.zero, [], []⟩ (Nat.le_refl _)
  have isReport : (Writer.sink none).report validator formatter pointer [] documents = _ :=
    carriedOut
  have isWritten : written = bytes (reportAccount validator formatter pointer documents).text :=
    areTaken
  rw [report_eq_sink]
  dsimp only [Writer.unlimited]
  rw [isReport, isWritten, Summary.zero_add]
  rfl

/-- A report with a limited sink, compared with the whole report on an unlimited writer. It fails
with the error of the sink exactly when the whole report is longer than the limit, and what was taken
before is the beginning of the whole report. Otherwise it ends with the same summary, the same output
and the same warnings. A writer is such a sink. -/
theorem report_limited {σ ε : Type} {sink : Sink σ ε} {limit : Nat} {error : ε}
    (limited : sink.IsLimited limit error) {start : σ} (fresh : sink.taken start = [])
    (validator : Validator) (formatter : Formatter) (pointer : String)
    (documents : List Document) :
    ∃ whole, report validator formatter pointer Writer.unlimited documents = .ok whole ∧
      ((∃ last, sink.report validator formatter pointer start documents = .error (error, last)) ↔
        limit < whole.writer.written.length) ∧
      (∀ fault last, sink.report validator formatter pointer start documents =
          .error (fault, last) →
        fault = error ∧ sink.taken last.state <+: whole.writer.written) ∧
      (∀ ended, sink.report validator formatter pointer start documents = .ok ended →
        ended.summary = whole.summary ∧ sink.taken ended.state = whole.writer.written ∧
          ended.warnings = whole.warnings) ∧
      ∀ writer, report validator formatter pointer writer documents =
        stepOf writer.limit ((Writer.sink writer.limit).report validator formatter pointer
          writer.written documents) := by
  refine ⟨_, report_whole validator formatter pointer documents, ?_⟩
  rw [← and_assoc, ← and_assoc]
  refine ⟨?_, fun writer => report_eq_sink validator formatter pointer writer documents⟩
  rw [and_assoc]
  have split := Nat.lt_or_ge limit
    (bytes (reportAccount validator formatter pointer documents).text).length
  have within : (sink.taken start).length ≤ limit := by rw [fresh]; exact Nat.zero_le limit
  -- The writes and counts of a report are one list of actions, so the limit is met once.
  rcases split with full | fits
  · obtain ⟨last, part, failed, isPart, isTaken⟩ := limited.performAll
      (reportActions validator formatter pointer documents) ⟨.zero, start, []⟩ within
      (by rw [fresh]; exact full)
    have isReport : sink.report validator formatter pointer start documents = _ := failed
    rw [isReport]
    refine ⟨iff_of_true ⟨last, rfl⟩ full, ?_, nofun⟩
    rintro fault other same
    cases same
    refine ⟨rfl, ?_⟩
    rw [isTaken, fresh]
    exact isPart
  · obtain ⟨next, carriedOut, areTaken⟩ := limited.hasRoom.performAll
      (reportActions validator formatter pointer documents) ⟨.zero, start, []⟩
      (by rw [fresh]; exact fits)
    have isReport : sink.report validator formatter pointer start documents = _ := carriedOut
    rw [isReport]
    refine ⟨iff_of_false nofun (Nat.not_lt_of_le fits), nofun, ?_⟩
    rintro ended same
    cases same
    refine ⟨Summary.zero_add _, ?_, rfl⟩
    rw [areTaken, fresh]
    rfl

/-- This sink takes nothing of a text that does not fit. -/
def refusingSink (limit : Nat) : Sink (List UInt8) String where
  taken written := written
  write written text :=
    if (written ++ bytes text).length ≤ limit then .ok (written ++ bytes text)
    else .error ("broken pipe", written)

/-- A sink that takes bytes up to its limit and then breaks is limited in this sense. -/
theorem refusingSink_isLimited (limit : Nat) :
    (refusingSink limit).IsLimited limit "broken pipe" where
  hasRoom written text fits := ⟨written ++ bytes text, if_pos fits, rfl⟩
  fails written _ _ full :=
    ⟨written, [], if_neg (Nat.not_le_of_lt full), List.nil_prefix, (List.append_nil _).symm⟩

/-- A problem at two places, whose message begins with a character of two bytes. -/
def twicePlaced : Problem := ⟨"\u00e9", [⟨1, 1⟩, ⟨2, 2⟩]⟩

def plainFormatter : Formatter := ⟨⟨"none", none, []⟩, .plain, false, false⟩

/-- Each of the two diagnostics has twelve bytes. The limit is within the first character of the
second one, and the sink fails with what it took of the first one. -/
theorem report_limited_refusing :
    (refusingSink 13).IsLimited 13 "broken pipe" ∧ (refusingSink 13).taken [] = [] ∧
      ∃ whole last, report (fun _ => [twicePlaced]) plainFormatter "" Writer.unlimited
          [⟨"b", ""⟩] = .ok whole ∧
        whole.writer.written.length = 24 ∧
        (refusingSink 13).report (fun _ => [twicePlaced]) plainFormatter "" [] [⟨"b", ""⟩] =
          .error ("broken pipe", last) ∧
        (refusingSink 13).taken last.state <+: whole.writer.written := by
  have fresh : (refusingSink 13).taken [] = [] := rfl
  obtain ⟨whole, isWhole, fails, taken, -⟩ := report_limited (refusingSink_isLimited 13) fresh
    (fun _ => [twicePlaced]) plainFormatter "" [⟨"b", ""⟩]
  have length : (report (fun _ => [twicePlaced]) plainFormatter "" Writer.unlimited
      [⟨"b", ""⟩]).toOption.map (fun ended => ended.writer.written.length) = some 24 := by
    decide +kernel
  have long : whole.writer.written.length = 24 := by
    rw [isWhole] at length
    exact Option.some.inj length
  obtain ⟨last, failed⟩ := fails.2 (by rw [long]; decide)
  exact ⟨refusingSink_isLimited 13, fresh, whole, last, isWhole, long, failed, (taken _ _ failed).2⟩

end OperationCheck.Report
