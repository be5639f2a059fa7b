import Mathlib.Data.List.Forall2
import OperationCheck.Proofs.Pattern.Search
import OperationCheck.Report.Diagnostic

/-!
From the file of a rule table to the links of diagnostics. The main statement says that a file is
refused for its first pattern that cannot be read, and that otherwise a diagnostic shows the link of
the first line of the file whose pattern occurs in the message, or no link if there is none.
-/

namespace OperationCheck.Rules

open OperationCheck.Pattern OperationCheck.Report OperationCheck.Validation

/-- An item has a property, and no item before it has. -/
structure IsFirst {α : Type} (property : α → Prop) (items : List α) (index : Nat) (item : α) :
    Prop where
  isItem : items[index]? = some item
  holds : property item
  isEarliest : ∀ earlier < index, ∀ other, items[earlier]? = some other → ¬property other

section First

variable {α : Type} {property : α → Prop} {item : α} {items : List α}

theorem isFirst_head (holds : property item) : IsFirst property (item :: items) 0 item where
  isItem := rfl
  holds := holds
  isEarliest := nofun

/-- An item without the property in front moves the first one by a place. -/
theorem IsFirst.behind {index : Nat} {found : α} (isFirst : IsFirst property items index found)
    (other : ¬property item) : IsFirst property (item :: items) (index + 1) found where
  isItem := isFirst.isItem
  holds := isFirst.holds
  isEarliest earlier before earlierItem isEarlier := by
    cases earlier with
    | zero => exact Option.some.inj isEarlier ▸ other
    | succ earlier =>
        exact isFirst.isEarliest earlier (Nat.lt_of_succ_lt_succ before) earlierItem isEarlier

/-- The first item is the head, or it is the first one of the rest. -/
theorem IsFirst.cases_cons {index : Nat} {found : α}
    (isFirst : IsFirst property (item :: items) index found) :
    index = 0 ∧ found = item ∧ property item ∨
      ∃ rest, index = rest + 1 ∧ ¬property item ∧ IsFirst property items rest found := by
  cases index with
  | zero =>
      obtain rfl : item = found := Option.some.inj isFirst.isItem
      exact .inl ⟨rfl, rfl, isFirst.holds⟩
  | succ rest =>
      refine .inr ⟨rest, rfl, isFirst.isEarliest 0 (Nat.succ_pos rest) item rfl, ?_⟩
      exact ⟨isFirst.isItem, isFirst.holds, fun earlier before =>
        isFirst.isEarliest (earlier + 1) (Nat.succ_lt_succ before)⟩

theorem IsFirst.mem {index : Nat} {found : α} (isFirst : IsFirst property items index found) :
    found ∈ items := List.mem_of_getElem? isFirst.isItem

/-- Only one item is the first. -/
theorem IsFirst.unique {index other : Nat} {found otherFound : α}
    (isFirst : IsFirst property items index found)
    (isOther : IsFirst property items other otherFound) : index = other ∧ found = otherFound := by
  rcases Nat.lt_trichotomy index other with before | rfl | behind
  · exact absurd isFirst.holds (isOther.isEarliest index before found isFirst.isItem)
  · exact ⟨rfl, Option.some.inj (isFirst.isItem.symm.trans isOther.isItem)⟩
  · exact absurd isOther.holds (isFirst.isEarliest other behind otherFound isOther.isItem)

end First

/-- The pattern of a line can be read. -/
def Line.IsReadable (line : Line) : Prop := ∃ matcher, Pattern.parse? line.pattern = some matcher

/-- The pattern of a line matches somewhere in a message. -/
def Line.OccursIn (line : Line) (message : String) : Prop :=
  ∃ matcher, Pattern.parse? line.pattern = some matcher ∧ Occurs matcher message.toList

instance (line : Line) : Decidable line.IsReadable :=
  decidable_of_iff _ Option.isSome_iff_exists

instance (line : Line) (message : String) : Decidable (line.OccursIn message) :=
  decidable_of_iff (∃ matcher ∈ Pattern.parse? line.pattern,
      isFound matcher message.toList = true) <| by
    simp only [Line.OccursIn, Option.mem_def, isFound_iff_occurs]

/-- A rule keeps what its line says, and matches what the pattern of the line says. -/
structure Line.IsReadAs (line : Line) (rule : Rule) : Prop where
  name : rule.name = line.name
  pattern : rule.pattern = line.pattern
  link : rule.link = line.link
  matcher : Pattern.parse? line.pattern = some rule.matcher

/-- A table has one rule for each line of its sheet, in the same order. -/
structure Table.IsOf (table : Table) (sheet : Sheet) : Prop where
  name : table.name = sheet.name
  description : table.description = sheet.description
  rules : List.Forall₂ Line.IsReadAs sheet.lines table.rules

/-- A line whose pattern is read becomes a rule that stands for that line. -/
theorem ofLine_of_parse {line : Line} {matcher : Pattern}
    (isRead : Pattern.parse? line.pattern = some matcher) :
    ∃ rule, Rule.ofLine? line = some rule ∧ line.IsReadAs rule := by
  refine ⟨⟨line.name, line.pattern, matcher, line.link⟩, ?_, rfl, rfl, rfl, isRead⟩
  rw [Rule.ofLine?, isRead, Option.map_some]

/-- Lines are read one by one, up to the first one that cannot be read. -/
theorem compile_cases (table : String) (start : Nat) (lines : List Line) :
    (∃ rules, compile table start lines = .ok rules ∧ List.Forall₂ Line.IsReadAs lines rules) ∨
      ∃ index line, IsFirst (fun line => ¬line.IsReadable) lines index line ∧
        compile table start lines =
          .error (.invalidPattern table (start + index) line.pattern) := by
  induction lines generalizing start with
  | nil => exact .inl ⟨[], rfl, .nil⟩
  | cons line lines ih =>
      cases parsed : Pattern.parse? line.pattern with
      | none =>
          have unreadable : ¬line.IsReadable := fun ⟨matcher, isRead⟩ =>
            Option.some_ne_none matcher (isRead.symm.trans parsed)
          refine .inr ⟨0, line, isFirst_head unreadable, ?_⟩
          rw [compile, Rule.ofLine?, parsed]
          rfl
      | some matcher =>
          obtain ⟨rule, isRule, isRead⟩ := ofLine_of_parse parsed
          have step : compile table start (line :: lines) =
              (compile table (start + 1) lines).map (rule :: ·) := by
            rw [compile, isRule]
          rw [step]
          rcases ih (start + 1) with ⟨rules, compiled, areRead⟩ | ⟨index, found, isFirst, failed⟩
          · exact .inl ⟨rule :: rules, by rw [compiled]; rfl, .cons isRead areRead⟩
          · refine .inr ⟨index + 1, found, isFirst.behind fun unreadable =>
              unreadable ⟨matcher, parsed⟩, ?_⟩
            rw [failed, Nat.add_assoc, Nat.add_comm 1 index]
            rfl

/-- A file of a table is read, or it is refused for its first line that cannot be read. -/
theorem parse_cases {source : String} {sheet : Sheet} (isSheet : Sheet.parse? source = some sheet) :
    (∃ table, Table.parse source = .ok table ∧ table.IsOf sheet) ∨
      ∃ index line, IsFirst (fun line => ¬line.IsReadable) sheet.lines index line ∧
        Table.parse source = .error (.invalidPattern sheet.name index line.pattern) := by
  have isRead : Table.parse source = Table.ofSheet sheet := by rw [Table.parse, isSheet]
  rw [isRead, Table.ofSheet]
  rcases compile_cases sheet.name 0 sheet.lines with
    ⟨rules, compiled, areRead⟩ | ⟨index, line, isFirst, failed⟩
  · refine .inl ⟨⟨sheet.name, sheet.description, rules⟩, ?_, rfl, rfl, areRead⟩
    rw [compiled]
    rfl
  · refine .inr ⟨index, line, isFirst, ?_⟩
    rw [failed, Nat.zero_add]
    rfl

/-- The lines that became rules are those that can be read. -/
theorem readable_of_areRead {lines : List Line} {rules : List Rule}
    (areRead : List.Forall₂ Line.IsReadAs lines rules) : ∀ line ∈ lines, line.IsReadable := by
  induction areRead with
  | nil => nofun
  | cons isRead _ ih => exact List.forall_mem_cons.2 ⟨⟨_, isRead.matcher⟩, ih⟩

/-- The search for the matcher of a rule decides whether the pattern of its line occurs. -/
theorem Line.IsReadAs.isFoundIn_iff {line : Line} {rule : Rule} (isRead : line.IsReadAs rule)
    (message : String) : rule.isFoundIn message = true ↔ line.OccursIn message := by
  rw [Rule.isFoundIn, isFound_iff_occurs]
  constructor
  · exact fun occurs => ⟨rule.matcher, isRead.matcher, occurs⟩
  · rintro ⟨matcher, parsed, occurs⟩
    obtain rfl := Option.some.inj (parsed.symm.trans isRead.matcher)
    exact occurs

section Resolution

variable {lines : List Line} {rules : List Rule} {message : String}

/-- The first line that occurs in the message is the line of the rule that is found. -/
theorem find_of_isFirst (areRead : List.Forall₂ Line.IsReadAs lines rules) {index : Nat}
    {line : Line} (isFirst : IsFirst (fun line => line.OccursIn message) lines index line) :
    ∃ rule, rules.find? (fun rule => rule.isFoundIn message) = some rule ∧
      line.IsReadAs rule := by
  induction areRead generalizing index with
  | nil => cases isFirst.isItem
  | cons isRead _ ih =>
      rcases isFirst.cases_cons with ⟨-, rfl, occurs⟩ | ⟨rest, -, absent, isLater⟩
      · exact ⟨_, List.find?_cons_of_pos ((isRead.isFoundIn_iff message).2 occurs), isRead⟩
      · obtain ⟨rule, found, isRule⟩ := ih isLater
        have skipped := Bool.eq_false_iff.2 (mt (isRead.isFoundIn_iff message).1 absent)
        refine ⟨rule, ?_, isRule⟩
        rw [List.find?_cons, skipped]
        exact found

/-- No rule is found just where no line occurs in the message. -/
theorem find_eq_none_iff (areRead : List.Forall₂ Line.IsReadAs lines rules) :
    rules.find? (fun rule => rule.isFoundIn message) = none ↔
      ∀ line ∈ lines, ¬line.OccursIn message := by
  induction areRead with
  | nil => exact ⟨fun _ => nofun, fun _ => rfl⟩
  | cons isRead _ ih =>
      rw [List.forall_mem_cons, ← ih, ← isRead.isFoundIn_iff message]
      simp only [List.find?_eq_none, List.forall_mem_cons]

end Resolution

/-- A line is shown by its name, or by its link if it has no name. -/
def Line.label (line : Line) : String := line.name.getD line.link

/-- A link is written as its address, or as a hyperlink that shows the label. -/
def Line.target (line : Line) : LinkStyle → List Char
  | .plain => line.link.toList
  | .hyperlink => hyperlink line.link.toList line.label.toList

/-- The link of a line as it stands in a diagnostic. -/
def Line.reference (line : Line) (links : LinkStyle) : List Char :=
  "\n  More information at ".toList ++ line.target links

/-- What stands behind the diagnostic: the fixed words, then the target of the line. -/
theorem Line.reference_eq (line : Line) (links : LinkStyle) :
    line.reference links = "\n  More information at ".toList ++ line.target links := rfl

end OperationCheck.Rules

namespace OperationCheck.Report

open OperationCheck.Rules OperationCheck.Validation

/-- What every diagnostic has, with or without a link. -/
def Formatter.unlinked (formatter : Formatter) (document : String) (location : Location)
    (message : String) : List Char :=
  formatter.paint .red message.toList ++ "\n  ".toList
    ++ formatter.paint .yellow (position document location).toList

/-- A diagnostic is the message with its place, then the line with the link. -/
theorem Formatter.diagnostic_eq (formatter : Formatter) (document : String) (location : Location)
    (message : String) : formatter.diagnostic document location message =
      formatter.unlinked document location message ++ formatter.linkLine message := rfl

section Links

variable {formatter : Formatter} {message : String}

/-- The link of a rule is that of the line it was read from. -/
theorem Formatter.link_of_isReadAs {line : Line} {rule : Rule} (isRead : line.IsReadAs rule) :
    formatter.link rule = line.target formatter.links := by
  have sameLabel : rule.label = line.label := by
    rw [Rule.label, Line.label, isRead.name, isRead.link]
  rw [Formatter.link, isRead.link, sameLabel]
  cases formatter.links <;> rfl

/-- The line with the link is the reference of the line that was resolved. -/
theorem Formatter.linkLine_of_isReadAs {line : Line} {rule : Rule}
    (resolved : formatter.table.resolve message = some rule) (isRead : line.IsReadAs rule) :
    formatter.linkLine message = line.reference formatter.links := by
  rw [Formatter.linkLine, resolved, Line.reference_eq, ← Formatter.link_of_isReadAs isRead]

/-- There is no line with a link just where no rule is found. -/
theorem Formatter.linkLine_eq_nil_iff :
    formatter.linkLine message = [] ↔ formatter.table.resolve message = none := by
  have visible : "\n  More information at ".toList ≠ [] := by decide +kernel
  rw [Formatter.linkLine]
  cases formatter.table.resolve message with
  | none => exact ⟨fun _ => rfl, fun _ => rfl⟩
  | some rule =>
      exact iff_of_false (List.append_ne_nil_of_left_ne_nil visible _) (Option.some_ne_none rule)

end Links

/-- The two patterns can occur in one message, and the second line has no name. -/
def overlappingText : String :=
  "[table]\nname = \"overlapping\"\n[[rules]]\nrule = \"First\"\npattern = \"a.c\"\nlink = \"#1\"\n"
    ++ "[[rules]]\npattern = \"b\"\nlink = \"#2\"\n"

def namedLine : Line := ⟨some "First", "a.c", "#1"⟩

def namelessLine : Line := ⟨none, "b", "#2"⟩

def overlappingSheet : Sheet := ⟨"overlapping", none, [namedLine, namelessLine]⟩

/-- Two of the patterns cannot be read. -/
def brokenText : String :=
  "[table]\nname = \"broken\"\n[[rules]]\npattern = \"a\"\nlink = \"\"\n"
    ++ "[[rules]]\npattern = \"(\"\nlink = \"\"\n[[rules]]\npattern = \"[\"\nlink = \"\"\n"

def patternLine (pattern : String) : Line := ⟨none, pattern, ""⟩

def brokenSheet : Sheet := ⟨"broken", none, ["a", "(", "["].map patternLine⟩

end OperationCheck.Report
