import OperationCheck.Proofs.Template.Resumption

/-!
Interpolations of template bodies. The reader finds the end of an interpolation by counting
braces. The main statements say that a template is read to its own closing backtick, with each of
its interpolations blanked as a whole, when the braces of every expression balance, and that an
interpolation by itself is blanked as a whole only then. Braces within string literals count like
all others, so a literal with a single brace moves the end of its interpolation.
-/

namespace OperationCheck.Template

open OperationCheck.Text

/-- Every brace of a text has its partner in the text. -/
inductive IsBalanced : List Char → Prop where
  | nil : IsBalanced []
  | other {c : Char} {rest : List Char} : c ≠ '\x7b' → c ≠ '\x7d' → IsBalanced rest →
      IsBalanced (c :: rest)
  | braces {inner rest : List Char} : IsBalanced inner → IsBalanced rest →
      IsBalanced ('\x7b' :: inner ++ '\x7d' :: rest)

/-- This is an expression of names, signs, braces that balance, and string literals. A literal has
no escapes and stays on its line, and what it may hold otherwise is given. -/
inductive IsExpression (content : List Char → Prop) : List Char → Prop where
  | nil : IsExpression content []
  | other {c : Char} {rest : List Char} :
      c ∉ ['\x7b', '\x7d', '"', '\x27', '\x60', '\\'] → IsExpression content rest →
      IsExpression content (c :: rest)
  | literal {quote : Char} {inner rest : List Char} : quote ∈ ['"', '\x27'] →
      quote ∉ inner → '\\' ∉ inner → '\n' ∉ inner → content inner → IsExpression content rest →
      IsExpression content (quote :: inner ++ quote :: rest)
  | braces {inner rest : List Char} : IsExpression content inner → IsExpression content rest →
      IsExpression content ('\x7b' :: inner ++ '\x7d' :: rest)

/-- Balanced texts behind one another are balanced. -/
theorem IsBalanced.append {front back : List Char} (isFront : IsBalanced front)
    (isBack : IsBalanced back) : IsBalanced (front ++ back) := by
  induction isFront with
  | nil => exact isBack
  | other noOpening noClosing _ ih => exact .other noOpening noClosing ih
  | braces isInner _ _ ih =>
      rw [List.append_assoc]
      exact .braces isInner ih

/-- A text without braces is balanced. -/
theorem isBalanced_of_noBraces {text : List Char}
    (noBraces : ∀ c ∈ text, c ≠ '\x7b' ∧ c ≠ '\x7d') : IsBalanced text := by
  induction text with
  | nil => exact .nil
  | cons c text ih =>
      rw [List.forall_mem_cons] at noBraces
      exact .other noBraces.1.1 noBraces.1.2 (ih noBraces.2)

/-- The braces of an expression balance when those within each literal do. -/
theorem IsExpression.isBalanced {expression : List Char}
    (isExpression : IsExpression IsBalanced expression) : IsBalanced expression := by
  induction isExpression with
  | nil => exact .nil
  | other plain _ ih =>
      simp only [List.mem_cons, not_or] at plain
      exact .other plain.1 plain.2.1 ih
  | @literal quote inner rest isQuote _ _ _ isContent _ ih =>
      have noOpening : quote ≠ '\x7b' := by
        intro same
        simp [same] at isQuote
      have noClosing : quote ≠ '\x7d' := by
        intro same
        simp [same] at isQuote
      exact .other noOpening noClosing (isContent.append (.other noOpening noClosing ih))
  | braces _ _ isInner isRest => exact .braces isInner isRest

/-- Balanced text is blanked, and it leaves the number of open braces as it was. -/
theorem IsBalanced.scan {inner : List Char} (balanced : IsBalanced inner) (depth : Nat)
    (taken rest : List Char) :
    scan (.interpolation (depth + 1)) taken (inner ++ rest) =
      scan (.interpolation (depth + 1)) ((inner.map blanked).reverse ++ taken) rest := by
  induction balanced generalizing depth taken rest with
  | nil => rfl
  | @other c others noOpening noClosing _ ih =>
      have stays : Mode.inside (depth + 1) c = .interpolation (depth + 1) := by
        rw [Mode.inside, if_neg noOpening, if_neg noClosing]
      rw [List.cons_append, Template.scan, stays, ih]
      simp
  | @braces inner others _ _ isInner isRest =>
      -- The inner text is read one brace deeper, and its closing brace comes back to this depth.
      have opened : Mode.inside (depth + 1) '\x7b' = .interpolation (depth + 1 + 1) := rfl
      have closed : Mode.inside (depth + 1 + 1) '\x7d' = .interpolation (depth + 1) := rfl
      rw [List.append_assoc, List.cons_append, Template.scan, opened, isInner, List.cons_append,
        Template.scan, closed, isRest]
      simp

/-- The brace that closes an interpolation is blanked, and raw text follows. -/
theorem scan_interpolation {expression : List Char} (balanced : IsBalanced expression)
    (taken rest : List Char) :
    scan .raw taken ('$' :: '\x7b' :: (expression ++ '\x7d' :: rest)) =
      scan .raw (' ' :: ((expression.map blanked).reverse ++ ' ' :: ' ' :: taken)) rest := by
  have closed : Mode.inside 1 '\x7d' = .raw := rfl
  rw [scan, balanced.scan 0, scan, closed]
  rfl

/-- A text has at least one opening brace without a partner, and no closing one. -/
inductive IsUnclosed : List Char → Prop where
  | last {front back : List Char} : IsBalanced front → IsBalanced back →
      IsUnclosed (front ++ '\x7b' :: back)
  | more {front back : List Char} : IsBalanced front → IsUnclosed back →
      IsUnclosed (front ++ '\x7b' :: back)

/-- A text has a closing brace without a partner, and this is the first one. -/
def ClosesEarly (text : List Char) : Prop :=
  ∃ front back, IsBalanced front ∧ text = front ++ '\x7d' :: back

/-- A balanced text in front closes nothing. -/
theorem IsUnclosed.behind {front text : List Char} (isFront : IsBalanced front)
    (unclosed : IsUnclosed text) : IsUnclosed (front ++ text) := by
  cases unclosed with
  | last isBalanced isBack =>
      rw [← List.append_assoc]
      exact .last (isFront.append isBalanced) isBack
  | more isBalanced isBack =>
      rw [← List.append_assoc]
      exact .more (isFront.append isBalanced) isBack

/-- A balanced text in front leaves a brace that closes too early. -/
theorem ClosesEarly.behind {front text : List Char} (isFront : IsBalanced front)
    (closes : ClosesEarly text) : ClosesEarly (front ++ text) := by
  obtain ⟨inner, back, isInner, rfl⟩ := closes
  exact ⟨front ++ inner, back, isFront.append isInner, (List.append_assoc _ _ _).symm⟩

/-- The braces of a text balance, or one of them has no partner. -/
theorem balance_cases (text : List Char) :
    IsBalanced text ∨ ClosesEarly text ∨ IsUnclosed text := by
  -- What is behind a closed pair of braces is shorter, but it is no tail that recursion offers.
  induction size : text.length using Nat.strongRecOn generalizing text with
  | ind size ih =>
      subst size
      cases text with
      | nil => exact .inl .nil
      | cons c rest =>
          have isRest := ih rest.length (by simp) rest rfl
          by_cases closing : c = '\x7d'
          · subst closing
            exact .inr (.inl ⟨[], rest, .nil, rfl⟩)
          · by_cases opening : c = '\x7b'
            · subst opening
              rcases isRest with balanced | ⟨inner, back, isInner, rfl⟩ | unclosed
              · exact .inr (.inr (.last .nil balanced))
              · have isPair : IsBalanced ('\x7b' :: inner ++ ['\x7d']) := .braces isInner .nil
                have split : '\x7b' :: (inner ++ '\x7d' :: back) =
                    ('\x7b' :: inner ++ ['\x7d']) ++ back := by simp
                rw [split]
                rcases ih back.length (by simp; omega) back rfl with balanced | closes | unclosed
                · exact .inl (isPair.append balanced)
                · exact .inr (.inl (closes.behind isPair))
                · exact .inr (.inr (unclosed.behind isPair))
              · exact .inr (.inr (.more .nil unclosed))
            · have isFirst : IsBalanced [c] := .other opening closing .nil
              rcases isRest with balanced | closes | unclosed
              · exact .inl (isFirst.append balanced)
              · exact .inr (.inl (closes.behind isFirst))
              · exact .inr (.inr (unclosed.behind isFirst))

/-- Each opening brace without a partner leaves one more brace open. -/
theorem IsUnclosed.scan {text : List Char} (unclosed : IsUnclosed text) :
    ∃ more, ∀ depth taken rest, scan (.interpolation (depth + 1)) taken (text ++ rest) =
      scan (.interpolation (depth + more + 2)) ((text.map blanked).reverse ++ taken) rest := by
  have opened (depth : Nat) : Mode.inside (depth + 1) '\x7b' = .interpolation (depth + 2) := rfl
  induction unclosed with
  | @last front back isFront isBack =>
      refine ⟨0, fun depth taken rest => ?_⟩
      rw [List.append_assoc, isFront.scan, List.cons_append, Template.scan, opened, isBack.scan]
      simp
  | @more front back isFront _ ih =>
      obtain ⟨more, unclosed⟩ := ih
      refine ⟨more + 1, fun depth taken rest => ?_⟩
      have sameDepth : depth + (more + 1) + 2 = depth + 1 + more + 2 := by omega
      rw [List.append_assoc, isFront.scan, List.cons_append, Template.scan, opened, unclosed,
        sameDepth]
      simp

theorem scan_backtick (taken rest : List Char) :
    scan .raw taken ('\x60' :: rest) = some (taken.reverse, rest) := by
  simp [scan]

/-- Raw text has no escapes, and nothing in it ends the template or begins an interpolation. -/
structure IsRaw (text : List Char) : Prop where
  noBackslash : '\\' ∉ text
  noBacktick : '\x60' ∉ text
  noOpening : ¬ ['$', '\x7b'] <:+: text

/-- What stands behind a character of raw text is raw. -/
theorem IsRaw.tail {c : Char} {raw : List Char} (isRaw : IsRaw (c :: raw)) : IsRaw raw where
  noBackslash member := isRaw.noBackslash (List.mem_cons_of_mem _ member)
  noBacktick member := isRaw.noBacktick (List.mem_cons_of_mem _ member)
  noOpening found := isRaw.noOpening (List.infix_cons found)

/-- A plain character stays as it is. -/
theorem scan_plain {c : Char} (noBacktick : c ≠ '\x60') (noBackslash : c ≠ '\\')
    {rest : List Char} (noOpening : c = '$' → rest.head? ≠ some '\x7b') (taken : List Char) :
    scan .raw taken (c :: rest) = scan .raw (c :: taken) rest := by
  rw [scan, if_neg noBacktick, if_neg noBackslash]
  rintro others dollar rfl
  exact noOpening dollar rfl

/-- Raw text stays as it is. A dollar sign at its end needs to be apart from a brace behind it. -/
theorem scan_raw {raw : List Char} (isRaw : IsRaw raw) (taken rest : List Char)
    (apart : rest.head? ≠ some '\x7b') :
    scan .raw taken (raw ++ rest) = scan .raw (raw.reverse ++ taken) rest := by
  induction raw generalizing taken with
  | nil => rfl
  | cons c raw ih =>
      have noBacktick : c ≠ '\x60' := fun same => isRaw.noBacktick (same ▸ List.mem_cons_self)
      have noBackslash : c ≠ '\\' := fun same => isRaw.noBackslash (same ▸ List.mem_cons_self)
      have noOpening : c = '$' → (raw ++ rest).head? ≠ some '\x7b' := by
        intro dollar
        cases raw with
        | nil => exact apart
        | cons first others =>
            intro opens
            have brace : first = '\x7b' := Option.some.inj opens
            exact isRaw.noOpening ⟨[], others, by simp [dollar, brace]⟩
      rw [List.cons_append, scan_plain noBacktick noBackslash noOpening, ih isRaw.tail]
      simp

/-- A text without dollars, backslashes and backticks is raw. -/
theorem isRaw_of_noMarks {text : List Char} (noDollar : '$' ∉ text) (noBackslash : '\\' ∉ text)
    (noBacktick : '\x60' ∉ text) : IsRaw text where
  noBackslash := noBackslash
  noBacktick := noBacktick
  noOpening opens := noDollar (opens.subset List.mem_cons_self)

/-- An interpolation whose expression has no dollar sign, backslash or backtick is blanked as a
whole exactly when its braces balance. -/
theorem read_interpolation_iff {expression : List Char} (noDollar : '$' ∉ expression)
    (noBackslash : '\\' ∉ expression) (noBacktick : '\x60' ∉ expression) :
    read ('$' :: '\x7b' :: (expression ++ ['\x7d', '\x60'])) =
        some (' ' :: ' ' :: (expression.map blanked ++ [' ']), []) ↔ IsBalanced expression := by
  constructor
  · intro whole
    rcases balance_cases expression with balanced | ⟨front, back, isFront, rfl⟩ | unclosed
    · exact balanced
    · have isRaw : IsRaw (back ++ ['\x7d']) := by
        apply isRaw_of_noMarks
        · simpa using fun member => noDollar (by simp [member])
        · simpa using fun member => noBackslash (by simp [member])
        · simpa using fun member => noBacktick (by simp [member])
      have split : (front ++ '\x7d' :: back) ++ ['\x7d', '\x60'] =
          front ++ '\x7d' :: ((back ++ ['\x7d']) ++ ['\x60']) := by simp
      rw [read, split, scan_interpolation isFront, scan_raw isRaw _ _ (by decide),
        scan_backtick, Option.some.injEq, Prod.mk.injEq] at whole
      have last := congrArg (fun text => text.reverse.head?) whole.1
      simp at last
    · obtain ⟨more, isScan⟩ := unclosed.scan
      rw [read, scan, isScan 0] at whole
      simp [scan, Mode.inside] at whole
  · intro balanced
    rw [read, scan_interpolation balanced, scan_backtick]
    simp

/-- A template is raw text, and then expressions with the raw text behind each of them. -/
structure Interpolated where
  start : List Char
  parts : List (List Char × List Char)
deriving Repr, DecidableEq

namespace Interpolated

/-- This is how the parts are written. -/
def written (parts : List (List Char × List Char)) : List Char :=
  parts.flatMap fun (expression, raw) => '$' :: '\x7b' :: (expression ++ '\x7d' :: raw)

/-- Every character of an interpolation leaves a blank, and raw text stays. -/
def kept (parts : List (List Char × List Char)) : List Char :=
  parts.flatMap fun (expression, raw) => ' ' :: ' ' :: (expression.map blanked ++ ' ' :: raw)

def text (template : Interpolated) : List Char := template.start ++ written template.parts

def blankedText (template : Interpolated) : List Char := template.start ++ kept template.parts

def HasRawText (template : Interpolated) : Prop :=
  IsRaw template.start ∧ ∀ part ∈ template.parts, IsRaw part.2

/-- This is about the expression of each interpolation. -/
def HasExpressions (expression : List Char → Prop) (template : Interpolated) : Prop :=
  ∀ part ∈ template.parts, expression part.1

/-- What is written behind raw text never begins with a brace, so a dollar at its end opens
nothing. -/
theorem head_written (parts : List (List Char × List Char)) (rest : List Char) :
    (written parts ++ '\x60' :: rest).head? ≠ some '\x7b' := by
  cases parts <;> simp [written]

/-- The parts of a template are read one after the other, up to its closing backtick. -/
theorem scan_written {parts : List (List Char × List Char)}
    (isRaw : ∀ part ∈ parts, IsRaw part.2) (balanced : ∀ part ∈ parts, IsBalanced part.1)
    (taken rest : List Char) :
    scan .raw taken (written parts ++ '\x60' :: rest) =
      some (taken.reverse ++ kept parts, rest) := by
  induction parts generalizing taken with
  | nil => simp [written, kept, scan_backtick]
  | cons part others ih =>
      rw [List.forall_mem_cons] at isRaw balanced
      have split : written (part :: others) ++ '\x60' :: rest =
          '$' :: '\x7b' :: (part.1 ++ '\x7d' :: (part.2 ++ (written others ++ '\x60' :: rest))) := by
        simp [written]
      rw [split, scan_interpolation balanced.1, scan_raw isRaw.1 _ _ (head_written others rest),
        ih isRaw.2 balanced.2]
      simp [kept]

/-- A template is read up to the backtick behind it, and each of its interpolations is blanked as a
whole, when the braces of all its expressions balance. -/
theorem read_text (template : Interpolated) (raw : template.HasRawText)
    (balanced : template.HasExpressions IsBalanced) (rest : List Char) :
    read (template.text ++ '\x60' :: rest) = some (template.blankedText, rest) := by
  rw [read, text, List.append_assoc,
    scan_raw raw.1 _ _ (head_written template.parts rest), scan_written raw.2 balanced]
  simp [blankedText]

/-- A template whose expressions have balanced braces is taken up to the backtick behind it. The
text of its block is the template with each interpolation blanked as a whole, and the search for
blocks goes on behind that backtick. -/
theorem interpolations_blanked (template : Interpolated) (raw : template.HasRawText)
    (balanced : template.HasExpressions IsBalanced) (rest : List Char) :
    read (template.text ++ '\x60' :: rest) = some (template.blankedText, rest) ∧
      ∀ before position source opening,
        matchOpener before source = some (opening, template.text ++ '\x60' :: rest) →
          blocksFrom before position source =
            ⟨position.after opening, template.blankedText⟩ ::
              blocksFrom (some '\x60')
                (((position.after opening).after template.blankedText).next '\x60') rest := by
  have isRead := template.read_text raw balanced rest
  refine ⟨isRead, ?_⟩
  intro before position source opening opens
  exact blocksFrom_of_read position opens isRead

/-- An operation has an interpolation for one of its arguments. -/
def withArgument (expression : List Char) : Interpolated :=
  ⟨"\x7b a(b: ".toList, [(expression, ") \x7d".toList)]⟩

/-- The text around the argument of the example is raw. -/
theorem hasRawText_withArgument (expression : List Char) :
    (withArgument expression).HasRawText := by
  have start : IsRaw "\x7b a(b: ".toList :=
    ⟨by decide +kernel, by decide +kernel, by decide +kernel⟩
  have behind : IsRaw ") \x7d".toList :=
    ⟨by decide +kernel, by decide +kernel, by decide +kernel⟩
  refine ⟨start, fun part member => ?_⟩
  rw [List.mem_singleton.1 member]
  exact behind

/-- The example holds one expression, its argument. -/
theorem hasExpressions_withArgument {allowed : List Char → Prop} {expression : List Char}
    (isAllowed : allowed expression) : (withArgument expression).HasExpressions allowed := by
  intro part member
  rw [List.mem_singleton.1 member]
  exact isAllowed

/-- This is a call with an object that has a literal in it. -/
def objectCall : List Char :=
  ['f', '('] ++ ('\x7b' :: ['c', ':', ' ', '"', 'd', '"'] ++ ['\x7d', ')'])

/-- A call with an object in it is balanced. -/
theorem isExpression_objectCall : IsExpression IsBalanced objectCall := by
  have content : IsBalanced ['d'] := isBalanced_of_noBraces (by simp)
  have literal : IsExpression IsBalanced ('"' :: ['d'] ++ '"' :: []) :=
    .literal (by decide) (by decide) (by decide) (by decide) content .nil
  have object : IsExpression IsBalanced ['c', ':', ' ', '"', 'd', '"'] :=
    .other (by decide) (.other (by decide) (.other (by decide) literal))
  have behind : IsExpression IsBalanced [')'] := .other (by decide) .nil
  exact .other (by decide) (.other (by decide) (.braces object behind))

/-- A call with an object in it is left out whole, and the block is what stands around it. -/
theorem interpolations_blanked_objectCall :
    (withArgument objectCall).HasRawText ∧ (withArgument objectCall).HasExpressions IsBalanced ∧
      read ((withArgument objectCall).text ++ ['\x60', ';']) =
        some ("\x7b a(b:               ) \x7d".toList, [';']) ∧
      blocks ("gql\x60".toList ++ ((withArgument objectCall).text ++ ['\x60', ';'])) =
        [⟨⟨0, 4⟩, "\x7b a(b:               ) \x7d".toList⟩] := by
  have raw := hasRawText_withArgument objectCall
  have balanced := hasExpressions_withArgument isExpression_objectCall.isBalanced
  have blanks :
      (withArgument objectCall).blankedText = "\x7b a(b:               ) \x7d".toList := by
    decide +kernel
  have opens :
      matchOpener none ("gql\x60".toList ++ ((withArgument objectCall).text ++ ['\x60', ';'])) =
        some ("gql\x60".toList, (withArgument objectCall).text ++ ['\x60', ';']) := by
    decide +kernel
  have noneBehind (position : Position) : blocksFrom (some '\x60') position [';'] = [] := by
    rw [blocksFrom_of_none position (by decide), blocksFrom]
  have blanked := interpolations_blanked (withArgument objectCall) raw balanced [';']
  have found := blanked.2 none .start _ _ opens
  rw [noneBehind, blanks] at found
  rw [← blanks]
  exact ⟨raw, balanced, blanked.1, blanks ▸ found⟩

/-- This is a call with a literal that holds a closing brace. -/
def braceCall : List Char := ['f', '(', '"', '\x7d', '"', ')']

/-- A call with a brace in a string is an expression like any other. -/
theorem isExpression_braceCall : IsExpression (fun _ => True) braceCall := by
  have literal : IsExpression (fun _ => True) ('"' :: ['\x7d'] ++ '"' :: [')']) :=
    .literal (by decide) (by decide) (by decide) (by decide) trivial (.other (by decide) .nil)
  exact .other (by decide) (.other (by decide) literal)

/-- The interpolation ends within the literal, and what is behind that stays in the text. -/
theorem literal_closes_interpolation :
    (withArgument braceCall).HasRawText ∧
      (withArgument braceCall).HasExpressions (IsExpression fun _ => True) ∧
      (withArgument braceCall).blankedText = "\x7b a(b:          ) \x7d".toList ∧
      read ((withArgument braceCall).text ++ ['\x60']) =
        some ("\x7b a(b:       \")\x7d) \x7d".toList, []) := by
  have raw := hasRawText_withArgument braceCall
  have expressions := hasExpressions_withArgument isExpression_braceCall
  exact ⟨raw, expressions, by decide +kernel, by decide +kernel⟩

end Interpolated

end OperationCheck.Template
