import NamedGrid.Css.Stylesheet
import NamedGrid.Proofs.Identifiers
import NamedGrid.Proofs.Rows

/-!
# Stylesheets read back

A stylesheet is read line by line with the blocks that are open, innermost first. The number
of open blocks gives the indentation of a line, and the end of a line tells a property, which
ends with a semicolon, from a header, which ends with a brace; the line that closes a block
is indented less than every line inside it. So each member of a body, written at its depth,
adds itself to the innermost block (`readLines_lines`), and a table whose texts keep to their
lines is read back whole (`readStylesheet_render`).
-/

namespace NamedGrid

/-! ## Legible tables -/

mutual

/-- Names, values and headers keep to one line, and no name of a property has a colon. -/
def Item.isLegible : Item → Bool
  | .property name value =>
    !Text.hasNewline name && !name.contains ':' && !Text.hasNewline value
  | .block header items => !Text.hasNewline header && Body.isLegible items

/-- All members are legible. -/
def Body.isLegible : List Item → Bool
  | [] => true
  | item :: rest => Item.isLegible item && Body.isLegible rest

end

/-- Is the selector a single class, without spaces and on one line? -/
def isSingleClass : Text → Bool
  | '.' :: className => !className.contains ' ' && !Text.hasNewline className
  | _ => false

/-- All selectors are single classes and all bodies are legible. -/
def RuleTable.isLegible (rules : RuleTable) : Bool :=
  rules.entries.all fun rule => isSingleClass rule.1 && Body.isLegible rule.2

/-! ## Reading lines -/

/-- The text in front of a tail with which it ends. -/
def before? (tail s : Text) : Option Text :=
  (Text.after? tail.reverse s.reverse).map List.reverse

/-- What is read of a stylesheet so far. -/
structure Outline where
  /-- The rules that are complete. -/
  rules : List (Text × Body)
  /-- The blocks that are open, innermost first: their headers and what they hold so far. -/
  blocks : List (Text × Body)

/-- A property on a line, its indentation taken off. -/
def readProperty (s : Text) : Option Item :=
  (before? [';'] s).bind fun pair =>
    match pair.dropWhile (· != ':') with
    | ':' :: ' ' :: value => some (.property (pair.takeWhile (· != ':')) value)
    | _ => none

namespace Outline

/-- Close the innermost block: it is a rule if it stands alone, else a member of the next. -/
def close (rules : List (Text × Body)) (header : Text) (items : Body) :
    List (Text × Body) → Outline
  | [] => ⟨rules ++ [(header, items)], []⟩
  | (outer, siblings) :: rest => ⟨rules, (outer, siblings ++ [.block header items]) :: rest⟩

/-- Read one line. -/
def readLine (outline : Outline) (line : Text) : Option Outline :=
  match outline.blocks with
  | [] =>
    if line.isEmpty then some outline
    else (before? [' ', '\x7b'] line).map fun header =>
      ⟨outline.rules, [(Identifier.decode header, [])]⟩
  | (header, items) :: outer =>
    if line = indent outer.length ++ ['\x7d'] then some (close outline.rules header items outer)
    else
      (Text.after? (indent (outer.length + 1)) line).bind fun written =>
        match before? [' ', '\x7b'] written with
        | some inner => some ⟨outline.rules, (inner, []) :: (header, items) :: outer⟩
        | none => (readProperty written).map fun item =>
          ⟨outline.rules, (header, items ++ [item]) :: outer⟩

/-- Read lines in order. -/
def readLines (outline : Outline) : List Text → Option Outline
  | [] => some outline
  | line :: rest => (outline.readLine line).bind fun next => next.readLines rest

end Outline

/-- The selectors and bodies of a stylesheet, if all of its lines can be read and all of its
blocks are closed. -/
def readStylesheet (css : Text) : Option (List (Text × Body)) :=
  (Outline.readLines ⟨[], []⟩ (css.splitOn '\n')).bind fun outline =>
    if outline.blocks.isEmpty then some outline.rules else none

/-! ## Single lines -/

theorem before?_append (tail s : Text) : before? tail (s ++ tail) = some s := by
  rw [before?, List.reverse_append, Text.after?_append, Option.map_some, List.reverse_reverse]

theorem before?_concat_of_ne {c d : Char} (hcd : c ≠ d) (tail s : Text) :
    before? (tail ++ [c]) (s ++ [d]) = none := by
  rw [before?, List.reverse_concat, List.reverse_concat, Text.after?_cons_cons,
    if_neg (by simpa using hcd), Option.map_none]

/-- A property is read from its line. -/
theorem readProperty_eq {name : Text} (hname : ':' ∉ name) (value : Text) :
    readProperty (name ++ ": ".toList ++ value ++ [';']) = some (.property name value) := by
  have hcolon : ∀ c ∈ name, (c != ':') = true := by
    intro c hc
    rw [bne_iff_ne]
    exact fun he => hname (he ▸ hc)
  have hpair : name ++ ": ".toList ++ value = name ++ ':' :: ' ' :: value := by simp
  have hdrop : (name ++ ':' :: ' ' :: value).dropWhile (· != ':') = ':' :: ' ' :: value := by
    rw [List.dropWhile_append_of_pos hcolon, List.dropWhile_cons_of_neg (by decide)]
  have htake : (name ++ ':' :: ' ' :: value).takeWhile (· != ':') = name := by
    rw [List.takeWhile_append_of_pos hcolon, List.takeWhile_cons_of_neg (by decide),
      List.append_nil]
  rw [readProperty, before?_append, Option.bind_some, hpair, hdrop, htake]
  rfl

theorem indent_succ (depth : Nat) : indent (depth + 1) = indent depth ++ [' ', ' '] := by
  rw [indent, Nat.mul_add, List.replicate_add]
  rfl

/-- A line inside a block does not close it. -/
theorem indent_succ_append_ne (depth : Nat) (s : Text) :
    indent (depth + 1) ++ s ≠ indent depth ++ ['\x7d'] := by
  rw [indent_succ, List.append_assoc]
  intro he
  have hhead := List.append_cancel_left he
  exact absurd (List.cons.inj hhead).1 (by decide)

namespace Outline

variable {rules : List (Text × Body)} {header : Text} {items : Body}
  {outer : List (Text × Body)}

/-- A line inside a block is read without its indentation. -/
theorem readLine_indent (written : Text) :
    readLine ⟨rules, (header, items) :: outer⟩ (indent (outer.length + 1) ++ written) =
      match before? [' ', '\x7b'] written with
      | some inner => some ⟨rules, (inner, []) :: (header, items) :: outer⟩
      | none => (readProperty written).map fun item =>
        ⟨rules, (header, items ++ [item]) :: outer⟩ := by
  simp only [readLine, indent_succ_append_ne, if_false, Text.after?_append, Option.bind_some]

/-- The line of a property adds it to the innermost block. -/
theorem readLine_property {name : Text} (hname : ':' ∉ name) (value : Text) :
    readLine ⟨rules, (header, items) :: outer⟩
        (indent (outer.length + 1) ++ name ++ ": ".toList ++ value ++ [';']) =
      some ⟨rules, (header, items ++ [.property name value]) :: outer⟩ := by
  -- The line ends with a semicolon, so whatever the value is it opens no block.
  have hclosed : before? [' ', '\x7b'] (name ++ ": ".toList ++ value ++ [';']) = none :=
    before?_concat_of_ne (by decide) [' '] _
  have hline : indent (outer.length + 1) ++ name ++ ": ".toList ++ value ++ [';'] =
      indent (outer.length + 1) ++ (name ++ ": ".toList ++ value ++ [';']) := by
    simp only [List.append_assoc]
  rw [hline, readLine_indent, hclosed]
  dsimp only
  rw [readProperty_eq hname, Option.map_some]

/-- The line of a header opens a block. -/
theorem readLine_header (inner : Text) :
    readLine ⟨rules, (header, items) :: outer⟩
        (indent (outer.length + 1) ++ inner ++ [' ', '\x7b']) =
      some ⟨rules, (inner, []) :: (header, items) :: outer⟩ := by
  rw [List.append_assoc, readLine_indent, before?_append]

/-- The line with a brace closes the innermost block. -/
theorem readLine_close (rules : List (Text × Body)) (header : Text) (items : Body)
    (outer : List (Text × Body)) :
    readLine ⟨rules, (header, items) :: outer⟩ (indent outer.length ++ ['\x7d']) =
      some (close rules header items outer) := by
  simp only [readLine, if_true]

/-- Lines may be read in two parts. -/
theorem readLines_append (outline : Outline) (lines more : List Text) :
    outline.readLines (lines ++ more) =
      (outline.readLines lines).bind fun next => next.readLines more := by
  induction lines generalizing outline with
  | nil => rfl
  | cons line lines ih =>
    rw [List.cons_append, readLines, readLines]
    cases outline.readLine line with
    | none => rfl
    | some next => exact ih next

end Outline

/-! ## Whole bodies -/

mutual

/-- The lines of a member add it to the innermost block. -/
theorem Item.readLines_lines (rules : List (Text × Body)) (header : Text) (items : Body)
    (outer : List (Text × Body)) : ∀ item : Item, item.isLegible = true →
    Outline.readLines ⟨rules, (header, items) :: outer⟩ (Item.lines (outer.length + 1) item) =
      some ⟨rules, (header, items ++ [item]) :: outer⟩
  | .property name value, h => by
    have hname : ':' ∉ name := by
      simp only [Item.isLegible, Bool.and_eq_true, Bool.not_eq_true'] at h
      simpa using h.1.2
    rw [Item.lines, Outline.readLines, Outline.readLine_property hname]
    rfl
  | .block inner members, h => by
    rw [Item.isLegible, Bool.and_eq_true] at h
    have hmembers := Body.readLines_lines rules inner [] ((header, items) :: outer) members h.2
    rw [List.length_cons, List.nil_append] at hmembers
    have hclose := Outline.readLine_close rules inner members ((header, items) :: outer)
    rw [List.length_cons] at hclose
    rw [Item.lines, Outline.readLines, Outline.readLine_header, Option.bind_some,
      Outline.readLines_append, hmembers, Option.bind_some, Outline.readLines, hclose]
    rfl

/-- The lines of a body add its members to the innermost block. -/
theorem Body.readLines_lines (rules : List (Text × Body)) (header : Text) (items : Body)
    (outer : List (Text × Body)) : ∀ body : List Item, Body.isLegible body = true →
    Outline.readLines ⟨rules, (header, items) :: outer⟩ (Body.lines (outer.length + 1) body) =
      some ⟨rules, (header, items ++ body) :: outer⟩
  | [], _ => by
    rw [Body.lines, List.append_nil]
    rfl
  | item :: rest, h => by
    rw [Body.isLegible, Bool.and_eq_true] at h
    rw [Body.lines, Outline.readLines_append,
      Item.readLines_lines rules header items outer item h.1, Option.bind_some,
      Body.readLines_lines rules header (items ++ [item]) outer rest h.2, List.append_assoc,
      List.singleton_append]

end

/-! ## Whole stylesheets -/

/-- The lines of a rule. -/
def ruleLines (rule : Text × Body) : List Text :=
  (writtenSelector rule.1 ++ [' ', '\x7b']) :: (Body.lines 1 rule.2 ++ [['\x7d']])

/-- The lines of a stylesheet: behind every rule stands an empty line. -/
def stylesheetLines (rules : List (Text × Body)) : List Text :=
  rules.flatMap fun rule => ruleLines rule ++ [[]]

/-- A single class is written as an identifier behind a dot. -/
theorem exists_className_of_isSingleClass {selector : Text} (h : isSingleClass selector = true) :
    ∃ className, selector = '.' :: className ∧ '\n' ∉ className ∧
      writtenSelector selector = '.' :: Identifier.escape className := by
  unfold isSingleClass at h
  split at h
  · rename_i className
    simp only [Bool.and_eq_true, Bool.not_eq_true'] at h
    refine ⟨className, rfl, by simpa [Text.hasNewline] using h.2, ?_⟩
    rw [writtenSelector, if_neg (by rw [h.1]; decide)]
  · cases h

/-- A written single class denotes its selector. -/
theorem decode_writtenSelector {selector : Text} (h : isSingleClass selector = true) :
    Identifier.decode (writtenSelector selector) = selector := by
  obtain ⟨className, rfl, -, hwritten⟩ := exists_className_of_isSingleClass h
  rw [hwritten, Identifier.decode_cons (by decide), Identifier.decode_escape]

/-- The lines of a rule add it to the rules that are read. -/
theorem readLines_ruleLines (rules : List (Text × Body)) {rule : Text × Body}
    (hs : isSingleClass rule.1 = true) (hb : Body.isLegible rule.2 = true) :
    Outline.readLines ⟨rules, []⟩ (ruleLines rule) = some ⟨rules ++ [rule], []⟩ := by
  have hne : (writtenSelector rule.1 ++ [' ', '\x7b']).isEmpty = false := by
    rw [List.isEmpty_eq_false_iff]
    exact List.append_ne_nil_of_right_ne_nil _ (List.cons_ne_nil _ _)
  have hopen : Outline.readLine ⟨rules, []⟩ (writtenSelector rule.1 ++ [' ', '\x7b']) =
      some ⟨rules, [(rule.1, [])]⟩ := by
    simp only [Outline.readLine, hne, Bool.false_eq_true, if_false, before?_append,
      Option.map_some, decode_writtenSelector hs]
  have hbody := Body.readLines_lines rules rule.1 [] [] rule.2 hb
  rw [List.length_nil, Nat.zero_add, List.nil_append] at hbody
  rw [ruleLines, Outline.readLines, hopen, Option.bind_some, Outline.readLines_append, hbody,
    Option.bind_some]
  rfl

/-- The lines of a stylesheet are its rules. -/
theorem readLines_stylesheetLines {rules : List (Text × Body)}
    (h : ∀ rule ∈ rules, isSingleClass rule.1 = true ∧ Body.isLegible rule.2 = true)
    (done : List (Text × Body)) :
    Outline.readLines ⟨done, []⟩ (stylesheetLines rules) = some ⟨done ++ rules, []⟩ := by
  induction rules generalizing done with
  | nil => rw [List.append_nil]; rfl
  | cons rule rules ih =>
    rw [List.forall_mem_cons] at h
    have hblank : Outline.readLines ⟨done ++ [rule], []⟩ [[]] = some ⟨done ++ [rule], []⟩ := rfl
    have hrest := ih h.2 (done ++ [rule])
    rw [List.append_assoc, List.singleton_append] at hrest
    rw [stylesheetLines, List.flatMap_cons, Outline.readLines_append, Outline.readLines_append,
      readLines_ruleLines done h.1.1 h.1.2, Option.bind_some, hblank, Option.bind_some,
      ← stylesheetLines, hrest]

/-- A rule with the empty line behind it ends with a line feed. -/
theorem intercalate_ruleLines (rule : Text × Body) :
    ['\n'].intercalate (ruleLines rule ++ [[]]) = renderRule rule.1 rule.2 ++ ['\n'] := by
  have hne : ruleLines rule ≠ [] := List.cons_ne_nil _ _
  rw [intercalate_append _ hne (List.cons_ne_nil _ _), List.intercalate_singleton, List.append_nil]
  rfl

/-- Rules with a blank line between them are their lines with line feeds between them. -/
theorem intercalate_stylesheetLines (rule : Text × Body) (rules : List (Text × Body)) :
    ['\n'].intercalate (stylesheetLines (rule :: rules)) =
      ['\n', '\n'].intercalate ((rule :: rules).map fun r => renderRule r.1 r.2) ++ ['\n'] := by
  induction rules generalizing rule with
  | nil =>
    rw [stylesheetLines, List.flatMap_singleton, intercalate_ruleLines, List.map_singleton,
      List.intercalate_singleton]
  | cons next rules ih =>
    have hne : ruleLines rule ++ [[]] ≠ [] := List.concat_ne_nil _ _
    have hrest : stylesheetLines (next :: rules) ≠ [] := List.cons_ne_nil _ _
    rw [stylesheetLines, List.flatMap_cons, ← stylesheetLines, intercalate_append _ hne hrest,
      intercalate_ruleLines, ih]
    simp only [List.map_cons, List.intercalate_cons_cons, List.append_assoc, List.cons_append,
      List.nil_append]

/-- A stylesheet is its lines with line feeds between them. -/
theorem render_eq_intercalate (rules : RuleTable) :
    rules.render = ['\n'].intercalate (stylesheetLines rules.entries) := by
  unfold RuleTable.render
  split
  · rename_i hentries
    rw [hentries]
    rfl
  · rename_i hne
    obtain ⟨rule, entries, hentries⟩ := List.exists_cons_of_ne_nil hne
    rw [hentries, intercalate_stylesheetLines]

/-- An indentation has no line feed. -/
theorem newline_notMem_indent (depth : Nat) : '\n' ∉ indent depth :=
  fun h => absurd (List.eq_of_mem_replicate h) (by decide)

mutual

/-- The lines of a legible member have no line feed. -/
theorem Item.newline_notMem_lines (depth : Nat) : ∀ item : Item, item.isLegible = true →
    ∀ line ∈ Item.lines depth item, '\n' ∉ line
  | .property name value, h => by
    have hindent := newline_notMem_indent depth
    simp [Item.isLegible, Text.hasNewline] at h
    simp [Item.lines, hindent, h]
  | .block header items, h => by
    have hindent := newline_notMem_indent depth
    rw [Item.isLegible, Bool.and_eq_true] at h
    have hheader : '\n' ∉ header := by simpa [Text.hasNewline] using h.1
    rw [Item.lines, List.forall_mem_cons]
    refine ⟨by simp [hindent, hheader], List.forall_mem_append.mpr
      ⟨Body.newline_notMem_lines (depth + 1) items h.2, by simp [hindent]⟩⟩

/-- The lines of a legible body have no line feed. -/
theorem Body.newline_notMem_lines (depth : Nat) : ∀ body : List Item, Body.isLegible body = true →
    ∀ line ∈ Body.lines depth body, '\n' ∉ line
  | [], _ => by simp [Body.lines]
  | item :: rest, h => by
    rw [Body.isLegible, Bool.and_eq_true] at h
    rw [Body.lines]
    exact List.forall_mem_append.mpr ⟨Item.newline_notMem_lines depth item h.1,
      Body.newline_notMem_lines depth rest h.2⟩

end

/-- A written single class has no line feed. -/
theorem newline_notMem_writtenSelector {selector : Text} (h : isSingleClass selector = true) :
    '\n' ∉ writtenSelector selector := by
  obtain ⟨className, -, hnewline, hwritten⟩ := exists_className_of_isSingleClass h
  rw [hwritten, List.mem_cons, not_or]
  refine ⟨by decide, fun hmem => ?_⟩
  rcases Identifier.mem_of_mem_escape hmem with hmem | hmem | hmem | hmem
  · exact hnewline hmem
  all_goals exact absurd hmem (by decide)

/-- No line of a legible stylesheet has a line feed. -/
theorem newline_notMem_stylesheetLines {rules : List (Text × Body)}
    (h : ∀ rule ∈ rules, isSingleClass rule.1 = true ∧ Body.isLegible rule.2 = true) :
    ∀ line ∈ stylesheetLines rules, '\n' ∉ line := by
  intro line hline
  obtain ⟨rule, hrule, hline⟩ := List.mem_flatMap.mp hline
  obtain ⟨hs, hb⟩ := h rule hrule
  have hselector := newline_notMem_writtenSelector hs
  have hbody := Body.newline_notMem_lines 1 rule.2 hb
  simp only [ruleLines, List.cons_append, List.append_assoc, List.mem_cons, List.mem_append,
    List.not_mem_nil, or_false, false_or] at hline
  rcases hline with rfl | hline | rfl | rfl
  · simp [hselector]
  · exact hbody line hline
  · decide
  · decide

/-- The rules of a legible table are read from its stylesheet. -/
theorem readStylesheet_render_eq {rules : RuleTable} (h : rules.isLegible = true) :
    readStylesheet rules.render = some rules.entries := by
  have hrules : ∀ rule ∈ rules.entries,
      isSingleClass rule.1 = true ∧ Body.isLegible rule.2 = true := by
    simpa only [RuleTable.isLegible, List.all_eq_true, Bool.and_eq_true] using h
  have hread := readLines_stylesheetLines hrules []
  rw [List.nil_append] at hread
  rw [readStylesheet, render_eq_intercalate]
  cases hentries : rules.entries with
  | nil => rfl
  | cons rule entries =>
    rw [← hentries, List.splitOn_intercalate '\n' (newline_notMem_stylesheetLines hrules)
      (by rw [hentries]; exact List.cons_ne_nil _ _), hread]
    rfl

/-- **A stylesheet determines its rules**: whoever reads its lines finds the selectors in
order with their bodies, so no other legible table has the same text. -/
theorem readStylesheet_render {rules : RuleTable} (h : rules.isLegible = true) :
    readStylesheet rules.render = some rules.entries ∧
      ∀ others : RuleTable, others.isLegible = true → others.render = rules.render →
        others = rules := by
  refine ⟨readStylesheet_render_eq h, fun others hothers htext => ?_⟩
  have hentries : some others.entries = some rules.entries := by
    rw [← readStylesheet_render_eq h, ← readStylesheet_render_eq hothers, htext]
  obtain ⟨entries, _⟩ := others
  obtain ⟨_, _⟩ := rules
  cases hentries
  rfl

/-- A table with a name that begins with a digit, blocks in a block and texts that hold the
marks of lines and blocks. -/
def narrowRules : RuleTable :=
  Table.ofList
    [(".2col".toList,
      [.property "display".toList "grid".toList,
        .block "@media (width: 40rem)".toList
          [.property "grid-area".toList "a: b; \x7d".toList, .block "& \x7b".toList []]]),
      (".grid-areas-[a_b]".toList, [])]

/-- Nested and empty blocks are read back. -/
theorem readStylesheet_render_narrowRules :
    narrowRules.isLegible = true ∧ readStylesheet narrowRules.render = some narrowRules.entries ∧
      ∀ others : RuleTable, others.isLegible = true → others.render = narrowRules.render →
        others = narrowRules :=
  have hlegible : narrowRules.isLegible = true := by decide +kernel
  ⟨hlegible, readStylesheet_render hlegible⟩

end NamedGrid
