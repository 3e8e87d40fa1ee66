import NamedGrid.Proofs.Blocks
import NamedGrid.Proofs.StylesheetReader

/-!
# Stylesheets without bracketed classes

A class in markup needs a hyphen before an opening bracket and a closing bracket behind them,
with no delimiter in between. A stylesheet has blanks between its parts, so it is enough to
look at each part alone (`IsClassless.append_cons`). A written selector has a backslash before
every bracket, a scanned value has no closing bracket, and what layouts write as it stands has
no hyphen before an opening one. So a stylesheet that is scanned with the markup it was made
from adds nothing.
-/

namespace NamedGrid

/-! ## Texts without classes -/

/-- No class stands in the text, wherever it could start. -/
def IsClassless (s : Text) : Prop :=
  ∀ c : BracketedClass, c.stem ∈ bracketStems → (∀ d ∈ c.value, isValueChar d = true) →
    ¬c.className <:+: s

namespace IsClassless

variable {s t : Text}

/-- A part of a text without classes has none. -/
theorem of_infix (ht : IsClassless t) (h : s <:+: t) : IsClassless s :=
  fun c hs hraw hc => ht c hs hraw (hc.trans h)

/-- A text without closing brackets has no classes. -/
theorem of_notMem (h : ']' ∉ s) : IsClassless s :=
  fun c _ _ hc => h (hc.subset (by simp [BracketedClass.className]))

/-- A text in which no value in brackets begins has no classes. -/
theorem of_opening (h : ¬opening <:+: s) : IsClassless s := by
  intro c _ _ hc
  refine h (List.IsInfix.trans ⟨c.stem, c.value ++ [']'], ?_⟩ hc)
  simp only [BracketedClass.className, List.append_assoc]

/-- A class ends with its bracket, so it does not end in a text that has none. -/
theorem append_of_notMem (hs : IsClassless s) (ht : ']' ∉ t) : IsClassless (s ++ t) := by
  rintro c hstem hraw ⟨before, after, h⟩
  have hsplit : (before ++ (c.stem ++ opening ++ c.value)) ++ ']' :: after = s ++ t := by
    rw [← h, BracketedClass.className]
    simp only [List.append_assoc, List.singleton_append]
  rcases List.append_eq_append_iff.mp hsplit with ⟨rest, hrest, hbracket⟩ | ⟨rest, -, hbracket⟩
  · cases rest with
    | nil => exact ht ((List.nil_append t ▸ hbracket) ▸ List.mem_cons_self)
    | cons d rest =>
      obtain ⟨rfl, -⟩ := List.cons.inj hbracket
      refine hs c hstem hraw ⟨before, rest, ?_⟩
      rw [hrest, BracketedClass.className]
      simp only [List.append_assoc, List.singleton_append]
  · exact ht (hbracket ▸ List.mem_append_right _ List.mem_cons_self)

/-- No class stands across a delimiter. -/
theorem append_cons {d : Char} (hd : isDelimiter d = true) (hs : IsClassless s)
    (ht : IsClassless t) : IsClassless (s ++ d :: t) := by
  intro c hstem hraw hc
  have hnot : d ∉ c.className := by
    intro hmem
    exact absurd hd (by simp [isDelimiter_of_mem_class hstem hraw hmem])
  exact (infix_append_cons hnot hc).elim (hs c hstem hraw) (ht c hstem hraw)

/-- Texts without classes that are joined by a delimiter have none. -/
theorem intercalate {d : Char} (hd : isDelimiter d = true) {parts : List Text}
    (h : ∀ s ∈ parts, IsClassless s) : IsClassless ([d].intercalate parts) := by
  intro c hstem hraw hc
  have hnot : d ∉ c.className := by
    intro hmem
    exact absurd hd (by simp [isDelimiter_of_mem_class hstem hraw hmem])
  obtain ⟨s, hs, hc⟩ := exists_infix_of_infix_intercalate (by simp [BracketedClass.className])
    hnot hc
  exact h s hs c hstem hraw hc

/-- Nothing is found where no class stands. -/
theorem occurrences_eq_nil (h : IsClassless s) (previous : Option Char) :
    occurrences previous s = [] := by
  fun_induction occurrences previous s with
  | case1 => rfl
  | case2 previous c rest hp stem raw after hw _ =>
    obtain ⟨hs, hraw, he⟩ := written?_eq_some_iff.mp hw
    refine absurd ?_ (h ⟨stem, raw⟩ hs hraw)
    exact ⟨[], after, by simp [he, BracketedClass.className]⟩
  | case3 previous c rest hp hw ih => exact ih (h.of_infix (List.suffix_cons c rest).isInfix)
  | case4 previous c rest hp ih => exact ih (h.of_infix (List.suffix_cons c rest).isInfix)

theorem bracketedClasses_eq_nil (h : IsClassless s) : bracketedClasses s = [] := by
  rw [bracketedClasses, h.occurrences_eq_nil]
  rfl

end IsClassless

/-! ## Written selectors -/

/-- A backslash stands before every opening bracket of the text. -/
def IsGuarded (s : Text) : Prop :=
  ∀ before after, s = before ++ '[' :: after → before.getLast? = some '\\'

namespace IsGuarded

variable {s t : Text}

/-- A text without opening brackets has nothing to guard. -/
theorem of_notMem (h : '[' ∉ s) : IsGuarded s := by
  rintro before after rfl
  exact absurd (List.mem_append_right _ List.mem_cons_self) h

theorem append (hs : IsGuarded s) (ht : IsGuarded t) : IsGuarded (s ++ t) := by
  intro before after h
  rcases List.append_eq_append_iff.mp h with ⟨rest, rfl, hrest⟩ | ⟨rest, rfl, hrest⟩
  · rw [List.getLast?_append, ht rest after hrest]
    rfl
  · cases rest with
    | nil => exact absurd (ht [] after hrest.symm) (by decide)
    | cons c rest =>
      obtain ⟨rfl, -⟩ := List.cons.inj hrest
      exact hs before rest rfl

theorem flatMap {f : Char → Text} (h : ∀ c, IsGuarded (f c)) (s : Text) :
    IsGuarded (s.flatMap f) := by
  induction s with
  | nil => exact of_notMem List.not_mem_nil
  | cons c s ih => exact (h c).append ih

/-- No value in brackets begins in a guarded text. -/
theorem isClassless (h : IsGuarded s) : IsClassless s := by
  refine .of_opening ?_
  rintro ⟨before, after, rfl⟩
  have hbefore := h (before ++ ['-']) after (by simp [opening])
  rw [List.getLast?_concat] at hbefore
  exact absurd hbefore (by decide)

end IsGuarded

/-- A character that does not stand for itself follows a backslash. -/
theorem isGuarded_escapedChar (c : Char) : IsGuarded (Identifier.escapedChar c) := by
  unfold Identifier.escapedChar
  split
  · rename_i hplain
    refine .of_notMem fun hmem => ?_
    rw [← List.mem_singleton.mp hmem] at hplain
    exact absurd hplain (by decide)
  · intro before after h
    rcases before with _ | ⟨d, before⟩
    · exact absurd (List.cons.inj h).1 (by decide)
    · obtain ⟨rfl, htail⟩ := List.cons.inj h
      cases before with
      | nil => rfl
      | cons e before => simp at htail

theorem isGuarded_escapedLead (c : Char) : IsGuarded (Identifier.escapedLead c) := by
  unfold Identifier.escapedLead
  split
  · rename_i hdigit
    obtain ⟨-, hall, -, -⟩ := Identifier.hexNumber_hex hdigit
    refine .of_notMem fun hmem => ?_
    simp only [List.cons_append, List.mem_cons, List.mem_append, List.not_mem_nil,
      or_false] at hmem
    rcases hmem with hmem | hmem | hmem
    · exact absurd hmem (by decide)
    · exact absurd (List.all_eq_true.mp hall _ hmem) (by decide)
    · exact absurd hmem (by decide)
  · exact isGuarded_escapedChar c

/-- **The identifier of a class name has a backslash before every opening bracket.** -/
theorem isGuarded_escape (s : Text) : IsGuarded (Identifier.escape s) := by
  have hinner := IsGuarded.flatMap isGuarded_escapedChar
  unfold Identifier.escape
  split
  · exact .of_notMem (by decide)
  · exact .of_notMem (by decide)
  · rename_i c s
    have hhyphen : IsGuarded ['-'] := .of_notMem (by decide)
    exact (hhyphen.append (isGuarded_escapedLead c)).append (hinner s)
  · exact (isGuarded_escapedLead _).append (hinner _)

/-- A written selector has no classes, if a selector that is not escaped has no opening
bracket. -/
theorem isClassless_writtenSelector {className : Text}
    (h : ' ' ∈ className → '[' ∉ className) :
    IsClassless (writtenSelector (selectorOf className)) := by
  rw [selectorOf, writtenSelector]
  split
  · rename_i hspace
    have hplain := h (by simpa using hspace)
    exact (IsGuarded.of_notMem (by simpa using hplain)).isClassless
  · have hdot : IsGuarded ['.'] := .of_notMem (by decide)
    exact (hdot.append (isGuarded_escape className)).isClassless

/-! ## Values -/

/-- What a layout writes into a stylesheet as it stands begins no value in brackets: its name
has no opening bracket, and no cell and no track size has a hyphen before one. -/
structure Layout.IsUnbracketed (layout : Layout) : Prop where
  name : '[' ∉ layout.name
  cell : ∀ row ∈ layout.rows, ∀ cell ∈ cells row, ¬opening <:+: cell
  rowTracks : ∀ size ∈ layout.rowTracks, ¬opening <:+: size
  colTracks : ∀ size ∈ layout.colTracks, ¬opening <:+: size

theorem isDelimiter_space : isDelimiter ' ' = true := by decide

/-- Texts without classes have none when a space stands between them. -/
theorem isClassless_spaced {parts : List Text} (h : ∀ s ∈ parts, IsClassless s) :
    IsClassless (spaced parts) :=
  .intercalate isDelimiter_space h

/-- A text without classes has none between quotation marks. -/
theorem IsClassless.inQuotes {s : Text} (h : IsClassless s) : IsClassless (inQuotes s) := by
  have hmark : isDelimiter '"' = true := by decide
  have hempty : IsClassless [] := .of_notMem List.not_mem_nil
  exact append_cons (s := []) hmark hempty (h.append_cons hmark hempty)

/-- What the shorthand shows of a value are its characters, spaces and quotation marks. -/
theorem mem_of_mem_shorthandAreas {c : Char} {value : Text} (h : c ∈ shorthandAreas value) :
    c ∈ value ∨ c = ' ' ∨ c = '"' := by
  rw [shorthandAreas] at h
  split at h
  · exact Or.inl ((Text.infix_trim value).subset h)
  · by_cases hspace : c = ' '
    · exact Or.inr (Or.inl hspace)
    · obtain ⟨shown, hshown, hc⟩ := exists_mem_of_mem_intercalate hspace h
      obtain ⟨row, hrow, rfl⟩ := List.mem_map.mp hshown
      have hjoined : [','].intercalate (value.splitOn ',') = value :=
        List.intercalate_splitOn ','
      have hvalue : row ⊆ value := hjoined ▸ subset_intercalate [','] hrow
      have hshown : c ∈ (withSpaces row).trim → c ∈ value := by
        intro hmem
        obtain ⟨d, hd, rfl⟩ := List.mem_map.mp ((Text.infix_trim _).subset hmem)
        split at hspace
        · exact absurd rfl hspace
        · rename_i hne
          rw [if_neg hne]
          exact hvalue hd
      rw [shorthandRow] at hc
      split at hc
      · exact Or.inl (hshown hc)
      · simp only [NamedGrid.inQuotes, List.cons_append, List.mem_cons, List.mem_append,
          List.not_mem_nil, or_false] at hc
        rcases hc with hc | hc | hc
        · exact Or.inr (Or.inr hc)
        · exact Or.inl (hshown hc)
        · exact Or.inr (Or.inr hc)

/-- The value of a scanned class has no closing bracket. -/
theorem bracket_notMem_value {markup : Text} {c : BracketedClass}
    (h : c ∈ bracketedClasses markup) : ']' ∉ c.value := by
  obtain ⟨⟨o, ho, rfl⟩, -⟩ := mem_bracketedClasses.mp h
  intro hmem
  exact absurd ((of_mem_occurrences ho).2 _ (unescape_subset o.2 hmem)) (by decide)

/-- The property is written without classes: its name has no closing bracket and its value
has no classes. -/
def IsClasslessPair (p : Text × Text) : Prop := ']' ∉ p.1 ∧ IsClassless p.2

theorem bracket_notMem_of_mem_propertyNames : ∀ name ∈ propertyNames, ']' ∉ name := by decide

variable {layouts : List Layout}

/-- What unbracketed layouts give to a property of a static class has no classes. -/
theorem StaticValue.isClassless {value : Text} (h : StaticValue layouts value)
    (hlayouts : ∀ layout ∈ layouts, layout.IsUnbracketed) : IsClassless value := by
  have hkeyword : ∀ keyword ∈ areaKeywords, ']' ∉ keyword := by decide
  have harea : ∀ {area : Text}, IsArea layouts area → IsClassless area := by
    rintro area ⟨⟨layout, hl, row, hrow, hcell⟩, -⟩
    exact .of_opening ((hlayouts layout hl).cell row hrow area hcell)
  cases h with
  | grid => exact .of_notMem (by decide)
  | @template layout hl =>
    refine isClassless_spaced fun shown hshown => ?_
    obtain ⟨row, hrow, rfl⟩ := List.mem_map.mp hshown
    exact (isClassless_spaced fun cell hcell =>
      .of_opening ((hlayouts layout hl).cell row hrow cell hcell)).inQuotes
  | @rowTracks layout hl _ hs => exact .of_opening ((hlayouts layout hl).rowTracks value hs)
  | @colTracks layout hl _ hs => exact .of_opening ((hlayouts layout hl).colTracks value hs)
  | keyword hk => exact .of_notMem (hkeyword value hk)
  | area ha => exact harea ha
  | start ha => exact (harea ha).append_of_notMem (by decide)
  | finish ha => exact (harea ha).append_of_notMem (by decide)
  | @span area ha =>
    have hname := harea ha
    have hend : IsClassless (area ++ "-end".toList) := hname.append_of_notMem (by decide)
    have hslash : IsClassless (area ++ "-start /".toList) := hname.append_of_notMem (by decide)
    have hsplit : area ++ "-start / ".toList ++ area ++ "-end".toList =
        (area ++ "-start /".toList) ++ ' ' :: (area ++ "-end".toList) := by
      simp only [List.append_assoc, String.toList]
      rfl
    rw [hsplit]
    exact hslash.append_cons isDelimiter_space hend

/-- Every property of a static class of unbracketed layouts is written without classes. -/
theorem StaticClass.isClasslessPair {className : Text} {declaration : Declaration}
    (h : StaticClass layouts className declaration)
    (hlayouts : ∀ layout ∈ layouts, layout.IsUnbracketed) :
    ∀ p ∈ declaration.properties, IsClasslessPair p := by
  intro p hp
  obtain ⟨hname, hvalue⟩ := h.mem_properties p hp
  exact ⟨bracket_notMem_of_mem_propertyNames p.1 hname, hvalue.isClassless hlayouts⟩

/-- Every property that a scanned class declares is written without classes. -/
theorem UtilitySet.isClasslessPair_of_resolve {set : UtilitySet}
    (h : set.families = resolverFamilies) {markup : Text} {c : BracketedClass}
    (hc : c ∈ bracketedClasses markup) {declaration : Declaration}
    (hd : set.resolve c.stem c.value = some declaration) :
    ∀ p ∈ declaration.properties, IsClasslessPair p := by
  intro p hp
  have hbracket := bracket_notMem_value hc
  obtain ⟨hname, hvalue⟩ := mem_properties_of_resolve h hd p hp
  refine ⟨bracket_notMem_of_mem_propertyNames p.1 hname, .of_notMem fun hmem => ?_⟩
  rcases hvalue with hvalue | hvalue | hvalue | hvalue
  · rw [hvalue] at hmem
    exact absurd hmem (by decide)
  · rw [hvalue] at hmem
    rcases mem_of_mem_shorthandAreas hmem with hmem | hmem | hmem
    · exact hbracket hmem
    · exact absurd hmem (by decide)
    · exact absurd hmem (by decide)
  · rw [hvalue] at hmem
    obtain ⟨d, hd, he⟩ := List.mem_map.mp hmem
    split at he
    · exact absurd he (by decide)
    · exact hbracket (he ▸ hd)
  · exact hbracket (hvalue ▸ hmem)

/-! ## Stylesheets -/

/-- A rule of properties without classes is written without classes. -/
theorem isClassless_ruleLines {className : Text} {declaration : Declaration}
    (hname : ' ' ∈ className → '[' ∉ className)
    (h : ∀ p ∈ declaration.properties, IsClasslessPair p) :
    ∀ line ∈ ruleLines (selectorOf className, Body.ofProperties declaration.toTable),
      IsClassless line := by
  have hheader : IsClassless (writtenSelector (selectorOf className) ++ [' ', '\x7b']) :=
    (isClassless_writtenSelector hname).append_of_notMem (by decide)
  have hclose : IsClassless ['\x7d'] := .of_notMem (by decide)
  rw [ruleLines, lines_ofProperties, List.forall_mem_cons, List.forall_mem_append,
    List.forall_mem_singleton]
  refine ⟨hheader, fun line hline => ?_, hclose⟩
  obtain ⟨p, hp, rfl⟩ := List.mem_map.mp hline
  obtain ⟨hkey, hvalue⟩ := h p (Table.mem_of_mem_entries_ofList hp)
  have hlead : IsClassless (indent 1 ++ p.1 ++ [':']) := by
    refine .of_notMem ?_
    simp only [List.mem_append, not_or]
    exact ⟨⟨by decide, hkey⟩, by decide⟩
  have hsplit : indent 1 ++ p.1 ++ ": ".toList ++ p.2 ++ [';'] =
      (indent 1 ++ p.1 ++ [':']) ++ ' ' :: (p.2 ++ [';']) := by
    simp
  rw [hsplit]
  exact hlead.append_cons isDelimiter_space (hvalue.append_of_notMem (by decide))

/-- **The stylesheet of unbracketed layouts has no classes**, whatever texts it is made from. -/
theorem UtilitySet.isClassless_render {sources : LayoutSources} {set : UtilitySet}
    (h : generate sources = .ok set) (hlayouts : ∀ layout ∈ set.layouts, layout.IsUnbracketed)
    (texts : List Text) : IsClassless (set.sheetOn texts).rules.render := by
  have hfeed : isDelimiter '\n' = true := by decide
  have hfamilies := families_of_generate h
  obtain ⟨layouts, -, -, rfl⟩ := generate_eq_ok_iff.mp h
  rw [render_eq_intercalate]
  refine .intercalate hfeed fun line hline => ?_
  obtain ⟨rule, hrule, hline⟩ := List.mem_flatMap.mp hline
  obtain ⟨className, declaration, rfl, hsource⟩ := mem_entries_sheetOn hfamilies hrule
  rcases List.mem_append.mp hline with hline | hline
  · refine isClassless_ruleLines ?_ ?_ line hline
    · intro hspace
      rcases hsource with hu | ⟨c, hc, rfl, -⟩
      · obtain ⟨layout, hl, rfl, -⟩ :=
          (mem_staticUtilities_assemble.mp hu).exists_layout_of_space hspace
        have hlead : '[' ∉ layoutStem ++ ['-'] := by decide
        rw [joined_eq_append]
        exact List.not_mem_append hlead (hlayouts layout hl).name
      · obtain ⟨text, -, htext⟩ := List.mem_flatMap.mp hc
        exact absurd hspace (space_notMem_className htext)
    · rcases hsource with hu | ⟨c, hc, rfl, hd⟩
      · exact (mem_staticUtilities_assemble.mp hu).isClasslessPair hlayouts
      · obtain ⟨text, -, htext⟩ := List.mem_flatMap.mp hc
        exact isClasslessPair_of_resolve hfamilies htext hd
  · rw [List.mem_singleton.mp hline]
    exact .of_notMem List.not_mem_nil

/-- Texts with the same classes make the same sheet. -/
theorem UtilitySet.sheetOn_congr (set : UtilitySet) {texts others : List Text}
    (h : texts.flatMap bracketedClasses = others.flatMap bracketedClasses) :
    set.sheetOn texts = set.sheetOn others := by
  rw [sheetOn, sheetOn, Sheet.foldl_scan, Sheet.foldl_scan, h]

/-- A text without classes makes no difference among those that are scanned. -/
theorem UtilitySet.sheetOn_append_cons (set : UtilitySet) {text : Text}
    (h : IsClassless text) (before after : List Text) :
    set.sheetOn (before ++ text :: after) = set.sheetOn (before ++ after) := by
  apply set.sheetOn_congr
  rw [List.flatMap_append, List.flatMap_cons, h.bracketedClasses_eq_nil, List.nil_append,
    List.flatMap_append]

end NamedGrid
