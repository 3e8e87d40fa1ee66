import Mathlib.Data.List.Forall2
import NamedGrid.Proofs.Generation
import NamedGrid.Proofs.Rows
import NamedGrid.Proofs.Scanner

/-!
# The bracket shorthand

A bracketed value is read row by row unless, trimmed, it is taken for one reference. For two
or more rows that happens exactly if the first starts like a reference, the last ends with a
parenthesis and no line feed stands between (`shorthandAreas_eq_rows_iff`): the test looks at
both ends of the value and not at what the parentheses belong to. On cells that hold no
separator and no reference the shorthand says what the written rows of a layout say
(`resolve_shorthand_eq_layout`), whatever blanks keep their cells apart.
-/

namespace NamedGrid

/-! ## References -/

/-- The opening of a reference stands wherever one is found. -/
theorem infix_of_holdsReference {s : Text} (h : holdsReference s = true) :
    referenceOpening <:+: s := by
  induction s with
  | nil => cases h
  | cons c s ih =>
    rw [holdsReference, Bool.or_eq_true] at h
    rcases h with h | h
    · cases hrest : Text.after? referenceOpening (c :: s) with
      | none =>
        rw [hrest] at h
        cases h
      | some rest => exact ⟨[], rest, (Text.eq_append_of_after? hrest).symm⟩
    · obtain ⟨a, b, rfl⟩ := ih h
      exact ⟨c :: a, b, rfl⟩

/-- A value is taken for a reference if, trimmed, it starts like one, ends with a parenthesis
and stays on one line. -/
theorem isReference_iff {value : Text} :
    isReference value = true ↔
      referenceOpening <+: value.trim ∧ value.trim.getLast? = some ')' ∧ '\n' ∉ value.trim := by
  have hopening : '\n' ∉ referenceOpening := by decide
  unfold isReference
  generalize value.trim = s
  cases hrest : Text.after? referenceOpening s with
  | none =>
    refine iff_of_false Bool.false_ne_true ?_
    rintro ⟨⟨rest, rfl⟩, -⟩
    rw [Text.after?_append] at hrest
    cases hrest
  | some rest =>
    obtain rfl := Text.eq_append_of_after? hrest
    simp only [Bool.and_eq_true, beq_iff_eq, Text.hasNewline, Bool.not_eq_true',
      List.contains_eq_mem, decide_eq_false_iff_not, List.mem_append, hopening, false_or,
      List.prefix_append, true_and]
    rcases List.eq_nil_or_concat' rest with rfl | ⟨rest, c, rfl⟩
    · exact iff_of_false (by simp) (by decide)
    · rw [List.dropLast_concat, ← List.append_assoc, List.getLast?_concat, List.getLast?_concat]
      refine and_congr_right fun hc => ?_
      obtain rfl := Option.some.inj hc
      simp

/-! ## Values of several rows -/

/-- Rows joined by commas. -/
def joinedRows (rows : List Text) : Text := [','].intercalate rows

/-- Trimming joined rows trims the first at its start and the last at its end. -/
theorem trim_joinedRows (first last : Text) (middle : List Text) :
    (joinedRows (first :: (middle ++ [last]))).trim =
      joinedRows (first.trimStart :: (middle ++ [last.trimEnd])) := by
  have hcomma : isBlank ',' = false := by decide
  have hend : Text.trimEnd (middle.flatMap (· ++ [',']) ++ last) =
      middle.flatMap (· ++ [',']) ++ last.trimEnd := by
    induction middle with
    | nil => rfl
    | cons row middle ih =>
      rw [List.flatMap_cons, List.append_assoc, List.append_assoc, List.singleton_append,
        Text.trimEnd_append_cons hcomma, ih, List.append_assoc, List.append_assoc,
        List.singleton_append]
  rw [joinedRows, joinedRows, ← List.cons_append, ← List.cons_append, intercalate_concat,
    intercalate_concat, List.flatMap_cons, List.flatMap_cons, List.append_assoc,
    List.append_assoc, List.singleton_append, Text.trim_append_cons hcomma, hend,
    List.append_assoc, List.append_assoc, List.singleton_append]

/-- Two or more rows without commas are taken for one reference exactly if the first starts
like a reference, the last ends with a parenthesis and no line feed stands between. -/
theorem isReference_joinedRows_iff {first last : Text} {middle : List Text} :
    isReference (joinedRows (first :: (middle ++ [last]))) = true ↔
      referenceOpening <+: first.trimStart ∧ last.trimEnd.getLast? = some ')' ∧
        '\n' ∉ (joinedRows (first :: (middle ++ [last]))).trim := by
  have hfirst : referenceOpening <+: (joinedRows (first :: (middle ++ [last]))).trim ↔
      referenceOpening <+: first.trimStart := by
    obtain ⟨row, rest, hrest⟩ := List.exists_cons_of_ne_nil
      (List.append_ne_nil_of_right_ne_nil middle (List.cons_ne_nil last.trimEnd []))
    rw [trim_joinedRows, hrest, joinedRows, List.intercalate_cons_cons, List.append_assoc,
      List.singleton_append]
    exact prefix_append_cons_iff (by decide)
  have hlast : (joinedRows (first :: (middle ++ [last]))).trim.getLast? = some ')' ↔
      last.trimEnd.getLast? = some ')' := by
    have hbefore : ((first.trimStart :: middle).flatMap (· ++ [','])).getLast? = some ',' := by
      rcases List.eq_nil_or_concat' middle with rfl | ⟨middle, row, rfl⟩
      · simp
      · rw [← List.cons_append, List.flatMap_append, List.flatMap_singleton, ← List.append_assoc,
          List.getLast?_concat]
    rw [trim_joinedRows, joinedRows, ← List.cons_append, intercalate_concat,
      List.getLast?_append, hbefore]
    cases last.trimEnd.getLast? with
    | none => simp
    | some c => simp
  rw [isReference_iff, hfirst, hlast]

/-- A row that is shown has a comma only if it is written with one. -/
theorem mem_of_mem_shorthandRow {row : Text} (h : ',' ∈ shorthandRow row) : ',' ∈ row := by
  have hshown : ',' ∈ (withSpaces row).trim → ',' ∈ row := by
    intro hc
    obtain ⟨d, hd, he⟩ := List.mem_map.mp ((Text.infix_trim _).subset hc)
    split at he
    · exact absurd he (by decide)
    · exact he ▸ hd
  rw [shorthandRow] at h
  split at h
  · exact hshown h
  · refine hshown ?_
    simpa [inQuotes] using h

/-- A value that is not taken for a reference is shown row by row. -/
theorem shorthandAreas_joinedRows {rows : List Text} (hne : rows ≠ [])
    (hcomma : ∀ row ∈ rows, ',' ∉ row) (h : isReference (joinedRows rows) = false) :
    shorthandAreas (joinedRows rows) = spaced (rows.map shorthandRow) := by
  rw [shorthandAreas, h, if_neg Bool.false_ne_true, joinedRows,
    List.splitOn_intercalate ',' hcomma hne]

/-- **Rows are shown one by one**, two or more of them without commas, exactly unless their
outer ends pass for one reference. -/
theorem shorthandAreas_eq_rows_iff {first last : Text} {middle : List Text}
    (hcomma : ∀ row ∈ first :: (middle ++ [last]), ',' ∉ row) :
    shorthandAreas (joinedRows (first :: (middle ++ [last]))) =
        spaced ((first :: (middle ++ [last])).map shorthandRow) ↔
      ¬(referenceOpening <+: first.trimStart ∧ last.trimEnd.getLast? = some ')' ∧
        '\n' ∉ (joinedRows (first :: (middle ++ [last]))).trim) := by
  rw [← isReference_joinedRows_iff]
  constructor
  · intro hrows href
    -- Taken for a reference, the value keeps its commas; shown by rows it has none.
    have hkept : ',' ∈ (joinedRows (first :: (middle ++ [last]))).trim := by
      rw [trim_joinedRows, joinedRows, ← List.cons_append, intercalate_concat,
        List.flatMap_cons]
      simp
    rw [shorthandAreas, if_pos href] at hrows
    rw [hrows] at hkept
    obtain ⟨shown, hshown, hc⟩ := exists_mem_of_mem_intercalate (by decide) hkept
    obtain ⟨row, hrow, rfl⟩ := List.mem_map.mp hshown
    exact hcomma row hrow (mem_of_mem_shorthandRow hc)
  · intro href
    exact shorthandAreas_joinedRows (List.cons_ne_nil _ _) hcomma (by simpa using href)

/-- A reference in the first row alone does not change how the second is shown. -/
theorem shorthandAreas_first_reference :
    (∀ row ∈ "var(--top)".toList :: ([] ++ ["main_main".toList]), ',' ∉ row) ∧
      shorthandAreas (joinedRows ("var(--top)".toList :: ([] ++ ["main_main".toList]))) =
        "var(--top) \"main main\"".toList := by
  have hcomma : ∀ row ∈ "var(--top)".toList :: ([] ++ ["main_main".toList]), ',' ∉ row := by
    decide
  refine ⟨hcomma, (shorthandAreas_eq_rows_iff hcomma).mpr ?_⟩
  exact fun houter => absurd houter.2.1 (by decide)

/-- Do the parentheses of a text match, if so many are open before it? -/
def parenthesesMatch : Nat → Text → Bool
  | depth, [] => depth == 0
  | depth, '(' :: s => parenthesesMatch (depth + 1) s
  | 0, ')' :: _ => false
  | depth + 1, ')' :: s => parenthesesMatch depth s
  | depth, _ :: s => parenthesesMatch depth s

/-- Rows that stand between two rows of references are not shown as rows, though no
parenthesis spans a comma. -/
theorem shorthandAreas_outer_references :
    (["var(--a)".toList, "main_main".toList, "var(--b)".toList].all fun row =>
        !row.contains ',' && parenthesesMatch 0 row) = true ∧
      shorthandAreas (joinedRows ["var(--a)".toList, "main_main".toList, "var(--b)".toList]) =
        "var(--a),main_main,var(--b)".toList ∧
      spaced (["var(--a)".toList, "main_main".toList, "var(--b)".toList].map shorthandRow) =
        "var(--a) \"main main\" var(--b)".toList := by
  decide

/-! ## Grids of cells -/

/-- The bracket shorthand of a grid: low lines between the cells of a row, commas between
rows. -/
def shorthandOf (grid : List (List Text)) : Text :=
  joinedRows (grid.map fun cs => ['_'].intercalate cs)

/-- The cell can be written in the shorthand as it is: it holds no blank, no separator, no
backslash and no opening of a reference. -/
structure IsPlainCell (cell : Text) : Prop where
  ne_nil : cell ≠ []
  noBlank : cell.any isBlank = false
  noSeparator : '_' ∉ cell ∧ ',' ∉ cell
  noEscape : '\\' ∉ cell
  noReference : ¬referenceOpening <:+: cell

instance (cell : Text) : Decidable (IsPlainCell cell) :=
  decidable_of_iff
    (cell ≠ [] ∧ cell.any isBlank = false ∧ ('_' ∉ cell ∧ ',' ∉ cell) ∧ '\\' ∉ cell ∧
      ¬referenceOpening <:+: cell)
    ⟨fun ⟨hne, hb, hs, he, hr⟩ => ⟨hne, hb, hs, he, hr⟩,
      fun ⟨hne, hb, hs, he, hr⟩ => ⟨hne, hb, hs, he, hr⟩⟩

/-- There are rows, all rows have cells, and all cells can be written in the shorthand. -/
structure IsPlainGrid (grid : List (List Text)) : Prop where
  ne_nil : grid ≠ []
  filled : ∀ cs ∈ grid, cs ≠ []
  plain : ∀ cs ∈ grid, ∀ cell ∈ cs, IsPlainCell cell

/-- What no cell contains and what is no separator is not in the shorthand. -/
theorem notMem_shorthandOf {grid : List (List Text)} {c : Char} (hlow : c ≠ '_')
    (hcomma : c ≠ ',') (h : ∀ cs ∈ grid, ∀ cell ∈ cs, c ∉ cell) : c ∉ shorthandOf grid := by
  intro hc
  obtain ⟨row, hrow, hc⟩ := exists_mem_of_mem_intercalate hcomma hc
  obtain ⟨cs, hcs, rfl⟩ := List.mem_map.mp hrow
  obtain ⟨cell, hcell, hc⟩ := exists_mem_of_mem_intercalate hlow hc
  exact h cs hcs cell hcell hc

/-- A text without backslashes has no escapes to take away. -/
theorem unescape_eq_self {s : Text} (h : '\\' ∉ s) : unescape s = s := by
  induction s with
  | nil => rfl
  | cons c s ih =>
    rw [List.mem_cons, not_or] at h
    rw [unescape_cons fun hc => absurd hc.symm h.1, ih h.2]

/-- Low lines that join cells are exchanged for spaces. -/
theorem withSpaces_intercalate {cs : List Text} (h : ∀ cell ∈ cs, '_' ∉ cell) :
    withSpaces (['_'].intercalate cs) = spaced cs := by
  have hcells : cs.map (fun cell => cell.map fun c => if c = '_' then ' ' else c) = cs := by
    refine (List.map_congr_left fun cell hm => ?_).trans (List.map_id cs)
    refine (List.map_congr_left fun c hc => ?_).trans (List.map_id cell)
    exact if_neg fun he : c = '_' => h cell hm (he ▸ hc)
  rw [withSpaces, Text.exchange, map_intercalate, hcells]
  rfl

namespace IsPlainGrid

variable {grid : List (List Text)}

/-- The cells of a row are words. -/
theorem words (hg : IsPlainGrid grid) {cs : List Text} (hcs : cs ∈ grid) :
    ∀ cell ∈ cs, cell ≠ [] ∧ cell.any isBlank = false := fun cell hcell =>
  ⟨(hg.plain cs hcs cell hcell).ne_nil, (hg.plain cs hcs cell hcell).noBlank⟩

/-- No row of the shorthand has a comma. -/
theorem comma_notMem (hg : IsPlainGrid grid) :
    ∀ row ∈ grid.map fun cs => ['_'].intercalate cs, ',' ∉ row := by
  intro row hrow hc
  obtain ⟨cs, hcs, rfl⟩ := List.mem_map.mp hrow
  obtain ⟨cell, hcell, hc⟩ := exists_mem_of_mem_intercalate (by decide) hc
  exact (hg.plain cs hcs cell hcell).noSeparator.2 hc

/-- No reference starts in the shorthand. -/
theorem not_infix_shorthandOf (hg : IsPlainGrid grid) :
    ¬referenceOpening <:+: shorthandOf grid := by
  intro h
  obtain ⟨row, hrow, h⟩ := exists_infix_of_infix_intercalate (by decide) (by decide) h
  obtain ⟨cs, hcs, rfl⟩ := List.mem_map.mp hrow
  obtain ⟨cell, hcell, h⟩ := exists_infix_of_infix_intercalate (by decide) (by decide) h
  exact (hg.plain cs hcs cell hcell).noReference h

/-- A row of the shorthand is shown in quotation marks, with single spaces. -/
theorem shorthandRow_intercalate (hg : IsPlainGrid grid) {cs : List Text} (hcs : cs ∈ grid) :
    shorthandRow (['_'].intercalate cs) = inQuotes (spaced cs) := by
  have hlow : ∀ cell ∈ cs, '_' ∉ cell := fun cell hcell =>
    (hg.plain cs hcs cell hcell).noSeparator.1
  have hreference : holdsReference (spaced cs) = false := by
    rw [Bool.eq_false_iff]
    intro h
    obtain ⟨cell, hcell, h⟩ := exists_infix_of_infix_intercalate (by decide) (by decide)
      (infix_of_holdsReference h)
    exact (hg.plain cs hcs cell hcell).noReference h
  rw [shorthandRow, withSpaces_intercalate hlow, trim_spaced (hg.words hcs)]
  exact if_neg (by simp [hreference])

/-- The shorthand of a grid is shown as its rows in quotation marks. -/
theorem shorthandAreas_shorthandOf (hg : IsPlainGrid grid) :
    shorthandAreas (shorthandOf grid) = spaced (grid.map fun cs => inQuotes (spaced cs)) := by
  have href : isReference (shorthandOf grid) = false := by
    rw [Bool.eq_false_iff]
    intro h
    exact hg.not_infix_shorthandOf ((isReference_iff.mp h).1.isInfix.trans (Text.infix_trim _))
  have hne : (grid.map fun cs => ['_'].intercalate cs) ≠ [] := by simpa using hg.ne_nil
  rw [shorthandOf, shorthandAreas_joinedRows hne hg.comma_notMem href, List.map_map]
  exact congrArg spaced (List.map_congr_left fun cs hcs => hg.shorthandRow_intercalate hcs)

/-- A layout of rows that show the cells has them in its template. -/
theorem layoutUtility_eq_ok (hg : IsPlainGrid grid) {written : List Text}
    (hw : List.Forall₂ IsSpread grid written) (name : Text) :
    layoutUtility ⟨name, written, none, none⟩ =
      .ok ⟨joined layoutStem name, resolveAreas (shorthandOf grid)⟩ := by
  have hcells : written.map cells = grid :=
    map_cells_of_isSpread (fun cs hcs => hg.words hcs) hw
  have hfilled : (Layout.mk name written none none).IsFilled := by
    constructor
    · rintro rfl
      exact hg.ne_nil hcells.symm
    · intro row hrow
      exact hg.filled (cells row) (hcells ▸ List.mem_map_of_mem hrow)
  have hshown : written.map shownRow = grid.map fun cs => inQuotes (spaced cs) := by
    rw [← hcells, List.map_map]
    rfl
  rw [Layout.layoutUtility_eq_ok_iff]
  refine ⟨hfilled, ?_⟩
  rw [resolveAreas, hg.shorthandAreas_shorthandOf, ← hshown]
  rfl

end IsPlainGrid

/-- Every generated set resolves bracketed layouts in the same way. -/
theorem resolve_layoutStem {sources : LayoutSources} {set : UtilitySet}
    (h : UtilitySet.generate sources = .ok set) (value : Text) :
    set.resolve layoutStem value = some (resolveAreas value) := by
  obtain ⟨layouts, -, -, rfl⟩ := UtilitySet.generate_eq_ok_iff.mp h
  rfl

/-- **The shorthand says what written rows say.** The class of a grid that can be written in
brackets is read as the shorthand of the grid, and a generated set resolves it to what a
layout without tracks declares whose rows show the same cells. -/
theorem resolve_shorthand_eq_layout {sources : LayoutSources} {set : UtilitySet}
    (h : UtilitySet.generate sources = .ok set) (name : Text) {grid : List (List Text)}
    {written : List Text} (hg : IsPlainGrid grid) (hw : List.Forall₂ IsSpread grid written) :
    BracketedClass.parse? ("grid-areas-[".toList ++ shorthandOf grid ++ "]".toList) =
        some ⟨"grid-areas".toList, shorthandOf grid⟩ ∧
      ∃ u, layoutUtility ⟨name, written, none, none⟩ = .ok u ∧
        set.resolve "grid-areas".toList (shorthandOf grid) = some u.declaration := by
  constructor
  · have hnewline : Text.hasNewline (shorthandOf grid) = false := by
      have hblank : ∀ cs ∈ grid, ∀ cell ∈ cs, '\n' ∉ cell := by
        intro cs hcs cell hcell hc
        exact List.any_eq_false.mp (hg.plain cs hcs cell hcell).noBlank '\n' hc (by decide)
      simpa [Text.hasNewline] using notMem_shorthandOf (by decide) (by decide) hblank
    have hescape : '\\' ∉ shorthandOf grid :=
      notMem_shorthandOf (by decide) (by decide) fun cs hcs cell hcell =>
        (hg.plain cs hcs cell hcell).noEscape
    have hparse := parse?_className_of_hasNewline (c := ⟨layoutStem, shorthandOf grid⟩)
      List.mem_cons_self hnewline
    rwa [BracketedClass.unescaped, unescape_eq_self hescape] at hparse
  · exact ⟨_, hg.layoutUtility_eq_ok hw name, resolve_layoutStem h _⟩

/-- Cells of brackets and dots, and one row with runs of blanks. -/
theorem resolve_shorthand_eq_layout_brackets :
    ∃ set, UtilitySet.generate .empty = .ok set ∧
      BracketedClass.parse? "grid-areas-[[a]_..,x]-\x7by\x7d_[]".toList =
        some ⟨"grid-areas".toList, "[a]_..,x]-\x7by\x7d_[".toList⟩ ∧
      ∃ u, layoutUtility
          ⟨"page".toList, ["[a] ..".toList, " x]-\x7by\x7d\t [".toList], none, none⟩ = .ok u ∧
        set.resolve "grid-areas".toList "[a]_..,x]-\x7by\x7d_[".toList = some u.declaration := by
  have hg : IsPlainGrid [["[a]".toList, "..".toList], ["x]-\x7by\x7d".toList, "[".toList]] :=
    ⟨by decide, by decide, by decide⟩
  have hrow : IsSpread ["x]-\x7by\x7d".toList, "[".toList]
      (" ".toList ++ "x]-\x7by\x7d".toList ++ ("\t ".toList ++ "[".toList ++ [])) :=
    .cons (by decide) (by decide) (.cons (by decide) (by decide) (.nil (by decide)))
  have hset : UtilitySet.generate .empty = .ok (UtilitySet.assemble [] []) := rfl
  exact ⟨_, hset, resolve_shorthand_eq_layout hset "page".toList hg
    (.cons (isSpread_spaced ["[a]".toList, "..".toList]) (.cons hrow .nil))⟩

end NamedGrid
