import Mathlib.Data.List.DropRight
import NamedGrid.Proofs.Generation
import NamedGrid.Proofs.Rows

/-!
# Templates read back

Between two rows of a template stand a quote, a space and a quote, and no row without quotes has
them inside. So a template is cut at these gaps into its rows, of which the first and the last keep
the outer quotes, and with the quotes taken off each row is there with single spaces between its
cells. The rows read back have the cells of the rows that were written
(`templateAreas_roundTrip`).
-/

namespace NamedGrid

/-- What stands between two rows of a template. -/
def gap : Text := ['"', ' ', '"']

/-- The pieces of a template between the gaps of its rows, which are found from left to right. -/
def pieces : Text → List Text
  | [] => [[]]
  | '"' :: ' ' :: '"' :: s => [] :: pieces s
  | c :: s => (pieces s).modifyHead (c :: ·)

/-- A text without the quotes at both ends. -/
def unquoted (s : Text) : Text := (s.dropWhile (· == '"')).rdropWhile (· == '"')

/-- The rows of a template. -/
def readTemplate (template : Text) : List Text := (pieces template).map unquoted

/-- A row with single spaces between its cells. -/
def collapsed (row : Text) : Text := spaced (cells row)

/-! ## Collapsed rows -/

theorem cells_collapsed (row : Text) : cells (collapsed row) = cells row := by
  refine cells_eq_of_isSpread (fun cell hcell => ?_) (isSpread_spaced _)
  refine ⟨(Text.subset_of_mem_words row cell hcell).1, ?_⟩
  rw [List.any_eq_false]
  exact fun c hc => by simp [Text.isBlank_of_mem_words row cell hcell c hc]

/-- A collapsed row has the characters of the row, and spaces. -/
theorem mem_of_mem_collapsed {c : Char} {row : Text} (hc : c ≠ ' ') (h : c ∈ collapsed row) :
    c ∈ row := by
  obtain ⟨cell, hcell, hmem⟩ := exists_mem_of_mem_intercalate hc h
  exact (Text.subset_of_mem_words row cell hcell).2 hmem

/-- A collapsed row with cells begins with a character that is not blank. -/
theorem head?_collapsed {row : Text} (h : cells row ≠ []) :
    ∃ c, (collapsed row).head? = some c ∧ isBlank c = false := by
  obtain ⟨cell, rest, hcells⟩ := List.exists_cons_of_ne_nil h
  have hcell : cell ∈ cells row := hcells ▸ List.mem_cons_self
  obtain ⟨c, tail, rfl⟩ :=
    List.exists_cons_of_ne_nil (Text.subset_of_mem_words row cell hcell).1
  refine ⟨c, ?_, Text.isBlank_of_mem_words row _ hcell c List.mem_cons_self⟩
  rw [collapsed, hcells]
  cases rest <;> simp [spaced]

/-! ## Pieces -/

/-- A character that begins no gap belongs to the first piece. -/
theorem pieces_cons {c : Char} {s : Text} (h : c ≠ '"' ∨ s.head? ≠ some ' ') :
    pieces (c :: s) = (pieces s).modifyHead (c :: ·) := by
  rw [pieces]
  rintro t rfl rfl
  rcases h with h | h
  · exact h rfl
  · exact h rfl

/-- A row without quotes in front of a gap is a piece. -/
theorem pieces_append_gap {row : Text} (h : '"' ∉ row) (s : Text) :
    pieces (row ++ (gap ++ s)) = row :: pieces s := by
  induction row with
  | nil => rfl
  | cons c row ih =>
    rw [List.mem_cons, not_or] at h
    rw [List.cons_append, pieces_cons (Or.inl (Ne.symm h.1)), ih h.2, List.modifyHead_cons]

/-- A row without quotes at the end is a piece with the quote that closes it. -/
theorem pieces_concat_quote {row : Text} (h : '"' ∉ row) :
    pieces (row ++ ['"']) = [row ++ ['"']] := by
  induction row with
  | nil => rfl
  | cons c row ih =>
    rw [List.mem_cons, not_or] at h
    rw [List.cons_append, pieces_cons (Or.inl (Ne.symm h.1)), ih h.2, List.modifyHead_cons]

/-! ## Quotes -/

theorem dropWhile_of_noQuote {row : Text} (h : '"' ∉ row) :
    row.dropWhile (· == '"') = row := by
  cases row with
  | nil => rfl
  | cons c row =>
    rw [List.mem_cons, not_or] at h
    exact List.dropWhile_cons_of_neg (by simpa using Ne.symm h.1)

theorem rdropWhile_of_noQuote {row : Text} (h : '"' ∉ row) :
    row.rdropWhile (· == '"') = row := by
  refine List.rdropWhile_eq_self_iff.mpr fun hne hlast => ?_
  exact h (beq_iff_eq.mp hlast ▸ List.getLast_mem hne)

theorem unquoted_of_noQuote {row : Text} (h : '"' ∉ row) : unquoted row = row := by
  rw [unquoted, dropWhile_of_noQuote h, rdropWhile_of_noQuote h]

theorem unquoted_concat_quote {row : Text} (h : '"' ∉ row) : unquoted (row ++ ['"']) = row := by
  cases row with
  | nil => rfl
  | cons c row =>
    have hc : '"' ≠ c := fun he => h (he ▸ List.mem_cons_self)
    have hstart : (c :: row ++ ['"']).dropWhile (· == '"') = c :: row ++ ['"'] :=
      List.dropWhile_cons_of_neg (by simpa using Ne.symm hc)
    rw [unquoted, hstart, List.rdropWhile_concat_pos _ _ _ (by decide), rdropWhile_of_noQuote h]

/-! ## Templates -/

/-- Rows with gaps between them are read up to the quote that closes the last one. -/
theorem readTemplate_joined {rows : List Text} (hne : rows ≠ [])
    (h : ∀ row ∈ rows, '"' ∉ row) :
    readTemplate (gap.intercalate rows ++ ['"']) = rows := by
  induction rows with
  | nil => exact absurd rfl hne
  | cons row rows ih =>
    rw [List.forall_mem_cons] at h
    cases rows with
    | nil =>
      rw [List.intercalate_singleton, readTemplate, pieces_concat_quote h.1, List.map_singleton,
        unquoted_concat_quote h.1]
    | cons next rows =>
      have hrest := ih (List.cons_ne_nil next rows) h.2
      rw [readTemplate] at hrest ⊢
      rw [List.intercalate_cons_cons, List.append_assoc, List.append_assoc,
        pieces_append_gap h.1, List.map_cons, unquoted_of_noQuote h.1, hrest]

/-- The quote that opens the first row is taken off. -/
theorem readTemplate_quote_cons {s : Text} (h : s.head? ≠ some ' ') :
    readTemplate ('"' :: s) = readTemplate s := by
  rw [readTemplate, readTemplate, pieces_cons (Or.inr h)]
  cases pieces s <;> rfl

/-- Quoted rows with single spaces between them are rows with gaps between them, in quotes. -/
theorem spaced_map_inQuotes {rows : List Text} (hne : rows ≠ []) :
    spaced (rows.map inQuotes) = '"' :: (gap.intercalate rows ++ ['"']) := by
  induction rows with
  | nil => exact absurd rfl hne
  | cons row rows ih =>
    cases rows with
    | nil =>
      rw [List.map_singleton, spaced, List.intercalate_singleton, List.intercalate_singleton]
      rfl
    | cons next rows =>
      have hrest := ih (List.cons_ne_nil next rows)
      rw [spaced, List.map_cons] at hrest ⊢
      rw [List.map_cons, List.intercalate_cons_cons, ← List.map_cons, List.map_cons, hrest,
        List.intercalate_cons_cons, inQuotes, gap]
      simp

/-- The template of rows is read back as the rows with single spaces. -/
theorem readTemplate_spaced {rows : List Text} (hne : rows ≠ [])
    (h : ∀ row ∈ rows, cells row ≠ [] ∧ '"' ∉ row) :
    readTemplate (spaced (rows.map shownRow)) = rows.map collapsed := by
  have hshown : rows.map shownRow = (rows.map collapsed).map inQuotes := by
    rw [List.map_map]
    rfl
  have hquotes : ∀ row ∈ rows.map collapsed, '"' ∉ row := by
    intro row hrow
    obtain ⟨written, hwritten, rfl⟩ := List.mem_map.mp hrow
    exact mt (mem_of_mem_collapsed (by decide)) (h written hwritten).2
  have hrows : rows.map collapsed ≠ [] := by simpa using hne
  rw [hshown, spaced_map_inQuotes hrows, readTemplate_quote_cons, readTemplate_joined hrows hquotes]
  -- The first row has a cell, so no space stands behind the first quote.
  obtain ⟨row, rest, rfl⟩ := List.exists_cons_of_ne_nil hne
  obtain ⟨c, hc, hblank⟩ := head?_collapsed (h row List.mem_cons_self).1
  have hhead : (gap.intercalate ((row :: rest).map collapsed) ++ ['"']).head? = some c := by
    cases rest <;> simp [hc]
  rw [hhead]
  rintro ⟨⟩
  exact absurd hblank (by decide)

theorem map_cells_collapsed (rows : List Text) :
    (rows.map collapsed).map cells = rows.map cells := by
  rw [List.map_map]
  exact List.map_congr_left fun row _ => cells_collapsed row

/-- The areas of rows depend on their cells alone. -/
theorem areaNames_congr {rows others : List Text} (h : others.map cells = rows.map cells) :
    areaNames others = areaNames rows := by
  rw [areaNames, areaNames, List.flatMap_def, List.flatMap_def, h]

/-- **Templates are read back.** Rows that have cells and no quotes have a template, and the rows
read from it are the written ones with single spaces between their cells; they have the same areas;
and of such rows exactly those with the same cells row by row have the same template. -/
theorem templateAreas_roundTrip {layout : Option Text} {rows : List Text} (hne : rows ≠ [])
    (h : ∀ row ∈ rows, cells row ≠ [] ∧ '"' ∉ row) :
    ∃ template, templateAreas layout rows = .ok template ∧
      readTemplate template = rows.map collapsed ∧
      areaNames (readTemplate template) = areaNames rows ∧
      ∀ (other : Option Text) (others : List Text), others ≠ [] →
        (∀ row ∈ others, cells row ≠ [] ∧ '"' ∉ row) →
        (templateAreas other others = .ok template ↔ others.map cells = rows.map cells) := by
  have hread := readTemplate_spaced hne h
  refine ⟨spaced (rows.map shownRow), templateAreas_eq_ok_iff.mpr ⟨hne, fun row hrow =>
    (h row hrow).1, rfl⟩, hread, ?_, fun other others hothers hall => ⟨fun htemplate => ?_,
    fun hsame => ?_⟩⟩
  · rw [hread]
    exact areaNames_congr (map_cells_collapsed rows)
  · obtain ⟨-, -, hshown⟩ := templateAreas_eq_ok_iff.mp htemplate
    rw [hshown, readTemplate_spaced hothers hall] at hread
    rw [← map_cells_collapsed others, hread, map_cells_collapsed]
  · have hshown : others.map shownRow = rows.map shownRow := by
      have hmap : ∀ l : List Text, l.map shownRow = (l.map cells).map fun cs =>
          inQuotes (spaced cs) := fun l => by
        rw [List.map_map]
        rfl
      rw [hmap, hmap, hsame]
    exact templateAreas_eq_ok_iff.mpr ⟨hothers, fun row hrow => (hall row hrow).1, by rw [hshown]⟩

/-- Rows with blanks of several kinds, and with cells that look like a part of a template. -/
def looseRows : List Text := ["  head\t\u00a0head ".toList, ", ' '".toList, "..\u3000main".toList]

/-- The rows are read back with single spaces, and other rows with these cells have the template. -/
theorem templateAreas_roundTrip_looseRows :
    looseRows ≠ [] ∧ (∀ row ∈ looseRows, cells row ≠ [] ∧ '"' ∉ row) ∧
      ∃ template, templateAreas none looseRows = .ok template ∧
        template = "\"head head\" \", ' '\" \".. main\"".toList ∧
        readTemplate template = ["head head".toList, ", ' '".toList, ".. main".toList] ∧
        areaNames (readTemplate template) = areaNames looseRows ∧
        templateAreas none ["head head".toList, ",  '\n'".toList, ".. main".toList] =
          .ok template := by
  have hne : looseRows ≠ [] := by decide
  have h : ∀ row ∈ looseRows, cells row ≠ [] ∧ '"' ∉ row := by decide
  obtain ⟨template, hok, hread, hareas, hsame⟩ := @templateAreas_roundTrip none looseRows hne h
  have htemplate := (templateAreas_eq_ok_iff.mp hok).2.2
  refine ⟨hne, h, template, hok, htemplate.trans (by decide +kernel),
    hread.trans (by decide +kernel), hareas, ?_⟩
  exact (hsame none _ (by decide) (by decide)).mpr (by decide +kernel)

end NamedGrid
