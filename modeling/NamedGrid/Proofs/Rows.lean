import Mathlib.Data.List.Forall2
import Mathlib.Data.List.Infix
import NamedGrid.Grid.Row

/-!
# Rows, joins and trimming

The cells of a row are read off at its blanks, so any text that keeps the cells apart by
blanks has them (`cells_eq_of_isSpread`), and the row with single spaces is one such text.
Trimming is local to the ends of a text: what stands between two characters that are not
blank is not touched. A part that contains no separator lies inside one of the joined texts.
-/

namespace NamedGrid

/-! ## Trimming -/

namespace Text

/-- The text without the blanks at its start. -/
def trimStart (s : Text) : Text := s.dropWhile isBlank

theorem trimStart_append_cons {c : Char} (hc : isBlank c = false) (s t : Text) :
    trimStart (s ++ c :: t) = trimStart s ++ c :: t := by
  induction s with
  | nil => exact List.dropWhile_cons_of_neg (by simp [hc])
  | cons d s ih =>
    unfold trimStart at ih ⊢
    by_cases hd : isBlank d = true
    · rw [List.cons_append, List.dropWhile_cons_of_pos hd, List.dropWhile_cons_of_pos hd, ih]
    · rw [List.cons_append, List.dropWhile_cons_of_neg hd, List.dropWhile_cons_of_neg hd,
        List.cons_append]

theorem trimEnd_append_cons {c : Char} (hc : isBlank c = false) (s t : Text) :
    trimEnd (s ++ c :: t) = s ++ c :: trimEnd t := by
  induction s with
  | nil =>
    rw [List.nil_append, List.nil_append, trimEnd]
    cases trimEnd t <;> simp [hc]
  | cons d s ih =>
    rw [List.cons_append, trimEnd, ih]
    cases s <;> rfl

/-- A character that is not blank keeps what follows it from being trimmed at its start, and
what precedes it from being trimmed at its end. -/
theorem trim_append_cons {c : Char} (hc : isBlank c = false) (s t : Text) :
    trim (s ++ c :: t) = trimStart s ++ c :: trimEnd t :=
  (congrArg trimEnd (trimStart_append_cons hc s t)).trans (trimEnd_append_cons hc _ t)

theorem prefix_trimEnd (s : Text) : trimEnd s <+: s := by
  induction s with
  | nil => exact List.prefix_rfl
  | cons c s ih =>
    rw [trimEnd]
    cases hkept : trimEnd s with
    | nil =>
      dsimp only
      split
      · exact List.nil_prefix
      · exact List.cons_prefix_cons.mpr ⟨rfl, List.nil_prefix⟩
    | cons d kept => exact List.cons_prefix_cons.mpr ⟨rfl, hkept ▸ ih⟩

/-- Nothing is added where blanks are taken off. -/
theorem infix_trim (s : Text) : s.trim <:+: s :=
  (prefix_trimEnd _).isInfix.trans (List.dropWhile_suffix isBlank).isInfix

/-- A text that neither starts nor ends with a blank is not trimmed. -/
theorem trim_eq_self {s : Text} (hstart : s.head?.any isBlank = false)
    (hend : s.getLast?.any isBlank = false) : s.trim = s := by
  have hdrop : s.dropWhile isBlank = s := by
    cases s with
    | nil => rfl
    | cons c s => exact List.dropWhile_cons_of_neg (by simpa using hstart)
  rw [trim, hdrop]
  rcases List.eq_nil_or_concat s with rfl | ⟨s, c, rfl⟩
  · rfl
  · rw [List.concat_eq_append] at hend ⊢
    exact trimEnd_append_cons (by simpa using hend) s []

/-! ## Words -/

theorem words_cons_of_blank {c : Char} (hc : isBlank c = true) (s : Text) :
    words (c :: s) = words s := by
  rw [words.eq_def]
  exact if_pos hc

/-- A character that is not blank begins a word, by itself or in front of the next one. -/
theorem exists_words_cons {c : Char} (hc : isBlank c = false) (s : Text) :
    ∃ word rest, words (c :: s) = (c :: word) :: rest ∧ (word = [] ∨ word ∈ words s) ∧
      rest ⊆ words s := by
  rw [words.eq_def]
  simp only [hc, Bool.false_eq_true, if_false]
  split
  · rename_i d tail word rest hwords
    rw [hwords]
    split
    · exact ⟨[], word :: rest, rfl, Or.inl rfl, List.Subset.refl _⟩
    · exact ⟨word, rest, rfl, Or.inr List.mem_cons_self, List.subset_cons_self word rest⟩
  · exact ⟨[], _, rfl, Or.inl rfl, List.Subset.refl _⟩

/-- No word has a blank. -/
theorem isBlank_of_mem_words (s : Text) : ∀ word ∈ words s, ∀ c ∈ word, isBlank c = false := by
  induction s with
  | nil => exact fun word h => nomatch h
  | cons c s ih =>
    by_cases hc : isBlank c = true
    · rwa [words_cons_of_blank hc]
    · have hc : isBlank c = false := by simpa using hc
      obtain ⟨word, rest, hwords, hword, hrest⟩ := exists_words_cons hc s
      rw [hwords]
      refine List.forall_mem_cons.mpr
        ⟨List.forall_mem_cons.mpr ⟨hc, ?_⟩, fun w hw => ih w (hrest hw)⟩
      rcases hword with rfl | hword
      · exact fun d hd => nomatch hd
      · exact ih word hword

/-- A word has a character, and all of its characters are those of the text. -/
theorem subset_of_mem_words (s : Text) : ∀ word ∈ words s, word ≠ [] ∧ word ⊆ s := by
  induction s with
  | nil => exact fun word h => nomatch h
  | cons c s ih =>
    have hlater : ∀ word ∈ words s, word ≠ [] ∧ word ⊆ c :: s := fun word hw =>
      (ih word hw).imp_right (List.subset_cons_of_subset c)
    by_cases hc : isBlank c = true
    · rwa [words_cons_of_blank hc]
    · obtain ⟨word, rest, hwords, hword, hrest⟩ := exists_words_cons (by simpa using hc) s
      rw [hwords]
      refine List.forall_mem_cons.mpr ⟨⟨List.cons_ne_nil c word, ?_⟩,
        fun w hw => hlater w (hrest hw)⟩
      refine List.cons_subset_cons c ?_
      rcases hword with rfl | hword
      · exact List.nil_subset s
      · exact (ih word hword).2

/-- Blanks in front of a text belong to no word. -/
theorem words_append_of_blank {gap : Text} (h : gap.all isBlank = true) (s : Text) :
    words (gap ++ s) = words s := by
  induction gap with
  | nil => rfl
  | cons c gap ih =>
    rw [List.all_cons, Bool.and_eq_true] at h
    rw [List.cons_append, words_cons_of_blank h.1, ih h.2]

/-- Characters that are not blank are one word, if a blank or nothing follows them. -/
theorem words_append_of_word {word s : Text} (hne : word ≠ []) (h : word.any isBlank = false)
    (hs : s.head?.all isBlank = true) : words (word ++ s) = word :: words s := by
  induction word with
  | nil => exact absurd rfl hne
  | cons c word ih =>
    rw [List.any_cons, Bool.or_eq_false_iff] at h
    obtain ⟨hc, hword⟩ := h
    rw [List.cons_append, words.eq_def]
    simp only [hc, Bool.false_eq_true, if_false]
    cases word with
    | nil =>
      cases s with
      | nil => rfl
      | cons d s =>
        have hd : isBlank d = true := by simpa using hs
        rw [List.nil_append]
        cases words (d :: s) with
        | nil => rfl
        | cons w ws => exact if_pos hd
    | cons d word =>
      rw [List.any_cons, Bool.or_eq_false_iff] at hword
      rw [ih (List.cons_ne_nil d word) (by simpa using hword), List.cons_append]
      exact if_neg (by simp [hword.1])

end Text

/-! ## Rows -/

/-- The row shows the cells in order, with blanks between any two of them and perhaps around
them all. -/
inductive IsSpread : List Text → Text → Prop
  | nil {gap : Text} (h : gap.all isBlank = true) : IsSpread [] gap
  | cons {gap cell row : Text} {cells : List Text} (h : gap.all isBlank = true)
      (hrow : row.head?.all isBlank = true) (hcells : IsSpread cells row) :
      IsSpread (cell :: cells) (gap ++ cell ++ row)

/-- More blanks may stand in front of the cells. -/
theorem IsSpread.append_left {cs : List Text} {gap row : Text} (h : gap.all isBlank = true)
    (hrow : IsSpread cs row) : IsSpread cs (gap ++ row) := by
  cases hrow with
  | nil hgap => exact .nil (by rw [List.all_append, h, hgap, Bool.and_self])
  | cons hgap hhead hcells =>
    rw [← List.append_assoc, ← List.append_assoc]
    exact .cons (by rw [List.all_append, h, hgap, Bool.and_self]) hhead hcells

/-- Cells with one space between them are a row that shows them. -/
theorem isSpread_spaced (cs : List Text) : IsSpread cs (spaced cs) := by
  induction cs with
  | nil => exact .nil rfl
  | cons cell cs ih =>
    cases cs with
    | nil =>
      have hone : IsSpread [cell] ([] ++ cell ++ []) := .cons rfl rfl (.nil rfl)
      simpa [spaced] using hone
    | cons next cs =>
      have hrest : IsSpread (next :: cs) ([' '] ++ spaced (next :: cs)) :=
        ih.append_left (by simp [isBlank_space])
      have hall : IsSpread (cell :: next :: cs) ([] ++ cell ++ ([' '] ++ spaced (next :: cs))) :=
        .cons rfl isBlank_space hrest
      simpa only [spaced, List.intercalate_cons_cons, List.nil_append, List.append_assoc]
        using hall

/-- A row that shows cells has these cells. -/
theorem cells_eq_of_isSpread {cs : List Text} {row : Text}
    (h : ∀ cell ∈ cs, cell ≠ [] ∧ cell.any isBlank = false) (hrow : IsSpread cs row) :
    cells row = cs := by
  induction hrow with
  | nil hgap =>
    have hnone := Text.words_append_of_blank hgap []
    rwa [List.append_nil] at hnone
  | cons hgap hhead _ ih =>
    obtain ⟨⟨hne, hcell⟩, hcells⟩ := List.forall_mem_cons.mp h
    rw [cells, List.append_assoc, Text.words_append_of_blank hgap,
      Text.words_append_of_word hne hcell hhead]
    exact congrArg _ (ih hcells)

/-- Rows that show the cells of a grid, row by row, have these cells. -/
theorem map_cells_of_isSpread {grid : List (List Text)} {rows : List Text}
    (h : ∀ cs ∈ grid, ∀ cell ∈ cs, cell ≠ [] ∧ cell.any isBlank = false)
    (hrows : List.Forall₂ IsSpread grid rows) : rows.map cells = grid := by
  induction hrows with
  | nil => rfl
  | cons hrow _ ih =>
    rw [List.forall_mem_cons] at h
    rw [List.map_cons, cells_eq_of_isSpread h.1 hrow, ih h.2]

/-! ## Joined texts -/

/-- In a joined list every text but the last is followed by a separator. -/
theorem intercalate_concat (sep : Text) (parts : List Text) (last : Text) :
    sep.intercalate (parts ++ [last]) = parts.flatMap (· ++ sep) ++ last := by
  induction parts with
  | nil => simp
  | cons s parts ih =>
    obtain ⟨t, rest, hrest⟩ := List.exists_cons_of_ne_nil (List.concat_ne_nil last parts)
    rw [List.flatMap_cons, List.append_assoc, ← ih, List.cons_append, hrest,
      List.intercalate_cons_cons]

/-- Two joined lists are joined by one more separator. -/
theorem intercalate_append (sep : Text) {parts others : List Text} (hparts : parts ≠ [])
    (hothers : others ≠ []) :
    sep.intercalate (parts ++ others) = sep.intercalate parts ++ sep ++ sep.intercalate others := by
  obtain ⟨init, last, rfl⟩ := (List.eq_nil_or_concat' others).resolve_left hothers
  obtain ⟨front, s, rfl⟩ := (List.eq_nil_or_concat' parts).resolve_left hparts
  rw [← List.append_assoc, intercalate_concat, intercalate_concat, intercalate_concat,
    List.flatMap_append, List.flatMap_append, List.flatMap_singleton]
  simp only [List.append_assoc]

/-- A joined list has the characters of every text. -/
theorem subset_intercalate (sep : Text) {parts : List Text} {s : Text} (h : s ∈ parts) :
    s ⊆ sep.intercalate parts := by
  induction parts with
  | nil => cases h
  | cons t parts ih =>
    cases parts with
    | nil =>
      rw [List.mem_singleton.mp h, List.intercalate_singleton]
      exact List.Subset.refl t
    | cons next parts =>
      rw [List.intercalate_cons_cons, List.append_assoc]
      rcases List.mem_cons.mp h with rfl | h
      · exact List.subset_append_left s _
      · exact List.Subset.trans (ih h)
          (List.Subset.trans (List.subset_append_right sep _) (List.subset_append_right t _))

/-- Characters of a joined list are exchanged in every text and in the separators. -/
theorem map_intercalate (f : Char → Char) (sep : Text) (parts : List Text) :
    (sep.intercalate parts).map f = (sep.map f).intercalate (parts.map (·.map f)) := by
  induction parts with
  | nil => rfl
  | cons s parts ih =>
    cases parts with
    | nil => simp
    | cons t parts =>
      rw [List.intercalate_cons_cons, List.map_append, List.map_append, ih, List.map_cons,
        List.map_cons, List.map_cons, List.intercalate_cons_cons]

/-- What contains no separator stands at the front exactly if it stands in front of it. -/
theorem prefix_append_cons_iff {c : Char} {part s t : Text} (hc : c ∉ part) :
    part <+: s ++ c :: t ↔ part <+: s := by
  refine ⟨?_, fun h => h.trans (List.prefix_append _ _)⟩
  rintro ⟨b, h⟩
  rcases List.append_eq_append_iff.mp h with ⟨u, hs, -⟩ | ⟨u, hpart, hb⟩
  · exact ⟨u, hs.symm⟩
  · cases u with
    | nil => exact ⟨[], by rw [hpart, List.append_nil, List.append_nil]⟩
    | cons d u =>
      obtain ⟨rfl, -⟩ := List.cons.inj hb
      exact absurd (hpart ▸ List.mem_append_right s List.mem_cons_self) hc

/-- What contains no separator stands on one side of it. -/
theorem infix_append_cons {c : Char} {part s t : Text} (hc : c ∉ part)
    (h : part <:+: s ++ c :: t) : part <:+: s ∨ part <:+: t := by
  obtain ⟨a, b, h⟩ := h
  rcases List.append_eq_append_iff.mp h with ⟨u, hs, -⟩ | ⟨u, ha, hb⟩
  · exact Or.inl ⟨a, u, hs.symm⟩
  · cases u with
    | nil =>
      rw [List.append_nil] at ha
      exact Or.inl ⟨a, [], by rw [List.append_nil, ha]⟩
    | cons d u =>
      obtain ⟨rfl, rfl⟩ := List.cons.inj hb
      rcases List.append_eq_append_iff.mp ha with ⟨v, rfl, hpart⟩ | ⟨v, rfl, hv⟩
      · exact absurd (hpart ▸ List.mem_append_right v List.mem_cons_self) hc
      · cases v with
        | nil =>
          rw [List.nil_append] at hv
          exact absurd (hv ▸ List.mem_cons_self) hc
        | cons e v =>
          obtain ⟨-, rfl⟩ := List.cons.inj hv
          exact Or.inr ⟨v, b, rfl⟩

/-- What contains no separator lies inside one of the joined texts. -/
theorem exists_infix_of_infix_intercalate {c : Char} {part : Text} {parts : List Text}
    (hne : part ≠ []) (hc : c ∉ part) (h : part <:+: [c].intercalate parts) :
    ∃ s ∈ parts, part <:+: s := by
  induction parts with
  | nil => exact absurd (List.infix_nil.mp h) hne
  | cons s parts ih =>
    cases parts with
    | nil => exact ⟨s, List.mem_cons_self, by simpa using h⟩
    | cons t parts =>
      rw [List.intercalate_cons_cons, List.append_assoc, List.singleton_append] at h
      rcases infix_append_cons hc h with h | h
      · exact ⟨s, List.mem_cons_self, h⟩
      · obtain ⟨u, hu, hpart⟩ := ih h
        exact ⟨u, List.mem_cons_of_mem _ hu, hpart⟩

/-- A character other than the separator comes from one of the joined texts. -/
theorem exists_mem_of_mem_intercalate {c d : Char} {parts : List Text} (hd : d ≠ c)
    (h : d ∈ [c].intercalate parts) : ∃ s ∈ parts, d ∈ s := by
  obtain ⟨s, hs, hpart⟩ := exists_infix_of_infix_intercalate (List.cons_ne_nil d [])
    (by simpa using hd.symm) ((List.singleton_infix_iff d _).mpr h)
  exact ⟨s, hs, (List.singleton_infix_iff d s).mp hpart⟩

/-- Cells without blanks are not trimmed where they stand in a row. -/
theorem trim_spaced {cs : List Text} (h : ∀ cell ∈ cs, cell ≠ [] ∧ cell.any isBlank = false) :
    Text.trim (spaced cs) = spaced cs := by
  rcases cs with _ | ⟨cell, cs⟩
  · rfl
  have hblank : ∀ {s : Text} {c : Char}, s.any isBlank = false → c ∈ s → isBlank c = false := by
    intro s c hs hc
    simpa using List.any_eq_false.mp hs c hc
  apply Text.trim_eq_self
  · obtain ⟨hne, hcell⟩ := h cell List.mem_cons_self
    obtain ⟨c, tail, rfl⟩ := List.exists_cons_of_ne_nil hne
    have hc := hblank hcell List.mem_cons_self
    cases cs <;> simp [spaced, hc]
  · obtain ⟨cs, last, he⟩ := (List.eq_nil_or_concat' (cell :: cs)).resolve_left
      (List.cons_ne_nil _ _)
    rw [he] at h ⊢
    obtain ⟨hne, hlast⟩ := h last (by simp)
    obtain ⟨s, c, rfl⟩ := (List.eq_nil_or_concat' last).resolve_left hne
    have hc := hblank hlast (by simp : c ∈ s ++ [c])
    rw [spaced, intercalate_concat, ← List.append_assoc, List.getLast?_concat]
    exact hc

end NamedGrid
