import NamedGrid.Grid.Area
import NamedGrid.Proofs.Table

/-!
# Runs of an index of areas

Layouts are added to an index one after the other. Each addition finds the areas of its own rows
and notes its layout once under each of them. Areas that are known keep their places, so after any
number of additions the index names the areas of all rows as if these had been read at once, and
under each area it has the layouts of just those additions that mention it.
-/

namespace NamedGrid

/-! ## First-seen order -/

/-- The areas are the cells but the empty ones, each once, in the order in which they are first
seen. -/
structure AreFirstSeen (cells areas : List Text) : Prop where
  nodup : areas.Nodup
  mem_iff : ∀ area, area ∈ areas ↔ area ∈ cells ∧ area ≠ ".".toList ∧ area ≠ "..".toList
  ordered : areas.Pairwise fun a b => cells.idxOf a < cells.idxOf b

theorem areFirstSeen_areaNames (rows : List Text) :
    AreFirstSeen (rows.flatMap cells) (areaNames rows) where
  nodup := nodup_eraseDups _
  mem_iff area := by
    rw [areaNames, List.mem_eraseDups, List.mem_filter]
    simp [emptyCells]
  ordered := pairwise_idxOf_eraseDups_filter _ _

/-- The areas of rows that are read one list after the other. -/
theorem areaNames_append (rows more : List Text) :
    areaNames (rows ++ more) = (areaNames rows ++ areaNames more).eraseDups := by
  simp only [areaNames, List.flatMap_append, List.filter_append, eraseDups_eraseDups_append,
    eraseDups_append_eraseDups]

/-! ## One addition -/

/-- The rows of a layout that are added under its name. -/
structure Addition where
  layout : Text
  rows : List Text

namespace AreaIndex

/-- Make an addition, which is answered with the areas of its rows. -/
def accept (index : AreaIndex) (addition : Addition) : List Text × AreaIndex :=
  (areaNames addition.rows, index.add addition.layout addition.rows)

/-- Adding a layout adds its areas behind those that are known. -/
theorem names_add (index : AreaIndex) (layout : Text) (rows : List Text) :
    (index.add layout rows).names = (index.names ++ areaNames rows).eraseDups := by
  unfold AreaIndex.add
  generalize areaNames rows = areas
  induction areas generalizing index with
  | nil =>
    rw [List.append_nil]
    exact (Table.eraseDups_keys index.layouts).symm
  | cons area areas ih =>
    have hnote : (note layout index area).names = (index.names ++ [area]).eraseDups :=
      Table.keys_insert_eraseDups _ _ _
    rw [List.foldl_cons, ih, hnote, eraseDups_eraseDups_append, List.append_assoc,
      List.singleton_append]

/-- A layout that is noted under one area stands behind the others there. -/
theorem layoutsOf_note (layout : Text) (index : AreaIndex) (noted area : Text) :
    (note layout index noted).layoutsOf area =
      index.layoutsOf area ++ if noted = area then [layout] else [] := by
  rw [layoutsOf, note, Table.alter, Table.get?_insert]
  by_cases h : noted = area
  · rw [if_pos h, if_pos h, h]
    rfl
  · rw [if_neg h, if_neg h, List.append_nil]
    rfl

/-- A layout that is added stands once under each of its areas. -/
theorem layoutsOf_add (index : AreaIndex) (layout : Text) (rows : List Text) (area : Text) :
    (index.add layout rows).layoutsOf area =
      index.layoutsOf area ++ if area ∈ areaNames rows then [layout] else [] := by
  have hdistinct : (areaNames rows).Nodup := nodup_eraseDups _
  unfold add
  generalize areaNames rows = areas at hdistinct
  induction areas generalizing index with
  | nil => exact (List.append_nil _).symm
  | cons noted areas ih =>
    obtain ⟨hnoted, hareas⟩ := List.nodup_cons.mp hdistinct
    rw [List.foldl_cons, ih _ hareas, layoutsOf_note, List.append_assoc]
    by_cases h : noted = area
    · subst h
      simp [hnoted]
    · simp [h, Ne.symm h]

/-! ## Runs -/

/-- The index after additions in order. -/
def after (index : AreaIndex) (additions : List Addition) : AreaIndex :=
  additions.foldl (fun index addition => (index.accept addition).2) index

/-- What is answered to additions in order. -/
def answers (index : AreaIndex) : List Addition → List (List Text)
  | [] => []
  | addition :: additions =>
    (index.accept addition).1 :: (index.accept addition).2.answers additions

theorem after_concat (index : AreaIndex) (additions : List Addition) (addition : Addition) :
    index.after (additions ++ [addition]) =
      (index.after additions).add addition.layout addition.rows := by
  rw [after, List.foldl_append]
  rfl

/-- After additions the index names the areas of all their rows. -/
theorem names_after (additions : List Addition) :
    (empty.after additions).names = areaNames (additions.flatMap Addition.rows) := by
  induction additions using List.reverseRecOn with
  | nil => rfl
  | append_singleton additions addition ih =>
    rw [after_concat, names_add, ih, List.flatMap_append, areaNames_append,
      List.flatMap_singleton]

/-- After additions the layouts of an area are those of the additions that mention it. -/
theorem layoutsOf_after (additions : List Addition) (area : Text) :
    (empty.after additions).layoutsOf area =
      (additions.filter fun addition => area ∈ areaNames addition.rows).map Addition.layout := by
  induction additions using List.reverseRecOn with
  | nil => rfl
  | append_singleton additions addition ih =>
    rw [after_concat, layoutsOf_add, ih, List.filter_append, List.map_append]
    by_cases h : area ∈ areaNames addition.rows
    · simp [h]
    · simp [h]

/-- Each addition is answered with the areas of its own rows. -/
theorem answers_eq_map (index : AreaIndex) (additions : List Addition) :
    index.answers additions = additions.map fun addition => areaNames addition.rows := by
  induction additions generalizing index with
  | nil => rfl
  | cons addition additions ih => rw [answers, ih, List.map_cons, accept]

/-- **An index is exact after any additions.** It names the areas of all rows in the order of the
additions: the cells but the empty ones, each once, in first-seen order. The layouts of an area are
those of the additions with the area among their cells, in order, one for each such addition; an
empty cell is no area and has none. Membership and size agree with the names, and each addition was
answered with the areas of its own rows. -/
theorem exact_after (additions : List Addition) :
    let index := empty.after additions
    index.names = areaNames (additions.flatMap Addition.rows) ∧
      AreFirstSeen ((additions.flatMap Addition.rows).flatMap cells) index.names ∧
      (∀ area, index.layoutsOf area =
        if area ∈ emptyCells then []
        else (additions.filter fun addition =>
          ∃ row ∈ addition.rows, area ∈ cells row).map Addition.layout) ∧
      (∀ area, index.contains area = true ↔ area ∈ index.names) ∧
      index.size = index.names.length ∧
      List.Forall₂ (fun addition answer => answer = areaNames addition.rows ∧
        AreFirstSeen (addition.rows.flatMap cells) answer) additions (empty.answers additions) := by
  intro index
  have hnames : index.names = areaNames (additions.flatMap Addition.rows) :=
    names_after additions
  refine ⟨hnames, hnames ▸ areFirstSeen_areaNames _, fun area => ?_,
    fun area => Table.contains_iff, Table.size_eq_length_keys _, ?_⟩
  · have hlayouts : index.layoutsOf area = _ := layoutsOf_after additions area
    by_cases hempty : area ∈ emptyCells
    · simp only [mem_areaNames, hempty, not_true_eq_false, and_false, decide_false,
        List.filter_false, List.map_nil] at hlayouts
      rw [if_pos hempty, hlayouts]
    · simp only [mem_areaNames, hempty, not_false_eq_true, and_true] at hlayouts
      rw [if_neg hempty, hlayouts]
  · rw [answers_eq_map, List.forall₂_map_right_iff, List.forall₂_same]
    exact fun addition _ => ⟨rfl, areFirstSeen_areaNames addition.rows⟩

end AreaIndex

end NamedGrid
