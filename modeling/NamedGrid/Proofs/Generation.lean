import NamedGrid.Proofs.AreaRuns
import NamedGrid.Utility.Set

/-!
# Generation in closed form

A generation pass goes over the layouts three times: it gives every source a shape, it
writes every template, and it collects the areas. Each pass is described here by what it
gives for a whole list of layouts, and from the three descriptions the generated set is
written as a function of the layouts alone.
-/

namespace NamedGrid

/-! ## Templates -/

/-- A row of cells as a template shows it. -/
def shownRow (row : Text) : Text := inQuotes (spaced (cells row))

theorem quotedRow?_eq_some {row : Text} (h : cells row ≠ []) :
    quotedRow? row = some (shownRow row) := by
  unfold quotedRow?
  split
  · contradiction
  · rfl

/-- Rows are quoted one by one, and none may be blank. -/
theorem quotedRows_eq_ok_iff {name : Option Text} {index : Nat} {rows quoted : List Text} :
    quotedRows name index rows = .ok quoted ↔
      (∀ row ∈ rows, cells row ≠ []) ∧ quoted = rows.map shownRow := by
  induction rows generalizing index quoted with
  | nil =>
    simp only [quotedRows, Except.ok.injEq, List.not_mem_nil, false_implies, implies_true,
      true_and, List.map_nil]
    exact eq_comm
  | cons row rows ih =>
    rw [List.forall_mem_cons, List.map_cons]
    by_cases hr : cells row = []
    · simp [quotedRows, quotedRow?_eq_none_iff.mpr hr, hr]
    · simp only [quotedRows, quotedRow?_eq_some hr, ne_eq, hr, not_false_eq_true, true_and]
      cases hrest : quotedRows name (index + 1) rows with
      | error fault =>
        have hn : ¬∀ row ∈ rows, cells row ≠ [] := by
          intro h
          have hok : quotedRows name (index + 1) rows = .ok (rows.map shownRow) :=
            ih.mpr ⟨h, rfl⟩
          rw [hrest] at hok
          cases hok
        simpa [Except.map] using fun hall => absurd hall hn
      | ok rest =>
        obtain ⟨hall, rfl⟩ := ih.mp hrest
        simp only [Except.map, Except.ok.injEq]
        exact ⟨fun h => ⟨hall, h.symm⟩, fun h => h.2.symm⟩

/-- A template is the quoted rows, of which there is at least one. -/
theorem templateAreas_eq_ok_iff {name : Option Text} {rows : List Text} {areas : Text} :
    templateAreas name rows = .ok areas ↔
      rows ≠ [] ∧ (∀ row ∈ rows, cells row ≠ []) ∧ areas = spaced (rows.map shownRow) := by
  unfold templateAreas
  cases h : quotedRows name 0 rows with
  | error fault =>
    have hn : ¬∀ row ∈ rows, cells row ≠ [] := by
      intro hall
      have hok : quotedRows name 0 rows = .ok (rows.map shownRow) :=
        quotedRows_eq_ok_iff.mpr ⟨hall, rfl⟩
      rw [h] at hok
      cases hok
    simpa using fun _ hall => absurd hall hn
  | ok quoted =>
    obtain ⟨hall, rfl⟩ := quotedRows_eq_ok_iff.mp h
    cases rows with
    | nil => simp
    | cons row rows =>
      simp only [List.map_cons, Except.ok.injEq, ne_eq, reduceCtorEq, not_false_eq_true,
        true_and]
      exact ⟨fun he => ⟨hall, he.symm⟩, fun he => he.2.symm⟩

/-! ## Layouts -/

/-- The property of a track size, unless the size is absent or empty. -/
def trackProperty (property : Text) : Option Text → List (Text × Text)
  | some (c :: size) => [(property, c :: size)]
  | _ => []

namespace Layout

/-- There is at least one row, and every row has cells. -/
def IsFilled (layout : Layout) : Prop :=
  layout.rows ≠ [] ∧ ∀ row ∈ layout.rows, cells row ≠ []

/-- The template of a layout and the tracks that it gives. -/
def declaration (layout : Layout) : Declaration :=
  ⟨[("display".toList, "grid".toList),
      ("grid-template-areas".toList, spaced (layout.rows.map shownRow))] ++
    trackProperty "grid-template-rows".toList layout.rowTracks ++
    trackProperty "grid-template-columns".toList layout.colTracks⟩

/-- The class of a layout with its declaration. -/
def utility (layout : Layout) : Utility := ⟨joined layoutStem layout.name, layout.declaration⟩

/-- Pairs that may lack a value keep the tracks that are given. -/
theorem ofPairs_declaration (layout : Layout) :
    Declaration.ofPairs
        [("display".toList, some "grid".toList),
          ("grid-template-areas".toList, some (spaced (layout.rows.map shownRow))),
          ("grid-template-rows".toList, layout.rowTracks.filter fun t => !t.isEmpty),
          ("grid-template-columns".toList, layout.colTracks.filter fun t => !t.isEmpty)] =
      layout.declaration := by
  obtain ⟨name, rows, rowTracks, colTracks⟩ := layout
  rcases rowTracks with _ | _ | ⟨c, s⟩ <;> rcases colTracks with _ | _ | ⟨d, t⟩ <;> rfl

/-- A layout has a class exactly when it is filled. -/
theorem layoutUtility_eq_ok_iff {layout : Layout} {u : Utility} :
    layoutUtility layout = .ok u ↔ layout.IsFilled ∧ u = layout.utility := by
  unfold layoutUtility
  cases h : templateAreas (some layout.name) layout.rows with
  | error fault =>
    have hn : ¬layout.IsFilled := by
      intro hf
      have hok : templateAreas (some layout.name) layout.rows =
          .ok (spaced (layout.rows.map shownRow)) :=
        templateAreas_eq_ok_iff.mpr ⟨hf.1, hf.2, rfl⟩
      rw [h] at hok
      cases hok
    simpa [Except.map] using fun hf => absurd hf hn
  | ok areas =>
    obtain ⟨hne, hall, rfl⟩ := templateAreas_eq_ok_iff.mp h
    simp only [Except.map, Except.ok.injEq, ofPairs_declaration]
    exact ⟨fun he => ⟨⟨hne, hall⟩, he.symm⟩, fun he => he.2.symm⟩

/-- All layouts have classes exactly when all of them are filled. -/
theorem mapM_layoutUtility {layouts : List Layout} {utilities : List Utility} :
    layouts.mapM layoutUtility = .ok utilities ↔
      (∀ layout ∈ layouts, layout.IsFilled) ∧ utilities = layouts.map utility := by
  rw [mapM_eq_ok_iff]
  induction layouts generalizing utilities with
  | nil => simp
  | cons layout layouts ih =>
    rw [List.forall₂_cons_left_iff, List.forall_mem_cons, List.map_cons]
    constructor
    · rintro ⟨u, us, hu, hus, rfl⟩
      obtain ⟨hf, rfl⟩ := layoutUtility_eq_ok_iff.mp hu
      obtain ⟨hfs, rfl⟩ := ih.mp hus
      exact ⟨⟨hf, hfs⟩, rfl⟩
    · rintro ⟨⟨hf, hfs⟩, rfl⟩
      exact ⟨_, _, layoutUtility_eq_ok_iff.mpr ⟨hf, rfl⟩, ih.mpr ⟨hfs, rfl⟩, rfl⟩

/-- Layouts of values have the names under which they are configured, in order. -/
theorem map_name_ofSources {sources : LayoutSources} {layouts : List Layout}
    (hraw : ∀ e ∈ sources.entries, ∃ value, e.2 = .raw value)
    (h : ofSources sources = .ok layouts) : layouts.map name = sources.keys := by
  have hall := mapM_eq_ok_iff.mp h
  clear h
  unfold Table.keys
  generalize sources.entries = entries at hraw hall
  induction hall with
  | nil => rfl
  | cons hlayout _ ih =>
    obtain ⟨⟨value, hvalue⟩, hrest⟩ := List.forall_mem_cons.mp hraw
    rw [hvalue] at hlayout
    rw [List.map_cons, List.map_cons, name_ofValue hlayout, ih hrest]

end Layout

/-! ## Areas -/

/-- The index of layouts is that of their additions in order. -/
theorem UtilitySet.indexOf_eq_after (layouts : List Layout) :
    indexOf layouts =
      AreaIndex.empty.after (layouts.map fun layout => ⟨layout.name, layout.rows⟩) := by
  rw [AreaIndex.after, List.foldl_map]
  rfl

/-- The index of layouts knows the areas of all their rows. -/
theorem UtilitySet.names_indexOf (layouts : List Layout) :
    (indexOf layouts).names = NamedGrid.areaNames (layouts.flatMap Layout.rows) := by
  rw [indexOf_eq_after, AreaIndex.names_after, List.flatMap_map]

/-! ## The generated set -/

namespace UtilitySet

/-- Sources have a set of utilities exactly when all have a shape and all are filled. The set
depends on the layouts alone. -/
theorem generate_eq_ok_iff {sources : LayoutSources} {set : UtilitySet} :
    generate sources = .ok set ↔
      ∃ layouts, Layout.ofSources sources = .ok layouts ∧
        (∀ layout ∈ layouts, layout.IsFilled) ∧
        set = assemble layouts (layouts.map Layout.utility) := by
  unfold generate
  cases hs : Layout.ofSources sources with
  | error fault => simp [bind, Except.bind]
  | ok layouts =>
    cases hu : layouts.mapM layoutUtility with
    | error fault =>
      have hn := fun hall => hu ▸ Layout.mapM_layoutUtility.mpr ⟨hall, rfl⟩
      simpa [bind, Except.bind, hu] using fun hall => nomatch hn hall
    | ok utilities =>
      obtain ⟨hall, rfl⟩ := Layout.mapM_layoutUtility.mp hu
      simp only [bind, Except.bind, hu, pure, Except.pure, Except.ok.injEq,
        exists_eq_left']
      exact ⟨fun he => ⟨hall, he.symm⟩, fun he => he.2.symm⟩

/-- The classes of assembled layouts are those of the layouts that no keyword displaces. -/
theorem layoutUtilities_assemble (layouts : List Layout) :
    (assemble layouts (layouts.map Layout.utility)).layoutUtilities =
      (layouts.filter fun layout => !wideKeywords.contains layout.name).map Layout.utility ++
        keywordLayoutUtilities := by
  have hzip : ∀ ls : List Layout,
      ((ls.zip (ls.map Layout.utility)).filter fun p =>
          !wideKeywords.contains p.1.name).map Prod.snd =
        (ls.filter fun layout => !wideKeywords.contains layout.name).map Layout.utility := by
    intro ls
    induction ls with
    | nil => rfl
    | cons l ls ih =>
      rw [List.map_cons, List.zip_cons_cons, List.filter_cons, List.filter_cons]
      split
      · rw [List.map_cons, List.map_cons, ih]
      · exact ih
  exact congrArg (· ++ keywordLayoutUtilities) (hzip layouts)

end UtilitySet

end NamedGrid
