import Mathlib.Data.List.Nodup
import NamedGrid.Proofs.ClassNames
import NamedGrid.Proofs.Generation

/-!
# The static classes

The classes of a generated set are those of its layouts, its areas and the reserved words,
and of nothing else. Each is a stem and a name, and no pair of the two occurs twice: names
of layouts are keys, areas are first occurrences, and both leave out the keywords that
bring classes of their own. As a class name determines the pair, the first utility of a
class is its only one.
-/

namespace NamedGrid

/-- A cell of the layouts that is not empty; layouts that a keyword displaces count. -/
def IsArea (layouts : List Layout) (area : Text) : Prop :=
  (∃ layout ∈ layouts, ∃ row ∈ layout.rows, area ∈ cells row) ∧ area ∉ emptyCells

/-- The classes that layouts and reserved words give, with what each declares. -/
inductive StaticClass (layouts : List Layout) : Text → Declaration → Prop
  /-- A layout shows a grid with its template and the tracks that it gives. -/
  | layout {layout : Layout} (h : layout ∈ layouts) (hk : layout.name ∉ wideKeywords) :
      StaticClass layouts ("grid-areas-".toList ++ layout.name)
        ⟨[("display".toList, "grid".toList),
            ("grid-template-areas".toList, spaced (layout.rows.map shownRow))] ++
          trackProperty "grid-template-rows".toList layout.rowTracks ++
          trackProperty "grid-template-columns".toList layout.colTracks⟩
  /-- A keyword stands in the place of a template. -/
  | layoutKeyword {keyword : Text} (h : keyword ∈ wideKeywords) :
      StaticClass layouts ("grid-areas-".toList ++ keyword)
        ⟨[("display".toList, "grid".toList), ("grid-template-areas".toList, keyword)]⟩
  /-- An element is placed in an area. -/
  | area {area : Text} (h : IsArea layouts area) (hk : area ∉ areaKeywords) :
      StaticClass layouts ("grid-area-".toList ++ area) ⟨[("grid-area".toList, area)]⟩
  /-- An element is placed by a keyword. -/
  | areaKeyword {keyword : Text} (h : keyword ∈ areaKeywords) :
      StaticClass layouts ("grid-area-".toList ++ keyword) ⟨[("grid-area".toList, keyword)]⟩
  /-- The line at which an area starts. -/
  | start {area : Text} (h : IsArea layouts area) (axis : Axis) :
      StaticClass layouts (axis.stem ++ "-start-".toList ++ area)
        ⟨[(axis.property ++ "-start".toList, area ++ "-start".toList)]⟩
  /-- The line at which an area ends. -/
  | finish {area : Text} (h : IsArea layouts area) (axis : Axis) :
      StaticClass layouts (axis.stem ++ "-end-".toList ++ area)
        ⟨[(axis.property ++ "-end".toList, area ++ "-end".toList)]⟩
  /-- Both lines of an area. -/
  | span {area : Text} (h : IsArea layouts area) (axis : Axis) :
      StaticClass layouts (axis.stem ++ "-span-".toList ++ area)
        ⟨[(axis.property, area ++ "-start / ".toList ++ area ++ "-end".toList)]⟩

/-- The areas of rows are the cells of the layouts that are not empty. -/
theorem mem_areaNames_flatMap {layouts : List Layout} {area : Text} :
    area ∈ areaNames (layouts.flatMap Layout.rows) ↔ IsArea layouts area := by
  simp only [mem_areaNames, List.mem_flatMap, IsArea]
  refine and_congr_left fun _ => ⟨?_, ?_⟩
  · rintro ⟨row, ⟨layout, hl, hr⟩, hc⟩
    exact ⟨layout, hl, row, hr, hc⟩
  · rintro ⟨layout, hl, row, hr, hc⟩
    exact ⟨row, ⟨layout, hl, hr⟩, hc⟩

/-! ## Stems and names -/

/-- The names that are no reserved words. -/
def unreserved (keywords names : List Text) : List Text :=
  names.filter fun name => !keywords.contains name

theorem mem_unreserved {keywords names : List Text} {name : Text} :
    name ∈ unreserved keywords names ↔ name ∈ names ∧ name ∉ keywords := by
  simp [unreserved]

/-- Every static class as a stem with a name, in order. -/
def staticParts (layoutNames areas : List Text) : List (Text × Text) :=
  (unreserved wideKeywords layoutNames ++ wideKeywords).map (layoutStem, ·) ++
    ((unreserved areaKeywords areas ++ areaKeywords).map (areaStem, ·) ++
      areas.flatMap fun area => lineStems.map (·, area))

/-- Names that are no reserved words and the reserved words behind them are distinct. -/
theorem nodup_unreserved_append {keywords names : List Text} (hk : keywords.Nodup)
    (hn : names.Nodup) : (unreserved keywords names ++ keywords).Nodup := by
  refine List.nodup_append.mpr ⟨hn.filter _, hk, ?_⟩
  rintro name hname _ hkeyword rfl
  exact (mem_unreserved.mp hname).2 hkeyword

/-- Distinct stems with distinct areas make distinct pairs. -/
theorem nodup_flatMap_stems {stems areas : List Text} (hs : stems.Nodup) (ha : areas.Nodup) :
    (areas.flatMap fun area => stems.map (·, area)).Nodup := by
  refine List.nodup_flatMap.mpr ⟨fun area _ => hs.map fun _ _ h => (Prod.mk.inj h).1, ?_⟩
  refine ha.imp fun {a b} hne => ?_
  rintro ⟨stem, name⟩ hp hq
  obtain ⟨_, _, hp⟩ := List.mem_map.mp hp
  obtain ⟨_, _, hq⟩ := List.mem_map.mp hq
  exact hne ((Prod.mk.inj hp).2.trans (Prod.mk.inj hq).2.symm)

/-- No stem is given the same name twice. -/
theorem nodup_staticParts {layoutNames areas : List Text} (hl : layoutNames.Nodup)
    (ha : areas.Nodup) : (staticParts layoutNames areas).Nodup := by
  have hstems : staticStems.Nodup := by decide
  have hlines : (areas.flatMap fun area => lineStems.map (·, area)).Nodup :=
    nodup_flatMap_stems (List.nodup_cons.mp (List.nodup_cons.mp hstems).2).2 ha
  have hplacements : ((unreserved areaKeywords areas ++ areaKeywords).map
      (areaStem, ·)).Nodup :=
    (nodup_unreserved_append areaKeywords_nodup ha).map fun _ _ h => (Prod.mk.inj h).2
  have htemplates : ((unreserved wideKeywords layoutNames ++ wideKeywords).map
      (layoutStem, ·)).Nodup :=
    (nodup_unreserved_append (List.nodup_cons.mp areaKeywords_nodup).2 hl).map
      fun _ _ h => (Prod.mk.inj h).2
  -- The three families are apart because their stems are.
  have hline : ∀ {p : Text × Text}, p ∈ (areas.flatMap fun area => lineStems.map (·, area)) →
      p.1 ∈ lineStems := by
    intro p hp
    obtain ⟨area, _, hp⟩ := List.mem_flatMap.mp hp
    obtain ⟨stem, hs, rfl⟩ := List.mem_map.mp hp
    exact hs
  obtain ⟨hlayout, hrest⟩ := List.nodup_cons.mp hstems
  refine List.nodup_append.mpr ⟨htemplates, List.nodup_append.mpr ⟨hplacements, hlines, ?_⟩, ?_⟩
  · rintro p hp _ hq rfl
    obtain ⟨name, _, rfl⟩ := List.mem_map.mp hp
    exact (List.nodup_cons.mp hrest).1 (hline hq)
  · rintro p hp _ hq rfl
    obtain ⟨name, _, rfl⟩ := List.mem_map.mp hp
    rcases List.mem_append.mp hq with hq | hq
    · obtain ⟨other, _, hq⟩ := List.mem_map.mp hq
      exact hlayout ((Prod.mk.inj hq).1 ▸ List.mem_cons_self)
    · exact hlayout (List.mem_cons_of_mem _ (hline hq))

/-- Every stem of a static class is a known one. -/
theorem stem_mem_of_mem_staticParts {layoutNames areas : List Text} {p : Text × Text}
    (h : p ∈ staticParts layoutNames areas) : p.1 ∈ staticStems := by
  simp only [staticParts, List.mem_append, List.mem_map, List.mem_flatMap] at h
  rcases h with ⟨_, _, rfl⟩ | ⟨_, _, rfl⟩ | ⟨_, _, _, hs, rfl⟩
  · exact List.mem_cons_self
  · exact List.mem_cons_of_mem _ List.mem_cons_self
  · exact mem_staticStems_of_mem_lineStems hs

/-- Distinct pairs of a stem and a name give distinct class names. -/
theorem nodup_map_joined {parts : List (Text × Text)} (hs : ∀ p ∈ parts, p.1 ∈ staticStems)
    (h : parts.Nodup) : (parts.map fun p => joined p.1 p.2).Nodup := by
  refine h.map_on fun p hp q hq he => ?_
  obtain ⟨hstem, hname⟩ := joined_inj (hs p hp) (hs q hq) he
  exact Prod.ext hstem hname

/-- The layouts give the first of the static classes. -/
theorem staticParts_eq_append (layoutNames areas : List Text) :
    staticParts layoutNames areas =
      (unreserved wideKeywords layoutNames).map (layoutStem, ·) ++ staticParts [] areas := by
  simp only [staticParts, unreserved, List.filter_nil, List.nil_append, List.map_append,
    List.append_assoc]

/-- As many classes as there are names to each stem. -/
theorem length_staticParts (layoutNames areas : List Text) :
    (staticParts layoutNames areas).length =
      (unreserved wideKeywords layoutNames).length + 6 +
        (unreserved areaKeywords areas).length + 7 + 6 * areas.length := by
  have hlines : ∀ names : List Text,
      (names.flatMap fun area => lineStems.map (·, area)).length = 6 * names.length := by
    intro names
    induction names with
    | nil => rfl
    | cons name names ih =>
      rw [List.flatMap_cons, List.length_append, ih, List.length_map, List.length_cons]
      have hsix : lineStems.length = 6 := rfl
      omega
  have hwide : wideKeywords.length = 6 := rfl
  have harea : areaKeywords.length = 7 := rfl
  simp only [staticParts, List.length_append, List.length_map, hlines, hwide, harea]
  omega

/-! ## The classes of a generated set -/

namespace UtilitySet

/-- What a successful pass over values gives: a set that is assembled from filled layouts with
distinct names. -/
theorem exists_layouts_of_generate {sources : LayoutSources} {set : UtilitySet}
    (hraw : ∀ e ∈ sources.entries, ∃ value, e.2 = .raw value)
    (h : generate sources = .ok set) :
    ∃ layouts, Layout.ofSources sources = .ok layouts ∧
      layouts.map Layout.name = sources.keys ∧ (layouts.map Layout.name).Nodup ∧
      set = assemble layouts (layouts.map Layout.utility) := by
  obtain ⟨layouts, hl, -, rfl⟩ := generate_eq_ok_iff.mp h
  have hnames := Layout.map_name_ofSources hraw hl
  exact ⟨layouts, hl, hnames, hnames ▸ sources.nodup, rfl⟩

/-- The area names of an assembled set are the areas of the rows of its layouts. -/
theorem areaNames_assemble (layouts : List Layout) (utilities : List Utility) :
    (assemble layouts utilities).areaNames = NamedGrid.areaNames (layouts.flatMap Layout.rows) :=
  names_indexOf layouts

/-- All static utilities of assembled layouts, family by family. -/
theorem staticUtilities_assemble (layouts : List Layout) :
    (assemble layouts (layouts.map Layout.utility)).staticUtilities =
      ((layouts.filter fun layout => !wideKeywords.contains layout.name).map Layout.utility ++
          keywordLayoutUtilities) ++
        ((unreserved areaKeywords (NamedGrid.areaNames (layouts.flatMap Layout.rows))).map
            placementUtility ++ keywordPlacementUtilities) ++
        (NamedGrid.areaNames (layouts.flatMap Layout.rows)).flatMap NamedGrid.lineUtilities := by
  rw [← names_indexOf, ← layoutUtilities_assemble]
  rfl

/-- The class names of assembled layouts are the joined stems and names. -/
theorem classNames_assemble (layouts : List Layout) :
    (assemble layouts (layouts.map Layout.utility)).staticUtilities.map Utility.className =
      (staticParts (layouts.map Layout.name)
        (NamedGrid.areaNames (layouts.flatMap Layout.rows))).map fun p => joined p.1 p.2 := by
  have hlayouts : ∀ ls : List Layout,
      (ls.filter fun layout => !wideKeywords.contains layout.name).map
          (Utility.className ∘ Layout.utility) =
        (unreserved wideKeywords (ls.map Layout.name)).map (joined layoutStem) := by
    intro ls
    rw [unreserved, List.filter_map, List.map_map]
    rfl
  have hlines : ∀ names : List Text,
      (names.flatMap NamedGrid.lineUtilities).map Utility.className =
        (names.flatMap fun area => lineStems.map (·, area)).map fun p => joined p.1 p.2 := by
    intro names
    rw [List.map_flatMap, List.map_flatMap]
    rfl
  rw [staticUtilities_assemble]
  simp only [staticParts, List.map_append, List.map_map, hlayouts, hlines, List.append_assoc,
    keywordLayoutUtilities, keywordPlacementUtilities]
  rfl

/-- No two static utilities of layouts with distinct names have one class name. -/
theorem nodup_classNames_assemble {layouts : List Layout}
    (h : (layouts.map Layout.name).Nodup) :
    ((assemble layouts (layouts.map Layout.utility)).staticUtilities.map
      Utility.className).Nodup := by
  rw [classNames_assemble]
  exact nodup_map_joined (fun _ => stem_mem_of_mem_staticParts)
    (nodup_staticParts h (nodup_eraseDups _))

/-- Where class names are distinct, a class is found exactly if a utility has it. -/
theorem find?_eq_some_iff {set : UtilitySet} {c : Text} {u : Utility}
    (h : (set.staticUtilities.map Utility.className).Nodup) :
    set.find? c = some u ↔ u ∈ set.staticUtilities ∧ u.className = c := by
  unfold find?
  generalize set.staticUtilities = utilities at h
  induction utilities with
  | nil => simp
  | cons v utilities ih =>
    obtain ⟨hv, hrest⟩ := List.nodup_cons.mp h
    by_cases hc : v.className = c
    · rw [List.find?_cons_of_pos (by simpa using hc), Option.some.injEq, List.mem_cons]
      refine ⟨fun he => ⟨Or.inl he.symm, he ▸ hc⟩, ?_⟩
      rintro ⟨rfl | hu, huc⟩
      · rfl
      · exact absurd (hc.trans huc.symm ▸ List.mem_map_of_mem hu) hv
    · rw [List.find?_cons_of_neg (by simpa using hc), ih hrest, List.mem_cons]
      apply and_congr_left
      intro huc
      apply (or_iff_right _).symm
      rintro rfl
      exact hc huc

/-- The line classes of an area on one axis, written out. -/
theorem axisUtilities_eq (area : Text) (axis : Axis) :
    axisUtilities area axis =
      [⟨axis.stem ++ "-start-".toList ++ area,
          ⟨[(axis.property ++ "-start".toList, area ++ "-start".toList)]⟩⟩,
        ⟨axis.stem ++ "-end-".toList ++ area,
          ⟨[(axis.property ++ "-end".toList, area ++ "-end".toList)]⟩⟩,
        ⟨axis.stem ++ "-span-".toList ++ area,
          ⟨[(axis.property, area ++ "-start / ".toList ++ area ++ "-end".toList)]⟩⟩] := by
  have hspan : startLine area ++ " / ".toList ++ endLine area =
      area ++ "-start / ".toList ++ area ++ "-end".toList := by
    simp only [startLine, endLine, List.append_assoc]
    rfl
  rw [axisUtilities, hspan]
  cases axis <;> rfl

theorem mem_lineUtilities {area : Text} {u : Utility} :
    u ∈ NamedGrid.lineUtilities area ↔ ∃ axis, u ∈ axisUtilities area axis := by
  rw [NamedGrid.lineUtilities, List.mem_append]
  refine ⟨?_, ?_⟩
  · rintro (hu | hu)
    · exact ⟨.row, hu⟩
    · exact ⟨.col, hu⟩
  · rintro ⟨axis, hu⟩
    cases axis
    · exact Or.inl hu
    · exact Or.inr hu

/-- The static utilities of assembled layouts are exactly the static classes. -/
theorem mem_staticUtilities_assemble {layouts : List Layout} {c : Text} {d : Declaration} :
    ⟨c, d⟩ ∈ (assemble layouts (layouts.map Layout.utility)).staticUtilities ↔
      StaticClass layouts c d := by
  simp only [staticUtilities_assemble, List.mem_append, List.mem_map, List.mem_filter,
    List.mem_flatMap, keywordLayoutUtilities, keywordPlacementUtilities, mem_unreserved,
    mem_areaNames_flatMap, Bool.not_eq_true', List.contains_eq_mem, decide_eq_false_iff_not]
  constructor
  · rintro (((⟨layout, ⟨hl, hk⟩, he⟩ | ⟨keyword, hk, he⟩) |
      (⟨area, ⟨ha, hk⟩, he⟩ | ⟨keyword, hk, he⟩)) | ⟨area, ha, hu⟩)
    · cases he
      exact .layout hl hk
    · cases he
      exact .layoutKeyword hk
    · cases he
      exact .area ha hk
    · cases he
      exact .areaKeyword hk
    · obtain ⟨axis, hu⟩ := mem_lineUtilities.mp hu
      simp only [axisUtilities_eq, List.mem_cons, List.not_mem_nil, or_false] at hu
      rcases hu with he | he | he
      · cases he
        exact .start ha axis
      · cases he
        exact .finish ha axis
      · cases he
        exact .span ha axis
  · intro h
    cases h with
    | layout hl hk => exact Or.inl (Or.inl (Or.inl ⟨_, ⟨hl, hk⟩, rfl⟩))
    | layoutKeyword hk => exact Or.inl (Or.inl (Or.inr ⟨_, hk, rfl⟩))
    | area ha hk => exact Or.inl (Or.inr (Or.inl ⟨_, ⟨ha, hk⟩, rfl⟩))
    | areaKeyword hk => exact Or.inl (Or.inr (Or.inr ⟨_, hk, rfl⟩))
    | start ha axis =>
      refine Or.inr ⟨_, ha, mem_lineUtilities.mpr ⟨axis, ?_⟩⟩
      rw [axisUtilities_eq]
      exact List.mem_cons_self
    | finish ha axis =>
      refine Or.inr ⟨_, ha, mem_lineUtilities.mpr ⟨axis, ?_⟩⟩
      rw [axisUtilities_eq]
      exact List.mem_cons_of_mem _ List.mem_cons_self
    | span ha axis =>
      refine Or.inr ⟨_, ha, mem_lineUtilities.mpr ⟨axis, ?_⟩⟩
      rw [axisUtilities_eq]
      exact List.mem_cons_of_mem _ (List.mem_cons_of_mem _ List.mem_cons_self)

/-- A static class name does not start with a dot. -/
theorem without_dot_className {layouts : List Layout} {u : Utility}
    (hu : u ∈ (assemble layouts (layouts.map Layout.utility)).staticUtilities) :
    Text.without ['.'] u.className = u.className := by
  have hname := List.mem_map_of_mem (f := Utility.className) hu
  rw [classNames_assemble] at hname
  obtain ⟨p, hp, he⟩ := List.mem_map.mp hname
  rw [← he, joined]
  exact without_dot (List.mem_append_left _ (stem_mem_of_mem_staticParts hp)) _

/-- Among layouts with distinct names a class is found exactly with what it declares. -/
theorem find?_assemble {layouts : List Layout} (h : (layouts.map Layout.name).Nodup) {c : Text}
    {u : Utility} :
    (assemble layouts (layouts.map Layout.utility)).find? c = some u ↔
      u.className = c ∧ StaticClass layouts c u.declaration := by
  rw [find?_eq_some_iff (nodup_classNames_assemble h), and_comm]
  apply and_congr_right
  rintro rfl
  exact mem_staticUtilities_assemble

/-- The names that are classes: a fixed lead and behind it a name or an area. -/
theorem exists_staticClass_iff {layouts : List Layout} {c : Text} :
    (∃ declaration, StaticClass layouts c declaration) ↔
      (∃ name, (name ∈ layouts.map Layout.name ∨ name ∈ wideKeywords) ∧
          c = "grid-areas-".toList ++ name) ∨
        (∃ area, (IsArea layouts area ∨ area ∈ areaKeywords) ∧
          c = "grid-area-".toList ++ area) ∨
        ∃ area, IsArea layouts area ∧ ∃ axis ∈ ["row".toList, "col".toList],
          ∃ edge ∈ ["start".toList, "end".toList, "span".toList],
            c = axis ++ "-".toList ++ edge ++ "-".toList ++ area := by
  have hstem : ∀ axis : Axis, axis.stem ∈ ["row".toList, "col".toList] := by
    intro axis
    cases axis <;> decide
  constructor
  · rintro ⟨declaration, h⟩
    cases h with
    | layout hl hk => exact Or.inl ⟨_, Or.inl (List.mem_map_of_mem hl), rfl⟩
    | layoutKeyword hk => exact Or.inl ⟨_, Or.inr hk, rfl⟩
    | area ha hk => exact Or.inr (Or.inl ⟨_, Or.inl ha, rfl⟩)
    | areaKeyword hk => exact Or.inr (Or.inl ⟨_, Or.inr hk, rfl⟩)
    | start ha axis =>
      refine Or.inr (Or.inr ⟨_, ha, _, hstem axis, "start".toList, by decide, ?_⟩)
      cases axis <;> rfl
    | finish ha axis =>
      refine Or.inr (Or.inr ⟨_, ha, _, hstem axis, "end".toList, by decide, ?_⟩)
      cases axis <;> rfl
    | span ha axis =>
      refine Or.inr (Or.inr ⟨_, ha, _, hstem axis, "span".toList, by decide, ?_⟩)
      cases axis <;> rfl
  · rintro (⟨name, hn, rfl⟩ | ⟨area, ha, rfl⟩ | ⟨area, ha, axis, haxis, edge, hedge, rfl⟩)
    · by_cases hk : name ∈ wideKeywords
      · exact ⟨_, .layoutKeyword hk⟩
      · obtain ⟨layout, hl, rfl⟩ := List.mem_map.mp (hn.resolve_right hk)
        exact ⟨_, .layout hl hk⟩
    · by_cases hk : area ∈ areaKeywords
      · exact ⟨_, .areaKeyword hk⟩
      · exact ⟨_, .area (ha.resolve_right hk) hk⟩
    · simp only [List.mem_cons, List.not_mem_nil, or_false] at haxis hedge
      rcases haxis with rfl | rfl
      · rcases hedge with rfl | rfl | rfl
        · exact ⟨_, .start ha .row⟩
        · exact ⟨_, .finish ha .row⟩
        · exact ⟨_, .span ha .row⟩
      · rcases hedge with rfl | rfl | rfl
        · exact ⟨_, .start ha .col⟩
        · exact ⟨_, .finish ha .col⟩
        · exact ⟨_, .span ha .col⟩

end UtilitySet

/-! ## The surface -/

/-- **The static classes are exact and free of collisions.** A class is found exactly when it
is a fixed lead with a configured name, an area or a reserved word behind it, it declares what
that case says, and no two static utilities have one class name. -/
theorem generate_static_surface {sources : LayoutSources} {set : UtilitySet}
    (hraw : ∀ e ∈ sources.entries, ∃ value, e.2 = .raw value)
    (h : UtilitySet.generate sources = .ok set) :
    Layout.ofSources sources = .ok set.layouts ∧
      set.layouts.map Layout.name = sources.keys ∧
      (∀ c, (set.find? c).isSome = true ↔
        (∃ name, (name ∈ sources.keys ∨ name ∈ wideKeywords) ∧
            c = "grid-areas-".toList ++ name) ∨
          (∃ area, (IsArea set.layouts area ∨ area ∈ areaKeywords) ∧
            c = "grid-area-".toList ++ area) ∨
          ∃ area, IsArea set.layouts area ∧ ∃ axis ∈ ["row".toList, "col".toList],
            ∃ edge ∈ ["start".toList, "end".toList, "span".toList],
              c = axis ++ "-".toList ++ edge ++ "-".toList ++ area) ∧
      (∀ c u, set.find? c = some u ↔
        u.className = c ∧ StaticClass set.layouts c u.declaration) ∧
      (set.staticUtilities.map Utility.className).Nodup ∧
      set.areaNames.Nodup ∧ (∀ area, area ∈ set.areaNames ↔ IsArea set.layouts area) ∧
      set.staticUtilities.length =
        (set.layouts.filter fun layout => layout.name ∉ wideKeywords).length + 6 +
          (set.areaNames.filter fun area => area ∉ areaKeywords).length + 7 +
          6 * set.areaNames.length := by
  obtain ⟨layouts, hl, hnames, hn, rfl⟩ := UtilitySet.exists_layouts_of_generate hraw h
  have hfound := fun c u => UtilitySet.find?_assemble hn (c := c) (u := u)
  refine ⟨hl, hnames, fun c => ?_, hfound, UtilitySet.nodup_classNames_assemble hn,
    Table.nodup _, fun area => ?_, ?_⟩
  · rw [← hnames, Option.isSome_iff_exists]
    refine Iff.trans ?_ UtilitySet.exists_staticClass_iff
    constructor
    · rintro ⟨u, hu⟩
      exact ⟨_, ((hfound c u).mp hu).2⟩
    · rintro ⟨d, hd⟩
      exact ⟨⟨c, d⟩, (hfound c ⟨c, d⟩).mpr ⟨rfl, hd⟩⟩
  · rw [UtilitySet.areaNames_assemble, mem_areaNames_flatMap]
    rfl
  · rw [← List.length_map Utility.className, UtilitySet.classNames_assemble, List.length_map,
      length_staticParts, UtilitySet.areaNames_assemble, unreserved, List.filter_map,
      List.length_map]
    simp only [unreserved, List.contains_eq_mem, ← decide_not]
    rfl

/-- Two layouts that share an area. One is named like a keyword, and so is an area. -/
def sharedAreaSources : LayoutSources :=
  Table.ofList
    [("page".toList, .raw (.list [.text "head head".toList, .text ". auto".toList])),
      ("none".toList, .raw (.record
        [("rows".toList, .list [.text "head".toList]), ("row_tracks".toList, .text "1fr".toList)]))]

/-- The displaced layout and the displaced placement leave one layout class, one placement
class and twelve line classes beside those of the keywords. -/
theorem generate_static_surface_sharedArea :
    ∃ set, UtilitySet.generate sharedAreaSources = .ok set ∧
      (∀ e ∈ sharedAreaSources.entries, ∃ value, e.2 = .raw value) ∧
      set.staticUtilities.length = 1 + 6 + 1 + 7 + 12 ∧
      set.find? "row-span-auto".toList =
        some ⟨"row-span-auto".toList,
          ⟨[("grid-row".toList, "auto-start / auto-end".toList)]⟩⟩ := by
  have hraw : ∀ e ∈ sharedAreaSources.entries, ∃ value, e.2 = .raw value := by
    rw [sharedAreaSources, Table.entries_ofList (by decide)]
    simp
  obtain ⟨-, -, -, hfound, -, -, harea, hcount⟩ := generate_static_surface hraw rfl
  refine ⟨_, rfl, hraw, hcount.trans rfl, (hfound _ _).mpr ⟨rfl, ?_⟩⟩
  exact .span ((harea "auto".toList).mp (by decide)) .row

end NamedGrid
