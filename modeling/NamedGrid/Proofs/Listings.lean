import NamedGrid.Proofs.Agreement

/-!
# Listed areas

A listing spells the classes of every area by itself and takes the layouts of an area from the
index. The index has noted each layout once under each area of its rows, so it gives the layouts
that have the area among their cells, in order. The classes that are spelled are static classes,
and an area and a stem that are put together make a class in one way only; so a look-up resolves
every listed class, and no class is listed twice.
-/

namespace NamedGrid

/-! ## The layouts of an area -/

/-- The index of layouts has under each area the layouts that mention it, in order. -/
theorem UtilitySet.layoutsOf_indexOf (layouts : List Layout) (area : Text) :
    (indexOf layouts).layoutsOf area =
      (layouts.filter fun layout => area ∈ NamedGrid.areaNames layout.rows).map Layout.name := by
  rw [indexOf_eq_after, AreaIndex.layoutsOf_after, List.filter_map, List.map_map]
  rfl

/-- The layouts of an area are those that have it among their cells. -/
theorem UtilitySet.layoutsOf_assemble {layouts : List Layout} {area : Text}
    (ha : IsArea layouts area) :
    (assemble layouts (layouts.map Layout.utility)).areas.layoutsOf area =
      (layouts.filter fun layout => ∃ row ∈ layout.rows, area ∈ cells row).map Layout.name := by
  have hindex := layoutsOf_indexOf layouts area
  simp only [mem_areaNames, ha.2, not_false_eq_true, and_true] at hindex
  exact hindex

/-! ## The classes of an area -/

/-- The seven classes that are listed for an area, with what each declares. -/
def listedClasses (area : Text) : List ResolvedClass :=
  [⟨"grid-area-".toList ++ area, Table.ofList [("grid-area".toList, area)]⟩,
    ⟨"row-start-".toList ++ area,
      Table.ofList [("grid-row-start".toList, area ++ "-start".toList)]⟩,
    ⟨"row-end-".toList ++ area, Table.ofList [("grid-row-end".toList, area ++ "-end".toList)]⟩,
    ⟨"row-span-".toList ++ area,
      Table.ofList [("grid-row".toList, area ++ "-start / ".toList ++ area ++ "-end".toList)]⟩,
    ⟨"col-start-".toList ++ area,
      Table.ofList [("grid-column-start".toList, area ++ "-start".toList)]⟩,
    ⟨"col-end-".toList ++ area,
      Table.ofList [("grid-column-end".toList, area ++ "-end".toList)]⟩,
    ⟨"col-span-".toList ++ area,
      Table.ofList [("grid-column".toList, area ++ "-start / ".toList ++ area ++ "-end".toList)]⟩]

/-- The classes are spelled with the stems of an area. -/
theorem map_className_listedClasses (area : Text) :
    (listedClasses area).map ResolvedClass.className =
      areaStems.map fun stem => joined stem area := rfl

/-- Every listed class is a static class; that of a placement by a keyword is the keyword's. -/
theorem exists_staticClass_of_mem_listedClasses {layouts : List Layout} {area : Text}
    (ha : IsArea layouts area) {c : ResolvedClass} (hc : c ∈ listedClasses area) :
    ∃ declaration, StaticClass layouts c.className declaration ∧
      c.properties = declaration.toTable := by
  simp only [listedClasses, List.mem_cons, List.not_mem_nil, or_false] at hc
  rcases hc with rfl | rfl | rfl | rfl | rfl | rfl | rfl
  · by_cases hk : area ∈ areaKeywords
    · exact ⟨_, .areaKeyword hk, rfl⟩
    · exact ⟨_, .area ha hk, rfl⟩
  · exact ⟨_, .start ha .row, rfl⟩
  · exact ⟨_, .finish ha .row, rfl⟩
  · exact ⟨_, .span ha .row, rfl⟩
  · exact ⟨_, .start ha .col, rfl⟩
  · exact ⟨_, .finish ha .col, rfl⟩
  · exact ⟨_, .span ha .col, rfl⟩

/-- A static class of no layout and no keyword is made of an area and one of its stems. -/
theorem StaticClass.exists_area {layouts : List Layout} {className : Text}
    {declaration : Declaration} (h : StaticClass layouts className declaration)
    (hlayout : ¬"grid-areas-".toList <+: className)
    (hkeyword : ∀ keyword ∈ areaKeywords, className ≠ "grid-area-".toList ++ keyword) :
    ∃ area, IsArea layouts area ∧ ∃ stem ∈ areaStems, className = joined stem area := by
  have hline : ∀ axis : Axis, axis.stem ++ "-start".toList ∈ areaStems ∧
      axis.stem ++ "-end".toList ∈ areaStems ∧ axis.stem ++ "-span".toList ∈ areaStems := by
    intro axis
    cases axis <;> decide
  cases h with
  | layout hl hk => exact absurd (List.prefix_append _ _) hlayout
  | layoutKeyword hk => exact absurd (List.prefix_append _ _) hlayout
  | area ha hk => exact ⟨_, ha, areaStem, List.mem_cons_self, rfl⟩
  | areaKeyword hk => exact absurd rfl (hkeyword _ hk)
  | start ha axis =>
    refine ⟨_, ha, _, (hline axis).1, ?_⟩
    cases axis <;> rfl
  | finish ha axis =>
    refine ⟨_, ha, _, (hline axis).2.1, ?_⟩
    cases axis <;> rfl
  | span ha axis =>
    refine ⟨_, ha, _, (hline axis).2.2, ?_⟩
    cases axis <;> rfl

namespace UtilitySet

/-- The areas of a generated set are those of its layouts. -/
theorem mem_areaNames_assemble {layouts : List Layout} {area : Text} :
    area ∈ (assemble layouts (layouts.map Layout.utility)).areaNames ↔ IsArea layouts area := by
  rw [areaNames_assemble, mem_areaNames_flatMap]

/-- A static class is looked up with what it declares. -/
theorem lookUpWritten_of_staticClass {layouts : List Layout}
    (h : (layouts.map Layout.name).Nodup) {className : Text} {declaration : Declaration}
    (hc : StaticClass layouts className declaration) :
    (assemble layouts (layouts.map Layout.utility)).lookUpWritten className =
      .ok ⟨className, declaration.toTable⟩ :=
  lookUpWritten_of_find? (without_dot_className (mem_staticUtilities_assemble.mpr hc))
    ((find?_assemble (u := ⟨className, declaration⟩) h).mpr ⟨rfl, hc⟩)

/-- Every listed class is looked up as it is listed. -/
theorem map_lookUpWritten_listedClasses {layouts : List Layout}
    (h : (layouts.map Layout.name).Nodup) {area : Text} (ha : IsArea layouts area) :
    ((listedClasses area).map ResolvedClass.className).map
        (assemble layouts (layouts.map Layout.utility)).lookUpWritten =
      (listedClasses area).map .ok := by
  rw [List.map_map]
  refine List.map_congr_left fun c hc => ?_
  obtain ⟨declaration, hstatic, hproperties⟩ := exists_staticClass_of_mem_listedClasses ha hc
  rw [Function.comp_apply, lookUpWritten_of_staticClass h hstatic, ← hproperties]

/-- No class is listed twice. -/
theorem nodup_listed (set : UtilitySet) :
    (set.areaListings.flatMap AreaListing.classes).Nodup := by
  have hstems : areaStems.Nodup := by decide
  have hknown : ∀ stem ∈ areaStems, stem ∈ staticStems := fun _ => List.mem_cons_of_mem _
  have hlisted : set.areaListings.flatMap AreaListing.classes =
      (set.areaNames.flatMap fun area => areaStems.map (·, area)).map
        fun p => joined p.1 p.2 := by
    rw [areaListings, List.flatMap_map, List.map_flatMap]
    rfl
  rw [hlisted]
  refine nodup_map_joined (fun p hp => ?_) (nodup_flatMap_stems hstems (Table.nodup _))
  obtain ⟨area, -, hp⟩ := List.mem_flatMap.mp hp
  obtain ⟨stem, hs, rfl⟩ := List.mem_map.mp hp
  exact hknown stem hs

/-- Every static class that belongs to no layout and no keyword is listed once. -/
theorem count_listed {layouts : List Layout} {u : Utility}
    (hu : u ∈ (assemble layouts (layouts.map Layout.utility)).staticUtilities)
    (hlayout : ¬"grid-areas-".toList <+: u.className)
    (hkeyword : ∀ keyword ∈ areaKeywords, u.className ≠ "grid-area-".toList ++ keyword) :
    ((assemble layouts (layouts.map Layout.utility)).areaListings.flatMap
      AreaListing.classes).count u.className = 1 := by
  apply List.count_eq_one_of_mem (nodup_listed _)
  obtain ⟨area, ha, stem, hs, hname⟩ :=
    (mem_staticUtilities_assemble.mp hu).exists_area hlayout hkeyword
  have hlisted := mem_areaNames_assemble.mpr ha
  refine List.mem_flatMap.mpr ⟨_, List.mem_map_of_mem hlisted, ?_⟩
  exact hname ▸ List.mem_map_of_mem hs

end UtilitySet

/-! ## Listings and look-ups -/

/-- **A listing agrees with look-ups.** Every class of every listed area is resolved without a
warning, to the placement in the area or to its lines; each static class that belongs to no
layout and no keyword is listed exactly once; and the layouts of an area are those that have it
among their cells, in order and without doubles. -/
theorem listAreas_agrees_with_resolve {session : Session} {generation : Generation}
    (hg : session.generate.result = .ok (.ok generation))
    (hraw : ∀ plugin ∈ session.discovered.registry.listeners .registerLayouts,
      plugin.blueprint.contribution.IsRaw) :
    ∃ report : AreasReport,
      session.listAreas.result = .ok (.report report generation.warnings) ∧
      report.areas.map AreaListing.area = generation.set.areaNames ∧
      (∀ listing ∈ report.areas,
        listing.classes = (listedClasses listing.area).map ResolvedClass.className ∧
        (∀ later ∈ [session, session.listAreas.session],
          (later.resolve listing.classes).result =
            .ok (.report (listedClasses listing.area) generation.warnings)) ∧
        listing.layouts = (generation.set.layouts.filter fun layout =>
          ∃ row ∈ layout.rows, listing.area ∈ cells row).map Layout.name ∧
        listing.layouts.Nodup) ∧
      ∀ u ∈ generation.set.staticUtilities, ¬"grid-areas-".toList <+: u.className →
        (∀ keyword ∈ areaKeywords, u.className ≠ "grid-area-".toList ++ keyword) →
        (report.areas.flatMap AreaListing.classes).count u.className = 1 := by
  obtain ⟨-, collected, hcollect, hset, -⟩ := Session.generate_eq_ok_iff.mp hg
  have hsources := (Registry.isRaw_collect hraw hcollect).update session.settings.isRaw_sources
  obtain ⟨layouts, -, -, hnodup, hassemble⟩ := UtilitySet.exists_layouts_of_generate hsources hset
  refine ⟨⟨generation.set.areaListings, generation.set.layouts⟩, ?_, ?_, fun listing hl => ?_,
    fun u hu hlayout hkeyword => ?_⟩
  · rw [Session.listAreas, Session.reporting, hg]
    exact congrArg (fun warnings => Except.ok (Answer.report _ warnings)) (List.append_nil _)
  · rw [UtilitySet.areaListings, List.map_map]
    exact List.map_id _
  · obtain ⟨area, harea, rfl⟩ := List.mem_map.mp hl
    have ha : IsArea layouts area := UtilitySet.mem_areaNames_assemble.mp (hassemble ▸ harea)
    have hlayouts : generation.set.areas.layoutsOf area = (generation.set.layouts.filter
        fun layout => ∃ row ∈ layout.rows, area ∈ cells row).map Layout.name :=
      hassemble ▸ UtilitySet.layoutsOf_assemble ha
    have hnames : (generation.set.layouts.map Layout.name).Nodup := hassemble ▸ hnodup
    refine ⟨(map_className_listedClasses area).symm, fun later hlater => ?_, hlayouts,
      hlayouts ▸ hnames.sublist (List.filter_sublist.map Layout.name)⟩
    have hpass : later.generate.result = .ok (.ok generation) := by
      simp only [List.mem_cons, List.not_mem_nil, or_false] at hlater
      rcases hlater with rfl | rfl
      · exact hg
      · exact Session.result_generate_generate hg
    apply Session.result_resolve_of_found hpass
    rw [hassemble]
    exact UtilitySet.map_lookUpWritten_listedClasses hnodup ha
  · rw [hassemble] at hu ⊢
    exact UtilitySet.count_listed hu hlayout hkeyword

/-- A page of two layouts that share an area with a reserved name, of which one is itself named
like a keyword, beside a plugin that contributes a layout. -/
def sharedAutoPage : Session :=
  { contributedSession with
    settings :=
      { contributedSession.settings with
        layouts := Table.ofList
          [("none".toList, .rows ["aside auto".toList]),
            ("page".toList, .rows ["auto .".toList, "b auto".toList])] } }

/-- The area with a reserved name is listed with both of its layouts, and its classes are
resolved, the placement by the keyword and the lines by the area. -/
theorem listAreas_agrees_with_resolve_sharedAuto :
    ∃ generation report, sharedAutoPage.generate.result = .ok (.ok generation) ∧
      (∀ plugin ∈ sharedAutoPage.discovered.registry.listeners .registerLayouts,
        plugin.blueprint.contribution.IsRaw) ∧
      sharedAutoPage.listAreas.result = .ok (.report report generation.warnings) ∧
      (∃ listing ∈ report.areas, listing.area = "auto".toList ∧
        listing.layouts = ["none".toList, "page".toList]) ∧
      (sharedAutoPage.resolve ["grid-area-auto".toList, "row-start-auto".toList,
          "row-end-auto".toList, "row-span-auto".toList, "col-start-auto".toList,
          "col-end-auto".toList, "col-span-auto".toList]).result =
        .ok (.report (listedClasses "auto".toList) generation.warnings) ∧
      (report.areas.flatMap AreaListing.classes).count "col-span-aside".toList = 1 := by
  obtain ⟨generation, hg, hcheck⟩ := sharedAutoPage.exists_generation
    (fun generation => decide ("auto".toList ∈ generation.set.areaNames ∧
      (generation.set.layouts.filter fun layout =>
        ∃ row ∈ layout.rows, "auto".toList ∈ cells row).map Layout.name =
          ["none".toList, "page".toList] ∧
      ∃ u ∈ generation.set.staticUtilities, u.className = "col-span-aside".toList))
    (by decide +kernel)
  obtain ⟨hauto, hlayouts, u, hu, hname⟩ := of_decide_eq_true hcheck
  have hraw : ∀ plugin ∈ sharedAutoPage.discovered.registry.listeners .registerLayouts,
      plugin.blueprint.contribution.IsRaw := by decide +kernel
  obtain ⟨report, hreport, hareas, hlistings, honce⟩ := listAreas_agrees_with_resolve hg hraw
  rw [← hareas] at hauto
  obtain ⟨listing, hlisting, harea⟩ := List.mem_map.mp hauto
  obtain ⟨hclasses, hresolve, hlisted, -⟩ := hlistings listing hlisting
  rw [harea] at hclasses hresolve hlisted
  have hresolved := hresolve _ List.mem_cons_self
  rw [hclasses] at hresolved
  refine ⟨generation, report, hg, hraw, hreport,
    ⟨listing, hlisting, harea, hlisted.trans hlayouts⟩, hresolved, ?_⟩
  rw [← hname]
  exact honce u hu (by rw [hname]; decide) (by rw [hname]; decide)

end NamedGrid
