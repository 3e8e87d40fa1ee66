import NamedGrid.Proofs.Sheet
import NamedGrid.Proofs.StaticClasses

/-!
# Classes that several utilities have

A look-up finds the first utility of a class, and a sheet keeps the rule of the last one. Where
every source is a value the two are one utility. A layout that is settled already keeps its own
name, so several layouts may share a class; all other classes are still distinct, and none of them
is a class of such a layout. So look-up and sheet differ on a class exactly if the first and the
last layout that have it declare different things.
-/

namespace NamedGrid

namespace UtilitySet

/-- The static utilities of a class, in order. -/
def utilitiesOf (set : UtilitySet) (className : Text) : List Utility :=
  set.staticUtilities.filter fun u => u.className = className

/-- A look-up finds the first utility of a class. -/
theorem find?_eq_head? (set : UtilitySet) (className : Text) :
    set.find? className = (set.utilitiesOf className).head? := List.head?_filter.symm

/-- A sheet that has received a set has the rule of the last utility of a class. -/
theorem get?_receivedSheet (set : UtilitySet) (className : Text) :
    set.receivedSheet.rules.get? (selectorOf className) =
      (set.utilitiesOf className).getLast?.map fun u =>
        Body.ofProperties u.declaration.toTable := by
  have hselector : ∀ u : Utility, u.selector = selectorOf className ↔ u.className = className :=
    fun _ => ⟨fun h => (List.cons.inj h).2, congrArg selectorOf⟩
  rw [receivedSheet_eq, Utility.ruleTable, Table.ofList, Table.get?_insertAll, Table.get?_empty,
    Option.or_none, ← List.map_reverse, Table.valueOf?_eq_find?, List.find?_map, Option.map_map,
    utilitiesOf, List.getLast?_filter]
  simp only [Function.comp_def, hselector]

/-! ## Classes of layouts and others -/

/-- The layouts of a set that have a class, in order. -/
def layoutsWith (set : UtilitySet) (className : Text) : List Layout :=
  set.emittedLayouts.filter fun layout => joined layoutStem layout.name = className

/-- Behind the utilities of the layouts stand others, of distinct classes that no layout has. -/
theorem exists_others {set : UtilitySet} {layouts : List Layout}
    (hset : set = assemble layouts (layouts.map Layout.utility)) :
    ∃ others : List Utility,
      set.staticUtilities = set.emittedLayouts.map Layout.utility ++ others ∧
      (others.map Utility.className).Nodup ∧
      ∀ layout ∈ set.emittedLayouts,
        joined layoutStem layout.name ∉ others.map Utility.className := by
  subst hset
  obtain ⟨others, hothers⟩ : ∃ others,
      (assemble layouts (layouts.map Layout.utility)).staticUtilities =
        (assemble layouts (layouts.map Layout.utility)).emittedLayouts.map Layout.utility ++
          others := by
    rw [staticUtilities_assemble]
    simp only [List.append_assoc]
    exact ⟨_, rfl⟩
  have hemitted : ((assemble layouts (layouts.map Layout.utility)).emittedLayouts.map
      Layout.utility).map Utility.className =
      ((unreserved wideKeywords (layouts.map Layout.name)).map (layoutStem, ·)).map
        fun p => joined p.1 p.2 := by
    rw [unreserved, List.filter_map, List.map_map, List.map_map, List.map_map]
    rfl
  have hnames : others.map Utility.className =
      (staticParts [] (NamedGrid.areaNames (layouts.flatMap Layout.rows))).map
        fun p => joined p.1 p.2 := by
    have hall := classNames_assemble layouts
    rw [hothers, staticParts_eq_append, List.map_append, List.map_append, hemitted] at hall
    exact List.append_cancel_left hall
  -- One layout more would still have a class of its own.
  have hone : ∀ names : List Text, names.Nodup → ((staticParts names
      (NamedGrid.areaNames (layouts.flatMap Layout.rows))).map
        fun p => joined p.1 p.2).Nodup := fun names hn =>
    nodup_map_joined (fun _ => stem_mem_of_mem_staticParts)
      (nodup_staticParts hn (nodup_eraseDups _))
  refine ⟨others, hothers, hnames ▸ hone [] List.nodup_nil, fun layout hl => ?_⟩
  have hkeyword : layout.name ∉ wideKeywords := by
    simpa using (List.mem_filter.mp hl).2
  have hcons := hone [layout.name] (List.nodup_singleton _)
  have hsingle : unreserved wideKeywords [layout.name] = [layout.name] := by
    simp [unreserved, hkeyword]
  rw [staticParts_eq_append, hsingle] at hcons
  exact hnames ▸ (List.nodup_cons.mp hcons).1

/-- The first and the last utility of a class are those of the first and the last layout that
has it; without such a layout there is at most one utility. -/
theorem first_and_last {set : UtilitySet} {layouts : List Layout}
    (hset : set = assemble layouts (layouts.map Layout.utility)) (className : Text) :
    ((set.utilitiesOf className).head? = (set.layoutsWith className).head?.map Layout.utility ∧
        (set.utilitiesOf className).getLast? =
          (set.layoutsWith className).getLast?.map Layout.utility) ∨
      (set.layoutsWith className = [] ∧
        (set.utilitiesOf className).head? = (set.utilitiesOf className).getLast?) := by
  obtain ⟨others, hothers, hdistinct, happart⟩ := exists_others hset
  have hsplit : set.utilitiesOf className =
      (set.layoutsWith className).map Layout.utility ++
        others.filter fun u => u.className = className := by
    rw [utilitiesOf, hothers, List.filter_append, List.filter_map]
    rfl
  by_cases hnone : set.layoutsWith className = []
  · refine Or.inr ⟨hnone, head?_eq_getLast? ?_⟩
    rw [hsplit, hnone]
    exact length_filter_le_one hdistinct className
  · obtain ⟨layout, hl⟩ := List.exists_mem_of_ne_nil _ hnone
    obtain ⟨hl, hname⟩ := List.mem_filter.mp hl
    have hempty : (others.filter fun u => u.className = className) = [] := by
      rw [List.filter_eq_nil_iff]
      intro u hu hc
      have hmem := List.mem_map_of_mem (f := Utility.className) hu
      rw [of_decide_eq_true hc, ← of_decide_eq_true hname] at hmem
      exact happart layout hl hmem
    rw [hsplit, hempty, List.append_nil, List.head?_map, List.getLast?_map]
    exact Or.inl ⟨rfl, rfl⟩

end UtilitySet

/-! ## Declarations as tables -/

/-- Where no property is declared twice, the table reads as the declaration. -/
theorem Declaration.get?_toTable {d : Declaration} (h : (d.properties.map Prod.fst).Nodup)
    (property : Text) : d.toTable.get? property = d.get? property :=
  Table.get?_ofList h property

/-- No static class declares a property twice. -/
theorem StaticClass.nodup_properties {layouts : List Layout} {className : Text}
    {declaration : Declaration} (h : StaticClass layouts className declaration) :
    (declaration.properties.map Prod.fst).Nodup := by
  cases h with
  | @layout layout hl hk =>
    obtain ⟨name, rows, rowTracks, colTracks⟩ := layout
    rcases rowTracks with _ | _ | ⟨c, s⟩ <;> rcases colTracks with _ | _ | ⟨d, t⟩ <;>
      simp only [trackProperty, List.append_nil, List.cons_append, List.nil_append,
        List.map_cons, List.map_nil] <;> decide
  | layoutKeyword hk =>
    have hnames : ["display".toList, "grid-template-areas".toList].Nodup := by decide
    exact hnames
  | area ha hk => exact List.nodup_singleton _
  | areaKeyword hk => exact List.nodup_singleton _
  | start ha axis => exact List.nodup_singleton _
  | finish ha axis => exact List.nodup_singleton _
  | span ha axis => exact List.nodup_singleton _

namespace Layout

/-- What a layout declares for a template and for tracks. -/
theorem get?_declaration (layout : Layout) :
    layout.declaration.get? "grid-template-areas".toList =
        some (spaced (layout.rows.map shownRow)) ∧
      layout.declaration.get? "grid-template-rows".toList =
        (layout.rowTracks.filter fun t => !t.isEmpty) ∧
      layout.declaration.get? "grid-template-columns".toList =
        layout.colTracks.filter fun t => !t.isEmpty := by
  obtain ⟨name, rows, rowTracks, colTracks⟩ := layout
  rcases rowTracks with _ | _ | ⟨c, s⟩ <;> rcases colTracks with _ | _ | ⟨d, t⟩ <;>
    exact ⟨rfl, rfl, rfl⟩

/-- Layouts that give every property the same value declare the same. -/
theorem declaration_eq_iff (layout other : Layout) :
    layout.declaration = other.declaration ↔
      ∀ property, layout.declaration.get? property = other.declaration.get? property := by
  refine ⟨fun h property => by rw [h], fun h => ?_⟩
  obtain ⟨hareas, hrows, hcols⟩ := layout.get?_declaration
  obtain ⟨hareas', hrows', hcols'⟩ := other.get?_declaration
  rw [h] at hareas hrows hcols
  rw [← ofPairs_declaration, ← ofPairs_declaration, ← hareas, ← hrows, ← hcols, ← hareas',
    ← hrows', ← hcols']

end Layout

/-! ## Look-ups and sheets -/

/-- **When a look-up and a sheet agree on a class.** Both know the same classes. What a look-up
finds has for every property the value that the rule of the sheet has, exactly if the first and
the last layout that have the class, where there are any, declare the same. -/
theorem find?_agrees_with_sheet_iff {sources : LayoutSources} {set : UtilitySet}
    (h : UtilitySet.generate sources = .ok set) (className : Text) :
    ((set.find? className).isSome = true ↔
        selectorOf className ∈ set.receivedSheet.rules.keys) ∧
      ∀ u, set.find? className = some u → ∃ properties : Properties,
        set.receivedSheet.rules.get? (selectorOf className) =
          some (Body.ofProperties properties) ∧
        ((∀ property, u.declaration.get? property = properties.get? property) ↔
          (set.layoutsWith className).head?.map Layout.declaration =
            (set.layoutsWith className).getLast?.map Layout.declaration) := by
  obtain ⟨layouts, -, -, hset⟩ := UtilitySet.generate_eq_ok_iff.mp h
  rw [set.find?_eq_head?]
  constructor
  · rw [← Table.get?_isSome, set.get?_receivedSheet, Option.isSome_map, List.isSome_head?,
      List.getLast?_isSome]
  · intro u hu
    obtain ⟨v, hv⟩ : ∃ v, (set.utilitiesOf className).getLast? = some v := by
      rw [← Option.isSome_iff_exists, List.getLast?_isSome, ← List.isSome_head?, hu]
      rfl
    have hstatic : StaticClass layouts v.className v.declaration := by
      have hm := (List.mem_filter.mp (List.mem_of_getLast? hv)).1
      rw [hset] at hm
      exact UtilitySet.mem_staticUtilities_assemble.mp hm
    refine ⟨v.declaration.toTable, by rw [set.get?_receivedSheet, hv, Option.map_some], ?_⟩
    simp only [Declaration.get?_toTable hstatic.nodup_properties]
    rcases UtilitySet.first_and_last hset className with ⟨hfirst, hlast⟩ | ⟨hnone, hsame⟩
    · rw [hu] at hfirst
      rw [hv] at hlast
      obtain ⟨first, hf, rfl⟩ := Option.map_eq_some_iff.mp hfirst.symm
      obtain ⟨last, hl, rfl⟩ := Option.map_eq_some_iff.mp hlast.symm
      rw [hf, hl, Option.map_some, Option.map_some, Option.some_inj]
      exact (Layout.declaration_eq_iff first last).symm
    · rw [hu, hv] at hsame
      obtain rfl := Option.some.inj hsame
      simp only [hnone, implies_true, List.head?_nil, List.getLast?_nil]

/-- A layout of one row, and one that is settled under its name with another row. -/
def sharedNameSources (row : Text) : LayoutSources :=
  Table.ofList
    [("hero".toList, .raw (.list [.text "a b".toList])),
      ("side".toList, .settled ⟨"hero".toList, [row], some [], none⟩)]

/-- The class of the shared name. -/
def sharedClass : Text := "grid-areas-hero".toList

/-- Where the two rows have the same cells, look-up and sheet agree on the class, although two
utilities have it. -/
theorem find?_agrees_with_sheet_sharedCells :
    ∃ set, UtilitySet.generate (sharedNameSources "a  b ".toList) = .ok set ∧
      (set.utilitiesOf sharedClass).length = 2 ∧
      ∃ (u : Utility) (properties : Properties), set.find? sharedClass = some u ∧
        set.receivedSheet.rules.get? (selectorOf sharedClass) =
          some (Body.ofProperties properties) ∧
        ∀ property, u.declaration.get? property = properties.get? property := by
  obtain ⟨set, hset⟩ : ∃ set, UtilitySet.generate (sharedNameSources "a  b ".toList) = .ok set :=
    ⟨_, rfl⟩
  obtain ⟨-, hagree⟩ := find?_agrees_with_sheet_iff hset sharedClass
  obtain rfl := Except.ok.inj hset
  obtain ⟨properties, hrule, hiff⟩ := hagree _ rfl
  exact ⟨_, rfl, rfl, _, properties, rfl, hrule, hiff.mpr rfl⟩

/-- With other cells the look-up finds the template of the first layout, and the sheet has that
of the last. -/
theorem find?_disagrees_with_sheet :
    ∃ set, UtilitySet.generate (sharedNameSources "c".toList) = .ok set ∧
      (set.find? sharedClass).map Utility.declaration =
        some ⟨[("display".toList, "grid".toList),
          ("grid-template-areas".toList, "\"a b\"".toList)]⟩ ∧
      set.receivedSheet.rules.get? (selectorOf sharedClass) =
        some [.property "display".toList "grid".toList,
          .property "grid-template-areas".toList "\"c\"".toList] :=
  ⟨_, rfl, rfl, by with_unfolding_all rfl⟩

end NamedGrid
