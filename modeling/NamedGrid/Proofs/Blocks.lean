import NamedGrid.Proofs.Agreement
import NamedGrid.Proofs.Braces

/-!
# The rules of a build as blocks

Every rule of a build belongs to a static class or to a scanned one. So the names of its
properties are fixed, and its values are put together from cells, track sizes, keywords and
scanned values, none of which is escaped. The rule is therefore a block exactly if its values
close what they open (`build_rules_isBlock`), and all rules are blocks if nothing that comes
in has a brace, a double quote or a backslash.
-/

namespace NamedGrid

/-! ## The rules of a sheet -/

namespace Sheet

/-- A class that is resolved brings at most its own rule. -/
theorem mem_entries_resolve {sheet : Sheet} {c : BracketedClass} {rule : Text × Body}
    (h : rule ∈ (sheet.resolve c).2.rules.entries) :
    rule ∈ sheet.rules.entries ∨ rule.1 = c.selector ∧ sheet.body? c = some rule.2 := by
  unfold resolve at h
  split at h
  · exact Or.inl h
  · split at h
    · exact Or.inl h
    · rename_i resolver hr
      rcases Table.mem_entries_insert h with rfl | h
      · exact Or.inr ⟨rfl, by rw [body?, hr, Option.map_some]⟩
      · exact Or.inl h

theorem resolvers_resolve (sheet : Sheet) (c : BracketedClass) :
    (sheet.resolve c).2.resolvers = sheet.resolvers := by
  unfold resolve
  split
  · rfl
  · split <;> rfl

/-- A rule after a run of classes was there before or belongs to one of them. -/
theorem mem_entries_resolveAll {sheet : Sheet} {classes : List BracketedClass}
    {rule : Text × Body} (h : rule ∈ (sheet.resolveAll classes).rules.entries) :
    rule ∈ sheet.rules.entries ∨
      ∃ c ∈ classes, rule.1 = c.selector ∧ sheet.body? c = some rule.2 := by
  induction classes generalizing sheet with
  | nil => exact Or.inl h
  | cons c classes ih =>
    have hbody : ∀ d, (sheet.resolve c).2.body? d = sheet.body? d := by
      intro d
      rw [body?, body?, resolvers_resolve]
    rcases ih h with h | ⟨d, hd, hrule⟩
    · refine (mem_entries_resolve h).imp_right fun hrule => ?_
      exact ⟨c, List.mem_cons_self, hrule⟩
    · rw [hbody] at hrule
      exact Or.inr ⟨d, List.mem_cons_of_mem c hd, hrule⟩

end Sheet

namespace UtilitySet

/-- What a bracketed class declares has one of three shapes. -/
theorem resolve_cases {set : UtilitySet} (h : set.families = resolverFamilies)
    {stem value : Text} {declaration : Declaration}
    (hd : set.resolve stem value = some declaration) :
    declaration = resolveAreas value ∨ declaration = resolvePlacement value ∨
      ∃ axis : Axis, ∃ edge ∈ ["start".toList, "end".toList],
        declaration = .single (joined axis.property edge) value := by
  obtain ⟨resolver, hr, rfl⟩ := Option.map_eq_some_iff.mp hd
  rw [resolver?, ← Table.valueOf?_flatMap, h] at hr
  have hm := Table.mem_of_valueOf?_eq_some hr
  simp only [resolverFamilies, lineResolvers, List.flatMap_cons, List.flatMap_nil,
    List.map_cons, List.map_nil, List.cons_append, List.nil_append, List.mem_cons,
    Prod.mk.injEq, List.not_mem_nil, or_false] at hm
  rcases hm with ⟨-, rfl⟩ | ⟨-, rfl⟩ | ⟨-, rfl⟩ | ⟨-, rfl⟩ | ⟨-, rfl⟩ | ⟨-, rfl⟩
  · exact Or.inl rfl
  · exact Or.inr (Or.inl rfl)
  · exact Or.inr (Or.inr ⟨.row, "start".toList, by decide, rfl⟩)
  · exact Or.inr (Or.inr ⟨.row, "end".toList, by decide, rfl⟩)
  · exact Or.inr (Or.inr ⟨.col, "start".toList, by decide, rfl⟩)
  · exact Or.inr (Or.inr ⟨.col, "end".toList, by decide, rfl⟩)

/-- Every rule of a sheet belongs to a static utility or to a scanned class. -/
theorem mem_entries_sheetOn {set : UtilitySet} (h : set.families = resolverFamilies)
    {texts : List Text} {rule : Text × Body} (hr : rule ∈ (set.sheetOn texts).rules.entries) :
    ∃ className declaration,
      rule = (selectorOf className, Body.ofProperties declaration.toTable) ∧
      ((⟨className, declaration⟩ : Utility) ∈ set.staticUtilities ∨
        ∃ c ∈ texts.flatMap bracketedClasses, className = c.className ∧
          set.resolve c.stem c.value = some declaration) := by
  rw [sheetOn, Sheet.foldl_scan] at hr
  rcases Sheet.mem_entries_resolveAll hr with hr | ⟨c, hc, hselector, hbody⟩
  · rw [receivedSheet_eq] at hr
    obtain ⟨u, hu, rfl⟩ := List.mem_map.mp (Table.mem_of_mem_entries_ofList hr)
    exact ⟨u.className, u.declaration, rfl, Or.inl hu⟩
  · rw [Sheet.body?, get?_resolvers_receivedSheet h] at hbody
    cases hresolver : set.resolver? c.stem with
    | none =>
      rw [hresolver] at hbody
      cases hbody
    | some resolver =>
      rw [hresolver] at hbody
      have hbody := Option.some.inj hbody
      refine ⟨c.className, resolver c.value, Prod.ext hselector hbody.symm,
        Or.inr ⟨c, hc, rfl, ?_⟩⟩
      rw [resolve, hresolver, Option.map_some]

end UtilitySet

/-! ## What is declared -/

/-- A track property is there for the size that it gives. -/
theorem mem_trackProperty {property : Text} {size : Option Text} {p : Text × Text}
    (h : p ∈ trackProperty property size) : p.1 = property ∧ p.2 ∈ size := by
  rcases size with _ | _ | ⟨c, size⟩
  · cases h
  · cases h
  · obtain rfl := List.mem_singleton.mp h
    exact ⟨rfl, rfl⟩

/-- The names of all properties that are declared. -/
def propertyNames : List Text :=
  ["display".toList, "grid-template-areas".toList, "grid-template-rows".toList,
    "grid-template-columns".toList, "grid-area".toList] ++
    [Axis.row, Axis.col].flatMap fun axis =>
      [axis.property, axis.property ++ "-start".toList, axis.property ++ "-end".toList]

theorem mem_propertyNames : "display".toList ∈ propertyNames ∧
    "grid-template-areas".toList ∈ propertyNames ∧ "grid-area".toList ∈ propertyNames := by decide

theorem mem_propertyNames_axis (axis : Axis) :
    axis.property ∈ propertyNames ∧ axis.property ++ "-start".toList ∈ propertyNames ∧
      axis.property ++ "-end".toList ∈ propertyNames := by
  cases axis <;> decide

/-- What a static class of layouts gives to a property. -/
inductive StaticValue (layouts : List Layout) : Text → Prop
  | grid : StaticValue layouts "grid".toList
  | template {layout : Layout} (h : layout ∈ layouts) :
      StaticValue layouts (spaced (layout.rows.map shownRow))
  | rowTracks {layout : Layout} (h : layout ∈ layouts) {size : Text}
      (hs : size ∈ layout.rowTracks) : StaticValue layouts size
  | colTracks {layout : Layout} (h : layout ∈ layouts) {size : Text}
      (hs : size ∈ layout.colTracks) : StaticValue layouts size
  | keyword {keyword : Text} (h : keyword ∈ areaKeywords) : StaticValue layouts keyword
  | area {area : Text} (h : IsArea layouts area) : StaticValue layouts area
  | start {area : Text} (h : IsArea layouts area) :
      StaticValue layouts (area ++ "-start".toList)
  | finish {area : Text} (h : IsArea layouts area) :
      StaticValue layouts (area ++ "-end".toList)
  | span {area : Text} (h : IsArea layouts area) :
      StaticValue layouts (area ++ "-start / ".toList ++ area ++ "-end".toList)

/-- Every property of a static class has one of the names and one of the values. -/
theorem StaticClass.mem_properties {layouts : List Layout} {className : Text}
    {declaration : Declaration} (h : StaticClass layouts className declaration) :
    ∀ p ∈ declaration.properties, p.1 ∈ propertyNames ∧ StaticValue layouts p.2 := by
  obtain ⟨hdisplay, htemplate, harea⟩ := mem_propertyNames
  cases h with
  | @layout layout hl hk =>
    simp only [List.forall_mem_append, List.forall_mem_cons, List.not_mem_nil, false_implies,
      implies_true, and_true]
    refine ⟨⟨⟨⟨hdisplay, .grid⟩, htemplate, .template hl⟩, fun p hp => ?_⟩, fun p hp => ?_⟩
    · obtain ⟨hname, hsize⟩ := mem_trackProperty hp
      exact ⟨hname ▸ by decide, .rowTracks hl hsize⟩
    · obtain ⟨hname, hsize⟩ := mem_trackProperty hp
      exact ⟨hname ▸ by decide, .colTracks hl hsize⟩
  | layoutKeyword hk =>
    rw [List.forall_mem_cons, List.forall_mem_singleton]
    exact ⟨⟨hdisplay, .grid⟩, htemplate, .keyword (List.mem_cons_of_mem _ hk)⟩
  | area ha hk =>
    rw [List.forall_mem_singleton]
    exact ⟨harea, .area ha⟩
  | areaKeyword hk =>
    rw [List.forall_mem_singleton]
    exact ⟨harea, .keyword hk⟩
  | start ha axis =>
    rw [List.forall_mem_singleton]
    exact ⟨(mem_propertyNames_axis axis).2.1, .start ha⟩
  | finish ha axis =>
    rw [List.forall_mem_singleton]
    exact ⟨(mem_propertyNames_axis axis).2.2, .finish ha⟩
  | span ha axis =>
    rw [List.forall_mem_singleton]
    exact ⟨(mem_propertyNames_axis axis).1, .span ha⟩

/-- Every property that a bracketed class declares has one of the names, and as value a word, the
value in brackets, or what the shorthands make of it. -/
theorem UtilitySet.mem_properties_of_resolve {set : UtilitySet}
    (h : set.families = resolverFamilies) {stem value : Text} {declaration : Declaration}
    (hd : set.resolve stem value = some declaration) :
    ∀ p ∈ declaration.properties, p.1 ∈ propertyNames ∧
      (p.2 = "grid".toList ∨ p.2 = shorthandAreas value ∨ p.2 = withSpaces value ∨
        p.2 = value) := by
  have haxis : ∀ axis : Axis, ∀ edge ∈ ["start".toList, "end".toList],
      joined axis.property edge ∈ propertyNames := by
    intro axis
    cases axis <;> decide
  obtain ⟨hdisplay, htemplate, harea⟩ := mem_propertyNames
  rcases UtilitySet.resolve_cases h hd with rfl | rfl | ⟨axis, edge, hedge, rfl⟩
  · rw [resolveAreas, List.forall_mem_cons, List.forall_mem_singleton]
    exact ⟨⟨hdisplay, Or.inl rfl⟩, htemplate, Or.inr (Or.inl rfl)⟩
  · rw [resolvePlacement, Declaration.single, List.forall_mem_singleton]
    exact ⟨harea, Or.inr (Or.inr (Or.inl rfl))⟩
  · rw [Declaration.single, List.forall_mem_singleton]
    exact ⟨haxis axis edge hedge, Or.inr (Or.inr (Or.inr rfl))⟩

/-! ## What comes in as it stands -/

/-- What layouts and classes write into a stylesheet as it stands is neutral: the cells, the
track sizes, the values in brackets, and the names of layouts that have a space. -/
structure IsPlainInput (layouts : List Layout) (classes : List BracketedClass) : Prop where
  name : ∀ layout ∈ layouts, ' ' ∈ layout.name → IsNeutral layout.name
  cell : ∀ layout ∈ layouts, ∀ row ∈ layout.rows, ∀ cell ∈ cells row, IsNeutral cell
  rowTracks : ∀ layout ∈ layouts, ∀ size ∈ layout.rowTracks, IsNeutral size
  colTracks : ∀ layout ∈ layouts, ∀ size ∈ layout.colTracks, IsNeutral size
  value : ∀ c ∈ classes, IsNeutral c.value

/-- A part of a neutral text is neutral. -/
theorem IsNeutral.of_subset {s t : Text} (ht : IsNeutral t) (h : s ⊆ t) : IsNeutral s :=
  fun c hc => ht c (h hc)

/-- In quotation marks a neutral text is inner. -/
theorem IsNeutral.isInner_inQuotes {s : Text} (h : IsNeutral s) : IsInner (inQuotes s) := by
  refine NamedGrid.isInner_inQuotes fun c hc => ?_
  have hneutral := h c hc
  simp only [isNeutral, Bool.and_eq_true, bne_iff_ne] at hneutral
  exact ⟨hneutral.1.2, hneutral.2⟩

/-- Neutral texts that are joined by single spaces are neutral. -/
theorem isNeutral_spaced {parts : List Text} (h : ∀ s ∈ parts, IsNeutral s) :
    IsNeutral (spaced parts) := by
  intro c hc
  by_cases hspace : c = ' '
  · rw [hspace]
    decide
  · obtain ⟨s, hs, hc⟩ := exists_mem_of_mem_intercalate hspace hc
    exact h s hs c hc

/-- A neutral value stays neutral when its low lines become spaces. -/
theorem isNeutral_withSpaces {value : Text} (h : IsNeutral value) :
    IsNeutral (withSpaces value) := by
  intro c hc
  obtain ⟨d, hd, rfl⟩ := List.mem_map.mp hc
  split
  · decide
  · exact h d hd

/-- The template that a neutral value describes is inner. -/
theorem isInner_shorthandAreas {value : Text} (h : IsNeutral value) :
    IsInner (shorthandAreas value) := by
  rw [shorthandAreas]
  split
  · exact (h.of_subset (Text.infix_trim value).subset).isInner
  · refine isInner_spaced fun shown hshown => ?_
    obtain ⟨row, hrow, rfl⟩ := List.mem_map.mp hshown
    have hneutral : IsNeutral (withSpaces row).trim := by
      have hjoined : [','].intercalate (value.splitOn ',') = value :=
        List.intercalate_splitOn ','
      have hvalue : row ⊆ value := hjoined ▸ subset_intercalate [','] hrow
      exact (isNeutral_withSpaces (h.of_subset hvalue)).of_subset (Text.infix_trim _).subset
    rw [shorthandRow]
    split
    · exact hneutral.isInner
    · exact hneutral.isInner_inQuotes

/-- The name of the property is neutral, and of plain input its value closes what it opens. -/
def IsWritable (layouts : List Layout) (classes : List BracketedClass) (p : Text × Text) : Prop :=
  IsNeutral p.1 ∧ (IsPlainInput layouts classes → IsInner p.2)

variable {layouts : List Layout} {classes : List BracketedClass}

theorem isNeutral_of_mem_propertyNames : ∀ name ∈ propertyNames, IsNeutral name := by decide

/-- What plain input gives to a property of a static class closes what it opens. -/
theorem StaticValue.isInner {value : Text} (h : StaticValue layouts value)
    (hplain : IsPlainInput layouts classes) : IsInner value := by
  have hkeyword : ∀ keyword ∈ areaKeywords, IsNeutral keyword := by decide
  have harea : ∀ {area : Text}, IsArea layouts area → IsNeutral area := by
    rintro area ⟨⟨layout, hl, row, hrow, hcell⟩, -⟩
    exact hplain.cell layout hl row hrow area hcell
  cases h with
  | grid => exact IsNeutral.isInner (by decide)
  | @template layout hl =>
    refine isInner_spaced fun shown hshown => ?_
    obtain ⟨row, hrow, rfl⟩ := List.mem_map.mp hshown
    exact (isNeutral_spaced (hplain.cell layout hl row hrow)).isInner_inQuotes
  | @rowTracks layout hl _ hs => exact (hplain.rowTracks layout hl value hs).isInner
  | @colTracks layout hl _ hs => exact (hplain.colTracks layout hl value hs).isInner
  | keyword hk => exact (hkeyword value hk).isInner
  | area ha => exact (harea ha).isInner
  | start ha => exact (isNeutral_append.mpr ⟨harea ha, by decide⟩).isInner
  | finish ha => exact (isNeutral_append.mpr ⟨harea ha, by decide⟩).isInner
  | span ha =>
    have hname := harea ha
    have hstart : IsNeutral "-start / ".toList := by decide
    exact (isNeutral_append.mpr ⟨isNeutral_append.mpr
      ⟨isNeutral_append.mpr ⟨hname, hstart⟩, hname⟩, by decide⟩).isInner

/-- Every property of a static class can be written. -/
theorem StaticClass.isWritable {className : Text} {declaration : Declaration}
    (h : StaticClass layouts className declaration) :
    ∀ p ∈ declaration.properties, IsWritable layouts classes p := by
  intro p hp
  obtain ⟨hname, hvalue⟩ := h.mem_properties p hp
  exact ⟨isNeutral_of_mem_propertyNames p.1 hname, hvalue.isInner⟩

/-- Every property that a class of the input declares in brackets can be written. -/
theorem UtilitySet.isWritable_of_resolve {set : UtilitySet} (h : set.families = resolverFamilies)
    {c : BracketedClass} (hc : c ∈ classes) {declaration : Declaration}
    (hd : set.resolve c.stem c.value = some declaration) :
    ∀ p ∈ declaration.properties, IsWritable layouts classes p := by
  intro p hp
  obtain ⟨hname, hvalue⟩ := mem_properties_of_resolve h hd p hp
  refine ⟨isNeutral_of_mem_propertyNames p.1 hname, fun hplain => ?_⟩
  have hplain := hplain.value c hc
  rcases hvalue with hvalue | hvalue | hvalue | hvalue
  · rw [hvalue]
    exact IsNeutral.isInner (by decide)
  · rw [hvalue]
    exact isInner_shorthandAreas hplain
  · rw [hvalue]
    exact (isNeutral_withSpaces hplain).isInner
  · rw [hvalue]
    exact hplain.isInner

/-- Only the name of a layout brings a space into a static class. -/
theorem StaticClass.exists_layout_of_space {className : Text} {declaration : Declaration}
    (h : StaticClass layouts className declaration) (hspace : ' ' ∈ className) :
    ∃ layout ∈ layouts, className = joined layoutStem layout.name ∧ ' ' ∈ layout.name := by
  have hwide : ∀ keyword ∈ wideKeywords, ' ' ∉ keyword := by decide
  have hkeyword : ∀ keyword ∈ areaKeywords, ' ' ∉ keyword := by decide
  have harea : ∀ {area : Text}, IsArea layouts area → ' ' ∉ area := by
    rintro area ⟨⟨layout, hl, row, hrow, hcell⟩, -⟩ hmem
    exact absurd (Text.isBlank_of_mem_words row area hcell ' ' hmem) (by decide)
  rcases UtilitySet.exists_staticClass_iff.mp ⟨declaration, h⟩ with
    ⟨name, hname, rfl⟩ | ⟨area, hname, rfl⟩ | ⟨area, hname, axis, haxis, edge, hedge, rfl⟩
  · have hspace : ' ' ∈ name :=
      (List.mem_append.mp hspace).resolve_left (by decide)
    obtain ⟨layout, hl, rfl⟩ := List.mem_map.mp
      (hname.resolve_right fun hk => hwide name hk hspace)
    exact ⟨layout, hl, rfl, hspace⟩
  · have hspace : ' ' ∈ area := (List.mem_append.mp hspace).resolve_left (by decide)
    exact absurd hspace (hname.elim harea (hkeyword area))
  · have hlead : ∀ axis ∈ ["row".toList, "col".toList],
        ∀ edge ∈ ["start".toList, "end".toList, "span".toList],
          ' ' ∉ axis ++ "-".toList ++ edge ++ "-".toList := by decide
    exact absurd ((List.mem_append.mp hspace).resolve_left (hlead axis haxis edge hedge))
      (harea hname)

/-- No space stands in a scanned class. -/
theorem space_notMem_className {markup : Text} {c : BracketedClass}
    (h : c ∈ bracketedClasses markup) : ' ' ∉ c.className := by
  have hlead : ∀ stem ∈ bracketStems, ' ' ∉ stem ++ opening := by decide
  intro hspace
  rw [BracketedClass.className, List.mem_append, List.mem_append] at hspace
  rcases hspace with (hspace | hspace) | hspace
  · exact hlead c.stem (stem_mem_of_mem_bracketedClasses h) hspace
  · exact absurd (isBlank_of_mem_value h ' ' hspace) (by decide)
  · exact absurd hspace (by decide)

/-! ## The rules of a build -/

/-- A rule of properties that can be written is a block exactly if its values close what they
open. -/
theorem isBlock_iff_of_isWritable {className : Text} {declaration : Declaration}
    (h : ∀ p ∈ declaration.properties, IsWritable layouts classes p)
    (hflat : ' ' ∈ selectorOf className → IsFlat (selectorOf className)) :
    IsBlock (renderRule (selectorOf className) (Body.ofProperties declaration.toTable)) ↔
      IsInner (terminated declaration.toTable.values) :=
  isBlock_renderRule_iff (isFlat_writtenSelector hflat) fun p hp =>
    (h p (Table.mem_of_mem_entries_ofList hp)).1

/-- The values of properties that can be written close what they open, if the input is plain. -/
theorem isInner_values {declaration : Declaration}
    (h : ∀ p ∈ declaration.properties, IsWritable layouts classes p)
    (hplain : IsPlainInput layouts classes) :
    IsInner (terminated declaration.toTable.values) := by
  refine isInner_terminated fun v hv => ?_
  obtain ⟨p, hp, rfl⟩ := List.mem_map.mp hv
  exact (h p (Table.mem_of_mem_entries_ofList hp)).2 hplain

/-- Every rule of a generated set and of any texts holds properties that can be written, and
only the name of a layout brings a space into its selector. -/
theorem UtilitySet.rule_cases {sources : LayoutSources} {set : UtilitySet}
    (h : generate sources = .ok set) {texts : List Text} {rule : Text × Body}
    (hr : rule ∈ (set.sheetOn texts).rules.entries) :
    ∃ (className : Text) (declaration : Declaration),
      rule = (selectorOf className, Body.ofProperties declaration.toTable) ∧
      (∀ p ∈ declaration.properties,
        IsWritable set.layouts (texts.flatMap bracketedClasses) p) ∧
      (' ' ∈ className →
        ∃ layout ∈ set.layouts, className = joined layoutStem layout.name ∧ ' ' ∈ layout.name) := by
  have hfamilies := families_of_generate h
  obtain ⟨layouts, -, -, rfl⟩ := generate_eq_ok_iff.mp h
  obtain ⟨className, declaration, rfl, hsource⟩ := mem_entries_sheetOn hfamilies hr
  refine ⟨className, declaration, rfl, ?_⟩
  rcases hsource with hu | ⟨c, hc, rfl, hd⟩
  · have hstatic := mem_staticUtilities_assemble.mp hu
    exact ⟨hstatic.isWritable, hstatic.exists_layout_of_space⟩
  · obtain ⟨text, -, htext⟩ := List.mem_flatMap.mp hc
    exact ⟨isWritable_of_resolve hfamilies hc hd,
      fun hspace => absurd hspace (space_notMem_className htext)⟩

/-- **What keeps a rule from being a block are its values**, which stand in it as they come in.
A build deposits rules of properties, and each is a block exactly if its values, read with
their semicolons, close what they open and nothing else. Only the name of a layout can bring a
space into a selector, which then is not escaped and has to be flat itself. If no cell, track
size, value in brackets or such name has a brace, a double quote or a backslash, all rules are
blocks. -/
theorem build_rules_isBlock {session : Session} {output : Option Path}
    {content : Option (List Text)} {report : BuildReport} {warnings : List Text}
    (hr : session.registry.Reachable)
    (h : (session.build output content).result = .ok (.report report warnings)) :
    ∃ (generation : Generation) (files : List Path) (rules : RuleTable),
      session.generate.result = .ok (.ok generation) ∧
      session.contentFiles (content.getD session.settings.build.content) = .ok files ∧
      rules = (generation.set.sheetOn (files.map session.contentText)).rules ∧
      (session.deposit rules.render output).2 = .ok report.destination ∧
      (∀ rule ∈ rules.entries,
        (' ' ∈ rule.1 → ∃ layout ∈ generation.set.layouts,
          rule.1 = ".grid-areas-".toList ++ layout.name) ∧
        ∃ properties : Properties, rule.2 = Body.ofProperties properties ∧
          ((' ' ∈ rule.1 → IsFlat rule.1) →
            (IsBlock (renderRule rule.1 rule.2) ↔ IsInner (terminated properties.values)))) ∧
      (IsPlainInput generation.set.layouts
          ((files.map session.contentText).flatMap bracketedClasses) →
        ∀ rule ∈ rules.entries, IsBlock (renderRule rule.1 rule.2)) := by
  obtain ⟨generation, files, hg, hfiles, hdeposit, -⟩ := Session.of_result_build hr.sound h
  obtain ⟨-, collected, -, hset, -⟩ := Session.generate_eq_ok_iff.mp hg
  have hspaced : ∀ {className : Text}, ' ' ∈ selectorOf className → ' ' ∈ className := by
    intro className hspace
    exact (List.mem_cons.mp hspace).resolve_left (by decide)
  refine ⟨generation, files, _, hg, hfiles, rfl, hdeposit, fun rule hrule => ?_,
    fun hplain rule hrule => ?_⟩
  · obtain ⟨className, declaration, rfl, hwritable, hspace⟩ := UtilitySet.rule_cases hset hrule
    refine ⟨fun hs => ?_, declaration.toTable, rfl, isBlock_iff_of_isWritable hwritable⟩
    obtain ⟨layout, hl, rfl, -⟩ := hspace (hspaced hs)
    exact ⟨layout, hl, rfl⟩
  · obtain ⟨className, declaration, rfl, hwritable, hspace⟩ := UtilitySet.rule_cases hset hrule
    have hflat : ' ' ∈ selectorOf className → IsFlat (selectorOf className) := by
      intro hs
      obtain ⟨layout, hl, rfl, hname⟩ := hspace (hspaced hs)
      have hlead : IsNeutral ".grid-areas-".toList := by decide
      exact (isNeutral_append.mpr ⟨hlead, hplain.name layout hl hname⟩).isFlat
    exact (isBlock_iff_of_isWritable hwritable hflat).mpr (isInner_values hwritable hplain)

/-- Markup with a class whose value shows a row and a reference. -/
def rowsMarkup : Text := "<b class=\"grid-areas-[a_b,var(--c)]\">".toList

/-- A page with that markup and with two areas. -/
def rowsPage : Session := pageSession ["head main".toList] .empty rowsMarkup

/-- All rules of the page are blocks. -/
theorem build_rules_isBlock_rowsPage :
    ∃ generation report, rowsPage.generate.result = .ok (.ok generation) ∧
      (rowsPage.build none none).result = .ok (.report report generation.warnings) ∧
      ∀ rule ∈ (generation.set.sheetOn [rowsMarkup]).rules.entries,
        IsBlock (renderRule rule.1 rule.2) := by
  obtain ⟨generation, hg, hcheck⟩ := rowsPage.exists_generation
    (fun generation => generation.set.layouts ==
      [⟨"page".toList, ["head main".toList], none, none⟩]) (by decide +kernel)
  have hlayouts := beq_iff_eq.mp hcheck
  have hfiles : rowsPage.contentFiles
      ((none : Option (List Text)).getD rowsPage.settings.build.content) =
      .ok [Path.ofText "/p.html".toList] := by decide +kernel
  have htexts : [Path.ofText "/p.html".toList].map rowsPage.contentText = [rowsMarkup] := by
    decide +kernel
  have hclasses : [rowsMarkup].flatMap bracketedClasses =
      [⟨"grid-areas".toList, "a_b,var(--c)".toList⟩] := by decide +kernel
  have hbuild := Session.result_build_none Registry.Reachable.empty.sound hg (by decide +kernel)
    (by decide +kernel) hfiles
  obtain ⟨generation', files, rules, hg', hfiles', rfl, -, -, hall⟩ :=
    build_rules_isBlock Registry.Reachable.empty hbuild
  obtain rfl := Session.generation_unique hg hg'
  obtain rfl := Except.ok.inj (hfiles.symm.trans hfiles')
  rw [htexts, hlayouts, hclasses] at hall
  have hplain : IsPlainInput [⟨"page".toList, ["head main".toList], none, none⟩]
      [⟨"grid-areas".toList, "a_b,var(--c)".toList⟩] :=
    ⟨by decide, by decide, by decide, by decide, by decide⟩
  exact ⟨generation, _, hg, hbuild, hall hplain⟩

/-- Markup with a class whose value closes a brace. -/
def braceMarkup : Text := "<b class=row-start-[\x7d]>".toList

/-- A page with that markup and with a layout whose name has a space and opens a brace. -/
def bracePage : Session :=
  let page := pageSession [] .empty braceMarkup
  { page with
    settings :=
      { page.settings with
        layouts := Table.ofList [("a \x7b".toList, .rows ["x".toList])] } }

/-- What does not end as it starts is no block. -/
theorem not_isBlock_of_run {s : Text} (h : (Reading.outside 0).run s ≠ .outside 0) : ¬IsBlock s :=
  fun ⟨_, _, _, _, _, hend⟩ => h hend

/-- A value and the name of a layout each keep a rule of the page from being a block. -/
theorem build_rules_not_isBlock :
    ∃ generation report, bracePage.generate.result = .ok (.ok generation) ∧
      (bracePage.build none none).result = .ok (.report report generation.warnings) ∧
      report.destination = .report (generation.set.sheetOn [braceMarkup]).rules.render ∧
      ∀ selector ∈ [".row-start-[\x7d]".toList, ".grid-areas-a \x7b".toList],
        ∃ rule ∈ (generation.set.sheetOn [braceMarkup]).rules.entries,
          rule.1 = selector ∧ ¬IsBlock (renderRule rule.1 rule.2) := by
  obtain ⟨generation, hg, hcheck⟩ := bracePage.exists_generation
    (fun generation => [".row-start-[\x7d]".toList, ".grid-areas-a \x7b".toList].all fun selector =>
      (generation.set.sheetOn [braceMarkup]).rules.entries.any fun rule =>
        rule.1 == selector &&
          (Reading.outside 0).run (renderRule rule.1 rule.2) != .outside 0) (by decide +kernel)
  have hfiles : bracePage.contentFiles
      ((none : Option (List Text)).getD bracePage.settings.build.content) =
      .ok [Path.ofText "/p.html".toList] := by decide +kernel
  have htexts : [Path.ofText "/p.html".toList].map bracePage.contentText = [braceMarkup] := by
    decide +kernel
  have hbuild := Session.result_build_none Registry.Reachable.empty.sound hg (by decide +kernel)
    (by decide +kernel) hfiles
  rw [htexts] at hbuild
  refine ⟨generation, _, hg, hbuild, rfl, fun selector hselector => ?_⟩
  obtain ⟨rule, hrule, hcheck⟩ :=
    List.any_eq_true.mp (List.all_eq_true.mp hcheck selector hselector)
  rw [Bool.and_eq_true, beq_iff_eq, bne_iff_ne] at hcheck
  exact ⟨rule, hrule, hcheck.1, not_isBlock_of_run hcheck.2⟩

end NamedGrid
