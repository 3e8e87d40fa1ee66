import NamedGrid.Proofs.Blocks
import NamedGrid.Proofs.Contributions

/-!
# Reserved words win

The class of a reserved word has the rule of the word in every sheet. Layouts and areas that are
named like one give no class of that name, the other families have other stems, and a scanned
class ends with a bracket, as no reserved word does. So nothing that is written later takes the
place of the rule, and what is left out is what the warnings tell.
-/

namespace NamedGrid

/-! ## Classes of reserved words -/

namespace StaticClass

variable {layouts : List Layout} {className : Text} {declaration : Declaration}

/-- A static class as a stem and a name: the name is that of a layout, a keyword, or what is
placed, or the stem is that of a line. -/
theorem exists_joined (h : StaticClass layouts className declaration) :
    (∃ name, name ∉ wideKeywords ∧ className = joined layoutStem name) ∨
      (∃ keyword, className = joined layoutStem keyword ∧
        declaration = (keywordLayoutUtility keyword).declaration) ∨
      (∃ name, className = joined areaStem name ∧
        declaration = (placementUtility name).declaration) ∨
      ∃ stem ∈ lineStems, ∃ area, className = joined stem area := by
  have hline : ∀ axis : Axis, axis.stem ++ "-start".toList ∈ lineStems ∧
      axis.stem ++ "-end".toList ∈ lineStems ∧ axis.stem ++ "-span".toList ∈ lineStems := by
    intro axis
    cases axis <;> decide
  cases h with
  | @layout layout hl hk => exact Or.inl ⟨layout.name, hk, rfl⟩
  | @layoutKeyword keyword hk => exact Or.inr (Or.inl ⟨keyword, rfl, rfl⟩)
  | @area area ha hk => exact Or.inr (Or.inr (Or.inl ⟨area, rfl, rfl⟩))
  | @areaKeyword keyword hk => exact Or.inr (Or.inr (Or.inl ⟨keyword, rfl, rfl⟩))
  | @start area ha axis =>
    refine Or.inr (Or.inr (Or.inr ⟨_, (hline axis).1, area, ?_⟩))
    cases axis <;> rfl
  | @finish area ha axis =>
    refine Or.inr (Or.inr (Or.inr ⟨_, (hline axis).2.1, area, ?_⟩))
    cases axis <;> rfl
  | @span area ha axis =>
    refine Or.inr (Or.inr (Or.inr ⟨_, (hline axis).2.2, area, ?_⟩))
    cases axis <;> rfl

/-- No layout takes the class of a keyword. -/
theorem eq_keywordLayout {keyword : Text} (hk : keyword ∈ wideKeywords)
    (h : StaticClass layouts (joined layoutStem keyword) declaration) :
    declaration = (keywordLayoutUtility keyword).declaration := by
  have hstem : layoutStem ∈ staticStems := by decide
  rcases h.exists_joined with ⟨name, hname, he⟩ | ⟨other, he, rfl⟩ | ⟨name, he, -⟩ |
    ⟨stem, hline, area, he⟩
  · exact absurd ((joined_inj hstem hstem he).2 ▸ hk) hname
  · rw [(joined_inj hstem hstem he).2]
  · exact absurd (joined_inj hstem (by decide) he).1 (by decide)
  · have hlayout : layoutStem ∉ lineStems := by decide
    exact absurd ((joined_inj hstem (mem_staticStems_of_mem_lineStems hline) he).1 ▸ hline) hlayout

/-- A placement class places by its name, whether that is an area or a keyword. -/
theorem eq_placement {name : Text} (h : StaticClass layouts (joined areaStem name) declaration) :
    declaration = (placementUtility name).declaration := by
  have hstem : areaStem ∈ staticStems := by decide
  rcases h.exists_joined with ⟨other, -, he⟩ | ⟨other, he, -⟩ | ⟨other, he, rfl⟩ |
    ⟨stem, hline, area, he⟩
  · exact absurd (joined_inj hstem (by decide) he).1 (by decide)
  · exact absurd (joined_inj hstem (by decide) he).1 (by decide)
  · rw [(joined_inj hstem hstem he).2]
  · have harea : areaStem ∉ lineStems := by decide
    exact absurd ((joined_inj hstem (mem_staticStems_of_mem_lineStems hline) he).1 ▸ hline) harea

end StaticClass

/-! ## Rules that stay -/

namespace UtilitySet

variable {sources : LayoutSources} {set : UtilitySet}

/-- A static class that is declared in one way only, and that no bracket ends, has one rule, and
this keeps its body whatever is scanned. -/
theorem rule_of_staticClass (h : generate sources = .ok set) {className : Text}
    {declaration : Declaration} (hstatic : StaticClass set.layouts className declaration)
    (honly : ∀ other, StaticClass set.layouts className other → other = declaration)
    (hend : className.getLast? ≠ some ']') (texts : List Text) :
    (set.sheetOn texts).rules.keys.count (selectorOf className) = 1 ∧
      (set.sheetOn texts).rules.get? (selectorOf className) =
        some (Body.ofProperties declaration.toTable) := by
  have hfamilies := families_of_generate h
  obtain ⟨layouts, -, -, rfl⟩ := generate_eq_ok_iff.mp h
  have hkey : selectorOf className ∈
      ((assemble layouts (layouts.map Layout.utility)).sheetOn texts).rules.keys := by
    rw [(sheetOn_spec hfamilies texts).1, List.mem_eraseDups]
    exact List.mem_append_left _ (List.mem_map_of_mem (mem_staticUtilities_assemble.mpr hstatic))
  refine ⟨List.count_eq_one_of_mem (Table.nodup _) hkey, ?_⟩
  obtain ⟨body, hbody⟩ := Option.isSome_iff_exists.mp ((Table.get?_isSome _ _).mpr hkey)
  obtain ⟨name, other, he, hsource⟩ :=
    mem_entries_sheetOn hfamilies (Table.mem_of_valueOf?_eq_some hbody)
  obtain ⟨hname, rfl⟩ := Prod.mk.inj he
  obtain rfl := (List.cons.inj hname).2
  rcases hsource with hu | ⟨c, -, hclass, -⟩
  · rw [hbody, honly other (mem_staticUtilities_assemble.mp hu)]
  · exact absurd hclass (BracketedClass.className_ne hend)

/-- In every sheet each keyword of a template has one rule, which shows a grid. -/
theorem rule_of_wideKeyword (h : generate sources = .ok set) {keyword : Text}
    (hk : keyword ∈ wideKeywords) (texts : List Text) :
    (set.sheetOn texts).rules.keys.count (".grid-areas-".toList ++ keyword) = 1 ∧
      (set.sheetOn texts).rules.get? (".grid-areas-".toList ++ keyword) =
        some [.property "display".toList "grid".toList,
          .property "grid-template-areas".toList keyword] := by
  have hends : ∀ keyword ∈ wideKeywords, (joined layoutStem keyword).getLast? ≠ some ']' := by
    decide
  exact rule_of_staticClass h (.layoutKeyword hk) (fun _ => StaticClass.eq_keywordLayout hk)
    (hends keyword hk) texts

/-- In every sheet each keyword of a placement has one rule, which places by it. -/
theorem rule_of_areaKeyword (h : generate sources = .ok set) {keyword : Text}
    (hk : keyword ∈ areaKeywords) (texts : List Text) :
    (set.sheetOn texts).rules.keys.count (".grid-area-".toList ++ keyword) = 1 ∧
      (set.sheetOn texts).rules.get? (".grid-area-".toList ++ keyword) =
        some [.property "grid-area".toList keyword] := by
  have hends : ∀ keyword ∈ areaKeywords, (joined areaStem keyword).getLast? ≠ some ']' := by
    decide
  exact rule_of_staticClass h (.areaKeyword hk) (fun _ => StaticClass.eq_placement)
    (hends keyword hk) texts

/-- What a set warns of: the layouts and then the areas that are named like keywords. -/
theorem warnings_of_generate (h : generate sources = .ok set) :
    set.warnings =
      (set.layouts.filter fun layout => layout.name ∈ wideKeywords).map
          (fun layout => layoutWarning layout.name) ++
        ((NamedGrid.areaNames (set.layouts.flatMap Layout.rows)).filter
          (· ∈ areaKeywords)).map areaWarning := by
  have hkeywords : ∀ keywords : List Text,
      keywords.contains = fun keyword => decide (keyword ∈ keywords) :=
    fun _ => funext fun _ => List.contains_eq_mem _ _
  obtain ⟨layouts, -, -, rfl⟩ := generate_eq_ok_iff.mp h
  rw [assemble]
  dsimp only
  rw [names_indexOf, List.filter_map, List.map_map, hkeywords, hkeywords]
  rfl

end UtilitySet

/-- Plugins cause warnings about what they contribute, and no others. -/
theorem Registry.warnings_collect {registry : Registry} {collected : Collected}
    (h : registry.collect = .ok collected) :
    ∀ warning ∈ collected.warnings, warning = contributionWarning := by
  rw [collect] at h
  split at h
  · cases h
  · cases h
    intro warning hw
    obtain ⟨_, -, rfl⟩ := List.mem_map.mp hw
    rfl

/-- **Reserved words always win, and what they displace is reported.** Whatever layouts, areas
and scanned classes there are, a build that reports deposits a sheet with one rule for each
keyword of a template and for each keyword of a placement, and the rule has the body of the
keyword. It counts the layouts that are not named like a keyword. Behind the warnings about
plugins it warns of every layout that is named like a keyword of a template, in the order of the
layouts, and then of every area that is named like a keyword of a placement, in the order in
which the areas are first seen. -/
theorem build_keywords {session : Session} {output : Option Path} {content : Option (List Text)}
    {report : BuildReport} {warnings : List Text} (hr : session.registry.Reachable)
    (h : (session.build output content).result = .ok (.report report warnings)) :
    ∃ (generation : Generation) (collected : Registry.Collected) (layouts : List Layout)
      (files : List Path) (rules : RuleTable),
      session.generate.result = .ok (.ok generation) ∧
      session.discovered.registry.collect = .ok collected ∧
      Layout.ofSources (collected.sources.update session.settings.sources) = .ok layouts ∧
      session.contentFiles (content.getD session.settings.build.content) = .ok files ∧
      rules = (generation.set.sheetOn (files.map session.contentText)).rules ∧
      (session.deposit rules.render output).2 = .ok report.destination ∧
      (∀ keyword ∈ wideKeywords,
        rules.keys.count (".grid-areas-".toList ++ keyword) = 1 ∧
        rules.get? (".grid-areas-".toList ++ keyword) =
          some [.property "display".toList "grid".toList,
            .property "grid-template-areas".toList keyword]) ∧
      (∀ keyword ∈ areaKeywords,
        rules.keys.count (".grid-area-".toList ++ keyword) = 1 ∧
        rules.get? (".grid-area-".toList ++ keyword) =
          some [.property "grid-area".toList keyword]) ∧
      report.layouts = (layouts.filter fun layout => layout.name ∉ wideKeywords).length ∧
      (∀ warning ∈ collected.warnings, warning = Registry.contributionWarning) ∧
      warnings = collected.warnings ++
        ((layouts.filter fun layout => layout.name ∈ wideKeywords).map
            (fun layout => layoutWarning layout.name) ++
          ((areaNames (layouts.flatMap Layout.rows)).filter (· ∈ areaKeywords)).map
            areaWarning) := by
  obtain ⟨generation, files, hg, hfiles, hdeposit, hreport⟩ := Session.of_result_build hr.sound h
  obtain ⟨-, -, rfl, -⟩ := (Session.result_build_eq_report_iff hr.sound hg).mp h
  obtain ⟨-, collected, hcollected, hset, hwarnings⟩ := Session.generate_eq_ok_iff.mp hg
  have hlayouts : Layout.ofSources (collected.sources.update session.settings.sources) =
      .ok generation.set.layouts := by
    obtain ⟨layouts, hl, -, he⟩ := UtilitySet.generate_eq_ok_iff.mp hset
    rw [he, hl]
    rfl
  refine ⟨generation, collected, generation.set.layouts, files, _, hg, hcollected, hlayouts,
    hfiles, rfl, hdeposit, fun keyword hk => UtilitySet.rule_of_wideKeyword hset hk _,
    fun keyword hk => UtilitySet.rule_of_areaKeyword hset hk _, ?_,
    Registry.warnings_collect hcollected, ?_⟩
  · rw [hreport, Session.buildReport, UtilitySet.emittedLayouts]
    simp only [List.contains_eq_mem, ← decide_not]
  · rw [hwarnings, UtilitySet.warnings_of_generate hset]

/-- Markup with classes whose values are reserved words. -/
def keywordMarkup : Text := "<b class=\"grid-areas-[none] grid-area-[auto]\">".toList

/-- A page with that markup, with a layout and areas that are named like keywords, and with a
plugin whose contribution is unusable. -/
def keywordPage : Session :=
  let page := pageSession [] (contributorRegistry [.unusable]) keywordMarkup
  { page with
    settings :=
      { page.settings with
        layouts := Table.ofList
          [("none".toList, .rows ["a auto".toList]),
            ("page".toList, .rows ["inherit b".toList])] } }

/-- The layout that is named like a keyword is reported and the other one is counted; an area of
each is reported, also of the one that is left out, and all of this behind the plugin. -/
theorem build_keywords_keywordPage :
    ∃ (generation : Generation) (report : BuildReport) (rules : RuleTable),
      keywordPage.generate.result = .ok (.ok generation) ∧
      rules = (generation.set.sheetOn [keywordMarkup]).rules ∧
      (keywordPage.build none none).result = .ok (.report report
        [Registry.contributionWarning, layoutWarning "none".toList, areaWarning "auto".toList,
          areaWarning "inherit".toList]) ∧
      report.layouts = 1 ∧
      rules.get? ".grid-areas-none".toList =
        some [.property "display".toList "grid".toList,
          .property "grid-template-areas".toList "none".toList] ∧
      rules.get? ".grid-area-auto".toList =
        some [.property "grid-area".toList "auto".toList] := by
  have hr : keywordPage.registry.Reachable := reachable_contributorRegistry [.unusable]
  obtain ⟨generation, hg, -⟩ := keywordPage.exists_generation (fun _ => true) (by decide +kernel)
  have hfiles : keywordPage.contentFiles
      ((none : Option (List Text)).getD keywordPage.settings.build.content) =
      .ok [Path.ofText "/p.html".toList] := by decide +kernel
  have htexts : [Path.ofText "/p.html".toList].map keywordPage.contentText = [keywordMarkup] := by
    decide +kernel
  have hbuild := Session.result_build_none hr.sound hg (by decide +kernel) (by decide +kernel)
    hfiles
  obtain ⟨generation', collected, layouts, files, _, hg', hcollected, hlayouts, hfiles', rfl, -,
    hwide, hareas, hcount, -, hwarnings⟩ := build_keywords hr hbuild
  obtain rfl := Session.generation_unique hg hg'
  obtain rfl := Except.ok.inj (hfiles.symm.trans hfiles')
  obtain rfl : (⟨.empty, [Registry.contributionWarning], [.unusableContribution]⟩ :
      Registry.Collected) = collected := by
    have hfound : keywordPage.discovered.registry.collect =
        .ok ⟨.empty, [Registry.contributionWarning], [.unusableContribution]⟩ := by
      with_unfolding_all rfl
    rw [hfound] at hcollected
    cases hcollected
    rfl
  obtain rfl : [⟨"none".toList, ["a auto".toList], none, none⟩,
      ⟨"page".toList, ["inherit b".toList], none, none⟩] = layouts := Except.ok.inj hlayouts
  rw [htexts] at hwide hareas
  refine ⟨generation, _, _, hg, rfl, hbuild.trans ?_, hcount.trans (by decide +kernel),
    (hwide "none".toList (by decide)).2, (hareas "auto".toList (by decide)).2⟩
  rw [hwarnings]
  with_unfolding_all rfl

end NamedGrid
