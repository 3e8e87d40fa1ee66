import NamedGrid.Proofs.Builds
import NamedGrid.Proofs.StaticClasses

/-!
# Builds and look-ups

A build and a look-up start from the same pass and take different ways from there: one
through deliveries, a table and a scanner, the other through the list of static utilities
and the reading of a single name. On static classes the two agree because no two utilities
share a name. On bracketed classes they agree as far as a name tells the class: escapes are
taken away before a rule is written, and a static class may be spelled like a bracketed one.
-/

namespace NamedGrid

namespace Session

/-- The pass of a session gives the same set before and after a build. -/
theorem generate_before_and_after {session : Session} {generation : Generation}
    (hs : session.registry.Sound) (hname : sheetName ∉ session.registry.names)
    (hg : session.generate.result = .ok (.ok generation)) (output : Option Path)
    (content : Option (List Text)) :
    ∀ later ∈ [session, (session.build output content).session],
      later.generate.result = .ok (.ok generation) := by
  simp only [List.forall_mem_cons, List.not_mem_nil, false_implies, implies_true, and_true]
  exact ⟨hg, (result_generate_build hs hname hg output content).trans hg⟩

/-- Where the name of the sheet is free, a build without a file reports its stylesheet, unless a
sink cannot be called. -/
theorem result_build_none_eq {session : Session} {generation : Generation} {files : List Path}
    {content : Option (List Text)} (hs : session.registry.Sound)
    (hg : session.generate.result = .ok (.ok generation))
    (hname : sheetName ∉ session.registry.names)
    (hfiles : session.contentFiles (content.getD session.settings.build.content) = .ok files) :
    (session.build none content).result =
      if session.SinksAnswer then
        .ok (.report
          (buildReport generation.set (generation.set.sheetOn (files.map session.contentText))
            files.length
            (.report (generation.set.sheetOn (files.map session.contentText)).rules.render))
          generation.warnings)
      else .error (.plugin .notInstantiated) := by
  rw [result_build hs hg, if_neg (sheetName_notMem_discovered hname), hfiles]
  rfl

/-- Where nothing is in the way, a build without a file reports its stylesheet. -/
theorem result_build_none {session : Session} {generation : Generation} {files : List Path}
    {content : Option (List Text)} (hs : session.registry.Sound)
    (hg : session.generate.result = .ok (.ok generation))
    (hname : sheetName ∉ session.registry.names) (hsinks : session.SinksAnswer)
    (hfiles : session.contentFiles (content.getD session.settings.build.content) = .ok files) :
    (session.build none content).result =
      .ok (.report
        (buildReport generation.set (generation.set.sheetOn (files.map session.contentText))
          files.length
          (.report (generation.set.sheetOn (files.map session.contentText)).rules.render))
        generation.warnings) := by
  rw [result_build_none_eq hs hg hname hfiles, if_pos hsinks]

/-- A build that reports has generated a set, has found its content files, and has counted and
deposited the rules of both. -/
theorem of_result_build {session : Session} {output : Option Path}
    {content : Option (List Text)} {report : BuildReport} {warnings : List Text}
    (hs : session.registry.Sound)
    (h : (session.build output content).result = .ok (.report report warnings)) :
    ∃ (generation : Generation) (files : List Path),
      session.generate.result = .ok (.ok generation) ∧
      session.contentFiles (content.getD session.settings.build.content) = .ok files ∧
      (session.deposit (generation.set.sheetOn (files.map session.contentText)).rules.render
        output).2 = .ok report.destination ∧
      report = buildReport generation.set
        (generation.set.sheetOn (files.map session.contentText)) files.length
        report.destination := by
  cases hg : session.generate.result with
  | error error =>
    rw [build, hg] at h
    cases h
  | ok outcome =>
    cases outcome with
    | error fault =>
      rw [build, hg] at h
      cases h
    | ok generation =>
      obtain ⟨-, -, -, files, hfiles, hdeposit, hreport⟩ :=
        (result_build_eq_report_iff hs hg).mp h
      exact ⟨generation, files, rfl, hfiles, hdeposit, hreport⟩

/-- What a build reports is counted on the sheet of its content files. -/
theorem report_of_result_build {session : Session} {generation : Generation} {files : List Path}
    {output : Option Path} {content : Option (List Text)} {report : BuildReport}
    {warnings : List Text} (hs : session.registry.Sound)
    (hg : session.generate.result = .ok (.ok generation))
    (hfiles : session.contentFiles (content.getD session.settings.build.content) = .ok files)
    (h : (session.build output content).result = .ok (.report report warnings)) :
    report = buildReport generation.set
      (generation.set.sheetOn (files.map session.contentText)) files.length
      report.destination := by
  obtain ⟨found, scanned, hfound, hscanned, -, hreport⟩ := of_result_build hs h
  obtain rfl := generation_unique hg hfound
  obtain rfl := Except.ok.inj (hfiles.symm.trans hscanned)
  exact hreport

end Session

/-! ## A small project -/

/-- A session in the root directory, with one layout and one content file. -/
def pageSession (rows : List Text) (registry : Registry) (markup : Text) : Session :=
  { settings :=
      { root := Path.ofText "/".toList
        configFile := none
        switches := ⟨false, false, false, false⟩
        layouts := Table.ofList [("page".toList, .rows rows)]
        build := ⟨none, ["p.html".toList]⟩ }
    registry
    pluginFiles := none
    tree := ⟨Table.ofList [(["p.html".toList], .file (Utf8.encode markup))]⟩
    cwd := [] }

/-- A plugin that receives rules by a private method, so discovery leaves it as it is. -/
def privateSink (form : PluginForm) : Plugin :=
  { identity := .given "sink".toList
    blueprint :=
      { className := "Sink".toList
        methods := [⟨"_receive".toList, some Hook.addUtilities.name, false, []⟩]
        contribution := .nothing
        fails := false }
    form }

/-- A registry that holds such a plugin alone. -/
def sinkRegistry (form : PluginForm) : Registry :=
  (Registry.empty.register (privateSink form) none).registry

theorem reachable_sinkRegistry (form : PluginForm) : (sinkRegistry form).Reachable := by
  have hp : (privateSink form).identity.IsBefore Registry.empty.made := trivial
  exact .register .empty hp none

/-- Markup with a class that has an escape, and with one that is spelled like a line class of
an area in brackets. -/
def bracketedMarkup : Text := "<b class=\"row-start-[a\\,b] row-start-[x]\">".toList

/-- A page with that markup and that area. -/
def bracketedPage (form : PluginForm) : Session :=
  pageSession ["[x]".toList] (sinkRegistry form) bracketedMarkup

/-- The text of the page, whatever the plugins. -/
theorem contentText_bracketedPage (form : PluginForm) :
    (bracketedPage form).contentText (Path.ofText "/p.html".toList) =
      bracketedMarkup := by
  cases form <;> decide +kernel

/-- The content files of the page, if no patterns are given. -/
theorem contentFiles_bracketedPage (form : PluginForm) :
    (bracketedPage form).contentFiles
        ((none : Option (List Text)).getD (bracketedPage form).settings.build.content) =
      .ok [Path.ofText "/p.html".toList] := by
  cases form <;> decide +kernel

/-! ## The rules of a build -/

/-- **No scanned class is lost, doubled or moved.** The selectors of the rule table are the
first occurrences among the static and then the scanned ones, every scanned class has the
body that the set resolves, and a build counts these rules and the distinct scanned classes. -/
theorem build_scanned_classes {sources : LayoutSources} {set : UtilitySet}
    (h : UtilitySet.generate sources = .ok set) (texts : List Text) :
    (set.sheetOn texts).rules.keys =
        (set.staticUtilities.map Utility.selector ++
          texts.flatMap fun text => (bracketedClasses text).map BracketedClass.selector).eraseDups ∧
      (∀ text ∈ texts, ∀ c ∈ bracketedClasses text, ∃ declaration,
        set.resolve c.stem c.value = some declaration ∧
        (set.sheetOn texts).rules.get? c.selector =
          some (Body.ofProperties declaration.toTable)) ∧
      ∀ (session : Session) (generation : Generation) (content : Option (List Text))
        (files : List Path), session.registry.Reachable →
        session.generate.result = .ok (.ok generation) → generation.set = set →
        session.contentFiles (content.getD session.settings.build.content) = .ok files →
        files.map session.contentText = texts →
        (sheetName ∉ session.registry.names → session.SinksAnswer →
          ∃ report, (session.build none content).result =
              .ok (.report report generation.warnings) ∧
            report.destination = .report (set.sheetOn texts).rules.render) ∧
        ∀ (output : Option Path) (report : BuildReport) (warnings : List Text),
          (session.build output content).result = .ok (.report report warnings) →
          report.rules = (set.sheetOn texts).rules.keys.length ∧
          report.bracketed = (texts.flatMap bracketedClasses).eraseDups.length := by
  obtain ⟨hkeys, hrules, hcount⟩ :=
    UtilitySet.sheetOn_spec (UtilitySet.families_of_generate h) texts
  refine ⟨?_, fun text ht c hc => hrules c (List.mem_flatMap.mpr ⟨text, ht, hc⟩), ?_⟩
  · rw [hkeys, List.map_flatMap]
  · rintro session generation content files hr hg rfl hfiles rfl
    refine ⟨fun hname hsinks => ?_, fun output report warnings hbuild => ?_⟩
    · exact ⟨_, Session.result_build_none hr.sound hg hname hsinks hfiles, rfl⟩
    · rw [Session.report_of_result_build hr.sound hg hfiles hbuild]
      exact ⟨Table.size_eq_length_keys _, hcount⟩

/-- The two classes of the page bring one rule beside the static ones: the other one takes the
place of the line class that is spelled like it. -/
theorem build_scanned_classes_bracketedPage :
    ∃ generation report, (bracketedPage .object).generate.result = .ok (.ok generation) ∧
      generation.set.staticUtilities.length = 21 ∧
      ((bracketedPage .object).build none none).result =
        .ok (.report report generation.warnings) ∧
      report.rules = 22 ∧ report.bracketed = 2 ∧
      (generation.set.sheetOn [bracketedMarkup]).rules.get? ".row-start-[x]".toList =
        some [.property "grid-row-start".toList "x".toList] := by
  obtain ⟨generation, hg, hcheck⟩ := (bracketedPage .object).exists_generation
    (fun generation => generation.set.staticUtilities.length == 21 &&
      (generation.set.staticUtilities.map Utility.selector ++
        [".row-start-[a,b]".toList, ".row-start-[x]".toList]).eraseDups.length == 22 &&
      generation.set.resolve "row-start".toList "x".toList ==
        some (Declaration.single "grid-row-start".toList "x".toList)) (by decide +kernel)
  simp only [Bool.and_eq_true, beq_iff_eq] at hcheck
  obtain ⟨⟨hstatic, hselectors⟩, hresolve⟩ := hcheck
  have hclasses : bracketedClasses bracketedMarkup =
      [⟨"row-start".toList, "a,b".toList⟩, ⟨"row-start".toList, "x".toList⟩] := by
    decide +kernel
  obtain ⟨-, collected, -, hset, -⟩ := Session.generate_eq_ok_iff.mp hg
  obtain ⟨hkeys, hrules, hbuilds⟩ := build_scanned_classes hset [bracketedMarkup]
  have htexts : [Path.ofText "/p.html".toList].map (bracketedPage .object).contentText =
      [bracketedMarkup] := by
    rw [List.map_singleton, contentText_bracketedPage]
  obtain ⟨hreport, hcounts⟩ := hbuilds (bracketedPage .object) generation none _
    (reachable_sinkRegistry .object) hg rfl (contentFiles_bracketedPage .object) htexts
  obtain ⟨report, hbuild, -⟩ := hreport (by decide +kernel) (by decide +kernel)
  obtain ⟨hcount, hbracketed⟩ := hcounts none report generation.warnings hbuild
  obtain ⟨declaration, hdeclared, hrule⟩ := hrules bracketedMarkup List.mem_cons_self
    ⟨"row-start".toList, "x".toList⟩ (by simp [hclasses])
  obtain rfl := Option.some.inj (hresolve.symm.trans hdeclared)
  refine ⟨generation, report, hg, hstatic, hbuild, ?_, ?_, hrule⟩
  · rw [hcount, hkeys, List.flatMap_singleton, hclasses]
    exact hselectors
  · rw [hbracketed, List.flatMap_singleton, hclasses]
    decide +kernel

/-! ## Static classes -/

/-- The stylesheet of the static rules alone is the rules of the utilities in order. -/
theorem render_ruleTable {utilities : List Utility} (hne : utilities ≠ [])
    (h : (utilities.map Utility.className).Nodup) :
    (Utility.ruleTable utilities).render =
      ['\n', '\n'].intercalate ((utilities.map Utility.resolvedClass).map ResolvedClass.css) ++
        ['\n'] := by
  have hentries := UtilitySet.entries_ruleTable h
  have hrules : (utilities.map fun u =>
      (u.selector, Body.ofProperties u.declaration.toTable)).map (fun r => renderRule r.1 r.2) =
      (utilities.map Utility.resolvedClass).map ResolvedClass.css := by
    rw [List.map_map, List.map_map]
    rfl
  rw [RuleTable.render]
  split
  · rename_i hnil
    rw [hentries, List.map_eq_nil_iff] at hnil
    exact absurd hnil hne
  · rw [hentries, hrules]

/-- Every static class of layouts with distinct names is looked up as its own utility. -/
theorem map_lookUpWritten_staticUtilities {set : UtilitySet} {layouts : List Layout}
    (h : (layouts.map Layout.name).Nodup)
    (hset : set = UtilitySet.assemble layouts (layouts.map Layout.utility)) :
    (set.staticUtilities.map Utility.className).map set.lookUpWritten =
      (set.staticUtilities.map Utility.resolvedClass).map .ok := by
  subst hset
  have hnames := UtilitySet.nodup_classNames_assemble h
  rw [List.map_map, List.map_map]
  apply List.map_congr_left
  intro u hu
  exact UtilitySet.lookUpWritten_of_find? (UtilitySet.without_dot_className hu)
    ((UtilitySet.find?_eq_some_iff hnames).mpr ⟨hu, rfl⟩)

/-- A plugin that contributes a layout. -/
def asidePlugin : Plugin :=
  { identity := .given "aside".toList
    blueprint :=
      { className := "Aside".toList
        methods := [⟨Hook.registerLayouts.name, none, false, []⟩]
        contribution := .layouts
          (Table.ofList [("aside".toList, .raw (.list [.text "aside".toList]))])
        fails := false }
    form := .object }

/-- A session with a layout of its own, one of a plugin and a sink. -/
def contributedSession : Session :=
  pageSession ["head".toList] ((sinkRegistry .object).register asidePlugin none).registry []

/-- The session of a layout beside a sink that is a blueprint. -/
def blueprintSession : Session := pageSession ["head".toList] (sinkRegistry .blueprint) []

/-- **A build without content is the look-ups of all static classes**, joined by blank lines. Only
a sink that is a blueprint ends it, of which discovery made no instance. -/
theorem build_eq_join_resolve {session : Session} {generation : Generation}
    (hr : session.registry.Reachable) (hg : session.generate.result = .ok (.ok generation))
    (hraw : ∀ plugin ∈ session.discovered.registry.listeners .registerLayouts,
      plugin.blueprint.contribution.IsRaw)
    (hname : sheetName ∉ session.registry.names) :
    ∃ (items : List ResolvedClass) (report : BuildReport),
      items.map ResolvedClass.className =
        generation.set.staticUtilities.map Utility.className ∧
      (∀ later ∈ [session, (session.build none (some [])).session],
        (later.resolve (generation.set.staticUtilities.map Utility.className)).result =
          .ok (.report items generation.warnings)) ∧
      (session.build none (some [])).result =
        (if session.SinksAnswer then .ok (.report report generation.warnings)
        else .error (.plugin .notInstantiated)) ∧
      report.destination =
        .report (['\n', '\n'].intercalate (items.map ResolvedClass.css) ++ ['\n']) ∧
      report.rules = (generation.set.staticUtilities.map Utility.className).length := by
  obtain ⟨-, collected, hcollect, hset, -⟩ := Session.generate_eq_ok_iff.mp hg
  have hsources := (Registry.isRaw_collect hraw hcollect).update session.settings.isRaw_sources
  obtain ⟨layouts, -, -, hnodup, hassemble⟩ := UtilitySet.exists_layouts_of_generate hsources hset
  have hnames : (generation.set.staticUtilities.map Utility.className).Nodup :=
    hassemble ▸ UtilitySet.nodup_classNames_assemble hnodup
  have hlook := map_lookUpWritten_staticUtilities hnodup hassemble
  have hfiles : session.contentFiles ((some []).getD session.settings.build.content) =
    .ok [] := rfl
  have hrules : (generation.set.sheetOn ([].map session.contentText)).rules =
      Utility.ruleTable generation.set.staticUtilities :=
    congrArg Sheet.rules generation.set.receivedSheet_eq
  have hne : generation.set.staticUtilities ≠ [] := by
    rw [hassemble, UtilitySet.staticUtilities_assemble]
    simp [keywordLayoutUtilities, wideKeywords]
  refine ⟨generation.set.staticUtilities.map Utility.resolvedClass, _, ?_, fun later hl => ?_,
    Session.result_build_none_eq hr.sound hg hname hfiles, ?_, ?_⟩
  · rw [List.map_map]
    rfl
  · exact Session.result_resolve_of_found
      (Session.generate_before_and_after hr.sound hname hg _ _ later hl) hlook
  · rw [← render_ruleTable hne hnames, ← hrules]
    rfl
  · change Sheet.ruleCount _ = _
    rw [Sheet.ruleCount, hrules, Table.size, UtilitySet.entries_ruleTable hnames, List.length_map,
      List.length_map]

/-- A layout of the configuration and one of a plugin, beside a sink: both areas have their
classes in the stylesheet, and both ways give all of them. -/
theorem build_eq_join_resolve_contributed :
    ∃ generation, contributedSession.generate.result = .ok (.ok generation) ∧
      contributedSession.registry.Reachable ∧
      (∀ plugin ∈ contributedSession.discovered.registry.listeners .registerLayouts,
        plugin.blueprint.contribution.IsRaw) ∧
      sheetName ∉ contributedSession.registry.names ∧ contributedSession.SinksAnswer ∧
      ∃ report, (contributedSession.build none (some [])).result = .ok (.report report []) ∧
        report.rules = 2 + 6 + 2 + 7 + 12 := by
  obtain ⟨generation, hg, hcheck⟩ := contributedSession.exists_generation
    (fun generation => generation.warnings.isEmpty &&
      generation.set.staticUtilities.length == 29) (by decide +kernel)
  rw [Bool.and_eq_true, List.isEmpty_iff, beq_iff_eq] at hcheck
  obtain ⟨hwarnings, hlength⟩ := hcheck
  have hp : asidePlugin.identity.IsBefore (sinkRegistry .object).made := trivial
  have hr : contributedSession.registry.Reachable :=
    .register (reachable_sinkRegistry .object) hp none
  have hraw : ∀ plugin ∈ contributedSession.discovered.registry.listeners .registerLayouts,
      plugin.blueprint.contribution.IsRaw := by decide +kernel
  have hname : sheetName ∉ contributedSession.registry.names := by decide +kernel
  have hsinks : contributedSession.SinksAnswer := by decide +kernel
  obtain ⟨items, report, -, -, hbuild, -, hrules⟩ := build_eq_join_resolve hr hg hraw hname
  rw [if_pos hsinks, hwarnings] at hbuild
  rw [List.length_map, hlength] at hrules
  exact ⟨generation, hg, hr, hraw, hname, hsinks, report, hbuild, hrules⟩

/-- Generation succeeds beside a sink that is a blueprint, but there is no stylesheet. -/
theorem build_fails_beside_blueprint :
    ∃ generation, blueprintSession.generate.result = .ok (.ok generation) ∧
      blueprintSession.registry.Reachable ∧
      (∀ plugin ∈ blueprintSession.discovered.registry.listeners .registerLayouts,
        plugin.blueprint.contribution.IsRaw) ∧
      sheetName ∉ blueprintSession.registry.names ∧
      (blueprintSession.build none (some [])).result = .error (.plugin .notInstantiated) := by
  obtain ⟨generation, hg, -⟩ := blueprintSession.exists_generation (fun _ => true)
    (by decide +kernel)
  have hr : blueprintSession.registry.Reachable := reachable_sinkRegistry .blueprint
  have hname : sheetName ∉ blueprintSession.registry.names := by decide +kernel
  have hsinks : ¬blueprintSession.SinksAnswer := by decide +kernel
  have hfiles : blueprintSession.contentFiles
      ((some []).getD blueprintSession.settings.build.content) = .ok [] := rfl
  refine ⟨generation, hg, hr, by decide +kernel, hname, ?_⟩
  rw [Session.result_build_none_eq hr.sound hg hname hfiles, if_neg hsinks]

/-! ## Bracketed classes -/

/-- The class with an escape, as it is written. -/
def escapedClass : BracketedClass := ⟨"row-start".toList, "a\\,b".toList⟩

theorem isDelimited_escapedClass : IsDelimited bracketedMarkup escapedClass.className :=
  ⟨"<b class=\"".toList, " row-start-[x]\">".toList, rfl, rfl, rfl⟩

theorem isValueChar_escapedClass : ∀ d ∈ escapedClass.value, isValueChar d = true :=
  List.all_eq_true.mp (by decide)

/-- **Builds and look-ups agree on bracketed classes** as far as a name tells the class. A build
reports unless a sink is a blueprint of which discovery made no instance. A delimited class of a
content file has a rule under its name without escapes, which is the written name exactly if no
backslash in it protects a character; a look-up of the class as it is written declares the same,
unless a static class has that very name. -/
theorem build_agrees_with_resolve {session : Session} {generation : Generation}
    {content : Option (List Text)} {files : List Path} (hr : session.registry.Reachable)
    (hg : session.generate.result = .ok (.ok generation))
    (hname : sheetName ∉ session.registry.names)
    (hfiles : session.contentFiles (content.getD session.settings.build.content) = .ok files) :
    (∃ report, (session.build none content).result =
        (if session.SinksAnswer then .ok (.report report generation.warnings)
        else .error (.plugin .notInstantiated)) ∧
      report.destination =
        .report (generation.set.sheetOn (files.map session.contentText)).rules.render) ∧
    ∀ file ∈ files, ∀ c : BracketedClass, c.stem ∈ bracketStems → c.value ≠ [] →
      (∀ d ∈ c.value, isValueChar d = true) →
      IsDelimited (session.contentText file) c.className →
      (c.unescaped = c ↔ '\\' ∉ c.value.dropLast) ∧
      ∃ declaration : Declaration,
        (generation.set.sheetOn (files.map session.contentText)).rules.get?
            c.unescaped.selector = some (Body.ofProperties declaration.toTable) ∧
        ∀ later ∈ [session, (session.build none content).session],
          (generation.set.find? c.className = none →
            (later.resolve [c.className]).result =
              .ok (.report [⟨c.className, declaration.toTable⟩] generation.warnings)) ∧
          ∀ u, generation.set.find? c.className = some u →
            (later.resolve [c.className]).result =
              .ok (.report [⟨c.className, u.declaration.toTable⟩] generation.warnings) := by
  obtain ⟨-, collected, -, hset, -⟩ := Session.generate_eq_ok_iff.mp hg
  have hfamilies := UtilitySet.families_of_generate hset
  refine ⟨⟨_, Session.result_build_none_eq hr.sound hg hname hfiles, rfl⟩, ?_⟩
  intro file hfile c hs hne hraw hdelimited
  have hscanned := mem_bracketedClasses_of_isDelimited hs hne hraw hdelimited
  obtain ⟨-, hrules, -⟩ :=
    UtilitySet.sheetOn_spec hfamilies (files.map session.contentText)
  obtain ⟨declaration, hresolve, hrule⟩ := hrules c.unescaped
    (List.mem_flatMap.mpr ⟨_, List.mem_map_of_mem hfile, hscanned⟩)
  have hdot := BracketedClass.without_dot_className hs
  have hline : '\n' ∉ c.value := fun hm => absurd (hraw _ hm) (by decide)
  refine ⟨c.unescaped_eq_self_iff hline, declaration, hrule, fun later hl => ?_⟩
  have hlater := Session.generate_before_and_after hr.sound hname hg _ _ later hl
  refine ⟨fun hstatic => ?_, fun u hu => ?_⟩
  · exact Session.result_resolve_of_parse? hlater hdot hstatic (parse?_className hs hraw) hresolve
  · exact Session.result_resolve_of_find? hlater hdot hu

/-- The class with an escape: its rule stands under the name without the backslash, and the
look-up of the name as it is written declares the same. -/
theorem build_agrees_with_resolve_escaped :
    ∃ generation, (bracketedPage .object).generate.result = .ok (.ok generation) ∧
      (bracketedPage .object).registry.Reachable ∧
      sheetName ∉ (bracketedPage .object).registry.names ∧
      (bracketedPage .object).contentFiles (bracketedPage .object).settings.build.content =
        .ok [Path.ofText "/p.html".toList] ∧
      ∃ declaration : Declaration,
        (generation.set.sheetOn [bracketedMarkup]).rules.get? ".row-start-[a,b]".toList =
          some (Body.ofProperties declaration.toTable) ∧
        ((bracketedPage .object).resolve ["row-start-[a\\,b]".toList]).result =
          .ok (.report [⟨"row-start-[a\\,b]".toList, declaration.toTable⟩] []) := by
  obtain ⟨generation, hg, hcheck⟩ := (bracketedPage .object).exists_generation
    (fun generation => generation.warnings.isEmpty &&
      (generation.set.find? escapedClass.className).isNone) (by decide +kernel)
  rw [Bool.and_eq_true, List.isEmpty_iff, Option.isNone_iff_eq_none] at hcheck
  obtain ⟨hwarnings, hstatic⟩ := hcheck
  have hr : (bracketedPage .object).registry.Reachable := reachable_sinkRegistry .object
  have hname : sheetName ∉ (bracketedPage .object).registry.names := by decide +kernel
  obtain ⟨-, hagree⟩ := build_agrees_with_resolve hr hg hname (contentFiles_bracketedPage .object)
  obtain ⟨-, declaration, hrule, hresolve⟩ := hagree _ List.mem_cons_self escapedClass (by decide)
    (by decide) isValueChar_escapedClass
    (contentText_bracketedPage .object ▸ isDelimited_escapedClass)
  refine ⟨generation, hg, hr, hname, contentFiles_bracketedPage .object, declaration, ?_, ?_⟩
  · rw [List.map_singleton, contentText_bracketedPage] at hrule
    exact hrule
  · have hreport := (hresolve _ List.mem_cons_self).1 hstatic
    rw [hwarnings] at hreport
    exact hreport

/-- The class with an escape has no rule under the name that is written in the page, though a
look-up finds it under that name. -/
theorem build_disagrees_with_resolve :
    ∃ generation, (bracketedPage .object).generate.result = .ok (.ok generation) ∧
      (bracketedPage .object).registry.Reachable ∧
      sheetName ∉ (bracketedPage .object).registry.names ∧
      (∃ report, ((bracketedPage .object).build none none).result = .ok (.report report []) ∧
        report.destination =
          .report (generation.set.sheetOn [bracketedMarkup]).rules.render) ∧
      escapedClass.stem ∈ bracketStems ∧ (∀ d ∈ escapedClass.value, isValueChar d = true) ∧
      IsDelimited bracketedMarkup escapedClass.className ∧
      (generation.set.sheetOn [bracketedMarkup]).rules.get? escapedClass.selector = none ∧
      ∃ item : ResolvedClass, item.className = escapedClass.className ∧
        ((bracketedPage .object).resolve [escapedClass.className]).result =
          .ok (.report [item] []) := by
  obtain ⟨generation, hg, hcheck⟩ := (bracketedPage .object).exists_generation
    (fun generation => generation.warnings.isEmpty &&
      ((generation.set.sheetOn [bracketedMarkup]).rules.get? escapedClass.selector).isNone &&
      (generation.set.find? escapedClass.className).isNone &&
      (generation.set.resolve "row-start".toList "a,b".toList).isSome)
    (by decide +kernel)
  simp only [Bool.and_eq_true, List.isEmpty_iff, Option.isNone_iff_eq_none] at hcheck
  obtain ⟨⟨⟨hwarnings, hunknown⟩, hstatic⟩, hsome⟩ := hcheck
  obtain ⟨declaration, hresolve⟩ := Option.isSome_iff_exists.mp hsome
  have hr : (bracketedPage .object).registry.Reachable := reachable_sinkRegistry .object
  have hname : sheetName ∉ (bracketedPage .object).registry.names := by decide +kernel
  have hsinks : (bracketedPage .object).SinksAnswer := by decide +kernel
  have hstem : escapedClass.stem ∈ bracketStems := by decide
  have hbuild := Session.result_build_none hr.sound hg hname hsinks
    (contentFiles_bracketedPage .object)
  have hreport := Session.result_resolve_of_parse? hg (BracketedClass.without_dot_className hstem)
    hstatic (parse?_className hstem isValueChar_escapedClass) hresolve
  rw [List.map_singleton, contentText_bracketedPage, hwarnings] at hbuild
  rw [hwarnings] at hreport
  exact ⟨generation, hg, hr, hname, ⟨_, hbuild, rfl⟩, hstem, isValueChar_escapedClass,
    isDelimited_escapedClass, hunknown, _, rfl, hreport⟩

end NamedGrid
