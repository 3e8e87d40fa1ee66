import NamedGrid.Proofs.Agreement

/-!
# Layouts of plugins and settings

A registry keeps the implementations of its plugins in the order in which the plugins were
registered, whatever was unregistered or replaced in between (`Ordered`). A hook calls the
latest first, so its answers are turned round before they are merged: of two plugins that give
one name the later counts, but the name keeps the place that the earlier gave it. Configured
layouts come over all of them.
-/

namespace NamedGrid

/-! ## The order of implementations -/

namespace Registry

/-- The implementations of plugins, plugin by plugin. -/
def implementationsOf (plugins : List Plugin) : List Implementation :=
  plugins.flatMap fun plugin => plugin.hooks.map fun hook => ⟨hook, plugin⟩

/-- Without an object its implementations are missing. -/
theorem filter_implementationsOf (plugins : List Plugin) (identity : Identity) :
    ((implementationsOf plugins).filter fun i => i.plugin.identity ≠ identity) =
      implementationsOf (plugins.filter fun plugin => plugin.identity ≠ identity) := by
  induction plugins with
  | nil => rfl
  | cons plugin plugins ih =>
    rw [implementationsOf, List.flatMap_cons, List.filter_append, ← implementationsOf, ih,
      List.filter_map]
    by_cases hi : plugin.identity = identity
    · rw [List.filter_cons_of_neg (by simpa using hi)]
      simp [Function.comp_def, hi]
    · rw [List.filter_cons_of_pos (by simpa using hi), implementationsOf, implementationsOf,
        List.flatMap_cons]
      simp [Function.comp_def, hi]

/-- No object is registered twice, and the implementations are those of the plugins, in the
order in which the plugins were registered. -/
structure Ordered (registry : Registry) : Prop where
  distinct : (registry.plugins.values.map Plugin.identity).Nodup
  implementations : registry.implementations = implementationsOf registry.plugins.values

namespace Ordered

variable {registry : Registry}

theorem empty : Ordered Registry.empty := ⟨List.nodup_nil, rfl⟩

/-- What a plugin brings comes last. -/
theorem enter (h : Ordered registry) (plugin : Plugin) (name : Text) :
    Ordered (registry.enter plugin name).1 := by
  rcases registry.enter_spec plugin name with ⟨error, he⟩ | ⟨⟨hname, hidentity, -⟩, he⟩
  · rwa [he]
  rw [he]
  have hvalues : (registry.withPlugin plugin name).plugins.values =
      registry.plugins.values ++ [plugin] := by
    have hentries : (registry.withPlugin plugin name).plugins.entries =
        registry.plugins.entries ++ [(name, plugin)] := Table.place_of_not_mem hname
    rw [Table.values, hentries, List.map_append]
    rfl
  have hfresh : plugin.identity ∉ registry.plugins.values.map Plugin.identity := by
    intro hm
    obtain ⟨other, hother, hsame⟩ := List.mem_map.mp hm
    obtain ⟨e, he, rfl⟩ := List.mem_map.mp hother
    rw [nameOf?, Option.map_eq_none_iff, List.find?_eq_none] at hidentity
    exact hidentity e he (decide_eq_true hsame)
  refine ⟨?_, ?_⟩
  · rw [hvalues, List.map_append, List.map_singleton, List.nodup_append]
    refine ⟨h.distinct, List.nodup_singleton _, ?_⟩
    rintro identity hm _ hlast rfl
    exact hfresh (List.mem_singleton.mp hlast ▸ hm)
  · rw [hvalues, implementationsOf, List.flatMap_append, List.flatMap_singleton, withPlugin,
      h.implementations]
    rfl

/-- With a plugin all of its implementations go, and those of others stay. -/
theorem remove (h : Ordered registry) {e : Text × Plugin} (he : e ∈ registry.plugins.entries) :
    Ordered (registry.remove e.1 e.2.identity) := by
  have hdistinct : (registry.plugins.entries.map fun f => f.2.identity).Nodup := by
    have hnodup := h.distinct
    rwa [Table.values, List.map_map] at hnodup
  have hentries : (registry.plugins.erase e.1).entries =
      registry.plugins.entries.filter fun f => f.2.identity ≠ e.2.identity := by
    refine List.filter_congr fun f hf =>
      decide_eq_decide.mpr (not_congr ⟨fun hname => ?_, fun hi => ?_⟩)
    · rw [List.inj_on_of_nodup_map registry.plugins.nodup hf he hname]
    · rw [List.inj_on_of_nodup_map hdistinct hf he hi]
  have hvalues : (registry.remove e.1 e.2.identity).plugins.values =
      registry.plugins.values.filter fun plugin => plugin.identity ≠ e.2.identity := by
    rw [Registry.remove, Table.values, hentries, Table.values, List.filter_map]
    rfl
  refine ⟨?_, ?_⟩
  · rw [hvalues]
    exact h.distinct.sublist (List.filter_sublist.map Plugin.identity)
  · rw [hvalues, ← filter_implementationsOf, ← h.implementations]
    rfl

theorem register (h : Ordered registry) (plugin : Plugin) (name : Option Text) :
    Ordered (registry.register plugin name).registry := by
  obtain ⟨checked, he⟩ := register_registry registry plugin name
  have hentered := h.enter plugin (chosenName plugin name)
  exact he ▸ ⟨hentered.distinct, hentered.implementations⟩

theorem unregister (h : Ordered registry) (plugin : Plugin) :
    Ordered (registry.unregister plugin).registry := by
  unfold Registry.unregister
  split
  · exact h
  · rename_i name hname
    obtain ⟨e, hfound, rfl⟩ := Option.map_eq_some_iff.mp hname
    have hidentity : e.2.identity = plugin.identity := by simpa using List.find?_some hfound
    have hremoved := h.remove (List.mem_of_find?_eq_some hfound)
    rw [hidentity] at hremoved
    exact ⟨hremoved.distinct, hremoved.implementations⟩

theorem discover (h : Ordered registry) (directory : Option (List PluginFile)) :
    Ordered (registry.discover directory).registry := by
  have hmade : ∀ (r : Registry) (blueprint : Blueprint), Ordered r →
      Ordered (r.instantiate blueprint).2 := fun _ _ hr => ⟨hr.distinct, hr.implementations⟩
  exact discover_induction (fun _ _ he hr => hr.remove he)
    (fun r blueprint name _ hr => (hmade r blueprint hr).enter _ name)
    (fun _ _ hr => ⟨hr.distinct, hr.implementations⟩)
    (fun _ hr => ⟨hr.distinct, hr.implementations⟩) h

end Ordered

/-- **Every reachable registry is ordered.** -/
theorem Reachable.ordered {registry : Registry} (h : Reachable registry) : Ordered registry := by
  induction h with
  | empty => exact .empty
  | instantiate _ _ ih => exact ⟨ih.distinct, ih.implementations⟩
  | enter _ _ name ih => exact ih.enter _ name
  | register _ _ name ih => exact ih.register _ name
  | unregister _ plugin ih => exact ih.unregister plugin
  | discover _ directory ih => exact ih.discover directory

/-! ## Who is asked -/

/-- The plugins that implement a hook, in the order in which they were registered. -/
def implementing (registry : Registry) (hook : Hook) : List Plugin :=
  registry.plugins.values.filter fun plugin => plugin.hooks.contains hook

/-- A hook calls the plugins that implement it from the latest to the first, as often as they
implement it. -/
theorem Ordered.listeners_flatMap {registry : Registry} (h : Ordered registry) (hook : Hook) :
    registry.listeners hook =
      (registry.plugins.values.flatMap fun plugin =>
        List.replicate (plugin.hooks.count hook) plugin).reverse := by
  rw [Registry.listeners, h.implementations, implementationsOf, List.filter_flatMap,
    List.map_flatMap]
  congr 2
  funext plugin
  rw [List.filter_map, List.map_map, List.count_eq_length_filter, ← List.map_const']
  exact congrArg _ (List.filter_congr fun _ _ => rfl)

/-- A hook calls a registered plugin as often as it implements the hook. -/
theorem Ordered.filter_listeners {registry : Registry} (h : Ordered registry) {plugin : Plugin}
    (hp : plugin ∈ registry.plugins.values) (hook : Hook) :
    ((registry.listeners hook).filter fun p => p.identity = plugin.identity) =
      List.replicate (plugin.hooks.count hook) plugin := by
  obtain ⟨before, later, hvalues⟩ := List.append_of_mem hp
  have hdistinct := h.distinct
  rw [hvalues, List.map_append, List.map_cons, List.nodup_middle, List.nodup_cons,
    ← List.map_append] at hdistinct
  -- No other plugin has the identity, so of the others nothing is left.
  have hothers : ∀ plugins ⊆ before ++ later,
      (plugins.flatMap fun p => List.replicate (p.hooks.count hook) p).filter
        (fun p => p.identity = plugin.identity) = [] := by
    intro plugins hsubset
    refine List.filter_eq_nil_iff.mpr fun p hmem => ?_
    obtain ⟨other, hother, hreplicate⟩ := List.mem_flatMap.mp hmem
    rw [List.eq_of_mem_replicate hreplicate, decide_eq_true_eq]
    exact fun heq => hdistinct.1 (heq ▸ List.mem_map_of_mem (hsubset hother))
  have hself : (List.replicate (plugin.hooks.count hook) plugin).filter
      (fun p => p.identity = plugin.identity) =
        List.replicate (plugin.hooks.count hook) plugin := by
    refine List.filter_eq_self.mpr fun p hmem => ?_
    rw [List.eq_of_mem_replicate hmem, decide_eq_true_eq]
  rw [h.listeners_flatMap, List.filter_reverse, hvalues, List.flatMap_append, List.flatMap_cons,
    List.filter_append, List.filter_append, hself, hothers before (List.subset_append_left _ _),
    hothers later (List.subset_append_right _ _), List.nil_append, List.append_nil,
    List.reverse_replicate]

/-- Each of them is called once if no plugin implements the hook twice. -/
theorem Ordered.listeners {registry : Registry} (h : Ordered registry) {hook : Hook}
    (honce : ∀ plugin ∈ registry.plugins.values, plugin.hooks.count hook ≤ 1) :
    registry.listeners hook = (registry.implementing hook).reverse := by
  rw [h.listeners_flatMap, implementing]
  congr 1
  generalize registry.plugins.values = plugins at honce
  induction plugins with
  | nil => rfl
  | cons plugin plugins ih =>
    obtain ⟨hplugin, hplugins⟩ := List.forall_mem_cons.mp honce
    rw [List.flatMap_cons, ih hplugins]
    by_cases hm : hook ∈ plugin.hooks
    · have hone : plugin.hooks.count hook = 1 :=
        Nat.le_antisymm hplugin (List.one_le_count_iff.mpr hm)
      rw [List.filter_cons_of_pos (by simpa using hm), hone]
      rfl
    · rw [List.filter_cons_of_neg (by simpa using hm), List.count_eq_zero.mpr hm]
      rfl

end Registry

/-! ## What is merged -/

namespace Contribution

/-- The source of a layout in a contribution. -/
def source? (name : Text) : Contribution → Option LayoutSource
  | .layouts sources => sources.get? name
  | _ => none

/-- The names of the layouts in a contribution, in order. -/
def names : Contribution → List Text
  | .layouts sources => sources.keys
  | _ => []

/-- Is the contribution an answer that is no record of layouts? -/
def isUnusable : Contribution → Bool
  | .unusable => true
  | _ => false

end Contribution

namespace Registry

/-- Merged contributions have the names in the order in which they first come. -/
theorem keys_mergeContributions (contributions : List Contribution) :
    (mergeContributions contributions).keys =
      (contributions.flatMap Contribution.names).eraseDups := by
  induction contributions using List.reverseRecOn with
  | nil => rfl
  | append_singleton contributions c ih =>
    rw [List.flatMap_append, List.flatMap_singleton, ← eraseDups_eraseDups_append, ← ih,
      mergeContributions, List.foldl_append, List.foldl_cons, List.foldl_nil, ← mergeContributions]
    cases c with
    | layouts sources => exact Table.keys_update _ _
    | nothing => simp [Contribution.names, Table.eraseDups_keys]
    | unusable => simp [Contribution.names, Table.eraseDups_keys]

/-- Of merged contributions the last one that has a layout gives its source. -/
theorem get?_mergeContributions (contributions : List Contribution) (name : Text) :
    (mergeContributions contributions).get? name =
      contributions.reverse.findSome? (Contribution.source? name) := by
  induction contributions using List.reverseRecOn with
  | nil => rfl
  | append_singleton contributions c ih =>
    rw [List.reverse_concat, List.findSome?_cons, ← ih, mergeContributions, List.foldl_append,
      List.foldl_cons, List.foldl_nil, ← mergeContributions]
    cases c with
    | layouts sources =>
      rw [Table.get?_update, Contribution.source?]
      cases sources.get? name <;> rfl
    | nothing => rfl
    | unusable => rfl

/-- What the plugins answer that are asked for layouts, in the order of their registration. -/
def contributions (registry : Registry) : List Contribution :=
  (registry.implementing .registerLayouts).map fun plugin => plugin.blueprint.contribution

/-- Where every plugin that is asked is an object, all contributions are merged, and each one
that is unusable is reported. -/
theorem Ordered.collect {registry : Registry} (h : Ordered registry)
    (honce : ∀ plugin ∈ registry.plugins.values, plugin.hooks.count .registerLayouts ≤ 1)
    (hanswer : ∀ plugin ∈ registry.implementing .registerLayouts, plugin.form = .object) :
    ∃ collected, registry.collect = .ok collected ∧
      collected.sources = mergeContributions registry.contributions ∧
      collected.warnings = List.replicate (registry.contributions.countP Contribution.isUnusable)
        contributionWarning := by
  have hlisteners := h.listeners honce
  have hall : answering (registry.listeners .registerLayouts) =
      (registry.listeners .registerLayouts, none) := by
    refine (answering_eq _).1 fun plugin hp => hanswer plugin ?_
    rw [hlisteners] at hp
    exact List.mem_reverse.mp hp
  have hcontributions : ((registry.listeners .registerLayouts).map fun plugin =>
      plugin.blueprint.contribution).reverse = registry.contributions := by
    rw [hlisteners, List.map_reverse, List.reverse_reverse, contributions]
  rw [Registry.collect, hall]
  refine ⟨_, rfl, congrArg mergeContributions hcontributions, ?_⟩
  rw [← hcontributions, List.countP_eq_length_filter, ← List.map_const']
  rfl

end Registry

/-! ## What layouts are generated from -/

/-- No warning about a name is one about a contribution. -/
theorem contributionWarning_notMem_warnings (layouts : List Layout) (utilities : List Utility) :
    Registry.contributionWarning ∉ (UtilitySet.assemble layouts utilities).warnings := by
  have hlayout : ∀ name, (layoutWarning name).head? = some 'L' := fun _ => rfl
  have harea : ∀ area, (areaWarning area).head? = some 'A' := fun _ => rfl
  have hcontribution : Registry.contributionWarning.head? = some 'I' := rfl
  intro hm
  rcases List.mem_append.mp hm with hm | hm
  · obtain ⟨name, -, he⟩ := List.mem_map.mp hm
    rw [← he, hlayout] at hcontribution
    exact absurd hcontribution (by decide)
  · obtain ⟨area, -, he⟩ := List.mem_map.mp hm
    rw [← he, harea] at hcontribution
    exact absurd hcontribution (by decide)

/-- **Which layouts a session generates from.** A configured source counts; else that of the
latest registered plugin that gives one. The names come in the order in which they are first
given, by the plugins in the order of their registration and by the settings behind them. Every
contribution that is no record of layouts causes one warning, before all warnings about names. -/
theorem generate_precedence {session : Session} (hr : session.registry.Reachable)
    (hdiscovered : session.discovered.error = none)
    (honce : ∀ plugin ∈ session.discovered.registry.plugins.values,
      plugin.hooks.count .registerLayouts ≤ 1)
    (hanswer : ∀ plugin ∈ session.discovered.registry.implementing .registerLayouts,
      plugin.form = .object) :
    ∃ (contributions : List Contribution) (sources : LayoutSources),
      contributions = session.discovered.registry.contributions ∧
      session.generate.result = .ok ((UtilitySet.generate sources).map fun set =>
        ⟨set, List.replicate (contributions.countP Contribution.isUnusable)
          Registry.contributionWarning ++ set.warnings⟩) ∧
      (∀ name, sources.get? name = (session.settings.sources.get? name).or
        (contributions.reverse.findSome? (Contribution.source? name))) ∧
      sources.keys =
        (contributions.flatMap Contribution.names ++ session.settings.sources.keys).eraseDups ∧
      ∀ set, UtilitySet.generate sources = .ok set →
        Layout.ofSources sources = .ok set.layouts ∧
          Registry.contributionWarning ∉ set.warnings := by
  obtain ⟨collected, hcollected, hsources, hwarnings⟩ :=
    (Session.reachable_discovered hr).ordered.collect honce hanswer
  refine ⟨_, collected.sources.update session.settings.sources, rfl, ?_, fun name => ?_, ?_,
    fun set hset => ?_⟩
  · rw [Session.generate]
    dsimp only
    rw [hdiscovered, hcollected, ← hwarnings]
    dsimp only
    cases UtilitySet.generate (collected.sources.update session.settings.sources) <;> rfl
  · rw [Table.get?_update, hsources, Registry.get?_mergeContributions]
  · rw [Table.keys_update, hsources, Registry.keys_mergeContributions, eraseDups_eraseDups_append]
  · obtain ⟨layouts, hlayouts, -, rfl⟩ := UtilitySet.generate_eq_ok_iff.mp hset
    exact ⟨hlayouts, contributionWarning_notMem_warnings _ _⟩

/-- A plugin that contributes. -/
def contributor (label : Text) (contribution : Contribution) : Plugin :=
  { asidePlugin with
    identity := .given label
    blueprint := { asidePlugin.blueprint with contribution } }

/-- The source of a layout of one row. -/
def oneRow (row : String) : LayoutSource := .raw (.list [.text row.toList])

/-- Three contributions: two that give a layout of one name, and between them an unusable one. -/
def rivalContributions : List Contribution :=
  [.layouts (Table.ofList
      [("hero".toList, oneRow "a"), ("aside".toList, oneRow "b")]),
    .unusable,
    .layouts (Table.ofList
      [("none".toList, oneRow "c"), ("hero".toList, oneRow "d"), ("page".toList, oneRow "e")])]

/-- A registry of plugins that contribute in order. -/
def contributorRegistry (contributions : List Contribution) : Registry :=
  contributions.zipIdx.foldl
    (fun registry c =>
      let label := Text.ofNat c.2
      (registry.register (contributor label c.1) (some label)).registry)
    .empty

theorem reachable_contributorRegistry (contributions : List Contribution) :
    (contributorRegistry contributions).Reachable := by
  unfold contributorRegistry
  induction contributions.zipIdx using List.reverseRecOn with
  | nil => exact .empty
  | append_singleton cs c ih =>
    rw [List.foldl_append, List.foldl_cons, List.foldl_nil]
    have hbefore : ∀ made, (contributor (Text.ofNat c.2) c.1).identity.IsBefore made :=
      fun _ => trivial
    exact ih.register (hbefore _) _

/-- A page that configures a layout beside those of the plugins. -/
def rivalPage : Session := pageSession ["head".toList] (contributorRegistry rivalContributions) []

/-- The later plugin gives the layout that two of them name, in the place that the earlier one
gave it, and the settings give their own. -/
theorem generate_precedence_rivalPage :
    ∃ (sources : LayoutSources) (generation : Generation),
      rivalPage.generate.result = .ok (.ok generation) ∧
      UtilitySet.generate sources = .ok generation.set ∧
      sources.keys = ["hero".toList, "aside".toList, "none".toList, "page".toList] ∧
      sources.get? "hero".toList = some (oneRow "d") ∧
      sources.get? "page".toList = some (oneRow "head") ∧
      generation.warnings =
        [Registry.contributionWarning, layoutWarning "none".toList] := by
  have hr : rivalPage.registry.Reachable := reachable_contributorRegistry rivalContributions
  have hcontributions : rivalPage.discovered.registry.contributions = rivalContributions := by
    with_unfolding_all rfl
  obtain ⟨_, sources, rfl, hresult, hget, hkeys, -⟩ := generate_precedence hr (by decide +kernel)
    (by decide +kernel) (by decide +kernel)
  rw [hcontributions] at hresult hget hkeys
  obtain ⟨generation, hg, hwarnings⟩ := rivalPage.exists_generation
    (fun generation => generation.set.warnings == [layoutWarning "none".toList]) (by decide +kernel)
  have hmap := Except.ok.inj (hresult.symm.trans hg)
  cases hset : UtilitySet.generate sources with
  | error fault =>
    rw [hset] at hmap
    cases hmap
  | ok set =>
    rw [hset] at hmap
    obtain rfl := Except.ok.inj hmap
    refine ⟨sources, _, hg, hset, hkeys.trans (by decide +kernel), ?_, ?_, ?_⟩
    · rw [hget]
      with_unfolding_all rfl
    · rw [hget]
      with_unfolding_all rfl
    · exact congrArg ([Registry.contributionWarning] ++ ·) (beq_iff_eq.mp hwarnings)

end NamedGrid
