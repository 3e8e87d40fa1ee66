import NamedGrid.Proofs.Loading

/-!
# The order of plugins after discovery

Discovery takes out every blueprint that waits for an instance and enters the instance anew. The
plugins that do not wait keep their places and the instances come behind them, in whatever order
the blueprints were replaced; the plugins from files come last of all. Layouts are merged in the
order that is found then. So a blueprint that was registered before another plugin outlives it,
and the order of registration is kept just where the blueprints that wait came last.
-/

namespace NamedGrid

namespace Registry

/-! ## Merging what is contributed more than once -/

/-- To repeat the last contribution changes nothing. -/
theorem mergeContributions_concat_replicate (contributions : List Contribution) (c : Contribution)
    (n : Nat) :
    mergeContributions (contributions ++ List.replicate (n + 1) c) =
      mergeContributions (contributions ++ [c]) := by
  induction n with
  | zero => rfl
  | succ n ih =>
    rw [List.replicate_succ', ← List.append_assoc, mergeContributions, List.foldl_append,
      ← mergeContributions, ih]
    simp only [mergeContributions, List.foldl_append, List.foldl_cons, List.foldl_nil]
    cases c with
    | layouts sources => exact Table.update_update_self _ _
    | nothing => rfl
    | unusable => rfl

/-- What plugins contribute that implement the hook for it, each plugin once. -/
def contributionsOf (plugins : List Plugin) : List Contribution :=
  (plugins.filter fun plugin => plugin.hooks.contains .registerLayouts).map fun plugin =>
    plugin.blueprint.contribution

/-- A plugin that implements the hook more than once is merged like one that does so once. -/
theorem mergeContributions_flatMap (plugins : List Plugin) :
    mergeContributions (plugins.flatMap fun plugin =>
        List.replicate (plugin.hooks.count .registerLayouts) plugin.blueprint.contribution) =
      mergeContributions (contributionsOf plugins) := by
  induction plugins using List.reverseRecOn with
  | nil => rfl
  | append_singleton plugins plugin ih =>
    have happend : ∀ cs ds : List Contribution, mergeContributions cs = mergeContributions ds →
        ∀ es, mergeContributions (cs ++ es) = mergeContributions (ds ++ es) := by
      intro cs ds h es
      rw [mergeContributions, List.foldl_append, ← mergeContributions, h, mergeContributions,
        ← List.foldl_append, ← mergeContributions]
    rw [List.flatMap_append, List.flatMap_singleton, contributionsOf, List.filter_append,
      List.map_append, ← contributionsOf, happend _ _ ih]
    cases hcount : plugin.hooks.count .registerLayouts with
    | zero =>
      have hnone : Hook.registerLayouts ∉ plugin.hooks := List.count_eq_zero.mp hcount
      simp [hnone]
    | succ n =>
      have hsome : Hook.registerLayouts ∈ plugin.hooks :=
        List.count_pos_iff.mp (hcount ▸ Nat.succ_pos n)
      rw [mergeContributions_concat_replicate]
      simp [hsome]

/-- Collecting merges what the plugins contribute, in the order of their registration, unless a
blueprint is among them. -/
theorem Ordered.collect_cases {registry : Registry} (h : Ordered registry) :
    ((∀ plugin ∈ registry.implementing .registerLayouts, plugin.form = .object) →
      ∃ collected, registry.collect = .ok collected ∧
        collected.sources = mergeContributions registry.contributions) ∧
    ((¬∀ plugin ∈ registry.implementing .registerLayouts, plugin.form = .object) →
      registry.collect = .error .notInstantiated) := by
  have hmem : ∀ plugin, plugin ∈ registry.listeners .registerLayouts ↔
      plugin ∈ registry.implementing .registerLayouts := by
    intro plugin
    rw [h.listeners_flatMap, List.mem_reverse, List.mem_flatMap, implementing, List.mem_filter]
    simp only [List.mem_replicate, ne_eq, List.count_eq_zero, Decidable.not_not,
      List.contains_iff_mem]
    constructor
    · rintro ⟨_, hvalue, hhook, rfl⟩
      exact ⟨hvalue, hhook⟩
    · rintro ⟨hvalue, hhook⟩
      exact ⟨plugin, hvalue, hhook, rfl⟩
  simp only [← hmem]
  obtain ⟨hall, hfail⟩ := answering_eq (registry.listeners .registerLayouts)
  refine ⟨fun hobjects => ?_, fun hblueprint => ?_⟩
  · rw [Registry.collect, hall hobjects]
    refine ⟨_, rfl, ?_⟩
    rw [h.listeners_flatMap, List.map_reverse, List.reverse_reverse, List.map_flatMap]
    simp only [List.map_replicate]
    exact mergeContributions_flatMap registry.plugins.values
  · have herror := hfail hblueprint
    rw [Registry.collect]
    generalize answering (registry.listeners .registerLayouts) = answers at herror
    obtain ⟨answered, error⟩ := answers
    rw [show error = some .notInstantiated from herror]

/-! ## The order in the end -/

/-- What plugins contribute depends on their kinds alone. -/
theorem contributionsOf_kind {entries others : List (Text × Plugin)}
    (h : entries.map kind = others.map kind) :
    contributionsOf (entries.map Prod.snd) = contributionsOf (others.map Prod.snd) := by
  have hkind : ∀ es : List (Text × Plugin), contributionsOf (es.map Prod.snd) =
      ((es.map kind).filter fun k => k.2.hooks.contains .registerLayouts).map fun k =>
        k.2.contribution := by
    intro es
    rw [contributionsOf, List.filter_map, List.filter_map, List.map_map, List.map_map]
    rfl
  rw [hkind, hkind, h]

theorem perm_remaining_append {registry : Registry} {order : List (Text × Plugin)}
    (h : order.Perm registry.waiting) :
    (registry.remaining ++ order).Perm registry.plugins.entries := by
  have hsplit := List.filter_append_perm (fun e : Text × Plugin => awaitsInstance e.2)
    registry.plugins.entries
  exact (h.append_left registry.remaining).trans (List.perm_append_comm.trans hsplit)

/-- Entries that are rearranged, with others behind them, begin with the same names only if they are
in the same order. -/
theorem names_prefix_iff {registry : Registry} {entries : List (Text × Plugin)}
    (h : entries.Perm registry.plugins.entries) (more : List Text) :
    registry.names <+: entries.map Prod.fst ++ more ↔ registry.plugins.entries = entries := by
  have hlength : registry.names.length = (entries.map Prod.fst).length := by
    rw [names, Table.keys, List.length_map, List.length_map, h.length_eq]
  refine ⟨fun hfront => ?_, fun heq => ?_⟩
  · have hnames : registry.names = entries.map Prod.fst :=
      (List.prefix_of_prefix_length_le hfront (List.prefix_append _ _) hlength.le).eq_of_length
        hlength
    refine List.ext_getElem h.length_eq.symm fun i hi hi' => ?_
    refine List.inj_on_of_nodup_map registry.plugins.nodup (List.getElem_mem hi)
      (h.mem_iff.mp (List.getElem_mem hi')) ?_
    have hget := List.getElem_of_eq hnames (i := i) (by simpa [names, Table.keys] using hi)
    simpa [names, Table.keys] using hget
  · rw [names, Table.keys, heq]
    exact List.prefix_append _ _

/-- Plugins that are objects contribute like others of their kinds; what stays of the rest decides
whether there is an answer. -/
theorem Ordered.collect_kinds {registry : Registry} (h : Ordered registry)
    {kept objects others : List (Text × Plugin)}
    (hentries : registry.plugins.entries = kept ++ objects)
    (hobjects : ∀ e ∈ objects, e.2.form = .object)
    (hkinds : objects.map kind = others.map kind) :
    let listens := fun e : Text × Plugin => .registerLayouts ∈ e.2.hooks
    ((∀ e ∈ kept, listens e → e.2.form = .object) →
      ∃ collected, registry.collect = .ok collected ∧
        collected.sources =
          mergeContributions (contributionsOf ((kept ++ others).map Prod.snd))) ∧
    ((∃ e ∈ kept, listens e ∧ e.2.form = .blueprint) →
      registry.collect = .error .notInstantiated) := by
  intro listens
  have hasked : ∀ plugin, plugin ∈ registry.implementing .registerLayouts ↔
      ∃ e ∈ kept ++ objects, listens e ∧ e.2 = plugin := by
    intro plugin
    rw [implementing, List.mem_filter, Table.values, hentries, List.mem_map]
    simp only [List.contains_iff_mem]
    constructor
    · rintro ⟨⟨e, he, rfl⟩, hlistens⟩
      exact ⟨e, he, hlistens, rfl⟩
    · rintro ⟨e, he, hlistens, rfl⟩
      exact ⟨⟨e, he, rfl⟩, hlistens⟩
  obtain ⟨hmerge, hfail⟩ := h.collect_cases
  refine ⟨fun hkept => ?_, ?_⟩
  · have hanswer : ∀ plugin ∈ registry.implementing .registerLayouts, plugin.form = .object := by
      intro plugin hplugin
      obtain ⟨e, he, hlistens, rfl⟩ := (hasked plugin).mp hplugin
      exact (List.mem_append.mp he).elim (fun he => hkept e he hlistens) (hobjects e)
    obtain ⟨collected, hcollect, hsources⟩ := hmerge hanswer
    refine ⟨collected, hcollect, hsources.trans (congrArg mergeContributions ?_)⟩
    have hcontributions : registry.contributions =
        contributionsOf ((kept ++ objects).map Prod.snd) := by
      rw [← hentries]
      rfl
    rw [hcontributions]
    exact contributionsOf_kind (by rw [List.map_append, List.map_append, hkinds])
  · rintro ⟨e, he, hlistens, hform⟩
    refine hfail fun hall => ?_
    have hobject := hall e.2 ((hasked e.2).mpr ⟨e, List.mem_append_left _ he, hlistens, rfl⟩)
    cases hform.symm.trans hobject

/-- **Where discovery leaves the plugins.** Let every blueprint that waits be one of which instances
can be made. In whatever order discovery replaces them, it fails only with a file that ends the
program, the plugins that do not wait keep their order, the instances follow in the order of
the replacements and the plugins from files come after all. The names that were registered stand
in front as before exactly if the blueprints that wait were the last ones, in the order in which
they are replaced. Layouts are merged in the order that results; only a blueprint that listens and
does not wait stands against it. -/
theorem discover_order {registry : Registry} (hr : registry.Reachable)
    {order : List (Text × Plugin)} (horder : order.Perm registry.waiting)
    (hmade : ∀ e ∈ order, e.2.blueprint.fails = false) (directory : Option (List PluginFile)) :
    let discovered := registry.discoverIn order directory
    (order = registry.waiting → registry.discover directory = discovered) ∧
      discovered.error = PluginFile.exit? directory ∧
      ∃ instances loaded : List (Text × Plugin),
        discovered.registry.plugins.entries = registry.remaining ++ (instances ++ loaded) ∧
        instances.map kind = order.map kind ∧ (∀ e ∈ instances, e.2.form = .object) ∧
        (∀ e ∈ loaded, filePluginLead <+: e.1 ∧ e.2.form = .object) ∧
        (registry.names <+: discovered.registry.names ↔
          registry.plugins.entries = registry.remaining ++ order) ∧
        let listens := fun e : Text × Plugin => .registerLayouts ∈ e.2.hooks
        ((∀ e ∈ registry.remaining, listens e → e.2.form = .object) →
          ∃ collected, discovered.registry.collect = .ok collected ∧
            collected.sources = mergeContributions
              (contributionsOf ((registry.remaining ++ (order ++ loaded)).map Prod.snd))) ∧
        ((∃ e ∈ registry.remaining, listens e ∧ e.2.form = .blueprint) →
          discovered.registry.collect = .error .notInstantiated) := by
  intro discovered
  obtain ⟨herror, -, hordered, instances, loaded, hentries, hmakes, hnew, hobjects⟩ :=
    discoverIn_entries hr.sound hr.ordered hr.fits horder directory
  have hkinds : instances.map kind = order.map kind := by
    rw [hmakes, List.filter_eq_self.mpr]
    exact fun e he => by simp [canInstantiate, hmade e he]
  have hinstances : ∀ e ∈ instances, e.2.form = .object := fun e he =>
    hobjects e (List.mem_append_left _ he)
  have hloaded : ∀ e ∈ loaded, filePluginLead <+: e.1 ∧ e.2.form = .object := by
    refine fun e he => ⟨?_, hobjects e (List.mem_append_right _ he)⟩
    have hoffered : kind e ∈ PluginFile.offered directory :=
      (newcomers_sublist _ _).subset (hnew ▸ List.mem_map_of_mem he)
    obtain ⟨file, -, -, -, -, hname⟩ := PluginFile.mem_offered_iff.mp hoffered
    exact hname ▸ ⟨_, (List.append_assoc ..).symm⟩
  have hnames : discovered.registry.names =
      (registry.remaining ++ order).map Prod.fst ++ loaded.map Prod.fst := by
    rw [names, Table.keys, hentries, List.map_append, List.map_append, List.map_append,
      ← names_kind instances, hkinds, names_kind, List.append_assoc]
  have hall : (instances ++ loaded).map kind = (order ++ loaded).map kind := by
    rw [List.map_append, List.map_append, hkinds]
  refine ⟨fun heq => ?_, herror, instances, loaded, hentries, hkinds, hinstances, hloaded, ?_,
    hordered.collect_kinds hentries hobjects hall⟩
  · rw [discover_eq, ← heq]
  · rw [hnames]
    exact names_prefix_iff (perm_remaining_append horder) _

/-- A blueprint that contributes a layout of one name. -/
def heroBlueprint (className row : String) : Blueprint where
  className := className.toList
  methods := [⟨Hook.registerLayouts.name, none, false, []⟩]
  contribution := .layouts (Table.ofList [("hero".toList, oneRow row)])
  fails := false

/-- A registry of a blueprint and, registered after it, an object. -/
def heroRegistry : Registry :=
  ((Registry.empty.register ⟨.given "a".toList, heroBlueprint "A" "a", .blueprint⟩
    (some "a".toList)).registry.register ⟨.given "b".toList, heroBlueprint "B" "b", .object⟩
      (some "b".toList)).registry

theorem reachable_heroRegistry : heroRegistry.Reachable := by
  have hgiven : ∀ (label : String) (made : Nat),
      (Identity.given label.toList).IsBefore made := fun _ _ => trivial
  exact (Reachable.empty.register (hgiven "a" _) (some "a".toList)).register (hgiven "b" _)
    (some "b".toList)

/-- A plugin file that contributes the same layout. -/
def heroFile : PluginFile where
  fileName := "hero.py".toList
  members := [("C".toList, heroBlueprint "C" "c")]
  loading := .succeeds

/-- The instance of the blueprint comes behind the object, and the plugin of the file behind
both. -/
theorem discover_order_heroRegistry :
    let discovered := heroRegistry.discover (some [heroFile])
    ¬heroRegistry.names <+: discovered.registry.names ∧
      ∃ collected loaded, discovered.registry.collect = .ok collected ∧ loaded.length = 1 ∧
        (∀ e ∈ loaded, filePluginLead <+: e.1) ∧
        collected.sources = mergeContributions (contributionsOf
          ((heroRegistry.remaining ++ (heroRegistry.waiting ++ loaded)).map Prod.snd)) := by
  obtain ⟨hdiscover, -, instances, loaded, hentries, hkinds, -, hloaded, hfront, hcollect, -⟩ :=
    discover_order reachable_heroRegistry (List.Perm.refl _) (by decide +kernel) (some [heroFile])
  rw [← hdiscover rfl] at hentries hfront hcollect
  obtain ⟨collected, hcollected, hsources⟩ := hcollect (by decide +kernel)
  refine ⟨fun hnames => ?_, collected, loaded, hcollected, ?_, fun e he => (hloaded e he).1,
    hsources⟩
  · have hsame := congrArg (List.map Prod.fst) (hfront.mp hnames)
    revert hsame
    decide +kernel
  · have hlength :
        (heroRegistry.discover (some [heroFile])).registry.plugins.entries.length = 3 := by
      decide +kernel
    have hinstances : instances.length = heroRegistry.waiting.length := by
      simpa using congrArg List.length hkinds
    have hwaiting : heroRegistry.waiting.length = 1 ∧ heroRegistry.remaining.length = 1 := by
      decide +kernel
    rw [hentries, List.length_append, List.length_append] at hlength
    omega

/-- The object was registered last, but after discovery the layout is that of the blueprint: its
instance was registered anew. -/
theorem discover_turns_order :
    heroRegistry.names = ["a".toList, "b".toList] ∧
      (heroRegistry.discover none).registry.names = ["b".toList, "a".toList] ∧
      (mergeContributions (contributionsOf heroRegistry.plugins.values)).get? "hero".toList =
        some (oneRow "b") ∧
      ∃ collected, (heroRegistry.discover none).registry.collect = .ok collected ∧
        collected.sources.get? "hero".toList = some (oneRow "a") := by
  refine ⟨by decide +kernel, by decide +kernel, ?_, ?_⟩
  · with_unfolding_all rfl
  · exact ⟨_, by with_unfolding_all rfl, by with_unfolding_all rfl⟩

end Registry

end NamedGrid
