import NamedGrid.Proofs.RegistrationOrder

/-!
# Discovery that is repeated

A plugin file that is broken and a kind of plugin that cannot be registered are left out,
and nothing else is: discovery enters one object for each kind that is offered under a new name.
When it is repeated, no blueprint waits any more and all names that are offered are taken, so
nothing changes (`discovery_settles`). A file that ends the program is another matter: it ends
discovery as well, and the files behind it are not loaded.
-/

namespace NamedGrid

namespace Registry

variable {registry later : Registry}

/-- Implementations follow from the plugins in their order. -/
theorem Ordered.implementations_eq (h : Ordered registry) (hlater : Ordered later)
    (hentries : later.plugins.entries = registry.plugins.entries) :
    later.implementations = registry.implementations := by
  rw [h.implementations, hlater.implementations, Table.values, Table.values, hentries]

/-- After discovery no blueprint waits for an instance. -/
theorem Discovers.waiting_eq_nil {order : List (Text × Plugin)}
    {offered : List (Text × Blueprint)} {instances loaded : List (Text × Plugin)}
    (h : Discovers registry later order offered instances loaded) : later.waiting = [] := by
  rw [waiting, List.filter_eq_nil_iff]
  intro e he
  rw [h.entries, List.mem_append] at he
  rcases he with he | he
  · simpa using (List.mem_filter.mp he).2
  · simp [awaitsInstance, h.objects e he]

/-- After discovery all names that are offered are taken. -/
theorem Discovers.mem_names {order : List (Text × Plugin)} {offered : List (Text × Blueprint)}
    {instances loaded : List (Text × Plugin)}
    (h : Discovers registry later order offered instances loaded) {name : Text}
    (hname : name ∈ offered.map Prod.fst) : name ∈ later.names := by
  rw [names, Table.keys, h.entries, ← List.append_assoc, List.map_append, ← names_kind loaded,
    h.new]
  exact mem_names_newcomers_iff.mpr (.inr hname)

/-- Where nothing waits and all names are taken, discovery changes no entry. -/
theorem discover_entries_of_settled (hs : Sound registry) (ho : Ordered registry)
    (hfits : AllFit registry) (hwaiting : registry.waiting = [])
    {directory : Option (List PluginFile)}
    (hnames : ∀ name ∈ (PluginFile.offered directory).map Prod.fst, name ∈ registry.names) :
    let again := registry.discover directory
    again.error = PluginFile.exit? directory ∧ Ordered again.registry ∧
      again.registry.plugins.entries = registry.plugins.entries := by
  intro again
  obtain ⟨herror, -, hordered, instances, loaded, hdiscovers⟩ :=
    discoverIn_entries hs ho hfits (List.Perm.refl registry.waiting) directory
  rw [← discover_eq] at herror hordered hdiscovers
  have hinstances : instances = [] := by
    have hmade := hdiscovers.made
    rwa [hwaiting, List.filter_nil, List.map_nil, List.map_eq_nil_iff] at hmade
  have hremaining : registry.remaining = registry.plugins.entries := by
    rw [remaining, List.filter_eq_self]
    intro e he
    simpa using (List.filter_eq_nil_iff.mp hwaiting) e he
  have hloaded : loaded = [] := by
    have hnew := hdiscovers.new
    rw [hinstances, List.append_nil, hremaining] at hnew
    exact List.map_eq_nil_iff.mp (hnew.trans (newcomers_of_subset hnames))
  refine ⟨herror, hordered, ?_⟩
  rw [hdiscovers.entries, hinstances, hloaded, hremaining, List.append_nil, List.append_nil]

/-- Discovery in any order leaves only plugins that fit. -/
theorem AllFit.discoverIn (h : AllFit registry) (order : List (Text × Plugin))
    (directory : Option (List PluginFile)) :
    AllFit (registry.discoverIn order directory).registry := by
  have hreplaced : AllFit (registry.replaceIn order).registry :=
    runAll_induction (fun e _ _ hr => hr.replaceBlueprint e.1 e.2) h
  have hchecked : AllFit (registry.replaceIn order).registry.checkAll.registry := by
    obtain ⟨checked, hcheck⟩ := (registry.replaceIn order).registry.checkAll_registry
    rwa [hcheck]
  have hloaded : AllFit ((registry.replaceIn order).registry.checkAll.registry.loadDirectory
      directory).registry :=
    runAll_induction (fun _ _ _ hr => loadFile_induction
      (fun _ blueprint hs => hs.enterNew blueprint _) (fun _ _ hs => hs) hr) hchecked
  unfold Registry.discoverIn
  dsimp only
  split
  · exact hreplaced
  · split
    · exact hloaded
    · exact hloaded

end Registry

end NamedGrid
