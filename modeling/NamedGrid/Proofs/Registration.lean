import NamedGrid.Proofs.Entering

/-!
# Runs of the registry

A registry is reached by making objects, entering, registering and unregistering plugins, and
discovering. Every step is put together from four smaller ones: a name is removed, a new object is
entered, hooks are checked, discovery is noted. What these keep is kept by every run; so all
identities in a registry are older than the next object, all plugins in it fit, and discovery
brings no names but those of plugin files.
-/

namespace NamedGrid

/-- Was the object there before a number of objects had been made? -/
def Identity.IsBefore (bound : Nat) : Identity → Prop
  | .given _ => True
  | .made n => n < bound

theorem Identity.IsBefore.mono {a b : Nat} (hab : a ≤ b) {identity : Identity}
    (h : identity.IsBefore a) : identity.IsBefore b := by
  cases identity with
  | given label => trivial
  | made n => exact Nat.lt_of_lt_of_le h hab

namespace PluginFile

/-- The name under which a kind of plugin from a file is registered. -/
def pluginName (file : PluginFile) (blueprint : Blueprint) : Text :=
  file.moduleName ++ '.' :: blueprint.className

theorem mem_eligible_iff {files : List PluginFile} {file : PluginFile} :
    file ∈ eligible files ↔ file ∈ files ∧ file.isEligible = true := by
  rw [eligible, List.mem_mergeSort, List.mem_filter]

end PluginFile

namespace Registry

/-- The registries that are reached from the empty one. What is registered was made outside
or by the registry itself; a step that fails counts as well. A plugin that is installed is entered
without a check. -/
inductive Reachable : Registry → Prop
  | empty : Reachable .empty
  | instantiate {registry : Registry} (h : Reachable registry) (blueprint : Blueprint) :
      Reachable (registry.instantiate blueprint).2
  | enter {registry : Registry} (h : Reachable registry) {plugin : Plugin}
      (hp : plugin.identity.IsBefore registry.made) (name : Text) :
      Reachable (registry.enter plugin name).1
  | register {registry : Registry} (h : Reachable registry) {plugin : Plugin}
      (hp : plugin.identity.IsBefore registry.made) (name : Option Text) :
      Reachable (registry.register plugin name).registry
  | unregister {registry : Registry} (h : Reachable registry) (plugin : Plugin) :
      Reachable (registry.unregister plugin).registry
  | discover {registry : Registry} (h : Reachable registry)
      (directory : Option (List PluginFile)) :
      Reachable (registry.discover directory).registry

/-! ## Induction along discovery -/

/-- What every step keeps is kept by a run of steps. -/
theorem runAll_induction {α : Type} {step : Registry → α → Step} {P : Registry → Prop}
    {as : List α} (hstep : ∀ a ∈ as, ∀ registry, P registry → P (step registry a).registry)
    {registry : Registry} (h : P registry) : P (runAll step as registry).registry := by
  induction as generalizing registry with
  | nil => exact h
  | cons a as ih =>
    obtain ⟨hhead, htail⟩ := List.forall_mem_cons.mp hstep
    have hfirst := hhead registry h
    unfold runAll
    cases he : (step registry a).error with
    | some error => simpa only [he] using hfirst
    | none => simpa only [he] using ih htail hfirst

/-- What a step keeps together with a condition on the members that are left is kept by a run
of steps. -/
theorem runAll_induction_rest {α : Type} {step : Registry → α → Step} {P : Registry → Prop}
    {Q : List α → Registry → Prop}
    (hstep : ∀ a rest registry, Q (a :: rest) registry → P registry →
      P (step registry a).registry ∧ Q rest (step registry a).registry)
    {as : List α} {registry : Registry} (hQ : Q as registry) (h : P registry) :
    P (runAll step as registry).registry := by
  induction as generalizing registry with
  | nil => exact h
  | cons a as ih =>
    obtain ⟨hfirst, hrest⟩ := hstep a as registry hQ h
    unfold runAll
    cases he : (step registry a).error with
    | some error => simpa only [he] using hfirst
    | none => simpa only [he] using ih hrest hfirst

/-- A registry step that enters an object made for it. -/
def enterNew (registry : Registry) (blueprint : Blueprint) (name : Text) : Registry :=
  ((registry.instantiate blueprint).2.enter (registry.instantiate blueprint).1 name).1

/-- The lead of every name that is given to a plugin from a file. -/
def filePluginLead : Text := "gridareas_local_plugin_".toList

/-- Entering an object leaves the plugins of other names in place. -/
theorem mem_entries_enterNew {registry : Registry} (blueprint : Blueprint) {name : Text}
    {e : Text × Plugin} (he : e ∈ registry.plugins.entries) (hne : e.1 ≠ name) :
    e ∈ (registry.enterNew blueprint name).plugins.entries := by
  have hkept : e ∈ (registry.instantiate blueprint).2.plugins.entries := he
  unfold enterNew
  rcases enter_cases (registry.instantiate blueprint).2 (registry.instantiate blueprint).1 name with
    henter | henter
  · rwa [henter]
  · rw [henter]
    exact Table.mem_entries_insert_of_ne hkept hne

/-- What removing registered plugins and entering new objects under their names keep is kept by
replacing blueprints. -/
theorem replaceBlueprints_induction {P : Registry → Prop} {registry : Registry}
    (hremove : ∀ r : Registry, ∀ e ∈ r.plugins.entries, P r → P (r.remove e.1 e.2.identity))
    (henter : ∀ r blueprint, ∀ name ∈ registry.names, P r → P (r.enterNew blueprint name))
    (h : P registry) : P registry.replaceBlueprints.registry := by
  -- The blueprints that are still to be replaced are registered as they were at the start.
  refine runAll_induction_rest
    (Q := fun rest r => rest ⊆ registry.plugins.entries ∧ (rest.map Prod.fst).Nodup ∧
      ∀ e ∈ rest, e ∈ r.plugins.entries) ?_
    ⟨List.filter_sublist.subset,
      registry.plugins.nodup.sublist (List.filter_sublist.map Prod.fst),
      fun e he => (List.mem_filter.mp he).1⟩ h
  rintro e rest r ⟨hknown, hnodup, hin⟩ hr
  obtain ⟨he, hrest⟩ := List.forall_mem_cons.mp hin
  obtain ⟨hfirst, hnodup⟩ := List.nodup_cons.mp hnodup
  have hname : e.1 ∈ registry.names := List.mem_map_of_mem (hknown List.mem_cons_self)
  have hsubset : rest ⊆ registry.plugins.entries := fun f hf =>
    hknown (List.mem_cons_of_mem e hf)
  have hother : ∀ f ∈ rest, f.1 ≠ e.1 := fun f hf heq =>
    hfirst (heq ▸ List.mem_map_of_mem hf)
  have hkept : ∀ f ∈ rest, f ∈ (r.remove e.1 e.2.identity).plugins.entries := fun f hf =>
    List.mem_filter.mpr ⟨hrest f hf, decide_eq_true (hother f hf)⟩
  unfold replaceBlueprint
  dsimp only
  split
  · exact ⟨hremove r e he hr, hsubset, hnodup, hkept⟩
  · exact ⟨henter _ e.2.blueprint e.1 hname (hremove r e he hr), hsubset, hnodup,
      fun f hf => mem_entries_enterNew e.2.blueprint (hkept f hf) (hother f hf)⟩

/-- What entering new objects under the names for them and checking keep is kept by loading a
file. -/
theorem loadFile_induction {P : Registry → Prop} {file : PluginFile}
    (henter : ∀ r blueprint, P r → P (r.enterNew blueprint (file.pluginName blueprint)))
    (hchecked : ∀ r checked, P r → P { r with checked })
    {registry : Registry} (h : P registry) : P (registry.loadFile file).registry := by
  unfold loadFile
  split
  · refine runAll_induction (fun blueprint _ r hr => ?_) h
    unfold loadBlueprint
    dsimp only
    split
    · exact hr
    · split
      · exact hr
      · obtain ⟨checked, he⟩ := register_registry (r.instantiate blueprint).2
          (r.instantiate blueprint).1 (some (file.moduleName ++ '.' :: blueprint.className))
        have hentered := hchecked _ checked (henter r blueprint hr)
        split
        · exact he ▸ hentered
        · exact he ▸ hentered
  · exact h
  · exact h

/-- What removing registered plugins, entering new objects under their names or under those for
plugins from files, checking and noting keep is kept by discovery. -/
theorem discover_induction {P : Registry → Prop} {registry : Registry}
    {directory : Option (List PluginFile)}
    (hremove : ∀ r : Registry, ∀ e ∈ r.plugins.entries, P r → P (r.remove e.1 e.2.identity))
    (henter : ∀ r blueprint name, (name ∈ registry.names ∨ filePluginLead <+: name) →
      P r → P (r.enterNew blueprint name))
    (hchecked : ∀ r checked, P r → P { r with checked })
    (hloaded : ∀ r, P r → P { r with isLoaded := true })
    (h : P registry) : P (registry.discover directory).registry := by
  have hreplace : P registry.replaceBlueprints.registry :=
    replaceBlueprints_induction hremove
      (fun r blueprint name hn => henter r blueprint name (.inl hn)) h
  have hcheck : ∀ r : Registry, P r → P r.checkAll.registry := by
    refine fun r hr => runAll_induction (fun e _ s hs => ?_) hr
    obtain ⟨checked, he⟩ := check_registry s e.1 e.2
    exact he ▸ hchecked s checked hs
  have hload : ∀ r : Registry, P r → P (r.loadDirectory directory).registry := by
    refine fun r hr => runAll_induction (fun file _ s hs => ?_) hr
    exact loadFile_induction
      (fun t blueprint => henter t blueprint _ (.inr ⟨_, (List.append_assoc ..).symm⟩)) hchecked hs
  have hstages : P (runAll (fun r (stage : Registry → Step) => stage r)
      [fun r => r.enterInstalled [], replaceBlueprints, checkAll,
        fun r => r.loadDirectory directory] registry).registry := by
    -- The second stage reads the names that are known at the start, so it is taken apart.
    have hrest : P (runAll (fun r (stage : Registry → Step) => stage r)
        [checkAll, fun r => r.loadDirectory directory]
        registry.replaceBlueprints.registry).registry := by
      refine runAll_induction (fun stage hs r hr => ?_) hreplace
      simp only [List.mem_cons, List.not_mem_nil, or_false] at hs
      rcases hs with rfl | rfl
      · exact hcheck r hr
      · exact hload r hr
    change P (runAll (fun r (stage : Registry → Step) => stage r)
      [replaceBlueprints, checkAll, fun r => r.loadDirectory directory] registry).registry
    unfold runAll
    cases he : registry.replaceBlueprints.error with
    | some error => simpa only [he] using hreplace
    | none => simpa only [he] using hrest
  unfold discover
  dsimp only
  split
  · exact hstages
  · exact hloaded _ hstages

/-! ## Identities -/

/-- All objects in a registry are older than the next one that it makes. -/
structure Sound (registry : Registry) : Prop where
  plugins : ∀ e ∈ registry.plugins.entries, e.2.identity.IsBefore registry.made
  implementations : ∀ i ∈ registry.implementations, i.plugin.identity.IsBefore registry.made

namespace Sound

theorem empty : Sound Registry.empty where
  plugins := by simp [Registry.empty, Table.empty]
  implementations := by simp [Registry.empty]

theorem instantiate {registry : Registry} (h : Sound registry) (blueprint : Blueprint) :
    Sound (registry.instantiate blueprint).2 where
  plugins e he := (h.plugins e he).mono (Nat.le_succ _)
  implementations i hi := (h.implementations i hi).mono (Nat.le_succ _)

theorem remove {registry : Registry} (h : Sound registry) (name : Text) (identity : Identity) :
    Sound (registry.remove name identity) where
  plugins e he := h.plugins e (List.mem_filter.mp he).1
  implementations i hi := h.implementations i (List.mem_filter.mp hi).1

theorem enter {registry : Registry} (h : Sound registry) {plugin : Plugin}
    (hp : plugin.identity.IsBefore registry.made) (name : Text) :
    Sound (registry.enter plugin name).1 := by
  rcases enter_cases registry plugin name with he | he
  · rw [he]
    exact h
  · rw [he]
    refine ⟨fun e hm => ?_, fun i hm => ?_⟩
    · rcases Table.mem_entries_insert hm with rfl | hm
      · exact hp
      · exact h.plugins e hm
    · rcases List.mem_append.mp hm with hm | hm
      · exact h.implementations i hm
      · obtain ⟨hook, _, rfl⟩ := List.mem_map.mp hm
        exact hp

theorem register {registry : Registry} (h : Sound registry) {plugin : Plugin}
    (hp : plugin.identity.IsBefore registry.made) (name : Option Text) :
    Sound (registry.register plugin name).registry := by
  obtain ⟨checked, he⟩ := register_registry registry plugin name
  have hentered := h.enter hp (chosenName plugin name)
  exact he ▸ ⟨hentered.plugins, hentered.implementations⟩

theorem unregister {registry : Registry} (h : Sound registry) (plugin : Plugin) :
    Sound (registry.unregister plugin).registry := by
  unfold Registry.unregister
  split
  · exact h
  · rename_i name _
    exact ⟨(h.remove name plugin.identity).plugins, (h.remove name plugin.identity).implementations⟩

theorem discover {registry : Registry} (h : Sound registry)
    (directory : Option (List PluginFile)) : Sound (registry.discover directory).registry :=
  discover_induction (fun _ e _ hr => hr.remove e.1 e.2.identity)
    (fun _ blueprint name _ hr => (hr.instantiate blueprint).enter (Nat.lt_succ_self _) name)
    (fun _ _ hr => ⟨hr.plugins, hr.implementations⟩)
    (fun _ hr => ⟨hr.plugins, hr.implementations⟩) h

end Sound

/-- Every reachable registry is sound. -/
theorem Reachable.sound {registry : Registry} (h : Reachable registry) : Sound registry := by
  induction h with
  | empty => exact .empty
  | instantiate _ blueprint ih => exact ih.instantiate blueprint
  | enter _ hp name ih => exact ih.enter hp name
  | register _ hp name ih => exact ih.register hp name
  | unregister _ plugin ih => exact ih.unregister plugin
  | discover _ directory ih => exact ih.discover directory

/-! ## Plugins that fit -/

/-- All registered plugins fit. -/
def AllFit (registry : Registry) : Prop := ∀ e ∈ registry.plugins.entries, e.2.Fits

namespace AllFit

variable {registry : Registry}

theorem empty : AllFit Registry.empty := fun _ he => absurd he List.not_mem_nil

theorem remove (h : AllFit registry) (name : Text) (identity : Identity) :
    AllFit (registry.remove name identity) := fun e he => h e (List.mem_filter.mp he).1

/-- What does not fit is not entered. -/
theorem enter (h : AllFit registry) (plugin : Plugin) (name : Text) :
    AllFit (registry.enter plugin name).1 := by
  rcases registry.enter_spec plugin name with ⟨error, he⟩ | ⟨⟨-, -, hfits⟩, he⟩
  · rwa [he]
  · rw [he]
    intro e hm
    rcases Table.mem_entries_insert hm with rfl | hm
    · exact hfits
    · exact h e hm

theorem enterNew (h : AllFit registry) (blueprint : Blueprint) (name : Text) :
    AllFit (registry.enterNew blueprint name) := by
  have hmade : AllFit (registry.instantiate blueprint).2 := h
  exact hmade.enter (registry.instantiate blueprint).1 name

theorem register (h : AllFit registry) (plugin : Plugin) (name : Option Text) :
    AllFit (registry.register plugin name).registry := by
  obtain ⟨checked, he⟩ := register_registry registry plugin name
  exact he ▸ h.enter plugin (chosenName plugin name)

theorem unregister (h : AllFit registry) (plugin : Plugin) :
    AllFit (registry.unregister plugin).registry := by
  unfold Registry.unregister
  split
  · exact h
  · rename_i name _
    exact h.remove name plugin.identity

theorem discover (h : AllFit registry) (directory : Option (List PluginFile)) :
    AllFit (registry.discover directory).registry :=
  discover_induction (fun _ e _ hr => hr.remove e.1 e.2.identity)
    (fun _ blueprint name _ hr => hr.enterNew blueprint name) (fun _ _ hr => hr) (fun _ hr => hr) h

end AllFit

/-- **All plugins in a reachable registry fit.** -/
theorem Reachable.fits {registry : Registry} (h : Reachable registry) : AllFit registry := by
  induction h with
  | empty => exact .empty
  | instantiate _ _ ih => exact ih
  | @enter _ _ plugin _ name ih => exact ih.enter plugin name
  | @register _ _ plugin _ name ih => exact ih.register plugin name
  | unregister _ plugin ih => exact ih.unregister plugin
  | discover _ directory ih => exact ih.discover directory

/-! ## Plugins that are installed -/

/-- Entering changes no number. -/
theorem made_enter (registry : Registry) (plugin : Plugin) (name : Text) :
    (registry.enter plugin name).1.made = registry.made := by
  rcases enter_cases registry plugin name with h | h <;> rw [h]
  rfl

/-- Entering installed plugins reports nothing. -/
theorem notices_enterInstalled (registry : Registry) (installed : List (Text × Plugin)) :
    (registry.enterInstalled installed).notices = [] := by
  induction installed generalizing registry with
  | nil => rfl
  | cons e installed ih =>
    rw [enterInstalled, runAll]
    dsimp only
    split
    · split <;> rfl
    · rw [← enterInstalled, ih]
      split <;> rfl

/-- Installed plugins are entered first. If that succeeds, discovery goes on from there as it would
without them. -/
theorem discover_installed (registry : Registry) (directory : Option (List PluginFile))
    (installed : List (Text × Plugin)) :
    registry.discover directory installed =
      match (registry.enterInstalled installed).error with
      | some _ => registry.enterInstalled installed
      | none => (registry.enterInstalled installed).registry.discover directory := by
  have hnone : ∀ r : Registry, r.enterInstalled [] = ⟨r, [], none⟩ := fun _ => rfl
  have hsilent := registry.notices_enterInstalled installed
  unfold discover
  rw [runAll]
  cases herror : (registry.enterInstalled installed).error with
  | some error => simp only [herror]
  | none => simp only [runAll, hnone, hsilent, List.nil_append]

/-- Discovery with installed plugins that were made outside or by the registry is a run of it. -/
theorem Reachable.discover_installed {registry : Registry} (h : Reachable registry)
    (directory : Option (List PluginFile)) {installed : List (Text × Plugin)}
    (hold : ∀ e ∈ installed, e.2.identity.IsBefore registry.made) :
    Reachable (registry.discover directory installed).registry := by
  have hentered : Reachable (registry.enterInstalled installed).registry ∧
      (registry.enterInstalled installed).registry.made = registry.made := by
    refine runAll_induction (P := fun r => Reachable r ∧ r.made = registry.made)
      (fun e he r hr => ?_) ⟨h, rfl⟩
    split
    · exact hr
    · exact ⟨hr.1.enter (hr.2.symm ▸ hold e he) e.1, (r.made_enter e.2 e.1).trans hr.2⟩
  rw [Registry.discover_installed]
  split
  · exact hentered.1
  · exact hentered.1.discover directory

/-! ## Names -/

/-- Entering a plugin brings no name but its own. -/
theorem mem_names_enter {registry : Registry} {plugin : Plugin} {name n : Text}
    (h : n ∈ (registry.enter plugin name).1.names) : n ∈ registry.names ∨ n = name := by
  rcases enter_cases registry plugin name with he | he
  · exact Or.inl (he ▸ h)
  · rw [he] at h
    obtain ⟨e, hm, rfl⟩ := List.mem_map.mp h
    rcases Table.mem_entries_insert hm with rfl | hm
    · exact Or.inr rfl
    · exact Or.inl (List.mem_map_of_mem hm)

/-- Discovery brings no name but those of plugins from files. -/
theorem mem_names_discover {registry : Registry} {directory : Option (List PluginFile)}
    {n : Text} (h : n ∈ (registry.discover directory).registry.names) :
    n ∈ registry.names ∨ filePluginLead <+: n := by
  have hall : ∀ n ∈ (registry.discover directory).registry.names,
      n ∈ registry.names ∨ filePluginLead <+: n := by
    refine discover_induction
      (P := fun r => ∀ n ∈ r.names, n ∈ registry.names ∨ filePluginLead <+: n)
      ?_ ?_ (fun _ _ hr => hr) (fun _ hr => hr) (fun n hn => Or.inl hn)
    · intro r _ _ hr n hn
      obtain ⟨e, he, rfl⟩ := List.mem_map.mp hn
      exact hr e.1 (List.mem_map_of_mem (List.mem_filter.mp he).1)
    · intro r blueprint name hbrings hr n hn
      rcases mem_names_enter hn with hn | rfl
      · exact hr n hn
      · exact hbrings
  exact hall n h

end Registry

end NamedGrid
