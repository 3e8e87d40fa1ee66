import NamedGrid.Proofs.Dispatch
import NamedGrid.Proofs.Generation

/-!
# Generation passes of a session

A pass first makes sure that plugins are discovered and then reads nothing but the
implementations in the registry and the configured layouts. So a later pass of the same
session gives the same result, whatever was built in between.
-/

namespace NamedGrid

/-! ## Values as sources -/

/-- All layouts are still values, as they are in a configuration. -/
def LayoutSources.IsRaw (sources : LayoutSources) : Prop :=
  ∀ e ∈ sources.entries, ∃ value, e.2 = .raw value

/-- The layouts of a contribution, if it has any, are values. -/
def Contribution.IsRaw : Contribution → Prop
  | .layouts sources => LayoutSources.IsRaw sources
  | _ => True

instance (source : LayoutSource) : Decidable (∃ value, source = .raw value) :=
  match source with
  | .raw value => isTrue ⟨value, rfl⟩
  | .settled _ => isFalse fun ⟨_, h⟩ => nomatch h

instance (sources : LayoutSources) : Decidable (LayoutSources.IsRaw sources) :=
  inferInstanceAs (Decidable (∀ e ∈ sources.entries, ∃ value, e.2 = .raw value))

instance (c : Contribution) : Decidable c.IsRaw :=
  match c with
  | .layouts sources => inferInstanceAs (Decidable (LayoutSources.IsRaw sources))
  | .nothing => isTrue trivial
  | .unusable => isTrue trivial

/-- Two tables of values make a table of values. -/
theorem LayoutSources.IsRaw.update {lower upper : LayoutSources} (hl : LayoutSources.IsRaw lower)
    (hu : LayoutSources.IsRaw upper) : LayoutSources.IsRaw (Table.update lower upper) :=
  fun e he => (Table.mem_entries_update he).elim (hu e) (hl e)

/-- Every configured layout is a value. -/
theorem Settings.isRaw_sources (settings : Settings) :
    LayoutSources.IsRaw settings.sources := by
  intro e he
  obtain ⟨entry, -, rfl⟩ := List.mem_map.mp he
  exact ⟨entry.2.toValue, rfl⟩

namespace Registry

/-- Contributions of values are merged to values. -/
theorem isRaw_mergeContributions {contributions : List Contribution}
    (h : ∀ c ∈ contributions, c.IsRaw) :
    LayoutSources.IsRaw (mergeContributions contributions) := by
  induction contributions using List.reverseRecOn with
  | nil => exact fun e he => nomatch he
  | append_singleton contributions c ih =>
    have hmerged := ih fun d hd => h d (List.mem_append_left _ hd)
    have hlast := h c (by simp)
    rw [mergeContributions, List.foldl_append, List.foldl_cons, List.foldl_nil]
    cases c with
    | layouts sources => exact hmerged.update hlast
    | nothing => exact hmerged
    | unusable => exact hmerged

/-- What is collected from plugins with values are values. -/
theorem isRaw_collect {registry : Registry} {collected : Collected}
    (hraw : ∀ plugin ∈ registry.listeners .registerLayouts, plugin.blueprint.contribution.IsRaw)
    (h : registry.collect = .ok collected) : LayoutSources.IsRaw collected.sources := by
  obtain ⟨hall, hfail⟩ := answering_eq (registry.listeners .registerLayouts)
  rw [collect] at h
  by_cases ha : ∀ plugin ∈ registry.listeners .registerLayouts, plugin.form = .object
  · rw [hall ha] at h
    obtain rfl := Except.ok.inj h
    apply isRaw_mergeContributions
    intro c hc
    obtain ⟨plugin, hp, rfl⟩ := List.mem_map.mp (List.mem_reverse.mp hc)
    exact hraw plugin hp
  · have herror := hfail ha
    split at h
    · cases h
    · rename_i hnone
      rw [hnone] at herror
      cases herror

/-- Collecting reads nothing but the implementations. -/
theorem collect_congr {registry other : Registry}
    (h : other.implementations = registry.implementations) : other.collect = registry.collect := by
  rw [collect, collect, listeners, listeners, h]

/-- Discovery that succeeds is noted. -/
theorem isLoaded_discover {registry : Registry} {directory : Option (List PluginFile)}
    (h : (registry.discover directory).error = none) :
    (registry.discover directory).registry.isLoaded = true := by
  unfold discover at h ⊢
  dsimp only at h ⊢
  split
  · rename_i herror
    simp [herror] at h
  · rfl

end Registry

/-! ## Passes -/

namespace Session

/-- A session whose plugins are discovered takes its registry as it is. -/
theorem discovered_of_isLoaded {session : Session} (h : session.registry.isLoaded = true) :
    session.discovered = ⟨session.registry, [], none⟩ := by
  rw [discovered, if_pos h]

/-- After discovery that succeeds the registry says so. -/
theorem isLoaded_discovered {session : Session} (h : session.discovered.error = none) :
    session.discovered.registry.isLoaded = true := by
  unfold discovered at h ⊢
  split
  · assumption
  · rename_i hl
    rw [if_neg hl] at h
    exact Registry.isLoaded_discover h

/-- Discovery keeps a registry sound. -/
theorem sound_discovered {session : Session} (h : session.registry.Sound) :
    session.discovered.registry.Sound := by
  unfold discovered
  split
  · exact h
  · exact h.discover session.pluginFiles

/-- Discovery is a run of the registry. -/
theorem reachable_discovered {session : Session} (h : session.registry.Reachable) :
    session.discovered.registry.Reachable := by
  unfold discovered
  split
  · exact h
  · exact h.discover session.pluginFiles

/-- Discovery does not take the name of the sheet. -/
theorem sheetName_notMem_discovered {session : Session}
    (h : sheetName ∉ session.registry.names) : sheetName ∉ session.discovered.registry.names := by
  unfold discovered
  split
  · exact h
  · intro hm
    rcases Registry.mem_names_discover hm with hm | hm
    · exact h hm
    · exact absurd (List.isPrefixOf_iff_prefix.mpr hm) (by decide)

/-- A pass leaves the session with its plugins discovered. -/
theorem session_generate (session : Session) :
    session.generate.session = { session with registry := session.discovered.registry } := by
  unfold generate
  dsimp only
  split
  · rfl
  · split
    · rfl
    · split <;> rfl

/-- When a pass gives a set: plugins are discovered, their layouts are collected, and those
with the configured ones over them generate the set. -/
theorem generate_eq_ok_iff {session : Session} {generation : Generation} :
    session.generate.result = .ok (.ok generation) ↔
      session.discovered.error = none ∧
        ∃ collected, session.discovered.registry.collect = .ok collected ∧
          UtilitySet.generate (collected.sources.update session.settings.sources) =
            .ok generation.set ∧
          generation.warnings = collected.warnings ++ generation.set.warnings := by
  unfold generate
  dsimp only
  cases he : session.discovered.error with
  | some error => simp
  | none =>
    cases hc : session.discovered.registry.collect with
    | error error => simp
    | ok collected =>
      cases hg : UtilitySet.generate (collected.sources.update session.settings.sources) with
      | error fault => simp [hg]
      | ok set =>
        obtain ⟨found, warnings⟩ := generation
        simp only [hg, Except.ok.injEq, Generation.mk.injEq, exists_eq_left', true_and]
        constructor
        · rintro ⟨rfl, rfl⟩
          exact ⟨rfl, rfl⟩
        · rintro ⟨rfl, rfl⟩
          exact ⟨rfl, rfl⟩

/-- Two generations of one session are the same. -/
theorem generation_unique {session : Session} {generation other : Generation}
    (hg : session.generate.result = .ok (.ok generation))
    (ho : session.generate.result = .ok (.ok other)) : generation = other :=
  Except.ok.inj (Except.ok.inj (hg.symm.trans ho))

/-- A pass that is seen to give a set with a property gives one. -/
theorem exists_generation (session : Session) (P : Generation → Bool)
    (h : (match session.generate.result with
      | .ok (.ok generation) => P generation
      | _ => false) = true) :
    ∃ generation, session.generate.result = .ok (.ok generation) ∧ P generation = true := by
  split at h
  · rename_i generation hg
    exact ⟨generation, hg, h⟩
  · cases h

/-- A pass reads nothing but how discovery ends, the implementations after it and the settings. -/
theorem result_generate_congr {session later : Session}
    (hsettings : later.settings = session.settings)
    (herror : later.discovered.error = session.discovered.error)
    (himplementations : later.discovered.registry.implementations =
      session.discovered.registry.implementations) :
    later.generate.result = session.generate.result := by
  have hcollect := Registry.collect_congr himplementations
  unfold generate
  dsimp only
  rw [herror, hcollect, hsettings]
  split
  · rfl
  · split
    · rfl
    · split <;> rfl

/-- A later pass gives the same result if the settings and the implementations are the same. -/
theorem result_generate_later {session later : Session}
    (h : session.discovered.error = none) (hsettings : later.settings = session.settings)
    (himplementations : later.registry.implementations =
      session.discovered.registry.implementations)
    (hloaded : later.registry.isLoaded = true) :
    later.generate.result = session.generate.result := by
  have hdiscovered := discovered_of_isLoaded hloaded
  refine result_generate_congr hsettings ?_ ?_
  · rw [hdiscovered, h]
  · rw [hdiscovered, himplementations]

/-- A second pass gives the same set as the first. -/
theorem result_generate_generate {session : Session} {generation : Generation}
    (hg : session.generate.result = .ok (.ok generation)) :
    session.generate.session.generate.result = .ok (.ok generation) := by
  obtain ⟨herror, -⟩ := generate_eq_ok_iff.mp hg
  have hsame : session.generate.session.generate.result = session.generate.result := by
    rw [session_generate]
    exact result_generate_later herror rfl rfl (isLoaded_discovered herror)
  exact hsame.trans hg

end Session

end NamedGrid
