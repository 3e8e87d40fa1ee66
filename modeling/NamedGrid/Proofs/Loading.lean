import NamedGrid.Proofs.Discoveries

/-!
# What discovery enters

Discovery first takes out every blueprint that waits for an instance and enters the instance
behind all others, if one can be made. Then it loads the plugin files: a file offers the kinds of
plugins in it that are loadable, and each kind that is offered under a new name comes in as an
object. So what is registered in the end follows from what was registered and what is offered,
step by step, and nothing fails unless a file ends the program (`discoverIn_entries`).
-/

namespace NamedGrid

namespace PluginFile

/-- The kinds of plugins that a file offers, with their names. A broken file offers none. -/
def offers (file : PluginFile) : List (Text × Blueprint) :=
  if file.isBroken then []
  else (file.sortedBlueprints.filter Blueprint.isLoadable).map fun b => (file.pluginName b, b)

/-- What the files of a directory offer, in the order in which they are loaded. -/
def offered (directory : Option (List PluginFile)) : List (Text × Blueprint) :=
  (loaded directory).flatMap offers

theorem mem_offers_iff {file : PluginFile} {name : Text} {blueprint : Blueprint} :
    (name, blueprint) ∈ file.offers ↔
      file.isBroken = false ∧ blueprint ∈ file.sortedBlueprints ∧
        blueprint.isLoadable = true ∧ name = file.pluginName blueprint := by
  unfold offers
  split
  · rename_i hbroken
    simp [hbroken]
  · rename_i hbroken
    simp only [List.mem_map, List.mem_filter, Prod.mk.injEq, hbroken, true_and]
    constructor
    · rintro ⟨_, ⟨hmem, hloadable⟩, rfl, rfl⟩
      exact ⟨hmem, hloadable, rfl⟩
    · rintro ⟨hmem, hloadable, rfl⟩
      exact ⟨blueprint, ⟨hmem, hloadable⟩, rfl, rfl⟩

theorem mem_offered_iff {directory : Option (List PluginFile)} {name : Text}
    {blueprint : Blueprint} :
    (name, blueprint) ∈ offered directory ↔
      ∃ file ∈ loaded directory, file.isBroken = false ∧ blueprint ∈ file.sortedBlueprints ∧
        blueprint.isLoadable = true ∧ name = file.pluginName blueprint := by
  simp only [offered, List.mem_flatMap, mem_offers_iff]

end PluginFile

namespace Registry

/-! ## New names -/

/-- Of what is offered, what comes under a name that is not taken, the first of each name. -/
def newcomers (taken : List Text) : List (Text × Blueprint) → List (Text × Blueprint)
  | [] => []
  | e :: rest =>
    if e.1 ∈ taken then newcomers taken rest else e :: newcomers (taken ++ [e.1]) rest

theorem newcomers_append (taken : List Text) (first later : List (Text × Blueprint)) :
    newcomers taken (first ++ later) =
      newcomers taken first ++
        newcomers (taken ++ (newcomers taken first).map Prod.fst) later := by
  induction first generalizing taken with
  | nil => simp [newcomers]
  | cons e first ih =>
    by_cases htaken : e.1 ∈ taken
    · simp only [List.cons_append, newcomers, if_pos htaken, ih]
    · simp only [List.cons_append, newcomers, if_neg htaken, ih, List.map_cons, List.append_assoc,
        List.nil_append]

theorem newcomers_sublist (taken : List Text) (offered : List (Text × Blueprint)) :
    (newcomers taken offered).Sublist offered := by
  induction offered generalizing taken with
  | nil => exact List.Sublist.refl []
  | cons e offered ih =>
    unfold newcomers
    split
    · exact (ih taken).cons e
    · exact (ih _).cons_cons e

/-- Afterwards the names are those that were taken and those that were offered. -/
theorem mem_names_newcomers_iff {taken : List Text} {offered : List (Text × Blueprint)}
    {name : Text} :
    name ∈ taken ++ (newcomers taken offered).map Prod.fst ↔
      name ∈ taken ∨ name ∈ offered.map Prod.fst := by
  induction offered generalizing taken with
  | nil => simp [newcomers]
  | cons e offered ih =>
    unfold newcomers
    split
    · rename_i htaken
      rw [ih, List.map_cons, List.mem_cons]
      refine ⟨Or.imp_right .inr, fun h => h.elim .inl fun h => h.imp_left fun heq => ?_⟩
      exact heq ▸ htaken
    · have hnext := @ih (taken ++ [e.1])
      rw [List.append_assoc, List.singleton_append] at hnext
      rw [List.map_cons, hnext, List.mem_append, List.mem_singleton, List.map_cons, List.mem_cons,
        or_assoc]

/-- Nothing comes in if all names are taken. -/
theorem newcomers_of_subset {taken : List Text} {offered : List (Text × Blueprint)}
    (h : ∀ name ∈ offered.map Prod.fst, name ∈ taken) : newcomers taken offered = [] := by
  induction offered with
  | nil => rfl
  | cons e offered ih =>
    obtain ⟨hfirst, hrest⟩ := List.forall_mem_cons.mp h
    rw [newcomers, if_pos hfirst]
    exact ih hrest

/-! ## Kinds of plugins -/

/-- The registered plugins that do not wait for an instance. -/
def remaining (registry : Registry) : List (Text × Plugin) :=
  registry.plugins.entries.filter fun e => !awaitsInstance e.2

/-- A registered name with the kind of its plugin. -/
def kind (e : Text × Plugin) : Text × Blueprint := (e.1, e.2.blueprint)

/-- The names of entries are those of their kinds. -/
theorem names_kind (entries : List (Text × Plugin)) :
    (entries.map kind).map Prod.fst = entries.map Prod.fst := by
  rw [List.map_map]
  rfl

/-- Objects of some kinds come under their names behind what is registered. -/
structure Adds (registry later : Registry) (kinds : List (Text × Blueprint)) : Prop where
  sound : Sound later
  ordered : Ordered later
  entries : ∃ added : List (Text × Plugin),
    later.plugins.entries = registry.plugins.entries ++ added ∧ added.map kind = kinds ∧
      ∀ e ∈ added, e.2.form = .object

namespace Adds

variable {registry first later : Registry} {kinds more : List (Text × Blueprint)}

theorem refl (hs : Sound registry) (ho : Ordered registry) : Adds registry registry [] :=
  ⟨hs, ho, [], (List.append_nil _).symm, rfl, nofun⟩

theorem trans (hfirst : Adds registry first kinds) (hlater : Adds first later more) :
    Adds registry later (kinds ++ more) := by
  obtain ⟨added, hentries, hkinds, hobjects⟩ := hfirst.entries
  obtain ⟨added', hentries', hkinds', hobjects'⟩ := hlater.entries
  refine ⟨hlater.sound, hlater.ordered, added ++ added', ?_, ?_, fun e he => ?_⟩
  · rw [hentries', hentries, List.append_assoc]
  · rw [List.map_append, hkinds, hkinds']
  · exact (List.mem_append.mp he).elim (hobjects e) (hobjects' e)

theorem marked (h : Adds registry later kinds) (checked : List Text) :
    Adds registry { later with checked } kinds :=
  ⟨⟨h.sound.plugins, h.sound.implementations⟩, ⟨h.ordered.distinct, h.ordered.implementations⟩,
    h.entries⟩

/-- The names of the kinds come behind those that were there. -/
theorem names (h : Adds registry later kinds) :
    later.names = registry.names ++ kinds.map Prod.fst := by
  obtain ⟨added, hentries, hkinds, -⟩ := h.entries
  rw [Registry.names, Table.keys, hentries, List.map_append, ← hkinds, names_kind]
  rfl

end Adds

theorem Ordered.instantiate {registry : Registry} (h : Ordered registry) (blueprint : Blueprint) :
    Ordered (registry.instantiate blueprint).2 := ⟨h.distinct, h.implementations⟩

/-- A new object of a kind that fits comes in under a name that is not taken. -/
theorem adds_enterNew {registry : Registry} (hs : Sound registry) (ho : Ordered registry)
    {blueprint : Blueprint} (hfits : blueprint.Fits) (name : Text) :
    Adds registry (registry.enterNew blueprint name)
      (newcomers registry.names [(name, blueprint)]) := by
  have hbefore : (registry.instantiate blueprint).1.identity.IsBefore
      (registry.instantiate blueprint).2.made := Nat.lt_succ_self registry.made
  have hunknown : (registry.instantiate blueprint).2.nameOf?
      (registry.instantiate blueprint).1.identity = none := hs.nameOf?_made
  have hsound := (hs.instantiate blueprint).enter hbefore name
  have hordered := (ho.instantiate blueprint).enter (registry.instantiate blueprint).1 name
  refine ⟨hsound, hordered, ?_⟩
  unfold enterNew
  by_cases hname : name ∈ registry.names
  · have htaken : name ∈ (registry.instantiate blueprint).2.names := hname
    rw [enter_of_mem _ htaken, newcomers, if_pos hname]
    exact ⟨[], (List.append_nil _).symm, rfl, nofun⟩
  · have hnew : name ∉ (registry.instantiate blueprint).2.names := hname
    rw [enter_of_fits hnew hunknown hfits, newcomers, if_neg hname]
    exact ⟨[(name, (registry.instantiate blueprint).1)], Table.place_of_not_mem hnew, rfl,
      by simp [instantiate]⟩

/-- Steps that each add what is new of their offers add what is new of all offers. -/
theorem adds_runAll {α : Type} {step : Registry → α → Step} {as : List α}
    {offers : α → List (Text × Blueprint)}
    (hstep : ∀ a ∈ as, ∀ r, Sound r → Ordered r → (step r a).error = none ∧
      Adds r (step r a).registry (newcomers r.names (offers a)))
    {registry : Registry} (hs : Sound registry) (ho : Ordered registry) :
    Adds registry (runAll step as registry).registry
      (newcomers registry.names (as.flatMap offers)) := by
  induction as generalizing registry with
  | nil => exact .refl hs ho
  | cons a as ih =>
    obtain ⟨hhead, htail⟩ := List.forall_mem_cons.mp hstep
    obtain ⟨herror, hadds⟩ := hhead registry hs ho
    rcases runAll_cons_cases step a as registry with ⟨hfails, -⟩ | ⟨-, hrun⟩
    · exact absurd herror hfails
    · rw [hrun, List.flatMap_cons, newcomers_append, ← hadds.names]
      exact hadds.trans (ih htail hadds.sound hadds.ordered)

/-! ## Loading -/

/-- A kind of plugin comes in as an object if it is loadable and its name is new. -/
theorem adds_loadBlueprint (file : PluginFile) {registry : Registry} (hs : Sound registry)
    (ho : Ordered registry) (blueprint : Blueprint) :
    Adds registry (loadBlueprint file registry blueprint).registry (newcomers registry.names
      (if blueprint.isLoadable then [(file.pluginName blueprint, blueprint)] else [])) := by
  have hnothing : Adds registry (registry.instantiate blueprint).2 [] :=
    ⟨hs.instantiate blueprint, ho.instantiate blueprint, [], (List.append_nil _).symm, rfl, nofun⟩
  rcases loadBlueprint_cases file registry blueprint with ⟨hpublic, hstep⟩ | ⟨-, hfails, hstep⟩ |
    ⟨-, -, ⟨error, henter⟩, hstep⟩ | ⟨hpublic, hfails, henter, hstep⟩
  · rw [hstep, if_neg (by simp [Blueprint.isLoadable, hpublic])]
    exact .refl hs ho
  · rw [hstep, if_neg (by simp [Blueprint.isLoadable, hfails])]
    exact .refl hs ho
  · -- It was refused though it is a new object: its name is taken, or it does not fit.
    rw [hstep]
    by_cases hloadable : blueprint.isLoadable = true
    · have htaken : file.pluginName blueprint ∈ registry.names := by
        by_contra hnew
        have hentered : ((registry.instantiate blueprint).2.enter
            (registry.instantiate blueprint).1 (file.pluginName blueprint)).2 = none :=
          enter_error_iff.mpr
            ⟨hnew, hs.nameOf?_made, (Blueprint.isLoadable_iff.mp hloadable).2.2⟩
        rw [henter] at hentered
        cases hentered
      rw [if_pos hloadable, newcomers, if_pos htaken]
      exact hnothing
    · rw [if_neg hloadable]
      exact hnothing
  · have hfits : blueprint.Fits := (enter_error_iff.mp (congrArg Prod.snd henter)).2.2
    have hentered := adds_enterNew hs ho hfits (file.pluginName blueprint)
    rw [enterNew, henter] at hentered
    obtain ⟨checked, hcheck⟩ := check_registry ((registry.instantiate blueprint).2.withPlugin
      (registry.instantiate blueprint).1 (file.pluginName blueprint))
      (file.pluginName blueprint) (registry.instantiate blueprint).1
    rw [hstep, if_pos (Blueprint.isLoadable_iff.mpr ⟨hpublic, hfails, hfits⟩)]
    exact hcheck ▸ hentered.marked checked

/-- A file that does not end the program adds what is new of its offers. -/
theorem adds_loadFile {registry : Registry} (hs : Sound registry) (ho : Ordered registry)
    {file : PluginFile} (hexit : file.exitCode? = none) :
    Adds registry (registry.loadFile file).registry (newcomers registry.names file.offers) := by
  rw [loadFile_of_exitCode?_eq_none registry hexit, PluginFile.offers]
  split
  · exact .refl hs ho
  · have hloaded := adds_runAll (fun blueprint (_ : blueprint ∈ file.sortedBlueprints) r hs ho =>
      ⟨loadBlueprint_error file r blueprint, adds_loadBlueprint file hs ho blueprint⟩) hs ho
    have hoffers : ∀ blueprints : List Blueprint,
        (blueprints.flatMap fun b =>
            if b.isLoadable then [(file.pluginName b, b)] else []) =
          (blueprints.filter Blueprint.isLoadable).map fun b => (file.pluginName b, b) := by
      intro blueprints
      induction blueprints with
      | nil => rfl
      | cons b blueprints ih =>
        cases hb : b.isLoadable <;> simp [hb, ih]
    rwa [hoffers] at hloaded

/-- Loading a directory adds what is new of all that its files offer. -/
theorem adds_loadDirectory {registry : Registry} (hs : Sound registry) (ho : Ordered registry)
    (directory : Option (List PluginFile)) :
    Adds registry (registry.loadDirectory directory).registry
      (newcomers registry.names (PluginFile.offered directory)) := by
  rw [loadDirectory_registry]
  refine adds_runAll (fun file hfile r hs ho => ?_) hs ho
  obtain ⟨-, -, hexit⟩ := PluginFile.mem_of_mem_loaded hfile
  exact ⟨by rw [loadFile_error, hexit, Option.map_none], adds_loadFile hs ho hexit⟩

/-! ## Replacing -/

/-- Can an instance be made of the kind of an entry? -/
def canInstantiate (e : Text × Plugin) : Bool := !e.2.blueprint.fails

/-- A blueprint that fits gives way to an instance, which comes last, if one can be made. -/
theorem adds_replaceBlueprint {registry : Registry} (hs : Sound registry) (ho : Ordered registry)
    {e : Text × Plugin} (he : e ∈ registry.plugins.entries) (hfits : e.2.Fits) :
    Adds (registry.remove e.1 e.2.identity) (registry.replaceBlueprint e.1 e.2).registry
      (([e].filter canInstantiate).map kind) := by
  have hremoved := hs.remove e.1 e.2.identity
  have hordered := ho.remove he
  rcases registry.replaceBlueprint_cases e.1 e.2 with ⟨hfails, hstep⟩ | ⟨hmade, hstep⟩
  · rw [hstep, List.filter_cons_of_neg (by simp [canInstantiate, hfails])]
    exact .refl hremoved hordered
  · have hfree : e.1 ∉ (registry.remove e.1 e.2.identity).names := by
      change e.1 ∉ (registry.plugins.erase e.1).keys
      rw [← Table.get?_eq_none_iff, Table.get?_erase, if_pos rfl]
    have hentered := adds_enterNew hremoved hordered hfits e.1
    rw [newcomers, if_neg hfree] at hentered
    rw [hstep, List.filter_cons_of_pos (by simp [canInstantiate, hmade])]
    exact hentered

/-- Blueprints that fit give way to instances, which come last in the order of the replacements. -/
theorem replaceIn_entries {registry : Registry} (hs : Sound registry) (ho : Ordered registry)
    {order : List (Text × Plugin)} (hin : ∀ e ∈ order, e ∈ registry.plugins.entries)
    (hnodup : (order.map Prod.fst).Nodup) (hfits : ∀ e ∈ order, e.2.Fits) :
    let replaced := registry.replaceIn order
    replaced.error = none ∧ Sound replaced.registry ∧ Ordered replaced.registry ∧
      ∃ instances : List (Text × Plugin),
        replaced.registry.plugins.entries =
          (registry.plugins.entries.filter fun e => e.1 ∉ order.map Prod.fst) ++ instances ∧
        instances.map kind = (order.filter canInstantiate).map kind ∧
        ∀ e ∈ instances, e.2.form = .object := by
  induction order generalizing registry with
  | nil => exact ⟨rfl, hs, ho, [], by simp [replaceIn, runAll], rfl, nofun⟩
  | cons e order ih =>
    obtain ⟨hein, hin⟩ := List.forall_mem_cons.mp hin
    obtain ⟨hefits, hfits⟩ := List.forall_mem_cons.mp hfits
    obtain ⟨hfirst, hnodup⟩ := List.nodup_cons.mp hnodup
    have hadds := adds_replaceBlueprint hs ho hein hefits
    obtain ⟨made, hentries, hmade, hform⟩ := hadds.entries
    have hkept : ∀ f ∈ order, f ∈ (registry.replaceBlueprint e.1 e.2).registry.plugins.entries := by
      intro f hf
      have hne : f.1 ≠ e.1 := fun heq => hfirst (heq ▸ List.mem_map_of_mem hf)
      rw [hentries]
      exact List.mem_append_left _ (List.mem_filter.mpr ⟨hin f hf, decide_eq_true hne⟩)
    obtain ⟨herrors, hsounds, horders, instances, hrest, hkinds, hforms⟩ :=
      ih hadds.sound hadds.ordered hkept hnodup hfits
    rcases runAll_cons_cases (fun r (e : Text × Plugin) => r.replaceBlueprint e.1 e.2) e order
      registry with ⟨hfails, -⟩ | ⟨-, hrun⟩
    · exact absurd (hs.replaceBlueprint_error e.1 hefits) hfails
    rw [← replaceIn, ← replaceIn] at hrun
    simp only [hrun]
    refine ⟨herrors, hsounds, horders, made ++ instances, ?_, ?_, fun f hf =>
      (List.mem_append.mp hf).elim (hform f) (hforms f)⟩
    · -- What was made in the first step has the name that was removed in it.
      have hnew : made.filter (fun f => f.1 ∉ order.map Prod.fst) = made := by
        refine List.filter_eq_self.mpr fun f hf => decide_eq_true ?_
        have hkind : kind f ∈ ([e].filter canInstantiate).map kind :=
          hmade ▸ List.mem_map_of_mem hf
        obtain ⟨g, hg, hsame⟩ := List.mem_map.mp hkind
        obtain rfl := List.mem_singleton.mp (List.mem_filter.mp hg).1
        exact congrArg Prod.fst hsame ▸ hfirst
      have hremoved : (registry.remove e.1 e.2.identity).plugins.entries =
          registry.plugins.entries.filter fun f => f.1 ≠ e.1 := rfl
      rw [hrest, hentries, List.filter_append, hnew, hremoved, List.filter_filter,
        List.append_assoc]
      congr 1
      refine List.filter_congr fun f _ => ?_
      simp only [List.map_cons, List.mem_cons, not_or, Bool.decide_and, ne_eq, Bool.and_comm]
    · rw [List.map_append, hmade, hkinds, ← List.map_append, ← List.filter_append,
        List.singleton_append]

/-! ## All stages -/

/-- Checking all hooks notes names and changes nothing else. -/
theorem checkAll_registry (registry : Registry) :
    ∃ checked, registry.checkAll.registry = { registry with checked } := by
  refine runAll_compose (R := fun r step => ∃ checked, step.registry = { r with checked })
    (fun r => ⟨r.checked, rfl⟩) ?_ (fun e _ r => check_registry r e.1 e.2) registry
  rintro r first later ⟨checked, hfirst⟩ ⟨checked', hlater⟩
  exact ⟨checked', by rw [hlater, hfirst]⟩

theorem Sound.checkAll {registry : Registry} (h : Sound registry) :
    Sound registry.checkAll.registry := by
  obtain ⟨checked, hchecked⟩ := registry.checkAll_registry
  rw [hchecked]
  exact ⟨h.plugins, h.implementations⟩

theorem Ordered.checkAll {registry : Registry} (h : Ordered registry) :
    Ordered registry.checkAll.registry := by
  obtain ⟨checked, hchecked⟩ := registry.checkAll_registry
  rw [hchecked]
  exact ⟨h.distinct, h.implementations⟩

/-- The plugins that are not replaced are those that do not wait. -/
theorem filter_notMem_order {registry : Registry} {order : List (Text × Plugin)}
    (h : order.Perm registry.waiting) :
    (registry.plugins.entries.filter fun e => e.1 ∉ order.map Prod.fst) = registry.remaining := by
  refine List.filter_congr fun e he => ?_
  have hget : registry.plugins.get? e.1 = some e.2 := Table.get?_eq_some_iff.mpr he
  have hmem : e.1 ∈ order.map Prod.fst ↔ awaitsInstance e.2 = true :=
    (h.map Prod.fst).mem_iff.trans (mem_waiting_iff hget)
  simp [hmem]

/-- The entries after discovery: the plugins that did not wait, the instances of those that did, in
the order of their replacement, and what was new in the files. -/
structure Discovers (registry discovered : Registry) (order : List (Text × Plugin))
    (offered : List (Text × Blueprint)) (instances loaded : List (Text × Plugin)) : Prop where
  entries : discovered.plugins.entries = registry.remaining ++ (instances ++ loaded)
  made : instances.map kind = (order.filter canInstantiate).map kind
  new : loaded.map kind = newcomers ((registry.remaining ++ instances).map Prod.fst) offered
  objects : ∀ e ∈ instances ++ loaded, e.2.form = .object

/-- **What discovery enters.** Where all plugins fit, discovery fails only with a file that ends the
program, in whatever order the blueprints are replaced. -/
theorem discoverIn_entries {registry : Registry} (hs : Sound registry) (ho : Ordered registry)
    (hfits : AllFit registry) {order : List (Text × Plugin)} (horder : order.Perm registry.waiting)
    (directory : Option (List PluginFile)) :
    let discovered := registry.discoverIn order directory
    discovered.error = PluginFile.exit? directory ∧ Sound discovered.registry ∧
      Ordered discovered.registry ∧
      ∃ instances loaded, Discovers registry discovered.registry order
        (PluginFile.offered directory) instances loaded := by
  intro discovered
  have hin : ∀ e ∈ order, e ∈ registry.plugins.entries := fun e he =>
    (List.mem_filter.mp (horder.mem_iff.mp he)).1
  have hnodup : (order.map Prod.fst).Nodup :=
    (horder.map Prod.fst).nodup_iff.mpr
      (registry.plugins.nodup.sublist (List.filter_sublist.map Prod.fst))
  obtain ⟨herror, hsound, hordered, instances, hreplaced, hkinds, hinstances⟩ :=
    replaceIn_entries hs ho hin hnodup fun e he => hfits e (hin e he)
  have hplugins : (registry.replaceIn order).registry.checkAll.registry.plugins =
      (registry.replaceIn order).registry.plugins := by
    obtain ⟨checked, hchecked⟩ := (registry.replaceIn order).registry.checkAll_registry
    rw [hchecked]
  have hloads := adds_loadDirectory hsound.checkAll hordered.checkAll directory
  have hexit := loadDirectory_error (registry.replaceIn order).registry.checkAll.registry directory
  obtain ⟨loaded, hentries, hloaded, hobjects⟩ := hloads.entries
  rw [filter_notMem_order horder] at hreplaced
  rw [names, Table.keys, hplugins, hreplaced] at hloaded
  rw [hplugins, hreplaced, List.append_assoc] at hentries
  have hdiscovers := Discovers.mk hentries hkinds hloaded
    (fun e he => (List.mem_append.mp he).elim (hinstances e) (hobjects e))
  simp only [discovered, discoverIn, herror]
  split
  · exact ⟨hexit, hloads.sound, hloads.ordered, instances, loaded, hdiscovers⟩
  · rename_i hnone
    exact ⟨hnone.symm.trans hexit, ⟨hloads.sound.plugins, hloads.sound.implementations⟩,
      ⟨hloads.ordered.distinct, hloads.ordered.implementations⟩, instances, loaded,
      ⟨hdiscovers.entries, hdiscovers.made, hdiscovers.new, hdiscovers.objects⟩⟩

end Registry

end NamedGrid
