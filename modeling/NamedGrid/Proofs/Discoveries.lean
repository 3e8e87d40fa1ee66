import NamedGrid.Proofs.Contributions

/-!
# Discovery in stages

Discovery replaces the blueprints that wait for an instance, checks all hooks and loads the
plugin files. The blueprints may be replaced in any order, and where all registered plugins fit
each of them can be. Loading ends with the first file that ends the program, and by nothing else.
What holds of doing nothing and is kept by doing one thing after another holds of every stage, so
a stage is described by what one of its steps can do.
-/

namespace NamedGrid

/-- A kind of plugin that is loaded from a file: it listens by a public method, instances of it can
be made, and all of its methods are accepted. -/
def Blueprint.isLoadable (blueprint : Blueprint) : Bool :=
  blueprint.hasPublicMethod && !blueprint.fails && decide blueprint.Fits

theorem Blueprint.isLoadable_iff {blueprint : Blueprint} :
    blueprint.isLoadable = true ↔
      blueprint.hasPublicMethod = true ∧ blueprint.fails = false ∧ blueprint.Fits := by
  simp [isLoadable, and_assoc]

namespace PluginFile

/-- The files of a directory that are loaded: those before the first that ends the program. -/
def loaded (directory : Option (List PluginFile)) : List PluginFile :=
  (eligible (directory.getD [])).takeWhile fun file => file.exitCode?.isNone

/-- How the first file that ends the program ends loading, if there is one. -/
def exit? (directory : Option (List PluginFile)) : Option PluginError :=
  ((eligible (directory.getD [])).findSome? exitCode?).map .exited

theorem mem_of_mem_loaded {directory : Option (List PluginFile)} {file : PluginFile}
    (h : file ∈ loaded directory) :
    file ∈ directory.getD [] ∧ file.isEligible = true ∧ file.exitCode? = none := by
  obtain ⟨hfile, heligible⟩ := mem_eligible_iff.mp ((List.takeWhile_sublist _).subset h)
  have hexit := List.mem_takeWhile_imp (p := fun file : PluginFile => file.exitCode?.isNone) h
  exact ⟨hfile, heligible, Option.isNone_iff_eq_none.mp hexit⟩

end PluginFile

namespace Registry

/-! ## Steps -/

/-- A run ends with its first member if that fails, and else goes on after it. -/
theorem runAll_cons_cases {α : Type} (step : Registry → α → Step) (a : α) (as : List α)
    (registry : Registry) :
    let first := step registry a
    let later := runAll step as first.registry
    (first.error ≠ none ∧ runAll step (a :: as) registry = first) ∨
      (first.error = none ∧
        runAll step (a :: as) registry =
          { later with notices := first.notices ++ later.notices }) := by
  intro first later
  cases herror : first.error with
  | some error => exact .inl ⟨nofun, by simp only [runAll, first, herror]⟩
  | none => exact .inr ⟨rfl, by simp only [runAll, first, later, herror]⟩

/-- What holds of doing nothing and is kept by doing one step after another holds of a run. -/
theorem runAll_compose {α : Type} {step : Registry → α → Step} {R : Registry → Step → Prop}
    {as : List α} (hnil : ∀ registry, R registry ⟨registry, [], none⟩)
    (happend : ∀ registry first later, R registry first → R first.registry later →
      R registry { later with notices := first.notices ++ later.notices })
    (hstep : ∀ a ∈ as, ∀ registry, R registry (step registry a)) (registry : Registry) :
    R registry (runAll step as registry) := by
  induction as generalizing registry with
  | nil => exact hnil registry
  | cons a as ih =>
    obtain ⟨hhead, htail⟩ := List.forall_mem_cons.mp hstep
    rcases runAll_cons_cases step a as registry with ⟨-, hrun⟩ | ⟨-, hrun⟩
    · rw [hrun]
      exact hhead registry
    · rw [hrun]
      exact happend _ _ _ (hhead registry) (ih htail (step registry a).registry)

/-- A run of steps ends without an error if every step does and leaves what the next needs. -/
theorem runAll_error_eq_none {α : Type} {step : Registry → α → Step} {P : Registry → Prop}
    {as : List α}
    (hstep : ∀ a ∈ as, ∀ registry, P registry →
      (step registry a).error = none ∧ P (step registry a).registry)
    {registry : Registry} (h : P registry) : (runAll step as registry).error = none := by
  induction as generalizing registry with
  | nil => rfl
  | cons a as ih =>
    obtain ⟨hhead, htail⟩ := List.forall_mem_cons.mp hstep
    obtain ⟨herror, hfirst⟩ := hhead registry h
    unfold runAll
    simp only [herror]
    exact ih htail hfirst

/-- What replacing a blueprint can do: remove it and report that no instance can be made, or remove
it and enter an instance. -/
theorem replaceBlueprint_cases (registry : Registry) (name : Text) (plugin : Plugin) :
    let removed := registry.remove name plugin.identity
    let made := (removed.instantiate plugin.blueprint).1
    let entered := (removed.instantiate plugin.blueprint).2.enter made name
    (plugin.blueprint.fails = true ∧
      registry.replaceBlueprint name plugin = ⟨removed, [.entryFailed name], none⟩) ∨
    (plugin.blueprint.fails = false ∧
      registry.replaceBlueprint name plugin = ⟨entered.1, [], entered.2⟩) := by
  intro removed made entered
  cases hfails : plugin.blueprint.fails with
  | true => exact .inl ⟨rfl, by simp only [replaceBlueprint, hfails, if_true, removed]⟩
  | false =>
    exact .inr ⟨rfl, by
      simp only [replaceBlueprint, hfails, Bool.false_eq_true, if_false, removed, made, entered]⟩

/-- What loading one kind of plugin can do: nothing, with or without a report; or it makes an
object, which is refused with a report, or comes in, is noted and has its hooks checked. -/
theorem loadBlueprint_cases (file : PluginFile) (registry : Registry) (blueprint : Blueprint) :
    let name := file.pluginName blueprint
    let made := (registry.instantiate blueprint).1
    let before := (registry.instantiate blueprint).2
    let entered := before.withPlugin made name
    let failed := Notice.classFailed blueprint.className file.fileName
    (blueprint.hasPublicMethod = false ∧
      loadBlueprint file registry blueprint = ⟨registry, [], none⟩) ∨
    (blueprint.hasPublicMethod = true ∧ blueprint.fails = true ∧
      loadBlueprint file registry blueprint = ⟨registry, [failed], none⟩) ∨
    (blueprint.hasPublicMethod = true ∧ blueprint.fails = false ∧
      (∃ error, before.enter made name = (before, some error)) ∧
      loadBlueprint file registry blueprint = ⟨before, [failed], none⟩) ∨
    (blueprint.hasPublicMethod = true ∧ blueprint.fails = false ∧
      before.enter made name = (entered, none) ∧
      loadBlueprint file registry blueprint =
        ⟨(entered.check name made).1, .registered name :: (entered.check name made).2, none⟩) := by
  intro name made before entered failed
  have hname : chosenName made (some name) = name :=
    chosenName_some made (List.append_ne_nil_of_right_ne_nil _ (List.cons_ne_nil _ _))
  have hcases := register_cases before made (some name)
  rw [hname] at hcases
  cases hpublic : blueprint.hasPublicMethod with
  | false => exact .inl ⟨rfl, by simp only [loadBlueprint, hpublic, Bool.not_false, if_true]⟩
  | true =>
    cases hfails : blueprint.fails with
    | true =>
      exact .inr (.inl ⟨rfl, rfl, by simp only [loadBlueprint, hpublic, hfails, Bool.not_true,
        Bool.false_eq_true, if_true, if_false, failed]⟩)
    | false =>
      have hregister : (registry.instantiate blueprint).2.register
          (registry.instantiate blueprint).1
          (some (file.moduleName ++ '.' :: blueprint.className)) =
            before.register made (some name) := rfl
      rcases hcases with ⟨error, henter, hstep⟩ | ⟨henter, hstep⟩
      · refine .inr (.inr (.inl ⟨rfl, rfl, ⟨error, henter⟩, ?_⟩))
        simp only [loadBlueprint, hpublic, hfails, hregister, hstep, Bool.not_true,
          Bool.false_eq_true, if_false, failed]
      · refine .inr (.inr (.inr ⟨rfl, rfl, henter, ?_⟩))
        simp only [loadBlueprint, hpublic, hfails, hregister, hstep, Bool.not_true,
          Bool.false_eq_true, if_false, entered, made, before]

/-- Loading a kind of plugin never fails; what goes wrong is reported. -/
theorem loadBlueprint_error (file : PluginFile) (registry : Registry) (blueprint : Blueprint) :
    (loadBlueprint file registry blueprint).error = none := by
  rcases loadBlueprint_cases file registry blueprint with ⟨-, hstep⟩ | ⟨-, -, hstep⟩ |
    ⟨-, -, -, hstep⟩ | ⟨-, -, -, hstep⟩ <;> rw [hstep]

/-- Loading a file fails exactly if the file ends the program. -/
theorem loadFile_error (registry : Registry) (file : PluginFile) :
    (registry.loadFile file).error = file.exitCode?.map .exited := by
  have hkinds : (runAll (loadBlueprint file) file.sortedBlueprints registry).error = none :=
    runAll_error_eq_none (P := fun _ => True)
      (fun blueprint _ r _ => ⟨loadBlueprint_error file r blueprint, trivial⟩) trivial
  unfold loadFile PluginFile.exitCode?
  cases file.loading with
  | succeeds => exact hkinds
  | fails => rfl
  | exits code => rfl

/-- A file that ends the program brings nothing and reports nothing. -/
theorem loadFile_of_exitCode? (registry : Registry) {file : PluginFile} {code : Nat}
    (h : file.exitCode? = some code) :
    registry.loadFile file = ⟨registry, [], some (.exited code)⟩ := by
  unfold PluginFile.exitCode? at h
  unfold loadFile
  split at h
  · rename_i other hloading
    obtain rfl := Option.some.inj h
    rw [hloading]
  · cases h

/-- A file that does not end the program is read to its end, or reported if that fails. -/
theorem loadFile_of_exitCode?_eq_none (registry : Registry) {file : PluginFile}
    (h : file.exitCode? = none) :
    registry.loadFile file =
      if file.isBroken then ⟨registry, [.fileFailed file.fileName], none⟩
      else runAll (loadBlueprint file) file.sortedBlueprints registry := by
  unfold PluginFile.exitCode? at h
  unfold loadFile PluginFile.isBroken
  cases hloading : file.loading with
  | succeeds => rfl
  | fails => rfl
  | exits code =>
    rw [hloading] at h
    cases h

/-- Loading files is loading those before the first that ends the program, and then it ends as that
file says. -/
theorem runAll_loadFile (files : List PluginFile) (registry : Registry) :
    runAll loadFile files registry =
      { runAll loadFile (files.takeWhile fun file => file.exitCode?.isNone) registry with
        error := (files.findSome? PluginFile.exitCode?).map .exited } := by
  induction files generalizing registry with
  | nil => rfl
  | cons file files ih =>
    cases hexit : file.exitCode? with
    | some code =>
      rw [List.takeWhile_cons_of_neg (by simp [hexit]), List.findSome?_cons, hexit]
      unfold runAll
      rw [loadFile_of_exitCode? registry hexit]
      rfl
    | none =>
      have hfirst : (registry.loadFile file).error = none := by
        rw [loadFile_error, hexit, Option.map_none]
      rw [List.takeWhile_cons_of_pos (by simp [hexit]), List.findSome?_cons, hexit, runAll, runAll,
        ih]
      simp only [hfirst]

/-- Loading a directory fails exactly with a file that ends the program. -/
theorem loadDirectory_error (registry : Registry) (directory : Option (List PluginFile)) :
    (registry.loadDirectory directory).error = PluginFile.exit? directory := by
  rw [loadDirectory, runAll_loadFile]
  rfl

/-- Loading a directory does what loading the files before the first exit does. -/
theorem loadDirectory_registry (registry : Registry) (directory : Option (List PluginFile)) :
    (registry.loadDirectory directory).registry =
      (runAll loadFile (PluginFile.loaded directory) registry).registry := by
  rw [loadDirectory, runAll_loadFile]
  rfl

/-! ## Replacing -/

/-- Replace blueprints in an order. -/
def replaceIn (registry : Registry) (order : List (Text × Plugin)) : Step :=
  runAll (fun registry e => registry.replaceBlueprint e.1 e.2) order registry

/-- To replace a blueprint leaves nothing that does not fit. -/
theorem AllFit.replaceBlueprint {registry : Registry} (h : AllFit registry) (name : Text)
    (plugin : Plugin) : AllFit (registry.replaceBlueprint name plugin).registry := by
  have hremoved := h.remove name plugin.identity
  rcases registry.replaceBlueprint_cases name plugin with ⟨-, hstep⟩ | ⟨-, hstep⟩
  · rwa [hstep]
  · rw [hstep]
    exact hremoved.enterNew plugin.blueprint name

theorem Sound.replaceBlueprint {registry : Registry} (h : Sound registry) (name : Text)
    (plugin : Plugin) : Sound (registry.replaceBlueprint name plugin).registry := by
  have hremoved := h.remove name plugin.identity
  rcases registry.replaceBlueprint_cases name plugin with ⟨-, hstep⟩ | ⟨-, hstep⟩
  · rwa [hstep]
  · rw [hstep]
    exact (hremoved.instantiate plugin.blueprint).enter (Nat.lt_succ_self _) name

/-- An instance of a blueprint that fits takes the place of it. -/
theorem Sound.replaceBlueprint_error {registry : Registry} (h : Sound registry) (name : Text)
    {plugin : Plugin} (hfits : plugin.Fits) :
    (registry.replaceBlueprint name plugin).error = none := by
  have hremoved := h.remove name plugin.identity
  have hfree : name ∉ (registry.remove name plugin.identity).names := by
    intro hm
    obtain ⟨e, he, rfl⟩ := List.mem_map.mp hm
    exact of_decide_eq_true (List.mem_filter.mp he).2 rfl
  rcases registry.replaceBlueprint_cases name plugin with ⟨-, hstep⟩ | ⟨-, hstep⟩
  · rw [hstep]
  · rw [hstep]
    exact enter_error_iff.mpr ⟨hfree, hremoved.nameOf?_made, hfits⟩

/-- Where all plugins fit, blueprints are replaced by instances that fit. -/
theorem AllFit.replaceIn {registry : Registry} (h : AllFit registry) (hs : Sound registry)
    {order : List (Text × Plugin)} (hin : ∀ e ∈ order, e ∈ registry.plugins.entries) :
    (registry.replaceIn order).error = none ∧ AllFit (registry.replaceIn order).registry := by
  refine ⟨runAll_error_eq_none (P := Sound) (fun e he r hr => ?_) hs,
    runAll_induction (fun e _ _ hr => hr.replaceBlueprint e.1 e.2) h⟩
  exact ⟨hr.replaceBlueprint_error e.1 (h e (hin e he)), hr.replaceBlueprint e.1 e.2⟩

/-- Checking all hooks never fails. -/
theorem checkAll_error (registry : Registry) : registry.checkAll.error = none :=
  runAll_error_eq_none (P := fun _ => True) (fun _ _ _ _ => ⟨rfl, trivial⟩) trivial

/-! ## Stages -/

/-- The registered blueprints that discovery replaces, with their names. -/
def waiting (registry : Registry) : List (Text × Plugin) :=
  registry.plugins.entries.filter fun e => awaitsInstance e.2

theorem mem_waiting_iff {registry : Registry} {name : Text} {plugin : Plugin}
    (h : registry.plugins.get? name = some plugin) :
    name ∈ registry.waiting.map Prod.fst ↔ awaitsInstance plugin = true := by
  have he : (name, plugin) ∈ registry.plugins.entries := Table.get?_eq_some_iff.mp h
  refine ⟨fun hm => ?_, fun hawaits => ?_⟩
  · obtain ⟨e, hwaits, rfl⟩ := List.mem_map.mp hm
    obtain ⟨hmem, hawaits⟩ := List.mem_filter.mp hwaits
    have hpair : e = (e.1, plugin) := List.inj_on_of_nodup_map registry.plugins.nodup hmem he rfl
    rwa [hpair] at hawaits
  · exact List.mem_map_of_mem (List.mem_filter.mpr ⟨he, hawaits⟩)

/-- Discovery that replaces the blueprints in an order. -/
def discoverIn (registry : Registry) (order : List (Text × Plugin))
    (directory : Option (List PluginFile)) : Step :=
  let replaced := registry.replaceIn order
  match replaced.error with
  | some _ => replaced
  | none =>
    let checked := replaced.registry.checkAll
    let loaded := checked.registry.loadDirectory directory
    let notices := replaced.notices ++ (checked.notices ++ loaded.notices)
    match loaded.error with
    | some _ => { loaded with notices }
    | none => { registry := { loaded.registry with isLoaded := true }, notices, error := none }

/-- Discovery replaces the blueprints in the order in which they are registered. -/
theorem discover_eq (registry : Registry) (directory : Option (List PluginFile)) :
    registry.discover directory = registry.discoverIn registry.waiting directory := by
  have hreplace : registry.replaceBlueprints = registry.replaceIn registry.waiting := rfl
  have hnone : registry.enterInstalled [] = ⟨registry, [], none⟩ := rfl
  unfold discover discoverIn
  rw [← hreplace]
  simp only [runAll, hnone, checkAll_error, List.nil_append]
  rcases registry.replaceBlueprints with ⟨replaced, reports, _ | error⟩
  · dsimp only
    rcases replaced.checkAll.registry.loadDirectory directory with ⟨loaded, later, _ | error⟩
    · simp only [List.append_nil]
    · rfl
  · rfl

/-- Discovery fails with the replacements or with a file, or replaces, checks and loads. -/
theorem discover_cases (registry : Registry) (directory : Option (List PluginFile)) :
    let replaced := registry.replaceIn registry.waiting
    let checked := replaced.registry.checkAll
    let loaded := checked.registry.loadDirectory directory
    let notices := replaced.notices ++ (checked.notices ++ loaded.notices)
    (replaced.error ≠ none ∧ registry.discover directory = replaced) ∨
      (replaced.error = none ∧ loaded.error ≠ none ∧
        registry.discover directory = { loaded with notices }) ∨
      (replaced.error = none ∧ loaded.error = none ∧
        registry.discover directory =
          { registry := { loaded.registry with isLoaded := true }, notices, error := none }) := by
  intro replaced checked loaded notices
  rw [discover_eq, discoverIn]
  cases herror : replaced.error with
  | some error => exact .inl ⟨nofun, by simp only [replaced]⟩
  | none =>
    cases hloaded : loaded.error with
    | some error =>
      exact .inr (.inl ⟨rfl, nofun, by simp only [replaced, checked, loaded, notices, hloaded]⟩)
    | none =>
      exact .inr (.inr ⟨rfl, rfl, by simp only [replaced, checked, loaded, notices, hloaded]⟩)

/-- What one kind of plugin after another keeps is kept by loading a directory. -/
theorem loadDirectory_compose {R : Registry → Step → Prop}
    (hnil : ∀ registry, R registry ⟨registry, [], none⟩)
    (happend : ∀ registry first later, R registry first → R first.registry later →
      R registry { later with notices := first.notices ++ later.notices })
    (hfile : ∀ registry file, R registry ⟨registry, [.fileFailed file], none⟩)
    (hexit : ∀ registry code, R registry ⟨registry, [], some (.exited code)⟩)
    (hload : ∀ file registry blueprint, R registry (loadBlueprint file registry blueprint))
    (registry : Registry) (directory : Option (List PluginFile)) :
    R registry (registry.loadDirectory directory) := by
  refine runAll_compose hnil happend (fun file _ r => ?_) registry
  unfold loadFile
  cases file.loading with
  | succeeds => exact runAll_compose hnil happend (fun blueprint _ s => hload file s blueprint) r
  | fails => exact hfile r file.fileName
  | exits code => exact hexit r code

end Registry

end NamedGrid
