import Mathlib.Data.List.Basic
import NamedGrid.Plugin.Discovery
import NamedGrid.Proofs.Table

/-!
# Entering plugins

A plugin is entered under a new name if it is a new object and all of its methods are accepted; it
then comes with an implementation for every method that implements a hook. Otherwise nothing changes
(`enter_spec`). A registration enters a plugin and then checks its hooks.
-/

namespace NamedGrid

/-! ## Methods that are accepted -/

/-- A registry accepts the method: it is not meant for a hook that there cannot be and, if it
implements a hook, takes only what the hook gives. -/
def Method.IsAccepted (method : Method) : Prop :=
  method.isMisplaced = false ∧ ∀ hook, method.hook? = some hook → method.fits hook = true

/-- Every method of the kind of plugin is accepted. -/
def Blueprint.Fits (blueprint : Blueprint) : Prop :=
  ∀ method ∈ blueprint.sortedMethods, method.IsAccepted

instance (method : Method) : Decidable method.IsAccepted :=
  decidable_of_iff (method.isMisplaced = false ∧ method.hook?.all method.fits = true)
    (by simp [Method.IsAccepted, Option.all_eq_true])

instance (blueprint : Blueprint) : Decidable blueprint.Fits :=
  inferInstanceAs (Decidable (∀ method ∈ blueprint.sortedMethods, method.IsAccepted))

/-- Every method of the plugin is accepted. -/
def Plugin.Fits (plugin : Plugin) : Prop := plugin.blueprint.Fits

instance (plugin : Plugin) : Decidable plugin.Fits :=
  inferInstanceAs (Decidable plugin.blueprint.Fits)

/-- The hooks that a kind of plugin implements, method by method. -/
def Blueprint.hooks (blueprint : Blueprint) : List Hook :=
  blueprint.sortedMethods.filterMap Method.hook?

/-- The hooks that a plugin implements when it is registered. -/
def Plugin.hooks (plugin : Plugin) : List Hook := plugin.blueprint.hooks

namespace Registry

/-! ## Implementations -/

/-- Methods that are all accepted are implemented in their order. -/
theorem implement_of_accepted (plugin : Plugin) {methods : List Method}
    (h : ∀ method ∈ methods, method.IsAccepted) (registry : Registry) :
    implement plugin methods registry =
      ({ registry with
          implementations := registry.implementations ++
            (methods.filterMap Method.hook?).map fun hook => ⟨hook, plugin⟩ }, none) := by
  induction methods generalizing registry with
  | nil => simp [implement]
  | cons method methods ih =>
    obtain ⟨⟨hplaced, hfits⟩, hrest⟩ := List.forall_mem_cons.mp h
    cases hhook : method.hook? with
    | none => simp [implement, hplaced, hhook, ih hrest]
    | some hook => simp [implement, hplaced, hhook, hfits hook hhook, ih hrest]

/-- Methods are implemented to the end exactly when all of them are accepted. -/
theorem implement_error_iff {plugin : Plugin} {methods : List Method} {registry : Registry} :
    (implement plugin methods registry).2 = none ↔ ∀ method ∈ methods, method.IsAccepted := by
  induction methods generalizing registry with
  | nil => simp [implement]
  | cons method methods ih =>
    rw [List.forall_mem_cons]
    by_cases hp : method.isMisplaced = true
    · simp [implement, Method.IsAccepted, hp]
    cases hm : method.hook? with
    | none => simp [implement, Method.IsAccepted, hp, hm, ih]
    | some hook =>
      by_cases hf : method.fits hook = true
      · simp [implement, Method.IsAccepted, hp, hm, hf, ih]
      · simp [implement, Method.IsAccepted, hp, hm, hf]

/-! ## Entering -/

/-- A registry with a plugin behind all others, and its implementations behind theirs. -/
def withPlugin (registry : Registry) (plugin : Plugin) (name : Text) : Registry :=
  { registry with
    plugins := registry.plugins.insert name plugin
    implementations := registry.implementations ++ plugin.hooks.map fun hook => ⟨hook, plugin⟩ }

section Entering

variable {registry : Registry} {plugin : Plugin} {name : Text}

/-- A name that is taken is refused. -/
theorem enter_of_mem (plugin : Plugin) (h : name ∈ registry.names) :
    registry.enter plugin name = (registry, some .nameTaken) := by
  rw [enter, if_pos (Table.contains_iff.mpr h)]

/-- An object that is registered is refused. -/
theorem enter_of_registered (hname : name ∉ registry.names)
    (h : registry.nameOf? plugin.identity ≠ none) :
    registry.enter plugin name = (registry, some .alreadyRegistered) := by
  rw [enter, if_neg (mt Table.contains_iff.mp hname), if_pos (Option.isSome_iff_ne_none.mpr h)]

/-- A new object under a new name is entered if its methods can be implemented to the end. -/
theorem enter_of_new (hname : name ∉ registry.names)
    (h : registry.nameOf? plugin.identity = none) :
    registry.enter plugin name =
      match implement plugin plugin.blueprint.sortedMethods
        { registry with plugins := registry.plugins.insert name plugin } with
      | (_, some error) => (registry, some error)
      | (entered, none) => (entered, none) := by
  unfold enter
  exact (if_neg (mt Table.contains_iff.mp hname)).trans (if_neg (by simp [h]))

/-- A new object that fits comes under a new name with all of its implementations. -/
theorem enter_of_fits (hname : name ∉ registry.names)
    (h : registry.nameOf? plugin.identity = none) (hfits : plugin.Fits) :
    registry.enter plugin name = (registry.withPlugin plugin name, none) := by
  rw [enter_of_new hname h, implement_of_accepted plugin hfits]
  rfl

/-- A new object with a method that is not accepted is refused for it. -/
theorem enter_of_not_fits (hname : name ∉ registry.names)
    (h : registry.nameOf? plugin.identity = none) (hfits : ¬plugin.Fits) :
    ∃ error, (implement plugin plugin.blueprint.sortedMethods
        { registry with plugins := registry.plugins.insert name plugin }).2 = some error ∧
      registry.enter plugin name = (registry, some error) := by
  have hrefused : (implement plugin plugin.blueprint.sortedMethods
      { registry with plugins := registry.plugins.insert name plugin }).2 ≠ none :=
    mt implement_error_iff.mp hfits
  rw [enter_of_new hname h]
  generalize implement plugin plugin.blueprint.sortedMethods _ = outcome at hrefused ⊢
  obtain ⟨left, _ | error⟩ := outcome
  · exact absurd rfl hrefused
  · exact ⟨error, rfl, rfl⟩

end Entering

/-- **Entering.** A plugin is refused and nothing changes, or it has a new name, is a new object and
fits, and comes with all of its implementations. -/
theorem enter_spec (registry : Registry) (plugin : Plugin) (name : Text) :
    (∃ error, registry.enter plugin name = (registry, some error)) ∨
      ((name ∉ registry.names ∧ registry.nameOf? plugin.identity = none ∧ plugin.Fits) ∧
        registry.enter plugin name = (registry.withPlugin plugin name, none)) := by
  by_cases hname : name ∈ registry.names
  · exact .inl ⟨_, enter_of_mem plugin hname⟩
  by_cases hidentity : registry.nameOf? plugin.identity = none
  · by_cases hfits : plugin.Fits
    · exact .inr ⟨⟨hname, hidentity, hfits⟩, enter_of_fits hname hidentity hfits⟩
    · obtain ⟨error, -, henter⟩ := enter_of_not_fits hname hidentity hfits
      exact .inl ⟨error, henter⟩
  · exact .inl ⟨_, enter_of_registered hname hidentity⟩

/-- Entering a plugin changes nothing, or the plugin comes with its implementations. -/
theorem enter_cases (registry : Registry) (plugin : Plugin) (name : Text) :
    (registry.enter plugin name).1 = registry ∨
      (registry.enter plugin name).1 = registry.withPlugin plugin name := by
  rcases registry.enter_spec plugin name with ⟨error, henter⟩ | ⟨-, henter⟩
  · exact .inl (by rw [henter])
  · exact .inr (by rw [henter])

/-- A plugin enters if it fits, its name is free and it is new. -/
theorem enter_error_iff {registry : Registry} {plugin : Plugin} {name : Text} :
    (registry.enter plugin name).2 = none ↔
      name ∉ registry.names ∧ registry.nameOf? plugin.identity = none ∧ plugin.Fits := by
  refine ⟨fun herror => ?_, fun ⟨hname, hidentity, hfits⟩ => ?_⟩
  · rcases registry.enter_spec plugin name with ⟨error, henter⟩ | ⟨hnew, -⟩
    · rw [henter] at herror
      cases herror
    · exact hnew
  · rw [enter_of_fits hname hidentity hfits]

/-! ## Registering -/

/-- Checking hooks notes a name and changes nothing else. -/
theorem check_registry (registry : Registry) (name : Text) (plugin : Plugin) :
    ∃ checked, (registry.check name plugin).1 = { registry with checked } := by
  unfold check
  split
  · exact ⟨registry.checked, rfl⟩
  · exact ⟨_, rfl⟩

/-- The name under which a plugin is registered. -/
def chosenName (plugin : Plugin) : Option Text → Text
  | some (c :: rest) => c :: rest
  | _ => plugin.defaultName

theorem chosenName_some (plugin : Plugin) {name : Text} (h : name ≠ []) :
    chosenName plugin (some name) = name := by
  cases name with
  | nil => exact absurd rfl h
  | cons c rest => rfl

/-- Registering a plugin enters it and, if that succeeds, checks its hooks. -/
theorem register_eq (registry : Registry) (plugin : Plugin) (name : Option Text) :
    registry.register plugin name =
      match registry.enter plugin (chosenName plugin name) with
      | (registry, some error) => ⟨registry, [], some error⟩
      | (entered, none) =>
        ⟨(entered.check (chosenName plugin name) plugin).1,
          .registered (chosenName plugin name) ::
            (entered.check (chosenName plugin name) plugin).2, none⟩ := rfl

/-- A registration is refused and nothing changes, or it enters the plugin, notes it and checks its
hooks. -/
theorem register_cases (registry : Registry) (plugin : Plugin) (name : Option Text) :
    let chosen := chosenName plugin name
    let entered := registry.withPlugin plugin chosen
    (∃ error, registry.enter plugin chosen = (registry, some error) ∧
      registry.register plugin name = ⟨registry, [], some error⟩) ∨
    (registry.enter plugin chosen = (entered, none) ∧
      registry.register plugin name =
        ⟨(entered.check chosen plugin).1, .registered chosen :: (entered.check chosen plugin).2,
          none⟩) := by
  intro chosen entered
  rcases registry.enter_spec plugin chosen with ⟨error, henter⟩ | ⟨-, henter⟩
  · exact .inl ⟨error, henter, by rw [register_eq, henter]⟩
  · exact .inr ⟨henter, by rw [register_eq, henter]⟩

/-- Registering a plugin enters it under the chosen name and may note that name. -/
theorem register_registry (registry : Registry) (plugin : Plugin) (name : Option Text) :
    ∃ checked, (registry.register plugin name).registry =
      { (registry.enter plugin (chosenName plugin name)).1 with checked } := by
  rcases registry.register_cases plugin name with ⟨error, henter, hstep⟩ | ⟨henter, hstep⟩
  · rw [hstep, henter]
    exact ⟨registry.checked, rfl⟩
  · rw [hstep, henter]
    exact check_registry _ (chosenName plugin name) plugin

end Registry

end NamedGrid
