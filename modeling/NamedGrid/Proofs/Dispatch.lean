import NamedGrid.Operation.Build
import NamedGrid.Proofs.Registration
import NamedGrid.Proofs.Table

/-!
# Handing utilities over

The sheet of a build is a new object, so it differs from everything that is registered. It
is called first at both sink hooks and receives every delivery, provided that all other
listeners can be called; and when it is unregistered again, the registry is as it was but
for the names it has checked and the number of objects it has made.
-/

namespace NamedGrid

namespace Registry

/-! ## Calling a hook -/

/-- Every plugin that a hook calls is an object. -/
def Answers (registry : Registry) (hook : Hook) : Prop :=
  ∀ plugin ∈ registry.listeners hook, plugin.form = .object

instance (registry : Registry) (hook : Hook) : Decidable (registry.Answers hook) :=
  inferInstanceAs (Decidable (∀ plugin ∈ registry.listeners hook, plugin.form = .object))

/-- Objects answer all, and a call fails only at a blueprint. -/
theorem answering_eq (plugins : List Plugin) :
    ((∀ plugin ∈ plugins, plugin.form = .object) → answering plugins = (plugins, none)) ∧
      ((¬∀ plugin ∈ plugins, plugin.form = .object) →
        (answering plugins).2 = some .notInstantiated) := by
  induction plugins with
  | nil => simp [answering]
  | cons plugin plugins ih =>
    rw [List.forall_mem_cons]
    cases hf : plugin.form with
    | blueprint => simp [answering, hf]
    | object =>
      simp only [answering, hf, true_and]
      exact ⟨fun h => by rw [ih.1 h], ih.2⟩

/-- What every listener of a hook receives when all deliveries are handed over. -/
def receiptsOf (registry : Registry) (deliveries : List Delivery) : List Receipt :=
  deliveries.flatMap fun delivery =>
    (registry.listeners delivery.hook).map fun plugin => ⟨plugin, delivery⟩

/-- Deliveries are handed over to the end where every listener answers, and fail otherwise. -/
theorem deliverAll_eq (registry : Registry) (deliveries : List Delivery) :
    ((∀ delivery ∈ deliveries, registry.Answers delivery.hook) →
        registry.deliverAll deliveries = (registry.receiptsOf deliveries, none)) ∧
      ((¬∀ delivery ∈ deliveries, registry.Answers delivery.hook) →
        (registry.deliverAll deliveries).2 = some .notInstantiated) := by
  induction deliveries with
  | nil => simp [deliverAll, receiptsOf]
  | cons delivery deliveries ih =>
    rw [List.forall_mem_cons, receiptsOf, List.flatMap_cons]
    obtain ⟨hall, hfail⟩ := answering_eq (registry.listeners delivery.hook)
    by_cases ha : registry.Answers delivery.hook
    · simp only [deliverAll, deliver, hall ha, ha, true_and]
      refine ⟨fun h => ?_, fun h => ?_⟩
      · rw [ih.1 h]
        rfl
      · exact ih.2 h
    · have herror := hfail ha
      simp only [ha, false_and, not_false_eq_true, true_implies, false_implies, true_and]
      simp only [deliverAll, deliver, herror]

/-! ## The sheet as a plugin -/

/-- The sheet as the object that a registry makes of it. -/
def sheetPlugin (registry : Registry) : Plugin := ⟨.made registry.made, sheetBlueprint, .object⟩

/-- A registry in which the sheet is the latest plugin. -/
def withSheet (registry : Registry) : Registry :=
  { registry with
    plugins := registry.plugins.insert sheetName registry.sheetPlugin
    implementations := registry.implementations ++
      [⟨.addUtilities, registry.sheetPlugin⟩, ⟨.matchUtilities, registry.sheetPlugin⟩]
    made := registry.made + 1 }

/-- The sheet has one method for each of the two sink hooks. -/
theorem sortedMethods_sheetBlueprint :
    sheetBlueprint.sortedMethods = sheetBlueprint.methods := by
  have hvalues : (Table.ofList (sheetBlueprint.methods.map fun m => (m.name, m))).values =
      sheetBlueprint.methods := rfl
  rw [Blueprint.sortedMethods, hvalues]
  exact List.mergeSort_of_pairwise (by decide)

/-- An object that a sound registry has yet to make is not registered in it. -/
theorem Sound.nameOf?_made {registry : Registry} (h : Sound registry) :
    registry.nameOf? (.made registry.made) = none := by
  rw [nameOf?, Option.map_eq_none_iff, List.find?_eq_none]
  intro e he hi
  have hbefore := h.plugins e he
  rw [of_decide_eq_true hi] at hbefore
  exact Nat.lt_irrefl _ hbefore

/-- All methods of the sheet are accepted. -/
theorem fits_sheetPlugin (registry : Registry) : registry.sheetPlugin.Fits := by
  change ∀ method ∈ sheetBlueprint.sortedMethods, method.IsAccepted
  rw [sortedMethods_sheetBlueprint]
  decide

/-- The sheet listens to both sink hooks. -/
theorem hooks_sheetBlueprint : sheetBlueprint.hooks = [.addUtilities, .matchUtilities] := by
  rw [Blueprint.hooks, sortedMethods_sheetBlueprint]
  rfl

/-- In a sound registry the sheet enters unless its name is taken. -/
theorem Sound.enter_sheet {registry : Registry} (h : Sound registry)
    (hname : sheetName ∉ registry.names) :
    (registry.instantiate sheetBlueprint).2.enter registry.sheetPlugin sheetName =
      (registry.withSheet, none) := by
  have hfree : sheetName ∉ (registry.instantiate sheetBlueprint).2.names := hname
  have hnew : (registry.instantiate sheetBlueprint).2.nameOf? registry.sheetPlugin.identity =
      none := h.nameOf?_made
  have hhooks : registry.sheetPlugin.hooks = [.addUtilities, .matchUtilities] :=
    hooks_sheetBlueprint
  rw [enter_of_fits hfree hnew registry.fits_sheetPlugin, withPlugin, hhooks]
  rfl

/-- The sheet is made and registered. -/
def registerSheet (registry : Registry) : Step :=
  (registry.instantiate sheetBlueprint).2.register registry.sheetPlugin (some sheetName)

/-- A taken name keeps the sheet out. -/
theorem registerSheet_error_of_mem {registry : Registry} (hname : sheetName ∈ registry.names) :
    registry.registerSheet.error = some .nameTaken := by
  have htaken : sheetName ∈ (registry.instantiate sheetBlueprint).2.names := hname
  have henter : (registry.instantiate sheetBlueprint).2.enter registry.sheetPlugin
      (chosenName registry.sheetPlugin (some sheetName)) =
        ((registry.instantiate sheetBlueprint).2, some .nameTaken) := enter_of_mem _ htaken
  rw [registerSheet, register_eq, henter]

/-- A sound registry whose names leave that of the sheet free takes it in. -/
theorem Sound.registerSheet {registry : Registry} (h : Sound registry)
    (hname : sheetName ∉ registry.names) :
    registry.registerSheet.error = none ∧
      ∃ checked, registry.registerSheet.registry = { registry.withSheet with checked } := by
  have henter : (registry.instantiate sheetBlueprint).2.enter registry.sheetPlugin
      (chosenName registry.sheetPlugin (some sheetName)) = (registry.withSheet, none) :=
    h.enter_sheet hname
  rw [Registry.registerSheet, register_eq, henter]
  exact ⟨rfl, check_registry registry.withSheet sheetName registry.sheetPlugin⟩

/-- The sheet is called first at the hook of a delivery. -/
theorem listeners_withSheet (registry : Registry) (checked : List Text) (delivery : Delivery) :
    listeners { registry.withSheet with checked } delivery.hook =
      registry.sheetPlugin :: registry.listeners delivery.hook := by
  cases delivery <;> simp [listeners, withSheet, Delivery.hook]

/-- The sheet is an object, so a hook is answered with it exactly where it was before. -/
theorem answers_withSheet (registry : Registry) (checked : List Text) (delivery : Delivery) :
    Answers { registry.withSheet with checked } delivery.hook ↔
      registry.Answers delivery.hook := by
  simp only [Answers, listeners_withSheet, List.forall_mem_cons, sheetPlugin, true_and]

/-- No listener of a sound registry is the object that it makes next. -/
theorem Sound.ne_sheet {registry : Registry} (h : Sound registry) {hook : Hook}
    {plugin : Plugin} (hp : plugin ∈ registry.listeners hook) :
    plugin.identity ≠ registry.sheetPlugin.identity := by
  intro he
  obtain ⟨i, hi, rfl⟩ := List.mem_map.mp (List.mem_reverse.mp hp)
  have hbefore := h.implementations i (List.mem_filter.mp hi).1
  rw [he] at hbefore
  exact Nat.lt_irrefl _ hbefore

/-- The sheet receives each delivery once. -/
theorem Sound.receipts_sheet {registry : Registry} (h : Sound registry) (checked : List Text)
    (deliveries : List Delivery) :
    ((receiptsOf { registry.withSheet with checked } deliveries).filter fun receipt =>
        receipt.plugin.identity = registry.sheetPlugin.identity).map Receipt.delivery =
      deliveries := by
  induction deliveries with
  | nil => rfl
  | cons delivery deliveries ih =>
    have hothers : ((registry.listeners delivery.hook).map fun plugin =>
        Receipt.mk plugin delivery).filter (fun receipt =>
          receipt.plugin.identity = registry.sheetPlugin.identity) = [] := by
      rw [List.filter_eq_nil_iff]
      intro receipt hr
      obtain ⟨plugin, hp, rfl⟩ := List.mem_map.mp hr
      simpa using h.ne_sheet hp
    rw [receiptsOf] at ih ⊢
    rw [List.flatMap_cons, listeners_withSheet, List.map_cons, List.filter_append, List.map_append,
      ih, List.filter_cons, if_pos (by simp), hothers]
    rfl

/-! ## Dispatch -/

/-- Handing over in terms of the registered sheet. -/
theorem dispatch_eq (registry : Registry) (deliveries : List Delivery) :
    registry.dispatch deliveries =
      match registry.registerSheet.error with
      | some error =>
        ⟨registry.registerSheet.registry, .error error, [], registry.registerSheet.notices⟩
      | none =>
        { registry := (registry.registerSheet.registry.unregister registry.sheetPlugin).registry
          sheet :=
            match (registry.registerSheet.registry.deliverAll deliveries).2 with
            | some error => .error error
            | none => .ok (Sheet.empty.receiveAll
                (((registry.registerSheet.registry.deliverAll deliveries).1.filter fun receipt =>
                  receipt.plugin.identity = registry.sheetPlugin.identity).map
                  Receipt.delivery))
          receipts :=
            (registry.registerSheet.registry.deliverAll deliveries).1.filter fun receipt =>
              !decide (receipt.plugin.identity = registry.sheetPlugin.identity)
          notices := registry.registerSheet.notices } := rfl

/-- **Handing over.** The new sheet receives all deliveries if its name is free and every
listener answers; otherwise the build ends at the first of the two. -/
theorem Sound.dispatch_sheet {registry : Registry} (h : Sound registry)
    (deliveries : List Delivery) :
    (registry.dispatch deliveries).sheet =
      if sheetName ∈ registry.names then .error .nameTaken
      else if ∀ delivery ∈ deliveries, registry.Answers delivery.hook then
        .ok (Sheet.empty.receiveAll deliveries)
      else .error .notInstantiated := by
  rw [dispatch_eq]
  by_cases hname : sheetName ∈ registry.names
  · rw [if_pos hname, registerSheet_error_of_mem hname]
  · obtain ⟨herror, checked, hregistry⟩ := h.registerSheet hname
    rw [if_neg hname, herror, hregistry]
    have hanswers : (∀ delivery ∈ deliveries,
        Answers { registry.withSheet with checked } delivery.hook) ↔
        ∀ delivery ∈ deliveries, registry.Answers delivery.hook :=
      forall₂_congr fun delivery _ => answers_withSheet registry checked delivery
    obtain ⟨hall, hfail⟩ := deliverAll_eq { registry.withSheet with checked } deliveries
    by_cases ha : ∀ delivery ∈ deliveries, registry.Answers delivery.hook
    · rw [if_pos ha, hall (hanswers.mpr ha)]
      dsimp only
      rw [h.receipts_sheet]
    · rw [if_neg ha, hfail (mt hanswers.mp ha)]

/-- Making and registering the sheet is a run of the registry. -/
theorem Reachable.registerSheet {registry : Registry} (h : Reachable registry) :
    Reachable registry.registerSheet.registry := by
  have hmade : registry.sheetPlugin.identity.IsBefore
      (registry.instantiate sheetBlueprint).2.made := Nat.lt_succ_self _
  exact (h.instantiate sheetBlueprint).register hmade (some sheetName)

/-- Handing over is a run of the registry. -/
theorem Reachable.dispatch {registry : Registry} (h : Reachable registry)
    (deliveries : List Delivery) : Reachable (registry.dispatch deliveries).registry := by
  rw [dispatch_eq]
  split
  · exact h.registerSheet
  · exact h.registerSheet.unregister registry.sheetPlugin

/-- Removing the sheet from a registry that it has entered gives back what was there. -/
theorem Sound.remove_sheet {registry : Registry} (h : Sound registry)
    (hname : sheetName ∉ registry.names) :
    registry.withSheet.remove sheetName registry.sheetPlugin.identity =
      { registry with made := registry.made + 1 } := by
  have hplugins : (registry.plugins.insert sheetName registry.sheetPlugin).erase sheetName =
      registry.plugins := Table.erase_insert_of_not_mem hname
  have hold : registry.implementations.filter
      (fun i => i.plugin.identity ≠ registry.sheetPlugin.identity) =
        registry.implementations := by
    rw [List.filter_eq_self]
    intro i hi
    have hbefore := h.implementations i hi
    apply decide_eq_true
    intro he
    rw [he] at hbefore
    exact Nat.lt_irrefl _ hbefore
  have himplementations : registry.withSheet.implementations.filter
      (fun i => i.plugin.identity ≠ registry.sheetPlugin.identity) =
        registry.implementations := by
    rw [withSheet, List.filter_append, hold]
    simp
  rw [Registry.remove, himplementations, withSheet, hplugins]

/-- The object of the sheet is registered under its name. -/
theorem Sound.nameOf?_sheet {registry : Registry} (h : Sound registry)
    (hname : sheetName ∉ registry.names) :
    registry.withSheet.nameOf? registry.sheetPlugin.identity = some sheetName := by
  have hold := Option.map_eq_none_iff.mp h.nameOf?_made
  have hentries : registry.withSheet.plugins.entries =
      registry.plugins.entries ++ [(sheetName, registry.sheetPlugin)] :=
    Table.place_of_not_mem hname
  rw [nameOf?, hentries, List.find?_append, sheetPlugin, hold]
  simp

/-- What handing over leaves in the registry: plugins and implementations as they were. -/
theorem Sound.dispatch_registry {registry : Registry} (h : Sound registry)
    (hname : sheetName ∉ registry.names) (deliveries : List Delivery) :
    ∃ checked, (registry.dispatch deliveries).registry =
      { registry with checked, made := registry.made + 1 } := by
  obtain ⟨herror, checked, hregistry⟩ := h.registerSheet hname
  have hfound : nameOf? { registry.withSheet with checked } registry.sheetPlugin.identity =
      some sheetName := h.nameOf?_sheet hname
  have hremoved : Registry.remove { registry.withSheet with checked } sheetName
      registry.sheetPlugin.identity = { registry with checked, made := registry.made + 1 } := by
    change { registry.withSheet.remove sheetName registry.sheetPlugin.identity with checked } = _
    rw [h.remove_sheet hname]
  rw [dispatch_eq, herror, hregistry]
  refine ⟨checked.filter fun n => n ≠ sheetName, ?_⟩
  rw [Registry.unregister, hfound]
  dsimp only
  rw [hremoved]

end Registry

end NamedGrid
