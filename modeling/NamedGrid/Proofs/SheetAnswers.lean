import NamedGrid.Proofs.Contributions
import NamedGrid.Proofs.SheetRuns

/-!
# Answers of a registered sheet

A sheet that is registered among other plugins receives each delivery once, wherever it stands
among them. From then on it is asked for one class after another. It answers from its table where
a class has been resolved and by a resolver where not, and the table is shared with the static
rules. A stem without a bracket ends before the first bracket of a selector, so a selector tells
the class that it belongs to; hence the table never answers for another class, and every answer is
what the generated set declares (`Recalls`).
-/

namespace NamedGrid

/-! ## Selectors -/

/-- Classes whose stems have no bracket are determined by their selectors. -/
theorem BracketedClass.selector_inj_of_notMem {c d : BracketedClass} (hc : '[' ∉ c.stem)
    (hd : '[' ∉ d.stem) (he : c.selector = d.selector) : c = d := by
  have hname : ∀ e : BracketedClass, '[' ∉ e.stem →
      e.className.takeWhile (· != '[') = e.stem ++ ['-'] ∧
        e.className.dropWhile (· != '[') = '[' :: (e.value ++ [']']) := by
    intro e hstem
    have hsplit : e.className = (e.stem ++ ['-']) ++ '[' :: (e.value ++ [']']) := by
      simp [className, opening]
    have hlead : ∀ a ∈ e.stem ++ ['-'], (a != '[') = true := by
      intro a ha
      rcases List.mem_append.mp ha with ha | ha
      · exact bne_iff_ne.mpr fun heq => hstem (heq ▸ ha)
      · rw [List.mem_singleton.mp ha]
        decide
    rw [hsplit, List.takeWhile_append_of_pos hlead, List.dropWhile_append_of_pos hlead,
      List.takeWhile_cons_of_neg (by decide), List.dropWhile_cons_of_neg (by decide),
      List.append_nil]
    exact ⟨rfl, rfl⟩
  obtain ⟨htake, hdrop⟩ := hname c hc
  rw [(List.cons.inj he).2] at htake hdrop
  have hstem := htake.symm.trans (hname d hd).1
  have hvalue := (List.cons.inj (hdrop.symm.trans (hname d hd).2)).2
  cases c
  cases d
  exact congrArg₂ _ (List.append_cancel_right hstem) (List.append_cancel_right hvalue)

/-! ## Answers -/

namespace Sheet

/-- What a sheet answers to classes that it is asked for one after the other. -/
def answers (sheet : Sheet) : List BracketedClass → List (Option Body)
  | [] => []
  | c :: classes => (sheet.resolve c).1 :: (sheet.resolve c).2.answers classes

/-- A sheet has the resolvers of another one, and the rule of a class that it has resolved is what
these give. Stems have no bracket. -/
structure Recalls (base sheet : Sheet) : Prop where
  resolvers : sheet.resolvers = base.resolvers
  rule : ∀ c : BracketedClass, '[' ∉ c.stem → c.selector ∈ sheet.resolved →
    sheet.rules.get? c.selector = base.body? c

namespace Recalls

variable {base sheet : Sheet}

theorem refl (h : base.resolved = []) : Recalls base base where
  resolvers := rfl
  rule _ _ hc := absurd (h ▸ hc) List.not_mem_nil

/-- A class is answered with what the resolvers give, whether it has been resolved or not. -/
theorem resolve (h : Recalls base sheet) {c : BracketedClass} (hc : '[' ∉ c.stem) :
    (sheet.resolve c).1 = base.body? c ∧ Recalls base (sheet.resolve c).2 := by
  have hbody : base.body? c =
      (sheet.resolvers.get? c.stem).map fun resolver => Body.ofProperties (resolver c.value) := by
    rw [body?, h.resolvers]
  rw [resolve_eq]
  by_cases hseen : c.selector ∈ sheet.resolved
  · have hnone : sheet.resolverFor? c = none := by
      rw [resolverFor?, if_pos (List.contains_iff_mem.mpr hseen)]
    rw [hnone]
    dsimp only
    rw [if_pos hseen]
    exact ⟨h.rule c hc hseen, h⟩
  · have hfor : sheet.resolverFor? c = sheet.resolvers.get? c.stem := by
      rw [resolverFor?, if_neg (mt List.contains_iff_mem.mp hseen)]
    rw [hfor]
    cases hr : sheet.resolvers.get? c.stem with
    | none =>
      dsimp only
      rw [if_neg hseen, hbody, hr]
      exact ⟨rfl, h⟩
    | some resolver =>
      rw [hr, Option.map_some] at hbody
      refine ⟨hbody.symm, h.resolvers, fun d hd hmem => (Table.get?_insert _ _ _ _).trans ?_⟩
      by_cases heq : c.selector = d.selector
      · obtain rfl := BracketedClass.selector_inj_of_notMem hc hd heq
        rw [if_pos rfl, hbody]
      · have hold : d.selector ∈ sheet.resolved :=
          (List.mem_append.mp hmem).resolve_right fun hlast =>
            heq (List.mem_singleton.mp hlast).symm
        rw [if_neg heq]
        exact h.rule d hd hold

/-- All answers are what the resolvers give. -/
theorem answers (h : Recalls base sheet) {classes : List BracketedClass}
    (hclasses : ∀ c ∈ classes, '[' ∉ c.stem) :
    sheet.answers classes = classes.map base.body? := by
  induction classes generalizing sheet with
  | nil => rfl
  | cons c classes ih =>
    obtain ⟨hc, hclasses⟩ := List.forall_mem_cons.mp hclasses
    obtain ⟨hanswer, hrecalls⟩ := h.resolve hc
    rw [Sheet.answers, hanswer, ih hrecalls hclasses, List.map_cons]

end Recalls

end Sheet

/-- The resolvers of a received set give what the set declares. -/
theorem UtilitySet.body?_receivedSheet {set : UtilitySet} (h : set.families = resolverFamilies)
    (c : BracketedClass) :
    set.receivedSheet.body? c =
      (set.resolve c.stem c.value).map fun d => Body.ofProperties d.toTable := by
  rw [Sheet.body?, get?_resolvers_receivedSheet h, UtilitySet.resolve, Option.map_map,
    Option.map_map]
  rfl

/-! ## Receipts -/

namespace Registry

/-- What a registered plugin receives of deliveries that every listener answers: each delivery as
often as the plugin implements the hook. -/
theorem Ordered.deliveries_received {registry : Registry} (h : Ordered registry) {plugin : Plugin}
    (hp : plugin ∈ registry.plugins.values) (deliveries : List Delivery) :
    ((registry.receiptsOf deliveries).filter fun receipt =>
        receipt.plugin.identity = plugin.identity).map Receipt.delivery =
      deliveries.flatMap fun delivery =>
        List.replicate (plugin.hooks.count delivery.hook) delivery := by
  rw [receiptsOf, List.filter_flatMap, List.map_flatMap]
  refine List.flatMap_congr fun delivery _ => ?_
  rw [List.filter_map, List.map_map]
  exact (congrArg (List.map _) (h.filter_listeners hp delivery.hook)).trans List.map_replicate

/-- The sheet that an object is after deliveries have been handed to all plugins. -/
def sheetAfter (registry : Registry) (identity : Identity) (deliveries : List Delivery) :
    Except PluginError Sheet :=
  match registry.deliverAll deliveries with
  | (_, some error) => .error error
  | (receipts, none) =>
    .ok (Sheet.empty.receiveAll ((receipts.filter fun receipt =>
      receipt.plugin.identity = identity).map Receipt.delivery))

/-- Handing over succeeds exactly where every listener answers. -/
theorem sheetAfter_eq_ok_iff {registry : Registry} {identity : Identity}
    {deliveries : List Delivery} {sheet : Sheet} :
    registry.sheetAfter identity deliveries = .ok sheet ↔
      (∀ delivery ∈ deliveries, registry.Answers delivery.hook) ∧
        sheet = Sheet.empty.receiveAll (((registry.receiptsOf deliveries).filter fun receipt =>
          receipt.plugin.identity = identity).map Receipt.delivery) := by
  obtain ⟨hall, hfail⟩ := registry.deliverAll_eq deliveries
  unfold sheetAfter
  by_cases hanswers : ∀ delivery ∈ deliveries, registry.Answers delivery.hook
  · rw [hall hanswers]
    dsimp only
    rw [Except.ok.injEq, and_iff_right hanswers, eq_comm]
  · have herror := hfail hanswers
    generalize registry.deliverAll deliveries = delivered at herror
    obtain ⟨receipts, error⟩ := delivered
    obtain rfl : error = some .notInstantiated := herror
    simp [hanswers]

/-- A sheet among other plugins receives each delivery once. -/
theorem Ordered.sheet_received {registry : Registry} (h : Ordered registry) {plugin : Plugin}
    (hp : plugin ∈ registry.plugins.values) (hsheet : plugin.blueprint = sheetBlueprint)
    (deliveries : List Delivery) :
    ((registry.receiptsOf deliveries).filter fun receipt =>
        receipt.plugin.identity = plugin.identity).map Receipt.delivery = deliveries := by
  have hhooks : plugin.hooks = [.addUtilities, .matchUtilities] := by
    rw [Plugin.hooks, hsheet, hooks_sheetBlueprint]
  have honce : ∀ delivery : Delivery, plugin.hooks.count delivery.hook = 1 := by
    intro delivery
    rw [hhooks]
    cases delivery <;> rfl
  rw [h.deliveries_received hp]
  simp only [honce, List.replicate_one, List.flatMap_singleton']

/-- **Both dispatchers of bracketed values agree.** A generated set is handed over to the plugins
of a registry, a sheet among them, which succeeds exactly if all sinks can be called. Whatever
classes the sheet is then asked for, one after the other and with known or unknown stems, it has no
answer where the set has no declaration, and else answers with exactly what is declared. -/
theorem Reachable.answers_eq_resolve {registry : Registry} (h : Reachable registry)
    {plugin : Plugin} (hp : plugin ∈ registry.plugins.values)
    (hplugin : plugin.blueprint = sheetBlueprint) {sources : LayoutSources} {set : UtilitySet}
    (hset : UtilitySet.generate sources = .ok set) :
    ((∃ sheet, registry.sheetAfter plugin.identity set.deliveries = .ok sheet) ↔
        registry.Answers .addUtilities ∧ registry.Answers .matchUtilities) ∧
      ∀ sheet, registry.sheetAfter plugin.identity set.deliveries = .ok sheet →
        ∀ classes : List BracketedClass, (∀ c ∈ classes, '[' ∉ c.stem) →
          sheet.answers classes = classes.map fun c =>
            (set.resolve c.stem c.value).map fun d => Body.ofProperties d.toTable := by
  have hfamilies := UtilitySet.families_of_generate hset
  have hsinks := UtilitySet.forall_hook_deliveries hfamilies (P := registry.Answers)
  have hafter : ∀ sheet, registry.sheetAfter plugin.identity set.deliveries = .ok sheet ↔
      (registry.Answers .addUtilities ∧ registry.Answers .matchUtilities) ∧
        sheet = set.receivedSheet := by
    intro sheet
    rw [sheetAfter_eq_ok_iff, hsinks, h.ordered.sheet_received hp hplugin, UtilitySet.receivedSheet]
  constructor
  · constructor
    · rintro ⟨sheet, hsheet⟩
      exact ((hafter sheet).mp hsheet).1
    · intro hanswers
      exact ⟨set.receivedSheet, (hafter _).mpr ⟨hanswers, rfl⟩⟩
  · intro sheet hsheet classes hclasses
    obtain ⟨-, rfl⟩ := (hafter sheet).mp hsheet
    have hunresolved : set.receivedSheet.resolved = [] :=
      congrArg Sheet.resolved set.receivedSheet_eq
    rw [(Sheet.Recalls.refl hunresolved).answers hclasses]
    exact List.map_congr_left fun c _ => UtilitySet.body?_receivedSheet hfamilies c

/-- A registry with a sheet beside a sink and a plugin that contributes a layout. -/
def sheetBesideOthers : Registry := contributedSession.registry.registerSheet.registry

/-- Sources of a layout with an area that is spelled like a value in brackets. -/
def bracketedAreaSources : LayoutSources :=
  Table.ofList [("page".toList, .raw (.list [.text "[x] a".toList]))]

/-- A class that shares its name with a static one is resolved and met again, among classes with a
known and with an unknown stem. -/
theorem Reachable.answers_eq_resolve_besideOthers :
    ∃ set sheet, UtilitySet.generate bracketedAreaSources = .ok set ∧
      sheetBesideOthers.Reachable ∧
      contributedSession.registry.sheetPlugin ∈ sheetBesideOthers.plugins.values ∧
      sheetBesideOthers.sheetAfter contributedSession.registry.sheetPlugin.identity
        set.deliveries = .ok sheet ∧
      (set.find? "row-start-[x]".toList).isSome = true ∧
      sheet.answers [⟨"row-start".toList, "x".toList⟩, ⟨"gap".toList, "1rem".toList⟩,
          ⟨"row-start".toList, "x".toList⟩, ⟨"grid-area".toList, "[y]_/_b".toList⟩] =
        [some [.property "grid-row-start".toList "x".toList], none,
          some [.property "grid-row-start".toList "x".toList],
          some [.property "grid-area".toList "[y] / b".toList]] := by
  obtain ⟨set, hset⟩ : ∃ set, UtilitySet.generate bracketedAreaSources = .ok set := ⟨_, rfl⟩
  have haside : asidePlugin.identity.IsBefore (sinkRegistry .object).made := trivial
  have hothers : contributedSession.registry.Reachable :=
    (reachable_sinkRegistry .object).register haside none
  have hreachable : sheetBesideOthers.Reachable := hothers.registerSheet
  have hfree : sheetName ∉ contributedSession.registry.names := by decide +kernel
  obtain ⟨-, checked, hregistry⟩ := hothers.sound.registerSheet hfree
  have hregistry : sheetBesideOthers = { contributedSession.registry.withSheet with checked } :=
    hregistry
  have hmem : contributedSession.registry.sheetPlugin ∈ sheetBesideOthers.plugins.values := by
    rw [hregistry]
    exact List.mem_map_of_mem (Table.get?_eq_some_iff.mp
      ((Table.get?_insert _ _ _ _).trans (if_pos rfl)))
  have hcallable : ∀ delivery : Delivery, contributedSession.registry.Answers delivery.hook →
      sheetBesideOthers.Answers delivery.hook := by
    intro delivery hanswers
    rw [hregistry]
    exact (answers_withSheet _ checked delivery).mpr hanswers
  obtain ⟨hregistered, hall⟩ := hreachable.answers_eq_resolve hmem rfl hset
  obtain ⟨sheet, hsheet⟩ := hregistered.mpr
    ⟨hcallable (.rules .empty) (by decide +kernel),
      hcallable (.resolvers .empty) (by decide +kernel)⟩
  refine ⟨set, sheet, hset, hreachable, hmem, hsheet, ?_,
    (hall sheet hsheet _ (by decide)).trans ?_⟩
  · obtain rfl := Except.ok.inj hset
    rfl
  · obtain rfl := Except.ok.inj hset
    rfl

end Registry

end NamedGrid
