import Mathlib.Data.List.Nodup
import NamedGrid.Proofs.Scanner
import NamedGrid.Proofs.Table
import NamedGrid.Utility.Sheet

/-!
# The sheet after a run of classes

A sheet that has received a generated set holds one rule for every static class and one
resolver for every stem. From there each scanned class adds its selector behind those that
are known and writes the body that its resolver gives; a class that comes again changes
nothing. What one class does to a sheet is carried along a run of classes, so the sheet
after any number of texts is described by the set and the texts alone.
-/

namespace NamedGrid

/-! ## Received deliveries -/

namespace Sheet

/-- Deliveries of rules write their tables one after the other. -/
theorem receiveAll_rules (sheet : Sheet) (tables : List RuleTable) :
    sheet.receiveAll (tables.map .rules) =
      { sheet with rules := tables.foldl Table.update sheet.rules } := by
  induction tables generalizing sheet with
  | nil => rfl
  | cons table tables ih => exact ih _

/-- Deliveries of resolvers write their tables one after the other. -/
theorem receiveAll_resolvers (sheet : Sheet) (tables : List (Table Text TableResolver)) :
    sheet.receiveAll (tables.map .resolvers) =
      { sheet with resolvers := tables.foldl Table.update sheet.resolvers } := by
  induction tables generalizing sheet with
  | nil => rfl
  | cons table tables ih => exact ih _

/-- Tables that are written one after the other are written as one list. -/
theorem foldl_update_ofList {κ α β : Type} [DecidableEq κ] (f : α → List (κ × β))
    (t : Table κ β) (as : List α) :
    (as.map fun a => Table.ofList (f a)).foldl Table.update t = t.insertAll (as.flatMap f) := by
  induction as generalizing t with
  | nil => rfl
  | cons a as ih =>
    rw [List.map_cons, List.foldl_cons, ih, Table.update_ofList, List.flatMap_cons,
      Table.insertAll_append]

end Sheet

namespace UtilitySet

/-- The sheet that has received a set. -/
def receivedSheet (set : UtilitySet) : Sheet := Sheet.empty.receiveAll set.deliveries

/-- The sheet that has received a set and has then scanned texts. -/
def sheetOn (set : UtilitySet) (texts : List Text) : Sheet :=
  texts.foldl Sheet.scan set.receivedSheet

/-- The rules of a received set are those of all its static utilities, whatever their
families. -/
theorem receivedSheet_eq (set : UtilitySet) :
    set.receivedSheet =
      { rules := Utility.ruleTable set.staticUtilities
        resolvers := Table.ofList
          ((set.families.flatMap ResolverFamily.resolvers).map fun r => (r.1, r.2.toTables))
        resolved := [] } := by
  have hrules : (set.staticFamilies.map fun family => Utility.ruleTable family.2).foldl
      Table.update .empty = Utility.ruleTable set.staticUtilities := by
    refine (Sheet.foldl_update_ofList
      (fun family : Text × List Utility => family.2.map fun u =>
        (u.selector, Body.ofProperties u.declaration.toTable)) .empty _).trans ?_
    simp only [staticFamilies, List.flatMap_cons, List.flatMap_nil, List.append_nil,
      Utility.ruleTable, Table.ofList, staticUtilities, List.map_append, List.append_assoc]
  have hresolvers : (set.families.map fun family =>
      Table.ofList (family.resolvers.map fun r => (r.1, r.2.toTables))).foldl
      Table.update .empty = Table.ofList
        ((set.families.flatMap ResolverFamily.resolvers).map fun r => (r.1, r.2.toTables)) := by
    rw [Sheet.foldl_update_ofList, List.map_flatMap]
    rfl
  have hdeliveries : set.deliveries =
      (set.staticFamilies.map fun family => Utility.ruleTable family.2).map .rules ++
        (set.families.map fun family =>
          Table.ofList (family.resolvers.map fun r => (r.1, r.2.toTables))).map
          .resolvers := by
    rw [deliveries, List.map_map, List.map_map]
    rfl
  have happend : ∀ (sheet : Sheet) (ds es : List Delivery),
      sheet.receiveAll (ds ++ es) = (sheet.receiveAll ds).receiveAll es := fun _ _ _ =>
    List.foldl_append
  rw [receivedSheet, hdeliveries, happend, Sheet.receiveAll_rules, Sheet.receiveAll_resolvers]
  change Sheet.mk _ _ _ = _
  rw [Sheet.mk.injEq]
  exact ⟨hrules, hresolvers, rfl⟩

/-- The resolvers of a generated set belong to the stems of bracketed classes. -/
theorem map_fst_resolverFamilies :
    (resolverFamilies.flatMap ResolverFamily.resolvers).map Prod.fst = bracketStems := rfl

/-- A received set resolves through its own resolvers. -/
theorem get?_resolvers_receivedSheet {set : UtilitySet} (h : set.families = resolverFamilies)
    (stem : Text) :
    set.receivedSheet.resolvers.get? stem = (set.resolver? stem).map Resolver.toTables := by
  have hn : (((set.families.flatMap ResolverFamily.resolvers).map fun r =>
      (r.1, r.2.toTables)).map Prod.fst).Nodup := by
    rw [List.map_map, h]
    exact (by decide : bracketStems.Nodup)
  rw [receivedSheet_eq, Table.get?_ofList hn, Table.valueOf?_map, Table.valueOf?_flatMap]
  rfl

/-- Every stem of a bracketed class has a resolver. -/
theorem exists_resolver? {set : UtilitySet} (h : set.families = resolverFamilies) {stem : Text}
    (hs : stem ∈ bracketStems) : ∃ resolver, set.resolver? stem = some resolver := by
  rw [← Option.isSome_iff_exists, resolver?, ← Table.valueOf?_flatMap, h,
    ← Option.ne_none_iff_isSome, ne_eq, Table.valueOf?_eq_none_iff, not_not,
    map_fst_resolverFamilies]
  exact hs

end UtilitySet

/-! ## Runs of classes -/

namespace Sheet

/-- The body that the resolvers of a sheet give to a class. -/
def body? (sheet : Sheet) (c : BracketedClass) : Option Body :=
  (sheet.resolvers.get? c.stem).map fun resolver => Body.ofProperties (resolver c.value)

/-- What a sheet has become of another one that has met classes: the resolvers are the same,
new selectors stand behind the known ones, each class is noted once and has its body. -/
structure Resolved (base sheet : Sheet) (classes : List BracketedClass) : Prop where
  resolvers : sheet.resolvers = base.resolvers
  keys : sheet.rules.keys =
    (base.rules.keys ++ classes.map BracketedClass.selector).eraseDups
  resolved : sheet.resolved = (classes.map BracketedClass.selector).eraseDups
  rule : ∀ c ∈ classes, sheet.rules.get? c.selector = base.body? c

/-- Before the first class a sheet has resolved none. -/
theorem Resolved.refl {base : Sheet} (h : base.resolved = []) : Resolved base base [] where
  resolvers := rfl
  keys := by rw [List.map_nil, List.append_nil, Table.eraseDups_keys]
  resolved := h
  rule := by simp

/-- One more class with a known stem is resolved, or has been resolved before. -/
theorem Resolved.resolve {base sheet : Sheet} {classes : List BracketedClass}
    (h : Resolved base sheet classes)
    (hbase : ∀ stem ∈ bracketStems, ∃ resolver, base.resolvers.get? stem = some resolver)
    {c : BracketedClass} (hc : c.stem ∈ bracketStems)
    (hclasses : ∀ d ∈ classes, d.stem ∈ bracketStems) :
    Resolved base (sheet.resolve c).2 (classes ++ [c]) := by
  have hmem : sheet.resolved.contains c.selector = true ↔
      c.selector ∈ classes.map BracketedClass.selector := by
    rw [List.contains_iff_mem, h.resolved, List.mem_eraseDups]
  by_cases hseen : c.selector ∈ classes.map BracketedClass.selector
  · have hsame : (sheet.resolve c).2 = sheet := by
      rw [Sheet.resolve, if_pos (hmem.mpr hseen)]
    obtain ⟨d, hd, hdc⟩ := List.mem_map.mp hseen
    obtain rfl := BracketedClass.selector_inj (hclasses d hd) hc hdc
    rw [hsame]
    refine ⟨h.resolvers, ?_, ?_, ?_⟩
    · rw [List.map_append, List.map_singleton, ← List.append_assoc, eraseDups_concat,
        if_pos (List.mem_append_right _ hseen), h.keys]
    · rw [List.map_append, List.map_singleton, eraseDups_concat, if_pos hseen, h.resolved]
    · intro e he
      rcases List.mem_append.mp he with he | he
      · exact h.rule e he
      · rw [List.mem_singleton.mp he]
        exact h.rule d hd
  · obtain ⟨resolver, hr⟩ := hbase c.stem hc
    have hnew : (sheet.resolve c).2 =
        { sheet with
          rules := sheet.rules.insert c.selector (Body.ofProperties (resolver c.value))
          resolved := sheet.resolved ++ [c.selector] } := by
      rw [Sheet.resolve, if_neg (mt hmem.mp hseen), h.resolvers, hr]
    rw [hnew]
    refine ⟨h.resolvers, ?_, ?_, ?_⟩
    · rw [Table.keys_insert_eraseDups, h.keys, eraseDups_eraseDups_append, List.append_assoc,
        List.map_append, List.map_singleton]
    · rw [List.map_append, List.map_singleton, eraseDups_concat, if_neg hseen, h.resolved]
    · intro d hd
      rw [Table.get?_insert]
      rcases List.mem_append.mp hd with hd | hd
      · have hne : c.selector ≠ d.selector := fun he => hseen (he ▸ List.mem_map_of_mem hd)
        rw [if_neg hne, h.rule d hd]
      · rw [List.mem_singleton.mp hd, if_pos rfl, body?, hr, Option.map_some]

/-- **A run of classes.** Every class with a known stem is resolved once. -/
theorem resolved_resolveAll {base : Sheet} (hnone : base.resolved = [])
    (hbase : ∀ stem ∈ bracketStems, ∃ resolver, base.resolvers.get? stem = some resolver)
    {classes : List BracketedClass} (hclasses : ∀ c ∈ classes, c.stem ∈ bracketStems) :
    Resolved base (base.resolveAll classes) classes := by
  induction classes using List.reverseRecOn with
  | nil => exact .refl hnone
  | append_singleton classes c ih =>
    have hbefore := fun d hd => hclasses d (List.mem_append_left _ hd)
    rw [resolveAll, List.foldl_append, List.foldl_cons, List.foldl_nil]
    exact (ih hbefore).resolve hbase (hclasses c (by simp)) hbefore

/-- Texts that are scanned one after the other are one run of classes. -/
theorem foldl_scan (sheet : Sheet) (texts : List Text) :
    texts.foldl scan sheet = sheet.resolveAll (texts.flatMap bracketedClasses) := by
  induction texts generalizing sheet with
  | nil => rfl
  | cons text texts ih =>
    rw [List.foldl_cons, ih, List.flatMap_cons, resolveAll, resolveAll, List.foldl_append]
    rfl

end Sheet

namespace UtilitySet

/-- The selectors and bodies of static utilities, as rules. -/
theorem entries_ruleTable {utilities : List Utility}
    (h : (utilities.map Utility.className).Nodup) :
    (Utility.ruleTable utilities).entries =
      utilities.map fun u => (u.selector, Body.ofProperties u.declaration.toTable) := by
  apply Table.entries_ofList
  have hinj : Function.Injective selectorOf := fun _ _ he => (List.cons.inj he).2
  have hselectors := List.Nodup.map hinj h
  rw [List.map_map] at hselectors ⊢
  exact hselectors

/-- The sheet of a generated set after any texts: static selectors in order and behind them
the scanned ones, each scanned class with the body that the set gives to it. -/
theorem sheetOn_spec {set : UtilitySet} (h : set.families = resolverFamilies)
    (texts : List Text) :
    (set.sheetOn texts).rules.keys =
        (set.staticUtilities.map Utility.selector ++
          (texts.flatMap bracketedClasses).map BracketedClass.selector).eraseDups ∧
      (∀ c ∈ texts.flatMap bracketedClasses, ∃ declaration,
        set.resolve c.stem c.value = some declaration ∧
        (set.sheetOn texts).rules.get? c.selector =
          some (Body.ofProperties declaration.toTable)) ∧
      (set.sheetOn texts).resolvedCount =
        (texts.flatMap bracketedClasses).eraseDups.length := by
  have hclasses : ∀ c ∈ texts.flatMap bracketedClasses, c.stem ∈ bracketStems := by
    intro c hc
    obtain ⟨text, -, hc⟩ := List.mem_flatMap.mp hc
    exact stem_mem_of_mem_bracketedClasses hc
  have hresolvers : ∀ stem ∈ bracketStems,
      ∃ resolver, set.receivedSheet.resolvers.get? stem = some resolver := by
    intro stem hs
    obtain ⟨resolver, hr⟩ := exists_resolver? h hs
    exact ⟨resolver.toTables, by rw [get?_resolvers_receivedSheet h, hr, Option.map_some]⟩
  have hrun := Sheet.resolved_resolveAll (congrArg Sheet.resolved set.receivedSheet_eq)
    hresolvers hclasses
  rw [sheetOn, Sheet.foldl_scan]
  refine ⟨?_, fun c hc => ?_, ?_⟩
  · rw [hrun.keys, receivedSheet_eq, Utility.ruleTable, Table.keys_ofList, List.map_map,
      eraseDups_eraseDups_append]
    rfl
  · obtain ⟨resolver, hr⟩ := exists_resolver? h (hclasses c hc)
    refine ⟨resolver c.value, by rw [resolve, hr, Option.map_some], ?_⟩
    rw [hrun.rule c hc, Sheet.body?, get?_resolvers_receivedSheet h, hr]
    rfl
  · rw [Sheet.resolvedCount, hrun.resolved, eraseDups_map, List.length_map]
    intro c hc d hd
    exact BracketedClass.selector_inj (hclasses c hc) (hclasses d hd)

end UtilitySet

end NamedGrid
