import Mathlib.Data.List.Nodup
import Mathlib.Data.List.Perm.Subperm
import NamedGrid.Proofs.Table
import NamedGrid.Utility.Sheet

/-!
# Runs of a sheet

Deliveries and classes may come to a sheet in any order. A later delivery may write over the
rule of a class that has been resolved, and may bring another resolver for its stem. What every
call keeps is that the resolved selectors are distinct and have rules; a call only adds
selectors at the end of the table, and it runs a resolver exactly where it notes one more
selector as resolved. So over a whole run no class name has its resolver run twice.
-/

namespace NamedGrid

/-- One call of a sheet. -/
inductive SheetCall
  /-- Rules or resolvers are handed over. -/
  | receive (delivery : Delivery)
  /-- A class is to be resolved. -/
  | resolve (c : BracketedClass)

namespace Sheet

/-- The sheet after one call. -/
def step (sheet : Sheet) : SheetCall → Sheet
  | .receive delivery => sheet.receive delivery
  | .resolve c => (sheet.resolve c).2

/-- The sheet after a run of calls. -/
def run (sheet : Sheet) (calls : List SheetCall) : Sheet := calls.foldl step sheet

/-! ## Running resolvers -/

/-- The resolver that is run for a class: that of its stem, unless the class is resolved. -/
def resolverFor? (sheet : Sheet) (c : BracketedClass) : Option TableResolver :=
  if sheet.resolved.contains c.selector then none else sheet.resolvers.get? c.stem

/-- The sheet with the body of a class that its resolver has given. -/
def noted (sheet : Sheet) (c : BracketedClass) (body : Body) : Sheet :=
  { sheet with
    rules := sheet.rules.insert c.selector body
    resolved := sheet.resolved ++ [c.selector] }

/-- Resolving a class runs its resolver and notes what it gives, or runs none and changes
nothing; then a class that is resolved has the body of its rule, and any other class has none. -/
theorem resolve_eq (sheet : Sheet) (c : BracketedClass) :
    sheet.resolve c =
      match sheet.resolverFor? c with
      | some resolver =>
        (some (Body.ofProperties (resolver c.value)),
          sheet.noted c (Body.ofProperties (resolver c.value)))
      | none =>
        (if c.selector ∈ sheet.resolved then sheet.rules.get? c.selector else none, sheet) := by
  by_cases hc : c.selector ∈ sheet.resolved
  · simp only [resolve, resolverFor?, List.contains_iff_mem, hc, if_true]
  · simp only [resolve, resolverFor?, List.contains_iff_mem, hc, if_false]
    cases sheet.resolvers.get? c.stem <;> rfl

/-- The classes for which one call runs a resolver. -/
def invoked (sheet : Sheet) : SheetCall → List BracketedClass
  | .receive _ => []
  | .resolve c => if (sheet.resolverFor? c).isSome then [c] else []

/-- Where no resolver is run, the answer is the same whatever resolvers the stems have. -/
theorem resolve_of_invoked_eq_nil {sheet : Sheet} {c : BracketedClass}
    (h : sheet.invoked (.resolve c) = []) {resolvers : Table Text TableResolver}
    (hstems : resolvers.keys = sheet.resolvers.keys) :
    ({ sheet with resolvers } : Sheet).resolve c =
      ((sheet.resolve c).1, { sheet with resolvers }) := by
  have hnone : sheet.resolverFor? c = none := by
    simpa [invoked] using h
  have hother : ({ sheet with resolvers } : Sheet).resolverFor? c = none := by
    unfold resolverFor? at hnone ⊢
    split at hnone
    · exact if_pos ‹_›
    · rename_i hc
      rw [if_neg hc, ← Option.not_isSome_iff_eq_none, Table.get?_isSome, hstems,
        ← Table.get?_isSome, hnone]
      exact Bool.false_ne_true
  rw [resolve_eq, resolve_eq, hother, hnone]

/-- An answer is the rule that the class has then, and without one the sheet stays as it is. -/
theorem rule_of_resolve (sheet : Sheet) (c : BracketedClass) :
    (∀ body, (sheet.resolve c).1 = some body →
        (sheet.resolve c).2.rules.get? c.selector = some body) ∧
      ((sheet.resolve c).1 = none → (sheet.resolve c).2 = sheet) := by
  rw [resolve_eq]
  cases sheet.resolverFor? c with
  | none =>
    refine ⟨fun body hbody => ?_, fun _ => rfl⟩
    by_cases hc : c.selector ∈ sheet.resolved
    · simpa only [hc, if_true] using hbody
    · simp only [hc, if_false, reduceCtorEq] at hbody
  | some resolver =>
    refine ⟨fun body hbody => ?_, fun hnone => absurd hnone (Option.some_ne_none _)⟩
    exact (Table.get?_insert _ _ _ _).trans ((if_pos rfl).trans hbody)

/-- The classes for which a run of calls runs resolvers, in order. -/
def invocations (sheet : Sheet) : List SheetCall → List BracketedClass
  | [] => []
  | call :: calls => sheet.invoked call ++ (sheet.step call).invocations calls

/-- A call notes as resolved exactly the classes for which it runs a resolver. -/
theorem resolved_step (sheet : Sheet) (call : SheetCall) :
    (sheet.step call).resolved =
      sheet.resolved ++ (sheet.invoked call).map BracketedClass.selector := by
  cases call with
  | receive delivery => cases delivery <;> exact (List.append_nil _).symm
  | resolve c =>
    rw [step, invoked, resolve_eq]
    cases sheet.resolverFor? c with
    | none => exact (List.append_nil _).symm
    | some resolver => rfl

/-- A run notes as resolved exactly the classes for which it runs resolvers. -/
theorem resolved_run (sheet : Sheet) (calls : List SheetCall) :
    (sheet.run calls).resolved =
      sheet.resolved ++ (sheet.invocations calls).map BracketedClass.selector := by
  induction calls generalizing sheet with
  | nil => exact (List.append_nil _).symm
  | cons call calls ih =>
    have htail : (sheet.run (call :: calls)).resolved =
        (sheet.step call).resolved ++
          ((sheet.step call).invocations calls).map BracketedClass.selector :=
      ih (sheet.step call)
    rw [htail, resolved_step, invocations, List.map_append, List.append_assoc]

/-! ## Selectors -/

/-- A call adds selectors at the end of the table. -/
theorem keys_prefix_step (sheet : Sheet) (call : SheetCall) :
    sheet.rules.keys <+: (sheet.step call).rules.keys := by
  cases call with
  | receive delivery =>
    cases delivery with
    | rules table => exact Table.keys_prefix_update _ _
    | resolvers table => exact List.prefix_rfl
  | resolve c =>
    rw [step, resolve_eq]
    cases sheet.resolverFor? c with
    | none => exact List.prefix_rfl
    | some resolver => exact Table.keys_prefix_insert _ _ _

/-- A run adds selectors at the end of the table. -/
theorem keys_prefix_run (sheet : Sheet) (calls : List SheetCall) :
    sheet.rules.keys <+: (sheet.run calls).rules.keys := by
  induction calls generalizing sheet with
  | nil => exact List.prefix_rfl
  | cons call calls ih => exact (sheet.keys_prefix_step call).trans (ih _)

/-! ## The invariant -/

/-- The resolved selectors are distinct, and each has a rule. -/
structure Consistent (sheet : Sheet) : Prop where
  nodup : sheet.resolved.Nodup
  ruled : ∀ selector ∈ sheet.resolved, selector ∈ sheet.rules.keys

namespace Consistent

variable {sheet : Sheet}

theorem empty : Consistent .empty := ⟨List.nodup_nil, fun _ h => absurd h List.not_mem_nil⟩

theorem step (h : Consistent sheet) (call : SheetCall) : Consistent (sheet.step call) := by
  have hkeys := (sheet.keys_prefix_step call).subset
  have hold : ∀ selector ∈ sheet.resolved, selector ∈ (sheet.step call).rules.keys :=
    fun selector hs => hkeys (h.ruled selector hs)
  cases call with
  | receive delivery =>
    have hsame : (sheet.step (.receive delivery)).resolved = sheet.resolved := by
      rw [resolved_step, invoked, List.map_nil, List.append_nil]
    exact ⟨hsame ▸ h.nodup, hsame ▸ hold⟩
  | resolve c =>
    cases hr : sheet.resolverFor? c with
    | none =>
      have hsame : sheet.step (.resolve c) = sheet := by rw [Sheet.step, resolve_eq, hr]
      rw [hsame]
      exact h
    | some resolver =>
      have hnew : c.selector ∉ sheet.resolved := by
        intro hc
        rw [resolverFor?, if_pos (List.contains_iff_mem.mpr hc)] at hr
        cases hr
      have hstep : sheet.step (.resolve c) =
          sheet.noted c (Body.ofProperties (resolver c.value)) := by
        rw [Sheet.step, resolve_eq, hr]
      rw [hstep] at hold ⊢
      refine ⟨?_, fun selector hs => ?_⟩
      · rw [noted, ← List.concat_eq_append]
        exact h.nodup.concat hnew
      · rcases List.mem_append.mp hs with hs | hs
        · exact hold selector hs
        · rw [List.mem_singleton.mp hs, ← Table.get?_isSome, noted, Table.get?_insert, if_pos rfl]
          rfl

theorem run (h : Consistent sheet) (calls : List SheetCall) : Consistent (sheet.run calls) := by
  induction calls generalizing sheet with
  | nil => exact h
  | cons call calls ih => exact ih (h.step call)

/-- A class that is resolved has a rule. -/
theorem exists_rule (h : Consistent sheet) {selector : Text} (hs : selector ∈ sheet.resolved) :
    ∃ body, sheet.rules.get? selector = some body :=
  Option.isSome_iff_exists.mp ((Table.get?_isSome _ _).mpr (h.ruled selector hs))

/-- There are at least as many rules as resolved classes. -/
theorem resolvedCount_le (h : Consistent sheet) : sheet.resolvedCount ≤ sheet.ruleCount := by
  rw [resolvedCount, ruleCount, Table.size_eq_length_keys]
  exact (List.Nodup.subperm h.nodup h.ruled).length_le

/-- A class that is resolved is answered from the table, and nothing changes. -/
theorem resolve_of_mem (h : Consistent sheet) {c : BracketedClass}
    (hc : c.selector ∈ sheet.resolved) :
    ∃ body, sheet.rules.get? c.selector = some body ∧ sheet.resolve c = (some body, sheet) := by
  obtain ⟨body, hbody⟩ := h.exists_rule hc
  refine ⟨body, hbody, ?_⟩
  rw [resolve, if_pos (List.contains_iff_mem.mpr hc), hbody]

end Consistent

end Sheet

/-- **What holds of a sheet after any run of calls.** Every resolved class has a rule, so it is
answered from the table, and there are at least as many rules as resolved classes. Further calls
add selectors at the end. An answer is the rule that its class has in the table, and to resolve a
class without an answer changes nothing. No class name has a resolver run for it twice; what is
not counted as a run does not depend on what the resolvers give. -/
theorem sheet_run_invariants (calls : List SheetCall) :
    let sheet := Sheet.empty.run calls
    (∀ selector ∈ sheet.resolved, ∃ body, sheet.rules.get? selector = some body) ∧
      (∀ c, c.selector ∈ sheet.resolved → ∃ body,
        sheet.rules.get? c.selector = some body ∧ sheet.resolve c = (some body, sheet)) ∧
      sheet.resolvedCount ≤ sheet.ruleCount ∧
      (∀ later, sheet.rules.keys <+: (Sheet.empty.run (calls ++ later)).rules.keys) ∧
      (∀ c body, (sheet.resolve c).1 = some body →
        (sheet.resolve c).2.rules.get? c.selector = some body) ∧
      (∀ c, (sheet.resolve c).1 = none → (sheet.resolve c).2 = sheet) ∧
      ((Sheet.empty.invocations calls).map BracketedClass.className).Nodup ∧
      sheet.resolvedCount = (Sheet.empty.invocations calls).length ∧
      ∀ c, sheet.invoked (.resolve c) = [] → ∀ resolvers : Table Text TableResolver,
        resolvers.keys = sheet.resolvers.keys →
        ({ sheet with resolvers } : Sheet).resolve c =
          ((sheet.resolve c).1, { sheet with resolvers }) := by
  intro sheet
  have h : sheet.Consistent := Sheet.Consistent.empty.run calls
  have hresolved : sheet.resolved =
      (Sheet.empty.invocations calls).map BracketedClass.selector :=
    Sheet.resolved_run .empty calls
  refine ⟨fun _ => h.exists_rule, fun c => h.resolve_of_mem, h.resolvedCount_le, fun later => ?_,
    fun c => (sheet.rule_of_resolve c).1, fun c => (sheet.rule_of_resolve c).2, ?_, ?_,
    fun c hc resolvers => Sheet.resolve_of_invoked_eq_nil hc⟩
  · have hrun : Sheet.empty.run (calls ++ later) = sheet.run later := List.foldl_append
    rw [hrun]
    exact sheet.keys_prefix_run later
  · have hnodup := h.nodup
    rw [hresolved] at hnodup
    have hselectors : (Sheet.empty.invocations calls).map BracketedClass.selector =
        ((Sheet.empty.invocations calls).map BracketedClass.className).map selectorOf := by
      rw [List.map_map]
      rfl
    exact List.Nodup.of_map selectorOf (hselectors ▸ hnodup)
  · rw [Sheet.resolvedCount, hresolved, List.length_map]

end NamedGrid
