import NamedGrid.Proofs.Agreement
import NamedGrid.Proofs.Calls

/-!
# Failed calls

The only failure that an operation reports is a malformed layout, which ends the pass with
which every call starts. Which call it was shows in the outcome alone, and what it leaves is
the session with its plugins discovered.
-/

namespace NamedGrid

/-- A failure tells the layout and the row that the fault blames, each if there is one. -/
theorem LayoutFault.mem_detail_failure {fault : LayoutFault} {key : Text} {value : Value} :
    (key, value) ∈ fault.failure.detail ↔
      (key = "layout".toList ∧ ∃ layout, fault.layout? = some layout ∧ value = .text layout) ∨
        (key = "row".toList ∧ ∃ row, fault.row? = some row ∧ value = .ofNat row) := by
  unfold failure
  dsimp only
  generalize "layout".toList = layoutKey
  generalize "row".toList = rowKey
  cases fault.layout? <;> cases fault.row? <;> simp

/-- An empty name and the first row are told like any other. -/
example : (LayoutFault.blankRowAt (some []) 0).failure.detail =
    [("layout".toList, .text []), ("row".toList, .int 0)] := rfl

/-- A result in another form was there in its first form. -/
theorem Done.exists_of_result_map {α β : Type} {f : α → β} {done : Done α} {b : β}
    (h : (done.map f).result = .ok b) : ∃ a, done.result = .ok a ∧ f a = b := by
  unfold map at h
  dsimp only at h
  cases hresult : done.result with
  | error error =>
    rw [hresult] at h
    cases h
  | ok a =>
    rw [hresult] at h
    exact ⟨a, rfl, Except.ok.inj h⟩

namespace Session

variable {session : Session}

/-- When a pass ends with a fault: plugins are discovered, their layouts are collected, and
those with the configured ones over them are malformed. -/
theorem generate_eq_fault_iff {fault : LayoutFault} :
    session.generate.result = .ok (.error fault) ↔
      session.discovered.error = none ∧
        ∃ collected, session.discovered.registry.collect = .ok collected ∧
          UtilitySet.generate (collected.sources.update session.settings.sources) =
            .error fault := by
  unfold generate
  dsimp only
  cases session.discovered.error with
  | some error => simp
  | none =>
    cases session.discovered.registry.collect with
    | error error => simp
    | ok collected =>
      cases hg : UtilitySet.generate (collected.sources.update session.settings.sources) <;>
        simp [hg]

/-- Where the pass ends with a fault, every call reports it and does nothing else. -/
theorem perform_of_fault {fault : LayoutFault} (hg : session.generate.result = .ok (.error fault))
    (call : Call) :
    session.perform call =
      { result := .ok (.failed call.operation fault.failure)
        session := session.settled
        receipts := []
        events := session.generate.events } := by
  cases call with
  | build output content =>
    rw [perform, build, hg, session_generate]
    rfl
  | listAreas =>
    rw [perform, listAreas, reporting, hg, session_generate, receipts_generate]
    rfl
  | resolve classes =>
    rw [perform, resolve, reporting, hg, session_generate, receipts_generate]
    rfl

/-- Where the pass ends without a fault, a build that gives an answer reports. -/
theorem build_isReport (hg : ∀ fault, session.generate.result ≠ .ok (.error fault))
    {output : Option Path} {content : Option (List Text)} {answer : Answer BuildReport}
    (h : (session.build output content).result = .ok answer) :
    ∃ report warnings, answer = .report report warnings := by
  unfold build at h
  dsimp only at h
  split at h
  · cases h
  · rename_i fault hfault
    exact absurd hfault (hg fault)
  · split at h
    · cases h
    · split at h
      · cases h
      · generalize (deposit _ _ output).2 = deposited at h
        cases deposited with
        | error error => cases h
        | ok destination =>
          obtain rfl := Except.ok.inj h
          exact ⟨_, _, rfl⟩

/-- Where the pass ends without a fault, a report that gives an answer reports. -/
theorem reporting_isReport (hg : ∀ fault, session.generate.result ≠ .ok (.error fault))
    {α : Type} {report : Generation → α × List Text} {answer : Answer α}
    (h : (session.reporting report).result = .ok answer) :
    ∃ found warnings, answer = .report found warnings := by
  unfold reporting at h
  dsimp only at h
  cases hpass : session.generate.result with
  | error error =>
    rw [hpass] at h
    cases h
  | ok generated =>
    cases generated with
    | error fault => exact absurd hpass (hg fault)
    | ok generation =>
      rw [hpass] at h
      obtain rfl := Except.ok.inj h
      exact ⟨_, _, rfl⟩

/-- Where the pass ends without a fault, no call fails, though it may end without an outcome. -/
theorem succeeded_of_perform (hg : ∀ fault, session.generate.result ≠ .ok (.error fault))
    {call : Call} {outcome : Outcome} (h : (session.perform call).result = .ok outcome) :
    outcome.succeeded = true ∧ outcome.failure = none := by
  cases call with
  | build output content =>
    obtain ⟨answer, hanswer, rfl⟩ := Done.exists_of_result_map h
    obtain ⟨report, warnings, rfl⟩ := build_isReport hg hanswer
    exact ⟨rfl, rfl⟩
  | listAreas =>
    obtain ⟨answer, hanswer, rfl⟩ := Done.exists_of_result_map h
    obtain ⟨report, warnings, rfl⟩ := reporting_isReport hg hanswer
    exact ⟨rfl, rfl⟩
  | resolve classes =>
    obtain ⟨answer, hanswer, rfl⟩ := Done.exists_of_result_map h
    obtain ⟨report, warnings, rfl⟩ := reporting_isReport hg hanswer
    exact ⟨rfl, rfl⟩

/-- A call that fails has a pass that ends with a fault. -/
theorem exists_fault_of_failure {call : Call} {outcome : Outcome} {failure : Failure}
    (h : (session.perform call).result = .ok outcome) (hfailure : outcome.failure = some failure) :
    ∃ fault, session.generate.result = .ok (.error fault) ∧ failure = fault.failure := by
  by_cases hg : ∃ fault, session.generate.result = .ok (.error fault)
  · obtain ⟨fault, hg⟩ := hg
    rw [perform_of_fault hg] at h
    obtain rfl := Except.ok.inj h
    exact ⟨fault, hg, (Option.some.inj hfailure).symm⟩
  · obtain ⟨-, hnone⟩ := succeeded_of_perform (not_exists.mp hg) h
    exact nomatch hfailure.symm.trans hnone

/-- Where one call fails, all calls fail in the same way, whatever they are asked; otherwise
none does. A failure tells what is wrong with the layouts of plugins and settings, and the
layout and the row to blame, each if there is one. It leaves every file as it is, calls no sink
and leaves none registered, and whatever is called next ends as it would have ended at once. -/
theorem failures_uniform (session : Session) :
    ((∃ failure, ∀ call, (session.perform call).result =
          .ok (.failed call.operation failure)) ∨
      ∀ call outcome, (session.perform call).result = .ok outcome →
        outcome.succeeded = true ∧ outcome.failure = none) ∧
    ∀ call outcome failure, (session.perform call).result = .ok outcome →
      outcome.failure = some failure →
      (∃ fault collected, session.discovered.registry.collect = .ok collected ∧
        UtilitySet.generate (collected.sources.update session.settings.sources) =
          .error fault ∧
        failure.code = "MALFORMED_LAYOUT".toList ∧ failure.message = fault.message ∧
        ∀ key value, (key, value) ∈ failure.detail ↔
          (key = "layout".toList ∧
              ∃ layout, fault.layout? = some layout ∧ value = .text layout) ∨
            (key = "row".toList ∧ ∃ row, fault.row? = some row ∧ value = .ofNat row)) ∧
      (session.perform call).receipts = [] ∧
      (session.perform call).session =
        { session with registry := session.discovered.registry } ∧
      (sheetName ∈ (session.perform call).session.registry.names →
        sheetName ∈ session.registry.names) ∧
      ∀ next,
        ((session.perform call).session.perform next).result = (session.perform next).result ∧
        ((session.perform call).session.perform next).receipts =
          (session.perform next).receipts ∧
        ((session.perform call).session.perform next).session =
          (session.perform next).session ∧
        session.discoveryEvents ++ ((session.perform call).session.perform next).events =
          (session.perform next).events := by
  constructor
  · by_cases hg : ∃ fault, session.generate.result = .ok (.error fault)
    · obtain ⟨fault, hg⟩ := hg
      exact .inl ⟨fault.failure, fun call => by rw [perform_of_fault hg]⟩
    · exact .inr fun call outcome => succeeded_of_perform (not_exists.mp hg)
  · intro call outcome failure h hfailure
    obtain ⟨fault, hg, rfl⟩ := exists_fault_of_failure h hfailure
    obtain ⟨herror, collected, hcollected, hfault⟩ := generate_eq_fault_iff.mp hg
    rw [perform_of_fault hg]
    refine ⟨⟨fault, collected, hcollected, hfault, rfl, rfl,
      fun key value => LayoutFault.mem_detail_failure⟩, rfl, rfl, ?_, ?_⟩
    · exact fun hname => not_imp_not.mp sheetName_notMem_discovered hname
    · intro next
      rw [perform_settled herror next]
      exact ⟨rfl, rfl, rfl, rfl⟩

end Session

/-- A page whose layout has a blank row, beside a blueprint with a layout of its own. -/
def blankPage : Session :=
  pageSession ["x".toList, " ".toList]
    (Registry.empty.register { asidePlugin with form := .blueprint } none).registry []

/-- On this page a build fails, and the look-up of the other layout fails at once and after the
build in the same way. -/
theorem failures_uniform_blankPage :
    let failure := (LayoutFault.blankRowAt (some "page".toList) 1).failure
    let built := blankPage.perform (.build none none)
    let next := Call.resolve ["grid-areas-aside".toList]
    built.result = .ok (.failed buildOperation failure) ∧ built.receipts = [] ∧
      ("row".toList, Value.ofNat 1) ∈ failure.detail ∧
      (blankPage.perform next).result = .ok (.failed resolveOperation failure) ∧
      (built.session.perform next).result = (blankPage.perform next).result := by
  intro failure built next
  have hg : blankPage.generate.result = .ok (.error (.blankRowAt (some "page".toList) 1)) := by
    with_unfolding_all rfl
  have hbuilt : built.result = .ok (.failed buildOperation failure) :=
    congrArg Done.result (Session.perform_of_fault hg (.build none none))
  have hnext : (blankPage.perform next).result = .ok (.failed resolveOperation failure) :=
    congrArg Done.result (Session.perform_of_fault hg next)
  obtain ⟨-, hquiet⟩ := Session.failures_uniform blankPage
  obtain ⟨-, hreceipts, -, -, hlater⟩ := hquiet _ _ failure hbuilt rfl
  have hrow : ("row".toList, Value.ofNat 1) ∈ failure.detail :=
    LayoutFault.mem_detail_failure.mpr (.inr ⟨rfl, 1, rfl, rfl⟩)
  exact ⟨hbuilt, hreceipts, hrow, hnext, (hlater next).1⟩

end NamedGrid
