import NamedGrid.Proofs.Calls
import NamedGrid.Proofs.Rebuilds
import NamedGrid.Proofs.Rediscovery

/-!
# Calls do not influence each other

What calls leave in the registry once plugins are discovered are marks: the names whose hooks have
been checked, and the number of objects that have been made. Nothing reads either mark, and
discovery that was ended by a file ends in the same way again. So each call ends as it would end
if it were the first on the same files. The plugin files of a project stand apart from these: no
build writes among them.
-/

namespace NamedGrid

namespace Registry

/-! ## Marks -/

/-- The registry with other marks: the names whose hooks have been checked, and the number of
objects that have been made. -/
def marked (registry : Registry) (checked : List Text) (made : Nat) : Registry :=
  { registry with checked, made }

/-- Objects that were made before are still older than the next one. -/
theorem Sound.marked {registry : Registry} (h : Sound registry) (checked : List Text) {made : Nat}
    (hmade : registry.made ≤ made) : Sound (registry.marked checked made) where
  plugins e he := (h.plugins e he).mono hmade
  implementations i hi := (h.implementations i hi).mono hmade

/-- Discovery takes no object back. -/
theorem made_le_discover (registry : Registry) (directory : Option (List PluginFile)) :
    registry.made ≤ (registry.discover directory).registry.made := by
  refine discover_induction (P := fun r => registry.made ≤ r.made) (fun _ _ _ hr => hr)
    (fun r blueprint name _ hr => ?_) (fun _ _ hr => hr) (fun _ hr => hr) (Nat.le_refl _)
  rw [enterNew, made_enter]
  exact Nat.le_succ_of_le hr

theorem isLoaded_enter (registry : Registry) (plugin : Plugin) (name : Text) :
    (registry.enter plugin name).1.isLoaded = registry.isLoaded := by
  rcases registry.enter_cases plugin name with h | h <;> rw [h]
  rfl

/-- Discovery that fails is not noted. -/
theorem isLoaded_discover_of_error {registry : Registry} {directory : Option (List PluginFile)}
    (h : (registry.discover directory).error ≠ none) :
    (registry.discover directory).registry.isLoaded = registry.isLoaded := by
  have hreplaced : (registry.replaceIn registry.waiting).registry.isLoaded = registry.isLoaded := by
    refine runAll_induction (P := fun r => r.isLoaded = registry.isLoaded) (fun e _ r hr => ?_) rfl
    rcases r.replaceBlueprint_cases e.1 e.2 with ⟨-, hstep⟩ | ⟨-, hstep⟩
    · rw [hstep]
      exact hr
    · rw [hstep, isLoaded_enter]
      exact hr
  rcases registry.discover_cases directory with ⟨-, hstep⟩ | ⟨-, -, hstep⟩ | ⟨-, -, hstep⟩
  · rw [hstep, hreplaced]
  · rw [hstep]
    refine runAll_induction (P := fun r => r.isLoaded = registry.isLoaded)
      (fun file _ r hr => loadFile_induction (P := fun r => r.isLoaded = registry.isLoaded)
        (fun s blueprint hs => ?_) (fun _ _ hs => hs) hr) ?_
    · rw [enterNew, isLoaded_enter]
      exact hs
    · obtain ⟨checked, hchecked⟩ := (registry.replaceIn registry.waiting).registry.checkAll_registry
      rw [hchecked]
      exact hreplaced
  · rw [hstep] at h
    exact absurd rfl h

/-- Discovery that has failed fails again in the same way, whatever the marks are by then, and
changes only them. -/
theorem Reachable.discover_again {registry : Registry} (hr : Reachable registry)
    {directory : Option (List PluginFile)} (herror : (registry.discover directory).error ≠ none)
    (checked : List Text) {made : Nat}
    (hmade : (registry.discover directory).registry.made ≤ made) :
    let found := registry.discover directory
    let again := (found.registry.marked checked made).discover directory
    again.error = found.error ∧ ∃ checked' made', made ≤ made' ∧
      again.registry = found.registry.marked checked' made' := by
  intro found again
  have hfound : Reachable found.registry := hr.discover directory
  obtain ⟨hfirst, -, -, instances, loaded, hdiscovers⟩ :=
    discoverIn_entries hr.sound hr.ordered hr.fits (List.Perm.refl _) directory
  rw [← discover_eq] at hfirst hdiscovers
  have hordered : Ordered (found.registry.marked checked made) :=
    ⟨hfound.ordered.distinct, hfound.ordered.implementations⟩
  obtain ⟨hagain, horderedAgain, hentries⟩ := discover_entries_of_settled
    (hfound.sound.marked checked hmade) hordered hfound.fits hdiscovers.waiting_eq_nil
    fun name hname => hdiscovers.mem_names hname
  have hsame : again.error = found.error := hagain.trans hfirst.symm
  have hplugins : again.registry.plugins = found.registry.plugins :=
    (Table.mk.injEq ..).mpr hentries
  have himplementations : again.registry.implementations = found.registry.implementations :=
    hordered.implementations_eq horderedAgain hentries
  have hloaded : again.registry.isLoaded = found.registry.isLoaded :=
    isLoaded_discover_of_error (hsame ▸ herror)
  have hlater : made ≤ again.registry.made :=
    made_le_discover (found.registry.marked checked made) directory
  refine ⟨hsame, again.registry.checked, again.registry.made, hlater, ?_⟩
  rw [marked, ← hplugins, ← himplementations, ← hloaded]

/-- Whether or not the sheet can be registered, handing over changes marks only. -/
theorem Sound.dispatch_marked {registry : Registry} (h : Sound registry)
    (deliveries : List Delivery) :
    ∃ checked made, registry.made ≤ made ∧
      (registry.dispatch deliveries).registry = registry.marked checked made := by
  by_cases hname : sheetName ∈ registry.names
  · refine ⟨registry.checked, registry.made + 1, Nat.le_succ _, ?_⟩
    have htaken : (registry.instantiate sheetBlueprint).2.plugins.contains sheetName = true :=
      Table.contains_iff.mpr hname
    have henter : (registry.instantiate sheetBlueprint).2.enter registry.sheetPlugin
        (chosenName registry.sheetPlugin (some sheetName)) =
          ((registry.instantiate sheetBlueprint).2, some .nameTaken) := by
      rw [Registry.enter]
      exact if_pos htaken
    rw [dispatch_eq, Registry.registerSheet, register_eq, henter]
    rfl
  · obtain ⟨checked, hregistry⟩ := h.dispatch_registry hname deliveries
    exact ⟨checked, _, Nat.le_succ _, hregistry⟩

/-- Handing deliveries over does not read the marks. -/
theorem deliverAll_marked (registry : Registry) (checked : List Text) (made : Nat)
    (deliveries : List Delivery) :
    (registry.marked checked made).deliverAll deliveries = registry.deliverAll deliveries := by
  induction deliveries with
  | nil => rfl
  | cons delivery deliveries ih =>
    rw [deliverAll, deliverAll, ih]
    rfl

/-- Only plugins that are called answer. -/
theorem answering_subset (plugins : List Plugin) : (answering plugins).1 ⊆ plugins := by
  induction plugins with
  | nil => exact List.Subset.refl []
  | cons plugin plugins ih =>
    cases hf : plugin.form with
    | blueprint => simp [answering, hf]
    | object =>
      simp only [answering, hf]
      exact List.cons_subset_cons plugin ih

/-- The sheet receives a delivery first, and the others receive it as they would without it. -/
theorem deliver_withSheet (registry : Registry) (checked : List Text) (delivery : Delivery) :
    deliver { registry.withSheet with checked } delivery =
      (⟨registry.sheetPlugin, delivery⟩ :: (registry.deliver delivery).1,
        (registry.deliver delivery).2) := by
  rw [deliver, listeners_withSheet]
  rfl

/-- Up to the first call that fails, the others receive what they would receive without the
sheet. -/
theorem Sound.deliverAll_withSheet {registry : Registry} (h : Sound registry)
    (checked : List Text) (deliveries : List Delivery) :
    (deliverAll { registry.withSheet with checked } deliveries).1.filter (fun receipt =>
        !decide (receipt.plugin.identity = registry.sheetPlugin.identity)) =
      (registry.deliverAll deliveries).1 := by
  have hothers : ∀ delivery, (registry.deliver delivery).1.filter (fun receipt =>
      !decide (receipt.plugin.identity = registry.sheetPlugin.identity)) =
        (registry.deliver delivery).1 := by
    intro delivery
    rw [List.filter_eq_self]
    intro receipt hr
    obtain ⟨plugin, hp, rfl⟩ := List.mem_map.mp hr
    simpa using h.ne_sheet (answering_subset _ hp)
  induction deliveries with
  | nil => rfl
  | cons delivery deliveries ih =>
    rw [Registry.deliverAll, Registry.deliverAll, deliver_withSheet]
    have hsplit := hothers delivery
    rcases hdelivered : registry.deliver delivery with ⟨receipts, _ | error⟩
    · rw [hdelivered] at hsplit
      dsimp only at hsplit ⊢
      rw [List.filter_append, List.filter_cons, if_neg (by simp), hsplit, ih]
    · rw [hdelivered] at hsplit
      dsimp only at hsplit ⊢
      rw [List.filter_cons, if_neg (by simp), hsplit]

/-- What the other sinks receive when utilities are handed over. -/
theorem Sound.dispatch_receipts {registry : Registry} (h : Sound registry)
    (deliveries : List Delivery) :
    (registry.dispatch deliveries).receipts =
      if sheetName ∈ registry.names then [] else (registry.deliverAll deliveries).1 := by
  rw [dispatch_eq]
  by_cases hname : sheetName ∈ registry.names
  · rw [if_pos hname, registerSheet_error_of_mem hname]
  · obtain ⟨herror, checked, hregistry⟩ := h.registerSheet hname
    rw [if_neg hname, herror, hregistry]
    exact h.deliverAll_withSheet checked deliveries

end Registry

/-! ## One call -/

namespace Session

variable {session : Session}

/-- The files that a build leaves. -/
theorem tree_build {generation : Generation} (hs : session.registry.Sound)
    (hg : session.generate.result = .ok (.ok generation)) (output : Option Path)
    (content : Option (List Text)) :
    (session.build output content).session.tree =
      if sheetName ∈ session.discovered.registry.names ∨ ¬session.SinksAnswer then session.tree
      else
        match session.contentFiles (content.getD session.settings.build.content) with
        | .error _ => session.tree
        | .ok files =>
          (session.deposit (generation.set.sheetOn
            (files.map session.contentText)).rules.render output).1.tree := by
  obtain ⟨-, collected, -, hset, -⟩ := generate_eq_ok_iff.mp hg
  have hanswers := UtilitySet.forall_hook_deliveries (UtilitySet.families_of_generate hset)
    (P := session.discovered.registry.Answers)
  have hdispatch := (sound_discovered hs).dispatch_sheet generation.set.deliveries
  have hrefused : ∀ error, (session.discovered.registry.dispatch generation.set.deliveries).sheet =
      .error error → (session.build output content).session.tree = session.tree := by
    intro error hsheet
    rw [build, hg, session_generate]
    dsimp only
    rw [hsheet]
  by_cases hname : sheetName ∈ session.discovered.registry.names
  · rw [if_pos (Or.inl hname)]
    rw [if_pos hname] at hdispatch
    exact hrefused _ hdispatch
  by_cases hsinks : session.SinksAnswer
  · rw [if_neg (by simp [hname, hsinks])]
    cases hfiles : session.contentFiles (content.getD session.settings.build.content) with
    | ok files => rw [session_build_eq hs hg hname hsinks hfiles]
    | error error =>
      have hcontent : ∀ registry : Registry,
          ({ session with registry } : Session).contentFiles
            (content.getD session.settings.build.content) = .error error := fun _ => hfiles
      rw [if_neg hname, if_pos (hanswers.mpr hsinks)] at hdispatch
      rw [build, hg, session_generate]
      dsimp only
      rw [hdispatch]
      dsimp only
      rw [hcontent]
  · rw [if_pos (Or.inr hsinks)]
    rw [if_neg hname, if_neg (mt hanswers.mp hsinks)] at hdispatch
    exact hrefused _ hdispatch

/-- What the other sinks receive in a build. -/
theorem receipts_build {generation : Generation} (hs : session.registry.Sound)
    (hg : session.generate.result = .ok (.ok generation)) (output : Option Path)
    (content : Option (List Text)) :
    (session.build output content).receipts =
      if sheetName ∈ session.discovered.registry.names then []
      else (session.discovered.registry.deliverAll generation.set.deliveries).1 := by
  rw [← (sound_discovered hs).dispatch_receipts, build, hg, session_generate]
  dsimp only
  split
  · rfl
  · split <;> rfl

/-- A session with other marks in its registry and other files. -/
def remarked (session : Session) (checked : List Text) (made : Nat) (tree : FileTree) : Session :=
  { session with registry := session.discovered.registry.marked checked made, tree }

/-- A call leaves the settled session with other marks and files. -/
theorem session_perform (hs : session.registry.Sound) (call : Call) :
    ∃ checked made tree, session.discovered.registry.made ≤ made ∧
      (session.perform call).session = session.remarked checked made tree := by
  have hpass : ∃ checked made tree, session.discovered.registry.made ≤ made ∧
      session.generate.session = session.remarked checked made tree := by
    rw [session_generate]
    exact ⟨_, _, _, Nat.le_refl _, rfl⟩
  cases call with
  | listAreas => exact hpass
  | resolve classes => exact hpass
  | build output content =>
    change ∃ checked made tree, _ ∧ (session.build output content).session = _
    cases hg : session.generate.result with
    | error error =>
      rw [build, hg]
      exact hpass
    | ok generated =>
      cases generated with
      | error fault =>
        rw [build, hg]
        exact hpass
      | ok generation =>
        obtain ⟨tree, hsession⟩ := session_build hg output content
        obtain ⟨checked, made, hmade, hregistry⟩ :=
          (sound_discovered hs).dispatch_marked generation.set.deliveries
        rw [hregistry] at hsession
        exact ⟨checked, made, tree, hmade, hsession⟩

/-- A session with other marks discovers its plugins as the session itself does. -/
theorem discovered_remarked (hr : session.registry.Reachable) (checked : List Text) {made : Nat}
    (hmade : session.discovered.registry.made ≤ made) (tree : FileTree) :
    let later := session.remarked checked made tree
    later.discovered.error = session.discovered.error ∧ ∃ checked' made', made ≤ made' ∧
      later.discovered.registry = session.discovered.registry.marked checked' made' := by
  intro later
  cases herror : session.discovered.error with
  | none =>
    have hloaded : later.registry.isLoaded = true := isLoaded_discovered herror
    rw [discovered_of_isLoaded hloaded]
    exact ⟨rfl, checked, made, Nat.le_refl _, rfl⟩
  | some error =>
    -- Discovery was ended by a file, so it has not been noted and is tried again.
    have hloaded : session.registry.isLoaded = false := by
      by_contra hloaded
      rw [discovered_of_isLoaded (Bool.not_eq_false _ ▸ hloaded)] at herror
      cases herror
    have hfirst : session.discovered = session.registry.discover session.pluginFiles := by
      rw [discovered, hloaded]
      rfl
    have hfails : (session.registry.discover session.pluginFiles).error ≠ none := by
      rw [← hfirst, herror]
      exact Option.some_ne_none error
    have hagain : later.discovered = later.registry.discover session.pluginFiles := by
      have hlater : later.registry.isLoaded = false := by
        refine Eq.trans ?_ ((Registry.isLoaded_discover_of_error hfails).trans hloaded)
        rw [← hfirst]
        rfl
      rw [discovered, hlater]
      rfl
    have hrepeated := hr.discover_again hfails checked (hfirst ▸ hmade)
    rw [← hfirst] at hrepeated
    rw [hagain, ← herror]
    exact hrepeated

/-- A pass does not read the marks. -/
theorem result_generate_remarked (hr : session.registry.Reachable) (checked : List Text)
    {made : Nat} (hmade : session.discovered.registry.made ≤ made) (tree : FileTree) :
    (session.remarked checked made tree).generate.result = session.generate.result := by
  obtain ⟨herror, checked', made', -, hregistry⟩ := discovered_remarked hr checked hmade tree
  refine result_generate_congr rfl herror ?_
  rw [hregistry]
  rfl

/-- A report is the same with other marks and files. -/
theorem reporting_remarked (hr : session.registry.Reachable) (checked : List Text) {made : Nat}
    (hmade : session.discovered.registry.made ≤ made) {α : Type}
    (report : Generation → α × List Text) (f : Answer α → Outcome) :
    let later := ((session.remarked checked made session.tree).reporting report).map f
    let first := (session.reporting report).map f
    later.result = first.result ∧ later.receipts = first.receipts ∧
      later.session.tree = first.session.tree := by
  have hpass := result_generate_remarked hr checked hmade session.tree
  refine ⟨?_, ?_, ?_⟩
  · simp only [Done.map, reporting, hpass]
  · simp only [Done.map, reporting, receipts_generate]
  · simp only [Done.map, reporting, tree_generate]
    rfl

/-- A call on a settled session with other marks ends as the call on the session itself. -/
theorem perform_remarked (hr : session.registry.Reachable) (checked : List Text) {made : Nat}
    (hmade : session.discovered.registry.made ≤ made) (call : Call) :
    ((session.remarked checked made session.tree).perform call).result =
        (session.perform call).result ∧
      ((session.remarked checked made session.tree).perform call).receipts =
        (session.perform call).receipts ∧
      ((session.remarked checked made session.tree).perform call).session.tree =
        (session.perform call).session.tree := by
  have hs := hr.sound
  have hpass := result_generate_remarked hr checked hmade session.tree
  obtain ⟨-, checked', made', -, hregistry⟩ := discovered_remarked hr checked hmade session.tree
  cases call with
  | listAreas => exact reporting_remarked hr checked hmade _ .ofAreas
  | resolve classes => exact reporting_remarked hr checked hmade _ .ofResolve
  | build output content =>
    have hsound : (session.remarked checked made session.tree).registry.Sound :=
      (sound_discovered hs).marked checked hmade
    have hsinks : (session.remarked checked made session.tree).SinksAnswer ↔
        session.SinksAnswer := by
      rw [SinksAnswer, hregistry]
      rfl
    simp only [perform, Done.map]
    cases hg : session.generate.result with
    | error error =>
      simp only [build, hpass, hg, tree_generate, true_and]
      rfl
    | ok generated =>
      cases generated with
      | error fault =>
        simp only [build, hpass, hg, tree_generate, true_and]
        rfl
      | ok generation =>
        have hg' := hpass.trans hg
        rw [result_build hsound hg', result_build hs hg, receipts_build hsound hg',
          receipts_build hs hg, tree_build hsound hg', tree_build hs hg]
        simp only [hsinks, hregistry, Registry.deliverAll_marked]
        cases output <;> exact ⟨rfl, rfl, rfl⟩

/-! ## Runs of calls -/

/-- Calls leave the settled session with other marks and files, if there is one call. -/
theorem exists_remarked_after (hr : session.registry.Reachable) {calls : List Call}
    (hne : calls ≠ []) :
    ∃ checked made tree, session.discovered.registry.made ≤ made ∧
      session.after calls = session.remarked checked made tree := by
  induction calls using List.reverseRecOn with
  | nil => exact absurd rfl hne
  | append_singleton calls call ih =>
    have hafter : session.after (calls ++ [call]) =
        ((session.after calls).perform call).session := by
      rw [after, List.foldl_append]
      rfl
    rw [hafter]
    by_cases hcalls : calls = []
    · rw [hcalls]
      exact session_perform hr.sound call
    · obtain ⟨checked, made, tree, hmade, hbefore⟩ := ih hcalls
      have hsound : (session.remarked checked made tree).registry.Sound :=
        (sound_discovered hr.sound).marked checked hmade
      obtain ⟨checked', made', tree', hmade', hsession⟩ := session_perform hsound call
      obtain ⟨-, checked'', made'', hle, hregistry⟩ := discovered_remarked hr checked hmade tree
      have hlater : made ≤ made' := by
        refine hle.trans ?_
        rw [hregistry] at hmade'
        exact hmade'
      refine ⟨checked', made', tree', hmade.trans hlater, ?_⟩
      rw [hbefore, hsession, remarked, hregistry]
      rfl

/-- **Calls do not influence each other.** Whatever plugins are registered, blueprints and one that
takes the name of the sheet included, after any calls each call ends as it would end as the first
call of a fresh session on the same files: with the same result or error, the same files written,
and the same deliveries to the sinks. From the first call on the plugins have the same names,
whether calls succeed, fail or end in an error. -/
theorem calls_independent (hr : session.registry.Reachable) (calls : List Call) (call : Call) :
    ((session.after calls).perform call).result =
        (({ session with tree := (session.after calls).tree } : Session).perform call).result ∧
      ((session.after calls).perform call).session.tree =
        (({ session with tree := (session.after calls).tree } : Session).perform
          call).session.tree ∧
      ((session.after calls).perform call).receipts =
        (({ session with tree := (session.after calls).tree } : Session).perform
          call).receipts ∧
      ((session.after calls).perform call).session.registry.names =
        session.discovered.registry.names := by
  obtain ⟨checked, made, tree, -, hlast⟩ :=
    exists_remarked_after hr (List.append_ne_nil_of_right_ne_nil calls (List.cons_ne_nil call []))
  have hnames : ((session.after calls).perform call).session.registry.names =
      session.discovered.registry.names := by
    rw [after, List.foldl_append] at hlast
    exact congrArg (fun later : Session => later.registry.names) hlast
  by_cases hcalls : calls = []
  · rw [hcalls] at hnames ⊢
    exact ⟨rfl, rfl, rfl, hnames⟩
  · obtain ⟨checked, made, tree, hmade, hafter⟩ := exists_remarked_after hr hcalls
    rw [hafter] at hnames ⊢
    obtain ⟨hresult, hreceipts, htree⟩ :=
      @perform_remarked { session with tree } hr checked _ hmade call
    exact ⟨hresult, htree, hreceipts, hnames⟩

end Session

/-- A blueprint that waits for its instance, and a plugin that takes the name of the sheet. -/
def namesakeRegistry : Registry :=
  ((Registry.empty.register { asidePlugin with form := .blueprint } none).registry.register
    (privateSink .object) (some sheetName)).registry

theorem reachable_namesakeRegistry : namesakeRegistry.Reachable := by
  have haside : Plugin.identity { asidePlugin with form := .blueprint } =
      .given "aside".toList := rfl
  have hprivate : (privateSink .object).identity = .given "sink".toList := rfl
  exact (Registry.Reachable.empty.register (by rw [haside]; trivial) none).register
    (by rw [hprivate]; trivial) (some sheetName)

/-- On a page with these plugins a build ends in an error, and the look-up after it ends as it
would have ended before. -/
theorem calls_independent_namesakePage :
    let session := pageSession ["head".toList] namesakeRegistry []
    let later := session.after [.listAreas, .build none none]
    let next := later.perform (.resolve ["grid-areas-aside".toList])
    session.registry.Reachable ∧
      ((session.perform (.build none none)).result matches .error (.plugin .nameTaken)) ∧
      next.result = (({ session with tree := later.tree } : Session).perform
        (.resolve ["grid-areas-aside".toList])).result ∧
      next.session.registry.names = [sheetName, "type".toList] := by
  intro session later next
  obtain ⟨hresult, -, -, hnames⟩ := @Session.calls_independent session
    reachable_namesakeRegistry [.listAreas, .build none none]
    (.resolve ["grid-areas-aside".toList])
  have hnamesake : (pageSession ["head".toList] namesakeRegistry []).discovered.registry.names =
      [sheetName, "type".toList] := by decide +kernel
  exact ⟨reachable_namesakeRegistry, by decide +kernel, hresult, hnames.trans hnamesake⟩

end NamedGrid
