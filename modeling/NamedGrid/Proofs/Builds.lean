import NamedGrid.Operation.Listing
import NamedGrid.Proofs.Passes
import NamedGrid.Proofs.Sheet

/-!
# Builds in closed form

A build whose pass gives a set ends in one of four ways: the name of the sheet is taken, a
sink is a blueprint, the content files cannot be found, or the sheet of the set on their
texts is deposited. In every case a later pass of the session gives the same set again.
-/

namespace NamedGrid

namespace UtilitySet

/-- Every generated set has the same resolvers. -/
theorem families_of_generate {sources : LayoutSources} {set : UtilitySet}
    (h : generate sources = .ok set) : set.families = resolverFamilies := by
  obtain ⟨layouts, -, -, rfl⟩ := generate_eq_ok_iff.mp h
  rfl

/-- A generated set is delivered to both sink hooks and to no other. -/
theorem forall_hook_deliveries {set : UtilitySet} (h : set.families = resolverFamilies)
    {P : Hook → Prop} :
    (∀ delivery ∈ set.deliveries, P delivery.hook) ↔ P .addUtilities ∧ P .matchUtilities := by
  simp [deliveries, staticFamilies, h, resolverFamilies, ResolverFamily.delivery, Delivery.hook]

end UtilitySet

namespace Session

/-- Every sink that is registered once plugins are discovered can be called. -/
def SinksAnswer (session : Session) : Prop :=
  session.discovered.registry.Answers .addUtilities ∧
    session.discovered.registry.Answers .matchUtilities

instance (session : Session) : Decidable session.SinksAnswer :=
  inferInstanceAs (Decidable (_ ∧ _))

/-- Scanning files is scanning their texts. -/
theorem scanned_eq (session : Session) (set : UtilitySet) (files : List Path) :
    session.scanned set.receivedSheet files = set.sheetOn (files.map session.contentText) := by
  rw [scanned, UtilitySet.sheetOn, List.foldl_map]

/-- Where a stylesheet goes does not depend on the plugins. -/
theorem deposit_registry (session : Session) (registry : Registry) (css : Text)
    (output : Option Path) :
    ({ session with registry } : Session).deposit css output =
      ({ (session.deposit css output).1 with registry }, (session.deposit css output).2) := by
  cases output <;> rfl

/-- What a build reports of a sheet. -/
def buildReport (set : UtilitySet) (sheet : Sheet) (filesScanned : Nat)
    (destination : Destination) : BuildReport :=
  { layouts := set.emittedLayouts.length
    areas := set.areaNames.length
    rules := sheet.ruleCount
    bracketed := sheet.resolvedCount
    filesScanned
    destination }

/-- **The result of a build** whose pass gives a set. -/
theorem result_build {session : Session} {generation : Generation}
    (hs : session.registry.Sound) (hg : session.generate.result = .ok (.ok generation))
    (output : Option Path) (content : Option (List Text)) :
    (session.build output content).result =
      if sheetName ∈ session.discovered.registry.names then .error (.plugin .nameTaken)
      else if session.SinksAnswer then
        match session.contentFiles (content.getD session.settings.build.content) with
        | .error error => .error (.file error)
        | .ok files =>
          let sheet := generation.set.sheetOn (files.map session.contentText)
          ((session.deposit sheet.rules.render output).2.mapError .file).map fun destination =>
            .report (buildReport generation.set sheet files.length destination)
              generation.warnings
      else .error (.plugin .notInstantiated) := by
  obtain ⟨-, collected, -, hset, -⟩ := generate_eq_ok_iff.mp hg
  have hdispatch := (sound_discovered hs).dispatch_sheet generation.set.deliveries
  have hanswers := UtilitySet.forall_hook_deliveries (UtilitySet.families_of_generate hset)
    (P := session.discovered.registry.Answers)
  rw [build, hg, session_generate]
  dsimp only
  rw [hdispatch]
  by_cases hname : sheetName ∈ session.discovered.registry.names
  · simp only [if_pos hname]
  · by_cases ha : session.SinksAnswer
    · rw [if_neg hname, if_neg hname, if_pos (hanswers.mpr ha), if_pos ha]
      have hfiles : ∀ registry : Registry,
          ({ session with registry } : Session).contentFiles
            (content.getD session.settings.build.content) =
            session.contentFiles (content.getD session.settings.build.content) := fun _ => rfl
      dsimp only
      rw [hfiles]
      cases session.contentFiles (content.getD session.settings.build.content) with
      | error error => rfl
      | ok files =>
        dsimp only
        rw [deposit_registry]
        change _ = ((session.deposit (generation.set.sheetOn
          (files.map session.contentText)).rules.render output).2.mapError _).map _
        rw [← scanned_eq]
        rfl
    · rw [if_neg hname, if_neg hname, if_neg (mt hanswers.mp ha), if_neg ha]

/-- When a build reports, and what. -/
theorem result_build_eq_report_iff {session : Session} {generation : Generation}
    (hs : session.registry.Sound) (hg : session.generate.result = .ok (.ok generation))
    {output : Option Path} {content : Option (List Text)} {report : BuildReport}
    {warnings : List Text} :
    (session.build output content).result = .ok (.report report warnings) ↔
      sheetName ∉ session.discovered.registry.names ∧ session.SinksAnswer ∧
        warnings = generation.warnings ∧
        ∃ files, session.contentFiles (content.getD session.settings.build.content) = .ok files ∧
          (session.deposit (generation.set.sheetOn (files.map session.contentText)).rules.render
            output).2 = .ok report.destination ∧
          report = buildReport generation.set
            (generation.set.sheetOn (files.map session.contentText)) files.length
            report.destination := by
  rw [result_build hs hg]
  by_cases hname : sheetName ∈ session.discovered.registry.names
  · simp [hname]
  by_cases hsinks : session.SinksAnswer
  · rw [if_neg hname, if_pos hsinks]
    cases hfiles : session.contentFiles (content.getD session.settings.build.content) with
    | error error => simp
    | ok files =>
      simp only [hname, hsinks, not_false_eq_true, true_and, Except.ok.injEq, exists_eq_left']
      cases (session.deposit (generation.set.sheetOn
          (files.map session.contentText)).rules.render output).2 with
      | error error => simp [Except.mapError, Except.map]
      | ok destination =>
        simp only [Except.mapError, Except.map, Except.ok.injEq, Answer.report.injEq]
        constructor
        · rintro ⟨rfl, rfl⟩
          exact ⟨rfl, rfl, rfl⟩
        · rintro ⟨rfl, rfl, hreport⟩
          exact ⟨hreport.symm, rfl⟩
  · simp [hname, hsinks]

/-- A deposit changes nothing but the files. -/
theorem session_deposit (session : Session) (css : Text) (output : Option Path) :
    ∃ tree, (session.deposit css output).1 = { session with tree } := by
  cases output with
  | none => exact ⟨session.tree, rfl⟩
  | some path => exact ⟨_, rfl⟩

/-- What a build leaves: files, and a registry to which utilities were handed over. -/
theorem session_build {session : Session} {generation : Generation}
    (hg : session.generate.result = .ok (.ok generation)) (output : Option Path)
    (content : Option (List Text)) :
    ∃ tree, (session.build output content).session =
      { session with
        registry := (session.discovered.registry.dispatch generation.set.deliveries).registry
        tree } := by
  rw [build, hg, session_generate]
  dsimp only
  split
  · exact ⟨session.tree, rfl⟩
  · split
    · exact ⟨session.tree, rfl⟩
    · obtain ⟨tree, htree⟩ := session_deposit _ _ output
      exact ⟨tree, htree⟩

/-- Whatever its result, a build is a run of the registry. -/
theorem reachable_build {session : Session} (h : session.registry.Reachable)
    (output : Option Path) (content : Option (List Text)) :
    (session.build output content).session.registry.Reachable := by
  have hdiscovered : session.generate.session.registry.Reachable := by
    rw [session_generate]
    exact reachable_discovered h
  cases hg : session.generate.result with
  | error error =>
    rw [build, hg]
    exact hdiscovered
  | ok outcome =>
    cases outcome with
    | error fault =>
      rw [build, hg]
      exact hdiscovered
    | ok generation =>
      obtain ⟨tree, hsession⟩ := session_build hg output content
      rw [hsession]
      exact (reachable_discovered h).dispatch generation.set.deliveries

/-- **A build does not change what the session generates.** -/
theorem result_generate_build {session : Session} {generation : Generation}
    (hs : session.registry.Sound) (hname : sheetName ∉ session.registry.names)
    (hg : session.generate.result = .ok (.ok generation)) (output : Option Path)
    (content : Option (List Text)) :
    (session.build output content).session.generate.result = session.generate.result := by
  obtain ⟨herror, -⟩ := generate_eq_ok_iff.mp hg
  obtain ⟨checked, hregistry⟩ := (sound_discovered hs).dispatch_registry
    (sheetName_notMem_discovered hname) generation.set.deliveries
  obtain ⟨tree, hsession⟩ := session_build hg output content
  rw [hsession, hregistry]
  exact result_generate_later herror rfl rfl (isLoaded_discovered herror)

/-- What a session resolves once its pass gives a set. -/
theorem result_resolve {session : Session} {generation : Generation}
    (hg : session.generate.result = .ok (.ok generation)) (classes : List Text) :
    (session.resolve classes).result =
      .ok (.report
        ((classes.map generation.set.lookUpWritten).filterMap fun
          | .ok resolved => some resolved
          | .error _ => none)
        (generation.warnings ++ (classes.map generation.set.lookUpWritten).filterMap fun
          | .ok _ => none
          | .error className => some (unknownClassWarning className))) := by
  rw [resolve, reporting, hg]
  rfl

/-- Classes that all are declared are resolved one by one and cause no warning. -/
theorem result_resolve_of_found {session : Session} {generation : Generation}
    (hg : session.generate.result = .ok (.ok generation)) {classes : List Text}
    {found : List ResolvedClass}
    (h : classes.map generation.set.lookUpWritten = found.map .ok) :
    (session.resolve classes).result = .ok (.report found generation.warnings) := by
  have hfound : (found.map Except.ok).filterMap (fun
      | .ok resolved => some resolved
      | .error (_ : Text) => none) = found := by
    rw [List.filterMap_map]
    exact List.filterMap_some
  have hunknown : (found.map Except.ok).filterMap (fun
      | .ok _ => none
      | .error className => some (unknownClassWarning className)) = [] := by
    rw [List.filterMap_eq_nil_iff]
    intro outcome ho
    obtain ⟨resolved, -, rfl⟩ := List.mem_map.mp ho
    rfl
  rw [result_resolve hg, h, hfound, hunknown, List.append_nil]

end Session

/-! ## Looking single classes up -/

/-- A utility as a class that is looked up. -/
def Utility.resolvedClass (u : Utility) : ResolvedClass := ⟨u.className, u.declaration.toTable⟩

namespace UtilitySet

/-- A static class is looked up as it is found. -/
theorem lookUpWritten_of_find? {set : UtilitySet} {className : Text} {u : Utility}
    (hdot : Text.without ['.'] className = className) (h : set.find? className = some u) :
    set.lookUpWritten className = .ok ⟨className, u.declaration.toTable⟩ := by
  rw [lookUpWritten, hdot, lookUp?, h]

/-- A bracketed class that is no static class is looked up through its resolver. -/
theorem lookUpWritten_of_parse? {set : UtilitySet} {className : Text} {c : BracketedClass}
    {declaration : Declaration} (hdot : Text.without ['.'] className = className)
    (hstatic : set.find? className = none) (hparse : BracketedClass.parse? className = some c)
    (h : set.resolve c.stem c.value = some declaration) :
    set.lookUpWritten className = .ok ⟨className, declaration.toTable⟩ := by
  have hlook : set.lookUp? className = some declaration.toTable := by
    simp only [lookUp?, hstatic, hparse, bind, Option.bind, h, pure]
  rw [lookUpWritten, hdot, hlook]

end UtilitySet

namespace Session

/-- A static class is resolved to what it declares. -/
theorem result_resolve_of_find? {session : Session} {generation : Generation}
    (hg : session.generate.result = .ok (.ok generation)) {className : Text} {u : Utility}
    (hdot : Text.without ['.'] className = className)
    (h : generation.set.find? className = some u) :
    (session.resolve [className]).result =
      .ok (.report [⟨className, u.declaration.toTable⟩] generation.warnings) := by
  apply result_resolve_of_found hg
  rw [List.map_singleton, List.map_singleton, UtilitySet.lookUpWritten_of_find? hdot h]

/-- A bracketed class that is no static class is resolved to what its resolver declares. -/
theorem result_resolve_of_parse? {session : Session} {generation : Generation}
    (hg : session.generate.result = .ok (.ok generation)) {className : Text}
    {c : BracketedClass} {declaration : Declaration}
    (hdot : Text.without ['.'] className = className)
    (hstatic : generation.set.find? className = none)
    (hparse : BracketedClass.parse? className = some c)
    (h : generation.set.resolve c.stem c.value = some declaration) :
    (session.resolve [className]).result =
      .ok (.report [⟨className, declaration.toTable⟩] generation.warnings) := by
  apply result_resolve_of_found hg
  rw [List.map_singleton, List.map_singleton,
    UtilitySet.lookUpWritten_of_parse? hdot hstatic hparse h]

end Session

end NamedGrid
