import NamedGrid.Proofs.Classless
import NamedGrid.Proofs.Encoding
import NamedGrid.Proofs.Files

/-!
# Building again

A build that reports leaves the session ready for the next one: plugins are discovered, the
sheet is out of the registry, and the files are those that were there and the stylesheet. The
next build reads all other content files as they were, and in the stylesheet it finds no
classes, if the layouts begin none in brackets. So it deposits the same text.
-/

namespace NamedGrid

namespace Session

variable {session : Session} {generation : Generation}

/-! ## Builds that report -/

/-- The session that a build without a failure leaves: the files of the deposit, and a registry
to which utilities were handed over. -/
theorem session_build_eq (hs : session.registry.Sound)
    (hg : session.generate.result = .ok (.ok generation))
    (hname : sheetName ∉ session.discovered.registry.names) (hsinks : session.SinksAnswer)
    {content : Option (List Text)} {files : List Path}
    (hfiles : session.contentFiles (content.getD session.settings.build.content) = .ok files)
    (output : Option Path) :
    (session.build output content).session =
      { session with
        registry := (session.discovered.registry.dispatch generation.set.deliveries).registry
        tree := (session.deposit (generation.set.sheetOn
          (files.map session.contentText)).rules.render output).1.tree } := by
  obtain ⟨-, collected, -, hset, -⟩ := generate_eq_ok_iff.mp hg
  have hanswers := UtilitySet.forall_hook_deliveries (UtilitySet.families_of_generate hset)
    (P := session.discovered.registry.Answers)
  have hdispatch := (sound_discovered hs).dispatch_sheet generation.set.deliveries
  rw [if_neg hname, if_pos (hanswers.mpr hsinks)] at hdispatch
  have hcontent : ∀ registry : Registry,
      ({ session with registry } : Session).contentFiles
        (content.getD session.settings.build.content) = .ok files := fun _ => hfiles
  rw [build, hg, session_generate]
  dsimp only
  rw [hdispatch]
  dsimp only
  rw [hcontent, ← scanned_eq]
  change (Session.deposit { session with registry := _ }
    (session.scanned generation.set.receivedSheet files).rules.render output).1 = _
  rw [deposit_registry]
  obtain ⟨tree, htree⟩ := session_deposit session
    (session.scanned generation.set.receivedSheet files).rules.render output
  rw [htree]

/-- A stylesheet goes to a file if the file can be written. -/
theorem deposit_eq_ok_iff {session : Session} {css : Text} {path : Path}
    {destination : Destination} :
    (session.deposit css (some path)).2 = .ok destination ↔
      (session.tree.writeDeep session.cwd path (Utf8.encode css)).error = none ∧
        destination = .file path := by
  rw [deposit]
  dsimp only
  cases (session.tree.writeDeep session.cwd path (Utf8.encode css)).error with
  | some error => simp
  | none => simp [eq_comm]

/-- What a build leaves to the next one: a registry in which the sinks answer and the name of
the sheet is free, the same settings and the same set. -/
structure IsReady (session : Session) (generation : Generation) : Prop where
  reachable : session.registry.Reachable
  generates : session.generate.result = .ok (.ok generation)
  name : sheetName ∉ session.discovered.registry.names
  sinks : session.SinksAnswer

theorem IsReady.build (h : session.IsReady generation) (output : Option Path)
    (content : Option (List Text)) : (session.build output content).session.IsReady generation := by
  obtain ⟨herror, -⟩ := generate_eq_ok_iff.mp h.generates
  obtain ⟨checked, hregistry⟩ := (sound_discovered h.reachable.sound).dispatch_registry h.name
    generation.set.deliveries
  obtain ⟨tree, hsession⟩ := session_build h.generates output content
  have hloaded := isLoaded_discovered herror
  have hreachable := reachable_build h.reachable output content
  rw [hsession, hregistry] at hreachable ⊢
  refine ⟨hreachable, ?_, ?_, ?_⟩
  · refine Eq.trans ?_ h.generates
    exact result_generate_later herror rfl rfl hloaded
  · rw [discovered_of_isLoaded hloaded]
    exact h.name
  · rw [SinksAnswer, discovered_of_isLoaded hloaded]
    exact h.sinks

/-! ## Content files -/

/-- Patterns find nothing but files. -/
theorem isFile_of_mem_contentFiles {patterns : List Text} {files : List Path}
    (h : session.contentFiles patterns = .ok files) {file : Path} (hf : file ∈ files) :
    session.tree.isFile session.cwd file = true := by
  unfold contentFiles Glob.Ground.files at h
  cases hfound : patterns.mapM (Glob.Ground.filesOf ⟨session.tree, session.cwd,
      session.settings.root⟩) with
  | error error =>
    rw [hfound] at h
    cases h
  | ok found =>
    rw [hfound] at h
    obtain rfl := Except.ok.inj h
    obtain ⟨paths, hpaths, hf⟩ := List.mem_flatten.mp (List.mem_eraseDups.mp hf)
    obtain ⟨pattern, -, hpattern⟩ := exists_of_mem_of_mapM hfound hpaths
    rw [Glob.Ground.filesOf] at hpattern
    split at hpattern
    · cases hpattern
    · dsimp only at hpattern
      split at hpattern
      · cases hpattern
      · obtain rfl := Except.ok.inj hpattern
        exact (List.mem_filter.mp hf).2

end Session

/-- Unified lines have no classes if the text has none. -/
theorem IsClassless.unifyLines {s : Text} (h : IsClassless s) :
    IsClassless (Utf8.unifyLines s) := by
  intro c hstem hraw hc
  refine h c hstem hraw (Utf8.infix_of_infix_unifyLines (fun hmem => ?_) hc)
  exact absurd (isDelimiter_of_mem_class hstem hraw hmem) (by decide)

namespace Session

variable {session later : Session} {path : Path} {css : Text} {location : Location}

/-- Does a path lead elsewhere than another one? -/
def leadsElsewhere (session : Session) (other path : Path) : Bool :=
  session.tree.locate session.cwd path != session.tree.locate session.cwd other

/-- A stylesheet that was written is read with its line endings unified. -/
theorem contentText_written
    (hw : session.tree.Written session.cwd path (Utf8.encode css) later.tree location)
    (hcwd : later.cwd = session.cwd) {file : Path}
    (hfile : later.leadsElsewhere path file = false) :
    later.contentText file = Utf8.unifyLines css := by
  rw [leadsElsewhere, hcwd, bne_eq_false_iff_eq, hw.locate] at hfile
  rw [contentText, hcwd, hw.bytes?_of_eq hfile, Option.getD_some, Utf8.decodeLenient_encode]

/-- Where a stylesheet was written, the other files are read as they were. -/
theorem contentText_other
    (hw : session.tree.Written session.cwd path (Utf8.encode css) later.tree location)
    (hcwd : later.cwd = session.cwd) {file : Path}
    (hfile : later.leadsElsewhere path file = true)
    (hold : session.tree.isFile session.cwd file = true) :
    later.contentText file = session.contentText file := by
  rw [leadsElsewhere, hcwd, bne_iff_ne, hw.locate] at hfile
  obtain ⟨bytes, hbytes⟩ := Option.isSome_iff_exists.mp hold
  rw [contentText, contentText, hcwd, hw.bytes?_of_ne hbytes hfile, hbytes]

/-- A stylesheet without classes that was written changes nothing about what is found in the
content, if the files other than it are the same. -/
theorem classes_later
    (hw : session.tree.Written session.cwd path (Utf8.encode css) later.tree location)
    (hcwd : later.cwd = session.cwd) (hcss : IsClassless css) {files found : List Path}
    (hfiles : ∀ file ∈ files, session.tree.isFile session.cwd file = true)
    (hold : ∀ file ∈ files, later.leadsElsewhere path file = false →
      bracketedClasses (session.contentText file) = [])
    (hfound : found.filter (later.leadsElsewhere path) = files.filter (later.leadsElsewhere path)) :
    (found.map later.contentText).flatMap bracketedClasses =
      (files.map session.contentText).flatMap bracketedClasses := by
  rw [List.flatMap_map, List.flatMap_map]
  have hnew : ∀ file ∈ found, later.leadsElsewhere path file = false →
      bracketedClasses (later.contentText file) = [] := by
    intro file _ hfile
    rw [contentText_written hw hcwd hfile]
    exact hcss.unifyLines.bracketedClasses_eq_nil
  have hsame : ∀ file ∈ files.filter (later.leadsElsewhere path),
      bracketedClasses (later.contentText file) = bracketedClasses (session.contentText file) := by
    intro file hmem
    obtain ⟨hmem, hfile⟩ := List.mem_filter.mp hmem
    rw [contentText_other hw hcwd hfile (hfiles file hmem)]
  calc found.flatMap (fun file => bracketedClasses (later.contentText file))
      = (found.filter (later.leadsElsewhere path)).flatMap
          fun file => bracketedClasses (later.contentText file) :=
        (flatMap_filter_of_eq_nil hnew).symm
    _ = (files.filter (later.leadsElsewhere path)).flatMap
          fun file => bracketedClasses (session.contentText file) := by
        rw [hfound]
        exact List.flatMap_congr hsame
    _ = files.flatMap fun file => bracketedClasses (session.contentText file) :=
        flatMap_filter_of_eq_nil hold

/-- A build whose stylesheet is written already leaves the files as they are. -/
theorem IsReady.build_again {generation : Generation} (h : later.IsReady generation)
    {patterns : Option (List Text)} {found : List Path}
    (hfound : later.contentFiles (patterns.getD later.settings.build.content) = .ok found)
    (hcss : (generation.set.sheetOn (found.map later.contentText)).rules.render = css)
    (hagain : later.tree.writeDeep later.cwd path (Utf8.encode css) = ⟨later.tree, none⟩) :
    (∃ again, (later.build (some path) patterns).result =
        .ok (.report again generation.warnings) ∧ again.destination = .file path) ∧
      (later.build (some path) patterns).session.tree = later.tree ∧
      ∃ shown, (later.build none patterns).result = .ok (.report shown generation.warnings) ∧
        shown.destination = .report css := by
  have hs := h.reachable.sound
  have hreport : ∀ (output : Option Path) (destination : Destination),
      (later.deposit css output).2 = .ok destination →
      ∃ report, (later.build output patterns).result = .ok (.report report generation.warnings) ∧
        report.destination = destination := by
    intro output destination hdeposit
    refine ⟨buildReport generation.set (generation.set.sheetOn (found.map later.contentText))
      found.length destination, ?_, rfl⟩
    refine (result_build_eq_report_iff hs h.generates).mpr
      ⟨h.name, h.sinks, rfl, found, hfound, ?_, rfl⟩
    rw [hcss]
    exact hdeposit
  refine ⟨hreport (some path) _ (deposit_eq_ok_iff.mpr ⟨by rw [hagain], rfl⟩), ?_,
    hreport none _ rfl⟩
  rw [session_build_eq hs h.generates h.name h.sinks hfound, hcss]
  exact congrArg FileTree.Attempt.tree hagain

end Session

/-- **A build does not feed on its own stylesheet.** If no name of a layout has an opening
bracket, and no cell and no track size has a hyphen before one, every stylesheet is without
classes, whatever texts it is made from, and among the texts it changes nothing. So once a build
has written a stylesheet, a build over the same files and the stylesheet leaves every file as it
is, and reports the same text if none is to be written. If a file was scanned that stood where
the stylesheet is now, it must have had no classes itself. -/
theorem build_ignores_own_stylesheet {sources : LayoutSources} {set : UtilitySet}
    (h : UtilitySet.generate sources = .ok set)
    (hlayouts : ∀ layout ∈ set.layouts, layout.IsUnbracketed) :
    (∀ texts : List Text, bracketedClasses (set.sheetOn texts).rules.render = []) ∧
    (∀ before after : List Text,
      (set.sheetOn
          (before ++ (set.sheetOn (before ++ after)).rules.render :: after)).rules.render =
        (set.sheetOn (before ++ after)).rules.render) ∧
    ∀ (session later : Session) (generation : Generation) (path : Path)
      (content : Option (List Text)) (report : BuildReport) (warnings : List Text),
      session.registry.Reachable → session.generate.result = .ok (.ok generation) →
      generation.set = set →
      (session.build (some path) content).result = .ok (.report report warnings) →
      later = (session.build (some path) content).session →
      ∃ (files : List Path) (css : Text),
        session.contentFiles (content.getD session.settings.build.content) = .ok files ∧
        css = (set.sheetOn (files.map session.contentText)).rules.render ∧
        later.tree.bytes? later.cwd path = some (Utf8.encode css) ∧
        ∀ (patterns : Option (List Text)) (found : List Path),
          later.contentFiles (patterns.getD later.settings.build.content) = .ok found →
          found.filter (later.leadsElsewhere path) = files.filter (later.leadsElsewhere path) →
          (∀ file ∈ files, later.leadsElsewhere path file = false →
            bracketedClasses (session.contentText file) = []) →
          (∃ again, (later.build (some path) patterns).result = .ok (.report again warnings) ∧
            again.destination = .file path) ∧
          (later.build (some path) patterns).session.tree = later.tree ∧
          ∃ shown, (later.build none patterns).result = .ok (.report shown warnings) ∧
            shown.destination = .report css := by
  have hclassless := UtilitySet.isClassless_render h hlayouts
  refine ⟨fun texts => (hclassless texts).bracketedClasses_eq_nil, fun before after => ?_, ?_⟩
  · rw [set.sheetOn_append_cons (hclassless _)]
  rintro session later generation path content report warnings hr hg rfl hbuild hlater
  obtain ⟨hname, hsinks, rfl, files, hfiles, hdeposit, -⟩ :=
    (Session.result_build_eq_report_iff hr.sound hg).mp hbuild
  have hready : session.IsReady generation := ⟨hr, hg, hname, hsinks⟩
  have hsession := Session.session_build_eq hr.sound hg hname hsinks hfiles (some path)
  refine ⟨files, _, hfiles, rfl, ?_⟩
  have hcss := hclassless (files.map session.contentText)
  generalize hrender : (generation.set.sheetOn (files.map session.contentText)).rules.render = css
    at hdeposit hsession hcss ⊢
  obtain ⟨location, hw⟩ := FileTree.exists_written (Session.deposit_eq_ok_iff.mp hdeposit).1
  have hcwd : later.cwd = session.cwd := by rw [hlater, hsession]
  have htree : (session.tree.writeDeep session.cwd path (Utf8.encode css)).tree = later.tree := by
    rw [hlater, hsession]
    rfl
  rw [htree] at hw
  refine ⟨hcwd ▸ hw.bytes?_of_eq hw.locate, fun patterns found hfound hsame hold => ?_⟩
  -- The later build finds the same classes, so its sheet is the same.
  have hclasses := Session.classes_later hw hcwd hcss
    (fun file hmem => Session.isFile_of_mem_contentFiles hfiles hmem) hold hsame
  have hlaterReady : later.IsReady generation := hlater ▸ hready.build (some path) content
  refine hlaterReady.build_again hfound ?_ (hcwd ▸ hw.again)
  rw [generation.set.sheetOn_congr hclasses, hrender]

/-- A place for the stylesheet of the page with an area in brackets. -/
def pageStylesheet : Path := Path.ofText "/p.css".toList

/-- The page with a stylesheet written. -/
def styledPage (registry : Registry) (css : Text) : Session :=
  { bracketedPage .object with
    registry
    tree := ((bracketedPage .object).deposit css (some pageStylesheet)).1.tree }

/-- The stylesheet of the page can be written, and a pattern finds it beside the page. -/
theorem contentFiles_styledPage (registry : Registry) (css : Text) :
    ((bracketedPage .object).deposit css (some pageStylesheet)).2 = .ok (.file pageStylesheet) ∧
      (styledPage registry css).contentFiles ["p.html".toList, "p.css".toList] =
        .ok [Path.ofText "/p.html".toList, pageStylesheet] ∧
      (styledPage registry css).leadsElsewhere pageStylesheet pageStylesheet = false ∧
      (styledPage registry css).leadsElsewhere pageStylesheet (Path.ofText "/p.html".toList) =
        true := by
  refine ⟨?_, ?_, ?_, ?_⟩ <;> with_unfolding_all rfl

/-- The page is built into a file that belongs to its content from then on. -/
theorem build_ignores_own_stylesheet_bracketedPage :
    ∃ report warnings css later,
      ((bracketedPage .object).build (some pageStylesheet) none).result =
        .ok (.report report warnings) ∧
      later = ((bracketedPage .object).build (some pageStylesheet) none).session ∧
      later.tree.bytes? [] pageStylesheet = some (Utf8.encode css) ∧
      later.contentFiles ["p.html".toList, "p.css".toList] =
        .ok [Path.ofText "/p.html".toList, pageStylesheet] ∧
      (later.build (some pageStylesheet)
        (some ["p.html".toList, "p.css".toList])).session.tree = later.tree := by
  obtain ⟨generation, hg, hlayouts⟩ := (bracketedPage .object).exists_generation
    (fun generation => generation.set.layouts == [⟨"page".toList, ["[x]".toList], none, none⟩])
    (by decide +kernel)
  have hunbracketed : ∀ layout ∈ generation.set.layouts, layout.IsUnbracketed := by
    rw [beq_iff_eq.mp hlayouts, List.forall_mem_singleton]
    exact ⟨by decide, by decide, by decide, by decide⟩
  have hr := reachable_sinkRegistry .object
  have hfiles := contentFiles_bracketedPage .object
  have hname : sheetName ∉ (bracketedPage .object).discovered.registry.names := by decide +kernel
  have hsinks : (bracketedPage .object).SinksAnswer := by decide +kernel
  obtain ⟨registry, css, hlater⟩ : ∃ registry css,
      ((bracketedPage .object).build (some pageStylesheet) none).session =
        styledPage registry css :=
    ⟨_, _, Session.session_build_eq hr.sound hg hname hsinks hfiles (some pageStylesheet)⟩
  obtain ⟨hfound, hsame, hother⟩ := (contentFiles_styledPage registry css).2
  obtain ⟨report, hbuild⟩ : ∃ report, ((bracketedPage .object).build (some pageStylesheet)
      none).result = .ok (.report report generation.warnings) :=
    ⟨Session.buildReport _ _ _ (.file pageStylesheet),
      (Session.result_build_eq_report_iff hr.sound hg).mpr
        ⟨hname, hsinks, rfl, _, hfiles, (contentFiles_styledPage .empty _).1, rfl⟩⟩
  obtain ⟨-, collected, -, hset, -⟩ := Session.generate_eq_ok_iff.mp hg
  obtain ⟨-, -, hbuilds⟩ := build_ignores_own_stylesheet hset hunbracketed
  obtain ⟨files, css, hfiles', -, hbytes, hagain⟩ := hbuilds (bracketedPage .object) _ generation
    pageStylesheet none report _ hr hg rfl hbuild rfl
  obtain rfl : [Path.ofText "/p.html".toList] = files := by
    rw [hfiles] at hfiles'
    cases hfiles'
    rfl
  rw [hlater] at hbytes hagain ⊢
  obtain ⟨-, htree, -⟩ := hagain (some ["p.html".toList, "p.css".toList]) _ hfound
    (by simp only [List.filter_cons, hsame, hother, Bool.false_eq_true, if_false, if_true])
    (by rw [List.forall_mem_singleton, hother]; exact fun h => nomatch h)
  exact ⟨report, _, _, _, hbuild, rfl, hbytes, hfound, htree⟩

end NamedGrid
