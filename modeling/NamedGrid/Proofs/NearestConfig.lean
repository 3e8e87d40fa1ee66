import NamedGrid.Proofs.ConfigFailures

/-!
# The nearest configuration

A directory is configured by a file of its own or by the table for this program in the description
of a project. The search goes up from where it starts and should end at the deepest directory that
is configured. It does so unless it is disturbed further down: where a description has something
other than a table for this program, the search takes it for a configuration, and where a file is
not read or a path is too long it fails. These are the only disturbances
(`nearest_configuration`), as long as descriptions are text and keep the tools in a table.
-/

namespace NamedGrid

/-! ## The way up -/

theorem mem_ancestors_iff {location directory : Location} :
    directory ∈ ancestors location ↔ directory <+: location := by
  simp only [ancestors, List.mem_map, List.mem_reverse, List.mem_range]
  constructor
  · rintro ⟨n, -, rfl⟩
    exact List.take_prefix n location
  · intro h
    exact ⟨directory.length, Nat.lt_succ_of_le h.length_le, (List.prefix_iff_eq_take.mp h).symm⟩

/-- On the way up every directory is less deep than those before it. -/
theorem pairwise_ancestors (location : Location) :
    (ancestors location).Pairwise fun d e => e.length < d.length := by
  rw [ancestors, List.pairwise_map, List.pairwise_reverse]
  refine List.Pairwise.imp_of_mem (fun {n m} hn hm hlt => ?_) List.pairwise_lt_range
  rw [List.mem_range] at hn hm
  rw [List.length_take, List.length_take]
  omega

namespace Surroundings

variable {around : Surroundings} {directory location : Location} {path : Path}

theorem firstConfig_eq_none_iff {directories : List Location} :
    around.firstConfig directories = .ok none ↔
      ∀ d ∈ directories, around.configIn d = .ok none := by
  constructor
  · induction directories with
    | nil => exact fun _ => List.forall_mem_nil _
    | cons directory rest ih =>
      intro h
      by_cases hpassed : around.configIn directory = .ok none
      · rw [firstConfig, hpassed] at h
        exact List.forall_mem_cons.mpr ⟨hpassed, ih h⟩
      · rw [firstConfig] at h
        split at h
        · rename_i hnone
          exact absurd hnone hpassed
        · exact absurd h hpassed
  · intro h
    rw [← List.append_nil directories, around.firstConfig_append h]
    rfl

/-- The way up ends at the deepest directory that is not passed. -/
theorem firstConfig_ancestors_eq_iff {result : Except ConfigError (Option Path)}
    (hresult : result ≠ .ok none) :
    around.firstConfig (ancestors location) = result ↔
      ∃ directory, directory <+: location ∧ around.configIn directory = result ∧
        ∀ d, d <+: location → directory.length < d.length → around.configIn d = .ok none := by
  rw [firstConfig_eq_iff hresult]
  have horder := pairwise_ancestors location
  constructor
  · rintro ⟨skipped, directory, rest, hway, hskipped, hfound⟩
    refine ⟨directory, mem_ancestors_iff.mp (by simp [hway]), hfound, fun d hd hdeep => ?_⟩
    rw [← mem_ancestors_iff, hway, List.mem_append, List.mem_cons] at hd
    rw [hway, List.pairwise_append, List.pairwise_cons] at horder
    rcases hd with hd | rfl | hd
    · exact hskipped d hd
    · exact absurd hdeep (Nat.lt_irrefl _)
    · exact absurd hdeep (Nat.lt_asymm (horder.2.1.1 d hd))
  · rintro ⟨directory, hprefix, hfound, hdeeper⟩
    obtain ⟨skipped, rest, hway⟩ := List.append_of_mem (mem_ancestors_iff.mpr hprefix)
    refine ⟨skipped, directory, rest, hway, fun d hd => ?_, hfound⟩
    rw [hway, List.pairwise_append] at horder
    exact hdeeper d (mem_ancestors_iff.mp (by simp [hway, hd]))
      (horder.2.2 d hd directory List.mem_cons_self)

/-! ## What is in a directory -/

instance (fields : List (Text × Value)) : Decidable (HasToolTable fields) :=
  match htool : Value.field? fields toolField with
  | some (.record tools) =>
    match htable : Value.field? tools toolName with
    | some (.record table) => isTrue ⟨tools, table, htool, htable⟩
    | none | some .null | some (.bool _) | some (.int _) | some (.decimal _) | some (.text _)
    | some (.moment _) | some (.list _) => isFalse (by simp [HasToolTable, htool, htable])
  | none | some .null | some (.bool _) | some (.int _) | some (.decimal _) | some (.text _)
  | some (.moment _) | some (.list _) => isFalse (by simp [HasToolTable, htool])

/-- The configuration of a directory: its own file or, where there is none, a description of a
project that has the table for this program. -/
inductive Configures (around : Surroundings) (directory : Location) : Path → Prop
  | own (h : around.isFile (ownFile directory) = .ok true) :
      Configures around directory (ownFile directory)
  | project {fields : List (Text × Value)} (hdescribed : around.IsDescribed directory)
      (hdocument : around.contents (projectFile directory) = .document fields)
      (htable : HasToolTable fields) : Configures around directory (projectFile directory)

/-- The description of a project has something other than a table for this program. -/
inductive Misleads (around : Surroundings) (directory : Location) : Prop
  | intro {fields tools : List (Text × Value)} {value : Value}
      (hdescribed : around.IsDescribed directory)
      (hdocument : around.contents (projectFile directory) = .document fields)
      (htools : Value.field? fields toolField = some (.record tools))
      (hvalue : Value.field? tools toolName = some value)
      (hother : ∀ table, value ≠ .record table)

/-- The directory holds up a search that should pass it. -/
def Disturbs (around : Surroundings) (directory : Location) : Prop :=
  around.Misleads directory ∨ ∃ error, around.Obstructs directory error

instance (around : Surroundings) (directory : Location) :
    Decidable (around.IsDescribed directory) := inferInstanceAs (Decidable (_ ∧ _))

/-- The description of a project, if there is one, is text, and what it has for tools is a table if
there is anything. -/
def IsPlain (around : Surroundings) (directory : Location) : Prop :=
  around.IsDescribed directory →
    around.contents (projectFile directory) ≠ .unreadable .notText ∧
      ∀ fields, around.contents (projectFile directory) = .document fields →
        ∃ tools, toolEntry fields = .record tools

instance (around : Surroundings) (directory : Location) :
    Decidable (around.IsPlain directory) :=
  match hcontents : around.contents (projectFile directory) with
  | .document fields =>
    match hentry : toolEntry fields with
    | .record tools => isTrue fun _ => by simp [hcontents, hentry]
    | .null | .bool _ | .int _ | .decimal _ | .text _ | .moment _ | .list _ =>
      decidable_of_iff (¬around.IsDescribed directory) (by simp [IsPlain, hcontents, hentry])
  | .malformed => isTrue fun _ => by simp [hcontents]
  | .unreadable error =>
    decidable_of_iff (around.IsDescribed directory → error ≠ .notText)
      (by simp [IsPlain, hcontents])

/-- The search ends in a directory with its own file, or with a description that mentions this
program among the tools. -/
theorem configIn_eq_some_iff :
    around.configIn directory = .ok (some path) ↔
      (around.isFile (ownFile directory) = .ok true ∧ path = ownFile directory) ∨
        (around.IsDescribed directory ∧ path = projectFile directory ∧
          ∃ fields, around.contents (projectFile directory) = .document fields ∧
            (toolEntry fields).mentions? toolName = some true) := by
  rcases hown : around.isFile (ownFile directory) with error | _ | _
  · simp [configIn_eq, IsDescribed, hown]
  · rcases hproject : around.isFile (projectFile directory) with error | _ | _
    · simp [configIn_eq, IsDescribed, hown, hproject]
    · simp [configIn_eq, IsDescribed, hown, hproject]
    · have hdescribed : around.IsDescribed directory := ⟨hown, hproject⟩
      rw [hdescribed.configIn_eq, hasToolTable_eq]
      cases around.contents (projectFile directory) with
      | document fields =>
        rcases hfound : (toolEntry fields).mentions? toolName with _ | _ | _ <;>
          simp [hdescribed, hfound, Except.map, eq_comm]
      | malformed => simp [Except.map]
      | unreadable error => simp [Except.map]
  · simp [configIn_eq, IsDescribed, hown, eq_comm]

/-- A description has something for this program if it has something in its table for tools. -/
theorem mentions?_toolEntry_eq_true_iff {fields tools : List (Text × Value)}
    (h : toolEntry fields = .record tools) :
    (toolEntry fields).mentions? toolName = some true ↔
      ∃ value, Value.field? fields toolField = some (.record tools) ∧
        Value.field? tools toolName = some value := by
  rw [h, Value.mentions?, Option.some.injEq, Option.isSome_iff_exists]
  cases htool : Value.field? fields toolField with
  | none =>
    rw [toolEntry, htool, Option.getD_none] at h
    cases h
    simp [Value.field?]
  | some tool =>
    rw [toolEntry, htool, Option.getD_some] at h
    simp [h]

/-- In a plain directory the search ends if it is configured or misleads. -/
theorem IsPlain.configIn_eq_some_iff (hplain : around.IsPlain directory) :
    around.configIn directory = .ok (some path) ↔
      around.Configures directory path ∨
        (around.Misleads directory ∧ path = projectFile directory) := by
  rw [Surroundings.configIn_eq_some_iff]
  constructor
  · rintro (⟨hown, rfl⟩ | ⟨hdescribed, rfl, fields, hdocument, hmention⟩)
    · exact .inl (.own hown)
    · obtain ⟨tools, hentry⟩ := (hplain hdescribed).2 _ hdocument
      obtain ⟨value, htools, hvalue⟩ := (mentions?_toolEntry_eq_true_iff hentry).mp hmention
      by_cases htable : ∃ table, value = .record table
      · obtain ⟨table, rfl⟩ := htable
        exact .inl (.project hdescribed hdocument ⟨tools, table, htools, hvalue⟩)
      · exact .inr ⟨.intro hdescribed hdocument htools hvalue (not_exists.mp htable), rfl⟩
  · have hmentions : ∀ {fields tools : List (Text × Value)} {value : Value},
        Value.field? fields toolField = some (.record tools) →
          Value.field? tools toolName = some value →
            (toolEntry fields).mentions? toolName = some true := by
      intro fields tools value htools hvalue
      have hentry : toolEntry fields = .record tools := by
        rw [toolEntry, htools, Option.getD_some]
      exact (mentions?_toolEntry_eq_true_iff hentry).mpr ⟨value, htools, hvalue⟩
    rintro ((hown | ⟨hdescribed, hdocument, tools, table, htools, hvalue⟩) |
      ⟨⟨hdescribed, hdocument, htools, hvalue, -⟩, rfl⟩)
    · exact .inl ⟨hown, rfl⟩
    · exact .inr ⟨hdescribed, rfl, _, hdocument, hmentions htools hvalue⟩
    · exact .inr ⟨hdescribed, rfl, _, hdocument, hmentions htools hvalue⟩

/-- In a plain directory the search is passed on if there is no configuration and nothing disturbs
it. -/
theorem IsPlain.configIn_eq_none_iff (hplain : around.IsPlain directory) :
    around.configIn directory = .ok none ↔
      (∀ path, ¬around.Configures directory path) ∧ ¬around.Disturbs directory := by
  rcases hconfig : around.configIn directory with error | _ | path
  · have hobstructs := configIn_eq_error_iff.mp hconfig
    exact iff_of_false nofun fun ⟨_, hcalm⟩ => hcalm (.inr ⟨error, hobstructs⟩)
  · refine iff_of_true rfl ⟨fun path hpath => ?_, ?_⟩
    · cases (hplain.configIn_eq_some_iff.mpr (.inl hpath)).symm.trans hconfig
    · rintro (hmisleads | ⟨error, hobstructs⟩)
      · cases (hplain.configIn_eq_some_iff.mpr (.inr ⟨hmisleads, rfl⟩)).symm.trans hconfig
      · cases (configIn_eq_error_iff.mpr hobstructs).symm.trans hconfig
  · refine iff_of_false nofun fun ⟨hnone, hcalm⟩ => ?_
    rcases hplain.configIn_eq_some_iff.mp hconfig with h | ⟨h, -⟩
    · exact hnone path h
    · exact hcalm (.inl h)

/-- A plain directory obstructs the search by a path that is too long, or by a document with a
number that is too long or with values that are nested too deeply. -/
theorem IsPlain.obstructs (hplain : around.IsPlain directory) {error : ConfigError}
    (h : around.Obstructs directory error) :
    error ∈ [ConfigError.nameTooLong, .numberTooLong, .tooDeep] := by
  cases h with
  | ownFile => decide
  | projectFile => decide
  | unreadable hdescribed hcontents =>
    have hread := Contents.error_of_unreadable hcontents
    have htext : error ≠ .notText := fun heq => (hplain hdescribed).1 (heq ▸ hcontents)
    simp only [List.mem_cons, List.not_mem_nil, or_false] at hread ⊢
    exact .inr (hread.resolve_left htext)
  | notSearchable hdescribed hdocument hmention =>
    obtain ⟨tools, hentry⟩ := (hplain hdescribed).2 _ hdocument
    rw [hentry] at hmention
    cases hmention

/-- The configuration of a directory lies in it. -/
theorem Configures.dropLast_names (h : around.Configures directory path) :
    path.names.dropLast = directory := by
  cases h <;> exact List.dropLast_concat

/-- What a search that ends with a description reads there is the value for this program. -/
theorem IsPlain.readConfig_eq (hplain : around.IsPlain directory)
    (h : around.configIn directory = .ok (some path)) (hname : path.name = projectFileName) :
    ∃ fields tools value, around.contents path = .document fields ∧
      Value.field? fields toolField = some (.record tools) ∧
      Value.field? tools toolName = some value ∧ around.readConfig path = .ok value := by
  rcases Surroundings.configIn_eq_some_iff.mp h with
    ⟨-, rfl⟩ | ⟨hdescribed, rfl, fields, hdocument, hmention⟩
  · have hown : (ownFile directory).name = configFileName := by
      simp [ownFile, Path.ofLocation, Path.name]
    rw [hown] at hname
    exact absurd hname (by decide)
  · obtain ⟨tools, hentry⟩ := (hplain hdescribed).2 _ hdocument
    obtain ⟨value, htools, hvalue⟩ := (mentions?_toolEntry_eq_true_iff hentry).mp hmention
    refine ⟨fields, tools, value, hdocument, htools, hvalue, ?_⟩
    rw [Surroundings.readConfig_eq, hdocument]
    dsimp only
    rw [if_pos hname, hentry]
    dsimp only
    rw [hvalue, Option.getD_some]

/-- Where the search for the configuration of a directory begins. -/
def startOf (around : Surroundings) (start : Option Path) : Location :=
  start.elim around.cwd around.locationOf

/-- The configuration of the deepest directory on the way up that has one. -/
structure IsNearest (around : Surroundings) (location directory : Location) (path : Path) :
    Prop where
  above : directory <+: location
  configures : around.Configures directory path
  deepest : ∀ d other, d <+: location → around.Configures d other → d.length ≤ directory.length

/-- On a plain way the search ends with the nearest configuration unless it is disturbed below it,
or with the description that misleads it. -/
theorem firstConfig_eq_some_iff (hplain : ∀ d, d <+: location → around.IsPlain d) :
    around.firstConfig (ancestors location) = .ok (some path) ↔
      (∃ directory, around.IsNearest location directory path ∧
        ∀ d, d <+: location → directory.length < d.length → ¬around.Disturbs d) ∨
      ∃ directory, directory <+: location ∧ around.Misleads directory ∧
        path = projectFile directory ∧ ∀ d, d <+: location → directory.length < d.length →
          (∀ other, ¬around.Configures d other) ∧ ¬around.Disturbs d := by
  have hnone : ∀ d, d <+: location → (around.configIn d = .ok none ↔
      (∀ other, ¬around.Configures d other) ∧ ¬around.Disturbs d) :=
    fun d hd => (hplain d hd).configIn_eq_none_iff
  rw [firstConfig_ancestors_eq_iff (by simp)]
  constructor
  · rintro ⟨directory, habove, hfound, hdeeper⟩
    rcases (hplain directory habove).configIn_eq_some_iff.mp hfound with hown | ⟨hmisleads, rfl⟩
    · refine .inl ⟨directory, ⟨habove, hown, fun d other hd hother => ?_⟩, fun d hd hdeep => ?_⟩
      · by_contra hdeep
        exact ((hnone d hd).mp (hdeeper d hd (Nat.lt_of_not_le hdeep))).1 other hother
      · exact ((hnone d hd).mp (hdeeper d hd hdeep)).2
    · exact .inr ⟨directory, habove, hmisleads, rfl, fun d hd hdeep =>
        (hnone d hd).mp (hdeeper d hd hdeep)⟩
  · rintro (⟨directory, hnearest, hcalm⟩ | ⟨directory, habove, hmisleads, hpath, hdeeper⟩)
    · refine ⟨directory, hnearest.above,
        (hplain _ hnearest.above).configIn_eq_some_iff.mpr (.inl hnearest.configures),
        fun d hd hdeep => (hnone d hd).mpr ⟨fun other hother => ?_, hcalm d hd hdeep⟩⟩
      exact absurd hdeep (Nat.not_lt_of_le (hnearest.deepest d other hd hother))
    · exact ⟨directory, habove,
        (hplain _ habove).configIn_eq_some_iff.mpr (.inr ⟨hmisleads, hpath⟩),
        fun d hd hdeep => (hnone d hd).mpr (hdeeper d hd hdeep)⟩

/-- On a plain way the search ends with the nearest configuration exactly if it is not disturbed
below it. -/
theorem IsNearest.firstConfig_iff (hplain : ∀ d, d <+: location → around.IsPlain d)
    (h : around.IsNearest location directory path) :
    around.firstConfig (ancestors location) = .ok (some path) ↔
      ∀ d, d <+: location → directory.length < d.length → ¬around.Disturbs d := by
  rw [firstConfig_eq_some_iff hplain]
  refine ⟨?_, fun hcalm => .inl ⟨directory, h, hcalm⟩⟩
  have hin := h.configures.dropLast_names
  rintro (⟨found, hfound, hcalm⟩ | ⟨found, -, -, rfl, hcalm⟩)
  · rwa [← hin, hfound.configures.dropLast_names]
  · have hfound : (projectFile found).names.dropLast = found := List.dropLast_concat
    rw [← hin, hfound]
    exact fun d hd hdeep => (hcalm d hd hdeep).2

/-- Without a variable that names it, the configuration file is searched on the way up. -/
theorem findConfig_eq_firstConfig (hvariable : configVariable ∉ around.environment.keys)
    {start : Option Path} (hstart : start.any FileTree.isUnusable = false) :
    around.findConfig start = around.firstConfig (ancestors (around.startOf start)) := by
  rw [findConfig, Table.get?_eq_none_iff.mpr hvariable]
  simp only [hstart, Bool.false_eq_true, if_false]
  rfl

end Surroundings

/-- **Where the search ends.** Let no variable name the configuration file, and let every
description of a project on the way up be text that, if it is a document, has a table for tools or
nothing under that name. The search ends with the configuration of the deepest directory that has
one, unless it is disturbed below it: by a description that has something other than a table for
this program, at which it ends as if it were a configuration, or by one of the failures of
`Obstructs`, of which three are left. It finds nothing exactly if no directory on the way has a
configuration or disturbs it. If it ends with a description, what is read there is exactly what
stands for this program in the table for tools. -/
theorem nearest_configuration {around : Surroundings}
    (hvariable : configVariable ∉ around.environment.keys) {start : Option Path}
    (hstart : start.any FileTree.isUnusable = false)
    (hplain : ∀ d, d <+: around.startOf start → around.IsPlain d) :
    let location := around.startOf start
    (∀ directory path, around.IsNearest location directory path →
      (around.findConfig start = .ok (some path) ↔
        ∀ d, d <+: location → directory.length < d.length → ¬around.Disturbs d)) ∧
    (around.findConfig start = .ok none ↔
      ∀ d, d <+: location → (∀ path, ¬around.Configures d path) ∧ ¬around.Disturbs d) ∧
    (∀ directory, directory <+: location →
      (∀ d, d <+: location → directory.length < d.length →
        (∀ path, ¬around.Configures d path) ∧ ¬around.Disturbs d) →
      (around.Misleads directory →
        around.findConfig start = .ok (some (Surroundings.projectFile directory))) ∧
      ∀ error, around.Obstructs directory error → around.findConfig start = .error error ∧
        error ∈ [ConfigError.nameTooLong, .numberTooLong, .tooDeep]) ∧
    ∀ path, around.findConfig start = .ok (some path) →
      (∃ directory, around.IsNearest location directory path ∨
        directory <+: location ∧ around.Misleads directory ∧
          path = Surroundings.projectFile directory) ∧
      (path.name = projectFileName → ∃ fields tools value,
        around.contents path = .document fields ∧
        Value.field? fields toolField = some (.record tools) ∧
        Value.field? tools toolName = some value ∧ around.readConfig path = .ok value) := by
  intro location
  have hnone : ∀ d, d <+: location → (around.configIn d = .ok none ↔
      (∀ path, ¬around.Configures d path) ∧ ¬around.Disturbs d) :=
    fun d hd => (hplain d hd).configIn_eq_none_iff
  rw [Surroundings.findConfig_eq_firstConfig hvariable hstart]
  refine ⟨fun directory path hnearest => hnearest.firstConfig_iff hplain, ?_,
    fun directory habove hdeeper => ⟨fun hmisleads => ?_,
      fun error hobstructs => ⟨?_, (hplain directory habove).obstructs hobstructs⟩⟩,
    fun path hpath => ⟨?_, fun hname => ?_⟩⟩
  · rw [Surroundings.firstConfig_eq_none_iff]
    simp only [mem_ancestors_iff]
    exact forall₂_congr hnone
  · rw [Surroundings.firstConfig_eq_some_iff hplain]
    exact .inr ⟨directory, habove, hmisleads, rfl, hdeeper⟩
  · have herror : (.error error : Except ConfigError (Option Path)) ≠ .ok none := by simp
    rw [Surroundings.firstConfig_ancestors_eq_iff herror]
    exact ⟨directory, habove, Surroundings.configIn_eq_error_iff.mpr hobstructs,
      fun d hd hdeep => (hnone d hd).mpr (hdeeper d hd hdeep)⟩
  · rcases (Surroundings.firstConfig_eq_some_iff hplain).mp hpath with
      ⟨directory, hnearest, -⟩ | ⟨directory, habove, hmisleads, rfl, -⟩
    · exact ⟨directory, .inl hnearest⟩
    · exact ⟨directory, .inr ⟨habove, hmisleads, rfl⟩⟩
  · obtain ⟨directory, habove, hfound, -⟩ :=
      (Surroundings.firstConfig_ancestors_eq_iff (by simp)).mp hpath
    exact (hplain directory habove).readConfig_eq hfound hname

/-- A description in which a number stands for this program. -/
def numberedTool : Surroundings :=
  filedSurroundings projectFileName (Utf8.encode "[tool]\ngridareas = 3\n".toList)

/-- A directory with a table for this program in its description, below a directory with a file of
its own, and in it the start with a description that is no document. -/
def nestedProject : Surroundings where
  tree := ⟨Table.ofList
    [([configFileName], .file []), (["work".toList], .directory),
      (["work".toList, projectFileName],
        .file (Utf8.encode "[tool.gridareas]\nquiet = true\n".toList)),
      (["work".toList, "src".toList], .directory),
      (["work".toList, "src".toList, projectFileName], .file (Utf8.encode "= 3".toList))]⟩
  cwd := ["work".toList, "src".toList]
  environment := .empty

theorem isPlain_nestedProject {d : Location} (h : d <+: nestedProject.startOf none) :
    nestedProject.IsPlain d := by
  have hall : ∀ d ∈ ancestors (nestedProject.startOf none), nestedProject.IsPlain d := by
    decide +kernel
  exact hall d (mem_ancestors_iff.mpr h)

/-- The search passes the description that is no document and ends with the table above it, though
further up there is a file. -/
theorem nearest_configuration_nestedProject :
    let work := ["work".toList]
    let location := nestedProject.startOf none
    configVariable ∉ nestedProject.environment.keys ∧
      (none : Option Path).any FileTree.isUnusable = false ∧
      (∀ d, d <+: location → nestedProject.IsPlain d) ∧
      nestedProject.IsNearest location work (Surroundings.projectFile work) ∧
      nestedProject.findConfig none = .ok (some (Surroundings.projectFile work)) ∧
      ∃ value, nestedProject.readConfig (Surroundings.projectFile work) = .ok value := by
  intro work location
  have hvariable : configVariable ∉ nestedProject.environment.keys := List.not_mem_nil
  have hdescribed : nestedProject.IsDescribed work := by decide +kernel
  obtain ⟨fields, hread, htable⟩ := @exists_of_any _ _
    (nestedProject.readDocument (Surroundings.projectFile work)) Surroundings.HasToolTable _
    (by decide +kernel)
  -- Of the directories on the way only the first lies below the one with the table.
  have hdeeper : ∀ d, d <+: location → work.length < d.length →
      (∀ path, ¬nestedProject.Configures d path) ∧ ¬nestedProject.Disturbs d := by
    have hpassed : ∀ d ∈ ancestors location, work.length < d.length →
        nestedProject.configIn d = .ok none := by decide +kernel
    intro d hd hdeep
    exact (isPlain_nestedProject hd).configIn_eq_none_iff.mp
      (hpassed d (mem_ancestors_iff.mpr hd) hdeep)
  have hnearest : nestedProject.IsNearest location work (Surroundings.projectFile work) :=
    { above := by decide
      configures := .project hdescribed (Surroundings.readDocument_eq_ok_iff.mp hread) htable
      deepest := fun d other hd hother => by
        by_contra hdeep
        exact (hdeeper d hd (Nat.lt_of_not_le hdeep)).1 other hother }
  obtain ⟨hend, -, -, hfile⟩ :=
    nearest_configuration hvariable (rfl : (none : Option Path).any _ = false)
      fun d => isPlain_nestedProject
  have hfound := (hend work _ hnearest).mpr fun d hd hdeep => (hdeeper d hd hdeep).2
  obtain ⟨-, -, value, -, -, -, hvalue⟩ := (hfile _ hfound).2 rfl
  exact ⟨hvariable, rfl, fun d => isPlain_nestedProject, hnearest, hfound, value, hvalue⟩

/-- The search ends with a description that has no table for this program, though there is no
configuration on the way, and what is read there is no table. -/
theorem nearest_configuration_numberedTool :
    configVariable ∉ numberedTool.environment.keys ∧
      (∀ d, d <+: numberedTool.startOf none →
        numberedTool.IsPlain d ∧ ∀ path, ¬numberedTool.Configures d path) ∧
      numberedTool.findConfig none = .ok (some (Surroundings.projectFile [])) ∧
      ∃ value, numberedTool.readConfig (Surroundings.projectFile []) = .ok value ∧
        ∀ table, value ≠ .record table := by
  obtain ⟨fields, hread, hnone⟩ := @exists_of_any _ _
    (numberedTool.readDocument (Surroundings.projectFile []))
    (fun fields => ¬Surroundings.HasToolTable fields) _ (by decide +kernel)
  obtain ⟨value, hvalue, hnumber⟩ := @exists_of_any _ _
    (numberedTool.readConfig (Surroundings.projectFile []))
    (fun value => value.kindName = "int".toList) _ (by decide +kernel)
  refine ⟨List.not_mem_nil, fun d hd => ?_, by decide +kernel, value, hvalue, ?_⟩
  · obtain rfl : d = [] := List.prefix_nil.mp hd
    refine ⟨by decide +kernel, fun path hpath => ?_⟩
    cases hpath with
    | own hown => exact absurd hown (by decide +kernel)
    | project _ hdocument htable =>
      cases (Surroundings.readDocument_eq_ok_iff.mpr hdocument).symm.trans hread
      exact hnone htable
  · intro table htable
    have hrecord : value.kindName = "dict".toList := congrArg Value.kindName htable
    exact absurd (hrecord.symm.trans hnumber) (by decide)

end NamedGrid
