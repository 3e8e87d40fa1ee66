import NamedGrid.Project.Discovery
import NamedGrid.Proofs.Shapes

/-!
# The search for a configuration

What a file is to the search follows from its bytes: a document, text that is none, or something
that is not read at all. A directory is passed, is where the search ends, or is where it fails, and
which of these depends on its two files alone. The search as a whole does what the first directory
does that is not passed.
-/

namespace NamedGrid

/-! ## Files -/

/-- What a file is to a reader of configurations. -/
inductive Contents
  /-- A document with its fields. -/
  | document (fields : List (Text × Value))
  /-- Text that is no document. -/
  | malformed
  /-- Nothing that could be told to be one or the other. -/
  | unreadable (error : ConfigError)

/-- Bytes are read as text, and the text as a document. -/
def Contents.ofBytes (bytes : Utf8.Bytes) : Contents :=
  match Utf8.decodeStrict? bytes with
  | none => unreadable .notText
  | some text =>
    match Toml.read (Utf8.unifyLines text) with
    | .ok fields => document fields
    | .error .malformed => malformed
    | .error .numberTooLong => unreadable .numberTooLong
    | .error .tooDeep => unreadable .tooDeep

/-- There are three reasons for which bytes are not read. -/
theorem Contents.error_of_unreadable {bytes : Utf8.Bytes} {error : ConfigError}
    (h : ofBytes bytes = unreadable error) :
    error ∈ [ConfigError.notText, .numberTooLong, .tooDeep] := by
  unfold ofBytes at h
  split at h
  · cases h
    decide
  · split at h <;> cases h <;> decide

/-- What a document has under the name for tools; nothing there is a table without fields. -/
def toolEntry (fields : List (Text × Value)) : Value :=
  (Value.field? fields toolField).getD (.record [])

namespace Surroundings

variable {around : Surroundings} {file : Path} {directory : Location}

/-- What the file at a path is to a reader of configurations. -/
def contents (around : Surroundings) (file : Path) : Contents :=
  .ofBytes ((around.tree.bytes? around.cwd file).getD [])

/-- The path cannot be followed because it, or a name on the way, is too long. -/
def IsTooLong (around : Surroundings) (path : Path) : Prop :=
  FileTree.isUnusable path = false ∧ around.tree.isOverlong around.cwd path = true

/-- The file that configures a directory. -/
def ownFile (directory : Location) : Path := .ofLocation (directory ++ [configFileName])

/-- The file of a directory that describes a project. -/
def projectFile (directory : Location) : Path := .ofLocation (directory ++ [projectFileName])

theorem isFile_eq_error_iff {path : Path} {error : ConfigError} :
    around.isFile path = .error error ↔ around.IsTooLong path ∧ error = .nameTooLong := by
  unfold isFile IsTooLong
  split
  · rename_i h
    simp [h]
  · rename_i h
    split
    · rename_i hlong
      simpa [h, hlong] using eq_comm
    · rename_i hlong
      simp [hlong]

theorem readDocument_eq (around : Surroundings) (file : Path) :
    around.readDocument file =
      match around.contents file with
      | .document fields => .ok fields
      | .malformed => .error (.invalidDocument file)
      | .unreadable error => .error error := by
  unfold readDocument readText contents Contents.ofBytes
  cases Utf8.decodeStrict? ((around.tree.bytes? around.cwd file).getD []) with
  | none => rfl
  | some text =>
    cases h : Toml.read (Utf8.unifyLines text) with
    | ok fields => simp only [bind, Except.bind, h]; rfl
    | error failure => cases failure <;> simp only [bind, Except.bind, h] <;> rfl

theorem readDocument_eq_ok_iff {fields : List (Text × Value)} :
    around.readDocument file = .ok fields ↔ around.contents file = .document fields := by
  rw [readDocument_eq]
  cases around.contents file <;> simp

/-- A description that is no document has no table, and one that is may be one in which tables
cannot be searched for. -/
theorem hasToolTable_eq (around : Surroundings) (file : Path) :
    around.hasToolTable file =
      match around.contents file with
      | .document fields => ((toolEntry fields).mentions? toolName).elim
          (.error .notSearchable) .ok
      | .malformed => .ok false
      | .unreadable error => .error error := by
  rw [hasToolTable, readDocument_eq]
  cases h : around.contents file with
  | document fields =>
    simp only [toolEntry]
    split <;> rename_i hmention <;> rw [hmention] <;> rfl
  | malformed => rfl
  | unreadable error =>
    -- The search passes over text that is no document, and over no file that is not read.
    have herror := Contents.error_of_unreadable h
    cases error <;> first | rfl | exact absurd herror (by simp)

theorem hasToolTable_eq_error_iff {error : ConfigError} :
    around.hasToolTable file = .error error ↔
      around.contents file = .unreadable error ∨ error = .notSearchable ∧
        ∃ fields, around.contents file = .document fields ∧
          (toolEntry fields).mentions? toolName = none := by
  rw [hasToolTable_eq]
  cases around.contents file with
  | document fields =>
    cases hmention : (toolEntry fields).mentions? toolName <;> simp [hmention, eq_comm]
  | malformed => simp
  | unreadable => simp

/-! ## Directories -/

/-- What the search does in a directory. -/
theorem configIn_eq (around : Surroundings) (directory : Location) :
    around.configIn directory =
      match around.isFile (ownFile directory) with
      | .error error => .error error
      | .ok true => .ok (some (ownFile directory))
      | .ok false =>
        match around.isFile (projectFile directory) with
        | .error error => .error error
        | .ok false => .ok none
        | .ok true => (around.hasToolTable (projectFile directory)).map fun found =>
            if found then some (projectFile directory) else none := by
  have hsteps : around.configIn directory = do
      if ← around.isFile (ownFile directory) then return some (ownFile directory)
      else if ← around.isFile (projectFile directory) then
        return if ← around.hasToolTable (projectFile directory) then
          some (projectFile directory) else none
      else return none := rfl
  rw [hsteps]
  rcases around.isFile (ownFile directory) with error | _ | _
  · rfl
  · rcases around.isFile (projectFile directory) with error | _ | _
    · rfl
    · rfl
    · cases around.hasToolTable (projectFile directory) <;> rfl
  · rfl

/-- The directory has no file of its own, and has a description of a project. -/
def IsDescribed (around : Surroundings) (directory : Location) : Prop :=
  around.isFile (ownFile directory) = .ok false ∧
    around.isFile (projectFile directory) = .ok true

theorem IsDescribed.configIn_eq (h : around.IsDescribed directory) :
    around.configIn directory =
      (around.hasToolTable (projectFile directory)).map fun found =>
        if found then some (projectFile directory) else none := by
  rw [Surroundings.configIn_eq, h.1, h.2]

/-- Why the search fails in a directory. -/
inductive Obstructs (around : Surroundings) (directory : Location) : ConfigError → Prop
  | ownFile (h : around.IsTooLong (ownFile directory)) : Obstructs around directory .nameTooLong
  | projectFile (hown : around.isFile (Surroundings.ownFile directory) = .ok false)
      (h : around.IsTooLong (projectFile directory)) : Obstructs around directory .nameTooLong
  | unreadable {error : ConfigError} (hdescribed : around.IsDescribed directory)
      (h : around.contents (Surroundings.projectFile directory) = .unreadable error) :
      Obstructs around directory error
  | notSearchable {fields : List (Text × Value)} (hdescribed : around.IsDescribed directory)
      (hdocument : around.contents (Surroundings.projectFile directory) = .document fields)
      (h : (toolEntry fields).mentions? toolName = none) :
      Obstructs around directory .notSearchable

theorem configIn_eq_error_iff {error : ConfigError} :
    around.configIn directory = .error error ↔ around.Obstructs directory error := by
  constructor
  · intro h
    rcases hown : around.isFile (ownFile directory) with error' | _ | _
    · obtain ⟨hlong, rfl⟩ := isFile_eq_error_iff.mp hown
      rw [configIn_eq, hown] at h
      cases h
      exact .ownFile hlong
    · rcases hproject : around.isFile (projectFile directory) with error' | _ | _
      · obtain ⟨hlong, rfl⟩ := isFile_eq_error_iff.mp hproject
        rw [configIn_eq, hown, hproject] at h
        cases h
        exact .projectFile hown hlong
      · rw [configIn_eq, hown, hproject] at h
        cases h
      · have hdescribed : around.IsDescribed directory := ⟨hown, hproject⟩
        rw [hdescribed.configIn_eq, map_eq_error_iff, hasToolTable_eq_error_iff] at h
        rcases h with h | ⟨rfl, fields, hdocument, hmention⟩
        · exact .unreadable hdescribed h
        · exact .notSearchable hdescribed hdocument hmention
    · rw [configIn_eq, hown] at h
      cases h
  · intro h
    cases h with
    | ownFile hlong => rw [configIn_eq, isFile_eq_error_iff.mpr ⟨hlong, rfl⟩]
    | projectFile hown hlong => rw [configIn_eq, hown, isFile_eq_error_iff.mpr ⟨hlong, rfl⟩]
    | unreadable hdescribed hcontents =>
      rw [hdescribed.configIn_eq, map_eq_error_iff, hasToolTable_eq_error_iff]
      exact Or.inl hcontents
    | notSearchable hdescribed hdocument hmention =>
      rw [hdescribed.configIn_eq, map_eq_error_iff, hasToolTable_eq_error_iff]
      exact Or.inr ⟨rfl, _, hdocument, hmention⟩

/-! ## Tables for tools -/

/-- The document has a table for this program among those of the tools. -/
def HasToolTable (fields : List (Text × Value)) : Prop :=
  ∃ tools table, Value.field? fields toolField = some (.record tools) ∧
    Value.field? tools toolName = some (.record table)

/-- The document has no such table and is not searched as one without: what it has under the name
for tools is no table and mentions the program or cannot be searched, or what it has there for the
program is no table. -/
def IsMisleading (fields : List (Text × Value)) : Prop :=
  ∃ tool, Value.field? fields toolField = some tool ∧
    (((∀ tools, tool ≠ .record tools) ∧ tool.mentions? toolName ≠ some false) ∨
      ∃ tools value, tool = .record tools ∧ Value.field? tools toolName = some value ∧
        ∀ table, value ≠ .record table)

/-- A document is searched as one without the table unless it has it or is misleading. -/
theorem mentions?_toolEntry_ne_iff {fields : List (Text × Value)} :
    (toolEntry fields).mentions? toolName ≠ some false ↔
      HasToolTable fields ∨ IsMisleading fields := by
  unfold toolEntry HasToolTable IsMisleading
  cases Value.field? fields toolField with
  | none => simp [Value.mentions?, Value.field?]
  | some tool =>
    cases tool with
    | record tools =>
      cases hvalue : Value.field? tools toolName with
      | none => simp [Value.mentions?, hvalue]
      | some value => cases value <;> simp [Value.mentions?, hvalue]
    | _ => simp

theorem HasToolTable.not_isMisleading {fields : List (Text × Value)} (h : HasToolTable fields) :
    ¬IsMisleading fields := by
  obtain ⟨tools, table, htool, htable⟩ := h
  rintro ⟨tool, hfound, ⟨hother, -⟩ | ⟨tools', value, rfl, hvalue, hother⟩⟩
  · exact hother tools (Option.some.inj (hfound.symm.trans htool))
  · cases hfound.symm.trans htool
    exact hother table (Option.some.inj (hvalue.symm.trans htable))

/-- A description ends the search or makes it fail exactly if it is not read or does not pass for
one without a table. -/
theorem IsDescribed.configIn_ne_none_iff (h : around.IsDescribed directory) :
    around.configIn directory ≠ .ok none ↔
      (∃ error, around.contents (projectFile directory) = .unreadable error) ∨
        ∃ fields, around.contents (projectFile directory) = .document fields ∧
          (HasToolTable fields ∨ IsMisleading fields) := by
  rw [h.configIn_eq, hasToolTable_eq]
  cases around.contents (projectFile directory) with
  | document fields =>
    have hmentions := @mentions?_toolEntry_ne_iff fields
    rcases hfound : (toolEntry fields).mentions? toolName with _ | _ | _ <;>
      rw [hfound] at hmentions <;> simp [hfound, ← hmentions, Except.map]
  | malformed => simp [Except.map]
  | unreadable error => simp [Except.map]

/-- A description without the table stops the search exactly if it is not read or is misleading. -/
theorem IsDescribed.stops_iff (h : around.IsDescribed directory) :
    (around.configIn directory ≠ .ok none ∧ ∀ fields,
        around.contents (projectFile directory) = .document fields → ¬HasToolTable fields) ↔
      (∃ error, around.contents (projectFile directory) = .unreadable error) ∨
        ∃ fields, around.contents (projectFile directory) = .document fields ∧
          IsMisleading fields := by
  rw [h.configIn_ne_none_iff]
  constructor
  · rintro ⟨hunreadable | ⟨fields, hdocument, htable | hmisleading⟩, hnone⟩
    · exact Or.inl hunreadable
    · exact absurd htable (hnone fields hdocument)
    · exact Or.inr ⟨fields, hdocument, hmisleading⟩
  · rintro (⟨error, hunreadable⟩ | ⟨fields, hdocument, hmisleading⟩)
    · refine ⟨Or.inl ⟨error, hunreadable⟩, fun fields hdocument => ?_⟩
      rw [hunreadable] at hdocument
      cases hdocument
    · refine ⟨Or.inr ⟨fields, hdocument, Or.inr hmisleading⟩, fun other hother htable => ?_⟩
      rw [hdocument] at hother
      cases hother
      exact htable.not_isMisleading hmisleading

/-! ## The way up -/

/-- The search does what the first directory does that is not passed. -/
theorem firstConfig_eq_iff {result : Except ConfigError (Option Path)} (hresult : result ≠ .ok none)
    {directories : List Location} :
    around.firstConfig directories = result ↔
      ∃ skipped directory rest, directories = skipped ++ directory :: rest ∧
        (∀ d ∈ skipped, around.configIn d = .ok none) ∧ around.configIn directory = result := by
  constructor
  · intro h
    induction directories with
    | nil => exact absurd h.symm hresult
    | cons directory rest ih =>
      by_cases hpassed : around.configIn directory = .ok none
      · rw [firstConfig, hpassed] at h
        obtain ⟨skipped, found, rest, rfl, hskipped, hfound⟩ := ih h
        exact ⟨directory :: skipped, found, rest, rfl,
          List.forall_mem_cons.mpr ⟨hpassed, hskipped⟩, hfound⟩
      · refine ⟨[], directory, rest, rfl, fun d hd => absurd hd List.not_mem_nil, ?_⟩
        rw [firstConfig] at h
        split at h
        · rename_i hnone
          exact absurd hnone hpassed
        · exact h
  · rintro ⟨skipped, directory, rest, rfl, hskipped, rfl⟩
    rw [firstConfig_append hskipped, firstConfig]
    split
    · rename_i hnone
      exact absurd hnone hresult
    · rfl

/-- Why the search from a directory fails. -/
inductive SearchFault (around : Surroundings) (start : Option Path) : ConfigError → Prop
  | unusable (h : start.any FileTree.isUnusable = true) : SearchFault around start .unusableName
  | directory {error : ConfigError} {skipped rest : List Location} {directory : Location}
      (hstart : start.any FileTree.isUnusable = false)
      (hway : ancestors (start.elim around.cwd around.locationOf) = skipped ++ directory :: rest)
      (hskipped : ∀ d ∈ skipped, around.configIn d = .ok none)
      (h : around.Obstructs directory error) : SearchFault around start error

theorem findConfig_eq_error_iff (hvariable : around.environment.get? configVariable = none)
    {start : Option Path} {error : ConfigError} :
    around.findConfig start = .error error ↔ around.SearchFault start error := by
  rw [findConfig, hvariable]
  cases hstart : start.any FileTree.isUnusable with
  | true =>
    constructor
    · rintro ⟨⟩
      exact .unusable hstart
    · rintro (h | ⟨hother, -, -, -⟩)
      · rfl
      · rw [hstart] at hother
        cases hother
  | false =>
    have herror : (.error error : Except ConfigError (Option Path)) ≠ .ok none := nofun
    simp only [Bool.false_eq_true, if_false]
    rw [firstConfig_eq_iff herror]
    constructor
    · rintro ⟨skipped, directory, rest, hway, hskipped, h⟩
      exact .directory hstart hway hskipped (configIn_eq_error_iff.mp h)
    · rintro (h | ⟨-, hway, hskipped, h⟩)
      · rw [hstart] at h
        cases h
      · exact ⟨_, _, _, hway, hskipped, configIn_eq_error_iff.mpr h⟩

end Surroundings

end NamedGrid
