import NamedGrid.Proofs.DistinctNames
import NamedGrid.Proofs.Shapes

/-!
# Precedence of settings

The settings of a run are laid together from the flags, the environment and the configuration
file and checked afterwards. A value that is no record comes from the upper source that gives it,
and records are laid together field by field, so every setting is read from the first source that
gives it (`ofRun_follows`). For a layout there are two limits: a list in the environment is the
whole layout, so no track of the file is left beside it, and a track that the two sources spell
differently is read under the spelling that comes first.
-/

namespace NamedGrid

namespace Value

/-- A value laid over another, where either may be missing. -/
def laid (base update : Option Value) : Option Value :=
  match update with
  | none => base
  | some value => some ((base.map fun base => overlay base value).getD value)

/-- The value of a named field. What is no record has none. -/
def get? (name : Text) : Value → Option Value
  | record fields => field? fields name
  | _ => none

theorem laid_eq_none_iff {base update : Option Value} :
    laid base update = none ↔ update = none ∧ base = none := by
  cases update <;> simp [laid]

theorem laid_none_left (update : Option Value) : laid none update = update := by
  cases update <;> rfl

theorem nodup_overlayFields {fields : List (Text × Value)} (h : (fields.map Prod.fst).Nodup)
    (updates : List (Text × Value)) : ((overlayFields fields updates).map Prod.fst).Nodup := by
  induction updates generalizing fields with
  | nil => exact h
  | cons update rest ih =>
    rw [overlayFields]
    exact ih (Table.nodup_place h)

/-- Where no update is named twice, each field is overlaid by the update of its name. -/
theorem field?_overlayFields {fields updates : List (Text × Value)}
    (h : (updates.map Prod.fst).Nodup) (name : Text) :
    field? (overlayFields fields updates) name =
      laid (field? fields name) (field? updates name) := by
  induction updates generalizing fields with
  | nil => rfl
  | cons update rest ih =>
    obtain ⟨hnew, hrest⟩ := List.nodup_cons.mp h
    rw [overlayFields, ih hrest]
    simp only [field?_eq_valueOf?, Table.valueOf?_place]
    rw [Table.valueOf?]
    by_cases hname : update.1 = name
    · subst hname
      rw [if_pos rfl, if_pos rfl, Table.valueOf?_eq_none_iff.mpr hnew]
      rfl
    · rw [if_neg hname, if_neg hname]

/-- A value that is no record comes from the upper source if that gives one. -/
theorem laid_eq_or {base update : Option Value}
    (h : ∀ fields, laid base update ≠ some (record fields)) :
    laid base update = update.or base := by
  cases update with
  | none => rfl
  | some value =>
    cases base with
    | none => rfl
    | some base =>
      cases value with
      | record updates =>
        cases base with
        | record fields => exact absurd rfl (h (overlayFields fields updates))
        | _ => exact absurd rfl (h updates)
      | _ => rfl

/-- A record leaves a record, and any other value stays as it is. -/
theorem laid_some_cases {base : Option Value} {update value : Value}
    (h : laid base (some update) = some value) :
    ((∃ updates, update = record updates) ∧ ∃ fields, value = record fields) ∨
      ((∀ updates, update ≠ record updates) ∧ value = update) := by
  have hvalue : (base.map fun base => overlay base update).getD update = value := Option.some.inj h
  cases update with
  | record updates =>
    refine .inl ⟨⟨updates, rfl⟩, ?_⟩
    cases base with
    | none => exact ⟨updates, hvalue.symm⟩
    | some base => cases base <;> exact ⟨_, hvalue.symm⟩
  | _ =>
    refine .inr ⟨nofun, ?_⟩
    cases base <;> exact hvalue.symm

/-- Where the upper value is a record, the fields are overlaid one by one. -/
theorem laid_bind_get? {base update : Option Value}
    (h : ∀ value, update = some value → ∃ fields, value = record fields ∧ value.Distinct)
    (name : Text) :
    (laid base update).bind (get? name) =
      laid (base.bind (get? name)) (update.bind (get? name)) := by
  cases update with
  | none => rfl
  | some value =>
    obtain ⟨updates, rfl, hdistinct⟩ := h value rfl
    have hnodup := (distinct_record_iff.mp hdistinct).nodup
    cases base with
    | none => exact (laid_none_left _).symm
    | some base =>
      cases base with
      | record fields => exact field?_overlayFields hnodup name
      | _ => exact (laid_none_left _).symm

/-- Where a record comes out, the upper value is a record if there is one. -/
theorem record_of_laid {base update : Option Value} {fields : List (Text × Value)}
    (h : laid base update = some (record fields))
    (hupdate : ∀ value, update = some value → value.Distinct) :
    ∀ value, update = some value → ∃ updates, value = record updates ∧ value.Distinct := by
  rintro above rfl
  obtain ⟨⟨updates, rfl⟩, -⟩ | ⟨hother, heq⟩ := laid_some_cases h
  · exact ⟨updates, rfl, hupdate _ rfl⟩
  · exact absurd heq.symm (hother fields)

/-- The fields of a record that comes out are overlaid one by one. -/
theorem field?_of_laid {base update : Option Value} {fields : List (Text × Value)}
    (h : laid base update = some (record fields))
    (hupdate : ∀ value, update = some value → value.Distinct) (name : Text) :
    field? fields name = laid (base.bind (get? name)) (update.bind (get? name)) := by
  rw [← laid_bind_get? (record_of_laid h hupdate), h]
  rfl

end Value

/-! ## Reading -/

namespace Schema

/-- A setting is read from the value that is found for it, or is at its default. -/
def Reads {α : Type} (check : Value → Checked α) (absent : α) (found : Option Value) (a : α) :
    Prop :=
  found.elim (.ok absent) check = .ok a

theorem defaulted_eq_ok_iff {α : Type} {check : Value → Checked α} {absent a : α}
    {fields : List (Text × Value)} {name : Text} :
    defaulted check absent fields name = .ok a ↔
      Reads check absent (Value.field? fields name) a :=
  Checked.within_eq_ok_iff

/-- A setting that is never a record is read from the upper source if that gives it. -/
theorem Reads.of_laid {α : Type} {check : Value → Checked α} {absent a : α}
    {base update : Option Value} (h : Reads check absent (Value.laid base update) a)
    (hcheck : ∀ fields a, check (.record fields) ≠ .ok a) :
    Reads check absent (update.or base) a := by
  rw [← Value.laid_eq_or]
  · exact h
  · intro fields hrecord
    rw [hrecord] at h
    exact hcheck fields a h

theorem truth_record (fields : List (Text × Value)) (b : Bool) :
    truth (.record fields) ≠ .ok b := nofun

theorem optionalText_record (fields : List (Text × Value)) (t : Option Text) :
    optionalText (.record fields) ≠ .ok t := nofun

theorem texts_record (fields : List (Text × Value)) (found : List Text) :
    texts (.record fields) ≠ .ok found := nofun

theorem reads_optionalText_iff {found : Option Value} {t : Option Text} :
    Reads optionalText none found t ↔ found.getD .null = .ofOptionalText t := by
  cases found with
  | none => cases t <;> simp [Reads, Value.ofOptionalText]
  | some value => exact optionalText_eq_ok_iff

end Schema

/-! ## Layouts -/

namespace LayoutEntry

/-- The rows of a layout. -/
def rowTexts : LayoutEntry → List Text
  | rows texts => texts
  | definition texts _ _ => texts

/-- The sizes of the row tracks. -/
def rowSizes : LayoutEntry → Option Text
  | rows _ => none
  | definition _ sizes _ => sizes

/-- The sizes of the column tracks. -/
def colSizes : LayoutEntry → Option Text
  | rows _ => none
  | definition _ _ sizes => sizes

end LayoutEntry

namespace Value

/-- The rows that the value of a layout gives: the value itself or a field of it. -/
def rows? : Value → Option Value
  | list items => some (list items)
  | record fields => field? fields "rows".toList
  | _ => none

/-- What a value gives under the first of some names that it has. -/
def under? (names : List Text) (value : Option Value) : Option Value :=
  names.findSome? fun name => value.bind (get? name)

/-- The lower value has one of some names that comes before all of those that the upper value
has. -/
def Precedes (names : List Text) (lower upper : Option Value) : Prop :=
  (under? names upper).isSome ∧
    ∃ name ∈ names.takeWhile fun name => (upper.bind (get? name)).isNone,
      (lower.bind (get? name)).isSome

theorem under?_cons (name : Text) (names : List Text) (value : Option Value) :
    under? (name :: names) value = (value.bind (get? name)).or (under? names value) := by
  rw [under?, List.findSome?_cons]
  cases value.bind (get? name) <;> rfl

/-- Of names that are overlaid one by one the first is that of the upper source if that has any, as
long as the lower source has none before it. -/
theorem findSome?_laid {names : List Text} {lower upper : Option Value}
    (h : ∀ fields, (names.findSome? fun name =>
      laid (lower.bind (get? name)) (upper.bind (get? name))) ≠ some (record fields))
    (hprecedes : ¬Precedes names lower upper) :
    (names.findSome? fun name => laid (lower.bind (get? name)) (upper.bind (get? name))) =
      (under? names upper).or (under? names lower) := by
  induction names with
  | nil => rfl
  | cons name names ih =>
    rw [List.findSome?_cons] at h ⊢
    rw [under?_cons, under?_cons]
    cases hupper : upper.bind (get? name) with
    | some value =>
      rw [hupper] at h
      have hvalue : laid (lower.bind (get? name)) (some value) = some value := by
        have hor := @laid_eq_or (lower.bind (get? name)) (some value) h
        rwa [Option.some_or] at hor
      rw [hvalue]
      rfl
    | none =>
      rw [hupper] at h
      cases hlower : lower.bind (get? name) with
      | some value =>
        cases hunder : under? names upper with
        | none => rfl
        | some first =>
          refine absurd ⟨?_, name, ?_, by rw [hlower]; rfl⟩ hprecedes
          · rw [under?_cons, hupper, Option.none_or, hunder]
            rfl
          · rw [List.takeWhile_cons_of_pos (by rw [hupper]; rfl)]
            exact List.mem_cons_self
      | none =>
        rw [hlower] at h
        refine ih h fun ⟨hunder, other, hother, hlowerOther⟩ =>
          hprecedes ⟨?_, other, ?_, hlowerOther⟩
        · rwa [under?_cons, hupper, Option.none_or]
        · rw [List.takeWhile_cons_of_pos (by rw [hupper]; rfl)]
          exact List.mem_cons_of_mem _ hother

end Value

/-- What a layout takes from two sources. -/
structure LayoutEntry.Follows (entry : LayoutEntry) (lower upper : Option Value) : Prop where
  /-- The rows are those of the upper source if it gives any. -/
  rows : (upper.bind Value.rows?).or (lower.bind Value.rows?) =
    some (.list (entry.rowTexts.map .text))
  /-- A list in the upper source is the whole layout. -/
  sizes_of_list : ∀ items, upper = some (.list items) →
    entry.rowSizes = none ∧ entry.colSizes = none
  /-- Else the row tracks are those of the upper source if it gives any. -/
  rowSizes : (∀ items, upper ≠ some (.list items)) → ¬Value.Precedes rowTrackNames lower upper →
    Schema.Reads Schema.optionalText none
      ((Value.under? rowTrackNames upper).or (Value.under? rowTrackNames lower)) entry.rowSizes
  /-- Else the column tracks are those of the upper source if it gives any. -/
  colSizes : (∀ items, upper ≠ some (.list items)) → ¬Value.Precedes colTrackNames lower upper →
    Schema.Reads Schema.optionalText none
      ((Value.under? colTrackNames upper).or (Value.under? colTrackNames lower)) entry.colSizes

theorem Schema.optionalUnder_laid {fields : List (Text × Value)} {names : List Text}
    {lower upper : Option Value} {t : Option Text} (h : optionalUnder fields names = .ok t)
    (hfields : ∀ name, Value.field? fields name =
      Value.laid (lower.bind (Value.get? name)) (upper.bind (Value.get? name)))
    (hprecedes : ¬Value.Precedes names lower upper) :
    Reads optionalText none ((Value.under? names upper).or (Value.under? names lower)) t := by
  rw [optionalUnder_eq_ok_iff, funext hfields] at h
  have hreads := reads_optionalText_iff.mpr h
  rw [Value.findSome?_laid ?_ hprecedes] at hreads
  · exact hreads
  · intro record hrecord
    rw [hrecord] at hreads
    exact optionalText_record record t hreads

/-- A layout of valid shape that was laid together from two sources follows both. -/
theorem LayoutEntry.follows_of_laid {lower upper : Option Value} {value : Value}
    {entry : LayoutEntry} (hupper : ∀ value, upper = some value → value.Distinct)
    (hvalue : Value.laid lower upper = some value) (h : ofValue value = .ok entry) :
    entry.Follows lower upper := by
  rcases ofValue_cases h with ⟨texts, rfl, rfl⟩ |
    ⟨fields, texts, rowTracks, colTracks, rfl, hrows, hrowTracks, hcolTracks, rfl⟩
  · cases upper with
    | none =>
      have hlower : lower = some (.list (texts.map .text)) := hvalue
      subst hlower
      exact ⟨rfl, nofun, fun _ _ => rfl, fun _ _ => rfl⟩
    | some above =>
      obtain ⟨-, _, hrecord⟩ | ⟨-, rfl⟩ := Value.laid_some_cases hvalue
      · cases hrecord
      · exact ⟨rfl, fun _ _ => ⟨rfl, rfl⟩, fun hlist => absurd rfl (hlist _),
          fun hlist => absurd rfl (hlist _)⟩
  · have hrecord := Value.record_of_laid hvalue hupper
    have hfields := Value.field?_of_laid hvalue hupper
    refine ⟨?_, fun items hitems => ?_, fun _ hprecedes => ?_, fun _ hprecedes => ?_⟩
    · have hlaid := (hfields "rows".toList).symm.trans hrows
      rw [Value.laid_eq_or (by rw [hlaid]; exact nofun)] at hlaid
      have habove : upper.bind Value.rows? = upper.bind (Value.get? "rows".toList) := by
        cases upper with
        | none => rfl
        | some above =>
          obtain ⟨_, rfl, -⟩ := hrecord above rfl
          rfl
      rw [habove]
      cases hgiven : upper.bind (Value.get? "rows".toList) with
      | some given => rwa [hgiven] at hlaid
      | none =>
        rw [hgiven, Option.none_or] at hlaid
        obtain ⟨below, rfl, hbelow⟩ := Option.bind_eq_some_iff.mp hlaid
        cases below with
        | record _ => exact hlaid
        | _ => cases hbelow
    · obtain ⟨_, hlist, -⟩ := hrecord _ hitems
      cases hlist
    · exact Schema.optionalUnder_laid hrowTracks hfields hprecedes
    · exact Schema.optionalUnder_laid hcolTracks hfields hprecedes

/-! ## Sections -/

namespace Value

theorem laid_distinct {base update : Option Value}
    (hbase : ∀ value, base = some value → value.Distinct)
    (hupdate : ∀ value, update = some value → value.Distinct) :
    ∀ value, laid base update = some value → value.Distinct := by
  cases update with
  | none => exact hbase
  | some above =>
    rintro _ ⟨⟩
    cases base with
    | none => exact hupdate above rfl
    | some below => exact (hbase below rfl).overlay (hupdate above rfl)

theorem Distinct.get? {name : Text} : ∀ {value : Option Value},
    (∀ v, value = some v → v.Distinct) → ∀ v, value.bind (get? name) = some v → v.Distinct := by
  intro value h v hv
  obtain ⟨whole, rfl, hfield⟩ := Option.bind_eq_some_iff.mp hv
  cases whole with
  | record fields =>
    rw [Value.get?, field?_eq_valueOf?] at hfield
    exact (distinct_record_iff.mp (h _ rfl)).of_valueOf? hfield
  | _ => cases hfield

end Value

namespace Checked

variable {α β : Type} {check : α → Checked β} {fields : List (Text × α)}
  {found : List (Text × β)}

theorem each_cons_eq_ok_iff {name : Text} {a : α} :
    each check ((name, a) :: fields) = .ok found ↔
      ∃ b rest, check a = .ok b ∧ each check fields = .ok rest ∧ found = (name, b) :: rest := by
  rw [each, map_eq_ok_iff]
  constructor
  · rintro ⟨⟨b, rest⟩, hboth, rfl⟩
    obtain ⟨hb, hrest⟩ := both_eq_ok_iff.mp hboth
    exact ⟨b, rest, within_eq_ok_iff.mp hb, hrest, rfl⟩
  · rintro ⟨b, rest, hb, hrest, rfl⟩
    exact ⟨(b, rest), both_eq_ok_iff.mpr ⟨within_eq_ok_iff.mpr hb, hrest⟩, rfl⟩

theorem keys_of_each (h : each check fields = .ok found) :
    found.map Prod.fst = fields.map Prod.fst := by
  induction fields generalizing found with
  | nil =>
    cases h
    rfl
  | cons field fields ih =>
    obtain ⟨b, rest, -, hrest, rfl⟩ := each_cons_eq_ok_iff.mp h
    rw [List.map_cons, List.map_cons, ih hrest]

/-- What is found under a name is what the value of that name stands for. -/
theorem valueOf?_each (h : each check fields = .ok found) (name : Text) :
    (Table.valueOf? name fields).map check = (Table.valueOf? name found).map .ok := by
  induction fields generalizing found with
  | nil =>
    cases h
    rfl
  | cons field fields ih =>
    obtain ⟨b, rest, hb, hrest, rfl⟩ := each_cons_eq_ok_iff.mp h
    rw [Table.valueOf?, Table.valueOf?]
    by_cases hname : field.1 = name
    · rw [if_pos hname, if_pos hname, Option.map_some, Option.map_some, hb]
    · rw [if_neg hname, if_neg hname, ih hrest]

end Checked

variable {lower upper : Option Value}

/-- Layouts that were laid together from two sources are those of both, each of which follows
both. -/
theorem Schema.layouts_of_laid {layouts : Table Text LayoutEntry}
    (hlower : ∀ value, lower = some value → value.Distinct)
    (hupper : ∀ value, upper = some value → value.Distinct)
    (h : Reads Schema.layouts .empty (Value.laid lower upper) layouts) (name : Text) :
    (layouts.get? name = none ↔
        upper.bind (Value.get? name) = none ∧ lower.bind (Value.get? name) = none) ∧
      ∀ entry, layouts.get? name = some entry →
        entry.Follows (lower.bind (Value.get? name)) (upper.bind (Value.get? name)) := by
  cases hlaid : Value.laid lower upper with
  | none =>
    obtain ⟨rfl, rfl⟩ := Value.laid_eq_none_iff.mp hlaid
    cases h
    exact ⟨iff_of_true rfl ⟨rfl, rfl⟩, nofun⟩
  | some value =>
    rw [hlaid] at h
    cases value with
    | record fields =>
      obtain ⟨found, hfound, rfl⟩ := Checked.map_eq_ok_iff.mp h
      have hnodup := (Value.distinct_record_iff.mp
        (Value.laid_distinct hlower hupper _ hlaid)).nodup
      have hget : (Table.ofList found).get? name = Table.valueOf? name found :=
        Table.get?_ofList (by rwa [Checked.keys_of_each hfound]) name
      have heach := Checked.valueOf?_each hfound name
      rw [← Value.field?_eq_valueOf?, Value.field?_of_laid hlaid hupper] at heach
      rw [hget]
      refine ⟨?_, fun entry hentry => ?_⟩
      · rw [← Value.laid_eq_none_iff, ← Option.map_eq_none_iff (f := LayoutEntry.ofValue), heach,
          Option.map_eq_none_iff]
      · rw [hentry] at heach
        obtain ⟨given, hgiven, hvalid⟩ := Option.map_eq_some_iff.mp heach
        exact LayoutEntry.follows_of_laid (Value.Distinct.get? hupper) hgiven hvalid
    | _ => cases h

/-- Build settings that were laid together from two sources are those of the upper source where it
gives them. -/
theorem BuildSettings.of_laid {build : BuildSettings}
    (hupper : ∀ value, upper = some value → value.Distinct)
    (h : Schema.Reads BuildSettings.ofValue .default (Value.laid lower upper) build) :
    Schema.Reads Schema.optionalText none
        ((upper.bind (Value.get? "output".toList)).or (lower.bind (Value.get? "output".toList)))
        build.output ∧
      Schema.Reads Schema.texts []
        ((upper.bind (Value.get? "content".toList)).or (lower.bind (Value.get? "content".toList)))
        build.content := by
  cases hlaid : Value.laid lower upper with
  | none =>
    obtain ⟨rfl, rfl⟩ := Value.laid_eq_none_iff.mp hlaid
    rw [hlaid] at h
    cases h
    exact ⟨rfl, rfl⟩
  | some value =>
    rw [hlaid] at h
    cases value with
    | record fields =>
      obtain ⟨⟨output, content⟩, hfound, rfl⟩ := Checked.map_eq_ok_iff.mp h
      obtain ⟨houtput, hcontent⟩ := Checked.both_eq_ok_iff.mp hfound
      rw [Schema.defaulted_eq_ok_iff, Value.field?_of_laid hlaid hupper] at houtput hcontent
      exact ⟨houtput.of_laid Schema.optionalText_record, hcontent.of_laid Schema.texts_record⟩
    | _ => cases h

/-! ## Runs -/

/-- The switches with their names. -/
def Switches.named (switches : Switches) : List (Text × Bool) :=
  Environment.switchNames.zip
    [switches.jsonOutput, switches.quiet, switches.verbose, switches.logJson]

/-- The field of a part of a source. -/
def Value.inner? (part name : Text) (source : Value) : Option Value :=
  (source.get? part).bind (get? name)

/-- Settings that are taken from flags, from the environment and from a file, each value from the
first of them that gives it. The file gives no switches and the flags nothing else. -/
structure Settings.Follows (settings : Settings) (flags environment file : Value) : Prop where
  switches : ∀ switch ∈ settings.switches.named,
    Schema.Reads Schema.truth false
      ((flags.get? switch.1).or (environment.get? switch.1)) switch.2
  output : Schema.Reads Schema.optionalText none
    ((environment.inner? "build".toList "output".toList).or
      (file.inner? "build".toList "output".toList)) settings.build.output
  content : Schema.Reads Schema.texts []
    ((environment.inner? "build".toList "content".toList).or
      (file.inner? "build".toList "content".toList)) settings.build.content
  /-- There is a layout where the environment or the file gives one. -/
  names : ∀ name, settings.layouts.get? name = none ↔
    environment.inner? "layouts".toList name = none ∧ file.inner? "layouts".toList name = none
  layouts : ∀ name entry, settings.layouts.get? name = some entry →
    entry.Follows (file.inner? "layouts".toList name) (environment.inner? "layouts".toList name)

namespace Settings

/-- Settings of valid shape are read from the fields of their names. -/
theorem reads_of_check {root : Path} {file : Option Path} {fields : List (Text × Value)}
    {settings : Settings} (h : check root file fields = .ok settings) :
    settings.configFile = file ∧
      (∀ switch ∈ settings.switches.named,
        Schema.Reads Schema.truth false (Value.field? fields switch.1) switch.2) ∧
      Schema.Reads Schema.layouts .empty (Value.field? fields "layouts".toList)
        settings.layouts ∧
      Schema.Reads BuildSettings.ofValue .default (Value.field? fields "build".toList)
        settings.build := by
  obtain ⟨⟨jsonOutput, quiet, verbose, logJson, layouts, build, _⟩, hall, rfl⟩ :=
    Checked.map_eq_ok_iff.mp h
  simp only [Checked.both_eq_ok_iff, Schema.defaulted_eq_ok_iff] at hall
  obtain ⟨hjson, hquiet, hverbose, hlog, hlayouts, hbuild, -⟩ := hall
  refine ⟨rfl, ?_, hlayouts, hbuild⟩
  simp only [Switches.named, Environment.switchNames, List.zip_cons_cons, List.zip_nil_right,
    List.forall_mem_cons]
  exact ⟨hjson, hquiet, hverbose, hlog, nofun⟩

theorem field?_configSections {data : Value} {sections : List (Text × Value)}
    (h : configSections data = .ok sections) (name : Text) :
    Value.field? sections name = if name ∈ sectionNames then data.get? name else none := by
  unfold configSections at h
  split at h
  · cases h
    rw [Value.field?, find?_named]
    split
    · rw [Option.map_map]
      exact congrFun Option.map_id _
    · rfl
  · rename_i hother
    split at h
    · cases h
      cases data with
      | record fields => exact absurd rfl (hother fields)
      | _ => exact (ite_self none).symm
    · cases h

/-- What is found for a setting: the flags lie over the environment, and both over the file. -/
theorem field?_merged {flags environment sections : List (Text × Value)}
    (hflags : (flags.map Prod.fst).Nodup) (henvironment : (environment.map Prod.fst).Nodup)
    (name : Text) :
    Value.field? (merged [flags, environment, sections]) name =
      Value.laid (Value.field? sections name)
        (Value.laid (Value.field? environment name) (Value.field? flags name)) := by
  have hmerged : merged [flags, environment, sections] =
      Value.overlayFields sections (Value.overlayFields environment flags) := rfl
  rw [hmerged, Value.field?_overlayFields (Value.nodup_overlayFields henvironment flags),
    Value.field?_overlayFields hflags]

/-- Flags are given under their own names, each once. -/
theorem spelled_flags {given : List (Text × Value)}
    (h : ∀ field ∈ given, field.1 ∈ Environment.switchNames) :
    ((spelled given).map Prod.fst).Nodup ∧
      ∀ name ∈ names, Value.field? (spelled given) name = Value.field? given name := by
  have hlowered : ∀ name ∈ Environment.switchNames, Text.lowered name = name ∧ name ∈ names := by
    decide
  have hsettings : spelled given =
      names.filterMap fun name => (given? given name).map fun value => (name, value) := by
    rw [spelled, List.filter_eq_nil_iff.mpr, List.append_nil]
    intro field hfield
    obtain ⟨hlower, hname⟩ := hlowered field.1 (h field hfield)
    simp [hlower, hname]
  refine ⟨?_, fun name hname => ?_⟩
  · rw [hsettings]
    exact (keyed_filterMap (P := fun _ => True) (by decide) fun _ _ _ _ => trivial).nodup
  · rw [field?_spelled hname, given?]
    cases hfield : Value.field? given name with
    | some value => rfl
    | none =>
      have hother : ∀ field ∈ given, Text.lowered field.1 ≠ name := by
        intro field hmem hlower
        rw [(hlowered field.1 (h field hmem)).1] at hlower
        rw [Value.field?_eq_valueOf?, Table.valueOf?_eq_none_iff] at hfield
        exact hfield (hlower ▸ List.mem_map_of_mem hmem)
      rw [List.find?_eq_none.mpr (by simpa using hother)]
      rfl

/-- The configuration file of a run: the one that is named, or else the one that is found. -/
def chosenFile (around : Surroundings) (configPath : Option Text) (start : Option Path) :
    Except ConfigError (Option Path) :=
  match configPath with
  | some (c :: rest) => around.file? (Path.ofText (c :: rest))
  | _ => around.findConfig start

/-- A run chooses its file first and is loaded then, unless it is given what it is told anyway. -/
theorem ofRun_eq (around : Surroundings) (configPath : Option Text) (start : Option Path)
    (given : List (Text × Value)) :
    ofRun around configPath start given =
      if given.any fun field => takenNames.contains field.1 then .error .taken
      else (chosenFile around configPath start).mapError .config >>= fun file =>
        load around file ((start <|> file.map Path.parent).getD (Path.ofLocation around.cwd))
          (spelled given) := by
  by_cases htaken : (given.any fun field => takenNames.contains field.1) = true
  · simp only [ofRun, htaken, if_true]
    rfl
  · simp only [ofRun, htaken, Bool.false_eq_true, if_false]
    rcases configPath with _ | _ | ⟨c, rest⟩ <;> rfl

/-- The settings of a run are checked as they are merged from the flags, the environment and the
file. -/
theorem exists_sources {around : Surroundings} {configPath : Option Text} {start : Option Path}
    {given : List (Text × Value)} {settings : Settings}
    (h : ofRun around configPath start given = .ok settings) :
    ∃ root file data environment sections,
      chosenFile around configPath start = .ok file ∧
      around.configData file = .ok data ∧
      Environment.settings around.environment = .ok environment ∧
      configSections data = .ok sections ∧
      check root file (merged [spelled given, environment, sections]) = .ok settings := by
  rw [ofRun_eq] at h
  split at h
  · cases h
  obtain ⟨file, hfile, hload⟩ := bind_eq_ok_iff.mp h
  unfold load at hload
  obtain ⟨data, hdata, hload⟩ := bind_eq_ok_iff.mp hload
  obtain ⟨environment, henvironment, hload⟩ := bind_eq_ok_iff.mp hload
  obtain ⟨sections, hsections, hload⟩ := bind_eq_ok_iff.mp hload
  exact ⟨_, file, data, environment, sections, mapError_eq_ok_iff.mp hfile,
    mapError_eq_ok_iff.mp hdata, mapError_eq_ok_iff.mp henvironment,
    mapError_eq_ok_iff.mp hsections, mapError_eq_ok_iff.mp hload⟩

end Settings

/-- **Where the settings of a run come from.** If a run that is given flags has settings, then each
switch is that of the flags if they give it, or else that of the environment; the parts of a build
and the layouts are those of the environment where it gives them, and else those of the file that
is named or found; and what no source gives is at its default. -/
theorem ofRun_follows {around : Surroundings} {configPath : Option Text} {start : Option Path}
    {given : List (Text × Value)} (hgiven : ∀ field ∈ given, field.1 ∈ Environment.switchNames)
    {settings : Settings} (h : Settings.ofRun around configPath start given = .ok settings) :
    ∃ environment data,
      Environment.settings around.environment = .ok environment ∧
      Settings.chosenFile around configPath start = .ok settings.configFile ∧
      around.configData settings.configFile = .ok data ∧
      settings.Follows (.record given) (.record environment) data := by
  obtain ⟨root, file, data, environment, sections, hfile, hdata, henvironment, hsections, hcheck⟩ :=
    Settings.exists_sources h
  obtain ⟨rfl, hswitches, hlayouts, hbuild⟩ := Settings.reads_of_check hcheck
  refine ⟨environment, data, henvironment, hfile, hdata, ?_⟩
  have hkeyed := Environment.settings_distinct around.environment environment henvironment
  have hdistinct := around.configData_distinct settings.configFile data hdata
  obtain ⟨hnodup, hflags⟩ := Settings.spelled_flags hgiven
  have hmerged := @Settings.field?_merged _ _ sections hnodup hkeyed.nodup
  have hpart : ∀ part ∈ sectionNames,
      Value.field? (Settings.merged [Settings.spelled given, environment, sections]) part =
        Value.laid (data.get? part) (Value.field? environment part) := by
    intro part hpart
    have hnames : ∀ part ∈ sectionNames, part ∈ Settings.names ∧
        part ∉ Environment.switchNames := by decide
    obtain ⟨hname, hswitch⟩ := hnames part hpart
    have hnone : Value.field? given part = none := by
      rw [Value.field?_eq_valueOf?, Table.valueOf?_eq_none_iff]
      intro hmem
      obtain ⟨field, hfield, rfl⟩ := List.mem_map.mp hmem
      exact hswitch (hgiven field hfield)
    rw [hmerged, hflags part hname, hnone, Settings.field?_configSections hsections, if_pos hpart]
    rfl
  have hlower : ∀ part value, data.get? part = some value → value.Distinct := fun part =>
    @Value.Distinct.get? part (some data) (by rintro _ ⟨⟩; exact hdistinct)
  have hupper : ∀ part value, Value.field? environment part = some value → value.Distinct :=
    fun part value hvalue => hkeyed.of_valueOf? (Value.field?_eq_valueOf? .. ▸ hvalue)
  rw [hpart _ (by decide)] at hlayouts hbuild
  have hall := Schema.layouts_of_laid (hlower _) (hupper _) hlayouts
  obtain ⟨houtput, hcontent⟩ := BuildSettings.of_laid (hupper _) hbuild
  refine ⟨fun switch hswitch => ?_, houtput, hcontent, fun name => (hall name).1,
    fun name => (hall name).2⟩
  have hnames : ∀ name ∈ Environment.switchNames, name ∈ Settings.names ∧
      name ∉ sectionNames := by decide
  obtain ⟨hname, hsection⟩ := hnames switch.1 (List.of_mem_zip hswitch).1
  have hread := hswitches switch hswitch
  rw [hmerged, hflags _ hname, Settings.field?_configSections hsections, if_neg hsection,
    Value.laid_none_left] at hread
  exact hread.of_laid Schema.truth_record

/-- A working directory with a configuration file of some lines, and some variables. -/
def surroundingsOf (lines : List String) (environment : List (String × String)) :
    Surroundings where
  tree := ⟨Table.ofList [([configFileName],
    .file (Utf8.encode (lines.flatMap fun line => line.toList ++ ['\n'])))]⟩
  cwd := []
  environment := Table.ofList (environment.map fun v => (v.1.toList, v.2.toList))

/-- Settings that come from all sources. -/
def layeredSurroundings : Surroundings :=
  surroundingsOf
    ["[build]", "output = 'file.css'", "content = ['*.html']", "[layouts.page]", "rows = ['x']",
      "row_tracks = '1fr'", "col_tracks = '9rem'"]
    [("GRIDAREAS_QUIET", "false"), ("GRIDAREAS_VERBOSE", "true"),
      ("GRIDAREAS_BUILD__OUTPUT", "env.css"),
      ("GRIDAREAS_LAYOUTS__page__row_tracks", "2fr")]

/-- The flag stands above the variable, and the variables stand above the file, value by value. -/
theorem ofRun_follows_layered :
    let flags := [("quiet".toList, Value.bool true)]
    ∃ settings environment data,
      Settings.ofRun layeredSurroundings none none flags = .ok settings ∧
      settings.Follows (.record flags) (.record environment) data ∧
      settings.switches = ⟨false, true, true, false⟩ ∧
      settings.build = ⟨some "env.css".toList, ["*.html".toList]⟩ ∧
      settings.layouts.get? "page".toList =
        some (.definition ["x".toList] (some "2fr".toList) (some "9rem".toList)) := by
  intro flags
  obtain ⟨settings, hrun, hvalues⟩ := @exists_of_any _ _
    (Settings.ofRun layeredSurroundings none none flags)
    (fun settings => settings.switches = ⟨false, true, true, false⟩ ∧
      settings.build = ⟨some "env.css".toList, ["*.html".toList]⟩ ∧
      settings.layouts.get? "page".toList =
        some (.definition ["x".toList] (some "2fr".toList) (some "9rem".toList))) _
    (by decide +kernel)
  obtain ⟨environment, data, -, -, -, hfollows⟩ := ofRun_follows (by decide) hrun
  exact ⟨settings, environment, data, hrun, hfollows, hvalues⟩

/-- A file that turns a switch on and gives a layout with a track, and a variable that gives the
layout as a list. -/
def listedSurroundings : Surroundings :=
  surroundingsOf ["quiet = true", "[layouts.page]", "rows = ['x']", "row_tracks = '1fr'"]
    [("GRIDAREAS_LAYOUTS__page", "[\"a b\"]")]

/-- Only the file gives the switch and the track, but the switch is off and the layout has no track:
a file has no switches, and a list is a whole layout. -/
theorem ofRun_drops_sizes :
    ∃ settings environment data,
      Settings.ofRun listedSurroundings none none [] = .ok settings ∧
      Environment.settings listedSurroundings.environment = .ok environment ∧
      listedSurroundings.configData settings.configFile = .ok data ∧
      ((Value.record environment).get? "quiet".toList).isNone = true ∧
      ((data.get? "quiet".toList).any fun value => value matches .bool true) = true ∧
      settings.switches.quiet = false ∧
      (Value.under? rowTrackNames
        ((Value.record environment).inner? "layouts".toList "page".toList)).isNone = true ∧
      (Value.under? rowTrackNames
        (data.inner? "layouts".toList "page".toList)).bind Value.text? = some "1fr".toList ∧
      ∃ entry, settings.layouts.get? "page".toList = some entry ∧ entry.rowSizes = none := by
  obtain ⟨settings, hrun, hquiet, hlayout, hfile⟩ := @exists_of_any _ _
    (Settings.ofRun listedSurroundings none none [])
    (fun settings => settings.switches.quiet = false ∧
      settings.layouts.get? "page".toList = some (.rows ["a b".toList]) ∧
      (listedSurroundings.configData settings.configFile).toOption.any (fun data =>
        ((data.get? "quiet".toList).any fun value => value matches .bool true) = true ∧
        (Value.under? rowTrackNames
          (data.inner? "layouts".toList "page".toList)).bind Value.text? = some "1fr".toList)) _
    (by decide +kernel)
  obtain ⟨data, hdata, hswitch, htrack⟩ := exists_of_any hfile
  obtain ⟨environment, henvironment, hnone, hlist⟩ := @exists_of_any _ _
    (Environment.settings listedSurroundings.environment)
    (fun environment => ((Value.record environment).get? "quiet".toList).isNone = true ∧
      (Value.under? rowTrackNames
        ((Value.record environment).inner? "layouts".toList "page".toList)).isNone = true) _
    (by decide +kernel)
  exact ⟨settings, environment, data, hrun, henvironment, hdata, hnone, hswitch, hquiet, hlist,
    htrack, _, hlayout, rfl⟩

end NamedGrid
