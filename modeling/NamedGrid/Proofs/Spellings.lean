import NamedGrid.Proofs.Faults
import NamedGrid.Proofs.Shapes

/-!
# Spellings of a track

A layout reaches generation on two ways. A plugin hands over the record itself, of which the
first spelling of a track counts that is not null. A configured record is checked before and
written out again with canonical names, and there the first spelling counts that is present.
The two give the same layout unless a null stands in front of a size.
-/

namespace NamedGrid

/-- In a record the first of some names that is present is null, and another one is not. -/
def Value.HidesBehindNull (names : List Text) : Value → Prop
  | .record fields =>
    names.findSome? (field? fields) = some .null ∧
      ∃ name ∈ names, ∃ value, field? fields name = some value ∧ value ≠ .null
  | _ => False

namespace Layout

variable {fields : List (Text × Value)}

/-- No name counts exactly if all that are present are null. -/
theorem firstPresent_eq_none_iff {names : List Text} :
    firstPresent fields names = none ↔
      ∀ name ∈ names, ∀ value, Value.field? fields name = some value → value = .null := by
  induction names with
  | nil => simp [firstPresent]
  | cons name names ih =>
    rw [List.forall_mem_cons, ← ih, firstPresent]
    cases Value.field? fields name with
    | none => simp
    | some value => cases value <;> simp

/-- A track that is checked is the one that counts, unless a null hides it. -/
theorem firstPresent_eq_iff {names : List Text} {t : Option Text}
    (h : Schema.optionalUnder fields names = .ok t) :
    firstPresent fields names = t ↔ ¬(Value.record fields).HidesBehindNull names := by
  rw [Schema.optionalUnder_eq_ok_iff] at h
  cases t with
  | none =>
    -- Nothing was checked but a null, if anything was.
    have hfound : ∀ name ∈ names, ∀ value, Value.field? fields name = some value →
        names.findSome? (Value.field? fields) = some .null := by
      intro name hname value hvalue
      cases hfirst : names.findSome? (Value.field? fields) with
      | none => exact nomatch (List.findSome?_eq_none_iff.mp hfirst name hname).symm.trans hvalue
      | some first =>
        rw [hfirst] at h
        exact congrArg some h
    rw [firstPresent_eq_none_iff]
    constructor
    · rintro hall ⟨-, name, hname, value, hvalue, hne⟩
      exact hne (hall name hname value hvalue)
    · intro hshown name hname value hvalue
      by_contra hne
      exact hshown ⟨hfound name hname value hvalue, name, hname, value, hvalue, hne⟩
  | some s =>
    have hfirst : names.findSome? (Value.field? fields) = some (.text s) := by
      cases hfirst : names.findSome? (Value.field? fields) with
      | none =>
        rw [hfirst] at h
        cases h
      | some first =>
        rw [hfirst] at h
        exact congrArg some h
    have hshown : ¬(Value.record fields).HidesBehindNull names := by
      rintro ⟨hnull, -⟩
      cases hnull.symm.trans hfirst
    refine iff_of_true ?_ hshown
    clear h hshown
    induction names with
    | nil => cases hfirst
    | cons name names ih =>
      rw [List.findSome?_cons] at hfirst
      rw [firstPresent]
      cases hvalue : Value.field? fields name with
      | none =>
        rw [hvalue] at hfirst
        exact ih hfirst
      | some value =>
        rw [hvalue] at hfirst
        obtain rfl := Option.some.inj hfirst
        rfl

/-- A record with rows of text configures a layout. -/
theorem ofValue_record {rows : List Text}
    (h : Value.field? fields "rows".toList = some (.list (rows.map .text))) (name : Text) :
    ofValue name (.record fields) =
      .ok ⟨name, rows, firstPresent fields rowTrackNames, firstPresent fields colTrackNames⟩ := by
  rw [ofValue, h, Option.getD_some, rowsOf, rowTexts_map_text]
  rfl

/-- An entry configures a layout of its own rows and tracks. -/
theorem ofValue_toValue_definition (name : Text) (rows : List Text)
    (rowTracks colTracks : Option Text) :
    ofValue name (LayoutEntry.definition rows rowTracks colTracks).toValue =
      .ok ⟨name, rows, rowTracks, colTracks⟩ := by
  rw [LayoutEntry.toValue, ofValue_record rfl]
  cases rowTracks <;> cases colTracks <;> rfl

end Layout

/-- **A layout of a plugin and a configured one.** If a value is a valid configuration of a
layout, a layout is made of the value itself and of the entry it is checked to be, under every
name. Both have this name and the same rows. They have the same row tracks exactly unless a
null hides the spelling of the row tracks, and so for the column tracks. -/
theorem ofSource_toValue_iff {value : Value} {entry : LayoutEntry}
    (h : LayoutEntry.ofValue value = .ok entry) (name : Text) :
    ∃ given configured : Layout,
      Layout.ofSource name (.raw value) = .ok given ∧
      Layout.ofSource name (.raw entry.toValue) = .ok configured ∧
      given.name = configured.name ∧ given.rows = configured.rows ∧
      (given.rowTracks = configured.rowTracks ↔ ¬value.HidesBehindNull rowTrackNames) ∧
      (given.colTracks = configured.colTracks ↔ ¬value.HidesBehindNull colTrackNames) := by
  rcases LayoutEntry.ofValue_cases h with ⟨rows, rfl, rfl⟩ |
    ⟨fields, rows, rowTracks, colTracks, rfl, hrows, hrowTracks, hcolTracks, rfl⟩
  · have hlist : Layout.ofValue name (.list (rows.map .text)) = .ok ⟨name, rows, none, none⟩ := by
      rw [Layout.ofValue, Layout.rowsOf, Layout.rowTexts_map_text]
      · rfl
      · rintro _ ⟨⟩
    exact ⟨_, _, hlist, hlist, rfl, rfl, iff_of_true rfl not_false, iff_of_true rfl not_false⟩
  · exact ⟨_, _, Layout.ofValue_record hrows name,
      Layout.ofValue_toValue_definition name rows rowTracks colTracks, rfl, rfl,
      Layout.firstPresent_eq_iff hrowTracks, Layout.firstPresent_eq_iff hcolTracks⟩

/-- A layout whose row tracks are null under one spelling and a size under another, while the
null of its column tracks comes behind the size. -/
def nullTracks : Value :=
  .record
    [("rows".toList, .list [.text "head main".toList]),
      ("grid-template-rows".toList, .null), ("gridTemplateRows".toList, .text "1fr".toList),
      ("gridTemplateColumns".toList, .null), ("col_tracks".toList, .text "2fr".toList)]

/-- The entry that is checked keeps the size of the columns only. -/
theorem ofSource_toValue_iff_nullTracks :
    let entry := LayoutEntry.definition ["head main".toList] none (some "2fr".toList)
    LayoutEntry.ofValue nullTracks = .ok entry ∧
      ∃ given configured : Layout,
        Layout.ofSource "page".toList (.raw nullTracks) = .ok given ∧
        Layout.ofSource "page".toList (.raw entry.toValue) = .ok configured ∧
        given.rows = configured.rows ∧ given.colTracks = configured.colTracks ∧
        given.rowTracks ≠ configured.rowTracks := by
  have hentry : LayoutEntry.ofValue nullTracks =
      .ok (.definition ["head main".toList] none (some "2fr".toList)) := by rfl
  obtain ⟨given, configured, hgiven, hconfigured, -, hrows, hrowTracks, hcolTracks⟩ :=
    ofSource_toValue_iff hentry "page".toList
  refine ⟨hentry, given, configured, hgiven, hconfigured, hrows, hcolTracks.mpr ?_, ?_⟩
  · rintro ⟨hnull, -⟩
    cases hnull
  · rw [Ne, hrowTracks, not_not]
    exact ⟨rfl, "gridTemplateRows".toList, by decide, .text "1fr".toList, rfl, nofun⟩

/-- The row tracks that a plugin gives so are missing where they are configured. -/
theorem ofSource_toValue_ne :
    ∃ (entry : LayoutEntry) (given configured : Layout),
      LayoutEntry.ofValue nullTracks = .ok entry ∧
      Layout.ofSource "page".toList (.raw nullTracks) = .ok given ∧
      Layout.ofSource "page".toList (.raw entry.toValue) = .ok configured ∧
      given.rowTracks = some "1fr".toList ∧ configured.rowTracks = none ∧ given ≠ configured :=
  ⟨.definition ["head main".toList] none (some "2fr".toList),
    ⟨"page".toList, ["head main".toList], some "1fr".toList, some "2fr".toList⟩,
    ⟨"page".toList, ["head main".toList], none, some "2fr".toList⟩, rfl, rfl, rfl, rfl, rfl,
    by decide⟩

end NamedGrid
