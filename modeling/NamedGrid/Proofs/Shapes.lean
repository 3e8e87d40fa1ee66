import NamedGrid.Project.Schema
import NamedGrid.Proofs.Basic

/-!
# Values of valid shape

A check that succeeds says what the value is. Texts are read back from what they were read
as, a layout is a list of texts or a record with one, and of the names of a track the first
that is present is the one that is checked.
-/

namespace NamedGrid

namespace Checked

variable {α β : Type}

theorem within_eq_ok_iff {step : Text} {checked : Checked α} {a : α} :
    checked.within step = .ok a ↔ checked = .ok a := by
  cases checked <;> simp [within]

theorem both_eq_ok_iff {first : Checked α} {second : Checked β} {found : α × β} :
    both first second = .ok found ↔ first = .ok found.1 ∧ second = .ok found.2 := by
  cases first <;> cases second <;> simp [both, Prod.ext_iff]

theorem map_eq_ok_iff {checked : Checked α} {f : α → β} {b : β} :
    checked.map f = .ok b ↔ ∃ a, checked = .ok a ∧ f a = b := by
  cases checked <;> simp [Except.map]

/-- One of two checks succeeds if the first does, or else the second. -/
theorem either_eq_ok {first second : Checked α} {a : α} (h : either first second = .ok a) :
    first = .ok a ∨ second = .ok a := by
  cases first with
  | ok b => exact .inl h
  | error faults =>
    cases second with
    | ok b => exact .inr h
    | error more => cases h

end Checked

namespace Schema

theorem optionalText_eq_ok_iff {value : Value} {t : Option Text} :
    optionalText value = .ok t ↔ value = .ofOptionalText t := by
  cases value <;> cases t <;>
    simp [optionalText, text, Checked.refuse, Value.ofOptionalText, Except.map]

/-- A list that is accepted as texts holds these texts. -/
theorem eq_of_texts {value : Value} {found : List Text} (h : texts value = .ok found) :
    value = .list (found.map .text) := by
  cases value with
  | list items =>
    obtain ⟨named, hnamed, rfl⟩ := Checked.map_eq_ok_iff.mp h
    have hitems := congrArg (List.map Prod.snd) (each_text_ok hnamed)
    rw [List.map_map, List.map_map] at hitems
    have hplain : (items.zipIdx.map fun item => item.1) = items := List.zipIdx_map_fst 0 items
    rw [List.map_map]
    exact congrArg Value.list (hplain.symm.trans hitems)
  | _ => cases h

/-- A required field that is accepted is there. -/
theorem exists_of_required {α : Type} {check : Value → Checked α} {fields : List (Text × Value)}
    {name : Text} {a : α} (h : required check fields name = .ok a) :
    ∃ value, Value.field? fields name = some value ∧ check value = .ok a := by
  rw [required, Checked.within_eq_ok_iff] at h
  cases hvalue : Value.field? fields name with
  | none =>
    rw [hvalue] at h
    cases h
  | some value =>
    rw [hvalue] at h
    exact ⟨value, rfl, h⟩

/-- Of several names the first that is present is checked; null is like no name. -/
theorem optionalUnder_eq_ok_iff {fields : List (Text × Value)} {names : List Text}
    {t : Option Text} :
    optionalUnder fields names = .ok t ↔
      (names.findSome? (Value.field? fields)).getD .null = .ofOptionalText t := by
  induction names with
  | nil => cases t <;> simp [optionalUnder, Value.ofOptionalText]
  | cons name names ih =>
    rw [optionalUnder, List.findSome?_cons]
    cases Value.field? fields name with
    | none => exact ih
    | some value => exact Checked.within_eq_ok_iff.trans optionalText_eq_ok_iff

end Schema

/-- What a value is that configures a layout: a list of texts, or a record with such a list. -/
theorem LayoutEntry.ofValue_cases {value : Value} {entry : LayoutEntry}
    (h : ofValue value = .ok entry) :
    (∃ texts, value = .list (texts.map .text) ∧ entry = .rows texts) ∨
      ∃ fields texts rowTracks colTracks,
        value = .record fields ∧
        Value.field? fields "rows".toList = some (.list (texts.map .text)) ∧
        Schema.optionalUnder fields rowTrackNames = .ok rowTracks ∧
        Schema.optionalUnder fields colTrackNames = .ok colTracks ∧
        entry = .definition texts rowTracks colTracks := by
  rcases Checked.either_eq_ok h with h | h
  · obtain ⟨texts, htexts, rfl⟩ := Checked.map_eq_ok_iff.mp (Checked.within_eq_ok_iff.mp h)
    exact .inl ⟨texts, Schema.eq_of_texts htexts, rfl⟩
  · rw [Checked.within_eq_ok_iff] at h
    cases value with
    | record fields =>
      obtain ⟨⟨texts, rowTracks, colTracks⟩, hfound, rfl⟩ := Checked.map_eq_ok_iff.mp h
      obtain ⟨hrows, htracks⟩ := Checked.both_eq_ok_iff.mp hfound
      obtain ⟨hrowTracks, hcolTracks⟩ := Checked.both_eq_ok_iff.mp htracks
      obtain ⟨rows, hfield, hvalue⟩ := Schema.exists_of_required hrows
      rw [Schema.eq_of_texts hvalue] at hfield
      exact .inr ⟨fields, texts, rowTracks, colTracks, rfl, hfield, hrowTracks, hcolTracks, rfl⟩
    | _ => cases h

end NamedGrid
