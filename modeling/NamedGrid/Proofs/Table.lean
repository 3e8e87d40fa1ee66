import NamedGrid.Proofs.Basic
import NamedGrid.Table

/-!
# Tables as runs of writes

Writing pairs one after the other leaves the first occurrences of all keys in order. A key
reads as the last value that was written under it, and where no key is written twice the
entries are the written pairs themselves.
-/

namespace NamedGrid

universe u v

namespace Table

variable {κ : Type u} {β : Type v}

@[simp] theorem keys_empty : (empty : Table κ β).keys = [] := rfl

/-- The number of entries is the number of keys. -/
theorem size_eq_length_keys (t : Table κ β) : t.size = t.keys.length := by
  simp only [size, keys, List.length_map]

/-- The keys of a table are first occurrences already. -/
theorem eraseDups_keys [BEq κ] [LawfulBEq κ] (t : Table κ β) : t.keys.eraseDups = t.keys :=
  eraseDups_of_nodup t.nodup

variable [DecidableEq κ]

@[simp] theorem get?_empty (k : κ) : (empty : Table κ β).get? k = none := rfl

section Keys

variable [BEq κ] [LawfulBEq κ]

/-- One write adds its key as one more occurrence. -/
theorem keys_insert_eraseDups (t : Table κ β) (k : κ) (v : β) :
    (t.insert k v).keys = (t.keys ++ [k]).eraseDups := by
  simp only [keys_insert, eraseDups_concat, contains_iff, eraseDups_keys]

/-- Writes in order leave the first occurrences of all keys. -/
theorem keys_insertAll (t : Table κ β) (pairs : List (κ × β)) :
    (t.insertAll pairs).keys = (t.keys ++ pairs.map Prod.fst).eraseDups := by
  induction pairs generalizing t with
  | nil =>
    rw [List.map_nil, List.append_nil, eraseDups_keys]
    rfl
  | cons e pairs ih =>
    change ((t.insert e.1 e.2).insertAll pairs).keys = _
    rw [ih, keys_insert_eraseDups, eraseDups_eraseDups_append, List.append_assoc,
      List.singleton_append, List.map_cons]

/-- The table of a list has the first occurrences of the listed keys. -/
theorem keys_ofList (pairs : List (κ × β)) :
    (ofList pairs).keys = (pairs.map Prod.fst).eraseDups := by
  rw [ofList, keys_insertAll, keys_empty, List.nil_append]

/-- An update adds the keys that are new behind those that are known. -/
theorem keys_update (t s : Table κ β) : (t.update s).keys = (t.keys ++ s.keys).eraseDups :=
  keys_insertAll t s.entries

end Keys

/-- A write adds a key at the end or none. -/
theorem keys_prefix_insert (t : Table κ β) (k : κ) (v : β) : t.keys <+: (t.insert k v).keys := by
  rw [keys_insert]
  split
  · exact List.prefix_rfl
  · exact List.prefix_append _ _

/-- An update adds keys at the end. -/
theorem keys_prefix_update (t s : Table κ β) : t.keys <+: (t.update s).keys := by
  unfold update insertAll
  generalize s.entries = pairs
  induction pairs generalizing t with
  | nil => exact List.prefix_rfl
  | cons e pairs ih => exact (keys_prefix_insert t e.1 e.2).trans (ih _)

/-- Looking up a joined list tries its parts in order. -/
theorem valueOf?_append (k : κ) (es fs : List (κ × β)) :
    valueOf? k (es ++ fs) = (valueOf? k es).or (valueOf? k fs) := by
  induction es with
  | nil => rfl
  | cons e es ih =>
    by_cases h : e.1 = k
    · simp [valueOf?, h]
    · simp [valueOf?, h, ih]

/-- Writes in order leave under each key the last value written, or what was there. -/
theorem get?_insertAll (t : Table κ β) (pairs : List (κ × β)) (k : κ) :
    (t.insertAll pairs).get? k = (valueOf? k pairs.reverse).or (t.get? k) := by
  induction pairs generalizing t with
  | nil => rfl
  | cons e pairs ih =>
    change ((t.insert e.1 e.2).insertAll pairs).get? k = _
    rw [ih, get?_insert, List.reverse_cons, valueOf?_append]
    by_cases h : e.1 = k
    · simp [valueOf?, h]
    · simp [valueOf?, h]

/-- What is found stands in the list. -/
theorem mem_of_valueOf?_eq_some {k : κ} {v : β} {es : List (κ × β)} (h : valueOf? k es = some v) :
    (k, v) ∈ es := by
  induction es with
  | nil => cases h
  | cons e es ih =>
    rw [valueOf?] at h
    split at h
    · rename_i he
      cases h
      exact he ▸ List.mem_cons_self
    · exact List.mem_cons_of_mem _ (ih h)

/-- Only a listed key has a value. -/
theorem valueOf?_eq_none_iff {k : κ} {es : List (κ × β)} :
    valueOf? k es = none ↔ k ∉ es.map Prod.fst := by
  induction es with
  | nil => simp [valueOf?]
  | cons e es ih =>
    by_cases h : e.1 = k
    · simp [valueOf?, h]
    · simp [valueOf?, h, ih, Ne.symm h]

/-- Looking up a key is finding the first pair with it. -/
theorem valueOf?_eq_find? (k : κ) (es : List (κ × β)) :
    valueOf? k es = (es.find? fun e => e.1 = k).map Prod.snd := by
  induction es with
  | nil => rfl
  | cons e es ih =>
    by_cases h : e.1 = k
    · simp [valueOf?, h]
    · simp [valueOf?, h, ih]

/-- Looking up rewritten values rewrites what is found. -/
theorem valueOf?_map {γ : Type v} (f : β → γ) (k : κ) (es : List (κ × β)) :
    valueOf? k (es.map fun e => (e.1, f e.2)) = (valueOf? k es).map f := by
  induction es with
  | nil => rfl
  | cons e es ih =>
    by_cases h : e.1 = k
    · simp [valueOf?, h]
    · simp [valueOf?, h, ih]

/-- The first list with a key has the key's value in the joined list. -/
theorem valueOf?_flatMap {α : Type u} (f : α → List (κ × β)) (k : κ) (as : List α) :
    valueOf? k (as.flatMap f) = as.findSome? fun a => valueOf? k (f a) := by
  induction as with
  | nil => rfl
  | cons a as ih =>
    rw [List.flatMap_cons, valueOf?_append, ih, List.findSome?_cons]
    cases valueOf? k (f a) <;> rfl

/-- Where no key is listed twice, look-up does not depend on the order. -/
theorem valueOf?_reverse {es : List (κ × β)} (h : (es.map Prod.fst).Nodup) (k : κ) :
    valueOf? k es.reverse = valueOf? k es := by
  induction es with
  | nil => rfl
  | cons e es ih =>
    obtain ⟨he, hes⟩ := List.nodup_cons.mp h
    rw [List.reverse_cons, valueOf?_append, ih hes]
    by_cases hk : e.1 = k
    · have hnone : valueOf? k es = none := valueOf?_eq_none_iff.mpr (hk ▸ he)
      simp [valueOf?, hk, hnone]
    · simp [valueOf?, hk]

/-- After an update the second table is read first. -/
theorem get?_update (t s : Table κ β) (k : κ) :
    (t.update s).get? k = (s.get? k).or (t.get? k) := by
  rw [update, get?_insertAll, valueOf?_reverse s.nodup]
  rfl

/-- The table of a list that names no key twice reads as the list. -/
theorem get?_ofList {pairs : List (κ × β)} (h : (pairs.map Prod.fst).Nodup) (k : κ) :
    (ofList pairs).get? k = valueOf? k pairs := by
  rw [ofList, get?_insertAll, valueOf?_reverse h, get?_empty, Option.or_none]

/-- Tables with the same keys in the same order and the same values are equal. -/
theorem ext_get? {t s : Table κ β} (hkeys : t.keys = s.keys) (hget : ∀ k, t.get? k = s.get? k) :
    t = s := by
  obtain ⟨es, hes⟩ := t
  obtain ⟨fs, hfs⟩ := s
  simp only [keys, get?, mk.injEq] at hkeys hget ⊢
  induction es generalizing fs with
  | nil =>
    cases fs with
    | nil => rfl
    | cons f fs => cases hkeys
  | cons e es ih =>
    cases fs with
    | nil => cases hkeys
    | cons f fs =>
      obtain ⟨hkey, hrest⟩ := List.cons.inj hkeys
      obtain ⟨he, hes⟩ := List.nodup_cons.mp hes
      obtain ⟨hf, hfs⟩ := List.nodup_cons.mp hfs
      have hvalue : e.2 = f.2 := by simpa [valueOf?, hkey] using hget e.1
      refine List.cons_eq_cons.mpr ⟨Prod.ext hkey hvalue, ih hes fs hfs hrest fun k => ?_⟩
      by_cases hk : e.1 = k
      · rw [valueOf?_eq_none_iff.mpr (hk ▸ he), valueOf?_eq_none_iff.mpr (hk ▸ hkey ▸ hf)]
      · simpa [valueOf?, hk, hkey ▸ hk] using hget k

/-- To write what is there already changes nothing. -/
theorem insert_of_get? {t : Table κ β} {k : κ} {v : β} (h : t.get? k = some v) :
    t.insert k v = t := by
  have hk : t.contains k = true := by
    rw [contains_iff, ← get?_isSome, h]
    rfl
  refine ext_get? (by rw [keys_insert, if_pos hk]) fun j => ?_
  rw [get?_insert]
  split
  · rename_i hkj
    rw [← hkj, h]
  · rfl

/-- To update with the table of a list is to write the list. -/
theorem update_ofList (t : Table κ β) (pairs : List (κ × β)) :
    t.update (ofList pairs) = t.insertAll pairs := by
  refine ext_get? ?_ fun k => ?_
  · rw [keys_update, keys_ofList, keys_insertAll, eraseDups_append_eraseDups]
  · rw [get?_update, ofList, get?_insertAll, get?_insertAll, get?_empty, Option.or_none]

/-- Two lists that are written one after the other are written as one. -/
theorem insertAll_append (t : Table κ β) (pairs more : List (κ × β)) :
    t.insertAll (pairs ++ more) = (t.insertAll pairs).insertAll more :=
  List.foldl_append

/-- A pair of a table after a write was there before or was written. -/
theorem mem_entries_insert {t : Table κ β} {k : κ} {v : β} {e : κ × β}
    (h : e ∈ (t.insert k v).entries) : e = (k, v) ∨ e ∈ t.entries := by
  obtain ⟨es, hn⟩ := t
  simp only [insert] at h ⊢
  clear hn
  induction es with
  | nil => exact Or.inl (List.mem_singleton.mp h)
  | cons f es ih =>
    unfold place at h
    split at h
    · rcases List.mem_cons.mp h with h | h
      · exact Or.inl h
      · exact Or.inr (List.mem_cons_of_mem _ h)
    · rcases List.mem_cons.mp h with rfl | h
      · exact Or.inr List.mem_cons_self
      · exact (ih h).imp_right (List.mem_cons_of_mem _)

/-- A pair with another key is there after a write. -/
theorem mem_entries_insert_of_ne {t : Table κ β} {k : κ} {v : β} {e : κ × β}
    (h : e ∈ t.entries) (hne : e.1 ≠ k) : e ∈ (t.insert k v).entries := by
  obtain ⟨es, hn⟩ := t
  simp only [insert] at h ⊢
  clear hn
  induction es with
  | nil => cases h
  | cons f es ih =>
    rw [place]
    split
    · rename_i hf
      rcases List.mem_cons.mp h with rfl | h
      · exact absurd hf hne
      · exact List.mem_cons_of_mem _ h
    · rcases List.mem_cons.mp h with rfl | h
      · exact List.mem_cons_self
      · exact List.mem_cons_of_mem _ (ih h)

/-- A pair of a table after several writes was there before or is one that was written. -/
theorem mem_entries_insertAll {t : Table κ β} {pairs : List (κ × β)} {e : κ × β}
    (h : e ∈ (t.insertAll pairs).entries) : e ∈ pairs ∨ e ∈ t.entries := by
  induction pairs generalizing t with
  | nil => exact Or.inr h
  | cons p pairs ih =>
    rcases ih (t := t.insert p.1 p.2) h with h | h
    · exact Or.inl (List.mem_cons_of_mem _ h)
    · rcases mem_entries_insert h with rfl | h
      · exact Or.inl List.mem_cons_self
      · exact Or.inr h

/-- A pair of a table after an update comes from one of the two. -/
theorem mem_entries_update {t s : Table κ β} {e : κ × β} (h : e ∈ (t.update s).entries) :
    e ∈ s.entries ∨ e ∈ t.entries := mem_entries_insertAll h

/-- A pair of the table of a list is in the list. -/
theorem mem_of_mem_entries_ofList {pairs : List (κ × β)} {e : κ × β}
    (h : e ∈ (ofList pairs).entries) : e ∈ pairs :=
  (mem_entries_insertAll h).resolve_right (List.not_mem_nil)

/-- A pair with a new key is placed last. -/
theorem place_of_not_mem {k : κ} {v : β} {es : List (κ × β)} (h : k ∉ es.map Prod.fst) :
    place k v es = es ++ [(k, v)] := by
  induction es with
  | nil => rfl
  | cons e es ih =>
    rw [List.map_cons, List.mem_cons, not_or] at h
    rw [place, if_neg (Ne.symm h.1), ih h.2, List.cons_append]

/-- A new key that is erased again leaves the table as it was. -/
theorem erase_insert_of_not_mem {t : Table κ β} {k : κ} {v : β} (h : k ∉ t.keys) :
    (t.insert k v).erase k = t := by
  have hkeep : t.entries.filter (fun e => e.1 ≠ k) = t.entries := by
    rw [List.filter_eq_self]
    exact fun e he => decide_eq_true fun hk => h (hk ▸ List.mem_map_of_mem he)
  have hentries : ((t.insert k v).erase k).entries = t.entries := by
    change (place k v t.entries).filter _ = _
    rw [place_of_not_mem h, List.filter_append, hkeep]
    simp
  obtain ⟨es, hes⟩ := t
  exact (mk.injEq ..).mpr hentries

/-- Looking up a key after a write finds the written value at that key and the old one elsewhere. -/
theorem valueOf?_place (k j : κ) (v : β) (es : List (κ × β)) :
    valueOf? j (place k v es) = if k = j then some v else valueOf? j es := by
  induction es with
  | nil => simp [place, valueOf?]
  | cons e es ih =>
    by_cases he : e.1 = k
    · subst he
      by_cases hj : e.1 = j <;> simp [place, valueOf?, hj]
    · by_cases hj : e.1 = j
      · subst hj
        simp [place, he, valueOf?, Ne.symm he]
      · simp [place, he, valueOf?, hj, ih]

/-- To write a table twice is to write it once. -/
theorem update_update_self (t s : Table κ β) : (t.update s).update s = t.update s := by
  refine ext_get? ?_ fun k => ?_
  · have hkeys : s.keys.removeAll (t.update s).keys = [] := by
      refine List.filter_eq_nil_iff.mpr fun k hk => ?_
      simp [keys_update, hk]
    rw [keys_update, List.eraseDups_append, hkeys, eraseDups_keys]
    exact List.append_nil _
  · rw [get?_update, get?_update]
    cases s.get? k <;> rfl

/-- Only a key of the table has a value. -/
theorem get?_eq_none_iff {t : Table κ β} {k : κ} : t.get? k = none ↔ k ∉ t.keys :=
  valueOf?_eq_none_iff

/-- The value of a key is the one that stands beside it. -/
theorem get?_eq_some_iff {t : Table κ β} {k : κ} {v : β} :
    t.get? k = some v ↔ (k, v) ∈ t.entries := by
  refine ⟨mem_of_valueOf?_eq_some, fun he => ?_⟩
  have hkey : k ∈ t.keys := List.mem_map_of_mem he
  obtain ⟨w, hw⟩ := Option.isSome_iff_exists.mp ((get?_isSome t k).mpr hkey)
  have hpair := List.inj_on_of_nodup_map t.nodup (mem_of_valueOf?_eq_some hw) he rfl
  rw [hw, (Prod.mk.inj hpair).2]

/-- Without a key the values of the others are as before. -/
theorem get?_erase (t : Table κ β) (k j : κ) :
    (t.erase k).get? j = if j = k then none else t.get? j := by
  split
  · rename_i hj
    rw [get?_eq_none_iff]
    intro hm
    obtain ⟨e, he, rfl⟩ := List.mem_map.mp hm
    exact of_decide_eq_true (List.mem_filter.mp he).2 hj
  · rename_i hj
    ext v
    rw [get?_eq_some_iff, get?_eq_some_iff]
    simp [erase, hj]

/-- Where all keys are new and distinct, the written pairs become the last entries. -/
theorem entries_insertAll {t : Table κ β} {pairs : List (κ × β)}
    (h : (t.keys ++ pairs.map Prod.fst).Nodup) :
    (t.insertAll pairs).entries = t.entries ++ pairs := by
  induction pairs generalizing t with
  | nil => exact (List.append_nil _).symm
  | cons e pairs ih =>
    have he : e.1 ∉ t.keys := fun hm =>
      (List.nodup_append.mp h).2.2 e.1 hm e.1 (by simp) rfl
    have hkeys : (t.insert e.1 e.2).keys = t.keys ++ [e.1] := by
      rw [keys_insert, if_neg (mt contains_iff.mp he)]
    change ((t.insert e.1 e.2).insertAll pairs).entries = _
    have hrest : ((t.insert e.1 e.2).keys ++ pairs.map Prod.fst).Nodup := by
      rw [hkeys, List.append_assoc]
      exact h
    rw [ih hrest]
    change place e.1 e.2 t.entries ++ pairs = _
    rw [place_of_not_mem he, List.append_assoc, List.singleton_append]

/-- The table of a list that names no key twice has the listed pairs as entries. -/
theorem entries_ofList {pairs : List (κ × β)} (h : (pairs.map Prod.fst).Nodup) :
    (ofList pairs).entries = pairs := by
  rw [ofList, entries_insertAll (by simpa using h)]
  rfl

end Table

end NamedGrid
