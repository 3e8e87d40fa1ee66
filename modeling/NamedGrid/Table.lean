/-!
# Tables

A table keeps its keys in the order in which they first arrived. A later value for a
key that is present takes the place of the earlier one, so the value is the last
writer's and the position the first writer's.
-/

namespace NamedGrid

universe u v

/-- Pairs of a key and a value, no key twice, in the order of their first arrival. -/
structure Table (κ : Type u) (β : Type v) where
  /-- The pairs in order. -/
  entries : List (κ × β)
  /-- No key occurs twice. -/
  nodup : (entries.map Prod.fst).Nodup

namespace Table

variable {κ : Type u} {β : Type v}

/-- The keys in order. -/
def keys (t : Table κ β) : List κ := t.entries.map Prod.fst

/-- The values in the order of their keys. -/
def values (t : Table κ β) : List β := t.entries.map Prod.snd

/-- The number of keys. -/
def size (t : Table κ β) : Nat := t.entries.length

/-- The table without keys. -/
def empty : Table κ β := ⟨[], List.nodup_nil⟩

instance : Inhabited (Table κ β) := ⟨empty⟩

/-- Every value is replaced, keys and order stay. -/
def mapValues {γ : Type v} (f : κ → β → γ) (t : Table κ β) : Table κ γ :=
  ⟨t.entries.map fun e => (e.1, f e.1 e.2), by
    rw [List.map_map]
    exact t.nodup⟩

variable [DecidableEq κ]

/-- Write a value into a list of pairs: in place if the key is there, else at the end. -/
def place (k : κ) (v : β) : List (κ × β) → List (κ × β)
  | [] => [(k, v)]
  | e :: rest => if e.1 = k then (k, v) :: rest else e :: place k v rest

/-- Placing a key that is present keeps the keys; a new one comes last. -/
theorem keys_place (k : κ) (v : β) (es : List (κ × β)) :
    (place k v es).map Prod.fst =
      if k ∈ es.map Prod.fst then es.map Prod.fst else es.map Prod.fst ++ [k] := by
  induction es with
  | nil => simp [place]
  | cons e es ih =>
    by_cases h : e.1 = k
    · simp [place, h]
    · have hne : ¬ k = e.1 := fun hk => h hk.symm
      simp only [place, h, if_false, List.map_cons, ih, List.mem_cons, hne, false_or]
      split <;> simp

/-- Placing keeps the keys distinct. -/
theorem nodup_place {k : κ} {v : β} {es : List (κ × β)} (h : (es.map Prod.fst).Nodup) :
    ((place k v es).map Prod.fst).Nodup := by
  rw [keys_place]
  split
  · exact h
  · rename_i hk
    rw [List.nodup_append]
    refine ⟨h, by simp, ?_⟩
    intro a ha b hb hab
    simp only [List.mem_singleton] at hb
    exact hk (hb ▸ hab ▸ ha)

/-- Write a value under a key. -/
def insert (t : Table κ β) (k : κ) (v : β) : Table κ β :=
  ⟨place k v t.entries, nodup_place t.nodup⟩

/-- The value of the first pair with a key. -/
def valueOf? (k : κ) : List (κ × β) → Option β
  | [] => none
  | e :: rest => if e.1 = k then some e.2 else valueOf? k rest

/-- The value under a key. -/
def get? (t : Table κ β) (k : κ) : Option β := valueOf? k t.entries

/-- Is the key present? -/
def contains (t : Table κ β) (k : κ) : Bool := t.keys.contains k

/-- Write pairs one after the other. -/
def insertAll (t : Table κ β) (pairs : List (κ × β)) : Table κ β :=
  pairs.foldl (fun t e => t.insert e.1 e.2) t

/-- The table of a list of pairs, later values replacing earlier ones in place. -/
def ofList (pairs : List (κ × β)) : Table κ β := empty.insertAll pairs

/-- Write every entry of the second table into the first. -/
def update (t u : Table κ β) : Table κ β := t.insertAll u.entries

/-- Rewrite the value under one key, from nothing if the key is new. -/
def alter (t : Table κ β) (k : κ) (f : Option β → β) : Table κ β :=
  t.insert k (f (t.get? k))

/-- The table without one key. -/
def erase (t : Table κ β) (k : κ) : Table κ β :=
  ⟨t.entries.filter fun e => e.1 ≠ k, by
    exact List.Nodup.sublist (List.Sublist.map _ List.filter_sublist) t.nodup⟩

/-- The test for a key is membership among the keys. -/
theorem contains_iff {t : Table κ β} {k : κ} : t.contains k = true ↔ k ∈ t.keys := by
  simp [contains]

/-- A key that is present keeps its place, a new one comes last. -/
theorem keys_insert (t : Table κ β) (k : κ) (v : β) :
    (t.insert k v).keys = if t.contains k = true then t.keys else t.keys ++ [k] := by
  simp only [contains_iff]
  exact keys_place k v t.entries

/-- Reading after a write gives the written value at its key and the old one elsewhere. -/
theorem get?_insert (t : Table κ β) (k j : κ) (v : β) :
    (t.insert k v).get? j = if k = j then some v else t.get? j := by
  obtain ⟨es, h⟩ := t
  simp only [get?, insert]
  clear h
  induction es with
  | nil => simp [place, valueOf?]
  | cons e es ih =>
    by_cases he : e.1 = k
    · subst he
      by_cases hj : e.1 = j <;> simp [place, valueOf?, hj]
    · by_cases hj : e.1 = j
      · subst hj
        have hk : ¬ k = e.1 := fun hk => he hk.symm
        simp [place, he, valueOf?, hk]
      · simp [place, he, valueOf?, hj, ih]

/-- A key is present exactly when it has a value. -/
theorem get?_isSome (t : Table κ β) (k : κ) : (t.get? k).isSome = true ↔ k ∈ t.keys := by
  obtain ⟨es, h⟩ := t
  simp only [get?, keys]
  clear h
  induction es with
  | nil => simp [valueOf?]
  | cons e es ih =>
    by_cases he : e.1 = k
    · simp [valueOf?, he]
    · have hk : ¬ k = e.1 := fun hk => he hk.symm
      simp only [valueOf?, he, if_false, ih, List.map_cons, List.mem_cons, hk, false_or]

end Table

end NamedGrid
