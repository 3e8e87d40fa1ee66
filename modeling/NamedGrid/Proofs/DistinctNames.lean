import NamedGrid.Project.Settings
import NamedGrid.Proofs.Table

/-!
# Names that occur once

A record names no field twice, whichever source it was read from. Readers of JSON and of TOML
write every field into a place of its own, and so do the steps that put the values of variables
together. So it does not matter which of the fields of one name is looked up, and settings can be
laid over others name by name.
-/

namespace NamedGrid

/-! ## Fields -/

/-- No key stands twice, and all values have a property. -/
structure Keyed {κ β : Type} (P : β → Prop) (fields : List (κ × β)) : Prop where
  nodup : (fields.map Prod.fst).Nodup
  values : ∀ field ∈ fields, P field.2

namespace Keyed

variable {κ β : Type} {P : β → Prop}

theorem nil : Keyed P ([] : List (κ × β)) := ⟨List.nodup_nil, nofun⟩

theorem place [DecidableEq κ] {fields : List (κ × β)} (h : Keyed P fields) (key : κ) {value : β}
    (hvalue : P value) : Keyed P (Table.place key value fields) := by
  refine ⟨Table.nodup_place h.nodup, fun field hfield => ?_⟩
  rcases Table.mem_entries_insert (t := ⟨fields, h.nodup⟩) hfield with rfl | hfield
  · exact hvalue
  · exact h.values field hfield

theorem ofList [DecidableEq κ] {fields : List (κ × β)} (h : ∀ field ∈ fields, P field.2) :
    Keyed P (Table.ofList fields).entries :=
  ⟨(Table.ofList fields).nodup, fun field hfield =>
    h field (Table.mem_of_mem_entries_ofList hfield)⟩

theorem append {fields more : List (κ × β)} (h : Keyed P fields) (hmore : Keyed P more)
    (hapart : ∀ field ∈ fields, ∀ other ∈ more, field.1 ≠ other.1) :
    Keyed P (fields ++ more) := by
  refine ⟨?_, fun field hfield => (List.mem_append.mp hfield).elim (h.values field)
    (hmore.values field)⟩
  rw [List.map_append, List.nodup_append]
  refine ⟨h.nodup, hmore.nodup, fun a ha b hb => ?_⟩
  obtain ⟨field, hfield, rfl⟩ := List.mem_map.mp ha
  obtain ⟨other, hother, rfl⟩ := List.mem_map.mp hb
  exact hapart field hfield other hother

theorem of_valueOf? [DecidableEq κ] {fields : List (κ × β)} (h : Keyed P fields) {key : κ}
    {value : β} (hvalue : Table.valueOf? key fields = some value) : P value :=
  h.values _ (Table.mem_of_valueOf?_eq_some hvalue)

end Keyed

/-! ## Results -/

/-- What a computation yields, if it yields anything, has a property. -/
def Yields {ε α : Type} (P : α → Prop) (result : Except ε α) : Prop :=
  ∀ a, result = .ok a → P a

namespace Yields

variable {ε α β : Type} {P : α → Prop} {Q : β → Prop}

theorem ok {a : α} (h : P a) : Yields P (.ok a : Except ε α) := by
  rintro _ ⟨⟩
  exact h

theorem error {e : ε} : Yields P (.error e : Except ε α) := nofun

theorem bind {x : Except ε α} {f : α → Except ε β} (hx : Yields P x)
    (hf : ∀ a, P a → Yields Q (f a)) : Yields Q (x >>= f) := by
  cases x with
  | ok a => exact hf a (hx a rfl)
  | error e => exact error

theorem map {x : Except ε α} {f : α → β} (hx : Yields P x) (hf : ∀ a, P a → Q (f a)) :
    Yields Q (x.map f) := by
  cases x with
  | ok a => exact ok (hf a (hx a rfl))
  | error e => exact error

theorem mapError {ε' : Type} {x : Except ε α} {f : ε → ε'} (hx : Yields P x) :
    Yields P (x.mapError f) := by
  cases x with
  | ok a => exact ok (hx a rfl)
  | error e => exact error

theorem trivial (x : Except ε α) : Yields (fun _ => True) x := fun _ _ => True.intro

end Yields

namespace Value

/-- No record in a value names a field twice. Lists are not looked into. -/
inductive Distinct : Value → Prop
  | record {fields : List (Text × Value)} (hnodup : (fields.map Prod.fst).Nodup)
      (hfields : ∀ field ∈ fields, Distinct field.2) : Distinct (record fields)
  | other {value : Value} (h : ∀ fields, value ≠ .record fields) : Distinct value

theorem distinct_record_iff {fields : List (Text × Value)} :
    (record fields).Distinct ↔ Keyed Distinct fields := by
  refine ⟨fun h => ?_, fun h => .record h.nodup h.values⟩
  cases h with
  | record hnodup hfields => exact ⟨hnodup, hfields⟩
  | other h => exact absurd rfl (h fields)

theorem field?_eq_valueOf? (fields : List (Text × Value)) (name : Text) :
    field? fields name = Table.valueOf? name fields :=
  (Table.valueOf?_eq_find? name fields).symm

/-! ## Overlaid values -/

mutual

theorem Distinct.overlay {base value : Value} (hbase : base.Distinct) (h : value.Distinct) :
    (overlay base value).Distinct := by
  cases value with
  | record updates =>
    cases base with
    | record fields =>
      exact distinct_record_iff.mpr (overlayFields_distinct (distinct_record_iff.mp hbase)
        (distinct_record_iff.mp h).values)
    | _ => exact h
  | _ => exact h

theorem overlayFields_distinct {fields updates : List (Text × Value)} (h : Keyed Distinct fields)
    (hupdates : ∀ field ∈ updates, field.2.Distinct) :
    Keyed Distinct (overlayFields fields updates) := by
  match updates, hupdates with
  | [], _ => exact h
  | (name, value) :: rest, hupdates =>
    obtain ⟨hupdate, hrest⟩ := List.forall_mem_cons.mp hupdates
    rw [overlayFields]
    refine overlayFields_distinct (h.place name ?_) hrest
    cases hbase : field? fields name with
    | none => exact hupdate
    | some base =>
      rw [field?_eq_valueOf?] at hbase
      exact Distinct.overlay (h.of_valueOf? hbase) hupdate

end

end Value

/-! ## JSON -/

namespace Json

theorem orMalformed_yields {α : Type} {P : α → Prop} {found : Option α}
    (h : ∀ a, found = some a → P a) : Yields P (orMalformed found) := by
  cases found with
  | none => exact .error
  | some a => exact .ok (h a rfl)

theorem readMagnitude_distinct {negative : Bool} {s : Text} {found : Value × Text}
    (h : readMagnitude negative s = some found) : found.1.Distinct := by
  unfold readMagnitude at h
  dsimp only at h
  repeat' split at h
  all_goals cases h <;> exact .other nofun

theorem readScalar_distinct {s : Text} {found : Value × Text} (h : readScalar s = some found) :
    found.1.Distinct := by
  unfold readScalar at h
  split at h
  · rename_i hword
    cases h
    obtain ⟨word, hmem, hafter⟩ := List.exists_of_findSome?_eq_some hword
    obtain ⟨rest, -, rfl⟩ := Option.map_eq_some_iff.mp hafter
    have hwords : ∀ word ∈ words, word.2.Distinct := by
      simp only [words, List.forall_mem_cons]
      exact ⟨.other nofun, .other nofun, .other nofun, .other nofun, .other nofun, .other nofun,
        nofun⟩
    exact hwords word hmem
  · split at h
    · exact readMagnitude_distinct h
    · exact readMagnitude_distinct h

/-- A value that is read at the front of a text names no field twice. -/
theorem readValue_distinct (bound : Nat) :
    (∀ room s, Yields (fun found => found.1.Distinct) (readValue bound room s)) ∧
      ∀ room s, Yields (fun found => ∀ field ∈ found.1, field.2.Distinct)
        (readFields bound room s) := by
  induction bound with
  | zero => exact ⟨fun _ _ => .error, fun _ _ => .error⟩
  | succ bound ih =>
    obtain ⟨hvalue, hfields⟩ := ih
    refine ⟨fun room s => ?_, fun room s => ?_⟩
    · unfold readValue
      split
      · refine orMalformed_yields fun found hfound => ?_
        obtain ⟨_, -, rfl⟩ := Option.map_eq_some_iff.mp hfound
        exact .other nofun
      · split
        · exact .error
        · split
          · exact .ok (.other nofun)
          · exact (Yields.trivial _).map fun _ _ => .other nofun
      · split
        · exact .error
        · split
          · exact .ok (Value.distinct_record_iff.mpr .nil)
          · exact (hfields _ _).map fun found h =>
              Value.distinct_record_iff.mpr (Keyed.ofList h)
      · exact orMalformed_yields fun found => readScalar_distinct
    · unfold readFields
      split
      · refine (Yields.trivial _).bind fun name _ => ?_
        dsimp only
        split
        · refine (hvalue _ _).bind fun value h => ?_
          split
          · exact (hfields _ _).bind fun found hfound =>
              .ok (List.forall_mem_cons.mpr ⟨h, hfound⟩)
          · exact .ok (List.forall_mem_singleton.mpr h)
          · exact .error
        · exact .error
      · exact .error

theorem read_distinct (s : Text) : Yields Value.Distinct (read s) := by
  unfold read
  refine ((readValue_distinct _).1 _ _).bind fun found h => ?_
  dsimp only
  split
  · exact .ok h
  · exact .error

end Json

/-! ## TOML -/

namespace Toml

/-- No table of a document has a key twice, and no value in it names a field twice. Tables in a
list are not looked into. -/
inductive Node.Distinct : Node → Prop
  | value {content : Value} (h : content.Distinct) : Distinct (.value content)
  | table {origin : Origin} {children : Children} (hnodup : (children.map Prod.fst).Nodup)
      (hchildren : ∀ child ∈ children, Distinct child.2) : Distinct (.table origin children)
  | tables {items : List Children} : Distinct (.tables items)

theorem distinct_table_iff {origin : Origin} {children : Children} :
    (Node.table origin children).Distinct ↔ Keyed Node.Distinct children := by
  refine ⟨fun h => ?_, fun h => .table h.nodup h.values⟩
  cases h with
  | table hnodup hchildren => exact ⟨hnodup, hchildren⟩

theorem childValues_eq_map (children : Children) :
    childValues children = children.map fun child => (child.1, child.2.toValue) := by
  induction children with
  | nil => rfl
  | cons child rest ih => rw [childValues, ih, List.map_cons]

theorem Node.Distinct.toValue {node : Node} (h : node.Distinct) : node.toValue.Distinct := by
  induction h with
  | value h => simpa only [Node.toValue] using h
  | @table origin children hnodup _ ih =>
    rw [Node.toValue, childValues_eq_map]
    refine .record (by rwa [List.map_map]) fun field hfield => ?_
    obtain ⟨child, hchild, rfl⟩ := List.mem_map.mp hfield
    exact ih child hchild
  | tables => exact .other (by simp [Node.toValue])

theorem childValues_distinct {children : Children} (h : Keyed Node.Distinct children) :
    Keyed Value.Distinct (childValues children) := by
  have hrecord := ((@distinct_table_iff .passed children).mpr h).toValue
  rw [Node.toValue] at hrecord
  exact Value.distinct_record_iff.mp hrecord

/-! ### Changing a document -/

/-- A change of a table that keeps its keys apart. -/
def KeepsDistinct (change : Children → Option Children) : Prop :=
  ∀ here new, Keyed Node.Distinct here → change here = some new → Keyed Node.Distinct new

theorem openTable_distinct (key : Text) : KeepsDistinct (openTable key) := by
  intro here new h hnew
  unfold openTable at hnew
  split at hnew
  · cases hnew
    exact h.place key (distinct_table_iff.mpr .nil)
  · rename_i children hchildren
    cases hnew
    exact h.place key (distinct_table_iff.mpr (distinct_table_iff.mp (h.of_valueOf? hchildren)))
  · cases hnew

theorem appendTable_distinct (key : Text) : KeepsDistinct (appendTable key) := by
  intro here new h hnew
  unfold appendTable at hnew
  split at hnew
  · cases hnew
    exact h.place key .tables
  · cases hnew
    exact h.place key .tables
  · cases hnew

theorem within_distinct {change : Children → Option Children} (hchange : KeepsDistinct change)
    (path : List Text) : KeepsDistinct (within path change) := by
  induction path with
  | nil => exact hchange
  | cons key rest ih =>
    intro here new h hnew
    unfold within at hnew
    split at hnew
    · obtain ⟨inner, hinner, rfl⟩ := Option.map_eq_some_iff.mp hnew
      exact h.place key (distinct_table_iff.mpr (ih _ _ .nil hinner))
    · rename_i origin children hchildren
      obtain ⟨inner, hinner, rfl⟩ := Option.map_eq_some_iff.mp hnew
      exact h.place key (distinct_table_iff.mpr
        (ih _ _ (distinct_table_iff.mp (h.of_valueOf? hchildren)) hinner))
    · split at hnew
      · cases hnew
      · obtain ⟨inner, -, rfl⟩ := Option.map_eq_some_iff.mp hnew
        exact h.place key .tables
    · cases hnew

theorem assign_distinct {number : Nat} {content : Value} (hcontent : content.Distinct)
    (key : List Text) : KeepsDistinct (assign number content key) := by
  induction key with
  | nil => exact nofun
  | cons first rest ih =>
    intro here new h hnew
    cases rest with
    | nil =>
      unfold assign at hnew
      split at hnew
      · cases hnew
        exact h.place first (.value hcontent)
      · cases hnew
    | cons second rest =>
      have hmade : ∀ children, Keyed Node.Distinct children →
          ((assign number content (second :: rest) children).map fun new =>
            Table.place first (.table (.dotted number) new) here) = some new →
          Keyed Node.Distinct new := by
        intro children hchildren hmade
        obtain ⟨inner, hinner, rfl⟩ := Option.map_eq_some_iff.mp hmade
        exact h.place first (distinct_table_iff.mpr (ih _ _ hchildren hinner))
      unfold assign at hnew
      dsimp only at hnew
      split at hnew
      · exact hmade [] .nil hnew
      · rename_i children hchildren
        exact hmade children (distinct_table_iff.mp (h.of_valueOf? hchildren)) hnew
      · rename_i other children hchildren
        split at hnew
        · exact hmade children (distinct_table_iff.mp (h.of_valueOf? hchildren)) hnew
        · cases hnew
      · cases hnew

theorem enter_distinct {draft : Draft} (h : Keyed Node.Distinct draft.root) {path : List Text}
    {opened : Text → Children → Option Children} (hopened : ∀ key, KeepsDistinct (opened key))
    {new : Draft} (hnew : draft.enter path opened = some new) : Keyed Node.Distinct new.root := by
  unfold Draft.enter at hnew
  split at hnew
  · cases hnew
  · obtain ⟨root, hroot, rfl⟩ := Option.map_eq_some_iff.mp hnew
    exact within_distinct (hopened _) _ _ _ h hroot

theorem write_distinct {draft : Draft} (h : Keyed Node.Distinct draft.root) {key : List Text}
    {content : Value} (hcontent : content.Distinct) {new : Draft}
    (hnew : draft.write key content = some new) : Keyed Node.Distinct new.root := by
  obtain ⟨root, hroot, rfl⟩ := Option.map_eq_some_iff.mp hnew
  exact within_distinct (assign_distinct hcontent key) _ _ _ h hroot

/-! ### Reading a document -/

theorem orMalformed_yields {α : Type} {P : α → Prop} {found : Option α}
    (h : ∀ a, found = some a → P a) : Yields P (orMalformed found) := by
  cases found with
  | none => exact .error
  | some a => exact .ok (h a rfl)

theorem number?_distinct {s : Text} {found : Value × Text} (h : number? s = some found) :
    found.1.Distinct := by
  have hdecimal : ∀ {negative : Bool} {s : Text} {found : Value × Text},
      decimalNumber? negative s = some found → found.1.Distinct := by
    intro negative s found h
    unfold decimalNumber? at h
    dsimp only at h
    repeat' split at h
    all_goals cases h <;> exact .other nofun
  have hbased : ∀ {found : Value × Text}, basedNumber? s = some found → found.1.Distinct := by
    intro found h
    unfold basedNumber? at h
    split at h
    · obtain ⟨base, -, h⟩ := Option.bind_eq_some_iff.mp h
      dsimp only at h
      split at h
      · cases h
      · cases h
        exact .other nofun
    · cases h
  simp only [number?, Option.orElse_eq_orElse, Option.orElse_eq_or, Option.or_eq_some_iff] at h
  rcases h with h | ⟨-, h | ⟨-, h⟩⟩
  · exact hbased h
  · split at h <;> exact hdecimal h
  · obtain ⟨word, -, hafter⟩ := List.exists_of_findSome?_eq_some h
    obtain ⟨rest, -, rfl⟩ := Option.map_eq_some_iff.mp hafter
    exact .other nofun

theorem scalar_distinct (s : Text) : Yields (fun found => found.1.Distinct) (scalar s) := by
  unfold scalar
  split
  · exact .ok (.other nofun)
  · exact .ok (.other nofun)
  · split
    · exact .error
    · exact .ok (.other nofun)
    · split
      · exact .ok (.other nofun)
      · unfold boundedNumber
        refine (orMalformed_yields fun found => number?_distinct).bind fun found h => ?_
        dsimp only
        split
        · exact .error
        · exact .ok h

/-- A value that is read at the front of a text names no field twice, and neither do the fields of
an inline table. -/
theorem value_distinct (bound : Nat) :
    (∀ room s, Yields (fun found => found.1.Distinct) (value bound room s)) ∧
      (∀ room s, Yields (fun found => found.2.1.Distinct) (pair bound room s)) ∧
      ∀ room children s, Keyed Node.Distinct children →
        Yields (fun found => Keyed Node.Distinct found.1) (fields bound room children s) := by
  induction bound with
  | zero =>
    refine ⟨fun _ _ => ?_, fun _ _ => ?_, fun _ _ _ _ => ?_⟩
    · rw [value]
      exact .error
    · rw [pair]
      exact .error
    · rw [fields]
      exact .error
  | succ bound ih =>
    obtain ⟨hvalue, hpair, hfields⟩ := ih
    refine ⟨fun room s => ?_, fun room s => ?_, fun room children s h => ?_⟩
    · unfold value
      split
      · refine (Yields.trivial _).bind fun room _ => (Yields.trivial _).bind fun start _ => ?_
        split
        · exact .ok (.other (by simp))
        · exact (Yields.trivial _).bind fun _ _ => .ok (.other (by simp))
      · refine (Yields.trivial _).bind fun room _ => ?_
        split
        · exact .ok (Value.distinct_record_iff.mpr .nil)
        · exact (hfields _ _ _ .nil).bind fun found hfound =>
            .ok (Value.distinct_record_iff.mpr (childValues_distinct hfound))
      · split
        · exact .ok (.other (by simp))
        · split
          · exact .error
          · exact .error
          · exact scalar_distinct s
    · unfold pair
      refine (Yields.trivial _).bind fun found _ => ?_
      dsimp only
      split
      · exact (hvalue _ _).bind fun found hfound => .ok hfound
      · exact .error
    · unfold fields
      refine (hpair _ _).bind fun found hcontent => ?_
      refine (orMalformed_yields fun new hnew =>
        assign_distinct hcontent _ _ _ h hnew).bind fun children hchildren => ?_
      split
      · exact .ok hchildren
      · exact hfields _ _ _ hchildren
      · exact .error

theorem statement_distinct {draft : Draft} (h : Keyed Node.Distinct draft.root) (s : Text) :
    Yields (fun found => Keyed Node.Distinct found.1.root) (statement draft s) := by
  unfold statement
  split
  · refine orMalformed_yields fun found hfound => ?_
    simp only [Option.bind_eq_bind, Option.bind_eq_some_iff] at hfound
    obtain ⟨header, -, new, hnew, hfound⟩ := hfound
    cases hfound
    exact enter_distinct h appendTable_distinct hnew
  · refine orMalformed_yields fun found hfound => ?_
    simp only [Option.bind_eq_bind, Option.bind_eq_some_iff] at hfound
    obtain ⟨header, -, new, hnew, hfound⟩ := hfound
    cases hfound
    exact enter_distinct h openTable_distinct hnew
  · exact .ok h
  · refine ((value_distinct _).2.1 _ _).bind fun found hcontent => ?_
    exact (orMalformed_yields fun new hnew => write_distinct h hcontent hnew).bind
      fun new hnew => .ok hnew

theorem lines_distinct (bound : Nat) {draft : Draft} (h : Keyed Node.Distinct draft.root)
    (s : Text) : Yields (fun new => Keyed Node.Distinct new.root) (lines bound draft s) := by
  induction bound generalizing draft s with
  | zero => exact .error
  | succ bound ih =>
    unfold lines
    split
    · exact .ok h
    · exact ih h _
    · refine (statement_distinct h _).bind fun found hfound => ?_
      dsimp only
      split
      all_goals
        refine (Yields.trivial _).bind fun rest _ => ?_
        split
        · exact .ok hfound
        · exact ih hfound _
        · exact .error

/-- No table of a document that can be read names a field twice. -/
theorem read_distinct (s : Text) : Yields (Keyed Value.Distinct) (read s) :=
  (lines_distinct _ .nil s).map fun _ h => childValues_distinct h

end Toml

/-! ## The environment and the file -/

/-- Of values found by name no name comes twice. -/
theorem keyed_filterMap {P : Value → Prop} {names : List Text} (hnames : names.Nodup)
    {f : Text → Option Value} (h : ∀ name ∈ names, ∀ value, f name = some value → P value) :
    Keyed P (names.filterMap fun name => (f name).map fun value => (name, value)) := by
  refine ⟨?_, fun field hfield => ?_⟩
  · induction names with
    | nil => exact List.nodup_nil
    | cons name names ih =>
      obtain ⟨hname, hnames⟩ := List.nodup_cons.mp hnames
      obtain ⟨-, h⟩ := List.forall_mem_cons.mp h
      rw [List.filterMap_cons]
      cases f name with
      | none => exact ih hnames h
      | some value =>
        refine List.nodup_cons.mpr ⟨fun hm => hname ?_, ih hnames h⟩
        obtain ⟨field, hfield, rfl⟩ := List.mem_map.mp hm
        obtain ⟨other, hother, hmap⟩ := List.mem_filterMap.mp hfield
        obtain ⟨_, -, rfl⟩ := Option.map_eq_some_iff.mp hmap
        exact hother
  · obtain ⟨name, hname, hmap⟩ := List.mem_filterMap.mp hfield
    obtain ⟨value, hvalue, rfl⟩ := Option.map_eq_some_iff.mp hmap
    exact h name hname value hvalue

theorem keyed_toList {P : Value → Prop} (name : Text) (f : Value → Value) {o : Option Value}
    (h : ∀ value, o = some value → P (f value)) :
    Keyed P (o.map fun value => (name, f value)).toList := by
  cases o with
  | none => exact .nil
  | some value => exact ⟨List.nodup_singleton _, List.forall_mem_singleton.mpr (h value rfl)⟩

theorem eq_of_mem_toList {name : Text} {f : Value → Value} {o : Option Value}
    {field : Text × Value} (h : field ∈ (o.map fun value => (name, f value)).toList) :
    field.1 = name := by
  obtain ⟨value, -, rfl⟩ := Option.map_eq_some_iff.mp (Option.mem_toList.mp h)
  rfl

namespace Environment

theorem placeAt_distinct {last : Text} {value : Value} (hvalue : value.Distinct) (path : List Text)
    {fields : List (Text × Value)} (h : Keyed Value.Distinct fields) :
    Keyed Value.Distinct (Value.placeAt last value path fields) := by
  induction path generalizing fields with
  | nil => exact h.place last hvalue
  | cons name rest ih =>
    unfold Value.placeAt
    split
    · exact h.place name (Value.distinct_record_iff.mpr (ih .nil))
    · rename_i inner hinner
      rw [Value.field?_eq_valueOf?] at hinner
      exact h.place name (Value.distinct_record_iff.mpr
        (ih (Value.distinct_record_iff.mp (h.of_valueOf? hinner))))
    · exact h

theorem valueOf_distinct (reading : Reading) (content : Text) :
    Yields Value.Distinct (valueOf reading content) := by
  unfold valueOf
  split
  · exact .ok (.other nofun)
  · split
    · exact .ok (.other nofun)
    · exact Json.read_distinct content
    · split
      · exact .ok (.other nofun)
      · exact Json.read_distinct content

theorem nestedFields_distinct (whole : Slot) (setting : Text) (environment : Table Text Text) :
    Yields (Keyed Value.Distinct) (nestedFields whole setting environment) := by
  have hfold : ∀ (given : List (List Text × Text)) {fields : List (Text × Value)},
      Keyed Value.Distinct fields → Yields (Keyed Value.Distinct)
        (given.foldlM (fun fields v => placeVariable whole fields v.1 v.2) fields) := by
    intro given
    induction given with
    | nil => exact fun h => .ok h
    | cons v given ih =>
      intro fields h
      rw [List.foldlM_cons]
      exact ((valueOf_distinct _ v.2).bind fun value hvalue =>
        .ok (placeAt_distinct hvalue _ h)).bind fun new hnew => ih hnew
  exact hfold _ .nil

theorem structured?_distinct (whole : Slot) (setting : Text) (environment : Table Text Text) :
    Yields (fun found => ∀ value, found = some value → value.Distinct)
      (structured? whole setting environment) := by
  have hsome : ∀ {value : Value}, value.Distinct →
      ∀ found, some value = some found → found.Distinct := by
    rintro value h _ ⟨⟩
    exact h
  unfold structured?
  refine Yields.mapError ?_
  split
  · refine (nestedFields_distinct whole setting environment).bind fun fields h => .ok ?_
    split
    · exact nofun
    · exact hsome (Value.distinct_record_iff.mpr h)
  · refine (Json.read_distinct _).bind fun value hvalue => ?_
    split
    · exact .ok nofun
    · refine (nestedFields_distinct whole setting environment).bind fun fields h => .ok ?_
      exact hsome (Value.distinct_record_iff.mpr (Value.overlayFields_distinct
        (Value.distinct_record_iff.mp hvalue) h.values))
    · exact .ok (hsome hvalue)

theorem respelled_distinct (names : List Text) {value : Value} (h : value.Distinct) :
    (respelled names value).Distinct := by
  unfold respelled
  split
  · refine Value.distinct_record_iff.mpr (Keyed.ofList fun field hfield => ?_)
    obtain ⟨old, hold, rfl⟩ := List.mem_map.mp hfield
    exact (Value.distinct_record_iff.mp h).values old hold
  · exact h

/-- The environment names no setting twice, and no setting in it names a field twice. -/
theorem settings_distinct (environment : Table Text Text) :
    Yields (Keyed Value.Distinct) (settings environment) := by
  unfold settings
  refine (structured?_distinct _ _ _).bind fun layouts hlayouts => ?_
  refine (structured?_distinct _ _ _).bind fun build hbuild => .ok ?_
  have hswitches : Keyed Value.Distinct (switchNames.filterMap fun name =>
      ((lowered environment).get? (variableLead ++ name)).map fun content =>
        (name, Value.text content)) := by
    have hfound := @keyed_filterMap Value.Distinct switchNames (by decide)
      (fun name => ((lowered environment).get? (variableLead ++ name)).map .text)
      fun name _ value hvalue => by
        obtain ⟨_, -, rfl⟩ := Option.map_eq_some_iff.mp hvalue
        exact .other nofun
    simpa only [Option.map_map, Function.comp_def] using hfound
  have hswitchName : ∀ field ∈ switchNames.filterMap (fun name =>
      ((lowered environment).get? (variableLead ++ name)).map fun content =>
        (name, Value.text content)), field.1 ∈ switchNames := by
    intro field hfield
    obtain ⟨name, hname, hmap⟩ := List.mem_filterMap.mp hfield
    obtain ⟨_, -, rfl⟩ := Option.map_eq_some_iff.mp hmap
    exact hname
  have hnames : ∀ name ∈ switchNames, name ≠ "layouts".toList ∧ name ≠ "build".toList := by
    decide
  refine (hswitches.append (keyed_toList "layouts".toList id hlayouts) ?_).append
    (keyed_toList "build".toList _ fun value hvalue => respelled_distinct _ (hbuild value hvalue))
    ?_
  · intro field hfield other hother
    rw [@eq_of_mem_toList _ id _ _ hother]
    exact (hnames _ (hswitchName field hfield)).1
  · intro field hfield other hother
    rw [eq_of_mem_toList hother]
    rcases List.mem_append.mp hfield with hfield | hfield
    · exact (hnames _ (hswitchName field hfield)).2
    · rw [@eq_of_mem_toList _ id _ _ hfield]
      decide

end Environment

/-- The configuration in a file names no field twice. -/
theorem Surroundings.configData_distinct (around : Surroundings) (file : Option Path) :
    Yields Value.Distinct (around.configData file) := by
  cases file with
  | none => exact .ok (Value.distinct_record_iff.mpr .nil)
  | some file =>
    have hdocument : Yields (Keyed Value.Distinct) (around.readDocument file) :=
      (Yields.trivial _).bind fun text _ => (Toml.read_distinct text).mapError
    refine hdocument.bind fun fields h => ?_
    have hfield : ∀ {fields : List (Text × Value)}, Keyed Value.Distinct fields → ∀ name,
        ((Value.field? fields name).getD (.record [])).Distinct := by
      intro fields h name
      cases hvalue : Value.field? fields name with
      | none => exact Value.distinct_record_iff.mpr .nil
      | some value =>
        rw [Value.field?_eq_valueOf?] at hvalue
        exact h.of_valueOf? hvalue
    split
    · have htools := hfield h toolField
      split
      · rename_i tools heq
        rw [heq] at htools
        exact .ok (hfield (Value.distinct_record_iff.mp htools) toolName)
      · exact .error
    · exact .ok (Value.distinct_record_iff.mpr h)

end NamedGrid
