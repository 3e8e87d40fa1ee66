import Mathlib.Data.List.Forall2
import Mathlib.Data.List.Induction
import Mathlib.Data.List.Nodup

/-!
# Lists and results

Facts about the first occurrences in a list, about passes over a list that may fail, and about
results with an error.
-/

namespace NamedGrid

universe u v

/-! ## First occurrences -/

section FirstOccurrences

variable {α : Type u} {β : Type v} [BEq α] [LawfulBEq α] [BEq β] [LawfulBEq β]

/-- One more member is a first occurrence exactly when it is new. -/
theorem eraseDups_concat (l : List α) (a : α) :
    (l ++ [a]).eraseDups = if a ∈ l then l.eraseDups else l.eraseDups ++ [a] := by
  rw [List.eraseDups_append]
  by_cases h : a ∈ l
  · simp [List.removeAll, h]
  · simp [List.removeAll, h, List.eraseDups_cons]

/-- First occurrences are distinct. -/
theorem nodup_eraseDups (l : List α) : l.eraseDups.Nodup := by
  induction l using List.reverseRecOn with
  | nil => simp
  | append_singleton l a ih =>
    rw [eraseDups_concat]
    split
    · exact ih
    · rename_i ha
      rw [List.nodup_append]
      refine ⟨ih, by simp, ?_⟩
      intro b hb c hc
      rw [List.mem_singleton] at hc
      subst hc
      rintro rfl
      exact ha (List.mem_eraseDups.mp hb)

/-- A list without repetition is the list of its first occurrences. -/
theorem eraseDups_of_nodup {l : List α} (h : l.Nodup) : l.eraseDups = l := by
  induction l using List.reverseRecOn with
  | nil => rfl
  | append_singleton l a ih =>
    obtain ⟨hl, -, hd⟩ := List.nodup_append.mp h
    have ha : a ∉ l := fun hm => hd a hm a (List.mem_singleton_self a) rfl
    rw [eraseDups_concat, if_neg ha, ih hl]

/-- First occurrences may be taken of an initial part beforehand. -/
theorem eraseDups_eraseDups_append (l m : List α) :
    (l.eraseDups ++ m).eraseDups = (l ++ m).eraseDups := by
  induction m using List.reverseRecOn with
  | nil => simpa using eraseDups_of_nodup (nodup_eraseDups l)
  | append_singleton m a ih =>
    simp only [← List.append_assoc, eraseDups_concat, List.mem_append, List.mem_eraseDups, ih]

/-- First occurrences may be taken of a final part beforehand. -/
theorem eraseDups_append_eraseDups (l m : List α) :
    (l ++ m.eraseDups).eraseDups = (l ++ m).eraseDups := by
  induction m using List.reverseRecOn with
  | nil => rfl
  | append_singleton m a ih =>
    rw [eraseDups_concat, ← List.append_assoc, eraseDups_concat (l ++ m)]
    by_cases hm : a ∈ m
    · simp only [hm, if_true, List.mem_append, or_true, ih]
    · simp only [hm, if_false, ← List.append_assoc, eraseDups_concat, List.mem_append,
        List.mem_eraseDups, or_false, ih]

/-- The first occurrences of two lists are those of the first and behind them the new ones of the
second. -/
theorem eraseDups_append_eq_filter (l m : List α) :
    (l ++ m).eraseDups = l.eraseDups ++ m.eraseDups.filter fun a => !l.contains a := by
  induction m using List.reverseRecOn with
  | nil => simp
  | append_singleton m a ih =>
    rw [← List.append_assoc, eraseDups_concat, eraseDups_concat, ih]
    by_cases hm : a ∈ m
    · simp only [hm, List.mem_append, or_true, if_true]
    · by_cases hl : a ∈ l <;> simp [hm, hl, List.filter_append]

/-- A map that is injective on the members commutes with taking first occurrences. -/
theorem eraseDups_map {f : α → β} {l : List α}
    (h : ∀ a ∈ l, ∀ b ∈ l, f a = f b → a = b) : (l.map f).eraseDups = l.eraseDups.map f := by
  induction l using List.reverseRecOn with
  | nil => rfl
  | append_singleton l a ih =>
    have hl := ih fun b hb c hc => h b (List.mem_append_left _ hb) c (List.mem_append_left _ hc)
    have hmem : f a ∈ l.map f ↔ a ∈ l := by
      refine ⟨fun hm => ?_, List.mem_map_of_mem⟩
      obtain ⟨b, hb, hba⟩ := List.mem_map.mp hm
      have he := h b (List.mem_append_left _ hb) a (by simp) hba
      exact he ▸ hb
    rw [List.map_append, List.map_singleton, eraseDups_concat, eraseDups_concat, hl]
    by_cases ha : a ∈ l
    · rw [if_pos (hmem.mpr ha), if_pos ha]
    · rw [if_neg (mt hmem.mp ha), if_neg ha, List.map_append, List.map_singleton]

/-- First occurrences come in the order in which the whole list has them, also if some members
are left out. -/
theorem pairwise_idxOf_eraseDups_filter (p : α → Bool) (l : List α) :
    (l.filter p).eraseDups.Pairwise fun a b => l.idxOf a < l.idxOf b := by
  induction l using List.reverseRecOn with
  | nil => exact .nil
  | append_singleton l a ih =>
    have hmem : ∀ b ∈ (l.filter p).eraseDups, b ∈ l := fun b hb =>
      (List.mem_filter.mp (List.mem_eraseDups.mp hb)).1
    have hold : (l.filter p).eraseDups.Pairwise fun b c =>
        (l ++ [a]).idxOf b < (l ++ [a]).idxOf c := by
      refine ih.imp_of_mem fun hb hc hlt => ?_
      rwa [List.idxOf_append_of_mem (hmem _ hb), List.idxOf_append_of_mem (hmem _ hc)]
    by_cases hp : p a = true
    · rw [List.filter_append, List.filter_cons_of_pos hp, List.filter_nil, eraseDups_concat]
      split
      · exact hold
      · rename_i hnew
        have ha : a ∉ l := fun hm => hnew (List.mem_filter.mpr ⟨hm, hp⟩)
        refine List.pairwise_append.mpr ⟨hold, List.pairwise_singleton .., fun b hb c hc => ?_⟩
        rw [List.mem_singleton.mp hc, List.idxOf_append_of_mem (hmem b hb),
          List.idxOf_append_of_notMem ha]
        exact Nat.lt_add_right _ (List.idxOf_lt_length_of_mem (hmem b hb))
    · rw [List.filter_append, List.filter_cons_of_neg hp, List.filter_nil, List.append_nil]
      exact hold

end FirstOccurrences

/-- First occurrences come in the order of the members that they stem from. -/
theorem pairwise_eraseDups_map {α β : Type} [BEq β] [LawfulBEq β] {r : α → α → Prop} (f : α → β)
    {l : List α} (h : l.Pairwise r) :
    (l.map f).eraseDups.Pairwise fun b c =>
      ∃ x ∈ l, f x = b ∧ ∀ y ∈ l, f y = c → r x y := by
  induction l using List.reverseRecOn with
  | nil => exact .nil
  | append_singleton l a ih =>
    obtain ⟨hl, -, hlast⟩ := List.pairwise_append.mp h
    have hbefore : ∀ x ∈ l, r x a := fun x hx => hlast x hx a List.mem_cons_self
    have hold : (l.map f).eraseDups.Pairwise fun b c =>
        ∃ x ∈ l ++ [a], f x = b ∧ ∀ y ∈ l ++ [a], f y = c → r x y := by
      refine (ih hl).imp ?_
      rintro b c ⟨x, hx, hxb, hall⟩
      refine ⟨x, List.mem_append_left _ hx, hxb, fun y hy hyc => ?_⟩
      rcases List.mem_append.mp hy with hy | hy
      · exact hall y hy hyc
      · rw [List.mem_singleton.mp hy]
        exact hbefore x hx
    rw [List.map_append, List.map_singleton, eraseDups_concat]
    split
    · exact hold
    · rename_i hnew
      refine List.pairwise_append.mpr ⟨hold, List.pairwise_singleton .., fun b hb c hc => ?_⟩
      obtain ⟨x, hx, rfl⟩ := List.mem_map.mp (List.mem_eraseDups.mp hb)
      refine ⟨x, List.mem_append_left _ hx, rfl, fun y hy hyc => ?_⟩
      rcases List.mem_append.mp hy with hy | hy
      · rw [List.mem_singleton.mp hc] at hyc
        exact absurd (hyc ▸ List.mem_map_of_mem hy) hnew
      · rw [List.mem_singleton.mp hy]
        exact hbefore x hx

/-! ## Chosen members -/

/-- Members that give nothing may be left out. -/
theorem flatMap_filter_of_eq_nil {α β : Type} {P : α → Bool} {f : α → List β} {l : List α}
    (h : ∀ a ∈ l, P a = false → f a = []) : (l.filter P).flatMap f = l.flatMap f := by
  induction l with
  | nil => rfl
  | cons a l ih =>
    obtain ⟨ha, hl⟩ := List.forall_mem_cons.mp h
    cases hP : P a with
    | false => rw [List.filter_cons_of_neg (by simp [hP]), List.flatMap_cons, ha hP, ih hl]; rfl
    | true => rw [List.filter_cons_of_pos hP, List.flatMap_cons, List.flatMap_cons, ih hl]

/-- A list with at most one member begins and ends with the same. -/
theorem head?_eq_getLast? {α : Type} {l : List α} (h : l.length ≤ 1) : l.head? = l.getLast? := by
  match l, h with
  | [], _ => rfl
  | [_], _ => rfl

/-- Members with distinct images have at most one that is sent to a given value. -/
theorem length_filter_le_one {α β : Type} [DecidableEq β] {f : α → β} {l : List α}
    (h : (l.map f).Nodup) (b : β) : (l.filter fun a => f a = b).length ≤ 1 := by
  have hcount := List.nodup_iff_count_le_one.mp h b
  rw [List.count_eq_length_filter, List.filter_map, List.length_map] at hcount
  exact hcount

/-! ## Results -/

section Results

variable {ε ε' α β : Type}

theorem bind_eq_ok_iff {x : Except ε α} {f : α → Except ε β} {b : β} :
    x >>= f = .ok b ↔ ∃ a, x = .ok a ∧ f a = .ok b := by
  cases x <;> simp [bind, Except.bind]

theorem bind_eq_error_iff {x : Except ε α} {f : α → Except ε β} {e : ε} :
    x >>= f = .error e ↔ x = .error e ∨ ∃ a, x = .ok a ∧ f a = .error e := by
  cases x <;> simp [bind, Except.bind]

theorem mapError_eq_ok_iff {x : Except ε α} {f : ε → ε'} {a : α} :
    x.mapError f = .ok a ↔ x = .ok a := by
  cases x with
  | error e => constructor <;> rintro ⟨⟩
  | ok b =>
    constructor
    · rintro ⟨⟩
      rfl
    · rintro ⟨⟩
      rfl

theorem mapError_eq_error_iff {x : Except ε α} {f : ε → ε'} {e' : ε'} :
    x.mapError f = .error e' ↔ ∃ e, x = .error e ∧ f e = e' := by
  cases x with
  | ok a =>
    constructor
    · rintro ⟨⟩
    · rintro ⟨_, ⟨⟩, -⟩
  | error e =>
    constructor
    · rintro ⟨⟩
      exact ⟨e, rfl, rfl⟩
    · rintro ⟨_, ⟨⟩, rfl⟩
      rfl

theorem map_eq_error_iff {x : Except ε α} {f : α → β} {e : ε} :
    x.map f = .error e ↔ x = .error e := by
  cases x <;> simp [Except.map]

/-- A result of which something is observed is there. -/
theorem exists_of_any {x : Except ε α} {p : α → Prop} [DecidablePred p]
    (h : x.toOption.any (fun a => decide (p a)) = true) : ∃ a, x = .ok a ∧ p a := by
  cases x with
  | ok a => exact ⟨a, rfl, of_decide_eq_true h⟩
  | error e => cases h

end Results

/-! ## Passes that may fail -/

/-- A pass over a list succeeds exactly when it succeeds on every member. -/
theorem mapM_eq_ok_iff {α β ε : Type} {f : α → Except ε β} {as : List α} {bs : List β} :
    as.mapM f = .ok bs ↔ List.Forall₂ (fun a b => f a = .ok b) as bs := by
  induction as generalizing bs with
  | nil =>
    rw [List.mapM_nil, List.forall₂_nil_left_iff]
    exact ⟨fun h => (Except.ok.inj h).symm, fun h => h ▸ rfl⟩
  | cons a as ih =>
    rw [List.mapM_cons, List.forall₂_cons_left_iff]
    constructor
    · intro h
      cases ha : f a with
      | error e => simp [ha, bind, Except.bind] at h
      | ok b =>
        cases hrest : as.mapM f with
        | error e => simp [ha, hrest, bind, Except.bind] at h
        | ok rest =>
          simp only [ha, hrest, bind, Except.bind, pure, Except.pure, Except.ok.injEq] at h
          exact ⟨b, rest, rfl, ih.mp hrest, h.symm⟩
    · rintro ⟨b, rest, hb, hrest, rfl⟩
      simp only [hb, ih.mpr hrest, bind, Except.bind, pure, Except.pure]

/-- Every result of a pass over a list is the result of a member. -/
theorem exists_of_mem_of_mapM {α β ε : Type} {f : α → Except ε β} {as : List α} {bs : List β}
    (h : as.mapM f = .ok bs) {b : β} (hb : b ∈ bs) : ∃ a ∈ as, f a = .ok b := by
  rw [mapM_eq_ok_iff] at h
  induction h with
  | nil => cases hb
  | @cons a' b' as bs hab hrest ih =>
    rcases List.mem_cons.mp hb with rfl | hb
    · exact ⟨a', List.mem_cons_self, hab⟩
    · obtain ⟨a, ha, hfa⟩ := ih hb
      exact ⟨a, List.mem_cons_of_mem a' ha, hfa⟩

end NamedGrid
