import NamedGrid.Proofs.Scanner
import NamedGrid.Proofs.Table

/-!
# Where classes stand in markup

The scanner goes from left to right and takes up again behind a class that it has found. So
the classes that it finds are apart and in order, and a place where a class could start is
passed over only inside one that was found before (`IsScanFrom`). No delimiter is inside a
class, which is why a class behind a delimiter is never passed over. What is reported are these
classes with their escapes taken away, each where it is first found.
-/

namespace NamedGrid

/-- A class at its place in markup: what comes before it, its stem, its value as written. -/
structure Occurrence where
  before : Text
  stem : Text
  raw : Text

namespace Occurrence

variable {markup : Text} {o : Occurrence}

/-- The class as it is written. -/
def written (o : Occurrence) : Text := o.stem ++ opening ++ o.raw ++ [']']

/-- The position at which the class starts. -/
def start (o : Occurrence) : Nat := o.before.length

/-- The position behind the class. -/
def stop (o : Occurrence) : Nat := o.start + o.written.length

/-- The class with the escapes of its value taken away. -/
def reported (o : Occurrence) : BracketedClass := ⟨o.stem, unescape o.raw⟩

/-- A class stands in the markup where the occurrence says, and not behind a word character
or a hyphen. -/
structure IsIn (markup : Text) (o : Occurrence) : Prop where
  stem : o.stem ∈ bracketStems
  value : ∀ c ∈ o.raw, isValueChar c = true
  boundary : o.before.getLast?.all isBoundary = true
  place : o.before ++ o.written <+: markup

theorem start_lt_stop (o : Occurrence) : o.start < o.stop := by
  have hlength : 0 < o.written.length := by
    rw [written, List.length_append]
    exact Nat.succ_pos _
  rw [stop]
  omega

theorem IsIn.stop_le (h : o.IsIn markup) : o.stop ≤ markup.length := by
  have hlength := h.place.length_le
  rwa [List.length_append] at hlength

/-- Occurrences that start at the same place come behind the same text. -/
theorem IsIn.before_eq {before s : Text} (h : o.IsIn (before ++ s))
    (hstart : o.start = before.length) : o.before = before := by
  have hplace : o.before <+: before ++ s := (List.prefix_append _ _).trans h.place
  have hle : o.before <+: before :=
    List.prefix_of_prefix_length_le hplace (List.prefix_append before s) (Nat.le_of_eq hstart)
  exact hle.eq_of_length hstart

/-- An occurrence at the front of the rest is the class that is found there. -/
theorem IsIn.written?_eq {before s : Text} (h : o.IsIn (before ++ s))
    (hstart : o.start = before.length) :
    ∃ after, written? s = some (o.stem, o.raw, after) := by
  obtain ⟨after, hafter⟩ := h.place
  rw [h.before_eq hstart, List.append_assoc] at hafter
  refine ⟨after, written?_eq_some_iff.mpr ⟨h.stem, h.value, ?_⟩⟩
  rw [← List.append_cancel_left hafter, written, List.append_assoc, List.singleton_append]

/-- At one place of a text there is at most one occurrence. -/
theorem IsIn.eq_of_start {p : Occurrence} (ho : o.IsIn markup) (hp : p.IsIn markup)
    (hstart : o.start = p.start) : o = p := by
  obtain ⟨rest, rfl⟩ := hp.place
  rw [List.append_assoc] at ho hp
  have hbefore := ho.before_eq hstart
  obtain ⟨after, hafter⟩ := ho.written?_eq hstart
  obtain ⟨after', hafter'⟩ := hp.written?_eq rfl
  rw [hafter] at hafter'
  obtain ⟨hstem, hpair⟩ := Prod.mk.inj (Option.some.inj hafter')
  cases o
  cases p
  simp_all

end Occurrence

/-! ## Scans -/

/-- The occurrences that are found from a position on by a reader who goes from left to right
and takes up again behind each: they are apart and in order, and another one can only start
inside of one that is found. -/
structure IsScanFrom (position : Nat) (markup : Text) (found : List Occurrence) : Prop where
  isIn : ∀ o ∈ found, o.IsIn markup
  behind : ∀ o ∈ found, position ≤ o.start
  apart : found.Pairwise fun o p => o.stop ≤ p.start
  leftmost : ∀ o : Occurrence, o.IsIn markup → position ≤ o.start →
    o ∈ found ∨ ∃ p ∈ found, p.start < o.start ∧ o.start < p.stop

namespace IsScanFrom

variable {markup : Text} {found : List Occurrence}

/-- Nothing is left to be found at the end. -/
theorem nil : IsScanFrom markup.length markup [] where
  isIn := by simp
  behind := by simp
  apart := .nil
  leftmost o ho hle := by
    have hstop := ho.stop_le
    have hlt := o.start_lt_stop
    omega

/-- A position at which no class starts is passed over. -/
theorem skip {position : Nat} (hnone : ∀ o : Occurrence, o.IsIn markup → o.start ≠ position)
    (h : IsScanFrom (position + 1) markup found) : IsScanFrom position markup found where
  isIn := h.isIn
  behind o ho := Nat.le_of_succ_le (h.behind o ho)
  apart := h.apart
  leftmost o ho hle := h.leftmost o ho (Nat.lt_of_le_of_ne hle (hnone o ho).symm)

/-- A class that starts at the position is found, and the scan goes on behind it. -/
theorem cons {first : Occurrence} (hfirst : first.IsIn markup)
    (h : IsScanFrom first.stop markup found) :
    IsScanFrom first.start markup (first :: found) where
  isIn := List.forall_mem_cons.mpr ⟨hfirst, h.isIn⟩
  behind := by
    refine List.forall_mem_cons.mpr ⟨Nat.le_refl _, fun o ho => ?_⟩
    have hbehind := h.behind o ho
    have hlt := first.start_lt_stop
    omega
  apart := List.pairwise_cons.mpr ⟨h.behind, h.apart⟩
  leftmost o ho hle := by
    by_cases hstart : o.start = first.start
    · exact Or.inl (ho.eq_of_start hfirst hstart ▸ List.mem_cons_self)
    · by_cases hinside : o.start < first.stop
      · exact Or.inr ⟨first, List.mem_cons_self, by omega, hinside⟩
      · rcases h.leftmost o ho (by omega) with hmem | ⟨p, hp, hover⟩
        · exact Or.inl (List.mem_cons_of_mem _ hmem)
        · exact Or.inr ⟨p, List.mem_cons_of_mem _ hp, hover⟩

/-- The places at which classes are found ascend. -/
theorem start_lt (h : IsScanFrom 0 markup found) :
    found.Pairwise fun o p => o.start < p.start :=
  h.apart.imp fun {o _} hle => Nat.lt_of_lt_of_le o.start_lt_stop hle

end IsScanFrom

/-- **The scanner finds a scan.** The text before the rest grows by a class or by a character. -/
theorem exists_isScanFrom (before s : Text) :
    ∃ found, IsScanFrom before.length (before ++ s) found ∧
      found.map (fun o => (o.stem, o.raw)) = occurrences before.getLast? s := by
  have hskip : ∀ (before : Text) (c : Char) (rest : Text),
      (∀ o : Occurrence, o.IsIn (before ++ c :: rest) → o.start ≠ before.length) →
      (∃ found, IsScanFrom (before ++ [c]).length ((before ++ [c]) ++ rest) found ∧
        found.map (fun o => (o.stem, o.raw)) = occurrences (some c) rest) →
      ∃ found, IsScanFrom before.length (before ++ c :: rest) found ∧
        found.map (fun o => (o.stem, o.raw)) = occurrences (some c) rest := by
    rintro before c rest hnone ⟨found, hscan, hfound⟩
    rw [List.append_assoc, List.singleton_append, List.length_append] at hscan
    exact ⟨found, hscan.skip hnone, hfound⟩
  generalize hprevious : before.getLast? = previous
  fun_induction occurrences previous s generalizing before with
  | case1 previous => exact ⟨[], by rw [List.append_nil]; exact .nil, rfl⟩
  | case2 previous c rest hp stem raw after hw ih =>
    obtain ⟨hstem, hraw, hs⟩ := written?_eq_some_iff.mp hw
    let first : Occurrence := ⟨before, stem, raw⟩
    have hsplit : before ++ c :: rest = (before ++ first.written) ++ after := by
      rw [hs]
      simp [first, Occurrence.written]
    have hfirst : first.IsIn (before ++ c :: rest) :=
      ⟨hstem, hraw, by rwa [hprevious], hsplit ▸ List.prefix_append _ _⟩
    have hlast : (before ++ first.written).getLast? = some ']' := by
      simp [Occurrence.written]
    obtain ⟨found, hscan, hfound⟩ := ih (before ++ first.written) hlast
    rw [← hsplit, List.length_append] at hscan
    exact ⟨first :: found, hscan.cons hfirst, by rw [List.map_cons, hfound]⟩
  | case3 previous c rest hp hw ih =>
    refine hskip before c rest (fun o ho hstart => ?_) (ih (before ++ [c]) (by simp))
    obtain ⟨after, hafter⟩ := ho.written?_eq hstart
    rw [hw] at hafter
    cases hafter
  | case4 previous c rest hp ih =>
    refine hskip before c rest (fun o ho hstart => ?_) (ih (before ++ [c]) (by simp))
    have hboundary := ho.boundary
    rw [ho.before_eq hstart, hprevious] at hboundary
    exact hp hboundary

/-! ## Reported classes -/

/-- What is reported are the classes that are found with a value, each once. -/
theorem bracketedClasses_eq {markup : Text} {found : List Occurrence}
    (h : found.map (fun o => (o.stem, o.raw)) = occurrences none markup) :
    bracketedClasses markup =
      ((found.filter fun o => !o.reported.value.isEmpty).map Occurrence.reported).eraseDups := by
  rw [bracketedClasses, ← h, List.map_map, List.filter_map]
  rfl

/-- What is reported is found and has a value. -/
theorem mem_bracketedClasses_iff {markup : Text} {found : List Occurrence}
    (h : found.map (fun o => (o.stem, o.raw)) = occurrences none markup) {c : BracketedClass} :
    c ∈ bracketedClasses markup ↔ c.value ≠ [] ∧ ∃ o ∈ found, o.reported = c := by
  rw [bracketedClasses_eq h, List.mem_eraseDups, List.mem_map]
  constructor
  · rintro ⟨o, ho, rfl⟩
    obtain ⟨ho, hvalue⟩ := List.mem_filter.mp ho
    exact ⟨by simpa using hvalue, o, ho, rfl⟩
  · rintro ⟨hvalue, o, ho, rfl⟩
    exact ⟨o, List.mem_filter.mpr ⟨ho, by simpa using hvalue⟩, rfl⟩

/-- Classes are reported in the order in which they are first found. -/
theorem pairwise_bracketedClasses {markup : Text} {found : List Occurrence}
    (hscan : IsScanFrom 0 markup found)
    (h : found.map (fun o => (o.stem, o.raw)) = occurrences none markup) :
    (bracketedClasses markup).Pairwise fun c d =>
      ∃ o ∈ found, o.reported = c ∧ ∀ p ∈ found, p.reported = d → o.start < p.start := by
  have horder := pairwise_eraseDups_map Occurrence.reported
    (hscan.start_lt.filter fun o => !o.reported.value.isEmpty)
  rw [← bracketedClasses_eq h] at horder
  refine horder.imp_of_mem ?_
  rintro c d - hd ⟨o, ho, hoc, hall⟩
  refine ⟨o, (List.mem_filter.mp ho).1, hoc, fun p hp hpd => hall p ?_ hpd⟩
  have hvalue := ((mem_bracketedClasses_iff h).mp hd).1
  exact List.mem_filter.mpr ⟨hp, by simpa [hpd] using hvalue⟩

/-- An occurrence cuts the markup in three. -/
theorem Occurrence.IsIn.exists_eq {markup : Text} {o : Occurrence} (h : o.IsIn markup) :
    ∃ after, markup = o.before ++ (o.stem ++ opening ++ o.raw ++ ']' :: after) := by
  obtain ⟨after, hafter⟩ := h.place
  refine ⟨after, ?_⟩
  rw [← hafter]
  simp [Occurrence.written]

/-- **Scanning is complete and sound.** Every class with a value at the start of the markup or
behind a delimiter is reported with its escapes taken away; every class that is reported stands
in the markup, not behind a word character or a hyphen; no class is reported twice, and they
come in the order in which a reader from left to right first finds them. -/
theorem bracketedClasses_complete_and_sound (markup : Text) :
    (∀ before stem raw after : Text, stem ∈ bracketStems → raw ≠ [] →
      (∀ c ∈ raw, isValueChar c = true) → before.getLast?.all isDelimiter = true →
      markup = before ++ (stem ++ opening ++ raw ++ ']' :: after) →
      ⟨stem, unescape raw⟩ ∈ bracketedClasses markup) ∧
    (∀ c ∈ bracketedClasses markup, ∃ before raw after : Text,
      markup = before ++ (c.stem ++ opening ++ raw ++ ']' :: after) ∧
      c.stem ∈ bracketStems ∧ raw ≠ [] ∧ (∀ d ∈ raw, isValueChar d = true) ∧
      before.getLast?.all isBoundary = true ∧ c.value = unescape raw) ∧
    (bracketedClasses markup).Nodup ∧
    ∃ found : List Occurrence, IsScanFrom 0 markup found ∧
      (∀ c, c ∈ bracketedClasses markup ↔ c.value ≠ [] ∧ ∃ o ∈ found, o.reported = c) ∧
      (bracketedClasses markup).Pairwise fun c d =>
        ∃ o ∈ found, o.reported = c ∧ ∀ p ∈ found, p.reported = d → o.start < p.start := by
  obtain ⟨found, hscan, hfound⟩ := exists_isScanFrom [] markup
  rw [List.nil_append] at hscan
  refine ⟨fun before stem raw after hs hne hraw hb he => ?_, fun c hc => ?_, ?_, found, hscan,
    fun c => mem_bracketedClasses_iff hfound, pairwise_bracketedClasses hscan hfound⟩
  · exact mem_bracketedClasses.mpr
      ⟨⟨(stem, raw), he ▸ mem_occurrences hs hraw hb, rfl⟩, unescape_ne_nil hne⟩
  · obtain ⟨hvalue, o, ho, rfl⟩ := (mem_bracketedClasses_iff hfound).mp hc
    have hin := hscan.isIn o ho
    obtain ⟨after, hafter⟩ := hin.exists_eq
    refine ⟨o.before, o.raw, after, hafter, hin.stem, ?_, hin.value, hin.boundary, rfl⟩
    intro hraw
    refine hvalue ?_
    rw [Occurrence.reported, hraw]
    rfl
  · rw [bracketedClasses_eq hfound]
    exact nodup_eraseDups _

/-- Markup with a class inside the value of another one. -/
def nestedMarkup : Text := "row-start-[row-end-[x] (col-end-[y]) 'row-end-[\\x]'".toList

/-- The class inside is passed over; where it stands by itself it is found. -/
theorem bracketedClasses_nestedMarkup :
    ⟨"row-end".toList, "x".toList⟩ ∈ bracketedClasses nestedMarkup ∧
      bracketedClasses nestedMarkup =
        [⟨"row-start".toList, "row-end-[x".toList⟩, ⟨"col-end".toList, "y".toList⟩,
          ⟨"row-end".toList, "x".toList⟩] := by
  obtain ⟨hcomplete, -⟩ := bracketedClasses_complete_and_sound nestedMarkup
  have hraw : ("\\x".toList.all isValueChar) = true := by decide
  refine ⟨?_, by decide +kernel⟩
  exact hcomplete "row-start-[row-end-[x] (col-end-[y]) '".toList "row-end".toList "\\x".toList
    "'".toList (by decide) (by decide) (List.all_eq_true.mp hraw) (by decide) rfl

end NamedGrid
