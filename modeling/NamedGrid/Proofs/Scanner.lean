import Mathlib.Data.List.Induction
import Mathlib.Data.List.TakeWhile
import NamedGrid.Proofs.ClassNames

/-!
# Scanning markup

A class in markup is a lead, a value and a bracket, and none of these contains a blank, a
quotation mark or a backtick. So such a delimiter is never inside a class: what is scanned
before it and what is scanned behind it do not depend on each other, and a class that
stands between two of them is found wherever it is.
-/

namespace NamedGrid

/-- The characters that end a class in markup: blanks, quotation marks and the backtick. -/
def isDelimiter (c : Char) : Bool := isBlank c || c == '"' || c == '\x27' || c == '\x60'

/-- A delimiter has no place in a value. -/
theorem isValueChar_of_isDelimiter {c : Char} (h : isDelimiter c = true) :
    isValueChar c = false := by
  simp only [isDelimiter, Bool.or_eq_true, beq_iff_eq] at h
  rcases h with ((h | rfl) | rfl) | rfl
  · simp [isValueChar, h]
  · decide
  · decide
  · decide

/-! ## Delimiters and words -/

/-- No range of blanks meets a range of word characters. -/
theorem blankRanges_apart :
    ∀ b ∈ blankRanges, ∀ w ∈ wordRanges, b.2 < w.1 ∨ w.2 < b.1 := by decide +kernel

/-- Within ASCII no blank is a word character. -/
theorem isWordChar_of_isBlank_ascii :
    ∀ n < 128, isBlank (Char.ofNat n) = true → isWordChar (Char.ofNat n) = false := by
  decide +kernel

/-- A blank is no word character. -/
theorem isWordChar_of_isBlank {c : Char} (h : isBlank c = true) : isWordChar c = false := by
  by_cases hascii : c.toNat < 128
  · simpa only [Char.ofNat_toNat] using
      isWordChar_of_isBlank_ascii c.toNat hascii (by rwa [Char.ofNat_toNat])
  · rw [isWordChar, if_neg hascii, Bool.eq_false_iff]
    intro hw
    obtain ⟨b, hb, hlo, hhi⟩ := CharRanges.holds_iff.mp h
    obtain ⟨w, hw, hwlo, hwhi⟩ := CharRanges.holds_iff.mp hw
    have hapart := blankRanges_apart b hb w hw
    omega

/-- A class may follow a delimiter. -/
theorem isBoundary_of_isDelimiter {c : Char} (h : isDelimiter c = true) :
    isBoundary c = true := by
  simp only [isDelimiter, Bool.or_eq_true, beq_iff_eq] at h
  rcases h with ((h | rfl) | rfl) | rfl
  · have hne : c ≠ '-' := by
      rintro rfl
      exact absurd h (by decide)
    simp [isBoundary, isWordChar_of_isBlank h, hne]
  · decide
  · decide
  · decide

/-! ## Classes as they are written -/

/-- A class stands at the front of markup exactly if the markup begins with its lead, a value
and a bracket. -/
theorem written?_eq_some_iff {s stem raw after : Text} :
    written? s = some (stem, raw, after) ↔
      stem ∈ bracketStems ∧ (∀ c ∈ raw, isValueChar c = true) ∧
        s = stem ++ opening ++ raw ++ ']' :: after := by
  have hbracket : isValueChar ']' = false := by decide
  constructor
  · intro h
    unfold written? at h
    split at h
    · contradiction
    · rename_i found rest hs
      obtain ⟨hm, rfl⟩ := stem?_eq_some_iff.mp hs
      split at h
      · rename_i tail hd
        obtain ⟨rfl, hpair⟩ := Prod.mk.inj (Option.some.inj h)
        obtain ⟨rfl, rfl⟩ := Prod.mk.inj hpair
        refine ⟨hm, fun c hc => List.mem_takeWhile_imp hc, ?_⟩
        rw [List.append_assoc (found ++ opening), ← hd, List.takeWhile_append_dropWhile]
      · contradiction
  · rintro ⟨hm, hraw, rfl⟩
    have hs : stem? (stem ++ opening ++ raw ++ ']' :: after) =
        some (stem, raw ++ ']' :: after) :=
      stem?_eq_some_iff.mpr ⟨hm, List.append_assoc ..⟩
    have hd : (raw ++ ']' :: after).dropWhile isValueChar = ']' :: after := by
      rw [List.dropWhile_append_of_pos hraw, List.dropWhile_cons_of_neg (by simp [hbracket])]
    have ht : (raw ++ ']' :: after).takeWhile isValueChar = raw := by
      rw [List.takeWhile_append_of_pos hraw, List.takeWhile_cons_of_neg (by simp [hbracket]),
        List.append_nil]
    simp only [written?, hs, hd, ht]

/-- No delimiter stands in a class. -/
theorem isDelimiter_of_mem_class {stem raw : Text} (hs : stem ∈ bracketStems)
    (hraw : ∀ c ∈ raw, isValueChar c = true) {c : Char}
    (hc : c ∈ stem ++ opening ++ raw ++ [']']) : isDelimiter c = false := by
  have hall : ∀ stem ∈ bracketStems,
      (stem ++ opening ++ [']']).all (fun c => !isDelimiter c) = true := by decide
  have hlead : ∀ c ∈ stem ++ opening ++ [']'], isDelimiter c = false := by
    intro c hc
    rw [← Bool.not_eq_true']
    exact List.all_eq_true.mp (hall stem hs) c hc
  simp only [List.mem_append] at hc
  rcases hc with (hc | hc) | hc
  · exact hlead c (List.mem_append_left _ (List.mem_append.mpr hc))
  · rw [Bool.eq_false_iff]
    intro hd
    exact absurd (hraw c hc) (by simp [isValueChar_of_isDelimiter hd])
  · exact hlead c (List.mem_append_right _ hc)

/-- Whether a class stands at the front does not depend on what comes behind a delimiter. -/
theorem written?_append_delimiter {d : Char} (hd : isDelimiter d = true) (s b : Text) :
    written? (s ++ d :: b) = (written? s).map fun o => (o.1, o.2.1, o.2.2 ++ d :: b) := by
  cases h : written? s with
  | some o =>
    obtain ⟨stem, raw, after⟩ := o
    obtain ⟨hm, hraw, rfl⟩ := written?_eq_some_iff.mp h
    exact written?_eq_some_iff.mpr ⟨hm, hraw, by simp⟩
  | none =>
    rw [Option.map_none, ← Option.not_isSome_iff_eq_none, Option.isSome_iff_exists]
    rintro ⟨⟨stem, raw, after⟩, hs⟩
    obtain ⟨hm, hraw, he⟩ := written?_eq_some_iff.mp hs
    have he : s ++ d :: b = (stem ++ opening ++ raw ++ [']']) ++ after := by
      simpa using he
    -- The class ends before the delimiter, so it stands in what comes before it.
    obtain ⟨t, ht⟩ : ∃ t, s = (stem ++ opening ++ raw ++ [']']) ++ t := by
      rcases List.append_eq_append_iff.mp he with ⟨t, ht, hb⟩ | ⟨t, ht, -⟩
      · cases t with
        | nil => exact ⟨[], by rw [ht, List.append_nil, List.append_nil]⟩
        | cons e t =>
          obtain ⟨rfl, -⟩ := List.cons.inj hb
          have hmem : d ∈ stem ++ opening ++ raw ++ [']'] := by
            rw [ht]
            exact List.mem_append_right _ List.mem_cons_self
          exact absurd hd (by simp [isDelimiter_of_mem_class hm hraw hmem])
      · exact ⟨t, ht⟩
    have hsome : written? s = some (stem, raw, t) :=
      written?_eq_some_iff.mpr ⟨hm, hraw, by simpa using ht⟩
    rw [h] at hsome
    cases hsome

/-! ## Occurrences -/

theorem occurrences_cons_of_written? {previous : Option Char} {c : Char}
    {rest stem raw after : Text} (hp : previous.all isBoundary = true)
    (h : written? (c :: rest) = some (stem, raw, after)) :
    occurrences previous (c :: rest) = (stem, raw) :: occurrences (some ']') after := by
  rw [occurrences, if_pos hp]
  split
  · rename_i stem' raw' after' h'
    rw [h] at h'
    obtain ⟨rfl, hpair⟩ := Prod.mk.inj (Option.some.inj h')
    obtain ⟨rfl, rfl⟩ := Prod.mk.inj hpair
    rfl
  · rename_i h'
    rw [h] at h'
    cases h'

theorem occurrences_cons_of_none {previous : Option Char} {c : Char} {rest : Text}
    (h : previous.all isBoundary = true → written? (c :: rest) = none) :
    occurrences previous (c :: rest) = occurrences (some c) rest := by
  rw [occurrences]
  split
  · rename_i hp
    split
    · rename_i h'
      rw [h hp] at h'
      cases h'
    · rfl
  · rfl

/-- Every occurrence has a known stem and a value that markup can hold. -/
theorem of_mem_occurrences {previous : Option Char} {s : Text} {o : Text × Text}
    (h : o ∈ occurrences previous s) :
    o.1 ∈ bracketStems ∧ ∀ c ∈ o.2, isValueChar c = true := by
  fun_induction occurrences previous s with
  | case1 => cases h
  | case2 previous c rest hp stem raw after hw ih =>
    rcases List.mem_cons.mp h with rfl | h
    · obtain ⟨hs, hraw, -⟩ := written?_eq_some_iff.mp hw
      exact ⟨hs, hraw⟩
    · exact ih h
  | case3 previous c rest hp hw ih => exact ih h
  | case4 previous c rest hp ih => exact ih h

/-- **Occurrences split at a delimiter.** -/
theorem occurrences_append_delimiter {d : Char} (hd : isDelimiter d = true)
    (previous : Option Char) (a b : Text) :
    occurrences previous (a ++ d :: b) =
      occurrences previous a ++ occurrences (some d) b := by
  fun_induction occurrences previous a with
  | case1 previous =>
    apply occurrences_cons_of_none
    intro _
    have hnil := written?_append_delimiter hd [] b
    rwa [List.nil_append] at hnil
  | case2 previous c rest hp stem raw after hw ih =>
    have happ := written?_append_delimiter hd (c :: rest) b
    rw [hw, Option.map_some, List.cons_append] at happ
    rw [List.cons_append, occurrences_cons_of_written? hp happ, ih, List.cons_append]
  | case3 previous c rest hp hw ih =>
    have happ := written?_append_delimiter hd (c :: rest) b
    rw [hw, Option.map_none, List.cons_append] at happ
    rw [List.cons_append, occurrences_cons_of_none fun _ => happ, ih]
  | case4 previous c rest hp ih =>
    rw [List.cons_append, occurrences_cons_of_none fun h => absurd h hp, ih]

/-! ## Delimited classes -/

/-- The text stands in the markup between two delimiters, of which the ends of the markup may
take the place. -/
def IsDelimited (markup token : Text) : Prop :=
  ∃ before after, markup = before ++ token ++ after ∧
    before.getLast?.all isDelimiter = true ∧ after.head?.all isDelimiter = true

/-- A class behind a delimiter or at the start of markup is an occurrence. -/
theorem mem_occurrences {before stem raw after : Text} (hs : stem ∈ bracketStems)
    (hraw : ∀ c ∈ raw, isValueChar c = true) (hb : before.getLast?.all isDelimiter = true) :
    (stem, raw) ∈ occurrences none (before ++ (stem ++ opening ++ raw ++ ']' :: after)) := by
  have hfront : ∀ previous : Option Char, previous.all isBoundary = true →
      (stem, raw) ∈ occurrences previous (stem ++ opening ++ raw ++ ']' :: after) := by
    intro previous hp
    have hw : written? (stem ++ opening ++ raw ++ ']' :: after) = some (stem, raw, after) :=
      written?_eq_some_iff.mpr ⟨hs, hraw, rfl⟩
    cases hcons : stem ++ opening ++ raw ++ ']' :: after with
    | nil => simp at hcons
    | cons c rest =>
      rw [hcons] at hw
      rw [occurrences_cons_of_written? hp hw]
      exact List.mem_cons_self
  induction before using List.reverseRecOn with
  | nil => exact hfront none rfl
  | append_singleton before d _ =>
    have hd : isDelimiter d = true := by simpa using hb
    rw [List.append_assoc, List.singleton_append, occurrences_append_delimiter hd]
    exact List.mem_append_right _ (hfront (some d) (isBoundary_of_isDelimiter hd))

/-! ## Reported classes -/

/-- A class that is written, with the escapes of its value taken away. -/
def BracketedClass.unescaped (c : BracketedClass) : BracketedClass := ⟨c.stem, unescape c.value⟩

/-- A value that is written has a value when its escapes are taken away. -/
theorem unescape_ne_nil {s : Text} (h : s ≠ []) : unescape s ≠ [] := by
  fun_cases unescape s <;> simp_all

/-- To take escapes away adds nothing. -/
theorem unescape_subset (s : Text) : unescape s ⊆ s := by
  fun_induction unescape s with
  | case1 s ih =>
    exact List.cons_subset_cons _ ih
  | case2 c s hc ih => exact List.subset_cons_of_subset _ (List.cons_subset_cons c ih)
  | case3 c s h ih => exact List.cons_subset_cons c ih
  | case4 => exact List.Subset.refl []

theorem length_unescape_le (s : Text) : (unescape s).length ≤ s.length := by
  fun_induction unescape s with
  | case1 s ih => exact Nat.succ_le_succ ih
  | case2 c s hc ih => exact Nat.le_succ_of_le (Nat.succ_le_succ ih)
  | case3 c s hescape ih => exact Nat.succ_le_succ ih
  | case4 => exact Nat.le_refl 0

/-- Taking escapes away leaves a text on one line as it is exactly if no backslash stands before
its last character. -/
theorem unescape_eq_self_iff {s : Text} (h : '\n' ∉ s) :
    unescape s = s ↔ '\\' ∉ s.dropLast := by
  fun_induction unescape s with
  | case1 s ih => simp at h
  | case2 c s hc ih =>
    -- An escape that is taken away leaves a shorter text.
    refine iff_of_false (fun heq => ?_) (by simp)
    have hlength := congrArg List.length heq
    have hle := length_unescape_le s
    simp only [List.length_cons] at hlength
    omega
  | case3 c s hescape ih =>
    obtain ⟨-, hs⟩ := not_or.mp (mt List.mem_cons.mpr h)
    rw [List.cons_inj_right, ih hs]
    cases s with
    | nil => simp
    | cons d s =>
      have hc : '\\' ≠ c := fun heq => hescape d s heq.symm rfl
      rw [List.dropLast_cons_cons, List.mem_cons, or_iff_right hc]
  | case4 => simp

/-- A class is the same without its escapes exactly if no backslash in its value protects a
character. -/
theorem BracketedClass.unescaped_eq_self_iff (c : BracketedClass) (h : '\n' ∉ c.value) :
    c.unescaped = c ↔ '\\' ∉ c.value.dropLast := by
  rw [← NamedGrid.unescape_eq_self_iff h, unescaped]
  exact ⟨fun heq => congrArg value heq, fun heq => by rw [heq]⟩

/-- The classes of markup are the occurrences with their escapes taken away. -/
theorem mem_bracketedClasses {markup : Text} {c : BracketedClass} :
    c ∈ bracketedClasses markup ↔
      (∃ o ∈ occurrences none markup, c = ⟨o.1, unescape o.2⟩) ∧ c.value ≠ [] := by
  simp only [bracketedClasses, List.mem_eraseDups, List.mem_filter, List.mem_map,
    Bool.not_eq_true', List.isEmpty_eq_false_iff, ← eq_comm (b := c)]

/-- A class name is read with the escapes of its value taken away, if it has no line feed. -/
theorem parse?_className_of_hasNewline {c : BracketedClass} (hs : c.stem ∈ bracketStems)
    (hnewline : Text.hasNewline c.value = false) :
    BracketedClass.parse? c.className = some c.unescaped := by
  have hvalue : '\n' ∉ c.value := fun hm =>
    Bool.false_ne_true (hnewline.symm.trans (List.contains_iff_mem.mpr hm))
  exact BracketedClass.parse?_eq_some_iff.mpr
    ⟨c, hs, hvalue, BracketedClass.isWrittenAs_className c, rfl⟩

/-- A class that is written with a value is read with its escapes taken away. -/
theorem parse?_className {c : BracketedClass} (hs : c.stem ∈ bracketStems)
    (hraw : ∀ d ∈ c.value, isValueChar d = true) :
    BracketedClass.parse? c.className = some c.unescaped := by
  refine parse?_className_of_hasNewline hs ?_
  rw [Bool.eq_false_iff, Text.hasNewline, ne_eq, List.contains_iff_mem]
  intro hm
  exact absurd (hraw '\n' hm) (by decide)

/-- Every class of markup has a known stem. -/
theorem stem_mem_of_mem_bracketedClasses {markup : Text} {c : BracketedClass}
    (h : c ∈ bracketedClasses markup) : c.stem ∈ bracketStems := by
  obtain ⟨⟨o, ho, rfl⟩, -⟩ := mem_bracketedClasses.mp h
  exact (of_mem_occurrences ho).1

/-- No value of a class of markup has a blank. -/
theorem isBlank_of_mem_value {markup : Text} {c : BracketedClass}
    (h : c ∈ bracketedClasses markup) : ∀ d ∈ c.value, isBlank d = false := by
  obtain ⟨⟨o, ho, rfl⟩, -⟩ := mem_bracketedClasses.mp h
  intro d hd
  have hvalue := (of_mem_occurrences ho).2 d (unescape_subset o.2 hd)
  simp only [isValueChar, Bool.and_eq_true, Bool.not_eq_true'] at hvalue
  exact hvalue.1.1.1.1

/-- A delimited class with a value is reported with its escapes taken away. -/
theorem mem_bracketedClasses_of_isDelimited {markup : Text} {c : BracketedClass}
    (hs : c.stem ∈ bracketStems) (hne : c.value ≠ [])
    (hraw : ∀ d ∈ c.value, isValueChar d = true) (h : IsDelimited markup c.className) :
    c.unescaped ∈ bracketedClasses markup := by
  obtain ⟨before, after, rfl, hb, -⟩ := h
  have ho : (c.stem, c.value) ∈
      occurrences none (before ++ (c.stem ++ opening ++ c.value ++ ']' :: after)) :=
    mem_occurrences hs hraw hb
  refine mem_bracketedClasses.mpr ⟨⟨(c.stem, c.value), ?_, rfl⟩, unescape_ne_nil hne⟩
  simpa only [BracketedClass.className, List.append_assoc, List.singleton_append] using ho

end NamedGrid
