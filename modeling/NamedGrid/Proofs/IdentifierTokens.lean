import NamedGrid.Proofs.Selectors

/-!
# Escaped names as identifiers

An escaped name is one identifier of a style sheet: a name begins there and goes on to its end,
what stands in no escape are characters of names, and no digit stands where a number would begin.
Together with the reading back of escapes this makes escaped names of distinct names distinct
(`escape_isIdentifier`).
-/

namespace NamedGrid.Identifier

/-- A letter, a digit, a hyphen, the low line or a character beyond ASCII. -/
def IsNameChar (c : Char) : Prop :=
  'a' ≤ c ∧ c ≤ 'z' ∨ 'A' ≤ c ∧ c ≤ 'Z' ∨ '0' ≤ c ∧ c ≤ '9' ∨ c = '-' ∨ c = '_' ∨ '\x80' ≤ c

/-- The characters of a text that stand in no escape. A backslash at the end is none. -/
def bare : Text → Text
  | [] => []
  | '\\' :: c :: s =>
    if isHexDigit c then
      let digits := ((c :: s).takeWhile isHexDigit).take 6
      bare (afterNumber ((c :: s).drop digits.length))
    else bare s
  | c :: s => c :: bare s
termination_by s => s.length
decreasing_by
  · have hle := length_afterNumber_le
      ((c :: s).drop (((c :: s).takeWhile isHexDigit).take 6).length)
    simp only [List.length_drop, List.length_cons] at hle ⊢
    omega
  · exact Nat.lt_succ_of_lt (Nat.lt_succ_self _)
  · exact Nat.lt_succ_self _

/-- A digit stands at the front, or behind a hyphen there. -/
def BeginsWithDigit (s : Text) : Prop :=
  ∃ c t, c.isDigit = true ∧ (s = c :: t ∨ s = '-' :: c :: t)

/-- The text is one identifier from its first character to its last. -/
structure IsIdentifier (s : Text) : Prop where
  begins : begins s = true
  /-- Nothing is left behind the name that begins there. -/
  whole : (read s).2 = []
  bare : ∀ c ∈ bare s, IsNameChar c
  noNumber : ¬BeginsWithDigit s

/-! ## Characters outside of escapes -/

theorem isPlain_iff {c : Char} : isPlain c = true ↔ IsNameChar c := by
  have halpha : c.isAlpha = (c.isUpper || c.isLower) := rfl
  have hupper : c.isUpper = decide ('A' ≤ c ∧ c ≤ 'Z') := rfl
  have hlower : c.isLower = (decide ('a' ≤ c) && decide (c ≤ 'z')) := rfl
  simp only [isPlain, IsNameChar, Char.isAlphanum, halpha, hupper, hlower, Char.isDigit,
    Bool.or_eq_true, Bool.and_eq_true, decide_eq_true_eq, beq_iff_eq, Char.le_def]
  tauto

/-- A character that is no backslash stands in no escape. -/
theorem bare_cons {c : Char} (hc : c ≠ '\\') (s : Text) : bare (c :: s) = c :: bare s := by
  rw [bare]
  rintro d t rfl
  exact absurd rfl hc

/-- One character inside an escaped name stands in no escape only if it stands for itself. -/
theorem bare_escapedChar (c : Char) (s : Text) :
    bare (escapedChar c ++ s) = if isPlain c then c :: bare s else bare s := by
  rw [escapedChar]
  split
  · rename_i hplain
    exact bare_cons (ne_backslash_of_isPlain hplain) s
  · rename_i hplain
    have hhex : isHexDigit c = false := isHexDigit_eq_false hplain
    rw [List.cons_append, List.singleton_append, bare, if_neg (by simp [hhex])]

/-- A number with a space behind it is an escape. -/
theorem bare_number {digits : Text} (hne : digits ≠ []) (hall : digits.all isHexDigit = true)
    (hlen : digits.length ≤ 6) (s : Text) : bare ('\\' :: (digits ++ ' ' :: s)) = bare s := by
  have htake := take_digits hall hlen s
  obtain ⟨c, tail, rfl⟩ := List.exists_cons_of_ne_nil hne
  have hc : isHexDigit c = true := List.all_eq_true.mp hall c List.mem_cons_self
  rw [List.cons_append] at htake ⊢
  rw [bare, if_pos hc, htake]
  dsimp only
  rw [← List.cons_append, List.drop_left]
  rfl

/-- What stands in no escape where an escaped name begins is a character of names. -/
theorem isNameChar_of_mem_bare_escapedChar {c d : Char} {s : Text}
    (hs : ∀ e ∈ bare s, IsNameChar e) (hd : d ∈ bare (escapedChar c ++ s)) : IsNameChar d := by
  rw [bare_escapedChar] at hd
  split at hd
  · rename_i hplain
    rcases List.mem_cons.mp hd with rfl | hd
    · exact isPlain_iff.mp hplain
    · exact hs d hd
  · exact hs d hd

/-- The same holds where a digit would be written by number. -/
theorem isNameChar_of_mem_bare_escapedLead {c d : Char} {s : Text}
    (hs : ∀ e ∈ bare s, IsNameChar e) (hd : d ∈ bare (escapedLead c ++ s)) : IsNameChar d := by
  rw [escapedLead] at hd
  split at hd
  · rename_i hdigit
    obtain ⟨hne, hall, hlen, -⟩ := hexNumber_hex hdigit
    rw [List.cons_append, List.cons_append, List.append_assoc, List.singleton_append,
      bare_number hne hall hlen] at hd
    exact hs d hd
  · exact isNameChar_of_mem_bare_escapedChar hs hd

theorem isNameChar_of_mem_bare_flatMap {d : Char} (s : Text)
    (hd : d ∈ bare (s.flatMap escapedChar)) : IsNameChar d := by
  induction s generalizing d with
  | nil =>
    rw [List.flatMap_nil, bare] at hd
    cases hd
  | cons c s ih => exact isNameChar_of_mem_bare_escapedChar (fun _ => ih) hd

/-- What stands in no escape of an escaped name is a character of names. -/
theorem isNameChar_of_mem_bare_escape {d : Char} {s : Text} (hd : d ∈ bare (escape s)) :
    IsNameChar d := by
  have hinner : ∀ t : Text, ∀ e ∈ bare (t.flatMap escapedChar), IsNameChar e := fun t _ =>
    isNameChar_of_mem_bare_flatMap t
  have hhyphen : IsNameChar '-' := isPlain_iff.mp (by decide)
  unfold escape at hd
  split at hd
  · rw [bare] at hd
    cases hd
  · rw [bare_cons (by decide), bare, List.mem_singleton] at hd
    exact hd ▸ hhyphen
  · rw [List.cons_append, bare_cons (by decide)] at hd
    rcases List.mem_cons.mp hd with rfl | hd
    · exact hhyphen
    · exact isNameChar_of_mem_bare_escapedLead (hinner _) hd
  · exact isNameChar_of_mem_bare_escapedLead (hinner _) hd

/-! ## Digits -/

/-- A digit differs from every character that is none. -/
theorem ne_of_isDigit {c d : Char} (hc : c.isDigit = true) (hd : d.isDigit = false) : c ≠ d := by
  rintro rfl
  exact Bool.false_ne_true (hd.symm.trans hc)

/-- No digit is written as it is where an escaped name begins. -/
theorem isDigit_of_escapedLead {c d : Char} {s t : Text} (h : escapedLead c ++ s = d :: t) :
    d.isDigit = false := by
  have hslash : '\\'.isDigit = false := by decide
  rw [escapedLead, escapedChar] at h
  split at h
  · exact (List.cons.inj h).1 ▸ hslash
  · rename_i hdigit
    split at h
    · exact (List.cons.inj h).1 ▸ Bool.eq_false_iff.mpr hdigit
    · exact (List.cons.inj h).1 ▸ hslash

/-- No hyphen is written where it is not the character that is escaped. -/
theorem eq_of_escapedLead_hyphen {c : Char} {s t : Text} (h : escapedLead c ++ s = '-' :: t) :
    c = '-' := by
  rw [escapedLead, escapedChar] at h
  split at h
  · cases h
  · split at h
    · exact (List.cons.inj h).1
    · cases h

/-- An escaped name does not begin like a number. -/
theorem not_beginsWithDigit_escape (s : Text) : ¬BeginsWithDigit (escape s) := by
  rintro ⟨d, t, hd, h⟩
  have hlead : ∀ {c : Char} {rest t : Text}, escapedLead c ++ rest ≠ d :: t := fun he =>
    Bool.false_ne_true ((isDigit_of_escapedLead he).symm.trans hd)
  have hhyphen : d ≠ '-' := ne_of_isDigit hd (by decide)
  unfold escape at h
  split at h
  · rcases h with h | h <;> cases h
  · rcases h with h | h
    · exact hhyphen (List.cons.inj h).1.symm
    · cases h
  · rw [List.cons_append] at h
    rcases h with h | h
    · exact hhyphen (List.cons.inj h).1.symm
    · exact hlead (List.cons.inj h).2
  · rename_i c rest hsingle hlong
    rcases h with h | h
    · exact hlead h
    · -- A hyphen in front is one of the name, and then the name is of the other forms.
      obtain rfl := eq_of_escapedLead_hyphen h
      cases rest with
      | nil => exact hsingle rfl rfl
      | cons e rest => exact hlong e rest rfl rfl

/-- **An escaped name is one identifier and denotes the name.** The name must be readable, and
neither empty nor a single hyphen. No other name has the same escaped form. -/
theorem escape_isIdentifier {s : Text} (hne : s ≠ []) (hhyphen : s ≠ ['-'])
    (hr : ∀ c ∈ s, isReadable c = true) :
    IsIdentifier (escape s) ∧ read (escape s) = (s, []) ∧ decode (escape s) = s ∧
      ∀ other, escape other = escape s → other = s := by
  have hread : read (escape s) = (s, []) := by
    have happend := read_escape hr []
    rwa [List.append_nil, read, List.append_nil] at happend
  have hbegins : begins (escape s) = true := by
    have happend := begins_escape hr hne hhyphen []
    rwa [List.append_nil] at happend
  refine ⟨⟨hbegins, by rw [hread], fun c => isNameChar_of_mem_bare_escape,
    not_beginsWithDigit_escape s⟩, hread, decode_escape s, fun other h => ?_⟩
  rw [← decode_escape other, h, decode_escape]

/-- A name in which every kind of character is escaped in its way. -/
def mixedName : Text := "-9f[é\\]0".toList

/-- The number of the digit ends before the letter behind it, which could go on with it. -/
theorem escape_isIdentifier_mixedName :
    mixedName ≠ [] ∧ mixedName ≠ ['-'] ∧ (∀ c ∈ mixedName, isReadable c = true) ∧
      escape mixedName = "-\\39 f\\[é\\\\\\]0".toList ∧
      IsIdentifier "-\\39 f\\[é\\\\\\]0".toList ∧
      decode "-\\39 f\\[é\\\\\\]0".toList = mixedName := by
  have hne : mixedName ≠ [] := by decide
  have hhyphen : mixedName ≠ ['-'] := by decide
  have hr : ∀ c ∈ mixedName, isReadable c = true := List.all_eq_true.mp (by decide)
  have hescape : escape mixedName = "-\\39 f\\[é\\\\\\]0".toList := by decide +kernel
  obtain ⟨hidentifier, -, hdecode, -⟩ := escape_isIdentifier hne hhyphen hr
  rw [hescape] at hidentifier hdecode
  exact ⟨hne, hhyphen, hr, hescape, hidentifier, hdecode⟩

end NamedGrid.Identifier
