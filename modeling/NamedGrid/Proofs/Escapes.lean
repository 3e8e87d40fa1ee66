import NamedGrid.Proofs.IdentifierTokens

/-!
# Escapes put in and taken away

A text is escaped by backslashes before some of its characters, among them every backslash of its
own. A reader that goes from left to right then finds the added backslashes and no others: behind
a backslash that it takes away it skips one character, and where it does not skip, a backslash is
an added one. So taking escapes away undoes every such choice of positions, and conversely every
text on one line arises from its reading by one; only a backslash at the end protects nothing and
needs no escape. An escaped class name is of this form unless it begins with a digit, which is
written by number.
-/

namespace NamedGrid

/-- The text with a backslash before the character at every chosen position. -/
def escapedAt (chosen : Nat → Bool) (s : Text) : Text :=
  (s.mapIdx fun i c => if chosen i then ['\\', c] else [c]).flatten

/-- Every backslash of the text is at a chosen position. -/
def ChoosesBackslashes (chosen : Nat → Bool) (s : Text) : Prop :=
  ∀ i (h : i < s.length), s[i] = '\\' → chosen i = true

instance (chosen : Nat → Bool) (s : Text) : Decidable (ChoosesBackslashes chosen s) :=
  inferInstanceAs (Decidable (∀ i (h : i < s.length), s[i] = '\\' → chosen i = true))

variable {chosen : Nat → Bool}

/-! ## One character more -/

@[simp] theorem escapedAt_nil : escapedAt chosen [] = [] := rfl

/-- The positions behind the first character are those of the rest, one further. -/
theorem escapedAt_cons (c : Char) (s : Text) :
    escapedAt chosen (c :: s) =
      (if chosen 0 then ['\\', c] else [c]) ++ escapedAt (fun i => chosen (i + 1)) s := by
  rw [escapedAt, List.mapIdx_cons, List.flatten_cons]
  rfl

theorem choosesBackslashes_nil : ChoosesBackslashes chosen [] := nofun

theorem choosesBackslashes_cons {c : Char} {s : Text} :
    ChoosesBackslashes chosen (c :: s) ↔
      (c = '\\' → chosen 0 = true) ∧ ChoosesBackslashes (fun i => chosen (i + 1)) s := by
  constructor
  · intro h
    exact ⟨h 0 (Nat.zero_lt_succ _), fun i hi => h (i + 1) (Nat.succ_lt_succ hi)⟩
  · rintro ⟨hhead, htail⟩ i hi
    cases i with
    | zero => exact hhead
    | succ i => exact htail i (Nat.lt_of_succ_lt_succ hi)

/-- The first character is not the last one if there is another. -/
theorem choosesBackslashes_dropLast_cons {c : Char} {s : Text} :
    ChoosesBackslashes chosen (c :: s).dropLast ↔
      (c = '\\' → s ≠ [] → chosen 0 = true) ∧
        ChoosesBackslashes (fun i => chosen (i + 1)) s.dropLast := by
  cases s with
  | nil => simp [choosesBackslashes_nil]
  | cons d s => simp [choosesBackslashes_cons]

theorem ChoosesBackslashes.dropLast {s : Text} (h : ChoosesBackslashes chosen s) :
    ChoosesBackslashes chosen s.dropLast := by
  intro i hi hslash
  rw [List.getElem_dropLast] at hslash
  exact h i _ hslash

/-! ## Escaping undone -/

/-- Escapes that are put in are taken away, if every backslash but one at the end is chosen. -/
theorem unescape_escapedAt {s : Text} (hs : '\n' ∉ s)
    (h : ChoosesBackslashes chosen s.dropLast) : unescape (escapedAt chosen s) = s := by
  induction s generalizing chosen with
  | nil => rfl
  | cons c s ih =>
    obtain ⟨hc, hs⟩ := not_or.mp (mt List.mem_cons.mpr hs)
    obtain ⟨hhead, htail⟩ := choosesBackslashes_dropLast_cons.mp h
    have hrest := ih hs htail
    rw [escapedAt_cons]
    by_cases hchosen : chosen 0 = true
    · rw [if_pos hchosen, List.cons_append, List.singleton_append,
        unescape_backslash (Ne.symm hc), hrest]
    · have hlast : c = '\\' → s = [] := fun hslash =>
        by_contra fun hne => hchosen (hhead hslash hne)
      rw [if_neg hchosen, List.singleton_append, unescape_cons, hrest]
      intro hslash
      rw [hlast hslash, escapedAt_nil]

/-- A choice for the rest of a text is one for the whole with an answer for its first character,
which must be chosen if it is a backslash with something behind it. -/
theorem ChoosesBackslashes.exists_cons {s : Text} (h : ChoosesBackslashes chosen s.dropLast)
    {first : Bool} {c : Char} (hfirst : c = '\\' → s ≠ [] → first = true) :
    ∃ whole, ChoosesBackslashes whole (c :: s).dropLast ∧
      escapedAt whole (c :: s) = (if first then ['\\', c] else [c]) ++ escapedAt chosen s :=
  ⟨fun i => i.casesOn first chosen, choosesBackslashes_dropLast_cons.mpr ⟨hfirst, h⟩,
    escapedAt_cons c s⟩

/-- Every text on one line is its reading with escapes put in. -/
theorem exists_escapedAt_unescape {s : Text} (hs : '\n' ∉ s) :
    ∃ chosen, ChoosesBackslashes chosen (unescape s).dropLast ∧
      escapedAt chosen (unescape s) = s := by
  fun_induction unescape s with
  | case1 s ih => simp at hs
  | case2 c s hc ih =>
    obtain ⟨chosen, hchosen, hrest⟩ := ih fun hm => hs (by simp [hm])
    obtain ⟨whole, hwhole, heq⟩ := hchosen.exists_cons fun _ _ => rfl
    exact ⟨whole, hwhole, by rw [heq, hrest]; rfl⟩
  | case3 c s hescape ih =>
    obtain ⟨chosen, hchosen, hrest⟩ := ih fun hm => hs (List.mem_cons_of_mem c hm)
    -- A backslash that is not taken away has nothing behind it.
    have hlast : c = '\\' → unescape s ≠ [] → false = true := by
      intro hslash hne
      cases s with
      | nil => exact absurd rfl hne
      | cons d s => exact absurd rfl (hescape d s hslash)
    obtain ⟨whole, hwhole, heq⟩ := hchosen.exists_cons hlast
    exact ⟨whole, hwhole, by rw [heq, hrest]; rfl⟩
  | case4 => exact ⟨fun _ => false, choosesBackslashes_nil, rfl⟩

/-! ## Escaped class names -/

namespace Identifier

/-- The positions of the characters that do not stand for themselves in an identifier. -/
def backslashedAt (s : Text) (i : Nat) : Bool := s[i]?.any fun c => !isPlain c

/-- The backslashes of a name are among them. -/
theorem choosesBackslashes_backslashedAt (s : Text) : ChoosesBackslashes (backslashedAt s) s := by
  intro i hi hslash
  have hplain : isPlain '\\' = false := by decide
  rw [backslashedAt, List.getElem?_eq_getElem hi, Option.any_some, hslash, hplain]
  rfl

/-- Inside an identifier the characters that do not stand for themselves are escaped. -/
theorem flatMap_escapedChar (s : Text) : s.flatMap escapedChar = escapedAt (backslashedAt s) s := by
  induction s with
  | nil => rfl
  | cons c s ih =>
    have hfirst : backslashedAt (c :: s) 0 = !isPlain c := rfl
    have hrest : (fun i => backslashedAt (c :: s) (i + 1)) = backslashedAt s := rfl
    rw [List.flatMap_cons, escapedAt_cons, ih, hfirst, hrest, escapedChar]
    cases isPlain c <;> rfl

theorem unescape_flatMap_escapedChar {s : Text} (hs : '\n' ∉ s) :
    unescape (s.flatMap escapedChar) = s := by
  rw [flatMap_escapedChar]
  exact unescape_escapedAt hs (choosesBackslashes_backslashedAt s).dropLast

/-- Where no digit begins the name, the first character is escaped like the others. -/
theorem escape_of_not_beginsWithDigit {s : Text} (h : ¬BeginsWithDigit s) :
    escape s = s.flatMap escapedChar := by
  have hlead : ∀ {c : Char}, ¬c.isDigit = true → escapedLead c = escapedChar c := fun hc =>
    if_neg hc
  unfold escape
  split
  · rfl
  · rfl
  · rename_i c t
    rw [hlead fun hc => h ⟨c, t, hc, Or.inr rfl⟩]
    rfl
  · rename_i c t _ _
    rw [hlead fun hc => h ⟨c, t, hc, Or.inl rfl⟩, List.flatMap_cons]

/-- The number of a digit is written by the digit three and the digit itself. -/
theorem escapedLead_of_isDigit {c : Char} (h : c.isDigit = true) :
    escapedLead c = ['\\', '3', c, ' '] := by
  have hall : ∀ n < 58, 48 ≤ n → Text.hex 1 n = ['3', Char.ofNat n] := by decide +kernel
  obtain ⟨hlo, hhi⟩ := Char.isDigit_iff_toNat.mp h
  rw [escapedLead, if_pos h, hall c.toNat (Nat.lt_succ_of_le hhi) hlo, Char.ofNat_toNat]
  rfl

/-- A digit that is written by number is not read as the digit. -/
theorem unescape_escapedLead_of_isDigit {c : Char} (h : c.isDigit = true) (s : Text) :
    unescape (escapedLead c ++ s) = '3' :: c :: ' ' :: unescape s := by
  have hslash : c ≠ '\\' := ne_of_isDigit h (by decide)
  rw [escapedLead_of_isDigit h]
  simp only [List.cons_append, List.nil_append]
  rw [unescape_backslash (by decide), unescape_cons fun he => absurd he hslash,
    unescape_cons fun he => absurd he (by decide)]

theorem escape_cons_of_isDigit {c : Char} (h : c.isDigit = true) (s : Text) :
    escape (c :: s) = escapedLead c ++ s.flatMap escapedChar := by
  have hhyphen : c ≠ '-' := ne_of_isDigit h (by decide)
  rw [escape]
  · exact fun he => absurd he hhyphen
  · exact fun _ _ he => absurd he hhyphen

/-- An escaped name that begins with a digit is read as a longer text. -/
theorem length_unescape_escape_of_beginsWithDigit {s : Text} (hs : '\n' ∉ s)
    (h : BeginsWithDigit s) : (unescape (escape s)).length = s.length + 2 := by
  obtain ⟨c, t, hc, rfl | rfl⟩ := h
  · rw [escape_cons_of_isDigit hc, unescape_escapedLead_of_isDigit hc,
      unescape_flatMap_escapedChar fun hm => hs (by simp [hm])]
    simp
  · rw [escape, List.cons_append, unescape_cons fun he => absurd he (by decide),
      unescape_escapedLead_of_isDigit hc,
      unescape_flatMap_escapedChar fun hm => hs (by simp [hm])]
    simp

/-- The number of the digit is left over. -/
example : unescape (escape "1col".toList) = "31 col".toList := by decide +kernel

end Identifier

/-- **Taking escapes away undoes every escaping.** A text on one line is read back when a
backslash is put before some of its characters, whichever they are, as long as all its backslashes
are among them. No other text on one line is read as it, except that a backslash at its end need
not be chosen. In particular a class name is read back from its escaped form exactly if it begins
neither with a digit nor with a hyphen and a digit. -/
theorem unescape_undoes_escaping {s : Text} (hs : '\n' ∉ s) :
    (∀ chosen, ChoosesBackslashes chosen s → unescape (escapedAt chosen s) = s) ∧
      (∀ written, '\n' ∉ written → (unescape written = s ↔
        ∃ chosen, ChoosesBackslashes chosen s.dropLast ∧ escapedAt chosen s = written)) ∧
      (unescape (Identifier.escape s) = s ↔ ¬Identifier.BeginsWithDigit s) := by
  refine ⟨fun chosen h => unescape_escapedAt hs h.dropLast, fun written hwritten => ?_, ?_⟩
  · constructor
    · rintro rfl
      exact exists_escapedAt_unescape hwritten
    · rintro ⟨chosen, h, rfl⟩
      exact unescape_escapedAt hs h
  · constructor
    · intro heq hdigit
      have hlength := Identifier.length_unescape_escape_of_beginsWithDigit hs hdigit
      rw [heq] at hlength
      omega
    · intro h
      rw [Identifier.escape_of_not_beginsWithDigit h]
      exact Identifier.unescape_flatMap_escapedChar hs

/-- A text with runs of one and of two backslashes, one of them at its end. -/
def slashedText : Text := "a[\\\\b,\\]9\\".toList

/-- Backslashes may be put in where none is needed, and the escaped name has one at each character
that does not stand for itself. The last backslash of the text may be left as it is. -/
theorem unescape_undoes_escaping_slashedText :
    let chosen : Nat → Bool := [1, 2, 3, 4, 6, 9].contains
    '\n' ∉ slashedText ∧ ChoosesBackslashes chosen slashedText ∧
      escapedAt chosen slashedText = "a\\[\\\\\\\\\\b,\\\\]9\\\\".toList ∧
      unescape (escapedAt chosen slashedText) = slashedText ∧
      (∃ other, ChoosesBackslashes other slashedText.dropLast ∧
        escapedAt other slashedText = "a[\\\\\\\\b,\\\\]9\\".toList) ∧
      ¬Identifier.BeginsWithDigit slashedText ∧
      Identifier.escape slashedText = "a\\[\\\\\\\\b\\,\\\\\\]9\\\\".toList ∧
      unescape (Identifier.escape slashedText) = slashedText := by
  intro chosen
  have hline : '\n' ∉ slashedText := by decide
  have hchosen : ChoosesBackslashes chosen slashedText := by decide
  have hdigit : ¬Identifier.BeginsWithDigit slashedText := by
    rintro ⟨c, t, hc, h | h⟩
    · obtain ⟨rfl, -⟩ := List.cons.inj h
      exact absurd hc (by decide)
    · exact absurd (List.cons.inj h).1 (by decide)
  obtain ⟨hundone, hread, hname⟩ := unescape_undoes_escaping hline
  exact ⟨hline, hchosen, by decide, hundone chosen hchosen,
    (hread _ (by decide)).mp (by decide), hdigit, by decide +kernel, hname.mpr hdigit⟩

end NamedGrid
