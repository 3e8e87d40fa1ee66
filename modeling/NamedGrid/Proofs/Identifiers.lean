import Mathlib.Data.List.TakeWhile
import NamedGrid.Css.Identifier

/-!
# Identifiers read back

An escape in an identifier is a backslash before the character that it denotes, or before up
to six digits in base sixteen that give the number of the character, behind which one blank
belongs to the escape. Read by this rule the identifier of a class name denotes the class
name (`decode_escape`): a character that follows a backslash is never such a digit, and the
space behind a number ends it.
-/

namespace NamedGrid.Identifier

/-- Is the character a digit in base sixteen? -/
def isHexDigit (c : Char) : Bool :=
  c.isDigit || ('a' ≤ c && c ≤ 'f') || ('A' ≤ c && c ≤ 'F')

/-- The value of a digit in base sixteen. -/
def hexValue (c : Char) : Nat :=
  if c.isDigit then c.toNat - 0x30 else if c.isLower then c.toNat - 0x57 else c.toNat - 0x37

/-- The number that digits in base sixteen write. -/
def hexNumber (digits : Text) : Nat := digits.foldl (fun n c => 16 * n + hexValue c) 0

/-- What stands behind a number; one blank belongs to the number. -/
def afterNumber : Text → Text
  | c :: s => if c == ' ' || c == '\t' || c == '\n' || c == '\r' || c == '\x0c' then s else c :: s
  | [] => []

theorem length_afterNumber_le (s : Text) : (afterNumber s).length ≤ s.length := by
  cases s with
  | nil => exact Nat.le_refl _
  | cons c s =>
    rw [afterNumber]
    split
    · exact Nat.le_succ _
    · exact Nat.le_refl _

/-- The text that an identifier denotes. A backslash at the end stays. -/
def decode : Text → Text
  | [] => []
  | '\\' :: c :: s =>
    if isHexDigit c then
      let digits := ((c :: s).takeWhile isHexDigit).take 6
      Char.ofNat (hexNumber digits) :: decode (afterNumber ((c :: s).drop digits.length))
    else c :: decode s
  | c :: s => c :: decode s
termination_by s => s.length
decreasing_by
  · have hle := length_afterNumber_le
      ((c :: s).drop (((c :: s).takeWhile isHexDigit).take 6).length)
    simp only [List.length_drop, List.length_cons] at hle ⊢
    omega
  · exact Nat.lt_succ_of_lt (Nat.lt_succ_self _)
  · exact Nat.lt_succ_self _

/-- A character that is no backslash denotes itself. -/
theorem decode_cons {c : Char} (hc : c ≠ '\\') (s : Text) : decode (c :: s) = c :: decode s := by
  rw [decode]
  rintro d t rfl
  exact absurd rfl hc

/-- A backslash protects a character that is no digit. -/
theorem decode_backslash {c : Char} (hc : isHexDigit c = false) (s : Text) :
    decode ('\\' :: c :: s) = c :: decode s := by
  rw [decode, if_neg (by simp [hc])]

/-- The digits of a number end at a space. -/
theorem take_digits {digits : Text} (hall : digits.all isHexDigit = true)
    (hlen : digits.length ≤ 6) (s : Text) :
    ((digits ++ ' ' :: s).takeWhile isHexDigit).take 6 = digits := by
  rw [List.takeWhile_append_of_pos (List.all_eq_true.mp hall),
    List.takeWhile_cons_of_neg (by decide), List.append_nil, List.take_of_length_le hlen]

/-- A number with a space behind it denotes its character. -/
theorem decode_number {digits : Text} (hne : digits ≠ []) (hall : digits.all isHexDigit = true)
    (hlen : digits.length ≤ 6) (s : Text) :
    decode ('\\' :: (digits ++ ' ' :: s)) = Char.ofNat (hexNumber digits) :: decode s := by
  have htake := take_digits hall hlen s
  obtain ⟨c, tail, rfl⟩ := List.exists_cons_of_ne_nil hne
  have hc : isHexDigit c = true := List.all_eq_true.mp hall c List.mem_cons_self
  rw [List.cons_append] at htake ⊢
  rw [decode, if_pos hc, htake]
  dsimp only
  rw [← List.cons_append, List.drop_left]
  rfl

/-! ## Escapes -/

/-- The number of a digit in base ten, written in base sixteen, gives the digit. -/
theorem hexNumber_hex {c : Char} (h : c.isDigit = true) :
    Text.hex 1 c.toNat ≠ [] ∧ (Text.hex 1 c.toNat).all isHexDigit = true ∧
      (Text.hex 1 c.toNat).length ≤ 6 ∧ Char.ofNat (hexNumber (Text.hex 1 c.toNat)) = c := by
  have hall : ∀ n < 58, 48 ≤ n → Text.hex 1 n ≠ [] ∧ (Text.hex 1 n).all isHexDigit = true ∧
      (Text.hex 1 n).length ≤ 6 ∧ hexNumber (Text.hex 1 n) = n := by
    decide +kernel
  obtain ⟨hlo, hhi⟩ := Char.isDigit_iff_toNat.mp h
  obtain ⟨hne, hdigits, hlen, hnumber⟩ := hall c.toNat (Nat.lt_succ_of_le hhi) hlo
  exact ⟨hne, hdigits, hlen, by rw [hnumber, Char.ofNat_toNat]⟩

/-- A digit in base sixteen stands for itself. -/
theorem isPlain_of_isHexDigit {c : Char} (h : isHexDigit c = true) : isPlain c = true := by
  by_cases hascii : c.toNat < 0x80
  · have hall : ∀ n < 0x80, isHexDigit (Char.ofNat n) = true → isPlain (Char.ofNat n) = true := by
      decide +kernel
    simpa only [Char.ofNat_toNat] using hall c.toNat hascii (by rwa [Char.ofNat_toNat])
  · simp [isPlain, Nat.le_of_not_lt hascii]

/-- A character that does not stand for itself is no digit. -/
theorem isHexDigit_eq_false {c : Char} (h : ¬isPlain c = true) : isHexDigit c = false := by
  simpa using mt isPlain_of_isHexDigit h

/-- A backslash never stands for itself. -/
theorem ne_backslash_of_isPlain {c : Char} (h : isPlain c = true) : c ≠ '\\' := by
  rintro rfl
  exact absurd h (by decide)

/-- One character inside an identifier is read back. -/
theorem decode_escapedChar (c : Char) (s : Text) :
    decode (escapedChar c ++ s) = c :: decode s := by
  rw [escapedChar]
  split
  · rename_i hplain
    exact decode_cons (ne_backslash_of_isPlain hplain) s
  · rename_i hplain
    exact decode_backslash (isHexDigit_eq_false hplain) s

/-- One character where an identifier begins is read back. -/
theorem decode_escapedLead (c : Char) (s : Text) :
    decode (escapedLead c ++ s) = c :: decode s := by
  rw [escapedLead]
  split
  · rename_i hdigit
    obtain ⟨hne, hall, hlen, hnumber⟩ := hexNumber_hex hdigit
    rw [List.cons_append, List.cons_append, List.append_assoc, List.singleton_append,
      decode_number hne hall hlen, hnumber]
  · exact decode_escapedChar c s

/-- Characters inside an identifier are read back. -/
theorem decode_flatMap_escapedChar (s : Text) : decode (s.flatMap escapedChar) = s := by
  induction s with
  | nil => rw [List.flatMap_nil, decode]
  | cons c s ih => rw [List.flatMap_cons, decode_escapedChar, ih]

/-- **The identifier of a class name denotes the class name.** -/
theorem decode_escape (s : Text) : decode (escape s) = s := by
  unfold escape
  split
  · rw [decode]
  · rw [decode_cons (by decide), decode]
  · rw [List.cons_append, decode_cons (by decide), decode_escapedLead, decode_flatMap_escapedChar]
  · rw [decode_escapedLead, decode_flatMap_escapedChar]

/-- An identifier is made of the characters of the class name, backslashes, numbers and the
spaces behind them. -/
theorem mem_of_mem_escape {c : Char} {s : Text} (h : c ∈ escape s) :
    c ∈ s ∨ c = '\\' ∨ c = ' ' ∨ isHexDigit c = true := by
  have hchar : ∀ d, c ∈ escapedChar d → c = d ∨ c = '\\' := by
    intro d hc
    rw [escapedChar] at hc
    split at hc
    · exact Or.inl (List.mem_singleton.mp hc)
    · simpa [or_comm] using hc
  have hlead : ∀ d, c ∈ escapedLead d → c = d ∨ c = '\\' ∨ c = ' ' ∨ isHexDigit c = true := by
    intro d hc
    rw [escapedLead] at hc
    split at hc
    · rename_i hdigit
      obtain ⟨-, hall, -, -⟩ := hexNumber_hex hdigit
      simp only [List.cons_append, List.mem_cons, List.mem_append, List.not_mem_nil,
        or_false] at hc
      rcases hc with hc | hc | hc
      · exact Or.inr (Or.inl hc)
      · exact Or.inr (Or.inr (Or.inr (List.all_eq_true.mp hall c hc)))
      · exact Or.inr (Or.inr (Or.inl hc))
    · exact (hchar d hc).imp_right Or.inl
  have hinner : ∀ t : Text, c ∈ t.flatMap escapedChar → c ∈ t ∨ c = '\\' := by
    intro t hc
    obtain ⟨d, hd, hc⟩ := List.mem_flatMap.mp hc
    exact (hchar d hc).imp_left fun he : c = d => he ▸ hd
  unfold escape at h
  split at h
  · exact Or.inl h
  · exact Or.inl h
  · rename_i d t
    rw [List.cons_append, List.mem_cons, List.mem_append] at h
    rcases h with rfl | h | h
    · exact Or.inl List.mem_cons_self
    · exact (hlead d h).imp_left fun he : c = d => by simp [he]
    · exact (hinner t h).imp (fun hm => by simp [hm]) Or.inl
  · rename_i d t _ _
    rw [List.mem_append] at h
    rcases h with h | h
    · exact (hlead d h).imp_left fun he : c = d => by simp [he]
    · exact (hinner t h).imp (List.mem_cons_of_mem d) Or.inl

end NamedGrid.Identifier
