import NamedGrid.Text.Utf8

/-!
# Texts read back from their bytes

A character is written as one to four bytes. The first byte tells how many there are, and with
the range of the second it shuts out every number that has a shorter form or is no character;
so the bytes of a character are read as this character, whatever follows, and a text that is
written is read back (`decodeLenient_encode`).
-/

namespace NamedGrid.Utf8

/-! ## Bytes of characters -/

/-- The bytes of an array from a position on, behind those that were taken before. -/
theorem toList_loop (bytes : ByteArray) (i : Nat) (taken : List UInt8) :
    ByteArray.toList.loop bytes i taken = taken.reverse ++ bytes.data.toList.drop i := by
  fun_induction ByteArray.toList.loop bytes i taken with
  | case1 i taken h ih =>
    have hi : i < bytes.data.toList.length := by simpa using h
    rw [ih, List.drop_eq_getElem_cons hi, List.reverse_cons, List.append_assoc,
      List.singleton_append]
    simp [ByteArray.get!, h]
  | case2 i taken h =>
    rw [List.drop_eq_nil_of_le (by simpa using h), List.append_nil]

/-- A text is written character by character. -/
theorem encode_eq (s : Text) : encode s = s.flatMap String.utf8EncodeChar := by
  have hchar : ∀ c : Char, (String.singleton c).toUTF8.toList = String.utf8EncodeChar c := by
    intro c
    rw [String.toUTF8, String.toByteArray_singleton, List.utf8Encode_singleton,
      ByteArray.toList, toList_loop, List.toList_data_toByteArray]
    rfl
  rw [encode]
  simp only [hchar]

/-! ## Reading single bytes -/

variable {n bits : Nat} {range : Nat × Nat} {rest : Bytes}

theorem toNat_ofNat (h : n < 256) : (UInt8.ofNat n).toNat = n := by
  simpa using h

/-- A byte that is a character of its own. -/
theorem decodeFrom_whole (h : n < 0x80) :
    decodeFrom none (.ofNat n :: rest) = some (Char.ofNat n) :: decodeFrom none rest := by
  have hstart : start (UInt8.ofNat n).toNat = .ok (some (Char.ofNat n)) := by
    rw [toNat_ofNat (by omega), start, if_pos h]
  rw [decodeFrom]
  simp only [hstart, List.nil_append]

/-- A byte that begins a character. -/
theorem decodeFrom_start {pending : Pending} (hn : n < 256) (h : start n = .error pending) :
    decodeFrom none (.ofNat n :: rest) = decodeFrom (some pending) rest := by
  rw [← toNat_ofNat hn] at h
  rw [decodeFrom]
  simp only [h, List.nil_append]

/-- A byte that continues a character. -/
theorem decodeFrom_continue {next : Nat × Nat} {due : List (Nat × Nat)}
    (hlo : range.1 ≤ n % 64 + 128) (hhi : n % 64 + 128 ≤ range.2) :
    decodeFrom (some ⟨bits, range :: next :: due⟩) (.ofNat (n % 64 + 128) :: rest) =
      decodeFrom (some ⟨bits * 64 + n % 64, next :: due⟩) rest := by
  have hbyte : (UInt8.ofNat (n % 64 + 128)).toNat = n % 64 + 128 := toNat_ofNat (by omega)
  rw [decodeFrom]
  simp only [hbyte, hlo, hhi, decide_true, Bool.and_self, if_true, Nat.add_sub_cancel]

/-- A byte that ends a character. -/
theorem decodeFrom_last (hlo : range.1 ≤ n % 64 + 128) (hhi : n % 64 + 128 ≤ range.2) :
    decodeFrom (some ⟨bits, [range]⟩) (.ofNat (n % 64 + 128) :: rest) =
      some (Char.ofNat (bits * 64 + n % 64)) :: decodeFrom none rest := by
  have hbyte : (UInt8.ofNat (n % 64 + 128)).toNat = n % 64 + 128 := toNat_ofNat (by omega)
  rw [decodeFrom]
  simp only [hbyte, hlo, hhi, decide_true, Bool.and_self, if_true, Nat.add_sub_cancel]

/-- Behind the second byte a character goes on with any byte that continues one. -/
theorem tail_bounds (n : Nat) : tail.1 ≤ n % 64 + 128 ∧ n % 64 + 128 ≤ tail.2 := by
  simp only [tail]
  omega

/-! ## Reading characters -/

variable {v : Nat}

/-- The first of two bytes. -/
theorem start_two (hlo : 0x80 ≤ v) (hhi : v < 0x800) :
    start (v / 64 % 32 + 192) = .error ⟨v / 64, [tail]⟩ := by
  have hmod : v / 64 % 32 = v / 64 := by omega
  rw [hmod, start, if_neg (by omega), if_neg (by omega), if_pos (by omega), Nat.add_sub_cancel]

/-- The first of three bytes, and the range in which the second is. -/
theorem start_three (hlo : 0x800 ≤ v) (hhi : v < 0x10000) (hvalid : v < 0xD800 ∨ 0xDFFF < v) :
    ∃ range : Nat × Nat, start (v / 4096 % 16 + 224) = .error ⟨v / 4096, [range, tail]⟩ ∧
      range.1 ≤ v / 64 % 64 + 128 ∧ v / 64 % 64 + 128 ≤ range.2 := by
  have hmod : v / 4096 % 16 = v / 4096 := by omega
  rw [hmod, start, if_neg (by omega), if_neg (by omega), if_neg (by omega)]
  by_cases hfirst : v / 4096 = 0
  · rw [if_pos (by omega), hfirst]
    exact ⟨_, rfl, by omega, by omega⟩
  · rw [if_neg (by omega)]
    by_cases hsurrogates : v / 4096 = 0xD
    · rw [if_pos (by omega), hsurrogates]
      exact ⟨_, rfl, by omega, by omega⟩
    · rw [if_neg (by omega), if_pos (by omega), Nat.add_sub_cancel]
      exact ⟨tail, rfl, tail_bounds _⟩

/-- The first of four bytes, and the range in which the second is. -/
theorem start_four (hlo : 0x10000 ≤ v) (hhi : v < 0x110000) :
    ∃ range : Nat × Nat,
      start (v / 262144 % 8 + 240) = .error ⟨v / 262144, [range, tail, tail]⟩ ∧
      range.1 ≤ v / 4096 % 64 + 128 ∧ v / 4096 % 64 + 128 ≤ range.2 := by
  have hmod : v / 262144 % 8 = v / 262144 := by omega
  rw [hmod, start, if_neg (by omega), if_neg (by omega), if_neg (by omega), if_neg (by omega),
    if_neg (by omega), if_neg (by omega)]
  by_cases hfirst : v / 262144 = 0
  · rw [if_pos (by omega), hfirst]
    exact ⟨_, rfl, by omega, by omega⟩
  · rw [if_neg (by omega)]
    by_cases hlast : v / 262144 = 4
    · rw [if_neg (by omega), if_pos (by omega), hlast]
      exact ⟨_, rfl, by omega, by omega⟩
    · rw [if_pos (by omega), Nat.add_sub_cancel]
      exact ⟨tail, rfl, tail_bounds _⟩

/-- **The bytes of a character are read as the character.** -/
theorem decodeFrom_utf8EncodeChar (c : Char) (rest : Bytes) :
    decodeFrom none (String.utf8EncodeChar c ++ rest) = some c :: decodeFrom none rest := by
  have hvalid : c.val.toNat < 0xD800 ∨ 0xDFFF < c.val.toNat ∧ c.val.toNat < 0x110000 := c.valid
  have hc : Char.ofNat c.val.toNat = c := Char.ofNat_toNat c
  rw [String.utf8EncodeChar]
  generalize c.val.toNat = v at hvalid hc
  split
  · rw [List.singleton_append, decodeFrom_whole (by omega), hc]
  split
  · have hbits : v / 64 * 64 + v % 64 = v := Nat.div_add_mod' v 64
    rw [List.cons_append, List.singleton_append,
      decodeFrom_start (by omega) (start_two (by omega) (by omega)),
      decodeFrom_last (tail_bounds v).1 (tail_bounds v).2, hbits, hc]
  split
  · obtain ⟨range, hstart, hrange⟩ := start_three (v := v) (by omega) (by omega) (by omega)
    have hbits : (v / 4096 * 64 + v / 64 % 64) * 64 + v % 64 = v := by omega
    rw [List.cons_append, List.cons_append, List.singleton_append,
      decodeFrom_start (by omega) hstart, decodeFrom_continue hrange.1 hrange.2,
      decodeFrom_last (tail_bounds v).1 (tail_bounds v).2, hbits, hc]
  · obtain ⟨range, hstart, hrange⟩ := start_four (v := v) (by omega) (by omega)
    have hbits : ((v / 262144 * 64 + v / 4096 % 64) * 64 + v / 64 % 64) * 64 + v % 64 = v := by
      omega
    rw [List.cons_append, List.cons_append, List.cons_append, List.singleton_append,
      decodeFrom_start (by omega) hstart, decodeFrom_continue hrange.1 hrange.2,
      decodeFrom_continue (tail_bounds _).1 (tail_bounds _).2,
      decodeFrom_last (tail_bounds v).1 (tail_bounds v).2, hbits, hc]

/-- **A text that is written is read back.** -/
theorem decodeLenient_encode (s : Text) : decodeLenient (encode s) = s := by
  have hread : decodeFrom none (encode s) = s.map some := by
    rw [encode_eq]
    induction s with
    | nil => rfl
    | cons c s ih => rw [List.flatMap_cons, decodeFrom_utf8EncodeChar, ih, List.map_cons]
  rw [decodeLenient, hread, List.map_map]
  exact List.map_id s

/-! ## Line endings -/

theorem eq_nil_of_prefix_newline {part s : Text} (hpart : '\n' ∉ part) (h : part <+: '\n' :: s) :
    part = [] := by
  rcases List.prefix_cons_iff.mp h with rfl | ⟨rest, rfl, -⟩
  · rfl
  · exact absurd List.mem_cons_self hpart

/-- What has no line feed and stands at the front of the unified lines of a text stands at the
front of the text. -/
theorem prefix_of_prefix_unifyLines {part s : Text} (hpart : '\n' ∉ part)
    (h : part <+: unifyLines s) : part <+: s := by
  fun_induction unifyLines s generalizing part with
  | case1 s ih => exact eq_nil_of_prefix_newline hpart h ▸ List.nil_prefix
  | case2 s hs ih => exact eq_nil_of_prefix_newline hpart h ▸ List.nil_prefix
  | case3 c s _ _ ih =>
    rcases List.prefix_cons_iff.mp h with rfl | ⟨rest, rfl, hrest⟩
    · exact List.nil_prefix
    · exact List.cons_prefix_cons.mpr ⟨rfl, ih (fun hm => hpart (List.mem_cons_of_mem c hm)) hrest⟩
  | case4 => exact h

/-- What has no line feed and stands in the unified lines of a text stands in the text. -/
theorem infix_of_infix_unifyLines {part s : Text} (hpart : '\n' ∉ part)
    (h : part <:+: unifyLines s) : part <:+: s := by
  have hfront : ∀ {s t : Text}, part <+: '\n' :: s → part <:+: t := fun hp =>
    eq_nil_of_prefix_newline hpart hp ▸ List.nil_infix
  fun_induction unifyLines s with
  | case1 s ih =>
    rcases List.infix_cons_iff.mp h with h | h
    · exact hfront h
    · exact List.infix_cons (List.infix_cons (ih h))
  | case2 s hs ih =>
    rcases List.infix_cons_iff.mp h with h | h
    · exact hfront h
    · exact List.infix_cons (ih h)
  | case3 c s hcr hlf ih =>
    rcases List.infix_cons_iff.mp h with h | h
    · have hc : unifyLines (c :: s) = c :: unifyLines s := unifyLines.eq_3 c s hcr hlf
      exact (prefix_of_prefix_unifyLines hpart (hc ▸ h)).isInfix
    · exact List.infix_cons (ih h)
  | case4 => exact h

end NamedGrid.Utf8
