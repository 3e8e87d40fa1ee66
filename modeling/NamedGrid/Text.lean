/-!
# Text

A text is the list of its characters. Every layer below works on this one
representation, so a cell, a class name and a whole stylesheet are cut and joined
by the same list operations, and a statement about any of them is an induction.
-/

namespace NamedGrid

/-- A text is the list of its Unicode characters. -/
abbrev Text := List Char

namespace Text

/-- The text between the first occurrence of `lead` at the front and the end, if it is there. -/
def after? (lead : Text) (s : Text) : Option Text := lead.isPrefixOf? s

/-- The text without one leading occurrence of `lead`. -/
def without (lead : Text) (s : Text) : Text := (lead.isPrefixOf? s).getD s

/-- Every occurrence of one character is exchanged for another. -/
def exchange (old new : Char) (s : Text) : Text := s.map fun c => if c = old then new else c

/-- Does the text contain the line feed character? -/
def hasNewline (s : Text) : Bool := s.contains '\n'

/-- The digits of a number in base ten. -/
def ofNat (n : Nat) : Text := Nat.toDigits 10 n

/-- The digits of an integer in base ten, with a leading hyphen below zero. -/
def ofInt : Int → Text
  | .ofNat n => ofNat n
  | .negSucc n => '-' :: ofNat (n + 1)

/-- A number in base sixteen with small letters and at least `width` digits. -/
def hex (width n : Nat) : Text := (Nat.toDigits 16 n).leftpad width '0'

/-- Comparison by the numbers of the characters, an initial part before the whole. -/
def before : Text → Text → Bool
  | [], [] => false
  | [], _ :: _ => true
  | _ :: _, [] => false
  | a :: s, b :: t => a.toNat < b.toNat || (a == b && before s t)

/-- Texts in ascending order. -/
def sorted (texts : List Text) : List Text := texts.mergeSort fun s t => !before t s

theorem after?_cons_cons (c d : Char) (lead s : Text) :
    after? (c :: lead) (d :: s) = if c == d then after? lead s else none := rfl

/-- A lead that was put in front is found there. -/
@[simp] theorem after?_append (lead s : Text) : after? lead (lead ++ s) = some s := by
  induction lead with
  | nil => rfl
  | cons c lead ih => rw [List.cons_append, after?_cons_cons, if_pos (beq_self_eq_true c), ih]

/-- Taking a lead off is exact: what was there is the lead followed by what is left. -/
theorem eq_append_of_after? {lead s rest : Text} (h : after? lead s = some rest) :
    s = lead ++ rest := by
  induction lead generalizing s with
  | nil => exact Option.some.inj h
  | cons c lead ih =>
    cases s with
    | nil => cases h
    | cons d s =>
      rw [after?_cons_cons] at h
      split at h
      · rename_i hcd
        rw [ih h, eq_of_beq hcd, List.cons_append]
      · cases h

end Text

end NamedGrid
