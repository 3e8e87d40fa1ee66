import NamedGrid.Text

/-!
# UTF-8

Files hold bytes. Decoding goes one byte at a time and gives, for every character or
maximal piece of one that cannot be completed, either the character or nothing. A
lenient reader shows a replacement character for nothing, a strict one refuses it.
-/

namespace NamedGrid.Utf8

/-- The bytes of a file. -/
abbrev Bytes := List UInt8

/-- The bytes of a text. -/
def encode (s : Text) : Bytes := s.flatMap fun c => (String.singleton c).toUTF8.toList

/-- A character under way: its bits so far and the ranges of the bytes that are due. -/
structure Pending where
  bits : Nat
  due : List (Nat × Nat)

/-- The bytes that may continue a character. -/
def tail : Nat × Nat := (0x80, 0xBF)

/-- What a first byte begins: a whole character, one under way, or nothing. -/
def start (b : Nat) : Except Pending (Option Char) :=
  if b < 0x80 then .ok (some (Char.ofNat b))
  else if b < 0xC2 then .ok none
  else if b < 0xE0 then .error ⟨b - 0xC0, [tail]⟩
  else if b = 0xE0 then .error ⟨0, [(0xA0, 0xBF), tail]⟩
  else if b = 0xED then .error ⟨0xD, [(0x80, 0x9F), tail]⟩
  else if b < 0xF0 then .error ⟨b - 0xE0, [tail, tail]⟩
  else if b = 0xF0 then .error ⟨0, [(0x90, 0xBF), tail, tail]⟩
  else if b < 0xF4 then .error ⟨b - 0xF0, [tail, tail, tail]⟩
  else if b = 0xF4 then .error ⟨4, [(0x80, 0x8F), tail, tail]⟩
  else .ok none

/-- The characters of bytes, after what is under way; nothing for a piece that fails. -/
def decodeFrom : Option Pending → Bytes → List (Option Char)
  | none, [] => []
  | some _, [] => [none]
  | pending, byte :: rest =>
    let b := byte.toNat
    let begin (lost : List (Option Char)) : List (Option Char) :=
      match start b with
      | .ok c => lost ++ c :: decodeFrom none rest
      | .error p => lost ++ decodeFrom (some p) rest
    match pending with
    | none => begin []
    | some ⟨_, []⟩ => begin [none]
    | some ⟨bits, range :: due⟩ =>
      if range.1 ≤ b && b ≤ range.2 then
        let bits := bits * 0x40 + (b - 0x80)
        match due with
        | [] => some (Char.ofNat bits) :: decodeFrom none rest
        | _ => decodeFrom (some ⟨bits, due⟩) rest
      else begin [none]

/-- The text of bytes, with a replacement character for every piece that fails. -/
def decodeLenient (bytes : Bytes) : Text :=
  (decodeFrom none bytes).map fun c => c.getD '\uFFFD'

/-- The text of bytes, if no piece of them fails. -/
def decodeStrict? (bytes : Bytes) : Option Text := (decodeFrom none bytes).mapM id

/-- The text with each of the three line endings written as a line feed. -/
def unifyLines : Text → Text
  | '\r' :: '\n' :: s => '\n' :: unifyLines s
  | '\r' :: s => '\n' :: unifyLines s
  | c :: s => c :: unifyLines s
  | [] => []

end NamedGrid.Utf8
