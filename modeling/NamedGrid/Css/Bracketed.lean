import NamedGrid.Text.Blank
import NamedGrid.Text.Word

/-!
# Bracketed classes

A bracketed class is a stem, a hyphen and a value in square brackets. A single class
name is read whole; markup is scanned from left to right for classes that do not start
inside a word, and every class is reported once.
-/

namespace NamedGrid

/-- A class that carries its value in brackets. -/
structure BracketedClass where
  stem : Text
  value : Text
  deriving DecidableEq, Repr

/-- The stems that may carry a bracketed value. -/
def bracketStems : List Text :=
  ["grid-areas".toList, "grid-area".toList, "row-start".toList, "row-end".toList,
    "col-start".toList, "col-end".toList]

/-- What stands between a stem and its value. -/
def opening : Text := ['-', '[']

/-- A text with every escape replaced by the character that it protects. A backslash
before a line feed or at the end protects nothing and stays. -/
def unescape : Text → Text
  | '\\' :: c :: s => if c = '\n' then '\\' :: unescape (c :: s) else c :: unescape s
  | c :: s => c :: unescape s
  | [] => []

/-- A backslash protects what is no line feed. -/
theorem unescape_backslash {c : Char} (hc : c ≠ '\n') (s : Text) :
    unescape ('\\' :: c :: s) = c :: unescape s := by
  rw [unescape, if_neg hc]

/-- A character that is no backslash, or the last one, stands for itself. -/
theorem unescape_cons {c : Char} {s : Text} (h : c = '\\' → s = []) :
    unescape (c :: s) = c :: unescape s := by
  rw [unescape]
  rintro d t hc rfl
  cases h hc

/-- The stem with which a text begins, and what follows its opening bracket. -/
def stem? (s : Text) : Option (Text × Text) :=
  bracketStems.findSome? fun stem => (Text.after? (stem ++ opening) s).map (stem, ·)

/-- What stands before the bracket that closes a text. One line feed may follow the
bracket, and none may stand before it. -/
def closedValue? (s : Text) : Option Text :=
  let body := if s.getLast? = some '\n' then s.dropLast else s
  if body.getLast? = some ']' && !Text.hasNewline body.dropLast then some body.dropLast
  else none

namespace BracketedClass

/-- The name of a class. -/
def className (c : BracketedClass) : Text := c.stem ++ opening ++ c.value ++ [']']

/-- The selector of a class, not yet escaped. -/
def selector (c : BracketedClass) : Text := '.' :: c.className

/-- Read a class name, of which one leading dot is ignored. -/
def parse? (name : Text) : Option BracketedClass :=
  match stem? (Text.without ['.'] name) with
  | none => none
  | some (stem, rest) => (closedValue? rest).map fun raw => ⟨stem, unescape raw⟩

end BracketedClass

/-- May the character stand in a bracketed value inside markup? -/
def isValueChar (c : Char) : Bool :=
  !isBlank c && c != '"' && c != '\x27' && c != '\x60' && c != ']'

/-- May a class follow the character in markup? -/
def isBoundary (c : Char) : Bool := !isWordChar c && c != '-'

/-- A class at the front of markup: its stem, its value as written, and what follows. -/
def written? (s : Text) : Option (Text × Text × Text) :=
  match stem? s with
  | none => none
  | some (stem, rest) =>
    match rest.dropWhile isValueChar with
    | ']' :: after => some (stem, rest.takeWhile isValueChar, after)
    | _ => none

/-- What follows an opening is shorter than the whole. -/
theorem length_lt_of_stem? {s stem rest : Text} (h : stem? s = some (stem, rest)) :
    rest.length < s.length := by
  obtain ⟨_, _, he⟩ := List.exists_of_findSome?_eq_some h
  obtain ⟨r, hr, hp⟩ := Option.map_eq_some_iff.mp he
  obtain ⟨rfl, rfl⟩ := Prod.mk.inj hp
  rw [Text.eq_append_of_after? hr]
  simp only [opening, List.length_append, List.length_cons, List.length_nil]
  omega

/-- What follows a class is shorter than the whole. -/
theorem length_lt_of_written? {s stem raw after : Text}
    (h : written? s = some (stem, raw, after)) : after.length < s.length := by
  unfold written? at h
  split at h
  · contradiction
  · rename_i st rest hs
    split at h
    · rename_i tail hd
      obtain ⟨rfl, rfl, rfl⟩ := Prod.mk.inj (Option.some.inj h) |>.imp id Prod.mk.inj
      have hl := length_lt_of_stem? hs
      have ht : (rest.dropWhile isValueChar).length ≤ rest.length :=
        (List.dropWhile_sublist _).length_le
      rw [hd, List.length_cons] at ht
      omega
    · contradiction

/-- The classes of markup as they are written, from left to right. Scanning resumes
behind a class, and `previous` is the character before the front. -/
def occurrences (previous : Option Char) (s : Text) : List (Text × Text) :=
  match s with
  | [] => []
  | c :: rest =>
    if previous.all isBoundary then
      match _h : written? (c :: rest) with
      | some (stem, raw, after) => (stem, raw) :: occurrences (some ']') after
      | none => occurrences (some c) rest
    else occurrences (some c) rest
termination_by s.length
decreasing_by
  · exact length_lt_of_written? _h
  · simp
  · simp

/-- The distinct bracketed classes of markup whose value is not empty, in first-seen order. -/
def bracketedClasses (markup : Text) : List BracketedClass :=
  (((occurrences none markup).map fun o => BracketedClass.mk o.1 (unescape o.2)).filter
    fun c => !c.value.isEmpty).eraseDups

end NamedGrid
