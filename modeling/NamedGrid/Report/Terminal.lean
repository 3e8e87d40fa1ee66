import NamedGrid.Text

/-!
# Control sequences

A control sequence tells a terminal how to show what follows. Behind an escape character and
a bracket it has parameters, then intermediate characters, and one final character, each of
its own range of ASCII. Output that goes to no terminal is written without these sequences.
-/

namespace NamedGrid.Terminal

/-- May the character stand among the parameters of a control sequence? -/
def isParameter (c : Char) : Bool := '0' ≤ c && c ≤ '?'

/-- May the character stand between the parameters and the end of a control sequence? -/
def isIntermediate (c : Char) : Bool := ' ' ≤ c && c ≤ '/'

/-- May the character end a control sequence? -/
def isFinal (c : Char) : Bool := '@' ≤ c && c ≤ '~'

/-- The length of the rest of a control sequence behind its bracket. -/
def sequenceRest? (s : Text) : Option Nat :=
  let parameters := s.takeWhile isParameter
  let intermediates := (s.drop parameters.length).takeWhile isIntermediate
  let body := parameters.length + intermediates.length
  match s.drop body with
  | c :: _ => if isFinal c then some (body + 1) else none
  | [] => none

/-- The text without control sequences, of which the next `skipped` characters are left. -/
def withoutSequences (skipped : Nat) : Text → Text
  | [] => []
  | c :: rest =>
    match skipped with
    | n + 1 => withoutSequences n rest
    | 0 =>
      match c, rest with
      | '\x1b', '[' :: more =>
        match sequenceRest? more with
        | some n => withoutSequences (n + 1) rest
        | none => c :: withoutSequences 0 rest
      | _, _ => c :: withoutSequences 0 rest

/-- The text without control sequences. -/
def plain (s : Text) : Text := withoutSequences 0 s

end NamedGrid.Terminal
