import NamedGrid.Table
import NamedGrid.Value

/-!
# Reading JSON

Reads one JSON value from a whole text. A name that is repeated in an object keeps its
first place and takes its last value. The words `NaN` and `Infinity` are numbers here.
Reading ends where lists and objects are nested too deeply, and at a whole number of too
many digits.
-/

namespace NamedGrid.Json

/-- Why a text cannot be read. -/
inductive Failure
  /-- It does not write a value. -/
  | malformed
  /-- Lists and objects are nested too deeply. -/
  | tooDeep
  deriving DecidableEq, Repr

/-- The depth to which lists and objects may be nested: ten thousand calls of the reader, less the
few that are under way when it starts. -/
def nestingLimit : Nat := 9997

/-- What was read, or else the failure of a malformed text. -/
def orMalformed {α : Type} : Option α → Except Failure α
  | some found => .ok found
  | none => .error .malformed

/-- Is the character white space between JSON tokens? -/
def isSpace (c : Char) : Bool := c == ' ' || c == '\n' || c == '\r' || c == '\t'

/-- The text from its first token on. -/
def skip (s : Text) : Text := s.dropWhile isSpace

/-- The number that a digit of base sixteen stands for. -/
def hexDigit? (c : Char) : Option Nat :=
  if c.isDigit then some (c.toNat - 0x30)
  else if 'a' ≤ c && c ≤ 'f' then some (c.toNat - 0x61 + 10)
  else if 'A' ≤ c && c ≤ 'F' then some (c.toNat - 0x41 + 10)
  else none

/-- The number that digits of base sixteen stand for. -/
def hexNumber? (digits : Text) : Option Nat :=
  digits.foldlM (fun n c => (hexDigit? c).map (16 * n + ·)) 0

/-- The number that a decimal digit sequence stands for. -/
def digitsNumber (digits : Text) : Nat :=
  digits.foldl (fun n c => 10 * n + (c.toNat - 0x30)) 0

/-- The character of a letter after a backslash. -/
def escapeLetter? : Char → Option Char
  | '"' => some '"'
  | '\\' => some '\\'
  | '/' => some '/'
  | 'b' => some '\x08'
  | 'f' => some '\x0c'
  | 'n' => some '\n'
  | 'r' => some '\r'
  | 't' => some '\t'
  | _ => none

/-- The code units of a string up to its closing quote, and what follows. -/
def stringUnits : Text → Option (List Nat × Text)
  | [] => none
  | '"' :: rest => some ([], rest)
  | '\\' :: 'u' :: a :: b :: c :: d :: rest => do
    let unit ← hexNumber? [a, b, c, d]
    let (units, after) ← stringUnits rest
    return (unit :: units, after)
  | '\\' :: letter :: rest => do
    let c ← escapeLetter? letter
    let (units, after) ← stringUnits rest
    return (c.toNat :: units, after)
  | c :: rest =>
    if c.toNat < 0x20 || c == '\\' then none
    else (stringUnits rest).map fun (units, after) => (c.toNat :: units, after)

/-- The character of one code unit; a surrogate that stands alone is replaced. -/
def unitChar (unit : Nat) : Char :=
  if 0xD800 ≤ unit && unit < 0xE000 then '\uFFFD' else Char.ofNat unit

/-- The text of code units, where a high and a low surrogate make one character. -/
def unitsText : List Nat → Text
  | [] => []
  | [unit] => [unitChar unit]
  | high :: low :: rest =>
    if 0xD800 ≤ high && high < 0xDC00 && 0xDC00 ≤ low && low < 0xE000 then
      Char.ofNat (0x10000 + (high - 0xD800) * 0x400 + (low - 0xDC00)) :: unitsText rest
    else unitChar high :: unitsText (low :: rest)

/-- A string after its opening quote. -/
def readString (s : Text) : Option (Text × Text) :=
  (stringUnits s).map fun (units, rest) => (unitsText units, rest)

/-- The digits after a point, if there are any. -/
def fraction (s : Text) : Text × Text :=
  match s with
  | '.' :: rest =>
    match rest.takeWhile Char.isDigit with
    | [] => ([], s)
    | digits => (digits, rest.dropWhile Char.isDigit)
  | _ => ([], s)

/-- The sign in front of an exponent's digits. -/
def exponentSign : Text → Bool × Text
  | '-' :: rest => (true, rest)
  | '+' :: rest => (false, rest)
  | rest => (false, rest)

/-- The exponent behind a number, if there is one. -/
def exponent (s : Text) : Option Int × Text :=
  match s with
  | c :: rest =>
    if c = 'e' || c = 'E' then
      let (negative, tail) := exponentSign rest
      match tail.takeWhile Char.isDigit with
      | [] => (none, s)
      | digits =>
        let n : Int := digitsNumber digits
        (some (if negative then -n else n), tail.dropWhile Char.isDigit)
    else (none, s)
  | [] => (none, s)

/-- A number without its sign. -/
def readMagnitude (negative : Bool) (s : Text) : Option (Value × Text) :=
  let whole := match s with
    | '0' :: _ => ['0']
    | _ => s.takeWhile Char.isDigit
  if whole.isEmpty then none
  else
    let (decimals, afterPoint) := fraction (s.drop whole.length)
    let (power, rest) := exponent afterPoint
    if decimals.isEmpty && power.isNone then
      if Value.digitLimit < whole.length then none
      else
        let n : Int := digitsNumber whole
        some (.int (if negative then -n else n), rest)
    else
      some (.decimal (.finite negative (digitsNumber (whole ++ decimals))
        (power.getD 0 - decimals.length)), rest)

/-- The words that are values. -/
def words : List (Text × Value) :=
  [("null".toList, .null), ("true".toList, .bool true), ("false".toList, .bool false),
    ("NaN".toList, .decimal .undefined), ("Infinity".toList, .decimal (.infinite false)),
    ("-Infinity".toList, .decimal (.infinite true))]

/-- A value that is no string, list or object. -/
def readScalar (s : Text) : Option (Value × Text) :=
  match words.findSome? fun word => (Text.after? word.1 s).map (word.2, ·) with
  | some found => some found
  | none =>
    match s with
    | '-' :: rest => readMagnitude true rest
    | _ => readMagnitude false s

mutual

/-- A value at the front of a text of at most `bound` tokens, without leading white space.
Lists and objects in it are nested at most `room` deep. -/
def readValue : Nat → Nat → Text → Except Failure (Value × Text)
  | 0, _, _ => .error .malformed
  | bound + 1, room, s =>
    match s with
    | '"' :: rest => orMalformed ((readString rest).map fun (text, after) => (.text text, after))
    | '[' :: rest =>
      match room with
      | 0 => .error .tooDeep
      | room + 1 =>
        match skip rest with
        | ']' :: after => .ok (.list [], after)
        | start => (readItems bound room start).map fun (items, after) => (.list items, after)
    | '\x7b' :: rest =>
      match room with
      | 0 => .error .tooDeep
      | room + 1 =>
        match skip rest with
        | '\x7d' :: after => .ok (.record [], after)
        | start =>
          (readFields bound room start).map fun (fields, after) =>
            (.record (Table.ofList fields).entries, after)
    | _ => orMalformed (readScalar s)

/-- The items of a list up to its closing bracket. -/
def readItems : Nat → Nat → Text → Except Failure (List Value × Text)
  | 0, _, _ => .error .malformed
  | bound + 1, room, s => do
    let (item, afterItem) ← readValue bound room s
    match skip afterItem with
    | ',' :: rest =>
      let (items, after) ← readItems bound room (skip rest)
      return (item :: items, after)
    | ']' :: after => return ([item], after)
    | _ => .error .malformed

/-- The fields of an object up to its closing brace. -/
def readFields : Nat → Nat → Text → Except Failure (List (Text × Value) × Text)
  | 0, _, _ => .error .malformed
  | bound + 1, room, s => do
    let '"' :: nameStart := s | .error .malformed
    let (name, afterName) ← orMalformed (readString nameStart)
    let ':' :: valueStart := skip afterName | .error .malformed
    let (value, afterValue) ← readValue bound room (skip valueStart)
    match skip afterValue with
    | ',' :: rest =>
      let (fields, after) ← readFields bound room (skip rest)
      return ((name, value) :: fields, after)
    | '\x7d' :: after => return ([(name, value)], after)
    | _ => .error .malformed

end

/-- The value that a whole text writes. -/
def read (s : Text) : Except Failure Value := do
  let (value, rest) ← readValue (2 * s.length + 2) nestingLimit (skip s)
  if (skip rest).isEmpty then return value else .error .malformed

/-- The value that a whole text writes, if it writes one. -/
def read? (s : Text) : Option Value := (read s).toOption

end NamedGrid.Json
