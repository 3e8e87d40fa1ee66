import NamedGrid.Json.Reader

/-!
# Words of a configuration document

Strings, keys, numbers, and dates and times. Every reader takes the text from its first
character on and gives what it read with what follows, or nothing.
-/

namespace NamedGrid.Toml

/-- Why a document cannot be read. -/
inductive Failure
  /-- It is not valid. -/
  | malformed
  /-- A whole number in it has too many digits. -/
  | numberTooLong
  /-- Lists and inline tables are nested too deeply. -/
  | tooDeep
  deriving DecidableEq, Repr

/-- What was read, or else the failure of a document that is not valid. -/
def orMalformed {α : Type} : Option α → Except Failure α
  | some found => .ok found
  | none => .error .malformed

/-- Is the character white space within a line? -/
def isSpace (c : Char) : Bool := c == ' ' || c == '\t'

/-- The text from its first character that is no white space within a line. -/
def skipSpace (s : Text) : Text := s.dropWhile isSpace

/-- Is the character a control that a line may not hold? -/
def isIllegal (c : Char) : Bool := (c.toNat < 0x20 && c != '\t') || c.toNat == 0x7f

/-- Is the character a control that text over several lines may not hold? -/
def isIllegalInLines (c : Char) : Bool := isIllegal c && c != '\n'

/-- The character of a letter after a backslash. -/
def escapeLetter? : Char → Option Char
  | 'b' => some '\x08'
  | 't' => some '\t'
  | 'n' => some '\n'
  | 'f' => some '\x0c'
  | 'r' => some '\r'
  | '"' => some '"'
  | '\\' => some '\\'
  | _ => none

/-- The character that digits of base sixteen number. -/
def numberedChar? (digits : Text) : Option Char := do
  let n ← Json.hexNumber? digits
  if n < 0xD800 || (0xE000 ≤ n && n < 0x110000) then some (Char.ofNat n) else none

/-- A string after its opening quote, up to the closing one on the same line. -/
def basicString : Text → Option (Text × Text)
  | [] => none
  | '"' :: rest => some ([], rest)
  | '\\' :: 'u' :: a :: b :: c :: d :: rest => do
    let char ← numberedChar? [a, b, c, d]
    let (content, after) ← basicString rest
    return (char :: content, after)
  | '\\' :: 'U' :: a :: b :: c :: d :: e :: f :: g :: h :: rest => do
    let char ← numberedChar? [a, b, c, d, e, f, g, h]
    let (content, after) ← basicString rest
    return (char :: content, after)
  | '\\' :: letter :: rest => do
    let char ← escapeLetter? letter
    let (content, after) ← basicString rest
    return (char :: content, after)
  | c :: rest =>
    if isIllegal c || c == '\\' then none
    else (basicString rest).map fun (content, after) => (c :: content, after)

/-- What follows the three quotes that close a text: up to two more belong to the text. -/
def extraQuotes (quote : Char) : Text → Text × Text
  | c :: d :: rest =>
    if c = quote then if d = quote then ([quote, quote], rest) else ([quote], d :: rest)
    else ([], c :: d :: rest)
  | [c] => if c = quote then ([quote], []) else ([], [c])
  | [] => ([], [])

/-- Where a reader of text over several lines stands. -/
inductive LinesState
  /-- In the text. -/
  | within
  /-- After a backslash and white space, before the end of the line. -/
  | beforeBreak
  /-- After a backslash that ended a line, before the next character. -/
  | afterBreak
  deriving DecidableEq

/-- A text over several lines with escapes, up to its three closing quotes. -/
def basicLines : LinesState → Text → Option (Text × Text)
  | _, [] => none
  | .beforeBreak, c :: rest =>
    if isSpace c then basicLines .beforeBreak rest
    else if c = '\n' then basicLines .afterBreak rest
    else none
  | _, '"' :: '"' :: '"' :: rest => some (extraQuotes '"' rest)
  | _, '\\' :: 'u' :: a :: b :: c :: d :: rest => do
    let char ← numberedChar? [a, b, c, d]
    let (content, after) ← basicLines .within rest
    return (char :: content, after)
  | _, '\\' :: 'U' :: a :: b :: c :: d :: e :: f :: g :: h :: rest => do
    let char ← numberedChar? [a, b, c, d, e, f, g, h]
    let (content, after) ← basicLines .within rest
    return (char :: content, after)
  | _, '\\' :: letter :: rest =>
    if letter = '\n' then basicLines .afterBreak rest
    else if isSpace letter then basicLines .beforeBreak rest
    else do
      let char ← escapeLetter? letter
      let (content, after) ← basicLines .within rest
      return (char :: content, after)
  | state, c :: rest =>
    if state = .afterBreak && (isSpace c || c == '\n') then basicLines .afterBreak rest
    else if isIllegalInLines c || c == '\\' then none
    else (basicLines .within rest).map fun (content, after) => (c :: content, after)

/-- A string without escapes, up to the closing mark on the same line. -/
def literalString : Text → Option (Text × Text)
  | [] => none
  | c :: rest =>
    if c = '\x27' then some ([], rest)
    else if isIllegal c then none
    else (literalString rest).map fun (content, after) => (c :: content, after)

/-- A text over several lines without escapes, up to its three closing marks. -/
def literalLines : Text → Option (Text × Text)
  | [] => none
  | '\x27' :: '\x27' :: '\x27' :: rest => some (extraQuotes '\x27' rest)
  | c :: rest =>
    if isIllegalInLines c then none
    else (literalLines rest).map fun (content, after) => (c :: content, after)

/-- The text without a line feed at its front. -/
def dropBreak : Text → Text
  | '\n' :: rest => rest
  | s => s

/-- A string of any of the four kinds. -/
def string? : Text → Option (Text × Text)
  | '"' :: '"' :: '"' :: rest => basicLines .within (dropBreak rest)
  | '\x27' :: '\x27' :: '\x27' :: rest => literalLines (dropBreak rest)
  | '"' :: rest => basicString rest
  | '\x27' :: rest => literalString rest
  | _ => none

/-- May the character stand in a key without quotes? -/
def isBare (c : Char) : Bool := c.isAlphanum || c == '-' || c == '_'

/-- One part of a key. -/
def keyPart : Text → Option (Text × Text)
  | '"' :: rest => basicString rest
  | '\x27' :: rest => literalString rest
  | s =>
    match s.takeWhile isBare with
    | [] => none
    | part => some (part, s.dropWhile isBare)

/-- The parts of a key, up to the first character behind it that is no white space. -/
def keyParts : Nat → Text → Option (List Text × Text)
  | 0, _ => none
  | bound + 1, s => do
    let (part, rest) ← keyPart s
    match skipSpace rest with
    | '.' :: more =>
      let (parts, after) ← keyParts bound (skipSpace more)
      return (part :: parts, after)
    | after => return ([part], after)

/-- A key, whose parts are separated by dots. -/
def key (s : Text) : Option (List Text × Text) := keyParts (s.length + 1) s

/-- The digits that follow a digit, with single low lines between them. -/
def laterDigits (isDigit : Char → Bool) : Text → Text × Text
  | [] => ([], [])
  | c :: rest =>
    if isDigit c then
      let (digits, after) := laterDigits isDigit rest
      (c :: digits, after)
    else if c = '_' then
      match rest with
      | [] => ([], [c])
      | d :: more =>
        if isDigit d then
          let (digits, after) := laterDigits isDigit more
          (d :: digits, after)
        else ([], c :: d :: more)
    else ([], c :: rest)

/-- Digits with single low lines between them, and what follows. -/
def digitRun (isDigit : Char → Bool) (s : Text) : Text × Text :=
  match s with
  | [] => ([], [])
  | c :: rest =>
    if isDigit c then
      let (digits, after) := laterDigits isDigit rest
      (c :: digits, after)
    else ([], s)

/-- The number that digits of a base stand for. -/
def numberIn (base : Nat) (digits : Text) : Nat :=
  digits.foldl (fun n c => base * n + (Json.hexDigit? c).getD 0) 0

/-- The mark of a base after a zero, the base, and its digits. -/
def bases : List (Char × Nat × (Char → Bool)) :=
  [('x', 16, fun c => (Json.hexDigit? c).isSome), ('b', 2, fun c => c == '0' || c == '1'),
    ('o', 8, fun c => '0' ≤ c && c ≤ '7')]

/-- A whole number in a base other than ten. -/
def basedNumber? : Text → Option (Value × Text)
  | '0' :: mark :: rest => do
    let (_, base, isDigit) ← bases.find? fun b => b.1 = mark
    match digitRun isDigit rest with
    | ([], _) => none
    | (digits, after) => some (.int (numberIn base digits), after)
  | _ => none

/-- The decimals behind a point. -/
def decimals (s : Text) : Text × Text :=
  match s with
  | '.' :: rest =>
    match digitRun Char.isDigit rest with
    | ([], _) => ([], s)
    | found => found
  | _ => ([], s)

/-- The exponent behind a number. -/
def exponent? (s : Text) : Option Int × Text :=
  match s with
  | c :: rest =>
    if c = 'e' || c = 'E' then
      let (negative, unsigned) := Json.exponentSign rest
      match digitRun Char.isDigit unsigned with
      | ([], _) => (none, s)
      | (digits, after) =>
        let n : Int := numberIn 10 digits
        (some (if negative then -n else n), after)
    else (none, s)
  | [] => (none, s)

/-- A number in base ten behind its sign. -/
def decimalNumber? (negative : Bool) (s : Text) : Option (Value × Text) :=
  let (whole, rest) :=
    match s with
    | '0' :: rest => (['0'], rest)
    | _ => digitRun Char.isDigit s
  if whole.isEmpty then none
  else
    let (fraction, afterPoint) := decimals rest
    let (power, after) := exponent? afterPoint
    if fraction.isEmpty && power.isNone then
      let n : Int := numberIn 10 whole
      some (.int (if negative then -n else n), after)
    else
      some (.decimal (.finite negative (numberIn 10 (whole ++ fraction))
        (power.getD 0 - fraction.length)), after)

/-- The words that stand for numbers. -/
def numberWords : List (Text × Decimal) :=
  [("inf".toList, .infinite false), ("nan".toList, .undefined),
    ("-inf".toList, .infinite true), ("+inf".toList, .infinite false),
    ("-nan".toList, .undefined), ("+nan".toList, .undefined)]

/-- A number of any form. -/
def number? (s : Text) : Option (Value × Text) :=
  basedNumber? s <|>
    (match s with
      | '-' :: rest => decimalNumber? true rest
      | '+' :: rest => decimalNumber? false rest
      | _ => decimalNumber? false s) <|>
    numberWords.findSome? fun word => (Text.after? word.1 s).map (.decimal word.2, ·)

/-- The number that the first `count` characters write in base ten, if it lies in a range. -/
def digitsBetween (count least most : Nat) (s : Text) : Option (Nat × Text) :=
  let digits := s.take count
  if digits.length = count && digits.all Char.isDigit then
    let n := numberIn 10 digits
    if least ≤ n && n ≤ most then some (n, s.drop count) else none
  else none

/-- The text behind one character, if it stands at the front. -/
def behind (c : Char) : Text → Option Text
  | d :: rest => if d = c then some rest else none
  | [] => none

/-- The text behind the decimals of a second, which may be missing. -/
def afterDecimals (s : Text) : Text :=
  match s with
  | '.' :: rest =>
    if (rest.takeWhile Char.isDigit).isEmpty then s else rest.dropWhile Char.isDigit
  | _ => s

/-- What follows the time of a day at the front of a text. -/
def afterTime (s : Text) : Option Text := do
  let (_, s) ← digitsBetween 2 0 23 s
  let (_, s) ← digitsBetween 2 0 59 (← behind ':' s)
  let (_, s) ← digitsBetween 2 0 59 (← behind ':' s)
  return afterDecimals s

/-- What follows the distance from universal time, which may be missing. -/
def afterOffset (s : Text) : Text :=
  match s with
  | c :: rest =>
    if c = 'Z' || c = 'z' then rest
    else if c = '+' || c = '-' then
      (do
        let (_, t) ← digitsBetween 2 0 23 rest
        let (_, t) ← digitsBetween 2 0 59 (← behind ':' t)
        return t).getD s
    else s
  | [] => s

/-- Does a year have a twenty-ninth of February? -/
def isLeap (year : Nat) : Bool := year % 4 == 0 && (year % 100 != 0 || year % 400 == 0)

/-- The number of days of a month. -/
def daysIn (year month : Nat) : Nat :=
  if month = 2 then if isLeap year then 29 else 28
  else if month = 4 || month = 6 || month = 9 || month = 11 then 30
  else 31

/-- What a text that begins like a date holds. -/
inductive DateReading
  /-- It does not begin like a date. -/
  | other
  /-- There is no such day. -/
  | impossible
  /-- A date, with or without a time, and what follows it. -/
  | date (rest : Text)

/-- Read a date, and a time behind it. -/
def readDate (s : Text) : DateReading :=
  let found : Option (Nat × Nat × Nat × Text) := do
    let (year, s) ← digitsBetween 4 0 9999 s
    let (month, s) ← digitsBetween 2 1 12 (← behind '-' s)
    let (day, s) ← digitsBetween 2 1 31 (← behind '-' s)
    return (year, month, day, s)
  match found with
  | none => .other
  | some (year, month, day, rest) =>
    if year = 0 || daysIn year month < day then .impossible
    else
      match rest with
      | c :: more =>
        if c = 'T' || c = 't' || c = ' ' then
          match afterTime more with
          | some after => .date (afterOffset after)
          | none => .date rest
        else .date rest
      | [] => .date rest

/-- A moment as it is written at the front of a text. -/
def written (s rest : Text) : Value × Text := (.moment (s.take (s.length - rest.length)), rest)

/-- Is a value a whole number that is written in base ten with too many digits? -/
def isOverlong (value : Value) (written : Text) : Bool :=
  match value, written with
  | .int _, '0' :: _ => false
  | .int _, written => Value.digitLimit < written.countP Char.isDigit
  | _, _ => false

/-- A number of any form that is not overlong. -/
def boundedNumber (s : Text) : Except Failure (Value × Text) := do
  let (value, rest) ← orMalformed (number? s)
  if isOverlong value (s.take (s.length - rest.length)) then .error .numberTooLong
  else return (value, rest)

/-- A value that is no string, list or inline table. -/
def scalar (s : Text) : Except Failure (Value × Text) :=
  match Text.after? "true".toList s, Text.after? "false".toList s with
  | some rest, _ => .ok (.bool true, rest)
  | _, some rest => .ok (.bool false, rest)
  | none, none =>
    match readDate s with
    | .impossible => .error .malformed
    | .date rest => .ok (written s rest)
    | .other =>
      match afterTime s with
      | some rest => .ok (written s rest)
      | none => boundedNumber s

end NamedGrid.Toml
