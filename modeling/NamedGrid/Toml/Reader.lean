import NamedGrid.Toml.Document
import NamedGrid.Toml.Token

/-!
# Reading TOML

Reads a whole document into a record of values. The first thing that is wrong with a
document ends the reading and is the reason that is given.
-/

namespace NamedGrid.Toml

/-- The text behind a comment's mark up to the end of the line, if it holds no illegal
control. -/
def afterComment : Text → Option Text
  | [] => some []
  | c :: rest =>
    if c = '\n' then some (c :: rest) else if isIllegal c then none else afterComment rest

/-- The text behind white space, line breaks and comments, as they stand in a list. -/
def skipLines : Bool → Text → Option Text
  | _, [] => some []
  | true, c :: rest =>
    if c = '\n' then skipLines false rest
    else if isIllegal c then none
    else skipLines true rest
  | false, c :: rest =>
    if isSpace c || c == '\n' then skipLines false rest
    else if c = '#' then skipLines true rest
    else some (c :: rest)

/-- How much room the nesting of lists and inline tables has: a thousand calls, less those that are
under way where a configuration is read. -/
def nestingRoom : Nat := 980

/-- The room that a list takes. -/
def listRoom : Nat := 2

/-- The room that an inline table takes. -/
def tableRoom : Nat := 3

/-- The room that is left inside of something. -/
def roomWithin (taken room : Nat) : Except Failure Nat :=
  if taken ≤ room then .ok (room - taken) else .error .tooDeep

mutual

/-- A value at the front of a text of at most `bound` tokens, nested as deep as there is
room. -/
def value : Nat → Nat → Text → Except Failure (Value × Text)
  | 0, _, _ => .error .malformed
  | bound + 1, room, s =>
    match s with
    | '[' :: rest => do
      let room ← roomWithin listRoom room
      match ← orMalformed (skipLines false rest) with
      | ']' :: after => return (.list [], after)
      | start =>
        let (items, after) ← items bound room start
        return (.list items, after)
    | '\x7b' :: rest => do
      let room ← roomWithin tableRoom room
      match skipSpace rest with
      | '\x7d' :: after => return (.record [], after)
      | start =>
        let (children, after) ← fields bound room [] start
        return (.record (childValues children), after)
    | _ =>
      match string? s with
      | some (content, after) => .ok (.text content, after)
      | none =>
        match s with
        | '"' :: _ => .error .malformed
        | '\x27' :: _ => .error .malformed
        | _ => scalar s

/-- The items of a list up to its closing bracket; a comma may stand behind the last. -/
def items : Nat → Nat → Text → Except Failure (List Value × Text)
  | 0, _, _ => .error .malformed
  | bound + 1, room, s => do
    let (item, afterItem) ← value bound room s
    match ← orMalformed (skipLines false afterItem) with
    | ']' :: after => return ([item], after)
    | ',' :: rest =>
      match ← orMalformed (skipLines false rest) with
      | ']' :: after => return ([item], after)
      | start =>
        let (items, after) ← items bound room start
        return (item :: items, after)
    | _ => .error .malformed

/-- A key and its value at the front of a text. -/
def pair : Nat → Nat → Text → Except Failure (List Text × Value × Text)
  | 0, _, _ => .error .malformed
  | bound + 1, room, s => do
    let (name, afterKey) ← orMalformed (key s)
    let '=' :: rest := afterKey | .error .malformed
    let (content, after) ← value bound room (skipSpace rest)
    return (name, content, after)

/-- The fields of an inline table up to its closing brace, added to those read before. -/
def fields : Nat → Nat → Children → Text → Except Failure (Children × Text)
  | 0, _, _, _ => .error .malformed
  | bound + 1, room, children, s => do
    let (name, content, afterValue) ← pair bound room s
    let children ← orMalformed (assign 0 content name children)
    match skipSpace afterValue with
    | '\x7d' :: after => return (children, after)
    | ',' :: rest => fields bound room children (skipSpace rest)
    | _ => .error .malformed

end

/-- A bound on the tokens of a text. -/
def tokenBound (s : Text) : Nat := 3 * s.length + 3

/-- A header behind its opening brackets, up to its closing ones. -/
def header? (closing : Text) (s : Text) : Option (List Text × Text) := do
  let (path, afterKey) ← key (skipSpace s)
  let after ← Text.after? closing afterKey
  return (path, after)

/-- The draft with the statement at the front of a text, and what follows it. Of a
statement the comment is left. -/
def statement (draft : Draft) (s : Text) : Except Failure (Draft × Text) :=
  match s with
  | '[' :: '[' :: rest => orMalformed do
    let (path, after) ← header? "]]".toList rest
    let draft ← draft.enter path appendTable
    return (draft, skipSpace after)
  | '[' :: rest => orMalformed do
    let (path, after) ← header? "]".toList rest
    let draft ← draft.enter path openTable
    return (draft, skipSpace after)
  | '#' :: _ => .ok (draft, s)
  | _ => do
    let (name, content, after) ← pair (tokenBound s) nestingRoom s
    let draft ← orMalformed (draft.write name content)
    return (draft, skipSpace after)

/-- The draft with at most `bound` more lines. -/
def lines : Nat → Draft → Text → Except Failure Draft
  | 0, _, _ => .error .malformed
  | bound + 1, draft, s =>
    match skipSpace s with
    | [] => .ok draft
    | '\n' :: rest => lines bound draft rest
    | start => do
      let (draft, afterStatement) ← statement draft start
      let rest ←
        match afterStatement with
        | '#' :: comment => orMalformed (afterComment comment)
        | rest => .ok rest
      match rest with
      | [] => return draft
      | '\n' :: rest => lines bound draft rest
      | _ => .error .malformed

/-- The fields of a document. -/
def read (s : Text) : Except Failure (List (Text × Value)) :=
  (lines (s.length + 1) .empty s).map fun draft => childValues draft.root

end NamedGrid.Toml
