import NamedGrid.Text.Quoted
import NamedGrid.Text.Similarity

/-!
# Reading arguments

A command has options, which start with hyphens, and operands. A long option may carry
its value behind an equals sign, short ones may stand together, and two hyphens end the
options. The commands of a group are operands, so a group reads no option behind the
first operand.
-/

namespace NamedGrid.CommandLine

/-- An option of a command, known by a key. -/
structure OptionSpec (ι : Type) where
  key : ι
  /-- The names, short ones of one hyphen and one letter before long ones of two. -/
  names : List Text
  /-- What stands for the value in a help page, if the option takes one. -/
  placeholder : Option Text
  help : Text

/-- What is wrong with arguments. -/
inductive UsageFault
  /-- There is no such option; the names that are close to it may be meant. -/
  | noSuchOption (name : Text) (close : List Text)
  /-- An option stands without its value. -/
  | valueMissing (name : Text)
  /-- A value stands behind an option that takes none. -/
  | valueUnexpected (name : Text)
  /-- There is no such command; the names that are close to it may be meant. -/
  | noSuchCommand (name : Text) (close : List Text)
  /-- An operand that is needed is missing. -/
  | operandMissing (placeholder : Text)
  /-- Operands stand where none are taken. -/
  | operandsUnexpected (operands : List Text)
  /-- The file that an option names is a directory. -/
  | directoryGiven (names : List Text) (file : Text)
  deriving DecidableEq, Repr

namespace UsageFault

/-- Is the fault about the value of an option alone, so that no usage explains it? -/
def isAboutValue : UsageFault → Bool
  | valueMissing _ | valueUnexpected _ => true
  | _ => false

/-- The hint at names that may be meant. -/
def hint : List Text → Text
  | [] => []
  | [name] => " Did you mean ".toList ++ name.quoted ++ ['?']
  | names =>
    " (Did you mean one of: ".toList ++
      ", ".toList.intercalate ((Text.sorted names).map Text.quoted) ++ "?)".toList

/-- The message for a fault. -/
def message : UsageFault → Text
  | noSuchOption name close => "No such option ".toList ++ name.quoted ++ '.' :: hint close
  | valueMissing name => "Option ".toList ++ name.quoted ++ " requires an argument.".toList
  | valueUnexpected name =>
    "Option ".toList ++ name.quoted ++ " does not take a value.".toList
  | noSuchCommand name close => "No such command ".toList ++ name.quoted ++ '.' :: hint close
  | operandMissing placeholder =>
    "Missing argument '".toList ++ placeholder ++ "'.".toList
  | operandsUnexpected operands =>
    "Got unexpected extra argument".toList ++ (if operands.length = 1 then [] else ['s']) ++
      " (".toList ++ [' '].intercalate operands ++ [')']
  | directoryGiven names file =>
    "Invalid value for ".toList ++
      " / ".toList.intercalate (names.map fun name => '\x27' :: name ++ ['\x27']) ++
      ": File ".toList ++ file.quoted ++ " is a directory.".toList

end UsageFault

/-- An option that was given, with its value if it takes one. -/
abbrev Given (ι : Type) := ι × Option Text

/-- What arguments say: the options in order, and the operands. -/
structure Reading (ι : Type) where
  given : List (Given ι)
  operands : List Text

/-- The options of one argument, and one at its end whose value is the next argument. -/
structure OptionGroup (ι : Type) where
  given : List (Given ι)
  awaiting : Option (ι × Text)

namespace Argument

variable {ι : Type}

/-- The mark behind which there are operands alone. -/
def endOfOptions : Text := ['-', '-']

/-- Does an argument look like an option? -/
def isOption (argument : Text) : Bool :=
  match argument with
  | '-' :: _ :: _ => true
  | _ => false

/-- Is a name one of the long ones? -/
def isLong (name : Text) : Bool := endOfOptions.isPrefixOf name

/-- The option of a name. -/
def find? (specs : List (OptionSpec ι)) (name : Text) : Option (OptionSpec ι) :=
  specs.find? fun spec => spec.names.contains name

/-- All long names. -/
def longNames (specs : List (OptionSpec ι)) : List Text :=
  specs.flatMap fun spec => spec.names.filter isLong

/-- The options of an argument in which short ones stand together. -/
def readShort (specs : List (OptionSpec ι)) : Text → Except UsageFault (OptionGroup ι)
  | [] => .ok ⟨[], none⟩
  | c :: rest =>
    match find? specs ['-', c] with
    | none => .error (.noSuchOption ['-', c] [])
    | some spec =>
      match spec.placeholder, rest with
      | none, _ =>
        (readShort specs rest).map fun group =>
          { group with given := (spec.key, none) :: group.given }
      | some _, [] => .ok ⟨[], some (spec.key, ['-', c])⟩
      | some _, value => .ok ⟨[(spec.key, some value)], none⟩

/-- The option of an argument that starts with a long name. -/
def readLong (spec : OptionSpec ι) (name : Text) (value : Option Text) :
    Except UsageFault (OptionGroup ι) :=
  match spec.placeholder, value with
  | none, none => .ok ⟨[(spec.key, none)], none⟩
  | none, some _ => .error (.valueUnexpected name)
  | some _, none => .ok ⟨[], some (spec.key, name)⟩
  | some _, some value => .ok ⟨[(spec.key, some value)], none⟩

/-- The options of one argument. What is no long name is read as short names, unless it
starts with two hyphens. -/
def readOption (specs : List (OptionSpec ι)) (argument : Text) :
    Except UsageFault (OptionGroup ι) :=
  let name := argument.takeWhile (· ≠ '=')
  let value := (argument.drop name.length).tail?
  match if isLong name then find? specs name else none with
  | some spec => readLong spec name value
  | none =>
    if isLong argument then
      .error (.noSuchOption name (Similarity.close name (longNames specs)))
    else readShort specs argument.tail

/-- Put options in front of a reading. -/
def Reading.withGiven (given : List (Given ι)) (reading : Reading ι) : Reading ι :=
  { reading with given := given ++ reading.given }

/-- Read arguments. Behind an operand, options are read only if they may be mixed. -/
def read (specs : List (OptionSpec ι)) (isMixed : Bool) :
    List Text → Except UsageFault (Reading ι)
  | [] => .ok ⟨[], []⟩
  | argument :: rest =>
    if argument = endOfOptions then .ok ⟨[], rest⟩
    else if isOption argument then
      match readOption specs argument with
      | .error fault => .error fault
      | .ok ⟨given, none⟩ => (read specs isMixed rest).map (Reading.withGiven given)
      | .ok ⟨given, some (key, name)⟩ =>
        match rest with
        | [] => .error (.valueMissing name)
        | value :: rest =>
          (read specs isMixed rest).map (Reading.withGiven (given ++ [(key, some value)]))
    else if isMixed then
      (read specs isMixed rest).map fun reading =>
        { reading with operands := argument :: reading.operands }
    else .ok ⟨[], argument :: rest⟩

end Argument

end NamedGrid.CommandLine
