import CopyBench.CommandLine.Options
/-!
# Reading the command line

Words are read from left to right, and the first problem ends the reading. The
value of a setting follows an equals sign or is the next word. A value that is
a word of its own is looked at only when the next option begins or the words
end, so a word that is no option at all is complained about before it.
-/

namespace CopyBench.CommandLine

/-- Why the reading of the command line ended early. -/
inductive Stop where
  /-- A word that is no option and no value. -/
  | unknownArgument (word : String)
  /-- A setting without a value, or with one that is not allowed. -/
  | invalidValue (setting : Setting) (value : String)
  /-- A setting with a value that does not write a number in range. -/
  | valueValidation (setting : Setting) (value : String)
  /-- An option that takes no value, with one. -/
  | tooManyValues (named : Named) (value : String)
  /-- An option that was given before. -/
  | argumentConflict (named : Named)
  | displayHelp
  | displayVersion
deriving DecidableEq, Repr

namespace Stop

/-- The word for a kind of stop. -/
def kind : Stop → String
  | unknownArgument _ => "UnknownArgument"
  | invalidValue _ _ => "InvalidValue"
  | valueValidation _ _ => "ValueValidation"
  | tooManyValues _ _ => "TooManyValues"
  | argumentConflict _ => "ArgumentConflict"
  | displayHelp => "DisplayHelp"
  | displayVersion => "DisplayVersion"

/-- The argument that a stop speaks of. -/
def argument? : Stop → Option String
  | unknownArgument word => some word
  | invalidValue setting _ => some (Named.setting setting).display
  | valueValidation setting _ => some (Named.setting setting).display
  | tooManyValues named _ => some named.display
  | argumentConflict named => some named.display
  | displayHelp => none
  | displayVersion => none

/-- The value that a stop speaks of. -/
def value? : Stop → Option String
  | invalidValue _ value => some value
  | valueValidation _ value => some value
  | tooManyValues _ value => some value
  | _ => none

/-- The exit code of a program that stops so. -/
def exitCode : Stop → Nat
  | displayHelp => 0
  | displayVersion => 0
  | _ => 2

end Stop

/-- How far the reading has come. -/
structure Scan where
  options : Options := {}
  /-- The flags and settings that took effect. -/
  given : List Named := []
  /-- A setting that was named on its own, with the word after it if there was one. -/
  pending : Option (Setting × Option String) := none
  /-- Whether the words that end all options have been read. -/
  trailing : Bool := false
deriving DecidableEq, Repr

namespace Scan

/-- A setting takes effect with a value. -/
def accept (scan : Scan) (setting : Setting) (value : String) : Except Stop Scan :=
  if Named.setting setting ∈ scan.given then .error (.argumentConflict (.setting setting))
  else
    match setting.set scan.options value with
    | .ok options => .ok { scan with options, given := .setting setting :: scan.given }
    | .error .notAllowed => .error (.invalidValue setting value)
    | .error .malformed => .error (.valueValidation setting value)

/-- A setting that was named on its own takes effect. -/
def settle (scan : Scan) : Except Stop Scan :=
  match scan.pending with
  | none => .ok scan
  | some (setting, none) => .error (.invalidValue setting "")
  | some (setting, some value) => accept { scan with pending := none } setting value

/-- A flag takes effect. -/
def give (scan : Scan) (flag : Flag) : Except Stop Scan :=
  if Named.flag flag ∈ scan.given then .error (.argumentConflict (.flag flag))
  else .ok { scan with options := flag.set scan.options, given := .flag flag :: scan.given }

/-- Reads the name of an option, with the value after its equals sign if there is one. -/
def option (scan : Scan) (name : String) (value : Option String) : Except Stop Scan :=
  match Named.find? name, value with
  | none, _ => .error (.unknownArgument ("--" ++ name))
  | some (.setting setting), some value => do
    let scan ← scan.settle
    scan.accept setting value
  | some (.setting setting), none => do
    let scan ← scan.settle
    .ok { scan with pending := some (setting, none) }
  | some named, some value => .error (.tooManyValues named value)
  | some (.flag flag), none => do
    let scan ← scan.settle
    scan.give flag
  | some .help, none => do
    let _ ← scan.settle
    .error .displayHelp
  | some .version, none => do
    let _ ← scan.settle
    .error .displayVersion

/-- Reads a letter after a single dash. -/
def letter (scan : Scan) (c : Char) : Except Stop Scan :=
  if c = 'h' then scan.option "help" none
  else if c = 'V' then scan.option "version" none
  else .error (.unknownArgument (String.ofList ['-', c]))

/-- Splits the text after two dashes at its first equals sign. -/
def splitValue (chars : List Char) : String × Option String :=
  match chars.dropWhile (· ≠ '=') with
  | [] => (String.ofList chars, none)
  | _ :: value => (String.ofList (chars.takeWhile (· ≠ '=')), some (String.ofList value))

/-- Reads a word. -/
def word (scan : Scan) (word : String) : Except Stop Scan :=
  if scan.trailing then .error (.unknownArgument word)
  else
    match word.toList with
    | ['-', '-'] => .ok { scan with trailing := true }
    | '-' :: '-' :: rest =>
      let (name, value) := splitValue rest
      scan.option name value
    | '-' :: c :: _ => scan.letter c
    | _ =>
      match scan.pending with
      | some (setting, none) => .ok { scan with pending := some (setting, some word) }
      | _ => .error (.unknownArgument word)

/-- Reads words in order. -/
def words (scan : Scan) : List String → Except Stop Scan
  | [] => .ok scan
  | text :: rest => do
    let scan ← scan.word text
    scan.words rest

end Scan

/-- Reads the words after the program's name. -/
def parse (words : List String) : Except Stop Options := do
  let scan ← Scan.words {} words
  let scan ← scan.settle
  .ok scan.options

end CopyBench.CommandLine
