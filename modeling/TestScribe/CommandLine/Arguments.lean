/-!
# Arguments of the command line

The command line is read from left to right.  `--config` may stand before or
after the name of the command; the other options belong to the command.
-/

namespace TestScribe.CommandLine

/-- What is asked for. -/
inductive Command where
  /-- Print the function around a line of a file. -/
  | locate (file : String) (line : Nat) (language : Option String)
  /-- Generate tests for a file, or for the function around a line of it. -/
  | generate (file : String) (line : Option Nat) (language : Option String)
  deriving DecidableEq

/-- What the arguments say. -/
inductive Invocation where
  | version
  /-- Carry out a command, with the settings in a file if one is named. -/
  | command (config : Option String) (command : Command)
  deriving DecidableEq

/-- The options that take a value. -/
inductive OptionName where
  | config
  | file
  /-- A line of the source file, counted from one. -/
  | line
  | language
  deriving DecidableEq

/-- How an option is written. -/
def OptionName.flag : OptionName → String
  | .config => "--config"
  | .file => "--file"
  | .line => "--line"
  | .language => "--language"

/-- The number of a line: decimal digits, perhaps after a plus sign, for a number
from one up to the greatest of 64 bits. -/
def lineNumber? (text : String) : Option Nat :=
  let digits :=
    match text.toList with
    | '+' :: digits => digits
    | digits => digits
  let number := Nat.ofDigitChars 10 digits 0
  if digits ≠ [] ∧ digits.all Char.isDigit ∧ 1 ≤ number ∧ number < Nat.pow 2 64 then some number
  else none

/-- Can the option take this value?  Paths may not be empty, and a line has to be
one. -/
def OptionName.accepts (option : OptionName) (value : String) : Bool :=
  match option with
  | .config => value != ""
  | .file => value != ""
  | .line => (lineNumber? value).isSome
  | .language => true

/-- May the argument stand as the value of the option before it?  One that looks
like an option may not. -/
def standsAsValue (argument : String) : Bool :=
  argument.toList.head? != some '-' || argument == "-"

/-- One of the options with its value at the front of the arguments, and the
arguments after it. -/
def readOption? (options : List OptionName) (arguments : List String) :
    Option ((OptionName × String) × List String) := do
  let argument ← arguments.head?
  options.findSome? fun option => do
    let (value, rest) ←
      if argument == option.flag then
        match arguments.drop 1 with
        | value :: rest => if standsAsValue value then some (value, rest) else none
        | [] => none
      else
        ((option.flag ++ "=").toList.isPrefixOf? argument.toList).map fun value =>
          (String.ofList value, arguments.drop 1)
    if option.accepts value then some ((option, value), rest) else none

/-- The options given so far, each at most once. -/
abbrev Given := List (OptionName × String)

/-- The options given so far with one more, unless it was given before. -/
def addOption? (given : Given) (option : OptionName) (value : String) : Option Given :=
  if (given.lookup option).isSome then none else some (given ++ [(option, value)])

/-- The options after the name of a command.  The number of rounds bounds how many
there are. -/
def readCommandOptions? : Nat → Given → List String → Option Given
  | _, given, [] => some given
  | _, given, ["--"] => some given
  | 0, _, _ => none
  | rounds + 1, given, arguments => do
    let ((option, value), rest) ←
      readOption? [.config, .file, .line, .language] arguments
    let given ← addOption? given option value
    readCommandOptions? rounds given rest

/-- The command with a given name and options. -/
def commandOf? (name : String) (given : Given) : Option Command := do
  let file ← given.lookup .file
  let line := (given.lookup .line).bind lineNumber?
  let language := given.lookup .language
  match name with
  | "locate" => return .locate file (← line) language
  | "generate" => return .generate file line language
  | _ => none

/-- The command at the front of the arguments; `config` is the settings file named
before it, which one named after it replaces. -/
def readCommand? (config : Option String) (name : String) (arguments : List String) :
    Option Invocation := do
  let given ← readCommandOptions? arguments.length [] arguments
  let command ← commandOf? name given
  return .command ((given.lookup .config).or config) command

/-- What the arguments say, if they are well formed.  The number of rounds bounds how
many there are; `given` holds the options before the command. -/
def readArguments? : Nat → Given → List String → Option Invocation
  | 0, _, _ => none
  | _, _, [] => none
  | rounds + 1, given, argument :: rest =>
    if argument == "--version" || "-V".toList.isPrefixOf argument.toList then
      some .version
    else if argument == "locate" || argument == "generate" then
      readCommand? (given.lookup .config) argument rest
    else do
      let ((option, value), rest) ← readOption? [.config] (argument :: rest)
      let given ← addOption? given option value
      readArguments? rounds given rest

/-- What the arguments of the command line say, if they are well formed. -/
def parseArguments? (arguments : List String) : Option Invocation :=
  readArguments? (arguments.length + 1) [] arguments

end TestScribe.CommandLine
