import CommandLog.Options.Similarity

/-!
# Options

How the words after a program's name are read.  A program, and each of its subcommands, accepts a
`Level` of arguments: flags, options that take a value, and operands.  The words are read from left
to right:

- `--` makes all words behind it operands;
- the name of a subcommand hands all words behind it over to that subcommand;
- a word that begins with two dashes is a flag or an option by its long name, and what follows the
  first `=` is its value;
- a word that begins with one dash is a row of flags by their letters;
- any other word is the value of the option before it, if that waits for one, and else an operand.

An option that is left without a value has its default, as if it had not been given.  Help and the
version are shown as soon as they are asked for; all other complaints about what was given wait
until the words are read, and a subcommand's come first.
-/

namespace CommandLog

/-- An option without a value. -/
structure Flag where
  long : String
  short : Option Char

/-- An option with a value. -/
structure ValueOption where
  long : String
  /-- What the value is called where the option is named. -/
  valueName : String
  default : String
  /-- The only values there are, if they are few. -/
  allowed : Option (List String)

/-- What a program or a subcommand accepts.  All operands must be given. -/
structure Level where
  flags : List Flag
  options : List ValueOption
  operands : List String

/-- A subcommand. -/
structure Subcommand where
  name : String
  level : Level

/-- A program and what it accepts. -/
structure Program where
  name : String
  version : String
  level : Level
  subcommands : List Subcommand

/-- Why the words do not lead to a run of the program. -/
inductive Interruption where
  | help
  /-- The version is asked for, of the program or of a subcommand, which has none. -/
  | version (name number : String)
  | unexpected (word : String)
  | unknownSubcommand (word : String)
  | noSubcommand
  | missing (operands : List String)
  | invalidValue (value option : String)
  | repeated (argument : String)
  deriving DecidableEq

/-- What was given at one level. -/
structure Given where
  /-- The flags, by long name, as often as they were given. -/
  flags : List String
  /-- The options, by long name, with their values, as often as they were given. -/
  values : List (String × Option String)
  operands : List String

/-- What was given to a program. -/
structure Parsed where
  top : Given
  subcommand : Option (String × Given)

namespace Interruption

/-- The complaint in words.  A subcommand that is missing is answered with help. -/
def message : Interruption → String
  | .help | .noSubcommand => ""
  | .version name number => name ++ " " ++ number
  | .unexpected word =>
    "Found argument '" ++ word ++ "' which wasn't expected, or isn't valid in this context"
  | .unknownSubcommand word => "The subcommand '" ++ word ++ "' wasn't recognized"
  | .missing operands =>
    "The following required arguments were not provided:"
      ++ String.join (operands.map fun operand => "\n    <" ++ operand ++ ">")
  | .invalidValue value option => "'" ++ value ++ "' isn't a valid value for '" ++ option ++ "'"
  | .repeated argument =>
    "The argument '" ++ argument
      ++ "' was provided more than once, but cannot be used multiple times"

end Interruption

/-- An option as it is named in a complaint. -/
def ValueOption.usage (option : ValueOption) : String :=
  "--" ++ option.long ++ " <" ++ option.valueName ++ ">"

/-- A flag as it is named in a complaint. -/
def Flag.usage (flag : Flag) : String := "--" ++ flag.long

namespace Given

/-- Nothing. -/
def nothing : Given := ⟨[], [], []⟩

/-- Was the flag given? -/
def has (given : Given) (flag : String) : Bool := given.flags.contains flag

/-- The first value given for an option, and its default if there is none. -/
def value (given : Given) (option : ValueOption) : String :=
  (given.values.findSome? fun (name, value) =>
    if name = option.long then value else none).getD option.default

/-- The operand at a place. -/
def operand (given : Given) (i : Nat) : String := given.operands[i]?.getD ""

/-- Notes a flag. -/
def addFlag (given : Given) (flag : String) : Given := { given with flags := given.flags ++ [flag] }

/-- Notes an option, with its value if it has one by now. -/
def addOption (given : Given) (option : String) (value : Option String) : Given :=
  { given with values := given.values ++ [(option, value)] }

/-- Notes an operand. -/
def addOperand (given : Given) (word : String) : Given :=
  { given with operands := given.operands ++ [word] }

/-- The complaint about one option: a value that there is not, or being given twice. -/
def complainOption? (given : Given) (option : ValueOption) : Option Interruption :=
  let values := given.values.filter (·.1 = option.long)
  let bad? := (values.filterMap (·.2)).find? fun value =>
    option.allowed.any (!·.contains value)
  match bad? with
  | some value => some (.invalidValue value option.usage)
  | none => if 1 < values.length then some (.repeated option.usage) else none

/-- The complaint about what was given at a level, if there is one. -/
def complaint? (given : Given) (level : Level) : Option Interruption :=
  if given.operands.length < level.operands.length then
    some (.missing (level.operands.drop given.operands.length))
  else
    (level.options.findSome? given.complainOption?) <|>
      (level.flags.findSome? fun flag =>
        if 1 < given.flags.count flag.long then some (.repeated flag.usage) else none)

/-- Lets through what there is no complaint about. -/
def check (given : Given) (level : Level) : Except Interruption Given :=
  match given.complaint? level with
  | some complaint => .error complaint
  | none => .ok given

end Given

/-- Where the reading of words at a level has come to. -/
structure Reading where
  given : Given
  /-- The option that waits for its value. -/
  awaiting : Option String
  /-- Are all words operands from here on? -/
  onlyOperands : Bool

namespace Reading

/-- The beginning. -/
def start : Reading := ⟨.nothing, none, false⟩

/-- Notes an option with its value, or waits for it. -/
def option (reading : Reading) (name : String) (value : Option String) : Reading :=
  match value with
  | some value =>
    { reading with given := reading.given.addOption name (some value), awaiting := none }
  | none => { reading with awaiting := some name }

/-- An option that waited for a value in vain was given without one. -/
def settle (reading : Reading) : Reading :=
  match reading.awaiting with
  | some name => { reading with given := reading.given.addOption name none, awaiting := none }
  | none => reading

/-- Notes a flag. -/
def flag (reading : Reading) (name : String) : Reading :=
  { reading with given := reading.given.addFlag name }

end Reading

namespace Level

/-- Reads a long name, with the dashes in front of it taken away.  `version` is shown where the
version is asked for. -/
def long (level : Level) (version : Interruption) (reading : Reading) (cs : List Char) :
    Except Interruption Reading :=
  let name := String.ofList (cs.takeWhile (· ≠ '='))
  let value :=
    match cs.dropWhile (· ≠ '=') with
    | [] => none
    | rest => some (String.ofList (rest.dropWhile (· = '=')))
  if level.options.any (·.long = name) then .ok (reading.option name value)
  else if name = "help" then .error .help
  else if name = "version" then .error version
  else if level.flags.any (·.long = name) then .ok (reading.flag name)
  else .error (.unexpected ("--" ++ name))

/-- Reads a row of flags by their letters. -/
def shorts (level : Level) (version : Interruption) :
    Reading → List Char → Except Interruption Reading
  | reading, [] => .ok reading
  | reading, c :: rest =>
    if c = 'h' then .error .help
    else if c = 'V' then .error version
    else
      match level.flags.find? (·.short = some c) with
      | some flag => shorts level version (reading.flag flag.long) rest
      | none => .error (.unexpected (String.ofList ['-', c]))

/-- Reads a word that can only be an operand. -/
def operand (level : Level) (subcommands : List String) (reading : Reading) (word : String) :
    Except Interruption Reading :=
  if Similarity.resembles word subcommands then .error (.unknownSubcommand word)
  else if reading.given.operands.length < level.operands.length then
    .ok { reading with given := reading.given.addOperand word }
  else .error (.unexpected word)

/-- Reads one word that is neither `--` nor a subcommand. -/
def word (level : Level) (subcommands : List String) (version : Interruption)
    (reading : Reading) (word : String) : Except Interruption Reading :=
  let cs := word.toList
  if reading.onlyOperands then level.operand subcommands reading word
  else
    match cs with
    | '-' :: '-' :: _ => level.long version reading.settle (cs.dropWhile (· = '-'))
    | '-' :: _ :: _ => level.shorts version reading.settle (cs.dropWhile (· = '-'))
    | _ =>
      match reading.awaiting with
      | some name => .ok (reading.option name (some word))
      | none => level.operand subcommands reading word

/-- Reads all words at a level that has no subcommands. -/
def words (level : Level) (version : Interruption) :
    Reading → List String → Except Interruption Given
  | reading, [] => reading.settle.given.check level
  | reading, first :: rest =>
    if first = "--" ∧ !reading.onlyOperands then
      words level version { reading with onlyOperands := true } rest
    else do words level version (← level.word [] version reading first) rest

end Level

namespace Program

/-- The names of the subcommands, with the one that shows help. -/
def subcommandNames (program : Program) : List String :=
  if program.subcommands = [] then [] else program.subcommands.map (·.name) ++ ["help"]

/-- What the subcommand that shows help does with the words behind it. -/
def help (program : Program) : List String → Interruption
  | [] => .help
  | [word] =>
    if program.subcommandNames.contains word then .help else .unknownSubcommand word
  | word :: next :: _ =>
    if program.subcommandNames.contains word then .unknownSubcommand next
    else .unknownSubcommand word

/-- Reads the words of a subcommand. -/
def subcommandWords (program : Program) (subcommand : Subcommand) (words : List String) :
    Except Interruption Given :=
  subcommand.level.words (.version (program.name ++ "-" ++ subcommand.name) "") .start words

/-- Reads words from a point on. -/
def wordsFrom (program : Program) : Reading → List String → Except Interruption Parsed
  | reading, [] =>
    if program.subcommands = [] then do
      return ⟨← reading.settle.given.check program.level, none⟩
    else .error .noSubcommand
  | reading, first :: rest =>
    let accepts := !reading.onlyOperands && reading.awaiting.isNone
    if first = "--" ∧ !reading.onlyOperands then
      wordsFrom program { reading with onlyOperands := true } rest
    else if accepts && program.subcommandNames.contains first then
      match program.subcommands.find? (·.name = first) with
      | some subcommand => do
        let given ← program.subcommandWords subcommand rest
        return ⟨← reading.given.check program.level, some (first, given)⟩
      | none => .error (program.help rest)
    else do
      let version := Interruption.version program.name program.version
      wordsFrom program
        (← program.level.word program.subcommandNames version reading first) rest

/-- Reads all the words after the program's name. -/
def parse (program : Program) (words : List String) : Except Interruption Parsed :=
  program.wordsFrom .start words

end Program

end CommandLog
