import ScriptGate.Run.Request

/-! # Arguments

The arguments of the command line are the options of all commands, a command, and the arguments of
that command: a script file and options. An option is written with its long name, with its value
after an equals sign or as the next argument, or with its letter, with its value right after it or
as the next argument. Two dashes end the options. -/

namespace ScriptGate.CommandLine

abbrev Argument := List Char

/-- What an option sets. -/
inductive Choice where
  | logLevel
  | timeout
  | maxResults
  | help
deriving DecidableEq, Repr

structure OptionSpec where
  choice : Choice
  /-- Its long name with the dashes. -/
  long : String
  /-- Its letter, if any; only options with a value have one. -/
  letter : Option Char
  takesValue : Bool
deriving DecidableEq, Repr

/-- The option for help, which every command has. -/
def helpOption : OptionSpec := ⟨.help, "--help", none, false⟩

def sharedOptions : List OptionSpec := [⟨.logLevel, "--log-level", none, true⟩, helpOption]

/-- The option for the time limit. -/
def timeoutOption : OptionSpec := ⟨.timeout, "--timeout", some 't', true⟩

/-- The option for the cap on records. -/
def maxResultsOption : OptionSpec := ⟨.maxResults, "--max-results", some 'n', true⟩

/-- A mistake in the arguments. -/
inductive UsageError where
  | unknownOption (name : Argument)
  /-- The value of an option is missing. -/
  | missingValue (name : Argument)
  /-- An option that has no value is given one. -/
  | needlessValue (name : Argument)
  | noArguments
  | missingCommand
  | unknownCommand (name : Argument)
  /-- The script file is missing from the arguments. -/
  | missingScript
  /-- There are too many arguments. -/
  | tooManyArguments
  /-- A value is no whole number. -/
  | notWhole (value : Argument)
  /-- A number is out of range. -/
  | outOfRange (value : Argument)
  /-- The script file cannot be read. -/
  | unreadable (path : Argument)
deriving DecidableEq, Repr

/-- The wording of a mistake. -/
def UsageError.message : UsageError → String
  | .unknownOption name => "No such option: " ++ String.ofList name
  | .missingValue name => "Option needs a value: " ++ String.ofList name
  | .needlessValue name => "Option takes no value: " ++ String.ofList name
  | .noArguments => "No arguments"
  | .missingCommand => "Missing command"
  | .unknownCommand name => "No such command: " ++ String.ofList name
  | .missingScript => "Missing script file"
  | .tooManyArguments => "Too many arguments"
  | .notWhole value => "Not a whole number: " ++ String.ofList value
  | .outOfRange value => "Number out of range: " ++ String.ofList value
  | .unreadable path => "Cannot read the script file: " ++ String.ofList path

/-- How the arguments are written. -/
def usage : String :=
  "[--log-level WORD] validate|screen|execute|test [-t|--timeout MILLISECONDS] " ++
    "[-n|--max-results COUNT] FILE"

/-- Why no command is carried out. -/
inductive Interruption where
  | help
  | usage (error : UsageError)
deriving DecidableEq, Repr

/-- An option and its value, if the argument holds one. -/
structure WrittenOption where
  spec : OptionSpec
  /-- The value in the same argument. -/
  value : Option Argument
deriving DecidableEq, Repr

/-- Whether an argument is written like an option: a dash and something more. -/
def isOptionLike : Argument → Bool
  | '-' :: _ :: _ => true
  | _ => false

/-- The name of an option, and what follows the first equals sign. -/
def splitValue (argument : Argument) : Argument × Option Argument :=
  match argument.dropWhile (· ≠ '=') with
  | _ :: value => (argument.takeWhile (· ≠ '='), some value)
  | [] => (argument, none)

/-- The option of a single letter, with the rest of the argument as its value. -/
def letterOption (specs : List OptionSpec) (letter : Char) (rest : Argument) :
    Except UsageError WrittenOption :=
  match specs.find? fun spec => spec.letter = some letter with
  | some spec => .ok ⟨spec, if rest.isEmpty then none else some rest⟩
  | none => .error (.unknownOption ['-', letter])

def writtenOption (specs : List OptionSpec) (argument : Argument) :
    Except UsageError WrittenOption :=
  let (name, value) := splitValue argument
  match specs.find? fun spec => spec.long.toList = name with
  | some spec =>
    if spec.takesValue || value.isNone then .ok ⟨spec, value⟩ else .error (.needlessValue name)
  | none =>
    match argument with
    | '-' :: '-' :: _ => .error (.unknownOption name)
    | '-' :: letter :: rest => letterOption specs letter rest
    | _ => .error (.unknownOption name)

/-- Arguments that are sorted into options and others. -/
structure Sorted where
  /-- The options with their values, in order; an option without a value has an empty one. -/
  options : List (Choice × Argument)
  /-- The other arguments, in order. -/
  others : List Argument
deriving DecidableEq, Repr

namespace Sorted

/-- The arguments with an option before them. -/
def withOption (choice : Choice) (value : Argument) (sorted : Sorted) : Sorted :=
  { sorted with options := (choice, value) :: sorted.options }

/-- The arguments with another one before them. -/
def withOther (argument : Argument) (sorted : Sorted) : Sorted :=
  { sorted with others := argument :: sorted.others }

/-- The value of an option. Of several, the last one counts. -/
def value? (sorted : Sorted) (choice : Choice) : Option Argument :=
  sorted.options.reverse.lookup choice

/-- Whether help is asked for. -/
def asksHelp (sorted : Sorted) : Bool := (sorted.value? .help).isSome

end Sorted

/-- Sorts arguments. Unless options and others may be mixed, everything from the first other
argument on belongs to the others. -/
def sortArguments (specs : List OptionSpec) (mixed : Bool) :
    List Argument → Except UsageError Sorted
  | [] => .ok ⟨[], []⟩
  | argument :: arguments =>
    if argument = ['-', '-'] then .ok ⟨[], arguments⟩
    else if isOptionLike argument then
      match writtenOption specs argument with
      | .error error => .error error
      | .ok ⟨spec, some value⟩ =>
        (sortArguments specs mixed arguments).map (·.withOption spec.choice value)
      | .ok ⟨spec, none⟩ =>
        if spec.takesValue then
          match arguments with
          | [] => .error (.missingValue argument)
          | value :: others =>
            (sortArguments specs mixed others).map (·.withOption spec.choice value)
        else (sortArguments specs mixed arguments).map (·.withOption spec.choice [])
    else if mixed then (sortArguments specs mixed arguments).map (·.withOther argument)
    else .ok ⟨[], argument :: arguments⟩

inductive Command where
  /-- Finds the errors of a script. -/
  | validate
  /-- Looks for what makes a script unsafe. -/
  | screen
  | execute
  /-- Runs a script in test mode. -/
  | test
deriving DecidableEq, Repr

namespace Command

def named : List (String × Command) :=
  [("validate", .validate), ("screen", .screen), ("execute", .execute), ("test", .test)]

def options : Command → List OptionSpec
  | .validate | .screen => [helpOption]
  | .execute => [timeoutOption, helpOption]
  | .test => [maxResultsOption, timeoutOption, helpOption]

end Command

/-- The part of the arguments that comes before those of a command. -/
structure Opening where
  /-- The word for the level of the log, if any. -/
  level : Option Argument
  command : Command
  /-- The arguments of the command. -/
  arguments : List Argument
deriving DecidableEq, Repr

def Opening.ofSorted (sorted : Sorted) : Except Interruption Opening :=
  if sorted.asksHelp then .error .help
  else
    match sorted.others with
    | [] => .error (.usage .missingCommand)
    | name :: arguments =>
      match Command.named.lookup (String.ofList name) with
      | some command => .ok ⟨sorted.value? .logLevel, command, arguments⟩
      | none => .error (.usage (.unknownCommand name))

def Opening.ofArguments (arguments : List Argument) : Except Interruption Opening :=
  if arguments.isEmpty then .error (.usage .noArguments)
  else
    match sortArguments sharedOptions false arguments with
    | .error error => .error (.usage error)
    | .ok sorted => Opening.ofSorted sorted

inductive Activity where
  | validate
  | screen
  | run (options : RunOptions)
deriving DecidableEq

/-- What to do with which script file. -/
structure Task where
  activity : Activity
  /-- The path of the script file. -/
  path : Argument
deriving DecidableEq

/-- The number that the value of an option writes, if the option is given. -/
def numberOption {α : Type} (sorted : Sorted) (choice : Choice)
    (accept : Int → Except FieldProblem α) : Except UsageError (Option α) :=
  match sorted.value? choice with
  | none => .ok none
  | some value =>
    match Number.readWhole? value with
    | none => .error (.notWhole value)
    | some number =>
      match accept number with
      | .ok accepted => .ok (some accepted)
      | .error _ => .error (.outOfRange value)

def runOptions (testMode : Bool) (sorted : Sorted) : Except UsageError RunOptions := do
  let maxResults ← numberOption sorted .maxResults RecordCap.ofInt
  let timeout ← numberOption sorted .timeout TimeLimit.ofInt
  return { timeout, testMode, maxResults }

def Command.activity (command : Command) (sorted : Sorted) : Except UsageError Activity :=
  match command with
  | .validate => .ok .validate
  | .screen => .ok .screen
  | .execute => (runOptions false sorted).map .run
  | .test => (runOptions true sorted).map .run

def Task.ofArguments (command : Command) (arguments : List Argument) : Except Interruption Task :=
  match sortArguments command.options true arguments with
  | .error error => .error (.usage error)
  | .ok sorted =>
    if sorted.asksHelp then .error .help
    else
      match command.activity sorted, sorted.others with
      | .error error, _ => .error (.usage error)
      | .ok activity, [path] => .ok ⟨activity, path⟩
      | .ok _, [] => .error (.usage .missingScript)
      | .ok _, _ => .error (.usage .tooManyArguments)

end ScriptGate.CommandLine
