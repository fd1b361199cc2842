import BooleanSearch.Text.Terminal

/-! # What can be wrong with a command line

Every fault is a cause of its own; two of them are requests for help. The wording is made here.
-/

namespace BooleanSearch

/-- A named argument of a command. -/
inductive Argument
  | help
  | verbose
  | json
  | tree
  | maxDepth
  | global
  | force
deriving DecidableEq

namespace Argument

/-- The name of an argument, without its dashes. -/
def name : Argument → String
  | .help => "help"
  | .verbose => "verbose"
  | .json => "json"
  | .tree => "tree"
  | .maxDepth => "max-depth"
  | .global => "global"
  | .force => "force"

/-- How a message shows an argument. -/
def shown : Argument → String
  | .verbose => "--verbose..."
  | .maxDepth => "--max-depth <MAX_DEPTH>"
  | argument => "--" ++ argument.name

end Argument

/-- A command line that cannot be carried out. -/
inductive UsageError
  /-- Help was asked for. -/
  | helpRequest
  /-- Nothing at all was given. -/
  | nothingGiven
  /-- Options were given, but no command. -/
  | missingCommand
  | unknownCommand (word : String)
  | unknownArgument (word : String)
  /-- An argument that the command cannot do without. -/
  | missingArgument
  | conflict (first second : Argument)
  | repeated (argument : Argument)
  | missingValue (argument : Argument)
  /-- A value for an argument that has none. -/
  | surplusValue (value : String) (argument : Argument)
  | badValue (value : String) (argument : Argument) (cause : String)
deriving DecidableEq

namespace UsageError

/-- A short name for the kind of fault. -/
def kindName : UsageError → String
  | .helpRequest => "DisplayHelp"
  | .nothingGiven => "DisplayHelpOnMissingArgumentOrSubcommand"
  | .missingCommand => "MissingSubcommand"
  | .unknownCommand _ => "InvalidSubcommand"
  | .unknownArgument _ => "UnknownArgument"
  | .missingArgument => "MissingRequiredArgument"
  | .conflict .. | .repeated _ => "ArgumentConflict"
  | .missingValue _ => "InvalidValue"
  | .surplusValue .. => "TooManyValues"
  | .badValue .. => "ValueValidation"

/-- The exit code: asking for help is no failure. -/
def exitCode : UsageError → Nat
  | .helpRequest => 0
  | _ => 2

/-- A word that was given, as a message shows it: between quotes and without terminal controls. -/
def shownWord (word : String) : String :=
  "'" ++ String.ofList (Text.withoutControls .outside word.toList) ++ "'"

/-- The message behind `error: `, for a fault that has one. -/
def detail? : UsageError → Option String
  | .helpRequest | .nothingGiven => none
  | .missingCommand => some "'osearch' requires a subcommand but one was not provided"
  | .unknownCommand word => some ("unrecognized subcommand " ++ shownWord word)
  | .unknownArgument word => some ("unexpected argument " ++ shownWord word ++ " found")
  | .missingArgument => some "the following required arguments were not provided:"
  | .conflict first second =>
    some ("the argument '" ++ first.shown ++ "' cannot be used with '" ++ second.shown ++ "'")
  | .repeated argument =>
    some ("the argument '" ++ argument.shown ++ "' cannot be used multiple times")
  | .missingValue argument =>
    some ("a value is required for '" ++ argument.shown ++ "' but none was supplied")
  | .surplusValue value argument =>
    some ("unexpected value " ++ shownWord value ++ " for '" ++ argument.shown ++
      "' found; no more were expected")
  | .badValue value argument cause =>
    some ("invalid value " ++ shownWord value ++ " for '" ++ argument.shown ++ "': " ++ cause)

/-- The first line of a text. A carriage return before the line feed belongs to the line end. -/
def firstLine : List Char → List Char
  | [] => []
  | '\n' :: _ => []
  | '\r' :: '\n' :: _ => []
  | c :: rest => c :: firstLine rest

/-- The first line of the message. -/
def message? (error : UsageError) : Option String :=
  error.detail?.map fun detail => String.ofList (firstLine ("error: " ++ detail).toList)

end UsageError

end BooleanSearch
