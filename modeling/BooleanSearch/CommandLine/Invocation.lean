import BooleanSearch.CommandLine.Limit
import BooleanSearch.CommandLine.Usage

/-! # Reading a command line

The words are read from left to right. Words that begin with a dash are options, the others name
the command or are its operands; behind `--` all are operands. An option that takes a value is
only complete with the word behind it, and is looked at when the next argument begins.
-/

namespace BooleanSearch

/-- What the program is asked to do. -/
inductive Command
  | parse (expressions : List String) (maxDepth : Option Nat) (json tree : Bool)
  | tokens (expression : String) (json : Bool)
  | init (global force : Bool)
  | config
deriving DecidableEq

/-- A command, and how many lines of the log are asked for. No command depends on that, and no
output contains the log. -/
structure Invocation where
  verbosity : Nat
  command : Command
deriving DecidableEq

/-- The commands, before their arguments are read. -/
inductive CommandName
  | parse
  | tokens
  | init
  | config
deriving DecidableEq

namespace CommandName

/-- The command with this name. -/
def ofWord? : String → Option CommandName
  | "parse" => some .parse
  | "tokens" => some .tokens
  | "init" => some .init
  | "config" => some .config
  | _ => none

/-- The named arguments of a command. -/
def arguments : CommandName → List Argument
  | .parse => [.help, .verbose, .json, .tree, .maxDepth]
  | .tokens => [.help, .verbose, .json]
  | .init => [.help, .verbose, .global, .force]
  | .config => [.help, .verbose]

/-- Whether a command takes one more operand. -/
def takesOperand (command : CommandName) (operands : List String) : Bool :=
  match command with
  | .parse => true
  | .tokens => operands.isEmpty
  | .init | .config => false

end CommandName

/-- A word of a command line, taken apart. -/
inductive Word
  /-- Two dashes alone. -/
  | separator
  /-- Two dashes and a name, perhaps with a value behind an equals sign. -/
  | long (name : String) (value : Option String)
  /-- One dash and letters. -/
  | short (letters : List Char)
  | plain (text : String)

/-- Takes a word apart. A dash alone is plain. -/
def Word.ofString (word : String) : Word :=
  match word.toList with
  | ['-', '-'] => .separator
  | '-' :: '-' :: rest =>
    let name := String.ofList (rest.takeWhile (· != '='))
    match rest.dropWhile (· != '=') with
    | [] => .long name none
    | _ :: value => .long name (some (String.ofList value))
  | '-' :: c :: rest => .short (c :: rest)
  | _ => .plain word

/-- The highest verbosity. -/
def maxVerbosity : Nat := 255

/-- What has been read of the arguments of a command. -/
structure Arguments where
  verbosity : Nat := 0
  /-- The switches, in the order they were given. -/
  switches : List Argument := []
  maxDepth : Option Nat := none
  operands : List String := []
  /-- A limit that has begun: nothing behind it yet, or the word behind it. -/
  pending : Option (Option String) := none

namespace Arguments

/-- Sets the limit. -/
def setLimit (args : Arguments) (word : String) : Except UsageError Arguments :=
  match args.maxDepth, readLimit word with
  | some _, _ => .error (.repeated .maxDepth)
  | none, .ok depth => .ok { args with maxDepth := some depth }
  | none, .error cause => .error (.badValue word .maxDepth cause)

/-- Completes a limit that has begun. -/
def settle (args : Arguments) : Except UsageError Arguments :=
  match args.pending with
  | none => .ok args
  | some none => .error (.missingValue .maxDepth)
  | some (some word) => { args with pending := none }.setLimit word

/-- Sets a switch. -/
def setSwitch (args : Arguments) (argument : Argument) : Except UsageError Arguments :=
  if args.switches.contains argument then .error (.repeated argument)
  else .ok { args with switches := args.switches ++ [argument] }

/-- Counts one more demand for talk. -/
def countVerbose (args : Arguments) : Arguments :=
  { args with verbosity := min maxVerbosity (args.verbosity + 1) }

/-- Reads a named argument, perhaps with a value attached to it. -/
def readNamed (args : Arguments) (argument : Argument) (value : Option String) :
    Except UsageError Arguments :=
  match argument, value with
  | .maxDepth, some word => do (← args.settle).setLimit word
  | .maxDepth, none => do return { ← args.settle with pending := some none }
  | argument, some word => .error (.surplusValue word argument)
  | .help, none => do
    let _ ← args.settle
    throw .helpRequest
  | .verbose, none => do return (← args.settle).countVerbose
  | argument, none => do (← args.settle).setSwitch argument

/-- Reads the letters behind one dash. -/
def readLetters (args : Arguments) : List Char → Except UsageError Arguments
  | [] => .ok args
  | 'v' :: rest => do (← args.readNamed .verbose none).readLetters rest
  | 'h' :: _ => args.readNamed .help none
  | c :: _ => .error (.unknownArgument (String.ofList ['-', c]))

/-- Reads an operand. -/
def readOperand (args : Arguments) (command : CommandName) (word : String) :
    Except UsageError Arguments :=
  if command.takesOperand args.operands then do
    let args ← args.settle
    return { args with operands := args.operands ++ [word] }
  else .error (.unknownArgument word)

/-- Reads the words behind a command. -/
def read (command : CommandName) (args : Arguments) : List String → Except UsageError Arguments
  | [] => args.settle
  | word :: rest =>
    match Word.ofString word with
    | .separator => do (← rest.foldlM (fun args word => args.readOperand command word) args).settle
    | .long name value =>
      match command.arguments.find? (·.name == name) with
      | some argument => do (← args.readNamed argument value).read command rest
      | none => .error (.unknownArgument ("--" ++ name))
    | .short letters => do (← args.readLetters letters).read command rest
    | .plain text =>
      if args.pending = some none then { args with pending := some (some text) }.read command rest
      else do (← args.readOperand command text).read command rest

/-- The switches `--json` and `--tree` exclude each other; the one given first is named first. -/
def checkConflicts (args : Arguments) : Except UsageError Unit :=
  match args.switches.filter fun argument => argument == .json || argument == .tree with
  | first :: second :: _ => .error (.conflict first second)
  | _ => .ok ()

/-- Makes the command that the arguments complete. -/
def command (name : CommandName) (args : Arguments) : Except UsageError Command := do
  args.checkConflicts
  let given (argument : Argument) : Bool := args.switches.contains argument
  match name, args.operands with
  | .parse, [] | .tokens, [] => throw .missingArgument
  | .parse, expressions => return .parse expressions args.maxDepth (given .json) (given .tree)
  | .tokens, expression :: _ => return .tokens expression (given .json)
  | .init, _ => return .init (given .global) (given .force)
  | .config, _ => return .config

end Arguments

namespace Invocation

/-- Reads the words behind `help`, which may name one command. -/
def readHelp : List String → UsageError
  | [] => .helpRequest
  | word :: rest =>
    if word = "help" || (CommandName.ofWord? word).isSome then
      match rest with
      | [] => .helpRequest
      | surplus :: _ => .unknownCommand surplus
    else .unknownCommand word

/-- The fault of an operand where a command should stand behind `--`. -/
def misplaced (word : String) : UsageError :=
  if word = "help" || (CommandName.ofWord? word).isSome then .unknownArgument word
  else .unknownCommand word

/-- The fault of a command line without a command. -/
def incomplete (args : Arguments) : UsageError :=
  if args.verbosity = 0 then .nothingGiven else .missingCommand

/-- Reads a command line; `args` is what came before the command. A verbosity behind the command
takes the place of one before it. -/
def readFrom (args : Arguments) : List String → Except UsageError Invocation
  | [] => .error (incomplete args)
  | word :: rest =>
    match Word.ofString word with
    | .separator =>
      match rest with
      | [] => .error (incomplete args)
      | operand :: _ => .error (misplaced operand)
    | .long name value =>
      match [Argument.help, Argument.verbose].find? (·.name == name) with
      | some argument => do readFrom (← args.readNamed argument value) rest
      | none => .error (.unknownArgument ("--" ++ name))
    | .short letters => do readFrom (← args.readLetters letters) rest
    | .plain text =>
      match CommandName.ofWord? text with
      | some name => do
        let own ← Arguments.read name {} rest
        let command ← own.command name
        return ⟨if own.verbosity = 0 then args.verbosity else own.verbosity, command⟩
      | none => .error (if text = "help" then readHelp rest else .unknownCommand text)

/-- Reads the words of a command line, the program name left out. -/
def read (words : List String) : Except UsageError Invocation := readFrom {} words

end Invocation

end BooleanSearch
