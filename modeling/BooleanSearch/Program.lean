import BooleanSearch.CommandLine.Invocation
import BooleanSearch.Report.Outcome
import BooleanSearch.Settings.Discovery
import BooleanSearch.Settings.Template

/-! # Running commands

A command runs in an environment and gives an output and the files as they are afterwards. Every
command but `init` starts by loading the settings; `init` works whatever the files hold.

The program also keeps a log, whose lines go to the standard error stream as far as `-v` asks for
them. The log is left out: an output here is what is printed beside it. Neither that nor the exit
nor the files depend on how much is logged, so no command is given the verbosity.
-/

namespace BooleanSearch

/-- Parses expressions. Flags go before settings. -/
def runParse (settings : Settings) (expressions : List String) (maxDepth : Option Nat)
    (json tree : Bool) : Output :=
  let parser := SearchParser.ofLimit (maxDepth.getD settings.maxDepth)
  let format := if json then .json else if tree then .tree else settings.format
  parseReport format (expressions.map (Outcome.ofExpression parser))

namespace Environment

/-- The working directory as a path. -/
def directory (env : Environment) : Path := .ofPlace env.here

/-- The line that lists one settings file. -/
def listedFile (env : Environment) (path : Path) : String :=
  "#   " ++ path.text ++ (if env.isHomeFile path then " (global)" else "") ++ "\n"

/-- The settings files of a directory, as comments. -/
def listedFiles (env : Environment) : String :=
  match env.discover env.directory with
  | [] => "# no configuration files found, using defaults\n"
  | files =>
    "# configuration files (highest precedence first):\n" ++ String.join (files.map env.listedFile)

/-- Shows the settings files and the settings. -/
def runConfig (env : Environment) (settings : Settings) : Output :=
  .success (env.listedFiles ++ "\n" ++ settings.toToml)

/-- Whether the working directory is the home directory. -/
def isAtHome (env : Environment) : Bool :=
  (env.homeFile.bind Path.parent?).any (·.sameAs env.directory)

/-- The file that `init` makes, and the text that it gets. For the home directory there is neither
where none is known. -/
def initTarget (env : Environment) (global : Bool) : Option (Path × String) :=
  if global || env.isAtHome then env.homeFile.map fun file => (file, Template.home)
  else some (env.directory.join settingsFileName, Template.directory)

/-- Makes a settings file, if it is known where. One that exists is only replaced by force. -/
def runInit (env : Environment) (global force : Bool) : Output × Store :=
  match env.initTarget global with
  | none => (.failure "error: could not determine home directory\n", env.store)
  | some (path, text) =>
    if env.store.isPresent env.here path && !force then
      (.failure ("error: configuration file already exists: " ++ path.text ++
        "\nuse --force to overwrite\n"), env.store)
    else
      match env.store.writeText env.here path text with
      | .ok store => (.success ("Created " ++ path.text ++ "\n"), store)
      | .error cause =>
        (.failure ("error: failed to write " ++ path.text ++ ": " ++ cause.message ++ "\n"),
          env.store)

/-- Runs what the settings are needed for. -/
def withSettings (env : Environment) (command : Settings → Output) : Output :=
  match env.load env.directory with
  | .ok configuration => command configuration.settings
  | .error error => .failure ("error: failed to load configuration: " ++ error.message ++ "\n")

/-- Runs a command. -/
def run (env : Environment) : Command → Output × Store
  | .parse expressions maxDepth json tree =>
    (env.withSettings fun settings => runParse settings expressions maxDepth json tree, env.store)
  | .tokens expression json => (env.withSettings fun _ => tokenReport expression json, env.store)
  | .init global force => env.runInit global force
  | .config => (env.withSettings env.runConfig, env.store)

end Environment

end BooleanSearch
