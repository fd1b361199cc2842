import BooleanSearch.Program

/-! # The command line program

The program reads every file that its command can ask for into a store, runs the command there,
and carries out what the command did to the store.
-/

namespace BooleanSearch

/-- How to call the program. -/
def usageText : String :=
  "Usage: osearch [-v]... <COMMAND>\n\n" ++
  "Commands:\n" ++
  "  parse [--max-depth <MAX_DEPTH>] [--json | --tree] <EXPRESSIONS>...\n" ++
  "  tokens [--json] <EXPRESSION>\n" ++
  "  init [--global] [--force]\n" ++
  "  config\n"

/-- The place of an absolute path that has been followed by the system. -/
def Path.place (path : Path) : Place := Path.meaningful path.segments

/-- Adds what the system has at a path to a store. -/
def readEntry (store : Store) (path : Path) : IO Store := do
  let here ← IO.currentDir
  let file := here / path.text
  if ← file.isDir then
    return store.makeDirectories path.place
  else if ← file.pathExists then
    return store.put path.place (.file (← IO.FS.readBinFile file))
  else
    return store

/-- The home directory, which is known if the variable for it is set and not empty. The database of
users is not asked for one. -/
def knownHome (setting : Option String) : Option Path :=
  (setting.filter (· ≠ "")).map Path.ofText

/-- The absolute path that leads where a path leads from a working directory. -/
def Path.fromRoot (path here : Path) : Path :=
  if path.isAbsolute then path else ⟨here.segments ++ path.segments⟩

/-- The environment that the program was started in, with the files that a command can ask for. -/
def readEnvironment : IO Environment := do
  let here := Path.ofText (← IO.currentDir).toString
  let home := knownHome (← IO.getEnv "HOME")
  let around := here.ancestors ++ home.toList.map (·.fromRoot here)
  let files := around.map (·.join settingsFileName)
  let paths := files.flatMap fun file => file.ancestors.reverse
  return ⟨← paths.foldlM readEntry .empty, home, here.place⟩

/-- Writes the settings file that `init` has made. -/
def writeTarget (env : Environment) (global : Bool) : IO Unit := do
  if let some (path, text) := env.initTarget global then
    let here ← IO.currentDir
    IO.FS.writeFile (here / path.text) text

/-- Prints an output. -/
def Output.print (output : Output) : IO UInt32 := do
  (← IO.getStdout).putStr output.stdout
  (← IO.getStderr).putStr output.stderr
  return output.exitCode.toUInt32

/-- Runs the program with the words of its command line. -/
def start (words : List String) : IO UInt32 := do
  match Invocation.read words with
  | .error error =>
    match error.message? with
    | some message => (← IO.getStderr).putStr (message ++ "\n\n" ++ usageText)
    | none =>
      (← if error.exitCode = 0 then IO.getStdout else IO.getStderr).putStr usageText
    return error.exitCode.toUInt32
  | .ok invocation =>
    let env ← readEnvironment
    let (output, _) := env.run invocation.command
    if output.succeeded then
      if let .init global _ := invocation.command then
        try writeTarget env global
        catch error =>
          return ← (Output.failure ("error: " ++ toString error ++ "\n")).print
    output.print

end BooleanSearch

def main (args : List String) : IO UInt32 := BooleanSearch.start args
