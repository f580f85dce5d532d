import SidecarInjection.Command.Inline

/-!
# `SidecarInjection.Main`: the program

Reads the environment, the files and the standard input, and runs the command.
-/

set_option autoImplicit false

namespace SidecarInjection.Command

/-- The number of a system error, which is reported with either sign. -/
def systemCode (code : UInt32) : UInt32 := if code.toInt32 < 0 then 0 - code else code

/-- The error of a file that could not be read. -/
def fileError : IO.Error → FileError
  | .noFileOrDirectory .. => .notFound
  | .inappropriateType _ code details =>
    if systemCode code = 20 then .notADirectory
    else if systemCode code = 21 then .isADirectory
    else .other details
  | e => .other e.toString

/-- The text of a file, or why there is none. -/
def readFile (path : String) : IO (Except FileError String) := do
  try return FileError.decode (← IO.FS.readBinFile path)
  catch e => return .error (fileError e)

/-- The text of the standard input. -/
def readStdin : IO (Except FileError String) := do
  try return FileError.decode (← (← IO.getStdin).readBinToEnd)
  catch e => return .error (fileError e)

/-- The values of the variables of the command that are set. -/
def readEnvironment : IO (Dict String) := do
  let entries ← (inlineFlags.filterMap Flag.variableName).mapM fun name => do
    return (← IO.getEnv name).map fun value => (name, value)
  return entries.filterMap id

/-- The texts of the files that a task reads. -/
def readFiles (task : InlineTask) : IO (Dict (Except FileError String)) :=
  task.paths.mapM fun path => do return (path, ← readFile path)

/-- Runs the command with the arguments of the program. -/
def runProgram (arguments : List String) : IO UInt32 := do
  let environment := Dict.get? (← readEnvironment)
  let task := (InlineTask.parse environment arguments).toOption
  let files ← (task.map readFiles).getD (pure [])
  let stdin ←
    match task with
    | some ⟨_, none⟩ => readStdin
    | _ => pure (.ok "")
  let read := fun path => (Dict.get? files path).getD (.error .notFound)
  let outcome := runInline environment read stdin arguments
  IO.print outcome.output
  match outcome with
  | .misuse => IO.eprintln "error: invalid arguments\n\nFor more information, try '--help'."
  | _ => outcome.report.forM IO.eprintln
  return outcome.exitCode.toUInt32

end SidecarInjection.Command

/-- Runs the command that injects a manifest. -/
def main (arguments : List String) : IO UInt32 :=
  SidecarInjection.Command.runProgram arguments
