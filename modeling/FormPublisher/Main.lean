import FormPublisher.CommandLine

/-!
# Running a command

The program itself.  It takes its settings from the environment and its file from the disk and
writes what the command reports.  It has no way to the provider, so no call gets an answer.
-/

namespace FormPublisher

/-- What a path on the disk leads to. -/
def readEntry (path : String) : IO (Option FileEntry) := do
  try
    return some (.file (← IO.FS.readBinFile path).toList)
  catch
    | .noFileOrDirectory .. => return none
    | .inappropriateType .. => return some .directory
    | .invalidArgument .. => return some .tooLong
    | _ => return none

/-- The settings under the environment of the program. -/
def readSettings : IO (Except LiteralError Settings) := do
  let names := ["FLASK_ENV", "LOG_LEVEL", "JOTFORM_API_KEY", "JOTFORM_API_URL", "JOTFORM_TIMEOUT",
    "QUESTION_UPDATES_ABORT_ON_FAILURE", "CORS_ALLOW_ORIGIN"]
  let values ← names.mapM fun name => return (name, ← IO.getEnv name)
  return Settings.ofEnvironment fun name => (values.lookup name).join

/-- Numbers that no other run of the program is likely to draw. -/
def freshIds : IO IdSupply := do
  let seed ← IO.getRandomBytes 16
  let start := seed.toList.foldl (fun n b => 256 * n + b.toNat) 0
  return { source := fun n => start + n }

/-- Carries out a command on a file. -/
def runCommand (command : Command) (path : Option String) : IO UInt32 := do
  match ← readSettings with
  | .error cause =>
    IO.eprintln cause.message
    return 1
  | .ok settings =>
    let location := path.map Path.ofString
    let entry ← location.mapM fun l => readEntry l.toString
    let session : Session := { ids := ← freshIds, otherwise := .fault }
    match ((command.run settings location entry.join).run.run session).1 with
    | .ok report =>
      IO.print report.output
      IO.eprint report.errors
      return report.exit.toUInt32
    | .error fault =>
      IO.eprintln fault.message
      return 1

end FormPublisher

/-- Reads the arguments and carries out the command that they name. -/
def main (args : List String) : IO UInt32 := do
  match FormPublisher.Invocation.ofArguments args with
  | .usage exit =>
    IO.eprintln "usage: form-publisher [-h] \x7bcompile,create,update\x7d path"
    return exit.toUInt32
  | .run command path => FormPublisher.runCommand command path
