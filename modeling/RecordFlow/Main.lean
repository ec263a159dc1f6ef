import RecordFlow.Calendar.Template
import RecordFlow.Command.Program
import RecordFlow.Text.Uuid
import Std.Time.Zoned

/-!
# The command line

The program on the files, the clock and the streams of the machine. Messages go to the error stream,
with the local time in front.
-/

namespace RecordFlow.Command

/-- The machine, with the collections in memory and the active runs. -/
abbrev Machine := StateRefT Collections (StateRefT (List ActiveRun) IO)

/-- The failure of a file system behind a failure of the machine. -/
def ioErrorOf : IO.Error → IoError
  | .noFileOrDirectory .. => .missing
  | .alreadyExists .. => .exists
  | .inappropriateType _ 21 _ => .isDirectory
  | .inappropriateType _ 20 _ => .notDirectory
  | .permissionDenied .. => .other "Permission denied (os error 13)"
  | .invalidArgument _ 36 _ => .nameTooLong
  | error => .other (toString error)

/-- An action on the machine that may fail. -/
def attempt {α : Type} (action : IO α) : ExceptT IoError Machine α := do
  match ← (action.toBaseIO : BaseIO _) with
  | .ok a => return a
  | .error error => throw (ioErrorOf error)

/-- What stands at a path. -/
def kindAt (path : String) : IO (Option FileKind) := do
  try
    let place ← IO.FS.realPath path
    return some (if ← place.isDir then .directory else .file)
  catch _ => return none

/-- The names in a directory. -/
def entriesAt (path : String) : IO (List (String × FileKind)) := do
  let place ← IO.FS.realPath path
  let entries ← place.readDir
  entries.toList.mapM fun entry => do
    return (entry.fileName, if ← entry.path.isDir then .directory else .file)

/-- The files of the machine. -/
def machineFiles : FileSystem Machine where
  kind? path := kindAt path
  read path := attempt (IO.FS.readBinFile path)
  write path bytes := attempt (IO.FS.writeBinFile path bytes)
  remove path := attempt (IO.FS.removeFile path)
  entries path := attempt (entriesAt path)
  makeDirectories path := attempt (if path.isEmpty then pure () else IO.FS.createDirAll path)

/-- The present instant. -/
def currentTime : IO Timestamp := do
  let duration := (← Std.Time.Timestamp.now).val
  return (Timestamp.ofSeconds? duration.second.val duration.nano.val.toNat).getD .epoch

/-- The local time as it stands in front of messages. -/
def localTimeText : IO String := do
  let duration := (← Std.Time.PlainDateTime.now).toWallTime.val
  let time := (Timestamp.ofSeconds? duration.second.val 0).getD .epoch
  let text := (Template.parse? "%Y-%m-%d %H:%M:%S").bind fun items => Template.write? items time
  return text.getD ""

/-- What the program works with on the machine. -/
def machineSurroundings : Surroundings Machine where
  files := machineFiles
  memory := RecordStore.memory
  now := currentTime
  freshId := do
    let bytes ← IO.getRandomBytes 16
    return Text.uuidText bytes.data.toList
  log entry := do IO.eprintln ("[" ++ (← localTimeText) ++ "] " ++ logLine entry)
  activeRuns := getThe (List ActiveRun)
  setActiveRuns runs := set runs

end RecordFlow.Command

/-- The program. -/
def main (args : List String) : IO UInt32 := do
  let program := RecordFlow.Command.runProgram RecordFlow.Command.machineSurroundings args
  let ((ended, _), _) ← (program.run []).run []
  IO.print ended.output
  match ended.failure with
  | some failure => IO.eprintln failure.report
  | none => pure ()
  return UInt32.ofNat ended.exitCode
