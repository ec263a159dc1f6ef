import RecordFlow.Text.Case
import RecordFlow.Text.Split

/-!
# Files

A file system is given by what can be done with it, so that a program runs on a real one as well as
on one that is held in memory.

## Main definitions

* `IoError` — failures of a file system, with `IoError.message`
* `FileSystem` — a file system
* `joinPath`, `extension?` — texts of paths
-/

namespace RecordFlow

/-- A failure of a file system. -/
inductive IoError where
  | missing
  | isDirectory
  | notDirectory
  | exists
  | nameTooLong
  | notText
  | other (message : String)
  deriving DecidableEq

/-- The text of a failure of a file system. -/
def IoError.message : IoError → String
  | missing => "No such file or directory (os error 2)"
  | isDirectory => "Is a directory (os error 21)"
  | notDirectory => "Not a directory (os error 20)"
  | «exists» => "File exists (os error 17)"
  | nameTooLong => "File name too long (os error 36)"
  | notText => "stream did not contain valid UTF-8"
  | other message => message

/-- What stands at a path. -/
inductive FileKind where
  | file
  | directory
  deriving DecidableEq

/-- A file system. `makeDirectories` makes a directory with all that lead to it. -/
structure FileSystem (m : Type → Type) where
  kind? : String → m (Option FileKind)
  read : String → ExceptT IoError m ByteArray
  write : String → ByteArray → ExceptT IoError m Unit
  remove : String → ExceptT IoError m Unit
  entries : String → ExceptT IoError m (List (String × FileKind))
  makeDirectories : String → ExceptT IoError m Unit

/-- The text of a whole file. -/
def FileSystem.readText {m : Type → Type} [Monad m] (files : FileSystem m) (path : String) :
    ExceptT IoError m String := do
  let bytes ← files.read path
  match String.fromUTF8? bytes with
  | some text => return text
  | none => throw .notText

/-- The path of a name in a directory. -/
def joinPath (directory name : String) : String :=
  if directory.isEmpty || directory.endsWith "/" then directory ++ name
    else directory ++ "/" ++ name

/-- A file name in front of its last dot and behind it; a dot at the start does not count. -/
def splitExtension? (name : String) : Option (String × String) :=
  let reversed := name.toList.reverse
  let behind := reversed.takeWhile (· != '.')
  match reversed.drop behind.length with
  | _ :: front@(_ :: _) => some (String.ofList front.reverse, String.ofList behind.reverse)
  | _ => none

/-- The last name of a path. -/
def fileName? (path : String) : Option String :=
  match ((Text.splitAtChar '/' path).filter fun part => part != "" && part != ".").getLast? with
  | some ".." => none
  | name? => name?

/-- The extension of a path in lower case. -/
def extension? (path : String) : Option String :=
  ((fileName? path).bind splitExtension?).map fun parts => Text.toLowerText parts.2

end RecordFlow
