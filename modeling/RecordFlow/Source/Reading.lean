import RecordFlow.Files.Basic
import RecordFlow.Source.Csv
import RecordFlow.Source.JsonFile

/-!
# Reading and writing data files

Tables and record files in a file system.
-/

namespace RecordFlow

section

variable {m : Type → Type} [Monad m]

/-- The bytes of a data file. What fails behind the opening of a file counts as a failure of its
format. -/
def readData (ofRead : IoError → DataError) (files : FileSystem m) (path : String) :
    ExceptT DataError m ByteArray :=
  (files.read path).adapt fun error =>
    match error with
    | .isDirectory => ofRead error
    | _ => .io error

/-- The records of a record file. -/
def readJsonRecords (files : FileSystem m) (file : String) (path : Option String) :
    ExceptT DataError m (List Record) := do
  let bytes ← readData (fun error => .json error.message) files file
  ExceptT.mk (pure (JsonFile.records file path bytes))

/-- Writes a record file. -/
def writeJsonRecords (files : FileSystem m) (file : String) (pretty : Bool)
    (records : List Record) : ExceptT DataError m Unit :=
  (files.write file (Text.bytesOfText (JsonFile.text pretty records))).adapt .io

/-- The records of a table. -/
def readCsvRecords (files : FileSystem m) (file : String) (delimiter : UInt8) :
    ExceptT DataError m (List Record) := do
  let bytes ← readData (fun error => .csv (.io error)) files file
  ExceptT.mk (pure ((Csv.records delimiter bytes).mapError .csv))

end

end RecordFlow
