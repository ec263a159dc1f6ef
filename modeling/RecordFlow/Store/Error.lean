import RecordFlow.Document.Error
import RecordFlow.Files.Basic

/-!
# Failures of data and stores

Why data cannot be read or written and why a store does not do what it is asked.

## Main definitions

* `CsvError` — tables that are not rectangular or not text
* `DataError`, `StorageError` — failures of data files and of stores, each with its text
-/

namespace RecordFlow

/-- The place of a record in a table. -/
structure CsvPlace where
  record : Nat
  line : Nat
  byte : Nat
  deriving DecidableEq

/-- A failure of a table. -/
inductive CsvError where
  | io (error : IoError)
  | unequalLengths (place : CsvPlace) (length expected : Nat)
  | notText (place : CsvPlace) (field validUpTo : Nat)
  deriving DecidableEq

namespace CsvError

/-- The text of a place. -/
def placeText (place : CsvPlace) : String :=
  "record " ++ toString place.record ++ " (line: " ++ toString place.line ++ ", byte: " ++
    toString place.byte ++ ")"

/-- Where a field stops being text. -/
def notTextMessage (field validUpTo : Nat) : String :=
  "invalid utf-8: invalid UTF-8 in field " ++ toString field ++
    " near byte index " ++ toString validUpTo

/-- The text of a failure of a table. -/
def message : CsvError → String
  | io error => error.message
  | unequalLengths place length expected =>
    "CSV error: " ++ placeText place ++ ": found record with " ++ toString length ++
      " fields, but the previous record has " ++ toString expected ++ " fields"
  | notText place field validUpTo =>
    "CSV parse error: record " ++ toString place.record ++ " (line " ++ toString place.line ++
      ", field: " ++ toString field ++ ", byte: " ++ toString place.byte ++ "): " ++
      notTextMessage field validUpTo

end CsvError

/-- A failure of a data file. -/
inductive DataError where
  | io (error : IoError)
  | json (message : String)
  | csv (error : CsvError)
  | noPath (path : String)
  | noList (file : String)
  | noObject (found : String)
  deriving DecidableEq

/-- The text of a failure of a data file. -/
def DataError.message : DataError → String
  | io error => "IO error: " ++ error.message
  | json message => "JSON error: " ++ message
  | csv error => "CSV error: " ++ error.message
  | noPath path => "Parse error: Path '" ++ path ++ "' not found in JSON"
  | noList file => "Parse error: '" ++ file ++ "' does not contain a JSON array"
  | noObject found => "Parse error: Expected a JSON object, found " ++ found

/-- A failure of a store. -/
inductive StorageError where
  | data (error : DataError)
  | io (error : IoError)
  | malformed (message : String)
  | notFound (name : String)
  | invalidName (name : String)
  | pathRequired
  | unknownType (name : String)
  | failed (message : String)
  deriving DecidableEq

/-- The text of a failure of a store. -/
def StorageError.message : StorageError → String
  | data error => "Data error: " ++ error.message
  | io error => "IO error: " ++ error.message
  | malformed message => "Serialization error: " ++ message
  | notFound name => "Collection '" ++ name ++ "' not found"
  | invalidName name => "Invalid collection name: '" ++ name ++ "'"
  | pathRequired => "Error: File storage requires 'path'"
  | unknownType name => "Error: Unknown storage type: " ++ name
  | failed message => "Error: " ++ message

end RecordFlow
