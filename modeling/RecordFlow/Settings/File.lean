import RecordFlow.Document.JsonText
import RecordFlow.Settings.Basic
import RecordFlow.Store.OnFiles
import RecordFlow.Yaml.Document

/-!
# Settings in files

Settings are kept in a JSON or a YAML file, which its extension tells,
and say which store is opened.

## Main definitions

* `SettingsError` — why settings cannot be read
* `Settings.load` — the settings of a file
* `StorageSettings.openStore` — the store that settings ask for
-/

namespace RecordFlow

/-- Why settings cannot be read. -/
inductive SettingsError where
  | io (error : IoError)
  | unsupported (path : String)
  | malformed (path message : String)

/-- The text of a failure. -/
def SettingsError.message : SettingsError → String
  | io error => "IO error: " ++ error.message
  | unsupported path => "Configuration error: Unsupported config file format: " ++ path
  | malformed path message => "Configuration error: " ++ path ++ ": " ++ message

/-- Whether an extension is that of a YAML file. -/
def isYamlExtension (extension : Option String) : Bool :=
  extension == some "yaml" || extension == some "yml"

/-- The settings of the text of a file. -/
def Settings.ofText (path text : String) : Except SettingsError Settings :=
  let extension := extension? path
  if extension = some "json" then
    (Json.readTyped Settings.reader text).mapError (.malformed path)
  else if isYamlExtension extension then
    (Yaml.readTyped Settings.reader text).mapError fun error => .malformed path error.message
  else .error (.unsupported path)

section

variable {m : Type → Type} [Monad m]

/-- The settings of a file. -/
def Settings.load (files : FileSystem m) (path : String) : ExceptT SettingsError m Settings := do
  let text ← (files.readText path).adapt SettingsError.io
  ExceptT.mk (pure (Settings.ofText path text))

/-- The store that settings ask for; `memory` is the one that keeps nothing on files. -/
def StorageSettings.openStore (files : FileSystem m) (memory : RecordStore m)
    (settings : StorageSettings) : ExceptT StorageError m (RecordStore m) :=
  match Text.toLowerText settings.kind with
  | "memory" => return memory
  | "file" =>
    match settings.path with
    | some path => openDirectory files path
    | none => throw .pathRequired
  | other => throw (.unknownType other)

end

end RecordFlow
