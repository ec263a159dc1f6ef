import RecordFlow.Document.Reader
import RecordFlow.Json.Basic

/-!
# Settings

How the engine works when nothing else is asked for, where records are kept, and how much is logged.

## Main definitions

* `EngineSettings`, `StorageSettings`, `LogSettings`, `Settings` — the settings with their defaults
* `Settings.reader`, `Settings.toJson` — settings as documents
-/

namespace RecordFlow

/-- How the engine works. Collections whose name starts with `tempPrefix` are temporary. -/
structure EngineSettings where
  tempPrefix : String := "_tmp_"
  previewLimit : Nat := 10
  continueOnError : Bool := false
  cleanup : Bool := false

/-- Where records are kept. -/
structure StorageSettings where
  kind : String := "memory"
  path : Option String := none

/-- How much is logged. -/
structure LogSettings where
  level : String := "info"

/-- All settings. -/
structure Settings where
  engine : EngineSettings := {}
  storage : StorageSettings := {}
  logging : LogSettings := {}

section

variable {δ : Type} [Document δ]

/-- Reads the settings of the engine. -/
def EngineSettings.reader : Reader δ EngineSettings :=
  readStruct "struct EngineConfig"
    (EngineSettings.mk <$> .withDefault "temp_prefix" Reader.text ({} : EngineSettings).tempPrefix
      <*> .withDefault "preview_limit" Reader.size ({} : EngineSettings).previewLimit
      <*> .withDefault "continue_on_error" Reader.boolean false
      <*> .withDefault "cleanup_temp_collections" Reader.boolean false)

/-- Reads the settings of the storage. -/
def StorageSettings.reader : Reader δ StorageSettings :=
  readStruct "struct StorageConfig"
    (StorageSettings.mk <$> .withDefault "type" Reader.text ({} : StorageSettings).kind
      <*> .optional "path" Reader.text)

/-- Reads the settings of the log. -/
def LogSettings.reader : Reader δ LogSettings :=
  readStruct "struct LoggingConfig"
    (LogSettings.mk <$> .withDefault "level" Reader.text ({} : LogSettings).level)

/-- Reads settings. -/
def Settings.reader : Reader δ Settings :=
  readStruct "struct Config"
    (Settings.mk <$> .withDefault "engine" EngineSettings.reader {}
      <*> .withDefault "storage" StorageSettings.reader {}
      <*> .withDefault "logging" LogSettings.reader {})

end

/-- The document of the settings of the engine. -/
def EngineSettings.toJson (settings : EngineSettings) : Json :=
  .obj [("temp_prefix", .str settings.tempPrefix), ("preview_limit", .int settings.previewLimit),
    ("continue_on_error", .bool settings.continueOnError),
    ("cleanup_temp_collections", .bool settings.cleanup)]

/-- The document of the settings of the storage. -/
def StorageSettings.toJson (settings : StorageSettings) : Json :=
  .obj [("type", .str settings.kind), ("path", (settings.path.map Json.str).getD .null)]

/-- The document of the settings of the log. -/
def LogSettings.toJson (settings : LogSettings) : Json := .obj [("level", .str settings.level)]

/-- The document of settings. -/
def Settings.toJson (settings : Settings) : Json :=
  .obj [("engine", settings.engine.toJson), ("storage", settings.storage.toJson),
    ("logging", settings.logging.toJson)]

end RecordFlow
