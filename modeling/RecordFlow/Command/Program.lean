import RecordFlow.Command.Arguments
import RecordFlow.Command.Failure
import RecordFlow.Json.Printer

/-!
# The program

The program validates a pipeline, runs one or previews a step. It reads definitions from JSON and
YAML files and writes its result as a JSON document. Collections can be loaded from files first.

## Main definitions

* `Surroundings` — what the program works with
* `Ended` — how the program ends
* `perform` — the work of an invocation
* `runProgram` — the program on its arguments
-/

namespace RecordFlow.Command

/-- What the program works with. -/
structure Surroundings (m : Type → Type) where
  files : FileSystem m
  memory : RecordStore m
  now : m Timestamp
  freshId : m String
  log : LogEntry → m Unit
  activeRuns : m (List ActiveRun)
  setActiveRuns : List ActiveRun → m Unit

/-- How the program ends: its exit code, what it writes, and the failure that ends it. -/
structure Ended where
  exitCode : Nat
  output : String := ""
  failure : Option Failure := none

/-- What the program says about itself. -/
def versionText : String := "Rust ETL Pipeline Engine 0.1.0\n"

/-- How the program is used. -/
def usageText : String :=
  "Runs and validates ETL pipeline definitions\n\n" ++
    "etl-engine [--config FILE] validate PIPELINE\n" ++
    "etl-engine [--config FILE] run PIPELINE [--seed NAME=FILE]... [--dry-run] " ++
    "[--continue-on-error] [--cleanup]\n" ++
    "etl-engine [--config FILE] preview STEP [--seed NAME=FILE]... [--limit N]\n"

/-- What the program says when nothing is asked of it. -/
def nothingText : String := "No subcommand specified. Use --help for usage information.\n"

/-- A document that the program writes. -/
def documentText (json : Json) : String := json.pretty ++ "\n"

/-- Who reports a message, as it is shown. -/
def sourceName : LogSource → String
  | .program => "etl_engine"
  | .service => "rust_etl_pipeline_engine::api::service"
  | .execution => "rust_etl_pipeline_engine::pipeline::orchestrator"

/-- The colour of a level on a terminal. -/
def levelColour : LogLevel → String
  | .error => "31"
  | .warn => "33"
  | .info => "32"
  | .debug => "34"
  | .trace => "90"

/-- A message as it is shown. -/
def logLine (entry : LogEntry) : String :=
  "\x1b[" ++ levelColour entry.level ++ "m" ++ entry.level.name ++ "\x1b[0m " ++
    sourceName entry.source ++ ": " ++ entry.text

/-- Why a limit is not a number. -/
def limitFailure (text : String) : String :=
  let digits := match text.toList with
    | '+' :: c :: cs => c :: cs
    | cs => cs
  if text.isEmpty then "cannot parse integer from empty string"
  else if digits.all Char.isDigit then "number too large to fit in target type"
  else "invalid digit found in string"

section

variable {m : Type → Type} [Monad m]

/-- Reads a definition from a file. -/
def loadDocument {α : Type} (files : FileSystem m) (path : String) (ofJson : Reader Json.Unread α)
    (ofYaml : Reader Yaml.Part α) : ExceptT Failure m α := do
  let text ← (files.readText path).adapt fun error => error.failure.within ("reading " ++ path)
  let result :=
    if isYamlExtension (extension? path) then
      (Yaml.readTyped ofYaml text).mapError Yaml.ReadError.messages
    else (Json.readTyped ofJson text).mapError fun message => [message]
  ExceptT.mk (pure (result.mapError fun messages => ⟨"parsing " ++ path, messages⟩))

/-- The records of a file that a collection is loaded from. -/
def loadRecords (files : FileSystem m) (path : String) : ExceptT Failure m (List Record) :=
  let isCsv := ".csv".toList.isSuffixOf (Text.toLowerText path).toList
  let records :=
    if isCsv then readCsvRecords files path ','.toUInt8 else readJsonRecords files path none
  records.adapt fun error => error.failure.within ("reading seed file " ++ path)

/-- Replaces a collection. -/
def replaceCollection (store : RecordStore m) (name : String) (records : List Record) :
    ExceptT StorageError m Unit := do
  store.create name
  store.clear name
  let _ ← store.createMany name records

/-- Loads a collection from a file. -/
def seedCollection (surroundings : Surroundings m) (store : RecordStore m) (seed : String) :
    ExceptT Failure m Unit := do
  match splitEquals seed.toList with
  | (_, none) => throw ⟨"invalid --seed '" ++ seed ++ "', expected NAME=FILE", []⟩
  | (name, some path) =>
    let name := String.ofList name
    let path := String.ofList path
    let records ← loadRecords surroundings.files path
    (replaceCollection store name records).adapt StorageError.failure
    surroundings.log ⟨.info, .program, "Seeded '" ++ name ++ "' with " ++ toString records.length ++
      " record(s) from " ++ path⟩

/-- Loads collections from files. -/
def seedCollections (surroundings : Surroundings m) (store : RecordStore m) :
    List String → ExceptT Failure m Unit
  | [] => return ()
  | seed :: seeds => do
    seedCollection surroundings store seed
    seedCollections surroundings store seeds

/-- The service of a store. -/
def serviceOf (surroundings : Surroundings m) (settings : EngineSettings) (store : RecordStore m) :
    Service m :=
  { host :=
      { store, now := surroundings.now, freshId := surroundings.freshId, log := surroundings.log }
    settings
    activeRuns := surroundings.activeRuns
    setActiveRuns := surroundings.setActiveRuns }

/-- The settings of an invocation. -/
def loadSettings (files : FileSystem m) : Option String → ExceptT Failure m Settings
  | some path =>
    (Settings.load files path).adapt fun error => error.failure.within ("loading config " ++ path)
  | none => return {}

/-- Validates a pipeline. -/
def performValidate (files : FileSystem m) (file : String) : ExceptT Failure m Ended := do
  let input ← loadDocument files file PipelineInput.reader PipelineInput.reader
  let result := validate input
  return { exitCode := if result.valid then 0 else 1, output := documentText result.toJson }

/-- Runs a pipeline that is kept first. -/
def performRun (surroundings : Surroundings m) (settings : EngineSettings) (store : RecordStore m)
    (file : String) (options : RunOptions) : ExceptT Failure m Ended := do
  let input ← loadDocument surroundings.files file PipelineInput.reader PipelineInput.reader
  let service := serviceOf surroundings settings store
  let pipeline ← (service.create input).adapt ServiceError.failure
  let run ← (service.run pipeline.id options).adapt ServiceError.failure
  return { exitCode := if run.status = .completed then 0 else 1, output := documentText run.toJson }

/-- The limit of a preview. -/
def readLimit : Option String → Except Failure (Option Nat)
  | none => .ok none
  | some text =>
    match readSize? text with
    | some n => .ok (some n)
    | none => .error ⟨"invalid --limit '" ++ text ++ "'", [limitFailure text]⟩

/-- Previews a step. -/
def performPreview (surroundings : Surroundings m) (settings : EngineSettings)
    (store : RecordStore m) (file : String) (limit : Option String) : ExceptT Failure m Ended := do
  let input ← loadDocument surroundings.files file StepInput.reader StepInput.reader
  let limit ← ExceptT.mk (pure (readLimit limit))
  let service := serviceOf surroundings settings store
  let records ← (service.preview input limit).adapt ServiceError.failure
  let json := Json.obj [("data", .ofRecords records), ("count", .int records.length)]
  return { exitCode := 0, output := documentText json }

/-- Does what an invocation asks for. -/
def perform (surroundings : Surroundings m) (invocation : Invocation) :
    ExceptT Failure m Ended := do
  let settings ← loadSettings surroundings.files invocation.settings
  let limit := LogLevel.ofSetting settings.logging.level
  let logged (entry : LogEntry) : m Unit :=
    if entry.level.passes limit then surroundings.log entry else pure ()
  let surroundings := { surroundings with log := logged }
  let store ← (settings.storage.openStore surroundings.files surroundings.memory).adapt fun error =>
    error.failure.within "opening record store"
  match invocation.action with
  | .validate file => performValidate surroundings.files file
  | .run file seeds dryRun continueOnError cleanup =>
    seedCollections surroundings store seeds
    let defaults := RunOptions.ofSettings settings.engine
    let options := { defaults with
      dryRun
      continueOnError := defaults.continueOnError || continueOnError
      cleanup := defaults.cleanup || cleanup
      triggeredBy := some "cli" }
    performRun surroundings settings.engine store file options
  | .preview file seeds limit =>
    seedCollections surroundings store seeds
    performPreview surroundings settings.engine store file limit
  | .nothing => return { exitCode := 0, output := nothingText }

/-- The program on its arguments. -/
def runProgram (surroundings : Surroundings m) (args : List String) : m Ended := do
  match readArguments args with
  | .error .help => return { exitCode := 0, output := usageText }
  | .error .version => return { exitCode := 0, output := versionText }
  | .error .misuse => return { exitCode := 2 }
  | .ok invocation =>
    match ← (perform surroundings invocation).run with
    | .ok ended => return ended
    | .error failure => return { exitCode := 1, failure := some failure }

end

end RecordFlow.Command
