/-!
# Arguments of a command line

Options have long names, and some of them a letter. A value follows its option as the next argument
or behind an equals sign, and directly behind a letter. An argument that starts with a dash is no
value and no name of a file, unless it is a dash alone or comes after two dashes.

## Main definitions

* `OptionSpec`, `CommandSpec` — what a command accepts
* `scanArguments` — the options and the other arguments of a command
* `Invocation` — what a command line asks for
* `readArguments` — the invocation of a command line
-/

namespace RecordFlow.Command

/-- An option of a command. -/
structure OptionSpec where
  name : String
  letter : Option Char := none
  takesValue : Bool := false
  repeats : Bool := false

/-- What a command accepts. A command with subcommands takes no other arguments. -/
structure CommandSpec where
  options : List OptionSpec := []
  positionals : Nat := 0
  subcommands : List String := []
  hasVersion : Bool := false

/-- Why a command line is not an invocation. -/
inductive Ending where
  | help
  | version
  | misuse
  deriving DecidableEq

/-- What was found on a command line: options with their values, other arguments, and the subcommand
with its arguments. -/
structure Found where
  options : List (String × String) := []
  positionals : List String := []
  subcommand : Option (String × List String) := none

/-- The option of a long name. -/
def CommandSpec.named? (spec : CommandSpec) (name : String) : Option OptionSpec :=
  spec.options.find? (·.name == name)

/-- The option of a letter. -/
def CommandSpec.lettered? (spec : CommandSpec) (letter : Char) : Option OptionSpec :=
  spec.options.find? (·.letter == some letter)

/-- A text in front of its first equals sign and behind it. -/
def splitEquals (cs : List Char) : List Char × Option (List Char) :=
  let name := cs.takeWhile (· != '=')
  match cs.drop name.length with
  | _ :: value => (name, some value)
  | [] => (name, none)

/-- Adds an option with its value. -/
def Found.withOption (found : Found) (option : OptionSpec) (value : List Char) : Found :=
  { found with options := found.options ++ [(option.name, String.ofList value)] }

/-- What an argument does: it is complete, or the option in it waits for a value. -/
inductive Taken where
  | complete (found : Found)
  | waiting (option : OptionSpec)

/-- Letters behind a dash. An option with a value takes what is left. -/
def takeLetters (spec : CommandSpec) : List Char → Found → Except Ending Taken
  | [], found => .ok (.complete found)
  | c :: rest, found =>
    match spec.lettered? c with
    | some option =>
      if option.takesValue then
        match rest with
        | [] => .ok (.waiting option)
        | '=' :: value => .ok (.complete (found.withOption option value))
        | value => .ok (.complete (found.withOption option value))
      else takeLetters spec rest (found.withOption option [])
    | none =>
      if c = 'h' then .error .help
      else if c = 'V' ∧ spec.hasVersion then .error .version
      else .error .misuse

/-- A long name behind two dashes. -/
def takeName (spec : CommandSpec) (text : List Char) (found : Found) : Except Ending Taken :=
  let (name, value?) := splitEquals text
  match spec.named? (String.ofList name), value? with
  | some option, some value =>
    if option.takesValue then .ok (.complete (found.withOption option value)) else .error .misuse
  | some option, none =>
    if option.takesValue then .ok (.waiting option)
      else .ok (.complete (found.withOption option []))
  | none, none =>
    if name = "help".toList then .error .help
    else if name = "version".toList ∧ spec.hasVersion then .error .version
    else .error .misuse
  | none, some _ => .error .misuse

/-- Whether an argument is an option or the mark of the end of options. -/
def startsOption (arg : String) : Bool :=
  match arg.toList with
  | '-' :: _ :: _ => true
  | _ => false

/-- Adds an argument that is no option. -/
def takePositional (spec : CommandSpec) (arg : String) (found : Found) : Except Ending Found :=
  if found.positionals.length < spec.positionals then
    .ok { found with positionals := found.positionals ++ [arg] }
  else .error .misuse

/-- Goes through the arguments behind the end of options. -/
def scanPositionals (spec : CommandSpec) : List String → Found → Except Ending Found
  | [], found => .ok found
  | arg :: args, found => do scanPositionals spec args (← takePositional spec arg found)

/-- Goes through arguments; `waiting` is an option whose value comes next. -/
def scanFrom (spec : CommandSpec) :
    List String → (waiting : Option OptionSpec) → Found → Except Ending Found
  | [], none, found => .ok found
  | [], some _, _ => .error .misuse
  -- A value may be a dash alone, but nothing longer that starts with one.
  | arg :: args, some option, found =>
    if startsOption arg then .error .misuse
    else scanFrom spec args none (found.withOption option arg.toList)
  | arg :: args, none, found =>
    match arg.toList with
    | ['-', '-'] => scanPositionals spec args found
    | '-' :: '-' :: text => do
      match ← takeName spec text found with
      | .complete found => scanFrom spec args none found
      | .waiting option => scanFrom spec args (some option) found
    | '-' :: c :: text => do
      match ← takeLetters spec (c :: text) found with
      | .complete found => scanFrom spec args none found
      | .waiting option => scanFrom spec args (some option) found
    | _ =>
      if spec.subcommands.contains arg then .ok { found with subcommand := some (arg, args) }
      else if !spec.subcommands.isEmpty && arg == "help" then .error .help
      else do scanFrom spec args none (← takePositional spec arg found)

/-- Refuses an option that occurs more than once without being made for it. -/
def checkRepeats (spec : CommandSpec) (found : Found) : Except Ending Unit :=
  let repeated (option : OptionSpec) : Bool :=
    !option.repeats && 1 < found.options.countP (·.1 == option.name)
  if spec.options.any repeated then .error .misuse else .ok ()

/-- The options and other arguments of a command that has no subcommands. -/
def scanArguments (spec : CommandSpec) (args : List String) : Except Ending Found := do
  let found ← scanFrom spec args none {}
  checkRepeats spec found
  if found.positionals.length < spec.positionals then .error .misuse else return found

/-- The values of an option. -/
def Found.values (found : Found) (name : String) : List String :=
  (found.options.filter (·.1 == name)).map Prod.snd

/-- Whether an option is there. -/
def Found.contains (found : Found) (name : String) : Bool := found.options.any (·.1 == name)

/-- What a command line asks for. Seeds are texts of the shape `NAME=FILE`. -/
inductive Action where
  | validate (file : String)
  | run (file : String) (seeds : List String) (dryRun continueOnError cleanup : Bool)
  | preview (file : String) (seeds : List String) (limit : Option String)
  | nothing

/-- An action with the file of its settings. -/
structure Invocation where
  settings : Option String
  action : Action

/-- The option for the file of the settings. -/
def configOption : OptionSpec := { name := "config", letter := some 'c', takesValue := true }

/-- The option for a collection that is loaded first. -/
def seedOption : OptionSpec := { name := "seed", takesValue := true, repeats := true }

/-- What the program accepts in front of a subcommand. -/
def programSpec : CommandSpec :=
  { options := [configOption], subcommands := ["validate", "run", "preview"], hasVersion := true }

/-- What the subcommands accept. -/
def validateSpec : CommandSpec := { positionals := 1 }

/-- What running accepts. -/
def runSpec : CommandSpec :=
  { options := [seedOption, { name := "dry-run" }, { name := "continue-on-error" },
    { name := "cleanup" }]
    positionals := 1 }

/-- What previewing accepts. -/
def previewSpec : CommandSpec :=
  { options := [seedOption, { name := "limit", letter := some 'l', takesValue := true }],
    positionals := 1 }

/-- The action of a subcommand with its arguments. -/
def readAction (name : String) (args : List String) : Except Ending Action := do
  if name = "validate" then
    let found ← scanArguments validateSpec args
    return .validate (found.positionals.headD "")
  else if name = "run" then
    let found ← scanArguments runSpec args
    return .run (found.positionals.headD "") (found.values "seed") (found.contains "dry-run")
      (found.contains "continue-on-error") (found.contains "cleanup")
  else
    let found ← scanArguments previewSpec args
    return .preview (found.positionals.headD "") (found.values "seed") (found.values "limit").head?

/-- The invocation of a command line. -/
def readArguments (args : List String) : Except Ending Invocation := do
  let found ← scanFrom programSpec args none {}
  let action ← match found.subcommand with
    | some (name, args) => readAction name args
    | none => pure .nothing
  checkRepeats programSpec found
  return { settings := (found.values "config").head?, action }

end RecordFlow.Command
