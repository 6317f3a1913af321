import JsxTagger.Files.Access
import JsxTagger.Files.Resolution
import JsxTagger.Json.Reader
import JsxTagger.Run.Environment
import JsxTagger.Settings.Basic
import JsxTagger.Text.Blank
import JsxTagger.Text.LowerCase

/-!
# Building settings

Settings come from a configuration file and from the command line, whose values win. A value that is
not given is `null` on the command line; in the file, `null` is a value like any other.

Checks come in a fixed order: unknown names, a missing input root, the values one by one in the
order in which they were given, and at last the two directories.
-/

namespace JsxTagger.Settings

open Files

/-- The failure to build settings. -/
def invalid (message : String) (cause : Option Cause := none) : Trouble :=
  .failure { category := .settings, message, cause }

/-! ## The configuration file -/

/-- The values of a configuration file, where `room` calls are left. A file that does not exist has
none. -/
def loadConfig (room : Nat) (fs : FileSystem) (p : Path) : Except Trouble (List (String × Json)) := do
  if !(← (fs.exists_ p).mapError .fault) then return []
  match readText fs p with
  | .error (.fault fault) => throw (.fault fault)
  | .error (.failure f) =>
    throw (invalid s!"Cannot read configuration file {p.text}: {f.message}" f.asCause)
  | .ok text =>
    match Json.read (room - 1) text with
    | .error e =>
      if e.asFault.kind ≠ .badJson then throw (.fault e.asFault)
      throw (invalid s!"Configuration file {p.text} is not valid JSON: {e.message}"
        (some e.asFault.asCause))
    | .ok (.obj members) => return members
    | .ok _ => throw (invalid s!"Configuration file {p.text} must contain a JSON object")

/-! ## Values -/

/-- The names of all settings. -/
def names : List String :=
  ["input_root", "output_root", "format_config_path", "structure_path", "extensions",
   "ignore_dirs", "max_workers", "prettier_command", "format_output", "fail_fast", "log_dir",
   "log_level"]

/-- The values of the configuration file, with those of the command line put in their place. -/
def merge (fileValues overrides : List (String × Json)) : List (String × Json) :=
  (overrides.filter fun v => !v.2.isNull).foldl (fun all v => Json.setMember all v.1 v.2) fileValues

/-- The fault of a user whose home directory is not known. A name that no user can have is refused
before anybody looks for it. -/
def unknownHome (user : String) : Fault :=
  (FileSystem.pathFault? ⟨.relative, [user]⟩).getD
    ⟨.badState, "Could not determine home directory."⟩

/-- Puts the home directory in the place of a tilde at the start of a path. -/
def expandHome (env : Environment) (p : Path) : Except Trouble Path :=
  match p.anchor, p.parts with
  | .relative, first :: rest =>
    match first.toList with
    | '~' :: user =>
      match env.home (String.ofList user) with
      | some home => .ok ((Path.ofText home).join ⟨.relative, rest⟩)
      | none => .error (.fault (unknownHome (String.ofList user)))
    | _ => .ok p
  | _, _ => .ok p

/-- The value of a setting that is a path. -/
def pathValue (env : Environment) (key : String) : Json → Except Trouble Path
  | .str s => expandHome env (Path.ofText s)
  | _ => .error (invalid s!"Setting '{key}' must be a path")

/-- A list of texts as a set: sorted, each once. -/
def asSet (xs : List String) : List String := xs.eraseDups.mergeSort Text.ordered

/-- The value of a setting that is a list of texts. -/
def listValue (key : String) : Json → Except Trouble (List String)
  | .arr items => .ok (items.map Json.plain)
  | _ => .error (invalid s!"Setting '{key}' must be a list of strings")

/-- An extension in its normal form: it starts with a dot and has no capital letters. -/
def normalExtension (s : String) : String :=
  Text.lower (if s.startsWith "." then s else "." ++ s)

/-- The value of a setting that is true or false. -/
def boolValue (key : String) : Json → Except Trouble Bool
  | .bool b => .ok b
  | _ => .error (invalid s!"Setting '{key}' must be true or false")

/-- The value of the number of workers. -/
def workersValue : Json → Except Trouble Nat
  | .int n =>
    if 1 ≤ n then .ok n.toNat
    else .error (invalid "Setting 'max_workers' must be a positive integer")
  | _ => .error (invalid "Setting 'max_workers' must be a positive integer")

/-- The capital letter that stands for a letter in the name of a level. The small letter without a
dot has the same capital as the one with a dot. -/
def levelCapital (c : Char) : Char := if c.toNat = 0x131 then 'I' else c.toUpper

/-- The value of the log level. -/
def levelValue (j : Json) : Except Trouble Log.Level :=
  match Log.Level.ofName? (String.ofList (j.plain.toList.map levelCapital)) with
  | some level => .ok level
  | none =>
    .error (invalid "Setting 'log_level' must be one of CRITICAL, DEBUG, ERROR, INFO, WARNING")

/-- The value of the command that formats. -/
def commandValue : Json → Except Trouble String
  | .str s =>
    if s.toList.all Text.isSpace then
      .error (invalid "Setting 'prettier_command' must be a non-empty string")
    else .ok s
  | _ => .error (invalid "Setting 'prettier_command' must be a non-empty string")

/-! ## Building -/

/-- Settings that are being built. -/
structure Draft where
  /-- The settings so far; the output root counts only if it is given. -/
  settings : Settings
  /-- The output root, if it is given. -/
  output : Option Path := none

/-- Takes the value of one setting. -/
def Draft.set (env : Environment) (d : Draft) (key : String) (value : Json) :
    Except Trouble Draft := do
  let s := d.settings
  match key with
  | "input_root" => return { d with settings.inputRoot := ← pathValue env key value }
  | "output_root" => return { d with output := some (← pathValue env key value) }
  | "format_config_path" => return { d with settings.formatConfig := ← pathValue env key value }
  | "structure_path" => return { d with settings.structurePath := ← pathValue env key value }
  | "log_dir" => return { d with settings.logDir := ← pathValue env key value }
  | "extensions" =>
    let extensions := asSet ((← listValue key value).map normalExtension)
    return { d with settings := { s with extensions } }
  | "ignore_dirs" => return { d with settings.ignoreDirs := asSet (← listValue key value) }
  | "format_output" => return { d with settings.formatOutput := ← boolValue key value }
  | "fail_fast" => return { d with settings.failFast := ← boolValue key value }
  | "max_workers" => return { d with settings.maxWorkers := some (← workersValue value) }
  | "log_level" => return { d with settings.logLevel := ← levelValue value }
  | "prettier_command" => return { d with settings.formatCommand := ← commandValue value }
  | _ => return d

/-- The output root of an input root: the directory beside it whose name ends in `_new`. -/
def defaultOutputRoot (inputRoot : Path) : Except Trouble Path :=
  if inputRoot.name.isEmpty then
    .error (.fault ⟨.badValue, s!"{inputRoot.shown} has an empty name"⟩)
  else .ok (inputRoot.withName (inputRoot.name ++ "_new"))

/-- Builds the settings from the values of the configuration file and those of the command line. -/
def build (env : Environment) (fs : FileSystem) (fileValues overrides : List (String × Json)) :
    Except Trouble Settings := do
  let values := merge fileValues overrides
  let unknown := (values.map (·.1)).filter fun key => !names.contains key
  if !unknown.isEmpty then
    throw (invalid ("Unknown setting(s): " ++ ", ".intercalate (asSet unknown)))
  if ((values.lookup "input_root").getD .null).isNull then throw (invalid "No input root given")
  let start : Draft := { settings := { inputRoot := {}, outputRoot := {} } }
  let d ← values.foldlM (fun d v => Draft.set env d v.1 v.2) start
  let inputRoot := d.settings.inputRoot
  if !(← (fs.isDir inputRoot).mapError .fault) then
    throw (invalid s!"Input root is not a directory: {inputRoot.text}")
  let beside ← defaultOutputRoot inputRoot
  let outputRoot := d.output.getD beside
  let resolvedOutput ← (fs.resolve outputRoot).mapError .fault
  let resolvedInput ← (fs.resolve inputRoot).mapError .fault
  if resolvedOutput = resolvedInput then
    throw (invalid "Output root must differ from the input root")
  return { d.settings with outputRoot }

end JsxTagger.Settings
