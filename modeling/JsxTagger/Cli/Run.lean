import JsxTagger.Cli.Arguments
import JsxTagger.Emit.Project
import JsxTagger.Inventory.Scan
import JsxTagger.Report.Print
import JsxTagger.Settings.Build

/-!
# Running a command

A command builds its settings, sets up the log, does its work and prints a summary. Errors are
printed with some advice and end the program with exit code 1; arguments that cannot be used end it
with exit code 2 before anything is done.
-/

namespace JsxTagger.Cli

open Files Console

/-- How a command ended. -/
structure Ending where
  /-- The exit code. -/
  exit : Nat
  /-- The texts that were printed. -/
  printed : List String := []
  /-- The fault that nobody caught. -/
  fault : Option Fault := none
deriving Repr, Inhabited

/-- What a command changes and what it leaves. -/
structure Outcome where
  /-- How it ended. -/
  ending : Ending
  /-- The files afterwards. -/
  files : FileSystem
  /-- The number of ids that were drawn in all. -/
  drawn : Nat
deriving Inhabited

/-- What happens while a command runs: it prints, changes the state of the run, and may end early
with an exit code or a fault. -/
structure Progress where
  /-- The texts that were printed. -/
  printed : List String := []
  /-- The state of the run. -/
  state : RunState

/-- Why a command ends early. -/
inductive Stop where
  /-- It ends with an exit code. -/
  | exit (code : Nat)
  /-- A fault is not caught. -/
  | fault (fault : Fault)

/-- A command at work. -/
abbrev CommandM := ExceptT Stop (StateM Progress)

/-- Prints. -/
def say (m : PrintM Unit) : CommandM Unit := do
  let (result, printed) := m.run.run (← get).printed
  modify ({ · with printed })
  match result with
  | .ok () => pure ()
  | .error fault => throw (.fault fault)

/-- Does a step of the run. -/
def step {α : Type} (f : RunState → α × RunState) : CommandM α := do
  let (a, state) := f (← get).state
  modify ({ · with state })
  pure a

/-- Reports a trouble and ends the command. -/
def giveUp (structurePath : Path) (t : Trouble) : CommandM Unit := do
  match t with
  | .failure f =>
    if f.category.isA .fileAccess then say (Report.printFileFailure f)
    else if f.category = .document then say (Report.printDocumentFailure f structurePath)
    else say (Report.printUnexpected t.name t.text)
  | .fault _ => say (Report.printUnexpected t.name t.text)
  throw (.exit 1)

/-! ## Settings -/

/-- A text that may be missing, as a value on the command line. -/
def textValue (s : Option String) : Json := (s.map Json.str).getD .null

/-- A truth value that may be missing, as a value on the command line. -/
def boolValue (b : Option Bool) : Json := (b.map Json.bool).getD .null

/-- The values that both commands take from the command line. -/
def sharedValues (inputRoot : Path) (o : Options) : List (String × Json) :=
  [("input_root", .str inputRoot.text), ("structure_path", textValue (o.value? "structure")),
   ("log_level", textValue (o.value? "log_level")), ("log_dir", textValue (o.value? "log_dir"))]

/-- The values that `build` takes from the command line. -/
def buildValues (inputRoot : Path) (workers : Option Int) (o : Options) : List (String × Json) :=
  [("input_root", .str inputRoot.text), ("output_root", textValue (o.value? "output")),
   ("format_config_path", textValue (o.value? "format_config")),
   ("structure_path", textValue (o.value? "structure")),
   ("max_workers", (workers.map Json.int).getD .null),
   ("format_output", boolValue (o.switch? "format")),
   ("fail_fast", boolValue (o.switch? "fail_fast")),
   ("log_level", textValue (o.value? "log_level")), ("log_dir", textValue (o.value? "log_dir"))]

/-- Builds the settings. -/
def loadSettings (env : Environment) (o : Options) (values : List (String × Json)) :
    CommandM Settings := do
  let fs := (← get).state.files
  let config := Path.ofText ((o.value? "config").getD "pcmap.json")
  let built := do Settings.build env fs (← Settings.loadConfig (env.room - 1) fs config) values
  match built with
  | .ok settings => pure settings
  | .error (.fault fault) => throw (.fault fault)
  | .error (.failure f) => do
    say (Report.printSettingsFailure f)
    throw (.exit 1)

/-- Sets up the log. -/
def configureLog (env : Environment) (settings : Settings) : CommandM (Option Path) := do
  let result ← step fun s =>
    let (result, logging, files) :=
      s.logging.configure settings.logLevel.name (some settings.logDir) env.today s.files
    (result, { s with logging, files })
  match result with
  | .ok path => pure path
  | .error fault => throw (.fault fault)

/-! ## The commands -/

/-- Writes the structure document of the inventory. -/
def writeStructure (env : Environment) (settings : Settings) : CommandM Unit := do
  let result ← step fun s =>
    s.putFile settings.structurePath
      (s.context.inventory.writeDocument env.room settings.structurePath)
  match result with
  | .ok () => pure ()
  | .error t => giveUp settings.structurePath t

/-- Prints the summary of a run. -/
def summarize (report : RunReport) : CommandM Unit := do
  say (Report.printSummary report (← get).state.context.files.length)

/-- Scans the input root. -/
def surveyProject (env : Environment) (settings : Settings) : CommandM Unit := do
  match ← step (Inventory.survey env settings).run.run with
  | .ok () => pure ()
  | .error fault => giveUp settings.structurePath (.fault fault)

/-- Scans the input root and writes the structure document. -/
def runScan (env : Environment) (inputRoot : Path) (o : Options) : CommandM Unit := do
  let settings ← loadSettings env o (sharedValues inputRoot o)
  let _ ← configureLog env settings
  surveyProject env settings
  writeStructure env settings
  let context := (← get).state.context
  let report : RunReport := {
    scanFailures := context.scanFailures, rootFiles := context.rootFiles }
  say (print s!"\n[green]Structure document written to {settings.structurePath.text}[/green]")
  summarize report
  if !report.scanFailures.isEmpty then throw (.exit 1)

/-- Takes the inventory from the structure document. -/
def reuseStructure (env : Environment) (settings : Settings) : CommandM Unit := do
  match Inventory.readDocument (env.room - 1) (← get).state.files settings.structurePath with
  | .error t => giveUp settings.structurePath t
  | .ok inventory =>
    let mounting := (inventory.files.filter (·.containsRoot)).map (·.fullPath.plain)
    step fun s => ((), s.inContext fun c =>
      mounting.foldl (fun c path => c.addRootFile path) (c.setInventory inventory))

/-- Writes the instrumented copy of the input root. -/
def runBuild (env : Environment) (inputRoot : Path) (workers : Option Int) (o : Options) :
    CommandM Unit := do
  let settings ← loadSettings env o (buildValues inputRoot workers o)
  let logFile ← configureLog env settings
  say (print s!"\n[green]Instrumenting: {settings.inputRoot.text}...[/green]")
  say (print s!"[green]Output: {settings.outputRoot.text}[/green]\n")
  if (o.switch? "reuse_structure").getD false then reuseStructure env settings
  else
    surveyProject env settings
    writeStructure env settings
  let tools : Emit.Tools := { env, settings, formatter := Format.ofSettings env settings }
  match ← step (Emit.emitProject tools) with
  | .error t => giveUp settings.structurePath t
  | .ok report =>
    summarize report
    if let some path := logFile then
      say (print s!"\nLog written to [yellow]{path.text}[/yellow]")
    if !report.ok then throw (.exit 1)

/-- The input root that an argument names: an absolute path to a directory. -/
def inputRoot? (fs : FileSystem) (arg : String) : Option Path :=
  let root := fs.resolveText arg
  match fs.stat root with
  | .ok .directory => if (FileSystem.pathFault? root).isSome then none else some root
  | _ => none

/-- The work that a command asks for. Nothing is returned if its input root is no directory. -/
def work? (env : Environment) (fs : FileSystem) : Command → Option (CommandM Unit)
  | .scan arg o => (inputRoot? fs arg).map fun root => runScan env root o
  | .build arg workers o => (inputRoot? fs arg).map fun root => runBuild env root workers o

/-- Runs the command that the arguments stand for. -/
def run (env : Environment) (files : FileSystem) (drawn : Nat) (args : List String) : Outcome :=
  match (Command.parse args).bind (work? env files) with
  | none => { ending := { exit := 2 }, files, drawn }
  | some work =>
    let (result, p) := work.run.run { state := { files, drawn } }
    let ending : Ending :=
      match result with
      | .ok () => { exit := 0, printed := p.printed }
      | .error (.exit code) => { exit := code, printed := p.printed }
      | .error (.fault fault) => { exit := 1, printed := p.printed, fault := some fault }
    { ending, files := p.state.files, drawn := p.state.drawn }

end JsxTagger.Cli
