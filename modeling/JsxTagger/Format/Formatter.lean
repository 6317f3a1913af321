import JsxTagger.Files.Access
import JsxTagger.Format.ShellWords
import JsxTagger.Run.Environment
import JsxTagger.Settings.Basic
import JsxTagger.Text.Blank

/-!
# Formatters

Instrumented text is handed to a formatter, which yields the text to be written. The formatter of a
run is a command that reads the text from its input and writes the formatted text to its output. Its
rules are looked at before every text, so a missing rules file fails every file that needs
formatting, and only those.

The command is looked up when it is first needed and kept once it was found.
-/

namespace JsxTagger.Format

open Files

/-! ## The command -/

/-- A formatter that is a command. -/
structure CommandFormatter where
  /-- The rules. -/
  config : Path
  /-- The command, to be split into words. -/
  command : String := "prettier"
  /-- The program that was found, with its arguments. -/
  found : Option (List String) := none
deriving Repr, Inhabited

namespace CommandFormatter

/-- Checks that the rules can be read. -/
def checkConfig (f : CommandFormatter) (fs : FileSystem) : Except Trouble Unit :=
  match readText fs f.config with
  | .ok _ => .ok ()
  | .error (.fault fault) => .error (.fault fault)
  | .error (.failure cause) =>
    .error (.failure {
      category := .formatterConfig, path := f.config.text
      message := s!"Cannot read formatting configuration: {f.config.text}"
      cause := some cause.asCause })

/-- The name of the program of a command. -/
def program (f : CommandFormatter) : Except Trouble (String × List String) :=
  match shellWords f.command with
  | .error fault => .error (.fault fault)
  | .ok [] =>
    .error (.failure { category := .formatterMissing, message := "Empty formatter command" })
  | .ok (name :: arguments) => .ok (name, arguments)

/-- The program to start, with its arguments. It is looked up unless it was found before; then the
name that is looked up comes along. -/
def resolve (f : CommandFormatter) (find : String → Option String) :
    Except Trouble (List String) × Option String :=
  match f.found with
  | some found => (.ok found, none)
  | none =>
    match f.program with
    | .error t => (.error t, none)
    | .ok (name, arguments) =>
      match find name with
      | some path => (.ok (path :: arguments), some name)
      | none =>
        (.error (.failure {
          category := .formatterMissing
          message := s!"Formatter executable not found on PATH: {name}" }), some name)

/-- The command line that formats a text which will be written to a path. -/
def commandLine (f : CommandFormatter) (found : List String) (p : Path) : List String :=
  found ++ ["--config", f.config.text, "--stdin-filepath", p.text]

/-- The formatted text, by what the process did. -/
def outcome (p : Path) : ProcessOutcome → Except Trouble String
  | .refused text =>
    .error (.failure {
      category := .formatter, message := s!"Failed to run formatter for {p.text}"
      cause := some ⟨(FaultKind.system none).name, text⟩ })
  | .ended code output errors =>
    if code = 0 then .ok output
    else
      let said := Text.trim (errors.getD "")
      let details := if said.isEmpty then s!"exit code {code}" else said
      .error (.failure {
        category := .formatter, message := s!"Formatter failed for {p.text}: {details}" })
  | .disrupted fault => .error (.fault fault)

/-- Formats a text which will be written to a path. -/
def format (f : CommandFormatter) (env : Environment) (fs : FileSystem) (text : String)
    (p : Path) : Except Trouble String := do
  f.checkConfig fs
  let found ← (f.resolve env.findProgram).1
  outcome p (env.runProgram (f.commandLine found p) text)

end CommandFormatter

/-- A command formatter at work on one text after another, with a list of what the processes that it
starts will do. -/
structure Session where
  /-- The formatter. -/
  formatter : CommandFormatter
  /-- What the next processes do. -/
  runs : List ProcessOutcome
  /-- The command lines and inputs of the processes so far. -/
  started : List (List String × String) := []
  /-- The names that were looked up. -/
  lookedUp : List String := []

/-- Formats the next text. -/
def Session.format (s : Session) (find : String → Option String) (fs : FileSystem)
    (text : String) (p : Path) : Except Trouble String × Session :=
  match s.formatter.checkConfig fs with
  | .error t => (.error t, s)
  | .ok () =>
    let (found, name) := s.formatter.resolve find
    let s := { s with lookedUp := s.lookedUp ++ name.toList }
    match found with
    | .error t => (.error t, s)
    | .ok found =>
      (CommandFormatter.outcome p (s.runs.headD (.ended 0 "" none)), { s with
        formatter := { s.formatter with found := some found }
        runs := s.runs.tail
        started := s.started ++ [(s.formatter.commandLine found p, text)] })

/-! ## Formatters of a run -/

/-- What a formatter answers. -/
structure Reply where
  /-- The formatted text. -/
  result : Except Trouble String
  /-- The formatter asks for the run to be cancelled. -/
  cancels : Bool := false

/-- A formatter takes a text and the path to which it will be written. -/
abbrev Formatter := FileSystem → String → Path → Reply

/-- The formatter that changes nothing. -/
def unchanged : Formatter := fun _ text _ => { result := .ok text }

/-- Which formatter the settings ask for: none, or a command. -/
def choice (s : Settings) : Option CommandFormatter :=
  if s.formatOutput then some { config := s.formatConfig, command := s.formatCommand } else none

/-- The formatter that the settings ask for. -/
def ofSettings (env : Environment) (s : Settings) : Formatter :=
  match choice s with
  | none => unchanged
  | some f => fun fs text p => { result := f.format env fs text p }

end JsxTagger.Format
