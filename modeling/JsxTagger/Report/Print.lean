import JsxTagger.Console.Table
import JsxTagger.Decimal.Digits
import JsxTagger.Failure.Failure
import JsxTagger.Files.Path
import JsxTagger.Report.Outcome

/-!
# What is printed

The summary of a run, and the messages for the errors that end one. A message for an error is
followed by the end of the program with exit code 1.
-/

namespace JsxTagger.Report

open Console Files

/-- A number as a cell. -/
def number (n : Nat) : String := String.ofList (Decimal.digits n)

/-- The table of a report on a project with the given number of files. -/
def table (r : RunReport) (fileCount : Nat) : Table where
  title := "pcmap summary"
  head := ("Result", "Files")
  rows :=
    [("Files scanned", number fileCount)] ++
    (if r.outcomes.isEmpty then [] else
      [("Instrumented", number (r.count .instrumented)), ("Copied", number (r.count .copied)),
       ("Failed", number (r.count .failed))] ++
      if r.count .cancelled = 0 then [] else [("Cancelled", number (r.count .cancelled))]) ++
    [("Scan failures", number r.scanFailures.length)]

/-- Prints the summary of a run. -/
def printSummary (r : RunReport) (fileCount : Nat) : PrintM Unit := do
  for line in (table r fileCount).lines do printPlain line
  if !r.rootFiles.isEmpty then
    print "\n[bold]Application root mounted in:[/bold]"
    for path in r.rootFiles do print s!"  [green]{path}[/green]"
  for (path, message) in r.scanFailures do print s!"[red]Scan failed:[/red] {path}: {message}"
  for o in r.failed do print s!"[red]Emit failed:[/red] {o.path}: {o.message}"
  for o in r.outcomes do
    if o.status = .instrumented && !o.message.isEmpty then
      print s!"[yellow]Warning:[/yellow] {o.path}: {o.message}"

/-- Prints the message for a failure with files. -/
def printFileFailure (f : Failure) : PrintM Unit := do
  print "❌ [bold red]File I/O Error[/bold red]"
  print s!"The app encountered an error while working with files: {f.message}"
  match f.path with
  | none | some "" => pure ()
  | some path => print s!"File path: [yellow]{path}[/yellow]"
  print "\n[yellow]Quick Fix:[/yellow] Check file permissions and available disk space."
  match f.cause with
  | some cause => print s!"\nTechnical details: {cause.text}"
  | none => pure ()

/-- Prints the message for a structure document that cannot be used. -/
def printDocumentFailure (f : Failure) (path : Path) : PrintM Unit := do
  print "❌ [bold red]Structure Document Error[/bold red]"
  print s!"Could not load [yellow]{path.text}[/yellow]: {f.message}"
  print ("\n[yellow]Quick Fix:[/yellow] Run [bold]pcmap scan[/bold] again, " ++
    "or build without --reuse-structure.")

/-- Prints the message for an error that nobody expected. -/
def printUnexpected (name text : String) (cause : Option String := none) : PrintM Unit := do
  print "❌ [bold red]Unexpected Error[/bold red]"
  print "An unexpected error occurred while processing your request."
  print s!"\n[yellow]Error Type:[/yellow] {name}"
  print s!"[yellow]Error Message:[/yellow] {text}"
  print "\n--- PLEASE REPORT THIS ---"
  print s!"Error Type: {name}"
  print s!"Error Message: {text}"
  match cause with
  | some text => print s!"Caused by: {text}"
  | none => pure ()

/-- Prints the message for settings that cannot be used. -/
def printSettingsFailure (f : Failure) : PrintM Unit := do
  print "❌ [bold red]Configuration Error[/bold red]"
  print f.message

end JsxTagger.Report
