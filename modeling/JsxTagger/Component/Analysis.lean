import JsxTagger.Component.Consulted
import JsxTagger.Failure.Fault
import JsxTagger.Text.Encoding

/-!
# Analysing the text of a file

The analyses of `Classify` start from a parsed file. Here they start from its text, which may have
no byte form, may be outside the grammar, and may come with a tree that cannot be read.
-/

namespace JsxTagger.Classify

open Syntax

/-- Why a file cannot be analysed. -/
inductive AnalysisError where
  /-- The text has no byte form. -/
  | unencodable (cause : Text.EncodingError)
  /-- A node that has to be read is not a text. -/
  | illegible
deriving DecidableEq, Repr, Inhabited

/-- The fault of a file that cannot be analysed. -/
def AnalysisError.fault : AnalysisError → Fault
  | .unencodable cause => ⟨.unencodable, cause.message⟩
  | .illegible => ⟨.undecodable, ""⟩

/-- Parses a text that has a byte form. -/
def parseText (parse : Parser) (text : String) (path : Option String) :
    Except AnalysisError (Except SyntaxFault SourceTree) :=
  match Text.encodingError? text with
  | some cause => .error (.unencodable cause)
  | none => .ok (parse text path)

/-- The name under which classification writes to the log. -/
def logger : String := "core.classifier"

/-- The components of a file. One that could not be parsed has none, and the log says so. -/
def componentsOf (parse : Parser) (text : String) (path : Option String) :
    Except AnalysisError (List Component × List Log.Record) := do
  match ← parseText parse text path with
  | .ok tree =>
    if allLegible tree.source (classifyReads tree) then .ok (classifyComponents tree, [])
    else .error .illegible
  | .error fault =>
    .ok ([], [⟨.error, logger,
      s!"Error analyzing components in {SourceTree.shownPath path}: {fault.message}"⟩])

/-- What the inventory needs to know about a file, or why it could not be parsed. -/
def analyze (parse : Parser) (text : String) (path : Option String) :
    Except AnalysisError (Except SyntaxFault FileAnalysis) := do
  match ← parseText parse text path with
  | .error fault => .ok (.error fault)
  | .ok tree =>
    let reads := mountReads tree ++ (if containsMarkup tree then classifyReads tree else [])
    if allLegible tree.source reads then .ok (.ok (analyzeTree tree)) else .error .illegible

end JsxTagger.Classify
