import JsxTagger.Failure.Fault
import JsxTagger.Inventory.Record
import JsxTagger.Syntax.Tree

/-!
# Failures

A failure is an error that this program reports itself: it belongs to a class, has a message for
the user, and keeps the fault or failure that it was caused by. Classes form a tree; a class without
a message of its own gives its default message.
-/

namespace JsxTagger

/-- The classes of failures. -/
inductive FailureClass where
  /-- The class above all others. -/
  | general
  /-- Something is wrong with a file. -/
  | fileAccess
  /-- A path cannot be used for the operation. -/
  | invalidPath
  /-- A file cannot be read. -/
  | fileRead
  /-- A file cannot be written or copied. -/
  | fileWrite
  /-- A file cannot be parsed. -/
  | parse
  /-- The formatter failed. -/
  | formatter
  /-- The rules of the formatter are missing or unreadable. -/
  | formatterConfig
  /-- The formatter cannot be found. -/
  | formatterMissing
  /-- A structure document cannot be decoded. -/
  | document
  /-- The settings are invalid. -/
  | settings
deriving DecidableEq, Repr, Inhabited

namespace FailureClass

/-- All classes. -/
def all : List FailureClass :=
  [general, fileAccess, invalidPath, fileRead, fileWrite, parse, formatter, formatterConfig,
   formatterMissing, document, settings]

/-- The name of a class in error reports. -/
def name : FailureClass → String
  | general => "PcmapError"
  | fileAccess => "FileIOError"
  | invalidPath => "InvalidFilePathError"
  | fileRead => "FileReadError"
  | fileWrite => "FileWriteError"
  | parse => "SourceParseError"
  | formatter => "FormatterError"
  | formatterConfig => "FormatterConfigError"
  | formatterMissing => "FormatterNotFoundError"
  | document => "StructureDocumentError"
  | settings => "SettingsError"

/-- The class with the given name. -/
def ofName? (s : String) : Option FailureClass := all.find? (·.name == s)

/-- The message of a failure that is given none. -/
def defaultMessage : FailureClass → String
  | general => "An error occurred"
  | fileAccess => "An error occurred during a file operation"
  | invalidPath => "Invalid file path"
  | fileRead => "Failed to read file"
  | fileWrite => "Failed to write file"
  | parse => "Failed to parse source code"
  | formatter => "Failed to format generated code"
  | formatterConfig => "Formatting configuration is missing or unreadable"
  | formatterMissing => "Formatter executable not found"
  | document => "Invalid structure document"
  | settings => "Invalid settings"

/-- A class and the classes above it. -/
def lineage : FailureClass → List FailureClass
  | general => [general]
  | c@invalidPath | c@fileRead | c@fileWrite => [c, fileAccess, general]
  | c@formatterConfig | c@formatterMissing => [c, formatter, general]
  | c => [c, general]

/-- Whether failures of a class are failures of another class too. -/
def isA (c above : FailureClass) : Bool := c.lineage.contains above

/-- Whether failures of a class know the path of a file. -/
def hasFilePath (c : FailureClass) : Bool := c.isA fileAccess || c == parse

/-- Whether failures of a class know the path of a configuration. -/
def hasConfigPath (c : FailureClass) : Bool := c == formatterConfig

end FailureClass

/-- The name and the text of what caused a failure. -/
structure Cause where
  /-- The name of its kind. -/
  name : String
  /-- Its text. -/
  text : String
deriving DecidableEq, Repr, Inhabited

/-- A fault as a cause. -/
def Fault.asCause (f : Fault) : Cause := ⟨f.kind.name, f.text⟩

/-- An error that this program reports itself. -/
structure Failure where
  /-- The class it belongs to. -/
  category : FailureClass
  /-- The message for the user. -/
  message : String := category.defaultMessage
  /-- The path of the file or of the configuration it is about. -/
  path : Option String := none
  /-- The line of a syntax error. -/
  line : Option Int := none
  /-- The column of a syntax error. -/
  column : Option Int := none
  /-- What caused it. -/
  cause : Option Cause := none
deriving DecidableEq, Repr, Inhabited

namespace Failure

/-- A failure as a cause. -/
def asCause (f : Failure) : Cause := ⟨f.category.name, f.message⟩

/-- The name of the kind of what caused a failure. -/
def causeName (f : Failure) : String := (f.cause.map Cause.name).getD "Unknown"

/-- The text of what caused a failure. -/
def causeText (f : Failure) : String := (f.cause.map Cause.text).getD "No details"

/-- A failure with the message that it was given. An empty one counts as none; a syntax error whose
line is known says where it is. -/
def describe (f : Failure) (message : Option String) : Failure :=
  let given :=
    match message, f.category, f.line with
    | none, .parse, some line =>
      let column := (f.column.map toString).getD "None"
      some s!"Syntax error at line {line}, column {column}"
    | _, _, _ => message
  { f with
    message :=
      match given with
      | none | some "" => f.category.defaultMessage
      | some text => text }

/-- The failure of a file that could not be parsed. -/
def ofSyntaxFault (f : Syntax.SyntaxFault) : Failure where
  category := .parse
  message := f.message
  path := f.path
  line := f.position.map (·.1)
  column := f.position.map (·.2)

end Failure

/-- Why an operation did not succeed. -/
inductive Trouble where
  /-- The program reports a failure. -/
  | failure (failure : Failure)
  /-- A fault was not expected. -/
  | fault (fault : Fault)
deriving DecidableEq, Repr, Inhabited

namespace Trouble

/-- The name of the kind of a trouble. -/
def name : Trouble → String
  | failure f => f.category.name
  | fault f => f.kind.name

/-- The text of a trouble. -/
def text : Trouble → String
  | failure f => f.message
  | fault f => f.text

/-- The trouble with a structure document. One that goes beyond what can be read is not expected. -/
def ofDocumentError (e : DocumentError) : Trouble :=
  let report (cause : Option Cause) : Trouble :=
    .failure { category := .document, message := e.message, cause }
  match e with
  | .malformed _ .wrongType => report (some ⟨FaultKind.wrongType.name, ""⟩)
  | .malformed _ .missingKey => report (some ⟨FaultKind.missingKey.name, ""⟩)
  | .malformed _ (.unknownKind _) => report (some ⟨FaultKind.badValue.name, ""⟩)
  | .notList | .unknownType _ => report none
  | .fault f => .fault f
  | .unread _ error =>
    if error.asFault.kind = .badJson then report (some error.asFault.asCause)
    else .fault error.asFault

end Trouble

end JsxTagger
