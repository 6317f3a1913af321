import JsxTagger.Decimal.Digits
import JsxTagger.Text.Quoted

/-!
# Faults

A fault is what the layers below this program report: the system refuses an operation, a value has
the wrong type, a text is not JSON. It is of a kind, and it has a text. Error reports show both.
-/

namespace JsxTagger

/-- What kind of fault occurred. -/
inductive FaultKind where
  /-- A value is of the right type but cannot be used. -/
  | badValue
  /-- A member is missing. -/
  | missingKey
  /-- A value is of a type that the operation does not take. -/
  | wrongType
  /-- A value lacks a part that the operation needs. -/
  | missingPart
  /-- An operation is not possible in the present state. -/
  | badState
  /-- A text is not JSON. -/
  | badJson
  /-- Values are nested too deep. -/
  | tooDeep
  /-- Bytes are not a text. -/
  | undecodable
  /-- A text cannot be written as bytes. -/
  | unencodable
  /-- Printed text closes a style that is not open. -/
  | badMarkup
  /-- The system refused an operation, if known with the number of the reason. -/
  | system (number : Option Int)
deriving DecidableEq, Repr, Inhabited

namespace FaultKind

/-- The name of a refusal by the system, by the number of its reason. -/
def systemName : Int → String
  | 1 | 13 => "PermissionError"
  | 2 => "FileNotFoundError"
  | 3 => "ProcessLookupError"
  | 4 => "InterruptedError"
  | 10 => "ChildProcessError"
  | 11 | 114 | 115 => "BlockingIOError"
  | 17 => "FileExistsError"
  | 20 => "NotADirectoryError"
  | 21 => "IsADirectoryError"
  | 32 | 108 => "BrokenPipeError"
  | 103 => "ConnectionAbortedError"
  | 104 => "ConnectionResetError"
  | 110 => "TimeoutError"
  | 111 => "ConnectionRefusedError"
  | _ => "OSError"

/-- The name of a kind in error reports. -/
def name : FaultKind → String
  | badValue => "ValueError"
  | missingKey => "KeyError"
  | wrongType => "TypeError"
  | missingPart => "AttributeError"
  | badState => "RuntimeError"
  | badJson => "JSONDecodeError"
  | tooDeep => "RecursionError"
  | undecodable => "UnicodeDecodeError"
  | unencodable => "UnicodeEncodeError"
  | badMarkup => "MarkupError"
  | system none => "OSError"
  | system (some number) => systemName number

end FaultKind

/-- A fault of some kind, with its text. -/
structure Fault where
  /-- The kind of the fault. -/
  kind : FaultKind
  /-- The text that describes it. -/
  text : String := ""
deriving DecidableEq, Repr, Inhabited

/-- The fault of calls that lie too deep inside each other. -/
def Fault.tooDeep : Fault := ⟨.tooDeep, "maximum recursion depth exceeded"⟩

/-- Why the system refuses an operation on files. -/
inductive Refusal where
  /-- There is nothing at the path. -/
  | notFound
  /-- There is something at the path already. -/
  | taken
  /-- A name inside the path is not that of a directory. -/
  | notDirectory
  /-- The path is that of a directory. -/
  | isDirectory
  /-- A name or the path is too long. -/
  | nameTooLong
  /-- Too many symbolic links follow each other. -/
  | linkLoop
  /-- The path is that of a directory that the system itself uses. -/
  | busy
deriving DecidableEq, Repr, Inhabited

namespace Refusal

/-- The number of a reason. -/
def number : Refusal → Int
  | notFound => 2
  | taken => 17
  | notDirectory => 20
  | isDirectory => 21
  | nameTooLong => 36
  | linkLoop => 40
  | busy => 16

/-- The words for a reason. -/
def words : Refusal → String
  | notFound => "No such file or directory"
  | taken => "File exists"
  | notDirectory => "Not a directory"
  | isDirectory => "Is a directory"
  | nameTooLong => "File name too long"
  | linkLoop => "Too many levels of symbolic links"
  | busy => "Device or resource busy"

/-- The fault of a refused operation on a path. -/
def fault (r : Refusal) (path : String) : Fault where
  kind := .system (some r.number)
  text := s!"[Errno {r.number}] {r.words}: {Text.quoted path}"

end Refusal

end JsxTagger
