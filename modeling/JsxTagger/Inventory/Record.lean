import JsxTagger.Inventory.Tree
import JsxTagger.Json.Display
import JsxTagger.Json.Printer
import JsxTagger.Json.Reader

/-!
# Structure documents

An inventory is stored as a JSON document, a list of records. The reader is generous: unknown
members are ignored, flags may be any value and count by their truth, and most fields of a component
may be anything. What it needs is the type and the name of every record, the path of a file, and the
name and kind of a component.

Records are made and read directory by directory, one call inside the other. `room` is the number of
calls that are left. The message about a record shows the whole record; where that is not possible,
there is a fault instead.
-/

namespace JsxTagger

/-- What is wrong with a record. -/
inductive RecordFault where
  /-- A value is of a type that has no members, or cannot be gone through. -/
  | wrongType
  /-- A member is missing. -/
  | missingKey
  /-- A component is of no known kind. -/
  | unknownKind (value : Json)
deriving Inhabited

/-- Why a document gives no inventory. -/
inductive DocumentError where
  /-- The records are not a list. -/
  | notList
  /-- A record is neither a file nor a directory. -/
  | unknownType (value : Json)
  /-- A record is malformed. -/
  | malformed (record : Json) (fault : RecordFault)
  /-- The text cannot be read as JSON. -/
  | unread (path : String) (error : Json.ReadError)
  /-- There are too few calls left, or what is wrong cannot be shown. -/
  | fault (fault : Fault)
deriving Inhabited

/-- The text that reports an error. -/
def DocumentError.message : DocumentError → String
  | .notList => "Structure document must be a JSON list"
  | .unknownType value => s!"Unknown node type: {value.shown}"
  | .malformed record _ => s!"Malformed structure record: {record.shown}"
  | .unread path error => s!"Structure document {path} is not valid JSON: {error.message}"
  | .fault f => f.text

namespace Json

/-- The member of a record that must be there. -/
def member (j : Json) (key : String) : Except RecordFault Json :=
  match j with
  | .obj members =>
    match members.lookup key with
    | some value => .ok value
    | none => .error .missingKey
  | _ => .error .wrongType

/-- The truth of a flag; a missing flag is false. -/
def flag (j : Json) (key : String) : Bool := (j.getD key).truthy

/-- The values that are met when a value is gone through: the items of a list, the characters of a
text, the keys of an object. -/
def elements : Json → Except RecordFault (List Json)
  | .arr items => .ok items
  | .str s => .ok (s.toList.map fun c => .str c.toString)
  | .obj members => .ok (members.map fun m => .str m.1)
  | _ => .error .wrongType

end Json

namespace Component

/-- The record of a component. What is not known is left out. -/
def toRecord (c : Component) : Json :=
  .obj <|
    [("name", c.name), ("type", .str c.kind.name), ("isDefaultExport", .bool c.isDefaultExport),
     ("isNamedExport", .bool c.isNamedExport)] ++
    (if c.wrappedIn.truthy then [("wrappedIn", c.wrappedIn)] else []) ++
    (if c.hasLocator then
      [("declarationStart", c.declarationStart), ("declarationType", c.declarationType)] else []) ++
    (if c.line.isNull then [] else [("line", c.line)])

/-- The component that a record describes. -/
def ofRecord (j : Json) : Except RecordFault Component := do
  let name ← j.member "name"
  let type ← j.member "type"
  let kind ←
    match type with
    | .str s =>
      match ComponentKind.ofName? s with
      | some kind => .ok kind
      | none => .error (.unknownKind type)
    | _ => .error (.unknownKind type)
  .ok {
    name, kind
    isDefaultExport := j.flag "isDefaultExport"
    isNamedExport := j.flag "isNamedExport"
    wrappedIn := j.getD "wrappedIn"
    declarationStart := j.getD "declarationStart"
    declarationType := j.getD "declarationType"
    line := j.getD "line" }

end Component

namespace FileNode

/-- The record of a file. -/
def toRecord (f : FileNode) : Json :=
  .obj [("type", .str "file"), ("name", f.name), ("fullPath", f.fullPath),
    ("process", .bool f.process), ("containsJSX", .bool f.containsJsx),
    ("containsReactRoot", .bool f.containsRoot),
    ("definedComponents", .arr (f.components.map Component.toRecord))]

/-- The file that a record describes. -/
def ofRecord (j : Json) : Except RecordFault FileNode := do
  let name ← j.member "name"
  let fullPath ← j.member "fullPath"
  let listed ← ((j.get? "definedComponents").getD (.arr [])).elements
  let components ← listed.mapM Component.ofRecord
  .ok {
    name, fullPath
    process := j.flag "process"
    containsJsx := j.flag "containsJSX"
    containsRoot := j.flag "containsReactRoot"
    components }

end FileNode

namespace Inventory

mutual

/-- The record of a file or a directory. -/
def recordOf : ProjectNode → Json
  | .file f => f.toRecord
  | .directory name children =>
    .obj [("type", .str "directory"), ("name", name), ("children", .arr (recordsOf children))]

/-- The records of several files and directories. -/
def recordsOf : List ProjectNode → List Json
  | [] => []
  | n :: ns => recordOf n :: recordsOf ns

end

/-- The records of an inventory. -/
def toRecords (inv : Inventory) : Json := .arr (recordsOf inv)

/-- Makes the records of an inventory. -/
def record (room : Nat) (inv : Inventory) : Except Fault Json :=
  if room ≤ levels inv then .error .tooDeep else .ok inv.toRecords

/-- What a record says about itself: its type, and for a directory its name and contents. -/
inductive RecordHead where
  | file
  | directory (name : Json) (children : Json)
  | other (type : Json)

/-- The head of a record. -/
def recordHead (j : Json) : Except RecordFault RecordHead := do
  let type ← j.member "type"
  if type.isText "directory" then
    let name ← j.member "name"
    let children ← j.member "children"
    .ok (.directory name children)
  else if type.isText "file" then .ok .file
  else .ok (.other type)

/-- The error about a record that is to be shown. -/
def refusal (room : Nat) (record : Json) (error : DocumentError) : DocumentError :=
  ((record.obstacle? room).map .fault).getD error

/-- The error about a record in which a fault arose. A value that cannot be used makes the record
malformed, and it cannot be shown there either. -/
def failing (room : Nat) (record : Json) (fault : Fault) : DocumentError :=
  .fault (if fault.kind = .badValue then (record.obstacle? room).getD fault else fault)

/-- The file or directory that a record describes. `enter` makes the inventory of what a directory
contains. -/
def nodeOf (room : Nat) (enter : Json → Except DocumentError Inventory) (j : Json) :
    Except DocumentError ProjectNode :=
  match recordHead j with
  | .error fault => .error (refusal room j (.malformed j fault))
  | .ok (.other type) =>
    match type.obstacle? room with
    | some fault => .error (failing room j fault)
    | none => .error (.unknownType type)
  | .ok .file =>
    match FileNode.ofRecord j with
    | .ok f => .ok (.file f)
    | .error fault => .error (refusal room j (.malformed j fault))
  | .ok (.directory name children) =>
    match enter children with
    | .ok nodes => .ok (.directory name nodes)
    | .error (.fault fault) => .error (failing room j fault)
    | .error error => .error error

/-- The inventory that records describe. -/
def ofRecords : Nat → Json → Except DocumentError Inventory
  | 0, _ => .error (.fault .tooDeep)
  | room + 1, .arr records => records.mapM (nodeOf room (ofRecords room))
  | _ + 1, _ => .error .notList

/-- The text of an inventory's structure document. -/
def toDocument (inv : Inventory) : String := (toRecords inv).render ++ "\n"

/-- Makes the text of an inventory's structure document. -/
def document (room : Nat) (inv : Inventory) : Except Fault String := do
  let records ← record (room - 1) inv
  return (← records.dump (room - 1)) ++ "\n"

/-- The inventory that the text of a structure document describes. `path` names the document in
messages. -/
def ofDocument (room : Nat) (path text : String) : Except DocumentError Inventory :=
  match Json.read (room - 1) text with
  | .error e => .error (.unread path e)
  | .ok j => ofRecords (room - 1) j

end Inventory

end JsxTagger
