import JsxTagger.Failure.Fault
import JsxTagger.Inventory.Tree

/-!
# The context of a run

The context holds what the stages of a run know together: the inventory, the files that mount an
application, the files that could not be scanned, and whether the run was cancelled.

Files are looked up by path in an index. The index is made when it is first needed and thrown away
when the inventory is replaced.
-/

namespace JsxTagger

/-- The fault of a value that cannot be looked up. -/
def Json.unhashable (j : Json) : Fault := ⟨.wrongType, s!"unhashable type: '{j.typeName}'"⟩

/-- The whole number that a value is equal to. -/
def Json.whole? : Json → Option Int
  | .int n => some n
  | .bool b => some (if b then 1 else 0)
  | .float x => x.toInt?
  | _ => none

/-- Whether two values are the same when they are looked up. Numbers are compared by value. -/
def Json.sameKey : Json → Json → Bool
  | .null, .null => true
  | .str a, .str b => a == b
  | .float a, .float b =>
    match a, b with
    | .nan, _ | _, .nan => false
    | _, _ => a == b || (a.isZero && b.isZero)
  | a, b =>
    match a.whole?, b.whole? with
    | some m, some n => m == n
    | _, _ => false

/-- What the stages of a run know together. -/
structure RunContext where
  /-- The files and directories of the project. -/
  inventory : Inventory := []
  /-- The paths of the files that mount an application. -/
  rootFiles : List String := []
  /-- The paths of the files that could not be scanned, with the reason. -/
  scanFailures : List (String × String) := []
  /-- The run was cancelled. -/
  cancelled : Bool := false
  /-- The files of the inventory for which the index was made. -/
  index : Option (List FileNode) := none
deriving Inhabited

namespace RunContext

/-- Notes a file that mounts an application. -/
def addRootFile (c : RunContext) (path : String) : RunContext :=
  { c with rootFiles := c.rootFiles ++ [path] }

/-- Notes a file that could not be scanned. -/
def recordScanFailure (c : RunContext) (path message : String) : RunContext :=
  { c with scanFailures := c.scanFailures ++ [(path, message)] }

/-- Replaces the inventory. -/
def setInventory (c : RunContext) (nodes : Inventory) : RunContext :=
  { c with inventory := nodes, index := none }

/-- Cancels the run. -/
def cancel (c : RunContext) : RunContext := { c with cancelled := true }

/-- The files of the inventory in tree order. -/
def files (c : RunContext) : List FileNode := c.inventory.files

/-- The files that the index holds. It is made if there is none. -/
def indexed (c : RunContext) : Except Fault (List FileNode) :=
  match c.index with
  | some files => .ok files
  | none =>
    match c.files.find? fun f => !f.fullPath.isKey with
    | some f => .error f.fullPath.unhashable
    | none => .ok c.files

/-- The last of the files with the given path. -/
def lastWithPath (files : List FileNode) (path : Json) : Option FileNode :=
  (files.filter fun f => f.fullPath.sameKey path).getLast?

/-- The file with the given path, and the context with its index. -/
def findFile (c : RunContext) (path : Json) : Except Fault (Option FileNode × RunContext) :=
  match c.indexed with
  | .error fault => .error fault
  | .ok files =>
    if path.isKey then .ok (lastWithPath files path, { c with index := some files })
    else .error path.unhashable

/-- The components of the file with the given path, none if there is no such file. -/
def componentsFor (c : RunContext) (path : Json) :
    Except Fault (List Component × RunContext) := do
  let (file, c) ← c.findFile path
  return ((file.map (·.components)).getD [], c)

end RunContext

end JsxTagger
