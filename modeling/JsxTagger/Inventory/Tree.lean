import JsxTagger.Component.Descriptor
import JsxTagger.Failure.Fault

/-!
# Project inventories

An inventory is the list of files and directories of a project, directories with their own contents.
Names and paths come either from a scan, which knows them as texts, or from a structure document,
which may hold any value there.

The files of an inventory are listed by a loop over a stack, in tree order. They are counted by
recursion, which goes only as deep as there are calls left.
-/

namespace JsxTagger

/-- A file of a project. -/
structure FileNode where
  /-- The name of the file. -/
  name : Json
  /-- The path from the root of the project. -/
  fullPath : Json
  /-- The extension makes it a file to be looked into. -/
  process : Bool := false
  /-- It holds markup. -/
  containsJsx : Bool := false
  /-- It mounts an application. -/
  containsRoot : Bool := false
  /-- Its components in the order of the text. -/
  components : List Component := []
deriving Inhabited

/-- Whether a file is instrumented rather than copied. -/
def FileNode.shouldInstrument (f : FileNode) : Bool :=
  f.process && f.containsJsx && !f.components.isEmpty

/-- A file or a directory of a project. -/
inductive ProjectNode where
  | file (file : FileNode)
  | directory (name : Json) (children : List ProjectNode)
deriving Inhabited

/-- The contents of a project's root directory. -/
abbrev Inventory := List ProjectNode

namespace ProjectNode

mutual

/-- The number of files and directories at and below a node. -/
def size : ProjectNode → Nat
  | .file _ => 1
  | .directory _ children => sizeAll children + 1

/-- The number of files and directories at and below a list of nodes. -/
def sizeAll : List ProjectNode → Nat
  | [] => 0
  | n :: ns => n.size + sizeAll ns

end

theorem sizeAll_append (ms ns : List ProjectNode) :
    sizeAll (ms ++ ns) = sizeAll ms + sizeAll ns := by
  induction ms with
  | nil => simp [sizeAll]
  | cons m ms ih => simp [sizeAll, ih]; omega

end ProjectNode

namespace Inventory

/-- Takes the nodes off a stack, reporting files and putting the contents of directories in their
place. -/
def drain : List ProjectNode → List FileNode
  | [] => []
  | .file f :: rest => f :: drain rest
  | .directory _ children :: rest => drain (children ++ rest)
termination_by stack => ProjectNode.sizeAll stack
decreasing_by
  · simp [ProjectNode.sizeAll, ProjectNode.size]
  · simp [ProjectNode.sizeAll, ProjectNode.size, ProjectNode.sizeAll_append]

/-- The files of an inventory in tree order. -/
def files (inv : Inventory) : List FileNode := drain inv

mutual

/-- How many directories lie inside each other at a node. -/
def levelsAt : ProjectNode → Nat
  | .file _ => 0
  | .directory _ children => levels children + 1

/-- How many directories of an inventory lie inside each other. -/
def levels : List ProjectNode → Nat
  | [] => 0
  | n :: ns => max (levelsAt n) (levels ns)

end

mutual

/-- The number of files at a node, where `room` calls are left. A directory takes two of them, one inside the
other. -/
def filesOf (room : Nat) : ProjectNode → Except Fault Nat
  | .file _ => .ok 1
  | .directory _ children => if room < 2 then .error .tooDeep else sumFiles (room - 2) children

/-- Adds up the files of several nodes. -/
def sumFiles (room : Nat) : List ProjectNode → Except Fault Nat
  | [] => .ok 0
  | n :: ns => do return (← filesOf room n) + (← sumFiles room ns)

end

/-- The number of files of an inventory. -/
def countFiles (room : Nat) (inv : Inventory) : Except Fault Nat :=
  if room < 2 then .error .tooDeep else sumFiles (room - 2) inv

end Inventory

end JsxTagger
