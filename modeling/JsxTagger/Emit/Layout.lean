import JsxTagger.Failure.Fault
import JsxTagger.Files.Path
import JsxTagger.Inventory.Tree

/-!
# The layout of the copy

The directories and the files of an inventory, each in tree order: a directory comes before what it
contains. Directories are known by their path from the root of the project. They are collected by
recursion, which goes only as deep as there are calls left.
-/

namespace JsxTagger.Emit

open Files

/-- The path that a value leads to from another path. Only texts lead anywhere. -/
def joinValue (p : Path) : Json → Except Fault Path
  | .str s => .ok (p.join (Path.ofText s))
  | j =>
    .error ⟨.wrongType,
      s!"unsupported operand type(s) for /: 'PosixPath' and '{j.typeName}'"⟩

/-- The directories and the files of what lies at a path, where `room` calls are left. Every directory
takes one of them. -/
def layoutIn (room : Nat) (at_ : Path) : List ProjectNode → Except Fault (List Path × List FileNode)
  | [] => .ok ([], [])
  | .file f :: ns => do
    let (dirs, files) ← layoutIn room at_ ns
    return (dirs, f :: files)
  | .directory name children :: ns => do
    let dir ← joinValue at_ name
    if room = 0 then throw .tooDeep
    let (innerDirs, innerFiles) ← layoutIn (room - 1) dir children
    let (dirs, files) ← layoutIn room at_ ns
    return (dir :: innerDirs ++ dirs, innerFiles ++ files)
termination_by ns => ProjectNode.sizeAll ns
decreasing_by
  all_goals simp only [ProjectNode.sizeAll, ProjectNode.size]
  all_goals omega

/-- The directories and the files of an inventory that lies at a path. -/
def layout (room : Nat) (at_ : Path) (inv : Inventory) :
    Except Fault (List Path × List FileNode) :=
  if room = 0 then .error .tooDeep else layoutIn (room - 1) at_ inv

end JsxTagger.Emit
