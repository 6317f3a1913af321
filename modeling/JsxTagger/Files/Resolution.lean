import JsxTagger.Files.System

/-!
# Paths without links

Resolving a path replaces the symbolic links on it by what they lead to and removes `..`. The path
need not exist: what is missing is kept as it is written. A link that is met again while it is being
followed leads in a circle; from there on the rest of the path is kept as it is written, too.

Links are remembered by the path that leads to them, and a relative path stays relative until the
end. A link is reached by its absolute path and by one relative path for every directory above the
working directory, so the number of links times the number of these paths bounds how deep links can
lead to links.
-/

namespace JsxTagger.Files

/-- A name in a path as it is written; it may be empty or a dot. -/
abbrev Segment := List Char

/-- The path from `p` along written names. Names that start with an empty one lead from the root
directory. -/
def Path.along (p : Path) (names : List Segment) : Path :=
  p.join (Path.ofText ("/".intercalate (names.map String.ofList)))

/-- One name up from a path without links. Above the working directory the way up is written. -/
def Path.up (p : Path) : Path :=
  if p.isAbsolute || !p.parts.all (· == "..") then p.parent
  else { p with parts := p.parts ++ [".."] }

/-- The names of a path in which every `..` takes the name before it away. -/
def collapse (names : List String) : List String :=
  names.foldl (fun done name => if name = ".." then done.dropLast else done ++ [name]) []

namespace FileSystem

/-- The location of a path when no link is followed. -/
def place (fs : FileSystem) (p : Path) : Location :=
  collapse (if p.isAbsolute then p.parts else fs.workDir ++ p.parts)

/-- A path from the root directory, in which every `..` takes the name before it away. Behind a symbolic
link that is not where the path itself leads. -/
def absolute (fs : FileSystem) (p : Path) : Path :=
  ⟨if p.isAbsolute then p.anchor else .root, fs.place p⟩

/-- How far a path has been resolved. -/
structure Resolved where
  /-- The path so far. -/
  path : Path
  /-- No link led in a circle. -/
  complete : Bool
  /-- The links that were met, with what they lead to once that is known. -/
  met : List (Path × Option Path)

/-- Resolves written names that start at `here`, a path without links. -/
def resolveFrom (fs : FileSystem) (fuel : Nat) (met : List (Path × Option Path)) (here : Path) :
    List Segment → Resolved
  | [] => ⟨here, true, met⟩
  | name :: rest =>
    if name.isEmpty || name = ['.'] then resolveFrom fs fuel met here rest
    else if name = ['.', '.'] then resolveFrom fs fuel met here.up rest
    else
      let next : Path := { here with parts := here.parts ++ [String.ofList name] }
      match fs.get? (fs.place next) with
      | some (.link target) =>
        match met.lookup next, fuel with
        | some (some known), fuel => resolveFrom fs fuel met known rest
        | some none, _ | none, 0 => ⟨next.along rest, false, met⟩
        | none, fuel + 1 =>
          let start : Path := if target.startsWith "/" then ⟨.root, []⟩ else here
          let led := resolveFrom fs fuel ((next, none) :: met) start
            (Path.splitSlashes target.toList)
          if led.complete then
            resolveFrom fs (fuel + 1) ((next, some led.path) :: led.met) led.path rest
          else { led with path := led.path.along rest }
      | _ => resolveFrom fs fuel met next rest
termination_by names => (fuel, names.length)

/-- The absolute path that a written path stands for. -/
def resolveText (fs : FileSystem) (text : String) : Path :=
  let depth := fs.entries.length * (fs.workDir.length + 2)
  let start : Path := if text.startsWith "/" then ⟨.root, []⟩ else {}
  fs.absolute (fs.resolveFrom depth [] start (Path.splitSlashes text.toList)).path

/-- The absolute path that a path stands for. Links that lead in a circle are a fault, and so are
too many of them. -/
def resolve (fs : FileSystem) (p : Path) : Except Fault Path :=
  match pathFault? p with
  | some fault => .error fault
  | none =>
    let resolved := fs.resolveText p.text
    match fs.stat resolved with
    | .error .linkLoop => .error ⟨.badState, s!"Symlink loop from {Text.quoted resolved.text}"⟩
    | _ => .ok resolved

end FileSystem

end JsxTagger.Files
