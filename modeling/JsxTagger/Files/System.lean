import JsxTagger.Failure.Fault
import JsxTagger.Files.Path
import JsxTagger.Text.Encoding

/-!
# File systems

A file system is a table of entries: directories, files with their permission bits, and symbolic
links. An entry is found at a `Location`, the names on the way from the root directory; a `Path` is
what programs use, and `FileSystem.locate` follows it to a location, through symbolic links and
`..`.

Operations are refused only for what the entries are and for names and paths that are too long. Whoever
runs the program may do everything, the disk is never full and no device fails, so that what is said of
file systems is said of runs in which the system refuses nothing for such a reason.
-/

namespace JsxTagger.Files

/-- The names on the way from the root directory to an entry. -/
abbrev Location := List String

/-- What stands at a location. -/
inductive Entry where
  /-- A directory. -/
  | directory
  /-- A file with its permission bits and its contents. -/
  | file (mode : Nat) (content : Bytes)
  /-- A symbolic link with its target. -/
  | link (target : String)
deriving DecidableEq, Repr, Inhabited

/-- The permission bits of an entry. -/
def Entry.mode : Entry → Nat
  | directory => 0o755
  | file mode _ => mode
  | link _ => 0o777

/-- A table of entries. -/
structure FileSystem where
  /-- The entries; the root directory is not among them. -/
  entries : List (Location × Entry) := []
  /-- The working directory, where relative paths start. -/
  workDir : Location := []
deriving Repr, Inhabited

namespace FileSystem

/-! ## Entries by location -/

/-- What stands at a location. -/
def get? (fs : FileSystem) (at_ : Location) : Option Entry :=
  if at_.isEmpty then some .directory else fs.entries.lookup at_

/-- Puts an entry at a location, in the place of what stands there. -/
def put (fs : FileSystem) (at_ : Location) (e : Entry) : FileSystem :=
  { fs with
    entries :=
      if fs.entries.any (·.1 == at_) then
        fs.entries.map fun old => if old.1 == at_ then (at_, e) else old
      else fs.entries ++ [(at_, e)] }

/-- Removes what stands at a location. -/
def remove (fs : FileSystem) (at_ : Location) : FileSystem :=
  { fs with entries := fs.entries.filter (·.1 != at_) }

/-- The names in a directory, sorted. -/
def namesIn (fs : FileSystem) (dir : Location) : List String :=
  let inside (e : Location × Entry) : Option String :=
    match e.1.getLast? with
    | some name => if e.1.dropLast == dir then some name else none
    | none => none
  Text.sorted (fs.entries.filterMap inside)

/-! ## Following paths -/

/-- The greatest length of a name in bytes. -/
def maxName : Nat := 255

/-- The greatest length of a path in bytes. -/
def maxPath : Nat := 4095

/-- The greatest number of symbolic links that are followed on one path. -/
def maxLinks : Nat := 40

/-- Follows names from a location up to the first link that leads elsewhere; from there `again` goes
on, unless no more links may be followed. `follow` says whether a link at the very end is followed. -/
def walkWith (fs : FileSystem) (follow : Bool)
    (again : Option (Location → List String → Except Refusal Location)) (here : Location) :
    List String → Except Refusal Location
  | [] => .ok here
  | name :: rest =>
    match fs.get? here with
    | none => .error .notFound
    | some (.file ..) | some (.link _) => .error .notDirectory
    | some .directory =>
      if name = ".." then walkWith fs follow again here.dropLast rest
      else if maxName < Text.pathSize name then .error .nameTooLong
      else
        match fs.get? (here ++ [name]) with
        | some (.link target) =>
          if rest.isEmpty && !follow then .ok (here ++ [name])
          else
            match again with
            | none => .error .linkLoop
            | some again =>
              let t := Path.ofText target
              again (if t.isAbsolute then [] else here) (t.parts ++ rest)
        | _ => walkWith fs follow again (here ++ [name]) rest

/-- Follows names from a location. `links` bounds the number of links that may still be followed,
and `follow` says whether a link at the very end is followed. There need not be anything at the
location where the names lead. -/
def walk (fs : FileSystem) (follow : Bool) : Nat → Location → List String → Except Refusal Location
  | 0 => fs.walkWith follow none
  | links + 1 => fs.walkWith follow (some (walk fs follow links))

/-- The location that a path leads to. -/
def locate (fs : FileSystem) (p : Path) (follow : Bool := true) : Except Refusal Location :=
  if maxPath < Text.pathSize p.text then .error .nameTooLong
  else fs.walk follow maxLinks (if p.isAbsolute then [] else fs.workDir) p.parts

/-- What a path leads to. -/
def stat (fs : FileSystem) (p : Path) (follow : Bool := true) : Except Refusal Entry := do
  let at_ ← fs.locate p follow
  match fs.get? at_ with
  | some e => .ok e
  | none => .error .notFound

/-- The fault of a path that no operation takes: it holds a half of a surrogate pair, or a null
character. -/
def pathFault? (p : Path) : Option Fault :=
  match Text.pathEncodingError? p.text with
  | some e => some ⟨.unencodable, e.message⟩
  | none => if p.hasNull then some ⟨.badValue, "embedded null byte"⟩ else none

/-- Whether a path leads to an entry with a property. A path that leads nowhere does not; only one
that is too long is a fault. -/
def leadsTo (fs : FileSystem) (p : Path) (test : Entry → Bool) : Except Fault Bool :=
  if (pathFault? p).isSome then .ok false
  else
    match fs.stat p with
    | .ok e => .ok (test e)
    | .error .nameTooLong => .error (Refusal.nameTooLong.fault p.text)
    | .error _ => .ok false

/-- Whether a path leads to a file. -/
def isFile (fs : FileSystem) (p : Path) : Except Fault Bool :=
  fs.leadsTo p fun e => e matches .file ..

/-- Whether a path leads to a directory. -/
def isDir (fs : FileSystem) (p : Path) : Except Fault Bool :=
  fs.leadsTo p fun e => e matches .directory

/-- Whether a path leads to anything. -/
def exists_ (fs : FileSystem) (p : Path) : Except Fault Bool := fs.leadsTo p fun _ => true

/-- The path of a location. -/
def pathOf (at_ : Location) : Path := ⟨.root, at_⟩

end FileSystem

/-! ## Changing a file system -/

/-- An operation that changes the file system and may fail. What it changed before it failed stays
changed. -/
abbrev FileM := ExceptT Fault (StateM FileSystem)

namespace FileM

/-- An operation that only looks at the file system. -/
def look {α : Type} (f : FileSystem → Except Fault α) : FileM α := do
  match f (← get) with
  | .ok a => pure a
  | .error fault => throw fault

/-- Follows a path to a location, in the name of an operation on it. -/
def locate (p : Path) (follow : Bool := true) : FileM Location := do
  if let some fault := FileSystem.pathFault? p then throw fault
  match (← get).locate p follow with
  | .ok at_ => pure at_
  | .error r => throw (r.fault p.text)

/-- What a path leads to, in the name of an operation on it. -/
def stat (p : Path) : FileM Entry := do
  let at_ ← locate p
  match (← get).get? at_ with
  | some e => pure e
  | none => throw (Refusal.notFound.fault p.text)

/-- The contents of a file. -/
def readBytes (p : Path) : FileM Bytes := do
  match ← stat p with
  | .file _ content => pure content
  | _ => throw (Refusal.isDirectory.fault p.text)

/-- Makes one directory. -/
def makeDirectory (p : Path) : FileM Unit := do
  let at_ ← locate p false
  match (← get).get? at_ with
  | some _ => throw (Refusal.taken.fault p.text)
  | none => modify (·.put at_ .directory)

/-- Makes one directory unless it is there. -/
def ensureDirectory (p : Path) : FileM Unit :=
  tryCatch (makeDirectory p) fun fault => do
    unless ← look (·.isDir p) do throw fault

/-- Makes a directory, and those it lies in, unless they are there. The names are those of the path
from its end. -/
def makeDirsFrom (anchor : Anchor) : List String → FileM Unit
  | [] => ensureDirectory ⟨anchor, []⟩
  | name :: above =>
    let p : Path := ⟨anchor, (name :: above).reverse⟩
    tryCatch (makeDirectory p) fun fault => do
      if fault = Refusal.notFound.fault p.text then
        makeDirsFrom anchor above
        ensureDirectory p
      else unless ← look (·.isDir p) do throw fault

/-- Makes a directory, and those it lies in, unless they are there. -/
def makeDirs (p : Path) : FileM Unit := makeDirsFrom p.anchor p.parts.reverse

end FileM

end JsxTagger.Files
