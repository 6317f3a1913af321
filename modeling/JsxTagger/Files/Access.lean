import JsxTagger.Failure.Failure
import JsxTagger.Files.Resolution
import JsxTagger.Text.Decoding

/-!
# Reading and writing files

Source files are read as texts: a file that is not a text cannot be read. Files are written through
a temporary file beside the destination, which then takes its place, so that nobody ever sees a file
that is half written. When the system refuses a step, the temporary file is removed and the failure
is reported.

A text with a half of a surrogate pair cannot be written. That is no refusal of the system, so the
temporary file stays.
-/

namespace JsxTagger.Files

/-- An operation on files that may be in trouble. -/
abbrev AccessM := ExceptT Trouble (StateM FileSystem)

namespace AccessM

/-- An operation that only looks at the file system. -/
def look {α : Type} (f : FileSystem → Except Trouble α) : AccessM α := do
  match f (← get) with
  | .ok a => pure a
  | .error t => throw t

/-- An operation whose refusals by the system are reported as a failure. -/
def reporting {α : Type} (m : FileM α) (report : Fault → Failure) : AccessM α := do
  match ← (m.run : StateM FileSystem _) with
  | .ok a => pure a
  | .error fault =>
    match fault.kind with
    | .system _ => throw (.failure (report fault))
    | _ => throw (.fault fault)

end AccessM

/-! ## Reading -/

/-- How many bytes at the start of a file are searched for a null byte. -/
def binaryProbe : Nat := 1024

/-- Whether contents look binary. -/
def looksBinary (content : Bytes) : Bool := (content.take binaryProbe).contains 0

/-- The text of contents, or the failure to read the file at a path. -/
def decodeFile (p : Path) (content : Bytes) : Except Failure String :=
  if looksBinary content then
    .error {
      category := .fileRead, path := p.text
      message := s!"Binary file cannot be read as source: {p.text}" }
  else
    match content.text? with
    | some text => .ok text
    | none =>
      .error {
        category := .fileRead, path := p.text
        message := s!"Failed to read file: {p.text}"
        cause := some ⟨FaultKind.undecodable.name,
          ((Text.decodingError? content).map (·.message)).getD ""⟩ }

/-- The text of the file at a path. -/
def readText (fs : FileSystem) (p : Path) : Except Trouble String :=
  match fs.isFile p with
  | .error fault => .error (.fault fault)
  | .ok false =>
    .error (.failure {
      category := .fileRead, path := p.text, message := s!"Not a file: {p.text}" })
  | .ok true =>
    match fs.stat p with
    | .ok (.file _ content) => (decodeFile p content).mapError .failure
    | _ => .error (.failure { category := .fileRead, path := p.text })

/-! ## Writing -/

/-- The permission bits of a written file that has no model. -/
def defaultMode : Nat := 0o644

/-- The permission bits of a temporary file. -/
def temporaryMode : Nat := 0o600

/-- The name of a temporary file for a destination, by number. -/
def temporaryName (name : String) (n : Nat) : String :=
  s!".{name}.{String.ofList (Decimal.hexDigits 8 n)}.tmp"

/-- How many names are tried for a temporary file. -/
def temporaryTries : Nat := 10000

/-- The path of a temporary file for a destination, by number. It is beside the destination as the path of
the destination is written, which is another directory if a `..` in it stands behind a symbolic link. -/
def temporaryPath (fs : FileSystem) (destination : Path) (n : Nat) : Path :=
  (fs.absolute destination.parent).join ⟨.relative, [temporaryName destination.name n]⟩

/-- The first number from `n` on whose temporary file is not there, zero if all that are tried are. -/
def freeNumberFrom (fs : FileSystem) (destination : Path) : Nat → Nat → Nat
  | 0, _ => 0
  | tries + 1, n =>
    match fs.stat (temporaryPath fs destination n) false with
    | .ok _ => freeNumberFrom fs destination tries (n + 1)
    | .error _ => n

/-- The first number whose temporary file is not there. -/
def freeNumber (fs : FileSystem) (destination : Path) : Nat :=
  freeNumberFrom fs destination temporaryTries 0

/-- Makes an empty temporary file for a destination. -/
def makeTemporary (destination : Path) : FileM Location := do
  if let some fault := FileSystem.pathFault? destination then throw fault
  let fs ← get
  let p := temporaryPath fs destination (freeNumber fs destination)
  match fs.locate p false with
  | .error r => throw (r.fault p.text)
  | .ok at_ =>
    if (fs.get? at_).isSome then throw (Refusal.taken.fault p.text)
    set (fs.put at_ (.file temporaryMode []))
    pure at_

/-- Puts a temporary file in the place of the destination. A directory stays where it is. -/
def takePlace (temporary : Location) (mode : Nat) (content : Bytes) (destination : Path) :
    FileM Unit := do
  if destination.parts.isEmpty || destination.name = ".." then
    throw (Refusal.busy.fault destination.text)
  let at_ ← FileM.locate destination false
  match (← get).get? at_ with
  | some .directory => throw (Refusal.isDirectory.fault destination.text)
  | _ => modify fun fs => (fs.remove temporary).put at_ (.file mode content)

/-- Makes a directory, and those it lies in, unless they are there. -/
def makeDirs (p : Path) : AccessM Unit :=
  AccessM.reporting (FileM.makeDirs p) fun fault => {
    category := .fileWrite, path := p.text
    message := s!"Failed to create directory: {p.text}", cause := some fault.asCause }

/-- Writes a file through a temporary file. `fill` yields the contents, and the permission bits are
those of the file at `modeFrom`. -/
def replaceAtomically (destination : Path) (fill : FileM Bytes) (modeFrom : Option Path)
    (message : String) : AccessM Unit := do
  makeDirs destination.parent
  let report (fault : Fault) : Failure := {
    category := .fileWrite, path := destination.text, message, cause := some fault.asCause }
  let temporary ← AccessM.reporting (makeTemporary destination) report
  let finish : FileM Unit := do
    let content ← fill
    modify (·.put temporary (.file temporaryMode content))
    let mode ←
      match modeFrom with
      | some p => do pure (← FileM.stat p).mode
      | none => pure defaultMode
    takePlace temporary mode content destination
  let cleaned : FileM Unit := tryCatch finish fun fault => do
    if fault.kind matches .system _ then modify (·.remove temporary)
    throw fault
  AccessM.reporting cleaned report

/-- Where a file is put: where its path leads once the directory that it lies in was made. A link at the
end of the path gives way to the file. -/
def landing? (fs : FileSystem) (destination : Path) : Option Location :=
  (((FileM.makeDirs destination.parent).run.run fs).2.locate destination false).toOption

/-- Writes a text to a file. -/
def writeFile (destination : Path) (data : String) (modeFrom : Option Path := none) :
    AccessM Unit := do
  match (← get).isDir destination with
  | .error fault => throw (.fault fault)
  | .ok true =>
    throw (.failure {
      category := .invalidPath, path := destination.text
      message := s!"Cannot write over a directory: {destination.text}" })
  | .ok false =>
    let fill : FileM Bytes :=
      match Bytes.ofText? data with
      | .ok bytes => pure bytes
      | .error e => throw ⟨.unencodable, e.message⟩
    replaceAtomically destination fill modeFrom s!"Failed to write file: {destination.text}"

/-- Copies a file with its permission bits. -/
def copyFile (source destination : Path) : AccessM Unit :=
  replaceAtomically destination (FileM.readBytes source) (some source)
    s!"Failed to copy {source.text} to {destination.text}"

end JsxTagger.Files
