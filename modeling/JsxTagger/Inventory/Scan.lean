import JsxTagger.Component.Classify
import JsxTagger.Run.State
import JsxTagger.Settings.Basic
import JsxTagger.Text.LowerCase

/-!
# Scanning a project

The scan goes through the input root and makes the inventory. Entries come in the order of their
names. Hidden entries are left out, and so are the directories that the settings ignore; a symbolic
link to a directory is not followed, because links can lead in a circle.

A file with one of the extensions is read and parsed once. If that fails, the failure is noted, and
the file stays in the inventory as one that holds nothing to instrument.

`scan` is the scan of a project in which everything can be looked at. `survey` is what a run does: it
ends with a fault at the first entry that the system refuses to look at, and where directories lie too
deep in each other for the calls that are left.
-/

namespace JsxTagger.Inventory

open Files

/-- The name under which the scan writes to the log. -/
def logger : String := "core.inventory"

/-- Whether an entry is left out because of its name. -/
def isHidden (name : String) : Bool := name.startsWith "."

/-- Whether a file of the given name is looked into. -/
def isEligible (s : Settings) (name : String) : Bool :=
  s.extensions.contains (Text.lower (extension name))

/-- Reads and parses a file. -/
def readSource (env : Environment) (fs : FileSystem) (p : Path) (rel : String) :
    Except Trouble Syntax.SourceTree := do
  let text ← readText fs p
  (env.parse text (some rel)).mapError fun fault => .failure (.ofSyntaxFault fault)

/-- What the log says about a file that could not be scanned. -/
def failureRecord (rel : String) (f : Failure) : Log.Record :=
  let verb := if f.category = .parse then "parsing" else "reading"
  ⟨.error, logger, s!"Error {verb} file {rel}: {f.message}"⟩

/-- What the log says about a file that was scanned. -/
def scannedRecord (rel : String) (f : FileNode) : Log.Record :=
  let names := Json.arr (f.components.map (·.name))
  let jsx := Json.bool f.containsJsx
  ⟨.debug, logger, s!"Scanned {rel}: jsx={jsx.shown} components={names.shown}"⟩

/-- Makes the inventory's file at a path. `rel` is the path from the input root. -/
def scanFile (env : Environment) (settings : Settings) (p : Path) (rel : String)
    (s : RunState) : FileNode × RunState :=
  let file : FileNode := {
    name := .str p.name, fullPath := .str rel, process := isEligible settings p.name }
  if !file.process then (file, s)
  else
    match readSource env s.files p rel with
    | .error (.failure f) =>
      (file, (s.note env (failureRecord rel f)).inContext (·.recordScanFailure rel f.message))
    | .error (.fault _) => (file, s)
    | .ok tree =>
      let analysis := Classify.analyzeTree tree
      let mounts := analysis.mountCalls != 0
      let file := { file with
        containsJsx := analysis.containsMarkup
        components := analysis.components
        containsRoot := mounts }
      let s := if mounts then s.inContext (·.addRootFile rel) else s
      (file, s.note env (scannedRecord rel file))

/-- What an entry of a directory means to the scan. -/
inductive Found where
  /-- It is left out. -/
  | nothing
  /-- It is a file. -/
  | file
  /-- It is a directory to be entered. -/
  | directory
deriving DecidableEq, Repr

/-- What the entry with the given name in a directory means to the scan. -/
def classify (settings : Settings) (fs : FileSystem) (dir : Path) (place : Location)
    (name : String) : Found :=
  if isHidden name then .nothing
  else
    match fs.stat (dir.join ⟨.relative, [name]⟩) with
    | .ok .directory =>
      if settings.ignoreDirs.contains name then .nothing
      else if fs.get? (place ++ [name]) matches some (.link _) then .nothing
      else .directory
    | .ok (.file ..) => .file
    | _ => .nothing

/-- Makes the inventory of a directory's entries with the given names. `place` is where the directory
is, `rel` holds the names on the way from the input root, and `enter` makes the inventory of a
directory in it. -/
def scanEntries (env : Environment) (settings : Settings)
    (enter : Path → Location → List String → RunState → List ProjectNode × RunState)
    (dir : Path) (place : Location) (rel : List String) :
    List String → RunState → List ProjectNode × RunState
  | [], s => ([], s)
  | name :: names, s =>
    let path := dir.join ⟨.relative, [name]⟩
    match classify settings s.files dir place name with
    | .nothing => scanEntries env settings enter dir place rel names s
    | .directory =>
      let (children, s) := enter path (place ++ [name]) (rel ++ [name]) s
      let (nodes, s) := scanEntries env settings enter dir place rel names s
      (.directory (.str name) children :: nodes, s)
    | .file =>
      let (file, s) := scanFile env settings path ("/".intercalate (rel ++ [name])) s
      let s := s.report (.update (some 1) (some s!"Scanning {name}"))
      let (nodes, s) := scanEntries env settings enter dir place rel names s
      (.file file :: nodes, s)

/-- Makes the inventory of a directory. The number bounds the depth. -/
def scanDirectory (env : Environment) (settings : Settings) :
    Nat → Path → Location → List String → RunState → List ProjectNode × RunState
  | 0, _, _, _, s => ([], s)
  | depth + 1, dir, place, rel, s =>
    scanEntries env settings (scanDirectory env settings depth) dir place rel
      (s.files.namesIn place) s

/-- Scans an input root in which everything can be looked at, and keeps the inventory in the context. -/
def scan (env : Environment) (settings : Settings) (s : RunState) : RunState :=
  let s := s.report (.start "Scanning project..." none)
  let (nodes, s) :=
    match s.files.locate settings.inputRoot with
    | .ok place =>
      scanDirectory env settings (s.files.entries.length + 1) settings.inputRoot place [] s
    | .error _ => ([], s)
  let count := (files nodes).length
  let s := s.report (.complete s!"✅ Scanned {count} files." count (some count))
  (s.inContext (·.setInventory nodes)).note env
    ⟨.info, logger, s!"Project structure has been captured ({count} files)"⟩

/-! ## Scans that may end early -/

/-- A scan at work. A fault ends it. -/
abbrev SurveyM := ExceptT Fault (StateM RunState)

/-- The fault of an entry that the system refuses to look at. A path that leads nowhere can be looked
at; one that is too long, or that leads to a name that is, cannot. -/
def refusal? (fs : FileSystem) (p : Path) : Option Fault :=
  match fs.stat p with
  | .error .nameTooLong => some (Refusal.nameTooLong.fault p.text)
  | _ => none

/-- Makes the inventory of a directory's entries with the given names, as `scanEntries` does. -/
def surveyEntries (env : Environment) (settings : Settings)
    (enter : Path → Location → List String → SurveyM (List ProjectNode))
    (dir : Path) (place : Location) (rel : List String) : List String → SurveyM (List ProjectNode)
  | [] => pure []
  | name :: names => do
    let path := dir.join ⟨.relative, [name]⟩
    if !isHidden name then
      if let some fault := refusal? (← get).files path then throw fault
    match classify settings (← get).files dir place name with
    | .nothing => surveyEntries env settings enter dir place rel names
    | .directory =>
      let children ← enter path (place ++ [name]) (rel ++ [name])
      let nodes ← surveyEntries env settings enter dir place rel names
      return .directory (.str name) children :: nodes
    | .file =>
      let file ← modifyGet (scanFile env settings path ("/".intercalate (rel ++ [name])))
      modify (·.report (.update (some 1) (some s!"Scanning {name}")))
      let nodes ← surveyEntries env settings enter dir place rel names
      return .file file :: nodes

/-- Makes the inventory of a directory, where the given number of calls is left. -/
def surveyDirectory (env : Environment) (settings : Settings) :
    Nat → Path → Location → List String → SurveyM (List ProjectNode)
  | 0, _, _, _ => throw .tooDeep
  | depth + 1, dir, place, rel => do
    surveyEntries env settings (surveyDirectory env settings depth) dir place rel
      ((← get).files.namesIn place)

/-- Scans the input root, and keeps the inventory in the context. -/
def survey (env : Environment) (settings : Settings) : SurveyM Unit := do
  modify (·.report (.start "Scanning project..." none))
  let root := settings.inputRoot
  let fs := (← get).files
  match fs.locate root with
  | .error r => throw (r.fault root.text)
  | .ok place =>
    if fs.get? place != some .directory then throw (Refusal.notDirectory.fault root.text)
    let nodes ← surveyDirectory env settings (env.room - 1) root place []
    let count ← countFiles (env.room - 1) nodes
    modify (·.report (.complete s!"✅ Scanned {count} files." count (some count)))
    modify fun s => (s.inContext (·.setInventory nodes)).note env
      ⟨.info, logger, s!"Project structure has been captured ({count} files)"⟩

/-! ## Documents -/

/-- Writes the structure document of an inventory. -/
def writeDocument (room : Nat) (inv : Inventory) (p : Path) : AccessM Unit :=
  match inv.document room with
  | .ok text => writeFile p text
  | .error fault => throw (.fault fault)

/-- Reads the inventory of a structure document. -/
def readDocument (room : Nat) (fs : FileSystem) (p : Path) : Except Trouble Inventory := do
  let text ← readText fs p
  (ofDocument room p.text text).mapError .ofDocumentError

end JsxTagger.Inventory
