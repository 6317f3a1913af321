import JsxTagger.Proofs.Emit.Returns
import JsxTagger.Proofs.Files.Agreement

/-!
# Files do not depend on each other

When the directories of a copy are there, what becomes of a file is what would become of it if it were the
only one (`alone`): the files that are emitted before it or meanwhile are not looked at. `World` says how
far a run has come, by which files were emitted; each step of a worker finds and yields the same as it does
alone (`World.draft`, `World.store`).
-/

namespace JsxTagger.Emit

open Files
open FileSystem (pathFault? Agree Plain Beside)
open Inventory (Scanned directoriesAt filesAt placesAt mem_placesAt isHidden)

/-! ## Formatters and files that can be relied on -/

/-- A formatter that answers with a text or a failure. -/
structure Reliable (formatter : Format.Formatter) : Prop where
  calm : ∀ fs text p, (formatter fs text p).cancels = false
  answers : ∀ fs text p, Text.isPlain text = true → Answers (formatter fs text p).result

/-- A file that was scanned can be emitted: the system takes its paths, and if it has components, its
destination is not too long and its text has a tree of the grammar, if it has one at all. -/
structure Workable (tools : Tools) (s : RunState) (names : List String) (f : FileNode) : Prop where
  source : pathFault? (tools.settings.inputRoot.join ⟨.relative, names⟩) = none
  destination : pathFault? (tools.settings.outputRoot.join ⟨.relative, names⟩) = none
  fits : f.shouldInstrument = true →
    s.files.Fits (tools.settings.outputRoot.join ⟨.relative, names⟩)
  text : f.shouldInstrument = true → ∀ text,
    readText s.files (tools.settings.inputRoot.join ⟨.relative, names⟩) = .ok text →
    Text.isPlain text = true ∧ ∀ tree,
      tools.env.parse text (some ("/".intercalate names)) = .ok tree →
      Instrument.Grammatical tree ∧ Instrument.Shallow tools.env.workerRoom tree

/-- A run in which the directories of the copy were made, and nothing else. Links, sources and the log file
are out of the way. -/
structure Ground (tools : Tools) (inv : Inventory) (out : Location) (b : RunState) : Prop where
  sink : b.sink = .disk
  logsTo : b.LogsTo b.files
  inventory : b.context.inventory = inv
  index : b.context.index = none ∨ b.context.index = some inv.files
  reader : tools.reader = readText
  formatter : Reliable tools.formatter
  ids : ∀ n, Text.isPlain (tools.env.ids n) = true
  scanned : ∃ base, Scanned base tools.settings.inputRoot [] inv
  directories : ∀ names, names = [] ∨ names ∈ directoriesAt [] inv →
    b.files.locate (tools.settings.outputRoot.join ⟨.relative, names⟩) = .ok (out ++ names) ∧
      b.files.get? (out ++ names) = some .directory
  unlinked : ∀ place ∈ filesAt [] inv, ∀ target, b.files.get? (out ++ place.1) ≠ some (.link target)
  sources : ∀ place ∈ filesAt [] inv, ∃ src,
    b.files.locate (tools.settings.inputRoot.join ⟨.relative, place.1⟩) = .ok src ∧
      (∀ other ∈ filesAt [] inv, src ≠ out ++ other.1) ∧ b.logPlace ≠ some src
  log : ∀ at_, b.logPlace = some at_ →
    (∀ place ∈ filesAt [] inv, at_ ≠ out ++ place.1) ∧ ∀ name ∈ at_.getLast?, isHidden name = false
  workable : ∀ place ∈ filesAt [] inv, Workable tools b place.1 place.2

variable {tools : Tools} {inv : Inventory} {out : Location} {b now : RunState}
  {place : List String × FileNode}

/-! ## The paths of a file -/

namespace Ground

theorem eq_of_names (h : Ground tools inv out b) {other : List String × FileNode}
    (hmem : place ∈ filesAt [] inv) (hother : other ∈ filesAt [] inv) (heq : other.1 = place.1) :
    other = place := by
  obtain ⟨base, hscan⟩ := h.scanned
  exact List.inj_on_of_nodup_map (List.nodup_append.mp hscan.nodup_placesAt).2.1 hother hmem heq

theorem fullPath (h : Ground tools inv out b) (hmem : place ∈ filesAt [] inv) :
    place.2.fullPath = .str ("/".intercalate place.1) ∧
      Path.ofText ("/".intercalate place.1) = ⟨.relative, place.1⟩ := by
  obtain ⟨base, hscan⟩ := h.scanned
  exact ⟨(hscan.of_mem_filesAt hmem).1, Path.ofText_intercalate (hscan.isProper hmem)⟩

/-- The names of a file end with one that is not hidden and does not lead up. -/
theorem exists_name (h : Ground tools inv out b) (hmem : place ∈ filesAt [] inv) :
    ∃ front name, place.1 = front ++ [name] ∧ isHidden name = false ∧ name ≠ ".." ∧
      (front = [] ∨ front ∈ directoriesAt [] inv) := by
  obtain ⟨base, hscan⟩ := h.scanned
  obtain ⟨⟨front, name, hnames, hshown⟩, -⟩ := hscan.shown_of_mem_filesAt hmem
  have hparent := hscan.dropLast_mem (mem_placesAt hmem)
  rw [hnames, List.dropLast_concat] at hparent
  refine ⟨front, name, hnames, hshown, ?_, hparent⟩
  rintro rfl
  have hproper := List.all_eq_true.mp (hscan.isProper hmem) ".." (by rw [hnames]; simp)
  exact absurd hproper (by decide)

theorem componentsFor (h : Ground tools inv out b) (hmem : place ∈ filesAt [] inv)
    {context : RunContext} (hinventory : context.inventory = inv)
    (hindex : context.index = none ∨ context.index = some inv.files) :
    context.componentsFor (.str ("/".intercalate place.1)) =
      .ok (place.2.components, { context with index := some inv.files }) := by
  obtain ⟨base, hscan⟩ := h.scanned
  have hkeys : (inv.files.find? fun f => !f.fullPath.isKey) = none := by
    refine List.find?_eq_none.mpr fun f hf => ?_
    rw [Inventory.files_eq []] at hf
    obtain ⟨other, hother, rfl⟩ := List.mem_map.mp hf
    rw [(h.fullPath hother).1]
    simp [Json.isKey]
  have hindexed : context.indexed = .ok inv.files := by
    rw [RunContext.indexed, RunContext.files, hinventory]
    rcases hindex with hnone | hsome
    · rw [hnone, hkeys]
    · rw [hsome]
  have hfound : ∃ components, context.componentsFor (.str ("/".intercalate place.1)) =
      .ok (components, { context with index := some inv.files }) := by
    rw [RunContext.componentsFor, RunContext.findFile, hindexed]
    exact ⟨_, rfl⟩
  obtain ⟨components, hcomponents⟩ := hfound
  rw [hcomponents, (componentsFor_eq hscan hmem hinventory hindex hcomponents).1]

end Ground

/-- The locations that a file must not depend on: the destinations of the others and the log file. -/
def Others (inv : Inventory) (out : Location) (b : RunState) (names : List String)
    (loc : Location) : Prop :=
  (∃ other ∈ filesAt [] inv, other.1 ≠ names ∧ loc = out ++ other.1) ∨ b.logPlace = some loc

/-- The name of a temporary file is hidden. -/
theorem isHidden_temporaryName (name : String) (n : Nat) :
    isHidden (temporaryName name n) = true := by
  rw [isHidden, String.startsWith_string_iff, temporaryName]
  simp [toString, String.toList_append]

theorem name_join (root : Path) (front : List String) (name : String) :
    (root.join ⟨.relative, front ++ [name]⟩).name = name := by
  simp [Path.join, Path.isAbsolute, Path.name]

/-- A name leads from the directory of the names before it. -/
theorem beside_join {fs : FileSystem} {root : Path} {front : List String} {name : String}
    {dir : Location} (hname : name ≠ "..")
    (hlocate : fs.locate (root.join ⟨.relative, front⟩) = .ok dir)
    (hdir : fs.get? dir = some .directory) :
    Beside fs (root.join ⟨.relative, front ++ [name]⟩) dir := by
  refine ⟨?_, ?_, ?_, hdir⟩
  · rw [join_relative]
    simp
  · rwa [name_join]
  · have hpath : (root.join ⟨.relative, front ++ [name]⟩).parent = root.join ⟨.relative, front⟩ := by
      rw [join_relative, join_relative, Path.parent]
      simp only [← List.append_assoc, List.dropLast_concat]
    rwa [hpath]

namespace Ground

/-- The directory of a destination is there. -/
theorem beside (h : Ground tools inv out b) (hmem : place ∈ filesAt [] inv) :
    Beside b.files (tools.settings.outputRoot.join ⟨.relative, place.1⟩) (out ++ place.1.dropLast) := by
  obtain ⟨front, name, hnames, -, hup, hparent⟩ := h.exists_name hmem
  obtain ⟨hlocate, hdir⟩ := h.directories front hparent
  rw [hnames, List.dropLast_concat]
  exact beside_join hup hlocate hdir

/-- A destination is at its names below the output root. -/
theorem destination_eq (h : Ground tools inv out b) (hmem : place ∈ filesAt [] inv) :
    out ++ place.1.dropLast ++ [(tools.settings.outputRoot.join ⟨.relative, place.1⟩).name] =
      out ++ place.1 := by
  obtain ⟨front, name, hnames, -⟩ := h.exists_name hmem
  rw [hnames, List.dropLast_concat, name_join, List.append_assoc]

/-- The log file is not where a file is put. -/
theorem landing?_ne (h : Ground tools inv out b) (hmem : place ∈ filesAt [] inv) {s : RunState}
    (hbeside : Beside s.files (tools.settings.outputRoot.join ⟨.relative, place.1⟩)
      (out ++ place.1.dropLast))
    (hplace : s.logPlace = b.logPlace) (at_ : Location) (hlogged : s.logPlace = some at_) :
    landing? s.files (tools.settings.outputRoot.join ⟨.relative, place.1⟩) ≠ some at_ := by
  intro hat
  refine (h.log at_ (hplace ▸ hlogged)).1 place hmem ?_
  rw [eq_of_landing?_beside (h.workable place hmem).destination hbeside hat, h.destination_eq hmem]

/-- A file does not look at the destinations of the others, nor at the log file. -/
theorem visible (h : Ground tools inv out b) (hmem : place ∈ filesAt [] inv) {src : Location}
    (hsrc : b.files.locate (tools.settings.inputRoot.join ⟨.relative, place.1⟩) = .ok src) :
    Visible (Others inv out b place.1) (tools.settings.outputRoot.join ⟨.relative, place.1⟩)
      (out ++ place.1.dropLast) src := by
  refine ⟨fun home n => ?_, ?_, ?_⟩
  · rintro (⟨other, hother, -, heq⟩ | hlog)
    · obtain ⟨front, name, hnames, hshown, -⟩ := h.exists_name hother
      rw [hnames, ← List.append_assoc] at heq
      have hlast := (List.append_inj' heq rfl).2
      rw [← (List.cons.inj hlast).1, isHidden_temporaryName] at hshown
      cases hshown
    · have hshown := (h.log _ hlog).2 _ List.getLast?_concat
      rw [isHidden_temporaryName] at hshown
      cases hshown
  · rw [h.destination_eq hmem]
    rintro (⟨other, -, hne, heq⟩ | hlog)
    · exact hne (List.append_cancel_left heq).symm
    · exact (h.log _ hlog).1 place hmem rfl
  · obtain ⟨src', hsrc', hapart, hlog⟩ := h.sources place hmem
    rw [hsrc] at hsrc'
    cases hsrc'
    rintro (⟨other, hother, -, heq⟩ | hplace)
    · exact hapart other hother heq
    · exact hlog hplace

end Ground

/-! ## Writing a file -/

/-- What a run knows besides the files and the log is the same. -/
structure SameSide (s s' : RunState) : Prop where
  context : s'.context = s.context
  events : s'.events = s.events
  drawn : s'.drawn = s.drawn

theorem settle_sameSide (env : Environment) (rel : String) (t : Trouble) (s : RunState) :
    SameSide s (settle env rel t s).2 := by
  cases t with
  | failure f => exact ⟨rfl, rfl, rfl⟩
  | fault fault => exact ⟨rfl, rfl, rfl⟩

theorem settle_congr (env : Environment) (rel : String) (t : Trouble) (s s' : RunState) :
    (settle env rel t s).1 = (settle env rel t s').1 := by
  cases t <;> rfl

/-- The operations that write a file from a source to a destination. -/
inductive Saves (source destination : Path) : AccessM Unit → Prop where
  | copy : Saves source destination (copyFile source destination)
  | write (data : String) : Saves source destination (writeFile destination data (some source))

/-- A step that writes a file: the system refuses, or the file is written and has an outcome. -/
structure Storing (tools : Tools) (rel : String) (source destination : Path) (m : AccessM Unit)
    (store : RunState → Except Fault FileOutcome × RunState) : Prop where
  saves : Saves source destination m
  refused : ∀ s t fs, s.sink = .disk → m.run.run s.files = (.error t, fs) →
    store s = settle tools.env rel t { s with files := fs }
  written : ∃ o : FileOutcome, o.path = rel ∧ o.status.isWritten = true ∧
    ∀ s fs, s.sink = .disk → m.run.run s.files = (.ok (), fs) →
      ∃ s', store s = (.ok o, s') ∧ (s.landed destination fs).OnlyLogs s' ∧ SameSide s s'

section Storing

variable {rel : String} {source destination : Path} {m : AccessM Unit}
  {store : RunState → Except Fault FileOutcome × RunState} {s s' : RunState}

theorem copyOne_storing (tools : Tools) (rel : String) (source destination : Path) :
    Storing tools rel source destination (copyFile source destination)
      (copyOne tools rel source destination) := by
  refine ⟨.copy, fun s t fs hsink hrun => ?_, ⟨rel, .copied, ""⟩, rfl, rfl, fun s fs hsink hrun => ?_⟩
  · rw [copyOne, RunState.copyFile, RunState.intoSink_of_disk hsink, RunState.putFile, hrun]
  · refine ⟨_, ?_, .refl _, rfl, rfl, rfl⟩
    rw [copyOne, RunState.copyFile, RunState.intoSink_of_disk hsink, RunState.putFile, hrun]

theorem write_storing (tools : Tools) (rel : String) (source destination : Path) {p : Prepared}
    (h : Presentable p.text p.missing) :
    Storing tools rel source destination (writeFile destination p.text (some source))
      (write tools rel source destination p) := by
  obtain ⟨o, ho, hpath⟩ := instrumented_eq_ok rel h.names
  have hwritten : o.status.isWritten = true := by
    rw [instrumented_status ho]
    rfl
  refine ⟨.write _, fun s t fs hsink hrun => ?_, o, hpath, hwritten, fun s fs hsink hrun => ?_⟩
  · rw [write, RunState.writeFile, RunState.intoSink_of_disk hsink, RunState.putFile, hrun]
  · refine ⟨(s.landed destination fs).note tools.env
      ⟨.debug, logger, s!"Instrumented {rel} ({p.edits} edits)"⟩, ?_, .note _ _ _, rfl, rfl, rfl⟩
    rw [write, RunState.writeFile, RunState.intoSink_of_disk hsink, RunState.putFile, hrun, ho]

/-- After a file was written that does not take the place of the log file, only the log is. -/
theorem Storing.onlyLogs (h : Storing tools rel source destination m store) (hsink : s.sink = .disk)
    (hapart : ∀ at_, s.logPlace = some at_ → landing? s.files destination ≠ some at_) :
    RunState.OnlyLogs { s with files := (m.run.run s.files).2 } (store s).2 ∧ SameSide s (store s).2 := by
  obtain ⟨o, -, -, hwritten⟩ := h.written
  rcases hrun : m.run.run s.files with ⟨t | ⟨⟨⟩⟩, fs⟩
  · rw [h.refused s t fs hsink hrun]
    obtain ⟨hcontext, hevents, hdrawn⟩ := settle_sameSide tools.env rel t { s with files := fs }
    exact ⟨settle_onlyLogs _ _ _ _, hcontext, hevents, hdrawn⟩
  · obtain ⟨s', hstore, hquiet, hside⟩ := hwritten s fs hsink hrun
    rw [RunState.landed_of_ne fs hapart] at hquiet
    rw [hstore]
    exact ⟨hquiet, hside⟩

/-- The outcome of a file that is written depends on what the system answers only, and not on the reasons that
it gives. -/
theorem Storing.congr (h : Storing tools rel source destination m store) (hsink : s.sink = .disk)
    (hsink' : s'.sink = .disk) (hsame : SameReport (m.run.run s.files).1 (m.run.run s'.files).1) :
    (store s').1 = (store s).1 := by
  obtain ⟨o, -, -, hwritten⟩ := h.written
  rcases hrun : m.run.run s.files with ⟨r, fs⟩
  rcases hrun' : m.run.run s'.files with ⟨r', fs'⟩
  rw [hrun, hrun'] at hsame
  rcases hsame with heq | ⟨f, f', heq, heq', hmessage⟩
  · obtain rfl : r' = r := heq
    cases r' with
    | error t =>
      rw [h.refused s t fs hsink hrun, h.refused s' t fs' hsink' hrun']
      exact settle_congr _ _ _ _ _
    | ok =>
      obtain ⟨_, hstore, -⟩ := hwritten s fs hsink hrun
      obtain ⟨_, hstore', -⟩ := hwritten s' fs' hsink' hrun'
      rw [hstore, hstore']
  · obtain rfl : r = .error (.failure f) := heq
    obtain rfl : r' = .error (.failure f') := heq'
    rw [h.refused s _ fs hsink hrun, h.refused s' _ fs' hsink' hrun', settle, settle, hmessage]

/-- A file has an outcome if the system answers: it was written, or it failed. -/
theorem Storing.cases_outcome (h : Storing tools rel source destination m store)
    (hsink : s.sink = .disk) {o : FileOutcome} (ho : (store s).1 = .ok o) :
    o.path = rel ∧ ((o.status.isWritten = true ∧ (m.run.run s.files).1 = .ok ()) ∨
      (o.status = .failed ∧ ∃ f, (m.run.run s.files).1 = .error (.failure f))) := by
  obtain ⟨o', hpath, hstatus, hwritten⟩ := h.written
  rcases hrun : m.run.run s.files with ⟨t | ⟨⟨⟩⟩, fs⟩
  · rw [h.refused s t fs hsink hrun] at ho
    cases t with
    | failure f =>
      cases ho
      exact ⟨rfl, .inr ⟨rfl, f, rfl⟩⟩
    | fault fault => cases ho
  · obtain ⟨_, hstore, -⟩ := hwritten s fs hsink hrun
    rw [hstore] at ho
    cases ho
    exact ⟨hpath, .inl ⟨hstatus, rfl⟩⟩

/-- Files that agree are written in the same way. -/
theorem Saves.echoes (h : Saves source destination m) {hidden : Location → Prop} {fs fs' : FileSystem}
    {dir src : Location} (hagree : Agree hidden fs fs') (hfault : pathFault? destination = none)
    (hbeside : Beside fs destination dir) (hvisible : Visible hidden destination dir src)
    (hsource : fs.locate source = .ok src)
    (hlink : ∀ target, fs.get? (dir ++ [destination.name]) ≠ some (.link target)) :
    Echoes hidden m fs fs' := by
  cases h with
  | copy => exact echoes_copyFile hagree hfault hbeside hvisible hsource
  | write data => exact echoes_writeFile hagree hfault hbeside hvisible hsource hlink data

theorem Saves.workDir (h : Saves source destination m) (fs : FileSystem) :
    (m.run.run fs).2.workDir = fs.workDir := by
  have hlands : Lands fs destination (m.run.run fs).2 := by
    cases h with
    | copy => exact copyFile_lands source destination fs
    | write data => exact writeFile_lands destination data (some source) fs
  cases hlands with
  | refused hgrows => exact hgrows.workDir
  | written hgrows _ _ hworkDir _ => exact hworkDir.trans hgrows.workDir

theorem Saves.stored (h : Saves source destination m) {fs : FileSystem} {dir : Location}
    (hfault : pathFault? destination = none) (hbeside : Beside fs destination dir) :
    Stored fs (dir ++ [destination.name]) (m.run.run fs).2 (m.run.run fs).1 := by
  cases h with
  | copy => exact copyFile_stored hfault hbeside
  | write data => exact writeFile_stored hfault hbeside data

end Storing

/-! ## A file on its own -/

/-- What reading and instrumenting a file yields, and the number of ids that were drawn then. -/
def drafted (tools : Tools) (b : RunState) (place : List String × FileNode) (drawn : Nat) :
    Except Trouble Instrument.Instrumented × Nat :=
  match readText b.files (tools.settings.inputRoot.join ⟨.relative, place.1⟩) with
  | .error t => (.error t, drawn)
  | .ok text =>
    match Instrument.instrumentSource tools.env.workerRoom tools.env.parse tools.env.ids text
        place.2.components (some ("/".intercalate place.1)) drawn with
    | .error e => (.error e.trouble, drawn)
    | .ok (result, drawn, _) => (.ok result, drawn)

/-- What becomes of a file that is dealt with before all others. The formatter may have looked at the files
at another time. -/
def alone (tools : Tools) (seen : FileSystem) (b : RunState) (place : List String × FileNode)
    (drawn : Nat) : Except Fault FileOutcome × RunState :=
  let rel := "/".intercalate place.1
  let source := tools.settings.inputRoot.join ⟨.relative, place.1⟩
  let destination := tools.settings.outputRoot.join ⟨.relative, place.1⟩
  if b.context.cancelled then (.ok ⟨rel, .cancelled, ""⟩, b)
  else if !place.2.shouldInstrument then copyOne tools rel source destination b
  else
    match (drafted tools b place drawn).1 with
    | .error t => settle tools.env rel t b
    | .ok result =>
      match (tools.formatter seen result.text destination).result with
      | .error t => settle tools.env rel t b
      | .ok text => write tools rel source destination ⟨text, result.edits, result.missing⟩ b

/-- The number of ids that were drawn once a file was dealt with. -/
def drawnAfter (tools : Tools) (b : RunState) (place : List String × FileNode) (drawn : Nat) : Nat :=
  if b.context.cancelled || !place.2.shouldInstrument then drawn else (drafted tools b place drawn).2

theorem alone_of_cancelled (tools : Tools) (seen : FileSystem) (drawn : Nat)
    (hearly : b.context.cancelled = true) :
    alone tools seen b place drawn = (.ok ⟨"/".intercalate place.1, .cancelled, ""⟩, b) := by
  rw [alone, hearly]
  rfl

theorem alone_of_copied (tools : Tools) (seen : FileSystem) (drawn : Nat)
    (hearly : b.context.cancelled = false) (hcopied : place.2.shouldInstrument = false) :
    alone tools seen b place drawn = copyOne tools ("/".intercalate place.1)
      (tools.settings.inputRoot.join ⟨.relative, place.1⟩)
      (tools.settings.outputRoot.join ⟨.relative, place.1⟩) b := by
  rw [alone, hearly, hcopied]
  rfl

theorem alone_of_undrafted (seen : FileSystem) {drawn : Nat} {t : Trouble}
    (hearly : b.context.cancelled = false) (hinstrument : place.2.shouldInstrument = true)
    (hdraft : (drafted tools b place drawn).1 = .error t) :
    alone tools seen b place drawn = settle tools.env ("/".intercalate place.1) t b := by
  rw [alone, hearly, hinstrument, hdraft]
  rfl

theorem alone_of_unformatted {seen : FileSystem} {drawn : Nat} {result : Instrument.Instrumented}
    {t : Trouble} (hearly : b.context.cancelled = false) (hinstrument : place.2.shouldInstrument = true)
    (hdraft : (drafted tools b place drawn).1 = .ok result)
    (hformat : (tools.formatter seen result.text
      (tools.settings.outputRoot.join ⟨.relative, place.1⟩)).result = .error t) :
    alone tools seen b place drawn = settle tools.env ("/".intercalate place.1) t b := by
  rw [alone, hearly, hinstrument, hdraft]
  dsimp only
  rw [hformat]
  rfl

theorem alone_of_formatted {seen : FileSystem} {drawn : Nat} {result : Instrument.Instrumented}
    {text : String} (hearly : b.context.cancelled = false) (hinstrument : place.2.shouldInstrument = true)
    (hdraft : (drafted tools b place drawn).1 = .ok result)
    (hformat : (tools.formatter seen result.text
      (tools.settings.outputRoot.join ⟨.relative, place.1⟩)).result = .ok text) :
    alone tools seen b place drawn = write tools ("/".intercalate place.1)
      (tools.settings.inputRoot.join ⟨.relative, place.1⟩)
      (tools.settings.outputRoot.join ⟨.relative, place.1⟩) ⟨text, result.edits, result.missing⟩ b := by
  rw [alone, hearly, hinstrument, hdraft]
  dsimp only
  rw [hformat]
  rfl

theorem drawnAfter_of_instrumented (tools : Tools) (drawn : Nat)
    (hearly : b.context.cancelled = false) (hinstrument : place.2.shouldInstrument = true) :
    drawnAfter tools b place drawn = (drafted tools b place drawn).2 := by
  rw [drawnAfter, hearly, hinstrument]
  rfl

theorem drafted_cases (h : Ground tools inv out b) (hmem : place ∈ filesAt [] inv)
    (hinstrument : place.2.shouldInstrument = true) (drawn : Nat) :
    (∃ f, (drafted tools b place drawn).1 = .error (.failure f)) ∨
    ∃ result, (drafted tools b place drawn).1 = .ok result ∧
      Presentable result.text result.missing := by
  obtain ⟨base, hscan⟩ := h.scanned
  obtain ⟨src, hsrc, -⟩ := h.sources place hmem
  have hfits : b.files.Fits (tools.settings.inputRoot.join ⟨.relative, place.1⟩) := by
    intro hlong
    rw [FileSystem.stat_eq_tooLong, hsrc] at hlong
    cases hlong
  rw [drafted]
  rcases readText_cases hfits with ⟨f, hread⟩ | ⟨text, hread⟩
  · rw [hread]
    exact .inl ⟨f, rfl⟩
  · obtain ⟨hplain, htree⟩ := (h.workable place hmem).text hinstrument text hread
    rw [hread]
    dsimp only
    rcases Instrument.instrumentSource_cases hplain h.ids (hscan.shown_of_mem_filesAt hmem).2 htree
      drawn with ⟨fault, hrun⟩ | ⟨result, drawn, log, hrun, hresult, hmissing⟩
    · rw [hrun]
      exact .inl ⟨_, rfl⟩
    · rw [hrun]
      exact .inr ⟨result, rfl, hresult, hmissing⟩

/-- Logging does not reach the destinations. -/
theorem Ground.get?_of_onlyLogs (h : Ground tools inv out b) (hmem : place ∈ filesAt [] inv)
    {s s' : RunState} (hquiet : s.OnlyLogs s') (hplace : s.logPlace = b.logPlace) :
    s'.files.get? (out ++ place.1) = s.files.get? (out ++ place.1) :=
  hquiet.elsewhere _ fun hlogged => (h.log _ (hplace ▸ hlogged)).1 place hmem rfl

/-- How a file ends: cancelled, if the run was, or written, or failed, and then its destination is as it
was. -/
inductive Ends (out : Location) (b : RunState) (place : List String × FileNode) (o : FileOutcome)
    (s : RunState) : Prop where
  | cancelled (hcancelled : b.context.cancelled = true) (hstatus : o.status = .cancelled)
      (hsame : s.files.get? (out ++ place.1) = b.files.get? (out ++ place.1))
  | written (hcancelled : b.context.cancelled = false) (hstatus : o.status.isWritten = true)
  | failed (hcancelled : b.context.cancelled = false) (hstatus : o.status = .failed)
      (hsame : s.files.get? (out ++ place.1) = b.files.get? (out ++ place.1))

/-- A file that is written to its destination, or not, is written or failed. -/
theorem Storing.ends {store : RunState → Except Fault FileOutcome × RunState} {m : AccessM Unit}
    (h : Ground tools inv out b) (hmem : place ∈ filesAt [] inv)
    (hcancelled : b.context.cancelled = false)
    (hstoring : Storing tools ("/".intercalate place.1)
      (tools.settings.inputRoot.join ⟨.relative, place.1⟩)
      (tools.settings.outputRoot.join ⟨.relative, place.1⟩) m store)
    {o : FileOutcome} (ho : (store b).1 = .ok o) : Ends out b place o (store b).2 := by
  obtain ⟨-, ⟨hwritten, -⟩ | ⟨hfailed, f, hresult⟩⟩ := hstoring.cases_outcome h.sink ho
  · exact .written hcancelled hwritten
  · refine .failed hcancelled hfailed ?_
    have hstored := hstoring.saves.stored (h.workable place hmem).destination (h.beside hmem)
    rw [h.get?_of_onlyLogs hmem (hstoring.onlyLogs h.sink (h.landing?_ne hmem (h.beside hmem) rfl)).1 rfl]
    rw [hresult] at hstored
    cases hstored with
    | refused _ hfiles => exact hfiles _

theorem settle_ends (h : Ground tools inv out b) (hmem : place ∈ filesAt [] inv)
    (hcancelled : b.context.cancelled = false)
    (rel : String) (f : Failure) :
    ∃ o, (settle tools.env rel (.failure f) b).1 = .ok o ∧ o.path = rel ∧
      Ends out b place o (settle tools.env rel (.failure f) b).2 :=
  ⟨⟨rel, .failed, f.message⟩, rfl, rfl, .failed hcancelled rfl
    (h.get?_of_onlyLogs hmem (settle_onlyLogs _ _ _ _) rfl)⟩

/-- A file by itself has an outcome. -/
theorem alone_ends (h : Ground tools inv out b) (hmem : place ∈ filesAt [] inv) (seen : FileSystem)
    (drawn : Nat) :
    ∃ o, (alone tools seen b place drawn).1 = .ok o ∧ o.path = "/".intercalate place.1 ∧
      Ends out b place o (alone tools seen b place drawn).2 := by
  obtain ⟨hsource, hdestination, hfits, -⟩ := h.workable place hmem
  cases hcancelled : b.context.cancelled with
  | true =>
    rw [alone_of_cancelled tools seen drawn hcancelled]
    exact ⟨_, rfl, rfl, .cancelled hcancelled rfl rfl⟩
  | false =>
    cases hinstrument : place.2.shouldInstrument with
    | false =>
      rw [alone_of_copied tools seen drawn hcancelled hinstrument]
      obtain ⟨o, ho, hpath⟩ := copyOne_returns tools ("/".intercalate place.1) h.sink hsource
        hdestination
      exact ⟨o, ho, hpath, (copyOne_storing tools _ _ _).ends h hmem hcancelled ho⟩
    | true =>
      rcases drafted_cases h hmem hinstrument drawn with ⟨f, hfails⟩ | ⟨result, hresult, hpresentable⟩
      · rw [alone_of_undrafted seen hcancelled hinstrument hfails]
        exact settle_ends h hmem hcancelled _ f
      · rcases h.formatter.answers seen result.text
          (tools.settings.outputRoot.join ⟨.relative, place.1⟩) hpresentable.plain with
          ⟨f, hfails⟩ | ⟨text, hanswer, hplain⟩
        · rw [alone_of_unformatted hcancelled hinstrument hresult hfails]
          exact settle_ends h hmem hcancelled _ f
        · rw [alone_of_formatted hcancelled hinstrument hresult hanswer]
          have hready : Presentable text result.missing := ⟨hplain, hpresentable.names⟩
          obtain ⟨o, ho, hpath⟩ := write_returns tools ("/".intercalate place.1)
            (p := ⟨text, result.edits, result.missing⟩) h.sink hsource hdestination
            (hfits hinstrument) hready
          exact ⟨o, ho, hpath, (write_storing tools _ _ _ hready).ends h hmem hcancelled ho⟩

/-- Formatting a file changes nothing. -/
theorem Reliable.polish (h : Reliable tools.formatter) (destination : Path)
    (result : Instrument.Instrumented) (s : RunState) :
    polish tools destination result s =
      ((tools.formatter s.files result.text destination).result.map
        fun text => ⟨text, result.edits, result.missing⟩, s) := by
  rw [Emit.polish, h.calm]
  rfl

/-! ## Files among others -/

/-- Two contexts agree in what a run found out before it emits files. -/
structure Alike (c c' : RunContext) : Prop where
  inventory : c'.inventory = c.inventory
  scanFailures : c'.scanFailures = c.scanFailures
  rootFiles : c'.rootFiles = c.rootFiles
  index : c'.index = c.index ∨ c'.index = some c.inventory.files

theorem Alike.refl (c : RunContext) : Alike c c := ⟨rfl, rfl, rfl, .inl rfl⟩

theorem Alike.trans {c c' c'' : RunContext} (h : Alike c c') (h' : Alike c' c'') : Alike c c'' := by
  refine ⟨h'.inventory.trans h.inventory, h'.scanFailures.trans h.scanFailures,
    h'.rootFiles.trans h.rootFiles, ?_⟩
  rcases h'.index with heq | heq
  · rw [heq]
    exact h.index
  · rw [heq, h.inventory]
    exact .inr rfl

theorem Alike.cancel (c : RunContext) : Alike c c.cancel := ⟨rfl, rfl, rfl, .inl rfl⟩

/-- At some moment of an emission nothing has changed but the destinations of files and the log file. -/
structure World (inv : Inventory) (out : Location) (b now : RunState) : Prop where
  sink : now.sink = .disk
  logPlace : now.logPlace = b.logPlace
  workDir : now.files.workDir = b.files.workDir
  logsTo : now.LogsTo now.files
  context : Alike b.context now.context
  elsewhere : ∀ loc, ¬ Destination inv out loc → b.logPlace ≠ some loc →
    now.files.get? loc = b.files.get? loc
  destinations : ∀ place ∈ filesAt [] inv,
    now.files.get? (out ++ place.1) = b.files.get? (out ++ place.1) ∨
      (Plain (b.files.get? (out ++ place.1)) ∧ Plain (now.files.get? (out ++ place.1)))

/-- A step of an emission that touches at most the destination with the given names. -/
structure Passes (inv : Inventory) (out : Location) (b : RunState) (names : List String)
    (now now' : RunState) : Prop where
  world : World inv out b now'
  others : ∀ place ∈ filesAt [] inv, place.1 ≠ names →
    now'.files.get? (out ++ place.1) = now.files.get? (out ++ place.1)
  events : now'.events = now.events
  cancelled : now'.context.cancelled = now.context.cancelled

theorem Passes.trans {names : List String} {mid now' : RunState} (h : Passes inv out b names now mid)
    (h' : Passes inv out b names mid now') : Passes inv out b names now now' :=
  ⟨h'.world, fun place hmem hne => (h'.others place hmem hne).trans (h.others place hmem hne),
    h'.events.trans h.events, h'.cancelled.trans h.cancelled⟩

/-- A file ends like another time, when nothing had been emitted yet. -/
structure Repeats (inv : Inventory) (out : Location) (b : RunState) (names : List String)
    (now : RunState) (result first : Except Fault FileOutcome × RunState) : Prop where
  outcome : result.1 = first.1
  destination : result.2.files.get? (out ++ names) = first.2.files.get? (out ++ names)
  passes : Passes inv out b names now result.2

theorem Repeats.after {names : List String} {mid : RunState}
    {result first : Except Fault FileOutcome × RunState} (h : Repeats inv out b names mid result first)
    (hpasses : Passes inv out b names now mid) : Repeats inv out b names now result first :=
  ⟨h.outcome, h.destination, hpasses.trans h.passes⟩

namespace World

theorem refl (h : Ground tools inv out b) (drawn : Nat) : World inv out b { b with drawn } :=
  ⟨h.sink, rfl, rfl, h.logsTo, .refl _, fun _ _ _ => rfl, fun _ _ => .inl rfl⟩

theorem index (hw : World inv out b now) (h : Ground tools inv out b) :
    now.context.index = none ∨ now.context.index = some inv.files := by
  rcases hw.context.index with heq | heq
  · rw [heq]
    exact h.index
  · rw [heq, h.inventory]
    exact .inr rfl

/-- A file whose destination has not changed finds everything as it was. -/
theorem agree (hw : World inv out b now) (h : Ground tools inv out b)
    (hsame : now.files.get? (out ++ place.1) = b.files.get? (out ++ place.1)) :
    Agree (Others inv out b place.1) b.files now.files := by
  refine ⟨hw.workDir, fun loc => ?_⟩
  by_cases hlog : b.logPlace = some loc
  · obtain ⟨mode, old, hold⟩ := h.logsTo loc hlog
    obtain ⟨mode', new, hnew⟩ := hw.logsTo loc (hw.logPlace.trans hlog)
    rw [hold, hnew]
    exact .inr ⟨.inr hlog, FileSystem.plain_file _ _, FileSystem.plain_file _ _⟩
  · by_cases hdestination : Destination inv out loc
    · obtain ⟨other, hother, rfl⟩ := hdestination
      by_cases hself : other.1 = place.1
      · rw [hself]
        exact .inl hsame
      · exact (hw.destinations other hother).imp_right fun hplain =>
          ⟨.inl ⟨other, hother, hself, rfl⟩, hplain⟩
    · exact .inl (hw.elsewhere loc hdestination hlog)

/-- Logging touches nothing. -/
theorem of_onlyLogs {now' : RunState} (hw : World inv out b now) (h : Ground tools inv out b)
    (hquiet : now.OnlyLogs now') (hcontext : Alike b.context now'.context) : World inv out b now' := by
  refine ⟨hquiet.sink.trans hw.sink, hquiet.logPlace_eq.trans hw.logPlace,
    hquiet.workDir.trans hw.workDir, fun loc hloc => ?_, hcontext, fun loc hother hlog => ?_,
    fun place hmem => ?_⟩
  · rw [hquiet.logPlace_eq] at hloc
    obtain ⟨mode, old, hold⟩ := hw.logsTo loc hloc
    obtain ⟨added, hnew⟩ := hquiet.appended loc mode old hold
    exact ⟨mode, old ++ added, hnew⟩
  · rw [hquiet.elsewhere loc (hw.logPlace ▸ hlog)]
    exact hw.elsewhere loc hother hlog
  · rw [h.get?_of_onlyLogs hmem hquiet hw.logPlace]
    exact hw.destinations place hmem

theorem passes {now' : RunState} (hw : World inv out b now) (h : Ground tools inv out b)
    (hquiet : now.OnlyLogs now') (hcontext : Alike b.context now'.context)
    (hevents : now'.events = now.events)
    (hcancelled : now'.context.cancelled = now.context.cancelled) (names : List String) :
    Passes inv out b names now now' :=
  ⟨hw.of_onlyLogs h hquiet hcontext,
    fun _ hmem _ => h.get?_of_onlyLogs hmem hquiet hw.logPlace, hevents, hcancelled⟩

theorem settle (hw : World inv out b now) (h : Ground tools inv out b) (hmem : place ∈ filesAt [] inv)
    (hsame : now.files.get? (out ++ place.1) = b.files.get? (out ++ place.1)) (rel : String)
    (t : Trouble) :
    Repeats inv out b place.1 now (settle tools.env rel t now) (settle tools.env rel t b) := by
  have hside := settle_sameSide tools.env rel t now
  refine ⟨settle_congr _ _ _ _ _, ?_, ?_⟩
  · rw [h.get?_of_onlyLogs hmem (settle_onlyLogs _ _ _ _) hw.logPlace,
      h.get?_of_onlyLogs hmem (settle_onlyLogs _ _ _ _) rfl, hsame]
  · refine hw.passes h (settle_onlyLogs _ _ _ _) ?_ hside.events ?_ place.1
    · rw [hside.context]
      exact hw.context
    · rw [hside.context]

/-- A file is instrumented as if it were the first. -/
theorem draft (hw : World inv out b now) (h : Ground tools inv out b) (hmem : place ∈ filesAt [] inv)
    (hsame : now.files.get? (out ++ place.1) = b.files.get? (out ++ place.1)) :
    ∃ s', draft tools ("/".intercalate place.1)
        (tools.settings.inputRoot.join ⟨.relative, place.1⟩) now =
          ((drafted tools b place now.drawn).1, s') ∧
      s'.drawn = (drafted tools b place now.drawn).2 ∧ Passes inv out b place.1 now s' ∧
      now.OnlyLogs s' := by
  obtain ⟨src, hsrc, -⟩ := h.sources place hmem
  have hquiet := draft_onlyLogs tools ("/".intercalate place.1)
    (tools.settings.inputRoot.join ⟨.relative, place.1⟩) now
  have hread : tools.reader now.files (tools.settings.inputRoot.join ⟨.relative, place.1⟩) =
      readText b.files (tools.settings.inputRoot.join ⟨.relative, place.1⟩) := by
    rw [h.reader]
    exact (hw.agree h hsame).readText hsrc (h.visible hmem hsrc).source
  have hcomponents := h.componentsFor hmem (hw.context.inventory.trans h.inventory) (hw.index h)
  have halike : Alike b.context { now.context with index := some inv.files } :=
    ⟨hw.context.inventory, hw.context.scanFailures, hw.context.rootFiles, .inr (by rw [h.inventory])⟩
  -- the states that `hquiet` speaks of are known only once the cases below are split
  revert hquiet
  rw [Emit.draft, drafted]
  dsimp only
  rw [hread]
  cases readText b.files (tools.settings.inputRoot.join ⟨.relative, place.1⟩) with
  | error t =>
    exact fun hquiet => ⟨_, rfl, rfl, hw.passes h hquiet hw.context rfl rfl _, hquiet⟩
  | ok text =>
    dsimp only
    rw [hcomponents]
    dsimp only
    cases Instrument.instrumentSource tools.env.workerRoom tools.env.parse tools.env.ids text
        place.2.components (some ("/".intercalate place.1)) now.drawn with
    | error e => exact fun hquiet => ⟨_, rfl, rfl, hw.passes h hquiet halike rfl rfl _, hquiet⟩
    | ok found =>
      intro hquiet
      refine ⟨_, rfl, RunState.noteAll_drawn _ _ _, hw.passes h hquiet ?_ ?_ ?_ _, hquiet⟩
      · dsimp only
        rw [RunState.noteAll_context]
        exact halike
      · exact RunState.noteAll_events _ _ _
      · dsimp only
        rw [RunState.noteAll_context]

/-- A file is written as if it were the first. -/
theorem store {store : RunState → Except Fault FileOutcome × RunState} {m : AccessM Unit}
    (hw : World inv out b now) (h : Ground tools inv out b) (hmem : place ∈ filesAt [] inv)
    (hsame : now.files.get? (out ++ place.1) = b.files.get? (out ++ place.1))
    (hstoring : Storing tools ("/".intercalate place.1)
      (tools.settings.inputRoot.join ⟨.relative, place.1⟩)
      (tools.settings.outputRoot.join ⟨.relative, place.1⟩) m store)
    {o : FileOutcome} (ho : (store b).1 = .ok o) :
    Repeats inv out b place.1 now (store now) (store b) ∧ (store now).2.drawn = now.drawn := by
  obtain ⟨src, hsrc, -⟩ := h.sources place hmem
  have hagree := hw.agree h hsame
  have hfault := (h.workable place hmem).destination
  have hvisible := h.visible hmem hsrc
  obtain ⟨hresult, hafter⟩ := hstoring.saves.echoes hagree hfault (h.beside hmem) hvisible hsrc
    (by rw [h.destination_eq hmem]; exact h.unlinked place hmem)
  have hoNow : (store now).1 = .ok o := (hstoring.congr h.sink hw.sink hresult).trans ho
  obtain ⟨hquiet, hside⟩ := hstoring.onlyLogs hw.sink
    (h.landing?_ne hmem ((h.beside hmem).congr hagree) hw.logPlace)
  obtain ⟨hquiet', -⟩ := hstoring.onlyLogs h.sink (h.landing?_ne hmem (h.beside hmem) rfl)
  have hstored := hstoring.saves.stored hfault ((h.beside hmem).congr hagree)
  have hdestination := hafter.visible hvisible.destination
  rw [h.destination_eq hmem] at hstored hdestination
  -- the destination gets a file or nothing changes, and all else is as it was
  have hcases : (∀ loc, loc ≠ out ++ place.1 → (m.run.run now.files).2.get? loc = now.files.get? loc) ∧
      ((m.run.run now.files).2.get? (out ++ place.1) = b.files.get? (out ++ place.1) ∨
        (Plain (b.files.get? (out ++ place.1)) ∧
          Plain ((m.run.run now.files).2.get? (out ++ place.1)))) := by
    obtain ⟨-, ⟨-, hok⟩ | ⟨-, f, hok⟩⟩ := hstoring.cases_outcome hw.sink hoNow
    · rw [hok] at hstored
      cases hstored with
      | written hentry hfiles =>
        refine ⟨fun loc hne => by rw [hfiles, if_neg hne], .inr ⟨⟨hsame ▸ hentry, ?_⟩, ?_⟩⟩
        · exact h.unlinked place hmem
        · rw [hfiles, if_pos rfl]
          exact FileSystem.plain_file _ _
    · rw [hok] at hstored
      cases hstored with
      | refused _ hfiles => exact ⟨fun loc _ => hfiles loc, .inl ((hfiles _).trans hsame)⟩
  obtain ⟨hothers, hself⟩ := hcases
  have hmid : World inv out b { now with files := (m.run.run now.files).2 } := by
    refine ⟨hw.sink, hw.logPlace, (hstoring.saves.workDir _).trans hw.workDir, fun loc hloc => ?_,
      hw.context, fun loc hother hlog => ?_, fun other hother => ?_⟩
    · rw [hothers loc fun heq => (h.log _ (by rw [← hw.logPlace, ← heq]; exact hloc)).1 place hmem rfl]
      exact hw.logsTo loc hloc
    · rw [hothers loc fun heq => hother ⟨place, hmem, heq⟩]
      exact hw.elsewhere loc hother hlog
    · by_cases heq : out ++ other.1 = out ++ place.1
      · rw [heq]
        exact hself
      · rw [hothers _ heq]
        exact hw.destinations other hother
  have hpasses := hmid.passes h hquiet (by rw [hside.context]; exact hw.context) hside.events
    (by rw [hside.context]) place.1
  refine ⟨⟨hoNow.trans ho.symm, ?_, hpasses.world, fun other hother hne => ?_, hpasses.events,
    hpasses.cancelled⟩, hside.drawn⟩
  · rw [h.get?_of_onlyLogs hmem hquiet hw.logPlace, h.get?_of_onlyLogs hmem hquiet' rfl]
    exact hdestination
  · rw [hpasses.others other hother hne]
    exact hothers _ fun heq => hne (List.append_cancel_left heq)

/-- A file is emitted as if it were the first. -/
theorem emitFile (hw : World inv out b now) (h : Ground tools inv out b)
    (hcancelled : now.context.cancelled = b.context.cancelled) (hmem : place ∈ filesAt [] inv)
    (hsame : now.files.get? (out ++ place.1) = b.files.get? (out ++ place.1)) :
    ∃ seen,
      Repeats inv out b place.1 now (emitFile tools place.2 now) (alone tools seen b place now.drawn) ∧
        (Emit.emitFile tools place.2 now).2.drawn = drawnAfter tools b place now.drawn := by
  obtain ⟨hpath, hrelative⟩ := h.fullPath hmem
  -- the formatter looks at the files when the draft has been logged
  refine ⟨(Emit.draft tools ("/".intercalate place.1)
    (tools.settings.inputRoot.join ⟨.relative, place.1⟩) now).2.files, ?_⟩
  obtain ⟨o, ho, -⟩ := alone_ends h hmem (Emit.draft tools ("/".intercalate place.1)
    (tools.settings.inputRoot.join ⟨.relative, place.1⟩) now).2.files now.drawn
  rw [alone] at ho
  rw [Emit.emitFile, hpath, alone, drawnAfter]
  dsimp only
  rw [emitAt, hrelative, hcancelled]
  cases hearly : b.context.cancelled with
  | true => exact ⟨⟨rfl, hsame, hw.passes h (.refl now) hw.context rfl rfl _⟩, rfl⟩
  | false =>
    rw [hearly] at ho
    cases hinstrument : place.2.shouldInstrument with
    | false =>
      rw [hinstrument] at ho
      exact hw.store h hmem hsame (copyOne_storing tools _ _ _) ho
    | true =>
      rw [hinstrument] at ho
      obtain ⟨s₁, hdraft, hdrawn, hpasses, hquiet⟩ := hw.draft h hmem hsame
      have hself := (h.get?_of_onlyLogs hmem hquiet hw.logPlace).trans hsame
      have hsettled (f : Failure) := hpasses.world.settle h hmem hself ("/".intercalate place.1) (.failure f)
      rw [hdraft] at ho
      rw [prepare, hdraft]
      rcases drafted_cases h hmem hinstrument now.drawn with ⟨f, hfails⟩ | ⟨result, hresult, hpresentable⟩
      · rw [hfails]
        exact ⟨(hsettled f).after hpasses, hdrawn⟩
      · rw [hresult] at ho ⊢
        dsimp only at ho ⊢
        rw [h.formatter.polish]
        rcases h.formatter.answers s₁.files result.text
          (tools.settings.outputRoot.join ⟨.relative, place.1⟩) hpresentable.plain with
          ⟨f, hfails⟩ | ⟨text, hanswer, hplain⟩
        · rw [hfails]
          exact ⟨(hsettled f).after hpasses, hdrawn⟩
        · rw [hanswer] at ho ⊢
          dsimp only [Except.map] at ho ⊢
          rw [commit, hpasses.cancelled, hcancelled, hearly]
          have hready : Presentable text result.missing := ⟨hplain, hpresentable.names⟩
          obtain ⟨hrepeats, hdrawn'⟩ := hpasses.world.store h hmem hself
            (write_storing tools _ _ _ (p := ⟨text, result.edits, result.missing⟩) hready) ho
          exact ⟨hrepeats.after hpasses, hdrawn'.trans hdrawn⟩

end World

end JsxTagger.Emit
