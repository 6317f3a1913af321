import JsxTagger.Proofs.Files.Disk
import JsxTagger.Proofs.Instrument.Changes
import JsxTagger.Proofs.Inventory.Document
import JsxTagger.Proofs.Inventory.Exact

/-!
# Scans that are stored

The inventory of a scan is read back from its document as it was, whatever was scanned, as long as enough
calls are left for the nesting of the document (`ofDocument_of_survey`). Its names come from the file system
and from the texts of files, and neither holds two halves that would be taken for a pair (`OnDisk`). A
component has no parts (`IsFound`), so the document is nested twice as deep as the directories. Only numbers
with too many digits are left, and they cannot even be written (`Json.isWritable`).
-/

namespace JsxTagger

open Files

/-! ## Components -/

theorem Json.membersWritable_append (ms ns : List (String × Json)) :
    membersWritable (ms ++ ns) = (membersWritable ms && membersWritable ns) := by
  induction ms with
  | nil => rfl
  | cons m ms ih => rw [List.cons_append, membersWritable, membersWritable, ih, Bool.and_assoc]

namespace Classify.IsFound

open Json (isStorable isWritable membersStorable membersWritable nesting nestingMembers)

variable {source : Bytes} {c : Component} (h : IsFound source c)

include h

/-- The record of a component that is found says everything but whether it is wrapped. -/
theorem toRecord_eq :
    ∃ (start line : Nat) (kind : Syntax.Kind), c.declarationStart = .int start ∧ c.line = .int line ∧
      c.declarationType = .str kind.name ∧ kind.isAnchor = true ∧
      c.toRecord = .obj ([("name", c.name), ("type", .str c.kind.name), ("isDefaultExport", .bool c.isDefaultExport),
        ("isNamedExport", .bool c.isNamedExport)] ++
        (if c.wrappedIn.truthy then [("wrappedIn", c.wrappedIn)] else []) ++
        [("declarationStart", .int start), ("declarationType", .str kind.name)] ++ [("line", .int line)]) := by
  obtain ⟨start, kind, hkind, hstart, htype⟩ := h.locator
  obtain ⟨line, hline⟩ := h.line
  refine ⟨start, line, kind, hstart, hline, htype, hkind, ?_⟩
  rw [Component.toRecord, Component.hasLocator, hstart, htype, hline]
  rfl

/-- A component that is found can be stored if it can be written. -/
theorem isStorable_of_isWritable (hsource : source.HoldsNoHalf) (hwritable : isWritable c.toRecord = true) :
    c.isStorable = true := by
  obtain ⟨start, line, kind, hstart, hline, htype, hkind, hrecord⟩ := h.toRecord_eq
  have hnumbers : isStorable (.int start) = true ∧ isStorable (.int line) = true := by
    rw [hrecord, isWritable] at hwritable
    simp only [Json.membersWritable_append, Bool.and_eq_true, membersWritable, isWritable] at hwritable
    exact ⟨hwritable.1.2.1, hwritable.2.1⟩
  have hname : isStorable c.name = true := by
    obtain ⟨anchor, hname⟩ := h.name
    rw [hname]
    exact Text.isUnpaired_of_path (Text.pathEncodingError?_of_isPlain
      (Instrument.isPlain_componentName fun n _ => n.isPlain_text hsource))
  have hwrapper : isStorable c.wrappedIn = true := by
    rcases h.wrapper with hw | ⟨w, hw, hwrapped⟩
    · rw [hw]
      rfl
    · have hwrappers : ∀ w ∈ wrappers, isStorable (.str w) = true := by decide +kernel
      rw [hwrapped]
      exact hwrappers w hw
  have hkinds : isStorable (.str kind.name) = true := by
    cases kind <;> first | decide +kernel | cases hkind
  rw [Component.isStorable, hstart, hline, htype, hname, hwrapper, hkinds, hnumbers.1, hnumbers.2]
  rfl

/-- Nothing in the record of a component that is found has parts. -/
theorem nesting_toRecord : nesting c.toRecord = 1 := by
  obtain ⟨start, line, kind, -, -, -, -, hrecord⟩ := h.toRecord_eq
  obtain ⟨anchor, hname⟩ := h.name
  rw [hrecord, hname]
  rcases h.wrapper with hw | ⟨w, -, hwrapped⟩
  · rw [hw]
    rfl
  · rw [hwrapped]
    split <;> rfl

end Classify.IsFound

/-! ## Files -/

namespace FileNode

variable {f : FileNode}

/-- A file with a name can be stored if it can be written and its components can be. -/
theorem isStorable_of_isWritable {name path : String} (hname : f.name = .str name) (hpath : f.fullPath = .str path)
    (hunpaired : Text.isUnpaired name.toList = true ∧ Text.isUnpaired path.toList = true)
    (hcomponents : ∀ c ∈ f.components, c.toRecord.isWritable = true → c.isStorable = true)
    (hwritable : f.toRecord.isWritable = true) : f.isStorable = true := by
  have hall {cs : List Component} (hcs : ∀ c ∈ cs, c.toRecord.isWritable = true → c.isStorable = true)
      (hwritable : Json.areWritable (cs.map Component.toRecord) = true) :
      cs.all Component.isStorable = true := by
    induction cs with
    | nil => rfl
    | cons c cs ih =>
      rw [List.forall_mem_cons] at hcs
      rw [List.map_cons, Json.areWritable, Bool.and_eq_true] at hwritable
      rw [List.all_cons, hcs.1 hwritable.1, ih hcs.2 hwritable.2]
      rfl
  have hlisted : Json.areWritable (f.components.map Component.toRecord) = true := by
    simpa [toRecord, Json.isWritable, Json.membersWritable, hname, hpath] using hwritable
  rw [isStorable, hname, hpath, hall hcomponents hlisted, Json.isStorable, Json.isStorable, hunpaired.1, hunpaired.2]
  rfl

/-- The record of a file with a name holds those of its components. -/
theorem nesting_toRecord_le {name path : String} (hname : f.name = .str name) (hpath : f.fullPath = .str path)
    (hcomponents : ∀ c ∈ f.components, c.toRecord.nesting = 1) : f.toRecord.nesting ≤ 3 := by
  have hall {cs : List Component} (hcs : ∀ c ∈ cs, c.toRecord.nesting = 1) :
      Json.nestingItems (cs.map Component.toRecord) ≤ 1 := by
    induction cs with
    | nil => exact Nat.zero_le 1
    | cons c cs ih =>
      rw [List.forall_mem_cons] at hcs
      rw [List.map_cons, Json.nestingItems, hcs.1]
      exact Nat.max_le.mpr ⟨Nat.le_refl 1, ih hcs.2⟩
  have hlisted := hall hcomponents
  simp only [toRecord, Json.nesting, Json.nestingMembers, hname, hpath]
  omega

end FileNode

/-! ## Directories -/

namespace Inventory

namespace Scanned

variable {base : FileSystem} {root : Path} {rel : List String} {ns : List ProjectNode}

/-- What a scan found can be stored if it can be written. -/
theorem isStorable_of_isWritable (h : Scanned base root rel ns)
    (hnames : ∀ names ∈ directoriesAt rel ns, ∀ name ∈ names, Text.isUnpaired name.toList = true)
    (hfiles : ∀ place ∈ filesAt rel ns, place.2.toRecord.isWritable = true → place.2.isStorable = true)
    (hwritable : Json.areWritable (recordsOf ns) = true) : isStorable ns = true := by
  induction h with
  | nil => rfl
  | @file rel name f ns _ _ _ _ _ _ _ _ _ _ _ _ ih =>
    rw [filesAt, List.forall_mem_cons] at hfiles
    rw [directoriesAt] at hnames
    rw [recordsOf, Json.areWritable, Bool.and_eq_true] at hwritable
    exact Bool.and_eq_true_iff.mpr ⟨hfiles.1 hwritable.1, ih hnames hfiles.2 hwritable.2⟩
  | @directory rel name children ns _ _ _ _ ihChildren ih =>
    rw [filesAt, List.forall_mem_append] at hfiles
    rw [directoriesAt, List.cons_append] at hnames
    rw [recordsOf, Json.areWritable, Bool.and_eq_true] at hwritable
    obtain ⟨hhere, hbelow⟩ := List.forall_mem_cons.mp hnames
    obtain ⟨hinner, houter⟩ := List.forall_mem_append.mp hbelow
    have hname : Text.isUnpaired name.toList = true := hhere name (by simp [Json.plain])
    have hchildren : Json.areWritable (recordsOf children) = true := by
      simpa [recordOf, Json.isWritable, Json.membersWritable] using hwritable.1
    have hinside := ihChildren hinner hfiles.1 hchildren
    have hbeside := ih houter hfiles.2 hwritable.2
    rw [isStorable] at hinside hbeside ⊢
    rw [ProjectNode.allIn, ProjectNode.all, hinside, hbeside, Json.isStorable, hname]
    rfl

/-- Every directory that lies in another one adds two levels to the records. -/
theorem nesting_le (h : Scanned base root rel ns) (hfiles : ∀ place ∈ filesAt rel ns, place.2.toRecord.nesting ≤ 3) :
    Json.nestingItems (recordsOf ns) ≤ 2 * levels ns + 3 := by
  induction h with
  | nil => exact Nat.zero_le _
  | @file rel name f ns _ _ _ _ _ _ _ _ _ _ _ _ ih =>
    rw [filesAt, List.forall_mem_cons] at hfiles
    have hfile : f.toRecord.nesting ≤ 3 := hfiles.1
    have hrest := ih hfiles.2
    rw [recordsOf, Json.nestingItems, levels, levelsAt, recordOf]
    omega
  | @directory rel name children ns _ _ _ _ ihChildren ih =>
    rw [filesAt, List.forall_mem_append] at hfiles
    have hinside := ihChildren hfiles.1
    have hbeside := ih hfiles.2
    simp only [recordsOf, recordOf, Json.nestingItems, Json.nesting, Json.nestingMembers, levels, levelsAt]
    omega

end Scanned

/-! ## Scans -/

section Scans

variable {env : Environment} {settings : Settings} {s s' : RunState} {place : Location} {visits : List Visit}

/-- The components of a file are found in its source. -/
theorem Visit.exists_source {v : Visit} {c : Component} (hc : c ∈ (v.node env settings).components) :
    ∃ tree, v.source? env settings = some (.ok tree) ∧ Classify.IsFound tree.source c := by
  rw [Visit.node] at hc
  split at hc
  · rename_i tree hsource
    exact ⟨tree, hsource, Classify.analyzeTree_isFound tree c hc⟩
  · cases hc

/-- A tree that a visit yields is that of what the file held then. -/
theorem Visit.exists_content {v : Visit} {tree : Syntax.SourceTree} (h : v.source? env settings = some (.ok tree)) :
    ∃ at_ mode, v.seen.get? at_ = some (.file mode tree.source) := by
  rw [Visit.source?] at h
  split at h
  · obtain ⟨text, hread, hparse⟩ := Except.bind_eq_ok.mp (Option.some.inj h)
    obtain ⟨mode, hstat⟩ := readText_eq_ok hread
    obtain ⟨at_, -, hget⟩ := FileSystem.stat_eq_ok.mp hstat
    refine ⟨at_, mode, ?_⟩
    cases htree : env.parse text (some v.rel) with
    | error fault =>
      rw [htree] at hparse
      cases hparse
    | ok found =>
      rw [htree] at hparse
      cases hparse
      rw [Syntax.SourceTree.source_of_parseWith htree]
      exact hget
  · cases h

theorem Entered.byteNames {fs : FileSystem} {names : List String} (h : Entered settings fs place names)
    (hplaces : fs.HasByteNames) : ∀ name ∈ names, Text.pathEncodingError? name = none := by
  intro name hname
  obtain ⟨front, back, rfl⟩ := List.append_of_mem hname
  exact hplaces _ _ (h front name (by simp)).1 name (by simp)

theorem Listed.byteNames {fs : FileSystem} {names : List String} (h : Listed settings fs place names)
    (hplaces : fs.HasByteNames) : ∀ name ∈ names, Text.pathEncodingError? name = none := by
  obtain ⟨front, last, rfl, hfront, hshown, mode, content, hstat⟩ := h
  obtain ⟨at_, hat, hget⟩ := FileSystem.stat_eq_ok.mp hstat
  rw [← join_entry] at hat
  obtain ⟨there, left, -, hlast⟩ :=
    (FileSystem.locate_eq_ok.mp hat).2.exists_front (List.cons_ne_nil last [])
  obtain ⟨e, hentry⟩ : ∃ e, fs.get? (there ++ [last]) = some e := by
    cases hlast with
    | up => exact absurd hshown (by decide +kernel)
    | down _ _ _ _ hdone =>
      cases hdone
      exact ⟨_, hget⟩
    | final _ _ _ hlink _ => exact ⟨_, hlink⟩
    | through _ _ _ hlink _ _ => exact ⟨_, hlink⟩
  refine List.forall_mem_append.mpr ⟨hfront.byteNames hplaces, List.forall_mem_singleton.mpr ?_⟩
  exact hplaces _ _ hentry last (by simp)

namespace Captures

variable (h : Captures env settings s place visits s') (hlog : s.LogsTo s.files) (hdisk : s'.files.OnDisk)

include h hdisk

/-- What a scan of a disk found has no halves of pairs in it. -/
theorem holdsNoHalf {v : Visit} (hv : v ∈ visits) {tree : Syntax.SourceTree}
    (htree : v.source? env settings = some (.ok tree)) : tree.source.HoldsNoHalf := by
  obtain ⟨at_, mode, hget⟩ := Visit.exists_content htree
  obtain ⟨now, -, honward, hseen⟩ := h.seen v hv
  rw [hseen] at hget
  obtain ⟨added, hnow⟩ := honward.appended at_ mode _ hget
  exact (hdisk.contents _ _ _ hnow).of_part (List.prefix_append _ _).isInfix

include hlog

theorem hasByteNames : s.files.HasByteNames := by
  intro loc e he
  rcases h.quiet.get?_cases hlog loc with heq | ⟨_, _, _, -, hnew⟩
  · exact hdisk.names loc e (heq.trans he)
  · exact hdisk.names loc _ hnew

/-- What a scan of a disk found can be stored if it can be written. -/
theorem isStorable (hscan : Scanned s.files settings.inputRoot [] s'.context.inventory)
    (hwritable : (toRecords s'.context.inventory).isWritable = true) : isStorable s'.context.inventory = true := by
  have hplaces := h.hasByteNames hlog hdisk
  refine hscan.isStorable_of_isWritable (fun names hnames name hname => ?_) (fun found hfound => ?_) hwritable
  · have hentered := ((h.directories names).mp hnames).2
    exact Text.isUnpaired_of_path (hentered.byteNames hplaces name hname)
  · rw [h.files] at hfound
    obtain ⟨v, hv, rfl⟩ := List.mem_map.mp hfound
    have hlisted := (h.listed v.names).mp (List.mem_map_of_mem hv)
    have hnames := hlisted.byteNames hplaces
    have hname : Text.pathEncodingError? v.name = none := by
      obtain ⟨front, last, heq, -⟩ := hlisted
      refine hnames v.name ?_
      rw [Visit.name, heq]
      simp
    refine FileNode.isStorable_of_isWritable (v.node_name env settings) (v.node_fullPath env settings)
      ⟨Text.isUnpaired_of_path hname, Text.isUnpaired_of_path (Text.pathEncodingError?_intercalate hnames)⟩ ?_
    intro c hc hwritten
    obtain ⟨tree, htree, hfound⟩ := Visit.exists_source hc
    exact hfound.isStorable_of_isWritable (h.holdsNoHalf hdisk hv htree) hwritten

omit hdisk hlog in
/-- The records of a scan are nested twice as deep as the directories. -/
theorem nesting_le (hscan : Scanned s.files settings.inputRoot [] s'.context.inventory) :
    (toRecords s'.context.inventory).nesting ≤ 2 * levels s'.context.inventory + 4 := by
  rw [toRecords, Json.nesting]
  refine Nat.succ_le_succ (hscan.nesting_le fun found hfound => ?_)
  rw [h.files] at hfound
  obtain ⟨v, hv, rfl⟩ := List.mem_map.mp hfound
  refine FileNode.nesting_toRecord_le (v.node_name env settings) (v.node_fullPath env settings) fun c hc => ?_
  obtain ⟨tree, -, hfound⟩ := Visit.exists_source hc
  exact hfound.nesting_toRecord

end Captures

/-- A scan that gets to its end captures what is there. -/
theorem exists_captures (hwell : s.files.WellFormed) (hlog : s.LogsTo s.files)
    (h : (survey env settings).run.run s = (.ok (), s')) :
    Scanned s.files settings.inputRoot [] s'.context.inventory ∧
      ∃ place visits, Captures env settings s place visits s' := by
  obtain ⟨place, nodes, after, hat, hroot, hsurvey, -, heq⟩ := survey_eq_ok h
  have houtcome := surveyRoot_outcome env hwell hlog hat hroot
  dsimp only at houtcome
  rw [hsurvey] at houtcome
  obtain ⟨-, inside, visits, hinside, hsorted, hsurveyed⟩ := houtcome
  have hscan := (scan_scanned hlog env settings hwell).2.1
  rw [← survey_eq_scan hwell hlog h, heq] at hscan
  rw [heq]
  exact ⟨hscan, place, visits, captures_of_surveyed hlog env hat hinside hsorted hscan hsurveyed⟩

/-- The records of a scan can be stored if they can be written, and are nested about twice as deep as the
directories. -/
theorem storable_of_survey (hwell : s.files.WellFormed) (hlog : s.LogsTo s.files) (hdisk : s'.files.OnDisk)
    (h : (survey env settings).run.run s = (.ok (), s')) :
    isRegular s'.context.inventory = true ∧
      ((toRecords s'.context.inventory).isWritable = true → isStorable s'.context.inventory = true) ∧
      (toRecords s'.context.inventory).nesting ≤ 2 * levels s'.context.inventory + 4 := by
  obtain ⟨hscan, place, visits, hcaptures⟩ := exists_captures hwell hlog h
  refine ⟨?_, hcaptures.isStorable hlog hdisk hscan, hcaptures.nesting_le hscan⟩
  rw [survey_eq_scan hwell hlog h]
  exact scan_isRegular env settings s

end Scans

/-! ## Documents -/

/-- Only a document that can be written is. -/
theorem isWritable_of_document {room : Nat} {inv : Inventory} {text : String} (h : inv.document room = .ok text) :
    (toRecords inv).isWritable = true ∧ text = inv.toDocument := by
  obtain ⟨records, hrecords, h⟩ := Except.bind_eq_ok.mp h
  rw [record] at hrecords
  split at hrecords
  · cases hrecords
  · cases hrecords
    obtain ⟨rendered, hrendered, h⟩ := Except.bind_eq_ok.mp h
    rw [Json.dump] at hrendered
    split at hrendered
    · cases hrendered
    · rename_i hobstacle
      cases hrendered
      cases h
      exact ⟨((Json.obstacle?_eq_none_iff _ _).mp hobstacle).2, rfl⟩

/-- The text of a document that was written, and that its path still leads to, is read. -/
theorem readText_of_writeDocument {room : Nat} {inv : Inventory} {p : Path} {fs fs' later : FileSystem} {e : Entry}
    (hwrite : (inv.writeDocument room p).run.run fs = (.ok (), fs')) (hstat : fs'.stat p = .ok e)
    (hsame : later.stat p = .ok e) (hstorable : inv.toRecords.isWritable = true → inv.isStorable = true) :
    inv.isStorable = true ∧ readText later p = .ok inv.toDocument := by
  rw [writeDocument] at hwrite
  split at hwrite
  · rename_i text hdocument
    obtain ⟨hwritable, rfl⟩ := isWritable_of_document hdocument
    obtain ⟨hfault, mode, rfl⟩ := stat_of_writeFile hwrite hstat
    have hplain := all_isPlain_toDocument (hstorable hwritable)
    exact ⟨hstorable hwritable, readText_of_stat hfault hsame (looksBinary_ofText hplain)⟩
  · cases hwrite

/-- A document that was written, and that its path still leads to, is read if enough calls are left, and else
going too deep ends the reading. -/
theorem readDocument_of_writeDocument {room : Nat} {inv : Inventory} {p : Path} {later : FileSystem}
    (hregular : inv.isRegular = true) (hstorable : inv.isStorable = true)
    (hread : readText later p = .ok inv.toDocument) :
    ((toRecords inv).nesting + 5 ≤ room → readDocument room later p = .ok inv) ∧
      (room < (toRecords inv).nesting + 5 →
        ∃ fault, readDocument room later p = .error (.fault fault) ∧ fault.kind = .tooDeep) := by
  constructor
  · intro hroom
    rw [readDocument, hread]
    simp only [bind, Except.bind, (ofDocument_toDocument_iff hregular hstorable).mpr hroom]
    rfl
  · intro hdeep
    obtain ⟨e, herror, hkind⟩ := ofDocument_toDocument_deep hstorable hdeep p.text
    refine ⟨e.asFault, ?_, hkind⟩
    rw [readDocument, hread]
    simp only [bind, Except.bind, herror, Except.mapError, Trouble.ofDocumentError]
    have hother : e.asFault.kind ≠ .badJson := by
      simp [Json.ReadError.asFault, hkind]
    rw [if_neg hother]

end Inventory

end JsxTagger
