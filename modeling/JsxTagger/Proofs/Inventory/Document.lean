import Mathlib.Algebra.Group.Nat.Defs
import JsxTagger.Inventory.Record
import JsxTagger.Inventory.Scan
import JsxTagger.Proofs.Component.Found
import JsxTagger.Proofs.Json.Limits
import JsxTagger.Proofs.Json.RoundTrip

/-!
# Inventories that are read back

An inventory that is written to a structure document is read back as it was, as long as enough calls are
left for the nesting of the document (`Inventory.ofDocument_toDocument`). Records leave out what is
not known about a component, so this holds of components of which it can be told what was left out
(`Component.isRegular`); all components that a scan finds are of that kind.
-/

namespace JsxTagger

theorem Json.eq_null_of_isNull {j : Json} (h : j.isNull = true) : j = .null := by
  cases j with
  | null => rfl
  | _ => cases h

/-! ## Components -/

namespace Component

/-- Whether a component has no wrapper or one that counts as true, and both halves of its locator or
none. -/
def isRegular (c : Component) : Bool :=
  (c.wrappedIn.isNull || c.wrappedIn.truthy) &&
    c.declarationStart.isNull == c.declarationType.isNull

/-- Whether what is known about a component can be stored. -/
def isStorable (c : Component) : Bool :=
  c.name.isStorable && c.wrappedIn.isStorable && c.declarationStart.isStorable &&
    c.declarationType.isStorable && c.line.isStorable

/-- A component is what its record describes. -/
theorem ofRecord_toRecord {c : Component} (h : c.isRegular = true) :
    ofRecord c.toRecord = .ok c := by
  rw [isRegular, Bool.and_eq_true, Bool.or_eq_true, beq_iff_eq] at h
  have hmembers : c.toRecord.member "name" = .ok c.name ∧
      c.toRecord.member "type" = .ok (.str c.kind.name) := ⟨rfl, rfl⟩
  have hflags : c.toRecord.flag "isDefaultExport" = c.isDefaultExport ∧
      c.toRecord.flag "isNamedExport" = c.isNamedExport := ⟨rfl, rfl⟩
  have hwrapper : c.toRecord.getD "wrappedIn" = c.wrappedIn := by
    rw [toRecord]
    by_cases hw : c.wrappedIn.truthy = true
    · rw [if_pos hw]
      rfl
    · rw [if_neg hw, Json.eq_null_of_isNull (h.1.resolve_right hw)]
      split <;> split <;> rfl
  have hline : c.toRecord.getD "line" = c.line := by
    rw [toRecord]
    by_cases hl : c.line.isNull = true
    · rw [if_pos hl, Json.eq_null_of_isNull hl]
      split <;> split <;> rfl
    · rw [if_neg hl]
      split <;> split <;> rfl
  have hlocator : c.toRecord.getD "declarationStart" = c.declarationStart ∧
      c.toRecord.getD "declarationType" = c.declarationType := by
    rw [toRecord, hasLocator]
    by_cases hl : c.declarationStart.isNull = true
    · have ht : c.declarationType.isNull = true := h.2.symm.trans hl
      rw [Json.eq_null_of_isNull hl, Json.eq_null_of_isNull ht]
      constructor <;> split <;> split <;> split <;> rfl
    · have ht : c.declarationType.isNull = false := h.2.symm.trans (Bool.eq_false_iff.mpr hl)
      rw [ht, Bool.eq_false_iff.mpr hl]
      constructor <;> split <;> rfl
  rw [ofRecord, hmembers.1, hmembers.2, hflags.1, hflags.2, hwrapper, hline, hlocator.1, hlocator.2]
  simp only [bind, Except.bind, ComponentKind.ofName?_name]

theorem isStorable_toRecord {c : Component} (h : c.isStorable = true) :
    c.toRecord.isStorable = true := by
  have hkeys : ["name", "type", "isDefaultExport", "isNamedExport", "wrappedIn",
      "declarationStart", "declarationType", "line"].all (Text.isUnpaired ·.toList) = true := by
    decide +kernel
  have hkind : Text.isUnpaired c.kind.name.toList = true := by cases c.kind <;> decide +kernel
  simp only [List.all_cons, List.all_nil, Bool.and_true, Bool.and_eq_true] at hkeys
  simp only [isStorable, Bool.and_eq_true] at h
  obtain ⟨⟨⟨⟨hname, hwrapper⟩, hstart⟩, htype⟩, hline⟩ := h
  rw [toRecord, Json.isStorable, Bool.and_eq_true]
  split <;> split <;> split <;> refine ⟨by simp, ?_⟩ <;>
    simp only [List.cons_append, List.nil_append, Json.membersStorable, Json.isStorable, hkeys,
      hkind, hname, hwrapper, hstart, htype, hline, Bool.and_true]

end Component

/-! ## Files and directories -/

namespace FileNode

/-- Whether what is known about a file can be stored. -/
def isStorable (f : FileNode) : Bool :=
  f.name.isStorable && f.fullPath.isStorable && f.components.all Component.isStorable

/-- A file is what its record describes. -/
theorem ofRecord_toRecord {f : FileNode} (h : f.components.all Component.isRegular = true) :
    ofRecord f.toRecord = .ok f := by
  have hcomponents {cs : List Component} (hcs : cs.all Component.isRegular = true) :
      (cs.map Component.toRecord).mapM Component.ofRecord = .ok cs := by
    induction cs with
    | nil => rfl
    | cons c cs ih =>
      rw [List.all_cons, Bool.and_eq_true] at hcs
      rw [List.map_cons, List.mapM_cons, Component.ofRecord_toRecord hcs.1, ih hcs.2]
      rfl
  have hlisted : ((f.toRecord.get? "definedComponents").getD (.arr [])).elements =
      .ok (f.components.map Component.toRecord) := rfl
  have hname : f.toRecord.member "name" = .ok f.name := rfl
  have hpath : f.toRecord.member "fullPath" = .ok f.fullPath := rfl
  rw [ofRecord, hname, hpath, hlisted]
  simp only [bind, Except.bind, hcomponents h]
  rfl

theorem isStorable_toRecord {f : FileNode} (h : f.isStorable = true) :
    f.toRecord.isStorable = true := by
  have hcomponents {cs : List Component} (hcs : cs.all Component.isStorable = true) :
      Json.areStorable (cs.map Component.toRecord) = true := by
    induction cs with
    | nil => rfl
    | cons c cs ih =>
      rw [List.all_cons, Bool.and_eq_true] at hcs
      rw [List.map_cons, Json.areStorable, Component.isStorable_toRecord hcs.1, ih hcs.2]
      rfl
  have hkeys : ["type", "file", "name", "fullPath", "process", "containsJSX", "containsReactRoot",
      "definedComponents"].all (Text.isUnpaired ·.toList) = true := by decide +kernel
  simp only [List.all_cons, List.all_nil, Bool.and_true, Bool.and_eq_true] at hkeys
  rw [isStorable, Bool.and_eq_true, Bool.and_eq_true] at h
  rw [toRecord, Json.isStorable, Bool.and_eq_true]
  refine ⟨by simp, ?_⟩
  simp only [Json.membersStorable, Json.isStorable, hkeys, h.1.1, h.1.2, hcomponents h.2,
    Bool.and_true]

end FileNode

namespace ProjectNode

mutual

/-- Whether the files and the names of directories at and below a node are of a certain kind. -/
def all (file : FileNode → Bool) (name : Json → Bool) : ProjectNode → Bool
  | .file f => file f
  | .directory n children => name n && allIn file name children

/-- Whether the files and the names of directories at and below several nodes are of a certain
kind. -/
def allIn (file : FileNode → Bool) (name : Json → Bool) : List ProjectNode → Bool
  | [] => true
  | n :: ns => n.all file name && allIn file name ns

end

end ProjectNode

namespace Inventory

open ProjectNode (allIn)

/-- Whether all components of an inventory are regular. -/
def isRegular (inv : Inventory) : Bool :=
  allIn (·.components.all Component.isRegular) (fun _ => true) inv

/-- Whether everything in an inventory can be stored. -/
def isStorable (inv : Inventory) : Bool := allIn FileNode.isStorable Json.isStorable inv

/-- Only a list of records comes to an inventory, and it takes one call. -/
theorem ofRecords_arr (room : Nat) (records : List Json) :
    ofRecords (room + 1) (.arr records) = records.mapM (nodeOf room (ofRecords room)) := by rw [ofRecords]

mutual

/-- A file or directory is what its record describes, if its directories lie no deeper than calls are
left. -/
theorem nodeOf_recordOf : (n : ProjectNode) → (room : Nat) →
    n.all (·.components.all Component.isRegular) (fun _ => true) = true → levelsAt n ≤ room →
    nodeOf room (ofRecords room) (recordOf n) = .ok n
  | .file f, room, hn, _ => by
    have hhead : recordHead f.toRecord = .ok .file := rfl
    rw [recordOf, nodeOf, hhead]
    simp only [FileNode.ofRecord_toRecord hn]
  | .directory name children, 0, _, hlevels => by
    rw [levelsAt] at hlevels
    cases hlevels
  | .directory name children, room + 1, hn, hlevels => by
    have hhead : recordHead (recordOf (.directory name children)) =
      .ok (.directory name (.arr (recordsOf children))) := rfl
    rw [ProjectNode.all, Bool.true_and] at hn
    rw [levelsAt, Nat.add_le_add_iff_right] at hlevels
    rw [nodeOf, hhead]
    simp only [ofRecords_arr, mapM_nodeOf children room hn hlevels]

theorem mapM_nodeOf : (ns : List ProjectNode) → (room : Nat) → isRegular ns = true → levels ns ≤ room →
    (recordsOf ns).mapM (nodeOf room (ofRecords room)) = .ok ns
  | [], _, _, _ => rfl
  | n :: ns, room, hns, hlevels => by
    rw [isRegular, allIn, Bool.and_eq_true] at hns
    rw [levels, Nat.max_le] at hlevels
    rw [recordsOf, List.mapM_cons, nodeOf_recordOf n room hns.1 hlevels.1,
      mapM_nodeOf ns room hns.2 hlevels.2]
    rfl

end

/-- An inventory is what its records describe. -/
theorem ofRecords_toRecords {inv : Inventory} (h : inv.isRegular = true) {room : Nat}
    (hroom : levels inv < room) : ofRecords room (toRecords inv) = .ok inv := by
  obtain ⟨room, rfl⟩ := Nat.exists_eq_add_one_of_ne_zero (Nat.ne_zero_of_lt hroom)
  rw [toRecords, ofRecords_arr]
  exact mapM_nodeOf inv room h (Nat.le_of_lt_succ hroom)

mutual

/-- A directory is an object with a list in it. -/
theorem levelsAt_le_nesting : (n : ProjectNode) → 2 * levelsAt n ≤ (recordOf n).nesting
  | .file _ => Nat.zero_le _
  | .directory name children => by
    have hchildren := levels_le_nestingItems children
    rw [levelsAt]
    simp only [recordOf, Json.nesting, Json.nestingMembers]
    omega

theorem levels_le_nestingItems : (ns : List ProjectNode) →
    2 * levels ns ≤ Json.nestingItems (recordsOf ns)
  | [] => Nat.zero_le _
  | n :: ns => by
    have hn := levelsAt_le_nesting n
    have hns := levels_le_nestingItems ns
    rw [levels, recordsOf, Json.nestingItems]
    omega

end

/-- The records of an inventory are nested deeper than its directories. -/
theorem levels_lt_nesting (inv : Inventory) : levels inv < (toRecords inv).nesting := by
  have h := levels_le_nestingItems inv
  rw [toRecords, Json.nesting]
  omega

mutual

theorem isStorable_recordOf : (n : ProjectNode) → n.all FileNode.isStorable Json.isStorable = true →
    (recordOf n).isStorable = true
  | .file _, hn => FileNode.isStorable_toRecord hn
  | .directory name children, hn => by
    have hkeys : ["type", "directory", "name", "children"].all (Text.isUnpaired ·.toList) = true := by
      decide +kernel
    simp only [List.all_cons, List.all_nil, Bool.and_true, Bool.and_eq_true] at hkeys
    rw [ProjectNode.all, Bool.and_eq_true] at hn
    rw [recordOf, Json.isStorable, Bool.and_eq_true]
    refine ⟨by simp, ?_⟩
    simp only [Json.membersStorable, Json.isStorable, hkeys, hn.1,
      areStorable_recordsOf children hn.2, Bool.and_true]

theorem areStorable_recordsOf : (ns : List ProjectNode) → isStorable ns = true →
    Json.areStorable (recordsOf ns) = true
  | [], _ => rfl
  | n :: ns, hns => by
    rw [isStorable, allIn, Bool.and_eq_true] at hns
    rw [recordsOf, Json.areStorable, isStorable_recordOf n hns.1, areStorable_recordsOf ns hns.2]
    rfl

end

end Inventory

/-! ## Components that a scan finds -/

/-- What is left out of the record of a component that is found can be told. -/
theorem Classify.IsFound.isRegular {source : Bytes} {c : Component} (h : IsFound source c) :
    c.isRegular = true := by
  obtain ⟨start, kind, -, hstart, htype⟩ := h.locator
  rw [Component.isRegular, hstart, htype]
  rcases h.wrapper with hw | ⟨w, hw, hwrapped⟩
  · rw [hw]
    rfl
  · rw [hwrapped]
    have hw : w = "forwardRef" ∨ w = "memo" := by simpa [Classify.wrappers] using hw
    rcases hw with rfl | rfl <;> rfl

namespace Inventory

open Files

theorem scanFile_isRegular (env : Environment) (settings : Settings) (p : Path)
    (rel : String) (s : RunState) :
    (scanFile env settings p rel s).1.components.all Component.isRegular = true := by
  rw [scanFile]
  split
  · rfl
  · split
    · rfl
    · rfl
    · rename_i tree _
      exact List.all_eq_true.mpr fun c hc => (Classify.analyzeTree_isFound tree c hc).isRegular

theorem scanEntries_isRegular (env : Environment) (settings : Settings)
    {enter : Path → Location → List String → RunState → List ProjectNode × RunState}
    (henter : ∀ dir place rel s, isRegular (enter dir place rel s).1 = true)
    (dir : Path) (place : Location) (rel names : List String) (s : RunState) :
    isRegular (scanEntries env settings enter dir place rel names s).1 = true := by
  induction names generalizing s with
  | nil => rfl
  | cons name names ih =>
    rw [scanEntries]
    split
    · exact ih s
    · exact Bool.and_eq_true_iff.mpr ⟨henter _ _ _ _, ih _⟩
    · exact Bool.and_eq_true_iff.mpr ⟨scanFile_isRegular env settings _ _ s, ih _⟩

theorem scanDirectory_isRegular (env : Environment) (settings : Settings) (depth : Nat) (dir : Path)
    (place : Location) (rel : List String) (s : RunState) :
    isRegular (scanDirectory env settings depth dir place rel s).1 = true := by
  induction depth generalizing dir place rel s with
  | zero => rfl
  | succ depth ih => exact scanEntries_isRegular env settings ih dir place rel _ s

/-- Every inventory that a scan makes is regular. -/
theorem scan_isRegular (env : Environment) (settings : Settings) (s : RunState) :
    isRegular (scan env settings s).context.inventory = true := by
  rw [scan]
  simp only [RunState.note, RunState.inContext, RunState.report, RunContext.setInventory]
  split
  · exact scanDirectory_isRegular ..
  · rfl

/-! ## Documents -/

/-- Which document is written for an inventory. -/
theorem document_eq {inv : Inventory} (hstorable : inv.isStorable = true) (room : Nat) :
    inv.document room =
      if (toRecords inv).depth + 4 ≤ room then .ok inv.toDocument else .error .tooDeep := by
  have hwritable : (toRecords inv).isWritable = true :=
    Json.isWritable_of_isStorable _ (areStorable_recordsOf inv hstorable)
  have hlevels := levels_lt_nesting inv
  have hdepth := Json.nesting_le_depth (toRecords inv)
  by_cases hroom : (toRecords inv).depth + 4 ≤ room
  · have hnone := (Json.obstacle?_eq_none_iff (room - 1 - 3) _).mpr ⟨by omega, hwritable⟩
    rw [if_pos hroom, document, record, if_neg (by omega)]
    simp only [bind, Except.bind, Json.dump, hnone]
    rfl
  · rw [if_neg hroom, document, record]
    split
    · rfl
    · have hsome : (toRecords inv).obstacle? (room - 1 - 3) ≠ none := fun hnone => by
        have := (Json.obstacle?_eq_none_iff _ _).mp hnone
        omega
      obtain ⟨fault, hfault⟩ := Option.ne_none_iff_exists'.mp hsome
      rcases Json.obstacle?_eq_some _ _ hfault with ⟨rfl, -⟩ | ⟨-, hlong⟩
      · simp only [bind, Except.bind, Json.dump, hfault]
      · rw [hwritable] at hlong
        cases hlong

/-- What is read from the document of an inventory. -/
theorem ofDocument_toDocument_iff {room : Nat} {path : String} {inv : Inventory}
    (hregular : inv.isRegular = true) (hstorable : inv.isStorable = true) :
    ofDocument room path inv.toDocument = .ok inv ↔ (toRecords inv).nesting + 5 ≤ room := by
  have hrecords : (toRecords inv).isStorable = true := areStorable_recordsOf inv hstorable
  have hlevels := levels_lt_nesting inv
  rw [ofDocument, toDocument]
  constructor
  · intro h
    split at h
    · cases h
    · rename_i j hj
      have hroom := ((Json.read_render hrecords).mp hj).2
      omega
  · intro h
    rw [(Json.read_render hrecords).mpr ⟨rfl, by omega⟩]
    exact ofRecords_toRecords hregular (by omega)

/-- A document that is nested too deep for the calls that are left is not read. -/
theorem ofDocument_toDocument_deep {room : Nat} {inv : Inventory} (hstorable : inv.isStorable = true)
    (hdeep : room < (toRecords inv).nesting + 5) (path : String) :
    ∃ e, ofDocument room path inv.toDocument = .error (.unread path e) ∧ e.fault.kind = .tooDeep := by
  have hlevels := levels_lt_nesting inv
  have hrecords : (toRecords inv).isStorable = true := areStorable_recordsOf inv hstorable
  have hnesting : room - 1 - 4 < (toRecords inv).nesting := by omega
  obtain ⟨e, hread, hkind⟩ := Json.read_render_deep hrecords hnesting
  refine ⟨e, ?_, hkind⟩
  rw [ofDocument, toDocument, hread]

/-- A document has no other characters than line breaks and printable ASCII. -/
theorem all_isPlain_toDocument {inv : Inventory} (hstorable : inv.isStorable = true) :
    inv.toDocument.toList.all Json.isPlain = true := by
  rw [toDocument, Json.toList_render, List.all_append,
    Json.all_isPlain_writeAt 0 (toRecords inv) (areStorable_recordsOf inv hstorable)]
  decide

/-- The documents of a scan's and of every other regular inventory are plain text. They are written
exactly if enough calls are left to go through the records, and read back as the inventory exactly if
enough are left for their nesting; else going too deep is what ends the writing or the reading. -/
theorem ofDocument_toDocument :
    (∀ (room : Nat) (path : String) (inv : Inventory), inv.isRegular = true → inv.isStorable = true →
      (inv.document room =
        if (toRecords inv).depth + 4 ≤ room then .ok inv.toDocument else .error .tooDeep) ∧
      (ofDocument room path inv.toDocument = .ok inv ↔ (toRecords inv).nesting + 5 ≤ room) ∧
      (room < (toRecords inv).nesting + 5 →
        ∃ e, ofDocument room path inv.toDocument = .error (.unread path e) ∧ e.fault.kind = .tooDeep) ∧
      inv.toDocument.toList.all Json.isPlain = true) ∧
    ∀ (env : Environment) (settings : Settings) (s : RunState),
      isRegular (scan env settings s).context.inventory = true := by
  refine ⟨fun room path inv hregular hstorable => ⟨?_, ?_, ?_, ?_⟩, scan_isRegular⟩
  · exact document_eq hstorable room
  · exact ofDocument_toDocument_iff hregular hstorable
  · exact fun hdeep => ofDocument_toDocument_deep hstorable hdeep path
  · exact all_isPlain_toDocument hstorable

/-- A directory with an unusual name, a file with a wrapped component in it, and an empty directory. -/
def twoDirectories : Inventory :=
  [.directory (.str "\"ü😀\n") [.file {
      name := .str "a.jsx", fullPath := .str "\"ü😀\n/a.jsx", process := true, containsJsx := true
      components := [{
        name := .str "A", kind := .functional, isDefaultExport := true, wrappedIn := .str "memo"
        declarationStart := .int 6, declarationType := .str "variable_declarator"
        line := .int 1 }] }],
   .directory (.str "empty") []]

theorem isStorable_twoDirectories : twoDirectories.isStorable = true := by
  have hshort {d : Nat} (hd : d < 10) : (Json.int d).isStorable = true := by
    rw [Json.isStorable, Json.digitCount, Int.natAbs_natCast, Decimal.digits, if_pos hd]
    rfl
  have hstart : (Json.int 6).isStorable = true := hshort (d := 6) (by decide)
  have hline : (Json.int 1).isStorable = true := hshort (d := 1) (by decide)
  have htexts : ∀ t ∈ ["\"ü😀\n", "a.jsx", "\"ü😀\n/a.jsx", "A", "memo", "variable_declarator",
      "empty"], (Json.str t).isStorable = true := by
    decide +kernel
  simp only [List.forall_mem_cons] at htexts
  simp only [twoDirectories, isStorable, ProjectNode.allIn, ProjectNode.all, FileNode.isStorable,
    Component.isStorable, List.all_cons, List.all_nil, hstart, hline, htexts, Bool.and_true]

theorem ofDocument_toDocument_twoDirectories :
    twoDirectories.isRegular = true ∧ twoDirectories.isStorable = true ∧
      twoDirectories.document 995 = .ok twoDirectories.toDocument ∧
      ofDocument 995 "structure.json" twoDirectories.toDocument = .ok twoDirectories ∧
      twoDirectories.toDocument.toList.all Json.isPlain = true := by
  have h := ofDocument_toDocument.1 995 "structure.json" twoDirectories rfl isStorable_twoDirectories
  exact ⟨rfl, isStorable_twoDirectories, h.1, h.2.1.mpr (by decide), h.2.2.2⟩

/-! ## Inventories that are not read back -/

/-- Directories nested inside each other. -/
def nested : Nat → Inventory
  | 0 => []
  | n + 1 => [.directory (.str "d") (nested n)]

theorem levels_nested (n : Nat) : levels (nested n) = n := by
  induction n with
  | zero => rfl
  | succ n ih => rw [nested, levels, levels, levelsAt, ih, Nat.max_zero]

theorem isRegular_nested (n : Nat) : isRegular (nested n) = true := by
  induction n with
  | zero => rfl
  | succ n ih => simpa [nested, isRegular, ProjectNode.allIn, ProjectNode.all] using ih

theorem isStorable_nested (n : Nat) : isStorable (nested n) = true := by
  induction n with
  | zero => rfl
  | succ n ih =>
    have hname : (Json.str "d").isStorable = true := by decide +kernel
    rw [nested, isStorable, ProjectNode.allIn, ProjectNode.all, hname]
    exact Bool.and_eq_true_iff.mpr ⟨ih, rfl⟩

theorem nesting_nested (n : Nat) : (toRecords (nested n)).nesting = 2 * n + 1 := by
  induction n with
  | zero => rfl
  | succ n ih =>
    rw [toRecords, Json.nesting] at ih ⊢
    simp only [nested, recordsOf, recordOf, Json.nestingItems, Json.nesting, Json.nestingMembers]
    omega

/-- The innermost directory is empty, so that nothing is deeper than its list of contents. -/
theorem depth_nested (n : Nat) : (toRecords (nested n)).depth = 2 * n + 1 := by
  induction n with
  | zero => rfl
  | succ n ih =>
    rw [toRecords, Json.depth] at ih ⊢
    simp only [nested, recordsOf, recordOf, Json.depthItems, Json.depth, Json.depthMembers]
    omega

/-- The two halves of a pair, one after the other. -/
def twoHalves : List Char := [Text.charOfCode 0xD83D, Text.charOfCode 0xDE00]

/-- A directory with the given name. -/
def named (name : List Char) : Inventory := [.directory (.str (String.ofList name)) []]

/-- A file with one component, declared at the given line. -/
def atLine (line : Int) : Inventory :=
  [.file {
    name := .str "a", fullPath := .str "a",
    components := [{ name := .str "A", kind := .functional, line := .int line }] }]

theorem digits_pow (k : Nat) : Decimal.digits (10 ^ k) = '1' :: List.replicate k '0' := by
  induction k with
  | zero =>
    rw [Decimal.digits]
    rfl
  | succ k ih =>
    have hpos : 0 < 10 ^ k := Nat.pow_pos (by decide)
    have hdiv : 10 ^ (k + 1) / 10 = 10 ^ k := by
      rw [Nat.pow_succ]
      omega
    have hmod : 10 ^ (k + 1) % 10 = 0 := by
      rw [Nat.pow_succ]
      omega
    rw [Decimal.digits, if_neg (by rw [Nat.pow_succ]; omega), hdiv, hmod, ih,
      List.replicate_succ', List.cons_append]
    rfl

section LongLine

variable {line : Nat}

/-- A line with more digits than the reader allows. -/
theorem isOk_readDocument_atLine (h : Decimal.digits line = '1' :: List.replicate 4300 '0') :
    (Json.readDocument 990 (Json.writeAt 0 (toRecords (atLine line)) ++ ['\n'])).isOk = false := by
  have hline : Decimal.ofInt line = '1' :: List.replicate 4300 '0' := h
  simp only [toRecords, atLine, recordsOf, recordOf, FileNode.toRecord, Component.toRecord, List.map,
    Component.hasLocator, Json.isNull, Json.truthy, Json.writeAt, Json.writeItems,
    Json.writeMembers, Json.writeString, List.cons_append, List.nil_append, if_false,
    Bool.false_eq_true, Bool.not_true, Bool.and_false, ComponentKind.name,
    hline, String.reduceToList]
  decide +kernel

theorem ofDocument_atLine_ne (h : Decimal.digits line = '1' :: List.replicate 4300 '0')
    {path : String} : ofDocument 995 path (toDocument (atLine line)) ≠ .ok (atLine line) := by
  intro hok
  rw [ofDocument, toDocument] at hok
  split at hok
  · cases hok
  · rename_i j hj
    rw [Json.read_eq_ok, Json.toList_render] at hj
    have hfail := isOk_readDocument_atLine h
    rw [hj] at hfail
    cases hfail

/-- Such a line cannot be written either. -/
theorem document_atLine (h : Decimal.digits line = '1' :: List.replicate 4300 '0') :
    (atLine line).document 995 = .error Json.longInteger := by
  have hlong : Decimal.maxDigits < (Decimal.digits (line : Int).natAbs).length := by
    rw [Int.natAbs_natCast, h]
    decide +kernel
  have hobstacle : (toRecords (atLine line)).obstacle? 991 = some Json.longInteger := by
    simp only [toRecords, atLine, recordsOf, recordOf, FileNode.toRecord, Component.toRecord, List.map,
      Component.hasLocator, Json.isNull, Json.truthy, List.cons_append, List.nil_append, if_false,
      Bool.false_eq_true, Bool.not_true, Bool.and_false, Json.obstacle?, Json.obstacleItems?,
      Json.obstacleMembers?, if_pos hlong, Option.none_or, Option.some_or]
  rw [document, record, if_neg (by simp [atLine, levels, levelsAt])]
  simp only [bind, Except.bind, Json.dump, hobstacle]

end LongLine

/-- Regular inventories are not always read back, where 995 calls are left for writing and for reading: not
one with so many directories inside each other that their records can be written but are nested too deep
for reading, one with a name in which two halves stand side by side, or one with a line number of too many
digits. -/
theorem regular_not_read_back :
    (isRegular (nested 495) = true ∧ (nested 495).document 995 = .ok (toDocument (nested 495)) ∧
      ofDocument 995 "structure.json" (toDocument (nested 495)) ≠ .ok (nested 495)) ∧
    (isRegular (named twoHalves) = true ∧
      (named twoHalves).document 995 = .ok (toDocument (named twoHalves)) ∧
      ofDocument 995 "structure.json" (toDocument (named twoHalves)) ≠ .ok (named twoHalves)) ∧
    ∃ line : Nat, line = 10 ^ 4300 ∧ isRegular (atLine line) = true ∧
      (atLine line).document 995 = .error Json.longInteger ∧
      ofDocument 995 "structure.json" (toDocument (atLine line)) ≠ .ok (atLine line) := by
  refine ⟨⟨isRegular_nested 495, ?_, ?_⟩, ⟨rfl, rfl, ?_⟩, _, rfl, rfl, ?_, ?_⟩
  · rw [document_eq (isStorable_nested 495), depth_nested]
    rfl
  · rw [ne_eq, ofDocument_toDocument_iff (isRegular_nested 495) (isStorable_nested 495),
      nesting_nested]
    decide
  · -- The document is that of a directory named by the one character of the pair.
    have hsame : Json.writeAt 0 (toRecords (named twoHalves)) =
        Json.writeAt 0 (toRecords (named [Text.charOfCode 0x1F600])) := by
      decide +kernel
    have hone : named [Text.charOfCode 0x1F600] ≠ named twoHalves := by
      simp only [named, twoHalves, ne_eq, List.cons.injEq, ProjectNode.directory.injEq,
        Json.str.injEq, String.ofList_inj, List.cons.injEq, and_true]
      decide +kernel
    rw [toDocument, Json.render, hsame, ← Json.render, ← toDocument,
      (ofDocument_toDocument_iff rfl (by decide +kernel)).mpr (by decide)]
    exact fun heq => hone (Except.ok.inj heq)
  · exact document_atLine (digits_pow 4300)
  · exact ofDocument_atLine_ne (digits_pow 4300)

end Inventory

end JsxTagger
