import JsxTagger.Inventory.Record
import JsxTagger.Run.Context
import Mathlib.Data.List.Induction

/-!
# Looking files up

The index of a context is made when a path is looked up for the first time, and dropped when the inventory
is replaced (`Indexed`). So whatever was done with a context before, a look-up finds the last file with the
path in the inventory that was set last (`performAll_findFile`), unless the inventory holds a file whose path
is a list or an object, which cannot be looked up (`findFile_unhashable`).
-/

namespace JsxTagger

namespace Json

/-- A value that is the same as itself can be looked up. -/
theorem isKey_of_sameKey_self {j : Json} (h : j.sameKey j = true) : j.isKey = true := by
  cases j <;> first | rfl | cases h

/-- It does not matter which of two values is looked up among which. -/
theorem sameKey_comm (i j : Json) : i.sameKey j = j.sameKey i := by
  have hfloat (a b : Decimal.Double) : (float a).sameKey (float b) = (float b).sameKey (float a) := by
    cases a <;> cases b <;> simp [sameKey, Bool.and_comm, Bool.beq_comm]
  cases i with
  | float a =>
    cases j with
    | float b => exact hfloat a b
    | _ => grind [sameKey, whole?]
  | _ => cases j <;> grind [sameKey, whole?]

end Json

namespace RunContext

/-! ## What is done with a context -/

/-- Something that is done with a context. -/
inductive Call where
  | setInventory (nodes : Inventory)
  | addRootFile (path : String)
  | recordScanFailure (path message : String)
  | iterFiles
  | findFile (path : Json)
  | componentsFor (path : Json)
  | cancel

namespace Call

/-- The inventory that a call sets. -/
def inventory? : Call → Option Inventory
  | setInventory nodes => some nodes
  | _ => none

/-- The file that a call notes as one that mounts an application. -/
def rootFile? : Call → Option String
  | addRootFile path => some path
  | _ => none

/-- The failure that a call notes. -/
def scanFailure? : Call → Option (String × String)
  | recordScanFailure path message => some (path, message)
  | _ => none

/-- Whether a call cancels the run. -/
def cancels : Call → Bool
  | cancel => true
  | _ => false

end Call

/-- The context after a call. A look-up that fails leaves it as it is. -/
def perform (c : RunContext) : Call → RunContext
  | .setInventory nodes => c.setInventory nodes
  | .addRootFile path => c.addRootFile path
  | .recordScanFailure path message => c.recordScanFailure path message
  | .iterFiles => c
  | .findFile path =>
    match c.findFile path with
    | .ok (_, c) => c
    | .error _ => c
  | .componentsFor path =>
    match c.componentsFor path with
    | .ok (_, c) => c
    | .error _ => c
  | .cancel => c.cancel

/-- The context after several calls. -/
def performAll (c : RunContext) (calls : List Call) : RunContext := calls.foldl perform c

/-- The inventory that was set last, the first one if none was. -/
def lastInventory (start : Inventory) (calls : List Call) : Inventory :=
  (calls.filterMap Call.inventory?).getLastD start

/-! ## What a look-up finds -/

/-- What a look-up finds among files: the last one with the path, or nothing. -/
inductive Finds (files : List FileNode) (path : Json) : Option FileNode → Prop where
  | last {front back : List FileNode} {f : FileNode} (hfiles : files = front ++ f :: back)
      (hpath : f.fullPath.sameKey path = true)
      (hback : ∀ g ∈ back, g.fullPath.sameKey path = false) : Finds files path (some f)
  | nothing (h : ∀ f ∈ files, f.fullPath.sameKey path = false) : Finds files path none

theorem finds_lastWithPath (files : List FileNode) (path : Json) :
    Finds files path (lastWithPath files path) := by
  rw [lastWithPath]
  cases hlast : (files.filter fun f => f.fullPath.sameKey path).getLast? with
  | none =>
    refine .nothing fun f hf => ?_
    exact Bool.eq_false_iff.mpr (List.filter_eq_nil_iff.mp (List.getLast?_eq_none_iff.mp hlast) f hf)
  | some f =>
    obtain ⟨found, hfound⟩ := List.getLast?_eq_some_iff.mp hlast
    obtain ⟨front, rest, rfl, -, hrest⟩ := List.filter_eq_append_iff.mp hfound
    obtain ⟨between, back, rfl, -, hpath, hback⟩ := List.filter_eq_cons_iff.mp hrest
    refine .last (show _ = (front ++ between) ++ f :: back by rw [List.append_assoc]) hpath fun g hg => ?_
    exact Bool.eq_false_iff.mpr (List.filter_eq_nil_iff.mp hback g hg)

/-- A file is found by its own path if no other file has the same. -/
theorem Finds.eq_self {files : List FileNode} {f : FileNode} {found : Option FileNode}
    (h : Finds files f.fullPath found) (hf : f ∈ files) (hself : f.fullPath.sameKey f.fullPath = true)
    (hdistinct : files.Pairwise fun f g => f.fullPath.sameKey g.fullPath = false) : found = some f := by
  cases h with
  | nothing hnone => exact absurd hself (Bool.eq_false_iff.mp (hnone f hf))
  | @last front back g hfiles hpath hback =>
    subst hfiles
    rcases List.mem_append.mp hf with hfront | hrest
    · have hother := (List.pairwise_append.mp hdistinct).2.2 f hfront g List.mem_cons_self
      rw [Json.sameKey_comm, hpath] at hother
      cases hother
    · rcases List.mem_cons.mp hrest with rfl | hmem
      · rfl
      · exact absurd hself (Bool.eq_false_iff.mp (hback f hmem))

/-! ## The index -/

/-- If there is an index, it is that of the inventory. -/
def Indexed (c : RunContext) : Prop :=
  c.index = none ∨ c.index = some c.files ∧ ∀ f ∈ c.files, f.fullPath.isKey = true

theorem indexed_eq_ok {c : RunContext} (h : c.Indexed) (hkeys : ∀ f ∈ c.files, f.fullPath.isKey = true) :
    c.indexed = .ok c.files := by
  rw [indexed]
  rcases h with hnone | ⟨hsome, -⟩
  · have hfind : (c.files.find? fun f => !f.fullPath.isKey) = none := by
      rw [List.find?_eq_none]
      intro f hf
      rw [hkeys f hf]
      decide
    rw [hnone]
    dsimp only
    rw [hfind]
  · rw [hsome]

/-- An index is not made of a file whose path cannot be looked up. -/
theorem indexed_eq_error {c : RunContext} (h : c.Indexed) {f : FileNode} (hf : f ∈ c.files)
    (hkey : f.fullPath.isKey = false) : ∃ fault, c.indexed = .error fault ∧ fault.kind = .wrongType := by
  rw [indexed]
  rcases h with hnone | ⟨-, hkeys⟩
  · rw [hnone]
    dsimp only
    cases hfind : c.files.find? fun f => !f.fullPath.isKey with
    | none =>
      have hall := List.find?_eq_none.mp hfind f hf
      rw [hkey] at hall
      exact absurd rfl hall
    | some g => exact ⟨_, rfl, rfl⟩
  · rw [hkeys f hf] at hkey
    cases hkey

/-- A look-up finds what it is to find, and keeps the index. -/
theorem findFile_eq_ok {c : RunContext} (h : c.Indexed) (hkeys : ∀ f ∈ c.files, f.fullPath.isKey = true)
    {path : Json} (hpath : path.isKey = true) :
    c.findFile path = .ok (lastWithPath c.files path, { c with index := some c.files }) := by
  rw [findFile, indexed_eq_ok h hkeys]
  dsimp only
  rw [if_pos hpath]

theorem findFile_eq_error {c : RunContext} (h : c.Indexed) {f : FileNode} (hf : f ∈ c.files)
    (hkey : f.fullPath.isKey = false) (path : Json) :
    ∃ fault, c.findFile path = .error fault ∧ fault.kind = .wrongType := by
  obtain ⟨fault, hfault, hkind⟩ := indexed_eq_error h hf hkey
  exact ⟨fault, by rw [findFile, hfault], hkind⟩

/-- What a look-up changes: at most the index, which it makes. -/
theorem findFile_cases {c c' : RunContext} (h : c.Indexed) {path : Json} {found : Option FileNode}
    (hfind : c.findFile path = .ok (found, c')) :
    c' = { c with index := some c.files } ∧ ∀ f ∈ c.files, f.fullPath.isKey = true := by
  have hkeys : ∀ f ∈ c.files, f.fullPath.isKey = true := by
    intro f hf
    refine Bool.of_not_eq_false fun hkey => ?_
    obtain ⟨fault, hfault, -⟩ := findFile_eq_error h hf hkey path
    rw [hfind] at hfault
    cases hfault
  rw [findFile, indexed_eq_ok h hkeys] at hfind
  dsimp only at hfind
  split at hfind
  · cases hfind
    exact ⟨rfl, hkeys⟩
  · cases hfind

/-! ## Calls in any order -/

/-- What is known of a context after some calls. -/
structure Follows (start : RunContext) (calls : List Call) (c : RunContext) : Prop where
  inventory : c.inventory = lastInventory start.inventory calls
  rootFiles : c.rootFiles = start.rootFiles ++ calls.filterMap Call.rootFile?
  scanFailures : c.scanFailures = start.scanFailures ++ calls.filterMap Call.scanFailure?
  cancelled : c.cancelled = (start.cancelled || calls.any Call.cancels)
  index : c.Indexed

namespace Follows

variable {start c c' : RunContext} {calls : List Call}

/-- One more call, by what it sets and notes. -/
theorem append (h : Follows start calls c) {call : Call}
    (hinventory : c'.inventory = call.inventory?.getD c.inventory)
    (hroots : c'.rootFiles = c.rootFiles ++ call.rootFile?.toList)
    (hfailures : c'.scanFailures = c.scanFailures ++ call.scanFailure?.toList)
    (hcancelled : c'.cancelled = (c.cancelled || call.cancels)) (hindex : c'.Indexed) :
    Follows start (calls ++ [call]) c' := by
  refine ⟨?_, ?_, ?_, ?_, hindex⟩
  · rw [hinventory, h.inventory, lastInventory, lastInventory, List.filterMap_append]
    cases hset : call.inventory? <;> simp [hset]
  · rw [hroots, h.rootFiles, List.filterMap_append, List.append_assoc]
    cases hroot : call.rootFile? <;> simp [hroot]
  · rw [hfailures, h.scanFailures, List.filterMap_append, List.append_assoc]
    cases hfailure : call.scanFailure? <;> simp [hfailure]
  · rw [hcancelled, h.cancelled, List.any_append, Bool.or_assoc]
    simp

/-- A call that changes nothing but the index. -/
theorem keep (h : Follows start calls c) {call : Call} (hinventory : call.inventory? = none)
    (hroot : call.rootFile? = none) (hfailure : call.scanFailure? = none) (hcancels : call.cancels = false)
    {index : Option (List FileNode)} (hindex : { c with index }.Indexed) :
    Follows start (calls ++ [call]) { c with index } :=
  h.append (by rw [hinventory]; rfl) (by rw [hroot]; simp) (by rw [hfailure]; simp)
    (by rw [hcancels]; simp) hindex

/-- A look-up that succeeds changes nothing but the index. -/
theorem lookUp (h : Follows start calls c) {call : Call} (hinventory : call.inventory? = none)
    (hroot : call.rootFile? = none) (hfailure : call.scanFailure? = none) (hcancels : call.cancels = false)
    {path : Json} {found : Option FileNode} (hfind : c.findFile path = .ok (found, c')) :
    Follows start (calls ++ [call]) c' := by
  obtain ⟨rfl, hkeys⟩ := findFile_cases h.index hfind
  exact h.keep hinventory hroot hfailure hcancels (.inr ⟨rfl, hkeys⟩)

/-- One more call. -/
theorem perform (h : Follows start calls c) (call : Call) :
    Follows start (calls ++ [call]) (c.perform call) := by
  have hroots := (List.append_nil c.rootFiles).symm
  have hfailures := (List.append_nil c.scanFailures).symm
  have hcancelled := (Bool.or_false c.cancelled).symm
  cases call with
  | setInventory nodes => exact h.append rfl hroots hfailures hcancelled (.inl rfl)
  | addRootFile path => exact h.append rfl rfl hfailures hcancelled h.index
  | recordScanFailure path message => exact h.append rfl hroots rfl hcancelled h.index
  | iterFiles => exact h.keep rfl rfl rfl rfl h.index
  | findFile path =>
    rw [RunContext.perform]
    split
    · rename_i hfind
      exact h.lookUp rfl rfl rfl rfl hfind
    · exact h.keep rfl rfl rfl rfl h.index
  | componentsFor path =>
    rw [RunContext.perform, RunContext.componentsFor]
    cases hfind : c.findFile path with
    | error fault => exact h.keep rfl rfl rfl rfl h.index
    | ok found => exact h.lookUp rfl rfl rfl rfl hfind
  | cancel => exact h.append rfl hroots hfailures (Bool.or_true c.cancelled).symm h.index

end Follows

theorem follows_performAll {start : RunContext} (hstart : start.index = none) (calls : List Call) :
    Follows start calls (start.performAll calls) := by
  induction calls using List.reverseRecOn with
  | nil =>
    refine ⟨rfl, ?_, ?_, ?_, .inl hstart⟩
    · simp [performAll]
    · simp [performAll]
    · simp [performAll]
  | append_singleton calls call ih =>
    rw [performAll, List.foldl_append, ← performAll]
    exact ih.perform call

theorem any_cancels {calls : List Call} : calls.any Call.cancels = true ↔ Call.cancel ∈ calls := by
  rw [List.any_eq_true]
  constructor
  · rintro ⟨call, hmem, hcancels⟩
    cases call <;> first | exact hmem | cases hcancels
  · exact fun hmem => ⟨_, hmem, rfl⟩

/-- Whatever was done with a context, it lists the files of the inventory that was set last, looks paths up
among them, knows the root files and the failures that were noted, in their order, and is cancelled from the
first cancellation on. Files are looked up by their paths unless one of them has a path that is a list or an
object; then every look-up fails. -/
theorem performAll_findFile (inventory : Inventory) (rootFiles : List String)
    (scanFailures : List (String × String)) (cancelled : Bool) (calls : List Call) :
    let c := performAll { inventory, rootFiles, scanFailures, cancelled } calls
    let files := (lastInventory inventory calls).files
    c.files = files ∧
    c.rootFiles = rootFiles ++ calls.filterMap Call.rootFile? ∧
    c.scanFailures = scanFailures ++ calls.filterMap Call.scanFailure? ∧
    (c.cancelled = true ↔ cancelled = true ∨ Call.cancel ∈ calls) ∧
    ((∀ f ∈ files, f.fullPath.isKey = true) →
      (∀ path, path.isKey = true → ∃ found c', c.findFile path = .ok (found, c') ∧
        Finds files path found ∧
        c.componentsFor path = .ok ((found.map (·.components)).getD [], c')) ∧
      (files.Pairwise (fun f g => f.fullPath.sameKey g.fullPath = false) →
        ∀ f ∈ files, f.fullPath.sameKey f.fullPath = true →
          ∃ c', c.componentsFor f.fullPath = .ok (f.components, c'))) ∧
    (∀ f ∈ files, f.fullPath.isKey = false → ∀ path, ∃ fault,
      c.findFile path = .error fault ∧ c.componentsFor path = .error fault ∧
        fault.kind = .wrongType) := by
  intro c files
  have h : Follows { inventory, rootFiles, scanFailures, cancelled } calls c :=
    follows_performAll rfl calls
  have hfiles : c.files = files := by rw [RunContext.files, h.inventory]
  have hlook (hkeys : ∀ f ∈ files, f.fullPath.isKey = true) {path : Json} (hpath : path.isKey = true) :
      ∃ found c', c.findFile path = .ok (found, c') ∧ Finds files path found ∧
        c.componentsFor path = .ok ((found.map (·.components)).getD [], c') := by
    have hfind := findFile_eq_ok h.index (hfiles ▸ hkeys) hpath
    refine ⟨_, _, hfind, hfiles ▸ finds_lastWithPath c.files path, ?_⟩
    rw [componentsFor, hfind]
    rfl
  refine ⟨hfiles, h.rootFiles, h.scanFailures, ?_, fun hkeys => ⟨fun path => hlook hkeys, ?_⟩, ?_⟩
  · rw [h.cancelled, Bool.or_eq_true, any_cancels]
  · intro hdistinct f hf hself
    obtain ⟨found, c', -, hfinds, hcomponents⟩ := hlook hkeys (Json.isKey_of_sameKey_self hself)
    rw [hfinds.eq_self hf hself hdistinct] at hcomponents
    exact ⟨c', hcomponents⟩
  · intro f hf hkey path
    obtain ⟨fault, hfault, hkind⟩ := findFile_eq_error h.index (hfiles ▸ hf) hkey path
    refine ⟨fault, hfault, ?_, hkind⟩
    rw [componentsFor, hfault]
    rfl

/-- A file with one component, at the path `a`. -/
def oneFile (component : String) : Inventory :=
  [.file { name := .str "a", fullPath := .str "a", components := [{ name := .str component, kind := .functional }] }]

/-- After the inventory was replaced, a path that was looked up before leads to the new file. -/
theorem performAll_findFile_replaced :
    let calls : List Call := [.setInventory (oneFile "A"), .findFile (.str "a"), .addRootFile "a",
      .setInventory (oneFile "B"), .cancel]
    let c := performAll {} calls
    c.rootFiles = ["a"] ∧ c.cancelled = true ∧
      (∀ f ∈ (oneFile "B").files, f.fullPath.isKey = true) ∧
      ∃ c', c.componentsFor (.str "a") = .ok ([{ name := .str "B", kind := .functional }], c') := by
  intro calls c
  have hfiles : (lastInventory [] calls).files = (oneFile "B").files := rfl
  have hone : (oneFile "B").files =
      [{ name := .str "a", fullPath := .str "a", components := [{ name := .str "B", kind := .functional }] }] := by
    rw [Inventory.files, oneFile, Inventory.drain, Inventory.drain]
  have hkeys : ∀ f ∈ (oneFile "B").files, f.fullPath.isKey = true := by
    rw [hone]
    simp [Json.isKey]
  obtain ⟨-, hroots, -, hcancelled, hlook, -⟩ := performAll_findFile [] [] [] false calls
  obtain ⟨-, hcomponents⟩ := hlook (hfiles ▸ hkeys)
  refine ⟨hroots, hcancelled.mpr (.inr (by simp [calls])), hkeys, ?_⟩
  refine hcomponents (by rw [hfiles, hone]; simp) _ (by rw [hfiles, hone]; exact List.mem_singleton_self _) ?_
  decide

/-- A structure document may hold a path that is a list; then nothing can be looked up. -/
theorem findFile_unhashable :
    ∃ inventory, Inventory.ofRecords 100 (.arr [.obj [("type", .str "file"), ("name", .str "a"),
        ("fullPath", .arr [])]]) = .ok inventory ∧
      ¬ ∃ found c', (performAll {} [.setInventory inventory]).findFile (.str "a") = .ok (found, c') := by
  let f : FileNode := { name := .str "a", fullPath := .arr [] }
  refine ⟨[.file f], rfl, ?_⟩
  rintro ⟨found, c', hfind⟩
  have hmem : f ∈ Inventory.files [.file f] := by
    rw [Inventory.files, Inventory.drain]
    exact List.mem_cons_self
  have hkey := (findFile_cases (.inl rfl) hfind).2 f hmem
  cases hkey

end RunContext

end JsxTagger
