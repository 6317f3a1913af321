import JsxTagger.Failure.Failure
import JsxTagger.Proofs.Instrument.Passing
import JsxTagger.Proofs.Inventory.Document

/-!
# Structure documents of others

A structure document need not have been written by this program. Which values give an inventory is said
here without the reader, record by record (`IsRecord`, `IsDocument`). The reader gives an inventory for
these values and for no others, and what it says about another value names a record that is wrong or a
value that stands in place of a list (`Misread`), and is reported as a failure of the document. That is so
unless the value cannot be gone through: where it is too deep for the calls that are left, or one of its
integers too long for a message, there may be a fault instead (`ofRecords_outcome`).

The reader keeps things that the writer leaves out, a wrapper that counts as false and one half of a
locator. So an inventory that was read need not be what its own records describe, but its normal form is
(`ofRecords_toRecords_normal`): after one pass of writing and reading nothing changes any more, and nothing
that decides what is done with a file has changed (`ofRecords_toRecords_settles`).
-/

namespace JsxTagger

/-! ## Going through lists and members -/

section Lists

variable {ε α β : Type} {f : α → Except ε β}

/-- A list can be gone through if something comes of every item. -/
theorem exists_mapM_eq_ok_iff {xs : List α} :
    (∃ ys, xs.mapM f = .ok ys) ↔ ∀ x ∈ xs, ∃ y, f x = .ok y := by
  induction xs with
  | nil => simp [pure, Except.pure]
  | cons x xs ih =>
    simp only [List.mapM_cons, Except.bind_eq_ok, List.forall_mem_cons, ← ih, pure, Except.pure]
    constructor
    · rintro ⟨_, y, hy, ys, hys, -⟩
      exact ⟨⟨y, hy⟩, ys, hys⟩
    · rintro ⟨⟨y, hy⟩, ys, hys⟩
      exact ⟨y :: ys, y, hy, ys, hys, rfl⟩

/-- The error of a list is that of its first item of which nothing comes. -/
theorem mapM_eq_error {xs : List α} {e : ε} (h : xs.mapM f = .error e) :
    ∃ front x back, xs = front ++ x :: back ∧ (∀ z ∈ front, ∃ y, f z = .ok y) ∧ f x = .error e := by
  induction xs with
  | nil => cases h
  | cons x xs ih =>
    rw [List.mapM_cons, Except.bind_eq_error] at h
    rcases h with h | ⟨y, hy, h⟩
    · exact ⟨[], x, xs, rfl, by simp, h⟩
    · rcases Except.bind_eq_error.mp h with h | ⟨_, _, h⟩
      · obtain ⟨front, z, back, rfl, hfront, hz⟩ := ih h
        exact ⟨x :: front, z, back, rfl, List.forall_mem_cons.mpr ⟨⟨y, hy⟩, hfront⟩, hz⟩
      · cases h

end Lists

namespace Json

theorem member_eq_ok {j value : Json} {key : String} :
    j.member key = .ok value ↔ j.get? key = some value := by
  cases j with
  | obj members =>
    rw [member, get?]
    cases members.lookup key <;> simp
  | _ => simp [member, get?]

theorem isText_iff {j : Json} {s : String} : j.isText s = true ↔ j = .str s := by
  cases j <;> simp [isText]

end Json

/-! ## What records look like -/

/-- The records of components have a name and one of the two kinds. Only objects have members. -/
structure Component.IsRecord (j : Json) : Prop where
  name : ∃ name, j.get? "name" = some name
  kind : j.get? "type" = some (.str "functional") ∨ j.get? "type" = some (.str "class")

/-- What may stand where a file lists its components: nothing, an empty text or object, or a list of
records. -/
inductive Component.Listed : Option Json → Prop
  | absent : Listed none
  | emptyText : Listed (some (.str ""))
  | emptyObject : Listed (some (.obj []))
  | items {items : List Json} (h : ∀ r ∈ items, IsRecord r) : Listed (some (.arr items))

namespace Inventory

/-- The records of files and directories. -/
inductive IsRecord : Json → Prop
  | file {j : Json} (type : j.get? "type" = some (.str "file"))
      (name : ∃ name, j.get? "name" = some name) (fullPath : ∃ path, j.get? "fullPath" = some path)
      (components : Component.Listed (j.get? "definedComponents")) : IsRecord j
  | directory {j : Json} {records : List Json} (type : j.get? "type" = some (.str "directory"))
      (name : ∃ name, j.get? "name" = some name) (children : j.get? "children" = some (.arr records))
      (contents : ∀ r ∈ records, IsRecord r) : IsRecord j

/-- The values that are lists of records. -/
def IsDocument (j : Json) : Prop := ∃ records, j = .arr records ∧ ∀ r ∈ records, IsRecord r

/-- The errors about a value that is no list of records: it is no list, or the first item that is no
record is malformed, of no known type, or has contents that are no list of records themselves. -/
inductive Misread : Json → DocumentError → Prop
  | notList {j : Json} (h : ∀ records, j ≠ .arr records) : Misread j .notList
  | malformed {front back : List Json} {r : Json} {fault : RecordFault} (hfront : ∀ x ∈ front, IsRecord x)
      (h : ¬ IsRecord r) : Misread (.arr (front ++ r :: back)) (.malformed r fault)
  | unknownType {front back : List Json} {r type : Json} (hfront : ∀ x ∈ front, IsRecord x)
      (h : r.get? "type" = some type) (hfile : type ≠ .str "file") (hdirectory : type ≠ .str "directory") :
      Misread (.arr (front ++ r :: back)) (.unknownType type)
  | contents {front back : List Json} {r contents : Json} {e : DocumentError}
      (hfront : ∀ x ∈ front, IsRecord x) (type : r.get? "type" = some (.str "directory"))
      (children : r.get? "children" = some contents) (h : Misread contents e) :
      Misread (.arr (front ++ r :: back)) e

/-- What is misread is no fault. -/
theorem Misread.ne_fault {j : Json} {e : DocumentError} (h : Misread j e) (fault : Fault) :
    e ≠ .fault fault := by
  induction h with
  | contents _ _ _ _ ih => exact ih
  | _ => simp

/-- What is misread is reported as a failure of the document. -/
theorem Misread.ofDocumentError_eq {j : Json} {e : DocumentError} (h : Misread j e) :
    ∃ cause, Trouble.ofDocumentError e =
      .failure { category := .document, message := e.message, cause } := by
  induction h with
  | notList => exact ⟨_, rfl⟩
  | @malformed _ _ _ fault => cases fault <;> exact ⟨_, rfl⟩
  | unknownType => exact ⟨_, rfl⟩
  | contents _ _ _ _ ih => exact ih

end Inventory

/-! ## Reading records -/

/-- Exactly the records of components are read as components. -/
theorem Component.exists_ofRecord_eq_ok_iff {j : Json} :
    (∃ c, Component.ofRecord j = .ok c) ↔ Component.IsRecord j := by
  constructor
  · rintro ⟨c, hc⟩
    obtain ⟨name, hname, hc⟩ := Except.bind_eq_ok.mp hc
    obtain ⟨type, htype, hc⟩ := Except.bind_eq_ok.mp hc
    refine ⟨⟨name, Json.member_eq_ok.mp hname⟩, ?_⟩
    rw [Json.member_eq_ok.mp htype]
    cases type with
    | str s =>
      simp only [ComponentKind.ofName?] at hc
      split at hc
      · rename_i hs
        split at hs <;> simp_all
      · cases hc
    | _ => cases hc
  · rintro ⟨⟨name, hname⟩, htype | htype⟩ <;>
      rw [Component.ofRecord, Json.member_eq_ok.mpr hname, Json.member_eq_ok.mpr htype] <;>
      exact ⟨_, rfl⟩

namespace FileNode

/-- Texts are no records, so they can only be read if there are none. -/
theorem exists_mapM_texts_eq_ok_iff {α : Type} {texts : List α} {f : α → String} :
    (∃ cs, (texts.map fun t => Json.str (f t)).mapM Component.ofRecord = .ok cs) ↔ texts = [] := by
  rw [exists_mapM_eq_ok_iff]
  constructor
  · intro h
    cases texts with
    | nil => rfl
    | cons t texts =>
      obtain ⟨⟨_, hname⟩, -⟩ := Component.exists_ofRecord_eq_ok_iff.mp (h (.str (f t)) (by simp))
      cases hname
  · rintro rfl
    simp

/-- What is listed as the components of a file can be read if it may stand there. -/
theorem exists_listed_eq_ok_iff {listed : Option Json} :
    (∃ items, (listed.getD (.arr [])).elements = .ok items ∧
      ∃ cs, items.mapM Component.ofRecord = .ok cs) ↔ Component.Listed listed := by
  constructor
  · rintro ⟨items, hitems, hcs⟩
    match listed with
    | none => exact .absent
    | some (.arr rs) =>
      cases hitems
      exact .items fun r hr => Component.exists_ofRecord_eq_ok_iff.mp (exists_mapM_eq_ok_iff.mp hcs r hr)
    | some (.str s) =>
      cases hitems
      rw [String.toList_eq_nil_iff.mp (exists_mapM_texts_eq_ok_iff.mp hcs)]
      exact .emptyText
    | some (.obj members) =>
      cases hitems
      rw [exists_mapM_texts_eq_ok_iff.mp hcs]
      exact .emptyObject
    | some .null | some (.bool _) | some (.int _) | some (.float _) => cases hitems
  · rintro (_ | _ | _ | h)
    · exact ⟨[], rfl, [], rfl⟩
    · exact ⟨[], rfl, [], rfl⟩
    · exact ⟨[], rfl, [], rfl⟩
    · exact ⟨_, rfl, exists_mapM_eq_ok_iff.mpr fun r hr =>
        Component.exists_ofRecord_eq_ok_iff.mpr (h r hr)⟩

/-- A record is read as a file if it has a name and a path and lists components. -/
theorem exists_ofRecord_eq_ok_iff {j : Json} :
    (∃ f, ofRecord j = .ok f) ↔
      (∃ name, j.get? "name" = some name) ∧ (∃ path, j.get? "fullPath" = some path) ∧
        Component.Listed (j.get? "definedComponents") := by
  rw [← exists_listed_eq_ok_iff]
  constructor
  · rintro ⟨f, hf⟩
    obtain ⟨name, hname, hf⟩ := Except.bind_eq_ok.mp hf
    obtain ⟨path, hpath, hf⟩ := Except.bind_eq_ok.mp hf
    obtain ⟨items, hitems, hf⟩ := Except.bind_eq_ok.mp hf
    obtain ⟨cs, hcs, -⟩ := Except.bind_eq_ok.mp hf
    exact ⟨⟨name, Json.member_eq_ok.mp hname⟩, ⟨path, Json.member_eq_ok.mp hpath⟩, items, hitems, cs, hcs⟩
  · rintro ⟨⟨name, hname⟩, ⟨path, hpath⟩, items, hitems, cs, hcs⟩
    rw [ofRecord, Json.member_eq_ok.mpr hname, Json.member_eq_ok.mpr hpath, hitems]
    simp only [bind, Except.bind, hcs]
    exact ⟨_, rfl⟩

end FileNode

namespace Inventory

/-- The head of a record tells what has to be read next. -/
theorem recordHead_spec (j : Json) :
    match recordHead j with
    | .error _ => ¬ IsRecord j
    | .ok .file => j.get? "type" = some (.str "file")
    | .ok (.directory name children) =>
      j.get? "type" = some (.str "directory") ∧ j.get? "name" = some name ∧
        j.get? "children" = some children
    | .ok (.other type) =>
      j.get? "type" = some type ∧ type ≠ .str "file" ∧ type ≠ .str "directory" := by
  have hmissing {key : String} {fault : RecordFault} (h : j.member key = .error fault)
      {value : Json} : j.get? key ≠ some value := by
    rw [ne_eq, ← Json.member_eq_ok, h]
    simp
  rw [recordHead]
  cases htype : j.member "type" with
  | error fault =>
    rintro (⟨htype', -⟩ | ⟨htype', -⟩)
    · exact hmissing htype htype'
    · exact hmissing htype htype'
  | ok type =>
    simp only [bind, Except.bind]
    -- the type decides which further members the head needs
    by_cases hdirectory : type.isText "directory" = true
    · rw [if_pos hdirectory]
      rw [Json.isText_iff.mp hdirectory] at htype
      cases hname : j.member "name" with
      | error fault =>
        rintro (⟨htype', -⟩ | ⟨-, ⟨name, hname'⟩, -⟩)
        · rw [Json.member_eq_ok.mp htype] at htype'
          simp at htype'
        · exact hmissing hname hname'
      | ok name =>
        cases hchildren : j.member "children" with
        | error fault =>
          rintro (⟨htype', -⟩ | ⟨-, -, hchildren', -⟩)
          · rw [Json.member_eq_ok.mp htype] at htype'
            simp at htype'
          · exact hmissing hchildren hchildren'
        | ok children =>
          exact ⟨Json.member_eq_ok.mp htype, Json.member_eq_ok.mp hname, Json.member_eq_ok.mp hchildren⟩
    · rw [if_neg hdirectory]
      by_cases hfile : type.isText "file" = true
      · rw [if_pos hfile]
        rw [Json.isText_iff.mp hfile] at htype
        exact Json.member_eq_ok.mp htype
      · rw [if_neg hfile]
        exact ⟨Json.member_eq_ok.mp htype, mt Json.isText_iff.mpr hfile, mt Json.isText_iff.mpr hdirectory⟩

theorem recordHead_file {j : Json} (htype : j.get? "type" = some (.str "file")) :
    recordHead j = .ok .file := by
  rw [recordHead, Json.member_eq_ok.mpr htype]
  rfl

theorem recordHead_directory {j name children : Json} (htype : j.get? "type" = some (.str "directory"))
    (hname : j.get? "name" = some name) (hchildren : j.get? "children" = some children) :
    recordHead j = .ok (.directory name children) := by
  rw [recordHead, Json.member_eq_ok.mpr htype, Json.member_eq_ok.mpr hname, Json.member_eq_ok.mpr hchildren]
  rfl

/-- Whether something is read only if it is to be accepted, and refused only with an expected error. -/
def Judges {α : Type} (accepts : Prop) (misreads : DocumentError → Prop) : Except DocumentError α → Prop
  | .ok _ => accepts
  | .error e => misreads e

/-- A fault that comes from going through a value. -/
def Hindered (room : Nat) (j : Json) (e : DocumentError) : Prop :=
  ∃ fault, e = .fault fault ∧ j.Hinders room fault

/-- The errors about a record, wherever it stands behind others. -/
def MisreadRecord (r : Json) (e : DocumentError) : Prop :=
  ∀ front back, (∀ x ∈ front, IsRecord x) → Misread (.arr (front ++ r :: back)) e

section Judges

variable {room : Nat} {j value : Json} {e : DocumentError} {fault : Fault}

/-- Either the record is shown, or what keeps it from being shown is the fault. -/
theorem refusal_spec (h : refusal room j e ≠ e) : Hindered room j (refusal room j e) := by
  rw [refusal] at h ⊢
  cases hobstacle : j.obstacle? room with
  | none =>
    rw [hobstacle] at h
    exact absurd rfl h
  | some fault => exact ⟨fault, rfl, Json.obstacle?_eq_some room j hobstacle⟩

/-- What hinders a member of a record hinders the record as well. -/
theorem hindered_failing {key : String} (hget : j.get? key = some value)
    (h : value.Hinders room fault) : Hindered room j (failing room j fault) := by
  rcases h with ⟨rfl, hdeep⟩ | ⟨rfl, hlong⟩
  · exact ⟨.tooDeep, rfl, .inl ⟨rfl, hdeep.trans (Json.depth_lt_of_get? hget)⟩⟩
  · cases hobstacle : j.obstacle? room with
    | none =>
      have hwritable := ((Json.obstacle?_eq_none_iff room j).mp hobstacle).2
      rw [Json.isWritable_of_get? hget hwritable] at hlong
      cases hlong
    | some fault =>
      have hkind : Json.longInteger.kind = .badValue := rfl
      refine ⟨fault, ?_, Json.obstacle?_eq_some room j hobstacle⟩
      rw [failing, if_pos hkind, hobstacle, Option.getD_some]

/-- A record of type "file" is one that is read as a file. -/
theorem isRecord_iff_of_file (htype : j.get? "type" = some (.str "file")) :
    IsRecord j ↔ ∃ f, FileNode.ofRecord j = .ok f := by
  rw [FileNode.exists_ofRecord_eq_ok_iff]
  constructor
  · rintro (⟨-, hname, hpath, hlisted⟩ | ⟨htype', -⟩)
    · exact ⟨hname, hpath, hlisted⟩
    · simp [htype] at htype'
  · rintro ⟨hname, hpath, hlisted⟩
    exact .file htype hname hpath hlisted

/-- What is said about a record that is none, or what comes in between when it is to be shown. -/
theorem misread_or_hindered_refusal (hj : ¬ IsRecord j) (fault : RecordFault) :
    MisreadRecord j (refusal room j (.malformed j fault)) ∨
      Hindered room j (refusal room j (.malformed j fault)) := by
  by_cases hshown : refusal room j (.malformed j fault) = .malformed j fault
  · rw [hshown]
    exact .inl fun _ _ hfront => .malformed hfront hj
  · exact .inr (refusal_spec hshown)

/-- What comes of a record, if what comes of the contents of directories is as expected. -/
theorem judges_nodeOf {enter : Json → Except DocumentError Inventory}
    (henter : ∀ children, Judges (IsDocument children)
      (fun e => Misread children e ∨ Hindered room children e) (enter children)) (j : Json) :
    Judges (IsRecord j) (fun e => MisreadRecord j e ∨ Hindered room j e) (nodeOf room enter j) := by
  have hhead := recordHead_spec j
  rw [nodeOf]
  split at hhead
  · rename_i fault heq
    rw [heq]
    exact misread_or_hindered_refusal hhead fault
  · rename_i heq
    rw [heq]
    cases hf : FileNode.ofRecord j with
    | ok f => exact (isRecord_iff_of_file hhead).mpr ⟨f, hf⟩
    | error fault =>
      refine misread_or_hindered_refusal (fun hj => ?_) fault
      obtain ⟨f, hf'⟩ := (isRecord_iff_of_file hhead).mp hj
      rw [hf] at hf'
      cases hf'
  · rename_i name children heq
    obtain ⟨htype, hname, hchildren⟩ := hhead
    have hcontents := henter children
    rw [heq]
    simp only
    cases hread : enter children with
    | ok nodes =>
      rw [hread] at hcontents
      obtain ⟨records, rfl, hrecords⟩ := hcontents
      exact IsRecord.directory htype ⟨name, hname⟩ hchildren hrecords
    | error e =>
      rw [hread] at hcontents
      rcases hcontents with hmisread | ⟨fault, rfl, hfault⟩
      · have hkept : MisreadRecord j e := fun _ _ hfront => .contents hfront htype hchildren hmisread
        cases e with
        | fault fault => exact absurd rfl (hmisread.ne_fault fault)
        | _ => exact .inl hkept
      · exact .inr (hindered_failing hchildren hfault)
  · rename_i type heq
    rw [heq]
    simp only
    cases hobstacle : type.obstacle? room with
    | none => exact .inl fun _ _ hfront => .unknownType hfront hhead.1 hhead.2.1 hhead.2.2
    | some fault => exact .inr (hindered_failing hhead.1 (Json.obstacle?_eq_some room type hobstacle))

/-- What comes of a value: an inventory only of a list of records, and else an error about what is wrong or
a fault. -/
theorem judges_ofRecords (room : Nat) (j : Json) :
    Judges (IsDocument j) (fun e => Misread j e ∨ Hindered room j e) (ofRecords room j) := by
  induction room generalizing j with
  | zero => exact .inr ⟨.tooDeep, rfl, .inl ⟨rfl, j.depth_pos⟩⟩
  | succ room ih =>
    cases j with
    | arr records =>
      have haccepts {r : Json} (h : ∃ n, nodeOf room (ofRecords room) r = .ok n) : IsRecord r := by
        obtain ⟨n, hn⟩ := h
        have hjudges := judges_nodeOf ih r
        rwa [hn] at hjudges
      rw [ofRecords_arr]
      cases hread : records.mapM (nodeOf room (ofRecords room)) with
      | ok nodes =>
        exact ⟨records, rfl, fun r hr => haccepts (exists_mapM_eq_ok_iff.mp ⟨nodes, hread⟩ r hr)⟩
      | error e =>
        obtain ⟨front, r, back, rfl, hfront, hr⟩ := mapM_eq_error hread
        have hjudges := judges_nodeOf ih r
        rw [hr] at hjudges
        rcases hjudges with hmisread | ⟨fault, rfl, hfault⟩
        · exact .inl (hmisread front back fun x hx => haccepts (hfront x hx))
        · exact .inr ⟨fault, rfl, hfault.arr (by simp)⟩
    | _ => exact .inl (.notList fun _ h => by cases h)

end Judges

/-- The outcomes of reading a list of records, of which every item gives a node if calls enough are left
for its directories. -/
theorem exists_levels_of_forall {records : List Json}
    (h : ∀ r ∈ records, ∃ n, levelsAt n < r.depth ∧ ∀ room, nodeOf room (ofRecords room) r =
      if levelsAt n ≤ room then .ok n else .error (.fault .tooDeep)) :
    ∃ ns, levels ns < (Json.arr records).depth ∧ ∀ room, ofRecords room (.arr records) =
      if levels ns < room then .ok ns else .error (.fault .tooDeep) := by
  have hitems : ∃ ns, levels ns ≤ Json.depthItems records ∧
      ∀ room, records.mapM (nodeOf room (ofRecords room)) =
        if levels ns ≤ room then .ok ns else .error (.fault .tooDeep) := by
    induction records with
    | nil => exact ⟨[], Nat.le_refl 0, fun _ => rfl⟩
    | cons r records ih =>
      obtain ⟨⟨n, hdepth, hn⟩, hrecords⟩ := List.forall_mem_cons.mp h
      obtain ⟨ns, hdepths, hns⟩ := ih hrecords
      refine ⟨n :: ns, ?_, fun room => ?_⟩
      · rw [levels, Json.depthItems]
        omega
      · rw [List.mapM_cons, hn, hns, levels]
        by_cases hroom : levelsAt n ≤ room
        · by_cases hrooms : levels ns ≤ room
          · rw [if_pos hroom, if_pos hrooms, if_pos (Nat.max_le.mpr ⟨hroom, hrooms⟩)]
            rfl
          · rw [if_pos hroom, if_neg hrooms, if_neg fun h => hrooms (Nat.max_le.mp h).2]
            rfl
        · rw [if_neg hroom, if_neg fun h => hroom (Nat.max_le.mp h).1]
          rfl
  obtain ⟨ns, hdepth, hns⟩ := hitems
  refine ⟨ns, Nat.lt_succ_of_le hdepth, fun room => ?_⟩
  cases room with
  | zero => rfl
  | succ room => simp only [ofRecords_arr, hns, Nat.lt_succ_iff]

/-- A record gives a file or directory, if calls enough are left for the directories in it. -/
theorem exists_levels_of_isRecord {r : Json} (h : IsRecord r) :
    ∃ n, levelsAt n < r.depth ∧ ∀ room, nodeOf room (ofRecords room) r =
      if levelsAt n ≤ room then .ok n else .error (.fault .tooDeep) := by
  induction h with
  | @file r htype hname hpath hlisted =>
    obtain ⟨f, hf⟩ := FileNode.exists_ofRecord_eq_ok_iff.mpr ⟨hname, hpath, hlisted⟩
    refine ⟨.file f, r.depth_pos, fun room => ?_⟩
    rw [nodeOf, recordHead_file htype, levelsAt, if_pos (Nat.zero_le room)]
    simp only [hf]
  | @directory r records htype hname hchildren _ ih =>
    obtain ⟨name, hname⟩ := hname
    obtain ⟨ns, hdepth, hns⟩ := exists_levels_of_forall ih
    refine ⟨.directory name ns, ?_, fun room => ?_⟩
    · have := Json.depth_lt_of_get? hchildren
      rw [levelsAt]
      omega
    · rw [nodeOf, recordHead_directory htype hname hchildren, levelsAt]
      simp only [hns]
      by_cases hroom : levels ns < room
      · have hroom' : levels ns + 1 ≤ room := hroom
        simp only [if_pos hroom, if_pos hroom']
      · have hroom' : ¬ levels ns + 1 ≤ room := hroom
        simp only [if_neg hroom, if_neg hroom']
        rfl

/-- An inventory that was read has fewer directories inside each other than calls were left. -/
theorem levels_lt_of_ofRecords {room : Nat} {j : Json} {inv : Inventory}
    (h : ofRecords room j = .ok inv) : levels inv < room := by
  have hjudges := judges_ofRecords room j
  rw [h] at hjudges
  obtain ⟨records, rfl, hrecords⟩ := hjudges
  obtain ⟨inv', -, hread⟩ := exists_levels_of_forall fun r hr => exists_levels_of_isRecord (hrecords r hr)
  have hinv := hread room
  rw [h] at hinv
  split at hinv
  · cases hinv
    assumption
  · cases hinv

/-- A list of records gives an inventory where calls enough are left for the directories inside each other,
which are fewer than it takes to go through the list, and ends with a fault where they are not. Everything
else is reported as a failure of the document, with a message about a record that is wrong or a value that
is no list, unless there is a fault because the value is too deep for the calls that are left or has an
integer with too many digits. -/
theorem ofRecords_outcome (j : Json) :
    (IsDocument j → ∃ inv, levels inv < j.depth ∧
      ∀ room, ofRecords room j = if levels inv < room then .ok inv else .error (.fault .tooDeep)) ∧
    (¬ IsDocument j → ∀ room, ∃ e, ofRecords room j = .error e ∧
      ((Misread j e ∧ ∃ cause, Trouble.ofDocumentError e =
        .failure { category := .document, message := e.message, cause }) ∨
      ∃ fault, e = .fault fault ∧ j.Hinders room fault)) := by
  constructor
  · rintro ⟨records, rfl, hrecords⟩
    exact exists_levels_of_forall fun r hr => exists_levels_of_isRecord (hrecords r hr)
  · intro hj room
    have hjudges := judges_ofRecords room j
    cases hread : ofRecords room j with
    | ok inv =>
      rw [hread] at hjudges
      exact absurd hjudges hj
    | error e =>
      rw [hread] at hjudges
      refine ⟨e, rfl, hjudges.imp_left fun hmisread => ⟨hmisread, hmisread.ofDocumentError_eq⟩⟩

/-- A directory with a file in it that lists a component of an unknown kind. -/
def unknownKind : Json :=
  .arr [.obj [("type", .str "directory"), ("name", .str "src"), ("children", .arr [
    .obj [("type", .str "file"), ("name", .str "a.js"), ("fullPath", .str "src/a.js"),
      ("definedComponents", .arr [.obj [("name", .str "A"), ("type", .str "hook")]])]])]]

theorem ofRecords_unknownKind_outcome :
    (¬ IsDocument unknownKind ∧ ∃ e, ofRecords 1000 unknownKind = .error e ∧ Misread unknownKind e ∧
      ∃ cause, Trouble.ofDocumentError e =
        .failure { category := .document, message := e.message, cause }) ∧
    IsDocument (.arr []) ∧ ∃ inv, ofRecords 1000 (.arr []) = .ok inv := by
  have hread : ofRecords 1000 unknownKind = .error (.malformed
      (.obj [("type", .str "file"), ("name", .str "a.js"), ("fullPath", .str "src/a.js"),
        ("definedComponents", .arr [.obj [("name", .str "A"), ("type", .str "hook")]])])
      (.unknownKind (.str "hook"))) := rfl
  have hdocument : ¬ IsDocument unknownKind := fun h => by
    obtain ⟨inv, -, hinv⟩ := (ofRecords_outcome unknownKind).1 h
    have hread' := hinv 1000
    rw [hread] at hread'
    split at hread' <;> cases hread'
  have hempty : IsDocument (.arr []) := ⟨[], rfl, by simp⟩
  refine ⟨⟨hdocument, ?_⟩, hempty, ?_⟩
  · obtain ⟨e, he, ⟨hmisread, hreported⟩ | ⟨fault, rfl, -⟩⟩ := (ofRecords_outcome unknownKind).2 hdocument 1000
    · exact ⟨e, he, hmisread, hreported⟩
    · rw [hread] at he
      cases he
  · obtain ⟨inv, hlevels, hinv⟩ := (ofRecords_outcome (.arr [])).1 hempty
    have hroom : levels inv < 1000 := hlevels.trans (by decide)
    exact ⟨inv, (hinv 1000).trans (if_pos hroom)⟩

/-- Directory records inside each other, the innermost of which has something else as its contents. -/
def nestedRecords (contents : Json) : Nat → Json
  | 0 => contents
  | n + 1 => .arr [.obj [("type", .str "directory"), ("name", .str "d"),
      ("children", nestedRecords contents n)]]

theorem not_isDocument_nestedRecords {contents : Json} (h : ¬ IsDocument contents) (n : Nat) :
    ¬ IsDocument (nestedRecords contents n) := by
  induction n with
  | zero => exact h
  | succ n ih =>
    rintro ⟨records, hrecords, hrecord⟩
    cases hrecords
    cases hrecord _ (List.mem_singleton.mpr rfl) with
    | file htype => exact absurd (Json.str.inj (Option.some.inj htype)) (by decide)
    | directory _ _ hchildren hcontents => exact ih ⟨_, Option.some.inj hchildren, hcontents⟩

/-- What the innermost record contains is never looked at if there are as many records as calls. -/
theorem ofRecords_nestedRecords (contents : Json) (n : Nat) :
    ofRecords n (nestedRecords contents n) = .error (.fault .tooDeep) := by
  induction n with
  | zero => rw [ofRecords]
  | succ n ih =>
    rw [nestedRecords, ofRecords_arr, List.mapM_cons, nodeOf, recordHead_directory rfl rfl rfl]
    simp only [ih]
    rfl

/-- A record that is an integer is malformed, but the message cannot show it if it is too long. -/
theorem ofRecords_int {n : Nat} (h : Decimal.digits n = '1' :: List.replicate 4300 '0') :
    ofRecords 1000 (.arr [.int n]) = .error (.fault Json.longInteger) := by
  have hobstacle : (Json.int n).obstacle? 999 = some Json.longInteger := by
    rw [Json.obstacle?, Int.natAbs_natCast, h, if_pos (by decide +kernel)]
  rw [ofRecords_arr, List.mapM_cons, nodeOf]
  simp only [recordHead, Json.member, bind, Except.bind, refusal, hobstacle, Option.map_some,
    Option.getD_some]

/-- Not every value that is no list of records is reported as such: not one whose records lie too deep in
each other for the calls that are left, and not one with an integer too long to be shown. -/
theorem not_always_reported :
    (¬ IsDocument (nestedRecords (.obj []) 1000) ∧
      ofRecords 1000 (nestedRecords (.obj []) 1000) = .error (.fault .tooDeep)) ∧
    ∃ n : Nat, n = 10 ^ 4300 ∧ ¬ IsDocument (.arr [.int n]) ∧
      ofRecords 1000 (.arr [.int n]) = .error (.fault Json.longInteger) := by
  refine ⟨⟨not_isDocument_nestedRecords ?_ 1000, ofRecords_nestedRecords _ 1000⟩, _, rfl, ?_, ?_⟩
  · rintro ⟨_, hrecords, _⟩
    cases hrecords
  · rintro ⟨records, hrecords, hrecord⟩
    cases hrecords
    cases hrecord _ (List.mem_singleton.mpr rfl) with
    | file htype => cases htype
    | directory htype => cases htype
  · exact ofRecords_int (digits_pow 4300)

end Inventory

/-! ## Normal forms -/

namespace Component

/-- What is left of a component when its record has been written and read. -/
def normal (c : Component) : Component :=
  { c with
    wrappedIn := if c.wrappedIn.truthy then c.wrappedIn else .null
    declarationStart := if c.hasLocator then c.declarationStart else .null
    declarationType := if c.hasLocator then c.declarationType else .null }

@[simp]
theorem truthy_wrappedIn_normal (c : Component) : c.normal.wrappedIn.truthy = c.wrappedIn.truthy := by
  simp only [normal]
  split <;> simp_all [Json.truthy]

@[simp]
theorem hasLocator_normal (c : Component) : c.normal.hasLocator = c.hasLocator := by
  cases h : c.hasLocator with
  | true =>
    simp only [normal, h, if_true]
    exact h
  | false =>
    simp only [normal, h, Bool.false_eq_true, if_false]
    rfl

theorem isRegular_normal (c : Component) : c.normal.isRegular = true := by
  have hlocator : c.normal.declarationStart.isNull = c.normal.declarationType.isNull := by
    cases h : c.hasLocator with
    | true =>
      have hboth := h
      rw [hasLocator, Bool.and_eq_true, Bool.not_eq_true', Bool.not_eq_true'] at hboth
      simp [normal, h, hboth]
    | false => simp [normal, h]
  rw [isRegular, hlocator, beq_self_eq_true, Bool.and_true]
  cases h : c.wrappedIn.truthy <;> simp [normal, h, Json.isNull]

/-- The record does not tell a component from its normal form. -/
theorem toRecord_normal (c : Component) : c.normal.toRecord = c.toRecord := by
  rw [toRecord, toRecord, truthy_wrappedIn_normal, hasLocator_normal]
  cases hwrapper : c.wrappedIn.truthy <;> cases hlocator : c.hasLocator <;>
    simp [normal, hwrapper, hlocator]

end Component

namespace FileNode

/-- What is left of a file when its record has been written and read. -/
def normal (f : FileNode) : FileNode := { f with components := f.components.map Component.normal }

theorem toRecord_normal (f : FileNode) : f.normal.toRecord = f.toRecord := by
  simp [normal, toRecord, Component.toRecord_normal]

/-- Two files agree in everything that decides what is done with them: where they are, whether they are
instrumented, and the names, the kinds and the locators of their components. -/
structure Agrees (f g : FileNode) : Prop where
  name : f.name = g.name
  fullPath : f.fullPath = g.fullPath
  shouldInstrument : f.shouldInstrument = g.shouldInstrument
  components : List.Forall₂ (fun c d => c.name = d.name ∧ c.kind = d.kind ∧ c.hasLocator = d.hasLocator)
    f.components g.components

theorem agrees_normal (f : FileNode) : f.Agrees f.normal where
  name := rfl
  fullPath := rfl
  shouldInstrument := by simp [shouldInstrument, normal]
  components :=
    List.forall₂_map_right_iff.mpr (List.forall₂_same.mpr fun c _ => ⟨rfl, rfl, c.hasLocator_normal.symm⟩)

end FileNode

namespace ProjectNode

mutual

/-- What is left of a file or directory when its record has been written and read. -/
def normal : ProjectNode → ProjectNode
  | .file f => .file f.normal
  | .directory name children => .directory name (normalAll children)

/-- What is left of several files and directories when their records have been written and read. -/
def normalAll : List ProjectNode → List ProjectNode
  | [] => []
  | n :: ns => n.normal :: normalAll ns

end

theorem normalAll_append (ms ns : List ProjectNode) :
    normalAll (ms ++ ns) = normalAll ms ++ normalAll ns := by
  induction ms with
  | nil => rfl
  | cons m ms ih => rw [List.cons_append, normalAll, ih, normalAll, List.cons_append]

end ProjectNode

namespace Inventory

open ProjectNode

mutual

theorem recordOf_normal : (n : ProjectNode) → recordOf n.normal = recordOf n
  | .file f => by rw [normal, recordOf, FileNode.toRecord_normal, recordOf]
  | .directory name children => by rw [normal, recordOf, recordsOf_normalAll children, recordOf]

theorem recordsOf_normalAll : (ns : List ProjectNode) → recordsOf (normalAll ns) = recordsOf ns
  | [] => rfl
  | n :: ns => by rw [normalAll, recordsOf, recordOf_normal n, recordsOf_normalAll ns, recordsOf]

end

mutual

theorem all_isRegular_normal : (n : ProjectNode) →
    n.normal.all (·.components.all Component.isRegular) (fun _ => true) = true
  | .file f => by simp [normal, ProjectNode.all, FileNode.normal, Component.isRegular_normal]
  | .directory name children => by
    rw [normal, ProjectNode.all, Bool.true_and]
    exact isRegular_normalAll children

theorem isRegular_normalAll : (ns : List ProjectNode) → isRegular (normalAll ns) = true
  | [] => rfl
  | n :: ns => Bool.and_eq_true_iff.mpr ⟨all_isRegular_normal n, isRegular_normalAll ns⟩

end

/-- The records of an inventory do not tell it from its normal form. -/
theorem toRecords_normalAll (inv : Inventory) : toRecords (normalAll inv) = toRecords inv := by
  rw [toRecords, recordsOf_normalAll, toRecords]

mutual

/-- Normal forms have the same directories. -/
theorem levelsAt_normal : (n : ProjectNode) → levelsAt n.normal = levelsAt n
  | .file _ => rfl
  | .directory name children => by rw [normal, levelsAt, levels_normalAll children, levelsAt]

theorem levels_normalAll : (ns : List ProjectNode) → levels (normalAll ns) = levels ns
  | [] => rfl
  | n :: ns => by rw [normalAll, levels, levelsAt_normal n, levels_normalAll ns, levels]

end

/-- The records of an inventory describe its normal form. -/
theorem ofRecords_toRecords_normal {inv : Inventory} {room : Nat} (hroom : levels inv < room) :
    ofRecords room (toRecords inv) = .ok (normalAll inv) := by
  rw [← toRecords_normalAll]
  exact ofRecords_toRecords (isRegular_normalAll inv) (by rwa [levels_normalAll])

/-- The normal form has the same files in the same order. -/
theorem drain_normalAll (ns : List ProjectNode) : drain (normalAll ns) = (drain ns).map FileNode.normal := by
  induction ns using drain.induct with
  | case1 => simp [normalAll, drain]
  | case2 f rest ih => rw [normalAll, normal, drain, ih, drain, List.map_cons]
  | case3 name children rest ih => rw [normalAll, normal, drain, ← normalAll_append, ih, drain]

/-- An inventory that was read is not too deep for the calls that were left. Then its own records can be made
and read with them, they are the records of what is read from them, and that agrees with the inventory file by
file. -/
theorem ofRecords_toRecords_settles (room : Nat) (inv : Inventory) :
    (∀ j, ofRecords room j = .ok inv → levels inv < room) ∧
      (levels inv < room →
        ∃ again, record room inv = .ok inv.toRecords ∧ ofRecords room inv.toRecords = .ok again ∧
          record room again = .ok inv.toRecords ∧ List.Forall₂ FileNode.Agrees inv.files again.files) := by
  refine ⟨fun j h => levels_lt_of_ofRecords h, fun hroom => ?_⟩
  refine ⟨normalAll inv, ?_, ofRecords_toRecords_normal hroom, ?_, ?_⟩
  · rw [record, if_neg (Nat.not_le.mpr hroom)]
  · rw [record, levels_normalAll, if_neg (Nat.not_le.mpr hroom), toRecords_normalAll]
  · rw [files, files, drain_normalAll]
    exact List.forall₂_map_right_iff.mpr (List.forall₂_same.mpr fun f _ => f.agrees_normal)

/-- A component with an empty wrapper and one half of a locator. -/
def halfLocated : Component :=
  { name := .str "A", kind := .classBased, wrappedIn := .str "", declarationStart := .int 6 }

/-- Both are lost. -/
example : Component.ofRecord halfLocated.toRecord = .ok { name := .str "A", kind := .classBased } := rfl

/-- A file with that component, in a directory. -/
def halfLocatedFile : Inventory :=
  [.directory (.str "src") [.file
    { name := .str "a.js", fullPath := .str "src/a.js", components := [halfLocated] }]]

/-- A document that describes it. -/
def halfLocatedDocument : Json :=
  .arr [.obj [("type", .str "directory"), ("name", .str "src"), ("children", .arr [
    .obj [("type", .str "file"), ("name", .str "a.js"), ("fullPath", .str "src/a.js"),
      ("definedComponents", .arr [.obj [("name", .str "A"), ("type", .str "class"), ("wrappedIn", .str ""),
        ("declarationStart", .int 6)]])]])]]

theorem ofRecords_toRecords_settles_halfLocated :
    ofRecords 10 halfLocatedDocument = .ok halfLocatedFile ∧ levels halfLocatedFile = 1 ∧
      ∃ again, record 10 halfLocatedFile = .ok halfLocatedFile.toRecords ∧
        ofRecords 10 halfLocatedFile.toRecords = .ok again ∧ record 10 again = .ok halfLocatedFile.toRecords ∧
        List.Forall₂ FileNode.Agrees halfLocatedFile.files again.files := by
  obtain ⟨hdeep, hsettles⟩ := ofRecords_toRecords_settles 10 halfLocatedFile
  exact ⟨rfl, rfl, hsettles (hdeep halfLocatedDocument rfl)⟩

end Inventory

end JsxTagger
