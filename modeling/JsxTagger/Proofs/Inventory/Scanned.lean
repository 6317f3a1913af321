import JsxTagger.Emit.Layout
import JsxTagger.Inventory.Scan
import JsxTagger.Proofs.Component.Declared
import JsxTagger.Proofs.Run.State

/-!
# Inventories of a scan

What is known of an inventory that was scanned (`Inventory.Scanned`): the names in a directory are
names and no two are the same, and every file is known by the names that lead to it from the input
root. `scan_scanned` says that a scan makes such an inventory and touches no file but the log.

The directories and the files of an inventory are listed with their names from the root
(`directoriesAt`, `filesAt`); in an inventory that was scanned no two are at the same place, and all lie
in directories that are listed too.
-/

namespace JsxTagger

open Files
open FileSystem (isProperName)

/-! ## Paths of names -/

namespace Files.Path

theorem splitSlashes_append {name : List Char} (h : '/' ∉ name) (cs : List Char) :
    splitSlashes (name ++ '/' :: cs) = name :: splitSlashes cs := by
  induction name with
  | nil => rfl
  | cons c name ih =>
    have hc : c ≠ '/' := fun heq => h (heq ▸ List.mem_cons_self)
    rw [List.cons_append, splitSlashes, ih fun hmem => h (List.mem_cons_of_mem c hmem)]
    exact hc

theorem splitSlashes_name {name : List Char} (h : '/' ∉ name) : splitSlashes name = [name] := by
  induction name with
  | nil => rfl
  | cons c name ih =>
    have hc : c ≠ '/' := fun heq => h (heq ▸ List.mem_cons_self)
    rw [splitSlashes, ih fun hmem => h (List.mem_cons_of_mem c hmem)]
    exact hc

theorem splitSlashes_intercalate {names : List (List Char)} (hne : names ≠ [])
    (h : ∀ name ∈ names, '/' ∉ name) : splitSlashes (['/'].intercalate names) = names := by
  induction names with
  | nil => exact absurd rfl hne
  | cons name names ih =>
    rw [List.forall_mem_cons] at h
    cases names with
    | nil => simpa using splitSlashes_name h.1
    | cons second names =>
      rw [List.intercalate_cons_cons, List.append_assoc, List.singleton_append,
        splitSlashes_append h.1, ih (List.cons_ne_nil second names) h.2]

/-- Names that are separated by slashes are the path through these names. -/
theorem ofText_intercalate {names : List String} (h : names.all isProperName = true) :
    ofText ("/".intercalate names) = ⟨.relative, names⟩ := by
  have hproper {name : String} (hname : isProperName name = true) :
      name.toList ≠ [] ∧ name.toList ≠ ['.'] ∧ '/' ∉ name.toList := by
    rw [isProperName, Bool.and_eq_true, Bool.and_eq_true, Bool.and_eq_true] at hname
    obtain ⟨⟨⟨hempty, hdot⟩, -⟩, hslash⟩ := hname
    refine ⟨fun heq => ?_, fun heq => ?_, by simpa using hslash⟩
    · rw [String.toList_eq_nil_iff.mp heq] at hempty
      cases hempty
    · rw [← String.ofList_toList (s := name), heq] at hdot
      cases hdot
  cases names with
  | nil => rfl
  | cons first rest =>
    have hall := List.all_eq_true.mp h
    have htext : ("/".intercalate (first :: rest)).toList =
        ['/'].intercalate ((first :: rest).map String.toList) := String.toList_intercalate
    have hnames : splitSlashes (['/'].intercalate ((first :: rest).map String.toList)) =
        (first :: rest).map String.toList := by
      refine splitSlashes_intercalate (by simp) fun name hmem => ?_
      obtain ⟨part, hpart, rfl⟩ := List.mem_map.mp hmem
      exact (hproper (hall part hpart)).2.2
    -- the first name is not empty, so the path does not begin with a slash
    have hanchor : anchorOf (['/'].intercalate ((first :: rest).map String.toList)) = .relative := by
      obtain ⟨hempty, -, hslash⟩ := hproper (hall first List.mem_cons_self)
      obtain ⟨c, cs, hfirst⟩ := List.exists_cons_of_ne_nil hempty
      have hc : c ≠ '/' := fun heq => hslash (by rw [hfirst, heq]; exact List.mem_cons_self)
      obtain ⟨more, hmore⟩ : ∃ more,
          ['/'].intercalate ((first :: rest).map String.toList) = c :: more := by
        cases rest with
        | nil => exact ⟨cs, by simpa using hfirst⟩
        | cons second rest =>
          rw [List.map_cons, List.map_cons, List.intercalate_cons_cons, hfirst]
          exact ⟨_, rfl⟩
      rw [hmore]
      exact anchorOf.eq_4 _ (by simp [hc]) (by simp [hc]) (by simp [hc])
    rw [ofText, htext, Path.names, hnames, hanchor, List.filter_eq_self.mpr, List.map_map]
    · simp
    · intro name hmem
      obtain ⟨part, hpart, rfl⟩ := List.mem_map.mp hmem
      obtain ⟨hempty, hdot, -⟩ := hproper (hall part hpart)
      simp [hempty, hdot]

end Files.Path

namespace Inventory

/-! ## Places -/

/-- The name of a file or a directory. -/
def nameOf : ProjectNode → String
  | .file f => f.name.plain
  | .directory name _ => name.plain

/-- The directories of an inventory that lies at the given names, each by its names from the root. -/
def directoriesAt (rel : List String) : List ProjectNode → List (List String)
  | [] => []
  | .file _ :: ns => directoriesAt rel ns
  | .directory name children :: ns =>
    (rel ++ [name.plain]) :: directoriesAt (rel ++ [name.plain]) children ++ directoriesAt rel ns
termination_by ns => ProjectNode.sizeAll ns
decreasing_by
  all_goals simp only [ProjectNode.sizeAll, ProjectNode.size]
  all_goals omega

/-- The files of an inventory that lies at the given names, each with its names from the root. -/
def filesAt (rel : List String) : List ProjectNode → List (List String × FileNode)
  | [] => []
  | .file f :: ns => (rel ++ [f.name.plain], f) :: filesAt rel ns
  | .directory name children :: ns => filesAt (rel ++ [name.plain]) children ++ filesAt rel ns
termination_by ns => ProjectNode.sizeAll ns
decreasing_by
  all_goals simp only [ProjectNode.sizeAll, ProjectNode.size]
  all_goals omega

theorem directoriesAt_append (rel : List String) (ms ns : List ProjectNode) :
    directoriesAt rel (ms ++ ns) = directoriesAt rel ms ++ directoriesAt rel ns := by
  induction ms with
  | nil => simp [directoriesAt]
  | cons m ms ih => cases m <;> simp [directoriesAt, ih]

theorem filesAt_append (rel : List String) (ms ns : List ProjectNode) :
    filesAt rel (ms ++ ns) = filesAt rel ms ++ filesAt rel ns := by
  induction ms with
  | nil => simp [filesAt]
  | cons m ms ih => cases m <;> simp [filesAt, ih]

/-- The places of everything in an inventory that lies at the given names. -/
def placesAt (rel : List String) (ns : List ProjectNode) : List (List String) :=
  directoriesAt rel ns ++ (filesAt rel ns).map (·.1)

theorem mem_placesAt {rel : List String} {ns : List ProjectNode} {place : List String × FileNode}
    (hmem : place ∈ filesAt rel ns) : place.1 ∈ placesAt rel ns :=
  List.mem_append_right _ (List.mem_map_of_mem hmem)

/-- An inventory, at the given names, of what is found below a path: its names are names and differ
from each other, and its files know where they are and hold components that can be bound. -/
inductive Scanned (base : FileSystem) (root : Path) : List String → List ProjectNode → Prop where
  | nil {rel : List String} : Scanned base root rel []
  | file {rel : List String} {name : String} {f : FileNode} {ns : List ProjectNode}
      {at_ : Location} {mode : Nat} {content : Bytes} (hname : f.name = .str name)
      (hproper : isProperName name = true) (hshown : isHidden name = false)
      (hbindable : Classify.Bindable f.components) (hfresh : name ∉ ns.map nameOf)
      (hpath : f.fullPath = .str ("/".intercalate (rel ++ [name])))
      (hat : base.locate (root.join ⟨.relative, rel ++ [name]⟩) = .ok at_)
      (hfile : base.get? at_ = some (.file mode content)) (hrest : Scanned base root rel ns) :
      Scanned base root rel (.file f :: ns)
  | directory {rel : List String} {name : String} {children ns : List ProjectNode}
      (hproper : isProperName name = true) (hfresh : name ∉ ns.map nameOf)
      (hchildren : Scanned base root (rel ++ [name]) children) (hrest : Scanned base root rel ns) :
      Scanned base root rel (.directory (.str name) children :: ns)

namespace Scanned

variable {base : FileSystem} {root : Path} {rel : List String} {ns : List ProjectNode}

@[simp]
theorem placesAt_nil (rel : List String) : placesAt rel [] = [] := by
  rw [placesAt, directoriesAt, filesAt]
  rfl

theorem placesAt_file (rel : List String) (f : FileNode) (ns : List ProjectNode) :
    (placesAt rel (.file f :: ns)).Perm ((rel ++ [f.name.plain]) :: placesAt rel ns) := by
  rw [placesAt, placesAt, directoriesAt, filesAt, List.map_cons]
  exact List.perm_middle

theorem placesAt_directory (rel : List String) (name : Json) (children ns : List ProjectNode) :
    (placesAt rel (.directory name children :: ns)).Perm
      ((rel ++ [name.plain]) ::
        (placesAt (rel ++ [name.plain]) children ++ placesAt rel ns)) := by
  simp only [placesAt, directoriesAt, filesAt, List.map_append, List.cons_append]
  refine List.Perm.cons _ ?_
  rw [List.append_assoc, List.append_assoc]
  refine List.Perm.append_left _ ?_
  rw [← List.append_assoc, ← List.append_assoc]
  exact List.perm_append_comm.append_right _

/-- Every place in an inventory is below one of its names. -/
theorem exists_of_mem_placesAt (h : Scanned base root rel ns) {names : List String}
    (hmem : names ∈ placesAt rel ns) :
    ∃ name more, names = rel ++ name :: more ∧ name ∈ ns.map nameOf ∧
      (name :: more).all isProperName = true := by
  induction h with
  | nil => simp at hmem
  | @file rel name f ns _ _ _ hname hproper _ _ _ _ _ _ _ ih =>
    rw [(placesAt_file rel f ns).mem_iff, List.mem_cons, hname] at hmem
    rcases hmem with rfl | hmem
    · exact ⟨name, [], rfl, by simp [nameOf, hname, Json.plain], by simp [hproper]⟩
    · obtain ⟨other, more, rfl, hother, hall⟩ := ih hmem
      exact ⟨other, more, rfl, List.mem_cons_of_mem _ hother, hall⟩
  | @directory rel name children ns hproper _ _ _ ihChildren ih =>
    rw [(placesAt_directory rel (.str name) children ns).mem_iff, List.mem_cons,
      List.mem_append] at hmem
    rcases hmem with rfl | hmem | hmem
    · exact ⟨name, [], rfl, List.mem_cons_self, by simp [hproper]⟩
    · obtain ⟨other, more, rfl, -, hall⟩ := ihChildren hmem
      refine ⟨name, other :: more, by simp, List.mem_cons_self, ?_⟩
      rw [List.all_cons, hproper, hall]
      rfl
    · obtain ⟨other, more, rfl, hother, hall⟩ := ih hmem
      exact ⟨other, more, rfl, List.mem_cons_of_mem _ hother, hall⟩

/-- No two things in an inventory are at the same place. -/
theorem nodup_placesAt (h : Scanned base root rel ns) : (placesAt rel ns).Nodup := by
  induction h with
  | nil => simp
  | @file rel name f ns _ _ _ hname _ _ _ hfresh _ _ _ hrest ih =>
    rw [(placesAt_file rel f ns).nodup_iff, List.nodup_cons, hname]
    refine ⟨fun hmem => ?_, ih⟩
    obtain ⟨other, more, heq, hother, -⟩ := hrest.exists_of_mem_placesAt hmem
    rw [(List.cons.inj (List.append_cancel_left heq)).1.symm] at hother
    exact hfresh hother
  | @directory rel name children ns _ hfresh hchildren hrest ihChildren ih =>
    rw [(placesAt_directory rel (.str name) children ns).nodup_iff, List.nodup_cons,
      List.nodup_append, List.mem_append]
    refine ⟨?_, ihChildren, ih, ?_⟩
    · rintro (hmem | hmem)
      · obtain ⟨other, more, heq, -, -⟩ := hchildren.exists_of_mem_placesAt hmem
        exact absurd heq.symm (by simp [Json.plain])
      · obtain ⟨other, more, heq, hother, -⟩ := hrest.exists_of_mem_placesAt hmem
        rw [(List.cons.inj (List.append_cancel_left heq)).1.symm] at hother
        exact hfresh hother
    · intro inner hinner beside hbeside heq
      obtain ⟨first, more, rfl, -, -⟩ := hchildren.exists_of_mem_placesAt hinner
      obtain ⟨other, more', rfl, hother, -⟩ := hrest.exists_of_mem_placesAt hbeside
      rw [List.append_assoc, List.singleton_append] at heq
      rw [(List.cons.inj (List.append_cancel_left heq)).1.symm] at hother
      exact hfresh hother

/-- What lies in an inventory lies in one of its directories. -/
theorem dropLast_mem (h : Scanned base root rel ns) {names : List String}
    (hmem : names ∈ placesAt rel ns) : names.dropLast = rel ∨ names.dropLast ∈ directoriesAt rel ns := by
  induction h with
  | nil => simp at hmem
  | @file rel name f ns _ _ _ _ _ _ _ _ _ _ _ _ ih =>
    rw [(placesAt_file rel f ns).mem_iff, List.mem_cons] at hmem
    rw [directoriesAt]
    rcases hmem with rfl | hmem
    · exact .inl List.dropLast_concat
    · exact ih hmem
  | @directory rel name children ns _ _ _ _ ihChildren ih =>
    rw [(placesAt_directory rel (.str name) children ns).mem_iff, List.mem_cons,
      List.mem_append] at hmem
    rw [directoriesAt, List.cons_append, List.mem_cons, List.mem_append]
    rcases hmem with rfl | hmem | hmem
    · exact .inl List.dropLast_concat
    · rcases ihChildren hmem with heq | hin
      · exact .inr (.inl heq)
      · exact .inr (.inr (.inl hin))
    · exact (ih hmem).imp_right fun hin => .inr (.inr hin)

/-- A file knows its path, and the path leads to a file. -/
theorem of_mem_filesAt (h : Scanned base root rel ns) {place : List String × FileNode}
    (hmem : place ∈ filesAt rel ns) :
    place.2.fullPath = .str ("/".intercalate place.1) ∧
      ∃ at_ mode content, base.locate (root.join ⟨.relative, place.1⟩) = .ok at_ ∧
        base.get? at_ = some (.file mode content) := by
  induction h with
  | nil =>
    rw [filesAt] at hmem
    cases hmem
  | @file rel name f ns at_ mode content hname _ _ _ _ hpath hat hfile _ ih =>
    rw [filesAt, List.mem_cons] at hmem
    rcases hmem with rfl | hmem
    · rw [hname]
      exact ⟨hpath, at_, mode, content, hat, hfile⟩
    · exact ih hmem
  | directory _ _ _ _ ihChildren ih =>
    rw [filesAt, List.mem_append] at hmem
    exact hmem.elim ihChildren ih

/-- A file is not hidden, and its components can be bound. -/
theorem shown_of_mem_filesAt (h : Scanned base root rel ns) {place : List String × FileNode}
    (hmem : place ∈ filesAt rel ns) :
    (∃ front name, place.1 = front ++ [name] ∧ isHidden name = false) ∧
      Classify.Bindable place.2.components := by
  induction h with
  | nil =>
    rw [filesAt] at hmem
    cases hmem
  | @file rel name f ns _ _ _ hname _ hshown hbindable _ _ _ _ _ ih =>
    rw [filesAt, List.mem_cons] at hmem
    rcases hmem with rfl | hmem
    · rw [hname]
      exact ⟨⟨rel, name, rfl, hshown⟩, hbindable⟩
    · exact ih hmem
  | directory _ _ _ _ ihChildren ih =>
    rw [filesAt, List.mem_append] at hmem
    exact hmem.elim ihChildren ih

/-- Nothing in an inventory is where its root is. -/
theorem ne_nil (h : Scanned base root rel ns) {names : List String} (hmem : names ∈ placesAt rel ns) :
    names ≠ [] := by
  obtain ⟨name, more, rfl, -, -⟩ := h.exists_of_mem_placesAt hmem
  simp

/-- The names that lead to something from the root are names. -/
theorem isProper_of_mem (h : Scanned base root [] ns) {names : List String}
    (hmem : names ∈ placesAt [] ns) : names.all isProperName = true := by
  obtain ⟨name, more, rfl, -, hall⟩ := h.exists_of_mem_placesAt hmem
  exact hall

/-- The names that lead to a file from the root are names. -/
theorem isProper (h : Scanned base root [] ns) {place : List String × FileNode}
    (hmem : place ∈ filesAt [] ns) : place.1.all isProperName = true :=
  h.isProper_of_mem (mem_placesAt hmem)

/-- Everything on the way to what lies in an inventory lies in it too. -/
theorem mem_of_prefix (h : Scanned base root [] ns) {front names : List String}
    (hmem : names ∈ placesAt [] ns) (hfront : front <+: names) (hne : front ≠ []) :
    front ∈ placesAt [] ns := by
  obtain ⟨back, rfl⟩ := hfront
  induction back using List.reverseRecOn with
  | nil => rwa [List.append_nil] at hmem
  | append_singleton back name ih =>
    refine ih ?_
    rw [← List.append_assoc] at hmem
    have hparent := h.dropLast_mem hmem
    rw [List.dropLast_concat] at hparent
    rcases hparent with hnil | hdir
    · exact absurd (List.append_eq_nil_iff.mp hnil).1 hne
    · exact List.mem_append_left _ hdir

theorem layoutIn_eq (h : Scanned base root rel ns) (room : Nat) :
    Emit.layoutIn room ⟨.relative, rel⟩ ns =
      if levels ns ≤ room then
        .ok ((directoriesAt rel ns).map (⟨.relative, ·⟩), (filesAt rel ns).map (·.2))
      else .error .tooDeep := by
  induction h generalizing room with
  | nil =>
    rw [Emit.layoutIn, directoriesAt, filesAt]
    rfl
  | @file rel name f ns _ _ _ _ _ _ _ _ _ _ _ _ ih =>
    rw [Emit.layoutIn, ih, directoriesAt, filesAt, levels, levelsAt, Nat.zero_max]
    by_cases hroom : levels ns ≤ room
    · simp only [if_pos hroom]
      rfl
    · simp only [if_neg hroom]
      rfl
  | @directory rel name children ns hproper _ _ _ ihChildren ih =>
    have hname : Path.ofText name = ⟨.relative, [name]⟩ := by
      have hsingle : Path.ofText ("/".intercalate [name]) = ⟨.relative, [name]⟩ :=
        Path.ofText_intercalate (by simp [hproper])
      rwa [String.intercalate_singleton] at hsingle
    have hjoin : Emit.joinValue ⟨.relative, rel⟩ (.str name) = .ok ⟨.relative, rel ++ [name]⟩ := by
      rw [Emit.joinValue, hname]
      rfl
    rw [Emit.layoutIn, hjoin, levels, levelsAt]
    cases room with
    | zero =>
      rw [if_neg (by omega)]
      rfl
    | succ room =>
      simp only [bind, Except.bind, if_neg (Nat.succ_ne_zero room), Nat.add_sub_cancel, ihChildren, ih,
        directoriesAt, filesAt, Json.plain, List.map_append, List.map_cons, List.cons_append]
      by_cases hchildren : levels children ≤ room
      · by_cases hrest : levels ns ≤ room + 1
        · rw [if_pos (Nat.max_le.mpr ⟨Nat.succ_le_succ hchildren, hrest⟩)]
          simp only [if_pos hchildren, if_pos hrest]
          rfl
        · rw [if_neg (fun hmax => hrest (Nat.max_le.mp hmax).2)]
          simp only [if_pos hchildren, if_neg hrest]
      · rw [if_neg (fun hmax => hchildren (Nat.le_of_succ_le_succ (Nat.max_le.mp hmax).1))]
        simp only [if_neg hchildren]

/-- The layout of an inventory lists its directories and its files, if calls enough are left for the
directories inside each other. -/
theorem layout_eq (h : Scanned base root rel ns) (room : Nat) :
    Emit.layout room ⟨.relative, rel⟩ ns =
      if levels ns < room then
        .ok ((directoriesAt rel ns).map (⟨.relative, ·⟩), (filesAt rel ns).map (·.2))
      else .error .tooDeep := by
  cases room with
  | zero => rfl
  | succ room =>
    rw [Emit.layout, if_neg (Nat.succ_ne_zero room), Nat.add_sub_cancel, h.layoutIn_eq]
    simp only [Nat.lt_succ_iff]

theorem of_layout_eq_ok (h : Scanned base root rel ns) {room : Nat} {dirs : List Path} {files : List FileNode}
    (hlayout : Emit.layout room ⟨.relative, rel⟩ ns = .ok (dirs, files)) :
    levels ns < room ∧ dirs = (directoriesAt rel ns).map (⟨.relative, ·⟩) ∧ files = (filesAt rel ns).map (·.2) := by
  rw [h.layout_eq] at hlayout
  split at hlayout
  · rename_i hroom
    cases hlayout
    exact ⟨hroom, rfl, rfl⟩
  · cases hlayout

end Scanned

theorem drain_append (rel : List String) (ns rest : List ProjectNode) :
    drain (ns ++ rest) = (filesAt rel ns).map (·.2) ++ drain rest := by
  induction rel, ns using filesAt.induct generalizing rest with
  | case1 rel =>
    rw [filesAt]
    rfl
  | case2 rel f ns ih =>
    rw [List.cons_append, drain, filesAt, ih]
    rfl
  | case3 rel name children ns ihChildren ih =>
    rw [List.cons_append, drain, filesAt, ihChildren, ih, List.map_append, List.append_assoc]

/-- The files of an inventory are those that are listed with their places. -/
theorem files_eq (rel : List String) (inv : Inventory) : inv.files = (filesAt rel inv).map (·.2) := by
  have hdrain := drain_append rel inv []
  rwa [List.append_nil, drain, List.append_nil] at hdrain

/-- Adding up counts the files, if calls enough are left for the directories inside each other. -/
theorem sumFiles_eq (rel : List String) (ns : List ProjectNode) (room : Nat) :
    sumFiles room ns = if 2 * levels ns ≤ room then .ok (filesAt rel ns).length else .error .tooDeep := by
  induction rel, ns using filesAt.induct generalizing room with
  | case1 rel =>
    rw [sumFiles, filesAt, levels, if_pos (Nat.zero_le room)]
    rfl
  | case2 rel f ns ih =>
    rw [sumFiles, filesOf, ih, filesAt, levels, levelsAt, Nat.zero_max, List.length_cons, Nat.add_comm]
    by_cases hroom : 2 * levels ns ≤ room
    · simp only [if_pos hroom]
      rfl
    · simp only [if_neg hroom]
      rfl
  | case3 rel name children ns ihChildren ih =>
    have hlevels : 2 * max (levels children + 1) (levels ns) ≤ room ↔
        ¬ room < 2 ∧ 2 * levels children ≤ room - 2 ∧ 2 * levels ns ≤ room := by omega
    rw [sumFiles, filesOf, ihChildren, ih, filesAt, levels, levelsAt, List.length_append]
    simp only [hlevels]
    by_cases hroom : room < 2
    · simp only [hroom, if_true, not_true_eq_false, false_and, if_false]
      rfl
    · by_cases hchildren : 2 * levels children ≤ room - 2
      · by_cases hrest : 2 * levels ns ≤ room
        · simp only [hroom, hchildren, hrest, if_true, if_false, not_false_eq_true, and_self]
          rfl
        · simp only [hroom, hchildren, hrest, if_true, if_false, and_false]
          rfl
      · simp only [hroom, hchildren, if_false, false_and, and_false]
        rfl

/-- The number of files of an inventory. -/
theorem countFiles_eq (room : Nat) (inv : Inventory) :
    countFiles room inv =
      if 2 * (levels inv + 1) ≤ room then .ok inv.files.length else .error .tooDeep := by
  rw [countFiles, files_eq [], List.length_map]
  by_cases hroom : room < 2
  · rw [if_pos hroom, if_neg (by omega)]
  · rw [if_neg hroom, sumFiles_eq []]
    by_cases hlevels : 2 * levels inv ≤ room - 2
    · rw [if_pos hlevels, if_pos (by omega)]
    · rw [if_neg hlevels, if_neg (by omega)]

/-! ## Scanning -/

/-- An entry of a directory, by the names on the way to it. -/
theorem join_entry (root : Path) (names : List String) (name : String) :
    (root.join ⟨.relative, names⟩).join ⟨.relative, [name]⟩ = root.join ⟨.relative, names ++ [name]⟩ := by
  simp [Path.join, Path.isAbsolute]

/-- What comes of scanning what lies at the given names: the files are left alone, and only files that
hold nothing to instrument are noted as failures. -/
structure ScanOf (s : RunState) (root : Path) (rel : List String) (before : RunState)
    (result : List ProjectNode × RunState) : Prop where
  steady : s.Steady result.2
  scanned : Scanned s.files root rel result.1
  failures : ∀ x ∈ result.2.context.scanFailures, x ∈ before.context.scanFailures ∨
    ∃ place ∈ filesAt rel result.1, place.2.fullPath = .str x.1 ∧ place.2.shouldInstrument = false

section Scanning

variable {env : Environment} {settings : Settings} {s before : RunState}
  (hlog : s.LogsTo s.files)

include hlog

theorem scanFile_steady (env : Environment) (settings : Settings) (hbefore : s.Steady before) (p : Path) (rel : String) :
    s.Steady (scanFile env settings p rel before).2 ∧
      (scanFile env settings p rel before).1.name = .str p.name ∧
      (scanFile env settings p rel before).1.fullPath = .str rel ∧
      Classify.Bindable (scanFile env settings p rel before).1.components ∧
      ∀ x ∈ (scanFile env settings p rel before).2.context.scanFailures,
        x ∈ before.context.scanFailures ∨
          (x.1 = rel ∧ (scanFile env settings p rel before).1.shouldInstrument = false) := by
  rw [scanFile]
  dsimp only
  split
  · exact ⟨hbefore, rfl, rfl, .nil, fun x hx => .inl hx⟩
  · split
    · rename_i f _
      have hnoted := hbefore.note hlog env (failureRecord rel f)
      refine ⟨hnoted.of_files_eq rfl rfl rfl, rfl, rfl, .nil, fun x hx => ?_⟩
      rcases List.mem_append.mp hx with hx | hx
      · exact .inl hx
      · rw [List.mem_singleton.mp hx]
        exact .inr ⟨rfl, by simp [FileNode.shouldInstrument]⟩
    · exact ⟨hbefore, rfl, rfl, .nil, fun x hx => .inl hx⟩
    · rename_i tree _
      have hroot (mounts : Bool) :
          s.Steady (if mounts then before.inContext (·.addRootFile rel) else before) ∧
            (if mounts then before.inContext (·.addRootFile rel) else before).context.scanFailures =
              before.context.scanFailures := by
        cases mounts with
        | false => exact ⟨hbefore, rfl⟩
        | true => exact ⟨hbefore.of_files_eq rfl rfl rfl, rfl⟩
      have ⟨hsteady, hfailures⟩ := hroot ((Classify.analyzeTree tree).mountCalls != 0)
      exact ⟨hsteady.note hlog env _, rfl, rfl, Classify.analyzeTree_bindable tree,
        fun x hx => .inl (hfailures ▸ hx)⟩

omit hlog in
/-- What counts as a file is not hidden and leads to a file. -/
theorem stat_of_classify {fs : FileSystem} {dir : Path} {place : Location} {name : String}
    (h : classify settings fs dir place name = .file) :
    isHidden name = false ∧
      ∃ mode content, fs.stat (dir.join ⟨.relative, [name]⟩) = .ok (.file mode content) := by
  rw [classify] at h
  split at h
  · cases h
  · rename_i hshown
    refine ⟨Bool.eq_false_iff.mpr hshown, ?_⟩
    split at h
    · split at h
      · cases h
      · split at h <;> cases h
    · rename_i mode content hstat
      exact ⟨mode, content, hstat⟩
    · cases h

/-- The entries of a directory are scanned one after another. -/
theorem scanEntries_scanOf
    {enter : Path → Location → List String → RunState → List ProjectNode × RunState}
    (henter : ∀ place rel before, s.Steady before →
      ScanOf s settings.inputRoot rel before
        (enter (settings.inputRoot.join ⟨.relative, rel⟩) place rel before))
    (place : Location) (rel : List String) {names : List String} (hnodup : names.Nodup)
    (hproper : ∀ name ∈ names, isProperName name = true) (hbefore : s.Steady before) :
    ScanOf s settings.inputRoot rel before
        (scanEntries env settings enter (settings.inputRoot.join ⟨.relative, rel⟩) place rel names
          before) ∧
      (scanEntries env settings enter (settings.inputRoot.join ⟨.relative, rel⟩) place rel names
        before).1.map nameOf ⊆ names := by
  induction names generalizing before with
  | nil => exact ⟨⟨hbefore, .nil, fun x hx => .inl hx⟩, List.nil_subset _⟩
  | cons name names ih =>
    have hpath := join_entry settings.inputRoot rel name
    have hlast : (settings.inputRoot.join ⟨.relative, rel ++ [name]⟩).name = name := by
      simp [Path.join, Path.isAbsolute, Path.name]
    rw [List.nodup_cons] at hnodup
    rw [List.forall_mem_cons] at hproper
    rw [scanEntries]
    dsimp only
    rw [hpath]
    split
    · obtain ⟨hscan, hnames⟩ := ih hnodup.2 hproper.2 hbefore
      exact ⟨hscan, List.Subset.trans hnames (List.subset_cons_self name names)⟩
    · have hinner := henter (place ++ [name]) (rel ++ [name]) before hbefore
      obtain ⟨hrest, hnames⟩ := ih hnodup.2 hproper.2 hinner.steady
      refine ⟨⟨hrest.steady, .directory hproper.1 (fun hmem => hnodup.1 (hnames hmem)) hinner.scanned
        hrest.scanned, fun x hx => ?_⟩, List.cons_subset_cons name hnames⟩
      rw [filesAt]
      rcases hrest.failures x hx with hx | ⟨found, hfound, hwhy⟩
      · refine (hinner.failures x hx).imp_right ?_
        rintro ⟨found, hfound, hwhy⟩
        exact ⟨found, List.mem_append_left _ hfound, hwhy⟩
      · exact .inr ⟨found, List.mem_append_right _ hfound, hwhy⟩
    · rename_i hfile
      obtain ⟨hshown, mode, content, hstat⟩ := stat_of_classify hfile
      rw [hpath] at hstat
      obtain ⟨at_, old, hat, hget⟩ := hbefore.quiet.stat_file hlog hstat
      have hscan := scanFile_steady hlog env settings hbefore
        (settings.inputRoot.join ⟨.relative, rel ++ [name]⟩) ("/".intercalate (rel ++ [name]))
      rw [hlast] at hscan
      generalize scanFile env settings (settings.inputRoot.join ⟨.relative, rel ++ [name]⟩)
        ("/".intercalate (rel ++ [name])) before = found at hscan
      obtain ⟨f, after⟩ := found
      obtain ⟨hsteady, hname, hfull, hbindable, hfailures⟩ := hscan
      have hreported : s.Steady (after.report (.update (some 1) (some s!"Scanning {name}"))) :=
        hsteady.of_files_eq rfl rfl rfl
      obtain ⟨hrest, hnames⟩ := ih hnodup.2 hproper.2 hreported
      refine ⟨⟨hrest.steady, .file hname hproper.1 hshown hbindable
        (fun hmem => hnodup.1 (hnames hmem)) hfull hat hget hrest.scanned, fun x hx => ?_⟩, ?_⟩
      · rw [filesAt]
        rcases hrest.failures x hx with hx | ⟨found, hfound, hwhy⟩
        · refine (hfailures x hx).imp_right ?_
          rintro ⟨hrel, hcopied⟩
          exact ⟨_, List.mem_cons_self, by rw [hfull, hrel], hcopied⟩
        · exact .inr ⟨found, List.mem_cons_of_mem _ hfound, hwhy⟩
      · rw [List.map_cons, nameOf, hname]
        exact List.cons_subset_cons name hnames

theorem scanDirectory_scanOf (env : Environment) (settings : Settings) (depth : Nat) (place : Location) (rel : List String)
    (hbefore : s.Steady before) :
    ScanOf s settings.inputRoot rel before
      (scanDirectory env settings depth (settings.inputRoot.join ⟨.relative, rel⟩) place rel
        before) := by
  induction depth generalizing place rel before with
  | zero => exact ⟨hbefore, .nil, fun x hx => .inl hx⟩
  | succ depth ih =>
    obtain ⟨hnodup, hproper⟩ := hbefore.wellFormed.namesIn place
    exact (scanEntries_scanOf hlog (fun place rel before => ih place rel) place rel hnodup hproper
      hbefore).1

/-- A scan goes through the input root and keeps what it found. -/
theorem exists_scanOf (env : Environment) (settings : Settings) (hwell : s.files.WellFormed) :
    ∃ found event record, ScanOf s settings.inputRoot [] s found ∧
      scan env settings s =
        ((found.2.report event).inContext (·.setInventory found.1)).note env record := by
  have hstart : s.Steady (s.report (.start "Scanning project..." none)) :=
    ⟨.report s _, hwell⟩
  have hempty : settings.inputRoot.join ⟨.relative, []⟩ = settings.inputRoot := by
    simp [Path.join, Path.isAbsolute]
  rw [scan]
  dsimp only
  split
  · rename_i place _
    have hscan := scanDirectory_scanOf hlog env settings
      ((s.report (.start "Scanning project..." none)).files.entries.length + 1) place [] hstart
    rw [hempty] at hscan
    exact ⟨_, _, _, ⟨hscan.steady, hscan.scanned, hscan.failures⟩, rfl⟩
  · exact ⟨([], s.report (.start "Scanning project..." none)), _, _,
      ⟨hstart, .nil, fun x hx => .inl hx⟩, rfl⟩

/-- A scan makes an inventory of what lies below the input root, and touches no file but the log. -/
theorem scan_scanned (env : Environment) (settings : Settings) (hwell : s.files.WellFormed) :
    s.Steady (scan env settings s) ∧
      Scanned s.files settings.inputRoot [] (scan env settings s).context.inventory ∧
      (scan env settings s).context.index = none ∧
      ∀ x ∈ (scan env settings s).context.scanFailures, x ∈ s.context.scanFailures ∨
        ∃ place ∈ filesAt [] (scan env settings s).context.inventory,
          place.2.fullPath = .str x.1 ∧ place.2.shouldInstrument = false := by
  obtain ⟨found, event, record, hscan, heq⟩ := exists_scanOf hlog env settings hwell
  rw [heq]
  have hkept : s.Steady ((found.2.report event).inContext (·.setInventory found.1)) :=
    hscan.steady.of_files_eq rfl rfl rfl
  exact ⟨hkept.note hlog env record, hscan.scanned, rfl, hscan.failures⟩

end Scanning

end Inventory

end JsxTagger
