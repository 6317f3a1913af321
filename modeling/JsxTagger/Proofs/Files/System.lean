import Mathlib.Data.List.Induction
import Mathlib.Logic.Basic
import JsxTagger.Files.System

/-!
# Entries and paths

A file system is observed through `get?`. The first part says how `get?` changes when an entry is put
or removed, and what holds in a file system as it is found on a disk (`WellFormed`): nothing stands
below what is not there.

The second part is about following paths. A path goes through its front first (`Leads.walk_append`), a
path without links leads where its names say (`Leads.eq_append`), and in a file system that has kept
everything a path leads to what it led to before (`Keeps.stat_file`).
-/

namespace JsxTagger.Files

namespace FileSystem

/-! ## Entries -/

@[simp]
theorem get?_nil (fs : FileSystem) : fs.get? [] = some .directory := rfl

/-- The root directory is always there. -/
theorem ne_nil_of_get?_eq_none {fs : FileSystem} {loc : Location} (h : fs.get? loc = none) : loc ≠ [] := by
  rintro rfl
  cases h

theorem get?_of_ne {fs : FileSystem} {loc : Location} (h : loc ≠ []) :
    fs.get? loc = fs.entries.lookup loc := by
  rw [get?, if_neg (by simpa using h)]

theorem mem_of_lookup_eq_some {α β : Type} [BEq α] [LawfulBEq α] {l : List (α × β)} {a : α} {b : β}
    (h : l.lookup a = some b) : (a, b) ∈ l := by
  induction l with
  | nil => cases h
  | cons p l ih =>
    rw [List.lookup_cons] at h
    split at h
    · rename_i heq
      cases h
      rw [eq_of_beq heq]
      exact List.mem_cons_self
    · exact List.mem_cons_of_mem p (ih h)

theorem mem_entries_of_get? {fs : FileSystem} {loc : Location} {e : Entry} (hne : loc ≠ [])
    (h : fs.get? loc = some e) : (loc, e) ∈ fs.entries := by
  rw [get?_of_ne hne] at h
  exact mem_of_lookup_eq_some h

/-- Looking up a location in a table in which the entry at a location was replaced. -/
theorem lookup_map_replace (l : List (Location × Entry)) (at_ : Location) (e : Entry)
    (loc : Location) :
    (l.map fun old => if old.1 == at_ then (at_, e) else old).lookup loc =
      if loc = at_ then (l.lookup at_).map fun _ => e else l.lookup loc := by
  induction l with
  | nil => simp
  | cons p l ih =>
    obtain ⟨k, v⟩ := p
    rw [List.map_cons, List.lookup_cons, List.lookup_cons, List.lookup_cons, ih]
    by_cases hk : k = at_
    · subst hk
      by_cases hloc : loc = k
      · simp [hloc]
      · have hbeq : (loc == k) = false := beq_eq_false_iff_ne.mpr hloc
        simp [hloc, hbeq]
    · have hkb : (k == at_) = false := beq_eq_false_iff_ne.mpr hk
      have hbk : (at_ == k) = false := beq_eq_false_iff_ne.mpr fun h => hk h.symm
      by_cases hloc : loc = k
      · subst hloc
        simp [hk, hkb]
      · have hbeq : (loc == k) = false := beq_eq_false_iff_ne.mpr hloc
        simp [hkb, hbk, hbeq]

/-- Looking up a location after an entry was put somewhere. -/
theorem lookup_put (fs : FileSystem) (at_ : Location) (e : Entry) (loc : Location) :
    (fs.put at_ e).entries.lookup loc = if loc = at_ then some e else fs.entries.lookup loc := by
  rw [put]
  by_cases hany : fs.entries.any (·.1 == at_) = true
  · rw [if_pos hany, lookup_map_replace]
    cases hfound : fs.entries.lookup at_ with
    | some old => rfl
    | none =>
      obtain ⟨p, hp, hkey⟩ := List.any_eq_true.mp hany
      have hmiss := List.lookup_eq_none_iff.mp hfound p hp
      rw [eq_of_beq hkey] at hmiss
      simp at hmiss
  · rw [if_neg hany, List.lookup_append]
    have hnone : fs.entries.lookup at_ = none := by
      rw [List.lookup_eq_none_iff]
      intro p hp
      have hmiss : ¬ (p.1 == at_) = true := fun hkey => hany (List.any_eq_true.mpr ⟨p, hp, hkey⟩)
      rw [beq_iff_eq] at hmiss
      exact bne_iff_ne.mpr fun h => hmiss h.symm
    by_cases hsame : loc = at_
    · rw [if_pos hsame, hsame, hnone]
      simp
    · have hbeq : (loc == at_) = false := beq_eq_false_iff_ne.mpr hsame
      rw [if_neg hsame, List.lookup_cons, hbeq]
      simp

/-- What stands elsewhere stays when an entry is put somewhere. -/
theorem get?_put_of_ne (fs : FileSystem) {at_ loc : Location} (h : loc ≠ at_) (e : Entry) :
    (fs.put at_ e).get? loc = fs.get? loc := by
  by_cases hloc : loc = []
  · rw [hloc]
    rfl
  · rw [get?_of_ne hloc, get?_of_ne hloc, lookup_put, if_neg h]

/-- What stands somewhere after an entry was put somewhere. -/
theorem get?_put (fs : FileSystem) {at_ : Location} (hne : at_ ≠ []) (e : Entry) (loc : Location) :
    (fs.put at_ e).get? loc = if loc = at_ then some e else fs.get? loc := by
  by_cases hloc : loc = at_
  · rw [hloc, get?_of_ne hne, lookup_put, if_pos rfl, if_pos rfl]
  · rw [get?_put_of_ne fs hloc, if_neg hloc]

@[simp]
theorem workDir_put (fs : FileSystem) (at_ : Location) (e : Entry) :
    (fs.put at_ e).workDir = fs.workDir := rfl

/-- What stands somewhere after an entry was removed. -/
theorem get?_remove (fs : FileSystem) {at_ : Location} (hne : at_ ≠ []) (loc : Location) :
    (fs.remove at_).get? loc = if loc = at_ then none else fs.get? loc := by
  by_cases hloc : loc = []
  · subst hloc
    rw [if_neg (fun h => hne h.symm)]
    rfl
  · rw [get?_of_ne hloc, get?_of_ne hloc, remove]
    induction fs.entries with
    | nil => simp
    | cons p l ih =>
      obtain ⟨k, v⟩ := p
      by_cases hk : k = at_
      · subst hk
        rw [List.filter_cons_of_neg (by simp), ih, List.lookup_cons]
        by_cases hsame : loc = k
        · simp [hsame]
        · have hbeq : (loc == k) = false := by simpa using hsame
          simp [hsame, hbeq]
      · rw [List.filter_cons_of_pos (by simpa using hk), List.lookup_cons, List.lookup_cons]
        by_cases hsame : loc = k
        · subst hsame
          simp [hk]
        · have hbeq : (loc == k) = false := by simpa using hsame
          rw [hbeq]
          exact ih

@[simp]
theorem workDir_remove (fs : FileSystem) (at_ : Location) :
    (fs.remove at_).workDir = fs.workDir := rfl

/-- Whether a text can be the name of an entry. -/
def isProperName (name : String) : Bool :=
  name != "" && name != "." && name != ".." && !name.toList.contains '/'

/-- A file system as it is found on a disk: at most one entry at a location, entries lie in
directories, and their names are names. -/
structure WellFormed (fs : FileSystem) : Prop where
  nodup : (fs.entries.map (·.1)).Nodup
  parents : ∀ p ∈ fs.entries, p.1 ≠ [] ∧ fs.get? p.1.dropLast = some .directory
  names : ∀ p ∈ fs.entries, p.1.all isProperName = true

instance (fs : FileSystem) : Decidable fs.WellFormed :=
  decidable_of_iff
    ((fs.entries.map (·.1)).Nodup ∧
      (∀ p ∈ fs.entries, p.1 ≠ [] ∧ fs.get? p.1.dropLast = some .directory) ∧
      ∀ p ∈ fs.entries, p.1.all isProperName = true)
    ⟨fun ⟨a, b, c⟩ => ⟨a, b, c⟩, fun ⟨a, b, c⟩ => ⟨a, b, c⟩⟩

/-- Below what is not there nothing is there. -/
theorem WellFormed.get?_append {fs : FileSystem} (h : fs.WellFormed) {loc : Location}
    (hnone : fs.get? loc = none) (rest : Location) : fs.get? (loc ++ rest) = none := by
  induction rest using List.reverseRecOn with
  | nil => rwa [List.append_nil]
  | append_singleton rest name ih =>
    cases hget : fs.get? (loc ++ (rest ++ [name])) with
    | none => rfl
    | some e =>
      have hmem := mem_entries_of_get? (by simp) hget
      have hparent := (h.parents _ hmem).2
      rw [← List.append_assoc, List.dropLast_concat, ih] at hparent
      cases hparent

/-- A file system stays well-formed when a file changes. -/
theorem WellFormed.put_file {fs : FileSystem} (h : fs.WellFormed) {at_ : Location} {mode mode' : Nat}
    {old new : Bytes} (hfile : fs.get? at_ = some (.file mode old)) :
    (fs.put at_ (.file mode' new)).WellFormed := by
  have hne : at_ ≠ [] := by
    rintro rfl
    cases hfile
  have hany : fs.entries.any (·.1 == at_) = true :=
    List.any_eq_true.mpr ⟨_, mem_entries_of_get? hne hfile, beq_self_eq_true _⟩
  have hkeys : (fs.put at_ (.file mode' new)).entries.map (·.1) = fs.entries.map (·.1) := by
    rw [put, if_pos hany, List.map_map]
    refine List.map_congr_left fun p _ => ?_
    by_cases hp : p.1 = at_
    · simp [hp]
    · simp [hp]
  have hkey {p : Location × Entry} (hp : p ∈ (fs.put at_ (.file mode' new)).entries) :
      ∃ q ∈ fs.entries, q.1 = p.1 := by
    have hmem : p.1 ∈ (fs.put at_ (.file mode' new)).entries.map (·.1) := List.mem_map_of_mem hp
    rw [hkeys] at hmem
    exact List.mem_map.mp hmem
  refine ⟨hkeys ▸ h.nodup, fun p hp => ?_, fun p hp => ?_⟩
  · obtain ⟨q, hq, hqp⟩ := hkey hp
    obtain ⟨hroot, hparent⟩ := h.parents q hq
    rw [hqp] at hroot hparent
    refine ⟨hroot, ?_⟩
    rw [get?_put_of_ne fs (fun heq => ?_), hparent]
    rw [heq, hfile] at hparent
    cases hparent
  · obtain ⟨q, hq, hqp⟩ := hkey hp
    rw [← hqp]
    exact h.names q hq

theorem eq_concat_of_getLast? {loc : Location} {name : String} (h : loc.getLast? = some name) :
    loc = loc.dropLast ++ [name] := by
  obtain ⟨front, rfl⟩ := List.getLast?_eq_some_iff.mp h
  rw [List.dropLast_concat]

theorem insertSorted_perm (a : String) (bs : List String) :
    (Text.insertSorted a bs).Perm (a :: bs) := by
  induction bs with
  | nil => exact List.Perm.refl _
  | cons b bs ih =>
    rw [Text.insertSorted]
    split
    · exact List.Perm.refl _
    · exact (ih.cons b).trans (List.Perm.swap a b bs)

theorem sorted_perm (as : List String) : (Text.sorted as).Perm as := by
  induction as with
  | nil => exact List.Perm.refl _
  | cons a as ih => exact (insertSorted_perm a _).trans (ih.cons a)

/-- The names in a directory are those of its entries. -/
theorem mem_namesIn {fs : FileSystem} {dir : Location} {name : String} :
    name ∈ fs.namesIn dir ↔ ∃ e, (dir ++ [name], e) ∈ fs.entries := by
  rw [namesIn, (sorted_perm _).mem_iff, List.mem_filterMap]
  constructor
  · rintro ⟨⟨loc, e⟩, hmem, hname⟩
    dsimp only at hname
    split at hname
    · rename_i last hlast
      split at hname
      · rename_i hdir
        cases hname
        refine ⟨e, ?_⟩
        rw [← eq_of_beq hdir, ← eq_concat_of_getLast? hlast]
        exact hmem
      · cases hname
    · cases hname
  · rintro ⟨e, hmem⟩
    exact ⟨_, hmem, by simp⟩

/-- The names in a directory are names, and no two are the same. -/
theorem WellFormed.namesIn {fs : FileSystem} (h : fs.WellFormed) (dir : Location) :
    (fs.namesIn dir).Nodup ∧ ∀ name ∈ fs.namesIn dir, isProperName name = true := by
  constructor
  · rw [FileSystem.namesIn, (sorted_perm _).nodup_iff]
    have hnodup := h.nodup
    rw [List.Nodup, List.pairwise_map] at hnodup
    rw [List.Nodup, List.pairwise_filterMap]
    refine hnodup.imp ?_
    rintro ⟨loc, e⟩ ⟨loc', e'⟩ hne name hname name' hname' rfl
    apply hne
    dsimp only at hname hname' ⊢
    split at hname
    · rename_i last hlast
      split at hname
      · rename_i hdir
        split at hname'
        · rename_i last' hlast'
          split at hname'
          · rename_i hdir'
            cases hname
            cases hname'
            rw [eq_concat_of_getLast? hlast, eq_concat_of_getLast? hlast', eq_of_beq hdir,
              eq_of_beq hdir']
          · cases hname'
        · cases hname'
      · cases hname
    · cases hname
  · intro name hname
    obtain ⟨e, hmem⟩ := mem_namesIn.mp hname
    exact List.all_eq_true.mp (h.names _ hmem) name (by simp)

/-! ## Following paths -/

/-- Names lead from a location to a location: up, into a directory, or through a link. A link at the
very end is followed only if `follow` says so. -/
inductive Leads (fs : FileSystem) (follow : Bool) :
    Nat → Location → List String → Location → Prop where
  | done {links : Nat} {here : Location} : Leads fs follow links here [] here
  | up {links : Nat} {here at_ : Location} {rest : List String}
      (hdir : fs.get? here = some .directory) (hrest : Leads fs follow links here.dropLast rest at_) :
      Leads fs follow links here (".." :: rest) at_
  | down {links : Nat} {here at_ : Location} {name : String} {rest : List String}
      (hdir : fs.get? here = some .directory) (hname : name ≠ "..")
      (hsize : Text.pathSize name ≤ maxName)
      (hplain : ∀ target, fs.get? (here ++ [name]) ≠ some (.link target))
      (hrest : Leads fs follow links (here ++ [name]) rest at_) :
      Leads fs follow links here (name :: rest) at_
  | final {links : Nat} {here : Location} {name target : String}
      (hdir : fs.get? here = some .directory) (hname : name ≠ "..")
      (hsize : Text.pathSize name ≤ maxName)
      (hlink : fs.get? (here ++ [name]) = some (.link target)) (hstay : follow = false) :
      Leads fs follow links here [name] (here ++ [name])
  | through {links : Nat} {here at_ : Location} {name target : String} {rest : List String}
      (hdir : fs.get? here = some .directory) (hname : name ≠ "..")
      (hsize : Text.pathSize name ≤ maxName)
      (hlink : fs.get? (here ++ [name]) = some (.link target))
      (hfollow : (rest.isEmpty && !follow) = false)
      (hrest : Leads fs follow links (if (Path.ofText target).isAbsolute then [] else here)
        ((Path.ofText target).parts ++ rest) at_) :
      Leads fs follow (links + 1) here (name :: rest) at_

section Walk

variable {fs : FileSystem} {follow : Bool} {links : Nat} {here : Location} {name : String}
  {rest : List String}

@[simp]
theorem walk_nil : fs.walk follow links here [] = .ok here := by
  cases links <;> rfl

/-- One name is followed, and then the rest. -/
theorem walk_cons (name : String) (rest : List String) :
    fs.walk follow links here (name :: rest) =
      match fs.get? here with
      | none => .error .notFound
      | some (.file ..) | some (.link _) => .error .notDirectory
      | some .directory =>
        if name = ".." then fs.walk follow links here.dropLast rest
        else if maxName < Text.pathSize name then .error .nameTooLong
        else
          match fs.get? (here ++ [name]) with
          | some (.link target) =>
            if rest.isEmpty && !follow then .ok (here ++ [name])
            else
              match links with
              | 0 => .error .linkLoop
              | links + 1 =>
                fs.walk follow links (if (Path.ofText target).isAbsolute then [] else here)
                  ((Path.ofText target).parts ++ rest)
          | _ => fs.walk follow links (here ++ [name]) rest := by
  cases links <;> rfl

theorem walk_of_not_directory (name : String) (rest : List String)
    (h : fs.get? here ≠ some .directory) :
    ∃ r, fs.walk follow links here (name :: rest) = .error r ∧
      (fs.get? here ≠ none → r = .notDirectory) := by
  rw [walk_cons]
  cases hget : fs.get? here with
  | none => exact ⟨.notFound, rfl, fun hne => absurd rfl hne⟩
  | some e =>
    cases e with
    | directory => exact absurd hget h
    | file mode content => exact ⟨.notDirectory, rfl, fun _ => rfl⟩
    | link target => exact ⟨.notDirectory, rfl, fun _ => rfl⟩

theorem walk_of_none (name : String) (rest : List String) (h : fs.get? here = none) :
    fs.walk follow links here (name :: rest) = .error .notFound := by
  rw [walk_cons, h]

theorem walk_up (hdir : fs.get? here = some .directory) :
    fs.walk follow links here (".." :: rest) = fs.walk follow links here.dropLast rest := by
  simp only [walk_cons, hdir, if_true]

variable (hdir : fs.get? here = some .directory) (hname : name ≠ "..")

include hdir hname

theorem walk_tooLong (hsize : maxName < Text.pathSize name) :
    fs.walk follow links here (name :: rest) = .error .nameTooLong := by
  simp only [walk_cons, hdir, if_neg hname, if_pos hsize]

variable (hsize : Text.pathSize name ≤ maxName)

include hsize

theorem walk_down (hplain : ∀ target, fs.get? (here ++ [name]) ≠ some (.link target)) :
    fs.walk follow links here (name :: rest) = fs.walk follow links (here ++ [name]) rest := by
  have hsize : ¬ maxName < Text.pathSize name := Nat.not_lt.mpr hsize
  simp only [walk_cons, hdir, if_neg hname, if_neg hsize]

variable {target : String} (hlink : fs.get? (here ++ [name]) = some (.link target))

include hlink

theorem walk_final (hend : (rest.isEmpty && !follow) = true) :
    fs.walk follow links here (name :: rest) = .ok (here ++ [name]) := by
  have hsize : ¬ maxName < Text.pathSize name := Nat.not_lt.mpr hsize
  simp only [walk_cons, hdir, if_neg hname, if_neg hsize, hlink, if_pos hend]

theorem walk_loop (hfollow : (rest.isEmpty && !follow) = false) :
    fs.walk follow 0 here (name :: rest) = .error .linkLoop := by
  have hsize : ¬ maxName < Text.pathSize name := Nat.not_lt.mpr hsize
  simp only [walk_cons, hdir, if_neg hname, if_neg hsize, hlink, hfollow, Bool.false_eq_true, if_false]

theorem walk_through (hfollow : (rest.isEmpty && !follow) = false) :
    fs.walk follow (links + 1) here (name :: rest) =
      fs.walk follow links (if (Path.ofText target).isAbsolute then [] else here)
        ((Path.ofText target).parts ++ rest) := by
  have hsize : ¬ maxName < Text.pathSize name := Nat.not_lt.mpr hsize
  simp only [walk_cons, hdir, if_neg hname, if_neg hsize, hlink, hfollow, Bool.false_eq_true, if_false]

end Walk

/-- A single name is not missing where something stands. -/
theorem walk_singleton_ne_notFound {fs : FileSystem} {links : Nat} {here : Location} {e : Entry}
    (name : String) (hget : fs.get? here = some e) :
    fs.walk false links here [name] ≠ .error .notFound := by
  by_cases hdir : fs.get? here = some .directory
  · by_cases hname : name = ".."
    · rw [hname, walk_up hdir, walk_nil]
      simp
    · by_cases hsize : Text.pathSize name ≤ maxName
      · by_cases hplain : ∀ target, fs.get? (here ++ [name]) ≠ some (.link target)
        · rw [walk_down hdir hname hsize hplain, walk_nil]
          simp
        · simp only [ne_eq, not_forall, not_not] at hplain
          obtain ⟨target, hlink⟩ := hplain
          rw [walk_final hdir hname hsize hlink rfl]
          simp
      · rw [walk_tooLong hdir hname (Nat.lt_of_not_le hsize)]
        simp
  · obtain ⟨r, hr, hrefused⟩ := walk_of_not_directory name [] hdir
    rw [hr, hrefused (by simp [hget])]
    simp

/-- Names that are walked along lead to where the walk ends. -/
theorem leads_of_walk {fs : FileSystem} {follow : Bool} {links : Nat} {here at_ : Location}
    {names : List String} (h : fs.walk follow links here names = .ok at_) :
    Leads fs follow links here names at_ := by
  -- the walk goes on behind the next name with as many links, or through a link with fewer
  induction links using Nat.strongRecOn generalizing here names with
  | ind links ihlinks =>
    induction names generalizing here with
    | nil =>
      rw [walk_nil] at h
      cases h
      exact .done
    | cons name rest ih =>
      by_cases hdir : fs.get? here = some .directory
      · by_cases hname : name = ".."
        · subst hname
          rw [walk_up hdir] at h
          exact .up hdir (ih h)
        · by_cases hsize : Text.pathSize name ≤ maxName
          · by_cases hplain : ∀ target, fs.get? (here ++ [name]) ≠ some (.link target)
            · rw [walk_down hdir hname hsize hplain] at h
              exact .down hdir hname hsize hplain (ih h)
            · simp only [ne_eq, not_forall, not_not] at hplain
              obtain ⟨target, hlink⟩ := hplain
              cases hend : rest.isEmpty && !follow with
              | true =>
                rw [walk_final hdir hname hsize hlink hend] at h
                cases h
                obtain ⟨hrest, hstay⟩ := Bool.and_eq_true_iff.mp hend
                rw [List.isEmpty_iff.mp hrest]
                exact .final hdir hname hsize hlink (by simpa using hstay)
              | false =>
                cases links with
                | zero =>
                  rw [walk_loop hdir hname hsize hlink hend] at h
                  cases h
                | succ links =>
                  rw [walk_through hdir hname hsize hlink hend] at h
                  exact .through hdir hname hsize hlink hend (ihlinks links (Nat.lt_succ_self _) h)
          · rw [walk_tooLong hdir hname (Nat.lt_of_not_le hsize)] at h
            cases h
      · obtain ⟨r, hr, -⟩ := walk_of_not_directory name rest hdir
        rw [hr] at h
        cases h

/-- Walking along names succeeds exactly if they lead somewhere. -/
theorem walk_eq_ok {fs : FileSystem} {follow : Bool} {links : Nat} {here at_ : Location}
    {names : List String} :
    fs.walk follow links here names = .ok at_ ↔ Leads fs follow links here names at_ := by
  refine ⟨leads_of_walk, fun h => ?_⟩
  induction h with
  | done => exact walk_nil
  | up hdir _ ih => rw [walk_up hdir, ih]
  | down hdir hname hsize hplain _ ih => rw [walk_down hdir hname hsize hplain, ih]
  | final hdir hname hsize hlink hstay =>
    exact walk_final hdir hname hsize hlink (by rw [hstay]; rfl)
  | through hdir hname hsize hlink hfollow _ ih => rw [walk_through hdir hname hsize hlink hfollow, ih]

/-- Names that lead somewhere start at a directory. -/
theorem Leads.directory {fs : FileSystem} {follow : Bool} {links : Nat} {here at_ : Location}
    {names : List String} (h : Leads fs follow links here names at_) (hne : names ≠ []) :
    fs.get? here = some .directory := by
  cases h with
  | done => exact absurd rfl hne
  | up hdir _ => exact hdir
  | down hdir _ _ _ _ => exact hdir
  | final hdir _ _ _ _ => exact hdir
  | through hdir _ _ _ _ _ => exact hdir

/-- Names lead through their front first. -/
theorem Leads.exists_front {fs : FileSystem} {follow : Bool} {links : Nat} {here at_ : Location}
    {front back : List String} (h : Leads fs follow links here (front ++ back) at_)
    (hback : back ≠ []) :
    ∃ there left, Leads fs true links here front there ∧ Leads fs follow left there back at_ := by
  cases front with
  | nil => exact ⟨here, links, .done, h⟩
  | cons first front =>
    generalize hnames : first :: front ++ back = names at h
    induction h generalizing first front with
    | done => simp at hnames
    | @up links here at_ rest hdir hrest ih =>
      obtain ⟨rfl, rfl⟩ := List.cons.inj hnames
      cases front with
      | nil => exact ⟨here.dropLast, links, .up hdir .done, hrest⟩
      | cons second front =>
        obtain ⟨there, left, hfront, hleft⟩ := ih second front rfl
        exact ⟨there, left, .up hdir hfront, hleft⟩
    | @down links here at_ name rest hdir hname hsize hplain hrest ih =>
      obtain ⟨rfl, rfl⟩ := List.cons.inj hnames
      cases front with
      | nil => exact ⟨here ++ [first], links, .down hdir hname hsize hplain .done, hrest⟩
      | cons second front =>
        obtain ⟨there, left, hfront, hleft⟩ := ih second front rfl
        exact ⟨there, left, .down hdir hname hsize hplain hfront, hleft⟩
    | final hdir hname hsize hlink hstay =>
      have hnil := (List.cons.inj hnames).2
      exact absurd (List.append_eq_nil_iff.mp hnil).2 hback
    | @through links here at_ name target rest hdir hname hsize hlink hfollow hrest ih =>
      obtain ⟨rfl, rfl⟩ := List.cons.inj hnames
      -- the target of the link comes before the rest of the front
      generalize hparts : (Path.ofText target).parts = parts at hrest ih
      cases hall : parts ++ front with
      | nil =>
        obtain ⟨rfl, rfl⟩ := List.append_eq_nil_iff.mp hall
        refine ⟨_, links, .through hdir hname hsize hlink (by simp) ?_, hrest⟩
        rw [hparts]
        exact .done
      | cons second others =>
        obtain ⟨there, left, hfront, hleft⟩ := ih second others (by
          rw [← hall]
          exact List.append_assoc _ _ _)
        refine ⟨there, left, .through hdir hname hsize hlink (by simp) ?_, hleft⟩
        rw [hparts, hall]
        exact hfront

/-- Walking along names goes on from where their front leads. -/
theorem Leads.walk_append {fs : FileSystem} {links : Nat} {here there : Location}
    {front : List String} (h : Leads fs true links here front there) (follow : Bool)
    {back : List String} (hback : back ≠ []) :
    ∃ left, fs.walk follow links here (front ++ back) = fs.walk follow left there back := by
  induction h with
  | done => exact ⟨_, rfl⟩
  | up hdir _ ih =>
    obtain ⟨left, hwalk⟩ := ih
    exact ⟨left, (walk_up hdir).trans hwalk⟩
  | down hdir hname hsize hplain _ ih =>
    obtain ⟨left, hwalk⟩ := ih
    exact ⟨left, (walk_down hdir hname hsize hplain).trans hwalk⟩
  | final hdir hname hsize hlink hstay => cases hstay
  | @through links here there name target rest hdir hname hsize hlink hfollow _ ih =>
    obtain ⟨left, hwalk⟩ := ih
    have hmore : ((rest ++ back).isEmpty && !follow) = false := by
      rw [List.isEmpty_eq_false_iff.mpr (by simp [hback]), Bool.false_and]
    rw [List.append_assoc] at hwalk
    exact ⟨left, (walk_through hdir hname hsize hlink hmore).trans hwalk⟩

/-- Names lead to one location only. -/
theorem Leads.unique {fs : FileSystem} {follow : Bool} {links : Nat} {here at_ at' : Location}
    {names : List String} (h : Leads fs follow links here names at_)
    (h' : Leads fs follow links here names at') : at_ = at' := by
  have heq := (walk_eq_ok.mpr h).symm.trans (walk_eq_ok.mpr h')
  exact Except.ok.inj heq

/-- Names without `..` and without links lead where they say. -/
theorem Leads.eq_append {fs : FileSystem} {follow : Bool} {links : Nat} {here at_ : Location}
    {names : List String} (h : Leads fs follow links here names at_) (hup : ".." ∉ names)
    (hplain : ∀ front, front <+: names → ∀ target, fs.get? (here ++ front) ≠ some (.link target)) :
    at_ = here ++ names := by
  induction names generalizing here with
  | nil =>
    cases h
    rw [List.append_nil]
  | cons name names ih =>
    have hfirst := hplain [name] (by simp)
    cases h with
    | up hdir hrest => simp at hup
    | down hdir hname hsize _ hrest =>
      have hat := ih hrest (fun hmem => hup (List.mem_cons_of_mem _ hmem)) fun front hfront target => by
        have hcons := hplain (name :: front) (by simpa using hfront) target
        rwa [← List.singleton_append, ← List.append_assoc] at hcons
      rw [hat, List.append_assoc, List.singleton_append]
    | final hdir hname hsize hlink hstay => exact absurd hlink (hfirst _)
    | through hdir hname hsize hlink hfollow hrest => exact absurd hlink (hfirst _)

/-- Where names lead to something that is no link, following a link at the end makes no difference. -/
theorem Leads.follow {fs : FileSystem} {follow : Bool} {links : Nat} {here at_ : Location}
    {names : List String} (h : Leads fs follow links here names at_)
    (hplain : ∀ target, fs.get? at_ ≠ some (.link target)) : Leads fs true links here names at_ := by
  induction h with
  | done => exact .done
  | up hdir _ ih => exact .up hdir (ih hplain)
  | down hdir hname hsize hno _ ih => exact .down hdir hname hsize hno (ih hplain)
  | final hdir hname hsize hlink hstay => exact absurd hlink (hplain _)
  | through hdir hname hsize hlink hfollow _ ih =>
    exact .through hdir hname hsize hlink (by simp) (ih hplain)

/-- Where names lead to something, they lead to something too if a link at the end is not followed. -/
theorem Leads.exists_unfollowed {fs : FileSystem} {links : Nat} {here at_ : Location}
    {names : List String} {e : Entry} (h : Leads fs true links here names at_)
    (hget : fs.get? at_ = some e) :
    ∃ at' e', Leads fs false links here names at' ∧ fs.get? at' = some e' := by
  induction h with
  | done => exact ⟨_, e, .done, hget⟩
  | up hdir _ ih =>
    obtain ⟨at', e', hleads, hget'⟩ := ih hget
    exact ⟨at', e', .up hdir hleads, hget'⟩
  | down hdir hname hsize hplain _ ih =>
    obtain ⟨at', e', hleads, hget'⟩ := ih hget
    exact ⟨at', e', .down hdir hname hsize hplain hleads, hget'⟩
  | final hdir hname hsize hlink hstay => cases hstay
  | @through links here at_ name target rest hdir hname hsize hlink _ _ ih =>
    cases rest with
    | nil => exact ⟨here ++ [name], _, .final hdir hname hsize hlink rfl, hlink⟩
    | cons second rest =>
      obtain ⟨at', e', hleads, hget'⟩ := ih hget
      exact ⟨at', e', .through hdir hname hsize hlink rfl hleads, hget'⟩

/-- Where names lead depends on the directories and the links only. -/
theorem Leads.congr {fs fs' : FileSystem} {follow : Bool} {links : Nat} {here at_ : Location}
    {names : List String} (h : Leads fs follow links here names at_)
    (hdirs : ∀ loc, fs.get? loc = some .directory → fs'.get? loc = some .directory)
    (hlinks : ∀ loc target, fs'.get? loc = some (.link target) ↔ fs.get? loc = some (.link target)) :
    Leads fs' follow links here names at_ := by
  induction h with
  | done => exact .done
  | up hdir _ ih => exact .up (hdirs _ hdir) ih
  | down hdir hname hsize hplain _ ih =>
    exact .down (hdirs _ hdir) hname hsize (fun target => mt (hlinks _ target).mp (hplain target)) ih
  | final hdir hname hsize hlink hstay =>
    exact .final (hdirs _ hdir) hname hsize ((hlinks _ _).mpr hlink) hstay
  | through hdir hname hsize hlink hfollow _ ih =>
    exact .through (hdirs _ hdir) hname hsize ((hlinks _ _).mpr hlink) hfollow ih

/-- Where a file has taken the place that names lead to, the names still lead there, if they lead to
anything. -/
theorem Leads.eq_of_replaced {fs fs' : FileSystem} {links links' : Nat} {here at_ there : Location}
    {names : List String} {mode : Nat} {content : Bytes} (h : Leads fs false links here names at_)
    (hreplaced : fs'.get? at_ = some (.file mode content))
    (hsame : ∀ loc, loc ≠ at_ → fs'.get? loc = fs.get? loc)
    (h' : Leads fs' true links' here names there) : there = at_ := by
  induction h generalizing links' with
  | done =>
    cases h'
    rfl
  | up _ _ ih =>
    cases h' with
    | up _ hrest => exact ih hreplaced hsame hrest
    | down _ hname _ _ _ => exact absurd rfl hname
    | final _ hname _ _ _ => exact absurd rfl hname
    | through _ hname _ _ _ _ => exact absurd rfl hname
  | @down links here at_ name rest _ hname _ hplain _ ih =>
    cases h' with
    | up => exact absurd rfl hname
    | down _ _ _ _ hrest => exact ih hreplaced hsame hrest
    | final _ _ _ _ hstay => cases hstay
    | through _ _ _ hlink _ _ =>
      by_cases hloc : here ++ [name] = at_
      · rw [hloc, hreplaced] at hlink
        cases hlink
      · exact absurd ((hsame _ hloc).symm.trans hlink) (hplain _)
  | final _ hname _ _ _ =>
    cases h' with
    | up => exact absurd rfl hname
    | down _ _ _ _ hrest =>
      cases hrest
      rfl
    | final _ _ _ _ hstay => cases hstay
    | through _ _ _ hlink _ _ =>
      rw [hreplaced] at hlink
      cases hlink
  | @through links here at_ name target rest _ hname _ hlink hfollow _ ih =>
    have hrest : rest ≠ [] := by
      rintro rfl
      cases hfollow
    cases h' with
    | up => exact absurd rfl hname
    | down _ _ _ hplain hleft =>
      -- a link that is gone is the one that was replaced, and nothing lies in a file
      by_cases hloc : here ++ [name] = at_
      · rw [hloc] at hleft
        rw [hleft.directory hrest] at hreplaced
        cases hreplaced
      · exact absurd ((hsame _ hloc).trans hlink) (hplain _)
    | final _ _ _ _ hstay => cases hstay
    | through _ _ _ hlink' _ hleft =>
      by_cases hloc : here ++ [name] = at_
      · rw [hloc, hreplaced] at hlink'
        cases hlink'
      · rw [hsame _ hloc, hlink] at hlink'
        cases hlink'
        exact ih hreplaced hsame hleft

/-! ## Keeping what is there -/

/-- Everything of a file system is still there in a later one. Only the file at `log`, if there is one,
may have grown. -/
structure Keeps (log : Option Location) (fs fs' : FileSystem) : Prop where
  workDir : fs'.workDir = fs.workDir
  entries : ∀ loc e, fs.get? loc = some e → fs'.get? loc = some e ∨
    (log = some loc ∧ ∃ mode old added, e = .file mode old ∧
      fs'.get? loc = some (.file mode (old ++ added)))

namespace Keeps

variable {log : Option Location} {fs fs' : FileSystem}

theorem refl (log : Option Location) (fs : FileSystem) : Keeps log fs fs :=
  ⟨rfl, fun _ _ h => Or.inl h⟩

theorem trans {fs'' : FileSystem} (h : Keeps log fs fs') (h' : Keeps log fs' fs'') :
    Keeps log fs fs'' := by
  refine ⟨h'.workDir.trans h.workDir, fun loc e he => ?_⟩
  rcases h.entries loc e he with he' | ⟨hlog, mode, old, added, rfl, he'⟩
  · exact h'.entries loc e he'
  · rcases h'.entries loc _ he' with he'' | ⟨-, mode', old', added', heq, he''⟩
    · exact Or.inr ⟨hlog, mode, old, added, rfl, he''⟩
    · cases heq
      exact Or.inr ⟨hlog, mode, old, added ++ added', rfl, by rw [← List.append_assoc, he'']⟩

theorem of_none (h : Keeps none fs fs') (log : Option Location) : Keeps log fs fs' :=
  ⟨h.workDir, fun loc e he => (h.entries loc e he).imp_right fun ⟨hnone, _⟩ => nomatch hnone⟩

/-- Where nothing stood anything can be put. -/
theorem put (h : Keeps log fs fs') {at_ : Location} (hnone : fs.get? at_ = none) (e : Entry) :
    Keeps log fs (fs'.put at_ e) := by
  have hne : at_ ≠ [] := by
    rintro rfl
    cases hnone
  refine ⟨h.workDir, fun loc d hd => ?_⟩
  have hother : loc ≠ at_ := by
    rintro rfl
    rw [hnone] at hd
    cases hd
  rw [get?_put _ hne, if_neg hother]
  exact h.entries loc d hd

theorem directory (h : Keeps log fs fs') {loc : Location} (hdir : fs.get? loc = some .directory) :
    fs'.get? loc = some .directory := by
  rcases h.entries loc _ hdir with he | ⟨-, _, _, _, heq, -⟩
  · exact he
  · cases heq

theorem link (h : Keeps log fs fs') {loc : Location} {target : String}
    (hlink : fs.get? loc = some (.link target)) : fs'.get? loc = some (.link target) := by
  rcases h.entries loc _ hlink with he | ⟨-, _, _, _, heq, -⟩
  · exact he
  · cases heq

/-- No link appears where something stood. -/
theorem plain (h : Keeps log fs fs') {loc : Location} {e : Entry} (he : fs.get? loc = some e)
    (hplain : ∀ target, e ≠ .link target) (target : String) : fs'.get? loc ≠ some (.link target) := by
  intro hlink
  rcases h.entries loc e he with he' | ⟨-, _, _, _, -, he'⟩
  · rw [he'] at hlink
    cases hlink
    exact hplain target rfl
  · rw [he'] at hlink
    cases hlink

/-- Names lead where they led, unless there is a new link at the end. -/
theorem leads (h : Keeps log fs fs') {follow : Bool} {links : Nat} {here at_ : Location}
    {names : List String} (hleads : Leads fs follow links here names at_)
    (hend : fs.get? at_ = none → ∀ target, fs'.get? at_ ≠ some (.link target)) :
    Leads fs' follow links here names at_ := by
  induction hleads with
  | done => exact .done
  | up hdir _ ih => exact .up (h.directory hdir) (ih hend)
  | @down links here at_ name rest hdir hname hsize hplain hrest ih =>
    refine .down (h.directory hdir) hname hsize ?_ (ih hend)
    cases hget : fs.get? (here ++ [name]) with
    | some e => exact h.plain hget fun target heq => hplain target (heq ▸ hget)
    | none =>
      -- nothing leads on from what is not there
      cases hrest with
      | done => exact hend hget
      | up hdir' _ | down hdir' _ _ _ _ | final hdir' _ _ _ _ | through hdir' _ _ _ _ _ =>
        rw [hget] at hdir'
        cases hdir'
  | final hdir hname hsize hlink hstay => exact .final (h.directory hdir) hname hsize (h.link hlink) hstay
  | through hdir hname hsize hlink hfollow _ ih =>
    exact .through (h.directory hdir) hname hsize (h.link hlink) hfollow (ih hend)

end Keeps

/-! ## Paths -/

/-- Where a path starts. -/
def startOf (fs : FileSystem) (p : Path) : Location := if p.isAbsolute then [] else fs.workDir

theorem locate_eq_ok {fs : FileSystem} {p : Path} {follow : Bool} {at_ : Location} :
    fs.locate p follow = .ok at_ ↔
      Text.pathSize p.text ≤ maxPath ∧ Leads fs follow maxLinks (fs.startOf p) p.parts at_ := by
  rw [locate, ← walk_eq_ok, startOf]
  by_cases hsize : maxPath < Text.pathSize p.text
  · rw [if_pos hsize]
    constructor
    · intro h
      cases h
    · rintro ⟨hle, -⟩
      omega
  · rw [if_neg hsize]
    constructor
    · intro h
      exact ⟨by omega, h⟩
    · rintro ⟨-, h⟩
      exact h

theorem stat_eq_ok {fs : FileSystem} {p : Path} {follow : Bool} {e : Entry} :
    fs.stat p follow = .ok e ↔ ∃ at_, fs.locate p follow = .ok at_ ∧ fs.get? at_ = some e := by
  rw [stat]
  cases hat : fs.locate p follow with
  | error r => simp [bind, Except.bind]
  | ok at_ =>
    cases hget : fs.get? at_ with
    | none => simp [bind, Except.bind, hget]
    | some d => simp [bind, Except.bind, hget]

/-- A path leads to its last name in some directory. -/
theorem exists_concat_of_locate {fs : FileSystem} {anchor : Anchor} {front : List String} {name : String}
    {at_ : Location} (hname : name ≠ "..") (h : fs.locate ⟨anchor, front ++ [name]⟩ false = .ok at_) :
    ∃ there, Leads fs true maxLinks (fs.startOf ⟨anchor, front⟩) front there ∧ at_ = there ++ [name] := by
  obtain ⟨-, hall⟩ := locate_eq_ok.mp h
  obtain ⟨there, left, hfront, hlast⟩ := hall.exists_front (by simp)
  refine ⟨there, hfront, ?_⟩
  cases hlast with
  | up => exact absurd rfl hname
  | down _ _ _ _ hdone =>
    cases hdone
    rfl
  | final => rfl
  | through _ _ _ _ hfollow _ => simp at hfollow

/-- A path leads to its last name in what its parent leads to. -/
theorem eq_concat_of_locate {fs : FileSystem} {anchor : Anchor} {front : List String} {name : String}
    {there at_ : Location} (hparent : fs.locate ⟨anchor, front⟩ = .ok there) (hname : name ≠ "..")
    (h : fs.locate ⟨anchor, front ++ [name]⟩ false = .ok at_) : at_ = there ++ [name] := by
  obtain ⟨there', hfront, rfl⟩ := exists_concat_of_locate hname h
  rw [hfront.unique (locate_eq_ok.mp hparent).2]

/-- A path is not missing for want of its parent if its parent leads to something. -/
theorem locate_ne_notFound {fs : FileSystem} {anchor : Anchor} {front : List String} {name : String}
    {e : Entry} (hparent : fs.stat ⟨anchor, front⟩ = .ok e) :
    fs.locate ⟨anchor, front ++ [name]⟩ false ≠ .error .notFound := by
  obtain ⟨there, hthere, hget⟩ := stat_eq_ok.mp hparent
  obtain ⟨left, hwalk⟩ := (locate_eq_ok.mp hthere).2.walk_append false (List.cons_ne_nil name [])
  have hstart : fs.startOf ⟨anchor, front ++ [name]⟩ = fs.startOf ⟨anchor, front⟩ := rfl
  rw [locate]
  split
  · simp
  · rw [← startOf, hstart, hwalk]
    exact walk_singleton_ne_notFound name hget

/-- A path leads where it led. -/
theorem Keeps.locate {log : Option Location} {fs fs' : FileSystem} (h : Keeps log fs fs') {p : Path}
    {follow : Bool} {at_ : Location} (hlocate : fs.locate p follow = .ok at_)
    (hend : fs.get? at_ = none → ∀ target, fs'.get? at_ ≠ some (.link target)) :
    fs'.locate p follow = .ok at_ := by
  obtain ⟨hsize, hleads⟩ := locate_eq_ok.mp hlocate
  refine locate_eq_ok.mpr ⟨hsize, ?_⟩
  have hstart : fs'.startOf p = fs.startOf p := by rw [startOf, startOf, h.workDir]
  rw [hstart]
  exact h.leads hleads hend

/-- A file that a path leads to is still there and holds what it held. Only the log file holds more. -/
theorem Keeps.stat_file {log : Option Location} {fs fs' : FileSystem} (h : Keeps log fs fs') {p : Path}
    {follow : Bool} {at_ : Location} {mode : Nat} {old : Bytes}
    (hlocate : fs.locate p follow = .ok at_) (hget : fs.get? at_ = some (.file mode old)) :
    ∃ added, fs'.stat p follow = .ok (.file mode (old ++ added)) ∧
      (added = [] ∨ log = some at_) := by
  have hat : fs'.locate p follow = .ok at_ := h.locate hlocate fun hnone => by
    rw [hget] at hnone
    cases hnone
  rcases h.entries at_ _ hget with he | ⟨hlog, _, _, added, heq, he⟩
  · exact ⟨[], stat_eq_ok.mpr ⟨at_, hat, by rw [he, List.append_nil]⟩, .inl rfl⟩
  · cases heq
    exact ⟨added, stat_eq_ok.mpr ⟨at_, hat, he⟩, .inr hlog⟩

end FileSystem

end JsxTagger.Files
