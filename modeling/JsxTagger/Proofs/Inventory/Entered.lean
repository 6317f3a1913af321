import JsxTagger.Proofs.Inventory.Scanned

/-!
# What a scan comes to

A scan enters the directories below the input root that are neither hidden nor ignored (`Entered`), and
lists what counts as a file in them (`Listed`). Both are said of the file system alone, by names on the way
from the input root. `classify_eq_directory` and `classify_eq_file` say that the scan decides so, as long as
the paths are not too long to be looked at, and `OnlyLogs.classify_eq` that what is logged meanwhile makes
no difference.
-/

namespace JsxTagger

open Files
open FileSystem (Leads)

/-! ## Entries of a directory -/

namespace Files.FileSystem

variable {fs : FileSystem} {dir : Path} {there : Location} {name : String}

/-- An entry of a directory, by where the directory is. -/
theorem locate_entry (hdir : fs.locate dir = .ok there) (hget : fs.get? there = some .directory)
    (hname : name ≠ "..") (hplain : ∀ target, fs.get? (there ++ [name]) ≠ some (.link target))
    (hfits : fs.Fits (dir.join ⟨.relative, [name]⟩)) :
    fs.locate (dir.join ⟨.relative, [name]⟩) = .ok (there ++ [name]) := by
  obtain ⟨left, hwalk⟩ := (locate_eq_ok.mp hdir).2.walk_append true (List.cons_ne_nil name [])
  have hlocate : fs.locate (dir.join ⟨.relative, [name]⟩) =
      if maxPath < Text.pathSize (dir.join ⟨.relative, [name]⟩).text then .error .nameTooLong
      else fs.walk true left there [name] := by
    rw [← hwalk]
    rfl
  rw [Fits, Ne, stat_eq_tooLong, hlocate] at hfits
  rw [hlocate]
  split at hfits
  · exact absurd rfl hfits
  · rename_i hsize
    rw [if_neg hsize]
    by_cases hlong : maxName < Text.pathSize name
    · exact absurd (walk_tooLong hget hname hlong) hfits
    · rw [walk_down hget hname (Nat.le_of_not_lt hlong) hplain, walk_nil]

/-- What an entry of a directory leads to: itself, unless it is a link. -/
theorem exists_entry_of_stat (hdir : fs.locate dir = .ok there) (hname : name ≠ "..") {e : Entry}
    (hstat : fs.stat (dir.join ⟨.relative, [name]⟩) = .ok e) :
    fs.get? (there ++ [name]) = some e ∨ ∃ target, fs.get? (there ++ [name]) = some (.link target) := by
  obtain ⟨at_, hat, hget⟩ := stat_eq_ok.mp hstat
  obtain ⟨there', left, hfront, hlast⟩ := (locate_eq_ok.mp hat).2.exists_front (List.cons_ne_nil name [])
  obtain rfl := hfront.unique (locate_eq_ok.mp hdir).2
  cases hlast with
  | up => exact absurd rfl hname
  | down _ _ _ _ hdone =>
    cases hdone
    exact .inl hget
  | final _ _ _ _ hstay => cases hstay
  | through _ _ _ hlink _ _ => exact .inr ⟨_, hlink⟩

/-- An entry that can be looked at is a directory if it leads to one and is no link. -/
theorem get?_eq_directory (hdir : fs.locate dir = .ok there) (hget : fs.get? there = some .directory)
    (hname : name ≠ "..") (hfits : fs.Fits (dir.join ⟨.relative, [name]⟩)) :
    fs.get? (there ++ [name]) = some .directory ↔
      fs.stat (dir.join ⟨.relative, [name]⟩) = .ok .directory ∧
        ∀ target, fs.get? (there ++ [name]) ≠ some (.link target) := by
  constructor
  · intro hentry
    have hplain (target : String) : fs.get? (there ++ [name]) ≠ some (.link target) := by
      rw [hentry]
      nofun
    exact ⟨stat_eq_ok.mpr ⟨_, locate_entry hdir hget hname hplain hfits, hentry⟩, hplain⟩
  · rintro ⟨hstat, hplain⟩
    rcases exists_entry_of_stat hdir hname hstat with hentry | ⟨target, hlink⟩
    · exact hentry
    · exact absurd hlink (hplain target)

/-- The names in a directory are those under which something stands in it. -/
theorem mem_namesIn_iff : name ∈ fs.namesIn there ↔ fs.get? (there ++ [name]) ≠ none := by
  rw [mem_namesIn, get?_of_ne (by simp), Ne, List.lookup_eq_none_iff]
  constructor
  · rintro ⟨e, hmem⟩ hnone
    simpa using hnone _ hmem
  · intro hsome
    by_contra hnone
    refine hsome fun p hp => ?_
    obtain ⟨loc, e⟩ := p
    rw [bne_iff_ne]
    rintro rfl
    exact hnone ⟨e, hp⟩

end Files.FileSystem

/-! ## What a scan comes to -/

namespace Inventory

open FileSystem (isProperName)

/-- A directory that a scan of the input root at a location enters: it and all that it lies in, up to the
input root, are directories, not links to directories, and neither hidden nor ignored. -/
def Entered (settings : Settings) (fs : FileSystem) (place : Location) (names : List String) : Prop :=
  ∀ front name, front ++ [name] <+: names →
    fs.get? (place ++ front ++ [name]) = some .directory ∧ isHidden name = false ∧
      settings.ignoreDirs.contains name = false

/-- What counts as a file: something in a directory that is entered that is not hidden and is a file or a
link that leads to one. -/
def Listed (settings : Settings) (fs : FileSystem) (place : Location) (names : List String) : Prop :=
  ∃ front name, names = front ++ [name] ∧ Entered settings fs place front ∧ isHidden name = false ∧
    ∃ mode content, fs.stat (settings.inputRoot.join ⟨.relative, names⟩) = .ok (.file mode content)

section Entering

variable {settings : Settings} {fs : FileSystem} {place : Location} {names : List String} {name : String}

theorem entered_nil : Entered settings fs place [] := by
  intro front name hprefix
  simp at hprefix

/-- What lies on the way to a directory that is entered is entered. -/
theorem Entered.of_prefix (h : Entered settings fs place names) {front : List String}
    (hfront : front <+: names) : Entered settings fs place front :=
  fun inner name hinner => h inner name (hinner.trans hfront)

theorem entered_concat :
    Entered settings fs place (names ++ [name]) ↔
      Entered settings fs place names ∧ fs.get? (place ++ names ++ [name]) = some .directory ∧
        isHidden name = false ∧ settings.ignoreDirs.contains name = false := by
  constructor
  · intro h
    exact ⟨h.of_prefix (List.prefix_append names [name]), h names name (List.prefix_refl _)⟩
  · rintro ⟨hnames, hlast⟩ front other hprefix
    rcases List.prefix_concat_iff.mp hprefix with heq | hinner
    · obtain ⟨rfl, hother⟩ := List.append_inj' heq rfl
      cases hother
      exact hlast
    · exact hnames front other hinner

/-- The next name on the way to a directory that is entered is found in the directory before it. -/
theorem Entered.mem_namesIn {more : List String} (h : Entered settings fs place (names ++ name :: more)) :
    name ∈ fs.namesIn (place ++ names) := by
  rw [FileSystem.mem_namesIn_iff, (h names name (by simp)).1]
  nofun

/-- Directories on the way to what counts as a file are entered. -/
theorem Listed.of_cons {more : List String} (hmore : more ≠ [])
    (h : Listed settings fs place (names ++ name :: more)) :
    Entered settings fs place (names ++ [name]) := by
  obtain ⟨front, last, heq, hfront, -⟩ := h
  obtain ⟨inner, end_, rfl⟩ := (List.eq_nil_or_concat more).resolve_left hmore
  rw [List.concat_eq_append, ← List.cons_append, ← List.append_assoc] at heq
  obtain ⟨rfl, -⟩ := List.append_inj' heq rfl
  exact hfront.of_prefix (by simp)

theorem listed_concat :
    Listed settings fs place (names ++ [name]) ↔
      Entered settings fs place names ∧ isHidden name = false ∧ ∃ mode content,
        fs.stat (settings.inputRoot.join ⟨.relative, names ++ [name]⟩) = .ok (.file mode content) := by
  constructor
  · rintro ⟨front, last, heq, hfront, hshown, hstat⟩
    obtain ⟨rfl, hlast⟩ := List.append_inj' heq rfl
    cases hlast
    exact ⟨hfront, hshown, hstat⟩
  · rintro ⟨hnames, hshown, hstat⟩
    exact ⟨names, name, rfl, hnames, hshown, hstat⟩

theorem ne_up_of_isHidden (h : isHidden name = false) : name ≠ ".." := by
  rintro rfl
  exact absurd h (by decide +kernel)

/-- The next name on the way to what counts as a file is found in the directory before it. -/
theorem Listed.mem_namesIn {more : List String} (h : Listed settings fs place (names ++ name :: more))
    (hdir : fs.locate (settings.inputRoot.join ⟨.relative, names⟩) = .ok (place ++ names)) :
    name ∈ fs.namesIn (place ++ names) := by
  cases more with
  | nil =>
    obtain ⟨-, hshown, mode, content, hstat⟩ := listed_concat.mp h
    rw [← join_entry] at hstat
    rw [FileSystem.mem_namesIn_iff]
    rcases FileSystem.exists_entry_of_stat hdir (ne_up_of_isHidden hshown) hstat with hentry | ⟨target, hlink⟩
    · rw [hentry]
      nofun
    · rw [hlink]
      nofun
  | cons next more => exact (h.of_cons (List.cons_ne_nil next more)).mem_namesIn

/-- A directory that is entered is a directory. -/
theorem Entered.get? (h : Entered settings fs place names) (hroot : fs.get? place = some .directory) :
    fs.get? (place ++ names) = some .directory := by
  cases names using List.reverseRecOn with
  | nil => rwa [List.append_nil]
  | append_singleton front last =>
    rw [← List.append_assoc]
    exact (h front last (List.prefix_refl _)).1

/-! ## How the scan decides -/

theorem refusal?_eq_none {p : Path} : refusal? fs p = none ↔ fs.Fits p := by
  rw [refusal?, FileSystem.Fits]
  cases hstat : fs.stat p with
  | ok e => simp
  | error r => cases r <;> simp

theorem refusal?_eq_some {p : Path} {fault : Fault} :
    refusal? fs p = some fault ↔ ¬ fs.Fits p ∧ fault = Refusal.nameTooLong.fault p.text := by
  rw [refusal?, FileSystem.Fits]
  cases hstat : fs.stat p with
  | ok e => simp
  | error r => cases r <;> simp [eq_comm]

theorem classify_eq_directory {dir : Path} :
    classify settings fs dir place name = .directory ↔
      isHidden name = false ∧ fs.stat (dir.join ⟨.relative, [name]⟩) = .ok .directory ∧
        settings.ignoreDirs.contains name = false ∧
        ∀ target, fs.get? (place ++ [name]) ≠ some (.link target) := by
  rw [classify]
  cases isHidden name with
  | true => simp
  | false =>
    rw [if_neg Bool.false_ne_true]
    split
    · rename_i hstat
      cases settings.ignoreDirs.contains name with
      | true => simp
      | false =>
        cases hget : fs.get? (place ++ [name]) with
        | none => simp [hstat]
        | some e => cases e <;> simp [hstat]
    · rename_i mode content hstat
      simp [hstat]
    · rename_i hdir _
      simp [show fs.stat (dir.join ⟨.relative, [name]⟩) ≠ .ok .directory from hdir]

theorem classify_eq_file {dir : Path} :
    classify settings fs dir place name = .file ↔
      isHidden name = false ∧
        ∃ mode content, fs.stat (dir.join ⟨.relative, [name]⟩) = .ok (.file mode content) := by
  constructor
  · exact stat_of_classify
  · rintro ⟨hshown, mode, content, hstat⟩
    rw [classify, hshown, hstat]
    rfl

/-- The scan enters the directories that are to be entered. -/
theorem classify_iff_entered (hnames : Entered settings fs place names)
    (hdir : fs.locate (settings.inputRoot.join ⟨.relative, names⟩) = .ok (place ++ names))
    (hget : fs.get? (place ++ names) = some .directory)
    (hfits : isHidden name = false → fs.Fits (settings.inputRoot.join ⟨.relative, names ++ [name]⟩)) :
    classify settings fs (settings.inputRoot.join ⟨.relative, names⟩) (place ++ names) name = .directory ↔
      Entered settings fs place (names ++ [name]) := by
  rw [classify_eq_directory, entered_concat]
  rw [← join_entry] at hfits
  constructor
  · rintro ⟨hshown, hstat, hignored, hplain⟩
    refine ⟨hnames, ?_, hshown, hignored⟩
    exact (FileSystem.get?_eq_directory hdir hget (ne_up_of_isHidden hshown) (hfits hshown)).mpr ⟨hstat, hplain⟩
  · rintro ⟨-, hentry, hshown, hignored⟩
    obtain ⟨hstat, hplain⟩ :=
      (FileSystem.get?_eq_directory hdir hget (ne_up_of_isHidden hshown) (hfits hshown)).mp hentry
    exact ⟨hshown, hstat, hignored, hplain⟩

/-- The scan lists what counts as a file. -/
theorem classify_iff_listed (hnames : Entered settings fs place names) :
    classify settings fs (settings.inputRoot.join ⟨.relative, names⟩) (place ++ names) name = .file ↔
      Listed settings fs place (names ++ [name]) := by
  rw [classify_eq_file, listed_concat, join_entry]
  exact (and_iff_right hnames).symm

end Entering

end Inventory

namespace RunState.OnlyLogs

open Inventory

variable {s s' : RunState}

/-- What is logged makes no difference to what an entry means to the scan. -/
theorem classify_eq (h : s.OnlyLogs s') (hlog : s.LogsTo s.files) (settings : Settings) (dir : Path)
    (place : Location) (name : String) :
    classify settings s'.files dir place name = classify settings s.files dir place name := by
  have hdirectory : classify settings s'.files dir place name = .directory ↔
      classify settings s.files dir place name = .directory := by
    simp only [classify_eq_directory, h.stat_directory_iff hlog, ne_eq, (h.agree hlog).link_iff]
  have hfile : classify settings s'.files dir place name = .file ↔
      classify settings s.files dir place name = .file := by
    simp only [classify_eq_file, h.stat_file_iff hlog]
  cases hfound : classify settings s.files dir place name with
  | directory => exact hdirectory.mpr hfound
  | file => exact hfile.mpr hfound
  | nothing =>
    rw [hfound] at hdirectory hfile
    cases hfound' : classify settings s'.files dir place name with
    | directory => exact absurd (hdirectory.mp hfound') nofun
    | file => exact absurd (hfile.mp hfound') nofun
    | nothing => rfl

/-- What is logged makes no difference to what is refused. -/
theorem refusal?_eq (h : s.OnlyLogs s') (hlog : s.LogsTo s.files) (p : Path) :
    refusal? s'.files p = refusal? s.files p := by
  cases hrefusal : refusal? s.files p with
  | none => exact refusal?_eq_none.mpr ((h.fits_iff hlog).mpr (refusal?_eq_none.mp hrefusal))
  | some fault =>
    obtain ⟨hlong, hfault⟩ := refusal?_eq_some.mp hrefusal
    exact refusal?_eq_some.mpr ⟨fun hfits => hlong ((h.fits_iff hlog).mp hfits), hfault⟩

/-- What is logged makes no difference to the names in a directory. -/
theorem mem_namesIn_iff (h : s.OnlyLogs s') (hlog : s.LogsTo s.files) (dir : Location) (name : String) :
    name ∈ s'.files.namesIn dir ↔ name ∈ s.files.namesIn dir := by
  rw [FileSystem.mem_namesIn_iff, FileSystem.mem_namesIn_iff]
  rcases h.get?_cases hlog (dir ++ [name]) with heq | ⟨mode, old, new, hold, hnew⟩
  · rw [heq]
  · rw [hold, hnew]
    simp

end RunState.OnlyLogs

end JsxTagger
