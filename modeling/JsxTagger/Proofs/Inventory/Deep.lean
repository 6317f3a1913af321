import JsxTagger.Proofs.Files.Disk
import JsxTagger.Proofs.Inventory.Document
import JsxTagger.Proofs.Inventory.Exact

/-!
# Directories inside each other

A project of so many directories inside each other, with nothing else in it. It can be on a disk
(`deepProject_wellFormed`, `deepProject_onDisk`), and a survey with calls enough finds all of it (`survey_deep`). With
such a project one sees how deep a stage goes.
-/

namespace JsxTagger.Inventory

open Files FileSystem

/-- The names of so many directories inside each other. -/
def deepNames (n : Nat) : List String := List.replicate n "d"

/-- Where the innermost of so many directories in the input root lies. -/
def deepPlace (n : Nat) : Location := "app" :: deepNames n

/-- So many directories inside each other in the input root. -/
def deepProject (n : Nat) : RunState where
  files := { entries := (List.range (n + 1)).map fun i => (deepPlace i, .directory) }

/-! ## The entries -/

theorem deepNames_succ (n : Nat) : deepNames (n + 1) = deepNames n ++ ["d"] := List.replicate_succ'

theorem deepPlace_succ (n : Nat) : deepPlace (n + 1) = deepPlace n ++ ["d"] := by
  rw [deepPlace, deepNames_succ]
  rfl

theorem deepPlace_injective {i j : Nat} (h : deepPlace i = deepPlace j) : i = j := by
  have hlength := congrArg List.length h
  simpa [deepPlace, deepNames] using hlength

theorem mem_deepProject {n : Nat} {loc : Location} {e : Entry} :
    (loc, e) ∈ (deepProject n).files.entries ↔ e = .directory ∧ ∃ i ≤ n, loc = deepPlace i := by
  simp only [deepProject, List.mem_map, List.mem_range, Prod.mk.injEq, Nat.lt_succ_iff]
  constructor
  · rintro ⟨i, hi, rfl, rfl⟩
    exact ⟨rfl, i, hi, rfl⟩
  · rintro ⟨rfl, i, hi, rfl⟩
    exact ⟨i, hi, rfl, rfl⟩

theorem get?_deepPlace {n i : Nat} (hi : i ≤ n) : (deepProject n).files.get? (deepPlace i) = some .directory := by
  have hne : deepPlace i ≠ [] := List.cons_ne_nil _ _
  have hmem := mem_deepProject.mpr ⟨rfl, i, hi, rfl⟩
  cases hget : (deepProject n).files.get? (deepPlace i) with
  | none =>
    rw [get?_of_ne hne, List.lookup_eq_none_iff] at hget
    have hmiss := hget _ hmem
    simp at hmiss
  | some e =>
    obtain ⟨rfl, -⟩ := mem_deepProject.mp (mem_entries_of_get? hne hget)
    rfl

theorem eq_directory_of_get? {n : Nat} {loc : Location} {e : Entry} (h : (deepProject n).files.get? loc = some e) :
    e = .directory := by
  by_cases hne : loc = []
  · rw [hne] at h
    cases h
    rfl
  · exact (mem_deepProject.mp (mem_entries_of_get? hne h)).1

theorem deepProject_wellFormed (n : Nat) : (deepProject n).files.WellFormed where
  nodup := by
    rw [deepProject, List.map_map]
    exact List.Nodup.map (fun i j h => deepPlace_injective h) List.nodup_range
  parents := by
    rintro ⟨loc, e⟩ hmem
    obtain ⟨-, i, hi, rfl⟩ := mem_deepProject.mp hmem
    refine ⟨List.cons_ne_nil _ _, ?_⟩
    cases i with
    | zero => rfl
    | succ i =>
      dsimp only
      rw [deepPlace_succ, List.dropLast_concat]
      exact get?_deepPlace (Nat.le_of_succ_le hi)
  names := by
    rintro ⟨loc, e⟩ hmem
    obtain ⟨-, i, -, rfl⟩ := mem_deepProject.mp hmem
    rw [deepPlace, List.all_cons, List.all_eq_true.mpr fun name hname => ?_]
    · decide +kernel
    · rw [List.eq_of_mem_replicate hname]
      decide +kernel

theorem deepProject_onDisk (n : Nat) : (deepProject n).files.OnDisk := by
  refine onDisk_of_entries ?_ ?_
  · rintro ⟨loc, e⟩ hmem name hname
    obtain ⟨-, i, -, rfl⟩ := mem_deepProject.mp hmem
    rcases List.mem_cons.mp hname with rfl | hname
    · decide +kernel
    · rw [List.eq_of_mem_replicate hname]
      decide +kernel
  · rintro ⟨loc, e⟩ hmem
    obtain ⟨rfl, -⟩ := mem_deepProject.mp hmem
    rfl

/-- Everything lies in the input root. -/
theorem head?_deepProject {n : Nat} {p : Location × Entry} (h : p ∈ (deepProject n).files.entries) :
    p.1.head? = some "app" := by
  obtain ⟨-, i, -, hplace⟩ := mem_deepProject.mp h
  rw [hplace]
  rfl

/-! ## The scan -/

/-- Each of the directories holds the next one, and the innermost nothing. -/
theorem namesIn_deepPlace (n i : Nat) :
    (deepProject n).files.namesIn (deepPlace i) = if i < n then ["d"] else [] := by
  have hmem (name : String) : name ∈ (deepProject n).files.namesIn (deepPlace i) ↔ i < n ∧ name = "d" := by
    rw [mem_namesIn]
    simp only [mem_deepProject, exists_eq_left]
    constructor
    · rintro ⟨j, hj, heq⟩
      cases j with
      | zero => simp [deepPlace, deepNames] at heq
      | succ j =>
        rw [deepPlace_succ] at heq
        obtain ⟨hplace, hname⟩ := List.append_inj' heq rfl
        rw [deepPlace_injective hplace]
        exact ⟨hj, (List.cons.inj hname).1⟩
    · rintro ⟨hi, rfl⟩
      exact ⟨i + 1, hi, (deepPlace_succ i).symm⟩
  have hnodup := ((deepProject_wellFormed n).namesIn (deepPlace i)).1
  by_cases hi : i < n
  · rw [if_pos hi]
    exact List.perm_singleton.mp ((List.perm_ext_iff_of_nodup hnodup (List.nodup_singleton _)).mpr fun name => by
      rw [hmem, List.mem_singleton]
      exact and_iff_right hi)
  · rw [if_neg hi]
    exact List.eq_nil_iff_forall_not_mem.mpr fun name hname => hi ((hmem name).mp hname).1

/-- A path to the directories takes two characters for each of them. -/
theorem pathSize_deep (n : Nat) :
    Text.pathSize (appSettings.inputRoot.join ⟨.relative, deepNames n⟩).text ≤ 2 * n + 4 := by
  have hd : "d".utf8ByteSize = 1 := rfl
  have hslash : "/".utf8ByteSize = 1 := rfl
  have happ : "app".utf8ByteSize = 3 := rfl
  have hsize (first : String) :
      ("/".intercalate (first :: deepNames n)).utf8ByteSize = first.utf8ByteSize + 2 * n := by
    induction n generalizing first with
    | zero =>
      rw [deepNames, List.replicate_zero, String.intercalate_singleton]
      rfl
    | succ n ih =>
      rw [deepNames, List.replicate_succ, String.intercalate_cons_cons, String.utf8ByteSize_append,
        String.utf8ByteSize_append]
      have hrest := ih "d"
      rw [deepNames] at hrest
      omega
  refine (Nat.sub_le _ _).trans ?_
  show ("/" ++ "/".intercalate ("app" :: deepNames n)).utf8ByteSize ≤ _
  rw [String.utf8ByteSize_append, hsize]
  omega

section Scanning

variable {n i : Nat} (hn : 2 * n + 4 ≤ maxPath)

include hn

/-- The names of the directories lead to them. -/
theorem locate_deep (hi : i ≤ n) :
    (deepProject n).files.locate (appSettings.inputRoot.join ⟨.relative, deepNames i⟩) = .ok (deepPlace i) := by
  refine locate_eq_ok.mpr ⟨(pathSize_deep i).trans (by omega), ?_⟩
  have hplain (loc : Location) (target : String) : (deepProject n).files.get? loc ≠ some (.link target) :=
    fun hlink => Entry.noConfusion (eq_directory_of_get? hlink)
  have hdown (j : Nat) (hj : j ≤ n) (rest : Nat) (hrest : j + rest = i) :
      Leads (deepProject n).files true maxLinks (deepPlace j) (deepNames rest) (deepPlace i) := by
    induction rest generalizing j with
    | zero =>
      rw [show j = i from hrest]
      exact .done
    | succ rest ih =>
      have hnext := ih (j + 1) (by omega) (by omega)
      rw [deepPlace_succ] at hnext
      exact .down (get?_deepPlace hj) (by decide) (by decide +kernel) (hplain _) hnext
  exact .down (by rfl) (by decide) (by decide +kernel) (hplain _) (hdown 0 (Nat.zero_le n) i (Nat.zero_add i))

theorem fits_deep (hi : i ≤ n) :
    (deepProject n).files.Fits (appSettings.inputRoot.join ⟨.relative, deepNames i⟩) := by
  rw [Fits, Ne, stat_eq_tooLong, locate_deep hn hi]
  simp

omit hn in
theorem entered_deep (hi : i ≤ n) : Entered appSettings (deepProject n).files ["app"] (deepNames i) := by
  induction i with
  | zero => exact entered_nil
  | succ i ih =>
    rw [deepNames_succ]
    refine entered_concat.mpr ⟨ih (by omega), ?_, by decide +kernel, by decide +kernel⟩
    have hget := get?_deepPlace hi
    rwa [deepPlace_succ] at hget

/-- A survey of one of the directories finds those in it. -/
theorem surveyDirectory_deep (env : Environment) {s : RunState} (hfiles : s.files = (deepProject n).files)
    {depth rest : Nat} (hdepth : rest < depth) (hi : i + rest = n) :
    (surveyDirectory env appSettings depth (appSettings.inputRoot.join ⟨.relative, deepNames i⟩) (deepPlace i)
      (deepNames i)).run.run s = (.ok (nested rest), s) := by
  induction rest generalizing i depth with
  | zero =>
    obtain ⟨depth, rfl⟩ := Nat.exists_eq_add_one_of_ne_zero (Nat.ne_zero_of_lt hdepth)
    rw [surveyDirectory, run_get_bind, hfiles, namesIn_deepPlace, if_neg (by omega)]
    rfl
  | succ rest ih =>
    obtain ⟨depth, rfl⟩ := Nat.exists_eq_add_one_of_ne_zero (Nat.ne_zero_of_lt hdepth)
    have hinner : i + 1 ≤ n := by omega
    have hfits := fits_deep hn hinner
    have hentered := entered_deep hinner
    rw [deepNames_succ] at hfits hentered
    have hfound : classify appSettings (deepProject n).files (appSettings.inputRoot.join ⟨.relative, deepNames i⟩)
        (deepPlace i) "d" = .directory :=
      (classify_iff_entered (entered_deep (by omega)) (locate_deep hn (by omega))
        (get?_deepPlace (by omega)) fun _ => hfits).mpr hentered
    have hnext := ih (i := i + 1) (show rest < depth by omega) (by omega)
    rw [deepNames_succ, deepPlace_succ] at hnext
    rw [surveyDirectory, run_get_bind, hfiles, namesIn_deepPlace, if_pos (by omega), surveyEntries_cons, hfiles,
      hfound]
    · dsimp only
      rw [join_entry, hnext]
      rfl
    · intro _
      rw [hfiles, join_entry]
      exact refusal?_eq_none.mpr hfits

/-- A survey of the project finds all its directories, if calls enough are left to count their files. -/
theorem survey_deep (env : Environment) (hroom : 2 * n + 3 ≤ env.room) :
    (survey env appSettings).run.run (deepProject n) =
      (.ok (), captured env (nested n) ((deepProject n).report (.start "Scanning project..." none))) := by
  have hat := locate_deep hn (Nat.zero_le n)
  have hsurvey := surveyDirectory_deep hn env (s := (deepProject n).report (.start "Scanning project..." none)) rfl
    (show n < env.room - 1 by omega) (Nat.zero_add n)
  rw [show deepNames 0 = [] from rfl, join_nil] at hat hsurvey
  rw [survey_of_root env hat (get?_deepPlace (Nat.zero_le n)), hsurvey]
  dsimp only
  rw [levels_nested, if_pos hroom]

end Scanning

end JsxTagger.Inventory
