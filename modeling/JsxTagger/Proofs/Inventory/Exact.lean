import JsxTagger.Proofs.Inventory.Survey
import Mathlib.Data.List.Perm.Subperm

/-!
# Scans are exact

A scan of a project either makes exactly the inventory of what lies below the input root and records exactly
what it read (`Captures`), or it ends early, because something there is too long to be looked at or lies too
deep (`survey_exact`). Where it gets to its end, it is the scan of a project in which everything can be looked
at (`survey_eq_scan`).
-/

namespace JsxTagger.Inventory

open Files

/-! ## The survey of a project -/

/-- The state in which a scan leaves what it found. -/
def captured (env : Environment) (nodes : List ProjectNode) (s : RunState) : RunState :=
  let count := (files nodes).length
  ((s.report (.complete s!"✅ Scanned {count} files." count (some count))).inContext
    (·.setInventory nodes)).note env ⟨.info, logger, s!"Project structure has been captured ({count} files)"⟩

section Project

variable {env : Environment} {settings : Settings} {s s' : RunState} {place : Location}

/-- A survey starts at the input root and counts what it found. Going through a directory takes one call, and
counting what is in it two. -/
theorem survey_eq :
    (survey env settings).run.run s =
      let start := s.report (.start "Scanning project..." none)
      match s.files.locate settings.inputRoot with
      | .error r => (.error (r.fault settings.inputRoot.text), start)
      | .ok place =>
        if s.files.get? place ≠ some .directory then
          (.error (Refusal.notDirectory.fault settings.inputRoot.text), start)
        else
          match (surveyDirectory env settings (env.room - 1) settings.inputRoot place []).run.run start with
          | (.error fault, s) => (.error fault, s)
          | (.ok nodes, s) =>
            if 2 * levels nodes + 3 ≤ env.room then (.ok (), captured env nodes s) else (.error .tooDeep, s) := by
  have hstart : (survey env settings).run.run s =
      (match s.files.locate settings.inputRoot with
      | .error r => throw (r.fault settings.inputRoot.text)
      | .ok place => do
        if s.files.get? place != some .directory then throw (Refusal.notDirectory.fault settings.inputRoot.text)
        let nodes ← surveyDirectory env settings (env.room - 1) settings.inputRoot place []
        let count ← countFiles (env.room - 1) nodes
        modify (·.report (.complete s!"✅ Scanned {count} files." count (some count)))
        modify fun s => (s.inContext (·.setInventory nodes)).note env
          ⟨.info, logger, s!"Project structure has been captured ({count} files)"⟩ : SurveyM Unit).run.run
        (s.report (.start "Scanning project..." none)) := rfl
  rw [hstart]
  cases s.files.locate settings.inputRoot with
  | error r => rfl
  | ok place =>
    dsimp only
    by_cases hroot : s.files.get? place = some .directory
    · rw [if_neg (by simp [hroot]), if_neg (by simp [hroot]), run_bind]
      rcases (surveyDirectory env settings (env.room - 1) settings.inputRoot place []).run.run
        (s.report (.start "Scanning project..." none)) with ⟨_ | nodes, after⟩
      · rfl
      · dsimp only
        rw [countFiles_eq]
        by_cases hlevels : 2 * levels nodes + 3 ≤ env.room
        · rw [if_pos hlevels, if_pos (by omega)]
          rfl
        · rw [if_neg hlevels, if_neg (by omega)]
          rfl
    · rw [if_pos (by simp [hroot]), if_pos hroot]
      rfl

theorem survey_of_root (env : Environment) (hat : s.files.locate settings.inputRoot = .ok place)
    (hroot : s.files.get? place = some .directory) :
    (survey env settings).run.run s =
      match (surveyDirectory env settings (env.room - 1) settings.inputRoot place []).run.run
          (s.report (.start "Scanning project..." none)) with
      | (.error fault, s) => (.error fault, s)
      | (.ok nodes, s) =>
        if 2 * levels nodes + 3 ≤ env.room then (.ok (), captured env nodes s) else (.error .tooDeep, s) := by
  rw [survey_eq, hat]
  exact if_neg (not_not.mpr hroot)

/-- What came before a survey that got to its end. -/
theorem survey_eq_ok (h : (survey env settings).run.run s = (.ok (), s')) :
    ∃ place nodes after, s.files.locate settings.inputRoot = .ok place ∧
      s.files.get? place = some .directory ∧
      (surveyDirectory env settings (env.room - 1) settings.inputRoot place []).run.run
        (s.report (.start "Scanning project..." none)) = (.ok nodes, after) ∧
      2 * levels nodes + 3 ≤ env.room ∧ s' = captured env nodes after := by
  rw [survey_eq] at h
  dsimp only at h
  split at h
  · cases h
  · rename_i place hat
    split at h
    · cases h
    · rename_i hroot
      split at h
      · cases h
      · rename_i nodes after hsurvey
        split at h
        · rename_i hlevels
          cases h
          exact ⟨place, nodes, after, hat, not_not.mp hroot, hsurvey, hlevels, rfl⟩
        · cases h

theorem join_nil (root : Path) : root.join ⟨.relative, []⟩ = root := by
  simp [Path.join, Path.isAbsolute]

/-- The survey of an input root ends like that of a directory. -/
theorem surveyRoot_outcome (env : Environment) (hwell : s.files.WellFormed) (hlog : s.LogsTo s.files)
    (hat : s.files.locate settings.inputRoot = .ok place) (hroot : s.files.get? place = some .directory) :
    let start := s.report (.start "Scanning project..." none)
    DirectoryOutcome env settings s place (env.room - 1) [] start
      ((surveyDirectory env settings (env.room - 1) settings.inputRoot place []).run.run start) := by
  intro start
  have hdir : s.files.locate (settings.inputRoot.join ⟨.relative, []⟩) = .ok (place ++ []) := by
    rw [join_nil, List.append_nil]
    exact hat
  have houtcome : DirectoryOutcome env settings s place (env.room - 1) [] start
      ((surveyDirectory env settings (env.room - 1) (settings.inputRoot.join ⟨.relative, []⟩) (place ++ [])
        []).run.run start) :=
    surveyDirectory_outcome hlog hroot (env.room - 1) (Nat.zero_add _) entered_nil hdir
      ⟨.report s _, hwell⟩
  rwa [join_nil, List.append_nil] at houtcome

/-! ## Where a survey gets to its end -/

/-- Everything that a scan looks at below the input root at a location can be looked at, and no directory lies
too deep for counting its files with the calls that are left. -/
structure Surveyable (room : Nat) (settings : Settings) (fs : FileSystem) (place : Location) : Prop where
  fits : ∀ names name, Entered settings fs place names → name ∈ fs.namesIn (place ++ names) →
    isHidden name = false → fs.Fits (settings.inputRoot.join ⟨.relative, names ++ [name]⟩)
  shallow : ∀ names, Entered settings fs place names → 2 * names.length + 3 ≤ room

theorem Blocked.not_surveyable {room : Nat} {fault : Fault} (h : Blocked settings s.files place (room - 1) fault) :
    ¬ Surveyable room settings s.files place := by
  intro hsurveyable
  cases h with
  | tooLong hnames hmem hshown hlong => exact hlong (hsurveyable.fits _ _ hnames hmem hshown)
  | tooDeep hnames hdeep =>
    have hshallow := hsurveyable.shallow _ hnames
    omega

/-- What is entered is below the names in the input root, or it is the input root. -/
theorem Entered.below_root {names inside : List String} (h : Entered settings s.files place names)
    (hinside : ∀ name, name ∈ inside ↔ name ∈ s.files.namesIn (place ++ [])) (hne : names ≠ []) :
    Below [] inside names := by
  obtain ⟨name, more, rfl⟩ := List.exists_cons_of_ne_nil hne
  have hname : name ∈ s.files.namesIn (place ++ []) :=
    Entered.mem_namesIn (show Entered settings s.files place ([] ++ name :: more) from h)
  exact ⟨name, (hinside name).mpr hname, more, rfl⟩

/-- A survey gets to its end exactly if everything can be looked at and no directory lies too deep. -/
theorem surveyable_iff {room bound : Nat} {inside : List String} {nodes : List ProjectNode} {visits : List Visit}
    {start after : RunState} (hinside : ∀ name, name ∈ inside ↔ name ∈ s.files.namesIn (place ++ []))
    (h : Surveyed env settings s place bound [] inside start nodes visits after) :
    Surveyable room settings s.files place ↔ 2 * levels nodes + 3 ≤ room := by
  constructor
  · intro hsurveyable
    have hroot := hsurveyable.shallow [] entered_nil
    have hlevels : levels nodes ≤ (room - 3) / 2 := by
      refine (levels_le_iff []).mpr fun full hfull => ?_
      have hshallow := hsurveyable.shallow full ((h.directories full).mp hfull).2
      simp only [List.length_nil]
      omega
    simp only [List.length_nil] at hroot
    omega
  · intro hlevels
    refine ⟨fun names name hnames hmem hshown => h.fits names name ?_ hnames hmem hshown, fun names hnames => ?_⟩
    · cases names with
      | nil => exact ⟨name, (hinside name).mpr hmem, [], rfl⟩
      | cons first more =>
        obtain ⟨other, hother, rest, heq⟩ := hnames.below_root hinside (List.cons_ne_nil first more)
        exact ⟨other, hother, rest ++ [name], by rw [heq]; simp⟩
    · by_cases hne : names = []
      · rw [hne, List.length_nil]
        omega
      · have hmem := (h.directories names).mpr ⟨hnames.below_root hinside hne, hnames⟩
        have hlength := (levels_le_iff []).mp (Nat.le_refl (levels nodes)) names hmem
        simp only [List.length_nil] at hlength
        omega

/-- The directories that lie inside each other on the way to one that is entered are entries. -/
theorem Entered.length_le {names : List String} (h : Entered settings s.files place names) :
    names.length ≤ s.files.entries.length := by
  let passed : List Location := (List.range names.length).map fun n => place ++ names.take (n + 1)
  have hnodup : passed.Nodup := by
    refine List.Nodup.map_on (fun m hm n hn heq => ?_) List.nodup_range
    have hlength := congrArg List.length (List.append_cancel_left heq)
    rw [List.length_take, List.length_take] at hlength
    rw [List.mem_range] at hm hn
    omega
  have hentries : passed ⊆ s.files.entries.map (·.1) := by
    intro loc hloc
    obtain ⟨n, hn, rfl⟩ := List.mem_map.mp hloc
    rw [List.mem_range] at hn
    have hne : names.take (n + 1) ≠ [] := by
      rw [Ne, List.take_eq_nil_iff, not_or]
      exact ⟨by omega, List.ne_nil_of_length_pos (by omega)⟩
    obtain ⟨front, last, heq⟩ := (List.eq_nil_or_concat (names.take (n + 1))).resolve_left hne
    rw [List.concat_eq_append] at heq
    have hlast := (h front last (heq ▸ List.take_prefix (n + 1) names)).1
    rw [heq, ← List.append_assoc]
    exact List.mem_map_of_mem (FileSystem.mem_entries_of_get? (by simp) hlast)
  have hle := (List.subperm_of_subset hnodup hentries).length_le
  simpa [passed] using hle

/-- A survey that gets to its end is the scan of a project in which everything can be looked at. -/
theorem survey_eq_scan (hwell : s.files.WellFormed) (hlog : s.LogsTo s.files)
    (h : (survey env settings).run.run s = (.ok (), s')) : s' = scan env settings s := by
  obtain ⟨place, nodes, after, hat, hroot, hsurvey, hlevels, rfl⟩ := survey_eq_ok h
  have houtcome := surveyRoot_outcome env hwell hlog hat hroot
  dsimp only at houtcome
  rw [hsurvey] at houtcome
  obtain ⟨-, inside, visits, hinside, -, hsurveyed⟩ := houtcome
  have hdeep : levels nodes < s.files.entries.length + 1 := by
    refine Nat.lt_succ_of_le ((levels_le_iff []).mpr fun full hfull => ?_)
    have hlength := ((hsurveyed.directories full).mp hfull).2.length_le
    simpa using hlength
  rw [scan]
  dsimp only
  rw [show (s.report (.start "Scanning project..." none)).files = s.files from rfl, hat]
  dsimp only
  rw [scanDirectory_of_survey hsurvey hdeep]
  rfl

/-! ## What a scan leaves behind -/

/-- A file that could not be read or parsed holds nothing to instrument. -/
theorem Visit.copied {v : Visit} (h : (v.failure? env settings).isSome = true) :
    (v.node env settings).containsJsx = false ∧ (v.node env settings).containsRoot = false ∧
      (v.node env settings).components = [] := by
  rw [Visit.failure?] at h
  rw [Visit.node]
  split at h
  · rename_i hsource
    rw [hsource]
    exact ⟨rfl, rfl, rfl⟩
  · cases h

/-- A file other than the log file is read as it was when the scan started. -/
theorem Visit.source?_eq {v : Visit} {now : RunState} (hlog : s.LogsTo s.files) (hnow : s.OnlyLogs now)
    (hseen : v.seen = now.files) {at_ : Location} (hat : s.files.locate (v.path settings) = .ok at_)
    (hplace : s.logPlace ≠ some at_) :
    v.source? env settings = (Visit.mk v.names s.files).source? env settings := by
  have hread : readSource env v.seen (v.path settings) v.rel = readSource env s.files (v.path settings) v.rel := by
    rw [readSource, readSource, hseen, (hnow.agree hlog).readText hat hplace]
  rw [Visit.source?, Visit.source?, hread]
  rfl

/-- What a scan leaves behind that visited the given files, one after the other. -/
structure Captures (env : Environment) (settings : Settings) (s : RunState) (place : Location) (visits : List Visit)
    (s' : RunState) : Prop where
  /-- No file but the log file is touched. -/
  quiet : s.OnlyLogs s'
  /-- The files that are visited are those that count as files. -/
  listed : ∀ names, names ∈ visits.map Visit.names ↔ Listed settings s.files place names
  /-- The files of the inventory are those that are visited, in this order. -/
  files : filesAt [] s'.context.inventory = visits.map fun v => (v.names, v.node env settings)
  /-- The directories of the inventory are those that are entered. -/
  directories : ∀ names, names ∈ directoriesAt [] s'.context.inventory ↔
    names ≠ [] ∧ Entered settings s.files place names
  /-- Each file and each directory is in the inventory once. -/
  once : (placesAt [] s'.context.inventory).Nodup
  /-- What lies in a directory is in the order of names. -/
  inOrder : ∀ ns, Level s'.context.inventory ns → InOrder ns
  /-- No two files have the same path. -/
  distinct : (visits.map Visit.rel).Nodup
  /-- Files are seen as they were at some time of the scan. -/
  seen : ∀ v ∈ visits, ∃ now : RunState, s.OnlyLogs now ∧ now.OnlyLogs s' ∧ v.seen = now.files
  /-- Files are read as they were when the scan started, apart from the log file. -/
  asBefore : ∀ v ∈ visits, ∀ at_, s.files.locate (v.path settings) = .ok at_ → s.logPlace ≠ some at_ →
    v.source? env settings = (Visit.mk v.names s.files).source? env settings
  /-- Files that could not be read or parsed hold nothing to instrument. -/
  copied : ∀ v ∈ visits, (v.failure? env settings).isSome = true →
    (v.node env settings).containsJsx = false ∧ (v.node env settings).containsRoot = false ∧
      (v.node env settings).components = []
  /-- The files that mount an application and the failures are noted in the order of the visits. -/
  context : s'.context = { s.context with
    inventory := s'.context.inventory
    index := none
    rootFiles := s.context.rootFiles ++ visits.filterMap (·.root? env settings)
    scanFailures := s.context.scanFailures ++ visits.filterMap (·.failure? env settings) }
  /-- The display is told of each visit, and at last how many there were. -/
  events : s'.events = s.events ++ [.start "Scanning project..." none] ++ visits.map Visit.event ++
    [.complete s!"✅ Scanned {visits.length} files." visits.length (some visits.length)]

theorem captured_onlyLogs (env : Environment) (nodes : List ProjectNode) (s : RunState) :
    s.OnlyLogs (captured env nodes s) := by
  rw [captured]
  refine RunState.OnlyLogs.trans ?_ (.note _ env _)
  exact .of_files_eq rfl rfl rfl

/-- What is listed is below the names in the input root. -/
theorem Listed.below_root {names inside : List String} (h : Listed settings s.files place names)
    (hat : s.files.locate settings.inputRoot = .ok place)
    (hinside : ∀ name, name ∈ inside ↔ name ∈ s.files.namesIn (place ++ [])) : Below [] inside names := by
  obtain ⟨name, more, rfl⟩ : ∃ name more, names = name :: more := by
    obtain ⟨front, name, rfl, -⟩ := h
    exact List.exists_cons_of_ne_nil (by simp)
  have hdir : s.files.locate (settings.inputRoot.join ⟨.relative, []⟩) = .ok (place ++ []) := by
    rw [join_nil, List.append_nil]
    exact hat
  have hname := Listed.mem_namesIn (show Listed settings s.files place ([] ++ name :: more) from h) hdir
  exact ⟨name, (hinside name).mpr hname, more, rfl⟩

/-- Different names lead to different paths from the root. -/
theorem Scanned.nodup_rel {base : FileSystem} {root : Path} {ns : List ProjectNode} (h : Scanned base root [] ns) :
    ((filesAt [] ns).map fun found => "/".intercalate found.1).Nodup := by
  have hplaces : ((filesAt [] ns).map (·.1)).Nodup := (List.nodup_append.mp h.nodup_placesAt).2.1
  have hmap : (filesAt [] ns).map (fun found => "/".intercalate found.1) =
      ((filesAt [] ns).map (·.1)).map "/".intercalate := by
    rw [List.map_map]
    rfl
  rw [hmap]
  refine List.Nodup.map_on (fun front hfront back hback heq => ?_) hplaces
  obtain ⟨found, hfound, rfl⟩ := List.mem_map.mp hfront
  obtain ⟨other, hother, rfl⟩ := List.mem_map.mp hback
  have hpaths := congrArg Path.ofText heq
  rw [Path.ofText_intercalate (h.isProper hfound), Path.ofText_intercalate (h.isProper hother)] at hpaths
  exact (Files.Path.mk.inj hpaths).2

theorem captures_of_surveyed {inside : List String} {nodes : List ProjectNode} {visits : List Visit}
    {after : RunState} (hlog : s.LogsTo s.files) (env : Environment)
    (hat : s.files.locate settings.inputRoot = .ok place)
    (hinside : ∀ name, name ∈ inside ↔ name ∈ s.files.namesIn (place ++ []))
    (hsorted : inside.Pairwise fun a b => Text.ordered a b = true)
    (hscan : Scanned s.files settings.inputRoot [] nodes)
    {bound : Nat}
    (h : Surveyed env settings s place bound [] inside (s.report (.start "Scanning project..." none)) nodes visits
      after) : Captures env settings s place visits (captured env nodes after) := by
  have hcount : (files nodes).length = visits.length := by
    rw [files_eq [], List.length_map, h.files, List.length_map]
  refine ⟨h.steady.quiet.trans (captured_onlyLogs env nodes after), fun names => ?_, h.files, fun names => ?_,
    hscan.nodup_placesAt, fun ns hlevel => ?_, ?_, fun v hv => ?_, fun v hv at_ hlocate hplace => ?_,
    fun v _ => Visit.copied, ?_, ?_⟩
  · rw [h.listed]
    exact ⟨And.right, fun hlisted => ⟨hlisted.below_root hat hinside, hlisted⟩⟩
  · have hdirectories : names ∈ directoriesAt [] nodes ↔ _ := h.directories names
    refine hdirectories.trans ⟨?_, fun ⟨hne, hentered⟩ => ⟨hentered.below_root hinside hne, hentered⟩⟩
    rintro ⟨⟨name, -, more, rfl⟩, hentered⟩
    exact ⟨List.cons_ne_nil name more, hentered⟩
  · rcases hlevel.cases_top with rfl | ⟨name, children, htop, hlevel⟩
    · exact hsorted.sublist h.top
    · exact h.inside name children htop ns hlevel
  · have hrel := hscan.nodup_rel
    rw [h.files, List.map_map] at hrel
    exact hrel
  · obtain ⟨now, hnow, honward, hseen⟩ := h.seen v hv
    exact ⟨now, hnow, honward.trans (captured_onlyLogs env nodes after), hseen⟩
  · obtain ⟨now, hnow, -, hseen⟩ := h.seen v hv
    exact Visit.source?_eq hlog hnow hseen hlocate hplace
  · have hcontext : (captured env nodes after).context = after.context.setInventory nodes := rfl
    rw [hcontext, h.context]
    rfl
  · have hevents : (captured env nodes after).events = after.events ++
        [.complete s!"✅ Scanned {(files nodes).length} files." (files nodes).length
          (some (files nodes).length)] := rfl
    rw [hevents, h.events, hcount]
    rfl

/-- Where everything can be looked at and no directory lies too deep, a scan gets to its end. -/
theorem survey_of_surveyable (env : Environment) (hwell : s.files.WellFormed) (hlog : s.LogsTo s.files)
    (hat : s.files.locate settings.inputRoot = .ok place) (hroot : s.files.get? place = some .directory)
    (h : Surveyable env.room settings s.files place) :
    ∃ visits s', (survey env settings).run.run s = (.ok (), s') ∧ Captures env settings s place visits s' := by
  have houtcome := surveyRoot_outcome env hwell hlog hat hroot
  have hsurvey := survey_of_root env hat hroot
  dsimp only at houtcome hsurvey
  rcases hrun : (surveyDirectory env settings (env.room - 1) settings.inputRoot place []).run.run
    (s.report (.start "Scanning project..." none)) with ⟨fault | nodes, after⟩
  · rw [hrun] at houtcome
    exact absurd h (Blocked.not_surveyable houtcome)
  · rw [hrun] at houtcome hsurvey
    obtain ⟨-, inside, visits, hinside, hsorted, hsurveyed⟩ := houtcome
    dsimp only at hsurvey
    rw [if_pos ((surveyable_iff hinside hsurveyed).mp h)] at hsurvey
    refine ⟨visits, _, hsurvey, ?_⟩
    have hscan := (scan_scanned hlog env settings hwell).2.1
    rw [← survey_eq_scan hwell hlog hsurvey] at hscan
    exact captures_of_surveyed hlog env hat hinside hsorted hscan hsurveyed

/-- Otherwise a scan ends with the fault of a path that is too long, or of going too deep. -/
theorem survey_of_not_surveyable (env : Environment) (hwell : s.files.WellFormed) (hlog : s.LogsTo s.files)
    (hat : s.files.locate settings.inputRoot = .ok place) (hroot : s.files.get? place = some .directory)
    (h : ¬ Surveyable env.room settings s.files place) :
    ∃ fault s', (survey env settings).run.run s = (.error fault, s') ∧
      (fault = .tooDeep ∨ ∃ p, fault = Refusal.nameTooLong.fault p) := by
  have houtcome := surveyRoot_outcome env hwell hlog hat hroot
  have hsurvey := survey_of_root env hat hroot
  dsimp only at houtcome hsurvey
  rcases hrun : (surveyDirectory env settings (env.room - 1) settings.inputRoot place []).run.run
    (s.report (.start "Scanning project..." none)) with ⟨fault | nodes, after⟩
  · rw [hrun] at houtcome hsurvey
    refine ⟨fault, after, hsurvey, ?_⟩
    cases houtcome with
    | tooLong => exact .inr ⟨_, rfl⟩
    | tooDeep => exact .inl rfl
  · rw [hrun] at houtcome hsurvey
    obtain ⟨-, inside, visits, hinside, hsorted, hsurveyed⟩ := houtcome
    rw [surveyable_iff hinside hsurveyed] at h
    dsimp only at hsurvey
    rw [if_neg h] at hsurvey
    exact ⟨.tooDeep, after, hsurvey, .inl rfl⟩

/-- A scan of an input root that is a directory gets to its end exactly if everything in it can be looked at
and no directory lies too deep. Then it captures exactly what is there. Else it ends with the fault of a path
that is too long, or of going too deep. The system refuses nothing for want of permission. -/
theorem survey_exact (env : Environment) (settings : Settings) (s : RunState) (hwell : s.files.WellFormed)
    (hlog : s.LogsTo s.files) {place : Location} (hat : s.files.locate settings.inputRoot = .ok place)
    (hroot : s.files.get? place = some .directory) :
    (Surveyable env.room settings s.files place → ∃ visits s', (survey env settings).run.run s = (.ok (), s') ∧
      Captures env settings s place visits s') ∧
    (¬ Surveyable env.room settings s.files place → ∃ fault s', (survey env settings).run.run s = (.error fault, s') ∧
      (fault = .tooDeep ∨ ∃ p, fault = Refusal.nameTooLong.fault p)) :=
  ⟨survey_of_surveyable env hwell hlog hat hroot, survey_of_not_surveyable env hwell hlog hat hroot⟩

end Project

/-- Settings with the input root `app`. -/
def appSettings : Settings where
  inputRoot := ⟨.root, ["app"]⟩
  outputRoot := ⟨.root, ["app_new"]⟩

/-- A project with a source that is no text, a hidden directory, and links: to the source, to a directory and
to nothing. -/
def linkedProject : RunState where
  files := { entries :=
    [(["app"], .directory),
     (["app", ".git"], .directory),
     (["app", ".git", "x"], .file 0o644 []),
     (["app", "a.js"], .file 0o644 [0]),
     (["app", "d"], .directory),
     (["app", "d", "y"], .file 0o644 []),
     (["app", "gone"], .link "nowhere"),
     (["app", "l"], .link "a.js"),
     (["app", "up"], .link "..")] }

theorem survey_exact_linkedProject :
    linkedProject.files.WellFormed ∧ linkedProject.LogsTo linkedProject.files ∧
      linkedProject.files.locate appSettings.inputRoot = .ok ["app"] ∧
      linkedProject.files.get? ["app"] = some .directory ∧
      ∃ visits s', (survey bareEnvironment appSettings).run.run linkedProject = (.ok (), s') ∧
        Captures bareEnvironment appSettings linkedProject ["app"] visits s' ∧
        s'.context.scanFailures = [("a.js", "Binary file cannot be read as source: /app/a.js")] := by
  have hwell : linkedProject.files.WellFormed := by decide +kernel
  have hlog : linkedProject.LogsTo linkedProject.files := fun place hplace => nomatch hplace
  have hat : linkedProject.files.locate appSettings.inputRoot = .ok ["app"] := by decide +kernel
  have hroot : linkedProject.files.get? ["app"] = some .directory := by decide +kernel
  have hrun : ((survey bareEnvironment appSettings).run.run linkedProject).1 = .ok () := by decide +kernel
  have hfailures : ((survey bareEnvironment appSettings).run.run linkedProject).2.context.scanFailures =
      [("a.js", "Binary file cannot be read as source: /app/a.js")] := by
    decide +kernel
  obtain ⟨hcaptures, hblocked⟩ := survey_exact bareEnvironment appSettings linkedProject hwell hlog hat hroot
  refine ⟨hwell, hlog, hat, hroot, ?_⟩
  by_cases hsurveyable : Surveyable bareEnvironment.room appSettings linkedProject.files ["app"]
  · obtain ⟨visits, s', hok, hexact⟩ := hcaptures hsurveyable
    rw [hok] at hfailures
    exact ⟨visits, s', hok, hexact, hfailures⟩
  · obtain ⟨fault, s', herror, -⟩ := hblocked hsurveyable
    rw [herror] at hrun
    cases hrun

/-- A name of the given length. -/
def repeated (n : Nat) : String := String.ofList (List.replicate n 'x')

theorem pathSize_repeated (n : Nat) : Text.pathSize (repeated n) = n := by
  have hplain : Text.standsForHalf 'x' = false := by decide +kernel
  have hsize : (repeated n).utf8ByteSize = n := by
    rw [repeated]
    induction n with
    | zero => simp
    | succ n ih =>
      rw [List.replicate_succ, String.ofList_cons, String.utf8ByteSize_append, String.utf8ByteSize_singleton, ih]
      exact Nat.add_comm 1 n
  rw [Text.pathSize, hsize, repeated, String.toList_ofList, List.countP_replicate, hplain]
  rfl

theorem isProperName_repeated (n : Nat) : FileSystem.isProperName (repeated (n + 1)) = true := by
  have hne {name : String} (h : 'x' ∉ name.toList) : repeated (n + 1) ≠ name := by
    rintro rfl
    simp [repeated] at h
  simp only [FileSystem.isProperName, Bool.and_eq_true, bne_iff_ne, ne_eq]
  refine ⟨⟨⟨hne (by decide), hne (by decide)⟩, hne (by decide)⟩, ?_⟩
  simp [repeated, List.mem_replicate]

/-- A project with a file and a link to a name that no file can have. -/
def longLinkProject : RunState where
  files := { entries :=
    [(["app"], .directory),
     (["app", "a"], .file 0o644 []),
     (["app", "l"], .link (repeated 300))] }

/-- The link cannot be looked at. -/
theorem not_fits_longLinkProject : ¬ longLinkProject.files.Fits ⟨.root, ["app", "l"]⟩ := by
  rw [FileSystem.Fits, not_not, FileSystem.stat_eq_tooLong, FileSystem.locate, if_neg (by decide +kernel)]
  have htarget : Path.ofText (repeated 300) = ⟨.relative, [repeated 300]⟩ := by
    have hproper : [repeated 300].all FileSystem.isProperName = true := by
      rw [List.all_cons, isProperName_repeated 299]
      rfl
    have hname := Path.ofText_intercalate hproper
    rwa [String.intercalate_singleton] at hname
  have hlong : FileSystem.maxName < Text.pathSize (repeated 300) := by
    rw [pathSize_repeated]
    decide
  have hdir : longLinkProject.files.get? ["app"] = some .directory := rfl
  have hlink : longLinkProject.files.get? (["app"] ++ ["l"]) = some (.link (repeated 300)) := rfl
  have hdown : longLinkProject.files.walk true 40 [] ["app", "l"] =
      longLinkProject.files.walk true 40 ["app"] ["l"] :=
    FileSystem.walk_down rfl (by decide) (by decide +kernel) (fun target hlinked => by cases hdir.symm.trans hlinked)
  have hthrough : longLinkProject.files.walk true 40 ["app"] ["l"] =
      longLinkProject.files.walk true 39 ["app"] [repeated 300] := by
    have hgo : longLinkProject.files.walk true (39 + 1) ["app"] ["l"] = _ :=
      FileSystem.walk_through hdir (by decide) (by decide +kernel) hlink rfl
    rw [htarget] at hgo
    exact hgo
  have hup : repeated 300 ≠ ".." := by
    intro heq
    have hsize := pathSize_repeated 300
    rw [heq] at hsize
    revert hsize
    decide +kernel
  exact hdown.trans (hthrough.trans (FileSystem.walk_tooLong hdir hup hlong))

/-- One link that leads nowhere ends the scan of the whole project, if the name that it leads to is too
long. -/
theorem survey_longLink :
    longLinkProject.files.WellFormed ∧
      longLinkProject.files.stat appSettings.inputRoot = .ok .directory ∧
      ∃ fault s', (survey bareEnvironment appSettings).run.run longLinkProject = (.error fault, s') := by
  have hwell : longLinkProject.files.WellFormed := by decide +kernel
  have hlog : longLinkProject.LogsTo longLinkProject.files := fun place hplace => nomatch hplace
  have hat : longLinkProject.files.locate appSettings.inputRoot = .ok ["app"] := by decide +kernel
  have hroot : longLinkProject.files.get? ["app"] = some .directory := rfl
  have hblocked : ¬ Surveyable bareEnvironment.room appSettings longLinkProject.files ["app"] := fun h =>
    not_fits_longLinkProject (h.fits [] "l" entered_nil (by decide +kernel) (by decide +kernel))
  obtain ⟨fault, s', hrun, -⟩ := survey_of_not_surveyable bareEnvironment hwell hlog hat hroot hblocked
  exact ⟨hwell, FileSystem.stat_eq_ok.mpr ⟨_, hat, hroot⟩, fault, s', hrun⟩

end JsxTagger.Inventory
