import JsxTagger.Proofs.Emit.Independence

/-!
# How a pool is opened

The directories of the copy are made before the first file is emitted. When that has succeeded, the ground is
prepared (`exists_ground`), provided that neither sources nor the log file are in the way (`Apart`). Nothing
stands at a destination then that did not stand there before the run, unless the output root goes up from
directories that were not there (`get?_of_openPool`).
-/

namespace JsxTagger.Emit

open Files
open FileSystem (Grows)
open Inventory (Scanned directoriesAt filesAt isHidden mem_placesAt placesAt)

/-- No destination is the place of a source, of a link or of the log file, and the log file is no source and
not hidden. -/
structure Apart (s : RunState) (input : Path) (inv : Inventory) (out : Location) : Prop
    extends Spared s input inv out where
  log : ∀ at_, s.logPlace = some at_ →
    (∀ place ∈ filesAt [] inv, at_ ≠ out ++ place.1) ∧ (∀ name ∈ at_.getLast?, isHidden name = false) ∧
      ∀ names, ".." ∉ names → s.files.locate (input.join ⟨.relative, names⟩) ≠ .ok at_

variable {tools : Tools} {s now now' b : RunState} {inv : Inventory} {out : Location} {p : Path}
  {ps : List Path} {pool : Pool} {base : FileSystem} {input : Path}

/-! ## Making directories -/

theorem makeDirs_state (hsink : now.sink = .disk) (p : Path) :
    (now.makeDirs p).2 = { now with files := (now.makeDirs p).2.files } := by
  rw [RunState.makeDirs_of_disk hsink]

theorem makeDirs_stat (hsink : now.sink = .disk) (h : now.makeDirs p = (.ok (), now')) :
    now'.files.stat p = .ok .directory := by
  rw [RunState.makeDirs_of_disk hsink] at h
  obtain ⟨hok, rfl⟩ := Prod.mk.inj h
  exact FileM.stat_of_makeDirs (reporting_eq_ok.mp (Prod.ext hok rfl))

/-- Directories that are made stay. -/
theorem Grows.stat_directory {fs fs' : FileSystem} (h : Grows fs fs')
    (hdir : fs.stat p = .ok .directory) : fs'.stat p = .ok .directory := by
  obtain ⟨at_, hat, hget⟩ := FileSystem.stat_eq_ok.mp hdir
  exact FileSystem.stat_eq_ok.mpr ⟨at_, FileSystem.Grows.locate h hat, h.directory hget⟩

/-- Making directories changes nothing but files, and all of them are there in the end. -/
theorem makeAll_made (hsink : now.sink = .disk) (h : makeAll ps now = (.ok (), now')) :
    now' = { now with files := now'.files } ∧ now.files.Grows now'.files ∧
      ∀ p ∈ ps, now'.files.stat p = .ok .directory := by
  induction ps generalizing now with
  | nil =>
    cases h
    exact ⟨rfl, .refl _ _ _, nofun⟩
  | cons p ps ih =>
    obtain ⟨mid, hmake, hrest⟩ := makeAll_cons h
    have hgrows := makeDirs_grows hsink p
    obtain ⟨fs, rfl⟩ : ∃ fs, mid = { now with files := fs } := by
      have hstate := makeDirs_state hsink p
      rw [hmake] at hstate
      exact ⟨_, hstate⟩
    have hdir := makeDirs_stat hsink hmake
    rw [hmake] at hgrows
    obtain ⟨hlater, hmore, hdirs⟩ := ih (show RunState.sink { now with files := fs } = .disk from hsink)
      hrest
    refine ⟨hlater, FileSystem.Spares.trans hgrows hmore, fun q hq => ?_⟩
    · rcases List.mem_cons.mp hq with rfl | hq
      · exact Grows.stat_directory hmore hdir
      · exact hdirs q hq

/-! ## The pool -/

/-- A project is emitted by opening a pool and emitting the files one after another. -/
theorem emitProject_eq_openPool (tools : Tools) (s : RunState) :
    emitProject tools s =
      match openPool tools s with
      | (.error t, s) => (.error t, s)
      | (.ok p, s) =>
        let (c, s) := (p.tasks.map (·.file)).foldl (emitNext tools) ({}, s)
        match c.fault with
        | some fault => (.error (.fault fault), s)
        | none => (.ok (reportOf c.outcomes s.context), s.report (completion c.outcomes)) := by
  rw [emitProject, openPool]
  cases layout (tools.env.room - 1) {} s.context.inventory with
  | error fault => rfl
  | ok found =>
    dsimp only
    rcases makeAll (tools.settings.outputRoot :: found.1.map tools.settings.outputRoot.join) s with
      ⟨t | ⟨⟨⟩⟩, made⟩
    · rfl
    · dsimp only
      generalize hall : (Pool.ofFiles found.2 _).tasks.map (·.file) = files
      rw [Pool.files_ofFiles] at hall
      subst hall
      rfl

/-- Where a pool is opened and no file ends the run, the report has the outcomes of the files one after
another. -/
theorem emitProject_eq_of_foldl {tools : Tools} {s b s' : RunState} {files : List FileNode} {os : List FileOutcome}
    (hopen : openPool tools s = (.ok (.ofFiles files b), b))
    (hfold : files.foldl (emitNext tools) ({}, b) = ({ outcomes := os }, s')) :
    emitProject tools s = (.ok (reportOf os s'.context), s'.report (completion os)) := by
  rw [emitProject_eq_openPool, hopen]
  dsimp only
  rw [Pool.files_ofFiles, hfold]

theorem openPool_eq_ok (hscan : Scanned base input [] now.context.inventory)
    (h : openPool tools now = (.ok pool, b)) :
    ∃ made, makeAll (tools.settings.outputRoot ::
        (directoriesAt [] now.context.inventory).map
          fun names => tools.settings.outputRoot.join ⟨.relative, names⟩) now = (.ok (), made) ∧
      b = made.report (.start "Emitting files..."
        (some (filesAt [] now.context.inventory).length)) ∧
      pool = .ofFiles ((filesAt [] now.context.inventory).map (·.2)) b := by
  rw [openPool] at h
  split at h
  · cases h
  · rename_i dirs files hlayout
    obtain ⟨-, rfl, rfl⟩ := hscan.of_layout_eq_ok hlayout
    dsimp only at h
    rw [List.map_map] at h
    split at h
    · cases h
    · rename_i made hmake
      rw [List.length_map] at h
      cases h
      exact ⟨made, hmake, rfl, rfl⟩

/-- When a pool was opened after a scan, the ground is prepared. -/
theorem exists_ground (hscan : Scanned s.files tools.settings.inputRoot [] now.context.inventory)
    (hquiet : s.OnlyLogs now) (hindex : now.context.index = none) (hsink : s.sink = .disk)
    (hlog : s.LogsTo s.files)
    (hapart : ∀ made out, now.makeDirs tools.settings.outputRoot = (.ok (), made) →
      made.files.locate tools.settings.outputRoot = .ok out →
      Apart s tools.settings.inputRoot now.context.inventory out)
    (hreader : tools.reader = readText) (hformatter : Reliable tools.formatter)
    (hids : ∀ n, Text.isPlain (tools.env.ids n) = true)
    (hopen : openPool tools now = (.ok pool, b))
    (hworkable : ∀ place ∈ filesAt [] now.context.inventory, Workable tools b place.1 place.2) :
    ∃ out, Ground tools now.context.inventory out b ∧ b.logPlace = s.logPlace ∧
      pool = .ofFiles ((filesAt [] now.context.inventory).map (·.2)) b := by
  obtain ⟨made, hmake, rfl, hpool⟩ := openPool_eq_ok hscan hopen
  have hsink' := hquiet.sink.trans hsink
  obtain ⟨hstate, hgrows, hdirs⟩ := makeAll_made hsink' hmake
  obtain ⟨rooted, hroot, hrest⟩ := makeAll_cons hmake
  obtain ⟨out, hout, -⟩ := FileSystem.stat_eq_ok.mp (makeDirs_stat hsink' hroot)
  have hclear := hapart rooted out hroot hout
  have hlocate : made.files.locate tools.settings.outputRoot = .ok out := by
    have hrooted : rooted.sink = .disk := by
      have hrootedState := makeDirs_state hsink' tools.settings.outputRoot
      rw [hroot] at hrootedState
      rw [show rooted = _ from hrootedState]
      exact hsink'
    exact FileSystem.Grows.locate (makeAll_made hrooted hrest).2.1 hout
  -- since the run began, only logs and directories came about
  have hspares : FileSystem.Spares s.logPlace (fun _ => False) s.files made.files :=
    (spares_of_onlyLogs hquiet hlog _).trans (hgrows.mono (.inl rfl) fun _ => id)
  have hplace : made.logPlace = s.logPlace := by
    rw [hstate]
    exact hquiet.logPlace_eq
  refine ⟨out, ⟨?_, logsTo_of_spares hlog (.inr hplace) hspares, ?_, ?_, hreader, hformatter, hids,
    ⟨s.files, hscan⟩, fun names hnames => ?_, fun place hmem target hlink => ?_, fun place hmem => ?_,
    fun at_ hlogged => ?_, hworkable⟩, hplace, hpool⟩
  · rw [hstate]
    exact hsink'
  · rw [hstate]
    rfl
  · rw [hstate]
    exact .inl hindex
  · rcases hnames with rfl | hmem
    · rw [join_relative, List.append_nil, List.append_nil]
      obtain ⟨at_, hat, hget⟩ := FileSystem.stat_eq_ok.mp (hdirs _ List.mem_cons_self)
      rw [hlocate] at hat
      cases hat
      exact ⟨hlocate, hget⟩
    · obtain ⟨at_, hat, hget⟩ := FileSystem.stat_eq_ok.mp
        (hdirs _ (List.mem_cons_of_mem _ (List.mem_map_of_mem hmem)))
      obtain rfl := locate_place hclear.unlinked hscan hspares.links hlocate
        (List.mem_append_left _ hmem) hat
      exact ⟨hat, hget⟩
  · exact hclear.unlinked place.1 (mem_placesAt hmem) target (hspares.links _ _ hlink)
  · obtain ⟨-, src, mode, content, hsrc, hget⟩ := hscan.of_mem_filesAt hmem
    have hup : ".." ∉ place.1 := fun hup =>
      absurd (List.all_eq_true.mp (hscan.isProper hmem) ".." hup) (by decide)
    refine ⟨src, hspares.locate (fun _ hfalse => hfalse.elim) hsrc, fun other hother heq => ?_,
      fun hlogged => ?_⟩
    · rw [heq] at hsrc hget
      exact hclear.sources other hother place.1 hup hsrc mode content hget
    · exact (hclear.log src (hplace.symm.trans hlogged)).2.2 place.1 hup hsrc
  · obtain ⟨hdestinations, hshown, -⟩ := hclear.log at_ (hplace.symm.trans hlogged)
    exact ⟨hdestinations, hshown⟩

/-! ## What stands at the destinations -/

/-- Making a directory in one that is there adds nothing else, and a path leads to it. -/
theorem makeDirs_beside (hsink : now.sink = .disk) {dir : Location}
    (hbeside : FileSystem.Beside now.files p dir)
    (hlink : ∀ target, now.files.get? (dir ++ [p.name]) ≠ some (.link target))
    (h : now.makeDirs p = (.ok (), now')) :
    now'.files.locate p = .ok (dir ++ [p.name]) ∧
      now'.files.get? (dir ++ [p.name]) = some .directory ∧
      ∀ loc, loc ≠ dir ++ [p.name] → now'.files.get? loc = now.files.get? loc := by
  have hgrows := makeDirs_grows hsink p
  have hdir := makeDirs_stat hsink h
  rw [h] at hgrows
  have hlater : FileSystem.Beside now'.files p dir :=
    ⟨hbeside.parts, hbeside.name, FileSystem.Grows.locate hgrows hbeside.locate,
      hgrows.directory hbeside.directory⟩
  obtain ⟨at_, hat, hget⟩ := FileSystem.stat_eq_ok.mp hdir
  have hplace := hlater.locate_destination true fun _ target hlink' =>
    hlink target (hgrows.links _ _ hlink')
  rw [hat] at hplace
  split at hplace
  · cases hplace
  · cases hplace
    refine ⟨hat, hget, fun loc hne => ?_⟩
    rw [RunState.makeDirs_of_disk hsink] at h
    obtain ⟨hok, rfl⟩ := Prod.mk.inj h
    have hrun : (FileM.makeDirs p).run.run now.files =
        (.ok (), ((Files.makeDirs p).run.run now.files).2) := reporting_eq_ok.mp (Prod.ext hok rfl)
    -- either the directory is there, or it is the only one that is put
    by_cases hthere : now.files.stat p = .ok .directory
    · rw [FileM.eq_of_makeDirs hthere hrun]
    · have hpath := hbeside.eq_concat
      have hparent : now.files.stat ⟨p.anchor, p.parts.dropLast⟩ = .ok .directory :=
        FileSystem.stat_eq_ok.mpr ⟨dir, hbeside.locate, hbeside.directory⟩
      dsimp only
      generalize ((Files.makeDirs p).run.run now.files).2 = fs at hrun ⊢
      rw [hpath] at hthere hrun
      obtain ⟨at_, hput, hnone, hfiles⟩ := FileM.put_of_makeDirs hparent hthere hrun
      rw [← hpath, hbeside.locate_destination false (absurd · Bool.false_ne_true)] at hput
      split at hput
      · cases hput
      · cases hput
        rw [hfiles]
        exact FileSystem.get?_put_of_ne _ hne _

/-- Making the directories of an inventory adds nothing else. -/
theorem makeAll_elsewhere {root : Path} {rel : List String} {ns : List ProjectNode}
    (hscan : Scanned base input rel ns) (hsink : now.sink = .disk)
    (hrel : now.files.locate (root.join ⟨.relative, rel⟩) = .ok (out ++ rel))
    (hdir : now.files.get? (out ++ rel) = some .directory)
    (hlink : ∀ names ∈ placesAt rel ns, ∀ target, now.files.get? (out ++ names) ≠ some (.link target))
    (h : makeAll ((directoriesAt rel ns).map fun names => root.join ⟨.relative, names⟩) now =
      (.ok (), now')) (loc : Location) (hloc : ∀ names ∈ directoriesAt rel ns, loc ≠ out ++ names) :
    now'.files.get? loc = now.files.get? loc := by
  induction hscan generalizing now now' with
  | nil =>
    rw [directoriesAt] at h
    cases h
    rfl
  | @file rel name f ns _ _ _ _ _ _ _ _ _ _ _ _ ih =>
    rw [directoriesAt] at h hloc
    refine ih hsink hrel hdir (fun names hmem => hlink names ?_) h hloc
    rw [(Scanned.placesAt_file rel f ns).mem_iff]
    exact List.mem_cons_of_mem _ hmem
  | @directory rel name children ns hproper hfresh hchildren hrest ihChildren ih =>
    have hperm := Scanned.placesAt_directory rel (.str name) children ns
    have hname : name ≠ ".." := by
      rintro rfl
      cases hproper
    rw [show (Json.str name).plain = name from rfl] at hperm
    have hsub {names : List String} (hmem : names ∈ placesAt (rel ++ [name]) children ++ placesAt rel ns) :
        names ∈ placesAt rel (.directory (.str name) children :: ns) :=
      hperm.mem_iff.mpr (List.mem_cons_of_mem _ hmem)
    rw [directoriesAt, List.map_append, List.map_cons] at h
    rw [directoriesAt] at hloc
    rw [show (Json.str name).plain = name from rfl] at h hloc
    -- first the directory is made, then what is inside it, then what comes behind it
    obtain ⟨after, hfirst, hmore⟩ := makeAll_append h
    obtain ⟨made, hmake, hinner⟩ := makeAll_cons hfirst
    have hend : out ++ rel ++ [(root.join ⟨.relative, rel ++ [name]⟩).name] = out ++ (rel ++ [name]) := by
      rw [name_join, List.append_assoc]
    have hplain := hlink (rel ++ [name]) (hperm.mem_iff.mpr List.mem_cons_self)
    obtain ⟨hat, hget, hsame⟩ := makeDirs_beside hsink (beside_join hname hrel hdir)
      (by rwa [hend]) hmake
    rw [hend] at hat hget hsame
    have hmade := makeAll_made hsink
      (show makeAll [root.join ⟨.relative, rel ++ [name]⟩] now = (.ok (), made) by
        rw [makeAll, hmake]
        rfl)
    have hafter := makeAll_made (by rw [hmade.1]; exact hsink) hinner
    have hgrows := FileSystem.Spares.trans hmade.2.1 hafter.2.1
    have hfirst := ihChildren (by rw [hmade.1]; exact hsink) hat hget
      (fun names hmem target hlinked => hlink names (hsub (List.mem_append_left _ hmem)) target
        (hmade.2.1.links _ _ hlinked)) hinner
      (fun names hmem => hloc names (List.mem_append_left _ (List.mem_cons_of_mem _ hmem)))
    have hsecond := ih (by rw [hafter.1, hmade.1]; exact hsink) (FileSystem.Grows.locate hgrows hrel)
      (hgrows.directory hdir)
      (fun names hmem target hlinked => hlink names (hsub (List.mem_append_right _ hmem)) target
        (hgrows.links _ _ hlinked)) hmore
      (fun names hmem => hloc names (List.mem_append_right _ hmem))
    rw [hsecond, hfirst, hsame loc (hloc _ (List.mem_append_left _ List.mem_cons_self))]

/-- Making the output root adds nothing but the directories it lies in, if no `..` of it stands behind a part
that is absent. -/
theorem makeDirs_only (hwell : now.files.WellFormed) (hsink : now.sink = .disk)
    (hup : ∀ front back, p.parts = front ++ ".." :: back →
      ∃ e, now.files.stat ⟨p.anchor, front⟩ = .ok e)
    (h : now.makeDirs p = (.ok (), now')) (hout : now'.files.locate p = .ok out) (loc : Location)
    (hloc : ¬ loc <+: out) : now'.files.get? loc = now.files.get? loc := by
  have hgrows := makeDirs_grows hsink p
  have hdir := makeDirs_stat hsink h
  rw [h] at hgrows
  rw [RunState.makeDirs_of_disk hsink] at h
  obtain ⟨hok, rfl⟩ := Prod.mk.inj h
  have hrun : (FileM.makeDirs p).run.run now.files =
      (.ok (), ((Files.makeDirs p).run.run now.files).2) := reporting_eq_ok.mp (Prod.ext hok rfl)
  dsimp only at hgrows hdir hout ⊢
  generalize ((Files.makeDirs p).run.run now.files).2 = fs at hrun hgrows hdir hout ⊢
  by_cases hthere : ∃ e, now.files.stat p = .ok e
  · obtain ⟨e, hstat⟩ := hthere
    obtain ⟨at_, hat, hget⟩ := FileSystem.stat_eq_ok.mp hstat
    obtain ⟨at', hat', hget'⟩ := FileSystem.stat_eq_ok.mp hdir
    rw [FileSystem.Grows.locate hgrows hat] at hat'
    cases hat'
    have he : e = .directory := by
      rcases hgrows.entries at_ e hget with hsame | ⟨hplace, -⟩ | ⟨hfalse, -⟩
      · rw [hget'] at hsame
        exact (Option.some.inj hsame).symm
      · cases hplace
      · exact hfalse.elim
    rw [he] at hstat
    rw [FileM.eq_of_makeDirs hstat hrun]
  · obtain ⟨out', hmade⟩ := FileM.exists_made hwell (fun e he => hthere ⟨e, he⟩) hup hrun
    rw [hmade.locate] at hout
    cases hout
    exact (hmade.only loc).resolve_right hloc

/-- When a pool was opened, the destinations of files are as they were before the run. -/
theorem get?_of_openPool (hscan : Scanned s.files tools.settings.inputRoot [] now.context.inventory)
    (hsteady : s.Steady now) (hsink : s.sink = .disk) (hlog : s.LogsTo s.files)
    (hapart : ∀ made out, now.makeDirs tools.settings.outputRoot = (.ok (), made) →
      made.files.locate tools.settings.outputRoot = .ok out →
      Apart s tools.settings.inputRoot now.context.inventory out)
    (hup : ∀ front back, tools.settings.outputRoot.parts = front ++ ".." :: back →
      ∃ e, s.files.stat ⟨tools.settings.outputRoot.anchor, front⟩ = .ok e)
    (hopen : openPool tools now = (.ok pool, b)) (h : Ground tools now.context.inventory out b)
    {place : List String × FileNode} (hmem : place ∈ filesAt [] now.context.inventory) :
    b.files.get? (out ++ place.1) = s.files.get? (out ++ place.1) := by
  obtain ⟨made, hmake, rfl, -⟩ := openPool_eq_ok hscan hopen
  have hsink' := hsteady.quiet.sink.trans hsink
  obtain ⟨rooted, hroot, hrest⟩ := makeAll_cons hmake
  obtain ⟨out', hout, hdir⟩ := FileSystem.stat_eq_ok.mp (makeDirs_stat hsink' hroot)
  have hrooted := makeAll_made hsink'
    (show makeAll [tools.settings.outputRoot] now = (.ok (), rooted) by
      rw [makeAll, hroot]
      rfl)
  have hrootedSink : rooted.sink = .disk := by
    rw [hrooted.1]
    exact hsink'
  have hgrows := (makeAll_made hrootedSink hrest).2.1
  obtain rfl : out' = out := by
    have hplace := (h.directories [] (.inl rfl)).1
    rw [join_relative, List.append_nil, List.append_nil] at hplace
    exact Except.ok.inj ((FileSystem.Grows.locate hgrows hout).symm.trans hplace)
  have hclear := hapart rooted out' hroot hout
  -- no link came about since the run began
  have hlinks (loc : Location) (target : String) (hlink : rooted.files.get? loc = some (.link target)) :
      s.files.get? loc = some (.link target) :=
    (spares_of_onlyLogs hsteady.quiet hlog (fun _ => False)).links _ _ (hrooted.2.1.links _ _ hlink)
  have hdirs : made.files.get? (out' ++ place.1) = rooted.files.get? (out' ++ place.1) := by
    refine makeAll_elsewhere hscan hrootedSink ?_ ?_ (fun names hnames target hlink =>
      hclear.unlinked names hnames target (hlinks _ _ hlink)) hrest _ fun names hnames heq => ?_
    · rwa [join_relative, List.append_nil, List.append_nil]
    · rwa [List.append_nil]
    · have hsame := List.append_cancel_left heq
      have hapart := (List.nodup_append.mp hscan.nodup_placesAt).2.2
      exact hapart names hnames place.1 (List.mem_map_of_mem hmem) hsame.symm
  -- a destination lies below the output root, so it is none of the directories that this lies in
  have hbelow : ¬ out' ++ place.1 <+: out' := by
    intro hprefix
    have hlength := hprefix.length_le
    rw [List.length_append] at hlength
    exact hscan.ne_nil (mem_placesAt hmem) (List.length_eq_zero_iff.mp (by omega))
  have hroots := makeDirs_only hsteady.wellFormed hsink'
    (fun front back hparts => (hsteady.quiet.exists_stat_iff hlog).mpr (hup front back hparts)) hroot hout
    _ hbelow
  calc made.files.get? (out' ++ place.1)
      = rooted.files.get? (out' ++ place.1) := hdirs
    _ = now.files.get? (out' ++ place.1) := hroots
    _ = s.files.get? (out' ++ place.1) := hsteady.quiet.elsewhere _ fun hplace =>
        (hclear.log _ hplace).1 place hmem rfl

/-! ## A project with a directory in the way -/

/-- Tools that copy what is below `app` to `out`. -/
def blockedTools (failFast : Bool) : Tools :=
  { copyTools ⟨.root, ["out"]⟩ with
    settings := { (copyTools ⟨.root, ["out"]⟩).settings with failFast } }

/-- Three files, and a directory where the second would be copied to. -/
def blockedProject : RunState where
  files := { entries :=
    [(["app"], .directory),
     (["app", "a"], .file 0o644 [1]),
     (["app", "b"], .file 0o644 [2]),
     (["app", "c"], .file 0o644 [3]),
     (["out"], .directory),
     (["out", "b"], .directory)] }

/-- The state of `blockedProject` after its scan. -/
def scannedBlocked (failFast : Bool) : RunState :=
  Inventory.scan (blockedTools failFast).env (blockedTools failFast).settings blockedProject

theorem blockedProject_wellFormed : blockedProject.files.WellFormed := by
  decide +kernel

theorem blockedProject_logsTo : blockedProject.LogsTo blockedProject.files := by
  intro place hplace
  cases hplace

theorem reliable_unchanged : Reliable Format.unchanged :=
  ⟨fun _ _ _ => rfl, fun _ text _ hplain => .inr ⟨text, rfl, hplain⟩⟩

theorem blockedProject_apart (failFast : Bool) (made : RunState) (out : Location)
    (hmake : (scannedBlocked failFast).makeDirs ⟨.root, ["out"]⟩ = (.ok (), made))
    (hout : made.files.locate ⟨.root, ["out"]⟩ = .ok out) :
    Apart blockedProject ⟨.root, ["app"]⟩ (scannedBlocked failFast).context.inventory out := by
  have hplain := not_link_of_entries blockedProject.files (by simp [blockedProject])
  have hroot : ((scannedBlocked failFast).makeDirs ⟨.root, ["out"]⟩).2.files.locate
      ⟨.root, ["out"]⟩ = .ok ["out"] := by
    cases failFast <;> decide +kernel
  rw [hmake, hout] at hroot
  cases hroot
  have happ : blockedProject.files.locate ⟨.root, ["app"]⟩ = .ok ["app"] := by decide +kernel
  exact ⟨spared_of_apart happ (by decide) (by decide) (fun names => hplain _) fun names => hplain _,
    nofun⟩

theorem blockedProject_workable (failFast : Bool) (b : RunState) :
    ∀ place ∈ filesAt [] (scannedBlocked failFast).context.inventory,
      Workable (blockedTools failFast) b place.1 place.2 := by
  have hall : (filesAt [] (scannedBlocked failFast).context.inventory).all (fun place =>
      !place.2.shouldInstrument &&
      (FileSystem.pathFault? (Path.join ⟨.root, ["app"]⟩ ⟨.relative, place.1⟩)).isNone &&
      (FileSystem.pathFault? (Path.join ⟨.root, ["out"]⟩ ⟨.relative, place.1⟩)).isNone) = true := by
    cases failFast <;> decide +kernel
  intro place hmem
  have hplace := List.all_eq_true.mp hall place hmem
  simp only [Bool.and_eq_true, Bool.not_eq_true', Option.isNone_iff_eq_none] at hplace
  obtain ⟨⟨hcopied, hsource⟩, hdestination⟩ := hplace
  have hnever : place.2.shouldInstrument ≠ true := by simp [hcopied]
  exact ⟨hsource, hdestination, fun h => absurd h hnever, fun h => absurd h hnever⟩

end JsxTagger.Emit
