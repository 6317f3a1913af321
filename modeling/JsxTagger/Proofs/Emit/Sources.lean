import JsxTagger.Emit.Project
import JsxTagger.Proofs.Emit.Mirror
import JsxTagger.Proofs.Files.Effects
import JsxTagger.Settings.Build

/-!
# What happens to the sources

Emission makes directories and puts files at the destinations, and leaves everything else alone, however
it ends. So the sources are kept as long as no destination is the place of a source
(`sources_kept`). Building settings does not see to that: it only refuses an output root that is the input
root itself, and with an output root inside the input root a source can be overwritten
(`source_overwritten`).
-/

namespace JsxTagger

open Files
open FileSystem (Spares Grows)

namespace Emit

open Inventory (Scanned directoriesAt filesAt placesAt mem_placesAt)

/-! ## One file -/

section OneFile

variable {tools : Tools} {rel : String} {source destination : Path} {s : RunState}

theorem settle_onlyLogs (env : Environment) (rel : String) (t : Trouble) (s : RunState) :
    s.OnlyLogs (settle env rel t s).2 := by
  cases t with
  | failure f => exact .note s env _
  | fault fault => exact .refl s

/-- What emitting a file does to the files, however it ends: only the log is written, or the destination
is written too, which may cut off the log. -/
inductive Writes (destination : Path) (s s' : RunState) : Prop where
  | nothing (hquiet : s.OnlyLogs s')
  | file {before : RunState} (after : RunState) (hbefore : s.OnlyLogs before)
      (hlands : Lands before.files destination after.files) (hsink : after.sink = before.sink)
      (hplace : after.logPlace = none ∨ after.logPlace = before.logPlace) (hafter : after.OnlyLogs s')

theorem copyOne_writes (hsink : s.sink = .disk) :
    Writes destination s (copyOne tools rel source destination s).2 := by
  have hlands := copyFile_lands source destination s.files
  rw [copyOne, RunState.copyFile, RunState.intoSink_of_disk hsink, RunState.putFile]
  rcases hrun : (copyFile source destination).run.run s.files with ⟨t | ⟨⟨⟩⟩, fs⟩
  · rw [hrun] at hlands
    exact .file { s with files := fs } (.refl s) hlands rfl (.inr rfl) (settle_onlyLogs _ _ _ _)
  · rw [hrun] at hlands
    exact .file (s.landed destination fs) (.refl s) hlands rfl (s.logPlace_landed _ _) (.refl _)

theorem commit_writes {p : Prepared} (hsink : s.sink = .disk) :
    Writes destination s (commit tools rel source destination p s).2 := by
  have hlands := writeFile_lands destination p.text (some source) s.files
  rw [commit]
  split
  · exact .nothing (.refl s)
  · rw [write, RunState.writeFile, RunState.intoSink_of_disk hsink, RunState.putFile]
    rcases hrun : (writeFile destination p.text (some source)).run.run s.files with ⟨t | ⟨⟨⟩⟩, fs⟩
    · rw [hrun] at hlands
      exact .file { s with files := fs } (.refl s) hlands rfl (.inr rfl) (settle_onlyLogs _ _ _ _)
    · rw [hrun] at hlands
      exact .file (s.landed destination fs) (.refl s) hlands rfl (s.logPlace_landed _ _) (.note _ _ _)

theorem Writes.after {before s s' : RunState} (hbefore : before.OnlyLogs s)
    (h : Writes destination s s') : Writes destination before s' := by
  cases h with
  | nothing hquiet => exact .nothing (hbefore.trans hquiet)
  | file after hmid hlands hsink hplace hafter =>
    exact .file after (hbefore.trans hmid) hlands hsink hplace hafter

theorem emitAt_writes (tools : Tools) (f : FileNode) (rel : String) (hsink : s.sink = .disk) :
    Writes (tools.settings.outputRoot.join (Path.ofText rel)) s (emitAt tools f rel s).2 := by
  rw [emitAt]
  split
  · exact .nothing (.refl s)
  · split
    · exact copyOne_writes hsink
    · have hquiet := prepare_onlyLogs tools rel (tools.settings.inputRoot.join (Path.ofText rel))
        (tools.settings.outputRoot.join (Path.ofText rel)) s
      rcases hprepare : prepare tools rel (tools.settings.inputRoot.join (Path.ofText rel))
        (tools.settings.outputRoot.join (Path.ofText rel)) s with ⟨t | p, ready⟩
      · rw [hprepare] at hquiet
        exact .nothing (hquiet.trans (settle_onlyLogs _ _ _ _))
      · rw [hprepare] at hquiet
        exact (commit_writes (hquiet.sink.trans hsink)).after hquiet

end OneFile

/-! ## The invariant -/

/-- The places of the files of an inventory below a location. -/
def Destination (inv : Inventory) (out : Location) (loc : Location) : Prop :=
  ∃ place ∈ filesAt [] inv, loc = out ++ place.1

/-- No link stands at a place of the inventory below a location. -/
def Unlinked (fs : FileSystem) (inv : Inventory) (out : Location) : Prop :=
  ∀ names ∈ placesAt [] inv, ∀ target, fs.get? (out ++ names) ≠ some (.link target)

/-- At some moment of an emission everything is still there that was there before the run, the
destinations apart, and the output root leads to `out`. The log goes where it went before, unless it was
cut off. -/
structure Intact (s : RunState) (root : Path) (inv : Inventory) (out : Location) (now : RunState) :
    Prop where
  sink : now.sink = .disk
  logPlace : now.logPlace = none ∨ now.logPlace = s.logPlace
  spares : Spares s.logPlace (Destination inv out) s.files now.files
  locate : now.files.locate root = .ok out

theorem Unlinked.plain {fs : FileSystem} {inv : Inventory} {out : Location}
    (h : Unlinked fs inv out) (loc : Location) (hloc : Destination inv out loc) (target : String) :
    fs.get? loc ≠ some (.link target) := by
  obtain ⟨place, hmem, rfl⟩ := hloc
  exact h place.1 (mem_placesAt hmem) target

/-- Everything is still there after a run that only logs. -/
theorem spares_of_onlyLogs {s now : RunState} (hquiet : s.OnlyLogs now) (hlog : s.LogsTo s.files)
    (touched : Location → Prop) : Spares s.logPlace touched s.files now.files := by
  refine ⟨hquiet.workDir, fun loc e he => ?_, fun loc target hlink => ?_⟩
  · rcases hquiet.get?_cases hlog loc with hsame | ⟨mode, old, new, hold, hnew⟩
    · exact .inl (hsame.trans he)
    · by_cases hplace : s.logPlace = some loc
      · rw [hold] at he
        cases he
        obtain ⟨added, hadded⟩ := hquiet.appended loc mode old hold
        exact .inr (.inl ⟨hplace, mode, old, added, rfl, hadded⟩)
      · exact .inl ((hquiet.elsewhere loc hplace).trans he)
  · rcases hquiet.get?_cases hlog loc with hsame | ⟨mode, old, new, hold, hnew⟩
    · exact hsame ▸ hlink
    · rw [hnew] at hlink
      cases hlink

section Steps

variable {tools : Tools} {s now now' : RunState} {root : Path} {inv : Inventory} {out : Location}
  {base : FileSystem} {input : Path}

/-- The log file of a run stays a file. -/
theorem logsTo_of_spares {touched : Location → Prop} (hlog : s.LogsTo s.files)
    (hplace : now.logPlace = none ∨ now.logPlace = s.logPlace)
    (hspares : Spares s.logPlace touched s.files now.files) : now.LogsTo now.files := by
  intro place hp
  rcases hplace with hnone | hplace
  · rw [hnone] at hp
    cases hp
  rw [hplace] at hp
  obtain ⟨mode, old, hold⟩ := hlog place hp
  rcases hspares.entries place _ hold with hsame | ⟨-, _, _, added, heq, hgrown⟩ |
    ⟨-, -, mode', content, hnew⟩
  · exact ⟨mode, old, hsame⟩
  · cases heq
    exact ⟨mode, old ++ added, hgrown⟩
  · exact ⟨mode', content, hnew⟩

/-- A step that touches nothing but destinations keeps everything intact. -/
theorem Intact.step (h : Intact s root inv out now) (hunlinked : Unlinked s.files inv out)
    (hsink : now'.sink = now.sink) (hplace : now'.logPlace = none ∨ now'.logPlace = now.logPlace)
    (hspares : Spares s.logPlace (Destination inv out) now.files now'.files) :
    Intact s root inv out now' := by
  refine ⟨hsink.trans h.sink, hplace.elim .inl fun hsame => hsame ▸ h.logPlace, h.spares.trans hspares, ?_⟩
  refine hspares.locate (fun loc hloc target hlink => ?_) h.locate
  exact hunlinked.plain loc hloc target (h.spares.links loc target hlink)

theorem Intact.of_onlyLogs (h : Intact s root inv out now) (hunlinked : Unlinked s.files inv out)
    (hlog : s.LogsTo s.files) (hquiet : now.OnlyLogs now') : Intact s root inv out now' := by
  have hspares := spares_of_onlyLogs hquiet (logsTo_of_spares hlog h.logPlace h.spares)
    (Destination inv out)
  exact h.step hunlinked hquiet.sink (.inr hquiet.logPlace_eq) (hspares.mono h.logPlace fun _ => id)

/-- A path into the inventory leads below the output root as its names say. -/
theorem locate_place (hunlinked : Unlinked s.files inv out) (hscan : Scanned base input [] inv)
    {fs : FileSystem} (hlinks : ∀ loc target, fs.get? loc = some (.link target) →
      s.files.get? loc = some (.link target)) (hroot : fs.locate root = .ok out)
    {names : List String} (hmem : names ∈ placesAt [] inv) {follow : Bool} {at_ : Location}
    (hat : fs.locate (root.join ⟨.relative, names⟩) follow = .ok at_) : at_ = out ++ names := by
  have hproper := hscan.isProper_of_mem hmem
  obtain ⟨-, hleads⟩ := FileSystem.locate_eq_ok.mp hat
  obtain ⟨there, left, hfront, hback⟩ := hleads.exists_front (hscan.ne_nil hmem)
  obtain rfl : there = out := hfront.unique (FileSystem.locate_eq_ok.mp hroot).2
  refine hback.eq_append (fun hup => ?_) fun front hprefix target hlink => ?_
  · exact absurd (List.all_eq_true.mp hproper ".." hup) (by decide)
  · by_cases hempty : front = []
    · have hdir := hback.directory (hscan.ne_nil hmem)
      rw [hempty, List.append_nil, hdir] at hlink
      cases hlink
    · exact hunlinked front (hscan.mem_of_prefix hmem hprefix hempty) target
        (hlinks _ _ hlink)

/-- A file that lands at its destination keeps everything else intact. -/
theorem Intact.lands (h : Intact s root inv out now) (hunlinked : Unlinked s.files inv out)
    (hscan : Scanned base input [] inv) {place : List String × FileNode}
    (hmem : place ∈ filesAt [] inv)
    (hlands : Lands now.files (root.join ⟨.relative, place.1⟩) now'.files)
    (hsink : now'.sink = now.sink) (hplace : now'.logPlace = none ∨ now'.logPlace = now.logPlace) :
    Intact s root inv out now' := by
  refine h.step hunlinked hsink hplace ?_
  cases hlands with
  | refused hgrows => exact hgrows.mono (.inl rfl) fun _ hfalse => hfalse.elim
  | @written made at_ mode content hgrows hat hentry hworkDir hfiles =>
    have hmade : Spares s.logPlace (Destination inv out) now.files made :=
      hgrows.mono (.inl rfl) fun _ hfalse => hfalse.elim
    obtain rfl := locate_place hunlinked hscan
      (fun loc target hlink => h.spares.links loc target (hgrows.links loc target hlink))
      (hgrows.locate h.locate) (mem_placesAt hmem) hat
    refine hmade.trans ⟨hworkDir, fun loc e he => ?_, fun loc target hlink => ?_⟩
    · by_cases hloc : loc = out ++ place.1
      · refine .inr (.inr ⟨⟨place, hmem, hloc⟩, ?_, mode, content, ?_⟩)
        · rintro rfl
          exact hentry (hloc ▸ he)
        · rw [hfiles, if_pos hloc]
      · exact .inl (by rw [hfiles, if_neg hloc, he])
    · rw [hfiles] at hlink
      split at hlink
      · cases hlink
      · exact hlink

/-- A file is emitted, with whatever outcome. -/
theorem Intact.emitFile (h : Intact s tools.settings.outputRoot inv out now)
    (hunlinked : Unlinked s.files inv out) (hlog : s.LogsTo s.files)
    (hscan : Scanned base input [] inv) {place : List String × FileNode}
    (hmem : place ∈ filesAt [] inv) :
    Intact s tools.settings.outputRoot inv out (emitFile tools place.2 now).2 := by
  have hwrites : Writes (tools.settings.outputRoot.join ⟨.relative, place.1⟩) now
      (Emit.emitFile tools place.2 now).2 := by
    rw [Emit.emitFile, (hscan.of_mem_filesAt hmem).1]
    have hwrites := emitAt_writes tools place.2 ("/".intercalate place.1) h.sink
    rwa [Path.ofText_intercalate (hscan.isProper hmem)] at hwrites
  cases hwrites with
  | nothing hquiet => exact h.of_onlyLogs hunlinked hlog hquiet
  | file after hbefore hlands hsink hplace hafter =>
    have hmid := (h.of_onlyLogs hunlinked hlog hbefore).lands hunlinked hscan hmem hlands hsink hplace
    exact hmid.of_onlyLogs hunlinked hlog hafter

theorem collect_onlyLogs (tools : Tools) (c : Collected) (o : FileOutcome) (s : RunState) :
    s.OnlyLogs (collect tools c o s).2 := by
  rw [collect]
  dsimp only
  split
  · exact (RunState.OnlyLogs.report s _).trans ((RunState.OnlyLogs.note _ _ _).trans (.inContext _ _))
  · exact .report s _

/-- The next file is dealt with, with whatever outcome. -/
theorem Intact.emitNext {c : Collected} (h : Intact s tools.settings.outputRoot inv out now)
    (hunlinked : Unlinked s.files inv out) (hlog : s.LogsTo s.files)
    (hscan : Scanned base input [] inv) {place : List String × FileNode}
    (hmem : place ∈ filesAt [] inv) :
    Intact s tools.settings.outputRoot inv out (emitNext tools (c, now) place.2).2 := by
  have hcollected (o : FileOutcome) {mid : RunState}
      (hmid : Intact s tools.settings.outputRoot inv out mid) :
      Intact s tools.settings.outputRoot inv out (collect tools c o mid).2 :=
    hmid.of_onlyLogs hunlinked hlog (collect_onlyLogs tools c o mid)
  rw [Emit.emitNext]
  split
  · exact hcollected _ h
  · have hfile := h.emitFile hunlinked hlog hscan hmem
    split
    · rename_i heq _
      rwa [heq] at hfile
    · rename_i heq _
      rwa [heq] at hfile
    · rename_i heq _
      rw [heq] at hfile
      exact hcollected _ hfile

/-- Files are emitted one after another, with whatever outcomes. -/
theorem Intact.emitFiles (hunlinked : Unlinked s.files inv out) (hlog : s.LogsTo s.files)
    (hscan : Scanned base input [] inv) {places : List (List String × FileNode)}
    (hsub : places ⊆ filesAt [] inv) {c : Collected}
    (h : Intact s tools.settings.outputRoot inv out now) :
    Intact s tools.settings.outputRoot inv out
      ((places.map (·.2)).foldl (Emit.emitNext tools) (c, now)).2 := by
  induction places generalizing c now with
  | nil => exact h
  | cons place places ih =>
    obtain ⟨hplace, hplaces⟩ := List.cons_subset.mp hsub
    rw [List.map_cons, List.foldl_cons]
    exact ih hplaces (h.emitNext hunlinked hlog hscan hplace)

/-- Making directories only adds to the files, whether it succeeds or not. -/
theorem makeDirs_grows (hsink : now.sink = .disk) (p : Path) :
    now.files.Grows (now.makeDirs p).2.files := by
  rw [RunState.makeDirs_of_disk hsink]
  have hgrows := FileM.makeDirs_grows p now.files
  rwa [Files.makeDirs, run_reporting]

theorem Intact.makeAll (h : Intact s root inv out now) (hunlinked : Unlinked s.files inv out)
    (dirs : List Path) : Intact s root inv out (Emit.makeAll dirs now).2 := by
  induction dirs generalizing now with
  | nil => exact h
  | cons p ps ih =>
    have hstep : Intact s root inv out (now.makeDirs p).2 := by
      have hgrows := makeDirs_grows h.sink p
      have hsame : (now.makeDirs p).2.sink = now.sink ∧
          (now.makeDirs p).2.logPlace = now.logPlace := by
        rw [RunState.makeDirs_of_disk h.sink]
        exact ⟨rfl, rfl⟩
      exact h.step hunlinked hsame.1 (.inr hsame.2) (hgrows.mono (.inl rfl) fun _ hfalse => hfalse.elim)
    rw [Emit.makeAll]
    split
    · rename_i mid hmid
      rw [hmid] at hstep
      exact ih hstep
    · rename_i t mid hmid
      rwa [hmid] at hstep

end Steps

/-! ## The whole run -/

/-- No place of the inventory below the output root is that of a link, and no file there is a source: no
path below the input root leads to it. -/
structure Spared (s : RunState) (input : Path) (inv : Inventory) (out : Location) : Prop where
  unlinked : Unlinked s.files inv out
  sources : ∀ place ∈ filesAt [] inv, ∀ names, ".." ∉ names →
    s.files.locate (input.join ⟨.relative, names⟩) = .ok (out ++ place.1) →
    ∀ mode content, s.files.get? (out ++ place.1) ≠ some (.file mode content)

/-- What emission leaves alone, however it ends: everything if the output root cannot be made, and
everything but the destinations otherwise. -/
theorem emitProject_intact {tools : Tools} {s now : RunState}
    (hscan : Scanned s.files tools.settings.inputRoot [] now.context.inventory)
    (hquiet : s.OnlyLogs now) (hsink : s.sink = .disk) (hlog : s.LogsTo s.files)
    (hunlinked : ∀ made out, now.makeDirs tools.settings.outputRoot = (.ok (), made) →
      made.files.locate tools.settings.outputRoot = .ok out →
      Unlinked s.files now.context.inventory out) :
    Spares s.logPlace (fun _ => False) s.files (emitProject tools now).2.files ∨
    ∃ made out, now.makeDirs tools.settings.outputRoot = (.ok (), made) ∧
      made.files.locate tools.settings.outputRoot = .ok out ∧
      Intact s tools.settings.outputRoot now.context.inventory out (emitProject tools now).2 := by
  have hsink' := hquiet.sink.trans hsink
  have hgrows := makeDirs_grows hsink' tools.settings.outputRoot
  rw [emitProject]
  rcases hlayout : layout (tools.env.room - 1) {} now.context.inventory with fault | ⟨dirs, files⟩
  · exact .inl (spares_of_onlyLogs hquiet hlog _)
  obtain ⟨-, rfl, rfl⟩ := hscan.of_layout_eq_ok hlayout
  dsimp only
  rw [makeAll]
  rcases hmake : now.makeDirs tools.settings.outputRoot with ⟨t | ⟨⟨⟩⟩, made⟩
  · rw [hmake] at hgrows
    exact .inl ((spares_of_onlyLogs hquiet hlog _).trans (hgrows.mono (.inl rfl) fun _ => id))
  · rw [hmake] at hgrows
    have hmade : made = { now with files := made.files } ∧
        made.files.stat tools.settings.outputRoot = .ok .directory := by
      rw [RunState.makeDirs_of_disk hsink'] at hmake
      obtain ⟨hok, rfl⟩ := Prod.mk.inj hmake
      exact ⟨rfl, FileM.stat_of_makeDirs (reporting_eq_ok.mp (Prod.ext hok rfl))⟩
    obtain ⟨out, hout, -⟩ := FileSystem.stat_eq_ok.mp hmade.2
    have hplain := hunlinked made out hmake hout
    have hstart : Intact s tools.settings.outputRoot now.context.inventory out made := by
      refine ⟨?_, ?_, ?_, hout⟩
      · rw [hmade.1]
        exact hsink'
      · rw [hmade.1]
        exact .inr hquiet.logPlace_eq
      · exact (spares_of_onlyLogs hquiet hlog _).trans
          (hgrows.mono (.inl rfl) fun _ hfalse => hfalse.elim)
    refine .inr ⟨made, out, rfl, hout, ?_⟩
    have hdirs := hstart.makeAll hplain (((directoriesAt [] now.context.inventory).map
      (⟨.relative, ·⟩)).map tools.settings.outputRoot.join)
    dsimp only
    split
    · rename_i t' ended hmore
      rwa [hmore] at hdirs
    · rename_i ended hmore
      rw [hmore] at hdirs
      -- whatever was made so far, the rest of the run touches destinations only
      have hready (event : Progress.Event) :=
        hdirs.of_onlyLogs hplain hlog (.report ended event)
      have hfiles (event : Progress.Event) := (hready event).emitFiles (c := {}) hplain hlog hscan
        (List.Subset.refl _)
      split
      · exact hfiles _
      · exact (hfiles _).of_onlyLogs hplain hlog (.report _ _)

/-- A scan and an emission, however it ends, leave every file below the input root as it was, if no
destination is the place of a source. Here `made` is the state in which the output root was made. Only the
log file of the run itself may grow. The system refuses nothing for want of permission or space. -/
theorem sources_kept (tools : Tools) (s : RunState) (hsink : s.sink = .disk)
    (hwell : s.files.WellFormed) (hlog : s.LogsTo s.files)
    (hspared : ∀ made out,
      (Inventory.scan tools.env tools.settings s).makeDirs tools.settings.outputRoot =
        (.ok (), made) → made.files.locate tools.settings.outputRoot = .ok out →
      Spared s tools.settings.inputRoot
        (Inventory.scan tools.env tools.settings s).context.inventory out)
    (names : List String) (hnames : ".." ∉ names) (mode : Nat) (content : Bytes)
    (hsource : s.files.stat (tools.settings.inputRoot.join ⟨.relative, names⟩) =
      .ok (.file mode content)) :
    ∃ added,
      (emitProject tools (Inventory.scan tools.env tools.settings s)).2.files.stat
        (tools.settings.inputRoot.join ⟨.relative, names⟩) = .ok (.file mode (content ++ added)) ∧
      (added = [] ∨ ∃ at_, s.logPlace = some at_ ∧
        s.files.locate (tools.settings.inputRoot.join ⟨.relative, names⟩) = .ok at_) := by
  obtain ⟨hquiet, hscan, -, -⟩ := Inventory.scan_scanned hlog tools.env tools.settings hwell
  obtain ⟨at_, hat, hget⟩ := FileSystem.stat_eq_ok.mp hsource
  rcases emitProject_intact hscan hquiet.quiet hsink hlog
    (fun made out hmake hout => (hspared made out hmake hout).unlinked) with
    hspares | ⟨made, out, hmake, hout, hintact⟩
  · obtain ⟨added, hstat, hadded⟩ := hspares.stat_file (fun _ hfalse => hfalse.elim) hat hget id
    exact ⟨added, hstat, hadded.imp_right fun hplace => ⟨at_, hplace, hat⟩⟩
  · have hclear := hspared made out hmake hout
    have huntouched : ¬ Destination (Inventory.scan tools.env tools.settings s).context.inventory
        out at_ := by
      rintro ⟨place, hmem, rfl⟩
      exact hclear.sources place hmem names hnames hat mode content hget
    obtain ⟨added, hstat, hadded⟩ := hintact.spares.stat_file hclear.unlinked.plain hat hget
      huntouched
    exact ⟨added, hstat, hadded.imp_right fun hplace => ⟨at_, hplace, hat⟩⟩

/-- If neither root lies inside the other, the output root is absent or holds no links, and the input root
holds none, then no destination is a source. -/
theorem spared_of_apart {s : RunState} {input : Path} {inv : Inventory}
    {root out : Location} (hroot : s.files.locate input = .ok root) (hinside : ¬ root <+: out) (haround : ¬ out <+: root)
    (hinput : ∀ names target, s.files.get? (root ++ names) ≠ some (.link target))
    (houtput : ∀ names target, s.files.get? (out ++ names) ≠ some (.link target)) :
    Spared s input inv out := by
  refine ⟨fun names _ target => houtput names target, fun place hmem names hup hat => ?_⟩
  have hplace : out ++ place.1 = root ++ names := by
    cases names with
    | nil =>
      rw [join_relative, List.append_nil, hroot] at hat
      rw [List.append_nil, Except.ok.inj hat]
    | cons first rest =>
      obtain ⟨-, hleads⟩ := FileSystem.locate_eq_ok.mp hat
      obtain ⟨there, left, hfront, hback⟩ := hleads.exists_front (List.cons_ne_nil first rest)
      obtain rfl : there = root := hfront.unique (FileSystem.locate_eq_ok.mp hroot).2
      exact hback.eq_append hup fun front _ target => hinput front target
  rcases List.append_eq_append_iff.mp hplace with ⟨more, hmore, -⟩ | ⟨more, hmore, -⟩
  · exact absurd ⟨more, hmore.symm⟩ haround
  · exact absurd ⟨more, hmore.symm⟩ hinside

theorem not_link_of_entries (fs : FileSystem)
    (h : ∀ p ∈ fs.entries, ∀ target, p.2 ≠ .link target) (loc : Location) (target : String) :
    fs.get? loc ≠ some (.link target) := by
  intro hlink
  have hne : loc ≠ [] := by
    rintro rfl
    cases hlink
  exact h _ (FileSystem.mem_entries_of_get? hne hlink) target rfl

/-- The output root of `binaryProject` is apart from its input root. -/
theorem sources_kept_binaryProject :
    (emitProject (copyTools ⟨.root, ["out"]⟩) (scannedProject ⟨.root, ["out"]⟩)).2.files.stat
      ⟨.root, ["app", "lib", "a.js"]⟩ = .ok (.file 0o640 [0, 1]) := by
  have hplain := not_link_of_entries binaryProject.files (by simp [binaryProject])
  have hroot : ((scannedProject ⟨.root, ["out"]⟩).makeDirs ⟨.root, ["out"]⟩).2.files.locate
      ⟨.root, ["out"]⟩ = .ok ["out"] := by
    decide +kernel
  have hspared (made : RunState) (out : Location)
      (hmake : (scannedProject ⟨.root, ["out"]⟩).makeDirs ⟨.root, ["out"]⟩ = (.ok (), made))
      (hout : made.files.locate ⟨.root, ["out"]⟩ = .ok out) :
      Spared binaryProject ⟨.root, ["app"]⟩ (scannedProject ⟨.root, ["out"]⟩).context.inventory
        out := by
    rw [hmake, hout] at hroot
    cases hroot
    have happ : binaryProject.files.locate ⟨.root, ["app"]⟩ = .ok ["app"] := by decide +kernel
    exact spared_of_apart happ (by decide) (by decide)
      (fun names => hplain _) fun names => hplain _
  obtain ⟨added, hstat, hadded⟩ := sources_kept (copyTools ⟨.root, ["out"]⟩) binaryProject rfl
    binaryProject_wellFormed binaryProject_logsTo hspared ["lib", "a.js"] (by decide) 0o640 [0, 1]
    (by decide +kernel)
  rcases hadded with rfl | ⟨at_, hplace, -⟩
  · exact hstat
  · cases hplace

end Emit

/-! ## Settings that do not keep the roots apart -/

namespace Files.FileSystem

/-- Where there are no links, resolving written names leads on along these names. -/
theorem resolveFrom_of_unlinked {fs : FileSystem}
    (h : ∀ loc target, fs.get? loc ≠ some (.link target)) {names : List Segment}
    (hnames : ∀ name ∈ names, name ≠ ['.'] ∧ name ≠ ['.', '.']) (fuel : Nat)
    (met : List (Path × Option Path)) (here : Path) :
    (fs.resolveFrom fuel met here names).path =
      { here with parts := here.parts ++ (names.filter (!·.isEmpty)).map String.ofList } := by
  induction names generalizing here with
  | nil => simp [resolveFrom]
  | cons name rest ih =>
    obtain ⟨⟨hdot, hup⟩, hrest⟩ := List.forall_mem_cons.mp hnames
    rw [resolveFrom]
    by_cases hempty : name = []
    · simp [hempty, ih hrest]
    · rw [if_neg (by simp [hempty, hdot]), if_neg hup]
      dsimp only
      split
      · rename_i target hlink
        exact absurd hlink (h _ _)
      · rw [ih hrest]
        simp [hempty]

/-- Where there are no links, an absolute path without `..` stands for itself. -/
theorem resolve_of_unlinked {fs : FileSystem}
    (h : ∀ loc target, fs.get? loc ≠ some (.link target)) {p : Path} {e : Entry}
    (hfault : pathFault? p = none) (hstart : p.text.startsWith "/" = true)
    (hnames : ∀ name ∈ Path.splitSlashes p.text.toList, name ≠ ['.'] ∧ name ≠ ['.', '.'])
    (hparts : ⟨.root, collapse (((Path.splitSlashes p.text.toList).filter
      (!·.isEmpty)).map String.ofList)⟩ = p) (hstat : fs.stat p = .ok e) :
    fs.resolve p = .ok p := by
  have htext : fs.resolveText p.text = p := by
    rw [resolveText, if_pos hstart]
    rw [resolveFrom_of_unlinked h hnames, List.nil_append]
    exact hparts
  rw [resolve, hfault]
  dsimp only
  rw [htext, hstat]

end Files.FileSystem

namespace Settings

/-- Settings are accepted if all their values are, the input root is a directory, and the two roots do not
stand for the same path. -/
theorem build_eq_ok {env : Environment} {fs : FileSystem} {fileValues overrides : List (String × Json)}
    {d : Draft} {beside resolvedOutput resolvedInput : Path}
    (hknown : ((merge fileValues overrides).map (·.1)).filter (fun key => !names.contains key) = [])
    (hinput : (((merge fileValues overrides).lookup "input_root").getD .null).isNull = false)
    (hdraft : (merge fileValues overrides).foldlM (fun d v => Draft.set env d v.1 v.2)
      { settings := { inputRoot := {}, outputRoot := {} } } = .ok d)
    (hdir : fs.isDir d.settings.inputRoot = .ok true)
    (hbeside : defaultOutputRoot d.settings.inputRoot = .ok beside)
    (houtput : fs.resolve (d.output.getD beside) = .ok resolvedOutput)
    (hroot : fs.resolve d.settings.inputRoot = .ok resolvedInput)
    (hne : resolvedOutput ≠ resolvedInput) :
    build env fs fileValues overrides =
      .ok { d.settings with outputRoot := d.output.getD beside } := by
  rw [build]
  simp only [hknown, hinput, hdraft, hdir, hbeside, houtput, hroot, if_neg hne, bind, Except.bind,
    Except.mapError, pure, Except.pure]
  rfl

end Settings

namespace Emit

/-- The values of settings with an output root inside the input root. -/
def insideValues : List (String × Json) :=
  [("input_root", .str "/app"), ("output_root", .str "/app/out")]

/-- A project whose input root holds a file and a directory with a file of the same name. -/
def layeredProject : RunState where
  files := { entries :=
    [(["app"], .directory),
     (["app", "a"], .file 0o644 [1]),
     (["app", "out"], .directory),
     (["app", "out", "a"], .file 0o600 [2])] }

/-- Settings with an output root inside the input root are accepted. -/
theorem build_insideValues :
    Settings.build (copyTools {}).env layeredProject.files [] insideValues =
      .ok { inputRoot := ⟨.root, ["app"]⟩, outputRoot := ⟨.root, ["app", "out"]⟩ } := by
  have hplain := not_link_of_entries layeredProject.files (by simp [layeredProject])
  have hinput : layeredProject.files.resolve ⟨.root, ["app"]⟩ = .ok ⟨.root, ["app"]⟩ :=
    FileSystem.resolve_of_unlinked hplain (e := .directory) (by decide +kernel) (by decide +kernel)
      (by decide +kernel) (by decide +kernel) (by decide +kernel)
  have houtput : layeredProject.files.resolve ⟨.root, ["app", "out"]⟩ =
      .ok ⟨.root, ["app", "out"]⟩ :=
    FileSystem.resolve_of_unlinked hplain (e := .directory) (by decide +kernel) (by decide +kernel)
      (by decide +kernel) (by decide +kernel) (by decide +kernel)
  have hdraft : (Settings.merge [] insideValues).foldlM
      (fun d v => Settings.Draft.set (copyTools {}).env d v.1 v.2)
      { settings := { inputRoot := {}, outputRoot := {} } } =
        .ok { settings := { inputRoot := ⟨.root, ["app"]⟩, outputRoot := {} },
              output := some ⟨.root, ["app", "out"]⟩ } := rfl
  exact Settings.build_eq_ok (by decide +kernel) (by decide +kernel) hdraft (by decide +kernel) rfl
    houtput hinput (by decide)

/-- Settings with an output root inside the input root are accepted, and a source is overwritten. -/
theorem source_overwritten :
    ∃ settings, Settings.build (copyTools {}).env layeredProject.files [] insideValues = .ok settings ∧
      layeredProject.files.stat ⟨.root, ["app", "out", "a"]⟩ = .ok (.file 0o600 [2]) ∧
      (emitProject { copyTools {} with settings }
          (Inventory.scan (copyTools {}).env settings layeredProject)).2.files.stat
        ⟨.root, ["app", "out", "a"]⟩ = .ok (.file 0o644 [1]) :=
  ⟨_, build_insideValues, by decide +kernel, by decide +kernel⟩

end Emit

end JsxTagger
