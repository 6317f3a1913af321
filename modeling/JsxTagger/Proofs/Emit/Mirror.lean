import Mathlib.Data.List.Nodup
import JsxTagger.Emit.Project
import JsxTagger.Proofs.Emit.File
import JsxTagger.Proofs.Inventory.Scanned

/-!
# The copy mirrors the inventory

After a scan and an emission in which every file was written, the entries below the output root are
exactly the directories and the files of the inventory (`emitted_mirrors`). The invariant is `Holds`: it
says what stands below the output root at every moment of the emission. One step adds one directory
(`Holds.makeDirs`) or one file (`Holds.emitFile`).
-/

namespace JsxTagger.Emit

open Files
open Inventory (Scanned directoriesAt filesAt placesAt mem_placesAt)
open Syntax (Node)

/-! ## What a file becomes -/

/-- A path led to a file with these permission bits and this content before the run. Only the log file
of the run has grown meanwhile. -/
def HeldBy (s : RunState) (p : Path) (mode : Nat) (content : Bytes) : Prop :=
  ∃ at_ old, s.files.locate p = .ok at_ ∧ s.files.get? at_ = some (.file mode old) ∧
    (content = old ∨ s.logPlace = some at_ ∧ old <+: content)

/-- What a file of the inventory at the given names becomes: a copy of its source, or the formatter's
result for the instrumented text of its source. -/
inductive Emitted (tools : Tools) (s : RunState) (names : List String) (f : FileNode) (mode : Nat)
    (content : Bytes) : Prop where
  | copied (hcopied : f.shouldInstrument = false)
      (hsource : HeldBy s (tools.settings.inputRoot.join ⟨.relative, names⟩) mode content)
  | instrumented {text formatted : String} {result : Instrument.Instrumented} {drawn drawn' : Nat}
      {log : List Log.Record} {fs : FileSystem} (hinstrumented : f.shouldInstrument = true)
      (hsource : HeldBy s (tools.settings.inputRoot.join ⟨.relative, names⟩) mode
        (Bytes.ofText text))
      (hresult : Instrument.instrumentSource tools.env.workerRoom tools.env.parse tools.env.ids text
        f.components (some ("/".intercalate names)) drawn = .ok (result, drawn', log))
      (hkeeps : s.files.Keeps s.logPlace fs)
      (hformatted : (tools.formatter fs result.text
        (tools.settings.outputRoot.join ⟨.relative, names⟩)).result = .ok formatted)
      (hcontent : content = Bytes.ofText formatted)

/-! ## The invariant -/

/-- At some moment of an emission everything is still there that was there before the run, and below the
output root stands what `below` says. -/
structure Holds (s : RunState) (root : Path) (inv : Inventory) (out : Location)
    (below : List String → Option Entry) (now : RunState) : Prop where
  sink : now.sink = .disk
  logPlace : now.logPlace = s.logPlace
  keeps : s.files.Keeps s.logPlace now.files
  locate : ∀ names, below names = some .directory →
    now.files.locate (root.join ⟨.relative, names⟩) = .ok (out ++ names)
  entries : ∀ names, now.files.get? (out ++ names) = below names
  inventory : now.context.inventory = inv
  index : now.context.index = none ∨ now.context.index = some inv.files

theorem join_relative (root : Path) (names : List String) :
    root.join ⟨.relative, names⟩ = ⟨root.anchor, root.parts ++ names⟩ := rfl

section Steps

variable {tools : Tools} {s now now' : RunState} {root : Path} {inv : Inventory} {out : Location}
  {below : List String → Option Entry}

/-- Nothing stood below the output root before the run. -/
def Vacant (s : RunState) (out : Location) : Prop := ∀ names, s.files.get? (out ++ names) = none

theorem Holds.logsTo (h : Holds s root inv out below now) (hlog : s.LogsTo s.files) :
    now.LogsTo now.files := by
  intro place hplace
  rw [h.logPlace] at hplace
  obtain ⟨mode, old, hold⟩ := hlog place hplace
  rcases h.keeps.entries place _ hold with hnow | ⟨-, _, _, added, heq, hnow⟩
  · exact ⟨mode, old, hnow⟩
  · cases heq
    exact ⟨mode, old ++ added, hnow⟩

/-- Logging changes nothing below the output root. -/
theorem Holds.of_onlyLogs (h : Holds s root inv out below now) (hlog : s.LogsTo s.files)
    (hout : Vacant s out) (hquiet : now.OnlyLogs now') (hinventory : now'.context.inventory = inv)
    (hindex : now'.context.index = none ∨ now'.context.index = some inv.files) :
    Holds s root inv out below now' := by
  refine ⟨hquiet.sink.trans h.sink, hquiet.logPlace_eq.trans h.logPlace, ?_, fun names hdir => ?_,
    fun names => ?_, hinventory, hindex⟩
  · rw [← h.logPlace]
    exact hquiet.keeps (fun place hplace => hlog place (h.logPlace ▸ hplace)) (h.logPlace ▸ h.keeps)
  · exact (hquiet.locate_iff (h.logsTo hlog)).mpr (h.locate names hdir)
  · rw [hquiet.elsewhere _ fun hplace => ?_]
    · exact h.entries names
    · rw [h.logPlace] at hplace
      obtain ⟨mode, old, hold⟩ := hlog _ hplace
      rw [hout names] at hold
      cases hold

/-- What stands at one place below the output root was put there, and nothing else changed. -/
theorem Holds.of_get? (h : Holds s root inv out below now) (hout : Vacant s out)
    {names : List String} {e : Entry} (hnone : below names = none)
    (hfiles : ∀ loc, now'.files.get? loc =
      if loc = out ++ names then some e else now.files.get? loc)
    (hworkDir : now'.files.workDir = now.files.workDir) (hlogging : now'.logging = now.logging)
    (hsink : now'.sink = now.sink) (hcontext : now'.context = now.context)
    (hlocate : e = .directory →
      now'.files.locate (root.join ⟨.relative, names⟩) = .ok (out ++ names)) :
    Holds s root inv out (Function.update below names (some e)) now' := by
  have hkeeps (base : FileSystem) (log : Option Location) (hbase : base.get? (out ++ names) = none)
      (hnow : base.Keeps log now.files) : base.Keeps log now'.files := by
    refine ⟨hworkDir.trans hnow.workDir, fun loc d hd => ?_⟩
    have hne : loc ≠ out ++ names := by
      rintro rfl
      rw [hbase] at hd
      cases hd
    rw [hfiles, if_neg hne]
    exact hnow.entries loc d hd
  refine ⟨hsink.trans h.sink, ?_, hkeeps _ _ (hout names) h.keeps, fun others hdir => ?_,
    fun others => ?_, hcontext ▸ h.inventory, hcontext ▸ h.index⟩
  · rw [RunState.logPlace, hlogging]
    exact h.logPlace
  · by_cases hsame : others = names
    · rw [hsame, Function.update_self] at hdir
      rw [hsame]
      exact hlocate (Option.some.inj hdir)
    · rw [Function.update_of_ne hsame] at hdir
      have hplain := hkeeps now.files none ((h.entries names).trans hnone) (.refl none _)
      refine hplain.locate (h.locate others hdir) fun habsent => ?_
      rw [h.entries others, hdir] at habsent
      cases habsent
  · rw [hfiles, h.entries]
    by_cases hsame : others = names
    · rw [hsame, if_pos rfl, Function.update_self]
    · rw [if_neg (fun heq => hsame (List.append_cancel_left heq)), Function.update_of_ne hsame]

/-- A directory is made in one that stands below the output root. -/
theorem Holds.makeDirs (h : Holds s root inv out below now) (hout : Vacant s out)
    {front : List String} {name : String} (hname : name ≠ "..")
    (hfront : below front = some .directory) (hnone : below (front ++ [name]) = none)
    (hmake : now.makeDirs (root.join ⟨.relative, front ++ [name]⟩) = (.ok (), now')) :
    Holds s root inv out (Function.update below (front ++ [name]) (some .directory)) now' := by
  have hparts : root.join ⟨.relative, front ++ [name]⟩ =
      ⟨root.anchor, (root.parts ++ front) ++ [name]⟩ := by
    rw [join_relative, List.append_assoc]
  have hparent : now.files.locate ⟨root.anchor, root.parts ++ front⟩ = .ok (out ++ front) :=
    h.locate front hfront
  have hstat : now.files.stat ⟨root.anchor, root.parts ++ front⟩ = .ok .directory :=
    FileSystem.stat_eq_ok.mpr ⟨_, hparent, (h.entries front).trans hfront⟩
  have hfree : now.files.get? (out ++ front ++ [name]) = none := by
    rw [List.append_assoc, h.entries, hnone]
  rw [RunState.makeDirs_of_disk h.sink, hparts] at hmake
  obtain ⟨hok, rfl⟩ := Prod.mk.inj hmake
  have hrun : (FileM.makeDirs ⟨root.anchor, (root.parts ++ front) ++ [name]⟩).run.run now.files =
      (.ok (), ((Files.makeDirs ⟨root.anchor, (root.parts ++ front) ++ [name]⟩).run.run
        now.files).2) :=
    reporting_eq_ok.mp (Prod.ext hok rfl)
  -- no link leads to a directory here, because nothing has the name at all
  have habsent : now.files.stat ⟨root.anchor, (root.parts ++ front) ++ [name]⟩ ≠ .ok .directory := by
    intro hdir
    obtain ⟨at_, hat, hget⟩ := FileSystem.stat_eq_ok.mp hdir
    obtain ⟨hsize, hleads⟩ := FileSystem.locate_eq_ok.mp hat
    obtain ⟨at', e, hleads', hget'⟩ := hleads.exists_unfollowed hget
    have hat' := FileSystem.locate_eq_ok.mpr ⟨hsize, hleads'⟩
    rw [FileSystem.eq_concat_of_locate hparent hname hat', hfree] at hget'
    cases hget'
  obtain ⟨at_, hat, hget, hput⟩ := FileM.put_of_makeDirs hstat habsent hrun
  obtain rfl := FileSystem.eq_concat_of_locate hparent hname hat
  have hmade := FileM.Made.put hat hget
  rw [List.append_assoc out] at hput hmade
  rw [hput]
  refine h.of_get? hout hnone (fun loc => ?_) rfl rfl rfl rfl fun _ => ?_
  · exact FileSystem.get?_put _ (by simp) _ loc
  · rw [hparts]
    exact hmade.locate

/-- A file is written in a directory that stands below the output root. The log file is not there. -/
theorem Holds.replaced (h : Holds s root inv out below now) (hlog : s.LogsTo s.files)
    (hout : Vacant s out) {front : List String} {name : String} (hname : name ≠ "..")
    (hfront : below front = some .directory) (hnone : below (front ++ [name]) = none)
    {modeFrom : Option Path} {made : FileSystem} {temporary at_ : Location} {mode : Nat}
    {content : Bytes}
    (hreplaced : Replaced now.files (root.join ⟨.relative, front ++ [name]⟩) modeFrom made temporary
      at_ mode content) :
    made = now.files ∧
      Holds s root inv out
        (Function.update below (front ++ [name]) (some (.file mode content)))
        (now.landed (root.join ⟨.relative, front ++ [name]⟩)
          (((filled made temporary content).remove temporary).put at_ (.file mode content))) := by
  have hparts : root.join ⟨.relative, front ++ [name]⟩ =
      ⟨root.anchor, (root.parts ++ front) ++ [name]⟩ := by
    rw [join_relative, List.append_assoc]
  have hparent : (root.join ⟨.relative, front ++ [name]⟩).parent =
      ⟨root.anchor, root.parts ++ front⟩ := by
    rw [hparts, Path.parent, List.dropLast_concat]
  have hlocate : now.files.locate ⟨root.anchor, root.parts ++ front⟩ = .ok (out ++ front) :=
    h.locate front hfront
  have hstat : now.files.stat ⟨root.anchor, root.parts ++ front⟩ = .ok .directory :=
    FileSystem.stat_eq_ok.mpr ⟨_, hlocate, (h.entries front).trans hfront⟩
  have hdirs := hreplaced.dirs
  rw [hparent] at hdirs
  obtain rfl := FileM.eq_of_makeDirs hstat hdirs
  have hat := hreplaced.locate_made
  rw [hparts] at hat
  obtain rfl := FileSystem.eq_concat_of_locate hlocate hname hat
  refine ⟨rfl, ?_⟩
  rw [List.append_assoc out] at hreplaced ⊢
  rw [RunState.landed_of_ne _ fun place hplace hland => ?_]
  · exact h.of_get? hout hnone hreplaced.get?_final rfl rfl rfl rfl fun heq => nomatch heq
  · obtain rfl := Option.some.inj (hreplaced.landing.symm.trans hland)
    rw [h.logPlace] at hplace
    obtain ⟨mode, old, hold⟩ := hlog _ hplace
    rw [hout] at hold
    cases hold

/-- While files are only added, what a path led to before the run is what it leads to. -/
theorem Holds.heldBy (h : Holds s root inv out below now) {source : Path}
    {at_ : Location} {mode : Nat} {old : Bytes} (hat : s.files.locate source = .ok at_)
    (hget : s.files.get? at_ = some (.file mode old)) (fs : FileSystem)
    (hfs : ∀ loc, now.files.get? loc ≠ none → fs.get? loc = now.files.get? loc)
    (hworkDir : fs.workDir = now.files.workDir) {e : Entry} (hstat : fs.stat source = .ok e) :
    ∃ content, e = .file mode content ∧ HeldBy s source mode content := by
  have hkeeps : s.files.Keeps s.logPlace fs := by
    refine ⟨hworkDir.trans h.keeps.workDir, fun loc d hd => ?_⟩
    have hentry := h.keeps.entries loc d hd
    rwa [hfs loc]
    rcases hentry with hnow | ⟨-, _, _, _, -, hnow⟩ <;> rw [hnow] <;> exact Option.some_ne_none _
  obtain ⟨added, hnew, hadded⟩ := hkeeps.stat_file hat hget
  rw [hstat] at hnew
  cases hnew
  refine ⟨old ++ added, rfl, at_, old, hat, hget, ?_⟩
  rcases hadded with rfl | hplace
  · exact .inl (List.append_nil old)
  · exact .inr ⟨hplace, List.prefix_append old added⟩

/-! ## Steps -/

/-- The components of a file are looked up by its path. -/
theorem componentsFor_eq {base : FileSystem} {input : Path} {context context' : RunContext}
    {place : List String × FileNode} {components : List Component}
    (hscan : Scanned base input [] inv) (hmem : place ∈ filesAt [] inv)
    (hinventory : context.inventory = inv)
    (hindex : context.index = none ∨ context.index = some inv.files)
    (h : context.componentsFor (.str ("/".intercalate place.1)) = .ok (components, context')) :
    components = place.2.components ∧ context'.inventory = inv ∧
      context'.index = some inv.files := by
  have hindexed : ∀ files, context.indexed = .ok files → files = inv.files := by
    intro files hfiles
    rw [RunContext.indexed, RunContext.files, hinventory] at hfiles
    rcases hindex with hnone | hsome
    · rw [hnone] at hfiles
      dsimp only at hfiles
      split at hfiles
      · cases hfiles
      · exact (Except.ok.inj hfiles).symm
    · rw [hsome] at hfiles
      exact (Except.ok.inj hfiles).symm
  -- paths that read the same go through the same names
  have hunique : ∀ other ∈ filesAt [] inv,
      other.2.fullPath.sameKey (.str ("/".intercalate place.1)) = true → other = place := by
    intro other hother hsame
    rw [(hscan.of_mem_filesAt hother).1, Json.sameKey, beq_iff_eq] at hsame
    have hnames := congrArg Path.ofText hsame
    rw [Path.ofText_intercalate (hscan.isProper hother), Path.ofText_intercalate (hscan.isProper hmem)] at hnames
    exact List.inj_on_of_nodup_map (List.nodup_append.mp hscan.nodup_placesAt).2.1 hother hmem
      (Files.Path.mk.inj hnames).2
  have hlast : RunContext.lastWithPath inv.files (.str ("/".intercalate place.1)) =
      some place.2 := by
    have hfound : place.2 ∈ inv.files.filter
        fun f => f.fullPath.sameKey (.str ("/".intercalate place.1)) := by
      rw [List.mem_filter, (hscan.of_mem_filesAt hmem).1, Inventory.files_eq []]
      exact ⟨List.mem_map_of_mem hmem, beq_self_eq_true _⟩
    obtain ⟨last, hlast⟩ := Option.ne_none_iff_exists'.mp
      (mt List.getLast?_eq_none_iff.mp (List.ne_nil_of_mem hfound))
    obtain ⟨hin, hsame⟩ := List.mem_filter.mp (List.mem_of_getLast? hlast)
    rw [Inventory.files_eq []] at hin
    obtain ⟨other, hother, rfl⟩ := List.mem_map.mp hin
    rw [RunContext.lastWithPath, hlast, hunique other hother hsame]
  obtain ⟨⟨file, found⟩, hfind, heq⟩ := Except.bind_eq_ok.mp h
  cases heq
  rw [RunContext.findFile] at hfind
  split at hfind
  · cases hfind
  · rename_i files hfiles
    obtain rfl := hindexed files hfiles
    cases hfind
    rw [hlast]
    exact ⟨rfl, hinventory, rfl⟩

/-- A file that is written takes the place below the output root that it has in the inventory. -/
theorem Holds.emitFile {place : List String × FileNode} {o : FileOutcome}
    (h : Holds s tools.settings.outputRoot inv out below now) (hlog : s.LogsTo s.files)
    (hout : Vacant s out) (hreader : tools.reader = readText)
    (hscan : Scanned s.files tools.settings.inputRoot [] inv) (hmem : place ∈ filesAt [] inv)
    (hfront : below place.1.dropLast = some .directory) (hnone : below place.1 = none)
    (hemit : emitFile tools place.2 now = (.ok o, now')) (hwritten : o.status.isWritten = true) :
    ∃ mode content, Emitted tools s place.1 place.2 mode content ∧
      Holds s tools.settings.outputRoot inv out
        (Function.update below place.1 (some (.file mode content))) now' := by
  obtain ⟨names, f⟩ := place
  have hproper := hscan.isProper hmem
  obtain ⟨hpath, source, mode, old, hsource, hold⟩ := hscan.of_mem_filesAt hmem
  dsimp only at hfront hnone hproper hpath hsource hemit ⊢
  rw [Emit.emitFile, hpath] at hemit
  obtain ⟨front, name, rfl⟩ : ∃ front name, names = front ++ [name] := by
    refine ⟨names.dropLast, names.getLast ?_, (List.dropLast_concat_getLast _).symm⟩
    rintro rfl
    rw [List.dropLast_nil, hnone] at hfront
    cases hfront
  rw [List.dropLast_concat] at hfront
  have hname : name ≠ ".." := by
    rintro rfl
    rw [List.all_append, Bool.and_eq_true] at hproper
    exact absurd hproper.2 (by decide)
  have hwrites := emitAt_written h.sink hemit hwritten
  rw [Path.ofText_intercalate hproper] at hwrites
  rcases hwrites with ⟨hcopied, -, fs, hcopy, rfl⟩ |
    ⟨hinstrumented, -, p, ready, fs, record, hprepare, -, hwrite, rfl⟩
  · obtain ⟨made, temporary, at_, mode', content, hreplaced, ⟨m, hread⟩, rfl⟩ := copyFile_eq_ok hcopy
    obtain ⟨rfl, hholds⟩ := h.replaced hlog hout hname hfront hnone hreplaced
    obtain ⟨content', heq, hheld⟩ := h.heldBy hsource hold _
      (fun loc hloc => FileSystem.get?_put_of_ne _ (hreplaced.ne_temporary hloc) _) rfl hread
    obtain ⟨e, hmode, rfl⟩ := hreplaced.mode_eq _ rfl
    obtain ⟨_, rfl, -⟩ := h.heldBy hsource hold _
      (fun loc hloc => (hreplaced.get?_filled loc).trans (if_neg (hreplaced.ne_temporary hloc))) rfl hmode
    cases heq
    exact ⟨mode, content, .copied hcopied hheld, hholds⟩
  · obtain ⟨hquiet, text, components, context, result, log, hread, hcomponents, hresult, -,
      hformatted, hcontext⟩ := prepare_eq_ok hprepare
    obtain ⟨rfl, hinventory, hindex⟩ :=
      componentsFor_eq hscan hmem h.inventory h.index hcomponents
    have hknown : ready.context.inventory = inv ∧ ready.context.index = some inv.files := by
      rcases hcontext with heq | heq <;> rw [heq] <;> exact ⟨hinventory, hindex⟩
    have hready : Holds s tools.settings.outputRoot inv out below ready :=
      h.of_onlyLogs hlog hout hquiet hknown.1 (.inr hknown.2)
    rw [hreader] at hread
    obtain ⟨m, hstat⟩ := readText_eq_ok hread
    obtain ⟨_, heq, hheld⟩ := h.heldBy hsource hold _ (fun loc _ => rfl) rfl hstat
    cases heq
    obtain ⟨made, temporary, at_, mode', hreplaced, rfl⟩ := writeFile_eq_ok hwrite
    obtain ⟨rfl, hholds⟩ := hready.replaced hlog hout hname hfront hnone hreplaced
    obtain ⟨e, hmode, rfl⟩ := hreplaced.mode_eq _ rfl
    obtain ⟨_, rfl, -⟩ := hready.heldBy hsource hold _
      (fun loc hloc => (hreplaced.get?_filled loc).trans (if_neg (hreplaced.ne_temporary hloc))) rfl hmode
    refine ⟨mode, _, .instrumented hinstrumented hheld hresult hready.keeps hformatted rfl, ?_⟩
    exact hholds.of_onlyLogs hlog hout (.note _ tools.env record) hholds.inventory hholds.index

/-! ## Runs -/

/-- What stands below the output root once some directories were made. -/
def withDirectories (below : List String → Option Entry) (dirs : List (List String)) :
    List String → Option Entry :=
  fun names => if names ∈ dirs then some .directory else below names

theorem withDirectories_nil : withDirectories below [] = below := by
  funext names
  simp [withDirectories]

theorem withDirectories_append (dirs more : List (List String)) :
    withDirectories below (dirs ++ more) = withDirectories (withDirectories below dirs) more := by
  funext names
  by_cases hmore : names ∈ more <;> simp [withDirectories, hmore]

theorem withDirectories_cons (dir : List String) (dirs : List (List String)) :
    withDirectories below (dir :: dirs) =
      withDirectories (Function.update below dir (some .directory)) dirs := by
  funext names
  by_cases hdirs : names ∈ dirs <;> by_cases hdir : names = dir <;>
    simp [withDirectories, hdirs, hdir]

theorem makeAll_cons {p : Path} {ps : List Path} (h : makeAll (p :: ps) now = (.ok (), now')) :
    ∃ mid, now.makeDirs p = (.ok (), mid) ∧ makeAll ps mid = (.ok (), now') := by
  rw [makeAll] at h
  split at h
  · rename_i mid hmake
    exact ⟨mid, hmake, h⟩
  · cases h

theorem makeAll_append {ps qs : List Path} (h : makeAll (ps ++ qs) now = (.ok (), now')) :
    ∃ mid, makeAll ps now = (.ok (), mid) ∧ makeAll qs mid = (.ok (), now') := by
  induction ps generalizing now with
  | nil => exact ⟨now, rfl, h⟩
  | cons p ps ih =>
    obtain ⟨mid, hmake, hrest⟩ := makeAll_cons h
    obtain ⟨mid', hps, hqs⟩ := ih hrest
    refine ⟨mid', ?_, hqs⟩
    rw [makeAll, hmake]
    exact hps

/-- The directories of an inventory are made below the output root, each in one that was made
before. -/
theorem Holds.makeAll {base : FileSystem} {input : Path} {rel : List String} {ns : List ProjectNode}
    (hout : Vacant s out) (hscan : Scanned base input rel ns)
    (h : Holds s root inv out below now) (hrel : below rel = some .directory)
    (hfree : ∀ names ∈ placesAt rel ns, below names = none)
    (hmake : makeAll ((directoriesAt rel ns).map fun names => root.join ⟨.relative, names⟩) now =
      (.ok (), now')) :
    Holds s root inv out (withDirectories below (directoriesAt rel ns)) now' := by
  induction hscan generalizing below now now' with
  | nil =>
    rw [directoriesAt] at hmake ⊢
    cases hmake
    rwa [withDirectories_nil]
  | @file rel name f ns _ _ _ _ _ _ _ _ _ _ _ _ ih =>
    rw [directoriesAt] at hmake ⊢
    refine ih h hrel (fun names hmem => hfree names ?_) hmake
    rw [(Scanned.placesAt_file rel f ns).mem_iff]
    exact List.mem_cons_of_mem _ hmem
  | @directory rel name children ns hproper hfresh hchildren hrest ihChildren ih =>
    have hperm := Scanned.placesAt_directory rel (.str name) children ns
    have hnodup := (Scanned.directory hproper hfresh hchildren hrest).nodup_placesAt
    rw [hperm.nodup_iff, List.nodup_cons, List.mem_append, not_or, List.nodup_append] at hnodup
    obtain ⟨⟨hselfChildren, hselfRest⟩, -, -, hdisjoint⟩ := hnodup
    have hname : name ≠ ".." := by
      rintro rfl
      cases hproper
    rw [directoriesAt, List.map_append, List.map_cons] at hmake
    -- first the directory is made, then what is inside it, then what comes behind it
    obtain ⟨after, hfirst, hmore⟩ := makeAll_append hmake
    obtain ⟨made, hdir, hinner⟩ := makeAll_cons hfirst
    have hmade := h.makeDirs hout hname hrel
      (hfree _ (hperm.mem_iff.mpr List.mem_cons_self)) hdir
    have hafter := ihChildren hmade (Function.update_self _ _ _) (fun names hmem => ?_) hinner
    · have hend := ih hafter ?_ (fun names hmem => ?_) hmore
      · rw [directoriesAt, withDirectories_append, withDirectories_cons]
        exact hend
      · rw [withDirectories]
        split
        · rfl
        · rw [Function.update_of_ne (by simp)]
          exact hrel
      · rw [withDirectories, if_neg, Function.update_of_ne]
        · exact hfree names (hperm.mem_iff.mpr (by simp [hmem]))
        · rintro rfl
          exact hselfRest hmem
        · intro hin
          exact hdisjoint names (List.mem_append_left _ hin) names hmem rfl
    · rw [Function.update_of_ne]
      · exact hfree names (hperm.mem_iff.mpr (by simp [hmem, Json.plain]))
      · rintro rfl
        exact hselfChildren hmem

/-- If no fault came up and all files so far were written, so was the last of them. -/
theorem emitNext_written {before after : Collected} {f : FileNode}
    (h : emitNext tools (before, now) f = (after, now')) (hfault : after.fault = none)
    (hwritten : ∀ o ∈ after.outcomes, o.status.isWritten = true) :
    (before.fault = none ∧ ∀ o ∈ before.outcomes, o.status.isWritten = true) ∧
      ∃ o mid, emitFile tools f now = (.ok o, mid) ∧ o.status.isWritten = true ∧
        now' = mid.report (.update (some 1)) := by
  have hcollect {o : FileOutcome} {mid : RunState}
      (hcollected : collect tools before o mid = (after, now')) :
      (before.fault = none ∧ ∀ o ∈ before.outcomes, o.status.isWritten = true) ∧
        o.status.isWritten = true ∧ now' = mid.report (.update (some 1)) := by
    rw [collect] at hcollected
    dsimp only at hcollected
    split at hcollected
    · rename_i hfailed
      cases hcollected
      have hlast := hwritten o (by simp)
      simp only [Bool.and_eq_true, decide_eq_true_eq] at hfailed
      rw [hfailed.1.1] at hlast
      cases hlast
    · cases hcollected
      exact ⟨⟨hfault, fun o ho => hwritten o (List.mem_append_left _ ho)⟩, hwritten o (by simp), rfl⟩
  rw [emitNext] at h
  split at h
  · cases (hcollect h).2.1
  · split at h
    · rename_i hbefore
      cases h
      rw [hfault] at hbefore
      cases hbefore
    · cases h
      cases hfault
    · rename_i o mid hemit _
      obtain ⟨hbefore, hlast, hnow⟩ := hcollect h
      exact ⟨hbefore, o, mid, hemit, hlast, hnow⟩

/-- The files of an inventory are emitted into the directories that were made. -/
theorem Holds.emitFiles (h : Holds s tools.settings.outputRoot inv out below now)
    (hlog : s.LogsTo s.files) (hout : Vacant s out) (hreader : tools.reader = readText)
    (hscan : Scanned s.files tools.settings.inputRoot [] inv)
    {places : List (List String × FileNode)} (hsub : places ⊆ filesAt [] inv)
    (hnodup : (places.map (·.1)).Nodup)
    (hfront : ∀ place ∈ places, below place.1.dropLast = some .directory)
    (hnone : ∀ place ∈ places, below place.1 = none) {done : Collected}
    (hrun : (places.map (·.2)).foldl (emitNext tools) ({}, now) = (done, now'))
    (hfault : done.fault = none) (hwritten : ∀ o ∈ done.outcomes, o.status.isWritten = true) :
    ∃ below', Holds s tools.settings.outputRoot inv out below' now' ∧
      (∀ names, names ∉ places.map (·.1) → below' names = below names) ∧
      ∀ place ∈ places, ∃ mode content, below' place.1 = some (.file mode content) ∧
        Emitted tools s place.1 place.2 mode content := by
  -- the last file is split off, because the fold emits it last
  induction places using List.reverseRecOn generalizing done now' with
  | nil =>
    cases hrun
    exact ⟨below, h, fun _ _ => rfl, fun _ hmem => nomatch hmem⟩
  | append_singleton places place ih =>
    rw [List.map_append, List.foldl_append] at hrun
    rcases hprevious : (places.map (·.2)).foldl (emitNext tools) ({}, now) with ⟨before, previous⟩
    rw [hprevious] at hrun
    obtain ⟨⟨hfault', hwritten'⟩, o, mid, hemit, hlast, rfl⟩ :=
      emitNext_written hrun hfault hwritten
    rw [List.append_subset] at hsub
    rw [List.map_append, List.nodup_append] at hnodup
    obtain ⟨hnodup', -, hfresh⟩ := hnodup
    obtain ⟨before', hheld, hsame, hemitted⟩ := ih hsub.1 hnodup'
      (fun other hother => hfront other (List.mem_append_left _ hother))
      (fun other hother => hnone other (List.mem_append_left _ hother)) hprevious hfault' hwritten'
    have hself : place.1 ∉ places.map (·.1) := fun hmem => hfresh _ hmem _ (by simp) rfl
    -- the directory of a file is not one of the files before it
    have hparent : place.1.dropLast ∉ places.map (·.1) := by
      intro hmem
      obtain ⟨other, hother, heq⟩ := List.mem_map.mp hmem
      have hdir := hfront place (by simp)
      rw [← heq, hnone other (List.mem_append_left _ hother)] at hdir
      cases hdir
    obtain ⟨mode, content, hbecomes, hholds⟩ := hheld.emitFile hlog hout hreader hscan
      (hsub.2 List.mem_cons_self) ((hsame _ hparent).trans (hfront place (by simp)))
      ((hsame _ hself).trans (hnone place (by simp))) hemit hlast
    refine ⟨_, hholds.of_onlyLogs hlog hout (.report mid _) hholds.inventory hholds.index,
      fun names hnames => ?_, fun other hother => ?_⟩
    · rw [List.map_append, List.mem_append, not_or] at hnames
      rw [Function.update_of_ne (by simpa using hnames.2)]
      exact hsame names hnames.1
    · rcases List.mem_append.mp hother with hother | hother
      · obtain ⟨mode', content', hat, hother'⟩ := hemitted other hother
        refine ⟨mode', content', ?_, hother'⟩
        rw [Function.update_of_ne, hat]
        rintro heq
        exact hself (heq ▸ List.mem_map_of_mem hother)
      · obtain rfl := List.mem_singleton.mp hother
        exact ⟨mode, content, Function.update_self _ _ _, hbecomes⟩

/-- The output root is made where nothing stood, and nothing is below it. -/
theorem exists_holds (hquiet : s.Steady now) (hlog : s.LogsTo s.files) (hsink : s.sink = .disk)
    (hindex : now.context.index = none) (habsent : ∀ e, s.files.stat root ≠ .ok e)
    (hup : ∀ front back, root.parts = front ++ ".." :: back →
      ∃ e, s.files.stat ⟨root.anchor, front⟩ = .ok e)
    (hmake : now.makeDirs root = (.ok (), now')) :
    ∃ out, Vacant s out ∧ Holds s root now.context.inventory out
      (fun names => if names = [] then some .directory else none) now' := by
  have hkeeps : s.files.Keeps s.logPlace now.files := hquiet.quiet.keeps hlog (.refl _ _)
  rw [RunState.makeDirs_of_disk (hquiet.quiet.sink.trans hsink)] at hmake
  obtain ⟨hok, rfl⟩ := Prod.mk.inj hmake
  have hrun : (FileM.makeDirs root).run.run now.files =
      (.ok (), ((Files.makeDirs root).run.run now.files).2) :=
    reporting_eq_ok.mp (Prod.ext hok rfl)
  generalize ((Files.makeDirs root).run.run now.files).2 = fs at hrun
  obtain ⟨out, hmade⟩ := FileM.exists_made hquiet.wellFormed
    (fun e he => absurd ((hquiet.quiet.exists_stat_iff hlog).mp ⟨e, he⟩) (not_exists.mpr habsent))
    (fun front back hparts => (hquiet.quiet.exists_stat_iff hlog).mpr (hup front back hparts)) hrun
  -- nothing can lie below an absent place
  have hvacant (names : List String) : now.files.get? (out ++ names) = none :=
    hquiet.wellFormed.get?_append hmade.absent names
  refine ⟨out, fun names => ?_, hquiet.quiet.sink.trans hsink, hquiet.quiet.logPlace_eq,
    hkeeps.trans (hmade.keeps.of_none _), fun names hdir => ?_, fun names => ?_, rfl, .inl hindex⟩
  · cases hget : s.files.get? (out ++ names) with
    | none => rfl
    | some e =>
      have hlater := hkeeps.entries _ _ hget
      simp [hvacant] at hlater
  · have hnames : names = [] := by
      by_contra hne
      rw [if_neg hne] at hdir
      cases hdir
    rw [hnames, join_relative, List.append_nil, List.append_nil]
    exact hmade.locate
  · by_cases hnames : names = []
    · rw [if_pos hnames, hnames, List.append_nil]
      exact hmade.directory
    · rw [if_neg hnames]
      rcases hmade.only (out ++ names) with hsame | ⟨more, hmore⟩
      · exact hsame.trans (hvacant names)
      · rw [List.append_assoc] at hmore
        exact absurd (List.append_eq_nil_iff.mp (List.append_right_eq_self.mp hmore)).1 hnames

end Steps

/-! ## The copy -/

/-- Below a location stand the directories and the files of an inventory, each at its place and no two
at the same, and nothing else. -/
structure Mirrors (tools : Tools) (s : RunState) (inv : Inventory) (out : Location)
    (fs : FileSystem) : Prop where
  root : fs.get? out = some .directory
  nodup : (placesAt [] inv).Nodup
  directories : ∀ names ∈ directoriesAt [] inv, fs.get? (out ++ names) = some .directory
  files : ∀ place ∈ filesAt [] inv, place.2.fullPath = .str ("/".intercalate place.1) ∧
    ∃ mode content, fs.get? (out ++ place.1) = some (.file mode content) ∧
      Emitted tools s place.1 place.2 mode content
  only : ∀ names, names ≠ [] → names ∉ placesAt [] inv → fs.get? (out ++ names) = none

/-- Once the directories of an inventory were made, its files complete the copy. -/
theorem Holds.mirrors {tools : Tools} {s now now' : RunState} {inv : Inventory} {out : Location}
    {done : Collected}
    (h : Holds s tools.settings.outputRoot inv out
      (withDirectories (fun names => if names = [] then some .directory else none)
        (directoriesAt [] inv)) now)
    (hlog : s.LogsTo s.files) (hout : Vacant s out) (hreader : tools.reader = readText)
    (hscan : Scanned s.files tools.settings.inputRoot [] inv)
    (hrun : ((filesAt [] inv).map (·.2)).foldl (emitNext tools) ({}, now) = (done, now'))
    (hfault : done.fault = none) (hwritten : ∀ o ∈ done.outcomes, o.status.isWritten = true) :
    now'.files.locate tools.settings.outputRoot = .ok out ∧ Mirrors tools s inv out now'.files := by
  obtain ⟨-, hnodup, hapart⟩ := List.nodup_append.mp hscan.nodup_placesAt
  have hfront : ∀ place ∈ filesAt [] inv,
      withDirectories (fun names => if names = [] then some .directory else none)
        (directoriesAt [] inv) place.1.dropLast = some .directory := by
    intro place hmem
    rw [withDirectories]
    split
    · rfl
    · rename_i hdir
      exact if_pos ((hscan.dropLast_mem (mem_placesAt hmem)).resolve_right hdir)
  have hnone : ∀ place ∈ filesAt [] inv,
      withDirectories (fun names => if names = [] then some .directory else none)
        (directoriesAt [] inv) place.1 = none := by
    intro place hmem
    rw [withDirectories, if_neg fun hdir => hapart _ hdir _ (List.mem_map_of_mem hmem) rfl]
    exact if_neg (hscan.ne_nil (mem_placesAt hmem))
  have hnotFile {names : List String} (hdir : names ∈ directoriesAt [] inv) :
      names ∉ (filesAt [] inv).map (·.1) := fun hmem => hapart _ hdir _ hmem rfl
  have hrootNotFile : [] ∉ (filesAt [] inv).map (·.1) :=
    fun hmem => hscan.ne_nil (List.mem_append_right _ hmem) rfl
  obtain ⟨below, hholds, hsame, hemitted⟩ := h.emitFiles hlog hout hreader hscan
    (List.Subset.refl _) hnodup hfront hnone hrun hfault hwritten
  have hroot : below [] = some .directory := by
    rw [hsame [] hrootNotFile]
    simp [withDirectories]
  have hlocate := hholds.locate [] hroot
  rw [join_relative, List.append_nil, List.append_nil] at hlocate
  refine ⟨hlocate, ?_, hscan.nodup_placesAt, fun names hdir => ?_, fun place hmem => ?_,
    fun names hne hmem => ?_⟩
  · have hentry := hholds.entries []
    rwa [List.append_nil, hroot] at hentry
  · rw [hholds.entries, hsame names (hnotFile hdir), withDirectories, if_pos hdir]
  · obtain ⟨mode, content, hbelow, hbecomes⟩ := hemitted place hmem
    exact ⟨(hscan.of_mem_filesAt hmem).1, mode, content, (hholds.entries _).trans hbelow, hbecomes⟩
  · rw [placesAt, List.mem_append, not_or] at hmem
    rw [hholds.entries, hsame names hmem.2, withDirectories, if_neg hmem.1, if_neg hne]

/-- An emission lays out the inventory, makes the directories, emits the files and reports their outcomes. -/
theorem emitProject_eq_ok {tools : Tools} {s s' : RunState} {report : RunReport}
    (h : emitProject tools s = (.ok report, s')) :
    ∃ dirs files, layout (tools.env.room - 1) {} s.context.inventory = .ok (dirs, files) ∧
    ∃ made done ended,
      makeAll (tools.settings.outputRoot :: dirs.map tools.settings.outputRoot.join) s =
        (.ok (), made) ∧
      files.foldl (emitNext tools)
        ({}, made.report (.start "Emitting files..." (some files.length))) = (done, ended) ∧
      done.fault = none ∧ report = reportOf done.outcomes ended.context ∧
      s' = ended.report (completion done.outcomes) := by
  rw [emitProject] at h
  split at h
  · cases h
  · rename_i dirs files hlayout
    refine ⟨dirs, files, hlayout, ?_⟩
    dsimp only at h
    split at h
    · cases h
    · rename_i made hmake
      split at h
      · cases h
      · rename_i hfault
        cases h
        exact ⟨made, _, _, hmake, rfl, hfault, rfl, rfl⟩

/-- What is emitted after a scan mirrors the inventory, if all files were written. The output root must
be absent, and no `..` of it may stand behind a part that is absent too. Files that could not be scanned
are among those that are copied. The system refuses nothing for want of permission or space. -/
theorem emitted_mirrors (tools : Tools) (s s' : RunState) (report : RunReport)
    (hreader : tools.reader = readText) (hsink : s.sink = .disk) (hwell : s.files.WellFormed)
    (hlog : s.LogsTo s.files) (habsent : ∀ e, s.files.stat tools.settings.outputRoot ≠ .ok e)
    (hup : ∀ front back, tools.settings.outputRoot.parts = front ++ ".." :: back →
      ∃ e, s.files.stat ⟨tools.settings.outputRoot.anchor, front⟩ = .ok e)
    (hemit : emitProject tools (Inventory.scan tools.env tools.settings s) = (.ok report, s'))
    (hwritten : ∀ o ∈ report.outcomes, o.status.isWritten = true) :
    (∃ out, s'.files.locate tools.settings.outputRoot = .ok out ∧
      Mirrors tools s (Inventory.scan tools.env tools.settings s).context.inventory out s'.files) ∧
    ∀ x ∈ (Inventory.scan tools.env tools.settings s).context.scanFailures,
      x ∈ s.context.scanFailures ∨
        ∃ place ∈ filesAt [] (Inventory.scan tools.env tools.settings s).context.inventory,
          place.2.fullPath = .str x.1 ∧ place.2.shouldInstrument = false := by
  obtain ⟨hquiet, hscan, hindex, hfailures⟩ :=
    Inventory.scan_scanned hlog tools.env tools.settings hwell
  refine ⟨?_, hfailures⟩
  generalize Inventory.scan tools.env tools.settings s = now at hquiet hscan hindex hemit ⊢
  generalize hinv : now.context.inventory = inv at hscan ⊢
  obtain ⟨dirs, files, hlayout, made, done, ended, hmake, hfold, hfault, rfl, rfl⟩ := emitProject_eq_ok hemit
  rw [hinv] at hlayout
  obtain ⟨-, rfl, rfl⟩ := hscan.of_layout_eq_ok hlayout
  obtain ⟨rooted, hroot, hdirs⟩ := makeAll_cons hmake
  obtain ⟨out, hout, hstart⟩ := exists_holds hquiet hlog hsink hindex habsent hup hroot
  rw [hinv] at hstart
  rw [List.map_map] at hdirs
  have hmade := hstart.makeAll hout hscan (if_pos rfl)
    (fun names hmem => if_neg (hscan.ne_nil hmem)) hdirs
  have hready (event : Progress.Event) :=
    hmade.of_onlyLogs hlog hout (.report made event) hmade.inventory hmade.index
  have hmirrors := (hready _).mirrors hlog hout hreader hscan hfold hfault
    fun o ho => hwritten o (List.mem_mergeSort.mpr ho)
  exact ⟨out, hmirrors⟩

/-- Tools without a formatter that emit what is below `app` to a path. -/
def copyTools (outputRoot : Path) : Tools where
  env := bareEnvironment
  settings := { inputRoot := ⟨.root, ["app"]⟩, outputRoot }
  formatter := Format.unchanged

/-- A project with a source that is no text. -/
def binaryProject : RunState where
  files := { entries :=
    [(["app"], .directory),
     (["app", "lib"], .directory),
     (["app", "lib", "a.js"], .file 0o640 [0, 1])] }

/-- The state of `binaryProject` after its scan. -/
def scannedProject (outputRoot : Path) : RunState :=
  Inventory.scan (copyTools outputRoot).env (copyTools outputRoot).settings binaryProject

theorem binaryProject_wellFormed : binaryProject.files.WellFormed := by
  decide +kernel

theorem binaryProject_logsTo : binaryProject.LogsTo binaryProject.files := by
  intro place hplace
  cases hplace

/-- The text of a class whose tag has an id already. -/
def classText : String := "class A extends Component \x7b b = <b pc_el_id /> \x7d"

/-- The root of its tree. -/
def classRoot : Node :=
  .mk { kind := .program, start := 0, stop := 48 } [
    .mk { kind := .classDeclaration, start := 0, stop := 48 } [
      .mk { kind := .identifier, start := 6, stop := 7, field := some .name } [],
      .mk { kind := .classHeritage, start := 8, stop := 25 } [
        .mk { kind := .identifier, start := 16, stop := 25 } []],
      .mk { kind := .classBody, start := 26, stop := 48, field := some .body } [
        .mk { kind := .other "field_definition", start := 28, stop := 46 } [
          .mk { kind := .other "property_identifier", start := 28, stop := 29 } [],
          .mk { kind := .jsxSelfClosingElement, start := 32, stop := 46, field := some .value } [
            .mk { kind := .identifier, start := 33, stop := 34, field := some .name } [],
            .mk { kind := .jsxAttribute, start := 35, stop := 43 } [
              .mk { kind := .other "property_identifier", start := 35, stop := 43 } []]]]]]]

/-- Tools whose parser makes that tree. -/
def classTools : Tools :=
  { copyTools ⟨.root, ["out"]⟩ with env := { bareEnvironment with rootOf := fun _ => classRoot } }

/-- A project with the class and a source that is no text. -/
def classProject : RunState where
  files := { entries :=
    [(["app"], .directory),
     (["app", "a.jsx"], .file 0o755 (Bytes.ofText classText)),
     (["app", "lib"], .directory),
     (["app", "lib", "a.js"], .file 0o640 [0, 1])] }

/-- The state of `classProject` after its scan. -/
def scannedClass : RunState := Inventory.scan classTools.env classTools.settings classProject

/-- The class is instrumented, and the source that could not be scanned is copied into the mirror. -/
theorem emitted_mirrors_classProject :
    ∃ report s', emitProject classTools scannedClass = (.ok report, s') ∧
      report.outcomes.Perm [⟨"a.jsx", .instrumented, ""⟩, ⟨"lib/a.js", .copied, ""⟩] ∧
      scannedClass.context.scanFailures.map (·.1) = ["lib/a.js"] ∧
      ∃ out, s'.files.locate ⟨.root, ["out"]⟩ = .ok out ∧
        Mirrors classTools classProject scannedClass.context.inventory out s'.files := by
  have hends : (emitProject classTools scannedClass).1.toOption.isSome = true := by decide +kernel
  have houtcomes : (layout (classTools.env.room - 1) {} scannedClass.context.inventory).toOption.map
      (fun found =>
        let made := (makeAll (⟨.root, ["out"]⟩ :: found.1.map (Path.join ⟨.root, ["out"]⟩)) scannedClass).2
        (found.2.foldl (emitNext classTools)
          ({}, made.report (.start "Emitting files..." (some found.2.length)))).1.outcomes) =
      some [⟨"a.jsx", .instrumented, ""⟩, ⟨"lib/a.js", .copied, ""⟩] := by
    decide +kernel
  have habsent (e : Entry) : classProject.files.stat ⟨.root, ["out"]⟩ ≠ .ok e := by
    have hstat : classProject.files.stat ⟨.root, ["out"]⟩ = .error .notFound := by
      decide +kernel
    rw [hstat]
    exact fun h => by cases h
  have hup (front back : List String) (hparts : ["out"] = front ++ ".." :: back) :
      ∃ e, classProject.files.stat ⟨.root, front⟩ = .ok e := by
    have hmem : ".." ∈ ["out"] := by rw [hparts]; simp
    exact absurd hmem (by decide)
  rcases hemit : emitProject classTools scannedClass with ⟨t | report, s'⟩
  · rw [hemit] at hends
    cases hends
  · obtain ⟨dirs, files, hlayout, made, done, ended, hmake, hfold, -, rfl, -⟩ := emitProject_eq_ok hemit
    have hmade : makeAll (⟨.root, ["out"]⟩ :: dirs.map (Path.join ⟨.root, ["out"]⟩)) scannedClass =
        (.ok (), made) := hmake
    rw [hlayout] at houtcomes
    simp only [Except.toOption, Option.map_some, hmade, hfold] at houtcomes
    have hperm : (reportOf done.outcomes ended.context).outcomes.Perm
        [⟨"a.jsx", .instrumented, ""⟩, ⟨"lib/a.js", .copied, ""⟩] :=
      Option.some.inj houtcomes ▸ List.mergeSort_perm _ _
    refine ⟨_, s', rfl, hperm, by decide +kernel, ?_⟩
    refine (emitted_mirrors classTools classProject s' _ rfl rfl (by decide +kernel)
      (fun _ hplace => by cases hplace) habsent hup hemit fun o ho => ?_).1
    have hwritten : ∀ o ∈ [(⟨"a.jsx", .instrumented, ""⟩ : FileOutcome), ⟨"lib/a.js", .copied, ""⟩],
        o.status.isWritten = true := by decide
    exact hwritten o (hperm.mem_iff.mp ho)

/-- An output root that goes up from a directory which is not there: the directory is made, and stands
below the output root although the inventory does not know it. -/
theorem not_mirrors_upward :
    (∀ e, binaryProject.files.stat ⟨.root, ["out", "x", ".."]⟩ ≠ .ok e) ∧
    ∃ report s', emitProject (copyTools ⟨.root, ["out", "x", ".."]⟩)
        (scannedProject ⟨.root, ["out", "x", ".."]⟩) = (.ok report, s') ∧
      report.outcomes = [⟨"lib/a.js", .copied, ""⟩] ∧
      s'.files.locate ⟨.root, ["out", "x", ".."]⟩ = .ok ["out"] ∧
      ¬ Mirrors (copyTools ⟨.root, ["out", "x", ".."]⟩) binaryProject
          (scannedProject ⟨.root, ["out", "x", ".."]⟩).context.inventory ["out"] s'.files := by
  have houtcomes : (emitProject (copyTools ⟨.root, ["out", "x", ".."]⟩)
      (scannedProject ⟨.root, ["out", "x", ".."]⟩)).1.toOption.map (fun r => r.outcomes) =
        some [⟨"lib/a.js", .copied, ""⟩] := by
    decide +kernel
  have hmade : (emitProject (copyTools ⟨.root, ["out", "x", ".."]⟩)
      (scannedProject ⟨.root, ["out", "x", ".."]⟩)).2.files.get? ["out", "x"] = some .directory := by
    decide +kernel
  have hlocate : (emitProject (copyTools ⟨.root, ["out", "x", ".."]⟩)
      (scannedProject ⟨.root, ["out", "x", ".."]⟩)).2.files.locate ⟨.root, ["out", "x", ".."]⟩ =
        .ok ["out"] := by
    decide +kernel
  have hplaces : ["x"] ∉
      placesAt [] (scannedProject ⟨.root, ["out", "x", ".."]⟩).context.inventory := by
    decide +kernel
  have hstat : binaryProject.files.stat ⟨.root, ["out", "x", ".."]⟩ = .error .notFound := by
    decide +kernel
  refine ⟨fun e => by rw [hstat]; exact nofun, ?_⟩
  rcases hemit : emitProject (copyTools ⟨.root, ["out", "x", ".."]⟩)
    (scannedProject ⟨.root, ["out", "x", ".."]⟩) with ⟨t | report, s'⟩
  · rw [hemit] at houtcomes
    cases houtcomes
  · rw [hemit] at houtcomes hmade hlocate
    refine ⟨report, s', rfl, Option.some.inj houtcomes, hlocate, fun hmirrors => ?_⟩
    have hnone := hmirrors.only ["x"] (List.cons_ne_nil _ _) hplaces
    rw [List.singleton_append, hmade] at hnone
    cases hnone

end JsxTagger.Emit
