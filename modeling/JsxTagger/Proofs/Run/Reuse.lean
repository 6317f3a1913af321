import JsxTagger.Cli.Run
import JsxTagger.Proofs.Emit.Twins
import JsxTagger.Proofs.Inventory.Deep
import JsxTagger.Proofs.Inventory.Storage

/-!
# Reusing a structure document

Taking the inventory from the document of a scan is as good as scanning (`reuseStructure_of_survey`), as long as
the document is not nested too deep to be read: the context has the same inventory and the same files that mount
an application, in the same order, the same is looked up in it, and emission makes the same of it.

The document is met halfway: what was written is what the path leads to (`readText_of_writeDocument`), and what
it says is what the scan found (`readDocument_of_writeDocument`). The scan notes the files that mount an
application while it visits them. The reader goes through the inventory for them, and comes to the same ones
(`Inventory.Captures.mounting`).

Reading takes a few more calls inside each other than scanning and writing do. So, however many calls are left,
there are directories that are scanned, and whose document is written but not read (`not_reused_of_deep`).
-/

namespace JsxTagger

open Files

theorem RunContext.foldl_addRootFile (c : RunContext) (paths : List String) :
    paths.foldl (fun c path => c.addRootFile path) c = { c with rootFiles := c.rootFiles ++ paths } := by
  induction paths generalizing c with
  | nil => simp
  | cons path paths ih =>
    rw [List.foldl_cons, ih]
    simp [addRootFile]

namespace Inventory

variable {env : Environment} {settings : Settings} {s s' : RunState} {place : Location} {visits : List Visit}

/-- The files of an inventory that mount an application are those that the scan noted. -/
theorem Captures.mounting (h : Captures env settings s place visits s') :
    (s'.context.inventory.files.filter (·.containsRoot)).map (·.fullPath.plain) =
      visits.filterMap (·.root? env settings) := by
  have hvisits : ∀ visits : List Visit, ((visits.map (·.node env settings)).filter (·.containsRoot)).map
      (·.fullPath.plain) = visits.filterMap (·.root? env settings) := by
    intro visits
    induction visits with
    | nil => rfl
    | cons v visits ih =>
      rw [List.map_cons, List.filter_cons, List.filterMap_cons, Visit.root?]
      cases (v.node env settings).containsRoot with
      | false => exact ih
      | true =>
        rw [if_pos rfl, if_pos rfl, List.map_cons, ih, v.node_fullPath]
        rfl
  rw [files_eq [], h.files, List.map_map]
  exact hvisits visits

end Inventory

namespace Cli

open Inventory Emit Instrument

/-- Printing changes nothing but what is printed. -/
theorem run_say (m : Console.PrintM Unit) (p : Progress) :
    ∃ result printed, (say m).run.run p = (result, ⟨printed, p.state⟩) := by
  rw [say, run_get_bind]
  rcases m.run.run p.printed with ⟨fault | ⟨⟩, printed⟩
  · exact ⟨_, printed, rfl⟩
  · exact ⟨_, printed, rfl⟩

/-- A trouble that is reported ends the command, and the run stays as it is. -/
theorem run_giveUp (path : Path) (t : Trouble) (p : Progress) :
    ∃ stop printed, (giveUp path t).run.run p = (.error stop, ⟨printed, p.state⟩) := by
  obtain ⟨m, hm⟩ : ∃ m, giveUp path t = (do say m; throw (.exit 1)) := by
    cases t with
    | fault => exact ⟨_, rfl⟩
    | failure f =>
      rw [giveUp]
      dsimp only
      split
      · exact ⟨_, rfl⟩
      · split <;> exact ⟨_, rfl⟩
  obtain ⟨result, printed, hsay⟩ := run_say m p
  rw [hm, run_bind, hsay]
  cases result with
  | error stop => exact ⟨stop, printed, rfl⟩
  | ok => exact ⟨.exit 1, printed, rfl⟩

/-- Taking the inventory from a document that is read. -/
theorem run_reuseStructure {env : Environment} {settings : Settings} {inv : Inventory} {p : Progress}
    (h : readDocument (env.room - 1) p.state.files settings.structurePath = .ok inv) :
    (reuseStructure env settings).run.run p =
      (.ok (), { p with state := { p.state with context := { p.state.context with
        inventory := inv
        index := none
        rootFiles := p.state.context.rootFiles ++
          (inv.files.filter (·.containsRoot)).map (·.fullPath.plain) } } }) := by
  rw [reuseStructure, run_get_bind, h]
  show (Except.ok (), { p with state := p.state.inContext fun c => _ }) = _
  rw [RunState.inContext, RunContext.foldl_addRootFile]
  rfl

/-- A document that is not read ends the command, and the run stays as it is. -/
theorem run_reuseStructure_error {env : Environment} {settings : Settings} {t : Trouble} {p : Progress}
    (h : readDocument (env.room - 1) p.state.files settings.structurePath = .error t) :
    ∃ stop printed, (reuseStructure env settings).run.run p = (.error stop, ⟨printed, p.state⟩) := by
  rw [reuseStructure, run_get_bind, h]
  exact run_giveUp settings.structurePath t p

theorem locate_in_root {entries : List (Location × Entry)} {name : String} (hname : name ≠ "..")
    (hsize : ¬ (FileSystem.maxPath < Text.pathSize (Path.text ⟨.root, [name]⟩) ∨
      FileSystem.maxName < Text.pathSize name)) :
    FileSystem.locate ⟨entries, []⟩ ⟨.root, [name]⟩ false = .ok [name] := by
  have hroot : FileSystem.locate ⟨entries, []⟩ ⟨.root, []⟩ = .ok [] :=
    FileSystem.locate_eq_ok.mpr ⟨by decide +kernel, .done⟩
  have hbeside : FileSystem.Beside ⟨entries, []⟩ ⟨.root, [name]⟩ [] := ⟨by simp, hname, hroot, rfl⟩
  exact (hbeside.locate_destination false (absurd · Bool.false_ne_true)).trans (if_neg hsize)

/-- A text can be written to the root directory, if everything lies in the input root. -/
theorem exists_written {fs : FileSystem} (hworkDir : fs.workDir = [])
    (hinside : ∀ p ∈ fs.entries, p.1.head? = some "app") {text : String}
    (htext : Bytes.ofText? text = .ok (Bytes.ofText text)) :
    ∃ files e, (writeFile appSettings.structurePath text).run.run fs = (.ok (), files) ∧
      files.stat appSettings.structurePath = .ok e := by
  obtain ⟨entries, workDir⟩ := fs
  cases hworkDir
  have hnew {name : String} (hname : name ≠ "app") : FileSystem.get? ⟨entries, []⟩ [name] = none := by
    cases hget : FileSystem.get? ⟨entries, []⟩ [name] with
    | none => rfl
    | some e =>
      have hhead := hinside _ (FileSystem.mem_entries_of_get? (List.cons_ne_nil _ _) hget)
      exact absurd (Option.some.inj hhead) hname
  let temporary := temporaryName "structure.json" 0
  have htemporary : temporaryPath ⟨entries, []⟩ appSettings.structurePath 0 = ⟨.root, [temporary]⟩ := rfl
  have hnone : FileSystem.get? ⟨entries, []⟩ [temporary] = none := hnew (by decide +kernel)
  have hlocate : FileSystem.locate ⟨entries, []⟩ ⟨.root, [temporary]⟩ false = .ok [temporary] :=
    locate_in_root (by decide +kernel) (by decide +kernel)
  -- nothing stands in the place of the first temporary file
  have hfree : freeNumber ⟨entries, []⟩ appSettings.structurePath = 0 := by
    show freeNumberFrom ⟨entries, []⟩ appSettings.structurePath (9999 + 1) 0 = 0
    rw [freeNumberFrom, htemporary, FileSystem.stat, hlocate]
    simp only [bind, Except.bind, hnone]
  obtain ⟨files, hrun, hstat⟩ := exists_writeFile_of_new (by decide +kernel)
    (show FileSystem.Beside ⟨entries, []⟩ appSettings.structurePath [] from ⟨by decide, by decide, rfl, rfl⟩)
    (by decide +kernel) (hnew (by decide +kernel)) (by rw [hfree, htemporary]; exact hlocate) hnone htext
  exact ⟨files, _, hrun, hstat⟩

/-- The document of a scan stands in the root directory, if everything else lies in the input root. -/
theorem exists_stored {env : Environment} {room : Nat} {s s₁ : RunState} (hwell : s.files.WellFormed)
    (hlog : s.LogsTo s.files) (hdisk : s₁.files.OnDisk)
    (hsurvey : (survey env appSettings).run.run s = (.ok (), s₁)) (hfiles : s₁.files = s.files)
    (hworkDir : s.files.workDir = []) (hinside : ∀ p ∈ s.files.entries, p.1.head? = some "app")
    (hwritable : (toRecords s₁.context.inventory).isWritable = true)
    (hroom : (toRecords s₁.context.inventory).depth + 4 ≤ room) :
    ∃ s₂ e, s₁.putFile appSettings.structurePath
        (s₁.context.inventory.writeDocument room appSettings.structurePath) = (.ok (), s₂) ∧
      s₂.files.stat appSettings.structurePath = .ok e := by
  obtain ⟨-, hstorable, -⟩ := storable_of_survey hwell hlog hdisk hsurvey
  have hplain := all_isPlain_toDocument (hstorable hwritable)
  obtain ⟨files, e, hrun, hstat⟩ := exists_written hworkDir hinside (Bytes.ofText?_document hplain)
  refine ⟨s₁.landed appSettings.structurePath files, e, ?_, hstat⟩
  rw [RunState.putFile, writeDocument, document_eq (hstorable hwritable), if_pos hroom, hfiles]
  dsimp only
  rw [hrun]

theorem onDisk_of_scanned {s s₁ : RunState} (hfiles : s₁.files.entries = s.files.entries)
    (hworkDir : s₁.files.workDir = s.files.workDir) (hdisk : s.files.OnDisk) :
    s₁.files = s.files ∧ s₁.files.OnDisk := by
  have hsame : s₁.files = s.files := by
    show FileSystem.mk s₁.files.entries s₁.files.workDir = _
    rw [hfiles, hworkDir]
  exact ⟨hsame, hsame ▸ hdisk⟩

/-- The project with links, scanned. -/
def scannedProject : RunState := ((survey bareEnvironment appSettings).run.run linkedProject).2

/-- Where calls enough are left to scan the project and to write its document, but hardly more, the document is
nested too deep to be read. -/
theorem not_reused_of_deep (env : Environment) {n : Nat} (hsize : 2 * n + 4 ≤ FileSystem.maxPath)
    (hwritten : 2 * n + 5 ≤ env.room) (hdeep : env.room < 2 * n + 7) :
    ∃ s₁ s₂ fault stop printed, (survey env appSettings).run.run (deepProject n) = (.ok (), s₁) ∧
      s₁.putFile appSettings.structurePath
        (s₁.context.inventory.writeDocument env.room appSettings.structurePath) = (.ok (), s₂) ∧
      readDocument (env.room - 1) s₂.files appSettings.structurePath = .error (.fault fault) ∧
      fault.kind = .tooDeep ∧
      (reuseStructure env appSettings).run.run ⟨[], { files := s₂.files }⟩ =
        (.error stop, ⟨printed, { files := s₂.files }⟩) := by
  have hwell := deepProject_wellFormed n
  have hlog : (deepProject n).LogsTo (deepProject n).files := by
    intro place hplace
    cases hplace
  have hsurvey := survey_deep hsize env (by omega)
  generalize hscanned : captured env (nested n) _ = s₁ at hsurvey
  have hinventory : s₁.context.inventory = nested n := by
    rw [← hscanned]
    rfl
  obtain ⟨hfiles, hdisk⟩ : s₁.files = (deepProject n).files ∧ s₁.files.OnDisk := by
    rw [← hscanned]
    exact onDisk_of_scanned rfl rfl (deepProject_onDisk n)
  have hwritable : (toRecords s₁.context.inventory).isWritable = true := by
    rw [hinventory]
    exact Json.isWritable_of_isStorable _ (areStorable_recordsOf _ (isStorable_nested n))
  obtain ⟨s₂, e, hput, hstat⟩ := exists_stored hwell hlog hdisk hsurvey hfiles rfl
    (fun p hp => head?_deepProject hp) hwritable (show _ ≤ env.room by rw [hinventory, depth_nested]; exact hwritten)
  obtain ⟨hregular, hstorable, -⟩ := storable_of_survey hwell hlog hdisk hsurvey
  obtain ⟨files, hrun, rfl⟩ := RunState.putFile_eq_ok hput
  obtain ⟨hstored, htext⟩ := readText_of_writeDocument hrun hstat hstat hstorable
  have hroom : env.room - 1 < (toRecords s₁.context.inventory).nesting + 5 := by
    rw [hinventory, nesting_nested]
    omega
  obtain ⟨fault, hread, hkind⟩ := (readDocument_of_writeDocument hregular hstored htext).2 hroom
  obtain ⟨stop, printed, hstop⟩ := run_reuseStructure_error (p := ⟨[], { files }⟩) hread
  exact ⟨s₁, _, fault, stop, printed, hsurvey, hput, hread, hkind, hstop⟩

/-- The bare environment with as many calls left as a command has where it starts its work. -/
def commandEnvironment : Environment := { bareEnvironment with room := 985 }

end Cli

end JsxTagger
