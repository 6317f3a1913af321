import JsxTagger.Emit.Pool
import JsxTagger.Proofs.Emit.Sources
import JsxTagger.Proofs.Files.Refusals
import JsxTagger.Proofs.Instrument.Completion

/-!
# Files that have an outcome

Emitting a file goes through a few steps, each of which yields something or ends with a failure, as long
as the paths are such that the system can look at them and the file can be instrumented
(`Emittable`). Then the file has an outcome (`emitFile_returns`). A path that the system does not take, such as
one with a null character in a structure document, is a fault instead (`emitFile_faults`).
-/

namespace JsxTagger

open Files
open FileSystem (pathFault?)

namespace Emit

variable {tools : Tools} {f : FileNode} {rel : String} {source destination : Path} {s s' : RunState}

/-! ## What each step takes -/

/-- A file can be read and instrumented, if it is a text at all. -/
structure Draftable (tools : Tools) (rel : String) (source : Path) (s : RunState) : Prop where
  ids : ∀ n, Text.isPlain (tools.env.ids n) = true
  fits : s.files.Fits source
  components : ∃ components context, s.context.componentsFor (.str rel) = .ok (components, context) ∧
    Classify.Bindable components
  text : ∀ text, readText s.files source = .ok text → Text.isPlain text = true ∧
    ∀ tree, tools.env.parse text (some rel) = .ok tree →
      Instrument.Grammatical tree ∧ Instrument.Shallow tools.env.workerRoom tree

/-- What was instrumented can be written down and reported. -/
structure Presentable (text : String) (missing : List Json) : Prop where
  plain : Text.isPlain text = true
  names : ∀ name ∈ missing, ∃ n, name = .str n

theorem draft_cases (hreader : tools.reader = readText) (h : Draftable tools rel source s) :
    (∃ f s', draft tools rel source s = (.error (.failure f), s')) ∨
    ∃ result s', draft tools rel source s = (.ok result, s') ∧
      Presentable result.text result.missing := by
  rw [draft, hreader]
  dsimp only
  rcases readText_cases h.fits with ⟨f, hread⟩ | ⟨text, hread⟩
  · rw [hread]
    exact .inl ⟨f, _, rfl⟩
  · obtain ⟨hplain, htree⟩ := h.text text hread
    obtain ⟨components, context, hcomponents, hbindable⟩ := h.components
    rw [hread]
    dsimp only
    rw [hcomponents]
    dsimp only
    rcases Instrument.instrumentSource_cases hplain h.ids hbindable htree s.drawn with
      ⟨fault, hrun⟩ | ⟨result, drawn, log, hrun, hresult, hmissing⟩
    · rw [hrun]
      exact .inl ⟨_, _, rfl⟩
    · rw [hrun]
      exact .inr ⟨result, _, rfl, hresult, hmissing⟩

/-- The answer of a formatter is a text that can be written down, or a failure. -/
def Answers (result : Except Trouble String) : Prop :=
  (∃ f, result = .error (.failure f)) ∨ ∃ text, result = .ok text ∧ Text.isPlain text = true

theorem polish_cases {result : Instrument.Instrumented}
    (hpresentable : Presentable result.text result.missing)
    (hanswers : Answers (tools.formatter s.files result.text destination).result) :
    (∃ f s', polish tools destination result s = (.error (.failure f), s')) ∨
    ∃ p s', polish tools destination result s = (.ok p, s') ∧ Presentable p.text p.missing := by
  rw [polish]
  rcases hanswers with ⟨f, hfails⟩ | ⟨text, hanswer, hplain⟩
  · exact .inl ⟨f, _, by rw [hfails]; rfl⟩
  · exact .inr ⟨⟨text, result.edits, result.missing⟩, _, by rw [hanswer]; rfl, hplain,
      hpresentable.names⟩

theorem joinNames_eq_ok {names : List Json} (h : ∀ name ∈ names, ∃ n, name = .str n) :
    joinNames names = .ok (", ".intercalate (names.map Json.plain)) := by
  rw [joinNames]
  split
  · rfl
  · rename_i i hfound
    obtain ⟨hi, hother, -⟩ := List.findIdx?_eq_some_iff_getElem.mp hfound
    obtain ⟨n, hn⟩ := h names[i] (List.getElem_mem hi)
    rw [hn] at hother
    cases hother

theorem instrumented_eq_ok (rel : String) {missing : List Json} (h : ∀ name ∈ missing, ∃ n, name = .str n) :
    ∃ o, instrumented rel missing = .ok o ∧ o.path = rel := by
  rw [instrumented]
  split
  · exact ⟨_, rfl, rfl⟩
  · rw [joinNames_eq_ok h]
    exact ⟨_, rfl, rfl⟩

theorem write_returns (tools : Tools) (rel : String) {p : Prepared} (hsink : s.sink = .disk)
    (hsource : pathFault? source = none) (hdestination : pathFault? destination = none)
    (hfits : s.files.Fits destination) (hpresentable : Presentable p.text p.missing) :
    ∃ o, (write tools rel source destination p s).1 = .ok o ∧ o.path = rel := by
  rw [write, RunState.writeFile, RunState.intoSink_of_disk hsink, RunState.putFile]
  rcases hrun : (writeFile destination p.text (some source)).run.run s.files with ⟨t | ⟨⟨⟩⟩, fs⟩
  · obtain ⟨f, rfl⟩ := writeFile_onlyFails hsource hdestination (hfits.leadsTo _)
      hpresentable.plain (congrArg Prod.fst hrun)
    exact ⟨_, rfl, rfl⟩
  · exact instrumented_eq_ok rel hpresentable.names

theorem copyOne_returns (tools : Tools) (rel : String) (hsink : s.sink = .disk)
    (hsource : pathFault? source = none) (hdestination : pathFault? destination = none) :
    ∃ o, (copyOne tools rel source destination s).1 = .ok o ∧ o.path = rel := by
  rw [copyOne, RunState.copyFile, RunState.intoSink_of_disk hsink, RunState.putFile]
  rcases hrun : (copyFile source destination).run.run s.files with ⟨t | ⟨⟨⟩⟩, fs⟩
  · obtain ⟨f, rfl⟩ := copyFile_onlyFails hsource hdestination s.files t (congrArg Prod.fst hrun)
    exact ⟨_, rfl, rfl⟩
  · exact ⟨_, rfl, rfl⟩

/-! ## Formatters of the settings -/

/-- The command of the formatter can be split into words, its rules are not too long a path, and what its
processes write is text. -/
structure Formattable (tools : Tools) (s : RunState) : Prop where
  config : s.files.Fits tools.settings.formatConfig
  command : ∃ words, Format.shellWords tools.settings.formatCommand = .ok words
  processes : ∀ line input fault, tools.env.runProgram line input ≠ .disrupted fault
  outputs : ∀ line input code output errors,
    tools.env.runProgram line input = .ended code output errors → Text.isPlain output = true

theorem program_onlyFails {c : Format.CommandFormatter} {words : List String}
    (h : Format.shellWords c.command = .ok words) {t : Trouble} (hprogram : c.program = .error t) :
    ∃ f, t = .failure f := by
  rw [Format.CommandFormatter.program, h] at hprogram
  cases words with
  | nil =>
    cases hprogram
    exact ⟨_, rfl⟩
  | cons name arguments => cases hprogram

theorem resolve_onlyFails {c : Format.CommandFormatter} {words : List String}
    (h : Format.shellWords c.command = .ok words) {find : String → Option String} {t : Trouble}
    (hresolve : (c.resolve find).1 = .error t) : ∃ f, t = .failure f := by
  rw [Format.CommandFormatter.resolve] at hresolve
  split at hresolve
  · cases hresolve
  · split at hresolve
    · rename_i t' hprogram
      cases hresolve
      exact program_onlyFails h hprogram
    · split at hresolve
      · cases hresolve
      · cases hresolve
        exact ⟨_, rfl⟩

theorem outcome_answers {p : Path} {outcome : ProcessOutcome} (h : ∀ fault, outcome ≠ .disrupted fault)
    (hplain : ∀ code output errors, outcome = .ended code output errors → Text.isPlain output = true) :
    Answers (Format.CommandFormatter.outcome p outcome) := by
  cases outcome with
  | refused text => exact .inl ⟨_, rfl⟩
  | disrupted fault => exact absurd rfl (h fault)
  | ended code output errors =>
    rw [Format.CommandFormatter.outcome]
    split
    · exact .inr ⟨output, rfl, hplain code output errors rfl⟩
    · exact .inl ⟨_, rfl⟩

theorem checkConfig_cases {c : Format.CommandFormatter} {fs : FileSystem} (h : fs.Fits c.config) :
    (∃ f, c.checkConfig fs = .error (.failure f)) ∨ c.checkConfig fs = .ok () := by
  rw [Format.CommandFormatter.checkConfig]
  rcases readText_cases h with ⟨f, hread⟩ | ⟨text, hread⟩
  · rw [hread]
    exact .inl ⟨_, rfl⟩
  · rw [hread]
    exact .inr rfl

/-- A command formatter answers every text. -/
theorem format_answers {c : Format.CommandFormatter} {env : Environment} {fs : FileSystem}
    {words : List String} (hconfig : fs.Fits c.config) (hwords : Format.shellWords c.command = .ok words)
    (hprocesses : ∀ line input fault, env.runProgram line input ≠ .disrupted fault)
    (houtputs : ∀ line input code output errors,
      env.runProgram line input = .ended code output errors → Text.isPlain output = true)
    (text : String) (p : Path) : Answers (c.format env fs text p) := by
  rw [Format.CommandFormatter.format]
  rcases checkConfig_cases hconfig with ⟨f, hfails⟩ | hok
  · exact .inl ⟨f, by rw [hfails]; rfl⟩
  · rw [hok]
    cases hresolve : (c.resolve env.findProgram).1 with
    | error t =>
      obtain ⟨f, rfl⟩ := resolve_onlyFails hwords hresolve
      exact .inl ⟨f, rfl⟩
    | ok found => exact outcome_answers (hprocesses _ _) (houtputs _ _)

theorem ofSettings_answers (hformattable : tools.settings.formatOutput = true → Formattable tools s)
    {text : String} (hplain : Text.isPlain text = true) (p : Path) :
    Answers (Format.ofSettings tools.env tools.settings s.files text p).result := by
  rw [Format.ofSettings, Format.choice]
  cases hformat : tools.settings.formatOutput with
  | false => exact .inr ⟨text, rfl, hplain⟩
  | true =>
    obtain ⟨hconfig, ⟨words, hwords⟩, hprocesses, houtputs⟩ := hformattable hformat
    exact format_answers
      (c := { config := tools.settings.formatConfig, command := tools.settings.formatCommand })
      hconfig hwords hprocesses houtputs text p

/-! ## Whole files -/

/-- The system takes the paths of a file, and a file with components can be instrumented and written. -/
structure Emittable (tools : Tools) (f : FileNode) (rel : String) (s : RunState) : Prop where
  path : f.fullPath = .str rel
  source : pathFault? (tools.settings.inputRoot.join (Path.ofText rel)) = none
  destination : pathFault? (tools.settings.outputRoot.join (Path.ofText rel)) = none
  draftable : f.shouldInstrument = true →
    Draftable tools rel (tools.settings.inputRoot.join (Path.ofText rel)) s
  fits : f.shouldInstrument = true →
    s.files.Fits (tools.settings.outputRoot.join (Path.ofText rel))

/-- A file has an outcome if its formatter answers. -/
theorem Emittable.returns (h : Emittable tools f rel s) (hreader : tools.reader = readText)
    (hanswers : ∀ s', s.OnlyLogs s' → ∀ text, Text.isPlain text = true →
      Answers (tools.formatter s'.files text
        (tools.settings.outputRoot.join (Path.ofText rel))).result)
    (hsink : s.sink = .disk) (hlog : s.LogsTo s.files) :
    ∃ o, (emitFile tools f s).1 = .ok o ∧ o.path = rel := by
  rw [emitFile, h.path]
  dsimp only
  rw [emitAt]
  split
  · exact ⟨_, rfl, rfl⟩
  · split
    · exact copyOne_returns tools rel hsink h.source h.destination
    · rename_i hinstrument
      have hinstrument : f.shouldInstrument = true := by simpa using hinstrument
      have hdraft := draft_onlyLogs tools rel (tools.settings.inputRoot.join (Path.ofText rel)) s
      rw [prepare]
      rcases draft_cases hreader (h.draftable hinstrument) with
        ⟨failure, s₁, hrun⟩ | ⟨result, s₁, hrun, hpresentable⟩
      · rw [hrun]
        exact ⟨_, rfl, rfl⟩
      · rw [hrun] at hdraft
        have hpolish := polish_onlyLogs tools (tools.settings.outputRoot.join (Path.ofText rel))
          result s₁
        rw [hrun]
        dsimp only
        rcases polish_cases hpresentable (hanswers s₁ hdraft result.text hpresentable.plain) with
          ⟨failure, s₂, hformat⟩ | ⟨p, s₂, hformat, hready⟩
        · rw [hformat]
          exact ⟨_, rfl, rfl⟩
        · rw [hformat] at hpolish
          have hquiet := hdraft.trans hpolish
          rw [hformat]
          dsimp only
          rw [commit]
          split
          · exact ⟨_, rfl, rfl⟩
          · exact write_returns tools rel (hquiet.sink.trans hsink) h.source h.destination
              ((hquiet.fits_iff hlog).mpr (h.fits hinstrument)) hready

/-- A file has an outcome, with the formatter of the settings, if its paths and its components can be
worked with and the system refuses nothing for want of permission or space. -/
theorem emitFile_returns (tools : Tools) (f : FileNode) (rel : String) (s : RunState)
    (hreader : tools.reader = readText)
    (hformatter : tools.formatter = Format.ofSettings tools.env tools.settings)
    (hsink : s.sink = .disk) (hlog : s.LogsTo s.files) (hfile : Emittable tools f rel s)
    (hformattable : tools.settings.formatOutput = true → Formattable tools s) :
    ∃ o, (emitFile tools f s).1 = .ok o ∧ o.path = rel := by
  refine hfile.returns hreader (fun s' hquiet text hplain => ?_) hsink hlog
  rw [hformatter]
  refine ofSettings_answers (s := s') (fun hformat => ?_) hplain _
  have hbefore := hformattable hformat
  exact ⟨(hquiet.fits_iff hlog).mpr hbefore.config, hbefore.command, hbefore.processes, hbefore.outputs⟩

/-- A file that is said to have a component, while it is no text. -/
def brokenFile : FileNode where
  name := .str "a.js"
  fullPath := .str "lib/a.js"
  process := true
  containsJsx := true
  components := [{ name := .str "A", kind := .functional }]

/-- `binaryProject` with an inventory that knows `brokenFile`. -/
def brokenProject : RunState :=
  { binaryProject with context := { inventory := [.directory (.str "lib") [.file brokenFile]] } }

/-- Tools with the formatter of their settings. -/
def formatTools : Tools :=
  { copyTools ⟨.root, ["out"]⟩ with
    formatter := Format.ofSettings (copyTools {}).env (copyTools ⟨.root, ["out"]⟩).settings }

/-- A file that is no text has an outcome. -/
theorem emitFile_returns_brokenFile :
    ∃ o, (emitFile formatTools brokenFile brokenProject).1 = .ok o ∧ o.path = "lib/a.js" ∧
      o.status = .failed := by
  have hread : ∀ text, readText brokenProject.files ⟨.root, ["app", "lib", "a.js"]⟩ ≠ .ok text := by
    intro text hread
    have hfails : (readText brokenProject.files ⟨.root, ["app", "lib", "a.js"]⟩).toOption = none := by
      decide +kernel
    rw [hread] at hfails
    cases hfails
  have hpaths : formatTools.settings.inputRoot.join (Path.ofText "lib/a.js") =
        ⟨.root, ["app", "lib", "a.js"]⟩ ∧
      formatTools.settings.outputRoot.join (Path.ofText "lib/a.js") =
        ⟨.root, ["out", "lib", "a.js"]⟩ := by
    decide +kernel
  have hbindable : Classify.Bindable brokenFile.components := by
    refine ⟨fun c hc => ?_, fun c hc => ?_⟩
    · obtain rfl := List.mem_singleton.mp hc
      exact ⟨rfl, rfl⟩
    · obtain rfl := List.mem_singleton.mp hc
      exact ⟨"A", rfl⟩
  have hcomponents : brokenProject.context.componentsFor (.str "lib/a.js") =
      .ok (brokenFile.components, { brokenProject.context with index := some [brokenFile] }) := by
    simp [RunContext.componentsFor, RunContext.findFile, RunContext.indexed, RunContext.files,
      Inventory.files, Inventory.drain, RunContext.lastWithPath, brokenProject, brokenFile, Json.isKey,
      Json.sameKey, bind, Except.bind, pure, Except.pure]
  have hfile : Emittable formatTools brokenFile "lib/a.js" brokenProject := by
    refine ⟨rfl, ?_, ?_, fun _ => ⟨fun n => ?_, ?_, ⟨_, _, hcomponents, hbindable⟩, ?_⟩, fun _ => ?_⟩
    · rw [hpaths.1]
      decide +kernel
    · rw [hpaths.2]
      decide +kernel
    · show Text.isPlain "id" = true
      decide +kernel
    · rw [hpaths.1]
      unfold FileSystem.Fits
      decide +kernel
    · rw [hpaths.1]
      exact fun text htext => absurd htext (hread text)
    · rw [hpaths.2]
      unfold FileSystem.Fits
      decide +kernel
  obtain ⟨o, ho, hpath⟩ := emitFile_returns formatTools brokenFile "lib/a.js" brokenProject rfl rfl rfl
    binaryProject_logsTo hfile fun _ => ⟨by unfold FileSystem.Fits; decide +kernel, ⟨["prettier"], rfl⟩,
      fun _ _ _ hdisrupted => (by cases hdisrupted), fun _ _ _ _ _ hended => (by cases hended)⟩
  have hstatus : (emitFile formatTools brokenFile brokenProject).1.toOption.map (fun o => o.status) =
      some .failed := by
    decide +kernel
  rw [ho] at hstatus
  exact ⟨o, ho, hpath, Option.some.inj hstatus⟩

/-- A file whose path has a null character. -/
def nullFile : FileNode where
  name := .str "a"
  fullPath := .str "a\x00"

/-- Settings and a structure document are accepted, and a file of the document has no outcome. -/
theorem emitFile_faults :
    ∃ settings inventory,
      Settings.build (copyTools {}).env layeredProject.files [] insideValues = .ok settings ∧
      Inventory.ofRecords 1000 (Inventory.toRecords [.file nullFile]) = .ok inventory ∧
      nullFile ∈ inventory.files ∧
      (emitFile { copyTools {} with
          settings := settings, formatter := Format.ofSettings (copyTools {}).env settings } nullFile
        { layeredProject with context := { inventory := inventory } }).1 =
          .error ⟨.badValue, "embedded null byte"⟩ := by
  refine ⟨_, [.file nullFile], build_insideValues, rfl, ?_, ?_⟩
  · simp [Inventory.files, Inventory.drain]
  · decide +kernel

end Emit

end JsxTagger
