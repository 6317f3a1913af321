import JsxTagger.Proofs.Emit.File
import JsxTagger.Proofs.Instrument.Applicable

/-!
# Nothing of a file is lost

Instrumentation only adds to a file (`Instrument.Addition`), and what is emitted when nothing was
planned and the formatter changes nothing is the file itself (`emitted_unchanged`).
-/

namespace JsxTagger

open Files

namespace Emit

variable {tools : Tools} {f : FileNode} {rel : String} {source destination : Path}
  {s s₁ s' : RunState} {p : Prepared} {o : FileOutcome}

/-- A file without edits that no formatter changes is ready with the text it has. -/
theorem Prepares.text_eq (h : Prepares tools rel source destination s p s₁)
    (hformatter : tools.formatter = Format.unchanged) (hedits : p.edits = 0) :
    tools.reader s.files source = .ok p.text := by
  obtain ⟨text, components, context, result, log, hread, -, hresult, hcount, hreply, -⟩ := h.drawn
  have hsame := (Instrument.sublist_of_instrumentSource
    (fun tree => Syntax.SourceTree.source_of_parseWith) hresult).2.mpr (hcount.trans hedits)
  rw [hformatter, Format.unchanged] at hreply
  rw [← Except.ok.inj hreply, hsame]
  exact hread

/-- A file without edits that no formatter changes is emitted as it is. It lands where its path leads
once the directory it lies in was made; a link at the end of the path gives way to it, and so does the
log file, which is then written no more. -/
theorem emitted_unchanged (hreader : tools.reader = readText)
    (hformatter : tools.formatter = Format.unchanged) (hsink : s.sink = .disk)
    (hpath : f.fullPath = .str rel)
    (hprepare : prepare tools rel (tools.settings.inputRoot.join (Path.ofText rel))
      (tools.settings.outputRoot.join (Path.ofText rel)) s = (.ok p, s₁))
    (hedits : p.edits = 0) (hemit : emitFile tools f s = (.ok o, s'))
    (hstatus : o.status = .instrumented) :
    ∃ made at_ mode content,
      s.files.stat (tools.settings.inputRoot.join (Path.ofText rel)) = .ok (.file mode content) ∧
      (FileM.makeDirs (tools.settings.outputRoot.join (Path.ofText rel)).parent).run.run s₁.files =
        (.ok (), made) ∧
      made.locate (tools.settings.outputRoot.join (Path.ofText rel)) false = .ok at_ ∧
      ∃ mode', s'.files.get? at_ = some (.file mode' content) := by
  rw [emitFile, hpath] at hemit
  have hwritten : o.status.isWritten = true := by rw [hstatus]; rfl
  rcases emitAt_written hsink hemit hwritten with ⟨-, hcopied, -⟩ | ⟨-, -, q, s₂, fs, record, hq, -, hwrite, rfl⟩
  · rw [hstatus] at hcopied
    cases hcopied
  · rw [hprepare] at hq
    cases hq
    have hprepares := prepare_eq_ok hprepare
    have hread := hprepares.text_eq hformatter hedits
    rw [hreader] at hread
    obtain ⟨mode, hstat⟩ := readText_eq_ok hread
    obtain ⟨made, temporary, at_, mode', hreplaced, rfl⟩ := writeFile_eq_ok hwrite
    refine ⟨made, at_, mode, _, hstat, hreplaced.dirs, hreplaced.locate_made, mode', ?_⟩
    rw [(RunState.OnlyLogs.note _ tools.env record).elsewhere at_
      (RunState.logPlace_landed_ne _ hreplaced.landing)]
    exact (hreplaced.get?_final at_).trans (if_pos rfl)

/-- Instrumentation only adds text. Every edit of a run inserts some text, or puts text around a bare
parameter; the bytes of the source are a subsequence of those of the result, and the two are equal only
if there are no edits; and a file that is emitted without edits, by a formatter that changes nothing, is
the file itself. -/
theorem instrumentation_only_adds (room : Nat) (tree : Syntax.SourceTree) (ids : Instrument.IdStream)
    (cs : List Component) (drawn : Nat) (tools : Tools) (f : FileNode) (rel : String)
    (s s₁ s' : RunState) (p : Prepared) (o : FileOutcome) :
    (∀ g, Instrument.planAll room tree ids cs drawn = .ok g →
      ∀ e ∈ g.planner.plan.edits, Instrument.Addition tree.source tree.root e) ∧
    (∀ r n log, Instrument.run room tree ids cs drawn = .ok (r, n, log) →
      tree.source.Sublist (Bytes.ofText r.text) ∧
        (Bytes.ofText r.text = tree.source ↔ r.edits = 0)) ∧
    (tools.reader = readText → tools.formatter = Format.unchanged → s.sink = .disk →
      f.fullPath = .str rel →
      prepare tools rel (tools.settings.inputRoot.join (Path.ofText rel))
        (tools.settings.outputRoot.join (Path.ofText rel)) s = (.ok p, s₁) →
      p.edits = 0 → emitFile tools f s = (.ok o, s') → o.status = .instrumented →
      ∃ made at_ mode content,
        s.files.stat (tools.settings.inputRoot.join (Path.ofText rel)) = .ok (.file mode content) ∧
        (FileM.makeDirs (tools.settings.outputRoot.join (Path.ofText rel)).parent).run.run s₁.files =
          (.ok (), made) ∧
        made.locate (tools.settings.outputRoot.join (Path.ofText rel)) false = .ok at_ ∧
        ∃ mode', s'.files.get? at_ = some (.file mode' content)) :=
  ⟨fun _ hplan => Instrument.planAll_onlyAdds hplan, fun _ _ _ hrun => Instrument.sublist_of_run hrun,
    emitted_unchanged⟩

/-- Tools without a formatter. -/
def plainTools : Tools where
  env := bareEnvironment
  settings := { inputRoot := ⟨.root, ["app"]⟩, outputRoot := ⟨.root, ["out"]⟩ }
  formatter := Format.unchanged

/-- A file that starts with a byte order mark and has lines that end with two characters. -/
def markedFile : FileNode where
  name := .str "a.js"
  fullPath := .str "a.js"
  process := true
  containsJsx := true
  components := [{ name := .str "A", kind := .functional }]

/-- A run whose inventory does not know the components of `markedFile`. -/
def markedState : RunState where
  files := { entries :=
    [(["app"], .directory),
     (["app", "a.js"], .file 0o640 (Bytes.ofText "\uFEFFlet é\r\n"))] }

/-- The text of `bareArrow` once it is instrumented. -/
def instrumentedArrow : String :=
  "const Ä = (props, x) => <b pc_el_id=\"id\" pc_comp_name=\"Ä\" pc_comp_ref_id=\x7bprops.pc_el_id\x7d />"

/-- An arrow function gets a parameter and two attributes, and a file that is marked but not known to
hold anything is emitted as it is. -/
theorem instrumentation_only_adds_bareArrow :
    (∃ g, Instrument.planAll 100 Instrument.bareArrow (fun _ => "id")
        (Classify.classifyComponents Instrument.bareArrow) = .ok g ∧
      g.planner.plan.length = 3 ∧
      ∀ e ∈ g.planner.plan.edits,
        Instrument.Addition Instrument.bareArrow.source Instrument.bareArrow.root e) ∧
    (∃ r n log, Instrument.run 100 Instrument.bareArrow (fun _ => "id")
        (Classify.classifyComponents Instrument.bareArrow) = .ok (r, n, log) ∧
      Instrument.bareArrow.source.Sublist (Bytes.ofText r.text) ∧
      Bytes.ofText r.text ≠ Instrument.bareArrow.source) ∧
    ∃ p s₁ o s', prepare plainTools "a.js" ⟨.root, ["app", "a.js"]⟩ ⟨.root, ["out", "a.js"]⟩
        markedState = (.ok p, s₁) ∧ p.edits = 0 ∧
      emitFile plainTools markedFile markedState = (.ok o, s') ∧ o.status = .instrumented ∧
      ∃ made at_ mode content,
        markedState.files.stat ⟨.root, ["app", "a.js"]⟩ = .ok (.file mode content) ∧
        (FileM.makeDirs ⟨.root, ["out"]⟩).run.run s₁.files = (.ok (), made) ∧
        made.locate ⟨.root, ["out", "a.js"]⟩ false = .ok at_ ∧
        ∃ mode', s'.files.get? at_ = some (.file mode' content) := by
  have hadds := fun s₁ s' p o => instrumentation_only_adds 100 Instrument.bareArrow (fun _ => "id")
    (Classify.classifyComponents Instrument.bareArrow) 0 plainTools markedFile "a.js" markedState
    s₁ s' p o
  have hplan : ((Instrument.planAll 100 Instrument.bareArrow (fun _ => "id")
      (Classify.classifyComponents Instrument.bareArrow)).toOption.map
        fun g => g.planner.plan.edits) = some [
          ⟨11, 12, "(props, x)", 0⟩, ⟨18, 18, " pc_el_id=\"id\"", 1⟩,
          ⟨18, 18, " pc_comp_name=\"Ä\" pc_comp_ref_id=\x7bprops.pc_el_id\x7d", 2⟩] := by
    decide +kernel
  obtain ⟨g, hg, hedits, hordered⟩ :=
    Instrument.exists_ordered _ hplan (by decide +kernel)
  have hpaths : plainTools.settings.inputRoot.join (Path.ofText "a.js") = ⟨.root, ["app", "a.js"]⟩ ∧
      plainTools.settings.outputRoot.join (Path.ofText "a.js") = ⟨.root, ["out", "a.js"]⟩ := by
    decide +kernel
  have hprepare : ((prepare plainTools "a.js" ⟨.root, ["app", "a.js"]⟩ ⟨.root, ["out", "a.js"]⟩
      markedState).1.toOption.map fun p => p.edits) = some 0 := by
    decide +kernel
  have hemit : (emitFile plainTools markedFile markedState).1.toOption.map
      (fun o => o.status) = some .instrumented := by
    decide +kernel
  have hjoin : Edit.Plan.join Instrument.bareArrow.source 0 g.planner.plan.ordered =
      .ok (Bytes.ofText instrumentedArrow) := by
    rw [hordered]
    decide +kernel
  have happly : g.planner.plan.apply Instrument.bareArrow.source = .ok instrumentedArrow := by
    rw [Edit.Plan.apply, Edit.Plan.applyBytes, hjoin]
    simp only [bind, Except.bind, Bytes.text?_ofText]
  have hlength : g.planner.plan.length = 3 := by rw [Edit.Plan.length, hedits]; rfl
  rcases hp : prepare plainTools "a.js" ⟨.root, ["app", "a.js"]⟩ ⟨.root, ["out", "a.js"]⟩ markedState
    with ⟨t | p, s₁⟩
  · rw [hp] at hprepare
    cases hprepare
  · rcases ho : emitFile plainTools markedFile markedState with ⟨fault | o, s'⟩
    · rw [ho] at hemit
      cases hemit
    · rw [hp] at hprepare
      rw [ho] at hemit
      have hcount : p.edits = 0 := Option.some.inj hprepare
      have hstatus : o.status = .instrumented := Option.some.inj hemit
      obtain ⟨hadditions, hrun, hfile⟩ := hadds s₁ s' p o
      rw [hpaths.1, hpaths.2] at hfile
      have hran : Instrument.run 100 Instrument.bareArrow (fun _ => "id")
          (Classify.classifyComponents Instrument.bareArrow) = .ok
            (⟨instrumentedArrow, g.planner.plan.length, g.bound, g.missing, g.nested⟩, g.planner.drawn, g.log) := by
        rw [Instrument.run, hg]
        simp only [bind, Except.bind, happly]
      obtain ⟨hsub, hsame⟩ := hrun _ _ _ hran
      refine ⟨⟨g, hg, hlength, hadditions g hg⟩, ⟨_, _, _, hran, hsub, fun heq => ?_⟩,
        p, s₁, o, s', rfl, hcount, rfl, hstatus, hfile rfl rfl rfl rfl hp hcount ho hstatus⟩
      have hnone := hsame.mp heq
      rw [hlength] at hnone
      cases hnone

end Emit

end JsxTagger
