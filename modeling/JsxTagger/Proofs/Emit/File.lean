import JsxTagger.Emit.File
import JsxTagger.Proofs.Instrument.Additions
import JsxTagger.Proofs.Run.State

/-!
# Files that are written

What is known of a file whose outcome says that it was written: it was copied, or it was read,
instrumented, formatted and written (`emitAt_written`).
-/

namespace JsxTagger.Emit

open Files

/-- A formatter that asks for the run to be cancelled changes nothing but the context. -/
theorem cancelled_cases (s : RunState) (cancels : Bool) :
    s.OnlyLogs (if cancels then s.inContext (·.cancel) else s) ∧
      (if cancels then s.inContext (·.cancel) else s).files = s.files ∧
      (if cancels then s.inContext (·.cancel) else s).drawn = s.drawn ∧
      ((if cancels then s.inContext (·.cancel) else s).context = s.context ∨
        (if cancels then s.inContext (·.cancel) else s).context = s.context.cancel) := by
  cases cancels with
  | false => exact ⟨.refl _, rfl, rfl, .inl rfl⟩
  | true => exact ⟨.inContext _ _, rfl, rfl, .inr rfl⟩

theorem draft_onlyLogs (tools : Tools) (rel : String) (source : Path) (s : RunState) :
    s.OnlyLogs (draft tools rel source s).2 := by
  rw [draft]
  dsimp only
  split
  · exact .of_files_eq rfl rfl rfl
  · split
    · exact .of_files_eq rfl rfl rfl
    · rename_i components context _
      split
      · exact .of_files_eq rfl rfl rfl
      · rename_i result drawn log _
        have hstate : s.OnlyLogs { s with reads := s.reads ++ [source], context, drawn } :=
          .of_files_eq rfl rfl rfl
        exact hstate.trans (.noteAll _ tools.env log)

theorem polish_onlyLogs (tools : Tools) (destination : Path) (result : Instrument.Instrumented)
    (s : RunState) : s.OnlyLogs (polish tools destination result s).2 :=
  (cancelled_cases s _).1

/-- Making a file ready changes no file but the log, whether it succeeds or not. -/
theorem prepare_onlyLogs (tools : Tools) (rel : String) (source destination : Path) (s : RunState) :
    s.OnlyLogs (prepare tools rel source destination s).2 := by
  have hdraft := draft_onlyLogs tools rel source s
  rw [prepare]
  split
  · rename_i heq
    rwa [heq] at hdraft
  · rename_i result mid heq
    rw [heq] at hdraft
    exact hdraft.trans (polish_onlyLogs tools destination result mid)

/-- A file that is ready was read and instrumented, and the result was formatted. -/
structure Prepares (tools : Tools) (rel : String) (source destination : Path) (s : RunState)
    (p : Prepared) (s' : RunState) : Prop where
  quiet : s.OnlyLogs s'
  drawn : ∃ text components context result log, tools.reader s.files source = .ok text ∧
    s.context.componentsFor (.str rel) = .ok (components, context) ∧
    Instrument.instrumentSource tools.env.workerRoom tools.env.parse tools.env.ids text components
      (some rel) s.drawn = .ok (result, s'.drawn, log) ∧
    result.edits = p.edits ∧ (tools.formatter s'.files result.text destination).result = .ok p.text ∧
    (s'.context = context ∨ s'.context = context.cancel)

theorem draft_eq_ok {tools : Tools} {rel : String} {source : Path} {s s' : RunState}
    {result : Instrument.Instrumented} (h : draft tools rel source s = (.ok result, s')) :
    s.OnlyLogs s' ∧ ∃ text components context log, tools.reader s.files source = .ok text ∧
      s.context.componentsFor (.str rel) = .ok (components, context) ∧
      Instrument.instrumentSource tools.env.workerRoom tools.env.parse tools.env.ids text components
        (some rel) s.drawn = .ok (result, s'.drawn, log) ∧ s'.context = context := by
  have hquiet := draft_onlyLogs tools rel source s
  rw [h] at hquiet
  rw [draft] at h
  dsimp only at h
  split at h
  · cases h
  · rename_i text htext
    split at h
    · cases h
    · rename_i components context hcomponents
      split at h
      · cases h
      · rename_i result drawn log hresult
        cases h
        refine ⟨hquiet, text, components, context, log, htext, hcomponents, ?_, RunState.noteAll_context _ _ _⟩
        rw [RunState.noteAll_drawn]
        exact hresult

theorem polish_eq_ok {tools : Tools} {destination : Path} {result : Instrument.Instrumented}
    {s s' : RunState} {p : Prepared} (h : polish tools destination result s = (.ok p, s')) :
    s.OnlyLogs s' ∧ s'.drawn = s.drawn ∧ result.edits = p.edits ∧
      (tools.formatter s'.files result.text destination).result = .ok p.text ∧
      (s'.context = s.context ∨ s'.context = s.context.cancel) := by
  obtain ⟨hreply, rfl⟩ := Prod.mk.inj h
  obtain ⟨hquiet, hfiles, hdrawn, hcontext⟩ :=
    cancelled_cases s (tools.formatter s.files result.text destination).cancels
  cases hformatted : (tools.formatter s.files result.text destination).result with
  | error t =>
    rw [hformatted] at hreply
    cases hreply
  | ok formatted =>
    rw [hformatted] at hreply
    cases hreply
    refine ⟨hquiet, hdrawn, rfl, ?_, hcontext⟩
    rw [hfiles]
    exact hformatted

theorem prepare_eq_ok {tools : Tools} {rel : String} {source destination : Path} {s s' : RunState}
    {p : Prepared} (h : prepare tools rel source destination s = (.ok p, s')) :
    Prepares tools rel source destination s p s' := by
  rw [prepare] at h
  split at h
  · cases h
  · rename_i result mid hdraft
    obtain ⟨hquiet, text, components, context, log, htext, hcomponents, hresult, rfl⟩ := draft_eq_ok hdraft
    obtain ⟨hquiet', hdrawn, hedits, hformatted, hcontext⟩ := polish_eq_ok h
    rw [← hdrawn] at hresult
    exact ⟨hquiet.trans hquiet', text, components, _, result, log, htext, hcomponents, hresult, hedits,
      hformatted, hcontext⟩

/-- A file that is in trouble is not written. -/
theorem settle_not_written {env : Environment} {rel : String} {t : Trouble} {s s' : RunState}
    {o : FileOutcome} (h : settle env rel t s = (.ok o, s')) : o.status.isWritten = false := by
  cases t with
  | failure f =>
    cases h
    rfl
  | fault fault => cases h

/-- The outcome of a file that was instrumented says so. -/
theorem instrumented_status {rel : String} {missing : List Json} {o : FileOutcome}
    (h : instrumented rel missing = .ok o) : o.status = .instrumented := by
  rw [instrumented] at h
  split at h
  · cases h
    rfl
  · obtain ⟨names, -, h⟩ := Except.bind_eq_ok.mp h
    cases h
    rfl

variable {tools : Tools} {rel : String} {source destination : Path} {s s' : RunState}
  {o : FileOutcome}

theorem copyOne_written (hsink : s.sink = .disk)
    (h : copyOne tools rel source destination s = (.ok o, s')) (hwritten : o.status.isWritten = true) :
    o.status = .copied ∧ ∃ fs, (copyFile source destination).run.run s.files = (.ok (), fs) ∧
      s' = s.landed destination fs := by
  rw [copyOne, RunState.copyFile, RunState.intoSink_of_disk hsink, RunState.putFile] at h
  rcases hcopy : (copyFile source destination).run.run s.files with ⟨t | ⟨⟨⟩⟩, fs⟩
  · rw [hcopy] at h
    rw [settle_not_written h] at hwritten
    cases hwritten
  · rw [hcopy] at h
    cases h
    exact ⟨rfl, fs, rfl, rfl⟩

theorem commit_written {p : Prepared} (hsink : s.sink = .disk)
    (h : commit tools rel source destination p s = (.ok o, s'))
    (hwritten : o.status.isWritten = true) :
    o.status = .instrumented ∧ s.context.cancelled = false ∧ ∃ fs record,
      (writeFile destination p.text (some source)).run.run s.files = (.ok (), fs) ∧
      s' = (s.landed destination fs).note tools.env record := by
  rw [commit] at h
  split at h
  · cases h
    cases hwritten
  · rename_i hcancelled
    rw [write, RunState.writeFile, RunState.intoSink_of_disk hsink, RunState.putFile] at h
    rcases hwrite : (writeFile destination p.text (some source)).run.run s.files with ⟨t | ⟨⟨⟩⟩, fs⟩
    · rw [hwrite] at h
      rw [settle_not_written h] at hwritten
      cases hwritten
    · rw [hwrite] at h
      obtain ⟨houtcome, rfl⟩ := Prod.mk.inj h
      exact ⟨instrumented_status houtcome, by simpa using hcancelled, fs, _, rfl, rfl⟩

/-- A file that was written was copied, or it was made ready and written. -/
theorem emitAt_written {f : FileNode} (hsink : s.sink = .disk)
    (h : emitAt tools f rel s = (.ok o, s')) (hwritten : o.status.isWritten = true) :
    (f.shouldInstrument = false ∧ o.status = .copied ∧ ∃ fs,
      (copyFile (tools.settings.inputRoot.join (Path.ofText rel))
        (tools.settings.outputRoot.join (Path.ofText rel))).run.run s.files = (.ok (), fs) ∧
      s' = s.landed (tools.settings.outputRoot.join (Path.ofText rel)) fs) ∨
    (f.shouldInstrument = true ∧ o.status = .instrumented ∧ ∃ p s₁ fs record,
      prepare tools rel (tools.settings.inputRoot.join (Path.ofText rel))
        (tools.settings.outputRoot.join (Path.ofText rel)) s = (.ok p, s₁) ∧
      s₁.context.cancelled = false ∧
      (writeFile (tools.settings.outputRoot.join (Path.ofText rel)) p.text
        (some (tools.settings.inputRoot.join (Path.ofText rel)))).run.run s₁.files = (.ok (), fs) ∧
      s' = (s₁.landed (tools.settings.outputRoot.join (Path.ofText rel)) fs).note tools.env record) := by
  rw [emitAt] at h
  split at h
  · cases h
    cases hwritten
  · split at h
    · rename_i hcopied
      obtain ⟨hstatus, fs, hcopy, rfl⟩ := copyOne_written hsink h hwritten
      exact .inl ⟨by simpa using hcopied, hstatus, fs, hcopy, rfl⟩
    · rename_i hinstrumented
      split at h
      · rw [settle_not_written h] at hwritten
        cases hwritten
      · rename_i p s₁ hprepare
        have hsink₁ : s₁.sink = .disk := (prepare_eq_ok hprepare).quiet.sink.trans hsink
        obtain ⟨hstatus, hcancelled, fs, record, hwrite, rfl⟩ := commit_written hsink₁ h hwritten
        exact .inr ⟨by simpa using hinstrumented, hstatus, p, s₁, fs, record, hprepare, hcancelled,
          hwrite, rfl⟩

end JsxTagger.Emit
