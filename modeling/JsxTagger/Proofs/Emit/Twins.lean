import JsxTagger.Proofs.Emit.Schedules
import JsxTagger.Proofs.Instrument.Streams

/-!
# What emission looks at

Emission looks at the files, at the ids that it draws, and of the context at the inventory, at what is looked
up in it and at whether the run was cancelled. Two runs that have these in common are twins (`Twins`). Every
step of emission does the same to twins and leaves twins behind; so whole runs do (`emitProject_twins`), and so
does a pool of workers, whatever its schedule (`follow_twins`): the same can come of it (`yields_twins`).
-/

namespace JsxTagger

/-! ## Contexts -/

/-- Two contexts with the same inventory, in which the same is looked up. What could not be scanned may
differ. -/
structure RunContext.Matches (c c' : RunContext) : Prop where
  inventory : c'.inventory = c.inventory
  rootFiles : c'.rootFiles = c.rootFiles
  cancelled : c'.cancelled = c.cancelled
  indexed : c'.indexed = c.indexed

namespace RunContext.Matches

variable {c c' : RunContext}

theorem symm (h : c.Matches c') : c'.Matches c :=
  ⟨h.inventory.symm, h.rootFiles.symm, h.cancelled.symm, h.indexed.symm⟩

/-- Contexts without an index match if they have the same inventory. -/
theorem of_index_none (hinventory : c'.inventory = c.inventory) (hroots : c'.rootFiles = c.rootFiles)
    (hcancelled : c'.cancelled = c.cancelled) (hindex : c.index = none) (hindex' : c'.index = none) :
    c.Matches c' := by
  refine ⟨hinventory, hroots, hcancelled, ?_⟩
  rw [RunContext.indexed, RunContext.indexed, hindex, hindex', RunContext.files, RunContext.files, hinventory]

theorem cancel (h : c.Matches c') : c.cancel.Matches c'.cancel :=
  ⟨h.inventory, h.rootFiles, rfl, h.indexed⟩

/-- A path leads to the same file in both contexts, or it cannot be looked up in either. -/
theorem findFile (h : c.Matches c') (path : Json) :
    (∃ fault, c.findFile path = .error fault ∧ c'.findFile path = .error fault) ∨
      ∃ found d d', c.findFile path = .ok (found, d) ∧ c'.findFile path = .ok (found, d') ∧ d.Matches d' := by
  rw [RunContext.findFile, RunContext.findFile, h.indexed]
  cases c.indexed with
  | error fault => exact .inl ⟨fault, rfl, rfl⟩
  | ok files =>
    dsimp only
    split
    · exact .inr ⟨_, _, _, rfl, rfl, h.inventory, h.rootFiles, h.cancelled, rfl⟩
    · exact .inl ⟨_, rfl, rfl⟩

theorem componentsFor (h : c.Matches c') (path : Json) :
    (∃ fault, c.componentsFor path = .error fault ∧ c'.componentsFor path = .error fault) ∨
      ∃ components d d', c.componentsFor path = .ok (components, d) ∧
        c'.componentsFor path = .ok (components, d') ∧ d.Matches d' := by
  rw [RunContext.componentsFor, RunContext.componentsFor]
  rcases h.findFile path with ⟨fault, hfirst, hsecond⟩ | ⟨found, d, d', hfirst, hsecond, hmatches⟩
  · rw [hfirst, hsecond]
    exact .inl ⟨fault, rfl, rfl⟩
  · rw [hfirst, hsecond]
    exact .inr ⟨_, d, d', rfl, rfl, hmatches⟩

/-- What is looked up in contexts that match. -/
theorem answers (h : c.Matches c') (path : Json) :
    (c'.findFile path).map Prod.fst = (c.findFile path).map Prod.fst ∧
      (c'.componentsFor path).map Prod.fst = (c.componentsFor path).map Prod.fst := by
  constructor
  · rcases h.findFile path with ⟨fault, hfirst, hsecond⟩ | ⟨found, d, d', hfirst, hsecond, -⟩
    · rw [hfirst, hsecond]
    · rw [hfirst, hsecond]
      rfl
  · rcases h.componentsFor path with ⟨fault, hfirst, hsecond⟩ | ⟨components, d, d', hfirst, hsecond, -⟩
    · rw [hfirst, hsecond]
    · rw [hfirst, hsecond]
      rfl

end RunContext.Matches

namespace Emit

open Files Instrument

/-! ## Runs -/

/-- Two runs that emission cannot tell apart. They count the ids that they draw from `start` and `start'`. -/
structure Twins (start start' : Nat) (s s' : RunState) : Prop where
  files : s'.files = s.files
  logging : s'.logging = s.logging
  sink : s'.sink = s.sink
  context : s.context.Matches s'.context
  drawn : ∃ n, s.drawn = start + n ∧ s'.drawn = start' + n

/-- The same result, and twins afterwards. -/
def Twinned {α : Type} (start start' : Nat) (r r' : α × RunState) : Prop :=
  r'.1 = r.1 ∧ Twins start start' r.2 r'.2

variable {start start' : Nat} {s s' : RunState}

namespace Twins

theorem symm (h : Twins start start' s s') : Twins start' start s' s :=
  ⟨h.files.symm, h.logging.symm, h.sink.symm, h.context.symm, h.drawn.imp fun _ hn => hn.symm⟩

theorem note (h : Twins start start' s s') (env : Environment) (ids : IdStream) (r : Log.Record) :
    Twins start start' (s.note env r) (s'.note { env with ids } r) := by
  refine ⟨?_, h.logging, h.sink, h.context, h.drawn⟩
  rw [RunState.note, RunState.note, h.files, h.logging]

theorem noteAll (h : Twins start start' s s') (env : Environment) (ids : IdStream) (rs : List Log.Record) :
    Twins start start' (s.noteAll env rs) (s'.noteAll { env with ids } rs) := by
  induction rs generalizing s s' with
  | nil => exact h
  | cons r rs ih => exact ih (h.note env ids r)

theorem report (h : Twins start start' s s') (e : Progress.Event) :
    Twins start start' (s.report e) (s'.report e) := ⟨h.files, h.logging, h.sink, h.context, h.drawn⟩

theorem cancel (h : Twins start start' s s') :
    Twins start start' (s.inContext (·.cancel)) (s'.inContext (·.cancel)) :=
  ⟨h.files, h.logging, h.sink, h.context.cancel, h.drawn⟩

theorem access (h : Twins start start' s s') (m : AccessM Unit) :
    Twinned start start' (s.access m) (s'.access m) := by
  rw [RunState.access, RunState.access, h.files]
  exact ⟨rfl, rfl, h.logging, h.sink, h.context, h.drawn⟩

theorem putFile (h : Twins start start' s s') (destination : Path) (m : AccessM Unit) :
    Twinned start start' (s.putFile destination m) (s'.putFile destination m) := by
  rw [RunState.putFile, RunState.putFile, h.files]
  split
  · refine ⟨rfl, rfl, ?_, h.sink, h.context, h.drawn⟩
    rw [RunState.landed, RunState.landed, h.logging, h.files]
  · exact ⟨rfl, rfl, h.logging, h.sink, h.context, h.drawn⟩

theorem intoSink (h : Twins start start' s s') {onDisk : RunState → Except Trouble Unit × RunState}
    (hdisk : Twinned start start' (onDisk s) (onDisk s'))
    (inMemory : MemoryWriter → Except Failure MemoryWriter) :
    Twinned start start' (s.intoSink onDisk inMemory) (s'.intoSink onDisk inMemory) := by
  cases hsink : s.sink with
  | disk =>
    rwa [RunState.intoSink_of_disk hsink, RunState.intoSink_of_disk (h.sink.trans hsink)]
  | memory writer =>
    rw [RunState.intoSink_of_memory hsink, RunState.intoSink_of_memory (h.sink.trans hsink)]
    cases inMemory writer with
    | ok writer => exact ⟨rfl, h.files, h.logging, rfl, h.context, h.drawn⟩
    | error f => exact ⟨rfl, h⟩

theorem writeFile (h : Twins start start' s s') (destination : Path) (text : String) (modeFrom : Path) :
    Twinned start start' (s.writeFile destination text modeFrom) (s'.writeFile destination text modeFrom) :=
  h.intoSink (h.putFile destination _) _

theorem copyFile (h : Twins start start' s s') (source destination : Path) :
    Twinned start start' (s.copyFile source destination) (s'.copyFile source destination) :=
  h.intoSink (h.putFile destination _) _

theorem makeDirs (h : Twins start start' s s') (p : Path) :
    Twinned start start' (s.makeDirs p) (s'.makeDirs p) :=
  h.intoSink (h.access _) _

end Twins

/-- Twin results are both faults, or both values. -/
theorem Twinned.cases {ε α : Type} {r r' : Except ε α × RunState} (h : Twinned start start' r r') :
    (∃ e s s', r = (.error e, s) ∧ r' = (.error e, s') ∧ Twins start start' s s') ∨
      ∃ a s s', r = (.ok a, s) ∧ r' = (.ok a, s') ∧ Twins start start' s s' := by
  obtain ⟨result, s⟩ := r
  obtain ⟨result', s'⟩ := r'
  obtain ⟨rfl, htwins⟩ := h
  cases result' with
  | error e => exact .inl ⟨e, s, s', rfl, rfl, htwins⟩
  | ok a => exact .inr ⟨a, s, s', rfl, rfl, htwins⟩

@[simp]
theorem Tools.withIds_settings (tools : Tools) (ids : IdStream) :
    (tools.withIds ids).settings = tools.settings := rfl

/-! ## Files -/

section Steps

variable {tools : Tools} {ids : IdStream}

theorem settle_twins (h : Twins start start' s s') (env : Environment) (ids : IdStream) (rel : String)
    (t : Trouble) : Twinned start start' (settle env rel t s) (settle { env with ids } rel t s') := by
  cases t with
  | failure f => exact ⟨rfl, h.note env ids _⟩
  | fault fault => exact ⟨rfl, h⟩

theorem copyOne_twins (h : Twins start start' s s') (tools : Tools) (ids : IdStream) (rel : String)
    (source destination : Path) :
    Twinned start start' (copyOne tools rel source destination s)
      (copyOne (tools.withIds ids) rel source destination s') := by
  rw [copyOne, copyOne]
  rcases (h.copyFile source destination).cases with
    ⟨t, u, u', hfirst, hsecond, htwins⟩ | ⟨_, u, u', hfirst, hsecond, htwins⟩
  · rw [hfirst, hsecond]
    exact settle_twins htwins tools.env ids rel t
  · rw [hfirst, hsecond]
    exact ⟨rfl, htwins⟩

/-- A file is instrumented in the same way. -/
theorem draft_twins (h : Twins start start' s s') (hids : ids.after start' = IdStream.after tools.env.ids start)
    (rel : String) (source : Path) :
    Twinned start start' (draft tools rel source s) (draft (tools.withIds ids) rel source s') := by
  obtain ⟨n, hn, hn'⟩ := h.drawn
  have hread : (tools.withIds ids).reader s'.files source = tools.reader s.files source := by
    rw [h.files]
    rfl
  rw [draft, draft]
  dsimp only
  rw [hread]
  cases tools.reader s.files source with
  | error t => exact ⟨rfl, h.files, h.logging, h.sink, h.context, h.drawn⟩
  | ok text =>
    dsimp only
    rcases h.context.componentsFor (.str rel) with
      ⟨fault, hfirst, hsecond⟩ | ⟨components, d, d', hfirst, hsecond, hmatches⟩
    · rw [hfirst, hsecond]
      exact ⟨rfl, h.files, h.logging, h.sink, h.context, h.drawn⟩
    · rw [hfirst, hsecond]
      dsimp only
      obtain ⟨result, hrun, hrun'⟩ :=
        instrumentSource_streams hids tools.env.parse text components (some rel) n
      rw [hn, hn', hrun, parse_withIds, show instrumentSource (tools.withIds ids).env.workerRoom _
        (tools.withIds ids).env.ids _ _ _ _ = _ from hrun']
      cases result with
      | error e => exact ⟨rfl, h.files, h.logging, h.sink, hmatches, n, rfl, rfl⟩
      | ok result =>
        refine ⟨rfl, Twins.noteAll ?_ tools.env ids result.2.2⟩
        exact ⟨h.files, h.logging, h.sink, hmatches, result.2.1, rfl, rfl⟩

theorem polish_twins (h : Twins start start' s s') (tools : Tools) (ids : IdStream) (destination : Path)
    (result : Instrumented) :
    Twinned start start' (polish tools destination result s)
      (polish (tools.withIds ids) destination result s') := by
  rw [polish, polish]
  simp only [Tools.withIds, h.files]
  refine ⟨rfl, ?_⟩
  cases (tools.formatter s.files result.text destination).cancels with
  | true => exact h.cancel
  | false => exact h

theorem write_twins (h : Twins start start' s s') (tools : Tools) (ids : IdStream) (rel : String)
    (source destination : Path) (p : Prepared) :
    Twinned start start' (write tools rel source destination p s)
      (write (tools.withIds ids) rel source destination p s') := by
  rw [write, write]
  rcases (h.writeFile destination p.text source).cases with
    ⟨t, u, u', hfirst, hsecond, htwins⟩ | ⟨_, u, u', hfirst, hsecond, htwins⟩
  · rw [hfirst, hsecond]
    exact settle_twins htwins tools.env ids rel t
  · rw [hfirst, hsecond]
    exact ⟨rfl, htwins.note tools.env ids _⟩

theorem prepare_twins (h : Twins start start' s s')
    (hids : ids.after start' = IdStream.after tools.env.ids start) (rel : String) (source destination : Path) :
    Twinned start start' (prepare tools rel source destination s)
      (prepare (tools.withIds ids) rel source destination s') := by
  rw [prepare, prepare]
  rcases (draft_twins h hids rel source).cases with
    ⟨t, u, u', hfirst, hsecond, htwins⟩ | ⟨result, u, u', hfirst, hsecond, htwins⟩
  · rw [hfirst, hsecond]
    exact ⟨rfl, htwins⟩
  · rw [hfirst, hsecond]
    exact polish_twins htwins tools ids destination result

theorem commit_twins (h : Twins start start' s s') (tools : Tools) (ids : IdStream) (rel : String)
    (source destination : Path) (p : Prepared) :
    Twinned start start' (commit tools rel source destination p s)
      (commit (tools.withIds ids) rel source destination p s') := by
  rw [commit, commit, h.context.cancelled]
  split
  · exact ⟨rfl, h⟩
  · exact write_twins h tools ids rel source destination p

theorem emitAt_twins (h : Twins start start' s s')
    (hids : ids.after start' = IdStream.after tools.env.ids start) (f : FileNode) (rel : String) :
    Twinned start start' (emitAt tools f rel s) (emitAt (tools.withIds ids) f rel s') := by
  rw [emitAt, emitAt, Tools.withIds_settings, h.context.cancelled]
  split
  · exact ⟨rfl, h⟩
  · split
    · exact copyOne_twins h tools ids rel _ _
    · rcases (prepare_twins h hids rel (tools.settings.inputRoot.join (Path.ofText rel))
        (tools.settings.outputRoot.join (Path.ofText rel))).cases with
        ⟨t, u, u', hfirst, hsecond, htwins⟩ | ⟨p, u, u', hfirst, hsecond, htwins⟩
      · rw [hfirst, hsecond]
        exact settle_twins htwins tools.env ids rel t
      · rw [hfirst, hsecond]
        exact commit_twins htwins tools ids rel _ _ p

theorem emitFile_twins (h : Twins start start' s s')
    (hids : ids.after start' = IdStream.after tools.env.ids start) (f : FileNode) :
    Twinned start start' (emitFile tools f s) (emitFile (tools.withIds ids) f s') := by
  rw [emitFile, emitFile, Tools.withIds_settings]
  split
  · exact emitAt_twins h hids f _
  · split
    · exact ⟨rfl, h⟩
    · exact ⟨rfl, h⟩

/-! ## Projects -/

theorem collect_twins (h : Twins start start' s s') (tools : Tools) (ids : IdStream) (c : Collected)
    (o : FileOutcome) :
    Twinned start start' (collect tools c o s) (collect (tools.withIds ids) c o s') := by
  have hreported := h.report (.update (some 1))
  rw [collect, collect, Tools.withIds_settings, hreported.context.cancelled]
  split
  · exact ⟨rfl, (hreported.note tools.env ids _).cancel⟩
  · exact ⟨rfl, hreported⟩

theorem emitNext_twins (h : Twins start start' s s')
    (hids : ids.after start' = IdStream.after tools.env.ids start) (c : Collected) (f : FileNode) :
    Twinned start start' (emitNext tools (c, s) f) (emitNext (tools.withIds ids) (c, s') f) := by
  rw [emitNext, emitNext]
  split
  · exact collect_twins h tools ids c _
  · rcases (emitFile_twins h hids f).cases with
      ⟨fault, u, u', hfirst, hsecond, htwins⟩ | ⟨o, u, u', hfirst, hsecond, htwins⟩
    · rw [hfirst, hsecond]
      cases c.fault <;> exact ⟨rfl, htwins⟩
    · rw [hfirst, hsecond]
      cases c.fault with
      | some fault => exact ⟨rfl, htwins⟩
      | none => exact collect_twins htwins tools ids c o

theorem foldl_emitNext_twins (h : Twins start start' s s')
    (hids : ids.after start' = IdStream.after tools.env.ids start) (c : Collected) (files : List FileNode) :
    Twinned start start' (files.foldl (emitNext tools) (c, s))
      (files.foldl (emitNext (tools.withIds ids)) (c, s')) := by
  induction files generalizing c s s' with
  | nil =>
    rw [List.foldl_nil, List.foldl_nil]
    exact ⟨rfl, h⟩
  | cons f files ih =>
    rw [List.foldl_cons, List.foldl_cons]
    have hnext := emitNext_twins h hids c f
    rcases hfirst : emitNext tools (c, s) f with ⟨d, u⟩
    rcases hsecond : emitNext (tools.withIds ids) (c, s') f with ⟨d', u'⟩
    rw [hfirst, hsecond] at hnext
    obtain ⟨rfl, htwins⟩ := hnext
    exact ih htwins _

theorem makeAll_twins (h : Twins start start' s s') (ps : List Path) :
    Twinned start start' (makeAll ps s) (makeAll ps s') := by
  induction ps generalizing s s' with
  | nil => exact ⟨rfl, h⟩
  | cons p ps ih =>
    rw [makeAll, makeAll]
    rcases (h.makeDirs p).cases with
      ⟨t, u, u', hfirst, hsecond, htwins⟩ | ⟨_, u, u', hfirst, hsecond, htwins⟩
    · rw [hfirst, hsecond]
      exact ⟨rfl, htwins⟩
    · rw [hfirst, hsecond]
      exact ih htwins

/-- Twins make the same directories, and let the same files wait. -/
theorem openPool_twins (h : Twins start start' s s') (tools : Tools) (ids : IdStream) :
    (∃ t u u', openPool tools s = (.error t, u) ∧ openPool (tools.withIds ids) s' = (.error t, u') ∧
        Twins start start' u u') ∨
      ∃ files u u', openPool tools s = (.ok (.ofFiles files u), u) ∧
        openPool (tools.withIds ids) s' = (.ok (.ofFiles files u'), u') ∧ Twins start start' u u' := by
  rw [openPool_withIds, openPool, openPool, h.context.inventory]
  cases layout (tools.env.room - 1) {} s.context.inventory with
  | error fault => exact .inl ⟨_, s, s', rfl, rfl, h⟩
  | ok found =>
    dsimp only
    rcases (makeAll_twins h (tools.settings.outputRoot ::
      found.1.map tools.settings.outputRoot.join)).cases with
      ⟨t, u, u', hfirst, hsecond, htwins⟩ | ⟨_, u, u', hfirst, hsecond, htwins⟩
    · rw [hfirst, hsecond]
      exact .inl ⟨t, u, u', rfl, rfl, htwins⟩
    · rw [hfirst, hsecond]
      exact .inr ⟨found.2, _, _, rfl, rfl, htwins.report _⟩

/-- What a run of emission is told apart by: the outcomes and the files that mount an application, or why
there is no report, and where the copy went. -/
def yield (r : Except Trouble RunReport × RunState) :
    Except Trouble (List FileOutcome × List String) × FileSystem × Sink :=
  (r.1.map fun report => (report.outcomes, report.rootFiles), r.2.files, r.2.sink)

theorem yield_error (h : Twins start start' s s') (t : Trouble) :
    yield (.error t, s') = yield (.error t, s) := by
  rw [yield, yield, h.files, h.sink]

theorem yield_report (h : Twins start start' s s') (outcomes : List FileOutcome) :
    yield (.ok (reportOf outcomes s'.context), s'.report (completion outcomes)) =
      yield (.ok (reportOf outcomes s.context), s.report (completion outcomes)) := by
  have hreported := h.report (completion outcomes)
  rw [yield, yield, hreported.files, hreported.sink]
  simp only [Except.map, reportOf, h.context.rootFiles]

/-- Twins emit a project in the same way. -/
theorem emitProject_twins (h : Twins start start' s s')
    (hids : ids.after start' = IdStream.after tools.env.ids start) :
    yield (emitProject (tools.withIds ids) s') = yield (emitProject tools s) := by
  rw [emitProject_eq_openPool, emitProject_eq_openPool]
  rcases openPool_twins h tools ids with
    ⟨t, u, u', hfirst, hsecond, htwins⟩ | ⟨files, u, u', hfirst, hsecond, htwins⟩
  · rw [hfirst, hsecond]
    exact yield_error htwins t
  · rw [hfirst, hsecond]
    dsimp only
    rw [show (Pool.ofFiles files u').tasks = (Pool.ofFiles files u).tasks from rfl]
    generalize (Pool.ofFiles files u).tasks.map (·.file) = waiting
    have hfold := foldl_emitNext_twins htwins hids {} waiting
    rcases hleft : waiting.foldl (emitNext tools) ({}, u) with ⟨c, v⟩
    rcases hright : waiting.foldl (emitNext (tools.withIds ids)) ({}, u') with ⟨c', v'⟩
    rw [hleft, hright] at hfold
    obtain ⟨rfl, hends⟩ := hfold
    dsimp only
    cases c'.fault with
    | some fault => exact yield_error hends _
    | none => exact yield_report hends _

/-! ## Pools -/

/-- Two pools whose runs emission cannot tell apart. -/
structure Pool.Twins (start start' : Nat) (p p' : Pool) : Prop where
  tasks : p'.tasks = p.tasks
  collected : p'.collected = p.collected
  pending : p'.pending = p.pending
  run : Emit.Twins start start' p.run p'.run

/-- Both go on and are twins afterwards, or neither goes on. -/
def Abreast (start start' : Nat) : Option (Phase × RunState) → Option (Phase × RunState) → Prop
  | some r, some r' => Twinned start start' r r'
  | none, none => True
  | _, _ => False

theorem Abreast.of_some {next : Phase} {u : RunState} {r' : Option (Phase × RunState)}
    (h : Abreast start start' (some (next, u)) r') :
    ∃ u', r' = some (next, u') ∧ Twins start start' u u' := by
  cases r' with
  | none => cases h
  | some r' => exact ⟨r'.2, congrArg some (Prod.ext h.1 rfl), h.2⟩

theorem endWith_twins {r r' : Except Fault FileOutcome × RunState} (h : Twinned start start' r r') :
    Twinned start start' (endWith r) (endWith r') :=
  ⟨congrArg Phase.ended h.1, h.2⟩

/-- A worker takes the same step with its file. -/
theorem advance_twins (h : Twins start start' s s')
    (hids : ids.after start' = IdStream.after tools.env.ids start) (f : FileNode) (phase : Phase) :
    Abreast start start' (advance tools f s phase) (advance (tools.withIds ids) f s' phase) := by
  -- a cancellation is seen by both or by neither
  have hcancel (r r' : Phase) : Abreast start start' (if s.context.cancelled then some (r, s) else some (r', s))
      (if s'.context.cancelled then some (r, s') else some (r', s')) := by
    rw [h.context.cancelled]
    split
    · exact ⟨rfl, h⟩
    · exact ⟨rfl, h⟩
  cases phase with
  | begun =>
    rw [advance, advance]
    split
    · exact hcancel _ _
    · exact endWith_twins (emitFile_twins h hids f)
  | checked rel =>
    rw [advance, advance, Tools.withIds_settings]
    split
    · exact endWith_twins (copyOne_twins h tools ids rel _ _)
    · rcases (draft_twins h hids rel (tools.settings.inputRoot.join (Path.ofText rel))).cases with
        ⟨t, u, u', hfirst, hsecond, htwins⟩ | ⟨result, u, u', hfirst, hsecond, htwins⟩
      · rw [hfirst, hsecond]
        exact endWith_twins (settle_twins htwins tools.env ids rel t)
      · rw [hfirst, hsecond]
        exact ⟨rfl, htwins⟩
  | drafted rel result =>
    rw [advance, advance, Tools.withIds_settings]
    rcases (polish_twins h tools ids (tools.settings.outputRoot.join (Path.ofText rel)) result).cases with
      ⟨t, u, u', hfirst, hsecond, htwins⟩ | ⟨p, u, u', hfirst, hsecond, htwins⟩
    · rw [hfirst, hsecond]
      exact endWith_twins (settle_twins htwins tools.env ids rel t)
    · rw [hfirst, hsecond]
      exact ⟨rfl, htwins⟩
  | polished rel p =>
    rw [advance, advance]
    exact hcancel _ _
  | ready rel p => exact endWith_twins (write_twins h tools ids rel _ _ p)
  | queued => exact trivial
  | dropped => exact trivial
  | ended result => exact trivial
  | collected o => exact trivial

namespace Pool.Twins

variable {p p' q : Pool}

theorem move (h : Twins start start' p p') (i : Nat) (phase : Phase) :
    Twins start start' (p.move i phase) (p'.move i phase) :=
  ⟨by rw [Pool.move, Pool.move, h.tasks], h.collected, h.pending, h.run⟩

theorem takeIn (h : Twins start start' p p') (i : Nat) (result : Except Fault FileOutcome) :
    Twins start start' (p.takeIn tools i result) (p'.takeIn (tools.withIds ids) i result) := by
  cases result with
  | error fault =>
    rw [Pool.takeIn, Pool.takeIn, h.collected]
    exact ⟨h.tasks, rfl, h.pending, h.run⟩
  | ok o =>
    rw [Pool.takeIn, Pool.takeIn, h.collected, h.tasks]
    have hcollect := collect_twins h.run tools ids p.collected o
    rcases hleft : collect tools p.collected o p.run with ⟨c, u⟩
    rcases hright : collect (tools.withIds ids) p.collected o p'.run with ⟨c', u'⟩
    rw [hleft, hright] at hcollect
    obtain ⟨rfl, htwins⟩ := hcollect
    exact ⟨(h.move i _).tasks, rfl, rfl, htwins⟩

/-- What can happen in a pool can happen in its twin. -/
theorem step (h : Twins start start' p p') (hids : ids.after start' = IdStream.after tools.env.ids start)
    {workers : Nat} {action : Action} (hstep : p.step tools workers action = some q) :
    ∃ q', p'.step (tools.withIds ids) workers action = some q' ∧ Twins start start' q q' := by
  cases action with
  | take i =>
    rw [Pool.step] at hstep ⊢
    obtain ⟨t, ht, hstep⟩ := Option.bind_eq_some_iff.mp hstep
    rw [h.tasks, ht, Option.bind_eq_bind, Option.bind_some, running, h.tasks]
    split at hstep
    · rename_i hfree
      cases hstep
      exact ⟨_, if_pos hfree, h.move i .begun⟩
    · cases hstep
  | work i =>
    rw [Pool.step] at hstep ⊢
    obtain ⟨t, ht, hstep⟩ := Option.bind_eq_some_iff.mp hstep
    obtain ⟨⟨phase, u⟩, hadvance, hstep⟩ := Option.bind_eq_some_iff.mp hstep
    have habreast := advance_twins h.run hids t.file t.phase
    rw [hadvance] at habreast
    obtain ⟨u', hadvance', htwins⟩ := habreast.of_some
    cases hstep
    rw [h.tasks, ht, Option.bind_eq_bind, Option.bind_some, hadvance']
    exact ⟨_, rfl, (h.move i phase).tasks, h.collected, h.pending, htwins⟩
  | collect i =>
    rw [Pool.step] at hstep ⊢
    obtain ⟨t, ht, hstep⟩ := Option.bind_eq_some_iff.mp hstep
    obtain ⟨result, hresult, hstep⟩ := Option.bind_eq_some_iff.mp hstep
    rw [h.tasks, ht, Option.bind_eq_bind, Option.bind_some, hresult, Option.bind_eq_bind, Option.bind_some,
      h.pending, h.collected]
    split at hstep
    · rename_i hready
      cases hstep
      exact ⟨_, if_pos hready, h.takeIn i result⟩
    · cases hstep
  | drop =>
    rw [Pool.step] at hstep ⊢
    rw [h.pending]
    split at hstep
    · cases hstep
    · cases hstep
      exact ⟨_, rfl, by rw [h.tasks], h.collected, rfl, h.run⟩

/-- A schedule of a pool is one of its twin. -/
theorem follow (h : Twins start start' p p') (hids : ids.after start' = IdStream.after tools.env.ids start)
    {workers : Nat} {schedule : List Action} (hfollow : p.follow tools workers schedule = some q) :
    ∃ q', p'.follow (tools.withIds ids) workers schedule = some q' ∧ Twins start start' q q' := by
  induction schedule generalizing p p' with
  | nil =>
    cases hfollow
    exact ⟨p', rfl, h⟩
  | cons action schedule ih =>
    rw [Pool.follow, List.foldlM_cons] at hfollow
    obtain ⟨mid, hstep, hrest⟩ := Option.bind_eq_some_iff.mp hfollow
    obtain ⟨mid', hstep', hmid⟩ := h.step hids hstep
    obtain ⟨q', hrest', hq⟩ := ih hmid hrest
    refine ⟨q', ?_, hq⟩
    rw [Pool.follow, List.foldlM_cons, hstep']
    exact hrest'

/-- Twin pools that have finished are told apart by nothing. -/
theorem result (h : Twins start start' p p') :
    p'.isFinished = p.isFinished ∧ yield p'.result = yield p.result := by
  refine ⟨by rw [isFinished, isFinished, h.tasks, h.collected, h.pending], ?_⟩
  rw [Pool.result, Pool.result, h.collected]
  cases p.collected.fault with
  | some fault => exact yield_error h.run _
  | none => exact yield_report h.run _

end Pool.Twins

/-- Twins emit a project in the same way, however the workers are scheduled. -/
theorem follow_twins (h : Twins start start' s s')
    (hids : ids.after start' = IdStream.after tools.env.ids start) {pool p : Pool} {u : RunState}
    {workers : Nat} {schedule : List Action} (hopen : openPool tools s = (.ok pool, u))
    (hfollow : pool.follow tools workers schedule = some p) :
    ∃ pool' u' p', openPool (tools.withIds ids) s' = (.ok pool', u') ∧
      pool'.follow (tools.withIds ids) workers schedule = some p' ∧ p'.isFinished = p.isFinished ∧
      yield p'.result = yield p.result := by
  rcases openPool_twins h tools ids with
    ⟨t, v, v', hfirst, -, -⟩ | ⟨files, v, v', hfirst, hsecond, htwins⟩
  · rw [hfirst] at hopen
    cases hopen
  · rw [hfirst] at hopen
    cases hopen
    obtain ⟨p', hfollow', hp⟩ := Pool.Twins.follow
      (show Pool.Twins start start' (.ofFiles files u) (.ofFiles files v') from ⟨rfl, rfl, rfl, htwins⟩) hids hfollow
    exact ⟨_, v', p', hsecond, hfollow', hp.result⟩

end Steps

/-- What can come of emitting a project with a pool of workers. -/
def Yields (tools : Tools) (workers : Nat) (s : RunState)
    (r : Except Trouble (List FileOutcome × List String) × FileSystem × Sink) : Prop :=
  ∃ pool u schedule p, openPool tools s = (.ok pool, u) ∧ pool.follow tools workers schedule = some p ∧
    p.isFinished = true ∧ yield p.result = r

theorem Yields.twin {tools : Tools} {ids : IdStream} {workers : Nat}
    {r : Except Trouble (List FileOutcome × List String) × FileSystem × Sink} (hyields : Yields tools workers s r)
    (h : Twins start start' s s') (hids : ids.after start' = IdStream.after tools.env.ids start) :
    Yields (tools.withIds ids) workers s' r := by
  obtain ⟨pool, u, schedule, p, hopen, hfollow, hfinished, rfl⟩ := hyields
  obtain ⟨pool', u', p', hopen', hfollow', hfinished', hyield⟩ := follow_twins h hids hopen hfollow
  exact ⟨pool', u', schedule, p', hopen', hfollow', hfinished'.trans hfinished, hyield⟩

/-- The same can come of twins. -/
theorem yields_twins {tools : Tools} {ids : IdStream} (h : Twins start start' s s')
    (hids : ids.after start' = IdStream.after tools.env.ids start) (workers : Nat)
    (r : Except Trouble (List FileOutcome × List String) × FileSystem × Sink) :
    Yields (tools.withIds ids) workers s' r ↔ Yields tools workers s r := by
  constructor
  · intro hyields
    have hback : Yields ((tools.withIds ids).withIds tools.env.ids) workers s r := hyields.twin h.symm hids.symm
    exact hback
  · exact fun hyields => hyields.twin h hids

end Emit

end JsxTagger
