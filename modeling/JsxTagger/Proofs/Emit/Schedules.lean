import JsxTagger.Proofs.Emit.Courses
import JsxTagger.Proofs.Emit.Opening
import JsxTagger.Proofs.Text.Order

/-!
# Schedules make no difference

However a pool of workers is scheduled, it comes to an end, and then the report, the progress and the files are
those of a run that emits the files one after another (`follow_eq_emitProject`), up to which ids the files
draw: the sequential run draws the same ids in another order (`Renumbers`).
-/

namespace JsxTagger.Emit

open Files
open Inventory (Scanned directoriesAt filesAt placesAt mem_placesAt)

/-- Tools that draw other ids. -/
def Tools.withIds (tools : Tools) (ids : Nat → String) : Tools :=
  { tools with env := { tools.env with ids } }

variable {tools : Tools} {inv : Inventory} {out : Location} {b now : RunState}
  {place : List String × FileNode} {ids : Nat → String}

/-! ## Other ids -/

theorem parse_withIds (tools : Tools) (ids : Nat → String) :
    (tools.withIds ids).env.parse = tools.env.parse := rfl

theorem openPool_withIds (tools : Tools) (ids : Nat → String) (s : RunState) :
    openPool (tools.withIds ids) s = openPool tools s := rfl

theorem Ground.withIds (h : Ground tools inv out b) (hids : ∀ n, Text.isPlain (ids n) = true) :
    Ground (tools.withIds ids) inv out b where
  sink := h.sink
  logsTo := h.logsTo
  inventory := h.inventory
  index := h.index
  reader := h.reader
  formatter := h.formatter
  ids := hids
  scanned := h.scanned
  directories := h.directories
  unlinked := h.unlinked
  sources := h.sources
  log := h.log
  workable place hmem :=
    let hwork := h.workable place hmem
    ⟨hwork.source, hwork.destination, hwork.fits, hwork.text⟩

/-- A file that draws the same ids elsewhere is instrumented in the same way. -/
theorem drafted_withIds (h : Ground tools inv out b) (hmem : place ∈ filesAt [] inv)
    (hinstrument : place.2.shouldInstrument = true) (hids : ∀ n, Text.isPlain (ids n) = true)
    {drawn start : Nat}
    (hsame : ∀ j < (drafted tools b place drawn).2 - drawn, ids (start + j) = tools.env.ids (drawn + j)) :
    drafted (tools.withIds ids) b place start =
      ((drafted tools b place drawn).1, start + ((drafted tools b place drawn).2 - drawn)) := by
  obtain ⟨base, hscan⟩ := h.scanned
  revert hsame
  rw [drafted, drafted, parse_withIds]
  dsimp only [Tools.withIds]
  cases hread : readText b.files (tools.settings.inputRoot.join ⟨.relative, place.1⟩) with
  | error t => simp
  | ok text =>
    obtain ⟨hplain, htree⟩ := (h.workable place hmem).text hinstrument text hread
    have hbindable := (hscan.shown_of_mem_filesAt hmem).2
    rcases Instrument.instrumentSource_cases hplain h.ids hbindable htree drawn with
      ⟨fault, hrun⟩ | ⟨r, n, log, hrun, -⟩
    · have hrun' := Instrument.instrumentSource_unparsed hrun ids start
      dsimp only
      rw [hrun, hrun']
      simp
    · rcases Instrument.instrumentSource_cases hplain hids hbindable htree start with
        ⟨fault, hrun'⟩ | ⟨r', n', log', hrun', -⟩
      · have hfails := Instrument.instrumentSource_unparsed hrun' tools.env.ids drawn
        rw [hrun] at hfails
        cases hfails
      · obtain ⟨k, rfl, rfl, hsame⟩ := Instrument.instrumentSource_congr hrun hrun'
        dsimp only
        rw [hrun, hrun']
        intro hids
        dsimp only at hids ⊢
        rw [Nat.add_sub_cancel_left] at hids ⊢
        rw [hsame hids]

/-- A file that draws the same ids elsewhere becomes the same. -/
theorem alone_withIds (h : Ground tools inv out b) (hmem : place ∈ filesAt [] inv)
    (hids : ∀ n, Text.isPlain (ids n) = true) (seen : FileSystem) (drawn start : Nat)
    (hsame : ∀ j < drawnAfter tools b place drawn - drawn, ids (start + j) = tools.env.ids (drawn + j)) :
    alone (tools.withIds ids) seen b place start = alone tools seen b place drawn ∧
      drawnAfter (tools.withIds ids) b place start =
        start + (drawnAfter tools b place drawn - drawn) := by
  cases hearly : b.context.cancelled with
  | true =>
    rw [alone_of_cancelled _ _ _ hearly, alone_of_cancelled _ _ _ hearly, drawnAfter, drawnAfter, hearly]
    simp
  | false =>
    cases hinstrument : place.2.shouldInstrument with
    | false =>
      rw [alone_of_copied _ _ _ hearly hinstrument, alone_of_copied _ _ _ hearly hinstrument,
        drawnAfter, drawnAfter, hinstrument]
      exact ⟨rfl, by simp⟩
    | true =>
      rw [drawnAfter_of_instrumented _ _ hearly hinstrument] at hsame
      rw [drawnAfter_of_instrumented _ _ hearly hinstrument,
        drawnAfter_of_instrumented _ _ hearly hinstrument]
      have hdraft := drafted_withIds h hmem hinstrument hids hsame
      refine ⟨?_, by rw [hdraft]⟩
      rw [alone, alone, hdraft]
      rfl

/-- A formatter whose answer depends on its arguments only may look at the files at any time. -/
theorem alone_of_steady (hsteady : ∀ fs fs' text p, tools.formatter fs text p = tools.formatter fs' text p)
    (seen seen' : FileSystem) (drawn : Nat) :
    alone tools seen b place drawn = alone tools seen' b place drawn := by
  rw [alone, alone]
  simp only [hsteady seen seen']

/-! ## Windows of ids -/

/-- The number of an id that is drawn from windows one after another. A window is given by its start and its
length. -/
def spread : List (Nat × Nat) → Nat → Nat
  | [], n => n
  | (start, length) :: windows, n =>
    if n < length then start + n else spread windows (n - length)

theorem spread_of_lt {start length n : Nat} (windows : List (Nat × Nat)) (h : n < length) :
    spread ((start, length) :: windows) n = start + n := if_pos h

theorem spread_add (start length : Nat) (windows : List (Nat × Nat)) (n : Nat) :
    spread ((start, length) :: windows) (length + n) = spread windows n := by
  rw [spread, if_neg (by omega), Nat.add_sub_cancel_left]

/-- The length of windows together. -/
def extent (windows : List (Nat × Nat)) : Nat := (windows.map (·.2)).sum

/-- What is drawn comes from one of the windows. -/
theorem spread_mem {windows : List (Nat × Nat)} {n : Nat} (h : n < extent windows) :
    ∃ w ∈ windows, w.1 ≤ spread windows n ∧ spread windows n < w.1 + w.2 := by
  induction windows generalizing n with
  | nil => cases h
  | cons w windows ih =>
    by_cases hn : n < w.2
    · exact ⟨w, List.mem_cons_self, by rw [spread_of_lt windows hn]; omega⟩
    · have hrest : n - w.2 < extent windows := by
        simp only [extent, List.map_cons, List.sum_cons] at h ⊢
        omega
      obtain ⟨v, hv, hlow, hhigh⟩ := ih hrest
      have heq : spread (w :: windows) n = spread windows (n - w.2) := if_neg hn
      exact ⟨v, List.mem_cons_of_mem _ hv, by rw [heq]; exact ⟨hlow, hhigh⟩⟩

/-- Nothing is drawn twice from windows that lie apart. -/
theorem spread_injective {windows : List (Nat × Nat)}
    (h : windows.Pairwise fun v w => v.1 + v.2 ≤ w.1 ∨ w.1 + w.2 ≤ v.1) {m n : Nat} (hmn : m < n)
    (hn : n < extent windows) : spread windows m ≠ spread windows n := by
  induction windows generalizing m n with
  | nil => cases hn
  | cons w windows ih =>
    obtain ⟨hfirst, hrest⟩ := List.pairwise_cons.mp h
    have hextent : extent (w :: windows) = w.2 + extent windows := by
      simp [extent]
    by_cases hm : m < w.2
    · rw [spread_of_lt windows hm]
      by_cases hsecond : n < w.2
      · rw [spread_of_lt windows hsecond]
        omega
      · have heq : spread (w :: windows) n = spread windows (n - w.2) := if_neg hsecond
        have hlater : n - w.2 < extent windows := by omega
        obtain ⟨v, hv, hlow, hhigh⟩ := spread_mem hlater
        have hapart := hfirst v hv
        rw [heq]
        omega
    · have heq (k : Nat) (hk : ¬ k < w.2) : spread (w :: windows) k = spread windows (k - w.2) :=
        if_neg hk
      rw [heq m hm, heq n (by omega)]
      exact ih hrest (by omega) (by omega)

/-- The windows of ids that files draw, when it is known where each of them starts. -/
def windowsOf (tools : Tools) (b : RunState) (drawn : List String → Nat)
    (places : List (List String × FileNode)) : List (Nat × Nat) :=
  places.map fun place =>
    (drawn place.1, drawnAfter tools b place (drawn place.1) - drawn place.1)

/-! ## One after another -/

/-- Files were emitted one after another, each as it would be by itself. -/
structure Sequence (tools : Tools) (inv : Inventory) (out : Location) (b : RunState)
    (drawn : List String → Nat) (places : List (List String × FileNode)) (os : List FileOutcome)
    (now now' : RunState) : Prop where
  world : World inv out b now'
  cancelled : now'.context.cancelled = now.context.cancelled
  outcomes : List.Forall₂ (fun place o => (alone tools b.files b place (drawn place.1)).1 = .ok o)
    places os
  emitted : ∀ place ∈ places, now'.files.get? (out ++ place.1) =
    (alone tools b.files b place (drawn place.1)).2.files.get? (out ++ place.1)
  others : ∀ place ∈ filesAt [] inv, place.1 ∉ places.map (·.1) →
    now'.files.get? (out ++ place.1) = now.files.get? (out ++ place.1)
  events : now'.events = now.events ++ List.replicate os.length (.update (some 1))
  drawn : now'.drawn = now.drawn + extent (windowsOf tools b drawn places)

theorem Sequence.refl (hw : World inv out b now) (drawn : List String → Nat) :
    Sequence tools inv out b drawn [] [] now now where
  world := hw
  cancelled := rfl
  outcomes := .nil
  emitted _ hmem := absurd hmem List.not_mem_nil
  others _ _ _ := rfl
  events := (List.append_nil _).symm
  drawn := rfl

/-- A file is emitted and reported in front of others. -/
theorem Sequence.cons {drawn : List String → Nat} {places : List (List String × FileNode)}
    {o : FileOutcome} {os : List FileOutcome} {mid now' : RunState} {result : Except Fault FileOutcome}
    (hmem : place ∈ filesAt [] inv) (hfresh : place.1 ∉ places.map (·.1))
    (ho : (alone tools b.files b place (drawn place.1)).1 = .ok o)
    (hrepeats : Repeats inv out b place.1 now (result, mid) (alone tools b.files b place (drawn place.1)))
    (hdrawn : mid.drawn = now.drawn + (drawnAfter tools b place (drawn place.1) - drawn place.1))
    (hseq : Sequence tools inv out b drawn places os (mid.report (.update (some 1))) now') :
    Sequence tools inv out b drawn (place :: places) (o :: os) now now' where
  world := hseq.world
  cancelled := hseq.cancelled.trans hrepeats.passes.cancelled
  outcomes := .cons ho hseq.outcomes
  emitted other hother := by
    rcases List.mem_cons.mp hother with rfl | hother
    · rw [hseq.others other hmem hfresh]
      exact hrepeats.destination
    · exact hseq.emitted other hother
  others other hother hnot := by
    rw [List.map_cons, List.mem_cons, not_or] at hnot
    rw [hseq.others other hother hnot.2]
    exact hrepeats.passes.others other hother hnot.1
  events := by
    rw [hseq.events, show (mid.report (.update (some 1))).events = mid.events ++ [.update (some 1)] from rfl,
      hrepeats.passes.events, List.append_assoc, List.length_cons, List.replicate_succ]
    rfl
  drawn := by
    rw [hseq.drawn, show (mid.report (.update (some 1))).drawn = mid.drawn from rfl, hdrawn, Nat.add_assoc]
    rfl

theorem emitNext_of_patient (hpatient : tools.settings.failFast = false) {c : Collected}
    (hstopped : c.stopped = false) (hfault : c.fault = none) {f : FileNode} {o : FileOutcome} {mid : RunState}
    (h : emitFile tools f now = (.ok o, mid)) :
    emitNext tools (c, now) f =
      ({ c with outcomes := c.outcomes ++ [o] }, mid.report (.update (some 1))) := by
  have hcollect : collect tools c o mid =
      ({ c with outcomes := c.outcomes ++ [o] }, mid.report (.update (some 1))) := by
    rw [collect]
    refine if_neg ?_
    rw [hpatient]
    simp
  rw [← hcollect, emitNext, hstopped, h, hfault]
  rfl

/-- Files that draw from the right windows are emitted one after another, each as it would be by itself. -/
theorem exists_sequence (ids : Nat → String) (h : Ground tools inv out b)
    (hplain : ∀ n, Text.isPlain (ids n) = true)
    (hpatient : tools.settings.failFast = false)
    (hsteady : ∀ fs fs' text p, tools.formatter fs text p = tools.formatter fs' text p)
    (drawn : List String → Nat) {places : List (List String × FileNode)} (hsub : places ⊆ filesAt [] inv)
    (hnodup : (places.map (·.1)).Nodup) {c : Collected} (hstopped : c.stopped = false)
    (hfault : c.fault = none) (hw : World inv out b now)
    (hcancelled : now.context.cancelled = b.context.cancelled)
    (hsame : ∀ place ∈ places,
      now.files.get? (out ++ place.1) = b.files.get? (out ++ place.1))
    (hids : ∀ n, ids (now.drawn + n) = tools.env.ids (spread (windowsOf tools b drawn places) n)) :
    ∃ os now', (places.map (·.2)).foldl (emitNext (tools.withIds ids)) (c, now) =
        ({ c with outcomes := c.outcomes ++ os }, now') ∧
      Sequence tools inv out b drawn places os now now' := by
  induction places generalizing c now with
  | nil => exact ⟨[], now, by simp, .refl hw drawn⟩
  | cons place places ih =>
    obtain ⟨hmem, hrest⟩ := List.cons_subset.mp hsub
    obtain ⟨hfresh, hnodup⟩ := List.nodup_cons.mp hnodup
    obtain ⟨o, ho, -⟩ := alone_ends h hmem b.files (drawn place.1)
    obtain ⟨seen, hrepeats, hdrawn⟩ := hw.emitFile (h.withIds hplain) hcancelled hmem
      (hsame place List.mem_cons_self)
    have hwindow : windowsOf tools b drawn (place :: places) =
        (drawn place.1, drawnAfter tools b place (drawn place.1) - drawn place.1) ::
          windowsOf tools b drawn places := rfl
    rw [hwindow] at hids
    -- the file draws from the first window what it draws by itself
    obtain ⟨halone, hafter⟩ := alone_withIds h hmem hplain seen (drawn place.1) now.drawn
      fun j hj => by rw [hids, spread_of_lt _ hj]
    rw [halone, alone_of_steady hsteady seen b.files] at hrepeats
    rw [hafter] at hdrawn
    rcases hemit : emitFile (tools.withIds ids) place.2 now with ⟨result, mid⟩
    rw [hemit] at hrepeats hdrawn
    obtain rfl : result = .ok o := hrepeats.outcome.trans ho
    have hpasses := hrepeats.passes
    have hquiet := RunState.OnlyLogs.report mid (.update (some 1))
    have hne (other : List String × FileNode) (hother : other ∈ places) : other.1 ≠ place.1 :=
      fun heq => hfresh (List.mem_map.mpr ⟨other, hother, heq⟩)
    -- and leaves the other windows to the files behind it
    obtain ⟨os, now', hfold, hseq⟩ := ih hrest hnodup (c := { c with outcomes := c.outcomes ++ [o] })
      hstopped hfault (hpasses.world.of_onlyLogs h hquiet hpasses.world.context)
      (hpasses.cancelled.trans hcancelled)
      (fun other hother => (hpasses.others other (hrest hother) (hne other hother)).trans
        (hsame other (List.mem_cons_of_mem _ hother)))
      fun n => by
        have hn := hids (drawnAfter tools b place (drawn place.1) - drawn place.1 + n)
        rw [spread_add, ← Nat.add_assoc, ← hdrawn] at hn
        exact hn
    refine ⟨o :: os, now', ?_, .cons hmem hfresh ho hrepeats hdrawn hseq⟩
    have hpatient : (tools.withIds ids).settings.failFast = false := hpatient
    rw [List.map_cons, List.foldl_cons, emitNext_of_patient hpatient hstopped hfault hemit, hfold]
    simp

/-! ## Side by side -/

/-- The ids that one run draws are, under other numbers, ids that another run draws, and no two of them have
the same number. -/
structure Renumbers (σ : Nat → Nat) (start stop stop' : Nat) : Prop where
  injective : ∀ m n, start ≤ m → m < n → n < stop → σ m ≠ σ n
  range : ∀ n, start ≤ n → n < stop → start ≤ σ n ∧ σ n < stop'

/-- Where the ids of a file start. A file that draws none may be taken to start first. -/
def startOf (b : RunState) (drawn : List String → Option Nat) (names : List String) : Nat :=
  (drawn names).getD b.drawn

theorem Windows.renumbers {drawn : List String → Option Nat} {next : Nat}
    (hw : Windows tools inv b drawn next) (h : Ground tools inv out b)
    (hnone : ∀ place ∈ filesAt [] inv, drawn place.1 = none →
      drawnAfter tools b place b.drawn = b.drawn) :
    Renumbers (fun n => spread (windowsOf tools b (startOf b drawn) (filesAt [] inv)) (n - b.drawn))
      b.drawn (b.drawn + extent (windowsOf tools b (startOf b drawn) (filesAt [] inv))) next := by
  obtain ⟨base, hscan⟩ := h.scanned
  have hnodup : (filesAt [] inv).Pairwise fun place other => place.1 ≠ other.1 :=
    List.pairwise_map.mp (List.nodup_append.mp hscan.nodup_placesAt).2.1
  -- a file that drew nothing has an empty window where the run starts
  have hinside (place : List String × FileNode) (hmem : place ∈ filesAt [] inv) :
      b.drawn ≤ startOf b drawn place.1 ∧ drawnAfter tools b place (startOf b drawn place.1) ≤ next := by
    rw [startOf]
    cases hdrawn : drawn place.1 with
    | none => exact ⟨Nat.le_refl _, (hnone place hmem hdrawn).trans_le hw.start⟩
    | some d => exact hw.inside place hmem d hdrawn
  have hgrows (place : List String × FileNode) := le_drawnAfter tools b place (startOf b drawn place.1)
  have hpairwise : (windowsOf tools b (startOf b drawn) (filesAt [] inv)).Pairwise
      fun v w => v.1 + v.2 ≤ w.1 ∨ w.1 + w.2 ≤ v.1 := by
    refine List.pairwise_map.mpr (hnodup.imp_of_mem fun {place other} hmem hother hne => ?_)
    have hfirst := hgrows place
    have hsecond := hgrows other
    have hplace := hinside place hmem
    have hothers := hinside other hother
    dsimp only
    cases hdrawn : drawn place.1 with
    | none =>
      have hempty := hnone place hmem hdrawn
      have hstart : startOf b drawn place.1 = b.drawn := by rw [startOf, hdrawn]; rfl
      rw [hstart] at hfirst ⊢
      omega
    | some d =>
      cases hdrawn' : drawn other.1 with
      | none =>
        have hempty := hnone other hother hdrawn'
        have hstart : startOf b drawn other.1 = b.drawn := by rw [startOf, hdrawn']; rfl
        rw [hstart] at hsecond ⊢
        omega
      | some e =>
        have hapart := hw.apart place hmem other hother hne d e hdrawn hdrawn'
        have hd : startOf b drawn place.1 = d := by rw [startOf, hdrawn]; rfl
        have he : startOf b drawn other.1 = e := by rw [startOf, hdrawn']; rfl
        rw [hd] at hfirst ⊢
        rw [he] at hsecond ⊢
        omega
  refine ⟨fun m n hm hmn hn => spread_injective hpairwise (by omega) (by omega), fun n hn hstop => ?_⟩
  have hlt : n - b.drawn < extent (windowsOf tools b (startOf b drawn) (filesAt [] inv)) := by omega
  obtain ⟨w, hmem, hlow, hhigh⟩ := spread_mem hlt
  obtain ⟨place, hplace, rfl⟩ := List.mem_map.mp hmem
  have hfirst := hgrows place
  have hbounds := hinside place hplace
  dsimp only at hlow hhigh ⊢
  omega

theorem completion_eq_of_perm {os os' : List FileOutcome} (h : os.Perm os') :
    completion os = completion os' := by
  rw [completion, completion, h.countP_eq, h.length_eq]

theorem reportOf_eq_of_perm {os os' : List FileOutcome} {c c' : RunContext} (h : os.Perm os')
    (hnodup : (os.map (·.path)).Nodup) (hfailures : c.scanFailures = c'.scanFailures)
    (hroots : c.rootFiles = c'.rootFiles) : reportOf os c = reportOf os' c' := by
  rw [reportOf, reportOf, hfailures, hroots]
  congr 1
  exact Text.mergeSort_eq_of_perm h hnodup

/-- When a pool that goes on after failures has finished, each file has become what it would by itself. -/
theorem Sound.finished {drawn : List String → Option Nat} {p : Pool} (hs : Sound tools inv out b drawn p)
    (hpatient : tools.settings.failFast = false)
    (hsteady : ∀ fs fs' text p, tools.formatter fs text p = tools.formatter fs' text p)
    (hfinished : p.isFinished = true) :
    (∀ place ∈ filesAt [] inv, drawn place.1 = none → drawnAfter tools b place b.drawn = b.drawn) ∧
      ∃ os, p.collected.outcomes.Perm os ∧
        List.Forall₂ (fun place o =>
          (alone tools b.files b place (startOf b drawn place.1)).1 = .ok o ∧
            p.run.files.get? (out ++ place.1) =
              (alone tools b.files b place (startOf b drawn place.1)).2.files.get? (out ++ place.1))
          (filesAt [] inv) os := by
  have hcancelled : p.run.context.cancelled = b.context.cancelled := by
    rw [hs.cancelled, hpatient, Bool.false_and, Bool.or_false]
  obtain ⟨os, -, hperm, hcourses⟩ := hs.exists_outcomes hfinished
  refine ⟨fun place hmem hnone => ?_, os, hperm, hcourses.imp fun place o hcourse => ?_⟩
  · obtain ⟨o, -, hcourse⟩ := exists_of_forall₂ hcourses hmem
    rcases hcourse.of_collected with ⟨seen, d, hdrawn, -⟩ | ⟨hskipped, -⟩
    · rw [hnone] at hdrawn
      cases hdrawn
    · rw [drawnAfter, ← hcancelled, hskipped]
      rfl
  · rcases hcourse.of_collected with ⟨seen, d, hdrawn, ho, hentry⟩ | ⟨hskipped, rfl, hentry⟩
    · rw [startOf, hdrawn, alone_of_steady hsteady b.files seen]
      exact ⟨ho, hentry⟩
    · rw [alone_of_cancelled _ _ _ (hcancelled ▸ hskipped)]
      exact ⟨rfl, hentry⟩

/-- Emitting the files one after another, with ids under other numbers, does what a pool has done. -/
theorem Sound.emitProject {p : Pool} {drawn : List String → Option Nat}
    (hs : Sound tools inv out b drawn p) (h : Ground tools inv out b)
    (hpatient : tools.settings.failFast = false)
    (hsteady : ∀ fs fs' text p, tools.formatter fs text p = tools.formatter fs' text p)
    (hopen : openPool tools now = (.ok (.ofFiles ((filesAt [] inv).map (·.2)) b), b))
    (hfinished : p.isFinished = true) :
    ∃ report σ s', p.result.1 = .ok report ∧
      emitProject (tools.withIds fun n => tools.env.ids (σ n)) now = (.ok report, s') ∧
      Renumbers σ b.drawn s'.drawn p.run.drawn ∧
      (report.outcomes.map (·.path)).Nodup ∧
      (report.outcomes.map (·.path)).Perm (inv.files.map (·.fullPath.plain)) ∧
      s'.events = p.result.2.events ∧
      (∀ loc, b.logPlace ≠ some loc → s'.files.get? loc = p.result.2.files.get? loc) ∧
      ∀ place ∈ filesAt [] inv, ∃ d, ∃ o ∈ report.outcomes,
        (emitFile tools place.2 { b with drawn := d }).1 = .ok o ∧
          p.result.2.files.get? (out ++ place.1) =
            (emitFile tools place.2 { b with drawn := d }).2.files.get? (out ++ place.1) := by
  obtain ⟨base, hscan⟩ := h.scanned
  -- what the pool has collected is, in another order, what the files come to by themselves
  obtain ⟨hnone, os, hperm, hos⟩ := hs.finished hpatient hsteady hfinished
  have hpaths : os.map (·.path) = inv.files.map (·.fullPath.plain) := by
    rw [Inventory.files_eq []]
    refine paths_of_outcomes h (fun place hmem o ho => ?_) (List.Subset.refl _) hos
    obtain ⟨o', ho', hpath, -⟩ := alone_ends h hmem b.files (startOf b drawn place.1)
    rw [ho.1] at ho'
    cases ho'
    exact hpath
  have hnodup : (p.collected.outcomes.map (·.path)).Nodup := by
    rw [(hperm.map _).nodup_iff, hpaths]
    exact h.nodup_paths
  -- with the ids that each file drew in the pool under the numbers of the sequential run, they come to the same
  have hrenumbers := hs.windows.renumbers h hnone
  generalize hwindows : windowsOf tools b (startOf b drawn) (filesAt [] inv) = windows at hrenumbers
  obtain ⟨os', now', hfold, hseq⟩ := exists_sequence
    (fun n => tools.env.ids (spread windows (n - b.drawn))) h (c := {}) (fun _ => h.ids _) hpatient
    hsteady (startOf b drawn) (List.Subset.refl _) (List.nodup_append.mp hscan.nodup_placesAt).2.1 rfl rfl
    (World.refl h b.drawn) rfl (fun _ _ => rfl) fun n => by rw [Nat.add_sub_cancel_left, hwindows]
  obtain rfl : os' = os := by
    refine List.right_unique_forall₂' (fun place o o' ho ho' => ?_) hseq.outcomes (hos.imp fun _ _ => And.left)
    rw [ho] at ho'
    exact Except.ok.inj ho'
  have hresult : p.result = (.ok (reportOf p.collected.outcomes p.run.context),
      p.run.report (completion p.collected.outcomes)) := by
    rw [Pool.result, hs.fault]
  have hreport : reportOf p.collected.outcomes p.run.context = reportOf os' now'.context := by
    refine reportOf_eq_of_perm hperm hnodup ?_ ?_
    · rw [hs.world.context.scanFailures, hseq.world.context.scanFailures]
    · rw [hs.world.context.rootFiles, hseq.world.context.rootFiles]
  have hemit : Emit.emitProject (tools.withIds fun n => tools.env.ids (spread windows (n - b.drawn))) now =
      (.ok (reportOf os' now'.context), now'.report (completion os')) :=
    emitProject_eq_of_foldl (openPool_withIds tools _ now ▸ hopen) hfold
  have hsorted : (reportOf os' now'.context).outcomes.Perm os' := List.mergeSort_perm _ _
  rw [hresult, hreport]
  refine ⟨_, _, _, rfl, hemit, ?_, ?_, ?_, ?_, fun loc hlog => ?_, fun place hmem => ?_⟩
  · rw [show (now'.report (completion os')).drawn = now'.drawn from rfl, hseq.drawn, hwindows]
    exact hrenumbers
  · rw [(hsorted.map _).nodup_iff, hpaths]
    exact h.nodup_paths
  · exact hpaths ▸ hsorted.map _
  · show now'.events ++ [completion os'] = p.run.events ++ [completion p.collected.outcomes]
    rw [hseq.events, hs.events, hperm.length_eq, completion_eq_of_perm hperm]
  · show now'.files.get? loc = p.run.files.get? loc
    by_cases hdestination : Destination inv out loc
    · obtain ⟨place, hmem, rfl⟩ := hdestination
      obtain ⟨o, -, -, hentry⟩ := exists_of_forall₂ hos hmem
      rw [hentry]
      exact hseq.emitted place hmem
    · rw [hseq.world.elsewhere loc hdestination hlog, hs.world.elsewhere loc hdestination hlog]
  · obtain ⟨o, ho, halone, hentry⟩ := exists_of_forall₂ hos hmem
    obtain ⟨seen, hrepeats, -⟩ := (World.refl h (startOf b drawn place.1)).emitFile h rfl hmem rfl
    rw [alone_of_steady hsteady seen b.files] at hrepeats
    refine ⟨startOf b drawn place.1, o, hsorted.mem_iff.mpr ho, hrepeats.outcome.trans halone, ?_⟩
    exact hentry.trans hrepeats.destination.symm

/-- Whatever the schedule, a pool that does not stop after failures comes to an end. Then each file has one
outcome, and the report, the progress and all files but the log are those of a run that emits the files one
after another and draws the same ids under other numbers. Each file became what it becomes if it is emitted
first, when some number of ids was drawn. The system refuses nothing for want of permission or space. -/
theorem follow_eq_emitProject (tools : Tools) (s b : RunState) (pool p : Pool) (workers : Nat)
    (schedule : List Action) (hworkers : 0 < workers) (hpatient : tools.settings.failFast = false)
    (hreader : tools.reader = readText) (hformatter : Reliable tools.formatter)
    (hsteady : ∀ fs fs' text p, tools.formatter fs text p = tools.formatter fs' text p)
    (hids : ∀ n, Text.isPlain (tools.env.ids n) = true) (hsink : s.sink = .disk)
    (hwell : s.files.WellFormed) (hlog : s.LogsTo s.files)
    (hapart : ∀ made out,
      (Inventory.scan tools.env tools.settings s).makeDirs tools.settings.outputRoot =
        (.ok (), made) → made.files.locate tools.settings.outputRoot = .ok out →
      Apart s tools.settings.inputRoot
        (Inventory.scan tools.env tools.settings s).context.inventory out)
    (hopen : openPool tools (Inventory.scan tools.env tools.settings s) = (.ok pool, b))
    (hworkable : ∀ place ∈ filesAt [] (Inventory.scan tools.env tools.settings s).context.inventory,
      Workable tools b place.1 place.2)
    (hfollow : pool.follow tools workers schedule = some p) :
    schedule.length ≤ 8 * pool.tasks.length + 1 ∧
    (p.isFinished = false → ∃ action p', p.step tools workers action = some p') ∧
    (p.isFinished = true → ∃ report σ s' out,
      p.result.1 = .ok report ∧
      emitProject (tools.withIds fun n => tools.env.ids (σ n))
        (Inventory.scan tools.env tools.settings s) = (.ok report, s') ∧
      Renumbers σ b.drawn s'.drawn p.run.drawn ∧
      (report.outcomes.map (·.path)).Nodup ∧
      (report.outcomes.map (·.path)).Perm
        ((Inventory.scan tools.env tools.settings s).context.inventory.files.map (·.fullPath.plain)) ∧
      s'.events = p.result.2.events ∧
      (∀ loc, s.logPlace ≠ some loc → s'.files.get? loc = p.result.2.files.get? loc) ∧
      b.files.locate tools.settings.outputRoot = .ok out ∧
      ∀ place ∈ filesAt [] (Inventory.scan tools.env tools.settings s).context.inventory,
        ∃ drawn, ∃ o ∈ report.outcomes, (emitFile tools place.2 { b with drawn }).1 = .ok o ∧
          p.result.2.files.get? (out ++ place.1) =
            (emitFile tools place.2 { b with drawn }).2.files.get? (out ++ place.1)) := by
  obtain ⟨hkept, hscan, hindex, -⟩ := Inventory.scan_scanned hlog tools.env tools.settings hwell
  obtain ⟨out, h, hplace, rfl⟩ := exists_ground hscan hkept.quiet hindex hsink hlog hapart hreader
    hformatter hids hopen hworkable
  generalize hnow : Inventory.scan tools.env tools.settings s = now at *
  refine ⟨?_, Pool.exists_step hworkers, fun hfinished => ?_⟩
  · have hlength := Pool.length_le_of_follow hfollow
    simpa [Pool.ofFiles] using hlength
  · obtain ⟨drawn, hs⟩ := sound_of_follow h hfollow
    obtain ⟨report, σ, s', hresult, hemit, hnumbers, hnodup, hperm, hevents, hfiles, hplaces⟩ :=
      hs.emitProject h hpatient hsteady hopen hfinished
    have hroot := (h.directories [] (.inl rfl)).1
    rw [join_relative, List.append_nil, List.append_nil] at hroot
    exact ⟨report, σ, s', out, hresult, hemit, hnumbers, hnodup, hperm, hevents, hplace ▸ hfiles, hroot,
      hplaces⟩

/-- Two workers, the second of which is done first. -/
def crossing : List Action :=
  [.take 0, .take 1, .work 1, .work 0, .work 1, .collect 1, .take 2, .work 2, .work 2, .work 0, .collect 2,
    .collect 0]

/-- Two workers emit three files, one of which fails, and the report is that of the sequential run. -/
theorem follow_eq_emitProject_blockedProject :
    ∃ pool b p report, ∃ σ : Nat → Nat, ∃ s', openPool (blockedTools false) (scannedBlocked false) = (.ok pool, b) ∧
      pool.follow (blockedTools false) 2 crossing = some p ∧
      p.collected.outcomes.map (fun o => (o.path, o.status)) =
        [("b", .failed), ("c", .copied), ("a", .copied)] ∧
      p.result.1 = .ok report ∧
      emitProject ((blockedTools false).withIds fun n => (blockedTools false).env.ids (σ n))
        (scannedBlocked false) = (.ok report, s') ∧
      s'.events = p.result.2.events ∧
      ∀ loc, s'.files.get? loc = p.result.2.files.get? loc := by
  have hrun : ((openPool (blockedTools false) (scannedBlocked false)).1.toOption.bind fun pool =>
      (pool.follow (blockedTools false) 2 crossing).map fun p =>
        (p.isFinished, p.collected.outcomes.map fun o => (o.path, o.status))) =
      some (true, [("b", .failed), ("c", .copied), ("a", .copied)]) := by
    decide +kernel
  rcases hopen : openPool (blockedTools false) (scannedBlocked false) with ⟨t | pool, b⟩
  · rw [hopen] at hrun
    cases hrun
  rw [hopen] at hrun
  obtain ⟨p, hfollow, hends⟩ := Option.map_eq_some_iff.mp hrun
  obtain ⟨hfinished, houtcomes⟩ := Prod.mk.inj hends
  obtain ⟨-, -, hreport⟩ := follow_eq_emitProject (blockedTools false) blockedProject b pool p 2 crossing
    (by decide) rfl rfl reliable_unchanged (fun _ _ _ _ => rfl)
    (fun _ => by show Text.isPlain "id" = true; decide +kernel) rfl blockedProject_wellFormed
    blockedProject_logsTo (blockedProject_apart false) hopen (blockedProject_workable false b) hfollow
  obtain ⟨report, σ, s', -, hresult, hemit, -, -, -, hevents, hfiles, -⟩ := hreport hfinished
  exact ⟨pool, b, p, report, σ, s', rfl, hfollow, houtcomes, hresult, hemit, hevents,
    fun loc => hfiles loc nofun⟩

end JsxTagger.Emit
