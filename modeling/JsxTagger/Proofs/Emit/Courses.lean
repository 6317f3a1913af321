import JsxTagger.Proofs.Emit.Independence
import JsxTagger.Proofs.Emit.Workers

/-!
# How files come through a pool

`Course` says how far a file has come and what stands at its destination meanwhile: nothing new until it is
written, and then what it would become by itself. Every step of a worker keeps to it
(`Course.advance`), whatever the other workers do. `Sound` is the invariant of the whole pool, and it
holds along every schedule (`sound_of_follow`).
-/

namespace JsxTagger.Emit

open Files
open Inventory (Scanned directoriesAt filesAt placesAt mem_placesAt)

variable {tools : Tools} {inv : Inventory} {out : Location} {b now : RunState}
  {place : List String × FileNode}

/-! ## One file -/

/-- What became of a file that a worker is done with. -/
def Phase.outcome? : Phase → Option (Except Fault FileOutcome)
  | ended result => some result
  | collected o => some (.ok o)
  | _ => none

/-- What is collected for a file that a worker is done with is what became of it. -/
theorem Phase.result?_unique {phase : Phase} {f : FileNode} {became result : Except Fault FileOutcome}
    (hend : phase.outcome? = some became) (hresult : phase.result? f = some result) :
    result = became := by
  cases phase with
  | ended found => exact (Option.some.inj hresult).symm.trans (Option.some.inj hend)
  | dropped => cases hend
  | _ => cases hresult

/-- How far a file has come, with how many ids drawn before it was instrumented, and what stands at its
destination. A file is passed over only if the run was cancelled. -/
inductive Course (tools : Tools) (out : Location) (b : RunState) (place : List String × FileNode)
    (cancelled : Bool) : Phase → Option Nat → Option Entry → Prop where
  | queued : Course tools out b place cancelled .queued none (b.files.get? (out ++ place.1))
  | dropped (hcancelled : cancelled = true) :
      Course tools out b place cancelled .dropped none (b.files.get? (out ++ place.1))
  | begun : Course tools out b place cancelled .begun none (b.files.get? (out ++ place.1))
  | checked (hearly : b.context.cancelled = false) :
      Course tools out b place cancelled (.checked ("/".intercalate place.1)) none
        (b.files.get? (out ++ place.1))
  | drafted {drawn : Nat} {result : Instrument.Instrumented} (hearly : b.context.cancelled = false)
      (hinstrument : place.2.shouldInstrument = true)
      (hdraft : (drafted tools b place drawn).1 = .ok result) :
      Course tools out b place cancelled (.drafted ("/".intercalate place.1) result) (some drawn)
        (b.files.get? (out ++ place.1))
  | polished {seen : FileSystem} {drawn : Nat} {p : Prepared}
      (hready : Presentable p.text p.missing)
      (halone : alone tools seen b place drawn = write tools ("/".intercalate place.1)
        (tools.settings.inputRoot.join ⟨.relative, place.1⟩)
        (tools.settings.outputRoot.join ⟨.relative, place.1⟩) p b) :
      Course tools out b place cancelled (.polished ("/".intercalate place.1) p) (some drawn)
        (b.files.get? (out ++ place.1))
  | ready {seen : FileSystem} {drawn : Nat} {p : Prepared} (hready : Presentable p.text p.missing)
      (halone : alone tools seen b place drawn = write tools ("/".intercalate place.1)
        (tools.settings.inputRoot.join ⟨.relative, place.1⟩)
        (tools.settings.outputRoot.join ⟨.relative, place.1⟩) p b) :
      Course tools out b place cancelled (.ready ("/".intercalate place.1) p) (some drawn)
        (b.files.get? (out ++ place.1))
  | finished {phase : Phase} {seen : FileSystem} {drawn : Nat}
      (hend : phase.outcome? = some (alone tools seen b place drawn).1) :
      Course tools out b place cancelled phase (some drawn)
        ((alone tools seen b place drawn).2.files.get? (out ++ place.1))
  | skipped {phase : Phase} {drawn : Option Nat} (hcancelled : cancelled = true)
      (hend : phase.outcome? = some (.ok ⟨"/".intercalate place.1, .cancelled, ""⟩)) :
      Course tools out b place cancelled phase drawn (b.files.get? (out ++ place.1))

/-- A run that was cancelled stays cancelled. -/
theorem Course.mono {cancelled cancelled' : Bool} {phase : Phase} {drawn : Option Nat}
    {entry : Option Entry} (h : Course tools out b place cancelled phase drawn entry)
    (hmono : cancelled = true → cancelled' = true) :
    Course tools out b place cancelled' phase drawn entry := by
  cases h with
  | queued => exact .queued
  | dropped hcancelled => exact .dropped (hmono hcancelled)
  | begun => exact .begun
  | checked hearly => exact .checked hearly
  | drafted hearly hinstrument hdraft => exact .drafted hearly hinstrument hdraft
  | polished hready halone => exact .polished hready halone
  | ready hready halone => exact .ready hready halone
  | finished hend => exact .finished hend
  | skipped hcancelled hend => exact .skipped (hmono hcancelled) hend

/-- A worker that is done with a file does no more with it. -/
theorem advance_of_outcome {f : FileNode} {s : RunState} {phase : Phase}
    {result : Except Fault FileOutcome} (h : phase.outcome? = some result) :
    advance tools f s phase = none := by
  cases phase <;> first | rfl | cases h

/-- What is collected for a file is an outcome. -/
theorem Course.collect {cancelled : Bool} {phase : Phase} {drawn : Option Nat} {entry : Option Entry}
    {result : Except Fault FileOutcome} (h : Ground tools inv out b) (hmem : place ∈ filesAt [] inv)
    (hc : Course tools out b place cancelled phase drawn entry)
    (hresult : phase.result? place.2 = some result) :
    ∃ o, result = .ok o ∧ Course tools out b place cancelled (.collected o) drawn entry := by
  cases hc with
  | dropped hcancelled =>
    rw [Phase.result?, (h.fullPath hmem).1] at hresult
    cases hresult
    exact ⟨_, rfl, .skipped hcancelled rfl⟩
  | @finished phase seen d hend =>
    obtain ⟨o, ho, -⟩ := alone_ends h hmem seen d
    obtain rfl := Phase.result?_unique hend hresult
    exact ⟨o, ho, .finished (congrArg some ho.symm)⟩
  | @skipped phase d hcancelled hend =>
    obtain rfl := Phase.result?_unique hend hresult
    exact ⟨_, rfl, .skipped hcancelled rfl⟩
  | _ => cases hresult

/-- What a step of a worker does to the ids: it draws none, or it draws those of its file. -/
def Draws (tools : Tools) (b : RunState) (place : List String × FileNode) (now now' : RunState)
    (drawn drawn' : Option Nat) : Prop :=
  (drawn' = drawn ∧ now'.drawn = now.drawn) ∨
    (drawn = none ∧ drawn' = some now.drawn ∧ now'.drawn = drawnAfter tools b place now.drawn)

/-- A step of a worker that leads to a phase keeps to the course of its file and leaves the others alone. -/
def Goes (tools : Tools) (inv : Inventory) (out : Location) (b : RunState)
    (place : List String × FileNode) (now : RunState) (drawn : Option Nat) (phase : Phase) (s : RunState) :
    Prop :=
  ∃ drawn', Course tools out b place s.context.cancelled phase drawn' (s.files.get? (out ++ place.1)) ∧
    Passes inv out b place.1 now s ∧ Draws tools b place now s drawn drawn'

section Steps

variable {phase phase' : Phase} {s : RunState} {drawn : Option Nat}

/-- A step that only looks. -/
theorem Course.goes (h : Ground tools inv out b) (hw : World inv out b now)
    (hc : Course tools out b place now.context.cancelled phase drawn (now.files.get? (out ++ place.1))) :
    Goes tools inv out b place now drawn phase now :=
  ⟨drawn, hc, hw.passes h (.refl now) hw.context rfl rfl place.1, .inl ⟨rfl, rfl⟩⟩

/-- A step that ends with what the file comes to by itself. -/
theorem Goes.of_repeats {result : Except Fault FileOutcome × RunState} {seen : FileSystem} {d : Nat}
    (hrepeats : Repeats inv out b place.1 now result (alone tools seen b place d))
    (hdraws : Draws tools b place now result.2 drawn (some d)) :
    Goes tools inv out b place now drawn (.ended result.1) result.2 := by
  refine ⟨some d, ?_, hrepeats.passes, hdraws⟩
  rw [hrepeats.destination]
  exact .finished (by rw [Phase.outcome?, hrepeats.outcome])

/-- A file that holds nothing to instrument is copied. -/
theorem goes_copied (h : Ground tools inv out b) (hw : World inv out b now) (hmem : place ∈ filesAt [] inv)
    (hentry : now.files.get? (out ++ place.1) = b.files.get? (out ++ place.1))
    (hnot : b.context.cancelled = false) (hplain : place.2.shouldInstrument = false) :
    Goes tools inv out b place now none
      (.ended (copyOne tools ("/".intercalate place.1) (tools.settings.inputRoot.join ⟨.relative, place.1⟩)
        (tools.settings.outputRoot.join ⟨.relative, place.1⟩) now).1)
      (copyOne tools ("/".intercalate place.1) (tools.settings.inputRoot.join ⟨.relative, place.1⟩)
        (tools.settings.outputRoot.join ⟨.relative, place.1⟩) now).2 := by
  obtain ⟨o, ho, -⟩ := alone_ends h hmem now.files now.drawn
  have halone := alone_of_copied tools now.files now.drawn hnot hplain
  rw [halone] at ho
  obtain ⟨hrepeats, hdrawn⟩ := hw.store h hmem hentry (copyOne_storing tools _ _ _) ho
  rw [← halone] at hrepeats
  refine .of_repeats hrepeats (.inr ⟨rfl, rfl, ?_⟩)
  rw [drawnAfter, hplain]
  simpa using hdrawn

/-- A file that is to be instrumented draws its ids. It is instrumented, or it fails as it would by itself. -/
theorem goes_drafted (h : Ground tools inv out b) (hw : World inv out b now) (hmem : place ∈ filesAt [] inv)
    (hentry : now.files.get? (out ++ place.1) = b.files.get? (out ++ place.1))
    (hnot : b.context.cancelled = false) (hinstrument : place.2.shouldInstrument = true)
    (hadvance : advance tools place.2 now (.checked ("/".intercalate place.1)) = some (phase', s)) :
    Goes tools inv out b place now none phase' s := by
  obtain ⟨s₁, hdraft, hdrawn, hpasses, hquiet⟩ := hw.draft h hmem hentry
  have hself := (h.get?_of_onlyLogs hmem hquiet hw.logPlace).trans hentry
  rw [← drawnAfter_of_instrumented tools now.drawn hnot hinstrument] at hdrawn
  rw [advance, (h.fullPath hmem).2, hinstrument, hdraft] at hadvance
  rcases drafted_cases h hmem hinstrument now.drawn with ⟨f, hfails⟩ | ⟨result, hresult, -⟩
  · rw [hfails] at hadvance
    cases hadvance
    have hrepeats := (hpasses.world.settle h hmem hself ("/".intercalate place.1) (.failure f)).after
      hpasses
    rw [← alone_of_undrafted now.files hnot hinstrument hfails] at hrepeats
    exact .of_repeats hrepeats (.inr ⟨rfl, rfl, (settle_sameSide _ _ _ _).drawn.trans hdrawn⟩)
  · rw [hresult] at hadvance
    cases hadvance
    refine ⟨some now.drawn, ?_, hpasses, .inr ⟨rfl, rfl, hdrawn⟩⟩
    rw [hself]
    exact .drafted hnot hinstrument hresult

/-- The formatter answers as it answered for the file by itself. -/
theorem goes_polished {d : Nat} {result : Instrument.Instrumented} (h : Ground tools inv out b)
    (hw : World inv out b now) (hmem : place ∈ filesAt [] inv)
    (hentry : now.files.get? (out ++ place.1) = b.files.get? (out ++ place.1))
    (hnot : b.context.cancelled = false) (hinstrument : place.2.shouldInstrument = true)
    (hdraft : (drafted tools b place d).1 = .ok result)
    (hadvance : advance tools place.2 now (.drafted ("/".intercalate place.1) result) = some (phase', s)) :
    Goes tools inv out b place now (some d) phase' s := by
  rw [advance, (h.fullPath hmem).2, h.formatter.polish] at hadvance
  have hpresentable : Presentable result.text result.missing := by
    rcases drafted_cases h hmem hinstrument d with ⟨f, hfails⟩ | ⟨result', hresult, hready⟩
    · rw [hdraft] at hfails
      cases hfails
    · rw [hdraft] at hresult
      cases hresult
      exact hready
  rcases h.formatter.answers now.files result.text
    (tools.settings.outputRoot.join ⟨.relative, place.1⟩) hpresentable.plain with
    ⟨f, hfails⟩ | ⟨text, hanswer, hplain⟩
  · rw [hfails] at hadvance
    cases hadvance
    have hrepeats := hw.settle h hmem hentry ("/".intercalate place.1) (.failure f)
    rw [← alone_of_unformatted hnot hinstrument hdraft hfails] at hrepeats
    exact .of_repeats hrepeats (.inl ⟨rfl, (settle_sameSide _ _ _ _).drawn⟩)
  · rw [hanswer] at hadvance
    cases hadvance
    refine Course.goes h hw ?_
    rw [hentry]
    exact .polished ⟨hplain, hpresentable.names⟩ (alone_of_formatted hnot hinstrument hdraft hanswer)

/-- A step of the worker that has a file keeps to the course of the file. -/
theorem Course.advance (h : Ground tools inv out b) (hw : World inv out b now)
    (hearly : b.context.cancelled = true → now.context.cancelled = true)
    (hmem : place ∈ filesAt [] inv)
    (hc : Course tools out b place now.context.cancelled phase drawn
      (now.files.get? (out ++ place.1)))
    (hadvance : advance tools place.2 now phase = some (phase', s)) :
    Goes tools inv out b place now drawn phase' s := by
  obtain ⟨hpath, hrelative⟩ := h.fullPath hmem
  generalize hentry : now.files.get? (out ++ place.1) = entry at hc
  -- one case for each phase; before the file is written its destination is as it was
  cases hc with
  | queued => cases hadvance
  | dropped => cases hadvance
  | begun =>
    rw [Emit.advance, hpath] at hadvance
    dsimp only at hadvance
    split at hadvance
    · rename_i hcancelled
      cases hadvance
      exact Course.goes h hw (hentry ▸ .skipped hcancelled rfl)
    · rename_i hgoes
      cases hadvance
      exact Course.goes h hw (hentry ▸ .checked (Bool.eq_false_iff.mpr (mt hearly hgoes)))
  | checked hnot =>
    cases hinstrument : place.2.shouldInstrument with
    | false =>
      rw [Emit.advance, hrelative, hinstrument] at hadvance
      cases hadvance
      exact goes_copied h hw hmem hentry hnot hinstrument
    | true => exact goes_drafted h hw hmem hentry hnot hinstrument hadvance
  | drafted hnot hinstrument hdraft => exact goes_polished h hw hmem hentry hnot hinstrument hdraft hadvance
  | polished hready halone =>
    rw [Emit.advance] at hadvance
    split at hadvance
    · rename_i hcancelled
      cases hadvance
      exact Course.goes h hw (hentry ▸ .skipped hcancelled rfl)
    · cases hadvance
      exact Course.goes h hw (hentry ▸ .ready hready halone)
  | @ready seen d p hready halone =>
    obtain ⟨o, ho, -⟩ := alone_ends h hmem seen d
    rw [Emit.advance, hrelative] at hadvance
    cases hadvance
    rw [halone] at ho
    obtain ⟨hrepeats, hdrawn⟩ := hw.store h hmem hentry (write_storing tools _ _ _ hready) ho
    rw [← halone] at hrepeats
    exact .of_repeats hrepeats (.inl ⟨rfl, hdrawn⟩)
  | finished hend =>
    rw [advance_of_outcome hend] at hadvance
    cases hadvance
  | skipped hcancelled hend =>
    rw [advance_of_outcome hend] at hadvance
    cases hadvance

end Steps

/-! ## The ids -/

theorem le_drawnAfter (tools : Tools) (b : RunState) (place : List String × FileNode) (drawn : Nat) :
    drawn ≤ drawnAfter tools b place drawn := by
  rw [drawnAfter]
  split
  · exact Nat.le_refl drawn
  · rw [drafted]
    split
    · exact Nat.le_refl drawn
    · split
      · exact Nat.le_refl drawn
      · rename_i hrun
        obtain ⟨k, hk, -⟩ := Instrument.instrumentSource_congr hrun hrun
        dsimp only
        omega

/-- Each file that was instrumented has drawn ids of its own, all of them since the pool was opened. -/
structure Windows (tools : Tools) (inv : Inventory) (b : RunState) (drawn : List String → Option Nat)
    (next : Nat) : Prop where
  start : b.drawn ≤ next
  inside : ∀ place ∈ filesAt [] inv, ∀ d, drawn place.1 = some d →
    b.drawn ≤ d ∧ drawnAfter tools b place d ≤ next
  apart : ∀ place ∈ filesAt [] inv, ∀ other ∈ filesAt [] inv, place.1 ≠ other.1 → ∀ d e,
    drawn place.1 = some d → drawn other.1 = some e →
    drawnAfter tools b place d ≤ e ∨ drawnAfter tools b other e ≤ d

theorem Windows.step {drawn : List String → Option Nat} {drawn' : Option Nat} {s : RunState}
    (hw : Windows tools inv b drawn now.drawn) (h : Ground tools inv out b)
    (hmem : place ∈ filesAt [] inv) (hdraws : Draws tools b place now s (drawn place.1) drawn') :
    Windows tools inv b (Function.update drawn place.1 drawn') s.drawn := by
  rcases hdraws with ⟨rfl, hsame⟩ | ⟨hnone, rfl, hnext⟩
  · rw [Function.update_eq_self, hsame]
    exact hw
  · have hgrows := le_drawnAfter tools b place now.drawn
    refine ⟨by have := hw.start; omega, fun other hother d hd => ?_, fun one hone two htwo hne d e hd he => ?_⟩
    · by_cases hself : other.1 = place.1
      · rw [h.eq_of_names hmem hother hself, Function.update_self] at hd
        cases hd
        rw [h.eq_of_names hmem hother hself, hnext]
        exact ⟨hw.start, Nat.le_refl _⟩
      · rw [Function.update_of_ne hself] at hd
        obtain ⟨hstart, hbound⟩ := hw.inside other hother d hd
        exact ⟨hstart, by omega⟩
    · by_cases hfirst : one.1 = place.1
      · rw [Function.update_of_ne (fun heq => hne (hfirst.trans heq.symm))] at he
        rw [hfirst, Function.update_self] at hd
        cases hd
        exact .inr (hw.inside two htwo e he).2
      · rw [Function.update_of_ne hfirst] at hd
        by_cases hsecond : two.1 = place.1
        · rw [hsecond, Function.update_self] at he
          cases he
          exact .inl (hw.inside one hone d hd).2
        · rw [Function.update_of_ne hsecond] at he
          exact hw.apart one hone two htwo hne d e hd he

/-! ## Tasks -/

/-- The outcome of a file that was collected. -/
def Phase.collected? : Phase → Option FileOutcome
  | collected o => some o
  | _ => none

section Tasks

variable {tasks : List Task} {i : Nat} {t : Task} {f : Task → Task}

/-- A file stays what it is in whatever phase. -/
theorem map_file_modify (g : Phase → Phase) (tasks : List Task) (i : Nat) :
    (tasks.modify i fun t => { t with phase := g t.phase }).map (·.file) = tasks.map (·.file) := by
  induction tasks generalizing i with
  | nil => simp
  | cons first rest ih =>
    cases i with
    | zero => simp
    | succ i => simp [ih]

theorem filterMap_modify_of_eq {g : Task → Option FileOutcome} (htask : tasks[i]? = some t)
    (hsame : g (f t) = g t) : (tasks.modify i f).filterMap g = tasks.filterMap g := by
  induction tasks generalizing i with
  | nil => cases htask
  | cons first rest ih =>
    cases i with
    | zero =>
      cases htask
      simp [List.filterMap_cons, hsame]
    | succ i =>
      have hrest := ih htask
      simp [List.filterMap_cons, hrest]

theorem filterMap_modify_perm {g : Task → Option FileOutcome} {o : FileOutcome}
    (htask : tasks[i]? = some t) (hnone : g t = none) (hsome : g (f t) = some o) :
    (tasks.filterMap g ++ [o]).Perm ((tasks.modify i f).filterMap g) := by
  induction tasks generalizing i with
  | nil => cases htask
  | cons first rest ih =>
    cases i with
    | zero =>
      cases htask
      simp only [List.modify_zero_cons, List.filterMap_cons, hnone, hsome]
      exact List.perm_append_singleton o _
    | succ i =>
      have hrest := ih htask
      rw [List.modify_succ_cons, List.filterMap_cons, List.filterMap_cons]
      cases g first with
      | none => exact hrest
      | some first => exact hrest.cons first

end Tasks

theorem advance_collected? {f : FileNode} {s s' : RunState} {phase phase' : Phase}
    (h : advance tools f s phase = some (phase', s')) :
    phase'.collected? = none ∧ phase.collected? = none := by
  obtain ⟨hrunning, -, hnext⟩ := advance_cases h
  constructor
  · rcases hnext with hnext | ⟨result, rfl⟩
    · cases phase' <;> first | rfl | cases hnext
    · rfl
  · cases phase <;> first | rfl | cases hrunning

/-- What taking in an outcome does to a run: it is reported, and the run is cancelled if it has to stop. -/
theorem collect_run (tools : Tools) (c : Collected) (o : FileOutcome) (s : RunState) :
    (collect tools c o s).2.events = s.events ++ [.update (some 1)] ∧
      (collect tools c o s).2.drawn = s.drawn ∧
      Alike s.context (collect tools c o s).2.context ∧
      (collect tools c o s).2.context.cancelled =
        (s.context.cancelled || (tools.settings.failFast && o.status == .failed)) := by
  rw [collect]
  dsimp only
  split
  · rename_i hstops
    simp only [Bool.and_eq_true, decide_eq_true_eq] at hstops
    refine ⟨rfl, rfl, .cancel _, ?_⟩
    rw [hstops.1.1, hstops.1.2]
    exact (Bool.or_true _).symm
  · rename_i hgoes
    refine ⟨rfl, rfl, .refl _, ?_⟩
    rw [show (RunState.report s (.update (some 1))).context = s.context from rfl] at hgoes ⊢
    cases hcancelled : s.context.cancelled with
    | true => rfl
    | false =>
      rw [hcancelled] at hgoes
      cases hfast : tools.settings.failFast with
      | false => rfl
      | true =>
        rw [hfast] at hgoes
        simpa using hgoes

/-! ## The pool -/

/-- At every moment the files of a pool keep to their courses, and the outcomes that were collected are
those of the files that were. The run is cancelled exactly if it has to stop after a failure. -/
structure Sound (tools : Tools) (inv : Inventory) (out : Location) (b : RunState)
    (drawn : List String → Option Nat) (p : Pool) : Prop where
  world : World inv out b p.run
  files : p.tasks.map (·.file) = (filesAt [] inv).map (·.2)
  courses : ∀ (i : Nat) place (t : Task), (filesAt [] inv)[i]? = some place → p.tasks[i]? = some t →
    Course tools out b place p.run.context.cancelled t.phase (drawn place.1)
      (p.run.files.get? (out ++ place.1))
  outcomes : p.collected.outcomes.Perm (p.tasks.filterMap (·.phase.collected?))
  fault : p.collected.fault = none
  events : p.run.events =
    b.events ++ List.replicate p.collected.outcomes.length (.update (some 1))
  cancelled : p.run.context.cancelled = (b.context.cancelled ||
    (tools.settings.failFast && p.collected.outcomes.any (·.status == .failed)))
  pending : p.pending ≠ [] → p.run.context.cancelled = true
  windows : Windows tools inv b drawn p.run.drawn

namespace Sound

variable {drawn : List String → Option Nat} {p p' : Pool} {i : Nat} {t : Task}

theorem exists_place (hs : Sound tools inv out b drawn p) (htask : p.tasks[i]? = some t) :
    ∃ place, (filesAt [] inv)[i]? = some place ∧ t.file = place.2 := by
  have hfile := congrArg (·[i]?) hs.files
  simp only [List.getElem?_map, htask, Option.map_some] at hfile
  obtain ⟨place, hplace, heq⟩ := Option.map_eq_some_iff.mp hfile.symm
  exact ⟨place, hplace, heq.symm⟩

/-- All files keep to their courses when one of them moves on and leaves the others alone. -/
theorem courses_modify (hs : Sound tools inv out b drawn p) (h : Ground tools inv out b)
    (hplace : (filesAt [] inv)[i]? = some place) (htask : p.tasks[i]? = some t) {f : Task → Task}
    {drawn' : List String → Option Nat}
    (hself : Course tools out b place now.context.cancelled (f t).phase (drawn' place.1)
      (now.files.get? (out ++ place.1)))
    (hothers : ∀ other ∈ filesAt [] inv, other.1 ≠ place.1 → drawn' other.1 = drawn other.1 ∧
      now.files.get? (out ++ other.1) = p.run.files.get? (out ++ other.1))
    (hmono : p.run.context.cancelled = true → now.context.cancelled = true) (j : Nat)
    (other : List String × FileNode) (t' : Task) (hother : (filesAt [] inv)[j]? = some other)
    (htask' : (p.tasks.modify i f)[j]? = some t') :
    Course tools out b other now.context.cancelled t'.phase (drawn' other.1)
      (now.files.get? (out ++ other.1)) := by
  rw [List.getElem?_modify] at htask'
  by_cases hij : i = j
  · subst hij
    rw [hplace] at hother
    cases hother
    simp only [htask, if_true, Option.map_some, Option.map_eq_map] at htask'
    cases htask'
    exact hself
  · simp only [if_neg hij, Option.map_eq_map, Option.map_id_fun', id_eq] at htask'
    have hne : other.1 ≠ place.1 := by
      intro heq
      obtain ⟨base, hscan⟩ := h.scanned
      have hnodup := (List.nodup_append.mp hscan.nodup_placesAt).2.1
      refine hij ((List.getElem?_inj ?_ hnodup).mp ?_)
      · rw [List.length_map]
        exact (List.getElem?_eq_some_iff.mp hplace).1
      · rw [List.getElem?_map, List.getElem?_map, hplace, hother, Option.map_some, Option.map_some,
          heq]
    obtain ⟨hdrawn, hentry⟩ := hothers other (List.mem_of_getElem? hother) hne
    rw [hdrawn, hentry]
    exact (hs.courses j other t' hother htask').mono hmono

/-- A worker takes a file. -/
theorem take (hs : Sound tools inv out b drawn p) (h : Ground tools inv out b)
    (htask : p.tasks[i]? = some t) (hqueued : t.phase = .queued) :
    Sound tools inv out b drawn (p.move i .begun) := by
  obtain ⟨place, hplace, -⟩ := hs.exists_place htask
  have hcourse := hs.courses i place t hplace htask
  rw [hqueued] at hcourse
  have hbegun : Course tools out b place p.run.context.cancelled .begun (drawn place.1)
      (p.run.files.get? (out ++ place.1)) := by
    generalize drawn place.1 = d at hcourse ⊢
    generalize p.run.files.get? (out ++ place.1) = entry at hcourse ⊢
    cases hcourse with
    | queued => exact .begun
    | finished hend => cases hend
    | skipped _ hend => cases hend
  refine ⟨hs.world, (map_file_modify (fun _ => .begun) _ _).trans hs.files, ?_, ?_, hs.fault, hs.events,
    hs.cancelled, hs.pending, hs.windows⟩
  · exact hs.courses_modify h hplace htask hbegun (fun _ _ _ => ⟨rfl, rfl⟩) id
  · refine hs.outcomes.trans (.of_eq ?_)
    exact (filterMap_modify_of_eq htask (by rw [hqueued]; rfl)).symm

/-- A worker goes on with its file. -/
theorem work {phase : Phase} {s : RunState} (hs : Sound tools inv out b drawn p)
    (h : Ground tools inv out b) (htask : p.tasks[i]? = some t)
    (hadvance : advance tools t.file p.run t.phase = some (phase, s)) :
    ∃ drawn', Sound tools inv out b drawn' { p.move i phase with run := s } := by
  obtain ⟨place, hplace, hfile⟩ := hs.exists_place htask
  have hmem := List.mem_of_getElem? hplace
  rw [hfile] at hadvance
  have hearly (hb : b.context.cancelled = true) : p.run.context.cancelled = true := by
    rw [hs.cancelled, hb, Bool.true_or]
  obtain ⟨drawn', hcourse, hpasses, hdraws⟩ :=
    (hs.courses i place t hplace htask).advance h hs.world hearly hmem hadvance
  refine ⟨Function.update drawn place.1 drawn', hpasses.world,
    (map_file_modify (fun _ => phase) _ _).trans hs.files, ?_, ?_, hs.fault,
    hpasses.events.trans hs.events, hpasses.cancelled.trans hs.cancelled,
    fun hpending => hpasses.cancelled.trans (hs.pending hpending), hs.windows.step h hmem hdraws⟩
  · refine hs.courses_modify h hplace htask ?_ (fun other hother hne => ?_)
      fun hcancelled => hpasses.cancelled.trans hcancelled
    · rw [Function.update_self]
      exact hcourse
    · exact ⟨Function.update_of_ne hne _ _, hpasses.others other hother hne⟩
  · obtain ⟨hnew, hold⟩ := advance_collected? hadvance
    refine hs.outcomes.trans (.of_eq ?_)
    exact (filterMap_modify_of_eq htask (hnew.trans hold.symm)).symm

/-- A file that still waits is dropped. -/
theorem drop {rest : List Nat} (hs : Sound tools inv out b drawn p) (h : Ground tools inv out b)
    (hpending : p.pending = i :: rest) :
    Sound tools inv out b drawn
      { p with
        tasks := p.tasks.modify i fun t => { t with phase := t.phase.drop }
        pending := rest } := by
  have hcancelled := hs.pending (by rw [hpending]; exact List.cons_ne_nil i rest)
  refine ⟨hs.world, (map_file_modify Phase.drop _ _).trans hs.files, ?_, ?_, hs.fault, hs.events,
    hs.cancelled, fun _ => hcancelled, hs.windows⟩
  · cases htask : p.tasks[i]? with
    | none =>
      rw [List.modify_eq_self (List.getElem?_eq_none_iff.mp htask)]
      exact hs.courses
    | some t =>
      obtain ⟨place, hplace, -⟩ := hs.exists_place htask
      have hcourse := hs.courses i place t hplace htask
      refine hs.courses_modify h hplace htask ?_ (fun _ _ _ => ⟨rfl, rfl⟩) id
      dsimp only
      cases hphase : t.phase with
      | queued =>
        rw [hphase] at hcourse
        generalize drawn place.1 = d at hcourse ⊢
        generalize p.run.files.get? (out ++ place.1) = entry at hcourse ⊢
        cases hcourse with
        | queued => exact .dropped hcancelled
        | finished hend => cases hend
        | skipped _ hend => cases hend
      | _ =>
        rw [hphase] at hcourse
        exact hcourse
  · refine hs.outcomes.trans (.of_eq ?_)
    cases htask : p.tasks[i]? with
    | none => rw [List.modify_eq_self (List.getElem?_eq_none_iff.mp htask)]
    | some t =>
      refine (filterMap_modify_of_eq htask ?_).symm
      cases t.phase <;> rfl

/-- The outcome of a file is taken in. -/
theorem collect {result : Except Fault FileOutcome} (hs : Sound tools inv out b drawn p)
    (h : Ground tools inv out b) (htask : p.tasks[i]? = some t)
    (hresult : t.phase.result? t.file = some result) :
    Sound tools inv out b drawn (p.takeIn tools i result) := by
  obtain ⟨place, hplace, hfile⟩ := hs.exists_place htask
  have hmem := List.mem_of_getElem? hplace
  have hold : t.phase.collected? = none := by
    cases hphase : t.phase with
    | collected o =>
      rw [hphase] at hresult
      cases hresult
    | _ => rfl
  rw [hfile] at hresult
  obtain ⟨o, rfl, hcourse⟩ := (hs.courses i place t hplace htask).collect h hmem hresult
  obtain ⟨hevents, hdrawn, halike, hcancelled⟩ := collect_run tools p.collected o p.run
  have hquiet := collect_onlyLogs tools p.collected o p.run
  have hc := Pool.collect_cases tools p.collected o p.run
  have hcontext := hs.world.context.trans halike
  have hsame {other : List String × FileNode} (hother : other ∈ filesAt [] inv) :=
    h.get?_of_onlyLogs hother hquiet hs.world.logPlace
  -- what is collected may cancel the run, but no cancellation is taken back
  have hmono : p.run.context.cancelled = true →
      (Emit.collect tools p.collected o p.run).2.context.cancelled = true := by
    intro hbefore
    rw [hcancelled, hbefore, Bool.true_or]
  rw [Pool.takeIn_ok]
  refine ⟨hs.world.of_onlyLogs h hquiet hcontext,
    (map_file_modify (fun _ => .collected o) _ _).trans hs.files, ?_, ?_, ?_, ?_, ?_, fun hmore => ?_, ?_⟩
  · refine hs.courses_modify h hplace htask ?_ (fun other hother _ => ⟨rfl, hsame hother⟩) hmono
    dsimp only
    rw [hsame hmem]
    exact hcourse.mono hmono
  · rw [hc]
    exact (hs.outcomes.append_right [o]).trans (filterMap_modify_perm htask hold rfl)
  · rw [hc]
    exact hs.fault
  · dsimp only
    rw [hc, hevents, hs.events, List.append_assoc, List.length_append, List.length_singleton,
      List.replicate_succ']
  · dsimp only
    rw [hc, hcancelled, hs.cancelled, List.any_append, Bool.and_or_distrib_left, Bool.or_assoc]
    simp
  · dsimp only at hmore ⊢
    rw [hc] at hmore
    rw [hcancelled]
    cases hfailed : decide (o.status = .failed) && tools.settings.failFast with
    | false =>
      rw [hfailed] at hmore
      simp at hmore
    | true =>
      simp only [Bool.and_eq_true, decide_eq_true_eq] at hfailed
      rw [hfailed.1, hfailed.2]
      exact Bool.or_true _
  · dsimp only
    rw [hdrawn]
    exact hs.windows

/-- Every action keeps a pool sound. -/
theorem step {workers : Nat} {action : Action} (hs : Sound tools inv out b drawn p)
    (h : Ground tools inv out b) (hstep : Pool.Stepped tools workers p action p') :
    ∃ drawn', Sound tools inv out b drawn' p' := by
  cases hstep with
  | take htask hqueued => exact ⟨drawn, hs.take h htask hqueued⟩
  | work htask hadvance => exact hs.work h htask hadvance
  | collect htask hresult => exact ⟨drawn, hs.collect h htask hresult⟩
  | drop hpending => exact ⟨drawn, hs.drop h hpending⟩

end Sound

/-- A pool is sound when it is opened. -/
theorem sound_ofFiles (h : Ground tools inv out b) :
    Sound tools inv out b (fun _ => none) (.ofFiles ((filesAt [] inv).map (·.2)) b) := by
  have hqueued (t : Task) (ht : t ∈ (Pool.ofFiles ((filesAt [] inv).map (·.2)) b).tasks) :
      t.phase = .queued := by
    obtain ⟨f, -, rfl⟩ := List.mem_map.mp ht
    rfl
  refine ⟨.refl h b.drawn, ?_, fun i place t _ htask => ?_, ?_, rfl, (List.append_nil _).symm, ?_,
    fun hpending => absurd rfl hpending, Nat.le_refl _, nofun, nofun⟩
  · rw [Pool.files_ofFiles]
  · rw [hqueued t (List.mem_of_getElem? htask)]
    exact .queued
  · refine .of_eq (List.filterMap_eq_nil_iff.mpr fun t ht => ?_).symm
    rw [hqueued t ht]
    rfl
  · simp [Pool.ofFiles]

/-- A pool stays sound whatever the schedule. -/
theorem sound_of_follow {workers : Nat} {schedule : List Action} {p : Pool} (h : Ground tools inv out b)
    (hfollow : (Pool.ofFiles ((filesAt [] inv).map (·.2)) b).follow tools workers schedule = some p) :
    ∃ drawn, Sound tools inv out b drawn p :=
  Pool.follow_induction (motive := fun p => ∃ drawn, Sound tools inv out b drawn p)
    (fun _ _ _ ⟨_, hs⟩ hstep => hs.step h hstep) ⟨_, sound_ofFiles h⟩ hfollow

/-! ## When a pool has finished -/

theorem exists_of_forall₂ {α β : Type} {R : α → β → Prop} {as : List α} {bs : List β}
    (h : List.Forall₂ R as bs) {a : α} (ha : a ∈ as) : ∃ b ∈ bs, R a b := by
  induction h with
  | nil => cases ha
  | cons hr hrest ih =>
    rcases List.mem_cons.mp ha with rfl | ha
    · exact ⟨_, List.mem_cons_self, hr⟩
    · obtain ⟨b, hb, hr'⟩ := ih ha
      exact ⟨b, List.mem_cons_of_mem _ hb, hr'⟩

/-- A file that was collected has the outcome that it would have by itself, or it was passed over. -/
theorem Course.of_collected {cancelled : Bool} {o : FileOutcome} {drawn : Option Nat}
    {entry : Option Entry} (hc : Course tools out b place cancelled (.collected o) drawn entry) :
    (∃ seen d, drawn = some d ∧ (alone tools seen b place d).1 = .ok o ∧
      entry = (alone tools seen b place d).2.files.get? (out ++ place.1)) ∨
    (cancelled = true ∧ o = ⟨"/".intercalate place.1, .cancelled, ""⟩ ∧
      entry = b.files.get? (out ++ place.1)) := by
  cases hc with
  | finished hend => exact .inl ⟨_, _, rfl, (Option.some.inj hend).symm, rfl⟩
  | skipped hcancelled hend =>
    cases hend
    exact .inr ⟨hcancelled, rfl, rfl⟩

/-- When a pool has finished, each file has its outcome. -/
theorem Sound.exists_outcomes {drawn : List String → Option Nat} {p : Pool}
    (hs : Sound tools inv out b drawn p) (hfinished : p.isFinished = true) :
    ∃ os, p.tasks.map (·.phase) = os.map .collected ∧ p.collected.outcomes.Perm os ∧
      List.Forall₂ (fun place o => Course tools out b place p.run.context.cancelled (.collected o)
        (drawn place.1) (p.run.files.get? (out ++ place.1))) (filesAt [] inv) os := by
  rw [Pool.isFinished, hs.fault] at hfinished
  simp only [Option.isSome_none, Bool.false_eq_true, if_false, Bool.and_eq_true, List.all_eq_true]
    at hfinished
  have hall : ∀ t ∈ p.tasks, ∃ o, t.phase = .collected o := by
    intro t ht
    have hcollected := hfinished.2 t ht
    cases hphase : t.phase with
    | collected o => exact ⟨o, rfl⟩
    | _ =>
      rw [hphase] at hcollected
      cases hcollected
  choose! outcome houtcome using hall
  have hmap : p.tasks.filterMap (·.phase.collected?) = p.tasks.map outcome := by
    rw [← List.filterMap_eq_map]
    refine List.filterMap_congr fun t ht => ?_
    rw [houtcome t ht]
    rfl
  have hlength : (filesAt [] inv).length = p.tasks.length := by
    have hfiles := congrArg List.length hs.files
    rw [List.length_map, List.length_map] at hfiles
    exact hfiles.symm
  refine ⟨p.tasks.map outcome, ?_, hmap ▸ hs.outcomes, ?_⟩
  · rw [List.map_map]
    exact List.map_congr_left houtcome
  · rw [List.forall₂_map_right_iff, List.forall₂_iff_get]
    refine ⟨hlength, fun i hi hi' => ?_⟩
    have hcourse := hs.courses i _ _ (List.getElem?_eq_getElem hi) (List.getElem?_eq_getElem hi')
    rw [houtcome _ (List.getElem_mem hi')] at hcourse
    exact hcourse

/-- The outcomes of files are at their paths. -/
theorem paths_of_outcomes (h : Ground tools inv out b) {R : List String × FileNode → FileOutcome → Prop}
    (hR : ∀ place ∈ filesAt [] inv, ∀ o, R place o → o.path = "/".intercalate place.1)
    {places : List (List String × FileNode)} (hsub : places ⊆ filesAt [] inv) {os : List FileOutcome}
    (hos : List.Forall₂ R places os) :
    os.map (·.path) = (places.map (·.2)).map (·.fullPath.plain) := by
  induction hos with
  | nil => rfl
  | cons ho _ ih =>
    obtain ⟨hmem, hrest⟩ := List.cons_subset.mp hsub
    rw [List.map_cons, List.map_cons, List.map_cons, ih hrest, hR _ hmem _ ho, (h.fullPath hmem).1]
    rfl

theorem Ground.nodup_paths (h : Ground tools inv out b) :
    (inv.files.map (·.fullPath.plain)).Nodup := by
  obtain ⟨base, hscan⟩ := h.scanned
  rw [Inventory.files_eq [], List.map_map]
  have hnodup := (List.nodup_append.mp hscan.nodup_placesAt).2.1
  refine List.Nodup.map_on (fun place hmem other hother heq => ?_) (List.Nodup.of_map _ hnodup)
  dsimp only [Function.comp_apply] at heq
  rw [(h.fullPath hmem).1, (h.fullPath hother).1] at heq
  have hnames := congrArg Path.ofText (show "/".intercalate place.1 = "/".intercalate other.1 from heq)
  rw [(h.fullPath hmem).2, (h.fullPath hother).2] at hnames
  exact (h.eq_of_names hmem hother (Files.Path.mk.inj hnames).2.symm).symm

end JsxTagger.Emit
