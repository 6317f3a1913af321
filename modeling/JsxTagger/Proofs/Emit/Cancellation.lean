import JsxTagger.Proofs.Emit.Courses
import JsxTagger.Proofs.Emit.Opening

/-!
# Stopping after a failure

With `failFast`, the first failure that is collected cancels the run. However a pool is scheduled then, each
file has one outcome, and the destination of a file that failed or was cancelled is as it was before the run
(`follow_stops`). A worker that finds the run cancelled when it first looks leaves its file alone. With one
worker that takes no file while a failure is still to be collected, the files come in line (`Line`): those that
were written, then the one that failed, then those that were passed over.
-/

namespace JsxTagger.Emit

open Files
open Inventory (Scanned directoriesAt filesAt placesAt mem_placesAt)

variable {tools : Tools} {inv : Inventory} {out : Location} {b : RunState} {workers : Nat}
  {place : List String × FileNode} {p p' : Pool} {action : Action} {tasks : List Task} {t : Task} {i : Nat}
  {o : FileOutcome}

/-! ## What became of a file -/

/-- In a run that was not cancelled at first, a file that a worker is done with was written, or its
destination is as it was. It is passed over only if the run was cancelled meanwhile. -/
theorem Course.outcome_cases {cancelled : Bool} {phase : Phase} {drawn : Option Nat}
    {entry : Option Entry} {result : Except Fault FileOutcome} (h : Ground tools inv out b)
    (hmem : place ∈ filesAt [] inv) (hearly : b.context.cancelled = false)
    (hc : Course tools out b place cancelled phase drawn entry) (hend : phase.outcome? = some result) :
    ∃ o, result = .ok o ∧ o.path = "/".intercalate place.1 ∧
      (o.status.isWritten = true ∨
        (o.status = .failed ∧ entry = b.files.get? (out ++ place.1)) ∨
        (o.status = .cancelled ∧ cancelled = true ∧ entry = b.files.get? (out ++ place.1))) := by
  cases hc with
  | @finished _ seen d hended =>
    obtain ⟨o, ho, hpath, hends⟩ := alone_ends h hmem seen d
    obtain rfl := Option.some.inj (hend.symm.trans hended)
    refine ⟨o, ho, hpath, ?_⟩
    cases hends with
    | cancelled hcancelled =>
      rw [hearly] at hcancelled
      cases hcancelled
    | written _ hstatus => exact .inl hstatus
    | failed _ hstatus hsame => exact .inr (.inl ⟨hstatus, hsame⟩)
  | skipped hcancelled hended =>
    obtain rfl := Option.some.inj (hend.symm.trans hended)
    exact ⟨_, rfl, rfl, .inr (.inr ⟨rfl, hcancelled, rfl⟩)⟩
  | _ => cases hend

/-- What became of a file stays when files that wait are dropped. -/
theorem Phase.outcome?_drop {phase : Phase} {result : Except Fault FileOutcome}
    (h : phase.outcome? = some result) : phase.drop.outcome? = some result := by
  cases phase with
  | queued => cases h
  | _ => exact h

/-- Nothing became yet of a file that a worker has. -/
theorem Phase.outcome?_of_isRunning {phase : Phase} (h : phase.isRunning = true) :
    phase.outcome? = none := by
  cases phase <;> first | rfl | simp [isRunning] at h

theorem Phase.result?_of_isRunning {phase : Phase} {f : FileNode} (h : phase.isRunning = true) :
    phase.result? f = none := by
  cases phase <;> first | rfl | simp [isRunning] at h

/-- A worker that looks for the first time after the run was cancelled is done with its file. -/
theorem advance_begun_of_cancelled {f : FileNode} {rel : String} {s : RunState}
    (hpath : f.fullPath = .str rel) (hcancelled : s.context.cancelled = true) :
    advance tools f s .begun = some (.ended (.ok ⟨rel, .cancelled, ""⟩), s) := by
  rw [advance, hpath]
  exact if_pos hcancelled

namespace Pool

/-- What became of a file stays so, and no worker goes on with it. -/
theorem outcome_step (hend : p.tasks[i]?.bind (·.phase.outcome?) = some (.ok o))
    (hstep : Stepped tools workers p action p') :
    action ≠ .work i ∧ p'.tasks[i]?.bind (·.phase.outcome?) = some (.ok o) := by
  obtain ⟨t, htask, hphase⟩ := Option.bind_eq_some_iff.mp hend
  -- the other files do not matter
  have hother {f : Task → Task} {j : Nat} (hne : j ≠ i) :
      (p.tasks.modify j f)[i]?.bind (·.phase.outcome?) = some (.ok o) := by
    rw [List.getElem?_modify_ne _ _ hne]
    exact hend
  have hself {f : Task → Task} (hsame : (f t).phase.outcome? = some (.ok o)) :
      (p.tasks.modify i f)[i]?.bind (·.phase.outcome?) = some (.ok o) := by
    rw [List.getElem?_modify_eq, htask]
    exact hsame
  cases hstep with
  | @take j t' htask' hqueued =>
    refine ⟨nofun, hother fun heq => ?_⟩
    rw [heq, htask] at htask'
    cases htask'
    rw [hqueued] at hphase
    cases hphase
  | @work j t' phase s htask' hadvance =>
    have hne : j ≠ i := by
      rintro rfl
      rw [htask] at htask'
      cases htask'
      rw [advance_of_outcome hphase] at hadvance
      cases hadvance
    exact ⟨fun heq => hne (Action.work.inj heq), hother hne⟩
  | @collect j t' result htask' hresult =>
    refine ⟨nofun, ?_⟩
    by_cases hij : j = i
    · subst hij
      rw [htask] at htask'
      cases htask'
      obtain rfl := Phase.result?_unique hphase hresult
      exact hself rfl
    · cases result with
      | error fault => exact hend
      | ok o' => exact hother hij
  | @drop j rest hpending =>
    refine ⟨nofun, ?_⟩
    by_cases hij : j = i
    · subst hij
      exact hself (Phase.outcome?_drop hphase)
    · exact hother hij

theorem outcome_follow {schedule : List Action}
    (hend : p.tasks[i]?.bind (·.phase.outcome?) = some (.ok o))
    (h : p.follow tools workers schedule = some p') :
    Action.work i ∉ schedule ∧ p'.tasks[i]?.bind (·.phase.outcome?) = some (.ok o) := by
  induction schedule generalizing p with
  | nil =>
    cases h
    exact ⟨List.not_mem_nil, hend⟩
  | cons action schedule ih =>
    rw [follow_cons] at h
    obtain ⟨mid, hmid, hrest⟩ := Option.bind_eq_some_iff.mp h
    obtain ⟨hne, hmidEnd⟩ := outcome_step hend (step_eq_some.mp hmid)
    obtain ⟨hnot, hlast⟩ := ih hmidEnd hrest
    exact ⟨List.not_mem_cons_of_ne_of_not_mem hne.symm hnot, hlast⟩

end Pool

/-! ## One worker that waits -/

/-- Whether a worker takes a file. -/
def Action.isTake : Action → Bool
  | take _ => true
  | _ => false

namespace Pool

/-- Whether the failure of a file is still to be collected. -/
def hasFailure (p : Pool) : Bool :=
  p.tasks.any fun t =>
    match t.phase with
    | .ended (.ok o) => o.status == .failed
    | _ => false

/-- Whether no file is taken while a failure is still to be collected. -/
def waits (tools : Tools) (workers : Nat) : Pool → List Action → Bool
  | _, [] => true
  | p, action :: schedule =>
    !(action.isTake && p.hasFailure) && (p.step tools workers action).all (waits tools workers · schedule)

end Pool

/-- Whether a file waits until it is dropped, or is left alone by the worker that has it. -/
def Phase.isPassedOver : Phase → Bool
  | queued | dropped | begun => true
  | ended (.ok o) | collected o => o.status == .cancelled
  | _ => false

theorem Phase.eq_begun {phase : Phase} (hrunning : phase.isRunning = true)
    (hpassed : phase.isPassedOver = true) : phase = .begun := by
  cases phase <;> simp_all [isRunning, isPassedOver]

/-- Files in line, in a run that was cancelled or not: files that were written, then one that a worker has or
that failed, and behind it files that wait or, once the run was cancelled, are passed over. -/
inductive Line : Bool → List Task → Prop where
  | waiting {tasks : List Task} (hrest : ∀ t ∈ tasks, t.phase = .queued) : Line false tasks
  | busy {t : Task} {tasks : List Task} (hrunning : t.phase.isRunning = true)
      (hrest : ∀ t ∈ tasks, t.phase = .queued) : Line false (t :: tasks)
  | failing {t : Task} {tasks : List Task} {o : FileOutcome} (hphase : t.phase = .ended (.ok o))
      (hfailed : o.status = .failed) (hrest : ∀ t ∈ tasks, t.phase = .queued) : Line false (t :: tasks)
  | stopped {t : Task} {tasks : List Task} {o : FileOutcome} (hphase : t.phase = .collected o)
      (hfailed : o.status = .failed) (hrest : ∀ t ∈ tasks, t.phase.isPassedOver = true) :
      Line true (t :: tasks)
  | written {cancelled : Bool} {t : Task} {tasks : List Task} {o : FileOutcome}
      (hend : t.phase.outcome? = some (.ok o)) (hwritten : o.status.isWritten = true)
      (hrest : Line cancelled tasks) : Line cancelled (t :: tasks)

theorem forall_mem_modify {P : Task → Prop} {f : Task → Task} (hall : ∀ t ∈ tasks, P t)
    (hnew : ∀ t, tasks[i]? = some t → P (f t)) : ∀ t ∈ tasks.modify i f, P t := by
  intro t ht
  obtain ⟨j, htask⟩ := List.mem_iff_getElem?.mp ht
  by_cases hij : i = j
  · subst hij
    rw [List.getElem?_modify_eq] at htask
    obtain ⟨old, hold, rfl⟩ := Option.map_eq_some_iff.mp htask
    exact hnew old hold
  · rw [List.getElem?_modify_ne _ _ hij] at htask
    exact hall t (List.mem_of_getElem? htask)

namespace Line

variable {cancelled : Bool}

/-- The worker takes the first file that waits. -/
theorem take (hl : Line cancelled tasks) (htask : tasks[i]? = some t) (hqueued : t.phase = .queued)
    (hfirst : ∀ t ∈ tasks.take i, t.phase ≠ .queued)
    (hidle : ∀ t ∈ tasks, t.phase.isRunning = false)
    (hwaits : ∀ t ∈ tasks, ∀ o, t.phase = .ended (.ok o) → o.status ≠ .failed) :
    Line cancelled (tasks.modify i ({ · with phase := .begun })) := by
  induction hl generalizing i with
  | @waiting tasks hrest =>
    cases tasks with
    | nil => cases htask
    | cons first tasks =>
      cases i with
      | zero => exact .busy rfl fun t ht => hrest t (List.mem_cons_of_mem _ ht)
      | succ i => exact absurd (hrest first List.mem_cons_self) (hfirst first List.mem_cons_self)
  | busy hrunning =>
    have hnot := hidle _ List.mem_cons_self
    rw [hrunning] at hnot
    cases hnot
  | failing hphase hfailed => exact absurd hfailed (hwaits _ List.mem_cons_self _ hphase)
  | stopped hphase hfailed hrest =>
    cases i with
    | zero =>
      cases htask
      rw [hqueued] at hphase
      cases hphase
    | succ i => exact .stopped hphase hfailed (forall_mem_modify hrest fun _ _ => rfl)
  | written hend hwritten _ ih =>
    cases i with
    | zero =>
      cases htask
      rw [hqueued] at hend
      cases hend
    | succ i =>
      exact .written hend hwritten (ih htask (fun t ht => hfirst t (List.mem_cons_of_mem _ ht))
        (fun t ht => hidle t (List.mem_cons_of_mem _ ht))
        fun t ht => hwaits t (List.mem_cons_of_mem _ ht))

/-- The worker goes on with its file. -/
theorem work {phase : Phase} (hl : Line cancelled tasks) (htask : tasks[i]? = some t)
    (hrunning : t.phase.isRunning = true)
    (hnext : cancelled = false → phase.isRunning = true ∨
      ∃ o, phase = .ended (.ok o) ∧ (o.status.isWritten = true ∨ o.status = .failed))
    (hstops : cancelled = true → t.phase = .begun → phase.isPassedOver = true) :
    Line cancelled (tasks.modify i ({ · with phase })) := by
  -- a file that still waits is not the one the worker has
  have hidle {tasks : List Task} {j : Nat} (hrest : ∀ t ∈ tasks, t.phase = .queued)
      (htask : tasks[j]? = some t) : False := by
    rw [hrest t (List.mem_of_getElem? htask)] at hrunning
    cases hrunning
  induction hl generalizing i with
  | waiting hrest => exact (hidle hrest htask).elim
  | busy _ hrest =>
    cases i with
    | zero =>
      rcases hnext rfl with hphase | ⟨o, rfl, hwritten | hfailed⟩
      · exact .busy hphase hrest
      · exact .written rfl hwritten (.waiting hrest)
      · exact .failing rfl hfailed hrest
    | succ i => exact (hidle hrest htask).elim
  | failing hphase _ hrest =>
    cases i with
    | zero =>
      cases htask
      rw [hphase] at hrunning
      cases hrunning
    | succ i => exact (hidle hrest htask).elim
  | stopped hphase hfailed hrest =>
    cases i with
    | zero =>
      cases htask
      rw [hphase] at hrunning
      cases hrunning
    | succ i =>
      refine .stopped hphase hfailed (forall_mem_modify hrest fun t' htask' => hstops rfl ?_)
      exact Phase.eq_begun hrunning (hrest t (List.mem_of_getElem? htask))
  | written hend hwritten _ ih =>
    cases i with
    | zero =>
      cases htask
      rw [Phase.outcome?_of_isRunning hrunning] at hend
      cases hend
    | succ i => exact .written hend hwritten (ih htask hnext hstops)

/-- The outcome of a file is collected. After a failure the others are passed over. -/
theorem collect (hl : Line cancelled tasks) (htask : tasks[i]? = some t)
    (hresult : t.phase.result? t.file = some (.ok o)) :
    Line (cancelled || o.status == .failed) (tasks.modify i ({ · with phase := .collected o })) := by
  -- a file that still waits has no outcome to be collected
  have hidle {tasks : List Task} {j : Nat} (hrest : ∀ t ∈ tasks, t.phase = .queued)
      (htask : tasks[j]? = some t) : False := by
    rw [hrest t (List.mem_of_getElem? htask)] at hresult
    cases hresult
  induction hl generalizing i with
  | waiting hrest => exact (hidle hrest htask).elim
  | busy hrunning hrest =>
    cases i with
    | zero =>
      cases htask
      rw [Phase.result?_of_isRunning hrunning] at hresult
      cases hresult
    | succ i => exact (hidle hrest htask).elim
  | failing hphase hfailed hrest =>
    cases i with
    | zero =>
      cases htask
      rw [hphase] at hresult
      cases hresult
      rw [hfailed]
      exact .stopped rfl hfailed fun t ht => by rw [hrest t ht]; rfl
    | succ i => exact (hidle hrest htask).elim
  | stopped hphase hfailed hrest =>
    cases i with
    | zero =>
      cases htask
      rw [hphase] at hresult
      cases hresult
    | succ i =>
      refine .stopped hphase hfailed (forall_mem_modify hrest fun t' htask' => ?_)
      have hpassed := hrest t (List.mem_of_getElem? htask)
      cases hcase : t.phase <;> rw [hcase] at hresult hpassed <;> cases hresult
      · rfl
      · exact hpassed
  | @written cancelled first tasks o' hend hwritten hrest ih =>
    cases i with
    | zero =>
      cases htask
      obtain rfl := Except.ok.inj (Phase.result?_unique hend hresult)
      have hnot : (o.status == .failed) = false := by
        cases hstatus : o.status <;> rw [hstatus] at hwritten <;> first | rfl | cases hwritten
      rw [hnot, Bool.or_false]
      exact .written rfl hwritten hrest
    | succ i => exact .written hend hwritten (ih htask)

/-- A file that still waits is dropped. -/
theorem drop (hl : Line cancelled tasks) (hcancelled : cancelled = true) (i : Nat) :
    Line cancelled (tasks.modify i fun t => { t with phase := t.phase.drop }) := by
  induction hl generalizing i with
  | waiting => cases hcancelled
  | busy => cases hcancelled
  | failing => cases hcancelled
  | stopped hphase hfailed hrest =>
    cases i with
    | zero => exact .stopped (by dsimp only; rw [hphase]; rfl) hfailed hrest
    | succ i =>
      refine .stopped hphase hfailed (forall_mem_modify hrest fun t htask => ?_)
      have hpassed := hrest t (List.mem_of_getElem? htask)
      dsimp only
      cases hcase : t.phase <;> rw [hcase] at hpassed <;> exact hpassed
  | @written _ t _ _ hend hwritten hrest ih =>
    cases i with
    | zero =>
      exact .written (Phase.outcome?_drop hend) hwritten hrest
    | succ i => exact .written hend hwritten (ih hcancelled i)

/-- Every action keeps the files in line, if the worker waits. -/
theorem step {drawn drawn' : List String → Option Nat} (hl : Line p.run.context.cancelled p.tasks)
    (hs : Sound tools inv out b drawn p) (hs' : Sound tools inv out b drawn' p')
    (h : Ground tools inv out b) (hearly : b.context.cancelled = false)
    (heager : tools.settings.failFast = true) (hstep : Pool.Stepped tools 1 p action p')
    (hwaits : action.isTake = true → p.hasFailure = false) :
    Line p'.run.context.cancelled p'.tasks := by
  cases hstep with
  | @take i t htask hqueued hfree hfirst =>
    refine hl.take htask hqueued hfirst (fun t ht => ?_) fun t ht o hended hfailed => ?_
    · have hnone : p.running = 0 := by omega
      exact Bool.eq_false_iff.mpr (List.countP_eq_zero.mp hnone t ht)
    · have hnot := List.any_eq_false.mp (hwaits rfl) t ht
      rw [hended] at hnot
      exact hnot (beq_iff_eq.mpr hfailed)
  | @work i t phase s htask hadvance =>
    obtain ⟨place, hplace, hfile⟩ := hs.exists_place htask
    have hmem := List.mem_of_getElem? hplace
    obtain ⟨hrunning, -, hnext⟩ := advance_cases hadvance
    have hcourse := hs'.courses i place _ hplace
      (show (p.move i phase).tasks[i]? = some { t with phase } by
        rw [Pool.move, List.getElem?_modify_eq, htask]
        rfl)
    -- working on a file cancels nothing, only collecting does
    have hsame : s.context.cancelled = p.run.context.cancelled := by
      rw [hs.cancelled]
      exact hs'.cancelled
    dsimp only at hcourse ⊢
    rw [hsame] at hcourse ⊢
    refine hl.work htask hrunning (fun hgoes => ?_) fun hcancelled hbegun => ?_
    · refine hnext.imp_right ?_
      rintro ⟨result, hended⟩
      obtain ⟨o, rfl, -, hcases⟩ := hcourse.outcome_cases h hmem hearly
        (by rw [hended]; rfl)
      refine ⟨o, hended, ?_⟩
      rcases hcases with hwritten | ⟨hfailed, -⟩ | ⟨-, hcancelled, -⟩
      · exact .inl hwritten
      · exact .inr hfailed
      · rw [hgoes] at hcancelled
        cases hcancelled
    · rw [hbegun, hfile, advance_begun_of_cancelled (h.fullPath hmem).1 hcancelled] at hadvance
      cases hadvance
      rfl
  | @collect i t result htask hresult hpending hfault =>
    obtain ⟨place, hplace, hfile⟩ := hs.exists_place htask
    have hmem := List.mem_of_getElem? hplace
    have hcollected := hresult
    rw [hfile] at hcollected
    obtain ⟨o, rfl, -⟩ := (hs.courses i place t hplace htask).collect h hmem hcollected
    obtain ⟨-, -, -, hcancelled⟩ := collect_run tools p.collected o p.run
    rw [Pool.takeIn_ok]
    dsimp only
    rw [hcancelled, heager, Bool.true_and]
    exact hl.collect htask hresult
  | @drop i rest hpending =>
    exact hl.drop (hs.pending (by rw [hpending]; exact List.cons_ne_nil i rest)) i

/-- The files stay in line whatever the schedule, if the worker waits. -/
theorem follow {schedule : List Action} {drawn : List String → Option Nat}
    (hl : Line p.run.context.cancelled p.tasks) (hs : Sound tools inv out b drawn p)
    (h : Ground tools inv out b) (hearly : b.context.cancelled = false)
    (heager : tools.settings.failFast = true) (hfollow : p.follow tools 1 schedule = some p')
    (hwaits : p.waits tools 1 schedule = true) : Line p'.run.context.cancelled p'.tasks := by
  induction schedule generalizing p drawn with
  | nil =>
    cases hfollow
    exact hl
  | cons action schedule ih =>
    rw [Pool.follow_cons] at hfollow
    obtain ⟨mid, hmid, hrest⟩ := Option.bind_eq_some_iff.mp hfollow
    rw [Pool.waits, hmid, Option.all_some, Bool.and_eq_true] at hwaits
    have hstep := Pool.step_eq_some.mp hmid
    obtain ⟨drawn', hs'⟩ := hs.step h hstep
    refine ih (hl.step hs hs' h hearly heager hstep fun htake => ?_) hs' hrest hwaits.2
    have hnot := hwaits.1
    rw [htake, Bool.true_and] at hnot
    simpa using hnot

end Line

/-- Outcomes of files in tree order: files that were written, then, if one failed, that one and files that
were cancelled only. -/
def StopsAtFailure (os : List FileOutcome) : Prop :=
  ∃ written rest, os = written ++ rest ∧ (∀ o ∈ written, o.status.isWritten = true) ∧
    (rest = [] ∨ ∃ o later, rest = o :: later ∧ o.status = .failed ∧
      ∀ o ∈ later, o.status = .cancelled)

theorem phase_of_collected {os : List FileOutcome}
    (h : (t :: tasks).map (·.phase) = os.map .collected) :
    ∃ o later, os = o :: later ∧ t.phase = .collected o ∧
      tasks.map (·.phase) = later.map .collected := by
  obtain ⟨o, later, hos, ho, hlater⟩ := List.map_eq_cons_iff.mp h.symm
  exact ⟨o, later, hos, ho.symm, hlater.symm⟩

/-- When all files in line were collected, the first failure was the last file that was not passed over. -/
theorem Line.stopsAtFailure {cancelled : Bool} {os : List FileOutcome} (hl : Line cancelled tasks)
    (hphases : tasks.map (·.phase) = os.map .collected) : StopsAtFailure os := by
  induction hl generalizing os with
  | @waiting tasks hrest =>
    cases tasks with
    | nil =>
      rw [List.map_nil, eq_comm, List.map_eq_nil_iff] at hphases
      exact ⟨[], os, rfl, nofun, .inl hphases⟩
    | cons t tasks =>
      obtain ⟨o, later, -, ho, -⟩ := phase_of_collected hphases
      rw [hrest t List.mem_cons_self] at ho
      cases ho
  | busy hrunning =>
    obtain ⟨o, later, -, ho, -⟩ := phase_of_collected hphases
    rw [ho] at hrunning
    cases hrunning
  | failing hphase =>
    obtain ⟨o, later, -, ho, -⟩ := phase_of_collected hphases
    rw [hphase] at ho
    cases ho
  | @stopped t tasks o' hphase hfailed hrest =>
    obtain ⟨o, later, rfl, ho, hlater⟩ := phase_of_collected hphases
    rw [hphase] at ho
    cases ho
    refine ⟨[], o' :: later, rfl, nofun, .inr ⟨o', later, rfl, hfailed, fun next hnext => ?_⟩⟩
    obtain ⟨t', ht', hphase'⟩ := List.mem_map.mp (hlater ▸ List.mem_map_of_mem hnext)
    have hpassed := hrest t' ht'
    rw [hphase'] at hpassed
    exact eq_of_beq hpassed
  | @written _ t tasks o' hend hwritten _ ih =>
    obtain ⟨o, later, rfl, ho, hlater⟩ := phase_of_collected hphases
    rw [ho] at hend
    cases hend
    obtain ⟨written, rest, rfl, hall, hrest⟩ := ih hlater
    exact ⟨o' :: written, rest, rfl, List.forall_mem_cons.mpr ⟨hwritten, hall⟩, hrest⟩

/-! ## Whatever the schedule -/

/-- A file that a worker first looks at when the run was cancelled is cancelled: the worker changes nothing,
and nothing is done with the file later. -/
theorem Pool.work_of_cancelled {f : FileNode} {rel : String} (hpath : f.fullPath = .str rel)
    (htask : p.tasks[i]? = some ⟨f, .begun⟩) (hcancelled : p.run.context.cancelled = true)
    (hstep : p.step tools workers (.work i) = some p') :
    p'.run = p.run ∧ ∀ schedule q, p'.follow tools workers schedule = some q →
      Action.work i ∉ schedule ∧
        q.tasks[i]?.bind (·.phase.outcome?) = some (.ok ⟨rel, .cancelled, ""⟩) := by
  cases Pool.step_eq_some.mp hstep with
  | work htask' hadvance =>
    rw [htask] at htask'
    cases htask'
    rw [advance_begun_of_cancelled hpath hcancelled] at hadvance
    cases hadvance
    refine ⟨rfl, fun schedule q hq => Pool.outcome_follow ?_ hq⟩
    rw [Pool.move, List.getElem?_modify_eq, htask]
    rfl

/-- When a pool that stops after failures has finished, each file has an outcome, and its destination is as it
was unless it was written. The run was cancelled exactly if a file failed. -/
theorem Sound.stopped {drawn : List String → Option Nat} (hs : Sound tools inv out b drawn p)
    (h : Ground tools inv out b) (hearly : b.context.cancelled = false)
    (heager : tools.settings.failFast = true) (hfinished : p.isFinished = true) :
    ∃ os, p.tasks.map (·.phase) = os.map .collected ∧ p.collected.outcomes.Perm os ∧
      List.Forall₂ (fun place o => place ∈ filesAt [] inv ∧ o.path = "/".intercalate place.1 ∧
        (o.status = .failed ∨ o.status = .cancelled →
          p.run.files.get? (out ++ place.1) = b.files.get? (out ++ place.1))) (filesAt [] inv) os ∧
      (p.run.context.cancelled = true ↔ ∃ o ∈ os, o.status = .failed) := by
  obtain ⟨os, hphases, hperm, hcourses⟩ := hs.exists_outcomes hfinished
  refine ⟨os, hphases, hperm, ?_, ?_⟩
  · have hplaces := (List.forall₂_and_left (p := (· ∈ filesAt [] inv)) _ _).mpr ⟨fun _ => id, hcourses⟩
    refine hplaces.imp fun place o ⟨hmem, hcourse⟩ => ?_
    obtain ⟨o', ho, hpath, hcases⟩ := hcourse.outcome_cases h hmem hearly
      (show (Phase.collected o).outcome? = some (.ok o) from rfl)
    cases ho
    refine ⟨hmem, hpath, fun hstatus => ?_⟩
    rcases hcases with hwritten | ⟨-, hsame⟩ | ⟨-, -, hsame⟩
    · rcases hstatus with hstatus | hstatus <;> rw [hstatus] at hwritten <;> cases hwritten
    · exact hsame
    · exact hsame
  · rw [hs.cancelled, hearly, heager, Bool.false_or, Bool.true_and, hperm.any_eq, List.any_eq_true]
    simp only [beq_iff_eq]

/-- A report of a run in which a file failed is not in order. -/
theorem RunReport.ok_eq_false {r : RunReport} (ho : o ∈ r.outcomes) (hfailed : o.status = .failed) :
    r.ok = false := by
  have hmem : o ∈ r.failed := List.mem_filter.mpr ⟨ho, beq_iff_eq.mpr hfailed⟩
  rw [RunReport.ok, List.isEmpty_eq_false_iff.mpr (List.ne_nil_of_mem hmem), Bool.false_and,
    Bool.false_and]

/-- Whatever the schedule, a pool that stops after the first failure comes to an end. Then each file has one
outcome, what stands at the destination of a file that failed or was cancelled is what stood there before the
run, and the run was cancelled exactly if a file failed. A worker that first looks when the run was cancelled
writes nothing. If there is one worker and it takes no file while a failure is still to be collected, no file
behind the first that failed is written. The system refuses nothing for want of permission or space. -/
theorem follow_stops (tools : Tools) (s b : RunState) (pool p : Pool) (workers : Nat)
    (schedule : List Action) (hworkers : 0 < workers) (heager : tools.settings.failFast = true)
    (hfresh : (Inventory.scan tools.env tools.settings s).context.cancelled = false)
    (hreader : tools.reader = readText) (hformatter : Reliable tools.formatter)
    (hids : ∀ n, Text.isPlain (tools.env.ids n) = true) (hsink : s.sink = .disk)
    (hwell : s.files.WellFormed) (hlog : s.LogsTo s.files)
    (hapart : ∀ made out,
      (Inventory.scan tools.env tools.settings s).makeDirs tools.settings.outputRoot =
        (.ok (), made) → made.files.locate tools.settings.outputRoot = .ok out →
      Apart s tools.settings.inputRoot
        (Inventory.scan tools.env tools.settings s).context.inventory out)
    (hup : ∀ front back, tools.settings.outputRoot.parts = front ++ ".." :: back →
      ∃ e, s.files.stat ⟨tools.settings.outputRoot.anchor, front⟩ = .ok e)
    (hopen : openPool tools (Inventory.scan tools.env tools.settings s) = (.ok pool, b))
    (hworkable : ∀ place ∈ filesAt [] (Inventory.scan tools.env tools.settings s).context.inventory,
      Workable tools b place.1 place.2)
    (hfollow : pool.follow tools workers schedule = some p) :
    schedule.length ≤ 8 * pool.tasks.length + 1 ∧
    (p.isFinished = false → ∃ action p', p.step tools workers action = some p') ∧
    (∀ i t p', p.tasks[i]? = some t → t.phase = .begun → p.run.context.cancelled = true →
      p.step tools workers (.work i) = some p' →
      p'.run = p.run ∧ ∃ o : FileOutcome, o.status = .cancelled ∧
        ∀ later q, p'.follow tools workers later = some q →
          Action.work i ∉ later ∧ q.tasks[i]?.bind (·.phase.outcome?) = some (.ok o)) ∧
    (p.isFinished = true → ∃ report os out,
      p.result.1 = .ok report ∧ report.outcomes.Perm os ∧
      os.map (·.path) = (Inventory.scan tools.env tools.settings s).context.inventory.files.map
        (·.fullPath.plain) ∧
      (os.map (·.path)).Nodup ∧
      b.files.locate tools.settings.outputRoot = .ok out ∧
      List.Forall₂ (fun place o => o.status = .failed ∨ o.status = .cancelled →
          p.result.2.files.get? (out ++ place.1) = s.files.get? (out ++ place.1))
        (filesAt [] (Inventory.scan tools.env tools.settings s).context.inventory) os ∧
      (p.result.2.context.cancelled = true ↔ ∃ o ∈ os, o.status = .failed) ∧
      (p.result.2.context.cancelled = true → report.ok = false) ∧
      (workers = 1 → pool.waits tools 1 schedule = true → StopsAtFailure os)) := by
  obtain ⟨hkept, hscan, hindex, -⟩ := Inventory.scan_scanned hlog tools.env tools.settings hwell
  obtain ⟨out, h, hplace, rfl⟩ := exists_ground hscan hkept.quiet hindex hsink hlog hapart hreader
    hformatter hids hopen hworkable
  have hbefore {place : List String × FileNode}
      (hmem : place ∈ filesAt [] (Inventory.scan tools.env tools.settings s).context.inventory) :=
    get?_of_openPool hscan hkept hsink hlog hapart hup hopen h hmem
  have hearly : b.context.cancelled = false := by
    obtain ⟨made, hmake, rfl, -⟩ := openPool_eq_ok hscan hopen
    have hmade := (makeAll_made (hkept.quiet.sink.trans hsink) hmake).1
    rw [hmade]
    exact hfresh
  clear hworkable hapart hkept hindex
  generalize Inventory.scan tools.env tools.settings s = now at *
  obtain ⟨drawn, hs⟩ := sound_of_follow h hfollow
  refine ⟨?_, Pool.exists_step hworkers, fun i t p' htask hbegun hcancelled hstep => ?_,
    fun hfinished => ?_⟩
  · have hlength := Pool.length_le_of_follow hfollow
    simpa [Pool.ofFiles] using hlength
  · obtain ⟨place, hplace, hfile⟩ := hs.exists_place htask
    obtain ⟨hrun, hlater⟩ := Pool.work_of_cancelled
      (hfile ▸ (h.fullPath (List.mem_of_getElem? hplace)).1) (hbegun ▸ htask) hcancelled hstep
    exact ⟨hrun, _, rfl, hlater⟩
  · obtain ⟨os, hphases, hperm, hos, hcancelled⟩ := hs.stopped h hearly heager hfinished
    have hresult : p.result = (.ok (reportOf p.collected.outcomes p.run.context),
        p.run.report (completion p.collected.outcomes)) := by
      rw [Pool.result, hs.fault]
    have hsorted : (reportOf p.collected.outcomes p.run.context).outcomes.Perm os :=
      (List.mergeSort_perm _ _).trans hperm
    have hpaths : os.map (·.path) = now.context.inventory.files.map (·.fullPath.plain) := by
      rw [Inventory.files_eq []]
      exact paths_of_outcomes h (fun _ _ _ ho => ho.2.1) (List.Subset.refl _) hos
    have hroot := (h.directories [] (.inl rfl)).1
    rw [join_relative, List.append_nil, List.append_nil] at hroot
    rw [hresult]
    refine ⟨_, os, out, rfl, hsorted, hpaths, hpaths ▸ h.nodup_paths, hroot, ?_, hcancelled,
      fun hstopped => ?_, fun hone hwaits => ?_⟩
    · refine hos.imp ?_
      rintro place o ⟨hmem, -, hsame⟩ hstatus
      exact (hsame hstatus).trans (hbefore hmem)
    · obtain ⟨o, ho, hfailed⟩ := hcancelled.mp hstopped
      exact RunReport.ok_eq_false (hsorted.mem_iff.mpr ho) hfailed
    · subst hone
      have hline : Line b.context.cancelled
          (Pool.ofFiles ((filesAt [] now.context.inventory).map (·.2)) b).tasks := by
        rw [hearly]
        refine .waiting fun t ht => ?_
        obtain ⟨f, -, rfl⟩ := List.mem_map.mp ht
        rfl
      exact (hline.follow (sound_ofFiles h) h hearly heager hfollow hwaits).stopsAtFailure hphases

/-- One worker, which waits until the failure of the second file was collected. -/
def patient : List Action :=
  [.take 0, .work 0, .work 0, .take 1, .work 1, .work 1, .collect 0, .collect 1, .take 2, .drop, .drop,
    .drop, .work 2, .collect 2]

/-- One worker copies the first of three files, fails at the second, and finds the run cancelled when it has
taken the third. -/
theorem follow_stops_blockedProject :
    ∃ pool b p report os, openPool (blockedTools true) (scannedBlocked true) = (.ok pool, b) ∧
      pool.follow (blockedTools true) 1 patient = some p ∧ p.result.1 = .ok report ∧
      report.outcomes.Perm os ∧ os.map (·.path) = ["a", "b", "c"] ∧ StopsAtFailure os ∧
      p.collected.outcomes.map (fun o => (o.path, o.status)) =
        [("a", .copied), ("b", .failed), ("c", .cancelled)] ∧
      p.result.2.context.cancelled = true ∧ report.ok = false := by
  have hrun : ((openPool (blockedTools true) (scannedBlocked true)).1.toOption.bind fun pool =>
      (pool.follow (blockedTools true) 1 patient).map fun p =>
        (p.isFinished, pool.waits (blockedTools true) 1 patient, p.result.2.context.cancelled,
          p.collected.outcomes.map fun o => (o.path, o.status))) =
      some (true, true, true, [("a", .copied), ("b", .failed), ("c", .cancelled)]) := by
    decide +kernel
  have hpaths : (scannedBlocked true).context.inventory.files.map (·.fullPath.plain) =
      ["a", "b", "c"] := by
    rw [Inventory.files_eq []]
    decide +kernel
  have hup (front back : List String) (hparts : ["out"] = front ++ ".." :: back) :
      ∃ e, blockedProject.files.stat ⟨.root, front⟩ = .ok e := by
    have hmem : ".." ∈ ["out"] := by rw [hparts]; simp
    exact absurd hmem (by decide)
  rcases hopen : openPool (blockedTools true) (scannedBlocked true) with ⟨t | pool, b⟩
  · rw [hopen] at hrun
    cases hrun
  rw [hopen] at hrun
  obtain ⟨p, hfollow, hends⟩ := Option.map_eq_some_iff.mp hrun
  simp only [Prod.mk.injEq] at hends
  obtain ⟨hfinished, hwaits, hcancelled, houtcomes⟩ := hends
  obtain ⟨-, -, -, hreport⟩ := follow_stops (blockedTools true) blockedProject b pool p 1 patient
    (by decide) rfl (by decide +kernel) rfl reliable_unchanged
    (fun _ => by show Text.isPlain "id" = true; decide +kernel) rfl blockedProject_wellFormed
    blockedProject_logsTo (blockedProject_apart true) hup hopen (blockedProject_workable true b) hfollow
  obtain ⟨report, os, -, hresult, hperm, hos, -, -, -, -, hok, hstops⟩ := hreport hfinished
  exact ⟨pool, b, p, report, os, rfl, hfollow, hresult, hperm, hos.trans hpaths, hstops rfl hwaits,
    houtcomes, hcancelled, hok hcancelled⟩

/-! ## Destinations that change nevertheless -/

/-- A run of one worker that stops after the first failure comes to its end with these outcomes, and what
then stands at a place below the output root is not what stood there before. -/
def Spoils (tools : Tools) (s : RunState) (schedule : List Action)
    (outcomes : List (String × FileStatus)) (names : List String) : Prop :=
  tools.settings.failFast = true ∧
    (Inventory.scan tools.env tools.settings s).context.cancelled = false ∧
    ∃ pool b p out, openPool tools (Inventory.scan tools.env tools.settings s) = (.ok pool, b) ∧
      pool.follow tools 1 schedule = some p ∧ p.isFinished = true ∧
      p.collected.outcomes.map (fun o => (o.path, o.status)) = outcomes ∧
      b.files.locate tools.settings.outputRoot = .ok out ∧
      p.result.2.files.get? (out ++ names) ≠ s.files.get? (out ++ names)

theorem spoils_of_run {tools : Tools} {s : RunState} {schedule : List Action}
    {outcomes : List (String × FileStatus)} {names : List String} (out : Location)
    (heager : tools.settings.failFast = true)
    (hfresh : (Inventory.scan tools.env tools.settings s).context.cancelled = false)
    (hroot : (openPool tools (Inventory.scan tools.env tools.settings s)).2.files.locate
      tools.settings.outputRoot = .ok out)
    (hrun : ((openPool tools (Inventory.scan tools.env tools.settings s)).1.toOption.bind fun pool =>
      (pool.follow tools 1 schedule).map fun p =>
        (p.isFinished, p.collected.outcomes.map (fun o => (o.path, o.status)),
          decide (p.result.2.files.get? (out ++ names) = s.files.get? (out ++ names)))) =
      some (true, outcomes, false)) :
    Spoils tools s schedule outcomes names := by
  refine ⟨heager, hfresh, ?_⟩
  rcases hopen : openPool tools (Inventory.scan tools.env tools.settings s) with ⟨t | pool, b⟩
  · rw [hopen] at hrun
    cases hrun
  rw [hopen] at hrun hroot
  obtain ⟨p, hfollow, hends⟩ := Option.map_eq_some_iff.mp hrun
  simp only [Prod.mk.injEq, decide_eq_false_iff_not] at hends
  obtain ⟨hfinished, houtcomes, hchanged⟩ := hends
  exact ⟨pool, b, p, out, rfl, hfollow, hfinished, houtcomes, hroot, hchanged⟩

/-- A file, and no directory at the output root. -/
def upwardProject : RunState where
  files := { entries := [(["app"], .directory), (["app", "x"], .file 0o644 [1])] }

/-- Tools that stop after the first failure and whose output root goes up from a directory that is not
there. -/
def upwardTools : Tools :=
  { copyTools ⟨.root, ["out", "x", ".."]⟩ with
    settings := { (copyTools ⟨.root, ["out", "x", ".."]⟩).settings with failFast := true } }

/-- A link leads from one directory of the copy to another, and a directory stands where the second of three
files would be copied to. -/
def crossedProject : RunState where
  files := { entries :=
    [(["app"], .directory),
     (["app", "d"], .directory),
     (["app", "d", "x"], .file 0o644 [1]),
     (["app", "db"], .file 0o644 [2]),
     (["app", "e"], .directory),
     (["app", "e", "x"], .file 0o644 [3]),
     (["out"], .directory),
     (["out", "d"], .link "e"),
     (["out", "db"], .directory),
     (["out", "e"], .directory)] }

/-- The log goes where the second of two files would be copied to, and a directory stands where the first
would be. -/
def loggedProject : RunState where
  files := { entries :=
    [(["app"], .directory),
     (["app", "1"], .file 0o644 [1]),
     (["app", "2024-01-01"], .directory),
     (["app", "2024-01-01", "1.log"], .file 0o644 [2]),
     (["out"], .directory),
     (["out", "1"], .directory),
     (["out", "2024-01-01"], .directory),
     (["out", "2024-01-01", "1.log"], .file 0o644 [])] }
  logging := { file := some ⟨["out", "2024-01-01", "1.log"], 0⟩ }

/-- Three projects in which a file fails or is cancelled and its destination is not what it was: the
directory that the output root goes up from is made there, another file is copied there through a link, or
the log is written there. -/
theorem not_stops_cleanly :
    Spoils upwardTools upwardProject [.take 0, .work 0, .work 0, .collect 0, .drop]
      [("x", .failed)] ["x"] ∧
    Spoils (blockedTools true) crossedProject patient
      [("d/x", .copied), ("db", .failed), ("e/x", .cancelled)] ["e", "x"] ∧
    Spoils (blockedTools true) loggedProject
      [.take 0, .work 0, .work 0, .collect 0, .drop, .drop, .collect 1]
      [("1", .failed), ("2024-01-01/1.log", .cancelled)] ["2024-01-01", "1.log"] := by
  refine ⟨?upward, ?linked, ?logged⟩
  case upward =>
    exact spoils_of_run ["out"] rfl (by decide +kernel) (by decide +kernel) (by decide +kernel)
  case linked =>
    exact spoils_of_run ["out"] rfl (by decide +kernel) (by decide +kernel) (by decide +kernel)
  case logged =>
    exact spoils_of_run ["out"] rfl (by decide +kernel) (by decide +kernel) (by decide +kernel)

end JsxTagger.Emit
