import Mathlib.Algebra.BigOperators.Group.List.Basic
import Mathlib.Algebra.GroupWithZero.Nat
import JsxTagger.Emit.Pool

/-!
# Runs of a pool

What each action of a pool does (`Pool.step_eq_some`), and that a pool comes to an end whatever the
schedule: as long as it has not finished something can happen (`Pool.exists_step`), and every action
brings the end nearer (`Pool.step_remaining`), so that no schedule is longer than eight actions for each file
and one more (`Pool.length_le_of_follow`).
-/

namespace JsxTagger.Emit

open Files

variable {tools : Tools} {workers : Nat} {p p' : Pool} {action : Action}

/-! ## What an action does -/

namespace Pool

/-- What a pool is after an action that is possible. -/
inductive Stepped (tools : Tools) (workers : Nat) (p : Pool) : Action → Pool → Prop where
  | take {i : Nat} {t : Task} (htask : p.tasks[i]? = some t) (hqueued : t.phase = .queued)
      (hfree : p.running < workers) (hfirst : ∀ t ∈ p.tasks.take i, t.phase ≠ .queued) :
      Stepped tools workers p (.take i) (p.move i .begun)
  | work {i : Nat} {t : Task} {phase : Phase} {s : RunState} (htask : p.tasks[i]? = some t)
      (hadvance : advance tools t.file p.run t.phase = some (phase, s)) :
      Stepped tools workers p (.work i) { p.move i phase with run := s }
  | collect {i : Nat} {t : Task} {result : Except Fault FileOutcome} (htask : p.tasks[i]? = some t)
      (hresult : t.phase.result? t.file = some result) (hpending : p.pending = [])
      (hfault : p.collected.fault = none) :
      Stepped tools workers p (.collect i) (p.takeIn tools i result)
  | drop {i : Nat} {rest : List Nat} (hpending : p.pending = i :: rest) :
      Stepped tools workers p .drop
        { p with
          tasks := p.tasks.modify i fun t => { t with phase := t.phase.drop }
          pending := rest }

theorem isQueued_iff {phase : Phase} : phase.isQueued = true ↔ phase = .queued := by
  cases phase <;> simp [Phase.isQueued]

/-- An action is possible if it finds what it needs. -/
theorem step_eq_some : p.step tools workers action = some p' ↔ Stepped tools workers p action p' := by
  constructor
  · intro h
    cases action with
    | take i =>
      obtain ⟨t, htask, h⟩ := Option.bind_eq_some_iff.mp h
      split at h
      · rename_i hcan
        simp only [Bool.and_eq_true, decide_eq_true_eq, List.all_eq_true, Bool.not_eq_true',
          isQueued_iff] at hcan
        obtain ⟨⟨hqueued, hfree⟩, hfirst⟩ := hcan
        cases h
        refine .take htask hqueued hfree fun t ht hphase => ?_
        have hnot := hfirst t ht
        rw [hphase] at hnot
        cases hnot
      · cases h
    | work i =>
      obtain ⟨t, htask, h⟩ := Option.bind_eq_some_iff.mp h
      obtain ⟨⟨phase, s⟩, hadvance, h⟩ := Option.bind_eq_some_iff.mp h
      cases h
      exact .work htask hadvance
    | collect i =>
      obtain ⟨t, htask, h⟩ := Option.bind_eq_some_iff.mp h
      obtain ⟨result, hresult, h⟩ := Option.bind_eq_some_iff.mp h
      split at h
      · rename_i hcan
        simp only [Bool.and_eq_true, List.isEmpty_iff, Option.isNone_iff_eq_none] at hcan
        cases h
        exact .collect htask hresult hcan.1 hcan.2
      · cases h
    | drop =>
      rw [step] at h
      split at h
      · cases h
      · rename_i i rest hpending
        cases h
        exact .drop hpending
  · rintro (⟨htask, hqueued, hfree, hfirst⟩ | ⟨htask, hadvance⟩ |
      ⟨htask, hresult, hpending, hfault⟩ | hpending)
    · rw [step, htask]
      refine if_pos ?_
      simp only [Bool.and_eq_true, decide_eq_true_eq, List.all_eq_true, Bool.not_eq_true']
      refine ⟨⟨isQueued_iff.mpr hqueued, hfree⟩, fun t ht => ?_⟩
      exact Bool.eq_false_iff.mpr fun hq => hfirst t ht (isQueued_iff.mp hq)
    · simp only [step, htask, hadvance, bind, Option.bind]
    · simp only [step, htask, hresult, hpending, hfault, bind, Option.bind]
      rfl
    · rw [step, hpending]

theorem follow_cons (action : Action) (schedule : List Action) :
    p.follow tools workers (action :: schedule) =
      (p.step tools workers action).bind fun p => p.follow tools workers schedule := by
  rw [follow, List.foldlM_cons]
  rfl

/-- What every action preserves, a schedule preserves. -/
theorem follow_induction {motive : Pool → Prop} {schedule : List Action}
    (hstep : ∀ p action p', motive p → Stepped tools workers p action p' → motive p') (hp : motive p)
    (h : p.follow tools workers schedule = some p') : motive p' := by
  induction schedule generalizing p with
  | nil =>
    cases h
    exact hp
  | cons action schedule ih =>
    rw [follow_cons] at h
    obtain ⟨mid, hmid, hrest⟩ := Option.bind_eq_some_iff.mp h
    exact ih (hstep p action mid hp (step_eq_some.mp hmid)) hrest

end Pool

/-! ## Towards the end -/

/-- How many actions a file is away from being collected. -/
def Phase.rank : Phase → Nat
  | queued => 7
  | begun => 6
  | checked _ => 5
  | drafted .. => 4
  | polished .. => 3
  | ready .. => 2
  | dropped => 1
  | ended _ => 1
  | collected _ => 0

/-- A step of a worker brings its file nearer to being collected. The worker still has it then, or is done
with it. -/
theorem advance_cases {f : FileNode} {s s' : RunState} {phase phase' : Phase}
    (h : advance tools f s phase = some (phase', s')) :
    phase.isRunning = true ∧ phase'.rank < phase.rank ∧
      (phase'.isRunning = true ∨ ∃ result, phase' = .ended result) := by
  cases phase with
  | queued => cases h
  | dropped => cases h
  | begun =>
    rw [advance] at h
    split at h
    · split at h <;> cases h <;> simp [Phase.rank, Phase.isRunning]
    · cases h
      simp [Phase.rank, Phase.isRunning]
  | checked rel =>
    rw [advance] at h
    split at h
    · cases h
      simp [Phase.rank, Phase.isRunning]
    · split at h <;> cases h <;> simp [Phase.rank, Phase.isRunning]
  | drafted rel result =>
    rw [advance] at h
    split at h <;> cases h <;> simp [Phase.rank, Phase.isRunning]
  | polished rel p =>
    rw [advance] at h
    split at h <;> cases h <;> simp [Phase.rank, Phase.isRunning]
  | ready rel p =>
    rw [advance] at h
    cases h
    simp [Phase.rank, Phase.isRunning]
  | ended result => cases h
  | collected o => cases h

theorem advance_isSome (tools : Tools) (f : FileNode) (s : RunState) {phase : Phase}
    (h : phase.isRunning = true) :
    ∃ phase' s', advance tools f s phase = some (phase', s') := by
  cases phase with
  | begun =>
    rw [advance]
    split
    · split <;> exact ⟨_, _, rfl⟩
    · exact ⟨_, _, rfl⟩
  | checked rel =>
    rw [advance]
    split
    · exact ⟨_, _, rfl⟩
    · split <;> exact ⟨_, _, rfl⟩
  | drafted rel result =>
    rw [advance]
    split <;> exact ⟨_, _, rfl⟩
  | polished rel p =>
    rw [advance]
    split <;> exact ⟨_, _, rfl⟩
  | ready rel p => exact ⟨_, _, rfl⟩
  | queued => cases h
  | dropped => cases h
  | ended result => cases h
  | collected o => cases h

/-- A sum over tasks when one of them has changed. -/
theorem sum_modify (g : Task → Nat) (f : Task → Task) {tasks : List Task} {i : Nat} {t : Task}
    (htask : tasks[i]? = some t) :
    ((tasks.modify i f).map g).sum + g t = (tasks.map g).sum + g (f t) := by
  induction tasks generalizing i with
  | nil => cases htask
  | cons first rest ih =>
    cases i with
    | zero =>
      cases htask
      simp only [List.modify_zero_cons, List.map_cons, List.sum_cons]
      omega
    | succ i =>
      have hrest := ih htask
      simp only [List.modify_succ_cons, List.map_cons, List.sum_cons]
      omega

namespace Pool

/-- How many actions a pool is away from its end, at most. -/
def remaining (p : Pool) : Nat :=
  (p.tasks.map (·.phase.rank)).sum + p.pending.length +
    (if p.collected.stopped then 0 else p.tasks.length) + (if p.collected.fault.isSome then 0 else 1)

theorem length_move (p : Pool) (i : Nat) (phase : Phase) :
    (p.move i phase).tasks.length = p.tasks.length := List.length_modify _ _ _

theorem sum_move {i : Nat} {t : Task} {phase : Phase} (htask : p.tasks[i]? = some t)
    (h : phase.rank < t.phase.rank) :
    ((p.move i phase).tasks.map (·.phase.rank)).sum < (p.tasks.map (·.phase.rank)).sum := by
  have hsum := sum_modify (·.phase.rank) ({ · with phase }) htask
  simp only [move] at hsum ⊢
  omega

/-- A file that moves to a later phase brings the end nearer. -/
theorem remaining_move {i : Nat} {t : Task} {phase : Phase} (htask : p.tasks[i]? = some t)
    (h : phase.rank < t.phase.rank) : (p.move i phase).remaining < p.remaining := by
  rw [remaining, remaining, length_move]
  exact Nat.add_lt_add_right (Nat.add_lt_add_right (Nat.add_lt_add_right (sum_move htask h) _) _) _

theorem result?_rank {f : FileNode} {phase : Phase} {result : Except Fault FileOutcome}
    (h : phase.result? f = some result) : phase.rank = 1 := by
  cases phase <;> first | rfl | cases h

theorem collect_cases (tools : Tools) (c : Collected) (o : FileOutcome) (s : RunState) :
    (collect tools c o s).1 =
      { c with
        outcomes := c.outcomes ++ [o]
        stopped := c.stopped ||
          (o.status = .failed && tools.settings.failFast && !s.context.cancelled) } := by
  rw [collect]
  dsimp only
  split
  · rename_i hstops
    rw [show (RunState.report s (.update (some 1))).context = s.context from rfl] at hstops
    rw [hstops, Bool.or_true]
  · rename_i hgoes
    rw [show (RunState.report s (.update (some 1))).context = s.context from rfl,
      Bool.not_eq_true] at hgoes
    rw [hgoes, Bool.or_false]

theorem takeIn_ok (p : Pool) (i : Nat) (o : FileOutcome) :
    p.takeIn tools i (.ok o) =
      { p.move i (.collected o) with
        run := (collect tools p.collected o p.run).2
        collected := (collect tools p.collected o p.run).1
        pending := if (collect tools p.collected o p.run).1.stopped && !p.collected.stopped then
          List.range p.tasks.length else [] } := rfl

theorem takeIn_remaining {i : Nat} {t : Task} {result : Except Fault FileOutcome}
    (htask : p.tasks[i]? = some t) (hresult : t.phase.result? t.file = some result)
    (hpending : p.pending = []) (hfault : p.collected.fault = none) :
    (p.takeIn tools i result).remaining < p.remaining := by
  cases result with
  | error fault =>
    rw [takeIn, remaining, remaining, hfault]
    exact Nat.lt_succ_self _
  | ok o =>
    have hrank : (Phase.collected o).rank < t.phase.rank := by
      rw [result?_rank hresult]
      exact Nat.one_pos
    have hsum := sum_move htask hrank
    rw [takeIn]
    simp only [remaining, collect_cases, hpending, hfault, length_move]
    generalize (decide (o.status = .failed) && tools.settings.failFast &&
      !p.run.context.cancelled) = stops
    cases p.collected.stopped <;> cases stops <;> simp <;> omega

/-- Every action brings the end nearer. -/
theorem step_remaining (h : Stepped tools workers p action p') : p'.remaining < p.remaining := by
  cases h with
  | take htask hqueued => exact remaining_move htask (by rw [hqueued]; simp [Phase.rank])
  | work htask hadvance => exact remaining_move htask (advance_cases hadvance).2.1
  | collect htask hresult hpending hfault => exact takeIn_remaining htask hresult hpending hfault
  | @drop i rest hpending =>
    have hsum : ((p.tasks.modify i fun t => { t with phase := t.phase.drop }).map (·.phase.rank)).sum ≤
        (p.tasks.map (·.phase.rank)).sum := by
      cases htask : p.tasks[i]? with
      | none =>
        exact Nat.le_of_eq (by rw [List.modify_eq_self (List.getElem?_eq_none_iff.mp htask)])
      | some t =>
        have hsum := sum_modify (·.phase.rank) (fun t => { t with phase := t.phase.drop }) htask
        have hdrop : t.phase.drop.rank ≤ t.phase.rank := by
          cases t.phase <;> simp [Phase.drop, Phase.rank]
        dsimp only at hsum
        omega
    rw [remaining, remaining, hpending]
    simp only [List.length_modify, List.length_cons]
    omega

theorem remaining_le_of_follow {schedule : List Action}
    (h : p.follow tools workers schedule = some p') :
    schedule.length + p'.remaining ≤ p.remaining := by
  induction schedule generalizing p with
  | nil =>
    cases h
    simp
  | cons action schedule ih =>
    rw [follow_cons] at h
    obtain ⟨mid, hmid, hrest⟩ := Option.bind_eq_some_iff.mp h
    have hstep := step_remaining (step_eq_some.mp hmid)
    have hlater := ih hrest
    rw [List.length_cons]
    omega

/-- No schedule goes on forever. -/
theorem length_le_of_follow {files : List FileNode} {s : RunState} {schedule : List Action}
    (h : (ofFiles files s).follow tools workers schedule = some p) :
    schedule.length ≤ 8 * files.length + 1 := by
  have hstart : (ofFiles files s).remaining = 8 * files.length + 1 := by
    have hsum : ((ofFiles files s).tasks.map (·.phase.rank)).sum = 7 * files.length := by
      simp [ofFiles, Phase.rank, Function.comp_def, Nat.mul_comm]
    rw [remaining, hsum]
    simp [ofFiles]
    omega
  have hbound := remaining_le_of_follow h
  omega

/-! ## Something can happen -/

/-- If a file waits and no worker is busy, the first file that waits can be taken. -/
theorem exists_take (hworkers : 0 < workers) (hidle : ∀ t ∈ p.tasks, t.phase.isRunning = false)
    (hwaits : ∃ t ∈ p.tasks, t.phase.isQueued = true) :
    ∃ action p', p.step tools workers action = some p' := by
  have hsome : (p.tasks.findIdx? (·.phase.isQueued)).isSome = true := by
    rw [List.findIdx?_isSome]
    exact List.any_eq_true.mpr hwaits
  obtain ⟨i, hfound⟩ := Option.isSome_iff_exists.mp hsome
  obtain ⟨hi, hqueued, hfirst⟩ := List.findIdx?_eq_some_iff_getElem.mp hfound
  have hrunning : p.running = 0 := by
    rw [running, List.countP_eq_zero]
    exact fun t ht => Bool.eq_false_iff.mp (hidle t ht)
  refine ⟨.take i, _, step_eq_some.mpr (.take (List.getElem?_eq_getElem hi) (isQueued_iff.mp hqueued)
    (hrunning ▸ hworkers) fun t ht hphase => ?_)⟩
  obtain ⟨j, hj, rfl⟩ := List.mem_take_iff_getElem.mp ht
  refine hfirst j (by omega) (isQueued_iff.mpr hphase)

theorem phase_cases (t : Task) :
    t.phase.isRunning = true ∨ t.phase.isQueued = true ∨
      (∃ result, t.phase.result? t.file = some result) ∨ t.phase.isCollected = true := by
  cases t.phase <;> simp [Phase.isRunning, Phase.isQueued, Phase.result?, Phase.isCollected]

/-- As long as a pool has not finished, something can happen. -/
theorem exists_step (hworkers : 0 < workers) (h : p.isFinished = false) :
    ∃ action p', p.step tools workers action = some p' := by
  by_cases hbusy : ∃ t ∈ p.tasks, t.phase.isRunning = true
  · obtain ⟨t, ht, hrunning⟩ := hbusy
    obtain ⟨i, htask⟩ := List.mem_iff_getElem?.mp ht
    obtain ⟨phase, s, hadvance⟩ := advance_isSome tools t.file p.run hrunning
    exact ⟨.work i, _, step_eq_some.mpr (.work htask hadvance)⟩
  · have hidle : ∀ t ∈ p.tasks, t.phase.isRunning = false :=
      fun t ht => Bool.eq_false_iff.mpr fun hrunning => hbusy ⟨t, ht, hrunning⟩
    by_cases hwaits : ∃ t ∈ p.tasks, t.phase.isQueued = true
    · exact exists_take hworkers hidle hwaits
    -- nobody is at work and nothing waits, so every file has come to an end
    · have hdone (t : Task) (ht : t ∈ p.tasks) :
          (∃ result, t.phase.result? t.file = some result) ∨ t.phase.isCollected = true := by
        rcases phase_cases t with hrunning | hqueued | hrest
        · exact absurd ⟨t, ht, hrunning⟩ hbusy
        · exact absurd ⟨t, ht, hqueued⟩ hwaits
        · exact hrest
      rw [isFinished] at h
      split at h
      · refine absurd (List.all_eq_true.mpr fun t ht => ?_) (Bool.eq_false_iff.mp h)
        rcases hdone t ht with ⟨result, hresult⟩ | hcollected
        · rw [hresult]
          simp
        · rw [hcollected]
          rfl
      · rename_i hfault
        cases hpending : p.pending with
        | cons i rest => exact ⟨.drop, _, step_eq_some.mpr (.drop hpending)⟩
        | nil =>
          rw [hpending, List.isEmpty_nil, Bool.true_and] at h
          obtain ⟨t, ht, hopen⟩ := List.all_eq_false.mp h
          obtain ⟨i, htask⟩ := List.mem_iff_getElem?.mp ht
          obtain ⟨result, hresult⟩ := (hdone t ht).resolve_right hopen
          exact ⟨.collect i, _, step_eq_some.mpr
            (.collect htask hresult hpending (by simpa using hfault))⟩

end Pool

end JsxTagger.Emit
