import Mathlib.Data.List.Nodup
import Mathlib.Data.Int.Order.Basic
import JsxTagger.Proofs.Edit.Application

/-!
# Plans built by calls

A plan is built by a sequence of calls (`Plan.ofCalls`). A replacement that ends before it begins is
refused and leaves the plan as it is; every other call adds one edit (`contents_ofCalls`).

The order of the calls matters only among calls with the same start (`apply_of_rearranged`): calls
that are rearranged without changing that order give plans that are applied to the same text, or
refused with the same error. The numbers of the edits differ in the two plans, but they do nothing
except keep the order among edits that start at the same offset (`filter_ordered`), and a list that
is sorted by a key is determined by its parts with one key each (`eq_of_sorted_of_filter_eq`).
-/

namespace JsxTagger.Edit

/-- What an edit does, without its number. -/
def content (e : Edit) : Int × Int × String := (e.start, e.stop, e.text)

/-- A call that plans an edit. -/
inductive Call where
  /-- Plans an insertion. -/
  | insert (offset : Int) (text : String)
  /-- Plans a replacement. -/
  | replace (start stop : Int) (text : String)
deriving DecidableEq, Repr, Inhabited

namespace Call

/-- Where the edit of a call begins. -/
def start : Call → Int
  | .insert offset _ => offset
  | .replace start _ _ => start

/-- Where the edit of a call ends. -/
def stop : Call → Int
  | .insert offset _ => offset
  | .replace _ stop _ => stop

/-- The new text of a call. -/
def text : Call → String
  | .insert _ text => text
  | .replace _ _ text => text

/-- Whether a call is carried out: its edit does not end before it begins. -/
def isAccepted (c : Call) : Bool := c.start ≤ c.stop

/-- What the edit of a call does. -/
def content (c : Call) : Int × Int × String := (c.start, c.stop, c.text)

/-- Calls in another order that keeps the order among the calls with one start. -/
def Rearranged (calls calls' : List Call) : Prop :=
  ∀ offset, (calls.filter fun c => c.start = offset) = calls'.filter fun c => c.start = offset

/-- Rearranged calls are the same calls. -/
theorem Rearranged.perm {calls calls' : List Call}
    (h : Rearranged calls calls') : calls.Perm calls' := by
  rw [List.perm_iff_count]
  intro c
  have hc := congrArg (List.count c) (h c.start)
  rwa [List.count_filter (by simp), List.count_filter (by simp)] at hc

end Call

namespace Plan

/-- The plan after a call. -/
def perform (p : Plan) : Call → Plan
  | .insert offset text => p.insert offset text
  | .replace start stop text => (p.replace start stop text).toOption.getD p

/-- The plan after a sequence of calls. -/
def ofCalls (calls : List Call) : Plan := calls.foldl perform empty

theorem perform_of_accepted {p : Plan} {c : Call} (h : c.isAccepted = true) :
    p.perform c = p.push c.start c.stop c.text := by
  cases c with
  | insert offset text => rfl
  | replace start stop text =>
    have hle : start ≤ stop := of_decide_eq_true h
    show (p.replace start stop text).toOption.getD p = p.push start stop text
    unfold replace
    rw [if_neg (not_lt.mpr hle)]
    rfl

theorem perform_of_refused {p : Plan} {c : Call} (h : c.isAccepted = false) : p.perform c = p := by
  cases c with
  | insert offset text => simp [Call.isAccepted, Call.start, Call.stop] at h
  | replace start stop text =>
    have hlt : stop < start := not_le.mp (of_decide_eq_false h)
    show (p.replace start stop text).toOption.getD p = p
    unfold replace
    rw [if_pos hlt]
    rfl

/-- What holds of the plan before the calls and is kept by planning an edit whose range is in order
holds of the plan after the calls. -/
theorem foldl_perform_induction {motive : Plan → Prop}
    (hpush : ∀ p start stop text, start ≤ stop → motive p → motive (p.push start stop text))
    (calls : List Call) {p : Plan} (hp : motive p) : motive (calls.foldl perform p) := by
  induction calls generalizing p with
  | nil => exact hp
  | cons c calls ih =>
    rw [List.foldl_cons]
    apply ih
    by_cases hc : c.isAccepted = true
    · rw [perform_of_accepted hc]
      exact hpush p _ _ _ (by simpa [Call.isAccepted] using hc) hp
    · rw [perform_of_refused (by simpa using hc)]
      exact hp

/-- No edit of a plan that is built by calls ends before it begins. -/
theorem start_le_stop {calls : List Call} {e : Edit} (he : e ∈ (ofCalls calls).edits) :
    e.start ≤ e.stop := by
  revert e
  apply foldl_perform_induction (motive := fun p => ∀ e ∈ p.edits, e.start ≤ e.stop)
  · intro p start stop text hle hp e he
    rcases List.mem_append.mp he with he | he
    · exact hp e he
    · rw [List.mem_singleton.mp he]
      exact hle
  · intro e he
    cases he

/-- Edits are numbered in planning order. -/
theorem pairwise_seq (calls : List Call) :
    (ofCalls calls).edits.Pairwise fun a b => a.seq < b.seq := by
  -- each number is below the number of edits, so the next edit gets a larger one
  suffices h : (∀ e ∈ (ofCalls calls).edits, e.seq < (ofCalls calls).length) ∧
      (ofCalls calls).edits.Pairwise fun a b => a.seq < b.seq from h.2
  apply foldl_perform_induction (motive := fun p => (∀ e ∈ p.edits, e.seq < p.length) ∧
    p.edits.Pairwise fun a b => a.seq < b.seq)
  · rintro p start stop text - ⟨hbound, hpairwise⟩
    have hlength : (p.push start stop text).length = p.length + 1 := by simp [length, push]
    refine ⟨?_, List.pairwise_append.mpr ⟨hpairwise, List.pairwise_singleton _ _, ?_⟩⟩
    · intro e he
      rcases List.mem_append.mp he with he | he
      · have := hbound e he
        omega
      · rw [List.mem_singleton.mp he, hlength]
        exact Nat.lt_succ_self _
    · intro a ha b hb
      rw [List.mem_singleton.mp hb]
      exact hbound a ha
  · exact ⟨fun e he => absurd he List.not_mem_nil, List.Pairwise.nil⟩

/-- The edits of a plan are those of the calls that are carried out, in the order of the calls. -/
theorem contents_ofCalls (calls : List Call) :
    (ofCalls calls).edits.map content = (calls.filter Call.isAccepted).map Call.content := by
  suffices h : ∀ p : Plan, (calls.foldl perform p).edits.map content =
      p.edits.map content ++ (calls.filter Call.isAccepted).map Call.content from h empty
  induction calls with
  | nil => simp
  | cons c calls ih =>
    intro p
    rw [List.foldl_cons, ih]
    by_cases hc : c.isAccepted = true
    · rw [perform_of_accepted hc, List.filter_cons_of_pos hc]
      simp [push, content, Call.content]
    · rw [perform_of_refused (by simpa using hc), List.filter_cons_of_neg hc]

/-! ## The order among edits with one start -/

/-- Edits with one start are applied in planning order. -/
theorem filter_ordered (calls : List Call) (offset : Int) :
    ((ofCalls calls).ordered.filter fun e => e.start = offset) =
      (ofCalls calls).edits.filter fun e => e.start = offset := by
  have hseq := pairwise_seq calls
  have hedits : ((ofCalls calls).edits.filter fun e => e.start = offset).Pairwise
      fun a b => precedes a b = true := by
    refine (List.pairwise_filter.mpr (hseq.imp ?_))
    intro a b hab ha hb
    rw [precedes_iff]
    simp only [decide_eq_true_eq] at ha hb
    omega
  refine List.Perm.eq_of_pairwise ?_ ((pairwise_precedes _).filter _) hedits
    ((ordered_perm _).filter _)
  intro a b ha hb hab hba
  rw [List.mem_filter, decide_eq_true_eq] at ha hb
  rw [precedes_iff] at hab hba
  have hsame : a.seq = b.seq := by omega
  -- equal numbers belong to one edit
  exact List.inj_on_of_nodup_map (List.pairwise_map.mpr (hseq.imp Nat.ne_of_lt))
    (mem_ordered.mp ha.1) hb.1 hsame

/-- A list that is sorted by a key is determined by its parts with one key each. -/
theorem eq_of_sorted_of_filter_eq {α : Type} {key : α → Int} {xs ys : List α}
    (hxs : xs.Pairwise fun a b => key a ≤ key b) (hys : ys.Pairwise fun a b => key a ≤ key b)
    (h : ∀ k, (xs.filter fun a => key a = k) = ys.filter fun a => key a = k) : xs = ys := by
  have hmem : ∀ a, a ∈ xs ↔ a ∈ ys := by
    intro a
    have ha := congrArg (a ∈ ·) (h (key a))
    simpa using ha
  induction xs generalizing ys with
  | nil =>
    cases ys with
    | nil => rfl
    | cons y ys => exact absurd ((hmem y).mpr List.mem_cons_self) List.not_mem_nil
  | cons x xs ih =>
    cases ys with
    | nil => exact absurd ((hmem x).mp List.mem_cons_self) List.not_mem_nil
    | cons y ys =>
      -- both heads have the least key, so they are the first elements with that key
      have hkey : key x = key y := by
        have hxy : key x ≤ key y := by
          rcases List.mem_cons.mp ((hmem y).mpr List.mem_cons_self) with heq | hy
          · rw [heq]
          · exact (List.pairwise_cons.mp hxs).1 y hy
        have hyx : key y ≤ key x := by
          rcases List.mem_cons.mp ((hmem x).mp List.mem_cons_self) with heq | hx
          · rw [heq]
          · exact (List.pairwise_cons.mp hys).1 x hx
        omega
      have hheads := h (key x)
      rw [List.filter_cons_of_pos (by simp), List.filter_cons_of_pos (by simp [hkey])] at hheads
      obtain rfl : x = y := (List.cons.inj hheads).1
      have htails : ∀ k, (xs.filter fun a => key a = k) = ys.filter fun a => key a = k := by
        intro k
        by_cases hk : key x = k
        · rw [← hk]
          exact (List.cons.inj hheads).2
        · have hk := h k
          rwa [List.filter_cons_of_neg (by simpa), List.filter_cons_of_neg (by simpa)] at hk
      rw [ih (List.pairwise_cons.mp hxs).2 (List.pairwise_cons.mp hys).2 htails fun a => ?_]
      have ha := congrArg (a ∈ ·) (htails (key a))
      simpa using ha

theorem sorted_contents (p : Plan) :
    (p.ordered.map content).Pairwise fun a b => a.1 ≤ b.1 := by
  refine List.pairwise_map.mpr (p.pairwise_precedes.imp ?_)
  intro a b hab
  rw [precedes_iff] at hab
  show a.start ≤ b.start
  omega

/-- What is joined does not depend on the numbers of the edits. -/
theorem join_congr {source : Bytes} {cursor : Int} {es es' : List Edit}
    (h : es.map content = es'.map content) : join source cursor es = join source cursor es' := by
  induction es generalizing cursor es' with
  | nil =>
    rw [List.map_nil, eq_comm, List.map_eq_nil_iff] at h
    rw [h]
  | cons e es ih =>
    cases es' with
    | nil => cases h
    | cons e' es' =>
      obtain ⟨hhead, htail⟩ := List.cons.inj h
      obtain ⟨hstart, hstop, htext⟩ : e.start = e'.start ∧ e.stop = e'.stop ∧ e.text = e'.text := by
        simpa [content] using hhead
      rw [join, join, hstart, hstop, htext, ih htail]

/-! ## Rearranged calls -/

/-- Rearranged calls give the same edits in the same order of application. -/
theorem contents_of_rearranged {calls calls' : List Call} (h : Call.Rearranged calls calls') :
    (ofCalls calls).ordered.map content = (ofCalls calls').ordered.map content := by
  have hfilter : ∀ (calls : List Call) (offset : Int),
      (((ofCalls calls).ordered.map content).filter fun a => a.1 = offset) =
        ((calls.filter fun c => c.start = offset).filter Call.isAccepted).map Call.content := by
    intro calls offset
    calc ((ofCalls calls).ordered.map content).filter (fun a => a.1 = offset)
        = ((ofCalls calls).ordered.filter fun e => e.start = offset).map content :=
          List.filter_map
      _ = ((ofCalls calls).edits.filter fun e => e.start = offset).map content := by
          rw [filter_ordered]
      _ = ((ofCalls calls).edits.map content).filter (fun a => a.1 = offset) := by
          rw [List.filter_map]
          rfl
      _ = ((calls.filter Call.isAccepted).map Call.content).filter (fun a => a.1 = offset) := by
          rw [contents_ofCalls]
      _ = ((calls.filter Call.isAccepted).filter fun c => c.start = offset).map Call.content :=
          List.filter_map
      _ = ((calls.filter fun c => c.start = offset).filter Call.isAccepted).map Call.content := by
          rw [List.filter_comm]
  refine eq_of_sorted_of_filter_eq (sorted_contents _) (sorted_contents _) fun offset => ?_
  rw [hfilter, hfilter, h offset]

/-- The order of the calls matters only among calls with the same start. -/
theorem apply_of_rearranged {calls calls' : List Call} (h : Call.Rearranged calls calls')
    (source : Bytes) : (ofCalls calls).apply source = (ofCalls calls').apply source := by
  unfold apply applyBytes
  rw [join_congr (contents_of_rearranged h)]

/-- Insertions around a replacement and a call that is refused, in two orders. -/
theorem apply_of_rearranged_twoStarts :
    Call.Rearranged
        [.insert 3 "x", .insert 1 "a", .replace 4 2 "no", .replace 1 3 "EL", .insert 1 "b"]
        [.insert 1 "a", .replace 1 3 "EL", .insert 1 "b", .insert 3 "x", .replace 4 2 "no"] ∧
      ∀ source,
        (ofCalls [.insert 3 "x", .insert 1 "a", .replace 4 2 "no", .replace 1 3 "EL",
          .insert 1 "b"]).apply source =
        (ofCalls [.insert 1 "a", .replace 1 3 "EL", .insert 1 "b", .insert 3 "x",
          .replace 4 2 "no"]).apply source := by
  have h : Call.Rearranged
      [.insert 3 "x", .insert 1 "a", .replace 4 2 "no", .replace 1 3 "EL", .insert 1 "b"]
      [.insert 1 "a", .replace 1 3 "EL", .insert 1 "b", .insert 3 "x", .replace 4 2 "no"] := by
    intro offset
    by_cases h1 : (1 : Int) = offset
    · subst h1
      rfl
    · by_cases h3 : (3 : Int) = offset
      · subst h3
        rfl
      · simp [Call.start, List.filter_cons, h1, h3]
  exact ⟨h, apply_of_rearranged h⟩

end Plan

end JsxTagger.Edit
