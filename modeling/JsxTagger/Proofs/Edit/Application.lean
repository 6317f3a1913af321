import Mathlib.Data.Int.Order.Basic
import JsxTagger.Edit.Plan
import JsxTagger.Proofs.Text.Boundaries

/-!
# Applying a plan

A plan is applied from the front of the source to its end, and an edit that starts before the end of
the edits in front of it is refused. `Fits` says that this does not happen. It follows from a property
of the plan that does not mention the order of application: every two edits are *apart*, which means
that both are insertions, or one ends where or before the other starts and starts before it
(`fits_ordered`). The order in which insertions at one place were planned does not matter then, and no
insertion stands at the start of a replacement.

A plan that fits is applied as soon as its texts have a byte form (`exists_apply`): if its edits start
and end at boundaries of a text, the result is a text. If its edits only add, the source is a
subsequence of the result (`sublist_of_apply`).
-/

namespace JsxTagger.Edit

/-- Two edits that do not get in each other's way: both are insertions, or one of them starts before
the other and ends no later than the other starts. -/
def Apart (a b : Edit) : Prop :=
  (a.start = a.stop ∧ b.start = b.stop) ∨ (a.start < b.start ∧ a.stop ≤ b.start) ∨
    (b.start < a.start ∧ b.stop ≤ a.start)

theorem Apart.symm {a b : Edit} (h : Apart a b) : Apart b a := by
  rcases h with ⟨ha, hb⟩ | h | h
  · exact Or.inl ⟨hb, ha⟩
  · exact Or.inr (Or.inr h)
  · exact Or.inr (Or.inl h)

namespace Plan

/-! ## The order of application -/

theorem precedes_iff {a b : Edit} :
    precedes a b = true ↔ a.start < b.start ∨ a.start = b.start ∧ a.seq ≤ b.seq := by
  simp [precedes]

theorem ordered_perm (p : Plan) : p.ordered.Perm p.edits := List.mergeSort_perm _ _

theorem mem_ordered {p : Plan} {e : Edit} : e ∈ p.ordered ↔ e ∈ p.edits := List.mem_mergeSort

theorem pairwise_precedes (p : Plan) :
    p.ordered.Pairwise fun a b => precedes a b = true := by
  apply List.pairwise_mergeSort
  · intro a b c hab hbc
    rw [precedes_iff] at hab hbc ⊢
    omega
  · intro a b
    rw [Bool.or_eq_true, precedes_iff, precedes_iff]
    omega

/-- If every two edits are apart, each ends where or before the later ones start. -/
theorem pairwise_ordered {p : Plan} (hapart : p.edits.Pairwise Apart) :
    p.ordered.Pairwise fun a b => a.stop ≤ b.start := by
  have hordered : p.ordered.Pairwise Apart :=
    (p.ordered_perm.pairwise_iff fun {_ _} => Apart.symm).mpr hapart
  refine (p.pairwise_precedes.and hordered).imp ?_
  rintro a b ⟨hprecedes, hab⟩
  rw [precedes_iff] at hprecedes
  unfold Apart at hab
  omega

/-! ## Plans that fit -/

/-- Edits that can be applied in the given order to what comes after `cursor`. -/
def Fits : Int → List Edit → Prop
  | _, [] => True
  | cursor, e :: es => cursor ≤ e.start ∧ Fits e.stop es

theorem fits_of_pairwise {cursor : Int} {es : List Edit}
    (hcursor : ∀ e ∈ es, cursor ≤ e.start) (hes : es.Pairwise fun a b => a.stop ≤ b.start) :
    Fits cursor es := by
  induction es generalizing cursor with
  | nil => trivial
  | cons e es ih =>
    rw [List.pairwise_cons] at hes
    exact ⟨hcursor e List.mem_cons_self, ih hes.1 hes.2⟩

/-- A plan fits if its edits are apart and start inside the source. -/
theorem fits_ordered {p : Plan} (hapart : p.edits.Pairwise Apart)
    (hstart : ∀ e ∈ p.edits, 0 ≤ e.start) : Fits 0 p.ordered :=
  fits_of_pairwise (fun e he => hstart e (mem_ordered.mp he)) (pairwise_ordered hapart)

/-- What joining takes and what it yields: an edit must start no earlier than the cursor, its text
must have a byte form, and the result goes on from the end of the edit. -/
theorem join_cons_eq_ok {source : Bytes} {cursor : Int} {e : Edit} {es : List Edit} {b : Bytes} :
    join source cursor (e :: es) = .ok b ↔
      cursor ≤ e.start ∧ ∃ text rest, Bytes.ofText? e.text = .ok text ∧
        join source e.stop es = .ok rest ∧
        b = source.slice cursor.toNat e.start.toNat ++ text ++ rest := by
  rw [join]
  by_cases hlt : e.start < cursor
  · rw [if_pos hlt]
    constructor
    · intro h
      cases h
    · rintro ⟨hle, -⟩
      omega
  · rw [if_neg hlt]
    cases htext : Bytes.ofText? e.text with
    | error cause => simp [bind, Except.bind, Except.mapError]
    | ok text =>
      cases hrest : join source e.stop es with
      | error cause => simp [bind, Except.bind, Except.mapError]
      | ok rest =>
        simp only [bind, Except.bind, Except.mapError, Except.ok.injEq]
        constructor
        · rintro rfl
          exact ⟨by omega, text, rest, rfl, rfl, rfl⟩
        · rintro ⟨-, _, _, rfl, rfl, rfl⟩
          rfl

/-- Edits that fit are refused only if a text has no byte form. -/
theorem join_eq_error_of_fits {source : Bytes} {cursor : Int} {es : List Edit} {error : Error}
    (hfits : Fits cursor es) (h : join source cursor es = .error error) :
    ∃ cause, error = .unencodable cause := by
  induction es generalizing cursor with
  | nil => cases h
  | cons e es ih =>
    obtain ⟨hle, hfits⟩ := hfits
    rw [join, if_neg (by omega)] at h
    cases htext : Bytes.ofText? e.text with
    | error cause =>
      rw [htext] at h
      cases h
      exact ⟨cause, rfl⟩
    | ok text =>
      rw [htext] at h
      cases hrest : join source e.stop es with
      | error cause =>
        simp only [hrest, bind, Except.bind, Except.mapError, Except.error.injEq] at h
        subst h
        exact ih hfits hrest
      | ok rest =>
        simp only [hrest, bind, Except.bind, Except.mapError] at h
        cases h

/-- Edits with texts that have a byte form, at boundaries of a text, yield a text. -/
theorem exists_join {text : String} {cursor : Nat} {es : List Edit} (hfits : Fits cursor es)
    (hcursor : Bytes.isBoundary (Bytes.ofText text) cursor = true)
    (hplain : ∀ e ∈ es, Text.isPlain e.text = true)
    (hbounds : ∀ e ∈ es, ∃ start stop : Nat, e.start = start ∧ e.stop = stop ∧
      Bytes.isBoundary (Bytes.ofText text) start = true ∧
      Bytes.isBoundary (Bytes.ofText text) stop = true) :
    ∃ result, join (Bytes.ofText text) cursor es = .ok (Bytes.ofText result) := by
  induction es generalizing cursor with
  | nil =>
    obtain ⟨front, back, rfl, rfl⟩ := Bytes.isBoundary_ofText.mp hcursor
    refine ⟨back, ?_⟩
    rw [join, Int.toNat_natCast, Bytes.ofText_append, List.drop_left]
  | cons e es ih =>
    obtain ⟨hle, hfits⟩ := hfits
    obtain ⟨start, stop, hstart, hstop, hstartBound, hstopBound⟩ := hbounds e List.mem_cons_self
    rw [hstart] at hle
    rw [hstop] at hfits
    obtain ⟨rest, hrest⟩ := ih hfits hstopBound
      (fun d hd => hplain d (List.mem_cons_of_mem e hd))
      (fun d hd => hbounds d (List.mem_cons_of_mem e hd))
    obtain ⟨-, piece, -, -, -, hpiece⟩ :=
      Bytes.exists_slice hcursor hstartBound (by exact_mod_cast hle)
    refine ⟨piece ++ e.text ++ rest, join_cons_eq_ok.mpr ⟨by rw [hstart]; exact hle, ?_⟩⟩
    refine ⟨_, _, Bytes.ofText?_eq_ok (hplain e List.mem_cons_self), by rw [hstop]; exact hrest, ?_⟩
    rw [hstart, Int.toNat_natCast, Int.toNat_natCast, hpiece, Bytes.ofText_append,
      Bytes.ofText_append]

/-- Edits that are joined have texts with a byte form. -/
theorem isPlain_of_join_eq_ok {source : Bytes} {cursor : Int} {es : List Edit} {b : Bytes}
    (h : join source cursor es = .ok b) : ∀ e ∈ es, Text.isPlain e.text = true := by
  induction es generalizing cursor b with
  | nil => exact fun e he => nomatch he
  | cons d es ih =>
    obtain ⟨-, text, rest, htext, hrest, -⟩ := join_cons_eq_ok.mp h
    intro e he
    rcases List.mem_cons.mp he with rfl | he
    · exact Bytes.isPlain_of_ofText? htext
    · exact ih hrest e he

/-- A plan that is applied joins its edits to the bytes of the result. -/
theorem join_of_apply {p : Plan} {source : Bytes} {result : String}
    (h : p.apply source = .ok result) : join source 0 p.ordered = .ok (Bytes.ofText result) := by
  cases hbytes : p.applyBytes source with
  | error cause => simp [apply, hbytes, bind, Except.bind] at h
  | ok b =>
    simp only [apply, hbytes, bind, Except.bind] at h
    split at h
    · rename_i text htext
      cases h
      rw [← Bytes.text?_eq_some.mp htext]
      exact hbytes
    · cases h

/-- What is joined from a plain text and edits at its boundaries is plain. -/
theorem isPlain_of_join {text result : String} {cursor : Nat} {es : List Edit}
    (hplain : Text.isPlain text = true)
    (hcursor : Bytes.isBoundary (Bytes.ofText text) cursor = true)
    (hbounds : ∀ e ∈ es, ∃ start stop : Nat, e.start = start ∧ e.stop = stop ∧
      Bytes.isBoundary (Bytes.ofText text) start = true ∧
      Bytes.isBoundary (Bytes.ofText text) stop = true)
    (h : join (Bytes.ofText text) cursor es = .ok (Bytes.ofText result)) :
    Text.isPlain result = true := by
  induction es generalizing cursor result with
  | nil =>
    obtain ⟨front, back, rfl, rfl⟩ := Bytes.isBoundary_ofText.mp hcursor
    rw [join, Int.toNat_natCast, Bytes.ofText_append, List.drop_left] at h
    rw [← Bytes.ofText_injective (Except.ok.inj h)]
    rw [Text.isPlain_append, Bool.and_eq_true] at hplain
    exact hplain.2
  | cons e es ih =>
    obtain ⟨start, stop, hstart, hstop, hstartBound, hstopBound⟩ := hbounds e List.mem_cons_self
    obtain ⟨hle, bytes, rest, hbytes, hrest, heq⟩ := join_cons_eq_ok.mp h
    rw [hstart] at hle
    obtain ⟨front, piece, back, htext, -, hpiece⟩ :=
      Bytes.exists_slice hcursor hstartBound (by exact_mod_cast hle)
    have hedit := Bytes.isPlain_of_ofText? hbytes
    rw [Bytes.ofText?_eq_ok hedit] at hbytes
    rw [← Except.ok.inj hbytes, hstart, Int.toNat_natCast, Int.toNat_natCast, hpiece,
      ← Bytes.ofText_append] at heq
    -- what follows the edit is joined to a text as well
    obtain ⟨tail, rfl, rfl⟩ := Bytes.exists_of_append heq.symm
    rw [hstop] at hrest
    have htail := ih hstopBound (fun d hd => hbounds d (List.mem_cons_of_mem e hd)) hrest
    rw [htext, Text.isPlain_append, Text.isPlain_append, Bool.and_eq_true, Bool.and_eq_true] at hplain
    rw [Text.isPlain_append, Text.isPlain_append, hplain.1.2, hedit, htail]
    rfl

section Boundaries

variable {p : Plan} {text : String} (hapart : p.edits.Pairwise Apart)
  (hbounds : ∀ e ∈ p.edits, ∃ start stop : Nat, e.start = start ∧ e.stop = stop ∧
    Bytes.isBoundary (Bytes.ofText text) start = true ∧
    Bytes.isBoundary (Bytes.ofText text) stop = true)

include hapart hbounds

theorem fits_of_bounds : Fits 0 p.ordered := by
  refine fits_ordered hapart fun e he => ?_
  obtain ⟨start, _, hstart, -⟩ := hbounds e he
  omega

/-- A plan whose edits are apart, stand at boundaries of the source and have texts with a byte form is
applied. -/
theorem exists_apply (hplain : ∀ e ∈ p.edits, Text.isPlain e.text = true) :
    ∃ result, p.apply (Bytes.ofText text) = .ok result := by
  have hfits : Fits ((0 : Nat) : Int) p.ordered := fits_of_bounds hapart hbounds
  obtain ⟨result, hresult⟩ := exists_join hfits (Bytes.isBoundary_zero _)
    (fun e he => hplain e (mem_ordered.mp he)) (fun e he => hbounds e (mem_ordered.mp he))
  refine ⟨result, ?_⟩
  have hbytes : p.applyBytes (Bytes.ofText text) = .ok (Bytes.ofText result) := hresult
  simp only [apply, hbytes, bind, Except.bind, Bytes.text?_ofText]

/-- Nothing but a text without a byte form keeps such a plan from being applied. -/
theorem apply_eq_error {error : Error} (h : p.apply (Bytes.ofText text) = .error error) :
    ∃ cause, error = .unencodable cause := by
  cases hbytes : p.applyBytes (Bytes.ofText text) with
  | error cause =>
    simp only [apply, hbytes, bind, Except.bind, Except.error.injEq] at h
    subst h
    exact join_eq_error_of_fits (fits_of_bounds hapart hbounds) hbytes
  | ok b =>
    have hplain : ∀ e ∈ p.edits, Text.isPlain e.text = true := fun e he =>
      isPlain_of_join_eq_ok hbytes e (mem_ordered.mpr he)
    obtain ⟨result, hresult⟩ := exists_apply hapart hbounds hplain
    rw [hresult] at h
    cases h

end Boundaries

/-! ## Plans that only add -/

/-- An edit that only adds: its text holds what it replaces and something more. -/
def Adds (source : Bytes) (e : Edit) : Prop :=
  e.start ≤ e.stop ∧ ∃ before after,
    Bytes.ofText e.text = before ++ source.slice e.start.toNat e.stop.toNat ++ after ∧
    before ++ after ≠ []

theorem drop_eq_slice_append (source : Bytes) {start stop : Nat} (h : start ≤ stop) :
    source.drop start = source.slice start stop ++ source.drop stop := by
  have hstop : source.drop stop = (source.drop start).drop (stop - start) := by
    rw [List.drop_drop, Nat.add_sub_cancel' h]
  rw [hstop, Bytes.slice, List.take_append_drop]

/-- Nothing of the source is lost, and each edit adds at least one byte. -/
theorem sublist_of_join {source : Bytes} {cursor : Int} {es : List Edit} {b : Bytes}
    (hadds : ∀ e ∈ es, Adds source e) (h : join source cursor es = .ok b) :
    (source.drop cursor.toNat).Sublist b ∧
      (source.drop cursor.toNat).length + es.length ≤ b.length := by
  induction es generalizing cursor b with
  | nil =>
    cases h
    exact ⟨List.Sublist.refl _, Nat.le_refl _⟩
  | cons e es ih =>
    obtain ⟨hcursor, text, rest, htext, hrest, rfl⟩ := join_cons_eq_ok.mp h
    obtain ⟨hrange, before, after, hkept, hmore⟩ := hadds e List.mem_cons_self
    obtain ⟨hsub, hlength⟩ := ih (fun d hd => hadds d (List.mem_cons_of_mem e hd)) hrest
    have htext : text = before ++ source.slice e.start.toNat e.stop.toNat ++ after := by
      rw [← hkept]
      exact (Except.ok.inj ((Bytes.ofText?_eq_ok (Bytes.isPlain_of_ofText? htext)).symm.trans htext)).symm
    have hbefore : source.drop cursor.toNat =
        source.slice cursor.toNat e.start.toNat ++ source.drop e.start.toNat :=
      drop_eq_slice_append source (by omega)
    have hat : source.drop e.start.toNat =
        source.slice e.start.toNat e.stop.toNat ++ source.drop e.stop.toNat :=
      drop_eq_slice_append source (by omega)
    have hpiece : (source.slice e.start.toNat e.stop.toNat).Sublist text := by
      rw [htext, List.append_assoc]
      exact (List.sublist_append_left _ after).trans (List.sublist_append_right before _)
    refine ⟨?_, ?_⟩
    · rw [hbefore, hat, ← List.append_assoc]
      exact ((List.Sublist.refl _).append hpiece).append hsub
    · have hadded : 1 ≤ before.length + after.length := by
        rw [← List.length_append]
        exact List.length_pos_iff.mpr hmore
      rw [hbefore, hat, htext]
      simp only [List.length_append, List.length_cons]
      omega

/-- A plan that only adds keeps the source as a subsequence of the result, and changes it unless it is
empty. -/
theorem sublist_of_apply {p : Plan} {source : Bytes} {result : String}
    (hadds : ∀ e ∈ p.edits, Adds source e) (h : p.apply source = .ok result) :
    source.Sublist (Bytes.ofText result) ∧ (Bytes.ofText result = source ↔ p.length = 0) := by
  cases hbytes : p.applyBytes source with
  | error cause => simp [apply, hbytes, bind, Except.bind] at h
  | ok b =>
    have hb : b = Bytes.ofText result := by
      simp only [apply, hbytes, bind, Except.bind] at h
      split at h
      · rename_i text htext
        cases h
        exact Bytes.text?_eq_some.mp htext
      · cases h
    rw [hb] at hbytes
    obtain ⟨hsub, hlength⟩ :=
      sublist_of_join (fun e he => hadds e (mem_ordered.mp he)) hbytes
    rw [Int.toNat_zero, List.drop_zero] at hsub hlength
    rw [p.ordered_perm.length_eq] at hlength
    refine ⟨hsub, fun heq => ?_, fun hempty => ?_⟩
    · rw [heq] at hlength
      rw [length]
      omega
    · have hedits : p.edits = [] := List.length_eq_zero_iff.mp hempty
      rw [applyBytes, ordered, hedits, List.mergeSort_nil, join] at hbytes
      cases hbytes
      rfl

end Plan

end JsxTagger.Edit
