import Mathlib.Data.List.Permutation
import Mathlib.Order.Basic
import JsxTagger.Proofs.Edit.Calls

/-!
# Edits one at a time

What applying a plan means (`apply_ofCalls`): the bytes that are joined in one pass over the source
are those that the edits yield when they are carried out one at a time, from the last to the first,
each in its own range of the source (`oneByOne`). They are made of the bytes outside all ranges
(`kept`) and the texts of the edits, each of them once and in order (`Interleaves`).

A plan is refused if an edit starts before the end of one in front of it (`Overlap`), or if a text has
no byte form, and of the two what comes first in the order of application is reported.
-/

namespace JsxTagger.Edit

/-- The bytes after one edit: its range, clipped to `limit`, gives way to its text. -/
def replaceIn (limit : Nat) (e : Edit) (b : Bytes) : Bytes :=
  b.take (min e.start.toNat limit) ++ Bytes.ofText e.text ++ b.drop (min e.stop.toNat limit)

/-- The bytes after the edits, one at a time from the last to the first. -/
def oneByOne (source : Bytes) (es : List Edit) : Bytes :=
  es.foldr (replaceIn source.length) source

/-- Whether a position is in the range of an edit. -/
def covers (e : Edit) (i : Nat) : Bool := e.start ≤ i && i < e.stop

/-- The bytes that no edit covers, of those with their positions. -/
def keptOf (bs : List (UInt8 × Nat)) (es : List Edit) : Bytes :=
  (bs.filter fun x => es.all fun e => !e.covers x.2).map Prod.fst

/-- The bytes of the source outside the ranges of all edits. -/
def kept (source : Bytes) (es : List Edit) : Bytes := keptOf source.zipIdx es

/-- Bytes that are made of single bytes and whole pieces, each of them once and in the given order. -/
inductive Interleaves : Bytes → List Bytes → Bytes → Prop where
  /-- Nothing is made of nothing. -/
  | nil : Interleaves [] [] []
  /-- A single byte comes next. -/
  | byte {x : UInt8} {bs : Bytes} {pieces : List Bytes} {all : Bytes} :
    Interleaves bs pieces all → Interleaves (x :: bs) pieces (x :: all)
  /-- A piece comes next. -/
  | piece {p : Bytes} {bs : Bytes} {pieces : List Bytes} {all : Bytes} :
    Interleaves bs pieces all → Interleaves bs (p :: pieces) (p ++ all)

theorem Interleaves.append {bs all : Bytes} {pieces : List Bytes} (h : Interleaves bs pieces all)
    (front : Bytes) : Interleaves (front ++ bs) pieces (front ++ all) := by
  induction front with
  | nil => exact h
  | cons x front ih => exact ih.byte

namespace Plan

/-- Edits of which the first starts before the cursor, or one starts before the end of one in front of
it. -/
def Overlap (cursor : Int) (es : List Edit) : Prop :=
  (∃ e, es.head? = some e ∧ e.start < cursor) ∨ ∃ a b, [a, b].Sublist es ∧ b.start < a.stop

/-! ## Overlapping edits -/

theorem not_overlap_nil (cursor : Int) : ¬ Overlap cursor [] := by
  rintro (⟨e, he, -⟩ | ⟨a, b, hab, -⟩)
  · cases he
  · cases hab

/-- In the order of starts, edits overlap if the first starts too early or the others overlap behind
it. -/
theorem overlap_cons {cursor : Int} {e : Edit} {es : List Edit}
    (hsorted : (e :: es).Pairwise fun a b => a.start ≤ b.start) :
    Overlap cursor (e :: es) ↔ e.start < cursor ∨ Overlap e.stop es := by
  constructor
  · rintro (⟨d, hd, hlt⟩ | ⟨a, b, hab, hlt⟩)
    · rw [List.head?_cons, Option.some.injEq] at hd
      rw [hd]
      exact Or.inl hlt
    · refine Or.inr ?_
      rcases List.sublist_cons_iff.mp hab with hab | ⟨rest, hrest, hb⟩
      · exact Or.inr ⟨a, b, hab, hlt⟩
      · obtain ⟨rfl, rfl⟩ := List.cons.inj hrest
        have hmem : b ∈ es := List.singleton_sublist.mp hb
        -- the edit right behind starts no later than the one that is too early
        cases es with
        | nil => cases hmem
        | cons d es =>
          refine Or.inl ⟨d, rfl, ?_⟩
          rcases List.mem_cons.mp hmem with rfl | hmem
          · exact hlt
          · have := (List.pairwise_cons.mp (List.pairwise_cons.mp hsorted).2).1 b hmem
            omega
  · rintro (hlt | ⟨d, hd, hlt⟩ | ⟨a, b, hab, hlt⟩)
    · exact Or.inl ⟨e, rfl, hlt⟩
    · refine Or.inr ⟨e, d, ?_, hlt⟩
      exact (List.singleton_sublist.mpr (List.mem_of_mem_head? hd)).cons_cons e
    · exact Or.inr ⟨a, b, hab.cons e, hlt⟩

/-- Edits fit if they do not overlap. -/
theorem fits_iff {cursor : Int} {es : List Edit}
    (hsorted : es.Pairwise fun a b => a.start ≤ b.start) :
    Fits cursor es ↔ ¬ Overlap cursor es := by
  induction es generalizing cursor with
  | nil => exact iff_of_true trivial (not_overlap_nil cursor)
  | cons e es ih =>
    rw [overlap_cons hsorted, not_or, ← ih (List.pairwise_cons.mp hsorted).2, not_lt]
    exact Iff.rfl

theorem sorted_ordered (p : Plan) : p.ordered.Pairwise fun a b => a.start ≤ b.start := by
  refine p.pairwise_precedes.imp ?_
  intro a b hab
  rw [precedes_iff] at hab
  omega

/-! ## Refused plans -/

section Refused

variable {source : Bytes} {cursor : Int} {e : Edit} {es : List Edit}

theorem join_of_early (h : e.start < cursor) :
    join source cursor (e :: es) = .error (.overlap e.start cursor) := by
  rw [join, if_pos h]

theorem exists_join_of_not_plain (h : cursor ≤ e.start) (hplain : Text.isPlain e.text = false) :
    ∃ cause, join source cursor (e :: es) = .error (.unencodable cause) := by
  rw [join, if_neg (not_lt.mpr h)]
  cases htext : Bytes.ofText? e.text with
  | error cause => exact ⟨cause, rfl⟩
  | ok text =>
    rw [Bytes.isPlain_of_ofText? htext] at hplain
    cases hplain

theorem join_of_plain (h : cursor ≤ e.start) (hplain : Text.isPlain e.text = true) :
    join source cursor (e :: es) = (join source e.stop es).map fun rest =>
      source.slice cursor.toNat e.start.toNat ++ Bytes.ofText e.text ++ rest := by
  rw [join, if_neg (not_lt.mpr h), Bytes.ofText?_eq_ok hplain]
  cases join source e.stop es <;> rfl

theorem join_cons_eq_error {error : Error} (h : cursor ≤ e.start)
    (hplain : Text.isPlain e.text = true) :
    join source cursor (e :: es) = .error error ↔ join source e.stop es = .error error := by
  rw [join_of_plain h hplain]
  cases join source e.stop es <;> simp [Except.map]

/-- What is said of a beginning of a list that is not empty is said of a beginning of its tail. -/
theorem exists_prefix_cons {α : Type} {a : α} {as : List α} {P : List α → Prop} (hnil : ¬ P []) :
    (∃ front, front <+: a :: as ∧ P front) ↔ ∃ front, front <+: as ∧ P (a :: front) := by
  constructor
  · rintro ⟨front, hfront, h⟩
    rcases List.prefix_cons_iff.mp hfront with rfl | ⟨rest, rfl, hrest⟩
    · exact absurd h hnil
    · exact ⟨rest, hrest, h⟩
  · rintro ⟨front, hfront, h⟩
    exact ⟨a :: front, List.cons_prefix_cons.mpr ⟨rfl, hfront⟩, h⟩

/-- An overlap is reported if the texts in front of it have a byte form. -/
theorem join_eq_overlap_iff (hsorted : es.Pairwise fun a b => a.start ≤ b.start) :
    (∃ start stop, join source cursor es = .error (.overlap start stop)) ↔
      ∃ front, front <+: es ∧ Overlap cursor front ∧
        ∀ d ∈ front.dropLast, Text.isPlain d.text = true := by
  induction es generalizing cursor with
  | nil =>
    refine iff_of_false ?_ ?_
    · rintro ⟨start, stop, h⟩
      cases h
    · rintro ⟨front, hfront, hoverlap, -⟩
      rw [List.prefix_nil.mp hfront] at hoverlap
      exact not_overlap_nil cursor hoverlap
  | cons e es ih =>
    rw [exists_prefix_cons fun h => not_overlap_nil cursor h.1]
    by_cases hearly : e.start < cursor
    · exact iff_of_true ⟨_, _, join_of_early hearly⟩
        ⟨[], List.nil_prefix, Or.inl ⟨e, rfl, hearly⟩, fun d hd => absurd hd List.not_mem_nil⟩
    have hle : cursor ≤ e.start := not_lt.mp hearly
    -- the overlap is one behind the first edit then
    have hcons : ∀ front, front <+: es → (Overlap cursor (e :: front) ↔ Overlap e.stop front) := by
      intro front hfront
      rw [overlap_cons (hsorted.sublist (hfront.sublist.cons_cons e))]
      exact or_iff_right hearly
    by_cases hplain : Text.isPlain e.text = true
    · simp only [join_cons_eq_error hle hplain, ih (List.pairwise_cons.mp hsorted).2]
      refine exists_congr fun front => and_congr_right fun hfront =>
        and_congr (hcons front hfront).symm ?_
      cases front with
      | nil => exact Iff.rfl
      | cons d front =>
        rw [List.dropLast_cons_of_ne_nil (List.cons_ne_nil d front), List.forall_mem_cons]
        exact (and_iff_right hplain).symm
    · have hcause : ∃ cause, join source cursor (e :: es) = .error (.unencodable cause) :=
        exists_join_of_not_plain hle (Bool.eq_false_iff.mpr hplain)
      obtain ⟨cause, hcause⟩ := hcause
      refine iff_of_false ?_ ?_
      · rintro ⟨start, stop, h⟩
        rw [hcause] at h
        cases h
      · rintro ⟨front, hfront, hoverlap, hfrontPlain⟩
        cases front with
        | nil => exact not_overlap_nil e.stop ((hcons [] hfront).mp hoverlap)
        | cons d front =>
          rw [List.dropLast_cons_of_ne_nil (List.cons_ne_nil d front)] at hfrontPlain
          exact hplain (hfrontPlain e List.mem_cons_self)

/-- A text without a byte form is reported if no edits overlap up to it. -/
theorem join_eq_unencodable_iff (hsorted : es.Pairwise fun a b => a.start ≤ b.start) :
    (∃ cause, join source cursor es = .error (.unencodable cause)) ↔
      ∃ front, front <+: es ∧ ¬ Overlap cursor front ∧
        ∃ d ∈ front, Text.isPlain d.text = false := by
  induction es generalizing cursor with
  | nil =>
    refine iff_of_false ?_ ?_
    · rintro ⟨cause, h⟩
      cases h
    · rintro ⟨front, hfront, -, d, hd, -⟩
      rw [List.prefix_nil.mp hfront] at hd
      cases hd
  | cons e es ih =>
    have hnil : ¬ (¬ Overlap cursor [] ∧ ∃ d ∈ ([] : List Edit), Text.isPlain d.text = false) := by
      rintro ⟨-, d, hd, -⟩
      cases hd
    rw [exists_prefix_cons hnil]
    have hcons : ∀ front, front <+: es →
        (Overlap cursor (e :: front) ↔ e.start < cursor ∨ Overlap e.stop front) :=
      fun front hfront => overlap_cons (hsorted.sublist (hfront.sublist.cons_cons e))
    -- an overlap stops the pass before the text of the edit is looked at
    by_cases hearly : e.start < cursor
    · refine iff_of_false ?_ ?_
      · rintro ⟨cause, h⟩
        rw [join_of_early hearly] at h
        cases h
      · rintro ⟨front, hfront, hoverlap, -⟩
        exact hoverlap ((hcons front hfront).mpr (Or.inl hearly))
    have hle : cursor ≤ e.start := not_lt.mp hearly
    by_cases hplain : Text.isPlain e.text = true
    · simp only [join_cons_eq_error hle hplain, ih (List.pairwise_cons.mp hsorted).2]
      refine exists_congr fun front => and_congr_right fun hfront => ?_
      rw [hcons front hfront, or_iff_right hearly, List.exists_mem_cons_iff, hplain,
        or_iff_right Bool.noConfusion]
    · have hplain := Bool.eq_false_iff.mpr hplain
      refine iff_of_true (exists_join_of_not_plain hle hplain)
        ⟨[], List.nil_prefix, ?_, e, List.mem_singleton_self e, hplain⟩
      rw [hcons [] List.nil_prefix, not_or]
      exact ⟨hearly, not_overlap_nil e.stop⟩

end Refused

/-! ## One pass and one edit at a time -/

/-- One pass over the source from the cursor on yields what the edits yield one at a time, behind the
bytes in front of the cursor. -/
theorem join_eq_oneByOne {source : Bytes} {cursor : Int} {es : List Edit} (hfits : Fits cursor es)
    (hrange : ∀ e ∈ es, e.start ≤ e.stop) (hplain : ∀ e ∈ es, Text.isPlain e.text = true) :
    ∃ b, join source cursor es = .ok b ∧
      oneByOne source es = source.take cursor.toNat ++ b := by
  induction es generalizing cursor with
  | nil => exact ⟨source.drop cursor.toNat, rfl, (List.take_append_drop _ _).symm⟩
  | cons e es ih =>
    obtain ⟨hle, hfits⟩ := hfits
    rw [List.forall_mem_cons] at hrange hplain
    obtain ⟨rest, hrest, honeByOne⟩ := ih hfits hrange.2 hplain.2
    refine ⟨_, by rw [join_of_plain hle hplain.1, hrest]; rfl, ?_⟩
    have hstop : min e.stop.toNat source.length = (source.take e.stop.toNat).length :=
      List.length_take.symm
    have htake : (source.take e.stop.toNat ++ rest).take (min e.start.toNat source.length) =
        source.take e.start.toNat := by
      rw [List.take_append_of_le_length (by rw [List.length_take]; omega), List.take_take,
        List.take_eq_take_iff]
      omega
    have hdrop : (source.take e.stop.toNat ++ rest).drop (min e.stop.toNat source.length) = rest := by
      rw [hstop, List.drop_left]
    have hslice : source.take e.start.toNat =
        source.take cursor.toNat ++ source.slice cursor.toNat e.start.toNat := by
      unfold Bytes.slice
      rw [← List.take_add, Nat.add_sub_cancel' (by omega)]
    calc oneByOne source (e :: es)
        = replaceIn source.length e (source.take e.stop.toNat ++ rest) := by
          rw [← honeByOne]
          rfl
      _ = source.take e.start.toNat ++ Bytes.ofText e.text ++ rest := by
          unfold replaceIn
          rw [htake, hdrop]
      _ = source.take cursor.toNat ++
            (source.slice cursor.toNat e.start.toNat ++ Bytes.ofText e.text ++ rest) := by
          rw [hslice]
          simp only [List.append_assoc]

/-! ## Bytes outside the ranges -/

/-- Positions behind a place. -/
theorem le_of_mem_drop {source : Bytes} {place : Nat} {x : UInt8 × Nat}
    (hx : x ∈ source.zipIdx.drop place) : place ≤ x.2 := by
  obtain ⟨i, hi, rfl⟩ := List.mem_iff_getElem.mp hx
  rw [List.getElem_drop, List.getElem_zipIdx]
  show place ≤ 0 + (place + i)
  omega

/-- Positions in front of a place. -/
theorem lt_of_mem_take {source : Bytes} {start stop : Nat} {x : UInt8 × Nat}
    (hx : x ∈ (source.zipIdx.drop start).take (stop - start)) : x.2 < stop := by
  obtain ⟨i, hi, rfl⟩ := List.mem_iff_getElem.mp hx
  rw [List.length_take] at hi
  rw [List.getElem_take, List.getElem_drop, List.getElem_zipIdx]
  show 0 + (start + i) < stop
  omega

theorem not_covers_of_lt {e : Edit} {i : Nat} (h : i < e.start) : e.covers i = false := by
  unfold covers
  rw [Bool.and_eq_false_iff]
  exact Or.inl (decide_eq_false (by omega))

theorem not_covers_of_le {e : Edit} {i : Nat} (h : e.stop ≤ i) : e.covers i = false := by
  unfold covers
  rw [Bool.and_eq_false_iff]
  exact Or.inr (decide_eq_false (by omega))

theorem Fits.le_start {cursor : Int} {es : List Edit} (h : Fits cursor es)
    (hrange : ∀ e ∈ es, e.start ≤ e.stop) : ∀ e ∈ es, cursor ≤ e.start := by
  induction es generalizing cursor with
  | nil => exact fun e he => absurd he List.not_mem_nil
  | cons d es ih =>
    rw [List.forall_mem_cons] at hrange ⊢
    refine ⟨h.1, fun e he => ?_⟩
    have hle := ih h.2 hrange.2 e he
    have hd := h.1
    omega

theorem keptOf_append (bs bs' : List (UInt8 × Nat)) (es : List Edit) :
    keptOf (bs ++ bs') es = keptOf bs es ++ keptOf bs' es := by
  unfold keptOf
  rw [List.filter_append, List.map_append]

/-- What comes in front of all edits is kept. -/
theorem keptOf_front {source : Bytes} {start : Nat} {place : Int} {es : List Edit}
    (hfront : ∀ e ∈ es, place ≤ e.start) :
    keptOf ((source.zipIdx.drop start).take (place.toNat - start)) es = source.slice start place.toNat := by
  unfold keptOf
  rw [List.filter_eq_self.mpr, List.map_take, List.map_drop, List.zipIdx_map_fst]
  · rfl
  · intro x hx
    refine List.all_eq_true.mpr fun e he => ?_
    have hlt := lt_of_mem_take hx
    have hle := hfront e he
    rw [not_covers_of_lt (by omega)]
    rfl

/-- The range of an edit is dropped. -/
theorem keptOf_range {source : Bytes} {e : Edit} {es : List Edit} :
    keptOf ((source.zipIdx.drop e.start.toNat).take (e.stop.toNat - e.start.toNat)) (e :: es) = [] := by
  unfold keptOf
  rw [List.map_eq_nil_iff, List.filter_eq_nil_iff]
  intro x hx hall
  have hlt := lt_of_mem_take hx
  have hge := le_of_mem_drop (List.mem_of_mem_take hx)
  have hcovers : e.covers x.2 = true := by
    unfold covers
    rw [Bool.and_eq_true, decide_eq_true_eq, decide_eq_true_eq]
    omega
  rw [List.all_cons, hcovers] at hall
  cases hall

/-- Behind the range of an edit, the other edits decide. -/
theorem keptOf_behind {source : Bytes} {e : Edit} {es : List Edit} :
    keptOf (source.zipIdx.drop e.stop.toNat) (e :: es) = keptOf (source.zipIdx.drop e.stop.toNat) es := by
  unfold keptOf
  congr 1
  refine List.filter_congr fun x hx => ?_
  have hge := le_of_mem_drop hx
  rw [List.all_cons, not_covers_of_le (by omega)]
  rfl

/-- What is kept behind the cursor: the bytes up to the first edit, and what is kept behind its range. -/
theorem keptOf_cons {source : Bytes} {cursor : Int} {e : Edit} {es : List Edit}
    (hfits : Fits cursor (e :: es)) (hrange : ∀ d ∈ e :: es, d.start ≤ d.stop) :
    keptOf (source.zipIdx.drop cursor.toNat) (e :: es) =
      source.slice cursor.toNat e.start.toNat ++ keptOf (source.zipIdx.drop e.stop.toNat) es := by
  have hsplit {a b : Nat} (hab : a ≤ b) : source.zipIdx.drop a =
      (source.zipIdx.drop a).take (b - a) ++ source.zipIdx.drop b := by
    conv_lhs => rw [← List.take_append_drop (b - a) (source.zipIdx.drop a)]
    rw [List.drop_drop, Nat.add_sub_cancel' hab]
  obtain ⟨hle, hbehind⟩ := hfits
  rw [List.forall_mem_cons] at hrange
  have hfront : ∀ d ∈ e :: es, e.start ≤ d.start :=
    List.forall_mem_cons.mpr ⟨le_refl _, fun d hd =>
      hrange.1.trans (Fits.le_start hbehind hrange.2 d hd)⟩
  rw [hsplit (Int.toNat_le_toNat hle), hsplit (Int.toNat_le_toNat hrange.1), keptOf_append, keptOf_append,
    keptOf_front hfront, keptOf_range, keptOf_behind, List.nil_append]

/-- One pass over the source keeps the bytes outside all ranges and adds the texts. -/
theorem interleaves_join {source : Bytes} {cursor : Int} {es : List Edit} {b : Bytes}
    (hfits : Fits cursor es) (hrange : ∀ e ∈ es, e.start ≤ e.stop)
    (h : join source cursor es = .ok b) :
    Interleaves (keptOf (source.zipIdx.drop cursor.toNat) es)
      (es.map fun e => Bytes.ofText e.text) b := by
  induction es generalizing cursor b with
  | nil =>
    cases h
    have hkept : keptOf (source.zipIdx.drop cursor.toNat) [] = source.drop cursor.toNat := by
      simp [keptOf, List.map_drop, List.zipIdx_map_fst]
    rw [hkept]
    simpa using Interleaves.nil.append (source.drop cursor.toNat)
  | cons e es ih =>
    obtain ⟨-, text, rest, htext, hrest, rfl⟩ := join_cons_eq_ok.mp h
    have htext : Bytes.ofText e.text = text :=
      Except.ok.inj ((Bytes.ofText?_eq_ok (Bytes.isPlain_of_ofText? htext)).symm.trans htext)
    rw [keptOf_cons hfits hrange, List.append_assoc, List.map_cons, htext]
    exact ((ih hfits.2 (List.forall_mem_cons.mp hrange).2 hrest).piece).append _

/-! ## What applying a plan means -/

/-- The text that a plan yields is the one that the joined bytes encode. -/
theorem apply_of_applyBytes {p : Plan} {source b : Bytes} (h : p.applyBytes source = .ok b)
    (text : String) : p.apply source = .ok text ↔ Bytes.ofText text = b := by
  rw [eq_comm (a := Bytes.ofText text), ← Bytes.text?_eq_some]
  unfold apply
  rw [h]
  cases htext : b.text? <;> simp [bind, Except.bind, htext]

/-- A plan is refused with the error of joining, unless the bytes that are joined are no text. -/
theorem apply_eq_error_iff {p : Plan} {source : Bytes} {error : Error} (hne : error ≠ .notText) :
    p.apply source = .error error ↔ join source 0 p.ordered = .error error := by
  unfold apply applyBytes
  cases hjoin : join source 0 p.ordered with
  | error cause => simp [bind, Except.bind]
  | ok b => cases htext : b.text? <;> simp [bind, Except.bind, htext, hne.symm]

/-- What applying a plan means. An overlap is reported if some edits at the beginning of the order
overlap and the texts in front of the last of them have a byte form; a text without a byte form is
reported if no edits up to it overlap. Otherwise the bytes that are joined are those that the edits
yield one at a time from the last to the first, made of the bytes outside all ranges and the texts. -/
theorem apply_ofCalls (calls : List Call) (source : Bytes) :
    ((∃ start stop, (ofCalls calls).apply source = .error (.overlap start stop)) ↔
      ∃ front, front <+: (ofCalls calls).ordered ∧ Overlap 0 front ∧
        ∀ d ∈ front.dropLast, Text.isPlain d.text = true) ∧
    ((∃ cause, (ofCalls calls).apply source = .error (.unencodable cause)) ↔
      ∃ front, front <+: (ofCalls calls).ordered ∧ ¬ Overlap 0 front ∧
        ∃ d ∈ front, Text.isPlain d.text = false) ∧
    (¬ Overlap 0 (ofCalls calls).ordered →
      (∀ e ∈ (ofCalls calls).ordered, Text.isPlain e.text = true) →
      (ofCalls calls).applyBytes source = .ok (oneByOne source (ofCalls calls).ordered) ∧
      Interleaves (kept source (ofCalls calls).ordered)
        ((ofCalls calls).ordered.map fun e => Bytes.ofText e.text)
        (oneByOne source (ofCalls calls).ordered) ∧
      ∀ text, (ofCalls calls).apply source = .ok text ↔
        Bytes.ofText text = oneByOne source (ofCalls calls).ordered) := by
  have hsorted := sorted_ordered (ofCalls calls)
  refine ⟨?_, ?_, fun hoverlap hplain => ?_⟩
  · refine (exists_congr fun start => exists_congr fun stop =>
      apply_eq_error_iff Error.noConfusion).trans ?_
    exact join_eq_overlap_iff hsorted
  · refine (exists_congr fun cause => apply_eq_error_iff Error.noConfusion).trans ?_
    exact join_eq_unencodable_iff hsorted
  · have hfits : Fits 0 (ofCalls calls).ordered := (fits_iff hsorted).mpr hoverlap
    have hrange : ∀ e ∈ (ofCalls calls).ordered, e.start ≤ e.stop :=
      fun e he => start_le_stop (mem_ordered.mp he)
    have hjoin : ∃ b, join source 0 (ofCalls calls).ordered = .ok b ∧
        oneByOne source (ofCalls calls).ordered = b := join_eq_oneByOne hfits hrange hplain
    obtain ⟨b, hb, heq⟩ := hjoin
    rw [heq]
    exact ⟨hb, interleaves_join hfits hrange hb, apply_of_applyBytes hb⟩

/-- Insertions around a replacement, and one behind the end of the source. -/
def helloCalls : List Call := [.insert 3 "x", .insert 1 "<", .replace 1 3 "EL", .insert 9 ">"]

theorem apply_ofCalls_hello :
    ¬ Overlap 0 (ofCalls helloCalls).ordered ∧
      (∀ e ∈ (ofCalls helloCalls).ordered, Text.isPlain e.text = true) ∧
      (ofCalls helloCalls).apply (Bytes.ofText "hello") = .ok "h<ELxlo>" := by
  have hsorted (a b c d : String) :
      (ofCalls [.insert 3 a, .insert 1 b, .replace 1 3 c, .insert 9 d]).ordered =
        [⟨1, 1, b, 1⟩, ⟨1, 3, c, 2⟩, ⟨3, 3, a, 0⟩, ⟨9, 9, d, 3⟩] := by cbv
  have hordered : (ofCalls helloCalls).ordered =
      [⟨1, 1, "<", 1⟩, ⟨1, 3, "EL", 2⟩, ⟨3, 3, "x", 0⟩, ⟨9, 9, ">", 3⟩] := hsorted ..
  have hoverlap : ¬ Overlap 0 (ofCalls helloCalls).ordered := by
    rw [← fits_iff (sorted_ordered _), hordered]
    simp [Fits]
  have hplain : ∀ e ∈ (ofCalls helloCalls).ordered, Text.isPlain e.text = true := by
    rw [hordered]
    decide
  refine ⟨hoverlap, hplain, ?_⟩
  rw [((apply_ofCalls _ (Bytes.ofText "hello")).2.2 hoverlap hplain).2.2, hordered]
  rfl

/-- An insertion of a text without a byte form, and behind it two edits that overlap. -/
def halfCalls : List Call :=
  [.insert 0 (String.singleton (Text.charOfCode 0xD800)), .replace 1 3 "x", .insert 2 "y"]

/-- The text without a byte form is reported, and the overlap is not. -/
theorem overlap_not_reported :
    Overlap 0 (ofCalls halfCalls).ordered ∧
      ¬ ∃ start stop,
        (ofCalls halfCalls).apply (Bytes.ofText "abc") = .error (.overlap start stop) := by
  have hsorted (a b c : String) : (ofCalls [.insert 0 a, .replace 1 3 b, .insert 2 c]).ordered =
      [⟨0, 0, a, 0⟩, ⟨1, 3, b, 1⟩, ⟨2, 2, c, 2⟩] := by cbv
  have hordered : (ofCalls halfCalls).ordered =
      [⟨0, 0, String.singleton (Text.charOfCode 0xD800), 0⟩, ⟨1, 3, "x", 1⟩, ⟨2, 2, "y", 2⟩] :=
    hsorted ..
  have happly : (ofCalls halfCalls).apply (Bytes.ofText "abc") =
      .error (.unencodable ⟨0, [0xD800]⟩) := by
    unfold apply applyBytes
    rw [hordered]
    rfl
  constructor
  · rw [hordered]
    exact Or.inr ⟨⟨1, 3, "x", 1⟩, ⟨2, 2, "y", 2⟩, List.sublist_cons_self _ _, by decide⟩
  · rintro ⟨start, stop, h⟩
    rw [happly] at h
    cases h

end Plan

end JsxTagger.Edit
