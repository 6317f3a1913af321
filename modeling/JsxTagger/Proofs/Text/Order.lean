import Mathlib.Data.List.Lex
import Mathlib.Data.List.Nodup
import JsxTagger.Text.Half

/-!
# The order of texts

Texts are ordered by the codes of their characters. The order is linear, so a list of things with different
names is sorted by name in one way only (`mergeSort_eq_of_perm`).
-/

namespace JsxTagger.Text

theorem code_cases (c : Char) :
    (0xF9A00 ≤ c.toNat ∧ c.toNat < 0xFA200 ∧ code c = 0xD800 + (c.toNat - 0xF9A00)) ∨
      ((c.toNat < 0xF9A00 ∨ 0xFA200 ≤ c.toNat) ∧ code c = c.toNat) := by
  rw [code]
  split
  · rename_i hstands
    rw [Bool.and_eq_true, decide_eq_true_eq, decide_eq_true_eq] at hstands
    exact .inl ⟨hstands.1, hstands.2, rfl⟩
  · rename_i hplain
    rw [Bool.and_eq_true, decide_eq_true_eq, decide_eq_true_eq, not_and_or, Nat.not_le, Nat.not_lt]
      at hplain
    exact .inr ⟨hplain, rfl⟩

/-- Different characters stand for different codes. -/
theorem code_injective : Function.Injective code := by
  intro c d h
  -- no character has the code of a half
  have hvalid (c : Char) : c.toNat < 0xD800 ∨ 0xDFFF < c.toNat := by
    rcases c.valid with hlow | ⟨hhigh, -⟩
    · exact .inl hlow
    · exact .inr hhigh
  refine Char.toNat_inj.mp ?_
  have hc := hvalid c
  have hd := hvalid d
  rcases code_cases c with ⟨_, _, hcode⟩ | ⟨_, hcode⟩ <;>
    rcases code_cases d with ⟨_, _, hcode'⟩ | ⟨_, hcode'⟩ <;> omega

theorem codes_injective : Function.Injective codes := fun _ _ h =>
  String.toList_injective (code_injective.list_map h)

theorem ordered_iff {a b : String} : ordered a b = true ↔ codes a ≤ codes b := by
  have hlt : (codes b).lex (codes a) Nat.blt = true ↔ codes b < codes a := by
    rw [List.lex_eq_true_iff_lex]
    simp only [Nat.blt_eq]
    rfl
  rw [ordered, Bool.not_eq_true', ← Bool.not_eq_true, hlt, not_lt]

theorem ordered_trans {a b c : String} (h : ordered a b = true) (h' : ordered b c = true) :
    ordered a c = true :=
  ordered_iff.mpr ((ordered_iff.mp h).trans (ordered_iff.mp h'))

theorem ordered_total (a b : String) : (ordered a b || ordered b a) = true := by
  rw [Bool.or_eq_true, ordered_iff, ordered_iff]
  exact le_total _ _

theorem ordered_antisymm {a b : String} (h : ordered a b = true) (h' : ordered b a = true) : a = b :=
  codes_injective (le_antisymm (ordered_iff.mp h) (ordered_iff.mp h'))

theorem mem_insertSorted {a b : String} {bs : List String} : b ∈ insertSorted a bs ↔ b = a ∨ b ∈ bs := by
  induction bs with
  | nil => simp [insertSorted]
  | cons c bs ih =>
    rw [insertSorted]
    split
    · exact List.mem_cons
    · rw [List.mem_cons, ih, List.mem_cons]
      exact or_left_comm

theorem pairwise_insertSorted (a : String) {bs : List String}
    (h : bs.Pairwise fun a b => ordered a b = true) :
    (insertSorted a bs).Pairwise fun a b => ordered a b = true := by
  induction bs with
  | nil => exact List.pairwise_singleton _ a
  | cons b bs ih =>
    obtain ⟨hb, hbs⟩ := List.pairwise_cons.mp h
    rw [insertSorted]
    split
    · rename_i hab
      refine List.pairwise_cons.mpr ⟨fun c hc => ?_, h⟩
      rcases List.mem_cons.mp hc with rfl | hc
      · exact hab
      · exact ordered_trans hab (hb c hc)
    · rename_i hab
      have hba : ordered b a = true := by
        have htotal := ordered_total a b
        rwa [Bool.eq_false_iff.mpr hab, Bool.false_or] at htotal
      refine List.pairwise_cons.mpr ⟨fun c hc => ?_, ih hbs⟩
      rcases mem_insertSorted.mp hc with rfl | hc
      · exact hba
      · exact hb c hc

/-- Sorted texts are in order. -/
theorem pairwise_sorted (as : List String) : (sorted as).Pairwise fun a b => ordered a b = true := by
  induction as with
  | nil => exact List.Pairwise.nil
  | cons a as ih => exact pairwise_insertSorted a ih

/-- Things with different names are sorted by name in one way. -/
theorem mergeSort_eq_of_perm {α : Type} {name : α → String} {as bs : List α} (h : as.Perm bs)
    (hnames : (as.map name).Nodup) :
    (as.mergeSort fun a b => ordered (name a) (name b)) =
      bs.mergeSort fun a b => ordered (name a) (name b) := by
  have hperm := List.mergeSort_perm as fun a b => ordered (name a) (name b)
  have hperm' := List.mergeSort_perm bs fun a b => ordered (name a) (name b)
  have htrans (a b c : α) : ordered (name a) (name b) = true → ordered (name b) (name c) = true →
      ordered (name a) (name c) = true := ordered_trans
  have htotal (a b : α) : (ordered (name a) (name b) || ordered (name b) (name a)) = true :=
    ordered_total _ _
  have hsorted := List.pairwise_mergeSort htrans htotal
  refine List.Perm.eq_of_pairwise (fun a b ha hb hab hba => ?_) (hsorted as) (hsorted bs)
    (hperm.trans (h.trans hperm'.symm))
  exact List.inj_on_of_nodup_map hnames (hperm.mem_iff.mp ha) (h.mem_iff.mpr (hperm'.mem_iff.mp hb))
    (ordered_antisymm hab hba)

end JsxTagger.Text
