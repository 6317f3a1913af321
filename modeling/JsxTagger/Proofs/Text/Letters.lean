import JsxTagger.Text.LowerCase

/-!
# Small letters

Lower case has no capital letters of ASCII: none of its runs leads there.
-/

namespace JsxTagger

namespace Text

theorem isUpper_iff {c : Char} : c.isUpper = true ↔ 65 ≤ c.toNat ∧ c.toNat ≤ 90 := by
  have hdef : c.isUpper = decide (c.val ≥ 'A'.val ∧ c.val ≤ 'Z'.val) := rfl
  rw [hdef, decide_eq_true_eq]
  exact and_congr UInt32.le_iff_toNat_le UInt32.le_iff_toNat_le

theorem isUpper_toLower (c : Char) : c.toLower.isUpper = false := by
  by_cases h : c.isUpper = true
  · have hall : ∀ n < 91, 65 ≤ n → (Char.ofNat n).toLower.isUpper = false := by decide
    obtain ⟨hlow, hhigh⟩ := isUpper_iff.mp h
    have := hall c.toNat (by omega) hlow
    rwa [Char.ofNat_toNat] at this
  · have hsame : c.toLower = c := dif_neg fun hcapital => h (by
      simpa [isUpper_iff, UInt32.le_iff_toNat_le] using hcapital)
    rw [hsame]
    exact Bool.eq_false_iff.mpr h

/-- No run leads to the capital letters of ASCII. -/
theorem lowerRuns_clear : ∀ r ∈ lowerRuns, (90 : Int) < r.1 + r.2.2.2 ∨ (r.2.1 + r.2.2.2 : Int) < 65 := by
  decide +kernel

theorem toNat_ofNat_le (n : Nat) : (Char.ofNat n).toNat = n ∨ (Char.ofNat n).toNat = 0 := by
  by_cases h : n.isValidChar
  · rw [Char.ofNat, dif_pos h]
    exact .inl rfl
  · rw [Char.ofNat, dif_neg h]
    exact .inr rfl

theorem isUpper_lowerChar (c : Char) : (lowerChar c).isUpper = false := by
  rw [lowerChar]
  split
  · exact isUpper_toLower c
  · rename_i hascii
    split
    · rename_i a b step delta hfind
      have hmem := List.mem_of_find?_eq_some hfind
      have hclear := lowerRuns_clear _ hmem
      have hwithin := List.find?_some hfind
      dsimp only at hclear
      simp only [Bool.and_eq_true, decide_eq_true_eq] at hwithin
      rw [Bool.eq_false_iff]
      intro hupper
      obtain ⟨hlow, hhigh⟩ := isUpper_iff.mp hupper
      rcases toNat_ofNat_le ((c.toNat : Int) + delta).toNat with heq | heq
      · rw [heq] at hlow hhigh
        omega
      · omega
    · rw [Bool.eq_false_iff]
      intro hupper
      have := (isUpper_iff.mp hupper).2
      omega

theorem isUpper_of_mem_lowerChars {before cs : List Char} {c : Char} (h : c ∈ lowerChars before cs) :
    c.isUpper = false := by
  induction cs generalizing before with
  | nil => cases h
  | cons first cs ih =>
    rw [lowerChars] at h
    rcases List.mem_append.mp h with h | h
    · split at h
      · have hall : ['i', Char.ofNat 0x307].all (!·.isUpper) = true := by decide
        simpa using List.all_eq_true.mp hall c h
      · split at h
        · rw [List.mem_singleton.mp h]
          split <;> decide
        · rw [List.mem_singleton.mp h]
          exact isUpper_lowerChar first
    · exact ih h

end Text

end JsxTagger
