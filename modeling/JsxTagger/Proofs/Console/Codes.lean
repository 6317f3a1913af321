import JsxTagger.Console.Markup
import JsxTagger.Proofs.Console.Lines
import JsxTagger.Proofs.Files.System
import JsxTagger.Proofs.Text.Letters

/-!
# What printing takes away

Some characters have a meaning in marked-up text. They are weighed (`load`), so that every step of printing either
leaves a text as it is or makes it lighter: what is as heavy as it was is what it was. No emoji weighs anything, so
this holds of emoji codes (`replace_cases`); no knowledge about the emoji is needed besides.
-/

namespace JsxTagger.Console

/-! ## Weights -/

/-- The weight of a character. The backslash is the heaviest: it must not be made up for by a bracket. -/
def weight (c : Char) : Nat := if c = '\\' then 2 else if c = '[' ∨ c = ':' ∨ isControl c = true then 1 else 0

/-- The weight of characters. -/
def load (cs : List Char) : Nat := (cs.map weight).sum

@[simp]
theorem load_nil : load [] = 0 := rfl

@[simp]
theorem load_cons (c : Char) (cs : List Char) : load (c :: cs) = weight c + load cs := by
  rw [load, List.map_cons, List.sum_cons, load]

@[simp]
theorem load_append (cs ds : List Char) : load (cs ++ ds) = load cs + load ds := by
  simp only [load, List.map_append, List.sum_append]

theorem load_eq_zero {cs : List Char} (h : ∀ c ∈ cs, weight c = 0) : load cs = 0 := by
  induction cs with
  | nil => rfl
  | cons c cs ih =>
    rw [List.forall_mem_cons] at h
    rw [load_cons, h.1, ih h.2]

/-- Only characters of ASCII weigh anything, and the first of them does not. -/
theorem weight_eq_zero {c : Char} (h : 128 ≤ c.toNat ∨ c.toNat = 0) : weight c = 0 := by
  have hne {d : Char} (hd : 0 < d.toNat ∧ d.toNat < 128) : c ≠ d := by
    rintro rfl
    omega
  have hcontrol : isControl c = false := by
    rw [isControl, List.contains_eq_mem, decide_eq_false_iff_not]
    simp only [List.mem_cons, List.not_mem_nil, or_false]
    omega
  rw [weight, if_neg (hne (by decide)), if_neg]
  simp [hne (show 0 < '['.toNat ∧ '['.toNat < 128 by decide), hne (show 0 < ':'.toNat ∧ ':'.toNat < 128 by decide),
    hcontrol]

theorem weight_ofNat {n : Nat} (h : 128 ≤ n) : weight (Char.ofNat n) = 0 := by
  apply weight_eq_zero
  rcases Text.toNat_ofNat_le n with heq | heq
  · exact .inl (by omega)
  · exact .inr heq

/-! ## Backslashes before brackets -/

/-- A text without a backslash before a bracket stays, and one that has such a place gets lighter. -/
theorem unescape_cases (cs : List Char) :
    (¬ ['\\', '['] <:+: cs ∧ unescape cs = cs) ∨ ['\\', '['] <:+: cs ∧ load (unescape cs) < load cs := by
  fun_induction unescape cs with
  | case1 cs ih =>
    refine .inr ⟨⟨[], cs, rfl⟩, ?_⟩
    have hslash : weight '\\' = 2 := by decide
    have hle : load (unescape cs) ≤ load cs := by
      rcases ih with ⟨-, hsame⟩ | ⟨-, hlighter⟩
      · rw [hsame]
      · omega
    simp only [load_cons]
    omega
  | case2 c cs hc ih =>
    have hescape : ['\\', '['] <:+: c :: cs ↔ ['\\', '['] <:+: cs := by
      rw [List.infix_cons_iff, or_iff_right]
      rintro ⟨rest, hrest⟩
      obtain ⟨rfl, rfl⟩ := List.cons.inj hrest
      exact hc rest rfl rfl
    rw [hescape]
    rcases ih with ⟨hnone, hsame⟩ | ⟨hsome, hlighter⟩
    · exact .inl ⟨hnone, by rw [hsame]⟩
    · refine .inr ⟨hsome, ?_⟩
      rw [load_cons, load_cons]
      omega
  | case3 => exact .inl ⟨by decide, rfl⟩

/-! ## Emoji -/

namespace Emoji

theorem weight_of_mem_namedCodes :
    ∀ entry ∈ namedCodes, ∀ n ∈ entry.2, weight (Char.ofNat n) = 0 := by
  -- Hardly any code point is one of ASCII, so only few weights are looked up.
  have hall : (namedCodes.all fun entry => entry.2.all fun n => Nat.ble 128 n || weight (Char.ofNat n) == 0) = true := by
    decide +kernel
  intro entry hentry n hn
  have hcode := List.all_eq_true.mp (List.all_eq_true.mp hall entry hentry) n hn
  rcases Bool.or_eq_true_iff.mp hcode with hhigh | hlow
  · exact weight_ofNat (Nat.le_of_ble_eq_true hhigh)
  · exact eq_of_beq hlow

theorem load_flag (code : String) : load (flag code).toList = 0 := by
  rw [flag, String.toList_ofList]
  refine load_eq_zero fun c hc => ?_
  obtain ⟨d, -, rfl⟩ := List.mem_map.mp hc
  exact weight_ofNat (by omega)

theorem load_plain {name emoji : String} (h : plain? name = some emoji) : load emoji.toList = 0 := by
  rw [plain?, Option.or_eq_some_iff] at h
  rcases h with h | ⟨-, h⟩
  · obtain ⟨entry, hentry, heq⟩ := List.mem_map.mp (Files.FileSystem.mem_of_lookup_eq_some h)
    cases heq
    rw [ofCodes, String.toList_ofList]
    refine load_eq_zero fun c hc => ?_
    obtain ⟨n, hn, rfl⟩ := List.mem_map.mp hc
    exact weight_of_mem_namedCodes entry hentry n hn
  · rcases List.mem_append.mp (Files.FileSystem.mem_of_lookup_eq_some h) with h | h
    · obtain ⟨entry, -, heq⟩ := List.mem_map.mp h
      cases heq
      exact load_flag _
    · obtain ⟨entry, -, heq⟩ := List.mem_map.mp h
      cases heq
      exact load_flag _

theorem load_inTone {tone : Nat} (htone : weight (Char.ofNat tone) = 0) {emoji : String}
    (h : load emoji.toList = 0) : load (inTone tone emoji).toList = 0 := by
  rw [inTone]
  split
  · rename_i c d rest hchars
    rw [hchars] at h
    simp only [load_cons, Nat.add_eq_zero_iff] at h
    rw [String.toList_ofList, load_cons, load_cons, htone]
    split
    · omega
    · rw [load_cons]
      omega
  · rw [String.toList_ofList, load_append, h, load_cons, htone, load_nil]

theorem load_ofName {name emoji : String} (h : ofName? name = some emoji) : load emoji.toList = 0 := by
  rw [ofName?, Option.or_eq_some_iff] at h
  rcases h with h | ⟨-, h⟩
  · exact load_plain h
  · obtain ⟨⟨ending, tone⟩, hmem, h⟩ := List.exists_of_findSome?_eq_some h
    have htone : ∀ t ∈ tones, weight (Char.ofNat t.2) = 0 := by
      intro t ht
      simp only [tones, List.mem_cons, List.not_mem_nil, or_false] at ht
      rcases ht with rfl | rfl | rfl | rfl | rfl <;> exact weight_ofNat (by decide)
    dsimp only at h
    split at h
    · split at h
      · obtain ⟨base, hbase, rfl⟩ := Option.map_eq_some_iff.mp h
        exact load_inTone (htone _ hmem) (load_plain hbase)
      · cases h
    · cases h

/-- No emoji weighs anything. -/
theorem load_ofCode {code emoji : String} (h : ofCode? code = some emoji) : load emoji.toList = 0 := by
  have hforms : ∀ f ∈ forms, weight f.2 = 0 := by
    intro f hf
    simp only [forms, List.mem_cons, List.not_mem_nil, or_false] at hf
    rcases hf with rfl | rfl
    · exact weight_ofNat (show 128 ≤ 0xFE0F by decide)
    · exact weight_ofNat (show 128 ≤ 0xFE0E by decide)
  rw [ofCode?] at h
  obtain ⟨base, hbase, rfl⟩ := Option.map_eq_some_iff.mp h
  rw [String.toList_append, String.toList_ofList, load_append, load_ofName hbase, Nat.zero_add]
  have hasked (asked : Option (String × List Char)) (h : ∀ a ∈ asked, load a.2 = 0) :
      load (asked.getD (code, [])).2 = 0 := by
    cases asked with
    | none => rfl
    | some a => exact h a rfl
  refine hasked _ fun a ha => ?_
  obtain ⟨f, hf, hname⟩ := List.exists_of_findSome?_eq_some ha
  obtain ⟨name, -, rfl⟩ := Option.map_eq_some_iff.mp hname
  show load [f.2] = 0
  rw [load_cons, hforms f hf, load_nil]

/-- Characters can stand between the colons of a code. -/
def IsCode (code : List Char) : Prop := ∀ c ∈ code, c ≠ ':' ∧ Text.isSpace c = false

theorem untilColon?_eq_some {cs code rest : List Char} :
    untilColon? cs = some (code, rest) ↔ IsCode code ∧ cs = code ++ ':' :: rest := by
  let inside (c : Char) : Bool := c != ':' && !Text.isSpace c
  have huntil : untilColon? cs = some (code, rest) ↔ cs.takeWhile inside = code ∧ cs.drop code.length = ':' :: rest := by
    rw [untilColon?]
    constructor
    · intro h
      split at h
      · rename_i after hafter
        cases h
        exact ⟨rfl, hafter⟩
      · cases h
    · rintro ⟨rfl, hrest⟩
      rw [hrest]
      rfl
  rw [huntil, takeWhile_drop_iff (by simp [inside])]
  simp [inside, IsCode]

/-- Read from the left, some text between two colons is the code of an emoji. Colons that enclose a text go together,
whether it is a code or not. -/
inductive HasEmoji : List Char → Prop where
  | here {code rest : List Char} {emoji : String} (hcode : IsCode code)
      (hemoji : ofCode? (String.ofList code) = some emoji) : HasEmoji (':' :: (code ++ ':' :: rest))
  | behind {code rest : List Char} (hcode : IsCode code) (hnone : ofCode? (String.ofList code) = none)
      (h : HasEmoji rest) : HasEmoji (':' :: (code ++ ':' :: rest))
  | later {c : Char} {cs : List Char}
      (hc : c = ':' → ∀ code rest, IsCode code → cs ≠ code ++ ':' :: rest) (h : HasEmoji cs) : HasEmoji (c :: cs)

theorem HasEmoji.not_nil : ¬ HasEmoji [] := nofun

/-- What is enclosed by two colons is a code, or what follows has one. -/
theorem hasEmoji_enclosed_iff {code rest : List Char} (hcode : IsCode code) :
    HasEmoji (':' :: (code ++ ':' :: rest)) ↔
      (∃ emoji, ofCode? (String.ofList code) = some emoji) ∨
        ofCode? (String.ofList code) = none ∧ HasEmoji rest := by
  constructor
  · intro h
    generalize hcs : ':' :: (code ++ ':' :: rest) = cs at h
    have hsame {code' rest' : List Char} (hcode' : IsCode code') (heq : code ++ ':' :: rest = code' ++ ':' :: rest') :
        code = code' ∧ rest = rest' := by
      have huntil : untilColon? (code ++ ':' :: rest) = some (code, rest) := untilColon?_eq_some.mpr ⟨hcode, rfl⟩
      rw [untilColon?_eq_some.mpr ⟨hcode', heq⟩] at huntil
      cases huntil
      exact ⟨rfl, rfl⟩
    cases h with
    | here hcode' hemoji =>
      obtain ⟨rfl, rfl⟩ := hsame hcode' (List.cons.inj hcs).2
      exact .inl ⟨_, hemoji⟩
    | behind hcode' hnone h =>
      obtain ⟨rfl, rfl⟩ := hsame hcode' (List.cons.inj hcs).2
      exact .inr ⟨hnone, h⟩
    | later hc h =>
      obtain ⟨rfl, rfl⟩ := List.cons.inj hcs
      exact absurd rfl (hc rfl code rest hcode)
  · rintro (⟨emoji, hemoji⟩ | ⟨hnone, h⟩)
    · exact .here hcode hemoji
    · exact .behind hcode hnone h

theorem hasEmoji_cons_iff {c : Char} {cs : List Char} (hc : c = ':' → untilColon? cs = none) :
    HasEmoji (c :: cs) ↔ HasEmoji cs := by
  have hopen : c = ':' → ∀ code rest, IsCode code → cs ≠ code ++ ':' :: rest := by
    intro hcolon code rest hcode hcs
    have huntil := hc hcolon
    rw [untilColon?_eq_some.mpr ⟨hcode, hcs⟩] at huntil
    cases huntil
  constructor
  · intro h
    generalize hall : c :: cs = all at h
    cases h with
    | here hcode hemoji =>
      obtain ⟨rfl, rfl⟩ := List.cons.inj hall
      exact absurd rfl (hopen rfl _ _ hcode)
    | behind hcode hnone h =>
      obtain ⟨rfl, rfl⟩ := List.cons.inj hall
      exact absurd rfl (hopen rfl _ _ hcode)
    | later hc h =>
      obtain ⟨rfl, rfl⟩ := List.cons.inj hall
      exact h
  · exact .later hopen

-- The equations of `replaceWithin` are not used: deriving them opens the table of the emoji.
theorem replaceWithin_cons {fuel : Nat} {c : Char} {cs : List Char} (hc : c = ':' → untilColon? cs = none) :
    replaceWithin (fuel + 1) (c :: cs) = c :: replaceWithin fuel cs := by
  change (if c = ':' then _ else _) = _
  split
  · rename_i hcolon
    rw [hc hcolon]
  · rfl

theorem replaceWithin_enclosed {fuel : Nat} {cs code rest : List Char} (h : untilColon? cs = some (code, rest)) :
    replaceWithin (fuel + 1) (':' :: cs) =
      ((ofCode? (String.ofList code)).map String.toList).getD (':' :: code ++ [':']) ++ replaceWithin fuel rest := by
  change (if ':' = ':' then _ else _) = _
  rw [if_pos rfl, h]
  cases hemoji : ofCode? (String.ofList code) <;> simp [hemoji]

/-- A text that has no emoji code stays, and one that has a code gets lighter. -/
theorem replaceWithin_cases {fuel : Nat} {cs : List Char} (hfuel : cs.length ≤ fuel) :
    (¬ HasEmoji cs ∧ replaceWithin fuel cs = cs) ∨ HasEmoji cs ∧ load (replaceWithin fuel cs) < load cs := by
  induction fuel generalizing cs with
  | zero =>
    rw [List.length_eq_zero_iff.mp (Nat.le_zero.mp hfuel)]
    exact .inl ⟨HasEmoji.not_nil, rfl⟩
  | succ fuel ih =>
    cases cs with
    | nil => exact .inl ⟨HasEmoji.not_nil, rfl⟩
    | cons c cs =>
      rw [List.length_cons] at hfuel
      -- What does not start a code stays, whether the rest does or not.
      have hstays (hc : c = ':' → untilColon? cs = none) :
          (¬ HasEmoji (c :: cs) ∧ replaceWithin (fuel + 1) (c :: cs) = c :: cs) ∨
            HasEmoji (c :: cs) ∧ load (replaceWithin (fuel + 1) (c :: cs)) < load (c :: cs) := by
        rw [hasEmoji_cons_iff hc, replaceWithin_cons hc]
        have hlength : cs.length ≤ fuel := by omega
        rcases ih hlength with ⟨hnone, hsame⟩ | ⟨hsome, hlighter⟩
        · exact .inl ⟨hnone, by rw [hsame]⟩
        · refine .inr ⟨hsome, ?_⟩
          rw [load_cons, load_cons]
          omega
      by_cases hc : c = ':'
      · subst hc
        cases huntil : untilColon? cs with
        | none => exact hstays fun _ => huntil
        | some found =>
          obtain ⟨code, rest⟩ := found
          obtain ⟨hcode, rfl⟩ := untilColon?_eq_some.mp huntil
          have hrest : rest.length ≤ fuel := by
            rw [List.length_append, List.length_cons] at hfuel
            omega
          rw [hasEmoji_enclosed_iff hcode, replaceWithin_enclosed huntil]
          cases hemoji : ofCode? (String.ofList code) with
          | some emoji =>
            have hweight : weight ':' = 1 := by decide
            have hle : load (replaceWithin fuel rest) ≤ load rest := by
              rcases ih hrest with ⟨-, hsame⟩ | ⟨-, hlighter⟩
              · rw [hsame]
              · omega
            refine .inr ⟨.inl ⟨emoji, rfl⟩, ?_⟩
            simp only [Option.map_some, Option.getD_some, load_append, load_cons, load_ofCode hemoji, hweight]
            omega
          | none =>
            rcases ih hrest with ⟨hnone, hsame⟩ | ⟨hsome, hlighter⟩
            · refine .inl ⟨?_, by simp [hsame]⟩
              rintro (⟨_, hsome⟩ | ⟨-, hsome⟩)
              · cases hsome
              · exact hnone hsome
            · refine .inr ⟨.inr ⟨rfl, hsome⟩, ?_⟩
              simp only [Option.map_none, Option.getD_none, List.cons_append, load_append, load_cons, load_nil]
              omega
      · exact hstays fun hcolon => absurd hcolon hc

theorem replace_cases (cs : List Char) :
    (¬ HasEmoji cs ∧ replace cs = cs) ∨ HasEmoji cs ∧ load (replace cs) < load cs :=
  replaceWithin_cases (Nat.le_refl cs.length)

end Emoji

end JsxTagger.Console
