import JsxTagger.Proofs.Console.Lines
import JsxTagger.Console.Markup

/-!
# Tags

A text with tags in it is taken apart at the first of them (`pieces_cases`). Which tag is the first one does not depend
on what follows it (`FirstTag.append`), so texts can be put together and taken apart again.
-/

namespace JsxTagger.Console

/-! ## Tags in a text -/

/-- Characters can stand between the brackets of a tag. -/
def IsTag : List Char → Prop
  | [] => False
  | c :: inner => startsTag c = true ∧ ∀ d ∈ inner, d ≠ '[' ∧ d ≠ ']'

instance : DecidablePred IsTag
  | [] => .isFalse id
  | c :: inner => decidable_of_iff (startsTag c = true ∧ (inner.all fun d => d != '[' && d != ']') = true) (by simp [IsTag])

/-- Some part of a text is a tag. -/
def HasTag (cs : List Char) : Prop :=
  ∃ before contents after, IsTag contents ∧ cs = before ++ '[' :: (contents ++ ']' :: after)

theorem IsTag.no_bracket {contents : List Char} (h : IsTag contents) : ∀ d ∈ contents, d ≠ '[' ∧ d ≠ ']' := by
  cases contents with
  | nil => cases h
  | cons c inner =>
    refine List.forall_mem_cons.mpr ⟨?_, h.2⟩
    have hstart := h.1
    constructor <;> rintro rfl <;> revert hstart <;> decide

theorem tag?_eq_some {cs contents after : List Char} :
    tag? cs = some (contents, after) ↔ IsTag contents ∧ cs = '[' :: (contents ++ ']' :: after) := by
  let inside (c : Char) : Bool := c != '[' && c != ']'
  have hinner {cs inner after : List Char} :
      cs.takeWhile inside = inner ∧ cs.drop inner.length = ']' :: after ↔
        (∀ d ∈ inner, d ≠ '[' ∧ d ≠ ']') ∧ cs = inner ++ ']' :: after := by
    rw [takeWhile_drop_iff (by simp [inside])]
    simp [inside]
  constructor
  · intro h
    unfold tag? at h
    split at h
    · split at h
      · rename_i hstart
        dsimp only at h
        split at h
        · rename_i after hafter
          cases h
          obtain ⟨hall, heq⟩ := hinner.mp ⟨rfl, hafter⟩
          exact ⟨⟨hstart, hall⟩, congrArg ('[' :: _ :: ·) heq⟩
        · cases h
      · cases h
    · cases h
  · rintro ⟨htag, rfl⟩
    cases contents with
    | nil => cases htag
    | cons c inner =>
      obtain ⟨htake, hdrop⟩ := hinner.mpr ⟨htag.2, rfl⟩
      rw [List.cons_append, tag?, if_pos htag.1]
      dsimp only
      rw [htake, hdrop]
      rfl

theorem tag?_append {cs contents after : List Char} (h : tag? cs = some (contents, after)) (more : List Char) :
    tag? (cs ++ more) = some (contents, after ++ more) := by
  obtain ⟨htag, rfl⟩ := tag?_eq_some.mp h
  exact tag?_eq_some.mpr ⟨htag, by simp⟩

theorem not_hasTag_nil : ¬ HasTag [] := by
  rintro ⟨before, contents, after, -, heq⟩
  cases before <;> cases heq

theorem hasTag_cons_iff {c : Char} {cs : List Char} :
    HasTag (c :: cs) ↔ (∃ contents after, tag? (c :: cs) = some (contents, after)) ∨ HasTag cs := by
  constructor
  · rintro ⟨before, contents, after, htag, heq⟩
    cases before with
    | nil => exact .inl ⟨contents, after, tag?_eq_some.mpr ⟨htag, heq⟩⟩
    | cons d before => exact .inr ⟨before, contents, after, htag, (List.cons.inj heq).2⟩
  · rintro (⟨contents, after, h⟩ | ⟨before, contents, after, htag, heq⟩)
    · obtain ⟨htag, heq⟩ := tag?_eq_some.mp h
      exact ⟨[], contents, after, htag, heq⟩
    · exact ⟨c :: before, contents, after, htag, by rw [heq]; rfl⟩

theorem hasTag_cons_of_none {c : Char} {cs : List Char} (h : tag? (c :: cs) = none) : HasTag (c :: cs) ↔ HasTag cs := by
  rw [hasTag_cons_iff, or_iff_right]
  rintro ⟨contents, after, hsome⟩
  cases h.symm.trans hsome

theorem hasTag_slashes_iff (k : Nat) (cs : List Char) :
    HasTag (List.replicate k '\\' ++ cs) ↔ HasTag cs := by
  induction k with
  | zero => rfl
  | succ k ih =>
    rw [List.replicate_succ, List.cons_append, hasTag_cons_of_none rfl, ih]

/-- A text with a tag in it cannot be the beginning up to the first tag. -/
theorem hasTag_of_earlier {before contents after more contents' after' : List Char} (htag : IsTag contents)
    (heq : '[' :: (contents ++ ']' :: after) = more ++ '[' :: (contents' ++ ']' :: after')) (hmore : more ≠ []) :
    HasTag (before ++ more) := by
  obtain ⟨d, more, rfl⟩ := List.exists_cons_of_ne_nil hmore
  obtain ⟨rfl, htail⟩ := List.cons.inj heq
  rcases List.append_eq_append_iff.mp htail with ⟨extra, hextra, hrest⟩ | ⟨extra, hextra, hrest⟩
  · cases extra with
    | nil => cases hrest
    | cons e extra =>
      obtain ⟨rfl, -⟩ := List.cons.inj hrest
      exact ⟨before, contents, extra, htag, by rw [hextra]⟩
  · cases extra with
    | nil => cases hrest
    | cons e extra =>
      obtain ⟨rfl, -⟩ := List.cons.inj hrest
      exact absurd rfl (htag.no_bracket '[' (by simp [hextra])).1

/-- A text has only one first tag. -/
theorem first_tag_unique {before contents after before' contents' after' : List Char} (htag : IsTag contents)
    (htag' : IsTag contents') (hbefore : ¬ HasTag before) (hbefore' : ¬ HasTag before')
    (heq : before ++ '[' :: (contents ++ ']' :: after) = before' ++ '[' :: (contents' ++ ']' :: after')) :
    before = before' ∧ contents = contents' ∧ after = after' := by
  have hsame : before = before' := by
    rcases List.append_eq_append_iff.mp heq with ⟨more, hmore, hrest⟩ | ⟨more, hmore, hrest⟩
    · by_cases hnone : more = []
      · simp [hmore, hnone]
      · exact absurd (hmore ▸ hasTag_of_earlier htag hrest hnone) hbefore'
    · by_cases hnone : more = []
      · simp [hmore, hnone]
      · exact absurd (hmore ▸ hasTag_of_earlier htag' hrest hnone) hbefore
  subst hsame
  have hfirst := tag?_eq_some.mpr ⟨htag, List.append_cancel_left heq.symm⟩
  rw [tag?_eq_some.mpr ⟨htag', rfl⟩] at hfirst
  cases hfirst
  exact ⟨rfl, rfl, rfl⟩

/-! ## The first tag -/

/-- A text that is not empty starts with backslashes, if only with none, and something else follows. -/
theorem exists_slashes (cs : List Char) :
    ∃ k rest, cs = List.replicate k '\\' ++ rest ∧ rest.head? ≠ some '\\' := by
  induction cs with
  | nil => exact ⟨0, [], rfl, by simp⟩
  | cons c cs ih =>
    by_cases hc : c = '\\'
    · obtain ⟨k, rest, rfl, hrest⟩ := ih
      exact ⟨k + 1, rest, by rw [hc, List.replicate_succ, List.cons_append], hrest⟩
    · exact ⟨0, c :: cs, rfl, by simpa using hc⟩

theorem takeWhile_slashes {k : Nat} {rest : List Char} (hrest : rest.head? ≠ some '\\') :
    (List.replicate k '\\' ++ rest).takeWhile (· == '\\') = List.replicate k '\\' := by
  rw [List.takeWhile_append_of_pos fun c hc => by simp [List.eq_of_mem_replicate hc]]
  cases rest with
  | nil => simp
  | cons c rest => rw [List.takeWhile_cons_of_neg (by simpa using hrest), List.append_nil]

theorem append_slashes_inj {front front' : List Char} {k k' : Nat} (h : front.getLast? ≠ some '\\')
    (h' : front'.getLast? ≠ some '\\') (heq : front ++ List.replicate k '\\' = front' ++ List.replicate k' '\\') :
    front = front' ∧ k = k' := by
  induction k generalizing k' with
  | zero =>
    cases k' with
    | zero => simpa using heq
    | succ k' =>
      rw [List.replicate_zero, List.append_nil, List.replicate_succ', ← List.append_assoc] at heq
      rw [heq, List.getLast?_concat] at h
      exact absurd rfl h
  | succ k ih =>
    cases k' with
    | zero =>
      rw [List.replicate_zero, List.append_nil, List.replicate_succ', ← List.append_assoc] at heq
      rw [← heq, List.getLast?_concat] at h'
      exact absurd rfl h'
    | succ k' =>
      rw [List.replicate_succ', List.replicate_succ', ← List.append_assoc, ← List.append_assoc] at heq
      obtain ⟨rfl, rfl⟩ := ih (List.append_cancel_right heq)
      exact ⟨rfl, rfl⟩

/-- The first tag of a text: text that does not end in a backslash, then the backslashes before the tag, then the tag. -/
structure FirstTag (cs front : List Char) (k : Nat) (contents after : List Char) : Prop where
  text_eq : cs = front ++ List.replicate k '\\' ++ '[' :: (contents ++ ']' :: after)
  isTag : IsTag contents
  noEarlier : ¬ HasTag (front ++ List.replicate k '\\')
  noSlash : front.getLast? ≠ some '\\'

namespace FirstTag

variable {cs front contents after : List Char} {k : Nat}

theorem hasTag (h : FirstTag cs front k contents after) : HasTag cs :=
  ⟨_, contents, after, h.isTag, h.text_eq⟩

theorem here (k : Nat) (h : IsTag contents) (after : List Char) :
    FirstTag (List.replicate k '\\' ++ '[' :: (contents ++ ']' :: after)) [] k contents after where
  text_eq := rfl
  isTag := h
  noEarlier := by simpa using (hasTag_slashes_iff k []).not.mpr not_hasTag_nil
  noSlash := by simp

/-- A character at which no tag starts can be put in front. -/
theorem cons {c : Char} (h : FirstTag cs front k contents after) (hnone : tag? (c :: cs) = none) (hc : c ≠ '\\') :
    FirstTag (c :: cs) (c :: front) k contents after where
  text_eq := by simp [h.text_eq]
  isTag := h.isTag
  noEarlier := by
    have hstart : ¬ ∃ inner behind, tag? (c :: (front ++ List.replicate k '\\')) = some (inner, behind) := by
      rintro ⟨inner, behind, hstart⟩
      have hall := tag?_append hstart ('[' :: (contents ++ ']' :: after))
      rw [List.cons_append, ← h.text_eq, hnone] at hall
      cases hall
    exact fun hfront => (hasTag_cons_iff.mp hfront).elim hstart h.noEarlier
  noSlash := by
    rw [List.getLast?_cons]
    cases hlast : front.getLast? with
    | none => simpa using hc
    | some last => simpa [hlast] using h.noSlash

/-- So can backslashes, if something stands between them and the backslashes before the tag. -/
theorem slashes (h : FirstTag cs front k contents after) (hnone : tag? cs = none) (hcs : cs.head? ≠ some '\\')
    (j : Nat) : FirstTag (List.replicate j '\\' ++ cs) (List.replicate j '\\' ++ front) k contents after where
  text_eq := by simp [h.text_eq]
  isTag := h.isTag
  noEarlier := by
    rw [List.append_assoc]
    exact (hasTag_slashes_iff j _).not.mpr h.noEarlier
  noSlash := by
    have hfront : front ≠ [] := by
      rintro rfl
      have htext := h.text_eq
      cases k with
      | zero => exact nomatch hnone.symm.trans (tag?_eq_some.mpr ⟨h.isTag, htext⟩)
      | succ k => exact hcs (by rw [htext]; rfl)
    rw [List.getLast?_append_of_ne_nil _ hfront]
    exact h.noSlash

theorem append (h : FirstTag cs front k contents after) (more : List Char) :
    FirstTag (cs ++ more) front k contents (after ++ more) where
  text_eq := by simp [h.text_eq]
  isTag := h.isTag
  noEarlier := h.noEarlier
  noSlash := h.noSlash

theorem unique {front' contents' after' : List Char} {k' : Nat} (h : FirstTag cs front k contents after)
    (h' : FirstTag cs front' k' contents' after') : front = front' ∧ k = k' ∧ contents = contents' ∧ after = after' := by
  obtain ⟨hbefore, rfl, rfl⟩ := first_tag_unique h.isTag h'.isTag h.noEarlier h'.noEarlier (h.text_eq ▸ h'.text_eq)
  obtain ⟨rfl, rfl⟩ := append_slashes_inj h.noSlash h'.noSlash hbefore
  exact ⟨rfl, rfl, rfl, rfl⟩

end FirstTag

/-! ## Pieces -/

/-- What stands for a tag with backslashes before it: half of these, and the tag unless one is left over. -/
def tagPieces (k : Nat) (contents : List Char) : List Piece :=
  [.text (List.replicate (k / 2) '\\'), if k % 2 = 1 then .text ('[' :: contents ++ [']']) else .tag contents]

/-- One step: backslashes are skipped, or a character, or a tag is reached. -/
theorem pieces_succ (fuel : Nat) (run : List Char) {k : Nat} {rest : List Char} (hrest : rest.head? ≠ some '\\')
    (hsome : List.replicate k '\\' ++ rest ≠ []) :
    pieces (fuel + 1) run (List.replicate k '\\' ++ rest) =
      match tag? rest with
      | some (contents, after) => .text run.reverse :: tagPieces k contents ++ pieces fuel [] after
      | none =>
        if k = 0 then pieces fuel (rest.head?.toList ++ run) rest.tail
        else pieces fuel (List.replicate k '\\' ++ run) rest := by
  obtain ⟨c, cs, hcs⟩ := List.exists_cons_of_ne_nil hsome
  have htake := takeWhile_slashes (k := k) hrest
  rw [hcs, pieces]
  rw [hcs] at htake
  rw [htake, ← hcs, List.length_replicate, List.drop_left' (List.length_replicate ..)]
  cases htag : tag? rest with
  | some found => rfl
  | none =>
    cases k with
    | zero =>
      rw [List.replicate_zero, List.nil_append] at hcs
      rw [hcs]
      rfl
    | succ k => rfl

/-- The number of steps does not matter, as long as there are enough. -/
theorem pieces_fuel {fuel fuel' : Nat} (run : List Char) {cs : List Char} (h : cs.length < fuel)
    (h' : cs.length < fuel') : pieces fuel run cs = pieces fuel' run cs := by
  induction hn : cs.length using Nat.strongRecOn generalizing fuel fuel' run cs with
  | ind n ih =>
    subst hn
    obtain ⟨k, rest, rfl, hrest⟩ := exists_slashes cs
    obtain ⟨fuel, rfl⟩ := Nat.exists_eq_add_one_of_ne_zero (Nat.ne_zero_of_lt h)
    obtain ⟨fuel', rfl⟩ := Nat.exists_eq_add_one_of_ne_zero (Nat.ne_zero_of_lt h')
    by_cases hnone : List.replicate k '\\' ++ rest = []
    · rw [hnone, pieces, pieces]
      · exact fun h => nomatch h
      · exact fun h => nomatch h
    have hlen : (List.replicate k '\\' ++ rest).length = k + rest.length := by simp
    rw [pieces_succ fuel run hrest hnone, pieces_succ fuel' run hrest hnone]
    rw [hlen] at h h' ih
    cases htag : tag? rest with
    | some found =>
      obtain ⟨contents, after⟩ := found
      obtain ⟨-, rfl⟩ := tag?_eq_some.mp htag
      simp only [List.length_cons, List.length_append] at h h' ih
      have hafter : pieces fuel [] after = pieces fuel' [] after :=
        ih after.length (by omega) [] (by omega) (by omega) rfl
      dsimp only
      rw [hafter]
    | none =>
      dsimp only
      split
      · rename_i hk
        cases rest with
        | nil => exact absurd (by simp [hk]) hnone
        | cons c rest =>
          rw [List.length_cons] at h h' ih
          exact ih rest.length (by omega) _ (by rw [List.tail_cons]; omega) (by rw [List.tail_cons]; omega) rfl
      · exact ih rest.length (by omega) _ (by omega) (by omega) rfl

/-- The pieces of a text. -/
def split (cs : List Char) : List Piece := pieces (cs.length + 1) [] cs

/-- A text without tags is one piece. Another one is taken apart at the first tag and the backslashes before it. -/
theorem pieces_cases {fuel : Nat} (run : List Char) {cs : List Char} (h : cs.length < fuel) :
    (¬ HasTag cs ∧ pieces fuel run cs = [.text (run.reverse ++ cs)]) ∨
      ∃ front k contents after, FirstTag cs front k contents after ∧
        pieces fuel run cs = .text (run.reverse ++ front) :: tagPieces k contents ++ split after := by
  -- the backslashes in front are taken together, and then one character at a time
  induction hn : cs.length using Nat.strongRecOn generalizing fuel run cs with
  | ind n ih =>
    subst hn
    obtain ⟨k, rest, rfl, hrest⟩ := exists_slashes cs
    obtain ⟨fuel, rfl⟩ := Nat.exists_eq_add_one_of_ne_zero (Nat.ne_zero_of_lt h)
    by_cases hnone : List.replicate k '\\' ++ rest = []
    · rw [hnone, pieces]
      · exact .inl ⟨not_hasTag_nil, by simp⟩
      · exact fun h => nomatch h
    have hlen : (List.replicate k '\\' ++ rest).length = k + rest.length := by simp
    rw [pieces_succ fuel run hrest hnone]
    rw [hlen] at h ih
    cases htag : tag? rest with
    | some found =>
      obtain ⟨contents, after⟩ := found
      obtain ⟨hcontents, rfl⟩ := tag?_eq_some.mp htag
      simp only [List.length_cons, List.length_append] at h
      refine .inr ⟨[], k, contents, after, .here k hcontents after, ?_⟩
      dsimp only
      rw [split, pieces_fuel [] (show after.length < fuel by omega) (Nat.lt_succ_self _), List.append_nil]
    | none =>
      dsimp only
      split
      · rename_i hk
        subst hk
        cases rest with
        | nil => exact absurd rfl hnone
        | cons c rest =>
          rw [List.length_cons] at h ih
          rcases ih rest.length (by omega) (c :: run) (show rest.length < fuel by omega) rfl with
            ⟨hnotag, hpieces⟩ | ⟨front, k, contents, after, hfirst, hpieces⟩
          · exact .inl ⟨(hasTag_cons_of_none htag).not.mpr hnotag, by simpa using hpieces⟩
          · exact .inr ⟨c :: front, k, contents, after, hfirst.cons htag (by simpa using hrest), by simpa using hpieces⟩
      · rcases ih rest.length (by omega) (List.replicate k '\\' ++ run) (show rest.length < fuel by omega) rfl with
          ⟨hnotag, hpieces⟩ | ⟨front, j, contents, after, hfirst, hpieces⟩
        · exact .inl ⟨(hasTag_slashes_iff k rest).not.mpr hnotag, by simpa using hpieces⟩
        · exact .inr ⟨_, j, contents, after, hfirst.slashes htag hrest k, by simpa using hpieces⟩

/-- A text without tags is one piece. -/
theorem split_of_not_hasTag {cs : List Char} (h : ¬ HasTag cs) : split cs = [.text cs] := by
  rcases pieces_cases [] (Nat.lt_succ_self cs.length) with ⟨-, hpieces⟩ | ⟨front, k, contents, after, hfirst, -⟩
  · exact hpieces
  · exact absurd hfirst.hasTag h

theorem HasTag.exists_first {cs : List Char} (h : HasTag cs) :
    ∃ front k contents after, FirstTag cs front k contents after := by
  rcases pieces_cases [] (Nat.lt_succ_self cs.length) with ⟨hnotag, -⟩ | ⟨front, k, contents, after, hfirst, -⟩
  · exact absurd h hnotag
  · exact ⟨front, k, contents, after, hfirst⟩

/-- A text with tags is taken apart at the first tag and the backslashes before it. -/
theorem FirstTag.split_eq {cs front contents after : List Char} {k : Nat} (h : FirstTag cs front k contents after) :
    split cs = .text front :: tagPieces k contents ++ split after := by
  rcases pieces_cases [] (Nat.lt_succ_self cs.length) with ⟨hnotag, -⟩ | ⟨front', k', contents', after', h', hpieces⟩
  · exact absurd h.hasTag hnotag
  · obtain ⟨rfl, rfl, rfl, rfl⟩ := h.unique h'
    exact hpieces

end JsxTagger.Console
