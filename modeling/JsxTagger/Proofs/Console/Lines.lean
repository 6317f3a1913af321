import Mathlib.Algebra.BigOperators.Group.List.Basic
import Mathlib.Algebra.GroupWithZero.Nat
import Mathlib.Data.List.TakeWhile
import JsxTagger.Console.Wrap

/-!
# What is left of lines

Breaking a line takes nothing away: it only adds line breaks, and it adds none exactly if the line fits, blanks at
its end aside (`breakLine_eq_singleton_iff`). Only tabs do not stay what they are. So characters are shown as they are
exactly if there is no tab among them and every line fits (`layOut_eq_self_iff`).
-/

namespace JsxTagger.Console

theorem blank_or_text (cs : List Char) :
    (∀ c ∈ cs, Text.isSpace c = true) ∨ ∃ c ∈ cs, Text.isSpace c = false := by
  by_cases h : ∃ c ∈ cs, Text.isSpace c = false
  · exact .inr h
  · exact .inl fun c hc => by_contra fun hne => h ⟨c, hc, by simpa using hne⟩

/-! ## Cells -/

theorem width_eq_sum (cs : List Char) : width cs = (cs.map charWidth).sum := by
  have hfold (n : Nat) : cs.foldl (fun n c => n + charWidth c) n = n + (cs.map charWidth).sum := by
    induction cs generalizing n with
    | nil => rfl
    | cons c cs ih => rw [List.foldl_cons, ih, List.map_cons, List.sum_cons, Nat.add_assoc]
  rw [width, hfold, Nat.zero_add]

@[simp]
theorem width_nil : width [] = 0 := rfl

@[simp]
theorem width_cons (c : Char) (cs : List Char) : width (c :: cs) = charWidth c + width cs := by
  simp only [width_eq_sum, List.map_cons, List.sum_cons]

@[simp]
theorem width_append (cs ds : List Char) : width (cs ++ ds) = width cs + width ds := by
  simp only [width_eq_sum, List.map_append, List.sum_append]

@[simp]
theorem width_reverse (cs : List Char) : width cs.reverse = width cs := by
  rw [width_eq_sum, width_eq_sum, List.map_reverse, List.sum_reverse]

theorem charWidth_le_two (c : Char) : charWidth c ≤ 2 := by
  simp only [charWidth]
  split
  · omega
  · split
    · omega
    · split <;> omega

theorem width_le_length (cs : List Char) : width cs ≤ 2 * cs.length := by
  induction cs with
  | nil => rfl
  | cons c cs ih =>
    have := charWidth_le_two c
    rw [width_cons, List.length_cons]
    omega

theorem width_le_of_sublist {cs ds : List Char} (h : cs.Sublist ds) : width cs ≤ width ds := by
  induction h with
  | slnil => rfl
  | cons c _ ih =>
    rw [width_cons]
    omega
  | cons_cons c _ ih =>
    rw [width_cons, width_cons]
    omega

/-- The cells up to the last character that is no blank. -/
def textWidth (cs : List Char) : Nat := width (cs.reverse.dropWhile Text.isSpace)

theorem textWidth_le_width (cs : List Char) : textWidth cs ≤ width cs := by
  rw [textWidth, ← width_reverse cs]
  exact width_le_of_sublist (List.dropWhile_sublist _)

theorem textWidth_append_of_blank {cs ds : List Char} (h : ∀ c ∈ ds, Text.isSpace c = true) :
    textWidth (cs ++ ds) = textWidth cs := by
  have hgone : ds.reverse.dropWhile Text.isSpace = [] :=
    List.dropWhile_eq_nil_iff.mpr fun c hc => h c (List.mem_reverse.mp hc)
  rw [textWidth, List.reverse_append, List.dropWhile_append, hgone, List.isEmpty_nil, if_pos rfl, textWidth]

theorem textWidth_append_of_text {cs ds : List Char} (h : ∃ c ∈ ds, Text.isSpace c = false) :
    textWidth (cs ++ ds) = width cs + textWidth ds := by
  obtain ⟨c, hc, htext⟩ := h
  have hleft : ds.reverse.dropWhile Text.isSpace ≠ [] := by
    intro hgone
    have hblank := List.dropWhile_eq_nil_iff.mp hgone c (List.mem_reverse.mpr hc)
    rw [htext] at hblank
    cases hblank
  rw [textWidth, List.reverse_append, List.dropWhile_append, if_neg (by simpa using hleft), width_append,
    width_reverse, textWidth, Nat.add_comm]

theorem textWidth_le_append (cs ds : List Char) : textWidth cs ≤ textWidth (cs ++ ds) := by
  by_cases h : ∃ c ∈ ds, Text.isSpace c = false
  · have := textWidth_le_width cs
    rw [textWidth_append_of_text h]
    omega
  · rw [textWidth_append_of_blank ((blank_or_text ds).resolve_right h)]

/-! ## Words -/

theorem drop_length_takeWhile (p : Char → Bool) (cs : List Char) :
    cs.drop (cs.takeWhile p).length = cs.dropWhile p := by
  induction cs with
  | nil => rfl
  | cons c cs ih =>
    rw [List.takeWhile_cons, List.dropWhile_cons]
    split
    · exact ih
    · rfl

/-- What a reader takes up to a character that stops it, and what it leaves. -/
theorem takeWhile_drop_iff {p : Char → Bool} {c : Char} (hc : p c = false) {cs body rest : List Char} :
    cs.takeWhile p = body ∧ cs.drop body.length = c :: rest ↔ (∀ d ∈ body, p d = true) ∧ cs = body ++ c :: rest := by
  constructor
  · rintro ⟨rfl, hrest⟩
    refine ⟨fun d hd => List.mem_takeWhile_imp hd, ?_⟩
    rw [← hrest, drop_length_takeWhile, List.takeWhile_append_dropWhile]
  · rintro ⟨hbody, rfl⟩
    rw [List.takeWhile_append_of_pos hbody, List.takeWhile_cons_of_neg (by simp [hc]), List.append_nil, List.drop_left]
    exact ⟨rfl, rfl⟩

theorem not_dropWhile_head {p : Char → Bool} {cs ds : List Char} {d : Char} (h : cs.dropWhile p = d :: ds) :
    p d = false := by
  have hhead := List.head?_dropWhile_not p cs
  rw [h] at hhead
  simpa using hhead

theorem lineWords_of_blank {fuel : Nat} {cs : List Char} (h : ∀ c ∈ cs, Text.isSpace c = true) :
    lineWords fuel cs = [] := by
  cases fuel with
  | zero => rfl
  | succ fuel => simp only [lineWords, drop_length_takeWhile, List.dropWhile_eq_nil_iff.mpr h]; rfl

/-- A line that is not blank starts with a word, and what follows the word starts with one or is empty. -/
theorem exists_lineWords_cons {cs : List Char} (h : ∃ c ∈ cs, Text.isSpace c = false) (fuel : Nat) :
    ∃ word rest, cs = word ++ rest ∧ (∃ c ∈ word, Text.isSpace c = false) ∧
      ((∀ c ∈ rest, Text.isSpace c = true) → rest = []) ∧
      lineWords (fuel + 1) cs = word :: lineWords fuel rest := by
  obtain ⟨d, ds, hstart⟩ : ∃ d ds, cs.dropWhile Text.isSpace = d :: ds := by
    refine List.exists_cons_of_ne_nil fun hgone => ?_
    obtain ⟨c, hc, htext⟩ := h
    rw [List.dropWhile_eq_nil_iff.mp hgone c hc] at htext
    cases htext
  have hd : Text.isSpace d = false := not_dropWhile_head hstart
  let body := (d :: ds).takeWhile (!Text.isSpace ·)
  let blanks := (d :: ds).dropWhile (!Text.isSpace ·)
  have hdbody : d ∈ body := by
    rw [show body = d :: ds.takeWhile (!Text.isSpace ·) from List.takeWhile_cons_of_pos (by simp [hd])]
    exact List.mem_cons_self
  have hparts : body ++ blanks = d :: ds := List.takeWhile_append_dropWhile
  refine ⟨cs.takeWhile Text.isSpace ++ body ++ blanks.takeWhile Text.isSpace, blanks.dropWhile Text.isSpace,
    ?_, ⟨d, ?_, hd⟩, fun hblank => ?_, ?_⟩
  · rw [List.append_assoc, List.takeWhile_append_dropWhile, List.append_assoc, hparts, ← hstart,
      List.takeWhile_append_dropWhile]
  · exact List.mem_append_left _ (List.mem_append_right _ hdbody)
  · cases hrest : blanks.dropWhile Text.isSpace with
    | nil => rfl
    | cons c rest =>
      rw [hrest] at hblank
      have hc := hblank c List.mem_cons_self
      rw [not_dropWhile_head hrest] at hc
      cases hc
  · have hbody : body.isEmpty = false := by simpa using List.ne_nil_of_mem hdbody
    simp only [lineWords, ← List.drop_drop, drop_length_takeWhile, hstart]
    rw [if_neg (by rw [hbody]; exact Bool.false_ne_true)]

/-- A line consists of its words, each with a character that is no blank, unless the line is blank. -/
theorem lineWords_of_text {fuel : Nat} {cs : List Char} (hfuel : cs.length ≤ fuel)
    (h : ∃ c ∈ cs, Text.isSpace c = false) :
    lineWords fuel cs ≠ [] ∧ (lineWords fuel cs).flatten = cs ∧
      ∀ word ∈ lineWords fuel cs, ∃ c ∈ word, Text.isSpace c = false := by
  induction fuel generalizing cs with
  | zero =>
    obtain ⟨c, hc, -⟩ := h
    rw [List.length_eq_zero_iff.mp (Nat.le_zero.mp hfuel)] at hc
    cases hc
  | succ fuel ih =>
    obtain ⟨word, rest, rfl, hword, hrest, hwords⟩ := exists_lineWords_cons h fuel
    have hlen : rest.length ≤ fuel := by
      obtain ⟨c, hc, -⟩ := hword
      have := List.length_pos_of_mem hc
      rw [List.length_append] at hfuel
      omega
    rw [hwords]
    refine ⟨List.cons_ne_nil _ _, ?_⟩
    by_cases htext : ∃ c ∈ rest, Text.isSpace c = false
    · obtain ⟨-, hflat, hall⟩ := ih hlen htext
      exact ⟨by rw [List.flatten_cons, hflat], List.forall_mem_cons.mpr ⟨hword, hall⟩⟩
    · have hblank := (blank_or_text rest).resolve_right htext
      rw [lineWords_of_blank hblank, hrest hblank]
      exact ⟨by simp, List.forall_mem_cons.mpr ⟨hword, fun _ h => nomatch h⟩⟩

/-! ## Breaking -/

/-- What was set so far. -/
def Breaking.text (b : Breaking) : List Char := (b.line :: b.done).reverse.flatten

@[simp]
theorem Breaking.text_start (b : Breaking) (text : List Char) : (b.start text).text = b.text ++ text := by
  rw [Breaking.start]
  split
  · rename_i hempty
    simp only [Bool.and_eq_true, List.isEmpty_iff] at hempty
    simp [Breaking.text, hempty]
  · simp [Breaking.text]

theorem flatten_chop (limit : Nat) (piece : List Char) (used : Nat) (cs : List Char) :
    (chop limit piece used cs).flatten = piece.reverse ++ cs := by
  induction cs generalizing piece used with
  | nil => simp [chop]
  | cons c cs ih =>
    rw [chop]
    split
    · rw [List.flatten_cons, ih]
      simp
    · rw [ih]
      simp

theorem Breaking.text_foldl_start (b : Breaking) (pieces : List (List Char)) :
    (pieces.foldl Breaking.start b).text = b.text ++ pieces.flatten := by
  induction pieces generalizing b with
  | nil => simp
  | cons piece pieces ih => rw [List.foldl_cons, ih, Breaking.text_start, List.flatten_cons, List.append_assoc]

@[simp]
theorem Breaking.text_add (limit : Nat) (b : Breaking) (word : List Char) :
    (b.add limit word).text = b.text ++ word := by
  rw [Breaking.add]
  split
  · simp [Breaking.text]
  · split
    · rw [Breaking.text_foldl_start, flatten_chop]
      rfl
    · exact b.text_start word

theorem Breaking.text_foldl_add (limit : Nat) (b : Breaking) (words : List (List Char)) :
    (words.foldl (Breaking.add limit) b).text = b.text ++ words.flatten := by
  induction words generalizing b with
  | nil => simp
  | cons word words ih => rw [List.foldl_cons, ih, Breaking.text_add, List.flatten_cons, List.append_assoc]

/-- A blank line is not broken. -/
theorem breakLine_of_blank {limit : Nat} {cs : List Char} (h : ∀ c ∈ cs, Text.isSpace c = true) :
    breakLine limit cs = [cs] := by
  rw [breakLine, lineWords_of_blank h]
  split <;> rfl

/-- A line that is not short is broken as its words fall. -/
theorem breakLine_of_text {limit : Nat} {cs : List Char} (hlong : ¬ cs.length ≤ limit / 2)
    (h : ∃ c ∈ cs, Text.isSpace c = false) :
    ∃ b, b = (lineWords cs.length cs).foldl (Breaking.add limit) {} ∧ breakLine limit cs = (b.line :: b.done).reverse := by
  obtain ⟨hsome, -, -⟩ := lineWords_of_text (Nat.le_refl cs.length) h
  refine ⟨_, rfl, ?_⟩
  rw [breakLine, if_neg hlong]
  split
  · rename_i hnone
    exact absurd hnone hsome
  · rfl

/-- Breaking a line takes nothing away. -/
theorem flatten_breakLine (limit : Nat) (cs : List Char) : (breakLine limit cs).flatten = cs := by
  rcases blank_or_text cs with hblank | htext
  · simp [breakLine_of_blank hblank]
  · by_cases hshort : cs.length ≤ limit / 2
    · simp [breakLine, hshort]
    · obtain ⟨b, hb, hbroken⟩ := breakLine_of_text hshort htext
      obtain ⟨-, hflat, -⟩ := lineWords_of_text (Nat.le_refl cs.length) htext
      have htext := Breaking.text_foldl_add limit {} (lineWords cs.length cs)
      rw [← hb, hflat] at htext
      rw [hbroken]
      exact htext

/-! ## Lines that fit -/

/-- A word that is too long is cut at least once, and the first piece of it has a character. -/
theorem exists_chop {limit used : Nat} {piece cs : List Char} (hpiece : piece ≠ []) (hfits : used ≤ limit)
    (hlong : limit < used + width cs) :
    ∃ first second rest, chop limit piece used cs = first :: second :: rest ∧ first ≠ [] := by
  induction cs generalizing piece used with
  | nil =>
    rw [width_nil] at hlong
    omega
  | cons c cs ih =>
    rw [width_cons] at hlong
    rw [chop]
    split
    · have hne : chop limit [c] (charWidth c) cs ≠ [] := by
        intro hnone
        have hflat := flatten_chop limit [c] (charWidth c) cs
        rw [hnone] at hflat
        cases hflat
      obtain ⟨second, rest, hrest⟩ := List.exists_cons_of_ne_nil hne
      exact ⟨piece.reverse, second, rest, by rw [hrest], by simpa using hpiece⟩
    · exact ih (List.cons_ne_nil _ _) (by omega) (by omega)

/-- A line is complete. -/
theorem Breaking.done_start {b : Breaking} {text : List Char} (h : b.done ≠ [] ∨ b.line ≠ []) :
    (b.start text).done ≠ [] := by
  rw [Breaking.start, if_neg]
  · exact List.cons_ne_nil _ _
  · simp only [Bool.and_eq_true, List.isEmpty_iff, not_and_or]
    exact h

theorem Breaking.done_foldl_start {b : Breaking} {pieces : List (List Char)} (h : b.done ≠ []) :
    (pieces.foldl Breaking.start b).done ≠ [] := by
  induction pieces generalizing b with
  | nil => exact h
  | cons piece pieces ih => exact ih (Breaking.done_start (.inl h))

theorem Breaking.done_add {limit : Nat} {b : Breaking} {word : List Char} (h : b.done ≠ []) :
    (b.add limit word).done ≠ [] := by
  rw [Breaking.add]
  split
  · exact h
  · split
    · exact Breaking.done_foldl_start h
    · exact Breaking.done_start (.inl h)

theorem Breaking.done_foldl_add {limit : Nat} {b : Breaking} {words : List (List Char)} (h : b.done ≠ []) :
    (words.foldl (Breaking.add limit) b).done ≠ [] := by
  induction words generalizing b with
  | nil => exact h
  | cons word words ih => exact ih (Breaking.done_add h)

/-- A line that is being filled, with nothing before it. -/
def filling (cs : List Char) : Breaking := { line := cs, used := width cs }

theorem add_filling (limit : Nat) (cs word : List Char) :
    (filling cs).add limit word =
      if width cs + textWidth word ≤ limit then filling (cs ++ word)
      else if limit < textWidth word then (chop limit [] 0 word).foldl Breaking.start (filling cs)
      else (filling cs).start word := by
  simp only [filling, width_append]
  rfl

/-- A word that does not fit on the line that is being filled completes it. -/
theorem done_add_filling {limit : Nat} (hlimit : 2 ≤ limit) {cs word : List Char}
    (hfull : ¬ width cs + textWidth word ≤ limit) : ((filling cs).add limit word).done ≠ [] := by
  rw [add_filling, if_neg hfull]
  split
  · rename_i hlong
    cases word with
    | nil => cases hlong
    | cons c ds =>
      have hc := charWidth_le_two c
      have hwidth := textWidth_le_width (c :: ds)
      rw [width_cons] at hwidth
      obtain ⟨first, second, rest, hchop, hfirst⟩ : ∃ first second rest,
          chop limit [c] (0 + charWidth c) ds = first :: second :: rest ∧ first ≠ [] :=
        exists_chop (List.cons_ne_nil _ _) (by omega) (by omega)
      rw [chop, if_neg (by omega), hchop, List.foldl_cons, List.foldl_cons]
      -- The first piece may be the first text of all, which completes nothing; the second one completes its line.
      refine Breaking.done_foldl_start (Breaking.done_start ?_)
      by_cases hcs : cs = []
      · refine .inr ?_
        rw [hcs]
        exact hfirst
      · exact .inl (Breaking.done_start (.inr hcs))
  · rename_i hshort
    refine Breaking.done_start (.inr fun hcs => ?_)
    rw [show cs = [] from hcs, width_nil] at hfull
    omega

/-- Words stay on one line exactly if they fit there, blanks at the end aside. -/
theorem foldl_add_filling {limit : Nat} (hlimit : 2 ≤ limit) {words : List (List Char)}
    (hwords : ∀ word ∈ words, ∃ c ∈ word, Text.isSpace c = false) (cs : List Char) (hcs : textWidth cs ≤ limit) :
    (words.foldl (Breaking.add limit) (filling cs)).done = [] ↔ textWidth (cs ++ words.flatten) ≤ limit := by
  induction words generalizing cs with
  | nil => simp [filling, hcs]
  | cons word words ih =>
    obtain ⟨hword, hwords⟩ := List.forall_mem_cons.mp hwords
    have hwidth : textWidth (cs ++ word) = width cs + textWidth word := textWidth_append_of_text hword
    rw [List.foldl_cons, List.flatten_cons, ← List.append_assoc]
    by_cases hfits : width cs + textWidth word ≤ limit
    · rw [add_filling, if_pos hfits, ih hwords _ (by omega)]
    · have := textWidth_le_append (cs ++ word) words.flatten
      exact iff_of_false (Breaking.done_foldl_add (done_add_filling hlimit hfits)) (by omega)

/-- A line is not broken exactly if it fits, blanks at its end aside. -/
theorem length_breakLine_eq_one_iff {limit : Nat} (hlimit : 2 ≤ limit) (cs : List Char) :
    (breakLine limit cs).length = 1 ↔ textWidth cs ≤ limit := by
  rcases blank_or_text cs with hblank | htext
  · have hwidth : textWidth ([] ++ cs) = textWidth [] := textWidth_append_of_blank hblank
    rw [List.nil_append] at hwidth
    rw [breakLine_of_blank hblank, hwidth]
    simp [textWidth]
  · by_cases hshort : cs.length ≤ limit / 2
    · have := textWidth_le_width cs
      have := width_le_length cs
      rw [breakLine, if_pos hshort]
      exact iff_of_true rfl (by omega)
    · obtain ⟨b, hb, hbroken⟩ := breakLine_of_text hshort htext
      obtain ⟨-, hflat, hall⟩ := lineWords_of_text (Nat.le_refl cs.length) htext
      have hdone := foldl_add_filling hlimit hall [] (by simp [textWidth])
      rw [List.nil_append, hflat, show filling [] = {} from rfl, ← hb] at hdone
      rw [hbroken, ← hdone, List.length_reverse, List.length_cons]
      simp

theorem breakLine_ne_nil (limit : Nat) (cs : List Char) : breakLine limit cs ≠ [] := by
  rcases blank_or_text cs with hblank | htext
  · simp [breakLine_of_blank hblank]
  · by_cases hshort : cs.length ≤ limit / 2
    · simp [breakLine, hshort]
    · obtain ⟨b, -, hbroken⟩ := breakLine_of_text hshort htext
      simp [hbroken]

/-! ## Lines and line breaks -/

theorem splitLines_cons (c : Char) (cs : List Char) :
    splitLines (c :: cs) =
      if c = '\n' then [] :: splitLines cs
      else match splitLines cs with
        | [] => [[c]]
        | line :: lines => (c :: line) :: lines := rfl

theorem splitLines_ne_nil (cs : List Char) : splitLines cs ≠ [] := by
  cases cs with
  | nil => exact List.cons_ne_nil _ _
  | cons c cs =>
    rw [splitLines_cons]
    split
    · exact List.cons_ne_nil _ _
    · split <;> exact List.cons_ne_nil _ _

/-- The lines with line breaks between them are the characters. -/
theorem intercalate_splitLines (cs : List Char) : List.intercalate ['\n'] (splitLines cs) = cs := by
  induction cs with
  | nil => rfl
  | cons c cs ih =>
    obtain ⟨line, lines, hlines⟩ := List.exists_cons_of_ne_nil (splitLines_ne_nil cs)
    rw [hlines] at ih
    rw [splitLines_cons, hlines]
    split
    · rename_i hbreak
      rw [List.intercalate_cons_cons, ih, hbreak]
      rfl
    · cases lines with
      | nil => simpa using ih
      | cons next lines =>
        rw [List.intercalate_cons_cons] at ih ⊢
        rw [← ih]
        rfl

theorem length_intercalate {lines : List (List Char)} (h : lines ≠ []) :
    (List.intercalate ['\n'] lines).length + 1 = lines.flatten.length + lines.length := by
  induction lines with
  | nil => exact absurd rfl h
  | cons line lines ih =>
    cases lines with
    | nil => simp
    | cons next lines =>
      have := ih (List.cons_ne_nil _ _)
      rw [List.intercalate_cons_cons, List.length_append, List.length_append, List.flatten_cons, List.length_append]
      simp only [List.length_cons, List.length_nil] at this ⊢
      omega

theorem mem_intercalate {c : Char} (hc : c ≠ '\n') {lines : List (List Char)} :
    c ∈ List.intercalate ['\n'] lines ↔ ∃ line ∈ lines, c ∈ line := by
  induction lines with
  | nil => simp
  | cons line lines ih =>
    cases lines with
    | nil => simp
    | cons next lines =>
      rw [List.intercalate_cons_cons, List.mem_append, List.mem_append, ih]
      simp [hc]

/-- A line as it is broken: with blanks in the place of tabs. -/
def untabbed (line : List Char) : List Char := if line.contains '\t' then expandTabs 0 line else line

theorem layOut_eq (cs : List Char) :
    layOut cs = List.intercalate ['\n'] ((splitLines cs).flatMap fun line => breakLine lineWidth (untabbed line)) := rfl

theorem not_tab_mem_expandTabs (position : Nat) (cs : List Char) : '\t' ∉ expandTabs position cs := by
  induction cs generalizing position with
  | nil => exact List.not_mem_nil
  | cons c cs ih =>
    rw [expandTabs]
    split
    · rw [List.mem_append, List.mem_replicate]
      rintro (⟨-, htab⟩ | htab)
      · cases htab
      · exact ih _ htab
    · rename_i hc
      rw [List.mem_cons]
      rintro (htab | htab)
      · exact hc htab.symm
      · exact ih _ htab

theorem not_tab_mem_untabbed (line : List Char) : '\t' ∉ untabbed line := by
  rw [untabbed]
  split
  · exact not_tab_mem_expandTabs 0 line
  · rename_i h
    simpa using h

theorem untabbed_of_not_mem {line : List Char} (h : '\t' ∉ line) : untabbed line = line := by
  rw [untabbed, if_neg (by simpa using h)]

/-- No tab is shown. -/
theorem not_tab_mem_layOut (cs : List Char) : '\t' ∉ layOut cs := by
  rw [layOut_eq, mem_intercalate (by decide)]
  rintro ⟨piece, hpiece, htab⟩
  obtain ⟨line, -, hpiece⟩ := List.mem_flatMap.mp hpiece
  have hflat := flatten_breakLine lineWidth (untabbed line)
  exact not_tab_mem_untabbed line (hflat ▸ List.mem_flatten_of_mem hpiece htab)

theorem flatten_flatMap_breakLine (limit : Nat) (lines : List (List Char)) :
    (lines.flatMap (breakLine limit)).flatten = lines.flatten := by
  induction lines with
  | nil => rfl
  | cons line lines ih => rw [List.flatMap_cons, List.flatten_append, flatten_breakLine, ih, List.flatten_cons]

theorem flatMap_breakLine_ne_nil (limit : Nat) {lines : List (List Char)} (h : lines ≠ []) :
    lines.flatMap (breakLine limit) ≠ [] := by
  obtain ⟨line, lines, rfl⟩ := List.exists_cons_of_ne_nil h
  rw [List.flatMap_cons]
  exact List.append_ne_nil_of_left_ne_nil (breakLine_ne_nil limit line) _

theorem length_flatMap_eq_iff {α β : Type} {f : α → List β} {xs : List α} (h : ∀ x ∈ xs, f x ≠ []) :
    (xs.flatMap f).length = xs.length ↔ ∀ x ∈ xs, (f x).length = 1 := by
  have hle {xs : List α} (h : ∀ x ∈ xs, f x ≠ []) : xs.length ≤ (xs.flatMap f).length := by
    induction xs with
    | nil => simp
    | cons x xs ih =>
      have hx := List.length_pos_of_ne_nil (h x List.mem_cons_self)
      have := ih fun y hy => h y (List.mem_cons_of_mem _ hy)
      rw [List.flatMap_cons, List.length_append, List.length_cons]
      omega
  induction xs with
  | nil => simp
  | cons x xs ih =>
    have hx := List.length_pos_of_ne_nil (h x List.mem_cons_self)
    have hrest : ∀ y ∈ xs, f y ≠ [] := fun y hy => h y (List.mem_cons_of_mem _ hy)
    have hmore := hle hrest
    have hall := ih hrest
    rw [List.flatMap_cons, List.length_append, List.length_cons, List.forall_mem_cons]
    constructor
    · intro heq
      exact ⟨by omega, hall.mp (by omega)⟩
    · rintro ⟨hone, hones⟩
      have := hall.mpr hones
      omega

/-- Characters are shown as they are exactly if there is no tab among them and every line fits. -/
theorem layOut_eq_self_iff (cs : List Char) :
    layOut cs = cs ↔ '\t' ∉ cs ∧ ∀ line ∈ splitLines cs, textWidth line ≤ lineWidth := by
  by_cases htab : '\t' ∈ cs
  · exact iff_of_false (fun h => not_tab_mem_layOut cs (h.symm ▸ htab)) fun h => h.1 htab
  have hlines : ∀ line ∈ splitLines cs, untabbed line = line := by
    intro line hline
    refine untabbed_of_not_mem fun hmem => htab ?_
    rw [← intercalate_splitLines cs]
    exact (mem_intercalate (by decide)).mpr ⟨line, hline, hmem⟩
  have hpieces : ((splitLines cs).flatMap fun line => breakLine lineWidth (untabbed line)) =
      (splitLines cs).flatMap (breakLine lineWidth) := List.flatMap_congr fun line hline => by rw [hlines line hline]
  have hfits : (∀ line ∈ splitLines cs, textWidth line ≤ lineWidth) ↔
      ∀ line ∈ splitLines cs, (breakLine lineWidth line).length = 1 :=
    forall₂_congr fun line _ => (length_breakLine_eq_one_iff (by decide) line).symm
  rw [layOut_eq, hpieces, hfits, and_iff_right htab]
  constructor
  · intro h
    rw [← length_flatMap_eq_iff fun line _ => breakLine_ne_nil lineWidth line]
    -- a line that is broken makes the text longer
    have hflat := flatten_flatMap_breakLine lineWidth (splitLines cs)
    have hbroken := length_intercalate (flatMap_breakLine_ne_nil lineWidth (splitLines_ne_nil cs))
    have hsplit := length_intercalate (splitLines_ne_nil cs)
    rw [h, hflat] at hbroken
    rw [intercalate_splitLines] at hsplit
    omega
  · intro h
    have hsame : (splitLines cs).flatMap (breakLine lineWidth) = (splitLines cs).flatMap fun line => [line] := by
      refine List.flatMap_congr fun line hline => ?_
      obtain ⟨piece, hpiece⟩ := List.length_eq_one_iff.mp (h line hline)
      have hflat := flatten_breakLine lineWidth line
      rw [hpiece, List.flatten_singleton] at hflat
      rw [hpiece, hflat]
    rw [hsame, List.flatMap_singleton', intercalate_splitLines]

/-! ## Weights -/

section Weight

variable {weight : Char → Nat}

theorem sum_expandTabs_le (hblank : weight ' ' = 0) (position : Nat) (cs : List Char) :
    ((expandTabs position cs).map weight).sum ≤ (cs.map weight).sum := by
  induction cs generalizing position with
  | nil => exact Nat.le_refl _
  | cons c cs ih =>
    rw [expandTabs, List.map_cons, List.sum_cons]
    split
    · have := ih (position + (tabStop - position % tabStop))
      rw [List.map_append, List.sum_append, List.map_replicate, hblank, List.sum_replicate_nat]
      omega
    · have := ih (position + charWidth c)
      rw [List.map_cons, List.sum_cons]
      omega

theorem sum_intercalate (hbreak : weight '\n' = 0) (lines : List (List Char)) :
    ((List.intercalate ['\n'] lines).map weight).sum = (lines.flatten.map weight).sum := by
  induction lines with
  | nil => rfl
  | cons line lines ih =>
    cases lines with
    | nil => simp
    | cons next lines =>
      rw [List.intercalate_cons_cons, List.map_append, List.sum_append, ih, List.flatten_cons, List.map_append,
        List.map_append, List.sum_append, List.sum_append]
      simp [hbreak]

/-- What weighs nothing in blanks and line breaks does not weigh more when it is laid out. -/
theorem sum_layOut_le (hblank : weight ' ' = 0) (hbreak : weight '\n' = 0) (cs : List Char) :
    ((layOut cs).map weight).sum ≤ (cs.map weight).sum := by
  have hlines (lines : List (List Char)) :
      ((lines.flatMap fun line => breakLine lineWidth (untabbed line)).flatten.map weight).sum ≤
        (lines.flatten.map weight).sum := by
    induction lines with
    | nil => exact Nat.le_refl _
    | cons line lines ih =>
      have huntabbed : ((untabbed line).map weight).sum ≤ (line.map weight).sum := by
        rw [untabbed]
        split
        · exact sum_expandTabs_le hblank 0 line
        · exact Nat.le_refl _
      rw [List.flatMap_cons, List.flatten_append, flatten_breakLine, List.flatten_cons, List.map_append, List.map_append,
        List.sum_append, List.sum_append]
      omega
  calc ((layOut cs).map weight).sum
      = (((splitLines cs).flatMap fun line => breakLine lineWidth (untabbed line)).flatten.map weight).sum :=
        sum_intercalate hbreak _
    _ ≤ ((splitLines cs).flatten.map weight).sum := hlines _
    _ = (cs.map weight).sum := by rw [← sum_intercalate hbreak, intercalate_splitLines]

end Weight

end JsxTagger.Console
