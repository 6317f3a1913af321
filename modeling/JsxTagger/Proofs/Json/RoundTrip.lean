import Mathlib.Tactic.FinCases
import JsxTagger.Proofs.Json.Scalars

/-!
# Values that are read back

`Json.read_render`: what is written for a value is read back as that value, exactly if its lists and
objects are nested no deeper than the calls that are left allow. This holds of the values without floating-point
numbers, repeated keys, integers with too many digits and strings in which two halves would be taken
for a pair (`Json.isStorable`).
-/

namespace JsxTagger.Json

open Decimal
open Text (isUnpaired)

/-! ## Nesting -/

mutual

/-- How many lists and objects are nested inside each other in a value. -/
def nesting : Json → Nat
  | .arr items => nestingItems items + 1
  | .obj members => nestingMembers members + 1
  | _ => 0

/-- The greatest nesting of several values. -/
def nestingItems : List Json → Nat
  | [] => 0
  | j :: js => max j.nesting (nestingItems js)

/-- The greatest nesting of the members of an object. -/
def nestingMembers : List (String × Json) → Nat
  | [] => 0
  | (_, j) :: ms => max j.nesting (nestingMembers ms)

end

mutual

/-- Whether a value can be read back from a document. -/
def isStorable : Json → Bool
  | .null => true
  | .bool _ => true
  | .int n => digitCount n ≤ maxDigits
  | .float _ => false
  | .str s => isUnpaired s.toList
  | .arr items => areStorable items
  | .obj members => decide (members.map (·.1)).Nodup && membersStorable members

/-- Whether several values can be read back from a document. -/
def areStorable : List Json → Bool
  | [] => true
  | j :: js => j.isStorable && areStorable js

/-- Whether the members of an object can be read back from a document. -/
def membersStorable : List (String × Json) → Bool
  | [] => true
  | (key, j) :: ms => isUnpaired key.toList && j.isStorable && membersStorable ms

end

theorem nestingMembers_append (ms ns : List (String × Json)) :
    nestingMembers (ms ++ ns) = max (nestingMembers ms) (nestingMembers ns) := by
  induction ms with
  | nil => simp [nestingMembers]
  | cons m ms ih => simp [nestingMembers, ih, Nat.max_assoc]

theorem nestingMembers_setMember (ms : List (String × Json)) (key : String) (j : Json) :
    nestingMembers (setMember ms key j) ≤ max (nestingMembers ms) j.nesting := by
  have hmap : nestingMembers (ms.map fun m => if m.1 == key then (key, j) else m) ≤
      max (nestingMembers ms) j.nesting := by
    induction ms with
    | nil => exact Nat.zero_le _
    | cons m ms ih =>
      rw [List.map_cons]
      split <;> simp only [nestingMembers] <;> omega
  rw [setMember]
  split
  · exact hmap
  · simp [nestingMembers_append, nestingMembers]

/-! ## Steps of the reader -/

section Steps

variable {d fuel : Nat} {cs rest : List Char}

theorem skipBlanks_cons {c : Char} (h : 0x20 < c.toNat) : skipBlanks (c :: cs) = c :: cs := by
  have hne {b : Char} (hb : b.toNat ≤ 0x20) : (c == b) = false := by
    rw [beq_eq_false_iff_ne]
    rintro rfl
    omega
  rw [skipBlanks, hne (by decide), hne (by decide), hne (by decide), hne (by decide)]
  rfl

theorem skipBlanks_lineBreak (level : Nat) : skipBlanks (lineBreak level ++ cs) = skipBlanks cs := by
  have hblanks (k : Nat) : skipBlanks (List.replicate k ' ' ++ cs) = skipBlanks cs := by
    induction k with
    | zero => rfl
    | succ k ih => exact ih
  exact hblanks (2 * level)

theorem readValue_scalar {c : Char} (h : c ∉ ['"', '[', '{']) :
    readValue d (fuel + 1) (c :: cs) = readScalar (c :: cs) := by
  simp only [List.mem_cons, List.not_mem_nil, or_false, not_or] at h
  rw [readValue]
  · exact fun _ heq => h.1 (List.cons.inj heq).1
  · exact fun _ heq => h.2.1 (List.cons.inj heq).1
  · exact fun _ heq => h.2.2 (List.cons.inj heq).1

/-- The words are read back. -/
theorem readValue_word :
    readValue d (fuel + 1) ("null".toList ++ rest) = .ok (.null, rest) ∧
      readValue d (fuel + 1) ("true".toList ++ rest) = .ok (.bool true, rest) ∧
      readValue d (fuel + 1) ("false".toList ++ rest) = .ok (.bool false, rest) := by
  refine ⟨?_, ?_, ?_⟩
  · show readValue d (fuel + 1) ('n' :: 'u' :: 'l' :: 'l' :: rest) = _
    rw [readValue_scalar (by decide)]
    rfl
  · show readValue d (fuel + 1) ('t' :: 'r' :: 'u' :: 'e' :: rest) = _
    rw [readValue_scalar (by decide)]
    rfl
  · show readValue d (fuel + 1) ('f' :: 'a' :: 'l' :: 's' :: 'e' :: rest) = _
    rw [readValue_scalar (by decide)]
    rfl

theorem readValue_ofInt {n : Int} (hsize : digitCount n ≤ maxDigits) (hrest : Delimited rest) :
    readValue d (fuel + 1) (ofInt n ++ rest) = .ok (.int n, rest) := by
  have hread := readScalar_ofInt hsize hrest
  obtain ⟨c, cs, heq, hc⟩ := exists_ofInt n
  rw [heq, List.cons_append] at hread ⊢
  rw [readValue_scalar, hread]
  rcases hc with rfl | hc
  · decide
  · intro hmem
    fin_cases hmem <;> cases hc

theorem writeString_append (s : String) :
    writeString s ++ rest = '"' :: (s.toList.flatMap writeChar ++ '"' :: rest) := by
  simp [writeString]

theorem skipBlanks_writeString (s : String) :
    skipBlanks (writeString s ++ rest) = writeString s ++ rest := by
  rw [writeString_append]
  exact skipBlanks_cons (by decide)

theorem readValue_str {s : String} (h : isUnpaired s.toList = true) :
    readValue d (fuel + 1) (writeString s ++ rest) = .ok (.str s, rest) := by
  rw [writeString_append, readValue, readString_writeString s h]
  rfl

theorem readValue_arr {j : Json} :
    readValue d (fuel + 1) ('[' :: cs) = .ok (j, rest) ↔ ∃ d', d = d' + 1 ∧
      (skipBlanks cs = ']' :: rest ∧ j = .arr [] ∨
        (∀ xs, skipBlanks cs ≠ ']' :: xs) ∧
          ∃ items, readItems d' fuel (skipBlanks cs) = .ok (items, rest) ∧ j = .arr items) := by
  cases d with
  | zero => simp [readValue]
  | succ d' =>
    rw [readValue, if_neg (Nat.succ_ne_zero d'), Nat.add_sub_cancel]
    split
    · rename_i more hend
      simp [hend, eq_comm, and_comm]
    · rename_i hne
      have hopen (xs : List Char) : skipBlanks cs ≠ ']' :: xs := fun heq => hne xs heq
      cases hitems : readItems d' fuel (skipBlanks cs) with
      | error e => simp [bind, Except.bind, hopen, hitems]
      | ok r =>
        obtain ⟨items, after⟩ := r
        simp [bind, Except.bind, hopen, hitems, eq_comm, and_comm]

theorem readValue_obj {j : Json} :
    readValue d (fuel + 1) ('{' :: cs) = .ok (j, rest) ↔ ∃ d', d = d' + 1 ∧
      (skipBlanks cs = '}' :: rest ∧ j = .obj [] ∨
        (∀ xs, skipBlanks cs ≠ '}' :: xs) ∧
          ∃ members, readMembers d' fuel [] (skipBlanks cs) = .ok (members, rest) ∧
            j = .obj members) := by
  cases d with
  | zero => simp [readValue]
  | succ d' =>
    rw [readValue, if_neg (Nat.succ_ne_zero d'), Nat.add_sub_cancel]
    split
    · rename_i more hend
      simp [hend, eq_comm, and_comm]
    · rename_i hne
      have hopen (xs : List Char) : skipBlanks cs ≠ '}' :: xs := fun heq => hne xs heq
      cases hmembers : readMembers d' fuel [] (skipBlanks cs) with
      | error e => simp [bind, Except.bind, hopen, hmembers]
      | ok r =>
        obtain ⟨members, after⟩ := r
        simp [bind, Except.bind, hopen, hmembers, eq_comm, and_comm]

theorem readItems_succ {items : List Json} :
    readItems d (fuel + 1) cs = .ok (items, rest) ↔
      ∃ j after, readValue d fuel cs = .ok (j, after) ∧
        (skipBlanks after = ']' :: rest ∧ items = [j] ∨
          ∃ more js, skipBlanks after = ',' :: more ∧
            readItems d fuel (skipBlanks more) = .ok (js, rest) ∧ items = j :: js) := by
  rw [readItems]
  cases hvalue : readValue d fuel cs with
  | error e => simp [bind, Except.bind]
  | ok r =>
    obtain ⟨j, after⟩ := r
    simp only [bind, Except.bind]
    split
    · rename_i hend
      simp [hend, eq_comm, and_comm]
    · rename_i more hcomma
      cases hmore : readItems d fuel (skipBlanks more) with
      | error e => simp [hcomma, hmore]
      | ok r =>
        obtain ⟨js, after⟩ := r
        simp [hcomma, hmore, eq_comm, and_comm]
    · rename_i hend hcomma
      have hend (xs : List Char) : skipBlanks after ≠ ']' :: xs := hend xs
      have hcomma (xs : List Char) : skipBlanks after ≠ ',' :: xs := hcomma xs
      simp [hend, hcomma]

theorem readMembers_succ {members all : List (String × Json)} :
    readMembers d (fuel + 1) members ('"' :: cs) = .ok (all, rest) ↔
      ∃ key before more j after, readString ('"' :: cs) 0 [] cs = .ok (key, before) ∧
        skipBlanks before = ':' :: more ∧ readValue d fuel (skipBlanks more) = .ok (j, after) ∧
        (skipBlanks after = '}' :: rest ∧ all = setMember members key j ∨
          ∃ next, skipBlanks after = ',' :: next ∧
            readMembers d fuel (setMember members key j) (skipBlanks next) = .ok (all, rest)) := by
  rw [readMembers]
  cases hkey : readString ('"' :: cs) 0 [] cs with
  | error e => simp [bind, Except.bind]
  | ok r =>
    obtain ⟨key, before⟩ := r
    simp only [bind, Except.bind]
    split
    · rename_i more hcolon
      cases hvalue : readValue d fuel (skipBlanks more) with
      | error e => simp [hcolon, hvalue]
      | ok r =>
        obtain ⟨j, after⟩ := r
        simp only
        split
        · rename_i hend
          simp [hcolon, hvalue, hend, eq_comm, and_comm]
        · rename_i next hcomma
          simp [hcolon, hvalue, hcomma]
        · rename_i hend hcomma
          have hend (xs : List Char) : skipBlanks after ≠ '}' :: xs := hend xs
          have hcomma (xs : List Char) : skipBlanks after ≠ ',' :: xs := hcomma xs
          simp [hcolon, hvalue, hend, hcomma]
    · rename_i hcolon
      have hcolon (xs : List Char) : skipBlanks before ≠ ':' :: xs := hcolon xs
      simp [hcolon]

end Steps

/-! ## Reading what was written -/

/-- What is written for a value starts with a visible character that does not end a list. -/
theorem exists_writeAt (level : Nat) {j : Json} (h : j.isStorable = true) :
    ∃ c cs, writeAt level j = c :: cs ∧ (0x20 < c.toNat ∧ c.toNat < 0x7F) ∧ c ≠ ']' := by
  cases j with
  | null => exact ⟨'n', ['u', 'l', 'l'], by rw [writeAt]; rfl, by decide, by decide⟩
  | bool b =>
    cases b with
    | true => exact ⟨'t', ['r', 'u', 'e'], by rw [writeAt]; rfl, by decide, by decide⟩
    | false => exact ⟨'f', ['a', 'l', 's', 'e'], by rw [writeAt]; rfl, by decide, by decide⟩
  | int n =>
    obtain ⟨c, cs, heq, hc⟩ := exists_ofInt n
    refine ⟨c, cs, heq, ?_, ?_⟩
    · rcases hc with rfl | hc
      · decide
      · have := toNat_of_isDigit hc
        omega
    · rintro rfl
      rcases hc with hc | hc <;> cases hc
  | float x => cases h
  | str s => exact ⟨_, _, rfl, by decide, by decide⟩
  | arr items =>
    cases items with
    | nil => exact ⟨_, _, rfl, by decide, by decide⟩
    | cons j js =>
      rw [writeAt]
      exact ⟨_, _, rfl, by decide, by decide⟩
  | obj members =>
    cases members with
    | nil => exact ⟨_, _, rfl, by decide, by decide⟩
    | cons m ms =>
      rw [writeAt]
      exact ⟨_, _, rfl, by decide, by decide⟩

theorem skipBlanks_writeAt {level : Nat} {j : Json} (h : j.isStorable = true) (rest : List Char) :
    skipBlanks (writeAt level j ++ rest) = writeAt level j ++ rest := by
  obtain ⟨c, cs, heq, hvisible, -⟩ := exists_writeAt level h
  rw [heq]
  exact skipBlanks_cons hvisible.1

theorem delimited_lineBreak (level : Nat) (rest : List Char) :
    Delimited (lineBreak level ++ rest) := by
  rintro c ⟨⟩
  exact .inr rfl

theorem delimited_writeItems (level outer : Nat) (js : List Json) (rest : List Char) :
    Delimited (writeItems level js ++ (lineBreak outer ++ rest)) := by
  cases js with
  | nil => exact delimited_lineBreak outer rest
  | cons j js =>
    rintro c ⟨⟩
    exact .inl rfl

theorem delimited_writeMembers (level outer : Nat) (ms : List (String × Json)) (rest : List Char) :
    Delimited (writeMembers level ms ++ (lineBreak outer ++ rest)) := by
  cases ms with
  | nil => exact delimited_lineBreak outer rest
  | cons m ms =>
    rintro c ⟨⟩
    exact .inl rfl

theorem setMember_of_nodup {members : List (String × Json)} {m : String × Json}
    {ms : List (String × Json)} (h : ((members ++ m :: ms).map (·.1)).Nodup) :
    setMember members m.1 m.2 = members ++ [m] := by
  have hnew : members.any (·.1 == m.1) = false := by
    rw [List.any_eq_false]
    intro x hx heq
    rw [List.map_append, List.nodup_append] at h
    exact h.2.2 x.1 (List.mem_map_of_mem hx) m.1 (by simp) (eq_of_beq heq)
  rw [setMember, hnew]
  rfl

section Written

variable (level : Nat) (key : String) (j : Json) (js : List Json) (ms : List (String × Json))
  (rest : List Char)

theorem writeAt_arr_append : writeAt level (.arr (j :: js)) ++ rest =
    '[' :: (lineBreak (level + 1) ++ (writeAt (level + 1) j ++ (writeItems (level + 1) js ++
      (lineBreak level ++ ']' :: rest)))) := by
  simp [writeAt]

theorem writeAt_obj_append : writeAt level (.obj ((key, j) :: ms)) ++ rest =
    '{' :: (lineBreak (level + 1) ++ (writeString key ++ ':' :: ' ' :: (writeAt (level + 1) j ++
      (writeMembers (level + 1) ms ++ (lineBreak level ++ '}' :: rest))))) := by
  simp [writeAt]

theorem writeItems_cons_append : writeItems level (j :: js) ++ rest =
    ',' :: (lineBreak level ++ (writeAt level j ++ (writeItems level js ++ rest))) := by
  simp [writeItems]

theorem writeMembers_cons_append : writeMembers level ((key, j) :: ms) ++ rest =
    ',' :: (lineBreak level ++ (writeString key ++ ':' :: ' ' :: (writeAt level j ++
      (writeMembers level ms ++ rest)))) := by
  simp [writeMembers]

end Written

mutual

/-- A value is read back from what is written for it. -/
theorem readValue_writeAt (level : Nat) {d : Nat} (fuel : Nat) {rest : List Char}
    (hrest : Delimited rest) :
    (j : Json) → j.isStorable = true → j.nesting ≤ d → (writeAt level j).length < fuel →
    readValue d fuel (writeAt level j ++ rest) = .ok (j, rest)
  | .null, _, _, hf => by
    obtain ⟨fuel, rfl⟩ := Nat.exists_eq_add_one_of_ne_zero (Nat.ne_zero_of_lt hf)
    exact readValue_word.1
  | .bool b, _, _, hf => by
    obtain ⟨fuel, rfl⟩ := Nat.exists_eq_add_one_of_ne_zero (Nat.ne_zero_of_lt hf)
    cases b with
    | true => exact readValue_word.2.1
    | false => exact readValue_word.2.2
  | .int n, hs, _, hf => by
    obtain ⟨fuel, rfl⟩ := Nat.exists_eq_add_one_of_ne_zero (Nat.ne_zero_of_lt hf)
    rw [isStorable, decide_eq_true_eq] at hs
    exact readValue_ofInt hs hrest
  | .float _, hs, _, _ => by cases hs
  | .str s, hs, _, hf => by
    obtain ⟨fuel, rfl⟩ := Nat.exists_eq_add_one_of_ne_zero (Nat.ne_zero_of_lt hf)
    exact readValue_str hs
  | .arr [], _, hd, hf => by
    obtain ⟨fuel, rfl⟩ := Nat.exists_eq_add_one_of_ne_zero (Nat.ne_zero_of_lt hf)
    obtain ⟨d, rfl⟩ := Nat.exists_eq_add_one_of_ne_zero (Nat.ne_zero_of_lt hd)
    rfl
  | .arr (j :: js), hs, hd, hf => by
    obtain ⟨fuel, rfl⟩ := Nat.exists_eq_add_one_of_ne_zero (Nat.ne_zero_of_lt hf)
    obtain ⟨d, rfl⟩ := Nat.exists_eq_add_one_of_ne_zero (Nat.ne_zero_of_lt hd)
    rw [isStorable] at hs
    rw [writeAt] at hf
    simp only [List.length_append, List.length_cons, lineBreak] at hf
    have hitems := readItems_writeItems (level + 1) level fuel rest j js hs
      (Nat.le_of_succ_le_succ hd) (by omega)
    have hj : j.isStorable = true := by
      rw [areStorable, Bool.and_eq_true] at hs
      exact hs.1
    obtain ⟨c, cs, hhead, -, hend⟩ := exists_writeAt (level + 1) hj
    rw [writeAt_arr_append]
    refine readValue_arr.mpr ⟨d, rfl, .inr ?_⟩
    rw [skipBlanks_lineBreak, skipBlanks_writeAt hj]
    refine ⟨?_, j :: js, hitems, rfl⟩
    rw [hhead]
    exact fun _ heq => hend (List.cons.inj heq).1
  | .obj [], _, hd, hf => by
    obtain ⟨fuel, rfl⟩ := Nat.exists_eq_add_one_of_ne_zero (Nat.ne_zero_of_lt hf)
    obtain ⟨d, rfl⟩ := Nat.exists_eq_add_one_of_ne_zero (Nat.ne_zero_of_lt hd)
    rfl
  | .obj ((key, j) :: ms), hs, hd, hf => by
    obtain ⟨fuel, rfl⟩ := Nat.exists_eq_add_one_of_ne_zero (Nat.ne_zero_of_lt hf)
    obtain ⟨d, rfl⟩ := Nat.exists_eq_add_one_of_ne_zero (Nat.ne_zero_of_lt hd)
    rw [isStorable, Bool.and_eq_true, decide_eq_true_eq] at hs
    rw [writeAt] at hf
    simp only [List.length_append, List.length_cons, lineBreak] at hf
    have hmembers := readMembers_writeMembers (level + 1) level fuel rest key j ms [] hs.1 hs.2
      (Nat.le_of_succ_le_succ hd) (by omega)
    rw [writeAt_obj_append]
    refine readValue_obj.mpr ⟨d, rfl, .inr ?_⟩
    rw [skipBlanks_lineBreak, skipBlanks_writeString]
    refine ⟨?_, (key, j) :: ms, hmembers, rfl⟩
    rintro xs ⟨⟩
termination_by fuel

/-- The items of a list are read back. -/
theorem readItems_writeItems (level outer : Nat) {d : Nat} (fuel : Nat) (rest : List Char) :
    (j : Json) → (js : List Json) → areStorable (j :: js) = true → nestingItems (j :: js) ≤ d →
    (writeAt level j).length + (writeItems level js).length + 1 < fuel →
    readItems d fuel
        (writeAt level j ++ (writeItems level js ++ (lineBreak outer ++ ']' :: rest))) =
      .ok (j :: js, rest)
  | j, [], hs, hd, hf => by
    obtain ⟨fuel, rfl⟩ := Nat.exists_eq_add_one_of_ne_zero (Nat.ne_zero_of_lt hf)
    rw [areStorable, Bool.and_eq_true] at hs
    rw [nestingItems] at hd
    have hj := readValue_writeAt level fuel (delimited_writeItems level outer [] (']' :: rest)) j
      hs.1 (Nat.le_trans (Nat.le_max_left _ _) hd) (by omega)
    refine readItems_succ.mpr ⟨j, _, hj, .inl ⟨?_, rfl⟩⟩
    rw [writeItems, List.nil_append, skipBlanks_lineBreak]
    exact skipBlanks_cons (by decide)
  | j, k :: ks, hs, hd, hf => by
    obtain ⟨fuel, rfl⟩ := Nat.exists_eq_add_one_of_ne_zero (Nat.ne_zero_of_lt hf)
    rw [areStorable, Bool.and_eq_true] at hs
    rw [nestingItems] at hd
    have hj := readValue_writeAt level fuel
      (delimited_writeItems level outer (k :: ks) (']' :: rest)) j hs.1
      (Nat.le_trans (Nat.le_max_left _ _) hd) (by omega)
    rw [writeItems] at hf
    simp only [List.length_append, List.length_cons, lineBreak] at hf
    have hks := readItems_writeItems level outer fuel rest k ks hs.2
      (Nat.le_trans (Nat.le_max_right _ _) hd) (by omega)
    have hk : k.isStorable = true := by
      rw [areStorable, Bool.and_eq_true] at hs
      exact hs.2.1
    rw [writeItems_cons_append] at hj ⊢
    refine readItems_succ.mpr ⟨j, _, hj, .inr ⟨_, k :: ks, skipBlanks_cons (by decide), ?_, rfl⟩⟩
    rw [skipBlanks_lineBreak, skipBlanks_writeAt hk]
    exact hks
termination_by fuel

/-- The members of an object are read back. -/
theorem readMembers_writeMembers (level outer : Nat) {d : Nat} (fuel : Nat) (rest : List Char) :
    (key : String) → (j : Json) → (ms members : List (String × Json)) →
    ((members ++ (key, j) :: ms).map (·.1)).Nodup → membersStorable ((key, j) :: ms) = true →
    nestingMembers ((key, j) :: ms) ≤ d →
    (writeAt level j).length + (writeMembers level ms).length + 1 < fuel →
    readMembers d fuel members (writeString key ++ ':' :: ' ' ::
        (writeAt level j ++ (writeMembers level ms ++ (lineBreak outer ++ '}' :: rest)))) =
      .ok (members ++ (key, j) :: ms, rest)
  | key, j, [], members, hkeys, hs, hd, hf => by
    obtain ⟨fuel, rfl⟩ := Nat.exists_eq_add_one_of_ne_zero (Nat.ne_zero_of_lt hf)
    rw [membersStorable, Bool.and_eq_true, Bool.and_eq_true] at hs
    rw [nestingMembers] at hd
    have hj := readValue_writeAt level fuel (delimited_writeMembers level outer [] ('}' :: rest)) j
      hs.1.2 (Nat.le_trans (Nat.le_max_left _ _) hd) (by omega)
    rw [← skipBlanks_writeAt hs.1.2] at hj
    rw [writeString_append]
    refine readMembers_succ.mpr ⟨key, _, _, j, _, readString_writeString key hs.1.1 _ _,
      skipBlanks_cons (by decide), hj, .inl ⟨?_, (setMember_of_nodup hkeys).symm⟩⟩
    rw [writeMembers, List.nil_append, skipBlanks_lineBreak]
    exact skipBlanks_cons (by decide)
  | key, j, (key', k) :: ms, members, hkeys, hs, hd, hf => by
    obtain ⟨fuel, rfl⟩ := Nat.exists_eq_add_one_of_ne_zero (Nat.ne_zero_of_lt hf)
    rw [membersStorable, Bool.and_eq_true, Bool.and_eq_true] at hs
    rw [nestingMembers] at hd
    have hj := readValue_writeAt level fuel
      (delimited_writeMembers level outer ((key', k) :: ms) ('}' :: rest)) j hs.1.2
      (Nat.le_trans (Nat.le_max_left _ _) hd) (by omega)
    rw [writeMembers] at hf
    simp only [List.length_append, List.length_cons, lineBreak] at hf
    have hks := readMembers_writeMembers level outer fuel rest key' k ms (members ++ [(key, j)])
      (by simpa using hkeys) hs.2 (Nat.le_trans (Nat.le_max_right _ _) hd) (by omega)
    rw [writeMembers_cons_append, ← skipBlanks_writeAt hs.1.2] at hj
    rw [writeString_append, writeMembers_cons_append]
    refine readMembers_succ.mpr ⟨key, _, _, j, _, readString_writeString key hs.1.1 _ _,
      skipBlanks_cons (by decide), hj, .inr ⟨_, skipBlanks_cons (by decide), ?_⟩⟩
    rw [setMember_of_nodup hkeys, skipBlanks_lineBreak, skipBlanks_writeString, hks,
      List.append_assoc, List.singleton_append]
termination_by fuel

end

/-! ## Characters of documents -/

theorem all_isPlain_lineBreak (level : Nat) : (lineBreak level).all isPlain = true := by
  rw [lineBreak, List.all_cons, List.all_eq_true.mpr]
  · decide
  · intro c hc
    rw [List.eq_of_mem_replicate hc]
    decide

mutual

/-- What is written for a value is plain. -/
theorem all_isPlain_writeAt (level : Nat) :
    (j : Json) → j.isStorable = true → (writeAt level j).all isPlain = true
  | .null, _ => by rw [writeAt]; decide
  | .bool true, _ => by rw [writeAt]; decide
  | .bool false, _ => by rw [writeAt]; decide
  | .int n, _ => all_isPlain_ofInt n
  | .float _, hs => by cases hs
  | .str s, _ => all_isPlain_writeString s
  | .arr [], _ => by rw [writeAt]; decide
  | .arr (j :: js), hs => by
    rw [isStorable, areStorable, Bool.and_eq_true] at hs
    rw [writeAt]
    simp only [List.all_append, List.all_cons, List.all_nil, all_isPlain_lineBreak,
      all_isPlain_writeAt (level + 1) j hs.1, all_isPlain_writeItems (level + 1) js hs.2,
      Bool.and_true]
    decide
  | .obj [], _ => by rw [writeAt]; decide
  | .obj ((key, j) :: ms), hs => by
    rw [isStorable, membersStorable, Bool.and_eq_true, Bool.and_eq_true, Bool.and_eq_true] at hs
    rw [writeAt]
    simp only [List.all_append, List.all_cons, List.all_nil, all_isPlain_lineBreak,
      all_isPlain_writeString, all_isPlain_writeAt (level + 1) j hs.2.1.2,
      all_isPlain_writeMembers (level + 1) ms hs.2.2, Bool.and_true]
    decide

theorem all_isPlain_writeItems (level : Nat) :
    (js : List Json) → areStorable js = true → (writeItems level js).all isPlain = true
  | [], _ => by rw [writeItems]; rfl
  | j :: js, hs => by
    rw [areStorable, Bool.and_eq_true] at hs
    rw [writeItems]
    simp only [List.all_append, List.all_cons, all_isPlain_lineBreak,
      all_isPlain_writeAt level j hs.1, all_isPlain_writeItems level js hs.2, Bool.and_true]
    decide

theorem all_isPlain_writeMembers (level : Nat) :
    (ms : List (String × Json)) → membersStorable ms = true →
    (writeMembers level ms).all isPlain = true
  | [], _ => by rw [writeMembers]; rfl
  | (key, j) :: ms, hs => by
    rw [membersStorable, Bool.and_eq_true, Bool.and_eq_true] at hs
    rw [writeMembers]
    simp only [List.all_append, List.all_cons, all_isPlain_lineBreak, all_isPlain_writeString,
      all_isPlain_writeAt level j hs.1.2, all_isPlain_writeMembers level ms hs.2, Bool.and_true]
    decide

end

/-! ## The depth that reading takes -/

/-- A value that starts with none of the marks of a string, a list and an object has no parts. -/
theorem nesting_of_readScalar {cs rest : List Char} {j : Json} (h : readScalar cs = .ok (j, rest)) :
    j.nesting = 0 := by
  have hnumber (t : NumberText) : t.value.nesting = 0 := by
    rw [NumberText.value]
    split <;> rfl
  have hwords : ∀ w ∈ words, w.2.nesting = 0 := by simp [words, nesting]
  unfold readScalar at h
  split at h
  · rename_i w k hfind
    cases h
    exact hwords _ (List.mem_of_find?_eq_some hfind)
  · unfold readNumber at h
    split at h
    split at h
    · cases h
    · simp only at h
      split at h
      · cases h
      · cases h
        exact hnumber _

mutual

/-- A value that was read is nested no deeper than was allowed, and would have been read just the same
with more depth. -/
theorem readValue_depth {d d' : Nat} (hd : d ≤ d') {j : Json} {rest : List Char} :
    (fuel : Nat) → (cs : List Char) → readValue d fuel cs = .ok (j, rest) →
    j.nesting ≤ d ∧ readValue d' fuel cs = .ok (j, rest)
  | 0, cs, h => by cases h
  | fuel + 1, cs, h => by
    have hscalar : readScalar cs = .ok (j, rest) → j.nesting ≤ d := fun hj =>
      (nesting_of_readScalar hj).symm ▸ Nat.zero_le d
    cases cs with
    | nil => exact ⟨hscalar h, h⟩
    | cons c cs =>
      by_cases hmark : c ∉ ['"', '[', '{']
      · rw [readValue_scalar hmark] at h ⊢
        exact ⟨hscalar h, h⟩
      simp only [List.mem_cons, List.not_mem_nil, or_false, not_not] at hmark
      rcases hmark with rfl | rfl | rfl
      · have heq : readValue d' (fuel + 1) ('"' :: cs) = readValue d (fuel + 1) ('"' :: cs) := by
          rw [readValue, readValue]
        refine ⟨?_, heq.trans h⟩
        rw [readValue] at h
        cases hread : readString ('"' :: cs) 0 [] cs with
        | error e =>
          rw [hread] at h
          cases h
        | ok r =>
          rw [hread] at h
          cases h
          exact Nat.zero_le d
      · obtain ⟨d₁, rfl, hcases⟩ := readValue_arr.mp h
        obtain ⟨d₂, rfl⟩ := Nat.exists_eq_add_one_of_ne_zero (Nat.ne_zero_of_lt hd)
        rcases hcases with ⟨hend, rfl⟩ | ⟨hopen, items, hitems, rfl⟩
        · exact ⟨by simp [nesting, nestingItems], readValue_arr.mpr ⟨d₂, rfl, .inl ⟨hend, rfl⟩⟩⟩
        · have ⟨hn, hitems'⟩ := readItems_depth (Nat.le_of_succ_le_succ hd) fuel _ hitems
          exact ⟨Nat.succ_le_succ hn,
            readValue_arr.mpr ⟨d₂, rfl, .inr ⟨hopen, items, hitems', rfl⟩⟩⟩
      · obtain ⟨d₁, rfl, hcases⟩ := readValue_obj.mp h
        obtain ⟨d₂, rfl⟩ := Nat.exists_eq_add_one_of_ne_zero (Nat.ne_zero_of_lt hd)
        rcases hcases with ⟨hend, rfl⟩ | ⟨hopen, members, hmembers, rfl⟩
        · exact ⟨by simp [nesting, nestingMembers], readValue_obj.mpr ⟨d₂, rfl, .inl ⟨hend, rfl⟩⟩⟩
        · have ⟨hn, hmembers'⟩ := readMembers_depth (Nat.le_of_succ_le_succ hd) fuel [] _
            (Nat.zero_le d₁) hmembers
          exact ⟨Nat.succ_le_succ hn,
            readValue_obj.mpr ⟨d₂, rfl, .inr ⟨hopen, members, hmembers', rfl⟩⟩⟩

theorem readItems_depth {d d' : Nat} (hd : d ≤ d') {items : List Json} {rest : List Char} :
    (fuel : Nat) → (cs : List Char) → readItems d fuel cs = .ok (items, rest) →
    nestingItems items ≤ d ∧ readItems d' fuel cs = .ok (items, rest)
  | 0, cs, h => by cases h
  | fuel + 1, cs, h => by
    obtain ⟨j, after, hj, ⟨hend, rfl⟩ | ⟨more, js, hcomma, hmore, rfl⟩⟩ := readItems_succ.mp h
    · have ⟨hn, hj'⟩ := readValue_depth hd fuel cs hj
      exact ⟨by simpa [nestingItems] using hn, readItems_succ.mpr ⟨j, after, hj', .inl ⟨hend, rfl⟩⟩⟩
    · have ⟨hn, hj'⟩ := readValue_depth hd fuel cs hj
      have ⟨hns, hmore'⟩ := readItems_depth hd fuel (skipBlanks more) hmore
      exact ⟨Nat.max_le.mpr ⟨hn, hns⟩,
        readItems_succ.mpr ⟨j, after, hj', .inr ⟨more, js, hcomma, hmore', rfl⟩⟩⟩

theorem readMembers_depth {d d' : Nat} (hd : d ≤ d') {all : List (String × Json)}
    {rest : List Char} :
    (fuel : Nat) → (members : List (String × Json)) → (cs : List Char) →
    nestingMembers members ≤ d → readMembers d fuel members cs = .ok (all, rest) →
    nestingMembers all ≤ d ∧ readMembers d' fuel members cs = .ok (all, rest)
  | 0, members, cs, _, h => by cases h
  | fuel + 1, members, cs, hmembers, h => by
    obtain ⟨xs, rfl⟩ : ∃ xs, cs = '"' :: xs := by
      rw [readMembers.eq_def] at h
      simp only at h
      split at h
      · exact ⟨_, rfl⟩
      · cases h
    obtain ⟨key, before, more, j, after, hkey, hcolon, hj, hcases⟩ := readMembers_succ.mp h
    have ⟨hn, hj'⟩ := readValue_depth hd fuel _ hj
    have hset : nestingMembers (setMember members key j) ≤ d :=
      Nat.le_trans (nestingMembers_setMember members key j) (Nat.max_le.mpr ⟨hmembers, hn⟩)
    rcases hcases with ⟨hend, rfl⟩ | ⟨next, hcomma, hnext⟩
    · exact ⟨hset, readMembers_succ.mpr
        ⟨key, before, more, j, after, hkey, hcolon, hj', .inl ⟨hend, rfl⟩⟩⟩
    · have ⟨hall, hnext'⟩ := readMembers_depth hd fuel _ _ hset hnext
      exact ⟨hall, readMembers_succ.mpr
        ⟨key, before, more, j, after, hkey, hcolon, hj', .inr ⟨next, hcomma, hnext'⟩⟩⟩

end

/-! ## Too little depth -/

/-- A text that would be read with more depth is read just the same, or it is nested too deep. -/
def Limited {α : Type} (allowed less : Except Stuck α) : Prop :=
  ∀ a, allowed = .ok a → less = .ok a ∨ ∃ stuck, less = .error stuck ∧ stuck.fault.kind = .tooDeep

section Limited

variable {d d' fuel : Nat} {cs : List Char}

theorem limited_arr (hd : d ≤ d') (hitems : ∀ d₁ d₂, d₁ ≤ d₂ →
    Limited (readItems d₂ fuel (skipBlanks cs)) (readItems d₁ fuel (skipBlanks cs))) :
    Limited (readValue d' (fuel + 1) ('[' :: cs)) (readValue d (fuel + 1) ('[' :: cs)) := by
  rintro ⟨j, rest⟩ h
  obtain ⟨d₂, rfl, hcases⟩ := readValue_arr.mp h
  cases d with
  | zero => exact .inr ⟨⟨.tooDeep .list, '[' :: cs⟩, by rw [readValue, if_pos rfl], rfl⟩
  | succ d₁ =>
    rcases hcases with ⟨hend, rfl⟩ | ⟨hopen, items, hread, rfl⟩
    · exact .inl (readValue_arr.mpr ⟨d₁, rfl, .inl ⟨hend, rfl⟩⟩)
    · rcases hitems d₁ d₂ (Nat.le_of_succ_le_succ hd) _ hread with hread | ⟨stuck, hstuck, hkind⟩
      · exact .inl (readValue_arr.mpr ⟨d₁, rfl, .inr ⟨hopen, items, hread, rfl⟩⟩)
      · refine .inr ⟨stuck, ?_, hkind⟩
        rw [readValue, if_neg (Nat.succ_ne_zero d₁), Nat.add_sub_cancel]
        split
        · rename_i hend
          exact absurd hend (hopen _)
        · rw [hstuck]
          rfl

theorem limited_obj (hd : d ≤ d') (hmembers : ∀ d₁ d₂, d₁ ≤ d₂ →
    Limited (readMembers d₂ fuel [] (skipBlanks cs)) (readMembers d₁ fuel [] (skipBlanks cs))) :
    Limited (readValue d' (fuel + 1) ('{' :: cs)) (readValue d (fuel + 1) ('{' :: cs)) := by
  rintro ⟨j, rest⟩ h
  obtain ⟨d₂, rfl, hcases⟩ := readValue_obj.mp h
  cases d with
  | zero => exact .inr ⟨⟨.tooDeep .object, '{' :: cs⟩, by rw [readValue, if_pos rfl], rfl⟩
  | succ d₁ =>
    rcases hcases with ⟨hend, rfl⟩ | ⟨hopen, members, hread, rfl⟩
    · exact .inl (readValue_obj.mpr ⟨d₁, rfl, .inl ⟨hend, rfl⟩⟩)
    · rcases hmembers d₁ d₂ (Nat.le_of_succ_le_succ hd) _ hread with hread | ⟨stuck, hstuck, hkind⟩
      · exact .inl (readValue_obj.mpr ⟨d₁, rfl, .inr ⟨hopen, members, hread, rfl⟩⟩)
      · refine .inr ⟨stuck, ?_, hkind⟩
        rw [readValue, if_neg (Nat.succ_ne_zero d₁), Nat.add_sub_cancel]
        split
        · rename_i hend
          exact absurd hend (hopen _)
        · rw [hstuck]
          rfl

theorem limited_items (hvalue : ∀ cs, Limited (readValue d' fuel cs) (readValue d fuel cs))
    (hitems : ∀ cs, Limited (readItems d' fuel cs) (readItems d fuel cs)) :
    Limited (readItems d' (fuel + 1) cs) (readItems d (fuel + 1) cs) := by
  rintro ⟨items, rest⟩ h
  obtain ⟨j, after, hj, hcases⟩ := readItems_succ.mp h
  rcases hvalue cs _ hj with hj | ⟨stuck, hstuck, hkind⟩
  · rcases hcases with ⟨hend, rfl⟩ | ⟨more, js, hcomma, hmore, rfl⟩
    · exact .inl (readItems_succ.mpr ⟨j, after, hj, .inl ⟨hend, rfl⟩⟩)
    · rcases hitems _ _ hmore with hmore | ⟨stuck, hstuck, hkind⟩
      · exact .inl (readItems_succ.mpr ⟨j, after, hj, .inr ⟨more, js, hcomma, hmore, rfl⟩⟩)
      · refine .inr ⟨stuck, ?_, hkind⟩
        rw [readItems, hj]
        simp only [bind, Except.bind, hcomma, hstuck]
  · refine .inr ⟨stuck, ?_, hkind⟩
    rw [readItems, hstuck]
    rfl

theorem limited_members (hvalue : ∀ cs, Limited (readValue d' fuel cs) (readValue d fuel cs))
    (hmembers : ∀ members cs, Limited (readMembers d' fuel members cs) (readMembers d fuel members cs))
    (members : List (String × Json)) :
    Limited (readMembers d' (fuel + 1) members cs) (readMembers d (fuel + 1) members cs) := by
  rintro ⟨all, rest⟩ h
  obtain ⟨xs, rfl⟩ : ∃ xs, cs = '"' :: xs := by
    rw [readMembers.eq_def] at h
    simp only at h
    split at h
    · exact ⟨_, rfl⟩
    · cases h
  obtain ⟨key, before, more, j, after, hkey, hcolon, hj, hcases⟩ := readMembers_succ.mp h
  rcases hvalue _ _ hj with hj | ⟨stuck, hstuck, hkind⟩
  · rcases hcases with ⟨hend, rfl⟩ | ⟨next, hcomma, hnext⟩
    · exact .inl (readMembers_succ.mpr ⟨key, before, more, j, after, hkey, hcolon, hj, .inl ⟨hend, rfl⟩⟩)
    · rcases hmembers _ _ _ hnext with hnext | ⟨stuck, hstuck, hkind⟩
      · exact .inl (readMembers_succ.mpr
          ⟨key, before, more, j, after, hkey, hcolon, hj, .inr ⟨next, hcomma, hnext⟩⟩)
      · refine .inr ⟨stuck, ?_, hkind⟩
        rw [readMembers, hkey]
        simp only [bind, Except.bind, hcolon, hj, hcomma, hstuck]
  · refine .inr ⟨stuck, ?_, hkind⟩
    rw [readMembers, hkey]
    simp only [bind, Except.bind, hcolon, hstuck]

/-- With less depth nothing else is read. -/
theorem readValue_limited (hd : d ≤ d') (fuel : Nat) :
    (∀ cs, Limited (readValue d' fuel cs) (readValue d fuel cs)) ∧
      (∀ cs, Limited (readItems d' fuel cs) (readItems d fuel cs)) ∧
      ∀ members cs, Limited (readMembers d' fuel members cs) (readMembers d fuel members cs) := by
  induction fuel generalizing d d' with
  | zero =>
    have hnothing {α : Type} {stuck : Stuck} {less : Except Stuck α} : Limited (.error stuck) less :=
      fun _ h => nomatch h
    exact ⟨fun _ => hnothing, fun _ => hnothing, fun _ _ => hnothing⟩
  | succ fuel ih =>
    obtain ⟨hvalue, hitems, hmembers⟩ := ih hd
    refine ⟨fun cs => ?_, fun cs => limited_items hvalue hitems,
      fun members cs => limited_members hvalue hmembers members⟩
    have hsame (heq : readValue d' (fuel + 1) cs = readValue d (fuel + 1) cs) :
        Limited (readValue d' (fuel + 1) cs) (readValue d (fuel + 1) cs) :=
      fun _ h => .inl (heq.symm.trans h)
    cases cs with
    | nil => exact hsame rfl
    | cons c cs =>
      by_cases hmark : c ∉ ['"', '[', '{']
      · exact hsame (by rw [readValue_scalar hmark, readValue_scalar hmark])
      simp only [List.mem_cons, List.not_mem_nil, or_false, not_not] at hmark
      rcases hmark with rfl | rfl | rfl
      · exact hsame (by rw [readValue, readValue])
      · exact limited_arr hd fun _ _ hle => (ih hle).2.1 _
      · exact limited_obj hd fun _ _ hle => (ih hle).2.2 _ _

end Limited

/-! ## Documents -/

theorem readDocument_eq_ok {d : Nat} {text : List Char} {j : Json} :
    readDocument d text = .ok j ↔ text.head?.any (·.toNat == 0xFEFF) = false ∧
      ∃ rest, readValue d (text.length + 1) (skipBlanks text) = .ok (j, rest) ∧
        skipBlanks rest = [] := by
  rw [readDocument]
  split
  · rename_i hmark
    simp [hmark]
  · rename_i hmark
    rw [Bool.not_eq_true] at hmark
    cases hvalue : readValue d (text.length + 1) (skipBlanks text) with
    | error e => simp [bind, Except.bind]
    | ok r =>
      obtain ⟨k, rest⟩ := r
      simp only [bind, Except.bind]
      split
      · rename_i hend
        simp [hmark, hend]
      · rename_i hend
        have hend : skipBlanks rest ≠ [] := hend
        simp [hend]

theorem read_eq_ok {s : String} {room : Nat} {j : Json} :
    read room s = .ok j ↔ readDocument (room - 4) s.toList = .ok j := by
  rw [read]
  cases readDocument (room - 4) s.toList <;> simp [Except.mapError]

/-- A value is read from its document if the reader allows its depth. -/
theorem readDocument_writeAt {j : Json} (hs : j.isStorable = true) {d : Nat} (hd : j.nesting ≤ d) :
    readDocument d (writeAt 0 j ++ ['\n']) = .ok j := by
  obtain ⟨c, cs, heq, hvisible, -⟩ := exists_writeAt 0 hs
  refine readDocument_eq_ok.mpr ⟨?_, ['\n'], ?_, rfl⟩
  · have hmark : c.toNat ≠ 0xFEFF := by omega
    simp [heq, hmark]
  · rw [skipBlanks_writeAt hs]
    refine readValue_writeAt 0 _ ?_ j hs hd (by rw [List.length_append]; omega)
    rintro c ⟨⟩
    exact .inr rfl

theorem toList_render (j : Json) : (j.render ++ "\n").toList = writeAt 0 j ++ ['\n'] := by
  simp [render]

/-- What is read from the document of a value is that value, and it is read exactly if enough calls are
left for its depth. -/
theorem read_render {j : Json} (hs : j.isStorable = true) {room : Nat} {k : Json} :
    read room (j.render ++ "\n") = .ok k ↔ k = j ∧ j.nesting ≤ room - 4 := by
  rw [read_eq_ok, toList_render]
  constructor
  · intro h
    obtain ⟨hmark, rest, hvalue, hrest⟩ := readDocument_eq_ok.mp h
    have ⟨hn, hdeeper⟩ := readValue_depth (Nat.le_max_left (room - 4) j.nesting) _ _ hvalue
    -- With enough depth for both, the reader gives the value that was written.
    have hboth := readDocument_eq_ok.mpr ⟨hmark, rest, hdeeper, hrest⟩
    rw [readDocument_writeAt hs (Nat.le_max_right (room - 4) j.nesting)] at hboth
    cases hboth
    exact ⟨rfl, hn⟩
  · rintro ⟨rfl, hd⟩
    exact readDocument_writeAt hs hd

/-- A document that is nested too deep for the calls that are left is not read, and that is why. -/
theorem read_render_deep {j : Json} (hs : j.isStorable = true) {room : Nat} (hd : room - 4 < j.nesting) :
    ∃ e, read room (j.render ++ "\n") = .error e ∧ e.fault.kind = .tooDeep := by
  obtain ⟨hmark, rest, hvalue, hrest⟩ := readDocument_eq_ok.mp (readDocument_writeAt hs (Nat.le_refl _))
  have hlimited := (readValue_limited (Nat.le_of_lt hd) ((writeAt 0 j ++ ['\n']).length + 1)).1 _ _ hvalue
  rcases hlimited with hread | ⟨stuck, hstuck, hkind⟩
  · have hok : read room (j.render ++ "\n") = .ok j := read_eq_ok.mpr <| by
      rw [toList_render]
      exact readDocument_eq_ok.mpr ⟨hmark, rest, hread, hrest⟩
    exact absurd ((read_render hs).mp hok).2 (Nat.not_le.mpr hd)
  · refine ⟨locate (writeAt 0 j ++ ['\n']) stuck, ?_, hkind⟩
    rw [read, toList_render, readDocument, hmark, if_neg Bool.false_ne_true, hstuck]
    rfl

end JsxTagger.Json
