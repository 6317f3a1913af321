import Mathlib.Data.List.TakeDrop
import JsxTagger.Json.Printer
import JsxTagger.Json.Reader

/-!
# Strings and integers that are read back

What is written for a string or an integer is read back as it was. A string loses nothing as long as
no high half of a surrogate pair stands right in front of a low half (`Text.isUnpaired`): the two would
be read as one character. An integer is read if it has not too many digits.
-/

namespace JsxTagger

/-! ## Digits -/

namespace Decimal

theorem toNat_digitChar {d : Nat} (h : d < 10) : (digitChar d).toNat = 0x30 + d := by
  revert d
  decide

theorem isDigit_digitChar {d : Nat} (h : d < 10) : isDigit (digitChar d) = true := by
  revert d
  decide

theorem toNat_of_isDigit {c : Char} (h : isDigit c = true) : 0x30 ≤ c.toNat ∧ c.toNat ≤ 0x39 := by
  rw [isDigit, Bool.and_eq_true, decide_eq_true_eq, decide_eq_true_eq] at h
  exact h

theorem digitValue_digitChar {d : Nat} (h : d < 10) : digitValue (digitChar d) = d := by
  rw [digitValue, toNat_digitChar h, Nat.add_sub_cancel_left]

theorem hexValue?_digitChar {d : Nat} (h : d < 16) : hexValue? (digitChar d) = some d := by
  revert d
  decide

theorem digits_ne_nil (n : Nat) : digits n ≠ [] := by
  rw [digits]
  split <;> simp

theorem all_isDigit_digits (n : Nat) : (digits n).all isDigit = true := by
  induction n using Nat.strongRecOn with
  | ind n ih =>
    rw [digits]
    split
    · rename_i hlt
      simp [isDigit_digitChar hlt]
    · rename_i hge
      rw [List.all_append, ih (n / 10) (by omega)]
      simp [isDigit_digitChar (Nat.mod_lt n (by decide))]

theorem exists_digits (n : Nat) : ∃ c cs, digits n = c :: cs ∧ isDigit c = true := by
  have hall := all_isDigit_digits n
  cases hdigits : digits n with
  | nil => exact absurd hdigits (digits_ne_nil n)
  | cons c cs =>
    rw [hdigits, List.all_cons, Bool.and_eq_true] at hall
    exact ⟨c, cs, rfl, hall.1⟩

/-- An integer starts with a digit or a minus sign. -/
theorem exists_ofInt (n : Int) : ∃ c cs, ofInt n = c :: cs ∧ (c = '-' ∨ isDigit c = true) := by
  cases n with
  | ofNat k =>
    obtain ⟨c, cs, heq, hc⟩ := exists_digits k
    exact ⟨c, cs, heq, .inr hc⟩
  | negSucc k => exact ⟨'-', _, rfl, .inl rfl⟩

theorem ofDigits_append (cs ds : List Char) :
    ofDigits (cs ++ ds) = ds.foldl (fun n c => 10 * n + digitValue c) (ofDigits cs) := by
  rw [ofDigits, List.foldl_append]
  rfl

/-- The digits of a number stand for that number. -/
theorem ofDigits_digits (n : Nat) : ofDigits (digits n) = n := by
  induction n using Nat.strongRecOn with
  | ind n ih =>
    rw [digits]
    split
    · rename_i hlt
      show 10 * 0 + digitValue (digitChar n) = n
      rw [digitValue_digitChar hlt]
      omega
    · rename_i hge
      rw [ofDigits_append, ih (n / 10) (by omega)]
      show 10 * (n / 10) + digitValue (digitChar (n % 10)) = n
      rw [digitValue_digitChar (Nat.mod_lt n (by decide))]
      omega

/-- Only the digits of zero start with a zero. -/
theorem head?_digits (n : Nat) (h : (digits n).head? = some '0') : n = 0 := by
  induction n using Nat.strongRecOn with
  | ind n ih =>
    rw [digits] at h
    split at h
    · rename_i hlt
      have hcode := congrArg Char.toNat (Option.some.inj h)
      rw [toNat_digitChar hlt] at hcode
      exact Nat.add_left_cancel hcode
    · rename_i hge
      have hfront : (digits (n / 10)).head? = some '0' := by
        cases hdigits : digits (n / 10) with
        | nil => exact absurd hdigits (digits_ne_nil _)
        | cons c cs =>
          rw [hdigits] at h
          exact h
      have hzero := ih (n / 10) (by omega) hfront
      omega

theorem hexDigits_four (n : Nat) :
    hexDigits 4 n = [digitChar (n / 16 / 16 / 16 % 16), digitChar (n / 16 / 16 % 16),
      digitChar (n / 16 % 16), digitChar (n % 16)] := rfl

/-- The four hexadecimal digits of a number below 65536 stand for that number. -/
theorem ofHexDigits?_hexDigits {n : Nat} (h : n < 0x10000) :
    ofHexDigits? (hexDigits 4 n) = some n := by
  have hvalue (k : Nat) : hexValue? (digitChar (k % 16)) = some (k % 16) :=
    hexValue?_digitChar (Nat.mod_lt k (by decide))
  rw [hexDigits_four, ofHexDigits?]
  simp only [List.foldlM_cons, List.foldlM_nil, hvalue, Option.map_some, Option.bind_eq_bind,
    Option.bind_some, Option.pure_def, Option.some.injEq]
  omega

end Decimal

/-! ## Halves -/

namespace Text

/-- Whether a code is that of the first half of a pair. -/
def isHighHalf (n : Nat) : Bool := 0xD800 ≤ n && n ≤ 0xDBFF

/-- Whether a code is that of the second half of a pair. -/
def isLowHalf (n : Nat) : Bool := 0xDC00 ≤ n && n ≤ 0xDFFF

/-- Whether no first half of a pair stands right in front of a second half. -/
def isUnpaired : List Char → Bool
  | [] => true
  | c :: cs => !(isHighHalf (code c) && cs.head?.any fun d => isLowHalf (code d)) && isUnpaired cs

/-- A code beyond the halves is that of the character itself. -/
theorem code_eq_toNat {c : Char} (h : 0x10000 ≤ code c) : code c = c.toNat := by
  rw [code] at h ⊢
  split
  · rename_i hstand
    rw [if_pos hstand, firstHalf, firstStandIn] at h
    rw [Bool.and_eq_true, decide_eq_true_eq, decide_eq_true_eq, firstStandIn, halves] at hstand
    omega
  · rfl

/-- A character is known by its code. -/
theorem charOfCode_code (c : Char) : charOfCode (code c) = c := by
  rw [code]
  split
  · rename_i hstand
    rw [Bool.and_eq_true, decide_eq_true_eq, decide_eq_true_eq] at hstand
    have hhalf : isHalf (firstHalf + (c.toNat - firstStandIn)) = true := by
      rw [isHalf, Bool.and_eq_true, decide_eq_true_eq, decide_eq_true_eq]
      omega
    have hcode : firstStandIn + (firstHalf + (c.toNat - firstStandIn) - firstHalf) = c.toNat := by
      omega
    rw [charOfCode, if_pos hhalf, hcode, Char.ofNat_toNat]
  · have hvalid : c.toNat < 0xD800 ∨ 0xDFFF < c.toNat ∧ c.toNat < 0x110000 := c.valid
    have hhalf : isHalf c.toNat = false := by
      rw [isHalf, firstHalf, halves, Bool.and_eq_false_iff, decide_eq_false_iff_not,
        decide_eq_false_iff_not]
      omega
    rw [charOfCode, hhalf]
    exact Char.ofNat_toNat c

end Text

namespace Json

open Decimal
open Text (code charOfCode isHighHalf isLowHalf isUnpaired)

/-! ## Integers -/

/-- What follows a value in a document: nothing, or a comma or a line break. -/
def Delimited (rest : List Char) : Prop := ∀ c ∈ rest.head?, c = ',' ∨ c = '\n'

theorem Delimited.ne {rest : List Char} (h : Delimited rest) {d : Char} (hcomma : d ≠ ',')
    (hbreak : d ≠ '\n') (cs : List Char) : rest ≠ d :: cs := by
  rintro rfl
  rcases h d rfl with heq | heq
  · exact hcomma heq
  · exact hbreak heq

theorem span_isDigit {ds rest : List Char} (hds : ds.all isDigit = true) (hrest : Delimited rest) :
    (ds ++ rest).span isDigit = (ds, rest) := by
  have hpos : ∀ c ∈ ds, isDigit c = true := List.all_eq_true.mp hds
  have hstop : rest.takeWhile isDigit = [] ∧ rest.dropWhile isDigit = rest := by
    cases rest with
    | nil => exact ⟨rfl, rfl⟩
    | cons c cs =>
      have hno : isDigit c = false := by
        rcases hrest c rfl with rfl | rfl <;> rfl
      simp [hno]
  rw [List.span_eq_takeWhile_dropWhile, List.takeWhile_append_of_pos hpos,
    List.dropWhile_append_of_pos hpos, hstop.1, hstop.2, List.append_nil]

theorem readWhole_digits {n : Nat} {rest : List Char} (hrest : Delimited rest) :
    readWhole (digits n ++ rest) = some (digits n, rest) := by
  have hspan := span_isDigit (all_isDigit_digits n) hrest
  cases hdigits : digits n with
  | nil => exact absurd hdigits (digits_ne_nil n)
  | cons c cs =>
    rw [hdigits] at hspan
    by_cases hzero : c = '0'
    · have hn : n = 0 := head?_digits n (by rw [hdigits, hzero]; rfl)
      have hcs : cs = [] := by
        rw [hn] at hdigits
        have hshort : digits 0 = ['0'] := by rw [digits]; rfl
        rw [hshort] at hdigits
        exact (List.cons.inj hdigits).2.symm
      rw [hzero, hcs]
      rfl
    · rw [readWhole, hspan]
      intro rest' heq
      exact hzero (List.cons.inj heq).1

theorem readFraction_of_delimited {rest : List Char} (h : Delimited rest) :
    readFraction rest = ([], rest) := by
  rw [readFraction]
  exact fun cs heq => h.ne (by decide) (by decide) cs heq

theorem readExponent_of_delimited {rest : List Char} (h : Delimited rest) :
    readExponent rest = (none, rest) := by
  cases rest with
  | nil => rfl
  | cons c cs =>
    have hno : (c == 'e' || c == 'E') = false := by
      rw [Bool.or_eq_false_iff, beq_eq_false_iff_ne, beq_eq_false_iff_ne]
      refine ⟨?_, ?_⟩
      · rintro rfl
        exact h.ne (by decide) (by decide) cs rfl
      · rintro rfl
        exact h.ne (by decide) (by decide) cs rfl
    simp [readExponent, hno]

/-- The number of digits of an integer. -/
def digitCount (n : Int) : Nat := (digits n.natAbs).length

/-- An integer is read from its sign and its digits. -/
theorem readNumber_digits {k : Nat} {rest : List Char} (hsize : (digits k).length ≤ maxDigits)
    (hrest : Delimited rest) :
    readNumber (digits k ++ rest) = .ok (.int k, rest) ∧
      readNumber ('-' :: digits k ++ rest) = .ok (.int (-k), rest) := by
  have hmore : ¬ maxDigits < (digits k).length := Nat.not_lt.mpr hsize
  have hunsigned : ∀ cs, digits k ++ rest ≠ '-' :: cs := by
    intro cs heq
    obtain ⟨c, ds, hdigits, hc⟩ := exists_digits k
    rw [hdigits] at heq
    rw [(List.cons.inj heq).1] at hc
    cases hc
  have hinteger (negative : Bool) :
      (NumberText.mk negative (digits k) [] none).isInteger = true := rfl
  have hvalue (negative : Bool) : (NumberText.mk negative (digits k) [] none).value =
      .int (if negative then -(k : Int) else k) := by
    rw [NumberText.value, if_pos (hinteger negative)]
    simp only [ofDigits_digits]
  refine ⟨?_, ?_⟩
  · unfold readNumber
    split
    rename_i negative body hsign
    split at hsign
    · rename_i heq
      exact absurd heq (hunsigned _)
    · cases hsign
      simp only [readWhole_digits hrest, readFraction_of_delimited hrest,
        readExponent_of_delimited hrest, hinteger, hvalue, hmore, decide_false, Bool.and_false,
        Bool.false_eq_true, if_false]
  · rw [List.cons_append]
    unfold readNumber
    simp only [readWhole_digits hrest, readFraction_of_delimited hrest,
      readExponent_of_delimited hrest, hinteger, hvalue, hmore, decide_false, Bool.and_false,
      Bool.false_eq_true, if_false, if_true]

theorem readNumber_ofInt {n : Int} {rest : List Char} (hsize : digitCount n ≤ maxDigits)
    (hrest : Delimited rest) : readNumber (ofInt n ++ rest) = .ok (.int n, rest) := by
  cases n with
  | ofNat k => exact (readNumber_digits hsize hrest).1
  | negSucc k => exact (readNumber_digits hsize hrest).2

/-- An integer at the start of a text is no word. -/
theorem readScalar_ofInt {n : Int} {rest : List Char} (hsize : digitCount n ≤ maxDigits)
    (hrest : Delimited rest) : readScalar (ofInt n ++ rest) = .ok (.int n, rest) := by
  have hne {c d : Char} (hc : isDigit c = true) (hd : isDigit d = false) : (d == c) = false := by
    rw [beq_eq_false_iff_ne]
    rintro rfl
    rw [hc] at hd
    cases hd
  have hwords : words.find? (·.1.isPrefixOf (ofInt n ++ rest)) = none := by
    cases n with
    | ofNat k =>
      obtain ⟨c, cs, heq, hc⟩ := exists_digits k
      have hn (d : Char) (hd : isDigit d = false) : (d == c) = false := hne hc hd
      simp [words, ofInt, heq, List.isPrefixOf, hn 'n' rfl, hn 't' rfl, hn 'f' rfl, hn 'N' rfl,
        hn 'I' rfl, hn '-' rfl]
    | negSucc k =>
      obtain ⟨c, cs, heq, hc⟩ := exists_digits (k + 1)
      have hn : ('I' == c) = false := hne hc rfl
      simp [words, ofInt, heq, List.isPrefixOf, hn]
  rw [readScalar, hwords]
  exact readNumber_ofInt hsize hrest

/-! ## Strings -/

/-- Characters that were dealt with are passed over. -/
theorem readString_skip (opening taken xs rest : List Char) :
    readString opening xs.length taken (xs ++ rest) = readString opening 0 taken rest := by
  induction xs with
  | nil => rfl
  | cons c xs ih =>
    rw [List.length_cons, List.cons_append, readString]
    exact ih

theorem lowHalf?_escapeUnit {n : Nat} (h : n < 0x10000) {rest : List Char} (hrest : rest ≠ []) :
    lowHalf? (escapeUnit n ++ rest) = if isLowHalf n then some n else none := by
  obtain ⟨last, more, rfl⟩ := List.exists_cons_of_ne_nil hrest
  have hread := ofHexDigits?_hexDigits h
  rw [hexDigits_four] at hread
  rw [escapeUnit, hexDigits_four]
  simp only [List.cons_append, List.nil_append, lowHalf?, hread]
  rfl

/-- An escape is read as the character with its code, unless the first half of a pair is followed by
the second. -/
theorem readString_escapeUnit {n : Nat} (h : n < 0x10000) {opening taken rest : List Char}
    (hrest : rest ≠ []) (hlow : isHighHalf n = true → lowHalf? rest = none) :
    readString opening 0 taken (escapeUnit n ++ rest) =
      readString opening 0 (charOfCode n :: taken) rest := by
  obtain ⟨last, more, rfl⟩ := List.exists_cons_of_ne_nil hrest
  have hread := ofHexDigits?_hexDigits h
  have hskip := readString_skip opening (charOfCode n :: taken) ('u' :: hexDigits 4 n) (last :: more)
  rw [hexDigits_four] at hread hskip
  rw [escapeUnit, hexDigits_four]
  simp only [List.cons_append, List.nil_append] at hskip ⊢
  rw [readString]
  simp only [hread]
  by_cases hhigh : isHighHalf n = true
  · rw [hlow hhigh]
    simpa [isHighHalf] using hskip
  · have hno : (decide (0xD800 ≤ n) && decide (n ≤ 0xDBFF)) = false := Bool.not_eq_true _ ▸ hhigh
    rw [hno]
    simpa using hskip

/-- Two escapes that belong together are read as one character. -/
theorem readString_pair {n : Nat} (h : n < 0x100000) {opening taken rest : List Char}
    (hrest : rest ≠ []) :
    readString opening 0 taken
        (escapeUnit (0xD800 + n / 0x400) ++ escapeUnit (0xDC00 + n % 0x400) ++ rest) =
      readString opening 0 (charOfCode (0x10000 + n) :: taken) rest := by
  have hfirst := ofHexDigits?_hexDigits (show 0xD800 + n / 0x400 < 0x10000 by omega)
  have hlow : lowHalf? (escapeUnit (0xDC00 + n % 0x400) ++ rest) = some (0xDC00 + n % 0x400) := by
    rw [lowHalf?_escapeUnit (by omega) hrest, if_pos]
    rw [isLowHalf, Bool.and_eq_true, decide_eq_true_eq, decide_eq_true_eq]
    omega
  have hcode : 0x10000 + (0xD800 + n / 0x400 - 0xD800) * 0x400 + (0xDC00 + n % 0x400 - 0xDC00) =
      0x10000 + n := by omega
  have hhigh : (decide (0xD800 ≤ 0xD800 + n / 0x400) && decide (0xD800 + n / 0x400 ≤ 0xDBFF)) =
      true := by
    rw [Bool.and_eq_true, decide_eq_true_eq, decide_eq_true_eq]
    omega
  have hskip := readString_skip opening (charOfCode (0x10000 + n) :: taken)
    ('u' :: hexDigits 4 (0xD800 + n / 0x400) ++ escapeUnit (0xDC00 + n % 0x400)) rest
  have htail : ∃ last more, escapeUnit (0xDC00 + n % 0x400) ++ rest = last :: more := ⟨_, _, rfl⟩
  have hlength : (escapeUnit (0xDC00 + n % 0x400)).length = 6 := rfl
  obtain ⟨last, more, htail⟩ := htail
  rw [hexDigits_four] at hfirst hskip
  rw [List.append_assoc, List.length_append, hlength, htail] at hskip
  rw [htail] at hlow
  rw [List.append_assoc, htail, escapeUnit, hexDigits_four]
  simp only [List.cons_append, List.nil_append] at hskip ⊢
  rw [readString]
  simp only [hfirst, hlow, hhigh, hcode, if_true]
  exact hskip

/-- What is written for a character: an escape of one letter, the character itself, one escape of
its code, or two. -/
theorem writeChar_cases (c : Char) :
    (∃ e, writeChar c = ['\\', e] ∧ e ≠ 'u' ∧ simpleEscape? e = some c) ∨
    (writeChar c = [c] ∧ c ≠ '"' ∧ c ≠ '\\' ∧ 0x20 ≤ c.toNat ∧ c.toNat < 0x7F) ∨
    (writeChar c = escapeUnit (code c) ∧ code c < 0x10000) ∨
    ∃ n, writeChar c = escapeUnit (0xD800 + n / 0x400) ++ escapeUnit (0xDC00 + n % 0x400) ∧
      n < 0x100000 ∧ code c = 0x10000 + n := by
  have hletter {e d : Char} (heq : (c == d) = true) (hu : e ≠ 'u')
      (he : simpleEscape? e = some d) :
      ∃ x, ['\\', e] = ['\\', x] ∧ x ≠ 'u' ∧ simpleEscape? x = some c :=
    ⟨e, rfl, hu, by rw [he, eq_of_beq heq]⟩
  have hcoded {e : Char} {n : Nat} (heq : (c.toNat == n) = true) (hu : e ≠ 'u')
      (he : simpleEscape? e = some (Char.ofNat n)) :
      ∃ x, ['\\', e] = ['\\', x] ∧ x ≠ 'u' ∧ simpleEscape? x = some c :=
    ⟨e, rfl, hu, by rw [he, ← eq_of_beq heq, Char.ofNat_toNat]⟩
  rw [writeChar]
  by_cases hquote : (c == '"') = true
  · rw [if_pos hquote]
    exact .inl (hletter hquote (by decide) rfl)
  rw [if_neg hquote]
  by_cases hslash : (c == '\\') = true
  · rw [if_pos hslash]
    exact .inl (hletter hslash (by decide) rfl)
  rw [if_neg hslash]
  by_cases hnewline : (c == '\n') = true
  · rw [if_pos hnewline]
    exact .inl (hletter hnewline (by decide) rfl)
  rw [if_neg hnewline]
  by_cases hreturn : (c == '\r') = true
  · rw [if_pos hreturn]
    exact .inl (hletter hreturn (by decide) rfl)
  rw [if_neg hreturn]
  by_cases htab : (c == '\t') = true
  · rw [if_pos htab]
    exact .inl (hletter htab (by decide) rfl)
  rw [if_neg htab]
  by_cases hfeed : (c.toNat == 0x0C) = true
  · rw [if_pos hfeed]
    exact .inl (hcoded hfeed (by decide) rfl)
  rw [if_neg hfeed]
  by_cases hback : (c.toNat == 0x08) = true
  · rw [if_pos hback]
    exact .inl (hcoded hback (by decide) rfl)
  rw [if_neg hback]
  by_cases hplain : (0x20 ≤ c.toNat && c.toNat < 0x7F) = true
  · rw [if_pos hplain]
    rw [Bool.and_eq_true, decide_eq_true_eq, decide_eq_true_eq] at hplain
    exact .inr (.inl ⟨rfl, fun h => hquote (beq_iff_eq.mpr h), fun h => hslash (beq_iff_eq.mpr h),
      hplain⟩)
  rw [if_neg hplain]
  by_cases hsmall : Text.code c < 0x10000
  · rw [if_pos hsmall]
    exact .inr (.inr (.inl ⟨rfl, hsmall⟩))
  · rw [if_neg hsmall]
    have hcode := Text.code_eq_toNat (Nat.not_lt.mp hsmall)
    have hvalid : c.toNat < 0xD800 ∨ 0xDFFF < c.toNat ∧ c.toNat < 0x110000 := c.valid
    exact .inr (.inr (.inr ⟨c.toNat - 0x10000, rfl, by omega, by omega⟩))

/-- A character is read back, unless it is the first half of a pair and followed by the second. -/
theorem readString_writeChar (c : Char) {opening taken rest : List Char} (hrest : rest ≠ [])
    (hlow : isHighHalf (code c) = true → lowHalf? rest = none) :
    readString opening 0 taken (writeChar c ++ rest) = readString opening 0 (c :: taken) rest := by
  rcases writeChar_cases c with ⟨e, heq, hu, he⟩ | ⟨heq, hquote, hslash, hplain, -⟩ |
    ⟨heq, hsmall⟩ | ⟨n, heq, hn, hcode⟩
  · have hskip := readString_skip opening (c :: taken) [e] rest
    rw [heq]
    simp only [List.cons_append, List.nil_append] at hskip ⊢
    rw [readString]
    · simp only [he]
      exact hskip
    · exact hu
  · have hcontrol : ¬ c.toNat < 0x20 := Nat.not_lt.mpr hplain
    rw [heq, List.cons_append, List.nil_append, readString.eq_def]
    simp only [beq_false_of_ne hquote, beq_false_of_ne hslash, hcontrol, if_false,
      Bool.false_eq_true]
  · rw [heq, readString_escapeUnit hsmall hrest hlow, Text.charOfCode_code]
  · rw [heq, readString_pair hn hrest, ← hcode, Text.charOfCode_code]

/-- The second half of a pair is only found where one was written. -/
theorem lowHalf?_writeChar {c : Char} (h : isLowHalf (code c) = false) {rest : List Char}
    (hrest : rest ≠ []) : lowHalf? (writeChar c ++ rest) = none := by
  rcases writeChar_cases c with ⟨e, heq, hu, -⟩ | ⟨heq, -, hslash, -⟩ | ⟨heq, hsmall⟩ |
    ⟨n, heq, hn, -⟩
  · rw [heq, lowHalf?.eq_def]
    split
    · rename_i hcs
      simp only [List.cons_append, List.nil_append, List.cons.injEq] at hcs
      exact absurd hcs.2.1 hu
    · rfl
  · rw [heq, lowHalf?.eq_def]
    split
    · rename_i hcs
      simp only [List.cons_append, List.nil_append, List.cons.injEq] at hcs
      exact absurd hcs.1 hslash
    · rfl
  · rw [heq, lowHalf?_escapeUnit hsmall hrest, h]
    rfl
  · have hhigh : isLowHalf (0xD800 + n / 0x400) = false := by
      rw [isLowHalf, Bool.and_eq_false_iff, decide_eq_false_iff_not]
      omega
    rw [heq, List.append_assoc, lowHalf?_escapeUnit (by omega) (by simp [hrest]), hhigh]
    rfl

theorem readString_flatMap {cs : List Char} (h : isUnpaired cs = true)
    (opening taken rest : List Char) :
    readString opening 0 taken (cs.flatMap writeChar ++ '"' :: rest) =
      .ok (String.ofList (taken.reverse ++ cs), rest) := by
  induction cs generalizing taken with
  | nil => simp [readString]
  | cons c cs ih =>
    rw [isUnpaired, Bool.and_eq_true, Bool.not_eq_true', Bool.and_eq_false_iff] at h
    have hlow : isHighHalf (code c) = true →
        lowHalf? (cs.flatMap writeChar ++ '"' :: rest) = none := by
      intro hhigh
      cases cs with
      | nil => simp [lowHalf?]
      | cons d ds =>
        have hd : isLowHalf (code d) = false := by
          rcases h.1 with hno | hno
          · rw [hhigh] at hno
            cases hno
          · exact hno
        rw [List.flatMap_cons, List.append_assoc]
        exact lowHalf?_writeChar hd (by simp)
    rw [List.flatMap_cons, List.append_assoc, readString_writeChar c (by simp) hlow, ih h.2]
    simp

/-- A string is read back. -/
theorem readString_writeString (s : String) (h : isUnpaired s.toList = true)
    (opening rest : List Char) :
    readString opening 0 [] (s.toList.flatMap writeChar ++ '"' :: rest) = .ok (s, rest) := by
  rw [readString_flatMap h]
  simp

/-! ## Characters of documents -/

/-- Whether a character is a line break or printable ASCII. -/
def isPlain (c : Char) : Bool := c == '\n' || (0x20 ≤ c.toNat && c.toNat < 0x7F)

theorem toNat_of_isPlain {c : Char} (h : isPlain c = true) : 0 < c.toNat ∧ c.toNat < 128 := by
  rw [isPlain, Bool.or_eq_true, Bool.and_eq_true, beq_iff_eq, decide_eq_true_eq, decide_eq_true_eq] at h
  rcases h with rfl | h
  · decide
  · omega

theorem isPlain_of_isDigit {c : Char} (h : isDigit c = true) : isPlain c = true := by
  have hbounds := toNat_of_isDigit h
  rw [isPlain, Bool.or_eq_true, Bool.and_eq_true, decide_eq_true_eq, decide_eq_true_eq]
  omega

theorem all_isPlain_ofInt (n : Int) : (ofInt n).all isPlain = true := by
  have hdigits (k : Nat) : (digits k).all isPlain = true := by
    rw [List.all_eq_true]
    exact fun c hc => isPlain_of_isDigit (List.all_eq_true.mp (all_isDigit_digits k) c hc)
  cases n with
  | ofNat k => exact hdigits k
  | negSucc k => exact Bool.and_eq_true_iff.mpr ⟨by decide, hdigits (k + 1)⟩

theorem all_isPlain_escapeUnit (n : Nat) : (escapeUnit n).all isPlain = true := by
  have hdigit {d : Nat} (h : d < 16) : isPlain (digitChar d) = true := by
    revert d
    decide
  have hmod (k : Nat) : isPlain (digitChar (k % 16)) = true := hdigit (Nat.mod_lt k (by decide))
  rw [escapeUnit, hexDigits_four]
  simp only [List.all_cons, List.all_nil, hmod, Bool.and_true]
  decide

theorem isPlain_of_simpleEscape? {e c : Char} (h : simpleEscape? e = some c) : isPlain e = true := by
  have hletter {d : Char} (heq : (e == d) = true) (hd : isPlain d = true) : isPlain e = true :=
    eq_of_beq heq ▸ hd
  rw [simpleEscape?] at h
  split at h
  · rename_i heq
    rw [Bool.or_eq_true, Bool.or_eq_true] at heq
    rcases heq with (heq | heq) | heq <;> exact hletter heq (by decide)
  split at h
  · exact hletter ‹_› (by decide)
  split at h
  · exact hletter ‹_› (by decide)
  split at h
  · exact hletter ‹_› (by decide)
  split at h
  · exact hletter ‹_› (by decide)
  split at h
  · exact hletter ‹_› (by decide)
  · cases h

theorem all_isPlain_writeString (s : String) : (writeString s).all isPlain = true := by
  have hchar (c : Char) : (writeChar c).all isPlain = true := by
    rcases writeChar_cases c with ⟨e, heq, -, he⟩ | ⟨heq, -, -, hplain⟩ | ⟨heq, -⟩ | ⟨n, heq, -, -⟩
    · rw [heq, List.all_cons, List.all_cons, isPlain_of_simpleEscape? he]
      decide
    · rw [heq, List.all_cons, isPlain]
      simp [hplain]
    · rw [heq]
      exact all_isPlain_escapeUnit _
    · rw [heq, List.all_append, all_isPlain_escapeUnit, all_isPlain_escapeUnit]
      rfl
  rw [writeString, List.cons_append, List.all_cons, List.all_append, List.all_flatMap]
  simp [hchar, isPlain]

end Json

end JsxTagger
