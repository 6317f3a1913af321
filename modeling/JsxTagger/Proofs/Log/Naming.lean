import Mathlib.Data.Nat.Digits.Defs
import JsxTagger.Log.Logging
import JsxTagger.Proofs.Inventory.Entered
import JsxTagger.Proofs.Json.Scalars
import JsxTagger.Proofs.Settings.Build

/-!
# New names for logs

A log gets a number above all those that the names of a directory bear, so that no log is written where
another one is (`nextName_exceeds`). A name bears a number if it is a numeral up to its first dot
(`Numbered`).

There is one exception. Digits that only adorn, such as superscripts, count as digits when numerals are
told from other names, but have no place in a number. A name with such a digit among digits (`Adorned`)
should be passed over like any other name that is no numeral, and ends the search instead.
-/

namespace JsxTagger

namespace Decimal

theorem digitChar_eq {d : Nat} (h : d < 10) : digitChar d = d.digitChar := by
  revert d
  decide

theorem digits_eq_toDigits (n : Nat) : digits n = Nat.toDigits 10 n := by
  induction n using Nat.strongRecOn with
  | ind n ih =>
    rw [digits, Nat.toDigits_eq_if (by decide)]
    split
    · rename_i hlt
      rw [digitChar_eq hlt]
    · rename_i hge
      rw [ih (n / 10) (by omega), digitChar_eq (Nat.mod_lt n (by decide))]

/-- The digits of a number are its usual form. -/
theorem ofList_digits (n : Nat) : String.ofList (digits n) = toString n := by
  rw [digits_eq_toDigits]
  rfl

theorem decimalValue?_of_isDigit {c : Char} (h : isDigit c = true) : Text.decimalValue? c = some (digitValue c) := by
  obtain ⟨hlow, hhigh⟩ := toNat_of_isDigit h
  rw [Text.decimalValue?, Text.zeros, List.find?_cons_of_pos (by simp; omega)]
  rfl

end Decimal

namespace Log

open Decimal (digits)
open Files

/-! ## Numerals -/

/-- A name is, up to its first dot, the numeral of a number, in decimal digits of any script. -/
def Numbered (name : String) (n : Nat) : Prop :=
  stem name ≠ [] ∧ ∃ values, (stem name).mapM Text.decimalValue? = some values ∧ n = Nat.ofDigits 10 values.reverse

/-- A name consists of digits up to its first dot, and one of them only adorns. -/
def Adorned (name : String) : Prop :=
  (∀ c ∈ stem name, Text.isAnyDigit c = true) ∧ ∃ c ∈ stem name, Text.decimalValue? c = none

instance (name : String) : Decidable (Adorned name) :=
  decidable_of_iff ((stem name).all Text.isAnyDigit ∧ (stem name).any fun c => (Text.decimalValue? c).isNone)
    (by simp [Adorned])

theorem foldl_eq_ofDigits (values : List Nat) :
    values.foldl (fun n d => 10 * n + d) 0 = Nat.ofDigits 10 values.reverse := by
  rw [Nat.ofDigits_eq_foldr, List.foldr_reverse]
  simp only [Nat.cast_id, Nat.add_comm]

theorem exists_of_mapM_eq_none {cs : List Char} (h : cs.mapM Text.decimalValue? = none) :
    ∃ c ∈ cs, Text.decimalValue? c = none := by
  by_contra hall
  push Not at hall
  obtain ⟨values, hvalues⟩ : ∃ values, cs.mapM Text.decimalValue? = some values := by
    clear h
    induction cs with
    | nil => exact ⟨[], rfl⟩
    | cons c cs ih =>
      rw [List.forall_mem_cons] at hall
      obtain ⟨d, hd⟩ := Option.ne_none_iff_exists'.mp hall.1
      obtain ⟨values, hvalues⟩ := ih hall.2
      exact ⟨d :: values, by rw [List.mapM_cons, hd, hvalues]; rfl⟩
  rw [h] at hvalues
  cases hvalues

theorem decimalValue?_of_mapM {cs : List Char} {values : List Nat} (h : cs.mapM Text.decimalValue? = some values) {c : Char}
    (hc : c ∈ cs) : ∃ d, Text.decimalValue? c = some d := by
  induction cs generalizing values with
  | nil => cases hc
  | cons first cs ih =>
    rw [List.mapM_cons] at h
    obtain ⟨d, hd, h⟩ := Option.bind_eq_some_iff.mp h
    obtain ⟨rest, hrest, -⟩ := Option.bind_eq_some_iff.mp h
    rcases List.mem_cons.mp hc with rfl | hc
    · exact ⟨d, hd⟩
    · exact ih hrest hc

theorem isNumeral_iff {cs : List Char} :
    isNumeral cs = true ↔ cs ≠ [] ∧ ∀ c ∈ cs, Text.isAnyDigit c = true := by
  rw [isNumeral, Bool.and_eq_true, List.all_eq_true]
  simp

/-- A name bears a number if its beginning passes for a numeral and stands for the number. -/
theorem numbered_iff {name : String} {n : Nat} :
    Numbered name n ↔ isNumeral (stem name) = true ∧ numeralValue (stem name) = .ok n := by
  rw [isNumeral_iff, numeralValue, Numbered]
  cases hvalues : (stem name).mapM Text.decimalValue? with
  | none => simp
  | some values =>
    have hdigits : ∀ c ∈ stem name, Text.isAnyDigit c = true := by
      intro c hc
      obtain ⟨d, hd⟩ := decimalValue?_of_mapM hvalues hc
      rw [Text.isAnyDigit, hd]
      rfl
    dsimp only
    rw [foldl_eq_ofDigits]
    constructor
    · rintro ⟨hne, _, ⟨⟩, rfl⟩
      exact ⟨⟨hne, hdigits⟩, rfl⟩
    · rintro ⟨⟨hne, -⟩, hvalue⟩
      exact ⟨hne, values, rfl, (Except.ok.inj hvalue).symm⟩

/-- The fault of a numeral that cannot be read. -/
def unreadable (cs : List Char) : Fault :=
  ⟨.badValue, s!"invalid literal for int() with base 10: {Text.quoted (String.ofList cs)}"⟩

theorem numeralValue_eq_error {cs : List Char} {fault : Fault} :
    numeralValue cs = .error fault ↔ fault = unreadable cs ∧ ∃ c ∈ cs, Text.decimalValue? c = none := by
  rw [numeralValue]
  cases hvalues : cs.mapM Text.decimalValue? with
  | none =>
    constructor
    · rintro ⟨⟩
      exact ⟨rfl, exists_of_mapM_eq_none hvalues⟩
    · rintro ⟨rfl, -⟩
      rfl
  | some values =>
    simp only [reduceCtorEq, false_iff, not_and, not_exists]
    intro _ c hc hnone
    obtain ⟨d, hd⟩ := decimalValue?_of_mapM hvalues hc
    rw [hnone] at hd
    cases hd

/-- A name is adorned if its beginning passes for a numeral and cannot be read. -/
theorem adorned_iff {name : String} :
    Adorned name ↔ isNumeral (stem name) = true ∧ numeralValue (stem name) = .error (unreadable (stem name)) := by
  rw [isNumeral_iff, numeralValue_eq_error, Adorned]
  constructor
  · rintro ⟨hall, c, hc, hnone⟩
    exact ⟨⟨List.ne_nil_of_mem hc, hall⟩, rfl, c, hc, hnone⟩
  · rintro ⟨⟨-, hall⟩, -, hadorns⟩
    exact ⟨hall, hadorns⟩

/-! ## The highest number -/

/-- One more numeral is taken into the highest number. -/
def raise (highest : Nat) (cs : List Char) : Except Fault Nat := return max highest (← numeralValue cs)

/-- The highest number is at least that of every numeral, and it is one of them unless it is that of the start. -/
theorem foldlM_raise_eq_ok {css : List (List Char)} {start highest : Nat}
    (h : css.foldlM raise start = .ok highest) :
    start ≤ highest ∧ (∀ cs ∈ css, ∃ n ≤ highest, numeralValue cs = .ok n) ∧
      (highest = start ∨ ∃ cs ∈ css, numeralValue cs = .ok highest) := by
  induction css generalizing start with
  | nil =>
    cases h
    exact ⟨Nat.le_refl _, fun cs hcs => (nomatch hcs), .inl rfl⟩
  | cons cs css ih =>
    rw [List.foldlM_cons, Except.bind_eq_ok] at h
    obtain ⟨next, hraise, h⟩ := h
    obtain ⟨n, hn, hnext⟩ := Except.bind_eq_ok.mp hraise
    cases hnext
    obtain ⟨hstart, hall, hfrom⟩ := ih h
    refine ⟨by omega, List.forall_mem_cons.mpr ⟨⟨n, by omega, hn⟩, hall⟩, ?_⟩
    rcases hfrom with rfl | ⟨other, hother, hvalue⟩
    · rcases Nat.le_total n start with hle | hle
      · exact .inl (by omega)
      · exact .inr ⟨cs, List.mem_cons_self, by rw [hn, Nat.max_eq_right hle]⟩
    · exact .inr ⟨other, List.mem_cons_of_mem _ hother, hvalue⟩

/-- The search ends at a numeral that cannot be read. -/
theorem foldlM_raise_eq_error {css : List (List Char)} {start : Nat} {fault : Fault}
    (h : css.foldlM raise start = .error fault) : ∃ cs ∈ css, numeralValue cs = .error fault := by
  obtain ⟨front, cs, back, highest, rfl, -, hraise⟩ := Settings.foldlM_eq_error.mp h
  exact ⟨cs, List.mem_append_right front List.mem_cons_self, Except.bind_pure_eq_error.mp hraise⟩

theorem mem_numerals {names : List String} {cs : List Char} :
    cs ∈ (names.map stem).filter isNumeral ↔ ∃ name ∈ names, stem name = cs ∧ isNumeral cs = true := by
  simp only [List.mem_filter, List.mem_map]
  constructor
  · rintro ⟨⟨name, hname, rfl⟩, hcs⟩
    exact ⟨name, hname, rfl, hcs⟩
  · rintro ⟨name, hname, rfl, hcs⟩
    exact ⟨⟨name, hname, rfl⟩, hcs⟩

/-- Either there is a highest number, or the search ends at an adorned name. -/
theorem highestNumber_cases (names : List String) :
    (∃ highest, highestNumber names = .ok highest ∧ (∀ name ∈ names, ¬ Adorned name) ∧
      (∀ name ∈ names, ∀ n, Numbered name n → n ≤ highest) ∧
      (highest = 0 ∨ ∃ name ∈ names, Numbered name highest)) ∨
    ∃ name ∈ names, Adorned name ∧ highestNumber names = .error (unreadable (stem name)) := by
  cases hfold : ((names.map stem).filter isNumeral).foldlM raise 0 with
  | error fault =>
    obtain ⟨cs, hcs, hfault⟩ := foldlM_raise_eq_error hfold
    obtain ⟨name, hname, rfl, hnumeral⟩ := mem_numerals.mp hcs
    obtain ⟨rfl, -⟩ := numeralValue_eq_error.mp hfault
    exact .inr ⟨name, hname, adorned_iff.mpr ⟨hnumeral, hfault⟩, hfold⟩
  | ok highest =>
    obtain ⟨-, hall, hfrom⟩ := foldlM_raise_eq_ok hfold
    have hvalue {name : String} (hname : name ∈ names) (hnumeral : isNumeral (stem name) = true) :
        ∃ n ≤ highest, numeralValue (stem name) = .ok n := hall _ (mem_numerals.mpr ⟨name, hname, rfl, hnumeral⟩)
    refine .inl ⟨highest, hfold, fun name hname hadorned => ?_, fun name hname n hnumbered => ?_, hfrom.imp_right ?_⟩
    · obtain ⟨hnumeral, herror⟩ := adorned_iff.mp hadorned
      obtain ⟨n, -, hn⟩ := hvalue hname hnumeral
      rw [herror] at hn
      cases hn
    · obtain ⟨hnumeral, hn⟩ := numbered_iff.mp hnumbered
      obtain ⟨m, hm, hvalue⟩ := hvalue hname hnumeral
      rw [hn] at hvalue
      cases hvalue
      exact hm
    · rintro ⟨cs, hcs, hvalue⟩
      obtain ⟨name, hname, rfl, hnumeral⟩ := mem_numerals.mp hcs
      exact ⟨name, hname, numbered_iff.mpr ⟨hnumeral, hvalue⟩⟩

/-! ## The next name -/

theorem stem_log (n : Nat) : stem (toString n ++ ".log") = digits n := by
  have hdot {c : Char} (hc : c ∈ digits n) : (c != '.') = true := by
    have hdigit := List.all_eq_true.mp (Decimal.all_isDigit_digits n) c hc
    rw [bne_iff_ne]
    rintro rfl
    cases hdigit
  rw [stem, ← Decimal.ofList_digits, String.toList_append, String.toList_ofList, List.takeWhile_append_of_pos fun c => hdot]
  simp

/-- The name of a log bears its number. -/
theorem numbered_log (n : Nat) : Numbered (toString n ++ ".log") n := by
  have hvalues {cs : List Char} (hdigits : cs.all Decimal.isDigit = true) :
      cs.mapM Text.decimalValue? = some (cs.map Decimal.digitValue) := by
    induction cs with
    | nil => rfl
    | cons c cs ih =>
      rw [List.all_cons, Bool.and_eq_true] at hdigits
      rw [List.mapM_cons, Decimal.decimalValue?_of_isDigit hdigits.1, ih hdigits.2]
      rfl
  rw [Numbered, stem_log]
  refine ⟨Decimal.digits_ne_nil n, _, hvalues (Decimal.all_isDigit_digits n), ?_⟩
  rw [← foldl_eq_ofDigits, List.foldl_map]
  exact (Decimal.ofDigits_digits n).symm

theorem nextName_eq_ok {names : List String} {highest : Nat} (h : highestNumber names = .ok highest) :
    nextName names = .ok (toString (highest + 1) ++ ".log") := by
  rw [nextName, h, ← Decimal.ofList_digits]
  rfl

theorem nextName_eq_error {names : List String} {fault : Fault} (h : highestNumber names = .error fault) :
    nextName names = .error fault := by
  rw [nextName, h]
  rfl

/-- Unless an adorned name ends the search, the next name bears a number above all others. -/
theorem nextName_cases (names : List String) :
    ((∀ name ∈ names, ¬ Adorned name) ∧ ∃ n, nextName names = .ok (toString n ++ ".log") ∧ 1 ≤ n ∧
      (∀ name ∈ names, ∀ k, Numbered name k → k < n) ∧ toString n ++ ".log" ∉ names ∧
      (n = 1 ∨ ∃ name ∈ names, Numbered name (n - 1))) ∨
    ∃ name ∈ names, Adorned name ∧ nextName names = .error (unreadable (stem name)) := by
  rcases highestNumber_cases names with ⟨highest, hok, hnone, hbelow, hfrom⟩ | ⟨name, hname, hadorned, herror⟩
  · refine .inl ⟨hnone, highest + 1, nextName_eq_ok hok, by omega, fun name hname k hk => ?_, fun hmem => ?_, ?_⟩
    · exact Nat.lt_succ_of_le (hbelow name hname k hk)
    · have hle := hbelow _ hmem _ (numbered_log (highest + 1))
      omega
    · exact hfrom.imp (by omega) id
  · exact .inr ⟨name, hname, hadorned, nextName_eq_error herror⟩

/-- A log that is opened is a new file. -/
theorem openFile_eq_ok {threshold : Threshold} {dayDir path : Path} {file : LogFile} {fs fs' : FileSystem}
    (h : (Logging.openFile threshold dayDir).run.run fs = (.ok (path, file), fs')) :
    fs.get? file.place = none ∧ fs' = fs.put file.place (.file fileMode []) := by
  rw [Logging.openFile, bind_eq_ok] at h
  obtain ⟨dir, fs₁, hdir, h⟩ := h
  obtain ⟨-, -, rfl⟩ := FileM.locate_eq_ok.mp hdir
  obtain ⟨name, fs₂, hlook, h⟩ := bind_eq_ok.mp h
  rw [FileM.run_look] at hlook
  obtain ⟨hname, rfl⟩ := Prod.mk.inj hlook
  have hfree : fs₁.get? (dir ++ [name]) = none := by
    rcases nextName_cases (fs₁.namesIn dir) with ⟨-, n, hnext, -, -, hfresh, -⟩ | ⟨_, _, _, hnext⟩
    · rw [hname] at hnext
      cases hnext
      exact not_not.mp (FileSystem.mem_namesIn_iff.not.mp hfresh)
    · rw [hname] at hnext
      cases hnext
  cases h
  refine ⟨hfree, ?_⟩
  show append fs₁ (dir ++ [name]) [] = _
  rw [append, hfree]

/-- A log gets a number above all that the names of the directory bear, and a name that is not there yet; the number
is one more than the highest. Only an adorned name ends the search, with the fault of a numeral that cannot be read.
So a log that is opened is a new file. -/
theorem nextName_exceeds (names : List String) :
    ((∀ name ∈ names, ¬ Adorned name) →
      ∃ n, nextName names = .ok (toString n ++ ".log") ∧ 1 ≤ n ∧ (∀ name ∈ names, ∀ k, Numbered name k → k < n) ∧
        toString n ++ ".log" ∉ names ∧ (n = 1 ∨ ∃ name ∈ names, Numbered name (n - 1))) ∧
    ((∃ name ∈ names, Adorned name) →
      ∃ name ∈ names, Adorned name ∧ nextName names = .error (unreadable (stem name))) ∧
    ∀ (threshold : Threshold) (dayDir path : Path) (file : LogFile) (fs fs' : FileSystem),
      (Logging.openFile threshold dayDir).run.run fs = (.ok (path, file), fs') →
      fs.get? file.place = none ∧ fs' = fs.put file.place (.file fileMode []) := by
  refine ⟨fun h => ?_, fun ⟨name, hname, hadorned⟩ => ?_, fun _ _ _ _ _ _ => openFile_eq_ok⟩
  · exact (nextName_cases names).elim And.right fun ⟨name, hname, hadorned, _⟩ => absurd hadorned (h name hname)
  · exact (nextName_cases names).resolve_left fun hnone => hnone.1 name hname hadorned

/-- A directory with three logs, one of them numbered in Arabic digits, and a name that is no numeral. -/
def dayNames : List String := ["007.log", "3", "notes.1.log", "٣١.log.old"]

/-- A file system with such a directory. -/
def dayFiles : FileSystem := { entries := (["day"], .directory) :: dayNames.map fun name => (["day", name], .file 0o644 [1]) }

theorem nextName_exceeds_dayNames :
    ((∀ name ∈ dayNames, ¬ Adorned name) ∧ ∃ n, nextName dayNames = .ok (toString n ++ ".log") ∧ 1 ≤ n ∧
      (∀ name ∈ dayNames, ∀ k, Numbered name k → k < n) ∧ toString n ++ ".log" ∉ dayNames ∧
      (n = 1 ∨ ∃ name ∈ dayNames, Numbered name (n - 1))) ∧
    nextName dayNames = .ok "32.log" ∧
    ((∃ name ∈ "2²" :: dayNames, Adorned name) ∧
      ∃ name ∈ "2²" :: dayNames, Adorned name ∧ nextName ("2²" :: dayNames) = .error (unreadable (stem name))) ∧
    ∃ path file fs, (Logging.openFile 20 ⟨.root, ["day"]⟩).run.run dayFiles = (.ok (path, file), fs) ∧
      dayFiles.get? file.place = none ∧ fs = dayFiles.put file.place (.file fileMode []) := by
  obtain ⟨hnext, -, hopen⟩ := nextName_exceeds dayNames
  obtain ⟨-, hadorned, -⟩ := nextName_exceeds ("2²" :: dayNames)
  have hnone : ∀ name ∈ dayNames, ¬ Adorned name := by decide +kernel
  have hone : ∃ name ∈ "2²" :: dayNames, Adorned name := by decide +kernel
  have hrun : (Logging.openFile 20 ⟨.root, ["day"]⟩).run.run dayFiles =
      (.ok (⟨.root, ["day", "32.log"]⟩, ⟨["day", "32.log"], 20⟩),
        append dayFiles ["day", "32.log"] []) := by
    have hdir : dayFiles.locate ⟨.root, ["day"]⟩ = .ok ["day"] := by decide +kernel
    have hname : nextName (dayFiles.namesIn ["day"]) = .ok "32.log" := by decide +kernel
    refine bind_eq_ok.mpr ⟨["day"], dayFiles, FileM.locate_eq_ok.mpr ⟨by decide +kernel, hdir, rfl⟩, ?_⟩
    exact bind_eq_ok.mpr ⟨"32.log", dayFiles, by rw [FileM.run_look, hname], rfl⟩
  exact ⟨⟨hnone, hnext hnone⟩, by decide +kernel, ⟨hone, hadorned hone⟩, _, _, _, hrun, hopen _ _ _ _ _ _ hrun⟩

/-- A superscript passes for a digit and stands for none, so that the search for a name ends there. -/
theorem nextName_superscript : ¬ ∃ name, nextName ["².log"] = .ok name := by
  have hadorned : Adorned "².log" := by decide +kernel
  rcases nextName_cases ["².log"] with ⟨hnone, -⟩ | ⟨_, _, _, herror⟩
  · exact absurd hadorned (hnone _ List.mem_cons_self)
  · rintro ⟨name, hname⟩
    rw [herror] at hname
    cases hname

end Log

end JsxTagger
