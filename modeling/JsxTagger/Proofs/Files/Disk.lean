import JsxTagger.Proofs.Files.Refusals
import JsxTagger.Proofs.Json.Scalars

/-!
# What a disk holds

A text may hold halves of surrogate pairs, a disk holds bytes (`OnDisk`). The bytes of a file are no half, and
the halves in a name stand for bytes, so that no pair is ever torn apart: the texts of nodes are plain
(`Node.isPlain_text`), and names are unpaired (`isUnpaired_of_path`).

Documents are printable ASCII. They can be stored in a file and read from it (`ofText?_document`,
`looksBinary_ofText`).
-/

namespace JsxTagger

open Files

/-! ## Bytes without halves -/

namespace Bytes

/-- No character in a byte string stands for a half of a surrogate pair. -/
def HoldsNoHalf (b : Bytes) : Prop := ∀ c, Text.standsForHalf c = true → ¬ String.utf8EncodeChar c <:+: b

theorem HoldsNoHalf.of_part {b part : Bytes} (h : b.HoldsNoHalf) (hpart : part <:+: b) : part.HoldsNoHalf :=
  fun c hc hin => h c hc (hin.trans hpart)

theorem ofText_eq_flatMap (s : String) : ofText s = s.toList.flatMap String.utf8EncodeChar := by
  rw [ofText_eq_utf8Encode, List.utf8Encode]
  simp

/-- The bytes of a character are among those of a text with it. -/
theorem isInfix_utf8EncodeChar {s : String} {c : Char} (hc : c ∈ s.toList) :
    String.utf8EncodeChar c <:+: ofText s := by
  obtain ⟨front, back, hs⟩ := List.append_of_mem hc
  refine ⟨front.flatMap String.utf8EncodeChar, back.flatMap String.utf8EncodeChar, ?_⟩
  rw [ofText_eq_flatMap, hs, List.flatMap_append, List.flatMap_cons, List.append_assoc]

theorem HoldsNoHalf.isPlain {s : String} (h : (ofText s).HoldsNoHalf) : Text.isPlain s = true := by
  rw [Text.isPlain, List.all_eq_true]
  intro c hc
  cases hhalf : Text.standsForHalf c with
  | false => rfl
  | true => exact absurd (isInfix_utf8EncodeChar hc) (h c hhalf)

theorem HoldsNoHalf.slice {b : Bytes} (h : b.HoldsNoHalf) (start stop : Nat) : (b.slice start stop).HoldsNoHalf :=
  h.of_part ((List.take_prefix _ _).isInfix.trans (List.drop_suffix _ _).isInfix)

/-- Bytes below 128 hold no other character than themselves. -/
theorem holdsNoHalf_of_isAscii {b : Bytes} (h : b.isAscii = true) : b.HoldsNoHalf := by
  intro c hc hin
  have hsmall : ∀ n < 128, Text.standsForHalf (Char.ofNat n) = false := by decide
  have hpart : isAscii (String.utf8EncodeChar c) = true := by
    rw [isAscii, List.all_eq_true] at h ⊢
    exact fun u hu => h u (hin.subset hu)
  have hbytes : ofText (String.singleton c) = String.utf8EncodeChar c := by
    rw [ofText_eq_flatMap]
    simp
  have htext := text?_of_isAscii hpart
  rw [← hbytes, text?_ofText] at htext
  have hchars : [c] = characters (ofText (String.singleton c)) := by
    simpa using congrArg String.toList (Option.some.inj htext)
  obtain ⟨u, hu, rfl⟩ := List.mem_map.mp (hchars ▸ List.mem_singleton_self c)
  rw [hbytes] at hu
  have hlt : u < 128 := by simpa using List.all_eq_true.mp hpart u hu
  rw [hsmall u.toNat hlt] at hc
  cases hc

end Bytes

/-- The text of a node in such bytes has no halves. -/
theorem Syntax.Node.isPlain_text {source : Bytes} (h : source.HoldsNoHalf) (n : Node) :
    Text.isPlain (n.text source) = true := by
  rw [Node.text]
  cases htext : Bytes.text? (source.slice n.start n.stop) with
  | none =>
    show Text.isPlain "" = true
    decide
  | some piece =>
    have hslice := h.slice n.start n.stop
    rw [Bytes.text?_eq_some.mp htext] at hslice
    exact hslice.isPlain

/-! ## Names -/

namespace Text

/-- Halves that stand for bytes are never the first of a pair. -/
theorem isUnpaired_of_path {s : String} (h : pathEncodingError? s = none) : isUnpaired s.toList = true := by
  rw [pathEncodingError?_eq_none] at h
  generalize s.toList = cs at h
  induction cs with
  | nil => rfl
  | cons c cs ih =>
    rw [List.forall_mem_cons] at h
    have hhigh : isHighHalf (code c) = false := by
      rw [Bool.eq_false_iff]
      intro hhigh
      rw [isHighHalf, Bool.and_eq_true, decide_eq_true_eq, decide_eq_true_eq] at hhigh
      have hbyte := h.1 (by
        rw [isHalf, Bool.and_eq_true, decide_eq_true_eq, decide_eq_true_eq, firstHalf, halves]
        omega)
      rw [isByteHalf, Bool.and_eq_true, decide_eq_true_eq, decide_eq_true_eq] at hbyte
      omega
    rw [isUnpaired, hhigh, ih h.2]
    rfl

theorem pathEncodingError?_of_isPlain {s : String} (h : isPlain s = true) : pathEncodingError? s = none := by
  rw [isPlain, List.all_eq_true] at h
  refine pathEncodingError?_eq_none.mpr fun c hc hhalf => ?_
  have hplain := h c hc
  rw [standsForHalf, hhalf] at hplain
  cases hplain

/-- Names with slashes between them. -/
theorem pathEncodingError?_intercalate {names : List String}
    (h : ∀ name ∈ names, pathEncodingError? name = none) : pathEncodingError? ("/".intercalate names) = none := by
  simp only [pathEncodingError?_eq_none] at h ⊢
  rw [String.toList_intercalate]
  intro c hc
  have hlists : ∀ lists : List (List Char), c ∈ "/".toList.intercalate lists → c = '/' ∨ ∃ cs ∈ lists, c ∈ cs := by
    intro lists hmem
    induction lists with
    | nil => cases hmem
    | cons first rest ih =>
      cases rest with
      | nil => exact .inr ⟨first, List.mem_cons_self, by simpa [List.intercalate] using hmem⟩
      | cons second rest =>
        rw [List.intercalate_cons_cons, List.mem_append, List.mem_append] at hmem
        rcases hmem with (hmem | hmem) | hmem
        · exact .inr ⟨first, List.mem_cons_self, hmem⟩
        · exact .inl (by simpa using hmem)
        · exact (ih hmem).imp_right fun ⟨cs, hcs, hin⟩ => ⟨cs, List.mem_cons_of_mem first hcs, hin⟩
  rcases hlists _ hc with rfl | ⟨cs, hcs, hin⟩
  · intro hhalf
    revert hhalf
    decide
  · obtain ⟨name, hname, rfl⟩ := List.mem_map.mp hcs
    exact h name hname c hin

end Text

/-! ## Disks -/

namespace Files.FileSystem

/-- The names that lead to something are byte strings. -/
def HasByteNames (fs : FileSystem) : Prop :=
  ∀ loc e, fs.get? loc = some e → ∀ name ∈ loc, Text.pathEncodingError? name = none

/-- What a disk can hold: names are byte strings, and no file holds a character that texts keep for halves. -/
structure OnDisk (fs : FileSystem) : Prop where
  names : fs.HasByteNames
  contents : ∀ loc mode content, fs.get? loc = some (.file mode content) → content.HoldsNoHalf

/-- Files of bytes below 128 can be on a disk. -/
theorem onDisk_of_entries {fs : FileSystem}
    (hnames : ∀ p ∈ fs.entries, ∀ name ∈ p.1, Text.pathEncodingError? name = none)
    (hcontents : ∀ p ∈ fs.entries, (match p.2 with | .file _ content => Bytes.isAscii content | _ => true) = true) :
    fs.OnDisk where
  names loc e he name hname := hnames _ (mem_entries_of_get? (List.ne_nil_of_mem hname) he) name hname
  contents loc mode content hget := by
    have hne : loc ≠ [] := by
      rintro rfl
      cases hget
    exact Bytes.holdsNoHalf_of_isAscii (hcontents _ (mem_entries_of_get? hne hget))

end Files.FileSystem

/-! ## Documents -/

/-- Line breaks and printable ASCII do not look binary. -/
theorem Files.looksBinary_ofText {text : String} (h : text.toList.all Json.isPlain = true) :
    looksBinary (Bytes.ofText text) = false := by
  rw [looksBinary, ← Bool.not_eq_true, List.contains_iff_mem]
  intro hzero
  have hmem := List.mem_of_mem_take hzero
  rw [Bytes.ofText_eq_flatMap, List.mem_flatMap] at hmem
  obtain ⟨c, hc, hin⟩ := hmem
  obtain ⟨hpos, hlt⟩ := Json.toNat_of_isPlain (List.all_eq_true.mp h c hc)
  have hbyte : String.utf8EncodeChar c = [UInt8.ofNat c.toNat] := by
    have hval : c.val.toNat ≤ 0x7f := Nat.le_of_lt_succ hlt
    rw [String.utf8EncodeChar, if_pos hval]
    rfl
  rw [hbyte, List.mem_singleton] at hin
  have hnat := congrArg UInt8.toNat hin
  rw [UInt8.toNat_ofNat'] at hnat
  have hzero : (0 : UInt8).toNat = 0 := rfl
  omega

/-- Line breaks and printable ASCII have a byte form. -/
theorem Bytes.ofText?_document {text : String} (h : text.toList.all Json.isPlain = true) :
    Bytes.ofText? text = .ok (Bytes.ofText text) := by
  refine Bytes.ofText?_eq_ok ?_
  rw [Text.isPlain, List.all_eq_true]
  intro c hc
  have hlt := (Json.toNat_of_isPlain (List.all_eq_true.mp h c hc)).2
  have hcode : Text.code c = c.toNat := by
    rw [Text.code, if_neg]
    rw [Bool.and_eq_true, decide_eq_true_eq, Text.firstStandIn]
    omega
  rw [Text.standsForHalf, hcode, Text.isHalf, Text.firstHalf, Bool.not_eq_true', Bool.and_eq_false_iff,
    decide_eq_false_iff_not]
  exact .inl (by omega)

end JsxTagger
