import JsxTagger.Proofs.Text.Bytes
import JsxTagger.Text.Encoding

/-!
# Where a text can be cut

The bytes of a text can be cut where a character ends, and the pieces are texts again. An offset is a
*boundary* if the bytes in front of it are a text (`isBoundary`). Between two boundaries of a text
stands a text, all of whose characters are characters of the whole (`exists_slice`).

A text that holds no half of a surrogate pair is *plain*: it is the text of its byte form
(`ofText?_eq_ok`), and texts put together from plain texts are plain.
-/

namespace JsxTagger

namespace Bytes

/-! ## Texts as bytes -/

theorem ofText_eq_utf8Encode (s : String) : ofText s = s.toList.utf8Encode.data.toList := by
  rw [ofText, String.toUTF8_eq_toByteArray, String.utf8Encode_toList]

theorem ofText_append (s t : String) : ofText (s ++ t) = ofText s ++ ofText t := by
  simp [ofText]

theorem ofText_injective {s t : String} (h : ofText s = ofText t) : s = t := by
  have htext := text?_ofText s
  rw [h, text?_ofText] at htext
  exact (Option.some.inj htext).symm

theorem ofText_eq_nil {s : String} : ofText s = [] ↔ s = "" := by
  constructor
  · intro h
    exact ofText_injective (h.trans (by decide +kernel))
  · rintro rfl
    decide +kernel

/-- Bytes are a text exactly if they are the bytes of it. -/
theorem text?_eq_some {b : Bytes} {s : String} : text? b = some s ↔ b = ofText s := by
  constructor
  · intro h
    rw [text?, String.fromUTF8?] at h
    split at h
    · rw [← Option.some.inj h]
      rfl
    · cases h
  · rintro rfl
    exact text?_ofText s

/-- What follows a text inside a text is a text. -/
theorem exists_of_append {s t : String} {b : Bytes} (h : ofText s ++ b = ofText t) :
    ∃ u, b = ofText u ∧ t = s ++ u := by
  have hencode : s.toList.utf8Encode ++ (⟨b.toArray⟩ : ByteArray) = t.toList.utf8Encode := by
    rw [ofText_eq_utf8Encode, ofText_eq_utf8Encode] at h
    apply ByteArray.ext
    apply Array.toList_inj.mp
    simpa using h
  obtain ⟨rest, hrest⟩ := List.isPrefix_of_utf8Encode_append_eq_utf8Encode _ hencode
  have ht : t = s ++ String.ofList rest := by
    apply String.toList_inj.mp
    rw [String.toList_append, String.toList_ofList, hrest]
  refine ⟨String.ofList rest, ?_, ht⟩
  rw [ht, ofText_append] at h
  exact List.append_cancel_left h

/-! ## Boundaries -/

/-- Whether the bytes in front of an offset are a text. -/
def isBoundary (b : Bytes) (offset : Nat) : Bool :=
  decide (offset ≤ b.length) && (text? (b.take offset)).isSome

/-- A boundary of a text cuts the text in two. -/
theorem isBoundary_ofText {text : String} {offset : Nat} :
    isBoundary (ofText text) offset = true ↔
      ∃ front back, text = front ++ back ∧ offset = (ofText front).length := by
  rw [isBoundary, Bool.and_eq_true, decide_eq_true_eq, Option.isSome_iff_exists]
  constructor
  · rintro ⟨hle, front, hfront⟩
    have htake := text?_eq_some.mp hfront
    have hsplit : ofText front ++ (ofText text).drop offset = ofText text := by
      rw [← htake, List.take_append_drop]
    obtain ⟨back, -, htext⟩ := exists_of_append hsplit
    refine ⟨front, back, htext, ?_⟩
    rw [← htake, List.length_take]
    omega
  · rintro ⟨front, back, rfl, rfl⟩
    refine ⟨by simp [ofText_append], front, ?_⟩
    rw [ofText_append, List.take_left, text?_ofText]

theorem isBoundary_zero (b : Bytes) : isBoundary b 0 = true := by
  have hempty : text? [] = some "" := text?_ofText ""
  simp [isBoundary, hempty]

/-- Between two boundaries of a text stands a piece of the text. -/
theorem exists_slice {text : String} {start stop : Nat}
    (hstart : isBoundary (ofText text) start = true) (hstop : isBoundary (ofText text) stop = true)
    (hle : start ≤ stop) :
    ∃ front piece back, text = front ++ piece ++ back ∧ start = (ofText front).length ∧
      (ofText text).slice start stop = ofText piece := by
  obtain ⟨front, rest, rfl, rfl⟩ := isBoundary_ofText.mp hstart
  obtain ⟨front', back, htext, rfl⟩ := isBoundary_ofText.mp hstop
  -- the earlier cut is one of the text in front of the later cut
  have htake : ofText front = (ofText front').take (ofText front).length := by
    have htake := congrArg (fun s => (ofText s).take (ofText front).length) htext
    simpa only [ofText_append, List.take_left, List.take_append_of_le_length hle] using htake
  have hfront : ofText front ++ (ofText front').drop (ofText front).length = ofText front' :=
    calc ofText front ++ (ofText front').drop (ofText front).length
        = (ofText front').take (ofText front).length ++
            (ofText front').drop (ofText front).length := by rw [← htake]
      _ = ofText front' := List.take_append_drop _ _
  obtain ⟨piece, -, rfl⟩ := exists_of_append hfront
  refine ⟨front, piece, back, htext, rfl, ?_⟩
  rw [htext, slice, ofText_append (front ++ piece), ofText_append front, List.append_assoc,
    List.drop_left, List.length_append, Nat.add_sub_cancel_left, List.take_left]

/-- Behind a text with which a stretch between boundaries starts there is a boundary. -/
theorem isBoundary_add {text token : String} {start stop : Nat}
    (hstart : isBoundary (ofText text) start = true) (hstop : isBoundary (ofText text) stop = true)
    (hle : start ≤ stop) (h : ofText token <+: (ofText text).slice start stop) :
    isBoundary (ofText text) (start + (ofText token).length) = true := by
  obtain ⟨front, piece, back, rfl, rfl, hpiece⟩ := exists_slice hstart hstop hle
  obtain ⟨b, hb⟩ := h
  rw [hpiece] at hb
  obtain ⟨rest, -, rfl⟩ := exists_of_append hb
  refine isBoundary_ofText.mpr ⟨front ++ token, rest ++ back, ?_, ?_⟩
  · simp only [String.append_assoc]
  · rw [ofText_append, List.length_append]

/-- A stretch that starts with a text is at least as long. -/
theorem add_length_le {b token : Bytes} {start stop : Nat} (h : token <+: b.slice start stop)
    (htoken : token ≠ []) : start + token.length ≤ stop := by
  have hlength := h.length_le
  have hpos := List.length_pos_iff.mpr htoken
  rw [slice, List.length_take] at hlength
  omega

end Bytes

/-! ## Plain texts -/

namespace Text

/-- Whether a text holds no half of a surrogate pair. The characters U+F9A00 to U+FA1FF stand for the halves,
so a text in which one of them is meant as itself is not plain either. -/
def isPlain (s : String) : Bool := s.toList.all fun c => !standsForHalf c

theorem encodingErrorFrom_eq_none {start : Nat} {ns : List Nat} :
    encodingErrorFrom (fun _ => false) start ns = none ↔ ∀ n ∈ ns, isHalf n = false := by
  induction ns generalizing start with
  | nil => simp [encodingErrorFrom]
  | cons n ns ih =>
    rw [encodingErrorFrom, List.forall_mem_cons]
    cases hn : isHalf n with
    | true => simp
    | false => simp [ih]

/-- A text has a byte form exactly if it is plain. -/
theorem encodingError?_eq_none {s : String} : encodingError? s = none ↔ isPlain s = true := by
  rw [encodingError?, encodingErrorFrom_eq_none, codes, isPlain, List.all_eq_true,
    List.forall_mem_map]
  simp [standsForHalf]

@[simp]
theorem isPlain_append (s t : String) : isPlain (s ++ t) = (isPlain s && isPlain t) := by
  rw [isPlain, String.toList_append, List.all_append]
  rfl

end Text

/-- The byte form of a plain text. -/
theorem Bytes.ofText?_eq_ok {s : String} (h : Text.isPlain s = true) :
    Bytes.ofText? s = .ok (Bytes.ofText s) := by
  rw [Bytes.ofText?, Text.encodingError?_eq_none.mpr h]

theorem Bytes.isPlain_of_ofText? {s : String} {b : Bytes} (h : Bytes.ofText? s = .ok b) :
    Text.isPlain s = true := by
  rw [Bytes.ofText?] at h
  split at h
  · cases h
  · rename_i hnone
    exact Text.encodingError?_eq_none.mp hnone

/-- What stands between two boundaries of a plain text is plain. -/
theorem Bytes.isPlain_of_slice {text piece : String} {start stop : Nat}
    (hplain : Text.isPlain text = true) (hstart : Bytes.isBoundary (Bytes.ofText text) start = true)
    (hstop : Bytes.isBoundary (Bytes.ofText text) stop = true) (hle : start ≤ stop)
    (hpiece : Bytes.text? ((Bytes.ofText text).slice start stop) = some piece) :
    Text.isPlain piece = true := by
  obtain ⟨front, piece', back, rfl, -, hslice⟩ := Bytes.exists_slice hstart hstop hle
  rw [hslice, Bytes.text?_ofText] at hpiece
  cases hpiece
  simp only [Text.isPlain_append, Bool.and_eq_true] at hplain
  exact hplain.1.2

end JsxTagger
