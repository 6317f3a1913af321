import JsxTagger.Syntax.Tree

/-!
# Bytes and texts

A text is what its bytes encode (`text?_ofText`). Bytes below 128 are a character each, so that every
stretch of them is a text (`text?_of_isAscii`), and the texts of nodes can be compared byte by byte.
-/

namespace JsxTagger

namespace Bytes

/-- The bytes of a text are that text. -/
theorem text?_ofText (s : String) : text? (ofText s) = some s := by
  have hvalid : s.toUTF8.IsValidUTF8 := s.isValidUTF8
  rw [text?, ofText, Array.toArray_toList, String.fromUTF8?, dif_pos hvalid]
  rfl

/-- Whether every byte stands for a character of its own. -/
def isAscii (b : Bytes) : Bool := b.all (· < 128)

/-- The characters that bytes below 128 stand for. -/
def characters (b : Bytes) : List Char := b.map fun u => Char.ofNat u.toNat

theorem utf8EncodeChar_ofNat {u : UInt8} (h : u < 128) :
    String.utf8EncodeChar (Char.ofNat u.toNat) = [u] := by
  have hlt : u.toNat < 128 := h
  have hvalid : u.toNat.isValidChar := Or.inl (by omega)
  have hval : (Char.ofNat u.toNat).val.toNat = u.toNat := by
    rw [Char.ofNat, dif_pos hvalid]
    rfl
  rw [String.utf8EncodeChar, hval, if_pos (by omega), UInt8.ofNat_toNat]

/-- Bytes below 128 are the text of their characters. -/
theorem ofText_characters {b : Bytes} (h : b.isAscii = true) :
    ofText (String.ofList b.characters) = b := by
  have hbytes : ∀ c : Bytes, c.isAscii = true →
      c.characters.flatMap String.utf8EncodeChar = c := by
    intro c hc
    induction c with
    | nil => rfl
    | cons u c ih =>
      rw [isAscii, List.all_cons, Bool.and_eq_true, decide_eq_true_eq] at hc
      rw [characters, List.map_cons, List.flatMap_cons, utf8EncodeChar_ofNat hc.1, ← characters,
        ih hc.2]
      rfl
  rw [ofText, String.toUTF8_eq_toByteArray, String.toByteArray_ofList, List.utf8Encode,
    hbytes b h]
  simp

theorem text?_of_isAscii {b : Bytes} (h : b.isAscii = true) :
    text? b = some (String.ofList b.characters) := by
  rw [← text?_ofText, ofText_characters h]

theorem isAscii_slice {b : Bytes} (h : b.isAscii = true) (start stop : Nat) :
    (b.slice start stop).isAscii = true := by
  rw [isAscii, List.all_eq_true] at h ⊢
  exact fun u hu => h u (List.mem_of_mem_drop (List.mem_of_mem_take hu))

end Bytes

namespace Syntax.Node

variable {source : Bytes} (h : source.isAscii = true) (n : Node)

include h

theorem text_of_isAscii :
    n.text source = String.ofList (source.slice n.start n.stop).characters := by
  rw [text, Bytes.text?_of_isAscii (Bytes.isAscii_slice h _ _), Option.getD_some]

theorem isLegible_of_isAscii : n.isLegible source = true := by
  rw [isLegible, Bytes.text?_of_isAscii (Bytes.isAscii_slice h _ _)]
  rfl

end Syntax.Node

end JsxTagger
