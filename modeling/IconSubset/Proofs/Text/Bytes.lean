import IconSubset.Text.ByteString
import Mathlib.Data.List.Basic
import Mathlib.Tactic.SplitIfs

/-!
# The bytes of texts

Texts are compared character by character. Comparing their bytes in UTF-8 gives the same order
(`bytes_lt_iff`), since the bytes of the smaller of two characters come first whatever follows them
(`utf8EncodeChar_lt`).

Bytes that are those of a text are read as that text and no other (`ByteString.text?_eq_some_iff`).
-/

namespace IconSubset

namespace Text

/-- The bytes of a text in UTF-8. -/
def bytes (s : String) : List UInt8 := s.toUTF8.data.toList

/-- The bytes of a text are those of its characters, one after the other. -/
theorem bytes_eq (s : String) : bytes s = s.toList.flatMap String.utf8EncodeChar := by
  have hbytes : s.toUTF8 = (s.toList.flatMap String.utf8EncodeChar).toByteArray := by
    conv_lhs => rw [← String.ofList_toList (s := s)]
    rfl
  unfold bytes
  rw [hbytes, List.data_toByteArray]

/-- The bytes of the smaller of two characters come first, whatever follows them. -/
theorem utf8EncodeChar_lt {c d : Char} (h : c < d) (xs ys : List UInt8) :
    String.utf8EncodeChar c ++ xs < String.utf8EncodeChar d ++ ys := by
  have hlt : c.val.toNat < d.val.toNat := h
  have hd : d.val.toNat < 0x110000 := by
    obtain hlow | ⟨-, hhigh⟩ := d.valid
    · omega
    · exact hhigh
  -- The bytes after the first are digits of one number in base 64.
  have hdigits (n : Nat) : n / 4096 = n / 64 / 64 ∧ n / 262144 = n / 64 / 64 / 64 := by omega
  unfold String.utf8EncodeChar
  simp only [hdigits]
  -- With fewer bytes the first byte is smaller; otherwise the first digit that differs is.
  split_ifs <;>
    simp only [List.cons_append, List.nil_append, List.cons_lt_cons_iff, UInt8.lt_iff_toNat_lt,
      ← UInt8.toNat_inj, UInt8.toNat_ofNat'] <;>
    omega

/-- Smaller texts have smaller bytes. -/
theorem flatMap_utf8EncodeChar_lt {cs ds : List Char} (h : cs < ds) :
    cs.flatMap String.utf8EncodeChar < ds.flatMap String.utf8EncodeChar := by
  induction h with
  | @nil d ds =>
    obtain ⟨b, more, hd⟩ := List.exists_cons_of_ne_nil (String.utf8EncodeChar_ne_nil (c := d))
    rw [List.flatMap_nil, List.flatMap_cons, hd]
    exact List.nil_lt_cons _ _
  | rel h => exact utf8EncodeChar_lt h _ _
  | cons _ ih => exact List.append_left_lt ih

/-- The order of texts is that of their bytes. -/
theorem bytes_lt_iff {a b : String} : bytes a < bytes b ↔ a < b := by
  rw [bytes_eq, bytes_eq]
  constructor
  · intro h
    obtain hlt | rfl | hgt := Std.lt_trichotomy a b
    · exact hlt
    · exact absurd h (List.lt_irrefl _)
    · exact absurd (List.lt_trans h (flatMap_utf8EncodeChar_lt hgt)) (List.lt_irrefl _)
  · exact flatMap_utf8EncodeChar_lt

end Text

namespace ByteString

/-- The bytes of two texts one after the other. -/
@[simp]
theorem bytes_append (a b : ByteString) : (a ++ b).bytes = a.bytes ++ b.bytes := rfl

/-- The empty text has no bytes. -/
theorem eq_empty_iff {b : ByteString} : b = "" ↔ b.bytes = [] := ByteString.ext_iff

/-- The bytes of a text. -/
theorem bytes_ofString (s : String) : (ofString s).bytes = Text.bytes s := (Text.bytes_eq s).symm

/-- Bytes are those of a text exactly when they are read as that text. -/
theorem text?_eq_some_iff {b : ByteString} {s : String} : b.text? = some s ↔ b = ofString s := by
  have hbytes : b = ofString s ↔ b.bytes.toByteArray = s.toByteArray := by
    obtain ⟨bytes⟩ := b
    rw [ofString, ← Text.bytes_eq, ByteString.mk.injEq, ByteArray.ext_iff, List.data_toByteArray]
    exact ⟨fun h => h ▸ rfl, fun h => congrArg Array.toList h⟩
  unfold text? String.fromUTF8?
  split_ifs with h
  · rw [Option.some.injEq, ← String.toByteArray_inj, hbytes]
    rfl
  · refine iff_of_false nofun fun he => h ?_
    rw [hbytes.1 he]
    exact s.isValidUTF8

/-- A text is read as itself. -/
@[simp]
theorem text?_ofString (s : String) : (ofString s).text? = some s := text?_eq_some_iff.2 rfl

/-- Texts with the same bytes are the same. -/
theorem ofString_injective : Function.Injective ofString := fun s t h =>
  Option.some.inj ((text?_ofString s).symm.trans (h ▸ text?_ofString t))

/-- A text is shown as itself. -/
@[simp]
theorem shown_ofString (s : String) : (ofString s).shown = s := by
  unfold shown
  rw [text?_ofString]

end ByteString

end IconSubset
