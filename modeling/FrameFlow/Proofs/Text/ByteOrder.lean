/-!
The order of texts is that of their bytes: a character with a greater code has a greater
encoding, at a byte that both encodings have.
-/

namespace FrameFlow.Text

def bytes (text : String) : List UInt8 := text.toUTF8.data.toList

theorem bytes_eq_flatMap (text : String) :
    bytes text = text.toList.flatMap String.utf8EncodeChar := by
  rw [bytes, String.toUTF8_eq_toByteArray, ← String.utf8Encode_toList]
  exact List.toList_data_toByteArray

/-- Whatever follows, the encodings of two characters are told apart within themselves. -/
theorem utf8EncodeChar_append_lt {first second : Char} (less : first < second)
    (rest others : List UInt8) :
    String.utf8EncodeChar first ++ rest < String.utf8EncodeChar second ++ others := by
  have codes : first.val.toNat < second.val.toNat := less
  have bound : second.val.toNat < 1114112 := by
    have valid : second.val.toNat < 55296 ∨ _ := second.valid
    omega
  unfold String.utf8EncodeChar
  generalize first.val.toNat = low at codes
  generalize second.val.toNat = high at codes bound
  -- One case for each pair of lengths, from one byte to four.
  dsimp only
  repeat' split
  all_goals
    simp (disch := omega) only [List.cons_append, List.nil_append, List.cons_lt_cons_iff,
      UInt8.lt_iff_toNat_lt, ← UInt8.toNat_inj, UInt8.toNat_ofNat', Nat.mod_eq_of_lt]
    omega

theorem bytes_lt_bytes {first second : String} (less : first < second) :
    bytes first < bytes second := by
  rw [String.lt_iff] at less
  rw [bytes_eq_flatMap, bytes_eq_flatMap]
  generalize first.toList = left at less
  generalize second.toList = right at less
  induction left generalizing right with
  | nil =>
      cases right with
      | nil => exact absurd less (List.not_lt_nil _)
      | cons head tail =>
          obtain ⟨byte, bytes, encoded⟩ :=
            List.exists_cons_of_ne_nil (String.utf8EncodeChar_ne_nil (c := head))
          rw [List.flatMap_cons, encoded]
          exact List.nil_lt_cons ..
  | cons first rest ih =>
      cases right with
      | nil => exact absurd less (List.not_lt_nil _)
      | cons second others =>
          rw [List.flatMap_cons, List.flatMap_cons]
          rcases List.cons_lt_cons_iff.mp less with before | ⟨rfl, later⟩
          · exact utf8EncodeChar_append_lt before _ _
          · exact List.append_left_lt (ih others later)

end FrameFlow.Text
