import CrateSurface.Files.Utf8

namespace CrateSurface.Utf8

section Bytes

theorem toList_loop (bytes : ByteArray) (i : Nat) (reversed : List UInt8) :
    ByteArray.toList.loop bytes i reversed = reversed.reverse ++ bytes.data.toList.drop i := by
  fun_induction ByteArray.toList.loop bytes i reversed with
  | case1 i reversed inside ih =>
    have bound : i < bytes.data.toList.length := inside
    have byte : bytes.get! i = bytes.data.toList[i] := getElem!_pos bytes.data i inside
    rw [ih, List.drop_eq_getElem_cons bound, byte, List.reverse_cons, List.append_assoc,
      List.singleton_append]
  | case2 i reversed outside =>
    have done : bytes.data.toList.length ≤ i := Nat.not_lt.mp outside
    rw [List.drop_eq_nil_of_le done, List.append_nil]

/-- A text is encoded character by character. -/
theorem encode_eq (s : String) : encode s = s.toList.flatMap String.utf8EncodeChar := by
  have bytes : s.toUTF8 = (s.toList.flatMap String.utf8EncodeChar).toByteArray := by
    rw [String.toUTF8_eq_toByteArray, ← String.ofList_toList (s := s), String.toByteArray_ofList,
      String.toList_ofList]
    rfl
  rw [encode, bytes, ByteArray.toList, toList_loop, List.toList_data_toByteArray]
  rfl

end Bytes

/-- A character that one byte stands for. -/
def IsAscii (c : Char) : Prop :=
  c.toNat < 0x80

instance : DecidablePred IsAscii :=
  fun c => inferInstanceAs (Decidable (c.toNat < 0x80))

variable {cs : List Char}

/-- The byte of a character of ASCII. -/
def asciiByte (c : Char) : UInt8 :=
  UInt8.ofNat c.toNat

theorem toNat_asciiByte {c : Char} (ascii : IsAscii c) : (asciiByte c).toNat = c.toNat :=
  UInt8.toNat_ofNat_of_lt' (Nat.lt_trans ascii (by decide))

theorem utf8EncodeChar_of_ascii {c : Char} (ascii : IsAscii c) :
    String.utf8EncodeChar c = [asciiByte c] := by
  have one : c.utf8Size = 1 := by
    rw [Char.utf8Size_eq_one_iff, UInt32.le_iff_toNat_le]
    exact Nat.le_of_lt_succ ascii
  rw [String.utf8EncodeChar_eq_singleton one]
  rfl

/-- An ASCII text has one byte for each character. -/
theorem encode_of_ascii {s : String} (ascii : ∀ c ∈ s.toList, IsAscii c) :
    encode s = s.toList.map asciiByte := by
  rw [encode_eq]
  generalize s.toList = cs at ascii ⊢
  induction cs with
  | nil => rfl
  | cons c cs ih =>
    obtain ⟨own, others⟩ := List.forall_mem_cons.mp ascii
    rw [List.flatMap_cons, utf8EncodeChar_of_ascii own, ih others]
    rfl

theorem decodeFrom_ascii (ascii : ∀ c ∈ cs, IsAscii c) :
    ∀ position, decodeFrom position 0 (cs.map asciiByte) = .ok cs := by
  induction cs with
  | nil => intro position; rfl
  | cons c cs ih =>
    intro position
    obtain ⟨own, others⟩ := List.forall_mem_cons.mp ascii
    have small : asciiByte c < 0x80 := by
      rw [UInt8.lt_iff_toNat_lt, toNat_asciiByte own]
      exact own
    have char : step (asciiByte c) (cs.map asciiByte) = .char c 1 := by
      have single : trailing? (asciiByte c) = some 0 := if_pos small
      simp only [step, single, toNat_asciiByte own, Char.ofNat_toNat]
    rw [List.map_cons, decodeFrom, char]
    change (decodeFrom (position + 1) 0 (cs.map asciiByte) >>= fun cs => pure (c :: cs)) = _
    rw [ih others]
    rfl

/-- A text of ASCII is stored as one byte a character, and read as itself. -/
theorem decode_encode_of_ascii {s : String} (ascii : ∀ c ∈ s.toList, IsAscii c) :
    (∀ b ∈ encode s, b < 0x80) ∧ decode (encode s) = .ok s.toList := by
  rw [encode_of_ascii ascii]
  refine ⟨?_, decodeFrom_ascii ascii 0⟩
  intro b member
  obtain ⟨c, among, rfl⟩ := List.mem_map.mp member
  rw [UInt8.lt_iff_toNat_lt, toNat_asciiByte (ascii c among)]
  exact ascii c among

end CrateSurface.Utf8
