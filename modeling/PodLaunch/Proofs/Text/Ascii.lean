import PodLaunch.Text.Utf8

/-!
# ASCII texts in files

A text of ASCII characters has a byte for each of them, and comes out of a file as it was written,
unless it has carriage returns.
-/

namespace PodLaunch.Text

/-- A character is one of ASCII. -/
def IsAscii (c : Char) : Prop :=
  c.toNat < 128

instance (c : Char) : Decidable (IsAscii c) :=
  inferInstanceAs (Decidable (c.toNat < 128))

/-! ## Bytes -/

/-- The bytes of an array in order. -/
theorem toList_byteArray (bytes : ByteArray) : bytes.toList = bytes.data.toList := by
  have loop (index : Nat) (before : List UInt8) :
      ByteArray.toList.loop bytes index before =
        before.reverse ++ bytes.data.toList.drop index := by
    fun_induction ByteArray.toList.loop bytes index before with
    | case1 index before inside ih =>
      have room : index < bytes.data.toList.length := by
        rw [Array.length_toList]
        exact inside
      have found : bytes.get! index = bytes.data.toList[index] := by
        cases bytes
        exact getElem!_pos _ index (by simpa using room)
      rw [ih, List.drop_eq_getElem_cons room, found]
      simp
    | case2 index before outside =>
      rw [List.drop_eq_nil_of_le (by rw [Array.length_toList]; exact Nat.le_of_not_lt outside),
        List.append_nil]
  rw [ByteArray.toList, loop 0 []]
  rfl

/-- An ASCII character has one byte. -/
theorem utf8EncodeChar_ascii {c : Char} (ascii : IsAscii c) :
    String.utf8EncodeChar c = [c.toNat.toUInt8] := by
  have size : c.utf8Size = 1 := by
    rw [Char.utf8Size_eq_one_iff, UInt32.le_iff_toNat_le]
    exact Nat.le_of_lt_succ ascii
  rw [String.utf8EncodeChar_eq_singleton size]
  rfl

/-- An ASCII text has one byte for each character. -/
theorem encodeUtf8_ascii {chars : List Char} (ascii : ∀ c ∈ chars, IsAscii c) :
    encodeUtf8 (String.ofList chars) = chars.map fun c => c.toNat.toUInt8 := by
  have bytes : encodeUtf8 (String.ofList chars) = chars.flatMap String.utf8EncodeChar := by
    rw [encodeUtf8, toList_byteArray]
    exact (congrArg (fun bytes : ByteArray => bytes.data.toList) String.toByteArray_ofList).trans
      List.toList_data_toByteArray
  rw [bytes]
  clear bytes
  induction chars with
  | nil => rfl
  | cons c rest ih =>
    rw [List.flatMap_cons, utf8EncodeChar_ascii (ascii c List.mem_cons_self),
      ih fun other member => ascii other (List.mem_cons_of_mem _ member)]
    rfl

/-- The byte of an ASCII character is decoded as the character. -/
theorem decodeUtf8From_ascii (offset : Nat) (before : List Char) {chars : List Char}
    (ascii : ∀ c ∈ chars, IsAscii c) :
    decodeUtf8From offset before (chars.map fun c => c.toNat.toUInt8) =
      ⟨before.reverse ++ chars, none⟩ := by
  induction chars generalizing offset before with
  | nil => simp [decodeUtf8From]
  | cons c rest ih =>
    have code : c.toNat.toUInt8.toNat = c.toNat := by
      have small := ascii c List.mem_cons_self
      unfold IsAscii at small
      rw [Nat.toUInt8, UInt8.toNat_ofNat', Nat.mod_eq_of_lt (by omega)]
    have single : c.toNat.toUInt8 < 0x80 := by
      rw [UInt8.lt_iff_toNat_lt, code]
      exact ascii c List.mem_cons_self
    rw [List.map_cons, decodeUtf8From.eq_def]
    dsimp only
    rw [if_pos single, code, Char.ofNat_toNat,
      ih _ _ fun other member => ascii other (List.mem_cons_of_mem _ member)]
    simp

/-! ## Files -/

/-- The bytes of ASCII characters are decoded portion by portion. -/
theorem decodePortions_ascii {count : Nat} {chars : List Char} (ascii : ∀ c ∈ chars, IsAscii c)
    (enough : chars.length + portionSize ≤ portionSize * count) :
    decodePortions count [] (chars.map fun c => c.toNat.toUInt8) = ⟨chars, none⟩ := by
  induction count generalizing chars with
  | zero => exact absurd enough (by rw [portionSize]; omega)
  | succ count ih =>
    have portion : ∀ c ∈ chars.take portionSize, IsAscii c :=
      fun c member => ascii c (List.mem_of_mem_take member)
    have rest := @ih (chars.drop portionSize) fun c member => ascii c (List.mem_of_mem_drop member)
    rw [decodePortions]
    rw [List.nil_append, ← List.map_take, decodeUtf8From_ascii 0 [] portion]
    dsimp only
    rw [List.reverse_nil, List.nil_append]
    split
    · rename_i empty
      rw [List.isEmpty_iff, List.map_eq_nil_iff] at empty
      rw [empty, List.take_nil]
    · rename_i notEmpty
      rw [List.isEmpty_iff, List.map_eq_nil_iff] at notEmpty
      have positive := List.length_pos_iff.2 notEmpty
      rw [← List.map_drop, rest (by
        rw [List.length_drop]
        simp only [portionSize] at enough ⊢
        omega), List.take_append_drop]

/-- Without carriage returns, line ends stay as they are. -/
theorem unifyLineEnds_of_noReturn {chars : List Char} (noReturn : '\r' ∉ chars) :
    unifyLineEnds chars = chars := by
  induction chars with
  | nil => rfl
  | cons c rest ih =>
    have here : c ≠ '\r' := fun same => noReturn (by rw [same]; exact List.mem_cons_self)
    rw [unifyLineEnds, ih fun later => noReturn (List.mem_cons_of_mem _ later)]
    · rintro _ same
      exact absurd same here
    · exact here

/-- An ASCII text without carriage returns comes out of a file as it was written. -/
theorem decodeFile_encodeUtf8 {chars : List Char} (ascii : ∀ c ∈ chars, IsAscii c)
    (noReturn : '\r' ∉ chars) :
    decodeFile (encodeUtf8 (String.ofList chars)) = ⟨chars, none⟩ := by
  rw [encodeUtf8_ascii ascii, decodeFile, decodePortions_ascii ascii]
  · dsimp only
    rw [Option.isSome_none, Bool.false_and, if_neg Bool.false_ne_true,
      unifyLineEnds_of_noReturn noReturn]
  · rw [List.length_map]
    simp only [portionSize]
    omega

end PodLaunch.Text
