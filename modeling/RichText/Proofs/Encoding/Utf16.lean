import RichText.Encoding.Utf16
import RichText.Proofs.Encoding.SingleByte

/-! # One or two units for characters

A unit is found in its two bytes in either order. A text is read from the bytes that it is written
as, and from no others: pairs of surrogates spell the characters beyond the reach of one unit, and
surrogates by themselves spell nothing. -/

namespace RichText.Encoding

variable (order : ByteOrder)

namespace ByteOrder

/-- The bytes that make up a unit are those it is written as. -/
theorem bytes_unit (a b : UInt8) : order.bytes (order.unit a b) = [a, b] := by
  have hsplit : ∀ high low : UInt8, (high.toNat * 256 + low.toNat) % 256 = low.toNat ∧
      (high.toNat * 256 + low.toNat) / 256 = high.toNat := by
    intro high low
    have hlow := low.toNat_lt
    omega
  cases order <;> simp only [bytes, unit, hsplit, Nat.toUInt8_eq, UInt8.ofNat_toNat]

/-- Every unit is made up of two bytes. -/
theorem exists_unit_eq {n : Nat} (h : n < 0x10000) : ∃ a b, order.unit a b = n := by
  have hlow : (UInt8.ofNat (n % 256)).toNat = n % 256 := by
    rw [UInt8.toNat_ofNat']
    omega
  have hhigh : (UInt8.ofNat (n / 256)).toNat = n / 256 := by
    rw [UInt8.toNat_ofNat']
    omega
  cases order with
  | little => exact ⟨.ofNat (n % 256), .ofNat (n / 256), by rw [unit, hlow, hhigh]; omega⟩
  | big => exact ⟨.ofNat (n / 256), .ofNat (n % 256), by rw [unit, hlow, hhigh]; omega⟩

theorem unit_lt (a b : UInt8) : order.unit a b < 0x10000 := by
  have ha := a.toNat_lt
  have hb := b.toNat_lt
  cases order <;> rw [unit] <;> omega

end ByteOrder

/-! ## The units of one character -/

theorem isHighSurrogate_iff {n : Nat} : isHighSurrogate n = true ↔ 0xd800 ≤ n ∧ n < 0xdc00 := by
  simp [isHighSurrogate]

theorem isLowSurrogate_iff {n : Nat} : isLowSurrogate n = true ↔ 0xdc00 ≤ n ∧ n < 0xe000 := by
  simp [isLowSurrogate]

section Units

variable {order} {a b c d : UInt8} {rest : List UInt8} {position : Nat}

theorem decodeUtf16From_unit (hlow : ¬ isLowSurrogate (order.unit a b) = true)
    (hhigh : ¬ isHighSurrogate (order.unit a b) = true) :
    decodeUtf16From order position (a :: b :: rest) =
      (Char.ofNat (order.unit a b) :: ·) <$> decodeUtf16From order (position + 2) rest := by
  rw [decodeUtf16From.eq_def]
  dsimp only
  rw [if_neg hlow, if_neg hhigh]

theorem decodeUtf16From_pair (hhigh : isHighSurrogate (order.unit a b) = true)
    (hlow : isLowSurrogate (order.unit c d) = true) :
    decodeUtf16From order position (a :: b :: c :: d :: rest) =
      (Char.ofNat
        (0x10000 + (order.unit a b - 0xd800) * 0x400 + (order.unit c d - 0xdc00)) :: ·) <$>
          decodeUtf16From order (position + 4) rest := by
  have hfirst : ¬ isLowSurrogate (order.unit a b) = true := by
    rw [isHighSurrogate_iff] at hhigh
    rw [isLowSurrogate_iff]
    omega
  rw [decodeUtf16From.eq_def]
  dsimp only
  rw [if_neg hfirst, if_pos hhigh, if_pos hlow]

/-- A unit that is no surrogate is what the character of its number is written as. -/
theorem encodeUtf16Char_unit (hlow : ¬ isLowSurrogate (order.unit a b) = true)
    (hhigh : ¬ isHighSurrogate (order.unit a b) = true) :
    encodeUtf16Char order (Char.ofNat (order.unit a b)) = [a, b] := by
  have hunit := order.unit_lt a b
  have hvalid : (order.unit a b).isValidChar := by
    rw [isLowSurrogate_iff] at hlow
    rw [isHighSurrogate_iff] at hhigh
    unfold Nat.isValidChar
    omega
  rw [encodeUtf16Char, toNat_ofNat hvalid]
  exact (if_pos hunit).trans (order.bytes_unit a b)

/-- A pair of surrogates is what the character that it spells is written as. -/
theorem encodeUtf16Char_pair (hhigh : isHighSurrogate (order.unit a b) = true)
    (hlow : isLowSurrogate (order.unit c d) = true) :
    encodeUtf16Char order (Char.ofNat
      (0x10000 + (order.unit a b - 0xd800) * 0x400 + (order.unit c d - 0xdc00))) =
        [a, b, c, d] := by
  rw [isHighSurrogate_iff] at hhigh
  rw [isLowSurrogate_iff] at hlow
  have hfirst : 0xd800 + (0x10000 + (order.unit a b - 0xd800) * 0x400 +
      (order.unit c d - 0xdc00) - 0x10000) / 0x400 = order.unit a b := by omega
  have hsecond : 0xdc00 + (0x10000 + (order.unit a b - 0xd800) * 0x400 +
      (order.unit c d - 0xdc00) - 0x10000) % 0x400 = order.unit c d := by omega
  rw [encodeUtf16Char, toNat_ofNat (.inr (by omega)), if_neg (by omega), hfirst, hsecond,
    order.bytes_unit, order.bytes_unit]
  rfl

end Units

/-- What a character is written as is read as the character. -/
theorem decodeUtf16From_encodeUtf16Char_append (c : Char) (rest : List UInt8) (position : Nat) :
    ∃ position', decodeUtf16From order position (encodeUtf16Char order c ++ rest) =
      (c :: ·) <$> decodeUtf16From order position' rest := by
  have hvalid : c.toNat.isValidChar := c.valid
  generalize hn : c.toNat = n at hvalid
  obtain rfl := eq_ofNat_of_toNat_eq hn
  unfold Nat.isValidChar at hvalid
  by_cases h : n < 0x10000
  · obtain ⟨a, b, rfl⟩ := order.exists_unit_eq h
    have hlow : ¬ isLowSurrogate (order.unit a b) = true := by
      rw [isLowSurrogate_iff]
      omega
    have hhigh : ¬ isHighSurrogate (order.unit a b) = true := by
      rw [isHighSurrogate_iff]
      omega
    rw [encodeUtf16Char_unit hlow hhigh]
    exact ⟨_, decodeUtf16From_unit hlow hhigh⟩
  · obtain ⟨a, b, hab⟩ := order.exists_unit_eq (n := 0xd800 + (n - 0x10000) / 0x400) (by omega)
    obtain ⟨c, d, hcd⟩ := order.exists_unit_eq (n := 0xdc00 + (n - 0x10000) % 0x400) (by omega)
    have hhigh : isHighSurrogate (order.unit a b) = true := by
      rw [isHighSurrogate_iff]
      omega
    have hlow : isLowSurrogate (order.unit c d) = true := by
      rw [isLowSurrogate_iff]
      omega
    have hspelled : n =
        0x10000 + (order.unit a b - 0xd800) * 0x400 + (order.unit c d - 0xdc00) := by omega
    rw [hspelled, encodeUtf16Char_pair hhigh hlow]
    exact ⟨_, decodeUtf16From_pair hhigh hlow⟩

theorem encodeUtf16_of_decodeUtf16From {position : Nat} {bytes : List UInt8} :
    ∀ s, decodeUtf16From order position bytes = .ok s → encodeUtf16 order s = bytes := by
  fun_induction decodeUtf16From order position bytes with
  | case1 position =>
      intro s h
      cases h
      rfl
  | case2 | case3 | case4 | case5 | case7 => nofun
  | case6 position a b first hlow hhigh c d rest second hsecond n ih =>
      intro s h
      obtain ⟨text, htext, rfl⟩ := map_cons_eq_ok_iff.mp h
      rw [encodeUtf16, List.flatMap_cons, encodeUtf16Char_pair hhigh hsecond]
      exact congrArg ([a, b, c, d] ++ ·) (ih text htext)
  | case8 position a b rest first hlow hhigh ih =>
      intro s h
      obtain ⟨text, htext, rfl⟩ := map_cons_eq_ok_iff.mp h
      rw [encodeUtf16, List.flatMap_cons, encodeUtf16Char_unit hlow hhigh]
      exact congrArg ([a, b] ++ ·) (ih text htext)

/-- A text is read from the bytes that it is written as, and from no others. -/
theorem decodeUtf16From_eq_ok_iff {position : Nat} {bytes : List UInt8} {s : List Char} :
    decodeUtf16From order position bytes = .ok s ↔ encodeUtf16 order s = bytes := by
  refine ⟨encodeUtf16_of_decodeUtf16From order s, ?_⟩
  rintro rfl
  induction s generalizing position with
  | nil => rfl
  | cons c s ih =>
      obtain ⟨position', hread⟩ :=
        decodeUtf16From_encodeUtf16Char_append order c (encodeUtf16 order s) position
      rw [encodeUtf16, List.flatMap_cons, ← encodeUtf16, hread]
      exact map_cons_eq_ok_iff.mpr ⟨s, ih, rfl⟩

end RichText.Encoding
