import RichText.Encoding.SingleByte

/-! # Single bytes for characters

Where a byte stands for the character of its number, reading and writing are inverse to each
other. -/

namespace RichText.Encoding

/-- A text that begins with a character is found if and only if the rest of it is. -/
theorem map_cons_eq_ok_iff {c : Char} {x : Except DecodeFault (List Char)} {s : List Char} :
    (c :: ·) <$> x = .ok s ↔ ∃ text, x = .ok text ∧ s = c :: text := by
  cases x with
  | error fault => exact iff_of_false nofun nofun
  | ok text =>
      constructor
      · intro h
        cases h
        exact ⟨text, rfl, rfl⟩
      · rintro ⟨_, h, rfl⟩
        cases h
        rfl

theorem toNat_ofNat {n : Nat} (h : n.isValidChar) : (Char.ofNat n).toNat = n := by
  rw [Char.ofNat, dif_pos h]
  rfl

theorem eq_ofNat_of_toNat_eq {c : Char} {n : Nat} (h : c.toNat = n) : c = Char.ofNat n := by
  rw [← h, Char.ofNat_toNat]

/-- A byte below a limit is what the character of its number is written as. -/
theorem encodeBelow_map_ofNat {limit : Nat} {bytes : List UInt8}
    (h : ∀ b ∈ bytes, b.toNat < limit) :
    encodeBelow limit (bytes.map fun b => Char.ofNat b.toNat) = some bytes := by
  induction bytes with
  | nil => rfl
  | cons b bytes ih =>
      have hb := h b List.mem_cons_self
      have hbyte := b.toNat_lt
      have hnumber : (Char.ofNat b.toNat).toNat = b.toNat := toNat_ofNat (.inl (by omega))
      have hrest := ih fun b' hb' => h b' (List.mem_cons_of_mem b hb')
      unfold encodeBelow at hrest ⊢
      simp [hnumber, hb, hrest]

/-- What a text is written as has the characters of the text for its numbers. -/
theorem eq_map_ofNat_of_encodeBelow {limit : Nat} (hlimit : limit ≤ 256) {s : List Char}
    {bytes : List UInt8} (h : encodeBelow limit s = some bytes) :
    (∀ b ∈ bytes, b.toNat < limit) ∧ s = bytes.map fun b => Char.ofNat b.toNat := by
  induction s generalizing bytes with
  | nil =>
      cases h
      exact ⟨by simp, rfl⟩
  | cons c s ih =>
      unfold encodeBelow at h
      rw [List.mapM_cons] at h
      obtain ⟨b, hb, h⟩ := Option.bind_eq_some_iff.mp h
      obtain ⟨rest, hrest, h⟩ := Option.bind_eq_some_iff.mp h
      cases h
      obtain ⟨hbelow, rfl⟩ := ih hrest
      split at hb
      · rename_i hc
        cases hb
        have hnumber : c.toNat.toUInt8.toNat = c.toNat := by
          rw [Nat.toUInt8_eq, UInt8.toNat_ofNat']
          omega
        constructor
        · intro b' hb'
          rcases List.mem_cons.mp hb' with rfl | hb'
          · rwa [hnumber]
          · exact hbelow b' hb'
        · rw [List.map_cons, hnumber, Char.ofNat_toNat]
      · cases hb

theorem decodeLatin1_eq_iff {bytes : List UInt8} {s : List Char} :
    decodeLatin1 bytes = s ↔ encodeBelow 0x100 s = some bytes := by
  constructor
  · rintro rfl
    exact encodeBelow_map_ofNat fun b _ => b.toNat_lt
  · intro h
    exact (eq_map_ofNat_of_encodeBelow (by decide) h).2.symm

theorem decodeAsciiFrom_eq_ok_iff {position : Nat} {bytes : List UInt8} {s : List Char} :
    decodeAsciiFrom position bytes = .ok s ↔
      (∀ b ∈ bytes, b.toNat < 0x80) ∧ s = bytes.map fun b => Char.ofNat b.toNat := by
  induction bytes generalizing position s with
  | nil =>
      rw [decodeAsciiFrom]
      simp [eq_comm]
  | cons b bytes ih =>
      have hb : b < 0x80 ↔ b.toNat < 0x80 := UInt8.lt_iff_toNat_lt
      rw [decodeAsciiFrom]
      by_cases h : b < 0x80
      · rw [if_pos h, map_cons_eq_ok_iff]
        simp [ih, hb.mp h, and_assoc]
      · rw [if_neg h]
        refine iff_of_false nofun fun hall => h (hb.mpr ?_)
        exact hall.1 b List.mem_cons_self

theorem decodeAscii_eq_ok_iff {bytes : List UInt8} {s : List Char} :
    decodeAscii bytes = .ok s ↔ encodeBelow 0x80 s = some bytes := by
  rw [decodeAscii, decodeAsciiFrom_eq_ok_iff]
  constructor
  · rintro ⟨hbelow, rfl⟩
    exact encodeBelow_map_ofNat hbelow
  · exact eq_map_ofNat_of_encodeBelow (by decide)

end RichText.Encoding
