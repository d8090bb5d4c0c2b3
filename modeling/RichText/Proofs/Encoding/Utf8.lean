import Mathlib.Data.List.Forall2
import RichText.Encoding.Utf8
import RichText.Proofs.Encoding.SingleByte

/-! # One to four bytes for characters

Reading takes a first byte and as many more as it asks for. What such bytes spell is a character, and
they are what that character is written as; so a text is read from the bytes that it is written as,
and from no others. -/

namespace RichText.Encoding

/-- The bits of a character after more of its bytes. -/
def continued (bits : Nat) (more : List UInt8) : Nat :=
  more.foldl (fun bits b => bits * 64 + b.toNat % 64) bits

/-- Bytes in the ranges that are due, one in each. -/
abbrev Due (due : List ByteRange) (more : List UInt8) : Prop :=
  List.Forall₂ (fun range b => range.has b = true) due more

/-- Bytes from which the rest of a character and the text behind it are read. -/
def Continues (due : List ByteRange) (bits position : Nat) (bytes : List UInt8) (s : List Char) :
    Prop :=
  ∃ more rest text, bytes = more ++ rest ∧ Due due more ∧
    decodeUtf8From (position + more.length) none rest = .ok text ∧
      s = Char.ofNat (continued bits more) :: text

theorem continues_nil_iff {bits position : Nat} {bytes : List UInt8} {s : List Char} :
    Continues [] bits position bytes s ↔
      ∃ text, decodeUtf8From position none bytes = .ok text ∧ s = Char.ofNat bits :: text := by
  constructor
  · rintro ⟨more, rest, text, rfl, hmore, htext, rfl⟩
    cases hmore
    exact ⟨text, htext, rfl⟩
  · rintro ⟨text, htext, rfl⟩
    exact ⟨[], bytes, text, rfl, .nil, htext, rfl⟩

theorem not_continues_nil {range : ByteRange} {due : List ByteRange} {bits position : Nat}
    {s : List Char} : ¬ Continues (range :: due) bits position [] s := by
  rintro ⟨more, rest, text, hbytes, hmore, -⟩
  obtain ⟨rfl, -⟩ := List.append_eq_nil_iff.mp hbytes.symm
  cases hmore

theorem continues_cons_iff {range : ByteRange} {due : List ByteRange} {bits position : Nat}
    {b : UInt8} {bytes : List UInt8} {s : List Char} :
    Continues (range :: due) bits position (b :: bytes) s ↔
      range.has b = true ∧ Continues due (bits * 64 + b.toNat % 64) (position + 1) bytes s := by
  constructor
  · rintro ⟨more, rest, text, hbytes, hmore, htext, rfl⟩
    cases hmore with
    | cons hb hmore =>
        cases hbytes
        refine ⟨hb, _, rest, text, rfl, hmore, ?_, rfl⟩
        rw [List.length_cons, ← Nat.add_assoc, Nat.add_right_comm] at htext
        exact htext
  · rintro ⟨hb, more, rest, text, rfl, hmore, htext, rfl⟩
    refine ⟨b :: more, rest, text, rfl, .cons hb hmore, ?_, rfl⟩
    rw [List.length_cons, ← Nat.add_assoc, Nat.add_right_comm]
    exact htext

/-- A character that has begun is read to its end. -/
theorem decodeUtf8From_begun_iff {c : Begun} (hdue : c.due ≠ []) {position : Nat}
    {bytes : List UInt8} {s : List Char} :
    decodeUtf8From position (some c) bytes = .ok s ↔ Continues c.due c.bits position bytes s := by
  obtain ⟨byte, start, count, bits, due⟩ := c
  -- One range is used up by each byte.
  induction due generalizing count bits position bytes with
  | nil => exact absurd rfl hdue
  | cons range due ih =>
      cases bytes with
      | nil => exact iff_of_false nofun not_continues_nil
      | cons b bytes =>
          rw [decodeUtf8From, continues_cons_iff]
          dsimp only
          by_cases hb : range.has b = true
          · rw [if_pos hb, and_iff_right hb]
            cases due with
            | nil => exact map_cons_eq_ok_iff.trans continues_nil_iff.symm
            | cons range' due => exact ih _ _ (List.cons_ne_nil _ _)
          · rw [if_neg hb]
            exact iff_of_false nofun fun h => hb h.1

/-- A text is read from a first byte and what it asks for. -/
theorem decodeUtf8From_cons_iff {position : Nat} {b : UInt8} {bytes : List UInt8}
    {s : List Char} :
    decodeUtf8From position none (b :: bytes) = .ok s ↔
      ∃ bits due, lead? b = some (bits, due) ∧ Continues due bits (position + 1) bytes s := by
  rw [decodeUtf8From]
  cases hlead : lead? b with
  | none => exact iff_of_false nofun fun ⟨_, _, h, _⟩ => nomatch h
  | some lead =>
      obtain ⟨bits, due⟩ := lead
      have hone : (∃ bits' due', some (bits, due) = some (bits', due') ∧
          Continues due' bits' (position + 1) bytes s) ↔
            Continues due bits (position + 1) bytes s := by
        constructor
        · rintro ⟨bits', due', h, hcontinues⟩
          cases h
          exact hcontinues
        · exact fun h => ⟨bits, due, rfl, h⟩
      rw [hone]
      cases due with
      | nil => exact map_cons_eq_ok_iff.trans continues_nil_iff.symm
      | cons range due => exact decodeUtf8From_begun_iff (List.cons_ne_nil _ _)

/-! ## The bytes of one character -/

theorem ByteRange.has_iff {r : ByteRange} {b : UInt8} :
    r.has b = true ↔ r.first.toNat ≤ b.toNat ∧ b.toNat ≤ r.last.toNat := by
  simp [has, UInt8.le_iff_toNat_le]

theorem ByteRange.continuation_has_iff {b : UInt8} :
    ByteRange.continuation.has b = true ↔ 0x80 ≤ b.toNat ∧ b.toNat ≤ 0xbf :=
  has_iff

/-- The range of a second byte is smaller behind two of the first bytes. -/
theorem ByteRange.second_has_iff {n least most : Nat} {low high b : UInt8} (hne : least ≠ most)
    (hlow : 0x80 ≤ low.toNat) (hhigh : high.toNat ≤ 0xbf) :
    (if n = least then ByteRange.mk low 0xbf
      else if n = most then ⟨0x80, high⟩ else continuation).has b = true ↔
        0x80 ≤ b.toNat ∧ b.toNat ≤ 0xbf ∧ (n = least → low.toNat ≤ b.toNat) ∧
          (n = most → b.toNat ≤ high.toNat) := by
  split
  · simp only [has_iff, UInt8.reduceToNat]
    omega
  · split
    · simp only [has_iff, UInt8.reduceToNat]
      omega
    · rw [continuation_has_iff]
      omega

theorem toUInt8_eq_iff {n : Nat} {b : UInt8} : n.toUInt8 = b ↔ n % 256 = b.toNat := by
  rw [← UInt8.toNat_inj, Nat.toUInt8_eq, UInt8.toNat_ofNat']

section Lead

variable {b : UInt8}

theorem lead?_one (h : b.toNat < 0x80) : lead? b = some (b.toNat, []) :=
  if_pos h

theorem lead?_two (h : 0xc2 ≤ b.toNat) (h' : b.toNat < 0xe0) :
    lead? b = some (b.toNat - 0xc0, [.continuation]) := by
  unfold lead?
  dsimp only
  rw [if_neg (by omega), if_neg (by omega), if_pos h']

/-- The second of three bytes leaves out what two bytes could spell, and surrogates. -/
theorem lead?_three (h : 0xe0 ≤ b.toNat) (h' : b.toNat < 0xf0) :
    ∃ second, lead? b = some (b.toNat - 0xe0, [second, .continuation]) ∧
      ∀ b₁, second.has b₁ = true ↔ 0x80 ≤ b₁.toNat ∧ b₁.toNat ≤ 0xbf ∧
        (b.toNat = 0xe0 → 0xa0 ≤ b₁.toNat) ∧ (b.toNat = 0xed → b₁.toNat ≤ 0x9f) := by
  unfold lead?
  dsimp only
  rw [if_neg (by omega), if_neg (by omega), if_neg (by omega), if_pos h']
  exact ⟨_, rfl, fun b₁ => ByteRange.second_has_iff (by decide) (by decide) (by decide)⟩

/-- The second of four bytes leaves out what three bytes could spell, and what is no character. -/
theorem lead?_four (h : 0xf0 ≤ b.toNat) (h' : b.toNat < 0xf5) :
    ∃ second, lead? b = some (b.toNat - 0xf0, [second, .continuation, .continuation]) ∧
      ∀ b₁, second.has b₁ = true ↔ 0x80 ≤ b₁.toNat ∧ b₁.toNat ≤ 0xbf ∧
        (b.toNat = 0xf0 → 0x90 ≤ b₁.toNat) ∧ (b.toNat = 0xf4 → b₁.toNat ≤ 0x8f) := by
  unfold lead?
  dsimp only
  rw [if_neg (by omega), if_neg (by omega), if_neg (by omega), if_neg (by omega), if_pos h']
  exact ⟨_, rfl, fun b₁ => ByteRange.second_has_iff (by decide) (by decide) (by decide)⟩

theorem lead?_eq_none (h : 0x80 ≤ b.toNat)
    (h' : b.toNat < 0xc2 ∨ 0xf5 ≤ b.toNat) : lead? b = none := by
  unfold lead?
  dsimp only
  rw [if_neg (by omega)]
  rcases h' with h' | h'
  · exact if_pos h'
  · rw [if_neg (by omega), if_neg (by omega), if_neg (by omega), if_neg (by omega)]

end Lead

theorem encodeUtf8Char_one {n : Nat} (h : n < 0x80) :
    encodeUtf8Char (Char.ofNat n) = [n.toUInt8] := by
  rw [encodeUtf8Char, toNat_ofNat (.inl (by omega))]
  exact if_pos h

theorem encodeUtf8Char_two {n : Nat} (h : 0x80 ≤ n) (h' : n < 0x800) :
    encodeUtf8Char (Char.ofNat n) = [(0xc0 + n / 64).toUInt8, (0x80 + n % 64).toUInt8] := by
  rw [encodeUtf8Char, toNat_ofNat (.inl (by omega))]
  simp only [Nat.div_one]
  rw [if_neg (by omega), if_pos h']

theorem encodeUtf8Char_three {n : Nat} (hvalid : n.isValidChar) (h : 0x800 ≤ n)
    (h' : n < 0x10000) :
    encodeUtf8Char (Char.ofNat n) =
      [(0xe0 + n / 4096).toUInt8, (0x80 + n / 64 % 64).toUInt8, (0x80 + n % 64).toUInt8] := by
  rw [encodeUtf8Char, toNat_ofNat hvalid]
  simp only [Nat.div_one]
  rw [if_neg (by omega), if_neg (by omega), if_pos h']

theorem encodeUtf8Char_four {n : Nat} (h : 0x10000 ≤ n) (h' : n < 0x110000) :
    encodeUtf8Char (Char.ofNat n) =
      [(0xf0 + n / 262144).toUInt8, (0x80 + n / 4096 % 64).toUInt8, (0x80 + n / 64 % 64).toUInt8,
        (0x80 + n % 64).toUInt8] := by
  rw [encodeUtf8Char, toNat_ofNat (.inr (by omega))]
  simp only [Nat.div_one]
  rw [if_neg (by omega), if_neg (by omega), if_neg (by omega)]

/-- What a first byte and the bytes it asks for spell is a character that is written as they are. -/
theorem encodeUtf8Char_of_due {b : UInt8} {bits : Nat} {due : List ByteRange} {more : List UInt8}
    (hlead : lead? b = some (bits, due)) (hmore : Due due more) :
    encodeUtf8Char (Char.ofNat (continued bits more)) = b :: more := by
  have hbyte := b.toNat_lt
  -- One case for each number of bytes that the first one asks for.
  by_cases hnone : 0x80 ≤ b.toNat ∧ (b.toNat < 0xc2 ∨ 0xf5 ≤ b.toNat)
  · rw [lead?_eq_none hnone.1 hnone.2] at hlead
    cases hlead
  by_cases hone : b.toNat < 0x80
  · obtain ⟨rfl, rfl⟩ := Prod.mk.inj (Option.some.inj ((lead?_one hone).symm.trans hlead))
    cases hmore
    refine (encodeUtf8Char_one hone).trans (congrArg (fun b => [b]) ?_)
    exact toUInt8_eq_iff.mpr (by omega)
  by_cases htwo : b.toNat < 0xe0
  · have hbits := lead?_two (b := b) (by omega) htwo
    obtain ⟨rfl, rfl⟩ := Prod.mk.inj (Option.some.inj (hbits.symm.trans hlead))
    simp only [List.forall₂_cons_left_iff, List.forall₂_nil_left_iff,
      ByteRange.continuation_has_iff] at hmore
    obtain ⟨b₁, _, h₁, rfl, rfl⟩ := hmore
    simp only [continued, List.foldl_cons, List.foldl_nil]
    rw [encodeUtf8Char_two (by omega) (by omega)]
    simp only [List.cons.injEq, toUInt8_eq_iff, and_true]
    omega
  by_cases hthree : b.toNat < 0xf0
  · obtain ⟨second, hbits, hsecond⟩ := lead?_three (b := b) (by omega) hthree
    obtain ⟨rfl, rfl⟩ := Prod.mk.inj (Option.some.inj (hbits.symm.trans hlead))
    simp only [List.forall₂_cons_left_iff, List.forall₂_nil_left_iff, hsecond,
      ByteRange.continuation_has_iff] at hmore
    obtain ⟨b₁, _, h₁, ⟨b₂, _, h₂, rfl, rfl⟩, rfl⟩ := hmore
    simp only [continued, List.foldl_cons, List.foldl_nil]
    rw [encodeUtf8Char_three (by unfold Nat.isValidChar; omega) (by omega) (by omega)]
    simp only [List.cons.injEq, toUInt8_eq_iff, and_true]
    omega
  · obtain ⟨second, hbits, hsecond⟩ := lead?_four (b := b) (by omega) (by omega)
    obtain ⟨rfl, rfl⟩ := Prod.mk.inj (Option.some.inj (hbits.symm.trans hlead))
    simp only [List.forall₂_cons_left_iff, List.forall₂_nil_left_iff, hsecond,
      ByteRange.continuation_has_iff] at hmore
    obtain ⟨b₁, _, h₁, ⟨b₂, _, h₂, ⟨b₃, _, h₃, rfl, rfl⟩, rfl⟩, rfl⟩ := hmore
    simp only [continued, List.foldl_cons, List.foldl_nil]
    rw [encodeUtf8Char_four (by omega) (by omega)]
    simp only [List.cons.injEq, toUInt8_eq_iff, and_true]
    omega

/-- Every character is written as a first byte and what it asks for. -/
theorem exists_due_of_encodeUtf8Char (c : Char) :
    ∃ b bits due more, encodeUtf8Char c = b :: more ∧ lead? b = some (bits, due) ∧ Due due more ∧
      Char.ofNat (continued bits more) = c := by
  have hvalid : c.toNat.isValidChar := c.valid
  generalize hn : c.toNat = n at hvalid
  obtain rfl := eq_ofNat_of_toNat_eq hn
  unfold Nat.isValidChar at hvalid
  have hbyte : ∀ m, m < 256 → m.toUInt8.toNat = m := fun m hm =>
    (toUInt8_eq_iff.mp rfl).symm.trans (Nat.mod_eq_of_lt hm)
  by_cases hone : n < 0x80
  · refine ⟨_, _, _, _, encodeUtf8Char_one hone, lead?_one ?_, .nil, ?_⟩
    · rw [hbyte _ (by omega)]
      exact hone
    · rw [hbyte _ (by omega)]
      rfl
  by_cases htwo : n < 0x800
  · have h₀ := hbyte (0xc0 + n / 64) (by omega)
    have h₁ := hbyte (0x80 + n % 64) (by omega)
    refine ⟨_, _, _, _, encodeUtf8Char_two (by omega) htwo, lead?_two (by omega) (by omega), ?_, ?_⟩
    · exact .cons (ByteRange.continuation_has_iff.mpr (by omega)) .nil
    · simp only [continued, List.foldl_cons, List.foldl_nil, h₀, h₁]
      congr 1
      omega
  by_cases hthree : n < 0x10000
  · have h₀ := hbyte (0xe0 + n / 4096) (by omega)
    have h₁ := hbyte (0x80 + n / 64 % 64) (by omega)
    have h₂ := hbyte (0x80 + n % 64) (by omega)
    obtain ⟨second, hbits, hsecond⟩ := lead?_three (b := (0xe0 + n / 4096).toUInt8) (by omega)
      (by omega)
    refine ⟨_, _, _, _, encodeUtf8Char_three hvalid (by omega) hthree, hbits, ?_, ?_⟩
    · refine .cons ((hsecond _).mpr (by omega)) (.cons ?_ .nil)
      exact ByteRange.continuation_has_iff.mpr (by omega)
    · simp only [continued, List.foldl_cons, List.foldl_nil, h₀, h₁, h₂]
      congr 1
      omega
  · have h₀ := hbyte (0xf0 + n / 262144) (by omega)
    have h₁ := hbyte (0x80 + n / 4096 % 64) (by omega)
    have h₂ := hbyte (0x80 + n / 64 % 64) (by omega)
    have h₃ := hbyte (0x80 + n % 64) (by omega)
    obtain ⟨second, hbits, hsecond⟩ := lead?_four (b := (0xf0 + n / 262144).toUInt8) (by omega)
      (by omega)
    refine ⟨_, _, _, _, encodeUtf8Char_four (by omega) (by omega), hbits, ?_, ?_⟩
    · refine .cons ((hsecond _).mpr (by omega)) (.cons ?_ (.cons ?_ .nil))
      · exact ByteRange.continuation_has_iff.mpr (by omega)
      · exact ByteRange.continuation_has_iff.mpr (by omega)
    · simp only [continued, List.foldl_cons, List.foldl_nil, h₀, h₁, h₂, h₃]
      congr 1
      omega

/-- A text is read from the bytes that it is written as, and from no others. -/
theorem decodeUtf8From_eq_ok_iff {position : Nat} {bytes : List UInt8} {s : List Char} :
    decodeUtf8From position none bytes = .ok s ↔ encodeUtf8 s = bytes := by
  constructor
  · intro h
    induction hlength : bytes.length using Nat.strongRecOn
      generalizing position bytes s with
    | _ length ih =>
      cases bytes with
      | nil =>
          cases h
          rfl
      | cons b bytes =>
          obtain ⟨bits, due, hlead, more, rest, text, rfl, hmore, htext, rfl⟩ :=
            decodeUtf8From_cons_iff.mp h
          have hrest : rest.length < length := by
            rw [← hlength, List.length_cons, List.length_append]
            omega
          have hencoded := ih _ hrest htext rfl
          rw [encodeUtf8, List.flatMap_cons, encodeUtf8Char_of_due hlead hmore, List.cons_append]
          exact congrArg (fun rest => b :: (more ++ rest)) hencoded
  · rintro rfl
    induction s generalizing position with
    | nil => rfl
    | cons c s ih =>
        obtain ⟨b, bits, due, more, hbytes, hlead, hmore, hc⟩ := exists_due_of_encodeUtf8Char c
        rw [encodeUtf8, List.flatMap_cons, hbytes, List.cons_append, decodeUtf8From_cons_iff]
        exact ⟨bits, due, hlead, more, _, s, rfl, hmore, ih, by rw [hc]⟩

end RichText.Encoding
