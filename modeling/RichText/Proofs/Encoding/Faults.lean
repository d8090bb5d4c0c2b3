import RichText.Proofs.Encoding.Utf8

/-! # Where bytes stop being text

Reading stops at the first byte that no character begins with, or whose character is broken off. The
bytes before it are the longest part in front that is text, and the fault says that the data ended
too soon if and only if more bytes could have made a text of it. -/

namespace RichText.Encoding

/-- Bytes that some text is written as. -/
def IsUtf8 (bytes : List UInt8) : Prop :=
  ∃ s : List Char, s.flatMap String.utf8EncodeChar = bytes

/-- Bytes below 128. -/
def IsAscii (bytes : List UInt8) : Prop := ∀ b ∈ bytes, b.toNat < 0x80

/-- What a fault says of bytes, if `valid` tells which bytes are text. -/
structure Pinpoints (valid : List UInt8 → Prop) (codec : Codec) (bytes : List UInt8)
    (f : DecodeFault) : Prop where
  codec_eq : f.codec = codec
  valid_take : valid (bytes.take f.start)
  longest : ∀ p, p <+: bytes → valid p → p.length ≤ f.start
  byte_eq : bytes[f.start]? = some f.byte
  start_lt : f.start < f.stop
  stop_le : f.stop ≤ bytes.length
  unexpectedEnd_iff : f.reason = .unexpectedEnd ↔ ∃ more, valid (bytes ++ more)

/-- A fault at the first of some bytes, which stands at `position`: no text begins there. -/
structure StopsAt (valid : List UInt8 → Prop) (codec : Codec) (position : Nat)
    (bytes : List UInt8) (f : DecodeFault) : Prop where
  codec_eq : f.codec = codec
  start_eq : f.start = position
  byte_eq : bytes.head? = some f.byte
  lt_stop : position < f.stop
  stop_le : f.stop ≤ position + bytes.length
  eq_nil : ∀ p, p <+: bytes → valid p → p = []
  unexpectedEnd_iff : f.reason = .unexpectedEnd ↔ ∃ more, valid (bytes ++ more)

section Valid

variable {valid : List UInt8 → Prop} {codec : Codec} {done rest : List UInt8} {f : DecodeFault}

/-- Where text can be cut off in front, a fault behind text is the first one. -/
theorem StopsAt.pinpoints (hcut : ∀ a b, valid a → (valid (a ++ b) ↔ valid b))
    (hdone : valid done) (h : StopsAt valid codec done.length rest f) :
    Pinpoints valid codec (done ++ rest) f where
  codec_eq := h.codec_eq
  valid_take := by rwa [h.start_eq, List.take_left]
  longest p hp hvalid := by
    rw [h.start_eq]
    by_contra hlong
    -- A longer part in front would be text behind `done` as well.
    obtain ⟨q, rfl⟩ : done <+: p :=
      List.prefix_of_prefix_length_le (List.prefix_append _ _) hp (by omega)
    have hq : q = [] :=
      h.eq_nil q ((List.prefix_append_right_inj done).mp hp) ((hcut done q hdone).mp hvalid)
    rw [hq, List.append_nil] at hlong
    exact hlong (Nat.le_refl _)
  byte_eq := by
    rw [h.start_eq, List.getElem?_append_right (Nat.le_refl _), Nat.sub_self, ← List.head?_eq_getElem?]
    exact h.byte_eq
  start_lt := by
    rw [h.start_eq]
    exact h.lt_stop
  stop_le := by
    rw [List.length_append]
    exact h.stop_le
  unexpectedEnd_iff := by
    rw [h.unexpectedEnd_iff]
    refine exists_congr fun more => ?_
    rw [List.append_assoc, hcut done _ hdone]

/-- A byte that no text begins with is a fault of its own. -/
theorem StopsAt.of_byte {b : UInt8} {reason : Reason} (hno : ∀ bytes, ¬ valid (b :: bytes))
    (hreason : reason ≠ .unexpectedEnd) (position : Nat) :
    StopsAt valid codec position (b :: rest) ⟨codec, b, position, position + 1, reason⟩ where
  codec_eq := rfl
  start_eq := rfl
  byte_eq := rfl
  lt_stop := Nat.lt_succ_self _
  stop_le := by simp
  eq_nil p hp hvalid := by
    cases p with
    | nil => rfl
    | cons b' p =>
        obtain ⟨rfl, -⟩ := List.cons_prefix_cons.mp hp
        exact (hno p hvalid).elim
  unexpectedEnd_iff := iff_of_false hreason fun ⟨more, hmore⟩ => hno (rest ++ more) hmore

end Valid

/-! ## Single bytes -/

/-- A fault behind a character is one of the bytes behind it. -/
theorem eq_error_of_map_cons {c : Char} {x : Except DecodeFault (List Char)} {f : DecodeFault}
    (h : (c :: ·) <$> x = .error f) : x = .error f := by
  cases x with
  | ok s => cases h
  | error f' =>
      cases h
      rfl

theorem isAscii_append_iff {a b : List UInt8} : IsAscii (a ++ b) ↔ IsAscii a ∧ IsAscii b :=
  List.forall_mem_append

theorem exists_decodeAsciiFrom_iff {position : Nat} {bytes : List UInt8} :
    (∃ s, decodeAsciiFrom position bytes = .ok s) ↔ IsAscii bytes := by
  simp only [decodeAsciiFrom_eq_ok_iff, exists_and_left, exists_eq, and_true]
  rfl

/-- A fault lies behind bytes below 128, at one that is not. -/
theorem exists_stopsAt_of_decodeAsciiFrom {position : Nat} {bytes : List UInt8} {f : DecodeFault}
    (h : decodeAsciiFrom position bytes = .error f) :
    ∃ done rest, bytes = done ++ rest ∧ IsAscii done ∧
      StopsAt IsAscii .ascii (position + done.length) rest f := by
  induction bytes generalizing position with
  | nil => cases h
  | cons b bytes ih =>
      have hb : b < 0x80 ↔ b.toNat < 0x80 := UInt8.lt_iff_toNat_lt
      rw [decodeAsciiFrom] at h
      by_cases hlow : b < 0x80
      · rw [if_pos hlow] at h
        obtain ⟨done, rest, rfl, hdone, hstops⟩ := ih (eq_error_of_map_cons h)
        refine ⟨b :: done, rest, rfl, List.forall_mem_cons.mpr ⟨hb.mp hlow, hdone⟩, ?_⟩
        rwa [List.length_cons, ← Nat.add_assoc, Nat.add_right_comm]
      · rw [if_neg hlow] at h
        cases h
        have hno : ∀ bytes, ¬ IsAscii (b :: bytes) := fun bytes hall =>
          hlow (hb.mpr (hall b List.mem_cons_self))
        exact ⟨[], b :: bytes, rfl, by simp [IsAscii], .of_byte hno (by decide) position⟩

theorem pinpoints_decodeAscii {bytes : List UInt8} {f : DecodeFault}
    (h : decodeAscii bytes = .error f) : Pinpoints IsAscii .ascii bytes f := by
  obtain ⟨done, rest, rfl, hdone, hstops⟩ := exists_stopsAt_of_decodeAsciiFrom h
  rw [Nat.zero_add] at hstops
  exact hstops.pinpoints (fun a b ha => isAscii_append_iff.trans (and_iff_right ha)) hdone

/-! ## One to four bytes -/

/-- The bytes of a character are those that the standard library writes. -/
theorem encodeUtf8Char_eq (c : Char) : encodeUtf8Char c = String.utf8EncodeChar c := by
  have hvalid : c.toNat.isValidChar := c.valid
  have hval : c.val.toNat = c.toNat := rfl
  unfold Nat.isValidChar at hvalid
  unfold encodeUtf8Char String.utf8EncodeChar
  simp only [hval, Nat.div_one, Nat.toUInt8_eq]
  generalize c.toNat = n at hvalid
  by_cases hone : n < 0x80
  · rw [if_pos hone, if_pos (by omega)]
  by_cases htwo : n < 0x800
  · rw [if_neg hone, if_pos htwo, if_neg (by omega), if_pos (by omega)]
    simp only [List.cons.injEq, and_true, ← UInt8.toNat_inj, UInt8.toNat_ofNat']
    omega
  by_cases hthree : n < 0x10000
  · rw [if_neg hone, if_neg htwo, if_pos hthree, if_neg (by omega), if_neg (by omega),
      if_pos (by omega)]
    simp only [List.cons.injEq, and_true, ← UInt8.toNat_inj, UInt8.toNat_ofNat']
    omega
  · rw [if_neg hone, if_neg htwo, if_neg hthree, if_neg (by omega), if_neg (by omega),
      if_neg (by omega)]
    simp only [List.cons.injEq, and_true, ← UInt8.toNat_inj, UInt8.toNat_ofNat']
    omega

theorem isUtf8_iff_decode (position : Nat) {bytes : List UInt8} :
    IsUtf8 bytes ↔ ∃ s, decodeUtf8From position none bytes = .ok s := by
  refine exists_congr fun s => ?_
  rw [decodeUtf8From_eq_ok_iff, encodeUtf8, funext encodeUtf8Char_eq]

theorem isUtf8_nil : IsUtf8 [] := ⟨[], rfl⟩

/-- Bytes that go on with the bytes that are due and then with a text. -/
def Completes (due : List ByteRange) (bytes : List UInt8) : Prop :=
  ∃ more rest, bytes = more ++ rest ∧ Due due more ∧ IsUtf8 rest

section Completes

variable {range : ByteRange} {due : List ByteRange} {b : UInt8} {bytes more rest : List UInt8}

theorem not_completes_nil : ¬ Completes (range :: due) [] := by
  rintro ⟨more, rest, hbytes, hmore, -⟩
  obtain ⟨rfl, -⟩ := List.append_eq_nil_iff.mp hbytes.symm
  cases hmore

theorem completes_cons_iff :
    Completes (range :: due) (b :: bytes) ↔ range.has b = true ∧ Completes due bytes := by
  constructor
  · rintro ⟨more, rest, hbytes, hmore, hrest⟩
    cases hmore with
    | cons hb hmore =>
        cases hbytes
        exact ⟨hb, _, rest, rfl, hmore, hrest⟩
  · rintro ⟨hb, more, rest, rfl, hmore, hrest⟩
    exact ⟨b :: more, rest, rfl, .cons hb hmore, hrest⟩

/-- As many bytes are taken as are due. -/
theorem completes_append_iff (hmore : Due due more) :
    Completes due (more ++ rest) ↔ IsUtf8 rest := by
  constructor
  · rintro ⟨more', rest', happend, hmore', hrest⟩
    have hlength : more.length = more'.length := hmore.length_eq.symm.trans hmore'.length_eq
    obtain ⟨-, rfl⟩ := List.append_inj happend hlength
    exact hrest
  · exact fun hrest => ⟨more, rest, rfl, hmore, hrest⟩

/-- A text is a first byte, what it asks for, and a text. -/
theorem isUtf8_cons_iff :
    IsUtf8 (b :: bytes) ↔ ∃ bits due, lead? b = some (bits, due) ∧ Completes due bytes := by
  rw [isUtf8_iff_decode 0]
  simp only [decodeUtf8From_cons_iff]
  constructor
  · rintro ⟨s, bits, due, hlead, more, rest, text, hbytes, hmore, htext, -⟩
    exact ⟨bits, due, hlead, more, rest, hbytes, hmore, (isUtf8_iff_decode _).mpr ⟨text, htext⟩⟩
  · rintro ⟨bits, due, hlead, more, rest, hbytes, hmore, hrest⟩
    obtain ⟨text, htext⟩ := (isUtf8_iff_decode _).mp hrest
    exact ⟨_, bits, due, hlead, more, rest, text, hbytes, hmore, htext, rfl⟩

theorem isUtf8_cons_iff_completes {bits : Nat} (hlead : lead? b = some (bits, due)) :
    IsUtf8 (b :: bytes) ↔ Completes due bytes := by
  rw [isUtf8_cons_iff]
  constructor
  · rintro ⟨bits', due', hlead', hcompletes⟩
    cases hlead.symm.trans hlead'
    exact hcompletes
  · exact fun hcompletes => ⟨bits, due, hlead, hcompletes⟩

end Completes

/-- Text can be cut off in front. -/
theorem isUtf8_append_iff {done rest : List UInt8} (hdone : IsUtf8 done) :
    IsUtf8 (done ++ rest) ↔ IsUtf8 rest := by
  obtain ⟨s, rfl⟩ := hdone
  induction s with
  | nil => rfl
  | cons c s ih =>
      obtain ⟨b, bits, due, more, hbytes, hlead, hmore, -⟩ := exists_due_of_encodeUtf8Char c
      rw [List.flatMap_cons, ← encodeUtf8Char_eq, hbytes, List.append_assoc, List.cons_append,
        isUtf8_cons_iff_completes hlead, completes_append_iff hmore]
      exact ih

/-- How the bytes of a character break off: so many are as they are due, and then there are no more
or one that is not. -/
inductive Breaks : List ByteRange → List UInt8 → Nat → Reason → Prop
  | ended {range : ByteRange} {due : List ByteRange} : Breaks (range :: due) [] 0 .unexpectedEnd
  | outside {range : ByteRange} {due : List ByteRange} {b : UInt8} {bytes : List UInt8}
      (hb : ¬ range.has b = true) : Breaks (range :: due) (b :: bytes) 0 .invalidContinuation
  | inside {range : ByteRange} {due : List ByteRange} {b : UInt8} {bytes : List UInt8} {n : Nat}
      {reason : Reason} (hb : range.has b = true) (h : Breaks due bytes n reason) :
      Breaks (range :: due) (b :: bytes) (n + 1) reason

namespace Breaks

variable {due : List ByteRange} {bytes : List UInt8} {n : Nat} {reason : Reason}

theorem le_length (h : Breaks due bytes n reason) : n ≤ bytes.length := by
  induction h with
  | ended | outside => exact Nat.zero_le _
  | inside _ _ ih => exact Nat.succ_le_succ ih

/-- No part in front completes the character. -/
theorem not_completes (h : Breaks due bytes n reason) {p : List UInt8} (hp : p <+: bytes) :
    ¬ Completes due p := by
  intro hcompletes
  induction h generalizing p with
  | ended =>
      obtain rfl := List.prefix_nil.mp hp
      exact not_completes_nil hcompletes
  | outside hb =>
      cases p with
      | nil => exact not_completes_nil hcompletes
      | cons b' p =>
          obtain ⟨rfl, -⟩ := List.cons_prefix_cons.mp hp
          exact hb (completes_cons_iff.mp hcompletes).1
  | inside _ _ ih =>
      cases p with
      | nil => exact not_completes_nil hcompletes
      | cons b' p =>
          exact ih (List.cons_prefix_cons.mp hp).2 (completes_cons_iff.mp hcompletes).2

/-- More bytes can complete a character if and only if it was the end that broke it off. -/
theorem unexpectedEnd_iff (h : Breaks due bytes n reason)
    (hdue : ∀ range ∈ due, range.has range.first = true) :
    reason = .unexpectedEnd ↔ ∃ tail, Completes due (bytes ++ tail) := by
  induction h with
  | @ended range due =>
      refine iff_of_true rfl ⟨(range :: due).map (·.first), _, [], (List.append_nil _).symm, ?_,
        isUtf8_nil⟩
      exact List.forall₂_map_right_iff.mpr (List.forall₂_same.mpr hdue)
  | outside hb =>
      refine iff_of_false nofun ?_
      rintro ⟨tail, hcompletes⟩
      exact hb (completes_cons_iff.mp hcompletes).1
  | inside hb _ ih =>
      rw [ih fun range hrange => hdue range (List.mem_cons_of_mem _ hrange)]
      refine exists_congr fun tail => ?_
      rw [List.cons_append, completes_cons_iff, and_iff_right hb]

end Breaks

/-- The range of a second byte is not empty, whichever of the three it is. -/
theorem ByteRange.second_has_first {least most : Prop} [Decidable least] [Decidable most]
    {low high : UInt8} (hlow : low ≤ 0xbf) (hhigh : 0x80 ≤ high) :
    let second : ByteRange :=
      if least then ⟨low, 0xbf⟩ else if most then ⟨0x80, high⟩ else .continuation
    second.has second.first = true := by
  intro second
  unfold second
  split_ifs <;> simp [has, hlow, hhigh, continuation]

/-- No range of the bytes to follow is empty. -/
theorem has_first_of_lead? {b : UInt8} {bits : Nat} {due : List ByteRange}
    (h : lead? b = some (bits, due)) : ∀ range ∈ due, range.has range.first = true := by
  have hcontinuation : ByteRange.continuation.has ByteRange.continuation.first = true := by decide
  unfold lead? at h
  dsimp only at h
  split at h
  · obtain ⟨-, rfl⟩ := Prod.mk.inj (Option.some.inj h)
    nofun
  split at h
  · cases h
  split at h
  · obtain ⟨-, rfl⟩ := Prod.mk.inj (Option.some.inj h)
    simp [hcontinuation]
  split at h
  · obtain ⟨-, rfl⟩ := Prod.mk.inj (Option.some.inj h)
    simp [hcontinuation, ByteRange.second_has_first]
  split at h
  · obtain ⟨-, rfl⟩ := Prod.mk.inj (Option.some.inj h)
    simp [hcontinuation, ByteRange.second_has_first]
  · cases h

/-- A character that has begun is read to its end and a fault lies behind it, or it breaks off. -/
theorem decodeUtf8From_begun_error {c : Begun} (hdue : c.due ≠ []) {position : Nat}
    {bytes : List UInt8} {f : DecodeFault}
    (h : decodeUtf8From position (some c) bytes = .error f) :
    (∃ more rest, bytes = more ++ rest ∧ Due c.due more ∧
      decodeUtf8From (position + more.length) none rest = .error f) ∨
    ∃ n reason, Breaks c.due bytes n reason ∧
      f = ⟨.utf8, c.byte, c.start, c.start + (c.count + n), reason⟩ := by
  obtain ⟨byte, start, count, bits, due⟩ := c
  induction due generalizing count bits position bytes with
  | nil => exact absurd rfl hdue
  | cons range due ih =>
      cases bytes with
      | nil =>
          cases h
          exact .inr ⟨0, _, .ended, rfl⟩
      | cons b bytes =>
          rw [decodeUtf8From] at h
          dsimp only at h
          by_cases hb : range.has b = true
          · rw [if_pos hb] at h
            cases due with
            | nil =>
                exact .inl ⟨[b], bytes, rfl, .cons hb .nil, eq_error_of_map_cons h⟩
            | cons range' due =>
                rcases ih _ _ (List.cons_ne_nil _ _) h with
                  ⟨more, rest, rfl, hmore, hrest⟩ | ⟨n, reason, hbreaks, rfl⟩
                · refine .inl ⟨b :: more, rest, rfl, .cons hb hmore, ?_⟩
                  rwa [List.length_cons, ← Nat.add_assoc, Nat.add_right_comm]
                · refine .inr ⟨n + 1, reason, .inside hb hbreaks, ?_⟩
                  have hcount : count + 1 + n = count + (n + 1) := by omega
                  dsimp only
                  rw [hcount]
          · rw [if_neg hb] at h
            cases h
            exact .inr ⟨0, _, .outside hb, rfl⟩

/-- A character that breaks off is a fault at its first byte. -/
theorem Breaks.stopsAt {b : UInt8} {bits : Nat} {due : List ByteRange} {bytes : List UInt8}
    {n : Nat} {reason : Reason} (hlead : lead? b = some (bits, due))
    (h : Breaks due bytes n reason) (position : Nat) :
    StopsAt IsUtf8 .utf8 position (b :: bytes)
      ⟨.utf8, b, position, position + (1 + n), reason⟩ where
  codec_eq := rfl
  start_eq := rfl
  byte_eq := rfl
  lt_stop := by
    dsimp only
    omega
  stop_le := by
    have hle := h.le_length
    rw [List.length_cons]
    dsimp only
    omega
  eq_nil p hp hvalid := by
    cases p with
    | nil => rfl
    | cons b' p =>
        obtain ⟨rfl, hshort⟩ := List.cons_prefix_cons.mp hp
        exact (h.not_completes hshort ((isUtf8_cons_iff_completes hlead).mp hvalid)).elim
  unexpectedEnd_iff := by
    rw [h.unexpectedEnd_iff (has_first_of_lead? hlead)]
    exact exists_congr fun tail => (isUtf8_cons_iff_completes hlead).symm

/-- A fault lies behind characters, at one that does not begin or breaks off. -/
theorem exists_stopsAt_of_decodeUtf8From {position : Nat} {bytes : List UInt8} {f : DecodeFault}
    (h : decodeUtf8From position none bytes = .error f) :
    ∃ done rest, bytes = done ++ rest ∧ IsUtf8 done ∧
      StopsAt IsUtf8 .utf8 (position + done.length) rest f := by
  induction hlength : bytes.length using Nat.strongRecOn generalizing position bytes with
  | _ length ih =>
    cases bytes with
    | nil => cases h
    | cons b bytes =>
        rw [decodeUtf8From] at h
        cases hlead : lead? b with
        | none =>
            rw [hlead] at h
            cases h
            have hno : ∀ bytes, ¬ IsUtf8 (b :: bytes) := by
              intro bytes hvalid
              obtain ⟨bits, due, hlead', -⟩ := isUtf8_cons_iff.mp hvalid
              cases hlead.symm.trans hlead'
            exact ⟨[], b :: bytes, rfl, isUtf8_nil, .of_byte hno (by decide) position⟩
        | some lead =>
            obtain ⟨bits, due⟩ := lead
            rw [hlead] at h
            -- Either the character is read and what follows it is shorter, or it breaks off.
            have hcases : (∃ more rest, bytes = more ++ rest ∧ Due due more ∧
                decodeUtf8From (position + 1 + more.length) none rest = .error f) ∨
                ∃ n reason, Breaks due bytes n reason ∧
                  f = ⟨.utf8, b, position, position + (1 + n), reason⟩ := by
              cases due with
              | nil => exact .inl ⟨[], bytes, rfl, .nil, eq_error_of_map_cons h⟩
              | cons range due =>
                  exact decodeUtf8From_begun_error (List.cons_ne_nil _ _) h
            rcases hcases with ⟨more, rest, rfl, hmore, hrest⟩ | ⟨n, reason, hbreaks, rfl⟩
            · have hshorter : rest.length < length := by
                rw [← hlength, List.length_cons, List.length_append]
                omega
              obtain ⟨done, rest, rfl, hdone, hstops⟩ := ih _ hshorter hrest rfl
              refine ⟨b :: (more ++ done), rest, ?_, ?_, ?_⟩
              · rw [List.cons_append, List.append_assoc]
              · rwa [isUtf8_cons_iff_completes hlead, completes_append_iff hmore]
              · rw [List.length_cons, List.length_append]
                have hposition : position + (more.length + done.length + 1) =
                    position + 1 + more.length + done.length := by omega
                rwa [hposition]
            · exact ⟨[], b :: bytes, rfl, isUtf8_nil, hbreaks.stopsAt hlead _⟩

theorem pinpoints_decodeUtf8 {bytes : List UInt8} {f : DecodeFault}
    (h : decodeUtf8 bytes = .error f) : Pinpoints IsUtf8 .utf8 bytes f := by
  obtain ⟨done, rest, rfl, hdone, hstops⟩ := exists_stopsAt_of_decodeUtf8From h
  rw [Nat.zero_add] at hstops
  exact hstops.pinpoints (fun _ _ => isUtf8_append_iff) hdone

end RichText.Encoding
