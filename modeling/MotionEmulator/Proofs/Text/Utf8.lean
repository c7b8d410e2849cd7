import MotionEmulator.Text.Encoding

/-!
# Reading what was written in UTF-8

A decoder that stands between characters reads the bytes of a character as that character and stands
between characters again (`decodeAll_encodeChar`). So it reads the encoding of a text as the text,
which is `Decoder.decodeAll_encode_utf8`.

A character has one to four bytes. The first byte says how many, and after the first bytes `E0`,
`ED`, `F0` and `F4` the second one has a narrower range: those are the proper beginnings of
characters below `U+1000` and `U+10000`, before the surrogates, and at the end of all characters.
-/

namespace MotionEmulator.Text

namespace Decoder

/-- The decoder of UTF-8 in a state. -/
abbrev utf8 (state : State) : Decoder :=
  ⟨.utf8, state⟩

/-- One byte is read, then the rest. -/
theorem decodeAll_utf8_cons {state state' : State} {byte : UInt8} {chars : List Char}
    (next : state.next byte.toNat = (state', chars)) (rest : List UInt8) :
    (utf8 state).decodeAll (byte :: rest) =
      (((utf8 state').decodeAll rest).1, chars ++ ((utf8 state').decodeAll rest).2) := by
  simp only [decodeAll, Decoder.next, next]

namespace State

variable {owed low high code byte : Nat}

/-- The last byte of a character. -/
theorem next_last (inRange : low ≤ byte ∧ byte ≤ high) :
    (inside 0 low high code).next byte =
      (start, [Char.ofNat (code * 64 + (byte - 0x80))]) := by
  simp only [next, if_pos inRange]

/-- A byte within a character, after which more are to come. -/
theorem next_more (inRange : low ≤ byte ∧ byte ≤ high) :
    (inside (owed + 1) low high code).next byte =
      (inside owed 0x80 0xbf (code * 64 + (byte - 0x80)), []) := by
  simp only [next, if_pos inRange]

theorem first_single (h : byte < 0x80) : first byte = (start, [Char.ofNat byte]) := by
  simp only [first, if_pos h]

theorem first_double (h : 0xc2 ≤ byte) (h' : byte < 0xe0) :
    first byte = (inside 0 0x80 0xbf (byte - 0xc0), []) := by
  have := h
  simp only [first]
  rw [if_neg (by omega), if_neg (by omega), if_pos h']

theorem first_triple (h : 0xe0 < byte) (h' : byte < 0xf0) (h'' : byte ≠ 0xed) :
    first byte = (inside 1 0x80 0xbf (byte - 0xe0), []) := by
  simp only [first]
  rw [if_neg (by omega), if_neg (by omega), if_neg (by omega), if_neg (by omega), if_neg h'',
    if_pos h']

theorem first_quadruple (h : 0xf0 < byte) (h' : byte < 0xf4) :
    first byte = (inside 2 0x80 0xbf (byte - 0xf0), []) := by
  simp only [first]
  rw [if_neg (by omega), if_neg (by omega), if_neg (by omega), if_neg (by omega),
    if_neg (by omega), if_neg (by omega), if_neg (by omega), if_pos h']

end State

open State

/-! ## Characters of one to four bytes -/

section

variable {v : Nat}

theorem toNat_byte {n : Nat} (h : n < 256) : (UInt8.ofNat n).toNat = n :=
  Nat.mod_eq_of_lt h

/-- A byte other than the first one of a character. -/
theorem toNat_tail (n : Nat) : (UInt8.ofNat (n % 64 + 128)).toNat = n % 64 + 128 :=
  toNat_byte (by omega)

theorem decodeAll_single (h : v < 0x80) :
    (utf8 .start).decodeAll [UInt8.ofNat v] = (utf8 .start, [Char.ofNat v]) := by
  have first : State.start.next (UInt8.ofNat v).toNat = (.start, [Char.ofNat v]) := by
    rw [toNat_byte (by omega)]
    exact first_single h
  rw [decodeAll_utf8_cons first]
  rfl

/-- The last byte completes the character. -/
theorem decodeAll_last (v : Nat) :
    (utf8 (.inside 0 0x80 0xbf (v / 64))).decodeAll [UInt8.ofNat (v % 64 + 128)] =
      (utf8 .start, [Char.ofNat v]) := by
  have last : (State.inside 0 0x80 0xbf (v / 64)).next (UInt8.ofNat (v % 64 + 128)).toNat =
      (.start, [Char.ofNat v]) := by
    rw [toNat_tail, next_last (by omega)]
    rw [show v / 64 * 64 + (v % 64 + 128 - 0x80) = v by omega]
  rw [decodeAll_utf8_cons last]
  rfl

/-- The last two bytes complete the character. -/
theorem decodeAll_last_two {low high : Nat} (range : low ≤ v / 64 % 64 + 128 ∧
    v / 64 % 64 + 128 ≤ high) :
    (utf8 (.inside 1 low high (v / 4096))).decodeAll
        [UInt8.ofNat (v / 64 % 64 + 128), UInt8.ofNat (v % 64 + 128)] =
      (utf8 .start, [Char.ofNat v]) := by
  have second : (State.inside 1 low high (v / 4096)).next
      (UInt8.ofNat (v / 64 % 64 + 128)).toNat = (.inside 0 0x80 0xbf (v / 64), []) := by
    rw [toNat_tail, next_more range]
    rw [show v / 4096 * 64 + (v / 64 % 64 + 128 - 0x80) = v / 64 by omega]
  rw [decodeAll_utf8_cons second, decodeAll_last]
  rfl

/-- The last three bytes complete the character. -/
theorem decodeAll_last_three {low high : Nat} (range : low ≤ v / 4096 % 64 + 128 ∧
    v / 4096 % 64 + 128 ≤ high) :
    (utf8 (.inside 2 low high (v / 262144))).decodeAll
        [UInt8.ofNat (v / 4096 % 64 + 128), UInt8.ofNat (v / 64 % 64 + 128),
          UInt8.ofNat (v % 64 + 128)] =
      (utf8 .start, [Char.ofNat v]) := by
  have second : (State.inside 2 low high (v / 262144)).next
      (UInt8.ofNat (v / 4096 % 64 + 128)).toNat = (.inside 1 0x80 0xbf (v / 4096), []) := by
    rw [toNat_tail, next_more range]
    rw [show v / 262144 * 64 + (v / 4096 % 64 + 128 - 0x80) = v / 4096 by omega]
  rw [decodeAll_utf8_cons second, decodeAll_last_two (by omega)]
  rfl

theorem decodeAll_double (h : 0x80 ≤ v) (h' : v < 0x800) :
    (utf8 .start).decodeAll [UInt8.ofNat (v / 64 % 32 + 192), UInt8.ofNat (v % 64 + 128)] =
      (utf8 .start, [Char.ofNat v]) := by
  have first : State.start.next (UInt8.ofNat (v / 64 % 32 + 192)).toNat =
      (.inside 0 0x80 0xbf (v / 64), []) := by
    rw [toNat_byte (by omega)]
    refine (first_double (by omega) (by omega)).trans ?_
    rw [show v / 64 % 32 + 192 - 0xc0 = v / 64 by omega]
  rw [decodeAll_utf8_cons first, decodeAll_last]
  rfl

theorem decodeAll_triple (h : 0x800 ≤ v) (h' : v < 0x10000)
    (proper : v < 0xd800 ∨ 0xdfff < v) :
    (utf8 .start).decodeAll
        [UInt8.ofNat (v / 4096 % 16 + 224), UInt8.ofNat (v / 64 % 64 + 128),
          UInt8.ofNat (v % 64 + 128)] =
      (utf8 .start, [Char.ofNat v]) := by
  have lead : (UInt8.ofNat (v / 4096 % 16 + 224)).toNat = v / 4096 + 224 := by
    rw [toNat_byte (by omega)]
    omega
  rcases Nat.lt_or_ge v 0x1000 with low | _
  · -- `E0`, whose second byte keeps the character from being one of two bytes.
    have first : State.start.next (UInt8.ofNat (v / 4096 % 16 + 224)).toNat =
        (.inside 1 0xa0 0xbf (v / 4096), []) := by
      rw [lead, show v / 4096 = 0 by omega]
      rfl
    rw [decodeAll_utf8_cons first, decodeAll_last_two (by omega)]
    rfl
  · by_cases ed : v / 4096 = 13
    · -- `ED`, whose second byte keeps the character from being a surrogate.
      have first : State.start.next (UInt8.ofNat (v / 4096 % 16 + 224)).toNat =
          (.afterED, []) := by
        rw [lead, ed]
        rfl
      have second : State.afterED.next (UInt8.ofNat (v / 64 % 64 + 128)).toNat =
          (.inside 0 0x80 0xbf (v / 64), []) := by
        rw [toNat_tail, State.next, if_pos (by omega)]
        rw [show 0xd * 64 + (v / 64 % 64 + 128 - 0x80) = v / 64 by omega]
      rw [decodeAll_utf8_cons first, decodeAll_utf8_cons second, decodeAll_last]
      rfl
    · have first : State.start.next (UInt8.ofNat (v / 4096 % 16 + 224)).toNat =
          (.inside 1 0x80 0xbf (v / 4096), []) := by
        rw [lead]
        refine (first_triple (by omega) (by omega) (by omega)).trans ?_
        rw [show v / 4096 + 224 - 0xe0 = v / 4096 by omega]
      rw [decodeAll_utf8_cons first, decodeAll_last_two (by omega)]
      rfl

theorem decodeAll_quadruple (h : 0x10000 ≤ v) (h' : v < 0x110000) :
    (utf8 .start).decodeAll
        [UInt8.ofNat (v / 262144 % 8 + 240), UInt8.ofNat (v / 4096 % 64 + 128),
          UInt8.ofNat (v / 64 % 64 + 128), UInt8.ofNat (v % 64 + 128)] =
      (utf8 .start, [Char.ofNat v]) := by
  have lead : (UInt8.ofNat (v / 262144 % 8 + 240)).toNat = v / 262144 + 240 := by
    rw [toNat_byte (by omega)]
    omega
  -- Only the range of the second byte depends on the first one.
  have first : ∃ low high, State.start.next (UInt8.ofNat (v / 262144 % 8 + 240)).toNat =
      (.inside 2 low high (v / 262144), []) ∧ low ≤ v / 4096 % 64 + 128 ∧
      v / 4096 % 64 + 128 ≤ high := by
    rw [lead]
    rcases Nat.eq_zero_or_pos (v / 262144) with zero | pos
    · rw [zero]
      exact ⟨0x90, 0xbf, rfl, by omega, by omega⟩
    · rcases Nat.lt_or_ge (v / 262144) 4 with below | last
      · refine ⟨0x80, 0xbf, (first_quadruple (by omega) (by omega)).trans ?_, by omega, by omega⟩
        rw [show v / 262144 + 240 - 0xf0 = v / 262144 by omega]
      · rw [show v / 262144 = 4 by omega]
        exact ⟨0x80, 0x8f, rfl, by omega, by omega⟩
  obtain ⟨low, high, next, range⟩ := first
  rw [decodeAll_utf8_cons next, decodeAll_last_three range]
  rfl

end

/-- **A character is read from its bytes.** -/
theorem decodeAll_encodeChar (c : Char) :
    (utf8 .start).decodeAll (String.utf8EncodeChar c) = (utf8 .start, [c]) := by
  have valid : c.toNat < 0xd800 ∨ 0xdfff < c.toNat ∧ c.toNat < 0x110000 := c.valid
  have same : Char.ofNat c.toNat = c := Char.ofNat_toNat c
  generalize bytes : String.utf8EncodeChar c = encoded
  simp only [String.utf8EncodeChar, Char.toNat_val] at bytes
  split at bytes
  · rw [← bytes, decodeAll_single (by omega), same]
  · split at bytes
    · rw [← bytes, decodeAll_double (by omega) (by omega), same]
    · split at bytes
      · rw [← bytes, decodeAll_triple (by omega) (by omega) (by omega), same]
      · rw [← bytes, decodeAll_quadruple (by omega) (by omega), same]

/-- **A text is read from its bytes.** -/
theorem decodeAll_encode_utf8 (text : List Char) :
    (utf8 .start).decodeAll (text.flatMap String.utf8EncodeChar) = (utf8 .start, text) := by
  induction text with
  | nil => rfl
  | cons c rest ih =>
    rw [List.flatMap_cons, decodeAll_append, decodeAll_encodeChar, ih]
    rfl

end Decoder

end MotionEmulator.Text
