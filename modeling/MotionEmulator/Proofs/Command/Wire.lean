import Mathlib.Data.List.TakeWhile
import MotionEmulator.Proofs.Text.Words
import MotionEmulator.Token

/-!
# Canonical tokens are read back

`Command.wire` writes a target in all of its four digits and a parameter without leading zeros;
`Command.ofToken?` takes the first four digits of a target, fills up missing ones on the right,
and lets a parameter saturate. The two conventions meet on every command: `ofToken?_wire` for one
token, `ofLine_wireLine` for a whole line of them.
-/

namespace MotionEmulator

namespace Text

theorem isDigit_iff (c : Char) : isDigit c = true ↔ 48 ≤ c.toNat ∧ c.toNat ≤ 57 := by
  simp only [isDigit, Bool.and_eq_true, decide_eq_true_eq]
  exact Iff.rfl

theorem digitsValue_eq (digits : List Char) : digitsValue digits = Nat.ofDigitChars 10 digits 0 :=
  (Nat.ofDigitChars_eq_foldl).symm

/-- Zeros in front of a number do not count. -/
theorem digitsValue_replicate_zero_append (k : Nat) (digits : List Char) :
    digitsValue (List.replicate k '0' ++ digits) = digitsValue digits := by
  rw [digitsValue_eq, digitsValue_eq, Nat.ofDigitChars_append, Nat.ofDigitChars_replicate_zero,
    Nat.mul_zero]

theorem digitsValue_toDigits (n : Nat) : digitsValue (Nat.toDigits 10 n) = n := by
  rw [digitsValue_eq, Nat.ofDigitChars_ten_toDigits]

theorem isDigit_of_mem_toDigits {n : Nat} {c : Char} (h : c ∈ Nat.toDigits 10 n) :
    isDigit c = true := by
  have digit := Nat.isDigit_of_mem_toDigits (by decide) (by decide) h
  rw [isDigit_iff]
  simpa [Char.isDigit, UInt32.le_iff_toNat_le] using digit

end Text

open Text

/-! ## Targets -/

namespace Command

theorem length_toDigits_target (c : Command) :
    (Nat.toDigits 10 c.target).length ≤ Position.digits := by
  rw [Nat.length_toDigits_le_iff (by decide) (by decide)]
  exact Nat.lt_of_le_of_lt c.target_le (by decide)

theorem length_targetDigits (c : Command) : c.targetDigits.length = Position.digits := by
  have le := c.length_toDigits_target
  rw [targetDigits, List.length_append, List.length_replicate]
  omega

theorem isDigit_of_mem_targetDigits {c : Command} {d : Char} (h : d ∈ c.targetDigits) :
    isDigit d = true := by
  rcases List.mem_append.1 h with zero | digit
  · rw [List.eq_of_mem_replicate zero]
    rfl
  · exact isDigit_of_mem_toDigits digit

theorem digitsValue_targetDigits (c : Command) : digitsValue c.targetDigits = c.target := by
  rw [targetDigits, digitsValue_replicate_zero_append, digitsValue_toDigits]

end Command

/-- A target in all its digits has none to drop and none to fill up. -/
theorem Token.target_targetDigits (c : Command) : Token.target c.targetDigits = c.target := by
  have kept : Token.targetDigits c.targetDigits = c.targetDigits := by
    rw [Token.targetDigits, List.take_of_length_le c.length_targetDigits.le,
      c.length_targetDigits, Nat.sub_self, List.replicate_zero, List.append_nil]
  rw [Token.target, kept, c.digitsValue_targetDigits]
  exact Nat.min_eq_right c.target_le

/-! ## Parameters -/

/-- A parameter in range has at most nine digits, so it does not saturate. -/
theorem Token.param_toDigits {n : Nat} (h : n ≤ maxParam) :
    Token.param (Nat.toDigits 10 n) = n := by
  have length : (Nat.toDigits 10 n).length ≤ paramDigits := by
    rw [Nat.length_toDigits_le_iff (by decide) (by decide)]
    exact Nat.lt_of_le_of_lt h (by decide)
  have significant : (Token.significant (Nat.toDigits 10 n)).length ≤ paramDigits :=
    (List.dropWhile_sublist _).length_le.trans length
  rw [Token.param, if_neg (by omega), digitsValue_toDigits]
  exact Nat.min_eq_right h

namespace Extension

/-- The letter of an extension. -/
theorem exists_letter (e : Extension) :
    ∃ letter, e.kind.letters = [letter] ∧ MoveKind.ofLetter? letter = some e.kind ∧
      isDigit letter = false ∧ 0x20 < letter.toNat ∧ letter.toNat < 0x7f := by
  have not_immediate := e.kind_ne
  cases h : e.kind with
  | immediate => exact absurd h not_immediate
  | interpolate => exact ⟨'I', rfl, rfl, by decide, by decide, by decide⟩
  | speed => exact ⟨'S', rfl, rfl, by decide, by decide, by decide⟩

theorem extension?_eq (e : Extension) {letter : Char}
    (h : MoveKind.ofLetter? letter = some e.kind) :
    Token.extension? letter (Nat.toDigits 10 e.param) = some e := by
  have digits : (Nat.toDigits 10 e.param).all isDigit :=
    List.all_eq_true.2 fun _ => isDigit_of_mem_toDigits
  unfold Token.extension?
  split
  · next none_eq =>
    rw [h] at none_eq
    cases none_eq
  · next kind some_eq =>
    obtain rfl : e.kind = kind := Option.some.inj (h.symm.trans some_eq)
    rw [if_pos ⟨Nat.toDigits_ne_nil, digits⟩]
    simp only [Token.param_toDigits e.param_le]

end Extension

/-! ## Tokens and lines -/

theorem Channel.plain_of_mem_chars {c : Channel} {x : Char} (h : x ∈ c.chars) :
    0x20 < x.toNat ∧ x.toNat < 0x7f := by
  have letter : 0x20 < c.group.letter.toNat ∧ c.group.letter.toNat < 0x7f := by
    cases c <;> decide
  have digit : 0x20 < c.indexDigit.toNat ∧ c.indexDigit.toNat < 0x7f := by
    cases c <;> decide
  rw [chars] at h
  rcases List.mem_cons.1 h with rfl | h
  · exact letter
  · rw [List.mem_singleton.1 h]
    exact digit

namespace Command

variable {channel : Channel} {digits param : List Char} {letter : Char}

/-- A token of a channel and a run of digits. -/
theorem ofToken?_digits (ne : digits ≠ []) (all : ∀ d ∈ digits, isDigit d = true) :
    ofToken? (channel.chars ++ digits) =
      some ⟨channel, Token.target digits, none, Token.target_le digits⟩ := by
  have found : Channel.ofChars? [channel.group.letter, channel.indexDigit] = some channel :=
    Channel.ofChars?_chars channel
  have taken : digits.takeWhile isDigit = digits := List.takeWhile_eq_self_iff.2 all
  have dropped : digits.dropWhile isDigit = [] := List.dropWhile_eq_nil_iff.2 all
  simp only [Channel.chars, List.cons_append, List.nil_append, ofToken?, found, taken, dropped,
    if_neg ne, Option.bind_eq_bind, Option.bind_some]

/-- A token of a channel, a run of digits and what follows from a letter on. -/
theorem ofToken?_digits_letter (ne : digits ≠ []) (all : ∀ d ∈ digits, isDigit d = true)
    (other : isDigit letter = false) :
    ofToken? (channel.chars ++ (digits ++ letter :: param)) =
      (Token.extension? letter param).map fun e =>
        ⟨channel, Token.target digits, some e, Token.target_le digits⟩ := by
  have found : Channel.ofChars? [channel.group.letter, channel.indexDigit] = some channel :=
    Channel.ofChars?_chars channel
  have taken : (digits ++ letter :: param).takeWhile isDigit = digits := by
    rw [List.takeWhile_append_of_pos all, List.takeWhile_cons_of_neg (by simp [other]),
      List.append_nil]
  have dropped : (digits ++ letter :: param).dropWhile isDigit = letter :: param := by
    rw [List.dropWhile_append_of_pos all, List.dropWhile_cons_of_neg (by simp [other])]
  simp only [Channel.chars, List.cons_append, List.nil_append, ofToken?, found, taken, dropped,
    if_neg ne, Option.bind_eq_bind, Option.bind_some]
  cases Token.extension? letter param <;> rfl

theorem targetDigits_ne_nil (c : Command) : c.targetDigits ≠ [] := by
  intro nil
  have length := c.length_targetDigits
  rw [nil] at length
  cases length

/-- **A canonical token is read back as its command.** -/
theorem ofToken?_wire (c : Command) : ofToken? c.wire = some c := by
  have digits : ∀ d ∈ c.targetDigits, isDigit d = true := fun _ => isDigit_of_mem_targetDigits
  have target := Token.target_targetDigits c
  rw [wire, List.append_assoc]
  cases h : c.extension with
  | none =>
    simp only [Option.elim_none, List.append_nil]
    rw [ofToken?_digits c.targetDigits_ne_nil digits]
    simp only [target, ← h]
  | some e =>
    obtain ⟨letter, letters, kind, other, -⟩ := e.exists_letter
    simp only [Option.elim_some, Extension.wire, letters, List.singleton_append]
    rw [ofToken?_digits_letter c.targetDigits_ne_nil digits other, e.extension?_eq kind]
    rw [Option.map_some]
    simp only [target, ← h]

/-- A canonical token is printable ASCII without spaces. -/
theorem plain_of_mem_wire {c : Command} {x : Char} (h : x ∈ c.wire) :
    0x20 < x.toNat ∧ x.toNat < 0x7f := by
  have digit {d : Char} (hd : isDigit d = true) : 0x20 < d.toNat ∧ d.toNat < 0x7f := by
    rw [isDigit_iff] at hd
    omega
  rw [wire, List.append_assoc] at h
  rcases List.mem_append.1 h with name | h
  · exact Channel.plain_of_mem_chars name
  rcases List.mem_append.1 h with target | h
  · exact digit (isDigit_of_mem_targetDigits target)
  cases he : c.extension with
  | none =>
    rw [he] at h
    cases h
  | some e =>
    obtain ⟨letter, letters, -, -, low, high⟩ := e.exists_letter
    rw [he, Option.elim_some, Extension.wire, letters] at h
    rcases List.mem_cons.1 h with rfl | param
    · exact ⟨low, high⟩
    · exact digit (isDigit_of_mem_toDigits param)

theorem isWord_wire (c : Command) : IsWord c.wire := by
  refine ⟨?_, fun x mem => ?_⟩
  · rw [wire, Channel.chars]
    exact List.cons_ne_nil _ _
  · obtain ⟨low, high⟩ := plain_of_mem_wire mem
    exact isBlank_eq_false low high

/-- **A canonical line is read back as its commands.** -/
theorem ofLine_wireLine (commands : List Command) : ofLine (wireLine commands) = commands := by
  have words_eq : words (wireLine commands) = commands.map wire := by
    apply words_intercalate
    intro w mem
    obtain ⟨c, -, rfl⟩ := List.mem_map.1 mem
    exact c.isWord_wire
  rw [ofLine, words_eq, List.filterMap_map]
  have read : (ofToken? ∘ wire) = some := funext ofToken?_wire
  rw [read, List.filterMap_some]

/-- The line feed at the end of a line belongs to no command. -/
theorem ofLine_append_lineFeed (line : List Char) : ofLine (line ++ ['\n']) = ofLine line := by
  rw [ofLine, words_append_blank (by decide), words_nil, List.append_nil]
  rfl

theorem lineFeed_not_mem_wireLine (commands : List Command) : '\n' ∉ wireLine commands := by
  intro mem
  rcases mem_intercalate_space mem with space | ⟨w, hw, own⟩
  · exact absurd space (by decide)
  · obtain ⟨c, -, rfl⟩ := List.mem_map.1 hw
    exact absurd (plain_of_mem_wire own) (by decide)

end Command

end MotionEmulator
