import Mathlib.Data.Nat.Digits.Defs
import Mathlib.Tactic.Ring
import MotionEmulator.Proofs.Command.Decoding

/-!
# What runs of digits mean

A run of digits denotes a number in base ten, `Text.denoted`. `decodeTarget` reads the run as the
fraction after a decimal point, in ten-thousandths and cut off below them; `decodeParam` reads it as
the number itself, up to the greatest parameter. Both work on characters: they take some, fill up
missing ones and drop zeros. `decoded_of_digits` says what that comes to in numbers.

Digits behind a number move it up by their places (`digitsValue_append`), so leaving some off at the
end is a division (`digitsValue_take`). A target's digits are the first ones of the run with zeros
behind it (`Token.targetDigits_eq_take`), whether the run is short or long.
-/

namespace MotionEmulator

namespace Text

/-- The number that a run of digits denotes in base ten. -/
def denoted (digits : List Char) : Nat :=
  Nat.ofDigits 10 (digits.reverse.map fun c => c.toNat - '0'.toNat)

variable {digits : List Char}

theorem digitsValue_eq_denoted (digits : List Char) : digitsValue digits = denoted digits := by
  induction digits using List.reverseRecOn with
  | nil => rfl
  | append_singleton front c ih =>
    rw [digitsValue_append_singleton, ih]
    unfold denoted
    rw [List.reverse_append, List.reverse_singleton, List.singleton_append, List.map_cons,
      Nat.ofDigits_cons, Nat.add_comm]

/-- Digits behind a number move it up by their places. -/
theorem digitsValue_append (a b : List Char) :
    digitsValue (a ++ b) = digitsValue a * 10 ^ b.length + digitsValue b := by
  induction b using List.reverseRecOn with
  | nil => simp [digitsValue]
  | append_singleton front c ih =>
    rw [← List.append_assoc, digitsValue_append_singleton, digitsValue_append_singleton, ih,
      List.length_append, List.length_singleton]
    ring

theorem digitsValue_append_replicate_zero (digits : List Char) (k : Nat) :
    digitsValue (digits ++ List.replicate k '0') = digitsValue digits * 10 ^ k := by
  have zeros := digitsValue_replicate_zero_append k []
  rw [List.append_nil] at zeros
  rw [digitsValue_append, zeros, List.length_replicate]
  rfl

/-- Leaving off digits at the end of a number divides it. -/
theorem digitsValue_take (all : ∀ c ∈ digits, isDigit c = true) (k : Nat) :
    digitsValue (digits.take k) = digitsValue digits / 10 ^ (digits.length - k) := by
  have below := digitsValue_lt fun c (mem : c ∈ digits.drop k) => all c (List.mem_of_mem_drop mem)
  rw [List.length_drop] at below
  have nothing : digitsValue (digits.drop k) / 10 ^ (digits.length - k) = 0 :=
    Nat.div_eq_of_lt below
  have whole : digitsValue digits =
      digitsValue (digits.drop k) + digitsValue (digits.take k) * 10 ^ (digits.length - k) := by
    conv_lhs => rw [← List.take_append_drop k digits, digitsValue_append, List.length_drop]
    exact Nat.add_comm _ _
  rw [whole, Nat.add_mul_div_right _ _ (Nat.pow_pos (by decide)), nothing, Nat.zero_add]

/-- A number without a zero in front has as many places as digits. -/
theorem le_digitsValue_cons {c : Char} (digit : isDigit c = true) (ne : c ≠ '0')
    (rest : List Char) : 10 ^ rest.length ≤ digitsValue (c :: rest) := by
  have some : 1 ≤ digitsValue [c] := by
    have bounds := (isDigit_iff c).1 digit
    have zero : '0'.toNat = 48 := rfl
    have other : c.toNat ≠ '0'.toNat := fun same => ne (Char.toNat_inj.1 same)
    change 1 ≤ 10 * 0 + (c.toNat - '0'.toNat)
    omega
  calc 10 ^ rest.length = 1 * 10 ^ rest.length := (Nat.one_mul _).symm
    _ ≤ digitsValue [c] * 10 ^ rest.length := Nat.mul_le_mul_right _ some
    _ ≤ digitsValue [c] * 10 ^ rest.length + digitsValue rest := Nat.le_add_right _ _
    _ = digitsValue (c :: rest) := (digitsValue_append [c] rest).symm

end Text

open Text

variable {digits : List Char}

namespace Token

/-- The digits of a target are the first ones of the run with zeros behind it. -/
theorem targetDigits_eq_take (digits : List Char) :
    targetDigits digits =
      (digits ++ List.replicate Position.digits '0').take Position.digits := by
  have missing : Position.digits - (digits.take Position.digits).length =
      min (Position.digits - digits.length) Position.digits := by
    rw [List.length_take]
    omega
  rw [targetDigits, missing, List.take_append, List.take_replicate]

/-- **The target of a run of digits** is the fraction with these digits after its point, in
ten-thousandths and cut off below them. -/
theorem target_eq_div (all : ∀ c ∈ digits, isDigit c = true) :
    target digits = digitsValue digits * 10 ^ 4 / 10 ^ digits.length := by
  have filled : ∀ c ∈ digits ++ List.replicate Position.digits '0', isDigit c = true := by
    intro c mem
    rcases List.mem_append.1 mem with own | zero
    · exact all c own
    · rw [List.eq_of_mem_replicate zero]
      rfl
  have value : digitsValue (targetDigits digits) =
      digitsValue digits * 10 ^ 4 / 10 ^ digits.length := by
    rw [targetDigits_eq_take, digitsValue_take filled, digitsValue_append_replicate_zero,
      List.length_append, List.length_replicate, Nat.add_sub_cancel]
    rfl
  have top : digitsValue (targetDigits digits) ≤ Position.top.toNat := by
    have below := digitsValue_lt fun _ => isDigit_of_mem_targetDigits all
    rw [length_targetDigits] at below
    exact Nat.le_of_lt_succ below
  rw [← value]
  exact Nat.min_eq_right top

/-- What is left without the zeros in front begins with another digit. -/
theorem ne_zero_of_significant {c : Char} {rest : List Char}
    (body : significant digits = c :: rest) : c ≠ '0' := by
  have ne : digits.dropWhile (· = '0') ≠ [] := by
    rw [show digits.dropWhile (· = '0') = c :: rest from body]
    exact List.cons_ne_nil c rest
  have first := List.head_dropWhile_not (· = '0') ne
  have head : (digits.dropWhile (· = '0')).head ne = c := by
    simp only [show digits.dropWhile (· = '0') = c :: rest from body, List.head_cons]
  rw [head] at first
  simpa using first

/-- **The parameter of a run of digits** is the number that they denote, up to the greatest
parameter. -/
theorem param_eq_min (all : ∀ c ∈ digits, isDigit c = true) :
    param digits = min (digitsValue digits) maxParam := by
  unfold param
  split
  · next long =>
    obtain ⟨c, rest, body⟩ := List.exists_cons_of_length_pos (Nat.zero_lt_of_lt long)
    have digit : isDigit c = true := by
      refine all c ((List.dropWhile_sublist _).subset (?_ : c ∈ significant digits))
      rw [body]
      exact List.mem_cons_self
    -- Ten significant digits are one more than the greatest parameter has.
    have many : 10 ^ paramDigits ≤ digitsValue digits := by
      rw [← digitsValue_significant, body]
      rw [body] at long
      exact (Nat.pow_le_pow_right (by decide) (Nat.le_of_lt_succ long)).trans
        (le_digitsValue_cons digit (ne_zero_of_significant body) rest)
    have power : 10 ^ paramDigits = maxParam + 1 := rfl
    exact (Nat.min_eq_right (by omega)).symm
  · exact Nat.min_comm _ _

end Token

/-- **What the two decoders make of a run of digits**, however long it is and however many zeros
stand in front: of the number that the digits denote, the one takes the first four digits after the
point of the fraction `0.digits`, the other the number up to the greatest parameter. Neither
refuses. -/
theorem decoded_of_digits (all : ∀ c ∈ digits, isDigit c = true) :
    decodeTarget digits = .ok ((denoted digits * 10 ^ 4 / 10 ^ digits.length : Nat) : Int) ∧
      decodeParam digits = .ok ((min (denoted digits) maxParam : Nat) : Int) := by
  rw [decodeTarget_digits all, decodeParam_digits all, Token.target_eq_div all,
    Token.param_eq_min all, digitsValue_eq_denoted]
  exact ⟨rfl, rfl⟩

/-- Zeros in front make a fraction small and do not count in a number, of which ten digits are too
many. -/
theorem decoded_of_digits_long :
    let digits := "001234567890".toList
    (∀ c ∈ digits, isDigit c = true) ∧ decodeTarget digits = .ok 12 ∧
      decodeParam digits = .ok maxParam := by
  intro digits
  have all : ∀ c ∈ digits, isDigit c = true := List.all_eq_true.1 (by decide +kernel)
  have number : denoted digits = 1234567890 := by decide +kernel
  have floor : 1234567890 * 10 ^ 4 / 10 ^ digits.length = 12 := by decide +kernel
  obtain ⟨target, param⟩ := decoded_of_digits all
  rw [number] at target param
  rw [floor] at target
  exact ⟨all, target, param⟩

end MotionEmulator
