import Mathlib.Data.List.Induction
import MotionEmulator.Proofs.Command.Wire

/-!
# Decoding runs of digits

`decodeTarget` and `decodeParam` read texts that may hold anything, and refuse what is no integer.
On a run of ASCII digits neither refuses, however long the run is: `Text.readInt?_digits` reads
such a run as the number that it denotes, and `decodeTarget_digits` and `decodeParam_digits` say
that the two decoders give the target and the parameter of a token.
-/

namespace MotionEmulator

namespace Text

variable {digits : List Char}

theorem isNumeralBlank_of_isDigit {c : Char} (digit : isDigit c = true) :
    isNumeralBlank c = false := by
  rw [isDigit_iff] at digit
  have space : c ≠ ' ' := by
    rintro rfl
    exact absurd digit (by decide)
  have control : ¬ c ≤ '\r' := by
    intro le
    have low : c.toNat ≤ 13 := le
    omega
  simp [isNumeralBlank, space, control]

theorem hasNonAscii_digits (all : ∀ c ∈ digits, isDigit c = true) : hasNonAscii digits = false := by
  rw [hasNonAscii, List.any_eq_false]
  intro c mem
  have digit := (isDigit_iff c).1 (all c mem)
  simp only [decide_eq_true_eq]
  omega

/-- A run of digits has no blanks around it. -/
theorem dropWhile_isNumeralBlank (all : ∀ c ∈ digits, isDigit c = true) :
    digits.dropWhile isNumeralBlank = digits := by
  cases digits with
  | nil => rfl
  | cons c rest =>
    have digit := isNumeralBlank_of_isDigit (all c List.mem_cons_self)
    rw [List.dropWhile_cons_of_neg (by simp [digit])]

theorem numeralBody_digits (all : ∀ c ∈ digits, isDigit c = true) :
    numeralBody digits = digits := by
  have back : ∀ c ∈ digits.reverse, isDigit c = true := fun c mem => all c (List.mem_reverse.1 mem)
  simp only [numeralBody, hasNonAscii_digits all, Bool.false_eq_true, if_false,
    dropWhile_isNumeralBlank all, dropWhile_isNumeralBlank back, List.reverse_reverse]

/-- A run of digits has no underscores to take out. -/
theorem ungroup?_digits (all : ∀ c ∈ digits, isDigit c = true) (afterDigit : Bool) :
    ungroup? afterDigit digits = some digits := by
  induction digits generalizing afterDigit with
  | nil => rfl
  | cons c rest ih =>
    obtain ⟨digit, others⟩ := List.forall_mem_cons.1 all
    have ne : c ≠ '_' := by
      rintro rfl
      exact absurd digit (by decide)
    rw [ungroup?, ih others, Option.map_some]
    exact ne

theorem splitSign_digits (all : ∀ c ∈ digits, isDigit c = true) :
    splitSign digits = (false, digits) := by
  unfold splitSign
  split
  · exact absurd (all '-' List.mem_cons_self) (by decide)
  · exact absurd (all '+' List.mem_cons_self) (by decide)
  · rfl

/-- **A run of digits is read as the number that it denotes.** -/
theorem readInt?_digits (ne : digits ≠ []) (all : ∀ c ∈ digits, isDigit c = true)
    (short : digits.length ≤ maxIntDigits) : readInt? digits = some (digitsValue digits : Int) := by
  have proper : digits ≠ [] ∧ digits.all isDigit ∧ digits.length ≤ maxIntDigits :=
    ⟨ne, List.all_eq_true.2 all, short⟩
  simp only [readInt?, numeralBody_digits all, ungroup?_digits all, splitSign_digits all,
    Option.bind_eq_bind, Option.bind_some, if_pos proper, Bool.false_eq_true, if_false]

theorem digitsValue_append_singleton (digits : List Char) (c : Char) :
    digitsValue (digits ++ [c]) = 10 * digitsValue digits + (c.toNat - '0'.toNat) := by
  rw [digitsValue, List.foldl_append]
  rfl

/-- A number of so many digits is below the power of ten with as many zeros. -/
theorem digitsValue_lt (all : ∀ c ∈ digits, isDigit c = true) :
    digitsValue digits < Nat.pow 10 digits.length := by
  induction digits using List.reverseRecOn with
  | nil => decide
  | append_singleton front c ih =>
    have digit : c.toNat - '0'.toNat < 10 := by
      have := (isDigit_iff c).1 (all c (by simp))
      have zero : '0'.toNat = 48 := rfl
      omega
    have below := ih fun d mem => all d (List.mem_append_left _ mem)
    have power : Nat.pow 10 (front ++ [c]).length = 10 * Nat.pow 10 front.length := by
      rw [List.length_append, List.length_singleton, Nat.mul_comm]
      rfl
    rw [digitsValue_append_singleton, power]
    omega

end Text

open Text

variable {digits : List Char}

namespace Token

theorem isDigit_of_mem_targetDigits (all : ∀ c ∈ digits, isDigit c = true) {c : Char}
    (mem : c ∈ targetDigits digits) : isDigit c = true := by
  rcases List.mem_append.1 mem with kept | filled
  · exact all c (List.mem_of_mem_take kept)
  · rw [List.eq_of_mem_replicate filled]
    rfl

theorem length_targetDigits (digits : List Char) :
    (targetDigits digits).length = Position.digits := by
  have kept : (digits.take Position.digits).length ≤ Position.digits :=
    List.length_take_le _ _
  rw [targetDigits, List.length_append, List.length_replicate]
  omega

/-- What is left of a number without the zeros in front denotes the same number. -/
theorem digitsValue_significant (digits : List Char) :
    digitsValue (significant digits) = digitsValue digits := by
  have zeros : digits.takeWhile (· = '0') =
      List.replicate (digits.takeWhile (· = '0')).length '0' := by
    rw [List.eq_replicate_iff]
    exact ⟨rfl, fun c mem => by simpa using List.mem_takeWhile_imp mem⟩
  have split : digits.takeWhile (· = '0') ++ significant digits = digits :=
    List.takeWhile_append_dropWhile
  conv_rhs => rw [← split, zeros, digitsValue_replicate_zero_append]

end Token

/-- **A run of digits is never refused as a target.** -/
theorem decodeTarget_digits (all : ∀ c ∈ digits, isDigit c = true) :
    decodeTarget digits = .ok (Token.target digits : Int) := by
  have length := Token.length_targetDigits digits
  have ne : Token.targetDigits digits ≠ [] := by
    intro nil
    rw [nil] at length
    cases length
  have short : (Token.targetDigits digits).length ≤ maxIntDigits := by
    rw [length]
    decide
  have read := readInt?_digits ne (fun _ => Token.isDigit_of_mem_targetDigits all) short
  have value : Position.clamp (digitsValue (Token.targetDigits digits) : Int) =
      (Token.target digits : Int) := by
    have cast : (Position.top.toNat : Int) = Position.top := rfl
    change _ = ((min Position.top.toNat (digitsValue (Token.targetDigits digits)) : Nat) : Int)
    unfold Position.clamp
    omega
  rw [decodeTarget, read]
  exact congrArg Except.ok value

/-- **A run of digits is never refused as a parameter.** -/
theorem decodeParam_digits (all : ∀ c ∈ digits, isDigit c = true) :
    decodeParam digits = .ok (Token.param digits : Int) := by
  unfold decodeParam Token.param
  dsimp only
  split
  · rfl
  · next few =>
    have kept : ∀ c ∈ Token.significant digits, isDigit c = true :=
      fun c mem => all c (List.dropWhile_sublist _ |>.subset mem)
    -- A number that was all zeros is read from a single one.
    have body : ∃ body : List Char,
        (if Token.significant digits = [] then ['0'] else Token.significant digits) = body ∧
          body ≠ [] ∧ (∀ c ∈ body, isDigit c = true) ∧ body.length ≤ paramDigits ∧
          digitsValue body = digitsValue digits := by
      refine ⟨_, rfl, ?_⟩
      have same := Token.digitsValue_significant digits
      split
      · next none =>
        rw [none] at same
        refine ⟨List.cons_ne_nil _ _, fun c mem => ?_, ?_, same⟩
        · rw [List.mem_singleton.1 mem]
          decide
        · rw [List.length_singleton]
          decide
      · next some => exact ⟨some, kept, by omega, same⟩
    obtain ⟨body, eq, ne, digit, short, same⟩ := body
    have below := digitsValue_lt digit
    have power : Nat.pow 10 body.length ≤ maxParam + 1 := by
      calc Nat.pow 10 body.length ≤ Nat.pow 10 paramDigits := Nat.pow_le_pow_right (by decide) short
        _ = maxParam + 1 := rfl
    have read := readInt?_digits ne digit (short.trans (by decide))
    rw [same] at below read
    have least : maxParam.min (digitsValue digits) = digitsValue digits :=
      Nat.min_eq_right (by omega)
    rw [eq, read, least]

end MotionEmulator
