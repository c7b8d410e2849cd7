import Mathlib.Algebra.Group.Nat.Defs
import Mathlib.Data.List.Basic
import Mathlib.Tactic.SplitIfs
import MotionEmulator.Text.Quoted

/-!
# Quoted text stays on its line and can be read back

Whatever a text holds, it is quoted in printable characters (`isPrintable_of_mem_quoted`), among
which there is no line feed. Nothing of it is lost: `readEscaped` reads one character as it stands
inside quotes, however it is written (`readEscaped_escaped`), and an escape never looks like the
closing quote, so that no two texts are quoted alike (`quoted_injective`).
-/

namespace MotionEmulator.Text

/-! ## Printable characters -/

/-- The characters from the space to the tilde are printable. -/
theorem isPrintable_of_ascii {c : Char} (low : 0x20 ≤ c.toNat) (high : c.toNat < 0x7f) :
    isPrintable c = true := by
  have outside : unprintableRanges.all
      (fun range => decide (range.2 < 0x20) || decide (0x7f ≤ range.1)) = true := by
    decide +kernel
  rw [isPrintable, Bool.not_eq_true', inRanges, List.any_eq_false]
  intro range mem inside
  have apart := List.all_eq_true.1 outside range mem
  simp only [Bool.or_eq_true, Bool.and_eq_true, decide_eq_true_eq] at apart inside
  omega

theorem isPrintable_lineFeed : isPrintable '\n' = false := by
  decide +kernel

/-! ## Hexadecimal numbers -/

theorem exists_digit_of_mem_toDigits {n : Nat} {c : Char} (mem : c ∈ Nat.toDigits 16 n) :
    ∃ d < 16, c = Nat.digitChar d := by
  induction n using Nat.strongRecOn with
  | ind n ih =>
    rcases Nat.lt_or_ge n 16 with single | several
    · rw [Nat.toDigits_of_lt_base single] at mem
      exact ⟨n, single, List.mem_singleton.1 mem⟩
    · rw [Nat.toDigits_of_base_le (by decide) several] at mem
      rcases List.mem_append.1 mem with first | last
      · exact ih (n / 16) (Nat.div_lt_self (by omega) (by decide)) first
      · exact ⟨n % 16, Nat.mod_lt _ (by decide), List.mem_singleton.1 last⟩

theorem ascii_of_mem_hexadecimal {width n : Nat} {c : Char} (mem : c ∈ hexadecimal width n) :
    0x20 ≤ c.toNat ∧ c.toNat < 0x7f := by
  have digits : ∀ d < 16, 0x20 ≤ (Nat.digitChar d).toNat ∧ (Nat.digitChar d).toNat < 0x7f := by
    decide
  rcases List.mem_append.1 mem with zero | digit
  · rw [List.eq_of_mem_replicate zero]
    decide
  · obtain ⟨d, lt, rfl⟩ := exists_digit_of_mem_toDigits digit
    exact digits d lt

theorem length_hexadecimal {width n : Nat} (pos : 0 < width) (lt : n < 16 ^ width) :
    (hexadecimal width n).length = width := by
  have short := (Nat.length_toDigits_le_iff (by decide) pos).2 lt
  rw [hexadecimal, List.length_append, List.length_replicate]
  exact Nat.sub_add_cancel short

/-- The number that hexadecimal digits denote. -/
def hexadecimalValue (digits : List Char) : Nat :=
  digits.foldl (fun n c => 16 * n + "0123456789abcdef".toList.idxOf c) 0

theorem hexadecimalValue_append_digit (digits : List Char) {d : Nat} (lt : d < 16) :
    hexadecimalValue (digits ++ [Nat.digitChar d]) = 16 * hexadecimalValue digits + d := by
  have index : ∀ d < 16, "0123456789abcdef".toList.idxOf (Nat.digitChar d) = d := by
    decide
  rw [hexadecimalValue, List.foldl_append]
  change 16 * hexadecimalValue digits + _ = _
  rw [index d lt]

theorem hexadecimalValue_toDigits (n : Nat) : hexadecimalValue (Nat.toDigits 16 n) = n := by
  induction n using Nat.strongRecOn with
  | ind n ih =>
    rcases Nat.lt_or_ge n 16 with single | several
    · rw [Nat.toDigits_of_lt_base single]
      have value := hexadecimalValue_append_digit [] single
      rw [List.nil_append] at value
      exact value.trans (Nat.zero_add n)
    · rw [Nat.toDigits_of_base_le (by decide) several,
        hexadecimalValue_append_digit _ (Nat.mod_lt _ (by decide)),
        ih (n / 16) (Nat.div_lt_self (by omega) (by decide))]
      exact Nat.div_add_mod n 16

/-- Zeros in front of a number do not count. -/
theorem hexadecimalValue_hexadecimal (width n : Nat) :
    hexadecimalValue (hexadecimal width n) = n := by
  have zeros (k : Nat) : hexadecimalValue (List.replicate k '0') = 0 := by
    induction k with
    | zero => rfl
    | succ k ih =>
      rw [List.replicate_succ']
      exact (hexadecimalValue_append_digit _ (d := 0) (by decide)).trans (by rw [ih])
  rw [hexadecimal, hexadecimalValue, List.foldl_append]
  change (Nat.toDigits 16 n).foldl _ (hexadecimalValue _) = n
  rw [zeros]
  exact hexadecimalValue_toDigits n

/-! ## Escapes -/

variable {quote c x : Char} {text other rest : List Char}

theorem isPrintable_of_mem_escapeByCode (mem : x ∈ escapeByCode c) : isPrintable x = true := by
  have escape {letter : Char} {width : Nat} (printable : isPrintable letter = true)
      (mem : x ∈ '\\' :: letter :: hexadecimal width c.toNat) : isPrintable x = true := by
    rcases List.mem_cons.1 mem with rfl | mem
    · decide +kernel
    rcases List.mem_cons.1 mem with rfl | digit
    · exact printable
    · obtain ⟨low, high⟩ := ascii_of_mem_hexadecimal digit
      exact isPrintable_of_ascii low high
  unfold escapeByCode at mem
  split_ifs at mem <;> exact escape (by decide +kernel) mem

theorem isPrintable_of_mem_escaped (printable : isPrintable quote = true)
    (mem : x ∈ escaped quote c) : isPrintable x = true := by
  have pair {letter : Char} (own : isPrintable letter = true) (mem : x ∈ ['\\', letter]) :
      isPrintable x = true := by
    rcases List.mem_cons.1 mem with rfl | mem
    · decide +kernel
    · rw [List.mem_singleton.1 mem]
      exact own
  unfold escaped at mem
  split_ifs at mem with marked tab feed back own
  · refine pair ?_ mem
    rcases marked with rfl | rfl
    · exact printable
    · decide +kernel
  · exact pair (by decide +kernel) mem
  · exact pair (by decide +kernel) mem
  · exact pair (by decide +kernel) mem
  · rw [List.mem_singleton.1 mem]
    exact own
  · exact isPrintable_of_mem_escapeByCode mem

/-- The quotes in use. -/
theorem quoteFor_cases (text : List Char) : quoteFor text = '\'' ∨ quoteFor text = '"' := by
  unfold quoteFor
  split_ifs
  · exact .inr rfl
  · exact .inl rfl

/-- **Quoted text is printable**, whatever it holds. -/
theorem isPrintable_of_mem_quoted (mem : x ∈ quoted text) : isPrintable x = true := by
  have printable : isPrintable (quoteFor text) = true := by
    rcases quoteFor_cases text with single | double
    · rw [single]
      decide +kernel
    · rw [double]
      decide +kernel
  unfold quoted at mem
  rcases List.mem_cons.1 mem with rfl | mem
  · exact printable
  rcases List.mem_append.1 mem with inside | last
  · obtain ⟨c, -, mem⟩ := List.mem_flatMap.1 inside
    exact isPrintable_of_mem_escaped printable mem
  · rw [List.mem_singleton.1 last]
    exact printable

/-! ## Reading back -/

/-- The character of a code point in so many digits, and what comes after it. -/
def readCode (width : Nat) (chars : List Char) : Char × List Char :=
  (Char.ofNat (hexadecimalValue (chars.take width)), chars.drop width)

/-- The character of an escape behind its backslash, and what comes after it. -/
def readEscape : List Char → Option (Char × List Char)
  | [] => none
  | letter :: rest =>
    if letter = 't' then some ('\t', rest)
    else if letter = 'n' then some ('\n', rest)
    else if letter = 'r' then some ('\r', rest)
    else if letter = 'x' then some (readCode 2 rest)
    else if letter = 'u' then some (readCode 4 rest)
    else if letter = 'U' then some (readCode 8 rest)
    else some (letter, rest)

/-- The first character as it stands inside quotes, and what comes after it. -/
def readEscaped : List Char → Option (Char × List Char)
  | [] => none
  | c :: rest => if c = '\\' then readEscape rest else some (c, rest)

theorem readCode_hexadecimal {width : Nat} (pos : 0 < width) (lt : c.toNat < 16 ^ width) :
    readCode width (hexadecimal width c.toNat ++ rest) = (c, rest) := by
  have length := length_hexadecimal pos lt
  rw [readCode, List.take_left' length, List.drop_left' length, hexadecimalValue_hexadecimal,
    Char.ofNat_toNat]

theorem readEscaped_escapeByCode : readEscaped (escapeByCode c ++ rest) = some (c, rest) := by
  unfold escapeByCode
  split_ifs with two four
  · exact congrArg some (readCode_hexadecimal (by decide) two)
  · exact congrArg some (readCode_hexadecimal (by decide) four)
  · exact congrArg some (readCode_hexadecimal (by decide) c.val.toNat_lt)

/-- **A character is read back**, however it is written. -/
theorem readEscaped_escaped (mark : quote = '\'' ∨ quote = '"') :
    readEscaped (escaped quote c ++ rest) = some (c, rest) := by
  unfold escaped
  split_ifs with marked tab feed back own
  · rcases marked with rfl | rfl
    · rcases mark with rfl | rfl <;> rfl
    · rfl
  · rw [tab]
    rfl
  · rw [feed]
    rfl
  · rw [back]
    rfl
  · exact if_neg fun backslash => marked (.inr backslash)
  · exact readEscaped_escapeByCode

/-- A character is escaped, or it stands for itself and is not the quote. -/
theorem escaped_cases (quote c : Char) :
    (∃ others, escaped quote c = '\\' :: others) ∨ escaped quote c = [c] ∧ c ≠ quote := by
  unfold escaped escapeByCode
  split_ifs with marked tab feed back own
  any_goals exact .inl ⟨_, rfl⟩
  exact .inr ⟨rfl, fun same => marked (.inl same)⟩

/-- No character is written with the closing quote in front. -/
theorem escaped_append_ne (mark : quote = '\'' ∨ quote = '"') :
    escaped quote c ++ rest ≠ quote :: text := by
  have backslash : '\\' ≠ quote := by
    rcases mark with rfl | rfl <;> decide
  intro same
  rcases escaped_cases quote c with ⟨others, eq⟩ | ⟨eq, ne⟩
  · rw [eq] at same
    exact backslash (List.head_eq_of_cons_eq same)
  · rw [eq] at same
    exact ne (List.head_eq_of_cons_eq same)

theorem flatMap_escaped_injective (mark : quote = '\'' ∨ quote = '"')
    (same : text.flatMap (escaped quote) ++ [quote] = other.flatMap (escaped quote) ++ [quote]) :
    text = other := by
  induction text generalizing other with
  | nil =>
    cases other with
    | nil => rfl
    | cons d others =>
      rw [List.flatMap_cons, List.append_assoc] at same
      exact absurd same.symm (escaped_append_ne mark)
  | cons c rest ih =>
    rw [List.flatMap_cons, List.append_assoc] at same
    cases other with
    | nil => exact absurd same (escaped_append_ne mark)
    | cons d others =>
      rw [List.flatMap_cons, List.append_assoc] at same
      have read := congrArg readEscaped same
      rw [readEscaped_escaped mark, readEscaped_escaped mark] at read
      obtain ⟨rfl, later⟩ := Prod.mk.inj (Option.some.inj read)
      rw [ih later]

/-- **No two texts are quoted alike.** -/
theorem quoted_injective : Function.Injective quoted := by
  intro text other same
  unfold quoted at same
  obtain ⟨quote, inside⟩ := List.cons.inj same
  rw [quote] at inside
  exact flatMap_escaped_injective (quoteFor_cases other) inside

end MotionEmulator.Text
