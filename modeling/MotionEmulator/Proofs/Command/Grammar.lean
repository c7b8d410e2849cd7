import MotionEmulator.Proofs.Command.Decoding

/-!
# The grammar of tokens

A token is a channel's name and a run of ASCII digits, and it may go on with the letter of a kind
of motion and a second run of digits. `Token.Form` is this syntax, `Form.text` the text of a form
and `Form.command` its command by way of the two decoders and of the checks of `Extension.build`
and `Command.build`, each of which could refuse.

* `Form.command_eq`: none of them refuses the parts of a form;
* `Form.text_injective`: a text has at most one form;
* `ofToken?_iff_form`: exactly the texts of forms are tokens.
-/

namespace MotionEmulator

open Text

/-! ## What passes the checks -/

theorem Extension.build_natCast {kind : MoveKind} (timed : kind ≠ .immediate) {n : Nat}
    (le : n ≤ maxParam) : Extension.build kind n = .ok ⟨kind, n, timed, le⟩ := by
  have nonneg : ¬ (n : Int) < 0 := by omega
  rw [build, dif_neg timed, if_neg nonneg]
  exact dif_pos le

theorem Command.build_natCast (channel : Channel) (extension : Option Extension) {n : Nat}
    (le : n ≤ Position.top.toNat) :
    Command.build channel n extension = .ok ⟨channel, n, extension, le⟩ := by
  have nonneg : ¬ (n : Int) < 0 := by omega
  rw [build, if_neg nonneg]
  exact dif_pos le

/-! ## Forms -/

/-- A run of ASCII digits, of any length but zero. -/
structure DigitRun where
  chars : List Char
  ne_nil : chars ≠ []
  digits : ∀ c ∈ chars, isDigit c = true

namespace Token

/-- The part of a token that names a duration or a speed. -/
structure Suffix where
  kind : MoveKind
  timed : kind ≠ .immediate
  param : DigitRun

/-- The parts of a token. -/
structure Form where
  channel : Channel
  target : DigitRun
  suffix : Option Suffix

namespace Suffix

def text (s : Suffix) : List Char :=
  s.kind.letters ++ s.param.chars

/-- The extension, from the decoded parameter through the checks of extensions. -/
def extension (s : Suffix) : Except Fault Extension := do
  Extension.build s.kind (← decodeParam s.param.chars)

/-- The extension of a suffix. -/
def denoted (s : Suffix) : Extension :=
  ⟨s.kind, Token.param s.param.chars, s.timed, param_le _⟩

end Suffix

namespace Form

def text (f : Form) : List Char :=
  f.channel.chars ++ (f.target.chars ++ f.suffix.elim [] Suffix.text)

/-- The command, from the decoded parts through the checks of commands. -/
def command (f : Form) : Except Fault Command := do
  let extension ←
    match f.suffix with
    | none => pure none
    | some s => some <$> s.extension
  Command.build f.channel (← decodeTarget f.target.chars) extension

/-- The command of a form. -/
def denoted (f : Form) : Command :=
  ⟨f.channel, Token.target f.target.chars, f.suffix.map Suffix.denoted, target_le _⟩

end Form

/-! ## No check refuses a part -/

theorem Suffix.extension_eq (s : Suffix) : s.extension = .ok s.denoted := by
  have decoded := decodeParam_digits s.param.digits
  simp only [extension, decoded, bind, Except.bind]
  exact Extension.build_natCast s.timed (param_le _)

theorem Form.command_eq (f : Form) : f.command = .ok f.denoted := by
  obtain ⟨channel, target, suffix⟩ := f
  have decoded := decodeTarget_digits target.digits
  cases suffix with
  | none =>
    simp only [command, decoded, bind, Except.bind, pure, Except.pure]
    exact Command.build_natCast channel none (target_le _)
  | some s =>
    simp only [command, decoded, bind, Except.bind, s.extension_eq, Functor.map, Except.map]
    exact Command.build_natCast channel (some s.denoted) (target_le _)

/-! ## A text has one form -/

/-- The text of a suffix begins with the letter of its kind, which is no digit. -/
theorem Suffix.exists_text (s : Suffix) :
    ∃ letter, s.text = letter :: s.param.chars ∧ MoveKind.ofLetter? letter = some s.kind ∧
      isDigit letter = false := by
  obtain ⟨letter, letters, known, other, -⟩ := s.denoted.exists_letter
  have text : s.text = letter :: s.param.chars := by
    rw [Suffix.text, show s.kind.letters = [letter] from letters]
    rfl
  exact ⟨letter, text, known, other⟩

theorem DigitRun.eq_of_chars {a b : DigitRun} (same : a.chars = b.chars) : a = b := by
  cases a
  cases b
  cases same
  rfl

/-- What follows a run of digits in a token does not begin with a digit. -/
theorem takeWhile_digits_suffix (digits : DigitRun) (suffix : Option Suffix) :
    (digits.chars ++ suffix.elim [] Suffix.text).takeWhile isDigit = digits.chars ∧
      (digits.chars ++ suffix.elim [] Suffix.text).dropWhile isDigit =
        suffix.elim [] Suffix.text := by
  rw [List.takeWhile_append_of_pos digits.digits, List.dropWhile_append_of_pos digits.digits]
  cases suffix with
  | none => exact ⟨List.append_nil _, rfl⟩
  | some s =>
    obtain ⟨letter, text, -, other⟩ := s.exists_text
    rw [Option.elim_some, text, List.takeWhile_cons_of_neg (by simp [other]),
      List.dropWhile_cons_of_neg (by simp [other])]
    exact ⟨List.append_nil _, rfl⟩

theorem Suffix.text_injective : Function.Injective Suffix.text := by
  intro s s' same
  obtain ⟨letter, text, known, -⟩ := s.exists_text
  obtain ⟨letter', text', known', -⟩ := s'.exists_text
  rw [text, text'] at same
  obtain ⟨rfl, chars⟩ := List.cons.inj same
  have kinds : s.kind = s'.kind := Option.some.inj (known.symm.trans known')
  have params : s.param = s'.param := DigitRun.eq_of_chars chars
  cases s
  cases s'
  cases kinds
  cases params
  rfl

theorem Form.text_injective : Function.Injective Form.text := by
  rintro ⟨channel, target, suffix⟩ ⟨channel', target', suffix'⟩ same
  obtain ⟨names, rest⟩ := List.append_inj same (by rfl)
  have channels : some channel = some channel' := by
    rw [← Channel.ofChars?_chars channel, ← Channel.ofChars?_chars channel', names]
  obtain rfl := Option.some.inj channels
  obtain ⟨taken, dropped⟩ := takeWhile_digits_suffix target suffix
  obtain ⟨taken', dropped'⟩ := takeWhile_digits_suffix target' suffix'
  dsimp only at rest
  rw [rest] at taken dropped
  obtain rfl : target = target' := DigitRun.eq_of_chars (taken.symm.trans taken')
  have suffixes : suffix.elim [] Suffix.text = suffix'.elim [] Suffix.text :=
    dropped.symm.trans dropped'
  -- A suffix has a letter, so its text is never empty.
  have ne (s : Suffix) : s.text ≠ [] := by
    obtain ⟨letter, text, -⟩ := s.exists_text
    rw [text]
    exact List.cons_ne_nil _ _
  cases suffix with
  | none =>
    cases suffix' with
    | none => rfl
    | some s => exact absurd suffixes.symm (ne s)
  | some s =>
    cases suffix' with
    | none => exact absurd suffixes (ne s)
    | some s' => rw [Suffix.text_injective suffixes]

end Token

/-! ## Tokens are the texts of forms -/

namespace Command

open Token

/-- The text of a form is a token, and its command is that of the form. -/
theorem ofToken?_text (f : Form) : ofToken? f.text = some f.denoted := by
  obtain ⟨channel, target, suffix⟩ := f
  cases suffix with
  | none =>
    simp only [Form.text, Option.elim_none, List.append_nil]
    exact ofToken?_digits target.ne_nil target.digits
  | some s =>
    obtain ⟨letter, text, kind, other⟩ := s.exists_text
    have read : Token.extension? letter s.param.chars = some s.denoted := by
      have proper : s.param.chars ≠ [] ∧ s.param.chars.all isDigit :=
        ⟨s.param.ne_nil, List.all_eq_true.2 s.param.digits⟩
      unfold Token.extension?
      split
      · next unknown =>
        rw [kind] at unknown
        cases unknown
      · next kind' known =>
        obtain rfl : s.kind = kind' := Option.some.inj (kind.symm.trans known)
        rw [if_pos proper]
        rfl
    simp only [Form.text, Option.elim_some, text]
    rw [ofToken?_digits_letter target.ne_nil target.digits other, read]
    rfl

/-- A letter and digits that make up an extension are a suffix. -/
theorem exists_suffix {letter : Char} {param : List Char} {e : Extension}
    (read : Token.extension? letter param = some e) :
    ∃ s : Suffix, s.text = letter :: param := by
  unfold Token.extension? at read
  split at read
  · cases read
  · next kind known =>
    split at read
    · next proper =>
      obtain ⟨ne, all⟩ := proper
      let s : Suffix :=
        ⟨kind, MoveKind.ofLetter?_ne_immediate known, ⟨param, ne, List.all_eq_true.1 all⟩⟩
      refine ⟨s, ?_⟩
      have letters : kind.letters = [letter] := by
        unfold MoveKind.ofLetter? at known
        split at known <;> cases known <;> rfl
      rw [Suffix.text, letters]
      rfl
    · cases read

/-- A token is the text of a form. -/
theorem exists_form {text : List Char} {c : Command} (token : ofToken? text = some c) :
    ∃ f : Form, f.text = text := by
  unfold ofToken? at token
  split at token
  · next group index rest =>
    obtain ⟨channel, found, token⟩ := Option.bind_eq_some_iff.1 token
    have name : channel.chars = [group, index] := Channel.chars_of_ofChars? found
    dsimp only at token
    split at token
    · cases token
    · next ne =>
      let target : DigitRun :=
        ⟨rest.takeWhile isDigit, ne, fun c mem => List.mem_takeWhile_imp mem⟩
      have whole : target.chars ++ rest.dropWhile isDigit = rest :=
        List.takeWhile_append_dropWhile
      split at token
      · next none_left =>
        refine ⟨⟨channel, target, none⟩, ?_⟩
        rw [none_left, List.append_nil] at whole
        simp only [Form.text, Option.elim_none, List.append_nil, whole, name]
        rfl
      · next letter param left =>
        obtain ⟨e, read, -⟩ := Option.bind_eq_some_iff.1 token
        obtain ⟨s, text⟩ := exists_suffix read
        refine ⟨⟨channel, target, some s⟩, ?_⟩
        rw [left] at whole
        simp only [Form.text, Option.elim_some, text, whole, name]
        rfl
  · cases token

/-- **Exactly the texts of forms are tokens.** Whatever a text holds, it is read as a command if
and only if it is the text of a form, which is then the only one, and the command is the one that
the decoders and the checks make of the parts of that form; none of them refuses. -/
theorem ofToken?_iff_form :
    (∀ text c, ofToken? text = some c ↔ ∃ f : Form, f.text = text ∧ f.command = .ok c) ∧
      (∀ f : Form, ∃ c, f.command = .ok c) ∧
      Function.Injective Form.text := by
  refine ⟨fun text c => ⟨fun token => ?_, ?_⟩, fun f => ⟨_, f.command_eq⟩, Form.text_injective⟩
  · obtain ⟨f, rfl⟩ := exists_form token
    obtain rfl := Option.some.inj ((ofToken?_text f).symm.trans token)
    exact ⟨f, rfl, f.command_eq⟩
  · rintro ⟨f, rfl, made⟩
    obtain rfl := Except.ok.inj (f.command_eq.symm.trans made)
    exact ofToken?_text f

end Command

end MotionEmulator
