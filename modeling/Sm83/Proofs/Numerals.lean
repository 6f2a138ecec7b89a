import Mathlib.Data.Nat.Digits.Defs
import Mathlib.Data.List.Forall2
import Mathlib.Data.List.Induction
import Mathlib.Tactic.IntervalCases
import Sm83.Text.Hex
import Sm83.Text.Numeral

set_option autoImplicit false

namespace Sm83

namespace Numeral

def Denotes (radix : Nat) (c : Char) (digit : Nat) : Prop :=
  digit < radix ∧ (c = Nat.digitChar digit ∨ c = (Nat.digitChar digit).toUpper)

def Spells (radix : Nat) (text : List Char) (n : Nat) : Prop :=
  ∃ digits, List.Forall₂ (Denotes radix) text.reverse digits ∧ n = Nat.ofDigits radix digits

section Reading

variable {radix : Nat}

theorem spells_nil (n : Nat) : Spells radix [] n ↔ n = 0 := by
  simp [Spells]

-- As far as one has read, and one character more.
theorem spells_snoc (text : List Char) (c : Char) (n : Nat) :
    Spells radix (text ++ [c]) n ↔
      ∃ upper digit, Spells radix text upper ∧ Denotes radix c digit ∧
        n = upper * radix + digit := by
  simp only [Spells, List.reverse_append, List.reverse_singleton, List.singleton_append,
    List.forall₂_cons_left_iff]
  have onward (digit : Nat) (digits : List Nat) :
      Nat.ofDigits radix (digit :: digits) = Nat.ofDigits radix digits * radix + digit := by
    rw [Nat.ofDigits_cons, Nat.mul_comm, Nat.add_comm]
  constructor
  next =>
    rintro ⟨_, ⟨digit, digits, denotes, spelled, rfl⟩, rfl⟩
    exact ⟨_, digit, ⟨digits, spelled, rfl⟩, denotes, onward digit digits⟩
  next =>
    rintro ⟨_, digit, ⟨digits, spelled, rfl⟩, denotes, rfl⟩
    exact ⟨_, ⟨digit, digits, denotes, spelled, rfl⟩, (onward digit digits).symm⟩

theorem symbolValue_digitChar : ∀ digit < 16,
    symbolValue (Nat.digitChar digit) = some digit ∧
      symbolValue (Nat.digitChar digit).toUpper = some digit := by
  decide

theorem digitChar_of_symbolValue {c : Char} {digit : Nat} (value : symbolValue c = some digit)
    (small : digit < 16) : c = Nat.digitChar digit ∨ c = (Nat.digitChar digit).toUpper := by
  have code : c.toNat = digit + 48 ∧ digit < 10 ∨ c.toNat = digit + 87 ∧ 10 ≤ digit ∨
      c.toNat = digit + 55 ∧ 10 ≤ digit := by
    simp only [symbolValue] at value
    split_ifs at value <;> simp only [Option.some.injEq] at value <;> omega
  simp only [← Char.toNat_inj]
  rcases code with ⟨code, low⟩ | ⟨code, high⟩ | ⟨code, high⟩
  next => left; rw [code]; interval_cases digit <;> rfl
  next => left; rw [code]; interval_cases digit <;> rfl
  next => right; rw [code]; interval_cases digit <;> rfl

theorem digitValue_eq_some_iff (small : radix ≤ 16) (c : Char) (digit : Nat) :
    digitValue radix c = some digit ↔ Denotes radix c digit := by
  simp only [digitValue, Option.filter_eq_some_iff, decide_eq_true_eq]
  constructor
  next => exact fun ⟨value, below⟩ => ⟨below, digitChar_of_symbolValue value (by omega)⟩
  next =>
    rintro ⟨below, rfl | rfl⟩
    next => exact ⟨(symbolValue_digitChar digit (by omega)).1, below⟩
    next => exact ⟨(symbolValue_digitChar digit (by omega)).2, below⟩

variable {limit : Nat}

theorem accumulate_append (start : Nat) (first second : List Char) :
    accumulate radix limit start (first ++ second) =
      (accumulate radix limit start first).bind (accumulate radix limit · second) := by
  induction first generalizing start with
  | nil => rfl
  | cons c rest ih =>
    simp only [List.cons_append, accumulate]
    split
    next => rfl
    next =>
      split
      next => exact ih _
      next => rfl

theorem accumulate_singleton_eq_ok_iff (small : radix ≤ 16) (start : Nat) (c : Char) (n : Nat) :
    accumulate radix limit start [c] = .ok n ↔
      (∃ digit, Denotes radix c digit ∧ n = start * radix + digit) ∧ n ≤ limit := by
  simp only [accumulate, ← digitValue_eq_some_iff small]
  cases digitValue radix c with
  | none => simp
  | some digit =>
    simp only [Option.some.injEq, exists_eq_left']
    split
    next fits =>
      rw [Except.ok.injEq]
      exact ⟨fun same => ⟨same.symm, same ▸ fits⟩, fun ⟨same, _⟩ => same.symm⟩
    next exceeds => exact ⟨nofun, fun ⟨same, fits⟩ => absurd (same ▸ fits) exceeds⟩

theorem accumulate_singleton_eq_error_iff (small : radix ≤ 16) (start : Nat) (c : Char)
    (error : NumeralError) :
    accumulate radix limit start [c] = .error error ↔
      (error = .invalidDigit ∧ ∀ digit, ¬ Denotes radix c digit) ∨
        (error = .tooLarge ∧ ∃ digit, Denotes radix c digit ∧ limit < start * radix + digit) := by
  simp only [accumulate, ← digitValue_eq_some_iff small]
  cases digitValue radix c with
  | none => simp [eq_comm]
  | some digit =>
    simp only [Option.some.injEq, exists_eq_left', forall_eq', and_false, false_or]
    split
    next fits => simp [fits]
    next exceeds => simp [Nat.lt_of_not_le exceeds, eq_comm]

theorem bind_eq_ok_iff {ε α γ : Type} (result : Except ε α) (f : α → Except ε γ) (c : γ) :
    result.bind f = .ok c ↔ ∃ a, result = .ok a ∧ f a = .ok c := by
  cases result <;> simp [Except.bind]

theorem accumulate_eq_ok_iff (some : 1 ≤ radix) (small : radix ≤ 16) (text : List Char) (n : Nat) :
    accumulate radix limit 0 text = .ok n ↔ Spells radix text n ∧ n ≤ limit := by
  induction text using List.reverseRecOn generalizing n with
  | nil =>
    rw [accumulate, Except.ok.injEq, spells_nil]
    omega
  | append_singleton text c ih =>
    simp only [accumulate_append, bind_eq_ok_iff, ih, accumulate_singleton_eq_ok_iff small,
      spells_snoc]
    constructor
    next =>
      rintro ⟨upper, ⟨spelled, -⟩, ⟨digit, denotes, rfl⟩, fits⟩
      exact ⟨⟨upper, digit, spelled, denotes, rfl⟩, fits⟩
    next =>
      rintro ⟨⟨upper, digit, spelled, denotes, rfl⟩, fits⟩
      have smaller : upper ≤ upper * radix := Nat.le_mul_of_pos_right upper some
      exact ⟨upper, ⟨spelled, by omega⟩, ⟨digit, denotes, rfl⟩, fits⟩

theorem Spells.unique (some : 1 ≤ radix) (small : radix ≤ 16) {text : List Char} {m n : Nat}
    (first : Spells radix text m) (second : Spells radix text n) : m = n := by
  have readsFirst : accumulate radix (max m n) 0 text = .ok m :=
    (accumulate_eq_ok_iff some small text m).mpr ⟨first, Nat.le_max_left m n⟩
  have readsSecond : accumulate radix (max m n) 0 text = .ok n :=
    (accumulate_eq_ok_iff some small text n).mpr ⟨second, Nat.le_max_right m n⟩
  exact Except.ok.inj (readsFirst.symm.trans readsSecond)

theorem accumulate_eq_error_iff (start : Nat) (text : List Char) (error : NumeralError) :
    accumulate radix limit start text = .error error ↔
      ∃ before c after n, text = before ++ c :: after ∧
        accumulate radix limit start before = .ok n ∧
        accumulate radix limit n [c] = .error error := by
  constructor
  next =>
    induction text using List.reverseRecOn with
    | nil => exact nofun
    | append_singleton text c ih =>
      intro fails
      rw [accumulate_append] at fails
      cases reads : accumulate radix limit start text with
      | ok n =>
        rw [reads] at fails
        exact ⟨text, c, [], n, rfl, reads, fails⟩
      | error first =>
        rw [reads] at fails
        obtain ⟨before, d, after, n, rfl, reached, stops⟩ := ih (reads.trans fails)
        exact ⟨before, d, after ++ [c], n, by simp, reached, stops⟩
  next =>
    rintro ⟨before, c, after, n, rfl, reached, stops⟩
    rw [accumulate_append, reached]
    change accumulate radix limit n ([c] ++ after) = _
    rw [accumulate_append, stops]
    rfl

end Reading

def unsigned : List Char → List Char
  | '+' :: digits => digits
  | digits => digits

inductive FirstFault (radix limit : Nat) (text : List Char) : NumeralError → Prop where
  | empty (nothing : text = []) : FirstFault radix limit text .empty
  | lonePlus (alone : text = ['+']) : FirstFault radix limit text .invalidDigit
  | invalidDigit {before after : List Char} {c : Char} {n : Nat}
      (reached : unsigned text = before ++ c :: after) (spelled : Spells radix before n)
      (fits : n ≤ limit) (other : ∀ digit, ¬ Denotes radix c digit) :
      FirstFault radix limit text .invalidDigit
  | tooLarge {before after : List Char} {c : Char} {n more : Nat}
      (reached : unsigned text = before ++ c :: after) (spelled : Spells radix before n)
      (fits : n ≤ limit) (longer : Spells radix (before ++ [c]) more) (exceeds : limit < more) :
      FirstFault radix limit text .tooLarge

variable {radix limit : Nat} {text : List Char}

theorem natural_of_unsigned (some : unsigned text ≠ []) :
    natural radix limit text = accumulate radix limit 0 (unsigned text) := by
  unfold natural
  split
  next => exact absurd rfl some
  next => exact absurd rfl some
  next => rfl
  next other => rw [unsigned]; exact fun digits => other digits

theorem eq_of_unsigned_eq_nil (none : unsigned text = []) : text = [] ∨ text = ['+'] := by
  unfold unsigned at none
  split at none
  next => exact .inr (by rw [none])
  next => exact .inl none

theorem natural_of_empty (none : unsigned text = []) :
    natural radix limit text = .error (if text = [] then .empty else .invalidDigit) := by
  obtain rfl | rfl := eq_of_unsigned_eq_nil none
  next => rfl
  next => rfl

theorem firstFault_of_empty (none : unsigned text = []) (error : NumeralError) :
    FirstFault radix limit text error ↔
      error = if text = [] then .empty else .invalidDigit := by
  constructor
  next =>
    rintro (rfl | rfl | ⟨reached, -⟩ | ⟨reached, -⟩)
    next => rfl
    next => rfl
    next => simp [none] at reached
    next => simp [none] at reached
  next =>
    obtain rfl | rfl := eq_of_unsigned_eq_nil none
    next => exact fun same => same ▸ .empty rfl
    next => exact fun same => same ▸ .lonePlus rfl

theorem natural_eq_ok_iff (some : 1 ≤ radix) (small : radix ≤ 16) (n : Nat) :
    natural radix limit text = .ok n ↔
      unsigned text ≠ [] ∧ Spells radix (unsigned text) n ∧ n ≤ limit := by
  by_cases nothing : unsigned text = []
  next => simp [natural_of_empty nothing, nothing]
  next => simp [natural_of_unsigned nothing, nothing, accumulate_eq_ok_iff some small]

theorem natural_eq_error_iff (some : 1 ≤ radix) (small : radix ≤ 16) (error : NumeralError) :
    natural radix limit text = .error error ↔ FirstFault radix limit text error := by
  by_cases nothing : unsigned text = []
  next => rw [natural_of_empty nothing, firstFault_of_empty nothing, Except.error.injEq, eq_comm]
  next =>
    rw [natural_of_unsigned nothing, accumulate_eq_error_iff]
    simp only [accumulate_eq_ok_iff some small, accumulate_singleton_eq_error_iff small]
    constructor
    next =>
      rintro ⟨before, c, after, n, reached, ⟨spelled, fits⟩, ⟨rfl, other⟩ |
        ⟨rfl, digit, denotes, exceeds⟩⟩
      next => exact .invalidDigit reached spelled fits other
      next =>
        exact .tooLarge reached spelled fits
          ((spells_snoc ..).mpr ⟨n, digit, spelled, denotes, rfl⟩) exceeds
    next =>
      rintro (rfl | rfl | ⟨reached, spelled, fits, other⟩ | ⟨reached, spelled, fits, longer, exceeds⟩)
      next => exact absurd rfl nothing
      next => exact absurd rfl nothing
      next => exact ⟨_, _, _, _, reached, ⟨spelled, fits⟩, .inl ⟨rfl, other⟩⟩
      next =>
        obtain ⟨upper, digit, again, denotes, rfl⟩ := (spells_snoc ..).mp longer
        obtain rfl := spelled.unique some small again
        exact ⟨_, _, _, _, reached, ⟨spelled, fits⟩, .inr ⟨rfl, digit, denotes, exceeds⟩⟩

section Written

theorem spells_toDigits (n : Nat) : Spells 10 (Nat.toDigits 10 n) n := by
  induction n using Nat.strong_induction_on with
  | _ n ih =>
    by_cases small : n < 10
    next =>
      rw [Nat.toDigits_of_lt_base small, ← List.nil_append [_], spells_snoc]
      exact ⟨0, n, (spells_nil 0).mpr rfl, ⟨small, .inl rfl⟩, by omega⟩
    next =>
      rw [Nat.toDigits_of_base_le (by decide) (Nat.le_of_not_lt small), spells_snoc]
      exact ⟨n / 10, n % 10, ih (n / 10) (by omega), ⟨Nat.mod_lt n (by decide), .inl rfl⟩,
        (Nat.div_add_mod' n 10).symm⟩

theorem spells_hex (width : Nat) {n : Nat} (fits : n < 16 ^ width) :
    Spells 16 (Hex.digits width n) n := by
  induction width generalizing n with
  | zero => exact (spells_nil n).mpr (Nat.lt_one_iff.mp fits)
  | succ width ih =>
    rw [Nat.pow_succ] at fits
    rw [Hex.digits, spells_snoc]
    exact ⟨n / 16, n % 16, ih (Nat.div_lt_of_lt_mul (by omega)),
      ⟨Nat.mod_lt n (by decide), .inl rfl⟩, (Nat.div_add_mod' n 16).symm⟩

theorem Spells.denotes_of_mem {radix : Nat} {text : List Char} {n : Nat}
    (spelled : Spells radix text n) : ∀ c ∈ text, ∃ digit, Denotes radix c digit := by
  induction text using List.reverseRecOn generalizing n with
  | nil => exact nofun
  | append_singleton text last ih =>
    obtain ⟨upper, digit, before, denotes, -⟩ := (spells_snoc ..).mp spelled
    intro c member
    rcases List.mem_append.mp member with member | member
    next => exact ih before c member
    next => exact List.mem_singleton.mp member ▸ ⟨digit, denotes⟩

theorem Spells.not_mem {radix : Nat} (small : radix ≤ 16) {text : List Char} {n : Nat}
    (spelled : Spells radix text n) {c : Char} (other : digitValue radix c = none) : c ∉ text := by
  intro member
  obtain ⟨digit, denotes⟩ := spelled.denotes_of_mem c member
  rw [(digitValue_eq_some_iff small c digit).mpr denotes] at other
  cases other

theorem Spells.unsigned_eq {radix : Nat} (small : radix ≤ 16) {text : List Char} {n : Nat}
    (spelled : Spells radix text n) : unsigned text = text := by
  unfold unsigned
  split
  next => exact absurd List.mem_cons_self (spelled.not_mem small rfl)
  next => rfl

end Written

end Numeral

end Sm83
