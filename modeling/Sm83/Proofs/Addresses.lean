import Sm83.Proofs.Numerals

set_option autoImplicit false

namespace Sm83

namespace Address

open Numeral

inductive Prefixed : List Char → Nat → List Char → Prop where
  | lower (rest : List Char) : Prefixed ('0' :: 'x' :: rest) 16 rest
  | upper (rest : List Char) : Prefixed ('0' :: 'X' :: rest) 16 rest
  | plain {text : List Char} (lower : ¬ ['0', 'x'] <+: text) (upper : ¬ ['0', 'X'] <+: text) :
      Prefixed text 10 text

theorem prefixed_iff (text : List Char) (radix : Nat) (rest : List Char) :
    Prefixed text radix rest ↔ split text = (radix, rest) := by
  constructor
  next =>
    rintro (rest | rest | ⟨lower, upper⟩)
    next => rfl
    next => rfl
    next =>
      unfold split
      split
      next rest => exact absurd ⟨rest, rfl⟩ lower
      next rest => exact absurd ⟨rest, rfl⟩ upper
      next => rfl
  next =>
    unfold split
    split
    next rest => rintro ⟨⟩; exact .lower rest
    next rest => rintro ⟨⟩; exact .upper rest
    next lower upper =>
      rintro ⟨⟩
      exact .plain (fun ⟨rest, same⟩ => lower rest same.symm) fun ⟨rest, same⟩ =>
        upper rest same.symm

section Parsing

variable {text : String} {radix : Nat} {rest : List Char}

theorem Prefixed.radix_le {text : List Char} (prefixed : Prefixed text radix rest) :
    1 ≤ radix ∧ radix ≤ 16 := by
  cases prefixed <;> decide

theorem parse_of_prefixed (prefixed : Prefixed text.toList radix rest) :
    parse text = ((natural radix 65535 rest).map UInt16.ofNat).mapError (refusal text) := by
  rw [parse, ofText, (prefixed_iff ..).mp prefixed]

theorem parse_eq_ok_iff (prefixed : Prefixed text.toList radix rest) (n : UInt16) :
    parse text = .ok n ↔ unsigned rest ≠ [] ∧ Spells radix (unsigned rest) n.toNat := by
  obtain ⟨some, small⟩ := prefixed.radix_le
  have limited : n.toNat ≤ 65535 := Nat.le_of_lt_succ n.toNat_lt
  have reads : natural radix 65535 rest = .ok n.toNat ↔
      unsigned rest ≠ [] ∧ Spells radix (unsigned rest) n.toNat := by
    rw [natural_eq_ok_iff some small, and_iff_left limited]
  rw [parse_of_prefixed prefixed, ← reads]
  cases result : natural radix 65535 rest with
  | error error => exact ⟨nofun, nofun⟩
  | ok m =>
    have fits : m < 65536 := Nat.lt_succ_of_le ((natural_eq_ok_iff some small m).mp result).2.2
    have same : UInt16.ofNat m = n ↔ m = n.toNat := by
      rw [← UInt16.toNat_inj, UInt16.toNat_ofNat_of_lt' fits]
    simpa [Except.map, Except.mapError] using same

theorem parse_eq_error_iff (prefixed : Prefixed text.toList radix rest) (message : String) :
    parse text = .error message ↔
      ∃ error, FirstFault radix 65535 rest error ∧
        message = "invalid address " ++ text ++ ": " ++ error.message := by
  obtain ⟨some, small⟩ := prefixed.radix_le
  simp only [parse_of_prefixed prefixed, ← natural_eq_error_iff some small]
  cases natural radix 65535 rest with
  | error error =>
    simp only [Except.map, Except.mapError, Except.error.injEq, exists_eq_left']
    exact eq_comm
  | ok n => exact ⟨nofun, nofun⟩

end Parsing

theorem parse_decimal (n : UInt16) : parse (toString n.toNat) = .ok n := by
  have text : (toString n.toNat).toList = Nat.toDigits 10 n.toNat := Nat.toList_repr
  have spelled := spells_toDigits n.toNat
  have x : ∀ c, c = 'x' ∨ c = 'X' → c ∉ Nat.toDigits 10 n.toNat := by
    rintro c (rfl | rfl)
    next => exact spelled.not_mem (by decide) rfl
    next => exact spelled.not_mem (by decide) rfl
  have plain : Prefixed (toString n.toNat).toList 10 (Nat.toDigits 10 n.toNat) := by
    rw [text]
    exact .plain (fun ⟨rest, same⟩ => x 'x' (.inl rfl) (same ▸ by simp))
      fun ⟨rest, same⟩ => x 'X' (.inr rfl) (same ▸ by simp)
  rw [parse_eq_ok_iff plain, spelled.unsigned_eq (by decide)]
  exact ⟨Nat.toDigits_ne_nil, spelled⟩

theorem parse_word (n : UInt16) : parse (Hex.word n) = .ok n := by
  have spelled := spells_hex 4 n.toNat_lt
  have marked : Prefixed (Hex.word n).toList 16 (Hex.digits 4 n.toNat) := by
    rw [Hex.word, String.toList_ofList]
    exact .lower _
  rw [parse_eq_ok_iff marked, spelled.unsigned_eq (by decide)]
  exact ⟨List.ne_nil_of_length_pos (by rw [Hex.length_digits]; decide), spelled⟩

/-- After a prefix that decides on the radix and a plus sign, an address has digits of the radix and
nothing else, and they make up a number that fits. What is said about any other text is what is
wrong with it where one first cannot read on. The texts that addresses are shown as, in decimal or
as four digits to the radix sixteen, are read as the same addresses. -/
theorem parse_classifies :
    (∀ text : String, ∃ radix rest, Prefixed text.toList radix rest ∧
      (∀ n, parse text = .ok n ↔ unsigned rest ≠ [] ∧ Spells radix (unsigned rest) n.toNat) ∧
      ∀ message, parse text = .error message ↔
        ∃ error, FirstFault radix 65535 rest error ∧
          message = "invalid address " ++ text ++ ": " ++ error.message) ∧
    ∀ n : UInt16, parse (toString n.toNat) = .ok n ∧ parse (Hex.word n) = .ok n := by
  refine ⟨fun text => ?_, fun n => ⟨parse_decimal n, parse_word n⟩⟩
  have prefixed : Prefixed text.toList (split text.toList).1 (split text.toList).2 :=
    (prefixed_iff ..).mpr rfl
  exact ⟨_, _, prefixed, parse_eq_ok_iff prefixed, parse_eq_error_iff prefixed⟩

-- A sign may stand behind the prefix, and what stands behind the first fault does not matter.
example : parse "0X+fF" = .ok 255 := rfl

example : ofText "65536x" = .error .tooLarge := rfl

end Address

end Sm83
