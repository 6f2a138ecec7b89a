import Sm83.Failure
import Sm83.Proofs.Numerals
import Sm83.Snapshot

set_option autoImplicit false

namespace Sm83

structure SelfDelimiting {α : Type} (write : α → String) : Prop where
  split {a b : α} {first second : List Char}
    (same : (write a).toList ++ first = (write b).toList ++ second) : a = b ∧ first = second

namespace SelfDelimiting

variable {α : Type} {write : α → String}

theorem of_length (width : Nat) (fixed : ∀ a, (write a).length = width)
    (injective : ∀ a b, write a = write b → a = b) : SelfDelimiting write where
  split {a b first second} same := by
    have lengths : (write a).toList.length = (write b).toList.length := by
      rw [String.length_toList, String.length_toList, fixed, fixed]
    obtain ⟨written, rest⟩ := List.append_inj same lengths
    exact ⟨injective a b (String.toList_inj.mp written), rest⟩

-- A mark that is in no text of a value ends it.
theorem of_mark {mark : Char} (unmarked : ∀ a, mark ∉ (write a).toList)
    (injective : ∀ a b, write a = write b → a = b) :
    SelfDelimiting fun a => write a ++ String.singleton mark where
  split {a b first second} same := by
    have read (a : α) (rest : List Char) :
        ((write a).toList ++ mark :: rest).takeWhile (· ≠ mark) = (write a).toList := by
      have before : ∀ c ∈ (write a).toList, decide (c ≠ mark) = true := by
        intro c member
        exact decide_eq_true fun here => unmarked a (here ▸ member)
      rw [List.takeWhile_append_of_pos before, List.takeWhile_cons_of_neg (by simp),
        List.append_nil]
    simp only [String.toList_append, String.toList_singleton, List.append_assoc,
      List.singleton_append] at same
    have written := congrArg (List.takeWhile (· ≠ mark)) same
    rw [read, read] at written
    rw [written] at same
    exact ⟨injective a b (String.toList_inj.mp written),
      (List.cons.inj (List.append_cancel_left same)).2⟩

theorem split_after (delimiting : SelfDelimiting write) {label : List Char} {a b : α}
    {first second : List Char} (same : label ++ ((write a).toList ++ first) =
      label ++ ((write b).toList ++ second)) : a = b ∧ first = second :=
  delimiting.split (List.append_cancel_left same)

theorem inj_after (delimiting : SelfDelimiting write) {label : List Char} {a b : α}
    (same : label ++ (write a).toList = label ++ (write b).toList) : a = b :=
  (delimiting.split (congrArg (· ++ []) (List.append_cancel_left same))).1

end SelfDelimiting

namespace Hex

theorem selfDelimiting_of_small {α : Type} {toNat : α → Nat} (width : Nat)
    (small : ∀ a, toNat a < Nat.pow 16 width) (injective : ∀ a b, toNat a = toNat b → a = b) :
    SelfDelimiting fun a => String.ofList ('0' :: 'x' :: digits width (toNat a)) := by
  refine .of_length (width + 2) (fun a => ?_) fun a b same => ?_
  next => simp only [String.length_ofList, List.length_cons, length_digits]
  next =>
    have written := String.ofList_inj.mp same
    simp only [List.cons.injEq, true_and] at written
    exact injective a b (digits_inj (small a) (small b) written)

theorem byte_selfDelimiting : SelfDelimiting byte :=
  selfDelimiting_of_small 2 UInt8.toNat_lt fun _ _ => UInt8.toNat_inj.mp

theorem word_selfDelimiting : SelfDelimiting word :=
  selfDelimiting_of_small 4 UInt16.toNat_lt fun _ _ => UInt16.toNat_inj.mp

end Hex

theorem decimal_selfDelimiting :
    SelfDelimiting fun n : Nat => toString n ++ String.singleton ' ' := by
  have text (n : Nat) : (toString n).toList = Nat.toDigits 10 n := Nat.toList_repr
  refine .of_mark (fun n => ?_) fun m n same => ?_
  next =>
    rw [text]
    exact (Numeral.spells_toDigits n).not_mem (by decide) rfl
  next =>
    have digits : Nat.toDigits 10 m = Nat.toDigits 10 n := by rw [← text, ← text, same]
    exact (Numeral.spells_toDigits m).unique (by decide) (by decide)
      (digits ▸ Numeral.spells_toDigits n)

namespace Snapshot

theorem binary_selfDelimiting : SelfDelimiting binary :=
  .of_length 1 (by decide) (by decide)

-- The two words differ in their first letter.
theorem truth_selfDelimiting : SelfDelimiting truth where
  split {a b first second} same := by
    cases a <;> cases b <;> simp_all [truth]

theorem text_inj {s t : Snapshot} (same : s.text = t.text) : s = t := by
  rw [← String.toList_inj] at same
  unfold text at same
  simp only [String.toList_append, List.append_assoc] at same
  obtain ⟨pc, same⟩ := Hex.word_selfDelimiting.split_after same
  obtain ⟨opcode, same⟩ := Hex.byte_selfDelimiting.split_after same
  obtain ⟨sp, same⟩ := Hex.word_selfDelimiting.split_after same
  obtain ⟨a, same⟩ := Hex.byte_selfDelimiting.split_after same
  obtain ⟨zero, same⟩ := binary_selfDelimiting.split_after same
  obtain ⟨carry, same⟩ := binary_selfDelimiting.split_after same
  obtain ⟨bc, same⟩ := Hex.word_selfDelimiting.split_after same
  obtain ⟨de, same⟩ := Hex.word_selfDelimiting.split_after same
  obtain ⟨hl, same⟩ := Hex.word_selfDelimiting.split_after same
  obtain ⟨enabled, same⟩ := truth_selfDelimiting.split_after same
  have halted := truth_selfDelimiting.inj_after same
  have flags : s.flags = t.flags := congrArg₂ Flags.mk zero carry
  calc s = ⟨s.pc, s.opcode, s.sp, s.a, s.flags, s.bc, s.de, s.hl, s.interruptsEnabled,
        s.halted⟩ := rfl
    _ = t := by rw [pc, opcode, sp, a, flags, bc, de, hl, enabled, halted]

end Snapshot

namespace Fault

section Text

variable (opcode : UInt8) (pc address : UInt16) (length : Nat)

theorem toList_message_single :
    (unknownOpcode opcode pc false).message.toList =
      "Unimplemented opcode ".toList ++ ((Hex.byte opcode).toList ++
        (" at ".toList ++ (Hex.word pc).toList)) := by
  change ("Unimplemented opcode " ++ Hex.byte opcode ++ " at " ++ Hex.word pc).toList = _
  simp only [String.toList_append, List.append_assoc]

theorem toList_message_extended :
    (unknownOpcode opcode pc true).message.toList =
      "Unimplemented opcode ".toList ++ ((Hex.byte 0xcb).toList ++
        (" ".toList ++ ((Hex.byte opcode).toList ++ (" at ".toList ++ (Hex.word pc).toList)))) := by
  have label : "Unimplemented opcode 0xcb " = "Unimplemented opcode " ++ Hex.byte 0xcb ++ " " := by
    decide
  change ("Unimplemented opcode 0xcb " ++ Hex.byte opcode ++ " at " ++ Hex.word pc).toList = _
  simp only [label, String.toList_append, List.append_assoc]

theorem toList_message_programTooLarge :
    (programTooLarge address length).message.toList =
      "Program of ".toList ++ ((toString length ++ String.singleton ' ').toList ++
        ("bytes does not fit at ".toList ++ (Hex.word address).toList)) := by
  have label : " bytes does not fit at " = String.singleton ' ' ++ "bytes does not fit at " := by
    decide
  change ("Program of " ++ toString length ++ " bytes does not fit at " ++
    Hex.word address).toList = _
  simp only [label, String.toList_append, List.append_assoc]

end Text

def initial : Fault → Char
  | unknownOpcode .. => 'U'
  | programTooLarge .. => 'P'
  | immediateWrite => 'i'
  | subtractOverflow | negateOverflow => 'a'

theorem head?_message (f : Fault) : f.message.toList.head? = some f.initial := by
  cases f with
  | unknownOpcode opcode pc extended =>
    cases extended with
    | false => rw [toList_message_single]; rfl
    | true => rw [toList_message_extended]; rfl
  | programTooLarge address length => rw [toList_message_programTooLarge]; rfl
  | immediateWrite | subtractOverflow | negateOverflow => rfl

-- Behind the byte `0xcb`, one text says where it stands and the other goes on with the next byte.
theorem message_single_ne_extended (opcode other : UInt8) (pc there : UInt16) :
    (unknownOpcode opcode pc false).message ≠ (unknownOpcode other there true).message := by
  intro same
  have written : (Hex.byte other).toList = '0' :: 'x' :: Hex.digits 2 other.toNat :=
    String.toList_ofList
  rw [← String.toList_inj, toList_message_single, toList_message_extended, written] at same
  obtain ⟨-, same⟩ := Hex.byte_selfDelimiting.split_after same
  have second : some 'a' = some '0' := congrArg (·[1]?) same
  exact absurd second (by decide)

theorem unknownOpcode_inj {opcode other : UInt8} {pc there : UInt16} {extended more : Bool}
    (same : (unknownOpcode opcode pc extended).message = (unknownOpcode other there more).message) :
    unknownOpcode opcode pc extended = unknownOpcode other there more := by
  cases extended <;> cases more
  case false.false =>
    rw [← String.toList_inj, toList_message_single, toList_message_single] at same
    obtain ⟨byte, same⟩ := Hex.byte_selfDelimiting.split_after same
    have place := Hex.word_selfDelimiting.inj_after same
    rw [byte, place]
  case false.true => exact absurd same (message_single_ne_extended _ _ _ _)
  case true.false => exact absurd same.symm (message_single_ne_extended _ _ _ _)
  case true.true =>
    rw [← String.toList_inj, toList_message_extended, toList_message_extended] at same
    obtain ⟨-, same⟩ := Hex.byte_selfDelimiting.split_after same
    obtain ⟨byte, same⟩ := Hex.byte_selfDelimiting.split_after same
    have place := Hex.word_selfDelimiting.inj_after same
    rw [byte, place]

theorem message_inj {f g : Fault} (same : f.message = g.message) : f = g := by
  have initials : f.initial = g.initial := by
    rw [← Option.some_inj, ← head?_message, ← head?_message, same]
  cases f <;> cases g
  case unknownOpcode.unknownOpcode => exact unknownOpcode_inj same
  case programTooLarge.programTooLarge =>
    rw [← String.toList_inj, toList_message_programTooLarge, toList_message_programTooLarge] at same
    obtain ⟨size, same⟩ := decimal_selfDelimiting.split_after same
    have place := Hex.word_selfDelimiting.inj_after same
    rw [size, place]
  case immediateWrite.immediateWrite => rfl
  case subtractOverflow.subtractOverflow => rfl
  case negateOverflow.negateOverflow => rfl
  case subtractOverflow.negateOverflow => exact absurd same (by decide)
  case negateOverflow.subtractOverflow => exact absurd same (by decide)
  all_goals simp [initial] at initials

end Fault

/-- No two snapshots have the same text, and no two faults. -/
theorem texts_lose_nothing :
    (∀ s t : Snapshot, s.text = t.text ↔ s = t) ∧
      ∀ f g : Fault, (Failure.fault f).display = (Failure.fault g).display ↔ f = g :=
  ⟨fun _ _ => ⟨Snapshot.text_inj, congrArg Snapshot.text⟩,
    fun _ _ => ⟨Fault.message_inj, congrArg Fault.message⟩⟩

end Sm83
