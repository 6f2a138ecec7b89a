import Sm83.Proofs.NamedBytes
import Sm83.Proofs.OpcodeTable

set_option autoImplicit false

namespace Sm83

namespace Direction

def sign : Direction → Int
  | up => 1
  | down => -1

theorem toNat_byte (direction : Direction) (b : UInt8) :
    ((direction.byte b).toNat : Int) = (b.toNat + direction.sign) % 256 := by
  have hb := b.toNat_lt
  cases direction with
  | up => simp [byte, sign, UInt8.toNat_add]
  | down =>
    simp [byte, sign, UInt8.toNat_sub]
    omega

theorem toNat_word (direction : Direction) (w : UInt16) :
    ((direction.word w).toNat : Int) = (w.toNat + direction.sign) % 65536 := by
  have hw := w.toNat_lt
  cases direction with
  | up => simp [word, sign, UInt16.toNat_add]
  | down =>
    simp [word, sign, UInt16.toNat_sub]
    omega

theorem view_foldl_mod {σ : Type} {size : Int} (view : σ → Int) {move : σ → Direction → σ}
    (within : ∀ state, view state % size = view state)
    (moves : ∀ state direction,
      view (move state direction) = (view state + direction.sign) % size)
    (state : σ) (steps : List Direction) :
    view (steps.foldl move state) =
      (view state + steps.count .up - steps.count .down) % size := by
  induction steps generalizing state with
  | nil => simp [within]
  | cons direction rest ih =>
    rw [List.foldl_cons, ih, moves, Int.add_sub_assoc, Int.emod_add_emod]
    cases direction with
    | up =>
      simp only [sign, List.count_cons_self,
        List.count_cons_of_ne (by decide : Direction.up ≠ .down)]
      congr 1
      omega
    | down =>
      simp only [sign, List.count_cons_self,
        List.count_cons_of_ne (by decide : Direction.down ≠ .up)]
      congr 1
      omega

end Direction

namespace Cpu

def stepWords (cpu : Cpu) (r : WordRegister) (steps : List Direction) : Cpu :=
  steps.foldl (fun cpu direction => cpu.stepWord direction r) cpu

section StepWords

variable (cpu : Cpu) {r : WordRegister} (steps : List Direction)

theorem stepWords_eq_setWord (r : WordRegister) :
    let final := cpu.stepWords r steps
    final = cpu.setWord r (final.getWord r) := by
  induction steps generalizing cpu with
  | nil => exact (cpu.setWord_getWord r).symm
  | cons direction rest ih =>
    intro final
    calc final = (cpu.stepWord direction r).setWord r (final.getWord r) :=
          ih (cpu.stepWord direction r)
      _ = cpu.setWord r (final.getWord r) := by rw [stepWord_eq, setWord_setWord]

theorem toNat_getWord_stepWord (whole : r ≠ .af) (direction : Direction) :
    (((cpu.stepWord direction r).getWord r).toNat : Int) =
      ((cpu.getWord r).toNat + direction.sign) % 65536 := by
  rw [stepWord_eq, getWord_setWord_self _ _ _ whole, Direction.toNat_word]

theorem toNat_getWord_stepWords (whole : r ≠ .af) :
    (((cpu.stepWords r steps).getWord r).toNat : Int) =
      ((cpu.getWord r).toNat + steps.count .up - steps.count .down) % 65536 := by
  refine Direction.view_foldl_mod (fun cpu : Cpu => ((cpu.getWord r).toNat : Int))
    (fun cpu => ?_) (fun cpu direction => cpu.toNat_getWord_stepWord whole direction) cpu steps
  have := (cpu.getWord r).toNat_lt
  omega

theorem flags_setWord (whole : r ≠ .af) (value : UInt16) :
    (cpu.setWord r value).flags = cpu.flags := by
  cases r with
  | af => exact absurd rfl whole
  | bc | de | hl | sp | pc => rfl

end StepWords

end Cpu

def Instruction.counting (digit : Fin 8) (pair : WordRegister) (direction : Direction) :
    List Instruction :=
  [.stepByte direction (Opcode.operand digit), .stepWord direction pair, .loadStepping direction,
    .storeStepping direction]

theorem Deposit.flags_named (cpu : Cpu) (value : UInt8) (digit : Fin 8) :
    ((named cpu value digit).cpu cpu).flags = cpu.flags := by
  match digit with
  | 0 | 1 | 2 | 3 | 4 | 5 | 6 | 7 => rfl

namespace Machine

section Bytes

variable (machine : Machine Memory) (digit : Fin 8)

def stepped (direction : Direction) : Machine Memory :=
  let result := direction.byte (machine.named digit)
  machine.withNamed digit result { machine.cpu.flags with zero := result = 0 }

theorem perform_stepByte (direction : Direction) (pc length : UInt16) (log : Log) :
    ((Instruction.stepByte direction (Opcode.operand digit)).execute machine.cpu pc
        length).perform machine.bus log =
      ⟨.ok ⟨(machine.stepped digit direction).cpu, pc + length, false⟩,
        (machine.stepped digit direction).bus, log⟩ := by
  simp only [Instruction.execute, Executed.proceed, Microcode.bind_eq, Microcode.bind_assoc,
    Microcode.perform_bind, perform_fetch_operand, Deposit.perform_store_operand]
  rw [Cpu.noteStep, Deposit.flags_named]
  rfl

theorem apply_stepByte (direction : Direction) (pc length : UInt16) :
    machine.apply (.execute (.stepByte direction (Opcode.operand digit)) pc length) =
      (.ok (.executed (pc + length) false), machine.stepped digit direction) := by
  rw [apply_execute, perform_stepByte]
  rfl

def steppedAll (steps : List Direction) : Machine Memory :=
  steps.foldl (fun machine direction => machine.stepped digit direction) machine

theorem named_stepped (direction : Direction) :
    (machine.stepped digit direction).named digit = direction.byte (machine.named digit) :=
  named_withNamed ..

theorem toNat_named_steppedAll (steps : List Direction) :
    (((machine.steppedAll digit steps).named digit).toNat : Int) =
      ((machine.named digit).toNat + steps.count .up - steps.count .down) % 256 := by
  refine Direction.view_foldl_mod (fun machine => ((machine.named digit).toNat : Int))
    (fun machine => ?_) (fun machine direction => ?_) machine steps
  next =>
    have := (machine.named digit).toNat_lt
    omega
  next => rw [named_stepped, Direction.toNat_byte]

theorem carry_steppedAll (steps : List Direction) :
    (machine.steppedAll digit steps).cpu.flags.carry = machine.cpu.flags.carry := by
  induction steps generalizing machine with
  | nil => rfl
  | cons direction rest ih => exact ih (machine.stepped digit direction)

theorem zero_steppedAll (steps : List Direction) :
    (machine.steppedAll digit steps).cpu.flags.zero =
      if steps = [] then machine.cpu.flags.zero
      else decide ((machine.steppedAll digit steps).named digit = 0) := by
  induction steps generalizing machine with
  | nil => rfl
  | cons direction rest ih =>
    have later := ih (machine.stepped digit direction)
    rw [if_neg (List.cons_ne_nil direction rest)]
    -- The last step is the one that shows.
    cases rest with
    | nil => simp [steppedAll, stepped]
    | cons next rest =>
      rw [if_neg (List.cons_ne_nil next rest)] at later
      exact later

theorem steppedAll_eq_withNamed (steps : List Direction) :
    let final := machine.steppedAll digit steps
    final = machine.withNamed digit (final.named digit) final.cpu.flags :=
  foldl_eq_withNamed (fun _ _ => ⟨_, _, rfl⟩) machine steps

theorem applyAll_stepByte (steps : List Direction) (pc length : Nat → UInt16) :
    let ran := machine.applyAll
      (Instruction.commands pc length (steps.map (.stepByte · (Opcode.operand digit))))
    (∀ reply ∈ ran.1, ∃ next, reply = .ok (.executed next false)) ∧
      ran.2 = machine.steppedAll digit steps :=
  Instruction.applyAll_operations (fun machine direction => machine.apply_stepByte digit direction)
    machine steps pc length

end Bytes

theorem foldl_stepWord (machine : Machine Memory) (r : WordRegister) (steps : List Direction) :
    steps.foldl (fun machine direction =>
      { machine with cpu := machine.cpu.stepWord direction r }) machine =
      { machine with cpu := machine.cpu.stepWords r steps } := by
  induction steps generalizing machine with
  | nil => rfl
  | cons direction rest ih => exact ih { machine with cpu := machine.cpu.stepWord direction r }

theorem applyAll_stepWord (machine : Machine Memory) (r : WordRegister) (steps : List Direction)
    (pc length : Nat → UInt16) :
    let ran := machine.applyAll (Instruction.commands pc length (steps.map (.stepWord · r)))
    (∀ reply ∈ ran.1, ∃ next, reply = .ok (.executed next false)) ∧
      ran.2 = { machine with cpu := machine.cpu.stepWords r steps } := by
  rw [← foldl_stepWord]
  exact Instruction.applyAll_operations (fun _ _ _ _ => rfl) machine steps pc length

theorem exists_apply_step_bare {machine after : Machine Memory} {pc : UInt16} {entry : Entry}
    (running : machine.cpu.halted = false) (known : decode (machine.bus.read pc) = some entry)
    (bare : entry.instruction.immediateLength = 0)
    (performed : ∀ log, (entry.instruction.execute machine.cpu pc 1).perform machine.bus log =
      ⟨.ok ⟨after.cpu, pc + 1, false⟩, after.bus, log⟩)
    (cycles : Int) :
    ∃ log, machine.apply (.step pc cycles) = (.ok (.progress ⟨pc + 1, cycles - entry.cycles⟩),
      ⟨{ after.cpu with pc := pc + 1 }, after.bus, log⟩) := by
  have occupies : UInt16.ofNat entry.length = 1 := by
    rw [(decode_sound _ _ known).length, bare]
    rfl
  exact exists_apply_step running known occupies performed rfl cycles

theorem perform_counting (machine : Machine Memory) {digit : Fin 8} {pair : WordRegister}
    {direction : Direction} {instruction : Instruction}
    (counts : instruction ∈ Instruction.counting digit pair direction) (pc : UInt16) :
    let after := (machine.apply (.execute instruction pc 1)).2
    instruction.immediateLength = 0 ∧
      ∀ log, (instruction.execute machine.cpu pc 1).perform machine.bus log =
        ⟨.ok ⟨after.cpu, pc + 1, false⟩, after.bus, log⟩ := by
  simp only [Instruction.counting, List.mem_cons, List.not_mem_nil, or_false] at counts
  obtain rfl | rfl | rfl | rfl := counts
  next => exact ⟨rfl, fun log => by rw [apply_stepByte, perform_stepByte]⟩
  next => exact ⟨rfl, fun _ => rfl⟩
  next => exact ⟨rfl, fun _ => rfl⟩
  next => exact ⟨rfl, fun _ => rfl⟩

/-- Steps up and down, in any order, leave a byte in a register or in memory, and a pair or the
stack pointer, as far from where it was as there are more of them up than down. A byte shows in the
zero flag whether the last step has made it zero; a word shows in no flag, and nothing else changes.
A load or a store that moves `HL` moves it as a step does. -/
theorem steps_counted (machine : Machine Memory) (digit : Fin 8) {pair : WordRegister}
    (whole : pair ≠ .af) (steps : List Direction) (pc length : Nat → UInt16) :
    let ran (machine : Machine Memory) (instruction : Direction → Instruction) :=
      machine.applyAll (Instruction.commands pc length (steps.map instruction))
    let bytes := ran machine (.stepByte · (Opcode.operand digit))
    let byte := bytes.2.named digit
    let words := ran machine (.stepWord · pair)
    let word := words.2.cpu.getWord pair
    let pointing : Cpu := machine.cpu.setWord .sp (machine.cpu.getWord pair)
    ((∀ reply ∈ bytes.1, ∃ next, reply = .ok (.executed next false)) ∧
      (byte.toNat : Int) =
        ((machine.named digit).toNat + steps.count .up - steps.count .down) % 256 ∧
      bytes.2 = machine.withNamed digit byte
        { machine.cpu.flags with
          zero := if steps = [] then machine.cpu.flags.zero else decide (byte = 0) }) ∧
    ((∀ reply ∈ words.1, ∃ next, reply = .ok (.executed next false)) ∧
      (word.toNat : Int) =
        ((machine.cpu.getWord pair).toNat + steps.count .up - steps.count .down) % 65536 ∧
      words.2 = { machine with cpu := machine.cpu.setWord pair word } ∧
      words.2.cpu.flags = machine.cpu.flags ∧
      (ran { machine with cpu := pointing } (.stepWord · .sp)).2.cpu.sp = word) ∧
    (∀ (direction : Direction) (place size : UInt16),
      let address := machine.cpu.getWord .hl
      let stepped := (machine.apply (.execute (.stepWord direction .hl) place size)).2
      ((stepped.cpu.getWord .hl).toNat : Int) = (address.toNat + direction.sign) % 65536 ∧
      machine.apply (.execute (.loadStepping direction) place size) =
        (.ok (.executed (place + size) false),
          { stepped with cpu := { stepped.cpu with a := machine.bus.read address } }) ∧
      machine.apply (.execute (.storeStepping direction) place size) =
        (.ok (.executed (place + size) false),
          { stepped with bus := machine.bus.write address machine.cpu.a })) ∧
    ∀ (direction : Direction) (place : UInt16) (entry : Entry) (cycles : Int),
      machine.cpu.halted = false → decode (machine.bus.read place) = some entry →
      entry.instruction ∈ Instruction.counting digit pair direction →
      let executed := (machine.apply (.execute entry.instruction place 1)).2
      ∃ log, machine.apply (.step place cycles) =
        (.ok (.progress ⟨place + 1, cycles - entry.cycles⟩),
          ⟨{ executed.cpu with pc := place + 1 }, executed.bus, log⟩) := by
  intro ran bytes byte words word pointing
  have stepped : bytes.2 = machine.steppedAll digit steps :=
    (machine.applyAll_stepByte digit steps pc length).2
  have moved (machine : Machine Memory) (r : WordRegister) :
      (ran machine (.stepWord · r)).2 = { machine with cpu := machine.cpu.stepWords r steps } :=
    (machine.applyAll_stepWord r steps pc length).2
  have counted : (word.toNat : Int) =
      ((machine.cpu.getWord pair).toNat + steps.count .up - steps.count .down) % 65536 := by
    simp only [word, words, moved]
    exact machine.cpu.toNat_getWord_stepWords steps whole
  refine ⟨⟨?_, ?_, ?_⟩, ⟨?_, counted, ?_, ?_, ?_⟩, ?_, ?_⟩
  next => exact (machine.applyAll_stepByte digit steps pc length).1
  next => simpa only [byte, stepped] using machine.toNat_named_steppedAll digit steps
  next =>
    simp only [byte, stepped, ← zero_steppedAll, ← machine.carry_steppedAll digit steps]
    exact machine.steppedAll_eq_withNamed digit steps
  next => exact (machine.applyAll_stepWord pair steps pc length).1
  next =>
    simp only [word, words, moved]
    exact congrArg (Machine.mk · machine.bus machine.log)
      (machine.cpu.stepWords_eq_setWord steps pair)
  next =>
    simp only [words, moved]
    rw [machine.cpu.stepWords_eq_setWord steps pair, Cpu.flags_setWord _ whole]
  next =>
    rw [moved]
    have pointed := pointing.toNat_getWord_stepWords steps (by decide : WordRegister.sp ≠ .af)
    exact UInt16.toNat_inj.mp (Int.ofNat_inj.mp (pointed.trans counted.symm))
  next =>
    intro direction place size address stepped
    have moves := machine.cpu.toNat_getWord_stepWord (by decide : WordRegister.hl ≠ .af) direction
    exact ⟨moves, by cases direction <;> rfl, rfl⟩
  next =>
    intro direction place entry cycles running known counts
    obtain ⟨bare, performed⟩ := machine.perform_counting counts place
    exact exists_apply_step_bare running known bare performed cycles

-- A byte in memory that wraps, and a pair that goes over the end of a page.
def rippling : Machine Memory where
  cpu := { d := 0x12, e := 0xff, h := 0xc0, flags := { carry := true } }
  bus := (Memory.zero.write 0xc000 0xff).write 0xffff 0x34

theorem steps_counted_rippling :
    let steps : List Direction := [.up, .down, .up]
    let ran (instruction : Direction → Instruction) := rippling.applyAll
      (Instruction.commands UInt16.ofNat (fun _ => 1) (steps.map instruction))
    let bytes := (ran (.stepByte · (Opcode.operand 6))).2
    let words := (ran (.stepWord · .de)).2
    let executed := (rippling.apply (.execute (.stepByte .up (Opcode.operand 6)) 0xffff 1)).2
    let entry := Opcode.onOperand (.stepByte .up) 6 1 3
    WordRegister.de ≠ .af ∧ bytes.named 6 = 0 ∧
      bytes = rippling.withNamed 6 0 { zero := true, carry := true } ∧
      words.cpu.getWord .de = 0x1300 ∧ words.cpu.flags = { zero := false, carry := true } ∧
      rippling.cpu.halted = false ∧ decode (rippling.bus.read 0xffff) = some entry ∧
      entry.instruction ∈ Instruction.counting 6 .de .up ∧
      ∃ log, rippling.apply (.step 0xffff 4) = (.ok (.progress ⟨0, 1⟩),
        ⟨{ executed.cpu with pc := 0 }, executed.bus, log⟩) := by
  intro steps ran bytes words executed entry
  have byte : rippling.named 6 = 0xff := by
    simp [named, rippling, Memory.read_write, word]
  have known : decode (rippling.bus.read 0xffff) = some entry := by
    simp only [rippling, Memory.read_write_self]
    rfl
  obtain ⟨⟨-, value, edited⟩, ⟨-, moved, -, flags, -⟩, -, stepped⟩ :=
    rippling.steps_counted 6 (by decide : WordRegister.de ≠ .af) steps UInt16.ofNat (fun _ => 1)
  rw [byte] at value
  have wraps : bytes.named 6 = 0 := UInt8.toNat_inj.mp (Int.ofNat_inj.mp (value.trans (by decide)))
  have total : words.cpu.getWord .de = 0x1300 := UInt16.toNat_inj.mp (Int.ofNat_inj.mp moved)
  rw [if_neg (by decide : steps ≠ [])] at edited
  change bytes =
    rippling.withNamed 6 (bytes.named 6) { zero := bytes.named 6 = 0, carry := true } at edited
  rw [wraps] at edited
  exact ⟨by decide, wraps, edited, total, flags, rfl, known, by decide,
    stepped .up 0xffff entry 4 rfl known (by decide)⟩

end Machine

end Sm83
