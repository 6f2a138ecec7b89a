import Sm83.Proofs.Footprint

set_option autoImplicit false

namespace Sm83

open Microcode

namespace Instruction

def condition : Instruction → Option Condition
  | jump condition | jumpRelative condition | call condition | ret condition => condition
  | _ => none

def declines (instruction : Instruction) (flags : Flags) : Bool :=
  instruction.condition.any fun condition => !flags.holds condition

def takes (instruction : Instruction) (flags : Flags) : Bool :=
  instruction.condition.any flags.holds

theorem takes_of_proceeds {instruction : Instruction} {flags : Flags}
    (proceeds : instruction.declines flags ≠ true) :
    instruction.takes flags = instruction.condition.isSome := by
  rw [declines] at proceeds
  rw [takes]
  cases condition : instruction.condition with
  | none => rfl
  | some condition => simpa [condition] using proceeds

def reads (cpu : Cpu) : Instruction → List UInt8 → List UInt16
  | load _ operand, operands | operate _ operand, operands | testBit _ operand, operands
  | stepByte _ operand, operands | shift _ operand, operands | assignBit _ _ operand, operands =>
    operand.addresses cpu operands
  | loadStepping _, _ => [cpu.getWord .hl]
  | pop _, _ | ret _, _ | retInterrupt, _ => [cpu.sp, cpu.sp + 1]
  | _, _ => []

def writes (cpu : Cpu) : Instruction → List UInt8 → List UInt16
  | load operand _, operands | stepByte _ operand, operands | shift _ operand, operands
  | assignBit _ _ operand, operands => operand.addresses cpu operands
  | loadWord .absolute _, operands => [operandWord operands, operandWord operands + 1]
  | storeStepping _, _ => [cpu.getWord .hl]
  | push _, _ | call _, _ | restart _, _ => [cpu.sp - 2, cpu.sp - 1]
  | _, _ => []

def Touches (instruction : Instruction) (cpu : Cpu) (footprint : Footprint) : Prop :=
  if instruction.declines cpu.flags then footprint = {}
  else footprint.Fits instruction.immediateLength (instruction.reads cpu) (instruction.writes cpu)

def dataCount (instruction : Instruction) : Nat :=
  (instruction.reads {} []).length + (instruction.writes {} []).length

@[simp] theorem length_reads (instruction : Instruction) (cpu : Cpu) (operands : List UInt8) :
    (instruction.reads cpu operands).length = (instruction.reads {} []).length := by
  cases instruction with
  | load _ operand | operate _ operand | testBit _ operand | stepByte _ operand
  | shift _ operand | assignBit _ _ operand => cases operand <;> simp [reads, ByteOperand.addresses]
  | _ => simp [reads]

@[simp] theorem length_writes (instruction : Instruction) (cpu : Cpu) (operands : List UInt8) :
    (instruction.writes cpu operands).length = (instruction.writes {} []).length := by
  cases instruction with
  | load operand | stepByte _ operand | shift _ operand | assignBit _ _ operand =>
    cases operand <;> simp [writes, ByteOperand.addresses]
  | loadWord operand => cases operand <;> simp [writes]
  | _ => simp [writes]

theorem length_writes_le (instruction : Instruction) (cpu : Cpu) (operands : List UInt8) :
    (instruction.writes cpu operands).length ≤ 2 := by
  cases instruction with
  | load operand | stepByte _ operand | shift _ operand | assignBit _ _ operand =>
    cases operand <;> simp [writes, ByteOperand.addresses]
  | loadWord operand => cases operand <;> simp [writes]
  | _ => simp [writes]

namespace Touches

variable {instruction : Instruction} {cpu : Cpu} {footprint : Footprint}

theorem of_declines (touches : instruction.Touches cpu footprint)
    (declines : instruction.declines cpu.flags = true) : footprint = {} := by
  rwa [Touches, if_pos declines] at touches

theorem of_proceeds (touches : instruction.Touches cpu footprint)
    (proceeds : instruction.declines cpu.flags ≠ true) :
    footprint.Fits instruction.immediateLength (instruction.reads cpu) (instruction.writes cpu) := by
  rwa [Touches, if_neg proceeds] at touches

theorem length_operands (touches : instruction.Touches cpu footprint) :
    footprint.operands.length =
      if instruction.declines cpu.flags then 0 else instruction.immediateLength := by
  split
  next declines => rw [touches.of_declines declines, List.length_nil]
  next proceeds => exact (touches.of_proceeds proceeds).operands

theorem map_reads (touches : instruction.Touches cpu footprint) :
    footprint.reads.map Prod.fst =
      if instruction.declines cpu.flags then [] else instruction.reads cpu footprint.operands := by
  split
  next declines => rw [touches.of_declines declines, List.map_nil]
  next proceeds => exact (touches.of_proceeds proceeds).reads

theorem map_writes (touches : instruction.Touches cpu footprint) :
    footprint.writes.map Prod.fst =
      if instruction.declines cpu.flags then [] else instruction.writes cpu footprint.operands := by
  split
  next declines => rw [touches.of_declines declines, List.map_nil]
  next proceeds => exact (touches.of_proceeds proceeds).writes

theorem size_eq (touches : instruction.Touches cpu footprint) :
    footprint.size = if instruction.declines cpu.flags then 0
      else instruction.immediateLength + instruction.dataCount := by
  split
  next declines => rw [touches.of_declines declines]; rfl
  next proceeds =>
    have fits := touches.of_proceeds proceeds
    have reads := congrArg List.length fits.reads
    have writes := congrArg List.length fits.writes
    rw [List.length_map, length_reads] at reads
    rw [List.length_map, length_writes] at writes
    rw [Footprint.size, fits.operands, reads, writes, dataCount, Nat.add_assoc]

end Touches

end Instruction

def ByteOperand.inRegister : ByteOperand → Bool
  | register _ => true
  | _ => false

namespace Instruction

-- Operand bytes are read once and before any data, and none of them is written.
def orderly : Instruction → Bool
  | load target source =>
    target ≠ .immediate ∧ (target.immediateLength = 0 ∨ source.inRegister)
  | loadWord target source =>
    target ≠ .immediate ∧ source ≠ .absolute ∧
      (target.immediateLength = 0 ∨ source.immediateLength = 0)
  | stepByte _ operand | shift _ operand | testBit _ operand | assignBit _ _ operand =>
    operand.immediateLength = 0
  | _ => true

end Instruction

namespace ByteOperand

variable {γ : Type}

-- A byte is fetched, and another one that follows from it is stored.
theorem fetch_store_leaves (source target : ByteOperand) (writable : target ≠ immediate)
    (ordered : target.immediateLength = 0 ∨ source.inRegister) (cpu : Cpu) (pc : UInt16)
    (result : UInt8 → UInt8) (finish : UInt8 → Cpu → γ) :
    ((source.fetch cpu pc).bind fun value =>
      (target.store cpu pc (result value)).bind fun cpu => done (finish value cpu)).Leaves (pc + 1)
        (Footprint.Fits (target.immediateLength + source.immediateLength) (source.addresses cpu)
          (target.addresses cpu))
        fun _ => True := by
  apply Ensures.bind (source.fetch_leaves cpu pc)
  next =>
    rintro accesses value ⟨_, fetched, ⟨⟩, -, fetch, rfl⟩
    have stores : ((target.store cpu pc (result value)).bind fun cpu =>
        done (finish value cpu)).Leaves (pc + 1)
        (Footprint.Fits target.immediateLength (fun _ => []) (target.addresses cpu))
        fun _ => True := (store_leaves writable cpu pc (result value)).done_bind fun _ _ => trivial
    apply Ensures.mono stores
    rintro accesses _ ⟨final, stored, rfl, -, store, rfl⟩
    have quiet : fetched.writes = [] := List.map_eq_nil_iff.mp fetch.writes
    have blind : stored.reads = [] := List.map_eq_nil_iff.mp store.reads
    refine ⟨final, ⟨fetched.operands ++ stored.operands, fetched.reads, stored.writes⟩, rfl,
      trivial, ?_⟩
    rcases ordered with bare | register
    next =>
      have none : stored.operands = [] := List.eq_nil_of_length_eq_zero (store.operands.trans bare)
      refine ⟨⟨?_, ?_, ?_⟩, Footprint.accesses_append _ _ _ quiet blind (.inl none)⟩
      · simp [none, bare, fetch.operands]
      · simp [none, fetch.reads]
      · rw [store.writes, none, addresses_of_immediateLength_eq_zero bare _ (_ ++ _)]
    next =>
      obtain ⟨r, rfl⟩ : ∃ r, source = .register r := by cases source <;> simp_all [inRegister]
      have none : fetched.operands = [] := List.eq_nil_of_length_eq_zero fetch.operands
      have unread : fetched.reads = [] := List.map_eq_nil_iff.mp fetch.reads
      refine ⟨⟨?_, ?_, ?_⟩, Footprint.accesses_append _ _ _ quiet blind (.inr ⟨none, unread⟩)⟩
      · simp [none, store.operands, immediateLength]
      · simp [unread, addresses]
      · simp [none, store.writes]
  next => rintro accesses fault ⟨_, _, ⟨⟩, -⟩

theorem modify_leaves {target : ByteOperand} (bare : target.immediateLength = 0) (cpu : Cpu)
    (pc : UInt16) (result : UInt8 → UInt8) (finish : UInt8 → Cpu → γ) :
    ((target.fetch cpu pc).bind fun value =>
      (target.store cpu pc (result value)).bind fun cpu => done (finish value cpu)).Leaves (pc + 1)
        (Footprint.Fits 0 (target.addresses cpu) (target.addresses cpu))
        fun _ => True := by
  have writable : target ≠ immediate := by rintro rfl; cases bare
  have moves := fetch_store_leaves target target writable (.inl bare) cpu pc result finish
  simpa only [bare] using moves

end ByteOperand

namespace Executed

theorem proceed_leaves (next : UInt16) {code : Microcode Cpu} {address : UInt16}
    {fits : Footprint → Prop} (leaves : code.Leaves address fits fun _ => True) :
    (proceed next code).Leaves address fits fun executed => executed.taken = false :=
  leaves.done_bind fun _ _ => rfl

theorem branch_leaves (cpu : Cpu) (next : UInt16) (condition : Option Condition)
    {transfer : Microcode Executed} {address : UInt16} {fits : Footprint → Prop}
    (leaves : transfer.Leaves address fits fun executed => executed.taken = false) :
    (branch cpu next condition transfer).Leaves address
      (fun footprint => if condition.any (fun condition => !cpu.flags.holds condition)
        then footprint = {} else fits footprint)
      fun executed => executed.taken = condition.any cpu.flags.holds := by
  cases condition with
  | none => simpa [branch] using leaves
  | some condition =>
    by_cases holds : cpu.flags.holds condition
    next =>
      simp only [branch, holds, Option.any_some, Bool.not_true, Bool.false_eq_true, if_false, if_true]
      exact leaves.done_bind fun _ _ => rfl
    next =>
      simp only [branch, holds, Option.any_some, Bool.not_false, Bool.false_eq_true, if_false, if_true]
      exact ⟨{ cpu, next }, {}, rfl, rfl, rfl, rfl⟩

end Executed

namespace Cpu

theorem push_leaves (cpu : Cpu) (value address : UInt16) :
    (cpu.push value).Leaves address (Footprint.Fits 0 (fun _ => []) fun _ => [cpu.sp - 2, cpu.sp - 1])
      fun _ => True := by
  have next : cpu.sp - 2 + 1 = cpu.sp - 1 := by grind
  refine ⟨{ cpu with sp := cpu.sp - 2 },
    { writes := [(cpu.sp - 2, lowByte value), (cpu.sp - 2 + 1, highByte value)] }, rfl, trivial,
    ⟨rfl, rfl, ?_⟩, rfl⟩
  simp [next]

theorem pop_leaves (cpu : Cpu) (address : UInt16) :
    cpu.pop.Leaves address (Footprint.Fits 0 (fun _ => [cpu.sp, cpu.sp + 1]) fun _ => [])
      fun _ => True := by
  intro low high
  exact ⟨(word high low, { cpu with sp := cpu.sp + 2 }),
    { reads := [(cpu.sp, low), (cpu.sp + 1, high)] }, rfl, trivial, ⟨rfl, rfl, rfl⟩, rfl⟩

end Cpu

namespace Instruction

open Executed

theorem transferCall_leaves (cpu : Cpu) (pc next : UInt16) :
    (transferCall cpu pc next).Leaves (pc + 1)
      (Footprint.Fits 2 (fun _ => []) fun _ => [cpu.sp - 2, cpu.sp - 1])
      fun executed => executed.taken = false := by
  have after : cpu.sp - 2 + 1 = cpu.sp - 1 := by grind
  intro low high
  refine ⟨{ cpu := { cpu with sp := cpu.sp - 2 }, next := word high low },
    ⟨[low, high], [], [(cpu.sp - 2, lowByte next), (cpu.sp - 2 + 1, highByte next)]⟩, rfl, rfl,
    ⟨rfl, rfl, ?_⟩, rfl⟩
  simp [after]

theorem loadWord_leaves {target source : WordOperand}
    (ordered : (loadWord target source).orderly) (cpu : Cpu) (pc : UInt16) :
    ((source.fetch cpu pc).bind fun value => target.store cpu pc value).Leaves (pc + 1)
      (Footprint.Fits (loadWord target source).immediateLength ((loadWord target source).reads cpu)
        ((loadWord target source).writes cpu))
      fun _ => True := by
  cases source with
  | immediate =>
    cases target with
    | immediate | absolute => simp [orderly, WordOperand.immediateLength] at ordered
    | register r =>
      intro low high
      exact ⟨cpu.setWord r (word high low), { operands := [low, high] }, rfl, trivial,
        ⟨rfl, rfl, rfl⟩, rfl⟩
  | absolute => simp [orderly] at ordered
  | register s =>
    cases target with
    | immediate => simp [orderly] at ordered
    | absolute =>
      intro low high
      exact ⟨cpu, ⟨[low, high], [], [(word high low, lowByte (cpu.getWord s)),
        (word high low + 1, highByte (cpu.getWord s))]⟩, rfl, trivial, ⟨rfl, rfl, rfl⟩, rfl⟩
    | register r =>
      exact ⟨cpu.setWord r (cpu.getWord s), {}, rfl, trivial, ⟨rfl, rfl, rfl⟩, rfl⟩

theorem execute_leaves {instruction : Instruction} (ordered : instruction.orderly) (cpu : Cpu)
    (pc length : UInt16) :
    (instruction.execute cpu pc length).Leaves (pc + 1) (instruction.Touches cpu)
      fun executed => executed.taken = instruction.takes cpu.flags := by
  cases instruction with
  | nop | addWord | stepWord | complement | complementCarry | setCarry | halt | setInterrupts
  | rotateAccumulator | jumpIndirect => exact ⟨_, {}, rfl, rfl, ⟨rfl, rfl, rfl⟩, rfl⟩
  | load target source =>
    simp only [orderly, decide_eq_true_eq] at ordered
    have moves := ByteOperand.fetch_store_leaves source target ordered.1 ordered.2 cpu pc
      (fun value => value) fun _ cpu => cpu
    simp only [bind_done] at moves
    exact proceed_leaves _ moves
  | loadWord target source => exact proceed_leaves _ (loadWord_leaves ordered cpu pc)
  | loadStackAddress | addStackPointer =>
    intro displacement
    exact ⟨_, { operands := [displacement] }, rfl, rfl, ⟨rfl, rfl, rfl⟩, rfl⟩
  | loadStepping =>
    intro value
    exact ⟨_, { reads := [(cpu.getWord .hl, value)] }, rfl, rfl, ⟨rfl, rfl, rfl⟩, rfl⟩
  | storeStepping =>
    exact ⟨_, { writes := [(cpu.getWord .hl, cpu.a)] }, rfl, rfl, ⟨rfl, rfl, rfl⟩, rfl⟩
  | push source => exact proceed_leaves _ (cpu.push_leaves (cpu.getWord source) (pc + 1))
  | pop target =>
    exact proceed_leaves _ ((cpu.pop_leaves (pc + 1)).done_bind fun _ _ => trivial)
  | operate operation source =>
    exact proceed_leaves _ ((source.fetch_leaves cpu pc).done_bind fun _ _ => trivial)
  | stepByte direction target =>
    exact proceed_leaves _ (ByteOperand.modify_leaves (of_decide_eq_true ordered) cpu pc direction.byte
      fun value cpu => cpu.noteStep (direction.byte value))
  | shift s target =>
    exact proceed_leaves _ (ByteOperand.modify_leaves (of_decide_eq_true ordered) cpu pc
      (fun value => (s.apply value cpu.flags.carry).1) fun value after =>
        after.noteShift (s.apply value cpu.flags.carry).1 (s.apply value cpu.flags.carry).2)
  | testBit index source =>
    have fetches := source.fetch_leaves cpu pc
    rw [of_decide_eq_true ordered] at fetches
    exact proceed_leaves _ (fetches.done_bind fun _ _ => trivial)
  | assignBit value index target =>
    have assigns := ByteOperand.modify_leaves (of_decide_eq_true ordered) cpu pc
      (fun old => setBit old index value) fun _ cpu => cpu
    simp only [bind_done] at assigns
    exact proceed_leaves _ assigns
  | jump condition =>
    apply branch_leaves
    intro low high
    exact ⟨_, { operands := [low, high] }, rfl, rfl, ⟨rfl, rfl, rfl⟩, rfl⟩
  | jumpRelative condition =>
    apply branch_leaves
    intro displacement
    exact ⟨_, { operands := [displacement] }, rfl, rfl, ⟨rfl, rfl, rfl⟩, rfl⟩
  | call condition => exact branch_leaves _ _ condition (transferCall_leaves cpu pc _)
  | restart address =>
    exact (cpu.push_leaves (pc + length) (pc + 1)).done_bind fun _ _ => rfl
  | ret condition =>
    exact branch_leaves _ _ condition ((cpu.pop_leaves (pc + 1)).done_bind fun _ _ => rfl)
  | retInterrupt =>
    exact ((Cpu.pop_leaves _ (pc + 1)).done_bind fun _ _ => rfl)

end Instruction

end Sm83
