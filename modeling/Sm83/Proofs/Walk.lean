import Mathlib.Algebra.Order.BigOperators.Group.List
import Mathlib.Algebra.Order.Ring.Int
import Mathlib.Algebra.Order.Ring.Nat
import Sm83.Machine

set_option autoImplicit false

namespace Sm83

def totalCost (steps : List Stepped) : Nat :=
  (steps.map Stepped.cost).sum

@[simp] theorem totalCost_nil : totalCost [] = 0 := rfl

@[simp] theorem totalCost_cons (stepped : Stepped) (rest : List Stepped) :
    totalCost (stepped :: rest) = stepped.cost + totalCost rest := by
  simp [totalCost]

theorem sub_totalCost_cons (budget : Int) (stepped : Stepped) (rest : List Stepped) :
    budget - (totalCost (stepped :: rest) : Nat) = budget - stepped.cost - totalCost rest := by
  rw [totalCost_cons]
  omega

theorem length_le_totalCost (steps : List Stepped) : steps.length ≤ totalCost steps := by
  have h := List.length_le_sum_of_one_le (steps.map Stepped.cost)
    (by simpa using fun stepped _ => stepped.cost_pos)
  simpa [totalCost] using h

theorem totalCost_le_mul_length {limit : Nat} {steps : List Stepped}
    (limited : ∀ stepped ∈ steps, stepped.cost ≤ limit) :
    totalCost steps ≤ limit * steps.length := by
  have h := List.sum_le_card_nsmul (steps.map Stepped.cost) limit (by simpa using limited)
  simpa [totalCost, Nat.mul_comm] using h

def Covers : Int → List Stepped → Prop
  | _, [] => True
  | budget, stepped :: rest => 0 < budget ∧ Covers (budget - stepped.cost) rest

namespace Covers

variable {budget larger : Int} {steps : List Stepped}

theorem mono (covers : Covers budget steps) (le : budget ≤ larger) : Covers larger steps := by
  induction steps generalizing budget larger with
  | nil => trivial
  | cons stepped rest ih =>
    obtain ⟨positive, covers⟩ := covers
    exact ⟨by omega, ih covers (by omega)⟩

theorem of_totalCost_lt (enough : totalCost steps < budget) : Covers budget steps := by
  induction steps generalizing budget with
  | nil => trivial
  | cons stepped rest ih =>
    rw [totalCost_cons] at enough
    exact ⟨by omega, ih (by omega)⟩

theorem of_prefix {begun : List Stepped} (covers : Covers budget steps) (begins : begun <+: steps) :
    Covers budget begun := by
  obtain ⟨rest, rfl⟩ := begins
  induction begun generalizing budget with
  | nil => trivial
  | cons stepped begun ih => exact ⟨covers.1, ih covers.2⟩

theorem length_le (covers : Covers budget steps) : steps = [] ∨ steps.length ≤ budget := by
  induction steps generalizing budget with
  | nil => exact .inl rfl
  | cons stepped rest ih =>
    have positive := stepped.cost_pos
    have begun := covers.1
    rcases ih covers.2 with rfl | shorter
    next =>
      right
      rw [List.length_singleton]
      omega
    next =>
      right
      rw [List.length_cons]
      omega

-- What is missing in the end is less than the cost of a single step.
theorem overrun_lt {limit : Nat} (covers : Covers budget steps)
    (limited : ∀ stepped ∈ steps, stepped.cost ≤ limit) (start : -limit < budget) :
    -limit < budget - totalCost steps := by
  induction steps generalizing budget with
  | nil => simpa using start
  | cons stepped rest ih =>
    obtain ⟨first, others⟩ := List.forall_mem_cons.mp limited
    have positive := covers.1
    rw [sub_totalCost_cons]
    exact ih covers.2 others (by omega)

end Covers

namespace Machine

variable {β : Type} [Bus β]

inductive Walk : Machine β → UInt16 → List Stepped → Machine β → UInt16 → Prop where
  | nil (machine : Machine β) (pc : UInt16) : Walk machine pc [] machine pc
  | cons {machine middle after : Machine β} {pc last : UInt16} {stepped : Stepped}
      {rest : List Stepped} (step : machine.step pc = (.ok stepped, middle))
      (walk : Walk middle stepped.next rest after last) :
      Walk machine pc (stepped :: rest) after last

variable {machine after : Machine β} {pc last : UInt16} {budget : Int} {steps : List Stepped}

theorem Walk.run_eq (walk : Walk machine pc steps after last) (covers : Covers budget steps) :
    machine.run pc budget = after.run last (budget - totalCost steps) := by
  induction walk generalizing budget with
  | nil => simp
  | @cons machine middle after pc last stepped rest step walk ih =>
    rw [run_of_pos machine pc covers.1, step, sub_totalCost_cons, ← ih covers.2]

theorem exists_walk (machine : Machine β) (pc : UInt16) (budget : Int) :
    ∃ steps after last, Walk machine pc steps after last ∧ Covers budget steps ∧
      (budget - totalCost steps ≤ 0 ∨
        0 < budget - totalCost steps ∧ ∃ fault stopped, after.step last = (.error fault, stopped)) := by
  induction machine, pc, budget using run_induction with
  | spent machine pc budget spent =>
    exact ⟨[], machine, pc, .nil machine pc, trivial, .inl (by simpa using spent)⟩
  | stepped machine pc budget positive ih =>
    match step : machine.step pc with
    | (.error fault, stopped) =>
      exact ⟨[], machine, pc, .nil machine pc, trivial,
        .inr ⟨by simpa using positive, fault, stopped, step⟩⟩
    | (.ok stepped, middle) =>
      obtain ⟨rest, after, last, walk, covers, ending⟩ := ih stepped middle step
      refine ⟨stepped :: rest, after, last, .cons step walk, ⟨positive, covers⟩, ?_⟩
      rwa [sub_totalCost_cons]

theorem walk_of_run_ok {progress : Progress} (ran : machine.run pc budget = (.ok progress, after)) :
    ∃ steps, Walk machine pc steps after progress.pc ∧ Covers budget steps ∧
      progress.cycles = budget - totalCost steps ∧ progress.cycles ≤ 0 := by
  obtain ⟨steps, reached, last, walk, covers, spent | ⟨left, fault, stopped, step⟩⟩ :=
    exists_walk machine pc budget
  next =>
    rw [walk.run_eq covers, run_of_nonpos _ _ spent] at ran
    cases ran
    exact ⟨steps, walk, covers, rfl, spent⟩
  next =>
    rw [walk.run_eq covers, run_of_pos _ _ left, step] at ran
    cases ran

theorem walk_of_run_error {fault : Fault} {stopped : Machine β}
    (ran : machine.run pc budget = (.error fault, stopped)) :
    ∃ steps before last, Walk machine pc steps before last ∧ totalCost steps < budget ∧
      before.step last = (.error fault, stopped) := by
  obtain ⟨steps, before, last, walk, covers, spent | ⟨left, other, halted, step⟩⟩ :=
    exists_walk machine pc budget
  next =>
    rw [walk.run_eq covers, run_of_nonpos _ _ spent] at ran
    cases ran
  next =>
    rw [walk.run_eq covers, run_of_pos _ _ left, step] at ran
    cases ran
    exact ⟨steps, before, last, walk, by omega, step⟩

theorem Walk.run_error {before stopped : Machine β} {fault : Fault}
    (walk : Walk machine pc steps before last) (enough : totalCost steps < budget)
    (step : before.step last = (.error fault, stopped)) :
    machine.run pc budget = (.error fault, stopped) := by
  rw [walk.run_eq (Covers.of_totalCost_lt enough), run_of_pos _ _ (by omega), step]

def spinning : Machine Memory where
  bus := (Memory.zero.write 0 0x18).write 1 0xfe

theorem run_spinning : ∃ after, spinning.run 0 10 = (.ok ⟨0, -2⟩, after) := by
  have known : decode 0x18 = some ⟨.jumpRelative none, 2, 3, 0, by decide⟩ := rfl
  have back : relativeTarget 0 0xfe = 0 := by decide
  simp [spinning, run_of_pos, run_of_nonpos, step, Cpu.step, fetchEntry, Cpu.executeEntry,
    Microcode.perform, Microcode.readByte, Microcode.log, Bus.read, Memory.read_write, known, back,
    Instruction.execute, Executed.branch, Instruction.transferRelative, Entry.cost]

end Machine

end Sm83
