import Sm83.Machine.Command

set_option autoImplicit false

namespace Sm83

def Instruction.commands (pc length : Nat → UInt16) (instructions : List Instruction) :
    List Command :=
  instructions.mapIdx fun i instruction => .execute instruction (pc i) (length i)

namespace Machine

def after (machine : Machine Memory) (instruction : Instruction) : Machine Memory :=
  (machine.apply (.execute instruction 0 0)).2

end Machine

namespace Instruction

def Straight (instruction : Instruction) : Prop :=
  ∀ (machine : Machine Memory) (pc length : UInt16),
    machine.apply (.execute instruction pc length) =
      (.ok (.executed (pc + length) false), machine.after instruction)

variable {instructions : List Instruction}

theorem applyAll_commands (straight : ∀ instruction ∈ instructions, instruction.Straight)
    (machine : Machine Memory) (pc length : Nat → UInt16) :
    machine.applyAll (commands pc length instructions) =
      (instructions.mapIdx fun i _ => .ok (.executed (pc i + length i) false),
        instructions.foldl Machine.after machine) := by
  induction instructions generalizing machine pc length with
  | nil => rfl
  | cons instruction rest ih =>
    obtain ⟨first, others⟩ := List.forall_mem_cons.mp straight
    have later := ih others (machine.after instruction) (fun i => pc (i + 1))
      (fun i => length (i + 1))
    simp only [commands] at later
    simp only [commands, List.mapIdx_cons, Machine.applyAll, first machine, later, List.foldl_cons]

theorem snd_applyAll_commands (straight : ∀ instruction ∈ instructions, instruction.Straight)
    (machine : Machine Memory) (pc length : Nat → UInt16) :
    (machine.applyAll (commands pc length instructions)).2 =
      instructions.foldl Machine.after machine := by
  rw [applyAll_commands straight]

theorem proceeds_commands (straight : ∀ instruction ∈ instructions, instruction.Straight)
    (machine : Machine Memory) (pc length : Nat → UInt16) :
    ∀ reply ∈ (machine.applyAll (commands pc length instructions)).1,
      ∃ next, reply = .ok (.executed next false) := by
  intro reply member
  rw [applyAll_commands straight] at member
  obtain ⟨i, within, rfl⟩ := List.mem_mapIdx.mp member
  exact ⟨_, rfl⟩

theorem applyAll_operations {ω : Type} {instruction : ω → Instruction}
    {does : Machine Memory → ω → Machine Memory}
    (applied : ∀ (machine : Machine Memory) (operation : ω) (pc length : UInt16),
      machine.apply (.execute (instruction operation) pc length) =
        (.ok (.executed (pc + length) false), does machine operation))
    (machine : Machine Memory) (operations : List ω) (pc length : Nat → UInt16) :
    let ran := machine.applyAll (commands pc length (operations.map instruction))
    (∀ reply ∈ ran.1, ∃ next, reply = .ok (.executed next false)) ∧
      ran.2 = operations.foldl does machine := by
  have after (machine : Machine Memory) (operation : ω) :
      machine.after (instruction operation) = does machine operation :=
    congrArg Prod.snd (applied machine operation 0 0)
  have straight : ∀ i ∈ operations.map instruction, i.Straight := by
    intro i member machine pc length
    obtain ⟨operation, -, rfl⟩ := List.mem_map.mp member
    rw [applied, after]
  refine ⟨proceeds_commands straight machine pc length, ?_⟩
  rw [snd_applyAll_commands straight, List.foldl_map]
  simp only [after]

end Instruction

end Sm83
