import Sm83.Proofs.StepFootprint
import Sm83.Proofs.Walk

set_option autoImplicit false

namespace Sm83

theorem InWord32.of_le {cycles budget : Int} (fits : InWord32 budget) (lower : -5 ≤ cycles)
    (upper : cycles ≤ budget) : InWord32 cycles := by
  have least : Int32.minValue.toInt ≤ -5 := by decide
  exact ⟨Int.le_trans least lower, Int.le_trans upper fits.2⟩

theorem Covers.remainder_bounds {budget : Int} {steps begun : List Stepped}
    (covers : Covers budget steps) (limited : ∀ stepped ∈ steps, stepped.cost ≤ 6)
    (positive : 0 < budget) (begins : begun <+: steps) :
    -5 ≤ budget - totalCost begun ∧ budget - totalCost begun ≤ budget := by
  have overrun := (covers.of_prefix begins).overrun_lt
    (fun stepped member => limited stepped (begins.subset member)) (by omega)
  omega

namespace Machine

variable {β : Type} [Bus β]

theorem Walk.costs {machine after : Machine β} {pc last : UInt16} {steps : List Stepped}
    (walk : Walk machine pc steps after last) :
    ∀ stepped ∈ steps, 1 ≤ stepped.cost ∧ stepped.cost ≤ 6 := by
  induction walk with
  | nil => simp
  | cons step walk ih =>
    intro stepped member
    rcases List.mem_cons.mp member with rfl | later
    next => exact ⟨stepped.cost_pos, (cost_of_step_ok step).1⟩
    next => exact ih stepped later

theorem run_accounts (machine : Machine β) (pc : UInt16) {budget : Int} (fits : InWord32 budget) :
    (budget ≤ 0 → machine.run pc budget = (.ok ⟨pc, budget⟩, machine)) ∧
    (0 < budget → ∃ steps after last,
      Walk machine pc steps after last ∧ Covers budget steps ∧
      (∀ stepped ∈ steps, 1 ≤ stepped.cost ∧ stepped.cost ≤ 6) ∧
      (∀ begun, begun <+: steps → InWord32 (budget - totalCost begun)) ∧
      ((∃ cycles, machine.run pc budget = (.ok ⟨last, cycles⟩, after) ∧
          -5 ≤ cycles ∧ cycles ≤ 0 ∧ totalCost steps = budget - cycles ∧
          1 ≤ steps.length ∧ steps.length ≤ budget ∧ budget ≤ 6 * steps.length) ∨
        ∃ fault stopped, machine.run pc budget = (.error fault, stopped) ∧
          after.step last = (.error fault, stopped) ∧ steps.length + 1 ≤ budget)) := by
  constructor
  next => exact fun spent => run_of_nonpos machine pc spent
  next =>
    intro positive
    obtain ⟨steps, after, last, walk, covers, ending⟩ := exists_walk machine pc budget
    have limited : ∀ stepped ∈ steps, stepped.cost ≤ 6 :=
      fun stepped member => (walk.costs stepped member).2
    have many := length_le_totalCost steps
    refine ⟨steps, after, last, walk, covers, walk.costs, ?_, ?_⟩
    next =>
      intro begun begins
      have bounds := covers.remainder_bounds limited positive begins
      exact fits.of_le bounds.1 bounds.2
    next =>
      rw [walk.run_eq covers]
      rcases ending with spent | ⟨left, fault, stopped, step⟩
      next =>
        have bounds := covers.remainder_bounds limited positive List.prefix_rfl
        have few := totalCost_le_mul_length limited
        have nonempty : 1 ≤ steps.length := by omega
        exact .inl ⟨_, run_of_nonpos after last spent, bounds.1, spent, by omega, nonempty,
          covers.length_le.resolve_left (List.ne_nil_of_length_pos nonempty), by omega⟩
      next =>
        rw [run_of_pos after last left, step]
        exact .inr ⟨fault, stopped, rfl, rfl, by omega⟩

theorem run_accounts_spinning :
    InWord32 10 ∧ ∃ steps after, Walk spinning 0 steps after 0 ∧ totalCost steps = 12 ∧
      (∀ stepped ∈ steps, 1 ≤ stepped.cost ∧ stepped.cost ≤ 6) ∧
      (∀ begun, begun <+: steps → InWord32 (10 - totalCost begun)) ∧
      2 ≤ steps.length ∧ steps.length ≤ 10 := by
  have fits : InWord32 10 := ⟨by decide, by decide⟩
  obtain ⟨stopped, ran⟩ := run_spinning
  obtain ⟨steps, after, last, walk, covers, costs, within, ending⟩ :=
    (run_accounts spinning 0 fits).2 (by decide)
  rcases ending with ⟨cycles, ends, -, -, total, -, many, few⟩ | ⟨fault, halted, ends, -⟩
  next =>
    rw [ran] at ends
    cases ends
    exact ⟨fits, steps, stopped, walk, by omega, costs, within, by omega, by omega⟩
  next =>
    rw [ran] at ends
    cases ends

end Machine

end Sm83
