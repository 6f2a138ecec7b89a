import Sm83.Proofs.Recording

set_option autoImplicit false

namespace Sm83.Machine

variable {β : Type} [Bus β] {machine after stopped : Machine β} {pc : UInt16}
  {progress : Progress} {fault : Fault} {first second : Int}

theorem run_add_of_ok (ran : machine.run pc first = (.ok progress, after))
    (nonnegative : 0 ≤ second) :
    after.run progress.pc (progress.cycles + second) = machine.run pc (first + second) := by
  obtain ⟨steps, walk, covers, cycles, -⟩ := walk_of_run_ok ran
  have more := covers.mono (show first ≤ first + second by omega)
  rw [walk.run_eq more, cycles]
  congr 1
  omega

theorem accesses_add_of_ok (ran : machine.run pc first = (.ok progress, after))
    (nonnegative : 0 ≤ second) :
    machine.accesses pc (first + second) =
      machine.accesses pc first ++ after.accesses progress.pc (progress.cycles + second) := by
  obtain ⟨steps, walk, covers, cycles, spent⟩ := walk_of_run_ok ran
  have more := covers.mono (show first ≤ first + second by omega)
  obtain ⟨made, -, recorded⟩ := walk.exists_accesses
  have alone : machine.accesses pc first = made := by
    rw [recorded first covers, accesses_of_nonpos _ _ (by omega), List.append_nil]
  have together : first + second - totalCost steps = progress.cycles + second := by omega
  rw [alone, recorded _ more, together]

theorem run_of_error_of_le {larger : Int} (ran : machine.run pc first = (.error fault, stopped))
    (le : first ≤ larger) : machine.run pc larger = (.error fault, stopped) := by
  obtain ⟨steps, before, last, walk, enough, step⟩ := walk_of_run_error ran
  exact walk.run_error (by omega) step

theorem accesses_of_error_of_le {larger : Int}
    (ran : machine.run pc first = (.error fault, stopped)) (le : first ≤ larger) :
    machine.accesses pc larger = machine.accesses pc first := by
  have recorded : (machine.recording #[]).run pc first =
      (.error fault, stopped.recording (machine.accesses pc first).toArray) := by
    rw [run_recording, ran, Array.empty_append]
  rw [accesses, run_of_error_of_le recorded le]
  rfl

def runCarrying (machine : Machine β) (pc : UInt16) (budget : Int) :
    List Int → Except Fault Progress × Machine β
  | [] => machine.run pc budget
  | slice :: rest =>
    match machine.run pc budget with
    | (.ok progress, machine) => machine.runCarrying progress.pc (progress.cycles + slice) rest
    | (.error fault, machine) => (.error fault, machine)

theorem runCarrying_eq (machine : Machine β) (pc : UInt16) (budget : Int) {slices : List Int}
    (nonnegative : ∀ slice ∈ slices, 0 ≤ slice) :
    machine.runCarrying pc budget slices = machine.run pc (budget + slices.sum) := by
  induction slices generalizing machine pc budget with
  | nil => simp [runCarrying]
  | cons slice rest ih =>
    have sum := List.sum_nonneg nonnegative
    have later := (List.forall_mem_cons.mp nonnegative).2
    rw [runCarrying]
    match ran : machine.run pc budget with
    | (.ok progress, after) =>
      have total : progress.cycles + slice + rest.sum = progress.cycles + (slice :: rest).sum := by
        rw [List.sum_cons, Int.add_assoc]
      simp only [ih after _ _ later]
      rw [total, run_add_of_ok ran sum]
    | (.error fault, stopped) => rw [run_of_error_of_le ran (by omega)]

theorem run_split (machine : Machine β) (pc : UInt16) (first : Int) :
    (∀ second, 0 ≤ second →
      match machine.run pc first with
      | (.ok progress, after) =>
        after.run progress.pc (progress.cycles + second) = machine.run pc (first + second) ∧
          machine.accesses pc (first + second) =
            machine.accesses pc first ++ after.accesses progress.pc (progress.cycles + second)
      | (.error fault, stopped) =>
        machine.run pc (first + second) = (.error fault, stopped) ∧
          machine.accesses pc (first + second) = machine.accesses pc first) ∧
    ∀ slices : List Int, (∀ slice ∈ slices, 0 ≤ slice) →
      machine.runCarrying pc first slices = machine.run pc (first + slices.sum) ∧
        ((machine.recording #[]).runCarrying pc first slices).2.bus.accesses.toList =
          machine.accesses pc (first + slices.sum) := by
  constructor
  next =>
    intro second nonnegative
    match ran : machine.run pc first with
    | (.ok progress, after) =>
      exact ⟨run_add_of_ok ran nonnegative, accesses_add_of_ok ran nonnegative⟩
    | (.error fault, stopped) =>
      have le : first ≤ first + second := by omega
      exact ⟨run_of_error_of_le ran le, accesses_of_error_of_le ran le⟩
  next =>
    intro slices nonnegative
    constructor
    next => exact runCarrying_eq machine pc first nonnegative
    next => rw [runCarrying_eq _ pc first nonnegative, accesses]

-- The second budget does not make up for what the first run took too much.
theorem run_split_spinning :
    (∃ after, spinning.run 0 10 = (.ok ⟨0, -2⟩, after) ∧ after.run 0 (-2 + 1) = spinning.run 0 11 ∧
      spinning.accesses 0 11 = spinning.accesses 0 10 ++ after.accesses 0 (-2 + 1)) ∧
    spinning.runCarrying 0 10 [1, 0, 7] = spinning.run 0 18 := by
  obtain ⟨after, ran⟩ := run_spinning
  have split := run_split spinning 0 10
  have pair := split.1 1 (by decide)
  rw [ran] at pair
  exact ⟨⟨after, ran, pair⟩, (split.2 [1, 0, 7] (by decide)).1⟩

end Sm83.Machine
