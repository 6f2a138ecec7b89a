import Sm83.Machine.Command

set_option autoImplicit false

namespace Sm83

structure Simulation {β γ : Type} [Bus β] [Bus γ] (related : β → γ → Prop) : Prop where
  answer : ∀ {left right}, related left right →
    ∀ address, (Bus.read left address).1 = (Bus.read right address).1
  read : ∀ {left right}, related left right →
    ∀ address, related (Bus.read left address).2 (Bus.read right address).2
  write : ∀ {left right}, related left right →
    ∀ address value, related (Bus.write left address value) (Bus.write right address value)

structure Machine.Mirrors {β γ : Type} (related : β → γ → Prop) (left : Machine β)
    (right : Machine γ) : Prop where
  cpu : left.cpu = right.cpu
  bus : related left.bus right.bus
  log : left.log = right.log

variable {α β γ : Type} [Bus β] [Bus γ] {related : β → γ → Prop}

theorem Microcode.perform_simulates (simulates : Simulation related) (code : Microcode α)
    {left : β} {right : γ} (buses : related left right) (log : Log) :
    (code.perform left log).result = (code.perform right log).result ∧
      related (code.perform left log).bus (code.perform right log).bus ∧
      (code.perform left log).log = (code.perform right log).log := by
  induction code generalizing left right log with
  | done | fail => exact ⟨rfl, buses, rfl⟩
  | read address next ih =>
    simp only [perform, simulates.answer buses address]
    exact ih _ (simulates.read buses address) log
  | write address value next ih => exact ih () (simulates.write buses address value) log
  | note event next ih => exact ih () buses (log.record event)

-- The log takes no part in what happens.
theorem Microcode.perform_log (code : Microcode α) (bus : β) (log other : Log) :
    (code.perform bus log).result = (code.perform bus other).result ∧
      (code.perform bus log).bus = (code.perform bus other).bus := by
  induction code generalizing bus log other with
  | done | fail => exact ⟨rfl, rfl⟩
  | read address next ih => exact ih _ _ log other
  | write address value next ih => exact ih () _ log other
  | note event next ih => exact ih () bus (log.record event) (other.record event)

namespace Machine

-- A step is microcode whose outcome says what becomes of the processor.
theorem step_eq_perform (machine : Machine β) (pc : UInt16) :
    machine.step pc = machine.perform fun cpu =>
      (cpu.step pc).bind fun stepped => .done (stepped, stepped.cpu) := by
  obtain ⟨cpu, bus, log⟩ := machine
  simp only [step, perform, Microcode.perform_bind]
  rcases (cpu.step pc).perform bus log with ⟨_ | _, _, _⟩
  next => rfl
  next => rfl

variable {left : Machine β} {right : Machine γ}

section Alike

def StepsAlike (alike : Machine β → Machine γ → Prop) : Prop :=
  ∀ ⦃left right⦄, alike left right → ∀ pc,
    (left.step pc).1 = (right.step pc).1 ∧ alike (left.step pc).2 (right.step pc).2

def PerformsAlike (alike : Machine β → Machine γ → Prop) : Prop :=
  ∀ ⦃α : Type⦄ ⦃left right⦄, alike left right → ∀ code : Cpu → Microcode (α × Cpu),
    (left.perform code).1 = (right.perform code).1 ∧
      alike (left.perform code).2 (right.perform code).2

variable {alike : Machine β → Machine γ → Prop}

theorem StepsAlike.run (steps : StepsAlike alike) (start : alike left right) (pc : UInt16)
    (budget : Int) :
    (left.run pc budget).1 = (right.run pc budget).1 ∧
      alike (left.run pc budget).2 (right.run pc budget).2 := by
  induction left, pc, budget using run_induction generalizing right with
  | spent left pc budget spent =>
    rw [run_of_nonpos _ _ spent, run_of_nonpos _ _ spent]
    exact ⟨rfl, start⟩
  | stepped left pc budget positive ih =>
    have same := steps start pc
    rcases step : left.step pc with ⟨result, middle⟩
    rcases other : right.step pc with ⟨_, _⟩
    rw [step, other] at same
    obtain ⟨⟨⟩, after⟩ := same
    rw [run_of_pos _ _ positive, run_of_pos _ _ positive, step, other]
    cases result with
    | error => exact ⟨rfl, after⟩
    | ok stepped => exact ih stepped middle step after

theorem PerformsAlike.steps (performs : PerformsAlike alike) : StepsAlike alike := by
  intro left right start pc
  rw [step_eq_perform, step_eq_perform]
  exact performs start _

theorem PerformsAlike.apply (performs : PerformsAlike alike) (start : alike left right)
    (command : Command) :
    (left.apply command).1 = (right.apply command).1 ∧
      alike (left.apply command).2 (right.apply command).2 := by
  cases command with
  | step pc cycles =>
    obtain ⟨same, after⟩ := performs.steps start pc
    exact ⟨by simp only [Machine.apply, same], after⟩
  | run pc budget =>
    obtain ⟨same, after⟩ := performs.steps.run start pc budget
    exact ⟨by simp only [Machine.apply, same], after⟩
  | _ => exact performs start _

theorem PerformsAlike.applyAll (performs : PerformsAlike alike) (start : alike left right)
    (commands : List Command) :
    (left.applyAll commands).1 = (right.applyAll commands).1 ∧
      alike (left.applyAll commands).2 (right.applyAll commands).2 := by
  induction commands generalizing left right with
  | nil => exact ⟨rfl, start⟩
  | cons command rest ih =>
    obtain ⟨same, after⟩ := performs.apply start command
    obtain ⟨others, final⟩ := ih after
    exact ⟨by simp only [Machine.applyAll, same, others], final⟩

end Alike

theorem performsAlike_mirrors (simulates : Simulation related) :
    PerformsAlike (Mirrors related) := by
  intro α left right mirrors code
  obtain ⟨cpu, bus, log⟩ := left
  obtain ⟨_, other, _⟩ := right
  obtain ⟨⟨⟩, buses, ⟨⟩⟩ := mirrors
  have alike := (code cpu).perform_simulates simulates buses log
  rcases performed : (code cpu).perform bus log with ⟨result, _, _⟩
  rcases mirrored : (code cpu).perform other log with ⟨_, _, _⟩
  simp only [performed, mirrored] at alike
  obtain ⟨⟨⟩, buses, ⟨⟩⟩ := alike
  simp only [Machine.perform, performed, mirrored]
  cases result with
  | error => exact ⟨rfl, rfl, buses, rfl⟩
  | ok => exact ⟨rfl, rfl, buses, rfl⟩

theorem Mirrors.run (simulates : Simulation related) (mirrors : Mirrors related left right)
    (pc : UInt16) (budget : Int) :
    (left.run pc budget).1 = (right.run pc budget).1 ∧
      Mirrors related (left.run pc budget).2 (right.run pc budget).2 :=
  (performsAlike_mirrors simulates).steps.run mirrors pc budget

theorem Mirrors.applyAll (simulates : Simulation related) (mirrors : Mirrors related left right)
    (commands : List Command) :
    Mirrors related (left.applyAll commands).2 (right.applyAll commands).2 :=
  ((performsAlike_mirrors simulates).applyAll mirrors commands).2

def history (contents : β → Memory) (machine : Machine β) :
    List Command → List (Except Fault Reply × Cpu × Memory)
  | [] => []
  | command :: rest =>
    let (reply, after) := machine.apply command
    (reply, after.cpu, contents after.bus) :: after.history contents rest

theorem Mirrors.history (simulates : Simulation related) {contents : β → Memory}
    {behind : γ → Memory} (alike : ∀ bus other, related bus other → contents bus = behind other)
    (mirrors : Mirrors related left right) (commands : List Command) :
    left.history contents commands = right.history behind commands := by
  induction commands generalizing left right with
  | nil => rfl
  | cons command rest ih =>
    obtain ⟨same, after⟩ := (performsAlike_mirrors simulates).apply mirrors command
    simp only [Machine.history, same, after.cpu, alike _ _ after.bus, ih after]

structure Matches (left right : Machine β) : Prop where
  cpu : left.cpu = right.cpu
  bus : left.bus = right.bus

theorem performsAlike_matches : PerformsAlike (@Matches β) := by
  intro α left right same code
  obtain ⟨cpu, bus, log⟩ := left
  obtain ⟨_, _, other⟩ := right
  obtain ⟨⟨⟩, ⟨⟩⟩ := same
  have alike := (code cpu).perform_log bus log other
  rcases performed : (code cpu).perform bus log with ⟨result, _, _⟩
  rcases mirrored : (code cpu).perform bus other with ⟨_, _, _⟩
  simp only [performed, mirrored] at alike
  obtain ⟨⟨⟩, ⟨⟩⟩ := alike
  simp only [Machine.perform, performed, mirrored]
  cases result with
  | error => exact ⟨rfl, rfl, rfl⟩
  | ok => exact ⟨rfl, rfl, rfl⟩

end Machine

end Sm83
