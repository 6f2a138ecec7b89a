import Sm83.Runner
import Sm83.Proofs.Faults
import Sm83.Proofs.Loading
import Sm83.Proofs.Slices
import Sm83.Proofs.Transmission

set_option autoImplicit false

namespace Sm83

theorem Microcode.filter_perform {α β : Type} [Bus β] (code : Microcode α) (bus : β) (log : Log) :
    (code.perform bus log).log.filter = log.filter := by
  induction code generalizing bus log with
  | done | fail => rfl
  | read address next ih => exact ih _ _ log
  | write address value next ih => exact ih () _ log
  | note event next ih => exact ih () bus (log.record event)

namespace Machine

section

variable {β : Type} [Bus β] {machine after : Machine β} {pc : UInt16} {budget : Int}
  {progress : Progress}

theorem filter_step (machine : Machine β) (pc : UInt16) :
    (machine.step pc).2.log.filter = machine.log.filter := by
  obtain ⟨cpu, bus, log⟩ := machine
  have kept := (cpu.step pc).filter_perform bus log
  simp only [step]
  rcases performed : (cpu.step pc).perform bus log with ⟨_ | _, _, _⟩
  all_goals
    rw [performed] at kept
    exact kept

theorem filter_run (machine : Machine β) (pc : UInt16) (budget : Int) :
    (machine.run pc budget).2.log.filter = machine.log.filter := by
  induction machine, pc, budget using run_induction with
  | spent machine pc budget spent => rw [run_of_nonpos _ _ spent]
  | stepped machine pc budget positive ih =>
    have kept := machine.filter_step pc
    rw [run_of_pos _ _ positive]
    match step : machine.step pc with
    | (.error fault, stopped) =>
      rw [step] at kept
      exact kept
    | (.ok stepped, after) =>
      rw [step] at kept
      exact (ih stepped after step).trans kept

theorem left_of_run_ok (ran : machine.run pc budget = (.ok progress, after)) :
    if 0 < budget then -5 ≤ progress.cycles ∧ progress.cycles ≤ 0
    else progress.cycles = budget := by
  split
  next positive =>
    obtain ⟨-, -, cycles, spent⟩ := walk_runSteps_of_ok ran
    have most := machine.totalCost_runSteps_le pc (Int.le_of_lt positive)
    omega
  next spent =>
    rw [run_of_nonpos machine pc (Int.not_lt.mp spent)] at ran
    cases ran
    rfl

end

theorem Matches.exists_log {β : Type} {left right : Machine β} (same : Matches left right) :
    ∃ log, left = { right with log } := by
  obtain ⟨cpu, bus, log⟩ := left
  obtain ⟨⟨⟩, ⟨⟩⟩ := same
  exact ⟨log, rfl⟩

variable {machine after : Machine SerialLink} {pc last : UInt16} {steps : List Stepped}

theorem sent_prefix_step (machine : Machine SerialLink) (pc : UInt16) :
    machine.bus.sent.toList <+: (machine.step pc).2.bus.sent.toList :=
  ⟨_, (transmits_applyAll machine [.step pc 0]).2.sent.symm⟩

theorem Walk.sent_prefix (walk : Walk machine pc steps after last) :
    machine.bus.sent.toList <+: after.bus.sent.toList := by
  induction walk with
  | nil => exact List.prefix_rfl
  | @cons machine middle after pc last stepped rest step walk ih =>
    have first := sent_prefix_step machine pc
    rw [step] at first
    exact first.trans ih

def flat (machine : Machine SerialLink) : Machine Memory :=
  ⟨machine.cpu, machine.bus.memory, machine.log⟩

theorem step_flat (machine : Machine SerialLink) (pc : UInt16) :
    (machine.step pc).1 = (machine.flat.step pc).1 := by
  have mirrors : Mirrors (fun (link : SerialLink) memory => link.memory = memory) machine
      machine.flat := ⟨rfl, rfl, rfl⟩
  exact ((performsAlike_mirrors SerialLink.simulation_memory).steps mirrors pc).1

theorem exists_step_error (running : machine.cpu.halted = false)
    (unknown : machine.bus.memory.read pc ∈ unknownOpcodes) :
    ∃ stopped, machine.step pc =
      (.error (.unknownOpcode (machine.bus.memory.read pc) pc false), stopped) := by
  have stuck : machine.flat.Stuck pc := ⟨running, unknown⟩
  obtain ⟨log, refused⟩ := step_of_stuck stuck
  have same := machine.step_flat pc
  rw [refused] at same
  exact ⟨_, Prod.ext same rfl⟩

theorem step_error_iff (running : machine.cpu.halted = false) :
    (∃ fault stopped, machine.step pc = (.error fault, stopped)) ↔
      machine.bus.memory.read pc ∈ unknownOpcodes := by
  constructor
  next =>
    rintro ⟨fault, stopped, step⟩
    have same := machine.step_flat pc
    rw [step] at same
    match flat : machine.flat.step pc with
    | (.error other, halted) => exact (stuck_of_step_error flat).1.2
    | (.ok stepped, after) => rw [flat] at same; cases same
  next =>
    intro unknown
    obtain ⟨stopped, step⟩ := exists_step_error running unknown
    exact ⟨_, stopped, step⟩

end Machine

namespace Runner

open Machine hiding run step

variable {options : Options} {image : List UInt8} {fault : Fault}

def entryPoint (options : Options) : UInt16 :=
  options.entry.getD options.loadAddress

def loaded (options : Options) (image : List UInt8) : Machine SerialLink :=
  (({ bus := {} } : Machine SerialLink).applyAll
    ((if options.postBoot then [.boot] else []) ++ [.load options.loadAddress image])).2

theorem loaded_eq (options : Options) (image : List UInt8) :
    loaded options image =
      ((⟨if options.postBoot then .booted else {}, {}, {}⟩ : Machine SerialLink).load
        options.loadAddress image).2 := by
  rw [loaded]
  split
  next => simp [applyAll, apply_load]; rfl
  next => simp [applyAll, apply_load]

theorem matches_loaded (fits : options.loadAddress.toNat + image.length ≤ 65536) (log : Log) :
    Matches ⟨if options.postBoot then .booted else {}, storeBytes {} options.loadAddress image, log⟩
      (loaded options image) := by
  rw [loaded_eq, load_of_fits _ fits]
  exact ⟨rfl, rfl⟩

def NoteTraps (overflow : Overflow) (filter : Filter) (cycles : Int) : Prop :=
  overflow = .traps ∧ filter.admits .debug = true ∧ cycles < -Int32.maxValue.toInt

instance (overflow : Overflow) (filter : Filter) (cycles : Int) :
    Decidable (NoteTraps overflow filter cycles) :=
  inferInstanceAs (Decidable (_ ∧ _ ∧ _))

theorem NoteTraps.exceeds {overflow : Overflow} {filter : Filter} {cycles : Int}
    (traps : NoteTraps overflow filter cycles) : cycles < -2147483647 :=
  traps.2.2

-- Only a budget below zero is left over as a whole, so the first slice traps or none.
def Traps (overflow : Overflow) (options : Options) (filter : Filter) : Prop :=
  NoteTraps overflow filter options.cycles ∧ 0 < options.slices

instance (overflow : Overflow) (options : Options) (filter : Filter) :
    Decidable (Traps overflow options filter) :=
  inferInstanceAs (Decidable (_ ∧ _))

section Slices

variable {overflow : Overflow} {machine after stopped : Machine SerialLink} {pc : UInt16}
  {budget cycles : Int} {progress : Progress}

theorem exists_noteSlice_ok (calm : ¬ NoteTraps overflow machine.log.filter cycles)
    (spent : cycles ≤ 0) (index : Nat) :
    ∃ log, noteSlice overflow machine index cycles = .ok { machine with log } ∧
      log.filter = machine.log.filter := by
  rw [noteSlice]
  split
  next wanted =>
    cases overflow with
    | wraps =>
      by_cases fits : InWord32 (-cycles)
      next => rw [Overflow.keep_of_fits _ _ fits]; exact ⟨_, rfl, rfl⟩
      next => rw [Overflow.keep_of_wraps _ fits]; exact ⟨_, rfl, rfl⟩
    | traps =>
      have fits : InWord32 (-cycles) := by
        have least : -2147483647 ≤ cycles :=
          Int.not_lt.mp fun exceeds => calm ⟨rfl, wanted, exceeds⟩
        rw [inWord32_iff]
        omega
      rw [Overflow.keep_of_fits _ _ fits]
      exact ⟨_, rfl, rfl⟩
  next => exact ⟨_, rfl, rfl⟩

theorem noteSlice_of_traps (traps : NoteTraps overflow machine.log.filter cycles) (index : Nat) :
    noteSlice overflow machine index cycles = .error .negateOverflow := by
  have unfit : ¬ InWord32 (-cycles) := by
    have exceeds := traps.exceeds
    rw [inWord32_iff]
    omega
  obtain ⟨rfl, wanted, -⟩ := traps
  rw [noteSlice, if_pos wanted, Overflow.keep_of_traps _ unfit]
  rfl

theorem runSlices_succ_of_error (ran : machine.run pc budget = (.error fault, stopped))
    (count index : Nat) :
    runSlices overflow budget (count + 1) index machine pc =
      (.error fault, note (note stopped (.stopped fault)) (.stoppedAt (snapshot stopped))) := by
  rw [runSlices, ran]
  rfl

theorem exists_runSlices_succ (calm : ¬ NoteTraps overflow machine.log.filter budget)
    (ran : machine.run pc budget = (.ok progress, after)) (count index : Nat) :
    ∃ log, log.filter = machine.log.filter ∧
      runSlices overflow budget (count + 1) index machine pc =
        runSlices overflow budget count (index + 1) { after with log } progress.pc := by
  have kept := machine.filter_run pc budget
  have left := left_of_run_ok ran
  rw [ran] at kept
  have spared : ¬ NoteTraps overflow after.log.filter progress.cycles ∧ progress.cycles ≤ 0 := by
    rw [kept]
    split at left
    next =>
      refine ⟨fun traps => ?_, left.2⟩
      have exceeds := traps.exceeds
      omega
    next spent =>
      rw [left]
      exact ⟨calm, Int.not_lt.mp spent⟩
  obtain ⟨log, noted, same⟩ := exists_noteSlice_ok spared.1 spared.2 index
  exact ⟨log, same.trans kept, by simp only [runSlices, ran, noted]⟩

theorem runSlices_of_traps (traps : NoteTraps overflow machine.log.filter budget) (count index : Nat)
    (pc : UInt16) :
    runSlices overflow budget (count + 1) index machine pc =
      (.error .negateOverflow, machine) := by
  have spent : budget ≤ 0 := by
    have exceeds := traps.exceeds
    omega
  simp only [runSlices, run_of_nonpos machine pc spent, noteSlice_of_traps traps]

end Slices

-- What is noted between the slices goes to the log and nowhere else.
theorem runSlices_alike {overflow : Overflow} {left right : Machine SerialLink}
    (same : Matches left right) {budget : Int} {count : Nat}
    (calm : NoteTraps overflow left.log.filter budget → count = 0) (index : Nat) (pc : UInt16) :
    (runSlices overflow budget count index left pc).1 = (right.slices pc budget count).1 ∧
      Matches (runSlices overflow budget count index left pc).2
        (right.slices pc budget count).2 := by
  induction count generalizing left right index pc with
  | zero => exact ⟨rfl, same⟩
  | succ count ih =>
    have calm : ¬ NoteTraps overflow left.log.filter budget := fun traps => by cases calm traps
    have alike := performsAlike_matches.steps.run same pc budget
    rcases ran : left.run pc budget with ⟨result, after⟩
    rcases other : right.run pc budget with ⟨_, mirrored⟩
    rw [ran, other] at alike
    obtain ⟨⟨⟩, afterwards⟩ := alike
    rw [slices, other]
    cases result with
    | error fault =>
      rw [runSlices_succ_of_error ran]
      exact ⟨rfl, afterwards.cpu, afterwards.bus⟩
    | ok progress =>
      obtain ⟨log, kept, goesOn⟩ := exists_runSlices_succ calm ran count index
      have noted : Matches { after with log } mirrored := ⟨afterwards.cpu, afterwards.bus⟩
      rw [goesOn]
      exact ih noted (fun traps => absurd (kept ▸ traps) calm) (index + 1) progress.pc

variable {overflow : Overflow}

theorem calm_of_nonneg (nonnegative : 0 ≤ options.cycles) (filter : Filter) :
    ¬ Traps overflow options filter := by
  rintro ⟨traps, -⟩
  have exceeds := traps.exceeds
  omega

theorem exists_execute (options : Options)
    (fits : options.loadAddress.toNat + image.length ≤ 65536) {filter : Filter}
    (calm : ¬ Traps overflow options filter)
    {result : Except Fault UInt16} {machine : Machine SerialLink}
    (sliced : (loaded options image).slices (entryPoint options) options.cycles options.slices =
      (result, machine)) :
    ∃ log, execute overflow options image filter = (result, { machine with log }) := by
  let log := (start options filter).log.record (.loaded image.length options.loadAddress)
  have unsliced : NoteTraps overflow log.filter options.cycles → options.slices = 0 :=
    fun traps => Nat.eq_zero_of_not_pos fun some => calm ⟨traps, some⟩
  obtain ⟨ended, same⟩ := runSlices_alike (matches_loaded fits log) unsliced 0 (entryPoint options)
  rw [sliced] at ended same
  obtain ⟨log, same⟩ := same.exists_log
  rw [execute, load_of_fits _ fits]
  exact ⟨log, Prod.ext ended same⟩

theorem exists_execute_single (options : Options)
    (fits : options.loadAddress.toNat + image.length ≤ 65536) (filter : Filter) {budget : Int}
    (positive : 0 ≤ budget) {result : Except Fault Progress} {after : Machine SerialLink}
    (ran : (loaded options image).run (entryPoint options) budget = (result, after)) :
    ∃ log, execute overflow { options with slices := 1, cycles := budget } image filter =
      (result.map Progress.pc, { after with log }) := by
  have sliced := (loaded options image).slices_one (entryPoint options) budget
  rw [ran] at sliced
  exact exists_execute { options with slices := 1, cycles := budget } fits
    (calm_of_nonneg positive filter) sliced

theorem execute_of_exceeds (overflow : Overflow) (options : Options)
    (exceeds : 65536 < options.loadAddress.toNat + image.length) (filter : Filter) :
    execute overflow options image filter =
      (.error (.programTooLarge options.loadAddress image.length), start options filter) := by
  rw [execute, load_of_exceeds _ exceeds]

theorem run_of_execute_error {stopped : Machine SerialLink} {filter : Filter}
    (executed : execute overflow options image filter = (.error fault, stopped)) :
    run overflow options (.ok image) filter = {
      output := stopped.bus.sent.toList
      failure := some (.fault fault)
      log := stopped.log } := by
  rw [run, executed]
  rfl

theorem run_of_execute_ok {next : UInt16} {final : Machine SerialLink} {filter : Filter}
    (executed : execute overflow options image filter = (.ok next, final)) :
    run overflow options (.ok image) filter = {
      output := final.bus.sent.toList ++ ("\n" ++ (snapshot final).text ++ "\n").toUTF8.toList
      failure := none
      log := final.log.record (.serialTotal final.bus.sent.size) } := by
  rw [run, executed]
  rfl

def steps (options : Options) (image : List UInt8) : List Stepped :=
  if options.loadAddress.toNat + image.length ≤ 65536 then
    (loaded options image).sliceSteps (entryPoint options) options.cycles options.slices
  else []

theorem walk_steps (options : Options)
    (fits : options.loadAddress.toNat + image.length ≤ 65536) {filter : Filter}
    (calm : ¬ Traps overflow options filter) :
    ∃ after last,
      Walk (loaded options image) (entryPoint options) (steps options image) after last ∧
      ((∃ log, execute overflow options image filter = (.ok last, { after with log })) ∨
        ∃ fault stopped log, after.step last = (.error fault, stopped) ∧
          execute overflow options image filter = (.error fault, { stopped with log })) := by
  obtain ⟨after, last, walk, ending⟩ := walk_sliceSteps (loaded options image) (entryPoint options)
    options.cycles options.slices
  rw [steps, if_pos fits]
  refine ⟨after, last, walk, ?_⟩
  rcases ending with ⟨sliced, -⟩ | ⟨fault, stopped, sliced, step⟩
  next => exact .inl (exists_execute options fits calm sliced)
  next =>
    obtain ⟨log, executed⟩ := exists_execute options fits calm sliced
    exact .inr ⟨fault, stopped, log, step, executed⟩

/-- Slices make the steps of a single slice with all of their cycles, and may make more, because no
slice pays for what the one before it took too much. -/
theorem slicing_extends (overflow : Overflow) (options : Options) (image : List UInt8)
    (filter : Filter) (slices cycles : Nat) :
    let whole := { options with slices := 1, cycles := slices * cycles }
    let parts := { options with slices, cycles }
    steps whole image <+: steps parts image ∧
      (∀ failure, (run overflow whole (.ok image) filter).failure = some failure →
        (run overflow parts (.ok image) filter).failure = some failure ∧
          (run overflow parts (.ok image) filter).output =
            (run overflow whole (.ok image) filter).output) ∧
      ((run overflow parts (.ok image) filter).failure = none →
        (run overflow whole (.ok image) filter).failure = none ∧
          (execute overflow whole image filter).2.bus.sent.toList <+:
            (execute overflow parts image filter).2.bus.sent.toList ∧
          slices * cycles ≤ totalCost (steps parts image) ∧
          totalCost (steps parts image) ≤ slices * (cycles + 5)) := by
  intro whole parts
  by_cases fits : options.loadAddress.toNat + image.length ≤ 65536
  next =>
    let machine := loaded options image
    let pc := entryPoint options
    have begun : steps whole image = machine.runSteps pc (slices * cycles) := by
      rw [steps, if_pos fits]
      exact machine.sliceSteps_one pc _
    have positive : (0 : Int) ≤ slices * cycles :=
      Int.mul_nonneg (Int.natCast_nonneg slices) (Int.natCast_nonneg cycles)
    have calm : ¬ Traps overflow parts filter := calm_of_nonneg (Int.natCast_nonneg cycles) filter
    have made : steps parts image = machine.sliceSteps pc cycles slices := if_pos fits
    rw [begun, made]
    refine ⟨machine.runSteps_prefix_sliceSteps pc cycles slices, ?_⟩
    match ran : machine.run pc (slices * cycles) with
    | (.error fault, stopped) =>
      -- The slices come to the step that fails, because they do not end before it.
      obtain ⟨_, single⟩ := exists_execute_single options fits filter positive ran
      obtain ⟨_, several⟩ := exists_execute parts fits calm (slices_of_run_error ran)
      rw [run_of_execute_error single, run_of_execute_error several]
      exact ⟨fun failure failed => ⟨failed, rfl⟩, fun succeeded => by cases succeeded⟩
    | (.ok progress, middle) =>
      obtain ⟨_, single⟩ := exists_execute_single options fits filter positive ran
      rw [run_of_execute_ok single]
      refine ⟨fun failure failed => (by cases failed), fun succeeded => ⟨rfl, ?_⟩⟩
      match sliced : machine.slices pc cycles slices with
      | (.error fault, stopped) =>
        obtain ⟨_, several⟩ := exists_execute parts fits calm sliced
        rw [run_of_execute_error several] at succeeded
        cases succeeded
      | (.ok last, after) =>
        -- The single slice ends on the way of the slices, so they send more, if anything.
        obtain ⟨_, several⟩ := exists_execute parts fits calm sliced
        obtain ⟨rest, goesOn⟩ := exists_walk_of_run_ok ran sliced
        have spent := (walk_of_slices_ok sliced).2
        have limited := machine.totalCost_sliceSteps_le pc (Int.natCast_nonneg cycles) slices
        rw [single, several]
        refine ⟨goesOn.sent_prefix, ?_, ?_⟩
        next => exact_mod_cast spent
        next => exact_mod_cast limited
  next =>
    have exceeds := Nat.lt_of_not_le fits
    have first := run_of_execute_error (execute_of_exceeds overflow whole exceeds filter)
    have second := run_of_execute_error (execute_of_exceeds overflow parts exceeds filter)
    rw [first, second]
    have unbegun : steps whole image = [] := if_neg fits
    rw [unbegun]
    exact ⟨List.nil_prefix, fun failure failed => ⟨failed, rfl⟩,
      fun succeeded => by cases succeeded⟩

def circling : Options where
  program := "circling"
  loadAddress := 0
  entry := none
  cycles := 4
  slices := 2
  postBoot := false
  debug := false

theorem failure_run_circling : (run .traps circling (.ok [0x18, 0xfe]) .nothing).failure = none := by
  have known : decode 0x18 = some ⟨.jumpRelative none, 2, 3, 0, by decide⟩ := rfl
  have back : relativeTarget 0 0xfe = 0 := by decide
  simp [circling, run, report, execute, start, load_of_fits, storeBytes, runSlices, noteSlice,
    Filter.nothing, run_of_pos, run_of_nonpos, Machine.step, Cpu.step, fetchEntry, Cpu.executeEntry,
    Microcode.perform, Microcode.readByte, Microcode.log, Bus.read, Bus.write, SerialLink.write,
    Memory.read_write, known, back, Instruction.execute, Executed.branch,
    Instruction.transferRelative, Entry.cost]

theorem slicing_extends_circling :
    (run .traps { circling with slices := 1, cycles := 8 } (.ok [0x18, 0xfe]) .nothing).failure =
        none ∧
      steps { circling with slices := 1, cycles := 8 } [0x18, 0xfe] <+:
        steps circling [0x18, 0xfe] ∧
      8 ≤ totalCost (steps circling [0x18, 0xfe]) ∧
      totalCost (steps circling [0x18, 0xfe]) ≤ 18 := by
  obtain ⟨begins, -, succeeds⟩ := slicing_extends .traps circling [0x18, 0xfe] .nothing 2 4
  obtain ⟨single, -, least, most⟩ := succeeds failure_run_circling
  exact ⟨single, begins, least, most⟩

end Runner

end Sm83
