import Sm83.Proofs.Execution

set_option autoImplicit false

namespace Sm83

theorem Machine.apply_inspect (machine : Machine SerialLink) :
    machine.apply .inspect = (.ok (.snapshot (Runner.snapshot machine)), machine) := rfl

namespace Runner

open Machine hiding run step
open SerialLink (sentByLoading)

variable {overflow : Overflow} {options : Options} {image : List UInt8} {filter : Filter}

def runs (options : Options) (image : List UInt8) :
    List (Except Fault Reply × Machine SerialLink) :=
  (loaded options image).sliceCourse (entryPoint options) options.cycles options.slices

theorem sent_loaded (fits : options.loadAddress.toNat + image.length ≤ 65536) :
    (loaded options image).bus.sent.toList = sentByLoading 0 options.loadAddress image := by
  have bus := (matches_loaded fits {}).bus
  rw [← bus, SerialLink.sent_storeBytes _ fits]
  simp

theorem sent_prefix_output (fits : options.loadAddress.toNat + image.length ≤ 65536)
    (calm : ¬ Traps overflow options filter) :
    (loaded options image).bus.sent.toList <+:
      (run overflow options (.ok image) filter).output := by
  obtain ⟨after, last, walk, ⟨log, executed⟩ | ⟨fault, stopped, log, step, executed⟩⟩ :=
    walk_steps options fits calm
  next =>
    rw [run_of_execute_ok executed]
    exact walk.sent_prefix.trans (List.prefix_append _ _)
  next =>
    have last := sent_prefix_step after last
    rw [step] at last
    rw [run_of_execute_error executed]
    exact walk.sent_prefix.trans last

theorem mem_runs_of_nonpos {fault : Fault} {stopped : Machine SerialLink}
    (spent : options.cycles ≤ 0) : (.error fault, stopped) ∉ runs options image := by
  intro failed
  have sliced := slices_of_course_error failed
  rw [slices_of_nonpos _ _ spent] at sliced
  cases sliced

theorem calm_of_mem_runs {fault : Fault} {stopped : Machine SerialLink}
    (failed : (.error fault, stopped) ∈ runs options image) :
    ¬ Traps overflow options filter := by
  apply calm_of_nonneg
  exact Int.le_of_lt (Int.not_le.mp fun spent => mem_runs_of_nonpos spent failed)

theorem exitCode_of_mem_runs {fault : Fault} {stopped : Machine SerialLink} {report : Report}
    (failed : (.error fault, stopped) ∈ runs options image)
    (reports : report.failure = some (.fault fault)) : report.exitCode = 1 := by
  obtain ⟨before, last, step⟩ := exists_step_of_slices_error (slices_of_course_error failed)
  obtain ⟨-, opcode, -, rfl, -⟩ := refused_of_step_error step
  rw [Report.exitCode, reports]
  rfl

theorem exists_run_of_traps (fits : options.loadAddress.toNat + image.length ≤ 65536)
    (traps : Traps overflow options filter) :
    ∃ log, run overflow options (.ok image) filter = {
      output := (loaded options image).bus.sent.toList
      failure := some (.fault .negateOverflow)
      log } := by
  obtain ⟨unfit, sliced⟩ := traps
  obtain ⟨count, sliced⟩ := Nat.exists_eq_succ_of_ne_zero (Nat.ne_of_gt sliced)
  let log := (start options filter).log.record (.loaded image.length options.loadAddress)
  obtain ⟨later, same⟩ := (matches_loaded fits log).exists_log
  have executed : execute overflow options image filter =
      (.error .negateOverflow, { loaded options image with log := later }) := by
    rw [execute, load_of_fits _ fits, sliced]
    exact same ▸ runSlices_of_traps unfit count 0 (entryPoint options)
  exact ⟨later, run_of_execute_error executed⟩

-- The program covers the registers of the serial link and begins with an opcode that is not known.
def overlaying : Options where
  program := "overlaying"
  loadAddress := 0xff01
  entry := some 0xff03
  cycles := 10
  slices := 3
  postBoot := true
  debug := false

theorem fits_overlaying :
    overlaying.loadAddress.toNat + ([0x48, 0x81, 0xd3] : List UInt8).length ≤ 65536 := by decide

theorem read_overlaying : (loaded overlaying [0x48, 0x81, 0xd3]).bus.memory.read 0xff03 = 0xd3 := by
  rw [← (matches_loaded fits_overlaying {}).bus]
  simp [overlaying, storeBytes, Bus.write, SerialLink.write]

theorem mem_runs_overlaying : ∃ stopped,
    (.error (.unknownOpcode 0xd3 0xff03 false), stopped) ∈ runs overlaying [0x48, 0x81, 0xd3] := by
  have running : (loaded overlaying [0x48, 0x81, 0xd3]).cpu.halted = false := by
    rw [← (matches_loaded fits_overlaying {}).cpu]
    rfl
  obtain ⟨stopped, step⟩ := exists_step_error running (by rw [read_overlaying]; decide)
  rw [read_overlaying] at step
  have ran : (loaded overlaying [0x48, 0x81, 0xd3]).run 0xff03 10 =
      (.error (.unknownOpcode 0xd3 0xff03 false), stopped) := by
    rw [run_of_pos _ _ (by decide), step]
  exact ⟨stopped, mem_sliceCourse_of_run_error ran 2⟩

-- A budget that has no negative in 32 bits, with a log that keeps everything.
def exhausted : Options where
  program := "exhausted"
  loadAddress := 0x0100
  entry := none
  cycles := Int32.minValue.toInt
  slices := 1
  postBoot := true
  debug := true

end Runner

end Sm83
