import Sm83.Proofs.Outcome

set_option autoImplicit false

namespace Sm83

namespace Machine

variable {β : Type} [Bus β] {machine after : Machine β} {pc last : UInt16} {steps : List Stepped}

theorem Walk.stored_eq (walk : Walk machine pc steps after last) :
    after.cpu.pc = if steps = [] then machine.cpu.pc else last := by
  induction walk with
  | nil => rfl
  | @cons machine middle after pc last stepped rest step walk ih =>
    rw [ih, pc_of_step_ok step, if_neg (List.cons_ne_nil _ _)]
    cases walk with
    | nil => rfl
    | cons => rfl

end Machine

namespace Runner

open Machine hiding run step

variable {overflow : Overflow} {options : Options} {image : List UInt8} {filter : Filter}
  {fault : Fault} {stopped : Machine SerialLink}

theorem events_note (machine : Machine SerialLink) (event : Event) :
    (note machine event).log.events.toList =
      machine.log.events.toList ++ [event].filter machine.log.filter.keeps :=
  Log.toList_events_record machine.log event

theorem filter_note (machine : Machine SerialLink) (event : Event) :
    (note machine event).log.filter = machine.log.filter := rfl

theorem snapshot_note (machine : Machine SerialLink) (event : Event) :
    snapshot (note machine event) = snapshot machine := rfl

theorem events_of_runSlices_error {budget : Int} {count index : Nat} {machine : Machine SerialLink}
    {pc : UInt16} (calm : NoteTraps overflow machine.log.filter budget → count = 0)
    (ran : runSlices overflow budget count index machine pc = (.error fault, stopped)) :
    ∃ earlier, stopped.log.events.toList = earlier ++
      [.stopped fault, .stoppedAt (snapshot stopped)].filter machine.log.filter.keeps := by
  induction count generalizing index machine pc with
  | zero => cases ran
  | succ count ih =>
    have calm : ¬ NoteTraps overflow machine.log.filter budget := fun traps => by cases calm traps
    have kept := machine.filter_run pc budget
    match slice : machine.run pc budget with
    | (.error other, halted) =>
      rw [runSlices_succ_of_error slice] at ran
      rw [slice] at kept
      cases ran
      refine ⟨halted.log.events.toList, ?_⟩
      rw [events_note, events_note, filter_note, snapshot_note, snapshot_note, ← kept,
        List.append_assoc, ← List.filter_append]
      rfl
    | (.ok progress, after) =>
      obtain ⟨log, same, goesOn⟩ := exists_runSlices_succ calm slice count index
      rw [goesOn] at ran
      obtain ⟨earlier, events⟩ := ih (fun traps => absurd (same ▸ traps) calm) ran
      exact ⟨earlier, same ▸ events⟩

theorem events_of_execute_error (fits : options.loadAddress.toNat + image.length ≤ 65536)
    (calm : ¬ Traps overflow options filter)
    (executed : execute overflow options image filter = (.error fault, stopped)) :
    ∃ earlier, stopped.log.events.toList =
      earlier ++ [.stopped fault, .stoppedAt (snapshot stopped)].filter filter.keeps := by
  rw [execute, load_of_fits _ fits] at executed
  exact events_of_runSlices_error
    (fun traps => Nat.eq_zero_of_not_pos fun some => calm ⟨traps, some⟩) executed

def initialPc (options : Options) : UInt16 :=
  if options.postBoot then 0x0100 else 0

def shownPc (options : Options) (image : List UInt8) (pc : UInt16) : UInt16 :=
  if steps options image = [] then initialPc options else pc

theorem cpu_loaded (fits : options.loadAddress.toNat + image.length ≤ 65536) :
    (loaded options image).cpu.pc = initialPc options ∧
      (loaded options image).cpu.halted = false := by
  rw [← (matches_loaded fits {}).cpu, initialPc]
  split <;> exact ⟨rfl, rfl⟩

theorem pc_of_execute_ok (fits : options.loadAddress.toNat + image.length ≤ 65536)
    (calm : ¬ Traps overflow options filter) {next : UInt16} {final : Machine SerialLink}
    (executed : execute overflow options image filter = (.ok next, final)) :
    final.cpu.pc = shownPc options image next := by
  obtain ⟨after, last, walk, ⟨log, ended⟩ | ⟨fault, stopped, log, step, failed⟩⟩ :=
    walk_steps options fits calm
  next =>
    rw [executed] at ended
    cases ended
    rw [walk.stored_eq, (cpu_loaded fits).1, shownPc]
  next =>
    rw [executed] at failed
    cases failed

theorem pc_of_execute_error (fits : options.loadAddress.toNat + image.length ≤ 65536)
    (calm : ¬ Traps overflow options filter) {opcode : UInt8} {pc : UInt16} {extended : Bool}
    (executed : execute overflow options image filter =
      (.error (.unknownOpcode opcode pc extended), stopped)) :
    stopped.cpu.pc = shownPc options image pc := by
  obtain ⟨after, last, walk, ⟨log, ended⟩ | ⟨fault, refusing, log, step, failed⟩⟩ :=
    walk_steps options fits calm
  next =>
    rw [executed] at ended
    cases ended
  next =>
    rw [executed] at failed
    cases failed
    -- The step that is refused leaves the processor alone, so the walk has stored its counter.
    obtain ⟨-, opcode, -, same, -⟩ := refused_of_step_error step
    cases same
    rw [(perform_of_step_error step).2, walk.stored_eq, (cpu_loaded fits).1, shownPc]

theorem steps_eq_nil_iff (fits : options.loadAddress.toNat + image.length ≤ 65536) :
    steps options image = [] ↔ options.slices = 0 ∨ options.cycles ≤ 0 ∨
      (loaded options image).bus.memory.read (entryPoint options) ∈ unknownOpcodes := by
  rw [steps, if_pos fits, sliceSteps_eq_nil_iff, step_error_iff (cpu_loaded fits).2]

/-- The snapshot that is shown in the end tells where execution stands if an instruction has been
executed. If none has, it shows the program counter that the processor began with. -/
theorem shown_pc (overflow : Overflow) (options : Options) (image : List UInt8) (filter : Filter)
    (fits : options.loadAddress.toNat + image.length ≤ 65536) :
    let report := run overflow options (.ok image) filter
    let final := (execute overflow options image filter).2
    ((∀ fault stopped, (.error fault, stopped) ∉ runs options image) →
      ¬ Traps overflow options filter →
      report.output =
        final.bus.sent.toList ++ ("\n" ++ (snapshot final).text ++ "\n").toUTF8.toList ∧
      (snapshot final).pc =
        shownPc options image
          (((runs options image).filterMap (standing ·.1)).getLastD (entryPoint options))) ∧
    (∀ opcode pc extended stopped,
      (.error (.unknownOpcode opcode pc extended), stopped) ∈ runs options image →
      (∃ earlier, report.log.events.toList = earlier ++
        [.stopped (.unknownOpcode opcode pc extended), .stoppedAt (snapshot final)].filter
          filter.keeps) ∧
      (snapshot final).pc = shownPc options image pc) ∧
    (steps options image = [] ↔ options.slices = 0 ∨ options.cycles ≤ 0 ∨
      (loaded options image).bus.memory.read (entryPoint options) ∈ unknownOpcodes) := by
  refine ⟨fun succeeds calm => ?_, fun opcode pc extended stopped failed => ?_, steps_eq_nil_iff fits⟩
  next =>
    obtain ⟨log, executed⟩ := exists_execute options fits calm (slices_of_course_ok succeeds)
    have stored := pc_of_execute_ok fits calm executed
    rw [run_of_execute_ok executed, executed]
    exact ⟨rfl, stored⟩
  next =>
    have calm : ¬ Traps overflow options filter := calm_of_mem_runs failed
    obtain ⟨log, executed⟩ := exists_execute options fits calm (slices_of_course_error failed)
    have stored := pc_of_execute_error fits calm executed
    have events := events_of_execute_error fits calm executed
    rw [run_of_execute_error executed, executed]
    exact ⟨events, stored⟩

-- The second opcode is not in the table.
def tripping : Options where
  program := "tripping"
  loadAddress := 0x0200
  entry := none
  cycles := 10
  slices := 3
  postBoot := true
  debug := false

theorem mem_runs_tripping : ∃ stopped,
    (.error (.unknownOpcode 0xd3 0x0201 false), stopped) ∈ runs tripping [0x00, 0xd3] := by
  have known : decode 0 = some ⟨.nop, 1, 1, 0, by decide⟩ := rfl
  have unknown : decode 0xd3 = none := rfl
  have ran : ∃ stopped, (loaded tripping [0x00, 0xd3]).run 0x0200 10 =
      (.error (.unknownOpcode 0xd3 0x0201 false), stopped) := by
    simp [tripping, loaded_eq, load_of_fits, storeBytes, run_of_pos, Machine.step, Cpu.step,
      Cpu.booted, fetchEntry, Cpu.executeEntry, Microcode.perform, Microcode.readByte,
      Microcode.log, Bus.read, Bus.write, SerialLink.write, Memory.read_write, known, unknown,
      Instruction.execute, Executed.proceed, Entry.cost]
  obtain ⟨stopped, ran⟩ := ran
  exact ⟨stopped, mem_sliceCourse_of_run_error ran 2⟩

theorem shown_pc_tripping :
    tripping.loadAddress.toNat + ([0x00, 0xd3] : List UInt8).length ≤ 65536 ∧
      (∃ stopped,
        (.error (.unknownOpcode 0xd3 0x0201 false), stopped) ∈ runs tripping [0x00, 0xd3]) ∧
      (∃ earlier, (run .traps tripping (.ok [0x00, 0xd3]) .everything).log.events.toList =
        earlier ++ [.stopped (.unknownOpcode 0xd3 0x0201 false),
          .stoppedAt (snapshot (execute .traps tripping [0x00, 0xd3] .everything).2)]) ∧
      (snapshot (execute .traps tripping [0x00, 0xd3] .everything).2).pc = 0x0201 := by
  have fits : tripping.loadAddress.toNat + ([0x00, 0xd3] : List UInt8).length ≤ 65536 := by decide
  obtain ⟨stopped, failed⟩ := mem_runs_tripping
  obtain ⟨-, fails, unbegun⟩ := shown_pc .traps tripping [0x00, 0xd3] .everything fits
  obtain ⟨events, pc⟩ := fails 0xd3 0x0201 false stopped failed
  have first : (loaded tripping [0x00, 0xd3]).bus.memory.read 0x0200 = 0x00 := by
    rw [← (matches_loaded fits {}).bus]
    simp [tripping, storeBytes, Bus.write, SerialLink.write, Memory.read_write]
  have begun : steps tripping [0x00, 0xd3] ≠ [] := by
    rintro nil
    rcases unbegun.mp nil with slices | cycles | unknown
    next => cases slices
    next => exact absurd cycles (by decide)
    next =>
      rw [show entryPoint tripping = 0x0200 from rfl, first] at unknown
      exact absurd unknown (by decide)
  rw [shownPc, if_neg begun] at pc
  exact ⟨fits, ⟨stopped, failed⟩, events, pc⟩

-- There is no slice, so nothing is stored of where the first one would have begun.
def idle : Options where
  program := "idle"
  loadAddress := 0x0100
  entry := none
  cycles := Options.cyclesPerFrame
  slices := 0
  postBoot := false
  debug := false

theorem output_idle :
    ((runs idle [0x00]).filterMap (standing ·.1)).getLastD (entryPoint idle) = 0x0100 ∧
      (run .wraps idle (.ok [0x00]) .nothing).output =
        ("\n" ++ ("PC: 0x0000 (0x00) SP: 0x0000 A: 0x00 Z: 0 C: 0 BC: 0x0000 DE: 0x0000" ++
          " HL: 0x0000 IME: false HALT: false") ++ "\n").toUTF8.toList := by
  have fits : idle.loadAddress.toNat + ([0x00] : List UInt8).length ≤ 65536 := by decide
  have executed : ∃ log, execute .wraps idle [0x00] .nothing =
      (.ok 0x0100, ⟨{}, storeBytes {} 0x0100 [0x00], log⟩) := by
    rw [execute, load_of_fits _ fits]
    exact ⟨_, rfl⟩
  obtain ⟨log, executed⟩ := executed
  have opcode : (storeBytes ({} : SerialLink) 0x0100 [0x00]).memory.read 0 = 0x00 := by
    simp [storeBytes, Bus.write, SerialLink.write, Memory.read_write]
  have sent : (storeBytes ({} : SerialLink) 0x0100 [0x00]).sent.toList = [] := by
    rw [SerialLink.sent_storeBytes_of_apart _ (by decide) (by decide)]
  have text : (snapshot ⟨{}, storeBytes {} 0x0100 [0x00], log⟩).text =
      "PC: 0x0000 (0x00) SP: 0x0000 A: 0x00 Z: 0 C: 0 BC: 0x0000 DE: 0x0000" ++
        " HL: 0x0000 IME: false HALT: false" := by
    rw [snapshot, opcode]
    change (Cpu.snapshot {} 0x00).text = _
    decide
  rw [run_of_execute_ok executed, text, sent]
  exact ⟨rfl, rfl⟩

-- Neither snapshot is one of where execution stands: the one after no slice at all, and the one
-- after an opcode that is refused at once.
theorem stale_snapshots :
    (((runs idle [0x00]).filterMap (standing ·.1)).getLastD (entryPoint idle) = 0x0100 ∧
      (run .wraps idle (.ok [0x00]) .nothing).output =
        ("\n" ++ ("PC: 0x0000 (0x00) SP: 0x0000 A: 0x00 Z: 0 C: 0 BC: 0x0000 DE: 0x0000" ++
          " HL: 0x0000 IME: false HALT: false") ++ "\n").toUTF8.toList) ∧
    (∃ stopped,
      (.error (.unknownOpcode 0xd3 0xff03 false), stopped) ∈ runs overlaying [0x48, 0x81, 0xd3]) ∧
    (∃ earlier, (run .wraps overlaying (.ok [0x48, 0x81, 0xd3]) .everything).log.events.toList =
      earlier ++ [.stopped (.unknownOpcode 0xd3 0xff03 false),
        .stoppedAt (snapshot (execute .wraps overlaying [0x48, 0x81, 0xd3] .everything).2)]) ∧
    (snapshot (execute .wraps overlaying [0x48, 0x81, 0xd3] .everything).2).pc = 0x0100 := by
  obtain ⟨stopped, failed⟩ := mem_runs_overlaying
  have calm : ¬ Traps .wraps overlaying .everything := by decide
  obtain ⟨log, executed⟩ :=
    exists_execute overlaying fits_overlaying calm (slices_of_course_error failed)
  have unknown : (loaded overlaying [0x48, 0x81, 0xd3]).bus.memory.read (entryPoint overlaying) ∈
      unknownOpcodes := by
    rw [show entryPoint overlaying = 0xff03 from rfl, read_overlaying]
    decide
  have unbegun := (steps_eq_nil_iff fits_overlaying).mpr (.inr (.inr unknown))
  have stored := pc_of_execute_error fits_overlaying calm executed
  rw [shownPc, if_pos unbegun] at stored
  refine ⟨output_idle, ⟨stopped, failed⟩, ?_, ?_⟩
  next =>
    rw [run_of_execute_error executed, executed]
    exact events_of_execute_error fits_overlaying calm executed
  next =>
    rw [executed]
    exact stored

end Runner

end Sm83
