import Mathlib.Data.List.Chain
import Sm83.Proofs.Dispatch
import Sm83.Proofs.Reports

set_option autoImplicit false

namespace Sm83

open Microcode hiding perform

def Cpu.line (cpu : Cpu) (name : String) (next : UInt16) : String :=
  "TRACE " ++ name ++ " AF: " ++ Hex.word (cpu.getWord .af) ++
    " BC: " ++ Hex.word (cpu.getWord .bc) ++ " DE: " ++ Hex.word (cpu.getWord .de) ++
    " HL: " ++ Hex.word (cpu.getWord .hl) ++ " SP: " ++ Hex.word cpu.sp ++
    " PC: " ++ Hex.word next

namespace Event

def LeadsTo : Event → Event → Prop
  | .executed _ cpu, .fetched _ pc _ => pc = cpu.pc
  | .executed _ _, _ => False
  | _, _ => True

def showsState : Event → Bool
  | .executed _ _ => true
  | _ => false

theorem text_executed (instruction : Instruction) (cpu : Cpu) :
    (Event.executed instruction cpu).text = cpu.line instruction.mnemonic cpu.pc := by
  have text : (Event.executed instruction cpu).text =
      "TRACE " ++ (Event.executed instruction cpu).message := rfl
  have message : (Event.executed instruction cpu).message =
      instruction.mnemonic ++ " AF: " ++ Hex.word (cpu.getWord .af) ++
        " BC: " ++ Hex.word (cpu.getWord .bc) ++ " DE: " ++ Hex.word (cpu.getWord .de) ++
        " HL: " ++ Hex.word (cpu.getWord .hl) ++ " SP: " ++ Hex.word cpu.sp ++
        " PC: " ++ Hex.word cpu.pc := rfl
  rw [text, message]
  delta Cpu.line
  simp only [String.append_assoc]

end Event

structure Fetched where
  opcode : UInt8
  extended : Bool

namespace Fetched

def ofBus {β : Type} [Bus β] (bus : β) (pc : UInt16) : Fetched :=
  let first := Bus.read bus pc
  if first.1 = 0xcb then ⟨(Bus.read first.2 (pc + 1)).1, true⟩ else ⟨first.1, false⟩

def decoded (fetched : Fetched) : Option Entry :=
  if fetched.extended then some (decodeExtended fetched.opcode) else decode fetched.opcode

def event (fetched : Fetched) (pc : UInt16) : Event :=
  .fetched fetched.opcode pc fetched.extended

def line (fetched : Fetched) (pc : UInt16) : String :=
  (if fetched.extended then "TRACE CB opcode " else "TRACE opcode ") ++ Hex.byte fetched.opcode ++
    " at pc " ++ Hex.word pc

def mnemonic (fetched : Fetched) : String :=
  fetched.decoded.elim "" fun entry => entry.instruction.mnemonic

def haltingLines (fetched : Fetched) (pc : UInt16) : List String :=
  if fetched.opcode = 0x76 ∧ fetched.extended = false then ["DEBUG Halting at " ++ Hex.word pc]
  else []

theorem text_event (fetched : Fetched) (pc : UInt16) :
    (fetched.event pc).text = fetched.line pc := by
  obtain ⟨opcode, extended⟩ := fetched
  cases extended with
  | false =>
    change "TRACE" ++ " " ++ ("opcode " ++ Hex.byte opcode ++ " at pc " ++ Hex.word pc) = _
    simp only [← String.append_assoc]
    rfl
  | true =>
    change "TRACE" ++ " " ++ ("CB opcode " ++ Hex.byte opcode ++ " at pc " ++ Hex.word pc) = _
    simp only [← String.append_assoc]
    rfl

theorem halt_iff {fetched : Fetched} {entry : Entry} (known : fetched.decoded = some entry) :
    entry.instruction = .halt ↔ fetched.opcode = 0x76 ∧ fetched.extended = false := by
  obtain ⟨opcode, extended⟩ := fetched
  cases extended with
  | false =>
    have all : ∀ opcode : UInt8, ∀ entry ∈ decode opcode,
        entry.instruction = .halt ↔ opcode = 0x76 := forall_opcode (by decide +kernel)
    simpa using all opcode entry known
  | true =>
    have none : ∀ opcode : UInt8, (decodeExtended opcode).instruction ≠ .halt :=
      forall_opcode (by decide +kernel)
    cases known
    simpa using none opcode

theorem text_reports {fetched : Fetched} {entry : Entry} (known : fetched.decoded = some entry)
    (pc : UInt16) :
    (entry.instruction.reports pc).map Event.text = fetched.haltingLines pc := by
  by_cases halts : entry.instruction = .halt
  next =>
    rw [Instruction.reports, if_pos halts, haltingLines, if_pos ((halt_iff known).mp halts)]
    rfl
  next =>
    rw [Instruction.reports, if_neg halts, haltingLines, if_neg (mt (halt_iff known).mpr halts)]
    rfl

def account (fetched : Fetched) (pc : UInt16) (instruction : Instruction) (cpu : Cpu) :
    List Event :=
  fetched.event pc :: (instruction.reports pc ++ [.executed instruction cpu])

section Account

variable (fetched : Fetched) (pc : UInt16) (instruction : Instruction) (cpu : Cpu)

theorem getLast?_account :
    (fetched.account pc instruction cpu).getLast? = some (.executed instruction cpu) := by
  rw [account, ← List.cons_append, List.getLast?_concat]

theorem isChain_account : (fetched.account pc instruction cpu).IsChain Event.LeadsTo := by
  by_cases halts : instruction = .halt <;>
    simp [halts, account, Instruction.reports, event, Event.LeadsTo]

theorem countP_account : (fetched.account pc instruction cpu).countP Event.showsState = 1 := by
  by_cases halts : instruction = .halt <;>
    simp [halts, account, Instruction.reports, event, Event.showsState]

end Account

theorem text_account {fetched : Fetched} {entry : Entry} (known : fetched.decoded = some entry)
    (pc : UInt16) (cpu : Cpu) :
    (fetched.account pc entry.instruction cpu).map Event.text =
      fetched.line pc :: (fetched.haltingLines pc ++ [cpu.line fetched.mnemonic cpu.pc]) := by
  simp only [account, List.map_cons, List.map_append, List.map_nil, text_event,
    text_reports known, Event.text_executed, mnemonic, known, Option.elim]

end Fetched

variable {β : Type} [Bus β]

theorem Encodes.exists_perform_entry {opcodes : List UInt8} {entry : Entry}
    (encodes : Encodes opcodes entry) (cpu : Cpu) (pc : UInt16) (bus : β) (log : Log) :
    ∃ stepped after, stepped.cpu.pc = stepped.next ∧
      (cpu.executeEntry pc entry).perform bus log = ⟨.ok stepped, after, log.recordAll
        (entry.instruction.reports pc ++ [.executed entry.instruction stepped.cpu])⟩ := by
  obtain ⟨executed, after, performed⟩ :=
    encodes.exists_perform cpu pc (UInt16.ofNat entry.length) bus log
  refine ⟨⟨{ executed.cpu with pc := executed.next }, executed.next, entry.cost executed.taken,
    entry.cost_pos _⟩, after, rfl, ?_⟩
  rw [Cpu.executeEntry, bind_eq, perform_bind, performed, Log.recordAll_append]
  rfl

namespace Fetched

variable {bus : β} {pc : UInt16}

theorem exists_perform_fetchEntry {entry : Entry} (known : (ofBus bus pc).decoded = some entry) :
    ∃ opcodes fetched, Encodes opcodes entry ∧ ∀ log, (fetchEntry pc).perform bus log =
      ⟨.ok entry, fetched, log.record ((ofBus bus pc).event pc)⟩ := by
  by_cases extended : (Bus.read bus pc).1 = 0xcb
  next =>
    simp only [ofBus, extended, if_true, decoded, Option.some.injEq] at known ⊢
    subst known
    exact ⟨_, _, .extended _, perform_fetchEntry_extended extended⟩
  next =>
    simp only [ofBus, extended, if_false, decoded] at known ⊢
    exact ⟨_, _, .single known, perform_fetchEntry known⟩

-- Only a single opcode can be unknown.
theorem single_of_unknown (unknown : (ofBus bus pc).decoded = none) :
    (Bus.read bus pc).1 ≠ 0xcb ∧ decode (Bus.read bus pc).1 = none ∧
      ofBus bus pc = ⟨(Bus.read bus pc).1, false⟩ := by
  by_cases extended : (Bus.read bus pc).1 = 0xcb
  next => simp [ofBus, extended, decoded] at unknown
  next =>
    simp only [ofBus, extended, if_false, decoded] at unknown ⊢
    exact ⟨extended, unknown, trivial⟩

end Fetched

namespace Machine

variable {machine after stopped : Machine β} {pc : UInt16} {stepped : Stepped} {fault : Fault}

def stepEvents (machine : Machine β) (pc : UInt16) : List Event :=
  let fetched := Fetched.ofBus machine.bus pc
  if machine.cpu.halted then []
  else
    match machine.step pc with
    | (.ok stepped, _) => fetched.decoded.elim [] fun entry =>
      fetched.account pc entry.instruction stepped.cpu
    | (.error fault, _) => [fetched.event pc, .refused fault]

theorem step_of_known {entry : Entry} (running : machine.cpu.halted = false)
    (known : (Fetched.ofBus machine.bus pc).decoded = some entry) :
    ∃ stepped bus, stepped.cpu.pc = stepped.next ∧
      machine.step pc = (.ok stepped, ⟨stepped.cpu, bus, machine.log.recordAll
        ((Fetched.ofBus machine.bus pc).account pc entry.instruction stepped.cpu)⟩) := by
  obtain ⟨cpu, bus, log⟩ := machine
  have running : cpu.halted = false := running
  obtain ⟨opcodes, fetched, encodes, fetches⟩ := Fetched.exists_perform_fetchEntry known
  obtain ⟨stepped, after, arrives, performed⟩ := encodes.exists_perform_entry cpu pc fetched
    (log.record ((Fetched.ofBus bus pc).event pc))
  refine ⟨stepped, after, arrives, ?_⟩
  simp only [step, Cpu.step, running, Bool.false_eq_true, if_false, bind_eq, perform_bind, fetches,
    performed]
  rfl

theorem step_of_unknown (running : machine.cpu.halted = false)
    (unknown : (Fetched.ofBus machine.bus pc).decoded = none) :
    let fetched := Fetched.ofBus machine.bus pc
    let fault := Fault.unknownOpcode fetched.opcode pc false
    ∃ bus, machine.step pc = (.error fault, ⟨machine.cpu, bus,
      machine.log.recordAll [fetched.event pc, .refused fault]⟩) := by
  obtain ⟨cpu, bus, log⟩ := machine
  have running : cpu.halted = false := running
  obtain ⟨single, undecoded, found⟩ := Fetched.single_of_unknown unknown
  refine ⟨(Bus.read bus pc).2, ?_⟩
  simp only [found, step, Cpu.step, running, Bool.false_eq_true, if_false, bind_eq, perform_bind,
    perform_fetchEntry_unknown single undecoded]
  rfl

theorem stepEvents_of_halted (halted : machine.cpu.halted = true) (pc : UInt16) :
    machine.stepEvents pc = [] := by
  rw [stepEvents, if_pos halted]

theorem stepEvents_of_step_ok (running : machine.cpu.halted = false)
    (step : machine.step pc = (.ok stepped, after)) :
    ∃ entry, (Fetched.ofBus machine.bus pc).decoded = some entry ∧
      machine.stepEvents pc =
        (Fetched.ofBus machine.bus pc).account pc entry.instruction stepped.cpu ∧
      stepped.cpu.pc = stepped.next ∧ after.cpu = stepped.cpu ∧
      after.log = machine.log.recordAll (machine.stepEvents pc) := by
  cases known : (Fetched.ofBus machine.bus pc).decoded with
  | none =>
    obtain ⟨_, refused⟩ := step_of_unknown running known
    rw [step] at refused
    cases refused
  | some entry =>
    obtain ⟨_, _, arrives, made⟩ := step_of_known running known
    rw [step] at made
    cases made
    have events : machine.stepEvents pc =
        (Fetched.ofBus machine.bus pc).account pc entry.instruction stepped.cpu := by
      simp only [stepEvents, running, Bool.false_eq_true, if_false, step, known, Option.elim]
    exact ⟨entry, rfl, events, arrives, rfl, by rw [events]⟩

theorem stepEvents_of_step_error (step : machine.step pc = (.error fault, stopped)) :
    machine.stepEvents pc = [(Fetched.ofBus machine.bus pc).event pc, .refused fault] ∧
      stopped.log = machine.log.recordAll (machine.stepEvents pc) := by
  have running := (refused_of_step_error step).1
  have events : machine.stepEvents pc =
      [(Fetched.ofBus machine.bus pc).event pc, .refused fault] := by
    simp only [stepEvents, running, Bool.false_eq_true, if_false, step]
  refine ⟨events, ?_⟩
  cases known : (Fetched.ofBus machine.bus pc).decoded with
  | none =>
    obtain ⟨_, refused⟩ := step_of_unknown running known
    rw [step] at refused
    cases refused
    rw [events]
  | some entry =>
    obtain ⟨_, _, _, made⟩ := step_of_known running known
    rw [step] at made
    cases made

theorem log_step (machine : Machine β) (pc : UInt16) :
    (machine.step pc).2.log = machine.log.recordAll (machine.stepEvents pc) := by
  cases running : machine.cpu.halted with
  | true =>
    rw [step_of_halted machine pc running, stepEvents_of_halted running]
    rfl
  | false =>
    match step : machine.step pc with
    | (.ok stepped, after) =>
      obtain ⟨_, _, _, _, _, logged⟩ := stepEvents_of_step_ok running step
      exact logged
    | (.error fault, stopped) => exact (stepEvents_of_step_error step).2

def stepLines (machine : Machine β) (pc : UInt16) : List String :=
  let fetched := Fetched.ofBus machine.bus pc
  if machine.cpu.halted then []
  else fetched.line pc ::
    match machine.step pc with
    | (.ok stepped, after) =>
      fetched.haltingLines pc ++ [after.cpu.line fetched.mnemonic stepped.next]
    | (.error fault, _) => ["WARN " ++ fault.message]

theorem text_stepEvents (machine : Machine β) (pc : UInt16) :
    (machine.stepEvents pc).map Event.text = machine.stepLines pc := by
  cases running : machine.cpu.halted with
  | true => rw [stepEvents_of_halted running, stepLines, if_pos running, List.map_nil]
  | false =>
    match step : machine.step pc with
    | (.ok stepped, after) =>
      obtain ⟨entry, known, events, arrives, cpu, -⟩ := stepEvents_of_step_ok running step
      rw [events, Fetched.text_account known, arrives]
      simp only [stepLines, running, Bool.false_eq_true, if_false, step, cpu]
    | (.error fault, stopped) =>
      obtain ⟨events, -⟩ := stepEvents_of_step_error step
      simp only [events, stepLines, running, Bool.false_eq_true, if_false, step, List.map_cons,
        List.map_nil, Fetched.text_event]
      rfl

def executes (machine : Machine β) (pc : UInt16) : Bool :=
  !machine.cpu.halted && (machine.step pc).1.isOk

theorem countP_stepEvents (machine : Machine β) (pc : UInt16) :
    (machine.stepEvents pc).countP Event.showsState = if machine.executes pc then 1 else 0 := by
  cases running : machine.cpu.halted with
  | true => simp [stepEvents_of_halted running, executes, running]
  | false =>
    match step : machine.step pc with
    | (.ok stepped, after) =>
      obtain ⟨entry, _, events, _⟩ := stepEvents_of_step_ok running step
      rw [events, Fetched.countP_account, executes, running, step]
      rfl
    | (.error fault, stopped) =>
      obtain ⟨events, -⟩ := stepEvents_of_step_error step
      rw [events, executes, running, step]
      rfl

theorem not_refused_of_step_ok (step : machine.step pc = (.ok stepped, after)) (fault : Fault) :
    (machine.stepEvents pc).getLast? ≠ some (.refused fault) := by
  cases running : machine.cpu.halted with
  | true => simp [stepEvents_of_halted running]
  | false =>
    obtain ⟨entry, _, events, _⟩ := stepEvents_of_step_ok running step
    simp [events, Fetched.getLast?_account]

def stations (machine : Machine β) (pc : UInt16) (budget : Int) : List (Machine β × UInt16) :=
  if 0 < budget then
    (machine, pc) :: match machine.step pc with
      | (.ok stepped, after) => after.stations stepped.next (budget - stepped.cost)
      | (.error _, _) => []
  else []
termination_by budget.toNat
decreasing_by
  have := stepped.cost_pos
  omega

def journal (machine : Machine β) (pc : UInt16) (budget : Int) : List Event :=
  (machine.stations pc budget).flatMap fun (station, place) => station.stepEvents place

section Journal

variable {budget : Int}

theorem stations_of_nonpos (machine : Machine β) (pc : UInt16) (spent : budget ≤ 0) :
    machine.stations pc budget = [] := by
  rw [stations, if_neg (by omega)]

theorem stations_of_step_ok (positive : 0 < budget)
    (step : machine.step pc = (.ok stepped, after)) :
    machine.stations pc budget =
      (machine, pc) :: after.stations stepped.next (budget - stepped.cost) := by
  rw [stations, if_pos positive, step]

theorem stations_of_step_error (positive : 0 < budget)
    (step : machine.step pc = (.error fault, stopped)) :
    machine.stations pc budget = [(machine, pc)] := by
  rw [stations, if_pos positive, step]

theorem journal_of_nonpos (machine : Machine β) (pc : UInt16) (spent : budget ≤ 0) :
    machine.journal pc budget = [] := by
  rw [journal, stations_of_nonpos machine pc spent, List.flatMap_nil]

theorem journal_of_step_ok (positive : 0 < budget) (step : machine.step pc = (.ok stepped, after)) :
    machine.journal pc budget =
      machine.stepEvents pc ++ after.journal stepped.next (budget - stepped.cost) := by
  rw [journal, stations_of_step_ok positive step, List.flatMap_cons, ← journal]

theorem journal_of_step_error (positive : 0 < budget)
    (step : machine.step pc = (.error fault, stopped)) :
    machine.journal pc budget = [(Fetched.ofBus machine.bus pc).event pc, .refused fault] := by
  rw [journal, stations_of_step_error positive step, List.flatMap_singleton]
  exact (stepEvents_of_step_error step).1

theorem log_run (machine : Machine β) (pc : UInt16) (budget : Int) :
    (machine.run pc budget).2.log = machine.log.recordAll (machine.journal pc budget) := by
  induction machine, pc, budget using run_induction with
  | spent machine pc budget spent =>
    rw [run_of_nonpos _ _ spent, journal_of_nonpos _ _ spent]
    rfl
  | stepped machine pc budget positive ih =>
    have logged := machine.log_step pc
    rw [run_of_pos _ _ positive]
    match step : machine.step pc with
    | (.ok stepped, after) =>
      rw [step] at logged
      rw [journal_of_step_ok positive step, Log.recordAll_append, ← logged]
      exact ih stepped after step
    | (.error fault, stopped) =>
      obtain ⟨events, logged⟩ := stepEvents_of_step_error step
      rw [journal_of_step_error positive step, ← events]
      exact logged

theorem text_journal (machine : Machine β) (pc : UInt16) (budget : Int) :
    (machine.journal pc budget).map Event.text =
      (machine.stations pc budget).flatMap fun (station, place) => station.stepLines place := by
  simp only [journal, List.map_flatMap, text_stepEvents]

theorem journal_opening (machine : Machine β) (pc : UInt16) (budget : Int) :
    ∀ event ∈ (machine.journal pc budget).head?, ∃ fetched : Fetched, event = fetched.event pc := by
  induction machine, pc, budget using run_induction with
  | spent machine pc budget spent => simp [journal_of_nonpos _ _ spent]
  | stepped machine pc budget positive ih =>
    match step : machine.step pc with
    | (.error fault, stopped) =>
      rw [journal_of_step_error positive step]
      intro event first
      cases first
      exact ⟨_, rfl⟩
    | (.ok stepped, after) =>
      rw [journal_of_step_ok positive step]
      cases running : machine.cpu.halted with
      | false =>
        obtain ⟨_, _, events, _⟩ := stepEvents_of_step_ok running step
        rw [events]
        intro event first
        cases first
        exact ⟨_, rfl⟩
      | true =>
        have later := ih stepped after step
        have same : stepped.next = pc := by
          rw [step_of_halted machine pc running] at step
          cases step
          rfl
        rwa [stepEvents_of_halted running, List.nil_append, ← same]

theorem isChain_journal (machine : Machine β) (pc : UInt16) (budget : Int) :
    (machine.journal pc budget).IsChain Event.LeadsTo := by
  induction machine, pc, budget using run_induction with
  | spent machine pc budget spent => simp [journal_of_nonpos _ _ spent]
  | stepped machine pc budget positive ih =>
    match step : machine.step pc with
    | (.error fault, stopped) =>
      rw [journal_of_step_error positive step]
      exact List.isChain_pair.mpr trivial
    | (.ok stepped, after) =>
      have later := ih stepped after step
      rw [journal_of_step_ok positive step]
      cases running : machine.cpu.halted with
      | true => rwa [stepEvents_of_halted running, List.nil_append]
      | false =>
        obtain ⟨entry, _, events, arrives, _⟩ := stepEvents_of_step_ok running step
        rw [events, List.isChain_append, Fetched.getLast?_account]
        refine ⟨Fetched.isChain_account .., later, ?_⟩
        intro last shown first opens
        obtain ⟨fetched, rfl⟩ := after.journal_opening stepped.next _ first opens
        cases shown
        exact arrives.symm

theorem countP_journal (machine : Machine β) (pc : UInt16) (budget : Int) :
    (machine.journal pc budget).countP Event.showsState =
      (machine.stations pc budget).countP fun (station, place) => station.executes place := by
  rw [journal]
  induction machine.stations pc budget with
  | nil => rfl
  | cons first rest ih =>
    obtain ⟨station, place⟩ := first
    rw [List.flatMap_cons, List.countP_append, ih, countP_stepEvents, List.countP_cons,
      Nat.add_comm]

theorem run_error_iff (machine : Machine β) (pc : UInt16) (budget : Int) (fault : Fault) :
    (machine.run pc budget).1 = .error fault ↔
      (machine.journal pc budget).getLast? = some (.refused fault) := by
  induction machine, pc, budget using run_induction with
  | spent machine pc budget spent =>
    simp [run_of_nonpos _ _ spent, journal_of_nonpos _ _ spent]
  | stepped machine pc budget positive ih =>
    rw [run_of_pos _ _ positive]
    match step : machine.step pc with
    | (.error other, stopped) => simp [journal_of_step_error positive step]
    | (.ok stepped, after) =>
      have later := ih stepped after step
      have made := not_refused_of_step_ok step fault
      rw [journal_of_step_ok positive step, List.getLast?_append]
      cases last : (after.journal stepped.next (budget - stepped.cost)).getLast? with
      | none => simpa [last, made] using later
      | some event => simpa [last] using later

end Journal

/-- A run that leaves nothing out of its log adds to it, line by line, what its steps have to say.
Where a line shows a state, the next one is about the opcode at the address shown; there is such a
line for each instruction executed; and a fault stands at the end, if and only if the run fails. -/
theorem journal_faithful {machine : Machine β}
    (keeps : ∀ event, machine.log.filter.keeps event = true) (pc : UInt16) (budget : Int) :
    let ran := machine.run pc budget
    let stations := machine.stations pc budget
    ∃ journal : List Event,
      ran.2.log.events.toList = machine.log.events.toList ++ journal ∧
      journal.map Event.text =
        (stations.flatMap fun (station, place) => station.stepLines place) ∧
      journal.IsChain Event.LeadsTo ∧
      journal.countP Event.showsState =
        (stations.countP fun (station, place) => station.executes place) ∧
      ∀ fault, ran.1 = .error fault ↔ journal.getLast? = some (.refused fault) := by
  intro ran stations
  refine ⟨machine.journal pc budget, ?_, machine.text_journal pc budget,
    machine.isChain_journal pc budget, machine.countP_journal pc budget,
    machine.run_error_iff pc budget⟩
  have kept : (machine.journal pc budget).filter machine.log.filter.keeps =
      machine.journal pc budget := List.filter_eq_self.mpr fun event _ => keeps event
  rw [machine.log_run pc budget, Log.toList_events_recordAll, kept]

-- The accumulator's halves change places, and then comes an opcode that nothing stands for.
def faltering : Machine Memory where
  cpu := { a := 0x12, sp := 0xfffe }
  bus := ((Memory.zero.write 0x0100 0xcb).write 0x0101 0x37).write 0x0102 0xd3
  log := { filter := .everything }

def swapped : Cpu where
  a := 0x21
  sp := 0xfffe
  pc := 0x0102

theorem step_faltering : ∃ log, faltering.step 0x0100 =
    (.ok ⟨swapped, 0x0102, 2, by decide⟩, ⟨swapped, faltering.bus, log⟩) := by
  have known : decodeExtended 0x37 = ⟨.shift .swap (.register .a), 2, 2, 0, by decide⟩ := rfl
  simp [faltering, step, Cpu.step, fetchEntry, Cpu.executeEntry, Microcode.perform,
    Microcode.readByte, Microcode.log, Bus.read, Memory.read_write, known, Instruction.execute,
    Executed.proceed, Entry.cost]
  exact ⟨_, rfl⟩

theorem journal_faithful_faltering :
    let fault := Fault.unknownOpcode 0xd3 0x0102 false
    (∀ event, faltering.log.filter.keeps event = true) ∧
      ∃ journal : List Event,
        (faltering.run 0x0100 10).2.log.events.toList = journal ∧
        journal.map Event.text =
          ["TRACE CB opcode 0x37 at pc 0x0100",
            "TRACE SWAP AF: 0x2100 BC: 0x0000 DE: 0x0000 HL: 0x0000 SP: 0xfffe PC: 0x0102",
            "TRACE opcode 0xd3 at pc 0x0102", "WARN Unimplemented opcode 0xd3 at 0x0102"] ∧
        journal.IsChain Event.LeadsTo ∧ journal.countP Event.showsState = 1 ∧
        (faltering.run 0x0100 10).1 = .error fault ∧
        journal.getLast? = some (.refused fault) := by
  intro fault
  obtain ⟨log, first⟩ := step_faltering
  have keeps : ∀ event, faltering.log.filter.keeps event = true := fun _ => rfl
  have extended : Fetched.ofBus faltering.bus 0x0100 = ⟨0x37, true⟩ := by
    simp [Fetched.ofBus, faltering, Bus.read, Memory.read_write]
  have single : Fetched.ofBus faltering.bus 0x0102 = ⟨0xd3, false⟩ := by
    simp [Fetched.ofBus, faltering, Bus.read]
  let reached : Machine Memory := ⟨swapped, faltering.bus, log⟩
  have running : reached.cpu.halted = false := rfl
  have unknown : (Fetched.ofBus reached.bus 0x0102).decoded = none := by
    rw [single]
    rfl
  obtain ⟨bus, second⟩ := step_of_unknown running unknown
  have stations : faltering.stations 0x0100 10 = [(faltering, 0x0100), (reached, 0x0102)] := by
    rw [stations_of_step_ok (by decide) first, stations_of_step_error (by decide) second]
  have swaps : faltering.stepLines 0x0100 = ["TRACE CB opcode 0x37 at pc 0x0100",
      "TRACE SWAP AF: 0x2100 BC: 0x0000 DE: 0x0000 HL: 0x0000 SP: 0xfffe PC: 0x0102"] := by
    rw [stepLines, extended, first]
    change (Fetched.mk 0x37 true).line 0x0100 :: ((Fetched.mk 0x37 true).haltingLines 0x0100 ++
      [swapped.line (Fetched.mk 0x37 true).mnemonic 0x0102]) = _
    decide
  have fails : reached.stepLines 0x0102 =
      ["TRACE opcode 0xd3 at pc 0x0102", "WARN Unimplemented opcode 0xd3 at 0x0102"] := by
    rw [stepLines, second, single]
    change [(Fetched.mk 0xd3 false).line 0x0102, "WARN " ++ fault.message] = _
    decide
  have executes : faltering.executes 0x0100 = true ∧ reached.executes 0x0102 = false := by
    rw [executes, first, executes, second]
    exact ⟨rfl, rfl⟩
  have failed : (faltering.run 0x0100 10).1 = .error fault := by
    rw [run_of_pos faltering 0x0100 (by decide), first]
    change (reached.run 0x0102 8).1 = _
    rw [run_of_pos reached 0x0102 (by decide), second, single]
  obtain ⟨journal, events, texts, chain, count, ending⟩ := journal_faithful keeps 0x0100 10
  rw [stations] at texts count
  refine ⟨keeps, journal, events, ?_, chain, ?_, failed, (ending fault).mp failed⟩
  next => simpa [swaps, fails] using texts
  next => simpa [executes] using count

end Machine

end Sm83
