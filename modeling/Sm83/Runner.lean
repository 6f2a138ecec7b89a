import Sm83.Machine
import Sm83.CommandLine
import Sm83.Failure

set_option autoImplicit false

namespace Sm83

structure Report where
  output : List UInt8
  failure : Option Failure
  log : Log

def Report.exitCode (report : Report) : UInt32 :=
  match report.failure with
  | none => 0
  | some (.message _) => 1
  | some (.fault fault) => if fault.panics then 101 else 1

namespace Runner

def snapshot (machine : Machine SerialLink) : Snapshot :=
  machine.cpu.snapshot (machine.bus.memory.read machine.cpu.pc)

def note (machine : Machine SerialLink) (event : Event) : Machine SerialLink :=
  let ⟨cpu, bus, log⟩ := machine
  ⟨cpu, bus, log.record event⟩

-- Notes by how much a slice has overrun. That is worked out only if the log admits it.
def noteSlice (overflow : Overflow) (machine : Machine SerialLink) (index : Nat) (cycles : Int) :
    Except Fault (Machine SerialLink) :=
  if machine.log.filter.admits .debug then
    (overflow.keep .negateOverflow (-cycles)).map fun overrun =>
      note machine (.sliceDone index overrun (snapshot machine))
  else .ok machine

def runSlices (overflow : Overflow) (budget : Int) : Nat → Nat → Machine SerialLink → UInt16 →
    Except Fault UInt16 × Machine SerialLink
  | 0, _, machine, pc => (.ok pc, machine)
  | remaining + 1, index, machine, pc =>
    match machine.run pc budget with
    | (.ok progress, machine) =>
      match noteSlice overflow machine index progress.cycles with
      | .ok machine => runSlices overflow budget remaining (index + 1) machine progress.pc
      | .error fault => (.error fault, machine)
    | (.error fault, machine) =>
      let machine := note machine (.stopped fault)
      (.error fault, note machine (.stoppedAt (snapshot machine)))

def start (options : Options) (filter : Filter) : Machine SerialLink where
  cpu := if options.postBoot then .booted else {}
  bus := {}
  log := { filter }

def execute (overflow : Overflow) (options : Options) (image : List UInt8) (filter : Filter) :
    Except Fault UInt16 × Machine SerialLink :=
  match (start options filter).load options.loadAddress image with
  | (.error fault, machine) => (.error fault, machine)
  | (.ok (), machine) =>
    runSlices overflow options.cycles options.slices 0 machine
      (options.entry.getD options.loadAddress)

def report (result : Except Fault UInt16) (machine : Machine SerialLink) : Report :=
  let sent := machine.bus.sent.toList
  match result with
  | .error fault => { output := sent, failure := some (.fault fault), log := machine.log }
  | .ok _ => {
      output := sent ++ ("\n" ++ (snapshot machine).text ++ "\n").toUTF8.toList
      failure := none
      log := machine.log.record (.serialTotal machine.bus.sent.size) }

def run (overflow : Overflow) (options : Options) (image : Except String (List UInt8))
    (filter : Filter) : Report :=
  match image with
  | .error reason =>
    { output := [], failure := some (.unreadable options.program reason), log := { filter } }
  | .ok image =>
    let (result, machine) := execute overflow options image filter
    report result machine

end Runner

end Sm83
