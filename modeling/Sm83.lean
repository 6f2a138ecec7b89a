import Sm83.Main
import Sm83.Machine.Command
import Sm83.Proofs.Accesses
import Sm83.Proofs.Footprint.Instruction
import Sm83.Proofs.OpcodeTable
import Sm83.Proofs.StepFootprint
import Sm83.Proofs.Walk
import Sm83.Proofs.Budget
import Sm83.Proofs.Recording
import Sm83.Proofs.BusDiscipline
import Sm83.Proofs.Splitting
import Sm83.Proofs.Faults
import Sm83.Proofs.Locality
import Sm83.Proofs.Transparency
import Sm83.Proofs.FlatMemory
import Sm83.Proofs.Stack
import Sm83.Proofs.Flags
import Sm83.Proofs.FlagChanges
import Sm83.Proofs.MultiByte
import Sm83.Proofs.Confinement
import Sm83.Proofs.Status
import Sm83.Proofs.ProgramCounter
import Sm83.Proofs.Control
import Sm83.Proofs.Interrupts
import Sm83.Proofs.Transmission
import Sm83.Proofs.Slices
import Sm83.Proofs.Loading
import Sm83.Proofs.Execution
import Sm83.Proofs.Outcome
import Sm83.Proofs.Snapshots
import Sm83.Proofs.ArithmeticBlock
import Sm83.Proofs.Loads
import Sm83.Proofs.Branches
import Sm83.Proofs.InPlace
import Sm83.Proofs.ImmediateWrites
import Sm83.Proofs.Images
import Sm83.Proofs.MultiByteShifts
import Sm83.Proofs.Rotations
import Sm83.Proofs.WordSums
import Sm83.Proofs.LastGiven
import Sm83.Proofs.BitAssignments
import Sm83.Proofs.Reports
import Sm83.Proofs.Journal
import Sm83.Proofs.Addresses
import Sm83.Proofs.Adder
import Sm83.Proofs.Diagnostics
import Sm83.Proofs.RegisterWrites
import Sm83.Proofs.Counting
import Sm83.Proofs.RelativeJumps
