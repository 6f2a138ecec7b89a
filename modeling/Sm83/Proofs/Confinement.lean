import Sm83.Execute

set_option autoImplicit false

namespace Sm83

open Microcode

structure Cpu.Confined (shown : WordRegister) (change : Cpu → Cpu) : Prop where
  getByte (cpu : Cpu) (r : ByteRegister) : (change cpu).getByte r = cpu.getByte r
  setByte (cpu : Cpu) (r : ByteRegister) (value : UInt8) :
    (change cpu).setByte r value = change (cpu.setByte r value)
  getWord {r : WordRegister} (other : r ≠ shown) (cpu : Cpu) :
    (change cpu).getWord r = cpu.getWord r
  setWord {r : WordRegister} (other : r ≠ shown) (cpu : Cpu) (value : UInt16) :
    (change cpu).setWord r value = change (cpu.setWord r value)

variable {shown : WordRegister} {change : Cpu → Cpu}

theorem Cpu.Confined.stepWord (confined : Confined shown change) {r : WordRegister}
    (other : r ≠ shown) (cpu : Cpu) (direction : Direction) :
    (change cpu).stepWord direction r = change (cpu.stepWord direction r) := by
  rw [stepWord_eq, stepWord_eq, confined.getWord other, confined.setWord other]

namespace Place

theorem fetch_confined (confined : Cpu.Confined shown change) (cpu : Cpu) (place : Place) :
    place.fetch (change cpu) = place.fetch cpu := by
  cases place with
  | register r => rw [fetch, fetch, confined.getByte]
  | memory | instruction => rfl

theorem store_confined (confined : Cpu.Confined shown change) (cpu : Cpu) (value : UInt8)
    (place : Place) :
    place.store (change cpu) value =
      (place.store cpu value).bind fun cpu => done (change cpu) := by
  cases place with
  | register r => rw [store, store, confined.setByte]; rfl
  | memory | instruction => rfl

end Place

namespace ByteOperand

variable {operand : ByteOperand}

theorem place_confined (confined : Cpu.Confined shown change) (other : operand ≠ .indirect shown)
    (cpu : Cpu) (pc : UInt16) : operand.place (change cpu) pc = operand.place cpu pc := by
  cases operand with
  | indirect r =>
    have other : r ≠ shown := fun same => other (congrArg indirect same)
    rw [place, place, confined.getWord other]
  | highPage r => rw [place, place, confined.getByte]
  | immediate | absolute | register | highPageImmediate => rfl

theorem fetch_confined (confined : Cpu.Confined shown change) (other : operand ≠ .indirect shown)
    (cpu : Cpu) (pc : UInt16) : operand.fetch (change cpu) pc = operand.fetch cpu pc := by
  simp only [fetch, place_confined confined other, Place.fetch_confined confined]

theorem store_confined (confined : Cpu.Confined shown change) (other : operand ≠ .indirect shown)
    (cpu : Cpu) (pc : UInt16) (value : UInt8) :
    operand.store (change cpu) pc value =
      (operand.store cpu pc value).bind fun cpu => done (change cpu) := by
  simp only [store, place_confined confined other, Place.store_confined confined, bind_eq,
    bind_assoc]

end ByteOperand

namespace WordOperand

variable {operand : WordOperand}

theorem fetch_confined (confined : Cpu.Confined shown change) (other : operand ≠ .register shown)
    (cpu : Cpu) (pc : UInt16) : operand.fetch (change cpu) pc = operand.fetch cpu pc := by
  cases operand with
  | register r =>
    have other : r ≠ shown := fun same => other (congrArg register same)
    rw [fetch, fetch, confined.getWord other]
  | immediate | absolute => rfl

theorem store_confined (confined : Cpu.Confined shown change) (other : operand ≠ .register shown)
    (cpu : Cpu) (pc value : UInt16) :
    operand.store (change cpu) pc value =
      (operand.store cpu pc value).bind fun cpu => done (change cpu) := by
  cases operand with
  | register r =>
    have other : r ≠ shown := fun same => other (congrArg register same)
    rw [store, store, confined.setWord other]
    rfl
  | immediate | absolute => rfl

end WordOperand

theorem Executed.branch_change (change : Cpu → Cpu) {cpu : Cpu} {condition : Option Condition}
    (holds : ∀ c ∈ condition, (change cpu).flags.holds c = cpu.flags.holds c) (next : UInt16)
    {transfer moved : Microcode Executed}
    (moves : moved = transfer.bind fun executed =>
      done { executed with cpu := change executed.cpu }) :
    branch (change cpu) next condition moved =
      (branch cpu next condition transfer).bind fun executed =>
        done { executed with cpu := change executed.cpu } := by
  subst moves
  cases condition with
  | none => rfl
  | some condition =>
    simp only [branch, holds condition rfl]
    split
    next => simp only [bind_eq, bind_assoc]; rfl
    next => rfl

end Sm83
