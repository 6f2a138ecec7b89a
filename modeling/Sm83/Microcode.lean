import Sm83.Bus
import Sm83.Log

set_option autoImplicit false

namespace Sm83

inductive Microcode (α : Type) where
  | done (value : α)
  | fail (fault : Fault)
  | read (address : UInt16) (next : UInt8 → Microcode α)
  | write (address : UInt16) (value : UInt8) (next : Unit → Microcode α)
  | note (event : Event) (next : Unit → Microcode α)

namespace Microcode

variable {α γ δ : Type}

def bind : Microcode α → (α → Microcode γ) → Microcode γ
  | done value, f => f value
  | fail fault, _ => fail fault
  | read address next, f => read address fun value => (next value).bind f
  | write address value next, f => write address value fun u => (next u).bind f
  | note event next, f => note event fun u => (next u).bind f

instance : Monad Microcode where
  pure := done
  bind := bind

@[simp] theorem pure_eq (value : α) : (pure value : Microcode α) = done value := rfl

@[simp] theorem bind_eq (code : Microcode α) (f : α → Microcode γ) : code >>= f = code.bind f := rfl

@[simp] theorem done_bind (value : α) (f : α → Microcode γ) : (done value).bind f = f value := rfl

@[simp] theorem fail_bind (fault : Fault) (f : α → Microcode γ) :
    (fail fault).bind f = fail fault := rfl

@[simp] theorem read_bind (address : UInt16) (next : UInt8 → Microcode α)
    (f : α → Microcode γ) :
    (read address next).bind f = read address fun value => (next value).bind f := rfl

@[simp] theorem write_bind (address : UInt16) (value : UInt8) (next : Unit → Microcode α)
    (f : α → Microcode γ) :
    (write address value next).bind f = write address value fun u => (next u).bind f := rfl

@[simp] theorem note_bind (event : Event) (next : Unit → Microcode α) (f : α → Microcode γ) :
    (note event next).bind f = note event fun u => (next u).bind f := rfl

theorem bind_done (code : Microcode α) : code.bind done = code := by
  induction code with
  | done | fail => rfl
  | read _ _ ih | write _ _ _ ih | note _ _ ih => simp [ih]

theorem bind_assoc (code : Microcode α) (f : α → Microcode γ) (g : γ → Microcode δ) :
    (code.bind f).bind g = code.bind fun value => (f value).bind g := by
  induction code with
  | done | fail => rfl
  | read _ _ ih | write _ _ _ ih | note _ _ ih => simp [ih]

instance : LawfulMonad Microcode :=
  LawfulMonad.mk' Microcode bind_done (fun _ _ => rfl) bind_assoc

def readByte (address : UInt16) : Microcode UInt8 :=
  read address done

def writeByte (address : UInt16) (value : UInt8) : Microcode Unit :=
  write address value done

def log (event : Event) : Microcode Unit :=
  note event done

def readWord (address : UInt16) : Microcode UInt16 := do
  let low ← readByte address
  let high ← readByte (address + 1)
  return word high low

def writeWord (address value : UInt16) : Microcode Unit := do
  writeByte address (lowByte value)
  writeByte (address + 1) (highByte value)

def writeBytes : UInt16 → List UInt8 → Microcode Unit
  | _, [] => done ()
  | address, value :: rest => write address value fun _ => writeBytes (address + 1) rest

structure Performed (α β : Type) where
  result : Except Fault α
  bus : β
  log : Log

def perform {β : Type} [Bus β] : Microcode α → β → Log → Performed α β
  | done value, bus, log => ⟨.ok value, bus, log⟩
  | fail fault, bus, log => ⟨.error fault, bus, log⟩
  | read address next, bus, log =>
    let (value, bus) := Bus.read bus address
    (next value).perform bus log
  | write address value next, bus, log => (next ()).perform (Bus.write bus address value) log
  | note event next, bus, log => (next ()).perform bus (log.record event)

theorem perform_bind {β : Type} [Bus β] (code : Microcode α) (f : α → Microcode γ)
    (bus : β) (log : Log) :
    (code.bind f).perform bus log =
      let first := code.perform bus log
      match first.result with
      | .ok value => (f value).perform first.bus first.log
      | .error fault => ⟨.error fault, first.bus, first.log⟩ := by
  induction code generalizing bus log with
  | done | fail => rfl
  | read _ _ ih | write _ _ _ ih | note _ _ ih => simp [perform, ih]

end Microcode

end Sm83
