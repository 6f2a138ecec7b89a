import Sm83.Microcode

set_option autoImplicit false

namespace Sm83

namespace Microcode

variable {α γ : Type}

def Ensures : Microcode α → (List Access → Except Fault α → Prop) → Prop
  | done value, post => post [] (.ok value)
  | fail fault, post => post [] (.error fault)
  | read address next, post =>
    ∀ value, (next value).Ensures fun rest => post (.read address value :: rest)
  | write address value next, post =>
    (next ()).Ensures fun rest => post (.write address value :: rest)
  | note _ next, post => (next ()).Ensures post

section Rules

variable {post : List Access → Except Fault α → Prop}

@[simp] theorem ensures_done (value : α) : (done value).Ensures post ↔ post [] (.ok value) := Iff.rfl

@[simp] theorem ensures_fail (fault : Fault) :
    (fail fault).Ensures post ↔ post [] (.error fault) := Iff.rfl

@[simp] theorem ensures_note (event : Event) (next : Unit → Microcode α) :
    (note event next).Ensures post ↔ (next ()).Ensures post := Iff.rfl

theorem Ensures.mono {code : Microcode α} {weaker : List Access → Except Fault α → Prop}
    (ensured : code.Ensures post)
    (weakens : ∀ accesses ending, post accesses ending → weaker accesses ending) :
    code.Ensures weaker := by
  induction code generalizing post weaker with
  | done | fail => exact weakens _ _ ensured
  | read address next ih =>
    intro value
    exact ih value (ensured value) fun rest => weakens (.read address value :: rest)
  | write address value next ih =>
    exact ih () ensured fun rest => weakens (.write address value :: rest)
  | note event next ih => exact ih () ensured weakens

theorem Ensures.bind {code : Microcode α} {f : α → Microcode γ}
    {final : List Access → Except Fault γ → Prop} (ensured : code.Ensures post)
    (follows : ∀ first value, post first (.ok value) →
      (f value).Ensures fun second => final (first ++ second))
    (fails : ∀ first fault, post first (.error fault) → final first (.error fault)) :
    (code.bind f).Ensures final := by
  induction code generalizing post final with
  | done value => exact follows [] value ensured
  | fail fault => exact fails [] fault ensured
  | read address next ih =>
    intro value
    exact ih value (ensured value) (fun first => follows (.read address value :: first))
      fun first => fails (.read address value :: first)
  | write address value next ih =>
    exact ih () ensured (fun first => follows (.write address value :: first))
      fun first => fails (.write address value :: first)
  | note event next ih => exact ih () ensured follows fails

theorem ensures_true (code : Microcode α) : code.Ensures fun _ _ => True := by
  induction code with
  | done | fail => trivial
  | read address next ih => exact fun value => ih value
  | write address value next ih | note event next ih => exact ih ()

theorem Ensures.bind_congr {code : Microcode α} {f g : α → Microcode γ}
    (ensured : code.Ensures fun _ ending => ∀ value, ending = .ok value → f value = g value) :
    code.bind f = code.bind g := by
  induction code with
  | done value => exact ensured value rfl
  | fail fault => rfl
  | read address next ih =>
    exact congrArg (read address) (funext fun value => ih value (ensured value))
  | write address value next ih =>
    exact congrArg (write address value) (funext fun u => ih u ensured)
  | note event next ih => exact congrArg (note event) (funext fun u => ih u ensured)

end Rules

section OnBus

variable {β : Type} [Bus β]

def trace : Microcode α → β → List Access
  | done _, _ => []
  | fail _, _ => []
  | read address next, bus =>
    let (value, bus) := Bus.read bus address
    .read address value :: (next value).trace bus
  | write address value next, bus =>
    .write address value :: (next ()).trace (Bus.write bus address value)
  | note _ next, bus => (next ()).trace bus

theorem Ensures.perform {code : Microcode α} {post : List Access → Except Fault α → Prop}
    (ensured : code.Ensures post) (bus : β) (log : Log) :
    post (code.trace bus) (code.perform bus log).result := by
  induction code generalizing post bus log with
  | done | fail => exact ensured
  | read address next ih => exact ih _ (ensured _) _ log
  | write address value next ih => exact ih () ensured _ log
  | note event next ih => exact ih () ensured bus _

theorem perform_recorder (code : Microcode α) (bus : β) (accesses : Array Access) (log : Log) :
    code.perform (Recorder.mk bus accesses) log =
      let plain := code.perform bus log
      ⟨plain.result, ⟨plain.bus, accesses ++ (code.trace bus).toArray⟩, plain.log⟩ := by
  induction code generalizing bus accesses log with
  | done | fail => simp [perform, trace]
  | read address next ih => simp [perform, trace, Bus.read, ih]
  | write address value next ih => simp [perform, trace, Bus.write, ih]
  | note event next ih => simp [perform, trace, ih]

end OnBus

end Microcode

namespace Memory

def replay : Memory → List Access → Memory
  | memory, [] => memory
  | memory, .read _ _ :: rest => memory.replay rest
  | memory, .write address value :: rest => (memory.write address value).replay rest

def Answers : Memory → List Access → Prop
  | _, [] => True
  | memory, .read address value :: rest => value = memory.read address ∧ memory.Answers rest
  | memory, .write address value :: rest => (memory.write address value).Answers rest

theorem replay_append (memory : Memory) (first second : List Access) :
    memory.replay (first ++ second) = (memory.replay first).replay second := by
  induction first generalizing memory with
  | nil => rfl
  | cons access rest ih => cases access <;> exact ih _

theorem answers_append (memory : Memory) (first second : List Access) :
    memory.Answers (first ++ second) ↔
      memory.Answers first ∧ (memory.replay first).Answers second := by
  induction first generalizing memory with
  | nil => simp [Answers, replay]
  | cons access rest ih => cases access <;> simp [Answers, replay, ih, and_assoc]

end Memory

namespace Microcode

variable {α : Type}

theorem perform_memory (code : Microcode α) (memory : Memory) (log : Log) :
    (code.perform memory log).bus = memory.replay (code.trace memory) := by
  induction code generalizing memory log with
  | done | fail => rfl
  | read address next ih => exact ih _ memory log
  | write address value next ih => exact ih () (memory.write address value) log
  | note event next ih => exact ih () memory _

theorem answers_trace (code : Microcode α) (memory : Memory) :
    memory.Answers (code.trace memory) := by
  induction code generalizing memory with
  | done | fail => trivial
  | read address next ih => exact ⟨rfl, ih _ memory⟩
  | write address value next ih => exact ih () (memory.write address value)
  | note event next ih => exact ih () memory

end Microcode

end Sm83
