import ChipEight.Interpreter.Client
import ChipEight.Proofs.Cycle

set_option autoImplicit false

namespace ChipEight

/-- What always holds of a machine, apart from what its type says already: the sizes of its parts,
and that registers, memory and keys hold bytes and flags. -/
structure Machine.Invariant (machine : Machine) : Prop where
  pc : 0 ≤ machine.pc ∧ machine.pc ≤ 0x1002
  index : 0 ≤ machine.index ∧ machine.index ≤ 0xFFFF
  delay : 0 ≤ machine.delay ∧ machine.delay ≤ 254
  sound : 0 ≤ machine.sound ∧ machine.sound ≤ 254
  used : machine.stack.used ≤ 24
  stack : machine.stack.Tidy
  display : machine.display.Monochrome
  fault : machine.fault ≠ none → machine.state = .stopped

namespace Machine

theorem powerOn_invariant (legacy : Bool) (memory : Memory) (keypad : Keypad)
    (random : RandomSource) : (powerOn legacy memory keypad random).Invariant where
  pc := by simp only [powerOn]; decide
  index := by simp only [powerOn]; decide
  delay := by simp only [powerOn]; decide
  sound := by simp only [powerOn]; decide
  used := Nat.zero_le 24
  stack := CallStack.empty_tidy
  display := Display.blank_monochrome
  fault := fun faulty => absurd rfl faulty

theorem tick_bounds {timer : Int} (byte : 0 ≤ timer ∧ timer ≤ 255) :
    0 ≤ tick timer ∧ tick timer ≤ 254 := by
  simp only [tick]
  split <;> omega

theorem register_bounds (machine : Machine) (x : Fin 16) :
    0 ≤ ((machine.register x).toNat : Int) ∧ ((machine.register x).toNat : Int) ≤ 255 := by
  have small := (machine.register x).toNat_lt
  omega

theorem loadProgram_frame {machine after : Machine} {program : Array UInt8} {length : Nat}
    (loaded : machine.loadProgram program = .ok (length, after)) :
    ∃ memory, machine.memory.loadProgram program = .ok (length, memory) ∧
      after = { machine with memory := memory } := by
  unfold loadProgram at loaded
  cases copied : machine.memory.loadProgram program with
  | error fault =>
    rw [copied] at loaded
    cases loaded
  | ok result =>
    rw [copied] at loaded
    cases loaded
    exact ⟨_, rfl, rfl⟩

namespace Invariant

variable {machine after : Machine}

theorem ready (invariant : machine.Invariant) : machine.ready.Invariant :=
  { invariant with }

theorem loadProgram {program : Array UInt8} {length : Nat} (invariant : machine.Invariant)
    (loaded : machine.loadProgram program = .ok (length, after)) : after.Invariant := by
  obtain ⟨memory, _, rfl⟩ := loadProgram_frame loaded
  exact { invariant with }

theorem halted (invariant : machine.Invariant) (fault : Fault) :
    (machine.halted fault).machine.Invariant :=
  { invariant with fault := fun _ => rfl }

theorem breaks {instruction : Instruction} {fault : Fault} (invariant : machine.Invariant)
    (breaks : Breaks machine instruction fault after) : after.Invariant := by
  cases breaks with
  | bounds => exact invariant
  | delay => exact invariant
  | draw x y height _ painted =>
    have monochrome := painted.monochrome invariant.display
    obtain ⟨_, _, rfl⟩ := painted.frame
    exact { invariant with display := monochrome }

theorem completes {instruction : Instruction} (invariant : machine.Invariant)
    (inside : 0 ≤ machine.pc ∧ machine.pc ≤ 0xFFE)
    (completes : Completes machine instruction after) : after.tickTimers.Invariant := by
  have delay : 0 ≤ tick machine.delay ∧ tick machine.delay ≤ 254 :=
    tick_bounds (by have := invariant.delay; omega)
  have sound : 0 ≤ tick machine.sound ∧ tick machine.sound ≤ 254 :=
    tick_bounds (by have := invariant.sound; omega)
  have next : 0 ≤ machine.pc + 2 ∧ machine.pc + 2 ≤ 0x1002 := by omega
  -- What no instruction touches but the last cases is settled here for all of them.
  have ticked : machine.tickTimers.Invariant :=
    { invariant with delay := delay, sound := sound }
  cases completes with
  | compute => exact { ticked with pc := next }
  | skip condition =>
    have skipped : 0 ≤ (machine.pc + if condition then 4 else 2) ∧
        (machine.pc + if condition then 4 else 2) ≤ 0x1002 := by
      split <;> omega
    exact { ticked with pc := skipped }
  | jump target => exact { ticked with pc := by dsimp only [tickTimers]; omega }
  | @call target stack pushed =>
    exact { ticked with
      pc := by dsimp only [tickTimers]; omega
      used := stack.used_le
      stack := invariant.stack.push inside pushed }
  -- The popped address is a call site, where a word was fetched once.
  | @ret _ stack popped =>
    obtain ⟨address, tidy⟩ := invariant.stack.pop popped
    exact { ticked with
      pc := by dsimp only [tickTimers]; omega
      used := stack.used_le
      stack := tidy }
  | point index bounds => exact { ticked with pc := next, index := bounds }
  -- A timer may be set to 255, but the tick that follows brings it below.
  | setDelay x => exact { ticked with pc := next, delay := tick_bounds (machine.register_bounds x) }
  | setSound x => exact { ticked with pc := next, sound := tick_bounds (machine.register_bounds x) }
  | clearScreen => exact { ticked with pc := next, display := Display.blank_monochrome }
  | draw x y height drawn painted =>
    have monochrome := painted.monochrome invariant.display
    obtain ⟨_, _, rfl⟩ := painted.frame
    exact { ticked with pc := next, display := monochrome }
  | storeDigits => exact { ticked with pc := next }
  | loadRegisters x registers bounds =>
    exact { ticked with
      pc := next
      index := by dsimp only [tickTimers]; omega }

theorem cycle (invariant : machine.Invariant) (tracing : Bool) :
    (machine.cycle tracing).machine.Invariant ∧ ∃ ok, (machine.cycle tracing).result = .ok ok := by
  have course := machine.cycle_course tracing
  generalize machine.cycle tracing = cycled at course
  cases course with
  | completed _ fetched written decoded permitted complete =>
    have inside := (Memory.readWord_ok _ fetched).1
    exact ⟨invariant.ready.completes inside complete, true, rfl⟩
  | outside => exact ⟨invariant.ready.halted _, false, rfl⟩
  | unknown => exact ⟨invariant.ready.halted _, false, rfl⟩
  | broken _ _ _ _ _ breaks => exact ⟨(invariant.ready.breaks breaks).halted _, false, rfl⟩
  | escaped _ _ _ outside =>
    have delay := invariant.delay
    omega

end Invariant

end Machine

inductive Request where
  | load (program : Array UInt8)
  | key (index : Int) (down : Bool)
  | reset
  | cycle (tracing : Bool)
  | watch
  | watchHalt
  | step
  | start
  | stop
  | join
  | act

namespace Interpreter

-- A request that fails changes nothing, nor does one that has to wait for the worker.
def perform (interpreter : Interpreter) : Request → Interpreter
  | .load program =>
    match interpreter.machine.loadProgram program with
    | .ok (_, machine) => { interpreter with machine := machine }
    | .error _ => interpreter
  | .key index down =>
    match interpreter.machine.keypad.write index down with
    | .ok keypad => { interpreter with machine := { interpreter.machine with keypad := keypad } }
    | .error _ => interpreter
  | .reset => { interpreter with machine := interpreter.machine.reset }
  | .cycle tracing => { interpreter with machine := (interpreter.machine.cycle tracing).machine }
  | .watch => interpreter.addRenderListener
  | .watchHalt => interpreter.addHaltListener
  | .step => interpreter.step.interpreter
  | .start => interpreter.start?.getD interpreter
  | .stop => interpreter.stop
  | .join => interpreter.join?.getD interpreter
  | .act => interpreter.act.1

def performAll (interpreter : Interpreter) (requests : List Request) : Interpreter :=
  requests.foldl perform interpreter

theorem performAll_cons (interpreter : Interpreter) (request : Request) (rest : List Request) :
    interpreter.performAll (request :: rest) = (interpreter.perform request).performAll rest :=
  rfl

theorem performAll_append (interpreter : Interpreter) (first second : List Request) :
    interpreter.performAll (first ++ second) =
      (interpreter.performAll first).performAll second :=
  List.foldl_append

theorem perform_load (interpreter : Interpreter) (program : Array UInt8) :
    ∃ memory, interpreter.perform (.load program) =
      { interpreter with machine := { interpreter.machine with memory := memory } } := by
  simp only [perform]
  split
  next loaded =>
    obtain ⟨memory, _, rfl⟩ := Machine.loadProgram_frame loaded
    exact ⟨memory, rfl⟩
  next => exact ⟨interpreter.machine.memory, rfl⟩

theorem step_machine (interpreter : Interpreter) :
    interpreter.step.interpreter.machine =
      (interpreter.machine.cycle interpreter.tracing).machine := by
  simp only [step]
  split <;> rfl

theorem act_machine (interpreter : Interpreter) :
    interpreter.act.1.machine = interpreter.machine ∨
      interpreter.act.1.machine = { interpreter.machine with state := .stopped } ∨
      interpreter.act.1.machine =
        (interpreter.machine.cycle interpreter.tracing).machine := by
  simp only [act]
  split
  next => exact .inl rfl
  next => exact .inl rfl
  next =>
    refine .inr (.inr ?_)
    rw [← step_machine]
    split <;> rfl
  next => exact .inl rfl
  next => exact .inr (.inl rfl)
  next => exact .inl rfl

theorem perform_invariant {interpreter : Interpreter}
    (invariant : interpreter.machine.Invariant) (request : Request) :
    (interpreter.perform request).machine.Invariant := by
  cases request with
  | load program =>
    simp only [perform]
    split
    next loaded => exact invariant.loadProgram loaded
    next => exact invariant
  | key index down =>
    simp only [perform]
    split
    next => exact { invariant with }
    next => exact invariant
  | reset => exact Machine.powerOn_invariant _ _ _ _
  | cycle tracing => exact (invariant.cycle tracing).1
  | watch => exact invariant
  | watchHalt => exact invariant
  | step =>
    rw [perform, step_machine]
    exact (invariant.cycle _).1
  | start =>
    simp only [perform, start?]
    split
    next => split <;> exact invariant
    next => exact { invariant with fault := fun faulty => absurd rfl faulty }
  | stop => exact invariant
  | join =>
    simp only [perform, join?]
    split <;> exact invariant
  | act =>
    rcases interpreter.act_machine with same | stopped | cycled
    · rw [perform, same]
      exact invariant
    · rw [perform, stopped]
      exact { invariant with fault := fun _ => rfl }
    · rw [perform, cycled]
      exact (invariant.cycle _).1

theorem performAll_invariant {interpreter : Interpreter}
    (invariant : interpreter.machine.Invariant) (requests : List Request) :
    (interpreter.performAll requests).machine.Invariant := by
  induction requests generalizing interpreter with
  | nil => exact invariant
  | cons request rest ih => exact ih (perform_invariant invariant request)

theorem new_invariant (legacy : Bool) (random : RandomSource) (scale : Int) (tracing : Bool) :
    (new (Machine.new legacy random) scale tracing).machine.Invariant :=
  Machine.powerOn_invariant _ _ _ _

/-- However a new machine has been used, its invariant holds, and no fault escapes from a cycle. -/
theorem reachable_invariant (legacy : Bool) (random : RandomSource) (scale : Int) (tracing : Bool)
    (requests : List Request) :
    let machine :=
      ((new (Machine.new legacy random) scale tracing).performAll requests).machine
    machine.Invariant ∧ ∀ tracing, ∃ ok, (machine.cycle tracing).result = .ok ok := by
  have invariant := performAll_invariant (new_invariant legacy random scale tracing) requests
  exact ⟨invariant, fun tracing => (invariant.cycle tracing).2⟩

end Interpreter

end ChipEight
