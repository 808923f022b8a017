import ChipEight.Proofs.Halt
import ChipEight.Proofs.Loading

set_option autoImplicit false

namespace ChipEight

namespace Machine

variable {machine after : Machine}

def AtSprite (machine : Machine) : Prop :=
  ∃ word, machine.memory.readWord machine.pc = .ok word ∧ Operation.draw.pattern.Matches word

theorem touched_of_success {tracing : Bool} (success : (machine.cycle tracing).result = .ok true) :
    (machine.cycle tracing).machine.draw = true ∨
      (machine.cycle tracing).machine.draw = false ∧
        (machine.cycle tracing).machine.display = machine.display ∧ ¬ machine.AtSprite := by
  obtain ⟨word, operation, after, fetched, written, executed, same⟩ := executed_of_success success
  have kept := (completes_of_executed executed).kept rfl
  have touched := kept.draw
  have untouched := kept.display
  rw [Operation.operation_instruction] at touched untouched
  rw [same]
  by_cases touches : operation ∈ [.clearScreen, .draw]
  · exact .inl (touched.mpr touches)
  · refine .inr ⟨Bool.eq_false_iff.mpr (mt touched.mp touches), untouched touches, ?_⟩
    rintro ⟨word, refetched, sprite⟩
    cases fetched.symm.trans refetched
    cases Instruction.operation_unique (Memory.readWord_ok _ fetched).2 written sprite
    exact touches (by simp)

theorem display_of_halt {tracing : Bool} (gaveUp : (machine.cycle tracing).result = .ok false) :
    ((machine.cycle tracing).machine.AtSprite ↔ machine.AtSprite) ∧
      (machine.AtSprite ∨ (machine.cycle tracing).machine.display = machine.display) := by
  obtain ⟨fault, registers, display, residue, same⟩ := halt_residue gaveUp
  rw [same]
  -- Neither memory nor `pc` is part of what a failing cycle may leave behind.
  refine ⟨Iff.rfl, ?_⟩
  by_cases sprite : machine.AtSprite
  · exact .inl sprite
  · exact .inr (residue.untouched fun word fetched drawn => sprite ⟨word, fetched, drawn⟩).2

end Machine

def Event.shownTo (listener : Nat) : Event → Option (Array UInt8)
  | .rendered other _ frame => if other = listener then some frame.pixels else none
  | _ => none

def lastSeen (listener : Nat) (events : List Event) : Array UInt8 :=
  (events.filterMap (Event.shownTo listener)).getLast?.getD
    (Display.blank : Display 64 32).view

section LastSeen

variable {listener : Nat} {events more : List Event}

theorem lastSeen_append_shown {pixels : Array UInt8}
    (shown : more.filterMap (Event.shownTo listener) = [pixels]) :
    lastSeen listener (events ++ more) = pixels := by
  simp only [lastSeen, List.filterMap_append, shown, List.getLast?_concat, Option.getD_some]

theorem lastSeen_append_printed (lines : List Printed) :
    lastSeen listener (events ++ lines.map .printed) = lastSeen listener events := by
  have nothing : (lines.map Event.printed).filterMap (Event.shownTo listener) = [] := by
    rw [List.filterMap_map]
    exact List.filterMap_eq_nil_iff.mpr fun _ _ => rfl
  simp only [lastSeen, List.filterMap_append, nothing, List.append_nil]

theorem shownTo_range (count : Nat) (state : RunState) (frame : Frame) :
    ((List.range count).map fun other => Event.rendered other state frame).filterMap
      (Event.shownTo listener) = if listener < count then [frame.pixels] else [] := by
  induction count with
  | zero => rfl
  | succ count ih =>
    rw [List.range_succ, List.map_append, List.filterMap_append, ih]
    simp only [List.map_cons, List.map_nil, List.filterMap_cons, List.filterMap_nil, Event.shownTo]
    by_cases same : count = listener
    · simp [same]
    · have neighbours : listener < count + 1 ↔ listener < count := by omega
      simp [same, neighbours]

theorem shownTo_renderEvents {interpreter : Interpreter}
    (listening : listener < interpreter.renderListeners) :
    interpreter.renderEvents.filterMap (Event.shownTo listener) =
      [interpreter.machine.display.view] := by
  rw [Interpreter.renderEvents, shownTo_range, if_pos listening]
  rfl

end LastSeen

namespace Interpreter

def cycled (interpreter : Interpreter) : Interpreter :=
  { interpreter with machine := (interpreter.machine.cycle interpreter.tracing).machine }

def cyclePrints (interpreter : Interpreter) : List Event :=
  (interpreter.machine.cycle interpreter.tracing).printed.map .printed

variable {interpreter : Interpreter}

theorem step_drawn
    (success : (interpreter.machine.cycle interpreter.tracing).result = .ok true)
    (drawn : (interpreter.machine.cycle interpreter.tracing).machine.draw = true) :
    interpreter.step = ⟨interpreter.cycled, .ok true,
      interpreter.cyclePrints ++ interpreter.cycled.renderEvents⟩ := by
  simp only [step, success, drawn, if_true, cycled, cyclePrints]

theorem step_undrawn
    (success : (interpreter.machine.cycle interpreter.tracing).result = .ok true)
    (undrawn : (interpreter.machine.cycle interpreter.tracing).machine.draw = false) :
    interpreter.step = ⟨interpreter.cycled, .ok true, interpreter.cyclePrints⟩ := by
  simp only [step, success, undrawn, Bool.false_eq_true, if_false, cycled, cyclePrints]

theorem step_halt
    (gaveUp : (interpreter.machine.cycle interpreter.tracing).result = .ok false) :
    interpreter.step = ⟨interpreter.cycled, .ok false, interpreter.cyclePrints⟩ := by
  simp only [step, gaveUp, cycled, cyclePrints]

theorem performAll_watch (interpreter : Interpreter) (count : Nat) :
    interpreter.performAll (List.replicate count .watch) =
      { interpreter with renderListeners := interpreter.renderListeners + count } := by
  induction count generalizing interpreter with
  | zero => rfl
  | succ count ih =>
    refine (ih interpreter.addRenderListener).trans ?_
    rw [addRenderListener, Nat.add_assoc, Nat.add_comm 1]

end Interpreter

structure Session where
  interpreter : Interpreter
  events : List Event
  complete : Display 64 32

namespace Session

def ofInterpreter (interpreter : Interpreter) : Session :=
  ⟨interpreter, [], interpreter.machine.display⟩

def hold (session : Session) (keypad : Keypad) : Session :=
  { session with
    interpreter := { session.interpreter with
      machine := { session.interpreter.machine with keypad := keypad } } }

def step (session : Session) : Session :=
  let step := session.interpreter.step
  ⟨step.interpreter, session.events ++ step.events,
    match step.result with
    | .ok true => step.interpreter.machine.display
    | _ => session.complete⟩

def run (session : Session) (keypads : List Keypad) : Session :=
  keypads.foldl (fun session keypad => (session.hold keypad).step) session

structure Current (session : Session) (listener : Nat) : Prop where
  invariant : session.interpreter.machine.Invariant
  listening : listener < session.interpreter.renderListeners
  seen : lastSeen listener session.events = session.complete.view
  waiting : session.interpreter.machine.AtSprite ∨
    session.complete = session.interpreter.machine.display

namespace Current

variable {session : Session} {listener : Nat}

theorem hold (current : session.Current listener) (keypad : Keypad) :
    (session.hold keypad).Current listener :=
  { current with invariant := { current.invariant with } }

theorem step (current : session.Current listener) : session.step.Current listener := by
  obtain ⟨invariant, ok, result⟩ := current.invariant.cycle session.interpreter.tracing
  have seen : lastSeen listener (session.events ++ session.interpreter.cyclePrints) =
      session.complete.view :=
    (lastSeen_append_printed _).trans current.seen
  cases ok with
  | false =>
    -- Nobody is told anything, and the next step obeys the same instruction.
    obtain ⟨stays, shown⟩ := Machine.display_of_halt result
    simp only [Session.step, Interpreter.step_halt result]
    exact {
      invariant := invariant
      listening := current.listening
      seen := seen
      waiting := shown.elim (fun sprite => .inl (stays.mpr sprite)) fun same =>
        current.waiting.imp stays.mpr fun complete => complete.trans same.symm }
  | true =>
    -- A sprite that was left incomplete is drawn to its end now, and then everybody is told.
    rcases Machine.touched_of_success result with drawn | ⟨undrawn, same, elsewhere⟩
    · have shown : session.interpreter.cycled.renderEvents.filterMap (Event.shownTo listener) =
          [session.interpreter.cycled.machine.display.view] :=
        shownTo_renderEvents current.listening
      simp only [Session.step, Interpreter.step_drawn result drawn, ← List.append_assoc]
      exact {
        invariant := invariant
        listening := current.listening
        seen := lastSeen_append_shown shown
        waiting := .inr rfl }
    · have complete := (current.waiting.resolve_left elsewhere).trans same.symm
      simp only [Session.step, Interpreter.step_undrawn result undrawn]
      exact {
        invariant := invariant
        listening := current.listening
        seen := seen.trans (congrArg Display.view complete)
        waiting := .inr rfl }

theorem run (current : session.Current listener) (keypads : List Keypad) :
    (session.run keypads).Current listener := by
  induction keypads generalizing session with
  | nil => exact current
  | cons keypad rest ih => exact ih (current.hold keypad).step

end Current

def watched (legacy : Bool) (random : RandomSource) (scale : Int) (tracing : Bool)
    (program : Array UInt8) (listeners : Nat) : Session :=
  ofInterpreter ((Interpreter.new (Machine.new legacy random) scale tracing).performAll
    (.load program :: List.replicate listeners .watch))

theorem watched_current (legacy : Bool) (random : RandomSource) (scale : Int) (tracing : Bool)
    (program : Array UInt8) {listeners : Nat} (listener : Fin listeners) :
    (watched legacy random scale tracing program listeners).Current listener := by
  have invariant :=
    Interpreter.perform_invariant (Interpreter.new_invariant legacy random scale tracing)
      (.load program)
  obtain ⟨memory, loaded⟩ :=
    (Interpreter.new (Machine.new legacy random) scale tracing).perform_load program
  rw [loaded] at invariant
  rw [watched, Interpreter.performAll_cons, loaded, Interpreter.performAll_watch]
  exact {
    invariant := invariant
    listening := Nat.lt_of_lt_of_eq listener.isLt (Nat.zero_add listeners).symm
    seen := rfl
    waiting := .inr rfl }

/-- A listener has last seen the display as the last step that succeeded has left it. -/
theorem lastSeen_run (legacy : Bool) (random : RandomSource) (scale : Int) (tracing : Bool)
    (program : Array UInt8) {listeners : Nat} (listener : Fin listeners) (keypads : List Keypad) :
    let session := (watched legacy random scale tracing program listeners).run keypads
    lastSeen listener session.events = session.complete.view ∧
      (session.interpreter.machine.AtSprite ∨
        session.complete = session.interpreter.machine.display) ∧
      ∀ keypad, (session.hold keypad).interpreter.step.result = .ok true →
        lastSeen listener (session.hold keypad).step.events =
          (session.hold keypad).step.interpreter.machine.display.view := by
  intro session
  have current : session.Current listener :=
    (watched_current legacy random scale tracing program listener).run keypads
  refine ⟨current.seen, current.waiting, fun keypad success => ?_⟩
  have complete : (session.hold keypad).step.complete =
      (session.hold keypad).step.interpreter.machine.display := by
    simp only [step, success]
  rw [(current.hold keypad).step.seen, complete]

-- Draws the row `F0` at `(60, 0)`, which ends at the edge of the display after four pixels.
def cutSprite : List UInt8 :=
  [0xA0, 0x50, 0x60, 0x3C, 0xD0, 0x11]

theorem cutSprite_fits : cutSprite.length ≤ 0xE00 := by
  decide

theorem lastSeen_behind :
    let session := (watched false (RandomSource.cycling #[]) 10 false cutSprite.toArray 1).run
      (List.replicate 3 Keypad.released)
    lastSeen 0 session.events ≠ session.interpreter.machine.display.view := by
  have loaded :=
    Interpreter.perform_load_new false (RandomSource.cycling #[]) 10 false cutSprite_fits
  rw [watched, Interpreter.performAll_cons, loaded]
  intro session same
  have lit : (lastSeen 0 session.events)[60]? = session.interpreter.machine.display.view[60]? :=
    congrArg (fun pixels => pixels[60]?) same
  exact absurd lit (by decide +kernel)

end Session

end ChipEight
