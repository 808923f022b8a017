import ChipEight.App.State
import ChipEight.Proofs.Service
import ChipEight.Proofs.Storage

set_option autoImplicit false

namespace ChipEight

namespace InputEvent

-- The key of the keyboard for a key of the machine: its character is the digit, in lower case.
def codeOf (key : Fin 16) : Int :=
  (Nat.digitChar key.val).toNat

def Leaving (event : InputEvent) : Prop :=
  event = quit ∨ event = keyDown escapeCode

def Strikes (key : Fin 16) (event : InputEvent) : Prop :=
  event = keyDown (codeOf key) ∨ event = keyUp (codeOf key)

def Idle (event : InputEvent) : Prop :=
  ¬ event.Leaving ∧ ∀ key, ¬ event.Strikes key

instance : DecidablePred Leaving :=
  fun _ => inferInstanceAs (Decidable (_ ∨ _))

instance (key : Fin 16) : DecidablePred (Strikes key) :=
  fun _ => inferInstanceAs (Decidable (_ ∨ _))

def presses : InputEvent → Bool
  | keyDown _ => true
  | _ => false

def heeded (queue : List InputEvent) : List InputEvent :=
  queue.takeWhile fun event => ¬ event.Leaving

def LastDown (key : Fin 16) (events : List InputEvent) : Prop :=
  ∃ earlier later, events = earlier ++ keyDown (codeOf key) :: later ∧
    ∀ next ∈ later, ¬ next.Strikes key

variable {event : InputEvent} {key : Fin 16} {code : Int}

theorem leaves_iff : event.leaves = true ↔ event.Leaving := by
  cases event <;> simp [leaves, Leaving]

theorem codeOf_eq (key : Fin 16) :
    codeOf key = if key.val < 10 then (key.val : Int) + 48 else (key.val : Int) + 87 := by
  decide +revert

theorem key?_eq_some_iff : key? code = some key ↔ code = codeOf key := by
  have small := key.isLt
  rw [codeOf_eq, key?]
  split
  next digit =>
    rw [Option.some.injEq, Fin.ext_iff]
    dsimp only
    split <;> omega
  next =>
    split
    next letter =>
      rw [Option.some.injEq, Fin.ext_iff]
      dsimp only
      split <;> omega
    next =>
      refine iff_of_false nofun ?_
      split <;> omega

theorem codeOf_injective : Function.Injective codeOf := by
  intro key other same
  have found := key?_eq_some_iff.mpr same
  exact Option.some.inj ((key?_eq_some_iff.mpr rfl).symm.trans found)

theorem heeded_cons (event : InputEvent) (rest : List InputEvent) :
    heeded (event :: rest) = if event.Leaving then [] else event :: heeded rest := by
  by_cases leaving : event.Leaving <;> simp [heeded, leaving]

theorem escape_released_idle : (keyUp escapeCode).Idle := by
  refine ⟨by decide, fun key struck => ?_⟩
  rcases struck with down | up
  · cases down
  · have same := InputEvent.keyUp.inj up
    revert key
    decide

theorem other_idle : other.Idle :=
  ⟨by decide, fun _ struck => struck.elim nofun nofun⟩

theorem lastDown_iff (events : List InputEvent) :
    LastDown key events ↔
      ∃ earlier event later, events = earlier ++ event :: later ∧ event.Strikes key ∧
        event.presses = true ∧ ∀ next ∈ later, ¬ next.Strikes key := by
  constructor
  · rintro ⟨earlier, later, same, untouched⟩
    exact ⟨earlier, _, later, same, .inl rfl, rfl, untouched⟩
  · -- A key going up is for the key as well, but does not press it.
    rintro ⟨earlier, event, later, same, rfl | rfl, down, untouched⟩
    · exact ⟨earlier, later, same, untouched⟩
    · cases down

end InputEvent

namespace Keypad

open InputEvent

variable {event : InputEvent} {key : Fin 16}

theorem get_latch (keypad : Keypad) (code : Int) (down : Bool) (key : Fin 16) :
    (keypad.latch code down).pressed.get key =
      if code = codeOf key then down else keypad.pressed.get key := by
  simp only [← key?_eq_some_iff, latch]
  cases key? code with
  | none => rfl
  | some struck => simp only [Row.get_replace, Option.some.injEq, eq_comm]

theorem get_apply (keypad : Keypad) (event : InputEvent) (key : Fin 16) :
    (keypad.apply event).pressed.get key =
      if event.Strikes key then event.presses else keypad.pressed.get key := by
  cases event with
  | keyDown code =>
    simp only [apply, get_latch, Strikes, presses, keyDown.injEq, reduceCtorEq, or_false]
  | keyUp code =>
    simp only [apply, get_latch, Strikes, presses, keyUp.injEq, reduceCtorEq, false_or]
  | quit => rfl
  | other => rfl

theorem apply_idle (keypad : Keypad) (idle : event.Idle) : keypad.apply event = keypad := by
  have same (key : Fin 16) :
      (keypad.apply event).pressed.get key = keypad.pressed.get key :=
    (keypad.get_apply event key).trans (if_neg (idle.2 key))
  exact congrArg Keypad.mk (Vector.ext fun place inside => same ⟨place, inside⟩)

theorem get_applied (keypad : Keypad) (events : List InputEvent) (key : Fin 16) :
    (events.foldl apply keypad).pressed.get key =
      latest (Strikes key) presses (keypad.pressed.get key) events :=
  foldl_latest (fun keypad : Keypad => keypad.pressed.get key)
    (fun keypad event => keypad.get_apply event key) keypad events

theorem poll_eq (keypad : Keypad) (queue : List InputEvent) :
    keypad.poll queue =
      (decide (∀ event ∈ queue, ¬ event.Leaving), (heeded queue).foldl apply keypad) := by
  induction queue generalizing keypad with
  | nil => rfl
  | cons event rest ih =>
    simp only [poll, leaves_iff, heeded_cons, List.forall_mem_cons]
    split
    next leaving => simp only [leaving, not_true, false_and, decide_false, List.foldl_nil]
    next staying => simp only [ih, staying, not_false_eq_true, true_and, List.foldl_cons]

theorem poll_append (keypad : Keypad) (earlier later : List InputEvent) :
    keypad.poll (earlier ++ later) =
      if (keypad.poll earlier).1 then (keypad.poll earlier).2.poll later
      else keypad.poll earlier := by
  induction earlier generalizing keypad with
  | nil => rfl
  | cons event rest ih =>
    rw [List.cons_append, poll, poll]
    split
    next => rfl
    next => exact ih (keypad.apply event)

theorem poll_leaving (keypad : Keypad) {last : InputEvent} (leaving : last.Leaving)
    (earlier later : List InputEvent) :
    keypad.poll (earlier ++ last :: later) = (false, (keypad.poll earlier).2) := by
  rw [poll_append, poll, if_pos (leaves_iff.mpr leaving)]
  split
  next => rfl
  -- The poll may have been left before it gets as far as this event.
  next left => exact Prod.ext (Bool.eq_false_iff.mpr left) rfl

theorem poll_idle (keypad : Keypad) (idle : event.Idle) (earlier later : List InputEvent) :
    keypad.poll (earlier ++ event :: later) = keypad.poll (earlier ++ later) := by
  rw [poll_append, poll_append, poll, if_neg (mt leaves_iff.mp idle.1), apply_idle _ idle]

theorem serveAll_poll (keypad : Keypad) (queues : List (List InputEvent)) :
    serveAll poll keypad queues =
      (queues.map fun queue => decide (∀ event ∈ queue, ¬ event.Leaving),
        (queues.flatMap heeded).foldl apply keypad) := by
  induction queues generalizing keypad with
  | nil => rfl
  | cons queue rest ih =>
    rw [serveAll_cons, poll_eq, ih, List.map_cons, List.flatMap_cons, List.foldl_append]

structure Polled (queues : List (List InputEvent)) (before : Keypad) (answers : List Bool)
    (after : Keypad) : Prop where
  answers : answers = queues.map fun queue => decide (∀ event ∈ queue, ¬ event.Leaving)
  keys : ∀ key : Fin 16, ∃ down, after.read key.val = .ok down ∧
    (down = true ↔ LastDown key (queues.flatMap heeded) ∨
      (∀ event ∈ queues.flatMap heeded, ¬ event.Strikes key) ∧ before.read key.val = .ok true)

theorem polled (keypad : Keypad) (queues : List (List InputEvent)) :
    Polled queues keypad (serveAll poll keypad queues).1 (serveAll poll keypad queues).2 := by
  rw [serveAll_poll]
  refine ⟨rfl, fun key => ⟨_, read_inside _ key.isLt, ?_⟩⟩
  rw [read_inside _ key.isLt, Except.ok.injEq, Fin.eta, get_applied, latest_eq_or_iff,
    lastDown_iff]

end Keypad

namespace App

def attend (app : App) (events : List InputEvent) : Bool × App :=
  let waiting := { app with queue := app.queue ++ events }
  ((waiting.interpreter.machine.keypad.poll waiting.queue).1, waiting.polled)

theorem serveAll_attend {app : App} (looked : app.queue = [])
    (queues : List (List InputEvent)) :
    (serveAll attend app queues).1 =
        (serveAll Keypad.poll app.interpreter.machine.keypad queues).1 ∧
      (serveAll attend app queues).2.queue = [] ∧
      (serveAll attend app queues).2.interpreter.machine.keypad =
        (serveAll Keypad.poll app.interpreter.machine.keypad queues).2 := by
  refine serveAll_alike
    (fun (app : App) keypad => app.queue = [] ∧ app.interpreter.machine.keypad = keypad)
    ?_ ⟨looked, rfl⟩
  rintro events - app _ ⟨looked, rfl⟩
  simp only [attend, looked, List.nil_append, App.polled, and_self]

end App

namespace Keypad

open InputEvent

/-- After any polls a key is pressed if the last heeded event for it was a press, or if there was
none and it was pressed before. What is behind an event that asks to leave is lost. -/
theorem key_of_last_event (keypad : Keypad) (queues : List (List InputEvent)) :
    Polled queues keypad (serveAll poll keypad queues).1 (serveAll poll keypad queues).2 ∧
    (∀ earlier last later, last.Leaving →
      keypad.poll (earlier ++ last :: later) = (false, (keypad.poll earlier).2)) ∧
    (∀ earlier event later, event.Idle →
      keypad.poll (earlier ++ event :: later) = keypad.poll (earlier ++ later)) ∧
    (keyUp escapeCode).Idle ∧ other.Idle ∧
    (∀ code key, key? code = some key ↔ code = codeOf key) ∧ Function.Injective codeOf ∧
    ∀ app : App, app.queue = [] → app.interpreter.machine.keypad = keypad →
      (serveAll App.attend app queues).2.queue = [] ∧
      Polled queues keypad (serveAll App.attend app queues).1
        (serveAll App.attend app queues).2.interpreter.machine.keypad := by
  refine ⟨keypad.polled queues,
    fun earlier _ later leaving => keypad.poll_leaving leaving earlier later,
    fun earlier _ later idle => keypad.poll_idle idle earlier later,
    escape_released_idle, other_idle, fun _ _ => key?_eq_some_iff, codeOf_injective, ?_⟩
  rintro app looked rfl
  obtain ⟨answers, empty, keys⟩ := App.serveAll_attend looked queues
  rw [answers, keys]
  exact ⟨empty, polled _ queues⟩

example :
    let (answers, after) := serveAll poll released
      [[.keyDown (codeOf 0xA), .keyDown (codeOf 5), .quit, .keyUp (codeOf 0xA)],
        [.keyUp (codeOf 5), .keyUp escapeCode]]
    answers = [false, true] ∧ after.text = "A" := by
  decide

end Keypad

end ChipEight
