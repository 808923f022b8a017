import ChipEight.App.Basic
import ChipEight.Proofs.Painting
import ChipEight.Proofs.Rendering
import ChipEight.Proofs.Restart

set_option autoImplicit false

namespace ChipEight

def Event.line? : Event → Option Printed
  | .printed line => some line
  | _ => none

def Event.frame? : Event → Option Frame
  | .rendered _ _ frame => some frame
  | _ => none

namespace Interpreter

variable {interpreter : Interpreter} {system : WindowSystem}

theorem act_fixed (interpreter : Interpreter) :
    interpreter.act.1.scale = interpreter.scale ∧
      interpreter.act.1.tracing = interpreter.tracing ∧
      interpreter.act.1.haltListeners = interpreter.haltListeners := by
  obtain ⟨machine, same⟩ := interpreter.step_frame
  simp only [act, same]
  split
  next => exact ⟨rfl, rfl, rfl⟩
  next => exact ⟨rfl, rfl, rfl⟩
  next => split <;> exact ⟨rfl, rfl, rfl⟩
  next => exact ⟨rfl, rfl, rfl⟩
  next => exact ⟨rfl, rfl, rfl⟩
  next => exact ⟨rfl, rfl, rfl⟩

theorem frame_drawable (squares : system.Accepts 64 32 interpreter.scale) :
    interpreter.frame.Drawable system where
  complete := Nat.le_of_eq interpreter.machine.display.pixels.size_toArray.symm
  squares := squares

theorem step_events (interpreter : Interpreter) :
    interpreter.step.events = interpreter.cyclePrints ∨
      interpreter.step.events = interpreter.cyclePrints ++ interpreter.cycled.renderEvents := by
  simp only [step]
  split
  next =>
    split
    next => exact .inr rfl
    next => exact .inl rfl
  next => exact .inl rfl

theorem act_frames (squares : system.Accepts 64 32 interpreter.scale) :
    ∀ event ∈ interpreter.act.2, ∀ frame ∈ event.frame?, frame.Drawable system := by
  have printed : ∀ event ∈ interpreter.cyclePrints, ∀ frame ∈ event.frame?,
      frame.Drawable system := by
    intro event member frame shown
    obtain ⟨line, _, rfl⟩ := List.mem_map.mp member
    cases shown
  have rendered : ∀ event ∈ interpreter.cycled.renderEvents, ∀ frame ∈ event.frame?,
      frame.Drawable system := by
    intro event member frame shown
    obtain ⟨listener, _, rfl⟩ := List.mem_map.mp member
    cases shown
    exact frame_drawable squares
  have stepped : ∀ event ∈ interpreter.step.events, ∀ frame ∈ event.frame?,
      frame.Drawable system := by
    rcases interpreter.step_events with same | same <;> rw [same]
    · exact printed
    · exact fun event member =>
        (List.mem_append.mp member).elim (printed event) (rendered event)
  simp only [act]
  split
  next => simp
  next => simp
  next => split <;> exact stepped
  next =>
    intro event member frame shown
    cases List.mem_singleton.mp member
    cases shown
  next => simp
  next =>
    intro event member frame shown
    simp only [farewell] at member
    split at member
    · cases List.mem_singleton.mp member
      cases shown
    · cases member

end Interpreter

namespace App

variable {app : App}

theorem foldl_notice (app : App) (events : List Event) :
    events.foldl notice app =
      { app with
        printed := app.printed ++ events.filterMap Event.line?
        screen := (events.filterMap Event.frame?).foldl Screen.receive app.screen } := by
  induction events generalizing app with
  | nil => simp only [List.foldl_nil, List.filterMap_nil, List.append_nil]
  | cons event rest ih =>
    rw [List.foldl_cons, ih]
    cases event with
    | printed line =>
      simp only [notice, Event.line?, Event.frame?, List.filterMap_cons, List.append_assoc,
        List.singleton_append]
    | _ => simp only [notice, Event.line?, Event.frame?, List.filterMap_cons, List.foldl_cons]

def due (app : App) (cycle : Nat) : List InputEvent :=
  (app.script.filter fun (number, _) => number == cycle).flatMap fun (_, events) => events

theorem tick_eq (app : App) : app.tick =
    { app with
      interpreter := app.interpreter.act.1
      printed := app.printed ++ app.interpreter.act.2.filterMap Event.line?
      screen := (app.interpreter.act.2.filterMap Event.frame?).foldl Screen.receive app.screen
      begun := if app.interpreter.worker = some .step then app.begun + 1 else app.begun
      queue := if app.interpreter.worker = some .step then app.queue ++ app.due (app.begun + 1)
        else app.queue } := by
  simp only [tick, foldl_notice]
  split <;> rfl

@[simp]
theorem tick_interpreter (app : App) : app.tick.interpreter = app.interpreter.act.1 := by
  rw [tick_eq]

@[simp]
theorem tick_leaving (app : App) : app.tick.leaving = app.leaving := by
  rw [tick_eq]

@[simp]
theorem tick_script (app : App) : app.tick.script = app.script := by
  rw [tick_eq]

theorem foldl_receive (frames : List Frame) (screen : Screen) :
    (frames.foldl Screen.receive screen).system = screen.system ∧
      ∀ frame ∈ (frames.foldl Screen.receive screen).pending,
        frame ∈ frames ∨ frame ∈ screen.pending := by
  induction frames generalizing screen with
  | nil => exact ⟨rfl, fun frame pending => .inr pending⟩
  | cons first rest ih =>
    obtain ⟨system, frames⟩ := ih (screen.receive first)
    refine ⟨system, fun frame pending => ?_⟩
    rcases frames frame pending with later | same
    · exact .inl (List.mem_cons_of_mem first later)
    · cases same
      exact .inl List.mem_cons_self

structure Refreshable (app : App) : Prop where
  squares : app.screen.system.Accepts 64 32 app.interpreter.scale
  pending : ∀ frame ∈ app.screen.pending, frame.Drawable app.screen.system

namespace Refreshable

theorem tick (refreshable : app.Refreshable) : app.tick.Refreshable := by
  obtain ⟨system, frames⟩ :=
    foldl_receive (app.interpreter.act.2.filterMap Event.frame?) app.screen
  rw [tick_eq]
  constructor
  case squares =>
    rw [system, app.interpreter.act_fixed.1]
    exact refreshable.squares
  case pending =>
    intro frame pending
    rw [system]
    rcases frames frame pending with shown | waiting
    · obtain ⟨event, member, shown⟩ := List.mem_filterMap.mp shown
      exact Interpreter.act_frames refreshable.squares event member frame shown
    · exact refreshable.pending frame waiting

theorem polled (refreshable : app.Refreshable) : app.polled.Refreshable :=
  { refreshable with }

theorem refreshed (refreshable : app.Refreshable) : app.refreshed.Refreshable where
  squares := app.screen.refresh_system ▸ refreshable.squares
  pending := by
    intro frame pending
    cases (Screen.refresh_drawable refreshable.pending).2.symm.trans pending

theorem askedToStop (refreshable : app.Refreshable) : app.askedToStop.Refreshable :=
  { refreshable with }

end Refreshable

end App

namespace Presentation

def between (app : App) : Presentation :=
  if app.leaving then ⟨app, .requestStop, none⟩ else ofApp app

end Presentation

end ChipEight
