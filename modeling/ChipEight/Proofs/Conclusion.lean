import Mathlib
import ChipEight.Proofs.Conduct
import ChipEight.Proofs.Lifecycle
import ChipEight.Proofs.Schedule

set_option autoImplicit false

namespace ChipEight

def Task.rest : Task → Nat
  | .poll => 5
  | .refresh => 4
  | .look => 3
  | .requestStop => 2
  | .await => 1
  | .finished => 0

namespace Presentation

variable {machine : Machine} {tracing : Bool} {script : List (Nat × List InputEvent)}
  {presentation : Presentation} {cycle : Nat} {event : InputEvent}

theorem proceed_kept (presentation : Presentation) :
    presentation.proceed.app.interpreter.worker = presentation.app.interpreter.worker ∧
      presentation.proceed.app.interpreter.haltListeners =
        presentation.app.interpreter.haltListeners ∧
      presentation.proceed.app.begun = presentation.app.begun := by
  rw [Presentation.proceed.eq_def]
  cases presentation.task with dsimp only
  | await => split <;> exact ⟨rfl, rfl, rfl⟩
  | _ => exact ⟨rfl, rfl, rfl⟩

structure Expectant (machine : Machine) (tracing : Bool) (cycle : Nat) (event : InputEvent)
    (presentation : Presentation) : Prop where
  conducted : presentation.Conducted machine tracing [(cycle, [event])]
  early : presentation.app.begun < cycle →
    presentation.app.queue = [] ∧ presentation.app.leaving = false
  late : cycle ≤ presentation.app.begun →
    presentation.app.queue ≠ [] ∨ presentation.app.leaving = true

theorem due_of_script {app : App} (scripted : app.script = [(cycle, [event])]) (number : Nat) :
    app.due number = if cycle = number then [event] else [] := by
  simp only [App.due, scripted, List.filter_cons, List.filter_nil, beq_iff_eq]
  split <;> rfl

theorem quitting_of_leaves (leaves : event.leaves = true) : Quitting [(cycle, [event])] := by
  intro entry member found listed
  cases List.mem_singleton.mp member
  cases List.mem_singleton.mp listed
  exact leaves

namespace Expectant

theorem worker (expectant : presentation.Expectant machine tracing cycle event)
    (invariant : machine.Invariant) (leaves : event.leaves = true) :
    (presentation.take .worker).Expectant machine tracing cycle event := by
  have due := due_of_script expectant.conducted.scripted (presentation.app.begun + 1)
  have left := presentation.app.tick_leaving
  refine ⟨expectant.conducted.worker invariant (quitting_of_leaves leaves), ?_, ?_⟩ <;>
    simp only [take, left] <;>
    rcases presentation.app.tick_queue with ⟨begun, queue⟩ | ⟨begun, queue⟩ <;>
    rw [begun, queue]
  · intro early
    have before := expectant.early (Nat.lt_of_succ_lt early)
    rw [due, if_neg (by omega), List.append_nil]
    exact before
  · exact expectant.early
  · intro late
    by_cases now : cycle = presentation.app.begun + 1
    · rw [due, if_pos now]
      exact .inl (List.append_ne_nil_of_right_ne_nil _ (List.cons_ne_nil _ _))
    · exact (expectant.late (by omega)).imp (List.append_ne_nil_of_left_ne_nil · _) id
  · exact expectant.late

theorem proceed (expectant : presentation.Expectant machine tracing cycle event) :
    presentation.proceed.Expectant machine tracing cycle event := by
  have begun := presentation.proceed_kept.2.2
  refine ⟨expectant.conducted.proceed, ?_, ?_⟩ <;> rw [begun]
  · intro early
    have before := expectant.early early
    rw [Presentation.proceed.eq_def]
    cases presentation.task with dsimp only
    | poll =>
      obtain ⟨-, same⟩ := expectant.conducted.polled.resolve_right fun waiting => waiting.1 before.1
      rw [same]
      exact before
    | await => split <;> exact before
    | _ => exact before
  · intro late
    have waiting := expectant.late late
    rw [Presentation.proceed.eq_def]
    cases presentation.task with dsimp only
    | poll =>
      rcases expectant.conducted.polled with ⟨-, same⟩ | ⟨-, same⟩ <;> rw [same]
      · exact waiting
      · exact .inr rfl
    | await => split <;> exact waiting
    | _ => exact waiting

theorem take (expectant : presentation.Expectant machine tracing cycle event)
    (invariant : machine.Invariant) (leaves : event.leaves = true) (turn : Turn) :
    (presentation.take turn).Expectant machine tracing cycle event := by
  cases turn with
  | worker => exact expectant.worker invariant leaves
  | presentation => exact expectant.proceed

theorem working (expectant : presentation.Expectant machine tracing cycle event)
    (endless : ∀ number, machine.Succeeds tracing number)
    (staying : presentation.app.leaving = false) :
    presentation.app.interpreter.worker = some .test ∨
      presentation.app.interpreter.worker = some .step := by
  cases expectant.conducted.worked with
  | working phase worker works =>
    cases phase with
    | test => exact .inl worker
    | step => exact .inr worker
    | _ => cases works
  | stopped _ left => cases staying.symm.trans left
  | failed _ number _ _ gaveUp => exact absurd (endless number) gaveUp.not_succeeds

end Expectant

theorem Conducted.concluded (conducted : presentation.Conducted machine tracing script)
    (reached : presentation.task = .finished) :
    presentation.app.leaving = true ∧ presentation.transcript.exit = .quit ∧
        presentation.transcript.reports = [] ∨
      ∃ number reason, (∀ earlier < number, machine.Succeeds tracing earlier) ∧
        machine.GivesUp tracing number ∧
        (machine.afterCycles tracing (number + 1)).fault = some reason ∧
        presentation.transcript.exit =
          .message ("********** THE EMULATOR CRASHED WITH THE FOLLOWING STATE\n" ++
            (machine.afterCycles tracing (number + 1)).describe) ∧
        presentation.transcript.reports = [Machine.haltReport reason] := by
  simp only [transcript, conducted.unescaped, App.transcript]
  cases conducted.worked with
  | working phase worker => cases worker.symm.trans (conducted.standing.ended reached)
  | stopped _ left faultless silent =>
    rw [faultless]
    exact .inl ⟨left, rfl, silent⟩
  | failed _ number reason success gaveUp same remembered _ told =>
    rw [remembered]
    exact .inr ⟨number, reason, success, gaveUp, same ▸ remembered, by rw [← same]; rfl, told⟩

end Presentation

namespace App

open CommandLine Presentation

variable {machine : Machine} {tracing : Bool} {app : App}

section Launch

variable {options : Options} {file : String} {scale : Int} {screen : Screen}
  {contentOf : Path → Except ReadProblem (Array UInt8)} {random : RandomSource}
  {system : WindowSystem}

end Launch

end App

end ChipEight
