import ChipEight.Proofs.BareCycles

set_option autoImplicit false

namespace ChipEight

def Transcript.reports (transcript : Transcript) : List Printed :=
  transcript.printed.filter Printed.isReport

def Task.attends : Task → Bool
  | .look | .poll | .refresh => true
  | .requestStop | .await | .finished => false

def Quitting (script : List (Nat × List InputEvent)) : Prop :=
  ∀ entry ∈ script, ∀ event ∈ entry.2, event.leaves = true

namespace App

variable {app : App}

theorem polled_of_quitting (quitting : ∀ event ∈ app.queue, event.leaves = true) :
    app.queue = [] ∧ app.polled = app ∨
      app.queue ≠ [] ∧ app.polled = { app with queue := [], leaving := true } := by
  cases queue : app.queue with
  | nil =>
    have same : app = { app with queue := [] } := by rw [← queue]
    refine .inl ⟨rfl, ?_⟩
    simp only [polled, queue, Keypad.poll, Bool.not_true, Bool.or_false]
    exact same.symm
  | cons event rest =>
    have leaves := quitting event (queue ▸ List.mem_cons_self)
    refine .inr ⟨List.cons_ne_nil event rest, ?_⟩
    simp only [polled, queue, Keypad.poll, leaves, if_true, Bool.not_false, Bool.or_true]

theorem mem_due {cycle : Nat} {event : InputEvent} (due : event ∈ app.due cycle) :
    ∃ entry ∈ app.script, event ∈ entry.2 := by
  obtain ⟨entry, member, found⟩ := List.mem_flatMap.mp due
  exact ⟨entry, (List.mem_filter.mp member).1, found⟩

theorem tick_queue (app : App) :
    app.tick.begun = app.begun + 1 ∧ app.tick.queue = app.queue ++ app.due (app.begun + 1) ∨
      app.tick.begun = app.begun ∧ app.tick.queue = app.queue := by
  rw [tick_eq]
  by_cases step : app.interpreter.worker = some .step
  · exact .inl ⟨if_pos step, if_pos step⟩
  · exact .inr ⟨if_neg step, if_neg step⟩

theorem tick_ended (ended : app.interpreter.worker = none) :
    app.tick.interpreter.worker = none := by
  rw [tick_interpreter]
  simp only [Interpreter.act, ended]

end App

namespace Presentation

variable {machine : Machine} {tracing : Bool} {script : List (Nat × List InputEvent)}
  {presentation : Presentation}

inductive Standing (presentation : Presentation) : Prop where
  | attending (attends : presentation.task.attends = true)
    (staying : presentation.app.leaving = false)
    (unasked : presentation.app.interpreter.stopRequested = false)
  | closing (task : presentation.task = .requestStop)
    (cause : presentation.app.leaving = true ∨ presentation.app.interpreter.worker = none)
    (unasked : presentation.app.interpreter.stopRequested = false)
  | waiting (task : presentation.task = .await)
    (cause : presentation.app.leaving = true ∨ presentation.app.interpreter.worker = none)
    (asked : presentation.app.interpreter.stopRequested = true)
  | finished (task : presentation.task = .finished)
    (ended : presentation.app.interpreter.worker = none)

namespace Standing

theorem worker (standing : presentation.Standing) : (presentation.take .worker).Standing := by
  have stop : presentation.app.tick.interpreter.stopRequested =
      presentation.app.interpreter.stopRequested := by
    rw [App.tick_interpreter]
    exact presentation.app.interpreter.act_stopRequested
  have left := presentation.app.tick_leaving
  have ended (idle : presentation.app.interpreter.worker = none) :
      presentation.app.tick.interpreter.worker = none := App.tick_ended idle
  cases standing with
  | attending attends staying unasked =>
    exact .attending attends (left.trans staying) (stop.trans unasked)
  | closing task cause unasked =>
    exact .closing task (cause.imp left.trans ended) (stop.trans unasked)
  | waiting task cause asked =>
    exact .waiting task (cause.imp left.trans ended) (stop.trans asked)
  | finished task idle => exact .finished task (ended idle)

theorem of_attends (standing : presentation.Standing)
    (attends : presentation.task.attends = true) : presentation.app.leaving = false ∧
      presentation.app.interpreter.stopRequested = false := by
  cases standing with
  | attending _ staying unasked => exact ⟨staying, unasked⟩
  | closing task | waiting task | finished task =>
    rw [task] at attends
    cases attends

theorem left_of_asked (standing : presentation.Standing)
    (alive : presentation.app.interpreter.worker ≠ none)
    (asked : presentation.app.interpreter.stopRequested = true) :
    presentation.app.leaving = true := by
  cases standing with
  | attending _ _ unasked | closing _ _ unasked => cases unasked.symm.trans asked
  | waiting _ cause => exact cause.resolve_right alive
  | finished _ ended => exact absurd ended alive

theorem ended (standing : presentation.Standing) (reached : presentation.task = .finished) :
    presentation.app.interpreter.worker = none := by
  cases standing with
  | attending attends =>
    rw [reached] at attends
    cases attends
  | closing task | waiting task => cases reached.symm.trans task
  | finished _ ended => exact ended

end Standing

structure Conducted (machine : Machine) (tracing : Bool) (script : List (Nat × List InputEvent))
    (presentation : Presentation) : Prop where
  worked : presentation.app.Worked machine tracing
  traced : presentation.app.interpreter.tracing = tracing
  unheard : presentation.app.interpreter.haltListeners = 0
  refreshable : presentation.app.Refreshable
  unescaped : presentation.escaped = none
  scripted : presentation.app.script = script
  queued : ∀ event ∈ presentation.app.queue, event.leaves = true ∧ script ≠ []
  left : presentation.app.leaving = true → script ≠ []
  standing : presentation.Standing

namespace Conducted

theorem polled (conducted : presentation.Conducted machine tracing script) :
    presentation.app.queue = [] ∧ presentation.app.polled = presentation.app ∨
      presentation.app.queue ≠ [] ∧
        presentation.app.polled = { presentation.app with queue := [], leaving := true } :=
  App.polled_of_quitting fun event member => (conducted.queued event member).1

theorem worker (conducted : presentation.Conducted machine tracing script)
    (invariant : machine.Invariant) (quitting : Quitting script) :
    (presentation.take .worker).Conducted machine tracing script := by
  obtain ⟨-, traced, unheard⟩ := presentation.app.interpreter.act_fixed
  rw [← App.tick_interpreter] at traced unheard
  refine {
    worked :=
      conducted.worked.tick invariant conducted.traced conducted.standing.left_of_asked
    traced := traced.trans conducted.traced
    unheard := unheard.trans conducted.unheard
    refreshable := conducted.refreshable.tick
    unescaped := conducted.unescaped
    scripted := presentation.app.tick_script.trans conducted.scripted
    queued := ?_
    left := fun left => conducted.left (presentation.app.tick_leaving.symm.trans left)
    standing := conducted.standing.worker }
  intro event member
  rcases presentation.app.tick_queue with ⟨-, queue⟩ | ⟨-, queue⟩ <;>
    rw [Presentation.take, queue] at member
  · rcases List.mem_append.mp member with before | due
    · exact conducted.queued event before
    · obtain ⟨entry, listed, found⟩ := App.mem_due due
      rw [conducted.scripted] at listed
      exact ⟨quitting entry listed event found, List.ne_nil_of_mem listed⟩
  · exact conducted.queued event member

theorem proceed (conducted : presentation.Conducted machine tracing script) :
    presentation.proceed.Conducted machine tracing script := by
  have attending := conducted.standing.of_attends
  rw [Presentation.proceed.eq_def]
  cases task : presentation.task with dsimp only
  | look =>
    obtain ⟨staying, unasked⟩ := attending (task ▸ rfl)
    by_cases alive : presentation.app.interpreter.running = true
    · rw [if_pos alive]
      exact { conducted with standing := .attending rfl staying unasked }
    · rw [if_neg alive]
      have ended := Option.not_isSome_iff_eq_none.mp alive
      exact { conducted with standing := .closing rfl (.inr ended) unasked }
  | poll =>
    obtain ⟨staying, unasked⟩ := attending (task ▸ rfl)
    rcases conducted.polled with ⟨-, same⟩ | ⟨waiting, same⟩ <;> simp only [same]
    · simp only [staying]
      exact { conducted with standing := .attending rfl staying unasked }
    · obtain ⟨event, member⟩ := List.exists_mem_of_ne_nil _ waiting
      have scripted := (conducted.queued event member).2
      exact { conducted with
        worked := conducted.worked.frame rfl rfl rfl rfl fun _ => rfl
        refreshable := { conducted.refreshable with }
        queued := List.forall_mem_nil _
        left := fun _ => scripted
        standing := .closing rfl (.inl rfl) unasked }
  | refresh =>
    obtain ⟨staying, unasked⟩ := attending (task ▸ rfl)
    have complete := (Screen.refresh_drawable conducted.refreshable.pending).1
    simp only [complete]
    exact { conducted with
      worked := conducted.worked.frame rfl rfl rfl rfl id
      refreshable := conducted.refreshable.refreshed
      unescaped := rfl
      standing := .attending rfl staying unasked }
  | requestStop =>
    have cause : presentation.app.leaving = true ∨ presentation.app.interpreter.worker = none := by
      cases conducted.standing with
      | attending attends =>
        rw [task] at attends
        cases attends
      | closing _ cause => exact cause
      | waiting other | finished other => cases task.symm.trans other
    exact { conducted with
      worked := conducted.worked.frame rfl rfl rfl rfl id
      refreshable := conducted.refreshable.askedToStop
      standing := .waiting rfl cause rfl }
  | await =>
    by_cases alive : presentation.app.interpreter.running = true
    · rw [if_pos alive]
      exact conducted
    · rw [if_neg alive]
      have ended := Option.not_isSome_iff_eq_none.mp alive
      exact { conducted with standing := .finished rfl ended }
  | finished => exact conducted

theorem take (conducted : presentation.Conducted machine tracing script)
    (invariant : machine.Invariant) (quitting : Quitting script) (turn : Turn) :
    (presentation.take turn).Conducted machine tracing script := by
  cases turn with
  | worker => exact conducted.worker invariant quitting
  | presentation => exact conducted.proceed

theorem run (conducted : presentation.Conducted machine tracing script)
    (invariant : machine.Invariant) (quitting : Quitting script) (turns : List Turn) :
    (presentation.run turns).Conducted machine tracing script := by
  induction turns generalizing presentation with
  | nil => exact conducted
  | cons turn rest ih => exact ih (conducted.take invariant quitting turn)

end Conducted

end Presentation

end ChipEight
