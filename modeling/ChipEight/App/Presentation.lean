import ChipEight.App.State

set_option autoImplicit false

namespace ChipEight

-- Over and over, the presentation looks whether there is a worker, takes the queued events and
-- refreshes the window. In the end it requests a stop and waits for the worker.
inductive Task where
  | look
  | poll
  | refresh
  | requestStop
  | await
  | finished
  deriving DecidableEq, Repr

structure Presentation where
  app : App
  task : Task
  -- The fault of a refresh. It ends the presentation, and comes out of it in the end.
  escaped : Option Fault

namespace Presentation

def ofApp (app : App) : Presentation :=
  ⟨app, .look, none⟩

def goTo (presentation : Presentation) (task : Task) : Presentation :=
  { presentation with task := task }

/-- The next action of the presentation. The worker may act between any two of them. -/
def proceed (presentation : Presentation) : Presentation :=
  let app := presentation.app
  match presentation.task with
  | .look => presentation.goTo (if app.interpreter.running then .poll else .requestStop)
  | .poll =>
    { presentation with
      app := app.polled
      task := if app.polled.leaving then .requestStop else .refresh }
  | .refresh =>
    let fault := app.screen.refresh.2
    ⟨app.refreshed, if fault.isSome then .requestStop else .look, fault⟩
  | .requestStop => { presentation with app := app.askedToStop, task := .await }
  | .await => if app.interpreter.running then presentation else presentation.goTo .finished
  | .finished => presentation

def take (presentation : Presentation) : Turn → Presentation
  | .worker => { presentation with app := presentation.app.tick }
  | .presentation => presentation.proceed

def run (presentation : Presentation) (turns : List Turn) : Presentation :=
  turns.foldl take presentation

-- A look and what follows it, up to the next look or to the request to stop.
def pass (presentation : Presentation) : Presentation :=
  let looked := presentation.proceed
  let polled := if looked.task = .poll then looked.proceed else looked
  if polled.task = .refresh then polled.proceed else polled

def transcript (presentation : Presentation) : Transcript :=
  match presentation.escaped with
  | some fault => ⟨presentation.app.printed, .crash fault⟩
  | none => presentation.app.transcript

end Presentation

end ChipEight
