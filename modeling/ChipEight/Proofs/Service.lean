import ChipEight.Proofs.History

set_option autoImplicit false

namespace ChipEight

variable {Object Other Request Answer Value : Type}

def settle (object : Object) : Except Fault (Answer × Object) → Except Fault Answer × Object
  | .ok (answer, after) => (.ok answer, after)
  | .error fault => (.error fault, object)

theorem settle_error {object : Object} {result : Except Fault (Answer × Object)} {fault : Fault}
    (failed : (settle object result).1 = .error fault) : (settle object result).2 = object := by
  cases result with
  | ok success => cases failed
  | error fault => rfl

def serveAll (serve : Object → Request → Answer × Object) (object : Object) :
    List Request → List Answer × Object
  | [] => ([], object)
  | request :: rest =>
    let (answer, after) := serve object request
    let (others, last) := serveAll serve after rest
    (answer :: others, last)

variable {serve : Object → Request → Answer × Object}
  {serveOther : Other → Request → Answer × Other}

theorem serveAll_cons (object : Object) (request : Request) (rest : List Request) :
    serveAll serve object (request :: rest) =
      ((serve object request).1 :: (serveAll serve (serve object request).2 rest).1,
        (serveAll serve (serve object request).2 rest).2) :=
  rfl

theorem serveAll_state (serve : Object → Request → Answer × Object) (object : Object)
    (requests : List Request) :
    (serveAll serve object requests).2 =
      requests.foldl (fun current request => (serve current request).2) object := by
  induction requests generalizing object with
  | nil => rfl
  | cons request rest ih => rw [serveAll_cons, ih, List.foldl_cons]

theorem serveAll_keeps (kept : Object → Prop)
    (each : ∀ object request, kept object → kept (serve object request).2)
    {object : Object} (start : kept object) (requests : List Request) :
    kept (serveAll serve object requests).2 := by
  induction requests generalizing object with
  | nil => exact start
  | cons request rest ih => exact ih (each object request start)

theorem serveAll_latest (value : Object → Value) {touches : Request → Prop}
    [DecidablePred touches] {written : Request → Value}
    (each : ∀ object request, value (serve object request).2 =
      if touches request then written request else value object)
    (object : Object) (requests : List Request) :
    value (serveAll serve object requests).2 =
      latest touches written (value object) requests := by
  rw [serveAll_state]
  exact foldl_latest value each object requests

theorem serveAll_alike (alike : Object → Other → Prop) {requests : List Request}
    (each : ∀ request ∈ requests, ∀ object other, alike object other →
      (serve object request).1 = (serveOther other request).1 ∧
        alike (serve object request).2 (serveOther other request).2)
    {object : Object} {other : Other} (start : alike object other) :
    (serveAll serve object requests).1 = (serveAll serveOther other requests).1 ∧
      alike (serveAll serve object requests).2 (serveAll serveOther other requests).2 := by
  induction requests generalizing object other with
  | nil => exact ⟨rfl, start⟩
  | cons request rest ih =>
    rw [List.forall_mem_cons] at each
    obtain ⟨answer, after⟩ := each.1 object other start
    obtain ⟨answers, last⟩ := ih each.2 after
    rw [serveAll_cons, serveAll_cons, answer, answers]
    exact ⟨rfl, last⟩

end ChipEight
