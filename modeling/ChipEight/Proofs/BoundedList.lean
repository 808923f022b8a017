import ChipEight.Proofs.CallStack
import ChipEight.Proofs.Service

set_option autoImplicit false

namespace ChipEight.CallStack

inductive Request where
  | push (address : Int)
  | pop

variable {depth : Int}

def obey (stack : CallStack depth) : Request → Except Fault (Option Int) × CallStack depth
  | .push address => settle stack do
      return (none, ← stack.push address)
  | .pop => settle stack do
      let (address, after) ← stack.pop
      return (some address, after)

def obeyAsList (depth : Int) (list : List Int) : Request → Except Fault (Option Int) × List Int
  | .push address =>
    if (list.length : Int) = max depth 0 then (.error (.stackFull depth), list)
    else (.ok none, list ++ [address])
  | .pop =>
    match list.getLast? with
    | none => (.error .stackEmpty, list)
    | some youngest => (.ok (some youngest), list.dropLast)

structure Holds (stack : CallStack depth) (list : List Int) : Prop where
  used : stack.used = list.length
  slots : stack.slots.toList = list ++ List.replicate (depth.toNat - list.length) 0

theorem empty_holds : (empty : CallStack depth).Holds [] where
  used := rfl
  slots := Vector.toList_replicate

namespace Holds

variable {stack : CallStack depth} {list : List Int}

theorem length_le (holds : stack.Holds list) : list.length ≤ depth.toNat :=
  holds.used ▸ stack.used_le

theorem live (holds : stack.Holds list) : stack.live = list := by
  rw [CallStack.live, holds.used, holds.slots, List.take_left]

theorem push (holds : stack.Holds list) (address : Int) :
    (stack.obey (.push address)).1 = (obeyAsList depth list (.push address)).1 ∧
      (stack.obey (.push address)).2.Holds (obeyAsList depth list (.push address)).2 := by
  have bound := holds.length_le
  have used := holds.used
  by_cases full : (list.length : Int) = max depth 0
  · have refused := push_full address (show stack.used = depth.toNat by omega)
    simp only [CallStack.obey, obeyAsList, refused, if_pos full]
    exact ⟨rfl, holds⟩
  · have room : stack.used < depth.toNat := by omega
    simp only [CallStack.obey, obeyAsList, CallStack.push, dif_pos room, if_neg full]
    refine ⟨rfl, ?_, ?_⟩
    · change stack.used + 1 = _
      rw [used, List.length_append, List.length_singleton]
    · -- The slot behind the youngest address was the first of the zeros.
      obtain ⟨free, zeros⟩ : ∃ free, depth.toNat - list.length = free + 1 :=
        ⟨depth.toNat - list.length - 1, by omega⟩
      have fewer : depth.toNat - (list ++ [address]).length = free := by
        rw [List.length_append, List.length_singleton]
        omega
      change (stack.slots.set stack.used address room).toList = _
      rw [Vector.toList_set, holds.slots, used, zeros, fewer, List.replicate_succ,
        List.set_append_right _ _ (Nat.le_refl _), Nat.sub_self, List.set_cons_zero,
        List.append_assoc, List.singleton_append]

theorem pop (holds : stack.Holds list) :
    (stack.obey .pop).1 = (obeyAsList depth list .pop).1 ∧
      (stack.obey .pop).2.Holds (obeyAsList depth list .pop).2 := by
  have bound := holds.length_le
  have used := holds.used
  rcases list.eq_nil_or_concat with rfl | ⟨older, youngest, same⟩
  · simp only [CallStack.obey, obeyAsList, pop_empty used, List.getLast?_nil]
    exact ⟨rfl, holds⟩
  · rw [List.concat_eq_append] at same
    subst same
    rw [List.length_append, List.length_singleton] at used bound
    have someUsed : 0 < stack.used := by omega
    have slots := holds.slots
    rw [List.append_assoc, List.singleton_append] at slots
    have place : stack.used - 1 = older.length := by omega
    have found : stack.slots.toList[stack.used - 1]? = some youngest := by
      rw [slots, place, List.getElem?_append_right (Nat.le_refl _), Nat.sub_self,
        List.getElem?_cons_zero]
    have taken : stack.slots[stack.used - 1] = youngest :=
      (List.getElem?_eq_some_iff.mp found).2
    simp only [CallStack.obey, obeyAsList, CallStack.pop, dif_pos someUsed, List.getLast?_concat,
      List.dropLast_concat]
    refine ⟨congrArg (fun address => Except.ok (some address)) taken, place, ?_⟩
    -- The zero in place of the youngest address lies right in front of the others.
    have zeros : depth.toNat - older.length =
        depth.toNat - (older ++ [youngest]).length + 1 := by
      rw [List.length_append, List.length_singleton]
      omega
    change (stack.slots.set (stack.used - 1) 0).toList = _
    rw [Vector.toList_set, slots, place, zeros, List.replicate_succ,
      List.set_append_right _ _ (Nat.le_refl _), Nat.sub_self, List.set_cons_zero]

theorem obey (holds : stack.Holds list) (request : Request) :
    (stack.obey request).1 = (obeyAsList depth list request).1 ∧
      (stack.obey request).2.Holds (obeyAsList depth list request).2 := by
  cases request with
  | push address => exact holds.push address
  | pop => exact holds.pop

end Holds

theorem ofDepth_ok {room : Int} {stack : CallStack depth}
    (made : ofDepth depth room = .ok stack) : stack = empty := by
  simp only [ofDepth] at made
  cases checked : Row.checkSize depth room with
  | error fault =>
    rw [checked] at made
    cases made
  | ok =>
    rw [checked] at made
    cases made
    rfl

theorem ofDepth_inside {room : Int}
    (small : -0x8000000000000000 ≤ depth ∧ depth < 0x8000000000000000) (roomy : depth ≤ room) :
    ofDepth depth room = .ok empty := by
  rw [ofDepth, Row.checkSize_inside small roomy]
  rfl

/-- A new stack gives the answers of a list of bounded length, and holds its addresses. -/
theorem holds_bounded_list (depth room : Int) :
    (∀ stack : CallStack depth, ofDepth depth room = .ok stack → stack = empty) ∧
    (-0x8000000000000000 ≤ depth ∧ depth < 0x8000000000000000 → depth ≤ room →
      ofDepth depth room = .ok (empty : CallStack depth)) ∧
    ∀ requests : List Request,
      let (answers, stack) := serveAll obey (empty : CallStack depth) requests
      let (listAnswers, list) := serveAll (obeyAsList depth) [] requests
      answers = listAnswers ∧ stack.live = list ∧ stack.used = list.length ∧
      stack.slots.toList = list ++ List.replicate (depth.toNat - list.length) 0 ∧
      (stack.slots.toList.length : Int) = max depth 0 ∧
      ∀ request fault, (stack.obey request).1 = .error fault →
        (stack.obey request).2 = stack := by
  refine ⟨fun _ => ofDepth_ok, ofDepth_inside, fun requests => ?_⟩
  have each (request : Request) (_ : request ∈ requests) (stack : CallStack depth)
      (list : List Int) (holds : stack.Holds list) := holds.obey request
  obtain ⟨answers, holds⟩ := serveAll_alike Holds each empty_holds
  refine ⟨answers, holds.live, holds.used, holds.slots, ?_, fun request fault failed => ?_⟩
  · rw [Vector.length_toList]
    omega
  · cases request with
    | push address => exact settle_error failed
    | pop => exact settle_error failed

end ChipEight.CallStack
