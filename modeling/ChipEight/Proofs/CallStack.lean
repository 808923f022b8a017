import ChipEight.CallStack

set_option autoImplicit false

namespace ChipEight.CallStack

variable {depth : Int} {stack after : CallStack depth} {address : Int}

theorem push_ok (pushed : stack.push address = .ok after) :
    after.used = stack.used + 1 ∧ ∀ (slot : Nat) (inside : slot < depth.toNat),
      after.slots[slot] = if slot = stack.used then address else stack.slots[slot] := by
  unfold push at pushed
  split at pushed
  next room =>
    cases pushed
    refine ⟨rfl, fun slot inside => ?_⟩
    simp only [Vector.getElem_set, eq_comm (a := stack.used)]
  next => cases pushed

theorem push_full (address : Int) (full : stack.used = depth.toNat) :
    stack.push address = .error (.stackFull depth) :=
  dif_neg (by omega)

theorem push_room (address : Int) (room : stack.used < depth.toNat) :
    ∃ after, stack.push address = .ok after :=
  ⟨_, dif_pos room⟩

theorem pop_ok (popped : stack.pop = .ok (address, after)) :
    stack.used = after.used + 1 ∧
      (∀ inside : after.used < depth.toNat, address = stack.slots[after.used]) ∧
      ∀ (slot : Nat) (inside : slot < depth.toNat),
        after.slots[slot] = if slot = after.used then 0 else stack.slots[slot] := by
  unfold pop at popped
  split at popped
  next someUsed =>
    cases popped
    refine ⟨by simp only; omega, fun inside => rfl, fun slot inside => ?_⟩
    simp only [Vector.getElem_set, eq_comm (a := stack.used - 1)]
  next => cases popped

theorem pop_live (popped : stack.pop = .ok (address, after)) :
    stack.live = after.live ++ [address] := by
  unfold pop at popped
  split at popped
  next someUsed =>
    cases popped
    have inside : stack.used - 1 < stack.slots.toList.length := by
      have := stack.used_le
      rw [Vector.length_toList]
      omega
    have taken := List.take_succ_eq_append_getElem inside
    rw [Nat.sub_add_cancel someUsed] at taken
    simp only [live, Vector.toList_set, List.take_set_of_le (Nat.le_refl _)]
    exact taken
  next => cases popped

theorem pop_empty (unused : stack.used = 0) : stack.pop = .error .stackEmpty :=
  dif_neg (by omega)

theorem pop_some (someUsed : 0 < stack.used) : ∃ address after, stack.pop = .ok (address, after) :=
  ⟨_, _, dif_pos someUsed⟩

-- The slots in use hold addresses at which a word can be fetched, and all others hold zero.
structure Tidy (stack : CallStack depth) : Prop where
  calls : ∀ (slot : Nat) (inside : slot < depth.toNat), slot < stack.used →
    0 ≤ stack.slots[slot] ∧ stack.slots[slot] ≤ 0xFFE
  zeros : ∀ (slot : Nat) (inside : slot < depth.toNat), stack.used ≤ slot → stack.slots[slot] = 0

theorem empty_tidy : (empty : CallStack depth).Tidy where
  calls := fun slot _ below => absurd below (Nat.not_lt_zero slot)
  zeros := fun slot inside _ => by simp [empty]

theorem Tidy.push (tidy : stack.Tidy) (inside : 0 ≤ address ∧ address ≤ 0xFFE)
    (pushed : stack.push address = .ok after) : after.Tidy := by
  obtain ⟨used, slots⟩ := push_ok pushed
  constructor
  · intro slot bound below
    rw [slots slot bound]
    split
    next => exact inside
    next other => exact tidy.calls slot bound (by omega)
  · intro slot bound above
    rw [slots slot bound, if_neg (by omega)]
    exact tidy.zeros slot bound (by omega)

theorem Tidy.pop (tidy : stack.Tidy) (popped : stack.pop = .ok (address, after)) :
    (0 ≤ address ∧ address ≤ 0xFFE) ∧ after.Tidy := by
  obtain ⟨used, youngest, slots⟩ := pop_ok popped
  -- The slot that has been given back exists, because it was in use before.
  have bound : after.used < depth.toNat := by
    have := stack.used_le
    omega
  refine ⟨?_, ?_, ?_⟩
  · rw [youngest bound]
    exact tidy.calls after.used bound (by omega)
  · intro slot bound below
    rw [slots slot bound, if_neg (by omega)]
    exact tidy.calls slot bound (by omega)
  · intro slot bound above
    rw [slots slot bound]
    split
    next => rfl
    next other => exact tidy.zeros slot bound (by omega)

end ChipEight.CallStack
