import ChipEight.App.Basic

set_option autoImplicit false

namespace ChipEight

def Fair (schedule : Nat → Turn) : Prop :=
  ∀ turn time, ∃ delay, schedule (time + delay) = turn

namespace Presentation

def following (presentation : Presentation) (schedule : Nat → Turn) (time : Nat) : Presentation :=
  presentation.run ((List.range time).map schedule)

theorem following_succ (presentation : Presentation) (schedule : Nat → Turn) (time : Nat) :
    presentation.following schedule (time + 1) =
      (presentation.following schedule time).take (schedule time) := by
  rw [following, List.range_succ, List.map_append, run, List.foldl_append]
  rfl

/-- A rank that the turns of one lower until it is zero, and those of the other do not raise. -/
structure Progress (Holds : Presentation → Prop) (rank : Presentation → Nat) (turn : Turn) :
    Prop where
  keeps : ∀ presentation any, Holds presentation → Holds (presentation.take any)
  lowers : ∀ presentation, Holds presentation → rank presentation ≠ 0 →
    rank (presentation.take turn) < rank presentation
  waits : ∀ presentation other, Holds presentation → other ≠ turn →
    rank (presentation.take other) ≤ rank presentation

namespace Progress

variable {Holds : Presentation → Prop} {rank : Presentation → Nat} {turn : Turn}
  {start : Presentation} {schedule : Nat → Turn}

theorem lowered (progress : Progress Holds rank turn) {delay time : Nat}
    (holds : Holds (start.following schedule time))
    (unfinished : rank (start.following schedule time) ≠ 0)
    (helps : schedule (time + delay) = turn) :
    ∃ later, Holds (start.following schedule later) ∧
      rank (start.following schedule later) < rank (start.following schedule time) := by
  induction delay generalizing time with
  | zero =>
    refine ⟨time + 1, ?_⟩
    rw [following_succ, show schedule time = turn from helps]
    exact ⟨progress.keeps _ turn holds, progress.lowers _ holds unfinished⟩
  | succ delay ih =>
    have next := progress.keeps _ (schedule time) holds
    by_cases now : schedule time = turn
    · have less := progress.lowers _ holds unfinished
      rw [← now, ← following_succ] at less
      exact ⟨time + 1, following_succ start schedule time ▸ next, less⟩
    -- The turn may be in vain, but the one that helps is nearer by one.
    have waited := progress.waits _ (schedule time) holds now
    rw [← following_succ] at next waited
    rcases Nat.lt_or_eq_of_le waited with less | same
    · exact ⟨time + 1, next, less⟩
    · rw [← same]
      exact ih next (same ▸ unfinished) (by rw [← helps, Nat.add_right_comm, Nat.add_assoc])

theorem reaches (progress : Progress Holds rank turn) (fair : Fair schedule) {time : Nat}
    (holds : Holds (start.following schedule time)) :
    ∃ later, Holds (start.following schedule later) ∧
      rank (start.following schedule later) = 0 := by
  generalize bound : rank (start.following schedule time) = value
  induction value using Nat.strongRecOn generalizing time with
  | ind value ih =>
    by_cases finished : value = 0
    · exact ⟨time, holds, bound.trans finished⟩
    · obtain ⟨delay, helps⟩ := fair turn time
      obtain ⟨later, still, less⟩ := progress.lowered holds (bound ▸ finished) helps
      exact ih _ (bound ▸ less) still rfl

end Progress

end Presentation

end ChipEight
