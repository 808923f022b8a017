import ChipEight.Proofs.Lockstep
import ChipEight.Proofs.Stores

set_option autoImplicit false

namespace ChipEight

namespace Memory

def InFont (place : Fin 4096) : Prop :=
  0x50 ≤ place.val ∧ place.val ≤ 0x9F

def Lettered (memory : Memory) : Prop :=
  ∀ place, InFont place → Font.glyphs[place.val - 0x50]? = some (memory.bytes.get place)

variable {memory other : Memory} {place : Fin 4096}

theorem loadFont_lettered (memory : Memory) : memory.loadFont.Lettered := by
  intro place inside
  obtain ⟨above, below⟩ := inside
  have within : place.val - 0x50 < Font.glyphs.size := by
    have glyphs : Font.glyphs.size = 80 := rfl
    omega
  rw [loadFont, get_overlay, Font.start, if_pos above, Array.getElem?_eq_getElem within,
    Option.getD_some]

theorem get_loadFont (outside : ¬ InFont place) :
    memory.loadFont.bytes.get place = memory.bytes.get place := by
  rw [loadFont, get_overlay, Font.start]
  split
  next above =>
    have beyond : Font.glyphs[place.val - 0x50]? = none := by
      have glyphs : Font.glyphs.size = 80 := rfl
      exact Array.getElem?_eq_none (by rw [InFont] at outside; omega)
    rw [beyond, Option.getD_none]
  next => rfl

theorem loadFont_eq (lettered : other.Lettered)
    (same : ∀ place, ¬ InFont place → memory.bytes.get place = other.bytes.get place) :
    memory.loadFont = other := by
  apply ext_get
  intro place
  by_cases inside : InFont place
  · exact Option.some.inj ((memory.loadFont_lettered place inside).symm.trans (lettered place inside))
  · rw [get_loadFont inside, same place inside]

theorem Lettered.loadProgram {program : Array UInt8} {length : Nat} (lettered : memory.Lettered)
    (loaded : memory.loadProgram program = .ok (length, other)) : other.Lettered := by
  intro place inside
  -- Programs begin above the font.
  have below : ¬ programStart ≤ place.val := by
    have := inside.2
    rw [programStart]
    omega
  unfold Memory.loadProgram at loaded
  split at loaded
  next =>
    cases loaded
    rw [get_overlay, if_neg below]
    exact lettered place inside
  next => cases loaded

end Memory

namespace Machine

structure Restored (machine after : Machine) : Prop where
  cleared : after =
    { new machine.legacy machine.random with memory := after.memory, keypad := machine.keypad }
  font : after.memory.Lettered
  kept : ∀ place, ¬ Memory.InFont place →
    after.memory.bytes.get place = machine.memory.bytes.get place

def Confined (tracing : Bool) (machine : Machine) (keypads : List Keypad) : Prop :=
  machine.legacy = true ∨
    ∀ store ∈ (machine.visited tracing keypads).flatMap (digitStores tracing),
      0x50 ≤ store.address ∧ store.address + 2 ≤ 0x9F

-- Stated for any memories: those of two concrete machines would be compared byte by byte.
theorem powerOn_with (legacy : Bool) (memory other : Memory) (keypad latch : Keypad)
    (random : RandomSource) :
    { powerOn legacy memory keypad random with memory := other, keypad := latch } =
      powerOn legacy other latch random :=
  rfl

theorem reset_memory (machine : Machine) : machine.reset.memory = machine.memory.loadFont :=
  rfl

theorem reset_restored (machine : Machine) : machine.Restored machine.reset where
  cleared := (powerOn_with machine.legacy Memory.fresh machine.memory.loadFont Keypad.released
    machine.keypad machine.random).symm
  font := by
    rw [reset_memory]
    exact machine.memory.loadFont_lettered
  kept := by
    intro place outside
    rw [reset_memory, Memory.get_loadFont outside]

variable {tracing : Bool} {machine : Machine} {keypads : List Keypad}

theorem Confined.get_run (confined : machine.Confined tracing keypads) {place : Fin 4096}
    (outside : ¬ Memory.InFont place) :
    (machine.run tracing keypads).memory.bytes.get place = machine.memory.bytes.get place := by
  rcases confined with legacy | stores
  · rw [memory_run_legacy legacy]
  · refine (byte_recorded tracing place).run_untouched fun store member covered => outside ?_
    have within := stores store member
    have first := covered.1
    have last := covered.2
    rw [Memory.InFont]
    omega

theorem reset_run (lettered : machine.memory.Lettered) (confined : machine.Confined tracing keypads) :
    (machine.run tracing keypads).reset =
      powerOn machine.legacy machine.memory (machine.run tracing keypads).keypad
        (machine.run tracing keypads).random := by
  rw [reset, run_legacy, Memory.loadFont_eq lettered fun place outside => confined.get_run outside]

theorem cycles_hold (machine : Machine) (keypad : Keypad) (keypads : List Keypad) :
    (machine.hold keypad).cycles tracing keypads = machine.cycles tracing keypads := by
  cases keypads with
  | nil => rfl
  | cons next rest => rfl

theorem visited_take (machine : Machine) (keypads : List Keypad) (count : Nat) :
    machine.visited tracing (keypads.take count) = (machine.visited tracing keypads).take count := by
  induction keypads generalizing machine count with
  | nil => simp only [List.take_nil, visited]
  | cons keypad rest ih =>
    cases count with
    | zero => rfl
    | succ count => simp only [List.take_succ_cons, visited, ih]

/-- A reset restores every machine, and a run that stores nothing but over the font is repeated
after it. -/
theorem reset_replays :
    (∀ machine : Machine, machine.Restored machine.reset) ∧
    ∀ {legacy : Bool} {random : RandomSource} {program : Array UInt8} {length : Nat}
      {loaded : Machine} {tracing : Bool} {keypads : List Keypad},
      (new legacy random).loadProgram program = .ok (length, loaded) →
      loaded.Confined tracing keypads →
      let last := loaded.run tracing keypads
      last.reset = { loaded with keypad := last.keypad, random := last.random } ∧
      ∀ count, { last.reset with random := random }.cycles tracing (keypads.take count) =
        (loaded.cycles tracing keypads).take count := by
  refine ⟨reset_restored, ?_⟩
  intro legacy random program length loaded tracing keypads load confined last
  obtain ⟨memory, copied, frame⟩ := loadProgram_frame load
  have same : loaded = powerOn legacy memory Keypad.released random :=
    frame.trans (powerOn_with legacy Memory.fresh memory Keypad.released Keypad.released random)
  have lettered : loaded.memory.Lettered := by
    rw [same]
    exact Memory.Lettered.loadProgram (Memory.loadFont_lettered _) copied
  have back : last.reset = { loaded with keypad := last.keypad, random := last.random } := by
    have cleared : last.reset = powerOn loaded.legacy loaded.memory last.keypad last.random :=
      reset_run lettered confined
    rw [cleared, same]
    rfl
  refine ⟨back, fun count => ?_⟩
  have start : { last.reset with random := random } = loaded.hold last.keypad := by
    rw [back, same]
    rfl
  rw [start, cycles_hold, cycles, cycles, visited_take, List.map_take]

-- Stores the digits of 123 over the glyph of 0.
def blotter : Machine :=
  ofProgram false (RandomSource.cycling #[]) [0x60, 0x7B, 0xA0, 0x50, 0xF0, 0x33] (by decide)

theorem blotter_replays :
    let last := blotter.run false (List.replicate 3 Keypad.released)
    last.memory.bytes.get 0x50 = 1 ∧
    last.reset = { blotter with keypad := last.keypad, random := last.random } ∧
    ∀ count, { last.reset with random := RandomSource.cycling #[] }.cycles false
        ((List.replicate 3 Keypad.released).take count) =
      (blotter.cycles false (List.replicate 3 Keypad.released)).take count := by
  have fits : [(0x60 : UInt8), 0x7B, 0xA0, 0x50, 0xF0, 0x33].length ≤ 0xE00 := by decide
  have load := loadProgram_new false (RandomSource.cycling #[]) fits
  have confined : blotter.Confined false (List.replicate 3 Keypad.released) :=
    .inr (by decide +kernel)
  have blotted : (blotter.run false (List.replicate 3 Keypad.released)).memory.bytes.get 0x50 = 1 := by
    decide +kernel
  exact ⟨blotted, reset_replays.2 load confined⟩

end Machine

end ChipEight
