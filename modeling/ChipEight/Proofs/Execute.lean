import ChipEight.Proofs.CallStack
import ChipEight.Proofs.Sprite

set_option autoImplicit false

namespace ChipEight.Machine

theorem storeBytes_inside (machine : Machine) (address : Int) (bytes : List UInt8)
    (inside : 0 ≤ address ∧ address + bytes.length ≤ 4096) :
    ∃ memory, machine.storeBytes address bytes = ⟨{ machine with memory := memory }, none⟩ := by
  induction bytes generalizing machine address with
  | nil => exact ⟨machine.memory, rfl⟩
  | cons byte rest ih =>
    simp only [List.length_cons] at inside
    simp only [storeBytes, Memory.write_inside _ (show 0 ≤ address ∧ address < 4096 by omega)]
    exact ih _ _ (by omega)

theorem loadBytes_inside (machine : Machine) (targets : List (Fin 16))
    (inside : 0 ≤ machine.index ∧ machine.index + targets.length ≤ 4096) :
    ∃ registers, machine.loadBytes targets =
      ⟨{ machine with registers := registers, index := machine.index + targets.length }, none⟩ := by
  induction targets generalizing machine with
  | nil => exact ⟨machine.registers, by simp [loadBytes]⟩
  | cons target rest ih =>
    simp only [List.length_cons] at inside
    -- `I` moves along with the bytes, so that the rest of them begins where it then points.
    have address : 0 ≤ machine.index ∧ machine.index < 4096 := by omega
    simp only [loadBytes, Memory.read_inside _ address]
    obtain ⟨registers, loaded⟩ := ih
      { machine.setRegister target _ with index := machine.index + 1 } (by dsimp only; omega)
    refine ⟨registers, loaded.trans ?_⟩
    simp only [List.length_cons, setRegister, Outcome.mk.injEq, mk.injEq, and_true, true_and]
    omega

theorem length_loadTargets (legacy : Bool) (x : Fin 16) :
    (loadTargets legacy x).length = x.val + 1 := by
  cases legacy
  · simp only [loadTargets, Bool.false_eq_true, if_false, List.length_take, List.length_finRange]
    omega
  · exact List.length_replicate

theorem returnToCaller_cases (machine : Machine) :
    (0 < machine.stack.used ∧ ∃ address stack, machine.stack.pop = .ok (address, stack) ∧
      machine.returnToCaller = { machine with stack := stack }.jumpTo (address + 2)) ∨
    (machine.stack.used = 0 ∧ machine.returnToCaller = machine.failed .stackEmpty) := by
  by_cases unused : machine.stack.used = 0
  · refine .inr ⟨unused, ?_⟩
    simp only [returnToCaller, CallStack.pop_empty unused]
  · obtain ⟨address, stack, popped⟩ := CallStack.pop_some (Nat.pos_of_ne_zero unused)
    refine .inl ⟨Nat.pos_of_ne_zero unused, address, stack, popped, ?_⟩
    simp only [returnToCaller, popped]

theorem callTo_cases (machine : Machine) (target : Int) :
    (machine.stack.used < 24 ∧ ∃ stack, machine.stack.push machine.pc = .ok stack ∧
      machine.callTo target = { machine with stack := stack }.jumpTo target) ∨
    (machine.stack.used = 24 ∧ machine.callTo target = machine.failed (.stackFull 24)) := by
  by_cases full : machine.stack.used = 24
  · refine .inr ⟨full, ?_⟩
    simp only [callTo, CallStack.push_full machine.pc full]
  · have room : machine.stack.used < 24 := Nat.lt_of_le_of_ne machine.stack.used_le full
    obtain ⟨stack, pushed⟩ := CallStack.push_room machine.pc room
    refine .inl ⟨room, stack, pushed, ?_⟩
    simp only [callTo, pushed]

theorem drawSprite_cases (machine : Machine) (x y : Fin 16) (height : Nat) :
    ((machine.plot (machine.register x) (machine.register y) (spriteCells height)).fault = none ∧
      machine.drawSprite x y height =
        { (machine.plot (machine.register x) (machine.register y) (spriteCells height)).machine with
          draw := true }.advance) ∨
    ∃ fault, (machine.plot (machine.register x) (machine.register y)
        (spriteCells height)).fault = some fault ∧
      machine.drawSprite x y height =
        machine.plot (machine.register x) (machine.register y) (spriteCells height) := by
  generalize drawn : machine.plot (machine.register x) (machine.register y)
    (spriteCells height) = outcome
  cases complete : outcome.fault with
  | none => exact .inl ⟨rfl, by simp only [drawSprite, drawn, Outcome.thenDraw, complete]; rfl⟩
  | some fault =>
    refine .inr ⟨fault, rfl, ?_⟩
    simp only [drawSprite, drawn, Outcome.thenDraw, Outcome.thenAdvance, complete]

theorem skipOnKey_cases (machine : Machine) (x : Fin 16) (down : Bool) :
    (∃ inside : (machine.register x).toNat < 16, machine.skipOnKey x down =
      machine.skipWhen (machine.keypad.pressed.get ⟨_, inside⟩ == down)) ∨
    (15 < (machine.register x).toNat ∧ machine.skipOnKey x down = machine.failed .indexOutside) := by
  by_cases inside : (machine.register x).toNat < 16
  · refine .inl ⟨inside, ?_⟩
    simp only [skipOnKey, Keypad.read_inside _ inside]
  · have byte := (machine.register x).toNat_lt
    refine .inr ⟨by omega, ?_⟩
    simp only [skipOnKey, Keypad.read_beyond _ byte (by omega)]

theorem readDelay_cases (machine : Machine) (x : Fin 16) :
    ((0 ≤ machine.delay ∧ machine.delay < 256) ∧
      ∃ value, machine.readDelay x = (machine.setRegister x value).advance) ∨
    (¬ (0 ≤ machine.delay ∧ machine.delay < 256) ∧
      machine.readDelay x = machine.failed .notAByte) := by
  by_cases inside : 0 ≤ machine.delay ∧ machine.delay < 256
  · refine .inl ⟨inside, UInt8.ofNat machine.delay.toNat, ?_⟩
    simp only [readDelay, Row.byte_inside inside]
  · refine .inr ⟨inside, ?_⟩
    simp only [readDelay, Row.byte_outside inside]

theorem storeDigits_cases (machine : Machine) (x : Fin 16) :
    ((machine.legacy = true ∨ 0 ≤ machine.index ∧ machine.index + 3 ≤ 4096) ∧
      ∃ memory, machine.storeDigits x = { machine with memory := memory }.advance) ∨
    (¬ (machine.legacy = true ∨ 0 ≤ machine.index ∧ machine.index + 3 ≤ 4096) ∧
      machine.storeDigits x = machine.failed (.rangeOutside machine.index 3)) := by
  by_cases legacy : machine.legacy = true
  · refine .inl ⟨.inl legacy, machine.memory, ?_⟩
    simp only [storeDigits, if_pos legacy]
  · by_cases inside : 0 ≤ machine.index ∧ machine.index + 3 ≤ 4096
    · obtain ⟨memory, stored⟩ := machine.storeBytes_inside machine.index
        (decimalDigits (machine.register x)) inside
      refine .inl ⟨.inr inside, memory, ?_⟩
      simp only [storeDigits, if_neg legacy, Memory.checkRange_inside inside, stored,
        Outcome.thenAdvance]
    · refine .inr ⟨not_or.mpr ⟨legacy, inside⟩, ?_⟩
      simp only [storeDigits, if_neg legacy, Memory.checkRange_outside inside]

theorem loadRegisters_cases (machine : Machine) (x : Fin 16) :
    ((0 ≤ machine.index ∧ machine.index + (x.val + 1) ≤ 4096) ∧
      ∃ registers, machine.loadRegisters x =
        { machine with registers := registers, index := machine.index + (x.val + 1) }.advance) ∨
    (¬ (0 ≤ machine.index ∧ machine.index + (x.val + 1) ≤ 4096) ∧
      machine.loadRegisters x = machine.failed (.rangeOutside machine.index (x.val + 1))) := by
  by_cases inside : 0 ≤ machine.index ∧ machine.index + (x.val + 1) ≤ 4096
  · have length := length_loadTargets machine.legacy x
    obtain ⟨registers, loaded⟩ := machine.loadBytes_inside (loadTargets machine.legacy x)
      (by omega)
    refine .inl ⟨inside, registers, ?_⟩
    simp only [loadRegisters, Memory.checkRange_inside inside, loaded, Outcome.thenAdvance, length,
      Int.natCast_add, Int.cast_ofNat_Int]
  · refine .inr ⟨inside, ?_⟩
    simp only [loadRegisters, Memory.checkRange_outside inside]

/-- A complete instruction and the machine it leaves behind. -/
inductive Completes (machine : Machine) : Instruction → Machine → Prop where
  | compute {instruction : Instruction} (registers : Vector UInt8 16) (random : RandomSource)
    (named : instruction.operation ∈
      [.set, .addConstant, .copy, .and, .add, .subtract, .random, .readDelay]) :
    Completes machine instruction
      { machine with registers := registers, random := random, pc := machine.pc + 2 }
  | skip {instruction : Instruction} (condition : Bool)
    (named : instruction.operation ∈ [.skipEqual, .skipNotEqual, .skipPressed, .skipReleased]) :
    Completes machine instruction { machine with pc := machine.pc + if condition then 4 else 2 }
  | jump (target : Fin 4096) :
    Completes machine (.jump target) { machine with pc := target.val }
  | call (target : Fin 4096) {stack : CallStack 24}
    (pushed : machine.stack.push machine.pc = .ok stack) :
    Completes machine (.call target) { machine with stack := stack, pc := target.val }
  | ret {address : Int} {stack : CallStack 24}
    (popped : machine.stack.pop = .ok (address, stack)) :
    Completes machine .ret { machine with stack := stack, pc := address + 2 }
  | point {instruction : Instruction} (index : Int) (bounds : 0 ≤ index ∧ index ≤ 0xFFFF)
    (named : instruction.operation ∈ [.setIndex, .addIndex, .selectGlyph]) :
    Completes machine instruction { machine with index := index, pc := machine.pc + 2 }
  | setDelay (x : Fin 16) :
    Completes machine (.setDelay x)
      { machine with delay := (machine.register x).toNat, pc := machine.pc + 2 }
  | setSound (x : Fin 16) :
    Completes machine (.setSound x)
      { machine with sound := (machine.register x).toNat, pc := machine.pc + 2 }
  | clearScreen :
    Completes machine .clearScreen
      { machine with display := Display.blank, draw := true, pc := machine.pc + 2 }
  | draw (x y height : Fin 16) (drawn : Machine)
    (painted : Painted ((spriteCells height.val).map
      (cellPoint (machine.register x) (machine.register y))) machine drawn) :
    Completes machine (.draw x y height) { drawn with draw := true, pc := drawn.pc + 2 }
  | storeDigits (x : Fin 16) (memory : Memory) :
    Completes machine (.storeDigits x) { machine with memory := memory, pc := machine.pc + 2 }
  | loadRegisters (x : Fin 16) (registers : Vector UInt8 16)
    (inside : 0 ≤ machine.index ∧ machine.index + (x.val + 1) ≤ 4096) :
    Completes machine (.loadRegisters x)
      { machine with
        registers := registers, index := machine.index + (x.val + 1), pc := machine.pc + 2 }

structure Kept (machine : Machine) (instruction : Instruction) (after : Machine) : Prop where
  index : instruction.operation ∉ [.setIndex, .addIndex, .selectGlyph, .loadRegisters] →
    after.index = machine.index
  stack : instruction.operation ∉ [.call, .ret] → after.stack = machine.stack
  display : instruction.operation ∉ [.clearScreen, .draw] → after.display = machine.display
  delay : instruction.operation ≠ .setDelay → after.delay = machine.delay
  sound : instruction.operation ≠ .setSound → after.sound = machine.sound
  draw : after.draw = true ↔ instruction.operation ∈ [.clearScreen, .draw]

def Permits (machine : Machine) : Instruction → Prop
  | .ret => 0 < machine.stack.used
  | .call _ => machine.stack.used < 24
  | .draw x y height =>
    height.val = 0 ∨ (0 ≤ machine.index ∧ machine.index + height.val ≤ 4096) ∧
      (machine.register x).toNat ≤ 56 ∧ (machine.register y).toNat + height.val ≤ 32
  | .skipPressed x | .skipReleased x => (machine.register x).toNat ≤ 15
  | .readDelay _ => 0 ≤ machine.delay ∧ machine.delay < 256
  | .storeDigits _ => machine.legacy = true ∨ 0 ≤ machine.index ∧ machine.index + 3 ≤ 4096
  | .loadRegisters x => 0 ≤ machine.index ∧ machine.index + (x.val + 1) ≤ 4096
  | _ => True

/-- A failing instruction, its fault, and the machine it leaves behind. -/
inductive Breaks (machine : Machine) : Instruction → Fault → Machine → Prop where
  | bounds {instruction : Instruction} {fault : Fault} (kind : fault.kind = .bounds) :
    Breaks machine instruction fault machine
  | delay (x : Fin 16) (outside : ¬ (0 ≤ machine.delay ∧ machine.delay < 256)) :
    Breaks machine (.readDelay x) .notAByte machine
  | draw (x y height : Fin 16) {fault : Fault} {drawn : Machine} (kind : fault.kind = .bounds)
    (painted : Painted ((spriteCells height.val).map
      (cellPoint (machine.register x) (machine.register y))) machine drawn) :
    Breaks machine (.draw x y height) fault drawn

theorem Breaks.frame {machine after : Machine} {instruction : Instruction} {fault : Fault}
    (breaks : Breaks machine instruction fault after) :
    ∃ registers display, after = { machine with registers := registers, display := display } := by
  cases breaks with
  | bounds => exact ⟨machine.registers, machine.display, rfl⟩
  | delay => exact ⟨machine.registers, machine.display, rfl⟩
  | draw _ _ _ _ painted => exact painted.frame

theorem execute_cases (machine : Machine) (instruction : Instruction) :
    (machine.Permits instruction ∧ ∃ after,
      machine.execute instruction = ⟨after, none⟩ ∧ Completes machine instruction after) ∨
    (¬ machine.Permits instruction ∧ ∃ fault after,
      machine.execute instruction = ⟨after, some fault⟩ ∧
        Breaks machine instruction fault after) := by
  cases instruction with
  | ret =>
    rcases machine.returnToCaller_cases with ⟨permits, address, stack, popped, same⟩ | ⟨empty, same⟩
    · exact .inl ⟨permits, _, same, .ret popped⟩
    · exact .inr ⟨Nat.not_lt.mpr (Nat.le_of_eq empty), _, _, same, .bounds rfl⟩
  | call target =>
    rcases machine.callTo_cases target.val with ⟨permits, stack, pushed, same⟩ | ⟨full, same⟩
    · exact .inl ⟨permits, _, same, .call target pushed⟩
    · exact .inr ⟨Nat.not_lt.mpr (Nat.le_of_eq full.symm), _, _, same, .bounds rfl⟩
  | draw x y height =>
    -- Whether or not all cells have been drawn, nothing but what is painted has changed.
    have painted := machine.plot_painted (machine.register x) (machine.register y)
      (spriteCells height.val)
    have permits := machine.plot_complete_iff (machine.register x) (machine.register y) height.val
    rcases machine.drawSprite_cases x y height.val with ⟨complete, same⟩ | ⟨fault, found, same⟩
    · have completes := Completes.draw x y height _ painted
      exact .inl ⟨permits.mp complete, _, same, completes⟩
    · refine .inr ⟨fun permitted => ?_, fault, _, ?_,
        .draw x y height (plot_fault_kind found) painted⟩
      · cases found.symm.trans (permits.mpr permitted)
      · exact same.trans (congrArg (Outcome.mk _) found)
  | skipPressed x =>
    rcases machine.skipOnKey_cases x true with ⟨inside, same⟩ | ⟨beyond, same⟩
    · exact .inl ⟨Nat.le_of_lt_succ inside, _, same, .skip _ (by simp [Instruction.operation])⟩
    · exact .inr ⟨Nat.not_le.mpr beyond, _, _, same, .bounds rfl⟩
  | skipReleased x =>
    rcases machine.skipOnKey_cases x false with ⟨inside, same⟩ | ⟨beyond, same⟩
    · exact .inl ⟨Nat.le_of_lt_succ inside, _, same, .skip _ (by simp [Instruction.operation])⟩
    · exact .inr ⟨Nat.not_le.mpr beyond, _, _, same, .bounds rfl⟩
  | readDelay x =>
    rcases machine.readDelay_cases x with ⟨permits, value, same⟩ | ⟨outside, same⟩
    · exact .inl ⟨permits, _, same, .compute _ _ (by simp [Instruction.operation])⟩
    · exact .inr ⟨outside, _, _, same, .delay x outside⟩
  | storeDigits x =>
    rcases machine.storeDigits_cases x with ⟨permits, memory, same⟩ | ⟨outside, same⟩
    · exact .inl ⟨permits, _, same, .storeDigits x memory⟩
    · exact .inr ⟨outside, _, _, same, .bounds rfl⟩
  | loadRegisters x =>
    rcases machine.loadRegisters_cases x with ⟨permits, registers, same⟩ | ⟨outside, same⟩
    · exact .inl ⟨permits, _, same, .loadRegisters x registers permits⟩
    · exact .inr ⟨outside, _, _, same, .bounds rfl⟩
  -- All the other instructions complete in every machine.
  | jump target => exact .inl ⟨trivial, _, rfl, .jump target⟩
  | clearScreen => exact .inl ⟨trivial, _, rfl, .clearScreen⟩
  | setDelay x => exact .inl ⟨trivial, _, rfl, .setDelay x⟩
  | setSound x => exact .inl ⟨trivial, _, rfl, .setSound x⟩
  | skipEqual x value | skipNotEqual x value =>
    exact .inl ⟨trivial, _, rfl, .skip _ (by simp [Instruction.operation])⟩
  | setIndex address =>
    refine .inl ⟨trivial, _, rfl, .point address.val ?_ (by simp [Instruction.operation])⟩
    omega
  | addIndex x =>
    refine .inl ⟨trivial, _, rfl, .point _ ?_ (by simp [Instruction.operation])⟩
    dsimp only
    omega
  | selectGlyph x =>
    have small := (machine.register x).toNat_lt
    refine .inl ⟨trivial, _, rfl, .point _ ?_ (by simp [Instruction.operation])⟩
    simp only [Font.glyphAddress, Font.start, Font.glyphSize]
    omega
  | set | addConstant | copy | and | add | subtract | random =>
    exact .inl ⟨trivial, _, rfl, .compute _ _ (by simp [Instruction.operation])⟩

theorem completes_of_executed {machine after : Machine} {instruction : Instruction}
    (executed : machine.execute instruction = ⟨after, none⟩) :
    Completes machine instruction after := by
  rcases machine.execute_cases instruction with ⟨_, _, complete, completes⟩ | ⟨_, _, _, broken, _⟩
  · cases executed.symm.trans complete
    exact completes
  · cases executed.symm.trans broken

theorem Completes.kept {machine after : Machine} {instruction : Instruction}
    (completes : Completes machine instruction after) (unset : machine.draw = false) :
    Kept machine instruction after := by
  cases completes with
  | draw x z height drawn painted =>
    obtain ⟨_, _, rfl⟩ := painted.frame
    constructor <;> simp [Instruction.operation]
  | compute _ _ named | skip _ named | point _ _ named =>
    -- Of these instructions only the list that the operation is in is known.
    constructor
    case draw => exact iff_of_false (by simp [unset]) (by grind)
    case index => grind
    all_goals exact fun _ => rfl
  | _ => constructor <;> simp [Instruction.operation, unset]

end ChipEight.Machine
