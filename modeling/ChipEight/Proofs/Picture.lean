import ChipEight.Proofs.History
import ChipEight.Proofs.Painting
import ChipEight.Proofs.Rendering
import ChipEight.Proofs.Steps

set_option autoImplicit false

namespace ChipEight

namespace Screen

def notice (listener : Nat) (screen : Screen) : Event → Screen
  | .rendered other _ frame => if other = listener then screen.receive frame else screen
  | _ => screen

def watch (listener : Nat) (screen : Screen) (events : List Event) : Screen :=
  events.foldl (notice listener) screen

variable {listener : Nat} (screen : Screen)

theorem watch_append (events more : List Event) :
    screen.watch listener (events ++ more) = (screen.watch listener events).watch listener more :=
  List.foldl_append

theorem watch_printed (lines : List Printed) :
    screen.watch listener (lines.map .printed) = screen := by
  induction lines with
  | nil => rfl
  | cons line rest ih => exact ih

theorem watch_range (count : Nat) (state : RunState) (frame : Frame) :
    screen.watch listener ((List.range count).map fun other => .rendered other state frame) =
      if listener < count then screen.receive frame else screen := by
  induction count with
  | zero => rfl
  | succ count ih =>
    rw [List.range_succ, List.map_append, watch_append, ih]
    simp only [watch, List.map_cons, List.map_nil, List.foldl_cons, List.foldl_nil, notice]
    by_cases same : count = listener
    · simp [same]
    · have neighbours : listener < count + 1 ↔ listener < count := by omega
      simp [same, neighbours]

theorem watch_renderEvents {interpreter : Interpreter}
    (listening : listener < interpreter.renderListeners) :
    screen.watch listener interpreter.renderEvents = screen.receive interpreter.frame := by
  rw [Interpreter.renderEvents, watch_range, if_pos listening]

end Screen

namespace Interpreter

def hold (interpreter : Interpreter) (keypad : Keypad) : Interpreter :=
  { interpreter with machine := interpreter.machine.hold keypad }

theorem performAll_load_watch (legacy : Bool) (random : RandomSource) (scale : Int)
    (tracing : Bool) (program : Array UInt8) (listeners : Nat) :
    ∃ memory, (new (Machine.new legacy random) scale tracing).performAll
        (.load program :: List.replicate listeners .watch) =
      { new (Machine.powerOn legacy memory .released random) scale tracing with
        renderListeners := listeners } := by
  obtain ⟨memory, loaded⟩ := (new (Machine.new legacy random) scale tracing).perform_load program
  refine ⟨memory, ?_⟩
  rw [performAll_cons, loaded, performAll_watch]
  simp only [new, Machine.new, Machine.powerOn, Nat.zero_add]

end Interpreter

structure Viewer where
  interpreter : Interpreter
  screen : Screen

inductive Moment where
  | step (keypad : Keypad)
  | refresh

namespace Viewer

def take? (listener : Nat) (viewer : Viewer) : Moment → Option Viewer
  | .refresh => some { viewer with screen := viewer.screen.refresh.1 }
  | .step keypad =>
    let step := (viewer.interpreter.hold keypad).step
    match step.result with
    | .ok true => some ⟨step.interpreter, viewer.screen.watch listener step.events⟩
    | _ => none

def takeAll? (listener : Nat) (viewer : Viewer) (moments : List Moment) : Option Viewer :=
  moments.foldlM (take? listener) viewer

structure Faithful (listener : Nat) (scale : Int) (opened : Screen) (viewer : Viewer) : Prop where
  invariant : viewer.interpreter.machine.Invariant
  listening : listener < viewer.interpreter.renderListeners
  scale : viewer.interpreter.scale = scale
  window : opened.SameWindow viewer.screen
  current : viewer.screen.pending = some viewer.interpreter.frame ∨
    viewer.screen.pending = none ∧ viewer.screen.Shows viewer.interpreter.frame

theorem frame_paintable {interpreter : Interpreter} {system : WindowSystem}
    (positive : 1 ≤ interpreter.scale) (squares : system.Paints 64 32 interpreter.scale) :
    interpreter.frame.Paintable system where
  scale := positive
  complete := Nat.le_of_eq interpreter.machine.display.pixels.size_toArray.symm
  squares := squares

namespace Faithful

variable {listener : Nat} {scale : Int} {opened : Screen} {viewer after : Viewer}

theorem step {keypad : Keypad} (faithful : viewer.Faithful listener scale opened)
    (taken : viewer.take? listener (.step keypad) = some after) :
    after.Faithful listener scale opened := by
  generalize held : viewer.interpreter.hold keypad = interpreter
  have invariant : interpreter.machine.Invariant := by
    subst held
    exact { faithful.invariant with }
  have listening : listener < interpreter.renderListeners := held ▸ faithful.listening
  have scaled : interpreter.scale = scale := held ▸ faithful.scale
  -- The keys are no part of what a frame shows.
  have shown : viewer.interpreter.frame = interpreter.frame := held ▸ rfl
  simp only [take?, held] at taken
  split at taken
  next success =>
    cases taken
    rw [Interpreter.step_result] at success
    have next := (invariant.cycle interpreter.tracing).1
    rcases Machine.touched_of_success success with drawn | ⟨undrawn, same, -⟩
    · -- The new frame takes the place of the one that is pending, if there is one.
      simp only [Interpreter.step_drawn success drawn, Screen.watch_append,
        Interpreter.cyclePrints, Screen.watch_printed]
      rw [Screen.watch_renderEvents _ (show listener < interpreter.cycled.renderListeners
        from listening)]
      exact ⟨next, listening, scaled, { faithful.window with }, .inl rfl⟩
    · -- Nobody is told anything, but what the window has is as good as before.
      have unchanged : interpreter.cycled.frame = viewer.interpreter.frame := by
        rw [shown]
        simp only [Interpreter.frame, Interpreter.cycled, same]
      simp only [Interpreter.step_undrawn success undrawn, Interpreter.cyclePrints,
        Screen.watch_printed]
      exact ⟨next, listening, scaled, faithful.window, unchanged ▸ faithful.current⟩
  next => cases taken

theorem refresh (faithful : viewer.Faithful listener scale opened) (positive : 1 ≤ scale)
    (squares : opened.system.Paints 64 32 scale) :
    viewer.screen.refresh.2 = none ∧ viewer.screen.refresh.1.pending = none ∧
      viewer.screen.refresh.1.Shows viewer.interpreter.frame ∧
      opened.SameWindow viewer.screen.refresh.1 := by
  rcases faithful.current with pending | ⟨idle, shows⟩
  · have paintable : viewer.interpreter.frame.Paintable viewer.screen.system := by
      rw [faithful.window.system]
      apply frame_paintable <;> rw [faithful.scale] <;> assumption
    obtain ⟨complete, idle, shows, window⟩ := Screen.refresh_pending pending paintable
    exact ⟨complete, idle, shows, faithful.window.trans window⟩
  · rw [Screen.refresh_idle idle]
    exact ⟨rfl, idle, shows, faithful.window⟩

theorem take (faithful : viewer.Faithful listener scale opened) (positive : 1 ≤ scale)
    (squares : opened.system.Paints 64 32 scale) {moment : Moment}
    (taken : viewer.take? listener moment = some after) :
    after.Faithful listener scale opened := by
  cases moment with
  | step keypad => exact faithful.step taken
  | refresh =>
    obtain ⟨-, idle, shows, window⟩ := faithful.refresh positive squares
    cases taken
    exact { faithful with window := window, current := .inr ⟨idle, shows⟩ }

theorem takeAll (faithful : viewer.Faithful listener scale opened) (positive : 1 ≤ scale)
    (squares : opened.system.Paints 64 32 scale) {moments : List Moment}
    (taken : viewer.takeAll? listener moments = some after) :
    after.Faithful listener scale opened := by
  induction moments generalizing viewer with
  | nil =>
    cases taken
    exact faithful
  | cons moment rest ih =>
    rw [takeAll?, List.foldlM_cons] at taken
    obtain ⟨next, first, others⟩ := Option.bind_eq_some_iff.mp taken
    exact ih (faithful.take positive squares first) others

end Faithful

theorem frame_lights {interpreter : Interpreter}
    (monochrome : interpreter.machine.display.Monochrome) (positive : 1 ≤ interpreter.scale)
    {x y : Nat} (column : x < 64 * interpreter.scale) (row : y < 32 * interpreter.scale) :
    interpreter.machine.display.read (x / interpreter.scale) (y / interpreter.scale) =
      .ok (interpreter.frame.lights x y) := by
  obtain ⟨side, same⟩ : ∃ side : Nat, interpreter.scale = side :=
    ⟨interpreter.scale.toNat, by omega⟩
  rw [same] at positive column row ⊢
  have across : x / side < 64 := Nat.div_lt_of_lt_mul (by omega)
  have down : y / side < 32 := Nat.div_lt_of_lt_mul (by omega)
  have place : ((y : Int) / side * 64 + (x : Int) / side).toNat = y / side * 64 + x / side := by
    norm_cast
  have inside : (0 ≤ (x : Int) / side ∧ (x : Int) / side < 64) ∧
      0 ≤ (y : Int) / side ∧ (y : Int) / side < 32 := by
    norm_cast
    exact ⟨⟨Nat.zero_le _, across⟩, Nat.zero_le _, down⟩
  have pixel : decide (x / side < 64 ∧ y / side < 32) = true := decide_eq_true ⟨across, down⟩
  rw [Display.read_eq_view monochrome inside, place]
  simp only [Frame.lights, Interpreter.frame, same, Int.toNat_natCast, Int.reduceToNat, pixel,
    Bool.true_and]

theorem blank_lights {interpreter : Interpreter}
    (blank : interpreter.machine.display = .blank) (x y : Nat) :
    interpreter.frame.lights x y = false := by
  simp only [Frame.lights, Interpreter.frame, blank, Display.view_blank, Bool.and_false]

def opened (legacy : Bool) (random : RandomSource) (scale : Int) (tracing : Bool)
    (program : Array UInt8) (listeners : Nat) (screen : Screen) : Viewer :=
  ⟨(Interpreter.new (Machine.new legacy random) scale tracing).performAll
    (.load program :: List.replicate listeners .watch), screen⟩

theorem opened_faithful (legacy : Bool) (random : RandomSource) (scale : Int) (tracing : Bool)
    (program : Array UInt8) {listeners : Nat} (listener : Fin listeners)
    (background foreground : Colour) (width height : Nat) (system : WindowSystem) :
    let screen : Screen :=
      ⟨background, foreground, .ofColour width height background, none, system⟩
    (opened legacy random scale tracing program listeners screen).Faithful listener scale
      screen := by
  intro screen
  obtain ⟨memory, started⟩ :=
    Interpreter.performAll_load_watch legacy random scale tracing program listeners
  rw [opened, started]
  refine ⟨Machine.powerOn_invariant _ _ _ _, listener.isLt, rfl, ⟨rfl, rfl, rfl, rfl, rfl⟩, .inr ?_⟩
  -- Neither the window nor the display has been touched, and all of both is dark.
  refine ⟨rfl, fun x y column row => ?_⟩
  rw [blank_lights rfl]
  exact Surface.colourAt?_ofColour ⟨column, row⟩

/-- As long as every step of a machine succeeds, the next refresh of its window shows the display.
-/
theorem refresh_shows_display (legacy : Bool) (random : RandomSource) (tracing : Bool)
    (program : Array UInt8) {listeners : Nat} (listener : Fin listeners)
    (background foreground : Colour) {scale : Int} (positive : 1 ≤ scale) :
    (scale ≤ 256 → WindowSystem.narrow.Serves 64 32 scale) ∧
    ∀ system : WindowSystem, system.Serves 64 32 scale →
      ∃ screen, Screen.ofSize 64 32 scale background foreground system = .ok screen ∧
      ∀ moments after, (opened legacy random scale tracing program listeners screen).takeAll?
          listener moments = some after →
        after.screen.refresh.2 = none ∧
        ∀ x y : Nat, x < 64 * scale → y < 32 * scale →
          after.screen.refresh.1.surface.colourAt? x y =
            some (if after.interpreter.machine.display.read (x / scale) (y / scale) = .ok true
              then foreground else background) := by
  refine ⟨WindowSystem.narrow_serves positive, fun system serves =>
    ⟨_, Screen.ofSize_granted background foreground serves.grants, fun moments after taken => ?_⟩⟩
  have faithful := (opened_faithful legacy random scale tracing program listener background
    foreground _ _ system).takeAll positive serves.paints taken
  obtain ⟨complete, -, shows, window⟩ := faithful.refresh positive serves.paints
  refine ⟨complete, fun x y column row => ?_⟩
  have read := frame_lights faithful.invariant.display (faithful.scale ▸ positive)
    (faithful.scale ▸ column) (faithful.scale ▸ row)
  rw [faithful.scale] at read
  have inside : x < after.screen.refresh.1.surface.width ∧
      y < after.screen.refresh.1.surface.height := by
    rw [window.width, window.height]
    simp only [Surface.ofColour]
    omega
  rw [shows x y inside.1 inside.2, window.foreground, window.background, read]
  simp only [Except.ok.injEq]

def glyphProgram : List UInt8 :=
  [0xA0, 0x50, 0xD0, 0x05]

theorem glyphProgram_fits : glyphProgram.length ≤ 0xE00 := by
  decide

theorem glyph_shown :
    WindowSystem.narrow.Serves 64 32 2 ∧
    ∃ screen after, Screen.ofSize 64 32 2 .black .white = .ok screen ∧
      (opened false (RandomSource.cycling #[]) 2 false glyphProgram.toArray 1 screen).takeAll? 0
        [.step .released, .refresh, .step .released] = some after ∧
      after.screen.refresh.1.surface.colourAt? 3 1 = some .white ∧
      after.screen.refresh.1.surface.colourAt? 3 3 = some .black := by
  obtain ⟨serves, shows⟩ := refresh_shows_display false (RandomSource.cycling #[]) false
    glyphProgram.toArray (0 : Fin 1) .black .white (show (1 : Int) ≤ 2 by decide)
  have narrowly := serves (by decide)
  obtain ⟨screen, opening, shows⟩ := shows .narrow narrowly
  cases (Screen.ofSize_granted .black .white narrowly.grants).symm.trans opening
  have drawn : ((opened false (RandomSource.cycling #[]) 2 false glyphProgram.toArray 1
      ⟨.black, .white, .ofColour 128 64 .black, none, .narrow⟩).takeAll? 0
        [.step .released, .refresh, .step .released]).map
        (fun after => (after.interpreter.machine.display.read 1 0,
          after.interpreter.machine.display.read 1 1)) = some (.ok true, .ok false) := by
    rw [opened, Interpreter.performAll_cons,
      Interpreter.perform_load_new false _ 2 false glyphProgram_fits]
    decide +kernel
  obtain ⟨after, taken, pixels⟩ := Option.map_eq_some_iff.mp drawn
  obtain ⟨lit, dark⟩ := Prod.mk.inj pixels
  have colours := (shows _ after taken).2
  refine ⟨narrowly, _, after, opening, taken, ?_, ?_⟩
  · exact (colours 3 1 (by decide) (by decide)).trans (congrArg some (if_pos lit))
  · refine (colours 3 3 (by decide) (by decide)).trans (congrArg some (if_neg fun lit => ?_))
    cases dark.symm.trans lit

end Viewer

end ChipEight
