import ChipEight.Proofs.Painting
import ChipEight.Proofs.Service

set_option autoImplicit false

namespace ChipEight

theorem Frame.paintable_of_fits {frame : Frame} (scale : 1 ≤ frame.scale)
    (complete : frame.width.toNat * frame.height.toNat ≤ frame.pixels.size)
    (across : frame.width.toNat * frame.scale < 0x80000000)
    (down : frame.height.toNat * frame.scale < 0x80000000) (side : frame.scale < 0x80000000) :
    frame.Paintable .narrow where
  scale := scale
  complete := complete
  squares := WindowSystem.narrow_paints scale across down side

namespace Screen

inductive Request where
  | render (frame : Frame)
  | refresh

namespace Request

def frame? : Request → Option Frame
  | render frame => some frame
  | refresh => none

theorem eq_render {request : Request} {frame : Frame} (rendered : frame ∈ request.frame?) :
    request = render frame := by
  cases request with
  | render other =>
    cases rendered
    rfl
  | refresh => cases rendered

end Request

def obey (screen : Screen) : Request → Option Fault × Screen
  | .render frame => (none, screen.receive frame)
  | .refresh => (screen.refresh.2, screen.refresh.1)

def lastFrame? (requests : List Request) : Option Frame :=
  (requests.filterMap Request.frame?).getLast?

def ShowsLast (screen : Screen) (last : Option Frame) : Prop :=
  ∀ x y, x < screen.surface.width → y < screen.surface.height →
    screen.surface.colourAt? x y =
      some (if last.any (·.lights x y) then screen.foreground else screen.background)

def follow (last : Option Frame) (request : Request) : Option Fault × Option Frame :=
  (none, request.frame?.or last)

structure Follows (opened screen : Screen) (last : Option Frame) : Prop where
  window : opened.SameWindow screen
  current : (∃ frame, screen.pending = some frame ∧ last = some frame ∧
      frame.Paintable screen.system) ∨
    screen.pending = none ∧ screen.ShowsLast last

namespace Follows

variable {opened screen : Screen} {last : Option Frame}

theorem receive (follows : opened.Follows screen last) {frame : Frame}
    (paintable : frame.Paintable screen.system) :
    opened.Follows (screen.receive frame) (some frame) where
  window := { follows.window with }
  current := .inl ⟨frame, rfl, rfl, paintable⟩

theorem refresh (follows : opened.Follows screen last) :
    screen.refresh.2 = none ∧ screen.refresh.1.pending = none ∧
      screen.refresh.1.ShowsLast last ∧ opened.SameWindow screen.refresh.1 := by
  rcases follows.current with ⟨frame, pending, rfl, paintable⟩ | ⟨idle, shows⟩
  · obtain ⟨complete, idle, shows, window⟩ := refresh_pending pending paintable
    exact ⟨complete, idle, shows, follows.window.trans window⟩
  · rw [refresh_idle idle]
    exact ⟨rfl, idle, shows, follows.window⟩

theorem obey (follows : opened.Follows screen last) (request : Request)
    (paintable : ∀ frame ∈ request.frame?, frame.Paintable opened.system) :
    (screen.obey request).1 = (follow last request).1 ∧
      opened.Follows (screen.obey request).2 (follow last request).2 := by
  cases request with
  | render frame =>
    exact ⟨rfl, follows.receive (follows.window.system ▸ paintable frame rfl)⟩
  | refresh =>
    obtain ⟨complete, idle, shows, window⟩ := follows.refresh
    exact ⟨complete, window, .inr ⟨idle, shows⟩⟩

end Follows

theorem serveAll_follow (last : Option Frame) (requests : List Request) :
    (∀ fault ∈ (serveAll follow last requests).1, fault = none) ∧
      (serveAll follow last requests).2 = (lastFrame? requests).or last := by
  induction requests generalizing last with
  | nil => exact ⟨nofun, rfl⟩
  | cons request rest ih =>
    obtain ⟨complete, same⟩ := ih (follow last request).2
    rw [serveAll_cons, same]
    refine ⟨List.forall_mem_cons.mpr ⟨rfl, complete⟩, ?_⟩
    cases request with
    | render frame =>
      simp only [lastFrame?, List.filterMap_cons, Request.frame?, List.getLast?_cons, follow,
        Option.or_some, Option.some_or]
    | refresh => rfl

theorem Follows.serveAll {opened : Screen} (start : opened.Follows opened none)
    {requests : List Request}
    (paintable : ∀ frame, .render frame ∈ requests → frame.Paintable opened.system) :
    (∀ fault ∈ (serveAll Screen.obey opened requests).1, fault = none) ∧
      opened.Follows (serveAll Screen.obey opened requests).2 (lastFrame? requests) := by
  have each (request : Request) (member : request ∈ requests) (screen : Screen)
      (last : Option Frame) (follows : opened.Follows screen last) :=
    follows.obey request fun frame rendered =>
      paintable frame (Request.eq_render rendered ▸ member)
  obtain ⟨answers, follows⟩ := serveAll_alike opened.Follows each start
  obtain ⟨complete, last⟩ := serveAll_follow none requests
  rw [last, Option.or_none] at follows
  exact ⟨answers ▸ complete, follows⟩

theorem ofColour_follows (background foreground : Colour) (width height : Nat)
    (system : WindowSystem) :
    let opened : Screen :=
      ⟨background, foreground, .ofColour width height background, none, system⟩
    opened.Follows opened none where
  window := ⟨rfl, rfl, rfl, rfl, rfl⟩
  current := .inr ⟨rfl, fun _ _ column row => Surface.colourAt?_ofColour ⟨column, row⟩⟩

structure Refreshed (background foreground : Colour) (opened : Screen) (requests : List Request)
    (after : Screen) : Prop where
  width : after.surface.width = opened.surface.width
  height : after.surface.height = opened.surface.height
  shown : ∀ x y, x < opened.surface.width → y < opened.surface.height →
    after.surface.colourAt? x y = some
      (if (lastFrame? requests).any (·.lights x y) then foreground else background)
  idle : after.refresh = (after, none)

/-- However a window is given frames and refreshed, a refresh shows the last frame it was given. -/
theorem refresh_shows_last_frame (system : WindowSystem) (background foreground : Colour)
    {width height scale : Int} (across : 0 < width) (down : 0 < height) (positive : 0 < scale) :
    (system.Grants (width * scale) (height * scale) →
      ∃ opened, ofSize width height scale background foreground system = .ok opened ∧
        opened.surface.width = width * scale ∧ opened.surface.height = height * scale) ∧
    ∀ opened, ofSize width height scale background foreground system = .ok opened →
      opened.refresh = (opened, none) ∧
      ∀ requests, (∀ frame, .render frame ∈ requests → frame.Paintable system) →
        (∀ fault ∈ (serveAll obey opened requests).1, fault = none) ∧
        opened.SameWindow (serveAll obey opened requests).2 ∧
        (serveAll obey opened requests).2.refresh.2 = none ∧
        Refreshed background foreground opened requests
          (serveAll obey opened requests).2.refresh.1 := by
  constructor
  · intro granted
    have wide : 0 < width * scale := Int.mul_pos across positive
    have high : 0 < height * scale := Int.mul_pos down positive
    exact ⟨_, ofSize_granted background foreground granted,
      Int.toNat_of_nonneg (Int.le_of_lt wide), Int.toNat_of_nonneg (Int.le_of_lt high)⟩
  intro opened made
  obtain ⟨size, -, rfl⟩ := ofSize_ok made
  have start := ofColour_follows background foreground size.width size.height system
  refine ⟨refresh_idle rfl, fun requests paintable => ?_⟩
  obtain ⟨complete, follows⟩ := start.serveAll paintable
  obtain ⟨succeeded, idle, shows, window⟩ := follows.refresh
  refine ⟨complete, follows.window, succeeded, window.width, window.height,
    fun x y column row => ?_, refresh_idle idle⟩
  rw [shows x y (window.width ▸ column) (window.height ▸ row), window.foreground,
    window.background]

def corner : Frame :=
  ⟨#[1], 1, 1, 3⟩

-- Two pixels on the rising diagonal, more than there is room for in the window below.
def diagonal : Frame :=
  ⟨#[0, 0x80, 1, 0], 2, 2, 4⟩

theorem diagonal_shown :
    WindowSystem.narrow.Grants (2 * 3) (2 * 3) ∧
      corner.Paintable .narrow ∧ diagonal.Paintable .narrow ∧
      ∃ opened, ofSize 2 2 3 .black .white = .ok opened ∧
        let after := (serveAll obey opened [.render corner, .refresh, .render diagonal]).2
        after.refresh.1.surface.colourAt? 5 3 = some .white ∧
        after.refresh.1.surface.colourAt? 0 5 = some .white ∧
        after.refresh.1.surface.colourAt? 0 0 = some .black := by
  have granted : WindowSystem.narrow.Grants (2 * 3) (2 * 3) :=
    WindowSystem.narrow_grants (by decide) (by decide)
  have corners : corner.Paintable .narrow :=
    Frame.paintable_of_fits (by decide) (by decide) (by decide) (by decide) (by decide)
  have diagonals : diagonal.Paintable .narrow :=
    Frame.paintable_of_fits (by decide) (by decide) (by decide) (by decide) (by decide)
  have paintable : ∀ frame, Request.render frame ∈
      [.render corner, .refresh, .render diagonal] → frame.Paintable .narrow := by
    intro frame member
    obtain rfl | rfl : frame = corner ∨ frame = diagonal := by simpa using member
    · exact corners
    · exact diagonals
  obtain ⟨opens, shows⟩ := refresh_shows_last_frame .narrow .black .white
    (show (0 : Int) < 2 by decide) (show (0 : Int) < 2 by decide) (show (0 : Int) < 3 by decide)
  obtain ⟨opened, given, wide, high⟩ := opens granted
  obtain ⟨-, -, -, last⟩ := (shows opened given).2 _ paintable
  refine ⟨granted, corners, diagonals, opened, given, ?_, ?_, ?_⟩
  · exact last.shown 5 3 (by omega) (by omega)
  · exact last.shown 0 5 (by omega) (by omega)
  · exact last.shown 0 0 (by omega) (by omega)

end Screen

end ChipEight
