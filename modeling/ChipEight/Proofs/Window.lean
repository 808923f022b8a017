import ChipEight.Window.Screen

set_option autoImplicit false

namespace ChipEight

namespace Width

theorem narrow?_below {number : Int} (small : 0 ≤ number ∧ number < 0x80000000) :
    narrow? number = some number := by
  have fits : fits number = true := by
    simp only [Width.fits, decide_eq_true_eq]
    omega
  simp only [narrow?, fits, if_true, Int.bmod_def, Option.some.injEq]
  split <;> omega

end Width

namespace WindowSystem

/-- A window that is asked for is given, with the very size. -/
def Grants (system : WindowSystem) (width height : Int) : Prop :=
  system.size width height = .ok ⟨width.toNat, height.toNat⟩

/-- The square of every pixel is filled just where it is asked for. -/
def Paints (system : WindowSystem) (width height : Nat) (scale : Int) : Prop :=
  ∀ x y, x < width → y < height →
    system.squareAt x y scale = .ok ⟨x * scale, y * scale, scale⟩

/-- A window for a picture is given, and so are the squares of the picture. -/
structure Serves (system : WindowSystem) (width height : Nat) (scale : Int) : Prop where
  grants : system.Grants (width * scale) (height * scale)
  paints : system.Paints width height scale

def Accepts (system : WindowSystem) (width height : Nat) (scale : Int) : Prop :=
  ∀ x y, x < width → y < height → ∃ square, system.squareAt x y scale = .ok square

theorem narrow_grants {width height : Int}
    (wide : 1 ≤ width ∧ width ≤ Narrow.longestSide)
    (high : 1 ≤ height ∧ height ≤ Narrow.longestSide) : narrow.Grants width height := by
  have short : ¬ (Narrow.longestSide < width ∨ Narrow.longestSide < height) := by omega
  simp only [Narrow.longestSide] at wide high
  have across := Width.narrow?_below (show 0 ≤ width ∧ width < 0x80000000 by omega)
  have down := Width.narrow?_below (show 0 ≤ height ∧ height < 0x80000000 by omega)
  simp only [Grants, narrow, Narrow.size, across, down]
  rw [if_neg (by omega), if_neg (by omega), if_neg short, Nat.max_eq_right (by omega),
    Nat.max_eq_right (by omega)]

theorem narrow_paints {width height : Nat} {scale : Int} (positive : 1 ≤ scale)
    (across : width * scale < 0x80000000) (down : height * scale < 0x80000000)
    (side : scale < 0x80000000) : narrow.Paints width height scale := by
  intro x y column row
  have along {place limit : Nat} (inside : place < limit) (fits : limit * scale < 0x80000000) :
      Width.narrow? (place * scale) = some (place * scale) := by
    have grows : place * scale ≤ limit * scale :=
      Int.mul_le_mul_of_nonneg_right (by omega) (by omega)
    have least : 0 ≤ place * scale := Int.mul_nonneg (by omega) (by omega)
    exact Width.narrow?_below (by omega)
  simp only [squareAt, narrow, Narrow.square, along column across, along row down,
    Width.narrow?_below (show 0 ≤ scale ∧ scale < 0x80000000 by omega)]

theorem narrow_serves {scale : Int} (positive : 1 ≤ scale) (small : scale ≤ 256) :
    narrow.Serves 64 32 scale where
  grants := by
    apply narrow_grants <;> simp only [Narrow.longestSide] <;> push_cast <;> omega
  paints := by
    apply narrow_paints positive <;> push_cast <;> omega

end WindowSystem

namespace Screen

variable {screen : Screen} {background foreground : Colour} {width height scale : Int}
  {system : WindowSystem}

theorem ofSize_ok (opened : ofSize width height scale background foreground system = .ok screen) :
    ∃ size, system.size (width * scale) (height * scale) = .ok size ∧
      screen =
        ⟨background, foreground, .ofColour size.width size.height background, none, system⟩ := by
  simp only [ofSize] at opened
  cases given : system.size (width * scale) (height * scale) with
  | error fault =>
    rw [given] at opened
    cases opened
  | ok size =>
    rw [given] at opened
    cases opened
    exact ⟨size, rfl, rfl⟩

theorem ofSize_granted (background foreground : Colour)
    (granted : system.Grants (width * scale) (height * scale)) :
    ofSize width height scale background foreground system = .ok
      ⟨background, foreground,
        .ofColour (width * scale).toNat (height * scale).toNat background, none, system⟩ := by
  rw [ofSize, granted]
  rfl

end Screen

end ChipEight
