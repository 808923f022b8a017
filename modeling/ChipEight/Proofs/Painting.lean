import ChipEight.Proofs.Window

set_option autoImplicit false

namespace ChipEight

def Square.Covers (square : Square) (x y : Nat) : Prop :=
  (square.left ≤ x ∧ x < square.left + square.side) ∧
    square.top ≤ y ∧ y < square.top + square.side

namespace Surface

variable {surface first second third : Surface} {colour : Colour}
  {region more : Nat → Nat → Prop}

theorem place_mod {width x : Nat} (inside : x < width) (y : Nat) : (y * width + x) % width = x := by
  rw [Nat.mul_add_mod_self_right, Nat.mod_eq_of_lt inside]

theorem place_div {width x : Nat} (inside : x < width) (y : Nat) : (y * width + x) / width = y := by
  have positive : 0 < width := by omega
  rw [Nat.mul_comm, Nat.mul_add_div positive, Nat.div_eq_of_lt inside, Nat.add_zero]

theorem place_injective {width x y otherX otherY : Nat} (inside : x < width)
    (otherInside : otherX < width) (same : y * width + x = otherY * width + otherX) :
    x = otherX ∧ y = otherY := by
  have columns := congrArg (· % width) same
  have rows := congrArg (· / width) same
  rw [place_mod inside, place_mod otherInside] at columns
  rw [place_div inside, place_div otherInside] at rows
  exact ⟨columns, rows⟩

/-- The points of a region have one colour, and all other points are as they were. -/
structure Coated (colour : Colour) (region : Nat → Nat → Prop) (before after : Surface) : Prop where
  width : after.width = before.width
  height : after.height = before.height
  inside : ∀ x y, region x y → x < before.width → y < before.height →
    after.colourAt? x y = some colour
  outside : ∀ x y, ¬ region x y → after.colourAt? x y = before.colourAt? x y

namespace Coated

theorem nothing (surface : Surface) (unpainted : ∀ x y, ¬ region x y) :
    Coated colour region surface surface where
  width := rfl
  height := rfl
  inside := fun x y painted => absurd painted (unpainted x y)
  outside := fun _ _ _ => rfl

theorem trans (left : Coated colour region first second)
    (right : Coated colour more second third) :
    Coated colour (fun x y => region x y ∨ more x y) first third where
  width := right.width.trans left.width
  height := right.height.trans left.height
  inside := by
    intro x y painted column row
    by_cases again : more x y
    · exact right.inside x y again (left.width ▸ column) (left.height ▸ row)
    · rw [right.outside x y again]
      exact left.inside x y (painted.resolve_right again) column row
  outside := by
    intro x y unpainted
    rw [not_or] at unpainted
    rw [right.outside x y unpainted.2, left.outside x y unpainted.1]

theorem congr (coated : Coated colour region first second)
    (same : ∀ x y, x < first.width → y < first.height → (more x y ↔ region x y)) :
    Coated colour more first second where
  width := coated.width
  height := coated.height
  inside := fun x y painted column row =>
    coated.inside x y ((same x y column row).mp painted) column row
  outside := by
    intro x y unpainted
    by_cases member : x < first.width ∧ y < first.height
    · exact coated.outside x y fun painted =>
        unpainted ((same x y member.1 member.2).mpr painted)
    · -- Beyond the surface there is no colour, before or after.
      simp only [colourAt?, coated.width, coated.height, dif_neg member]

end Coated

theorem coated_foldl {Part : Type} {paint : Surface → Part → Surface}
    {covers : Part → Nat → Nat → Prop}
    (each : ∀ surface part, Coated colour (covers part) surface (paint surface part))
    (parts : List Part) (surface : Surface) :
    Coated colour (fun x y => ∃ part ∈ parts, covers part x y) surface
      (parts.foldl paint surface) := by
  induction parts generalizing surface with
  | nil => exact Coated.nothing surface fun x y => by simp
  | cons part rest ih =>
    -- What is painted later has the same colour, so it does not matter where it overlaps.
    apply ((each surface part).trans (ih (paint surface part))).congr
    intro x y _ _
    simp only [List.mem_cons, exists_eq_or_imp]

theorem coated_paint (surface : Surface) (colour : Colour) (x y : Nat) :
    Coated colour (fun column row => column = x ∧ row = y) surface (surface.paint colour x y) := by
  by_cases inside : x < surface.width ∧ y < surface.height
  · simp only [paint, dif_pos inside]
    constructor
    case width | height => rfl
    case inside =>
      rintro _ _ ⟨rfl, rfl⟩ _ _
      simp only [colourAt?, dif_pos inside]
      exact congrArg some (Vector.getElem_set_self (place_lt inside))
    case outside =>
      intro column row apart
      simp only [colourAt?]
      split
      next member =>
        have places : y * surface.width + x ≠ row * surface.width + column := fun same =>
          apart ((place_injective inside.1 member.1 same).imp Eq.symm Eq.symm)
        exact congrArg some (Vector.getElem_set_ne _ _ places)
      next => rfl
  · simp only [paint, dif_neg inside]
    have unpainted : Coated colour (fun _ _ => False) surface surface :=
      Coated.nothing surface fun _ _ => id
    apply unpainted.congr
    intro column row inColumn inRow
    simp only [iff_false]
    rintro ⟨rfl, rfl⟩
    exact inside ⟨inColumn, inRow⟩

theorem mem_span {start length : Int} {limit place : Nat} :
    place ∈ span start length limit ↔
      (start ≤ place ∧ place < start + length) ∧ place < limit := by
  simp only [span, List.mem_map, List.mem_range]
  constructor
  · rintro ⟨distance, near, rfl⟩
    omega
  · intro bounds
    exact ⟨place - (max 0 start).toNat, by omega, by omega⟩

theorem coated_fillSquare (surface : Surface) (colour : Colour) (square : Square) :
    Coated colour square.Covers surface (surface.fillSquare colour square) := by
  -- A row is painted point by point, and the square row by row.
  have row (painted : Surface) (y : Nat) :=
    coated_foldl (fun painted x => coated_paint painted colour x y)
      (span square.left square.side surface.width) painted
  apply (coated_foldl row (span square.top square.side surface.height) surface).congr
  intro x y column row
  simp only [mem_span, Square.Covers]
  constructor
  · rintro ⟨across, down⟩
    exact ⟨y, ⟨down, row⟩, x, ⟨across, column⟩, rfl, rfl⟩
  · rintro ⟨_, ⟨down, _⟩, _, ⟨across, _⟩, rfl, rfl⟩
    exact ⟨across, down⟩

theorem colourAt?_fill {x y : Nat} (inside : x < surface.width ∧ y < surface.height) :
    (surface.fill colour).colourAt? x y = some colour :=
  (dif_pos inside).trans (congrArg some (Vector.getElem_map _ _))

theorem colourAt?_ofColour {width height x y : Nat} (inside : x < width ∧ y < height) :
    (ofColour width height colour).colourAt? x y = some colour :=
  (dif_pos inside).trans (congrArg some (Vector.getElem_replicate _))

end Surface

def Frame.lights (frame : Frame) (x y : Nat) : Bool :=
  decide (x / frame.scale.toNat < frame.width.toNat ∧
    y / frame.scale.toNat < frame.height.toNat) &&
  frame.pixels[y / frame.scale.toNat * frame.width.toNat + x / frame.scale.toNat]?.any (· != 0)

structure Frame.Drawable (frame : Frame) (system : WindowSystem) : Prop where
  complete : frame.width.toNat * frame.height.toNat ≤ frame.pixels.size
  squares : system.Accepts frame.width.toNat frame.height.toNat frame.scale

structure Frame.Paintable (frame : Frame) (system : WindowSystem) : Prop where
  scale : 1 ≤ frame.scale
  complete : frame.width.toNat * frame.height.toNat ≤ frame.pixels.size
  squares : system.Paints frame.width.toNat frame.height.toNat frame.scale

theorem Frame.Paintable.drawable {frame : Frame} {system : WindowSystem}
    (paintable : frame.Paintable system) : frame.Drawable system where
  complete := paintable.complete
  squares := fun x y column row => ⟨_, paintable.squares x y column row⟩

namespace Screen

variable {frame : Frame} {system : WindowSystem}

theorem cells_complete (complete : frame.width.toNat * frame.height.toNat ≤ frame.pixels.size) :
    cells frame = List.range (frame.width.toNat * frame.height.toNat) :=
  congrArg List.range (Nat.min_eq_left (Nat.le_succ_of_le complete))

theorem mem_cells (complete : frame.width.toNat * frame.height.toNat ≤ frame.pixels.size)
    {cell : Nat} : cell ∈ cells frame ↔ cell < frame.width.toNat * frame.height.toNat := by
  rw [cells_complete complete, List.mem_range]

theorem square?_drawable (drawable : frame.Drawable system) {cell : Nat}
    (inside : cell < frame.width.toNat * frame.height.toNat) :
    ∃ square, square? system frame cell = .ok square := by
  have positive : 0 < frame.width.toNat := Nat.pos_of_mul_pos_right (Nat.zero_lt_of_lt inside)
  have present := Array.getElem?_eq_getElem (Nat.lt_of_lt_of_le inside drawable.complete)
  obtain ⟨square, placed⟩ := drawable.squares _ _ (Nat.mod_lt cell positive)
    (Nat.div_lt_of_lt_mul inside)
  simp only [square?, present, placed]
  split
  · exact ⟨none, rfl⟩
  · exact ⟨some square, rfl⟩

theorem paintCells_drawable (drawable : frame.Drawable system) (colour : Colour) {cells : List Nat}
    (inside : ∀ cell ∈ cells, cell < frame.width.toNat * frame.height.toNat) (surface : Surface) :
    (paintCells system frame colour surface cells).2 = none := by
  induction cells generalizing surface with
  | nil => rfl
  | cons cell rest ih =>
    have others := ih fun other member => inside other (List.mem_cons_of_mem cell member)
    obtain ⟨square, found⟩ := square?_drawable drawable (inside cell List.mem_cons_self)
    simp only [paintCells, found]
    cases square with
    | none => exact others surface
    | some square => exact others _

theorem refresh_idle {screen : Screen} (idle : screen.pending = none) :
    screen.refresh = (screen, none) := by
  simp only [refresh, idle]

theorem refresh_drawable {screen : Screen}
    (drawable : ∀ frame ∈ screen.pending, frame.Drawable screen.system) :
    screen.refresh.2 = none ∧ screen.refresh.1.pending = none := by
  cases pending : screen.pending with
  | none =>
    rw [refresh_idle pending]
    exact ⟨rfl, pending⟩
  | some frame =>
    have complete := (drawable frame pending).complete
    simp only [refresh, pending]
    exact ⟨paintCells_drawable (drawable frame pending) screen.foreground
      (fun _ member => (mem_cells complete).mp member) _, trivial⟩

theorem refresh_system (screen : Screen) : screen.refresh.1.system = screen.system := by
  unfold refresh
  split <;> rfl

def CellCovers (frame : Frame) (cell x y : Nat) : Prop :=
  (∃ byte, frame.pixels[cell]? = some byte ∧ byte ≠ 0) ∧
    cell % frame.width.toNat = x / frame.scale.toNat ∧
    cell / frame.width.toNat = y / frame.scale.toNat

theorem covers_iff {column row x y : Nat} {scale : Int} (positive : 1 ≤ scale) :
    Square.Covers ⟨column * scale, row * scale, scale⟩ x y ↔
      column = x / scale.toNat ∧ row = y / scale.toNat := by
  obtain ⟨side, rfl⟩ : ∃ side : Nat, scale = side := ⟨scale.toNat, by omega⟩
  -- Columns and rows follow the same rule: a place belongs to the cell that it is divided into.
  have along (cell place : Nat) : ((cell : Int) * side ≤ place ∧
      (place : Int) < cell * side + side) ↔ cell = place / side := by
    rw [eq_comm, Nat.div_eq_iff (by omega)]
    norm_cast
    rw [Nat.mul_comm]
    omega
  exact and_congr (along column x) (along row y)

theorem square?_paintable (paintable : frame.Paintable system) {cell : Nat}
    (inside : cell < frame.width.toNat * frame.height.toNat) :
    (square? system frame cell = .ok none ∧ ∀ x y, ¬ CellCovers frame cell x y) ∨
      ∃ square, square? system frame cell = .ok (some square) ∧
        ∀ x y, square.Covers x y ↔ CellCovers frame cell x y := by
  have positive : 0 < frame.width.toNat := Nat.pos_of_mul_pos_right (Nat.zero_lt_of_lt inside)
  obtain ⟨byte, present⟩ : ∃ byte, frame.pixels[cell]? = some byte :=
    ⟨_, Array.getElem?_eq_getElem (Nat.lt_of_lt_of_le inside paintable.complete)⟩
  by_cases unlit : byte = 0
  · refine .inl ⟨by simp only [square?, present, if_pos unlit], ?_⟩
    rintro x y ⟨⟨_, found, lit⟩, -⟩
    cases present.symm.trans found
    exact lit unlit
  · have square := paintable.squares _ _ (Nat.mod_lt cell positive)
      (Nat.div_lt_of_lt_mul inside)
    refine .inr ⟨_, by simp only [square?, present, if_neg unlit, square]; rfl, ?_⟩
    intro x y
    rw [covers_iff paintable.scale, CellCovers]
    exact (and_iff_right ⟨byte, present, unlit⟩).symm

theorem coated_paintCells (paintable : frame.Paintable system) (colour : Colour)
    (surface : Surface) {cells : List Nat}
    (inside : ∀ cell ∈ cells, cell < frame.width.toNat * frame.height.toNat) :
    surface.Coated colour (fun x y => ∃ cell ∈ cells, CellCovers frame cell x y)
      (paintCells system frame colour surface cells).1 := by
  induction cells generalizing surface with
  | nil => exact Surface.Coated.nothing surface fun x y => by simp
  | cons cell rest ih =>
    have others := fun surface => ih surface fun other member =>
      inside other (List.mem_cons_of_mem cell member)
    have both (x y : Nat) : (∃ other ∈ cell :: rest, CellCovers frame other x y) ↔
        CellCovers frame cell x y ∨ ∃ other ∈ rest, CellCovers frame other x y := by
      simp only [List.mem_cons, exists_eq_or_imp]
    -- A dark cell adds nothing to what the others paint, and a lit one adds its square.
    rcases square?_paintable paintable (inside cell List.mem_cons_self) with
      ⟨unlit, uncovered⟩ | ⟨square, lit, covered⟩
    · simp only [paintCells, unlit]
      refine (others surface).congr fun x y _ _ => ?_
      rw [both, or_iff_right (uncovered x y)]
    · simp only [paintCells, lit]
      have first := surface.coated_fillSquare colour square
      refine (first.trans (others _)).congr fun x y _ _ => ?_
      rw [both, covered]

theorem lights_iff (frame : Frame) (x y : Nat) :
    frame.lights x y = true ↔ ∃ cell ∈ List.range (frame.width.toNat * frame.height.toNat),
      CellCovers frame cell x y := by
  simp only [Frame.lights, CellCovers, Bool.and_eq_true, decide_eq_true_eq, List.mem_range,
    Option.any_eq_true, bne_iff_ne]
  constructor
  · rintro ⟨inside, byte, present, lit⟩
    exact ⟨_, Surface.place_lt inside, ⟨byte, present, lit⟩, Surface.place_mod inside.1 _,
      Surface.place_div inside.1 _⟩
  · rintro ⟨cell, inside, ⟨byte, present, lit⟩, column, row⟩
    have positive : 0 < frame.width.toNat := Nat.pos_of_mul_pos_right (Nat.zero_lt_of_lt inside)
    rw [← column, ← row, Nat.div_add_mod']
    exact ⟨⟨Nat.mod_lt cell positive, Nat.div_lt_of_lt_mul inside⟩, byte, present, lit⟩

def Shows (screen : Screen) (frame : Frame) : Prop :=
  ∀ x y, x < screen.surface.width → y < screen.surface.height →
    screen.surface.colourAt? x y =
      some (if frame.lights x y then screen.foreground else screen.background)

structure SameWindow (before after : Screen) : Prop where
  system : after.system = before.system
  background : after.background = before.background
  foreground : after.foreground = before.foreground
  width : after.surface.width = before.surface.width
  height : after.surface.height = before.surface.height

theorem SameWindow.trans {first second third : Screen} (left : SameWindow first second)
    (right : SameWindow second third) : SameWindow first third where
  system := right.system.trans left.system
  background := right.background.trans left.background
  foreground := right.foreground.trans left.foreground
  width := right.width.trans left.width
  height := right.height.trans left.height

theorem refresh_pending {screen : Screen} (pending : screen.pending = some frame)
    (paintable : frame.Paintable screen.system) :
    screen.refresh.2 = none ∧ screen.refresh.1.pending = none ∧
      screen.refresh.1.Shows frame ∧ SameWindow screen screen.refresh.1 := by
  have drawable : ∀ other ∈ screen.pending, other.Drawable screen.system := by
    intro other waiting
    cases pending.symm.trans waiting
    exact paintable.drawable
  obtain ⟨complete, idle⟩ := refresh_drawable drawable
  have coated := coated_paintCells paintable screen.foreground
    (screen.surface.fill screen.background) fun _ => (mem_cells paintable.complete).mp
  refine ⟨complete, idle, ?_⟩
  simp only [refresh, pending]
  refine ⟨fun x y column row => ?_, rfl, rfl, rfl, coated.width, coated.height⟩
  have inside : x < screen.surface.width ∧ y < screen.surface.height :=
    ⟨coated.width ▸ column, coated.height ▸ row⟩
  have lights := lights_iff frame x y
  rw [← cells_complete paintable.complete] at lights
  -- Every point is coated by a lit cell, or else it was filled with the background before.
  by_cases lit : frame.lights x y = true
  · rw [if_pos lit]
    exact coated.inside x y (lights.mp lit) inside.1 inside.2
  · rw [if_neg lit]
    exact (coated.outside x y (mt lights.mpr lit)).trans (Surface.colourAt?_fill inside)

end Screen

end ChipEight
