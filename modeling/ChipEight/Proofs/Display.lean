import ChipEight.Proofs.Storage
import ChipEight.Display

set_option autoImplicit false

namespace ChipEight.Display

variable {width height : Int}

def byteAt (display : Display width height) (x y : Int) : Except Fault UInt8 := do
  let place : Fin (width * height).toNat ← offset x y
  return display.pixels.get place

theorem offset_inside {x y : Int} (inside : (0 ≤ x ∧ x < width) ∧ 0 ≤ y ∧ y < height) :
    (offset x y : Except Fault (Fin (width * height).toNat)) =
      .ok ⟨(y * width + x).toNat, offset_lt inside⟩ :=
  dif_pos inside

theorem offset_outside {x y : Int} (outside : ¬ ((0 ≤ x ∧ x < width) ∧ 0 ≤ y ∧ y < height)) :
    (offset x y : Except Fault (Fin (width * height).toNat)) =
      .error (.pixelOutside x y width height) :=
  dif_neg outside

theorem offset_injective {x y otherX otherY : Int}
    (inside : (0 ≤ x ∧ x < width) ∧ 0 ≤ y ∧ y < height)
    (otherInside : (0 ≤ otherX ∧ otherX < width) ∧ 0 ≤ otherY ∧ otherY < height)
    (same : (y * width + x).toNat = (otherY * width + otherX).toNat) :
    x = otherX ∧ y = otherY := by
  have rows : 0 ≤ y * width := Int.mul_nonneg inside.2.1 (by omega)
  have otherRows : 0 ≤ otherY * width := Int.mul_nonneg otherInside.2.1 (by omega)
  have places : y * width + x = otherY * width + otherX := by omega
  have columns : x = otherX := by
    have reduced := congrArg (· % width) places
    simpa only [Int.add_comm _ x, Int.add_comm _ otherX, Int.add_mul_emod_self_right,
      Int.emod_eq_of_lt inside.1.1 inside.1.2,
      Int.emod_eq_of_lt otherInside.1.1 otherInside.1.2] using reduced
  refine ⟨columns, Int.eq_of_mul_eq_mul_right (show width ≠ 0 by omega) ?_⟩
  omega

theorem write_inside (display : Display width height) {x y : Int} (on : Bool)
    (inside : (0 ≤ x ∧ x < width) ∧ 0 ≤ y ∧ y < height) :
    display.write x y on =
      .ok (display.pixels.get ⟨(y * width + x).toNat, offset_lt inside⟩ == lit && !on,
        ⟨Row.replace display.pixels ⟨(y * width + x).toNat, offset_lt inside⟩
          (if on then lit else dark)⟩) := by
  simp only [write, offset_inside inside]
  rfl

theorem write_outside (display : Display width height) {x y : Int} (on : Bool)
    (outside : ¬ ((0 ≤ x ∧ x < width) ∧ 0 ≤ y ∧ y < height)) :
    display.write x y on = .error (.pixelOutside x y width height) := by
  simp only [write, offset_outside outside]
  rfl

theorem write_ok {display after : Display width height} {x y : Int} {on erased : Bool}
    (written : display.write x y on = .ok (erased, after)) :
    (0 ≤ x ∧ x < width) ∧ 0 ≤ y ∧ y < height := by
  by_cases inside : (0 ≤ x ∧ x < width) ∧ 0 ≤ y ∧ y < height
  · exact inside
  · rw [write_outside display on inside] at written
    cases written

theorem byteAt_write {display after : Display width height} {x y : Int} {on erased : Bool}
    (written : display.write x y on = .ok (erased, after)) (pointX pointY : Int) :
    after.byteAt pointX pointY =
      if pointX = x ∧ pointY = y then .ok (if on then lit else dark)
      else display.byteAt pointX pointY := by
  have inside := write_ok written
  rw [write_inside display on inside] at written
  cases written
  by_cases pointInside : (0 ≤ pointX ∧ pointX < width) ∧ 0 ≤ pointY ∧ pointY < height
  · simp only [byteAt, offset_inside pointInside]
    change Except.ok _ = _
    rw [Row.get_replace]
    by_cases same : pointX = x ∧ pointY = y
    · obtain ⟨rfl, rfl⟩ := same
      simp
    · have apart : (pointY * width + pointX).toNat ≠ (y * width + x).toNat :=
        fun equal => same (offset_injective pointInside inside equal)
      simp only [Fin.mk.injEq, apart, same, if_false]
      rfl
  · -- At a point outside, the byte is a fault before and after.
    have other : ¬ (pointX = x ∧ pointY = y) := by
      rintro ⟨rfl, rfl⟩
      exact pointInside inside
    simp only [byteAt, offset_outside pointInside, other, if_false]
    rfl

def Monochrome (display : Display width height) : Prop :=
  ∀ place, display.pixels.get place = dark ∨ display.pixels.get place = lit

theorem blank_monochrome : (blank : Display width height).Monochrome :=
  fun place => .inl (Vector.getElem_replicate place.isLt)

theorem Monochrome.write {display after : Display width height} {x y : Int} {on erased : Bool}
    (monochrome : display.Monochrome) (written : display.write x y on = .ok (erased, after)) :
    after.Monochrome := by
  have inside := write_ok written
  rw [write_inside display on inside] at written
  cases written
  intro place
  simp only [Row.get_replace]
  split
  next => cases on <;> simp
  next => exact monochrome place

theorem getElem?_view {display : Display width height} {x y : Int}
    (inside : (0 ≤ x ∧ x < width) ∧ 0 ≤ y ∧ y < height) :
    display.view[(y * width + x).toNat]? = some (display.pixels.get ⟨_, offset_lt inside⟩) :=
  Array.getElem?_eq_getElem (Nat.lt_of_lt_of_eq (offset_lt inside) display.pixels.size_toArray.symm)

theorem read_eq_view {display : Display width height} (monochrome : display.Monochrome) {x y : Int}
    (inside : (0 ≤ x ∧ x < width) ∧ 0 ≤ y ∧ y < height) :
    display.read x y = .ok (display.view[(y * width + x).toNat]?.any (· != 0)) := by
  simp only [read, offset_inside inside, getElem?_view inside]
  change Except.ok (display.pixels.get ⟨_, offset_lt inside⟩ == lit) = _
  rcases monochrome ⟨_, offset_lt inside⟩ with byte | byte
  · rw [byte]
    rfl
  · rw [byte]
    rfl

theorem read_inside (display : Display width height) {x y : Int}
    (inside : (0 ≤ x ∧ x < width) ∧ 0 ≤ y ∧ y < height) : ∃ on, display.read x y = .ok on := by
  simp only [read, offset_inside inside]
  exact ⟨_, rfl⟩

theorem read_outside (display : Display width height) {x y : Int}
    (outside : ¬ ((0 ≤ x ∧ x < width) ∧ 0 ≤ y ∧ y < height)) :
    display.read x y = .error (.pixelOutside x y width height) := by
  simp only [read, offset_outside outside]
  rfl

theorem view_blank {width height : Int} (place : Nat) :
    (blank : Display width height).view[place]?.any (· != 0) = false := by
  simp only [view, blank, Vector.toArray_replicate, Array.getElem?_replicate]
  split <;> rfl

theorem viewByte_eq_view (display : Display width height) {index : Int}
    (small : width * height ≤ 0x8000000000000000)
    (inside : 0 ≤ index ∧ index < (width * height).toNat) :
    ∃ byte, display.viewByte index = .ok byte ∧ display.view[index.toNat]? = some byte := by
  refine ⟨display.pixels.get ⟨index.toNat, Row.index_lt inside⟩, ?_, ?_⟩
  · simp only [viewByte, Row.position_inside (by omega) _ inside]
    rfl
  · exact Array.getElem?_eq_getElem
      (Nat.lt_of_lt_of_eq (Row.index_lt inside) display.pixels.size_toArray.symm)

theorem viewByte_inside (display : Display width height) {x y : Int}
    (small : width * height ≤ 0x8000000000000000)
    (inside : (0 ≤ x ∧ x < width) ∧ 0 ≤ y ∧ y < height) :
    ∃ byte, display.byteAt x y = .ok byte ∧ display.viewByte (y * width + x) = .ok byte ∧
      display.view[(y * width + x).toNat]? = some byte := by
  have rows : 0 ≤ y * width := Int.mul_nonneg inside.2.1 (by omega)
  have place := offset_lt inside
  obtain ⟨byte, seen, shown⟩ :=
    display.viewByte_eq_view small (show 0 ≤ y * width + x ∧ _ by omega)
  have same := Option.some.inj ((getElem?_view inside).symm.trans shown)
  refine ⟨byte, ?_, seen, shown⟩
  simp only [byteAt, offset_inside inside]
  exact congrArg Except.ok same

theorem ofSize_ok {room : Int} {display : Display width height}
    (made : ofSize width height room = .ok display) :
    display = .blank ∧ 0 ≤ width * height ∧ width * height < 0x8000000000000000 ∧
      width * height ≤ room := by
  simp only [ofSize] at made
  cases checked : Row.checkSize (width * height) room with
  | error fault =>
    rw [checked] at made
    cases made
  | ok =>
    rw [checked] at made
    change (if width * height < 0 then _ else _) = _ at made
    split at made
    next => cases made
    next positive =>
      cases made
      exact ⟨rfl, Int.not_lt.mp positive, Row.checkSize_ok checked⟩

theorem ofSize_inside {room : Int}
    (small : 0 ≤ width * height ∧ width * height < 0x8000000000000000)
    (roomy : width * height ≤ room) :
    (ofSize width height room : Except Fault (Display width height)) = .ok .blank := by
  rw [ofSize, Row.checkSize_inside (by omega) roomy]
  exact if_neg (by omega)

end ChipEight.Display
