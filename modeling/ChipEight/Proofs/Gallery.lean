import ChipEight.Proofs.Drawing
import ChipEight.Proofs.Service

set_option autoImplicit false

namespace ChipEight

-- Displays are kept under numbers. A view has no pixels of its own: it knows the number of its
-- display, and so it sees whatever is written there later.
structure Gallery (width height : Int) where
  kept : Nat → Display width height
  own : Nat
  views : List Nat

namespace Gallery

inductive Request where
  | write (x y on : Int)
  | clear
  | view
  | writeThrough (number : Nat) (index value : Int)
  deriving DecidableEq

variable {width height : Int}

def display (gallery : Gallery width height) : Display width height :=
  gallery.kept gallery.own

def keep (gallery : Gallery width height) (number : Nat) (display : Display width height) :
    Gallery width height :=
  { gallery with
    kept := fun other => if other = number then display else gallery.kept other }

def obey (gallery : Gallery width height) :
    Request → Except Fault (Option Bool) × Gallery width height
  | .write x y on => settle gallery do
      let (erased, after) ← gallery.display.write x y (on != 0)
      return (some erased, gallery.keep gallery.own after)
  | .clear => (.ok none, gallery.keep gallery.own gallery.display.clear)
  | .view => (.ok none, { gallery with views := gallery.views ++ [gallery.own] })
  | .writeThrough number index value => settle gallery do
      let after ← (gallery.kept number).writeThroughView index value
      return (none, gallery.keep number after)

def new (others : Nat → Display width height) (own : Nat) (display : Display width height) :
    Gallery width height :=
  keep ⟨others, own, []⟩ own display

namespace Request

def Touches (x y : Int) : Request → Prop
  | write column row _ => column = x ∧ row = y
  | clear => True
  | _ => False

instance (x y : Int) : DecidablePred (Touches x y)
  | write column row _ => inferInstanceAs (Decidable (column = x ∧ row = y))
  | clear => .isTrue trivial
  | view => .isFalse id
  | writeThrough _ _ _ => .isFalse id

def leaves : Request → Bool
  | write _ _ on => on != 0
  | _ => false

theorem eq_write {request : Request} {x y : Int} (touched : request.Touches x y)
    (lit : request.leaves = true) : ∃ on, request = .write x y on ∧ on ≠ 0 := by
  cases request with
  | write column row on =>
    obtain ⟨rfl, rfl⟩ := touched
    exact ⟨on, rfl, bne_iff_ne.mp lit⟩
  | clear => cases lit
  | view => cases touched
  | writeThrough => cases touched

end Request

section Steps

variable {gallery : Gallery width height} {x y : Int}

theorem display_keep (gallery : Gallery width height) (display : Display width height) :
    (gallery.keep gallery.own display).display = display :=
  if_pos rfl

theorem obey_write_inside (gallery : Gallery width height) (on : Int)
    (inside : (0 ≤ x ∧ x < width) ∧ 0 ≤ y ∧ y < height) :
    ∃ erased after, gallery.display.write x y (on != 0) = .ok (erased, after) ∧
      gallery.obey (.write x y on) = (.ok (some erased), gallery.keep gallery.own after) := by
  have written := gallery.display.write_inside (on != 0) inside
  refine ⟨_, _, written, ?_⟩
  simp only [obey, written]
  rfl

theorem obey_write_outside (gallery : Gallery width height) (on : Int)
    (outside : ¬ ((0 ≤ x ∧ x < width) ∧ 0 ≤ y ∧ y < height)) :
    gallery.obey (.write x y on) = (.error (.pixelOutside x y width height), gallery) := by
  simp only [obey, gallery.display.write_outside (on != 0) outside]
  rfl

theorem obey_writeThrough (gallery : Gallery width height) (number : Nat) (index value : Int) :
    gallery.obey (.writeThrough number index value) = (.error .readOnlyView, gallery) :=
  rfl

theorem read_obey (gallery : Gallery width height) (request : Request)
    (inside : (0 ≤ x ∧ x < width) ∧ 0 ≤ y ∧ y < height) :
    (gallery.obey request).2.display.read x y =
      if request.Touches x y then .ok request.leaves else gallery.display.read x y := by
  cases request with
  | write column row on =>
    by_cases reached : (0 ≤ column ∧ column < width) ∧ 0 ≤ row ∧ row < height
    · obtain ⟨erased, after, written, obeyed⟩ := gallery.obey_write_inside on reached
      rw [obeyed, display_keep, Display.read_write written]
      simp only [Request.Touches, Request.leaves, eq_comm]
    · have elsewhere : ¬ Request.Touches x y (.write column row on) := by
        rintro ⟨rfl, rfl⟩
        exact reached inside
      rw [obey_write_outside gallery on reached, if_neg elsewhere]
  | clear =>
    rw [if_pos (show Request.Touches x y .clear from trivial)]
    exact (congrArg (Display.read · x y) (display_keep gallery _)).trans (Display.read_blank inside)
  | view => rfl
  | writeThrough => rfl

theorem length_views_obey (gallery : Gallery width height) (request : Request) :
    (gallery.obey request).2.views.length =
      gallery.views.length + [request].count .view := by
  cases request with
  | write column row on =>
    by_cases reached : (0 ≤ column ∧ column < width) ∧ 0 ≤ row ∧ row < height
    · obtain ⟨_, _, -, obeyed⟩ := gallery.obey_write_inside on reached
      rw [obeyed]
      rfl
    · rw [obey_write_outside gallery on reached]
      rfl
  | view => exact List.length_append
  | clear => rfl
  | writeThrough => rfl

structure Tended (others : Nat → Display width height) (home : Nat)
    (gallery : Gallery width height) : Prop where
  own : gallery.own = home
  apart : ∀ number, number ≠ home → gallery.kept number = others number
  views : ∀ view ∈ gallery.views, view = home
  monochrome : gallery.display.Monochrome

namespace Tended

variable {others : Nat → Display width height} {home : Nat}

theorem keep (tended : gallery.Tended others home) {display : Display width height}
    (monochrome : display.Monochrome) : (gallery.keep gallery.own display).Tended others home where
  own := tended.own
  apart := fun number other =>
    (if_neg (tended.own.symm ▸ other)).trans (tended.apart number other)
  views := tended.views
  monochrome := (display_keep gallery display).symm ▸ monochrome

theorem ofNew (others : Nat → Display width height) (home : Nat) :
    (new others home .blank).Tended others home where
  own := rfl
  apart := fun _ other => if_neg other
  views := nofun
  monochrome := (display_keep ⟨others, home, []⟩ .blank).symm ▸ Display.blank_monochrome

theorem kept_view (tended : gallery.Tended others home) {view : Nat}
    (member : view ∈ gallery.views) : gallery.kept view = gallery.display :=
  congrArg gallery.kept ((tended.views view member).trans tended.own.symm)

theorem obey (tended : gallery.Tended others home) (request : Request) :
    (gallery.obey request).2.Tended others home := by
  cases request with
  | write x y on =>
    by_cases inside : (0 ≤ x ∧ x < width) ∧ 0 ≤ y ∧ y < height
    · obtain ⟨_, after, written, obeyed⟩ := gallery.obey_write_inside on inside
      rw [obeyed]
      exact tended.keep (tended.monochrome.write written)
    · rw [obey_write_outside gallery on inside]
      exact tended
  | clear => exact tended.keep Display.blank_monochrome
  | view =>
    refine { tended with views := fun view member => ?_ }
    rcases List.mem_append.mp member with earlier | new
    · exact tended.views view earlier
    · exact (List.mem_singleton.mp new).trans tended.own
  | writeThrough => exact tended

end Tended

end Steps

def LitBy (requests : List Request) (x y : Int) : Prop :=
  ∃ earlier on later, requests = earlier ++ .write x y on :: later ∧ on ≠ 0 ∧
    ∀ other ∈ later, ¬ other.Touches x y

structure Exhibits (requests : List Request) (gallery : Gallery width height) : Prop where
  read : ∀ x y, (0 ≤ x ∧ x < width) ∧ 0 ≤ y ∧ y < height →
    ∃ on, gallery.display.read x y = .ok on ∧ (on = true ↔ LitBy requests x y)
  write : ∀ x y on, (0 ≤ x ∧ x < width) ∧ 0 ≤ y ∧ y < height →
    ∃ erased, (gallery.obey (.write x y on)).1 = .ok (some erased) ∧
      (erased = true ↔ gallery.display.byteAt x y = .ok Display.lit ∧ on = 0)
  outside : ∀ x y, ¬ ((0 ≤ x ∧ x < width) ∧ 0 ≤ y ∧ y < height) →
    gallery.display.read x y = .error (.pixelOutside x y width height) ∧
      ∀ on, gallery.obey (.write x y on) = (.error (.pixelOutside x y width height), gallery)
  monochrome : gallery.display.Monochrome
  size : (gallery.display.view.size : Int) = width * height
  views : gallery.views.length = requests.count .view
  shown : ∀ view ∈ gallery.views, ∀ x y, (0 ≤ x ∧ x < width) ∧ 0 ≤ y ∧ y < height →
    ∃ byte, gallery.display.byteAt x y = .ok byte ∧
      (gallery.kept view).viewByte (y * width + x) = .ok byte ∧
      (gallery.kept view).view[(y * width + x).toNat]? = some byte
  readOnly : ∀ number index value,
    gallery.obey (.writeThrough number index value) = (.error .readOnlyView, gallery)

theorem lit_iff (gallery : Gallery width height) (blank : gallery.display = .blank)
    (requests : List Request) {x y : Int}
    (inside : (0 ≤ x ∧ x < width) ∧ 0 ≤ y ∧ y < height) :
    (serveAll obey gallery requests).2.display.read x y = .ok true ↔ LitBy requests x y := by
  have dark : gallery.display.read x y ≠ .ok true := by
    rw [blank, Display.read_blank inside]
    nofun
  have history := serveAll_latest (fun gallery => gallery.display.read x y)
    (fun gallery request => read_obey gallery request inside) gallery requests
  rw [history, latest_eq_iff dark]
  constructor
  · rintro ⟨earlier, request, later, same, touched, lit, untouched⟩
    obtain ⟨on, rfl, nonzero⟩ := Request.eq_write touched (Except.ok.inj lit)
    exact ⟨earlier, on, later, same, nonzero, untouched⟩
  · rintro ⟨earlier, on, later, same, nonzero, untouched⟩
    exact ⟨earlier, _, later, same, ⟨rfl, rfl⟩, congrArg Except.ok (bne_iff_ne.mpr nonzero),
      untouched⟩

theorem length_views (gallery : Gallery width height) (requests : List Request) :
    (serveAll obey gallery requests).2.views.length =
      gallery.views.length + requests.count .view := by
  induction requests generalizing gallery with
  | nil => rfl
  | cons request rest ih =>
    rw [serveAll_cons, ih, length_views_obey, Nat.add_assoc, ← List.count_append]
    rfl

/-- A display is a grid of independent pixels, and each of its views shows them as they are. -/
theorem pixels_independent (width height room : Int) :
    (0 ≤ width * height ∧ width * height < 0x8000000000000000 → width * height ≤ room →
      ∃ display : Display width height, Display.ofSize width height room = .ok display) ∧
    ∀ display : Display width height, Display.ofSize width height room = .ok display →
      ∀ others home requests,
        Exhibits requests (serveAll obey (new others home display) requests).2 ∧
        ∀ number, number ≠ home →
          (serveAll obey (new others home display) requests).2.kept number = others number := by
  refine ⟨fun small roomy => ⟨_, Display.ofSize_inside small roomy⟩,
    fun display made others home requests => ?_⟩
  obtain ⟨rfl, positive, small, -⟩ := Display.ofSize_ok made
  have tended := serveAll_keeps (Tended others home)
    (fun _ request tended => tended.obey request) (.ofNew others home) requests
  have lit {x y : Int} (inside : (0 ≤ x ∧ x < width) ∧ 0 ≤ y ∧ y < height) :=
    lit_iff (new others home .blank) (display_keep _ .blank) requests inside
  have taken := length_views (new others home .blank) requests
  generalize (serveAll obey (new others home .blank) requests).2 = gallery at *
  refine ⟨?_, tended.apart⟩
  constructor
  case read =>
    intro x y inside
    obtain ⟨on, read⟩ := gallery.display.read_inside inside
    exact ⟨on, read, by rw [← lit inside, read, Except.ok.injEq]⟩
  case write =>
    intro x y on inside
    obtain ⟨erased, _, written, obeyed⟩ := gallery.obey_write_inside on inside
    refine ⟨erased, congrArg Prod.fst obeyed, ?_⟩
    rw [Display.erased_iff written, bne_eq_false_iff_eq]
  case outside =>
    exact fun x y outside => ⟨gallery.display.read_outside outside,
      fun on => gallery.obey_write_outside on outside⟩
  case monochrome => exact tended.monochrome
  case size =>
    rw [Display.view, Vector.size_toArray]
    omega
  case views => exact taken.trans (Nat.zero_add _)
  case shown =>
    intro view member x y inside
    rw [tended.kept_view member]
    exact gallery.display.viewByte_inside (Int.le_of_lt small) inside
  case readOnly => exact gallery.obey_writeThrough

end Gallery

end ChipEight
