import Ilumo.Lib.Grid
import Ilumo.Stereo.ImageCallback
import Mathlib.Algebra.Group.Nat.Even

/-!
# The left and right images partition the stereo image

The callback cuts the converted frame in the middle and turns each half clockwise. In terms of
positions that is one bijection, so nothing of the stereo image is lost or shown twice, and turning
the halves back and joining them restores it.
-/

namespace Ilumo.Stereo

open Grid

/-- The stereo position that the left image shows at row `r` and column `c`. -/
def leftPosition {height width : Nat} (r : Fin (width / 2)) (c : Fin height) :
    Fin height × Fin width :=
  (c.rev, ⟨r, by omega⟩)

def rightPosition {height width : Nat} (r : Fin (width / 2)) (c : Fin height) :
    Fin height × Fin width :=
  (c.rev, ⟨width / 2 + r, by omega⟩)

/-- Each image shows the stereo pixels of its positions, the positions of both are those of the
stereo image, once each, and turned back and joined they are the stereo image. -/
structure Partitions {height width : Nat} (hhalves : width / 2 + width / 2 = width)
    (stereo : Mat height width Bgr) (left right : Mat (width / 2) height Bgr) : Prop where
  ofLeft : ∀ r c, left r c = stereo (leftPosition r c).1 (leftPosition r c).2
  ofRight : ∀ r c, right r c = stereo (rightPosition r c).1 (rightPosition r c).2
  once : Function.Bijective (Sum.elim
    (fun p : Fin (width / 2) × Fin height => (leftPosition p.1 p.2 : Fin height × Fin width))
    (fun p : Fin (width / 2) × Fin height => rightPosition p.1 p.2))
  rejoined : ∀ r c, beside (counterclockwise left) (counterclockwise right) r c =
    stereo r (c.cast hhalves)

variable {height width : Nat}

/-- Positions of the two turned halves, as positions of the frame. -/
def frameCut (hhalves : width / 2 + width / 2 = width) :
    (Fin (width / 2) × Fin height) ⊕ (Fin (width / 2) × Fin height) ≃ Fin height × Fin width :=
  (cut height (width / 2) (width / 2)).trans (Equiv.prodCongr (Equiv.refl _) (finCongr hhalves))

theorem sum_elim_positions (hhalves : width / 2 + width / 2 = width) :
    Sum.elim
      (fun p : Fin (width / 2) × Fin height => (leftPosition p.1 p.2 : Fin height × Fin width))
      (fun p : Fin (width / 2) × Fin height => rightPosition p.1 p.2) = frameCut hhalves := by
  funext p
  cases p <;> rfl

/-- The frame, its columns counted in two halves. -/
def inHalves (hhalves : width / 2 + width / 2 = width) (frameBGR : Mat height width Bgr) :
    Grid height (width / 2 + width / 2) Bgr := fun r c => frameBGR r (c.cast hhalves)

/-- The two rectangles are the two parts of the frame. -/
theorem rect_left (frameBGR : Mat height width Bgr) (hhalves : width / 2 + width / 2 = width) :
    rect frameBGR 0 0 (width / 2) height (by omega) (by omega) =
      leftPart (inHalves hhalves frameBGR) := by
  funext r c
  simp only [rect, Nat.zero_add]
  rfl

theorem rect_right (frameBGR : Mat height width Bgr) (hhalves : width / 2 + width / 2 = width) :
    rect frameBGR (width / 2) 0 (width / 2) height (by omega) (by omega) =
      rightPart (inHalves hhalves frameBGR) := by
  funext r c
  simp only [rect, Nat.zero_add]
  rfl

theorem partitions_rect (frameBGR : Mat height width Bgr)
    (hhalves : width / 2 + width / 2 = width) :
    Partitions hhalves frameBGR
      (rotate90Clockwise (rect frameBGR 0 0 (width / 2) height (by omega) (by omega)))
      (rotate90Clockwise
        (rect frameBGR (width / 2) 0 (width / 2) height (by omega) (by omega))) := by
  rw [rect_left frameBGR hhalves, rect_right frameBGR hhalves]
  refine ⟨clockwise_leftPart _, clockwise_rightPart _, ?_, ?_⟩
  · rw [sum_elim_positions hhalves]
    exact (frameCut hhalves).bijective
  · intro r c
    change beside (counterclockwise (clockwise (leftPart _)))
      (counterclockwise (clockwise (rightPart _))) r c = _
    rw [counterclockwise_clockwise, counterclockwise_clockwise, leftPart_beside_rightPart]
    rfl

theorem halves_of_even (heven : Even width) : width / 2 + width / 2 = width := by
  obtain ⟨half, rfl⟩ := heven
  omega

/-- **The left and right images partition the stereo image**, for every frame of even width, every
pixel buffer and every conversion of colours. -/
theorem prepareImages_partitions (cvtColor : CvtColor) (frame : Frame) (data : List UInt8)
    (heven : Even frame.width) :
    let images := prepareImages cvtColor frame data
    images.left.height = frame.width / 2 ∧ images.left.width = frame.height ∧
      images.right.height = frame.width / 2 ∧ images.right.width = frame.height ∧
      images.stereo.height = frame.height ∧ images.stereo.width = frame.width ∧
      Partitions (halves_of_even heven) images.stereo.pixels images.left.pixels
        images.right.pixels :=
  ⟨rfl, rfl, rfl, rfl, rfl, rfl, partitions_rect _ _⟩

/-- Twelve pixels in three rows, brighter and brighter. -/
def brightening : List UInt8 :=
  (List.range 12).flatMap fun i => [UInt8.ofNat (16 + 10 * i), 128]

theorem prepareImages_partitions_four :
    (List.finRange 3).map (fun r => (List.finRange 4).map fun c =>
        ((prepareImages cvtGrey (blankFrame 4 3) brightening).stereo.pixels r c).1) =
      [[0, 12, 23, 35], [47, 58, 70, 81], [93, 105, 116, 128]] ∧
    @Partitions 3 4 rfl
      (prepareImages cvtGrey (blankFrame 4 3) brightening).stereo.pixels
      (prepareImages cvtGrey (blankFrame 4 3) brightening).left.pixels
      (prepareImages cvtGrey (blankFrame 4 3) brightening).right.pixels :=
  ⟨by decide, (prepareImages_partitions cvtGrey (blankFrame 4 3) brightening ⟨2, rfl⟩).2.2.2.2.2.2⟩

end Ilumo.Stereo
