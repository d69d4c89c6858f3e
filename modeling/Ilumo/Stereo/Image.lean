import Ilumo.Ros.Time

/-!
# Images

The OpenCV operations of the image callback on matrices of pixels. A rectangle selects a sub-matrix
and the clockwise rotation sends the left column, read upwards, to the top row. The colour
conversion is the library's own and a parameter wherever it is used.
-/

namespace Ilumo.Stereo

abbrev Mat (rows cols : Nat) (α : Type) := Fin rows → Fin cols → α

abbrev Yuv := UInt8 × UInt8

abbrev Bgr := UInt8 × UInt8 × UInt8

variable {rows cols : Nat} {α : Type}

def yuvMat (rows cols : Nat) (data : List UInt8) : Mat rows cols Yuv := fun r c =>
  (data.getD (2 * (r * cols + c)) 0, data.getD (2 * (r * cols + c) + 1) 0)

/-- `mat(cv::Rect(x, y, width, height))`. -/
def rect (mat : Mat rows cols α) (x y width height : Nat) (hx : x + width ≤ cols)
    (hy : y + height ≤ rows) : Mat height width α := fun r c =>
  mat ⟨y + r, by omega⟩ ⟨x + c, by omega⟩

def rotate90Clockwise (mat : Mat rows cols α) : Mat cols rows α := fun r c => mat c.rev r

/-- `cv::COLOR_YUV2BGR_YUYV`. -/
abbrev CvtColor := (rows cols : Nat) → Mat rows cols Yuv → Mat rows cols Bgr

/-- The conversion of a grey buffer, whose chroma bytes are 128. -/
def cvtGrey : CvtColor := fun _ _ mat r c =>
  let level := UInt8.ofNat (min 255 ((((mat r c).1.toNat - 16) * 1220542 + 2 ^ 19) / 2 ^ 20))
  (level, level, level)

structure ImageMsg where
  header : Header
  height : Nat
  width : Nat
  encoding : String
  pixels : Mat height width Bgr

/-- `cv_bridge::CvImage(header, "bgr8", image).toImageMsg()`. -/
def toImageMsg (header : Header) (image : Mat rows cols Bgr) : ImageMsg where
  header := header
  height := rows
  width := cols
  encoding := "bgr8"
  pixels := image

end Ilumo.Stereo
