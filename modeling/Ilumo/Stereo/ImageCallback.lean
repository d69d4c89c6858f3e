import Ilumo.Lib.Machine
import Ilumo.Stereo.Image

/-!
# From the camera to the image topics

The grab thread keeps one frame and one pixel buffer and overwrites both with every frame it
captures. A run of the image callback takes a copy of the frame, which holds a pointer to the buffer
and not the pixels, and converts and publishes what the pointer shows at a later step. The callback
group is reentrant, so any number of runs may be between the two.
-/

namespace Ilumo.Stereo

inductive Pointer where
  | nullptr
  | buffer
  deriving DecidableEq, Repr

structure Frame where
  timestamp : UInt64 := 0
  data : Pointer := .nullptr
  width : Nat := 0
  height : Nat := 0
  deriving DecidableEq, Repr

/-- `mLastFrame`, the bytes its pointer shows, and `mNewFrame`. -/
structure VideoCapture where
  lastFrame : Frame
  buffer : List UInt8
  newFrame : Bool
  deriving DecidableEq, Repr

structure Captured where
  timestamp : UInt64
  pixels : List UInt8
  deriving DecidableEq, Repr

/-! ### The capture -/

/-- The output frame as `initializeVideo` allocates it. -/
def blankFrame (width height : Nat) : Frame where
  data := .buffer
  width := width
  height := height

/-- The check before a captured buffer is stored. -/
def VideoCapture.CanStore (this : VideoCapture) : Prop :=
  this.lastFrame.data ≠ .nullptr ∧ this.lastFrame.width ≠ 0 ∧ this.lastFrame.height ≠ 0

def VideoCapture.store (this : VideoCapture) (frame : Captured) : VideoCapture where
  lastFrame := { this.lastFrame with timestamp := frame.timestamp }
  buffer := frame.pixels
  newFrame := true

/-- `getLastFrame`. The frame is the same whether there is a new one or the wait times out. -/
def VideoCapture.getLastFrame (this : VideoCapture) : Frame × VideoCapture :=
  (this.lastFrame, { this with newFrame := false })

/-! ### The callback -/

structure Images where
  left : ImageMsg
  right : ImageMsg
  stereo : ImageMsg

/-- Conversion, split, rotation and the three messages, from the bytes behind the frame's
pointer. -/
def prepareImages (cvtColor : CvtColor) (frame : Frame) (data : List UInt8) : Images :=
  let frameYUV := yuvMat frame.height frame.width data
  let frameBGR := cvtColor frame.height frame.width frameYUV
  let leftImage := rect frameBGR 0 0 (frame.width / 2) frame.height (by omega) (by omega)
  let rightImage :=
    rect frameBGR (frame.width / 2) 0 (frame.width / 2) frame.height (by omega) (by omega)
  let stamp := stampOf frame.timestamp
  { left := toImageMsg { stamp, frameId := "stereo_camera_bottom" } (rotate90Clockwise leftImage)
    right := toImageMsg { stamp, frameId := "stereo_camera_top" } (rotate90Clockwise rightImage)
    stereo := toImageMsg { stamp, frameId := "stereo_camera_center" } frameBGR }

/-- The capture, the node's member, the runs in progress by the frame each has taken, oldest first,
and what has left on the three topics. -/
structure ImageNode where
  videoCap : VideoCapture
  lastImgTs : UInt64 := 0
  taken : List Frame := []
  leftImages : List ImageMsg := []
  rightImages : List ImageMsg := []
  stereoImages : List ImageMsg := []
  -- the frames stored and the timestamps published so far
  captured : List Captured := []
  published : List UInt64 := []

def ImageNode.new (width height : Nat) (buffer : List UInt8) : ImageNode where
  videoCap := { lastFrame := blankFrame width height, buffer, newFrame := false }

def ImageNode.grab (this : ImageNode) (frame : Captured) : ImageNode :=
  { this with
    videoCap := this.videoCap.store frame
    captured := this.captured ++ [frame] }

/-- The callback up to the update of `last_img_ts`; a frame that is not newer ends the run. -/
def ImageNode.take (this : ImageNode) : ImageNode :=
  let (frame, videoCap) := this.videoCap.getLastFrame
  if frame.data ≠ .nullptr ∧ frame.timestamp ≠ this.lastImgTs then
    { this with
      videoCap := videoCap
      lastImgTs := frame.timestamp
      taken := this.taken ++ [frame] }
  else { this with videoCap := videoCap }

/-- A run of the callback either goes on with a frame whose timestamp is not the last one, or ends
having cleared the flag at most. -/
theorem ImageNode.take_cases (this : ImageNode) :
    this.videoCap.lastFrame.timestamp ≠ this.lastImgTs ∧
        this.take = { this with
          videoCap := { this.videoCap with newFrame := false }
          lastImgTs := this.videoCap.lastFrame.timestamp
          taken := this.taken ++ [this.videoCap.lastFrame] } ∨
      this.take = { this with videoCap := { this.videoCap with newFrame := false } } := by
  rw [ImageNode.take, VideoCapture.getLastFrame]
  dsimp only
  split
  · next hnew => exact .inl ⟨hnew.2, rfl⟩
  · exact .inr rfl

def ImageNode.publish (cvtColor : CvtColor) (this : ImageNode) (i : Nat) (frame : Frame) :
    ImageNode :=
  let images := prepareImages cvtColor frame this.videoCap.buffer
  { this with
    taken := this.taken.eraseIdx i
    leftImages := this.leftImages ++ [images.left]
    rightImages := this.rightImages ++ [images.right]
    stereoImages := this.stereoImages ++ [images.stereo]
    published := this.published ++ [frame.timestamp] }

inductive ImageEvent where
  | grab (frame : Captured)
  | take
  | publish (i : Nat)
  deriving DecidableEq, Repr

inductive ImageStep (cvtColor : CvtColor) : ImageNode → ImageEvent → ImageNode → Prop
  | grab {this : ImageNode} {frame : Captured} (hstore : this.videoCap.CanStore)
      (hlater : ∀ earlier ∈ this.captured, earlier.timestamp < frame.timestamp) :
      ImageStep cvtColor this (.grab frame) (this.grab frame)
  | take {this : ImageNode} : ImageStep cvtColor this .take this.take
  | publish {this : ImageNode} {i : Nat} {frame : Frame} (htaken : this.taken[i]? = some frame) :
      ImageStep cvtColor this (.publish i) (this.publish cvtColor i frame)

end Ilumo.Stereo
