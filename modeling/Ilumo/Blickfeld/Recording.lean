import Ilumo.Blickfeld.Frame
import Ilumo.Lib.CodedStream

/-!
# Recordings

A recording is a header, a data message for each frame and a last one with the footer, each written
as a length-delimited record. `point_cloud_record` writes it and counts for the footer;
`point_cloud_stream` opens it, looks for the footer in the last record, and hands out the frames one
by one, converted into the frame it owns. The coded input stream over the compressed file, the
serialization of the messages and the conversion are parameters.
-/

namespace Ilumo.Blickfeld

open CodedStream

structure Counter where
  frames : UInt64 := 0
  points : UInt64 := 0
  returns : UInt64 := 0
  deriving DecidableEq, Repr

structure Event where
  fromFrameId : UInt64
  scanPattern : ScanPattern
  deriving DecidableEq, Repr

/-- `PointCloud::Footer`, its `stats` as far as they are set. -/
structure Footer where
  counter? : Option Counter := none
  events : List Event := []
  deriving DecidableEq, Repr

def Footer.counter (footer : Footer) : Counter := footer.counter?.getD {}

inductive Language where
  | cpp
  | python
  | typescript
  deriving DecidableEq, Repr

structure Client where
  libraryVersion : String
  fileTimeNs : UInt64
  language : Language
  deriving DecidableEq, Repr

/-- `PointCloud::Header` around the device header `δ`. -/
structure Header (δ : Type) where
  device : δ
  client : Client
  deriving DecidableEq, Repr

/-- `PointCloud::Data`. -/
structure Data where
  frame? : Option Frame := none
  footer? : Option Footer := none
  deriving DecidableEq, Repr

def Data.frame (data : Data) : Frame := data.frame?.getD {}

def Data.hasFooter (data : Data) : Bool := data.footer?.isSome

/-- The serialization of the two messages of a recording. `MergeFromCodedStream` into an empty
message gives a message and, by `ConsumedEntireMessage`, whether it was there as a whole. -/
structure Wire (δ ι : Type) where
  serializeHeader : Header δ → List UInt8
  mergeHeader : ι → Header δ × Bool × ι
  serializeData : Data → List UInt8
  mergeData : ι → Data × Bool × ι

variable {δ ι φ : Type} (coded : CodedInput ι) (wire : Wire δ ι)

/-! ### Writing -/

structure PointCloudRecord where
  ostream : List UInt8 := []
  footer : Footer := {}
  scanPattern : ScanPattern := {}
  finished : Bool := false
  deriving DecidableEq, Repr

def PointCloudRecord.start (record : PointCloudRecord) (header : Header δ) : PointCloudRecord :=
  { record with ostream := record.ostream ++ delimited (wire.serializeHeader header) }

/-- `ApproximatelyEquals` of two scan patterns is a parameter. -/
def Footer.count (approximatelyEquals : ScanPattern → ScanPattern → Bool)
    (acc : Footer × ScanPattern) (frame : Frame) : Footer × ScanPattern :=
  let (footer, scanPattern) := acc
  let changed := !approximatelyEquals scanPattern frame.scanPattern
  let event : Event := { fromFrameId := frame.id, scanPattern := frame.scanPattern }
  let counter := footer.counter
  ({ events := if changed then footer.events ++ [event] else footer.events
     counter? := some {
       frames := counter.frames + 1
       points := counter.points + frame.totalNumberOfPoints.toUInt64
       returns := counter.returns + frame.totalNumberOfReturns.toUInt64 } },
    if changed then frame.scanPattern else scanPattern)

def PointCloudRecord.recordData (approximatelyEquals : ScanPattern → ScanPattern → Bool)
    (record : PointCloudRecord) (frame : Frame) : PointCloudRecord :=
  let (footer, scanPattern) :=
    Footer.count approximatelyEquals (record.footer, record.scanPattern) frame
  { record with
    ostream := record.ostream ++ delimited (wire.serializeData { frame? := some frame })
    footer, scanPattern }

def PointCloudRecord.finish (record : PointCloudRecord) : PointCloudRecord :=
  if record.finished then record
  else { record with
    finished := true
    ostream := record.ostream ++
      delimited (wire.serializeData { footer? := some record.footer }) }

/-- What `record_to_stream`, a `recv_frame` for each frame and `stop_recording` write. -/
def recording (approximatelyEquals : ScanPattern → ScanPattern → Bool) (header : Header δ)
    (frames : List Frame) : PointCloudRecord :=
  let started := PointCloudRecord.start wire {} header
  (frames.foldl (PointCloudRecord.recordData wire approximatelyEquals) started).finish wire

/-! ### Reading -/

/-- `frame` is what the stream converts into. -/
structure PointCloudStream (δ ι φ : Type) where
  istream : List UInt8
  pb : ι
  header : Header δ
  footer? : Option Footer
  offsetData : Nat
  streamBuffered : Bool := false
  streamData : Data := {}
  frame : φ

def streamInitAndSkip (istream : List UInt8) (offset : Nat) : ι :=
  coded.skip (coded.init istream) offset

def corrupted : String := "Failed to parse input. Stream may be corrupted."

def endReached : String :=
  "Reached end of stream. Use end_of_stream() before calling recv_frame()."

/-- The walk over the records to the last one. Each round moves on, and a position is an `int`, so
there are no more rounds than that. -/
def findFooter : Nat → Int × ι → Nat → Nat → Nat
  | 0, _, offsetFooter, _ => offsetFooter
  | rounds + 1, (limit, inside), offsetFooter, offsetD =>
      if 0 < coded.bytesUntilLimit inside then
        let after := coded.popLimit (coded.skip inside (coded.bytesUntilLimit inside).toNat) limit
        findFooter rounds (coded.readLengthAndPushLimit after) offsetD (coded.currentPosition after)
      else
        offsetFooter

/-- `frame` is a new one. -/
def PointCloudStream.open (istream : List UInt8) (frame : φ) :
    Except String (PointCloudStream δ ι φ) :=
  let (limit, inside) := coded.readLengthAndPushLimit (streamInitAndSkip coded istream 0)
  let (header, consumed, after) := wire.mergeHeader inside
  if !consumed then .error corrupted
  else
    let data := coded.popLimit after limit
    let offsetData := coded.currentPosition data
    let offsetFooter :=
      findFooter coded intMax (coded.readLengthAndPushLimit data) offsetData offsetData
    let (_, last) := coded.readLengthAndPushLimit (streamInitAndSkip coded istream offsetFooter)
    let (streamData, consumed, _) := wire.mergeData last
    .ok {
      istream, header, offsetData, streamData, frame
      pb := streamInitAndSkip coded istream offsetData
      footer? := if consumed then streamData.footer? else none }

/-- A method throws a `str_exception`, or is undefined in the conversion. -/
inductive Failure where
  | strException (what : String)
  | fault (fault : Fault)
  deriving DecidableEq, Repr

/-- The methods leave behind what they changed before they threw. -/
abbrev StreamM (δ ι φ : Type) := EStateM Failure (PointCloudStream δ ι φ)

def readStream : StreamM δ ι φ Unit := do
  let s ← get
  let (limit, inside) := coded.readLengthAndPushLimit s.pb
  if coded.bytesUntilLimit inside = 0 then
    set { s with pb := inside, streamBuffered := false }
  else
    let (streamData, consumed, after) := wire.mergeData inside
    if consumed then
      set { s with pb := coded.popLimit after limit, streamData, streamBuffered := true }
    else
      set { s with pb := after, streamData }
      throw (.strException corrupted)

def endOfStream : StreamM δ ι φ Bool := do
  if !(← get).streamBuffered then readStream coded wire
  let s ← get
  return !s.streamBuffered || s.streamData.hasFooter

/-- `convert` is the `convert_point_cloud` of the type of frame. -/
def recvFrame (convert : Frame → φ → Except Fault φ) : StreamM δ ι φ φ := do
  if ← endOfStream coded wire then throw (.strException endReached)
  modify fun s => { s with streamBuffered := false }
  let s ← get
  match convert s.streamData.frame s.frame with
  | .ok frame => do
      set { s with frame }
      return frame
  | .error fault => throw (.fault fault)

def jumpToFirstFrame : StreamM δ ι φ Unit := do
  modify fun s => { s with pb := streamInitAndSkip coded s.istream s.offsetData }
  readStream coded wire

end Ilumo.Blickfeld
