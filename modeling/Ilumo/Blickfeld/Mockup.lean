import Ilumo.Blickfeld.Connection
import Ilumo.Blickfeld.Convert
import Ilumo.Blickfeld.Recording

/-!
# A recording is played to a client

`simulated_connection` answers requests from a recording: a subscription starts a thread that puts
one frame after another behind the answer, from the start again when the recording has ended.
`mockup_session` hands requests to it and writes its responses to the socket, and at the other end
a `point_cloud_stream` reads them. Threads take turns at the response buffer, whose mutex makes each
access one step; the delays between frames are left out.
-/

namespace Ilumo.Blickfeld.Mockup

open Connection CodedStream

inductive Request (π : Type) where
  | hello
  | proxyHello
  | subscribeStatus
  | subscribePointCloud (subscription : π)
  | other
  deriving DecidableEq, Repr

/-- `data::PointCloud` around the device header `δ`, at most one part of it set, or a status. -/
inductive StreamEvent (δ : Type) where
  | status
  | pointCloud (header? : Option δ) (frame? : Option Frame)
  deriving DecidableEq, Repr

inductive Data where
  | hello
  | proxyHello
  deriving DecidableEq, Repr

inductive Error where
  | notImplemented
  deriving DecidableEq, Repr

abbrev Response (δ : Type) := Connection.Response (StreamEvent δ) Data Error

variable {δ ι π : Type}

def StreamEvent.dataCase : StreamEvent δ → Option DataCase
  | .status => some .status
  | .pointCloud _ _ => some .pointCloud

def StreamEvent.header? : StreamEvent δ → Option δ
  | .pointCloud header? _ => header?
  | .status => none

def StreamEvent.frame : StreamEvent δ → Frame
  | .pointCloud _ frame? => frame?.getD {}
  | .status => {}

/-- `resp.event()` of a response. -/
def event : Response δ → StreamEvent δ
  | .event event => event
  | _ => .pointCloud none none

/-! ### The server -/

/-- `onFrame` is set while the thread that reads the recording runs; `thrown` says that an exception
or a conversion without a result ended it, and the server with it. -/
structure SimulatedConnection (δ ι : Type) where
  dumpStream : PointCloudStream δ ι Frame
  onFrame : Option (Frame → Frame) := none
  responseBuffer : List (Response δ) := []
  thrown : Bool := false

namespace SimulatedConnection

variable (pcProcessor : Option (π → Frame → Frame)) (loopRecording : Bool) (coded : CodedInput ι)
  (wire : Wire δ ι)

/-- The constructor, which opens the file. -/
def new (file : List UInt8) : Except String (SimulatedConnection δ ι) := do
  let dumpStream ← PointCloudStream.open coded wire file {}
  return { dumpStream }

/-- What a subscription does to the frames. -/
def onFrameOf (subscription : π) : Frame → Frame := (pcProcessor.map (· subscription)).getD id

def send (this : SimulatedConnection δ ι) (req : Request π) : SimulatedConnection δ ι :=
  let push (this : SimulatedConnection δ ι) (resp : Response δ) :=
    { this with responseBuffer := this.responseBuffer ++ [resp] }
  match req with
  | .hello => push this (.data .hello)
  | .proxyHello => push this (.data .proxyHello)
  | .subscribeStatus => push this (.event .status)
  | .subscribePointCloud subscription =>
      push { this with onFrame := some (onFrameOf pcProcessor subscription) }
        (.event (.pointCloud (some this.dumpStream.header.device) none))
  | .other => push this (.error .notImplemented)

def recv (this : SimulatedConnection δ ι) : Option (Response δ × SimulatedConnection δ ι) :=
  match this.responseBuffer with
  | [] => none
  | resp :: responseBuffer => some (resp, { this with responseBuffer })

/-- The next frame to send, unless the recording is over. -/
def nextFrame : StreamM δ ι Frame (Option Frame) := do
  if ← endOfStream coded wire then
    if !loopRecording then return none
    jumpToFirstFrame coded wire
  return some (← recvFrame coded wire fun frame _ => convertPointCloud frame)

/-- A round of the dump thread. -/
def dump (this : SimulatedConnection δ ι) : Option (SimulatedConnection δ ι) :=
  match this.onFrame with
  | none => none
  | some onFrame =>
      match nextFrame loopRecording coded wire this.dumpStream with
      | .ok none dumpStream => some { this with dumpStream, onFrame := none }
      | .error _ dumpStream => some { this with dumpStream, onFrame := none, thrown := true }
      | .ok (some frame) dumpStream => some { this with
          dumpStream
          responseBuffer := this.responseBuffer ++
            [.event (.pointCloud none (some (onFrame frame)))] }

end SimulatedConnection

/-! ### The client and the session -/

/-- A `point_cloud_stream<protocol::data::Frame>`: `header` is set when the subscription has been
answered, and `received` are the frames that `recv_frame` returned. -/
structure Client (δ π : Type) where
  subscription : π
  conn : ScannerConnection (StreamEvent δ) Data Error := {}
  subscribed : Bool := false
  header : Option (Option δ) := none
  received : List Frame := []

structure Playback (δ ι π : Type) where
  server : SimulatedConnection δ ι
  client : Client δ π
  up : Pipe := {}
  down : Pipe := {}

/-- `openStream` is the `recv` of the constructor of a stream. -/
inductive Action where
  | subscribe
  | arriveUp (n : Nat)
  | doRead
  | dump
  | doSend
  | arriveDown (n : Nat)
  | openStream
  | recvFrame
  deriving DecidableEq, Repr

namespace Playback

variable (protocol : Protocol (Request π) (StreamEvent δ) Data Error)
  (pcProcessor : Option (π → Frame → Frame)) (loopRecording : Bool) (coded : CodedInput ι)
  (wire : Wire δ ι)

/-- The next message for the client; one that throws ends the stream. -/
def recv (w : Playback δ ι π) : Option (Response δ × Playback δ ι π) :=
  match w.down.read? with
  | none => none
  | some (bytes, down) =>
      match w.client.conn.parseResponse protocol bytes with
      | (.error _, _) => none
      | (.ok resp, conn) => some (resp, { w with down, client := { w.client with conn } })

def step (w : Playback δ ι π) : Action → Option (Playback δ ι π)
  | .subscribe =>
      if w.client.subscribed then none
      else some { w with
        client := { w.client with subscribed := true }
        up := w.up.write
          (protocol.serializeRequest (.subscribePointCloud w.client.subscription)) }
  | .arriveUp n => some { w with up := w.up.deliver n }
  | .doRead =>
      match w.up.read? with
      | none => none
      | some (bytes, up) =>
          match protocol.parseRequest bytes with
          | none => none
          | some req => some { w with up, server := w.server.send pcProcessor req }
  | .dump =>
      match w.server.dump loopRecording coded wire with
      | none => none
      | some server => some { w with server }
  | .doSend =>
      match w.server.recv with
      | none => none
      | some (resp, server) =>
          some { w with server, down := w.down.write (protocol.serialize resp) }
  | .arriveDown n => some { w with down := w.down.deliver n }
  | .openStream =>
      if w.client.subscribed && w.client.header.isNone then
        match w.recv protocol with
        | none => none
        | some (resp, w) =>
            some { w with client := { w.client with header := some (event resp).header? } }
      else none
  | .recvFrame =>
      if w.client.header.isSome then
        match w.recv protocol with
        | none => none
        | some (resp, w) =>
            match convertPointCloud (event resp).frame with
            | .error _ => none
            | .ok frame => some { w with
                client := { w.client with received := w.client.received ++ [frame] } }
      else none

def Step (w : Playback δ ι π) (action : Action) (w' : Playback δ ι π) : Prop :=
  w.step protocol pcProcessor loopRecording coded wire action = some w'

end Playback

end Ilumo.Blickfeld.Mockup
