import Ilumo.Lidar.PointCloud
import Ilumo.Lib.Machine

/-!
# The LiDAR node

The members of `LiDARPublisher` that its callbacks touch, the two callbacks, and the node as a
machine whose steps are whole callback invocations. The timers hand the point cloud message over as
a shared pointer, so what the callback leaves in it is the node's; they hand the two IMU messages
over by value, so the callback works on copies.
-/

namespace Ilumo.Lidar

/-- The scanner a callback invocation serves, which fixes the messages its timer captured. -/
inductive Scanner where
  | side
  | bottom
  deriving DecidableEq, Repr

structure LiDARPublisher where
  sidePointCloudMsg : PointCloud2
  sideImuBurstMsg : ImuBurst
  sideAvgImuMsg : Imu (Option ℚ)
  bottomPointCloudMsg : PointCloud2
  bottomImuBurstMsg : ImuBurst
  bottomAvgImuMsg : Imu (Option ℚ)
  lastPcSideTs : UInt64
  lastPcBottomTs : UInt64
  lastImuSideTs : UInt64
  lastImuBottomTs : UInt64
  deriving DecidableEq, Repr

def preparedPointCloudMsg (frameId : String) : PointCloud2 :=
  { makePointCloudMessage {} with header := { frameId } }

def preparedImuBurstMsg (frameId : String) : ImuBurst := { frameId }

def preparedAvgImuMsg (frameId : String) : Imu (Option ℚ) where
  header := { frameId }
  angularVelocity := ⟨some 0, some 0, some 0⟩
  linearAcceleration := ⟨some 0, some 0, some 0⟩

def LiDARPublisher.new : LiDARPublisher where
  sidePointCloudMsg := preparedPointCloudMsg "lidar_side"
  sideImuBurstMsg := preparedImuBurstMsg "lidar_side"
  sideAvgImuMsg := preparedAvgImuMsg "lidar_side"
  bottomPointCloudMsg := preparedPointCloudMsg "lidar_bottom"
  bottomImuBurstMsg := preparedImuBurstMsg "lidar_bottom"
  bottomAvgImuMsg := preparedAvgImuMsg "lidar_bottom"
  lastPcSideTs := 0
  lastPcBottomTs := 0
  lastImuSideTs := 0
  lastImuBottomTs := 0

/-! ### The callbacks -/

def notePointCloudTime (this : LiDARPublisher) (frameId : String) (startTimeNs : UInt64) :
    LiDARPublisher :=
  if frameId = "lidar_side" then { this with lastPcSideTs := startTimeNs }
  else if frameId = "lidar_bottom" then { this with lastPcBottomTs := startTimeNs }
  else this

/-- The members as the callback leaves them, and the message it fills in place and publishes. -/
def pointcloudCallback (this : LiDARPublisher) (frame : Frame) (pointCloudMsg : PointCloud2) :
    Except Fault (LiDARPublisher × PointCloud2) := do
  let this := notePointCloudTime this pointCloudMsg.header.frameId frame.startTimeNs
  let msg ← fillPointCloud frame pointCloudMsg
  return (this, msg)

/-- A message object handed from one invocation of `pointcloudCallback` to the next. -/
def CloudStep (s : LiDARPublisher × PointCloud2) (frame : Frame)
    (s' : LiDARPublisher × PointCloud2) : Prop :=
  pointcloudCallback s.1 frame s.2 = .ok s'

/-- As the source has it, the burst's start time goes to the point cloud variables. -/
def noteImuTime (this : LiDARPublisher) (frameId : String) (startTimeNs : UInt64) :
    LiDARPublisher :=
  if frameId = "lidar_side" then { this with lastPcSideTs := startTimeNs }
  else if frameId = "lidar_bottom" then { this with lastPcBottomTs := startTimeNs }
  else this

def gravity : ℚ := 980665 / 100000

structure Totals where
  numberOfSamples : ℚ := 0
  totalAx : ℚ := 0
  totalAy : ℚ := 0
  totalAz : ℚ := 0
  totalRx : ℚ := 0
  totalRy : ℚ := 0
  totalRz : ℚ := 0
  deriving DecidableEq, Repr

/-- The entry of one sample; its stamp is written twice, the second time over the nanoseconds. -/
def singleImuMsg (burstTimestamp : UInt64) (sample : Sample) : Except Fault ImuSingle := do
  let rx ← element sample.angularVelocity 0
  let ry ← element sample.angularVelocity 1
  let rz ← element sample.angularVelocity 2
  let ax ← element sample.acceleration 0
  let ay ← element sample.acceleration 1
  let az ← element sample.acceleration 2
  return {
    stamp := overwrittenStamp (burstTimestamp + sample.startOffsetNs)
    angularVelocity := ⟨rx, ry, rz⟩
    linearAcceleration := ⟨ax * gravity, ay * gravity, az * gravity⟩ }

/-- `total_rx += sample.angular_velocity(0)` and its five siblings, with `number_of_samples++`. -/
def Totals.add (totals : Totals) (sample : Sample) : Except Fault Totals := do
  let rx ← element sample.angularVelocity 0
  let ry ← element sample.angularVelocity 1
  let rz ← element sample.angularVelocity 2
  let ax ← element sample.acceleration 0
  let ay ← element sample.acceleration 1
  let az ← element sample.acceleration 2
  return {
    numberOfSamples := totals.numberOfSamples + 1
    totalAx := totals.totalAx + ax * gravity
    totalAy := totals.totalAy + ay * gravity
    totalAz := totals.totalAz + az * gravity
    totalRx := totals.totalRx + rx
    totalRy := totals.totalRy + ry
    totalRz := totals.totalRz + rz }

def addSample (burstTimestamp : UInt64) (acc : ImuBurst × Totals) (sample : Sample) :
    Except Fault (ImuBurst × Totals) := do
  let single ← singleImuMsg burstTimestamp sample
  let totals ← acc.2.add sample
  return ({ acc.1 with burst := acc.1.burst ++ [single] }, totals)

/-- Floating-point division; a zero divisor gives no number. -/
def quotient (dividend divisor : ℚ) : Option ℚ :=
  if divisor = 0 then none else some (dividend / divisor)

def averagedImuMsg (avgImuMsg : Imu (Option ℚ)) (burstTimestamp : UInt64) (totals : Totals) :
    Imu (Option ℚ) where
  header := { avgImuMsg.header with stamp := stampOf burstTimestamp }
  angularVelocity :=
    ⟨quotient totals.totalRx totals.numberOfSamples,
      quotient totals.totalRy totals.numberOfSamples,
      quotient totals.totalRz totals.numberOfSamples⟩
  linearAcceleration :=
    ⟨quotient totals.totalAx totals.numberOfSamples,
      quotient totals.totalAy totals.numberOfSamples,
      quotient totals.totalAz totals.numberOfSamples⟩

/-- The members as the callback leaves them, and the two messages it publishes. The message
arguments are the callback's own copies. -/
def imuCallback (this : LiDARPublisher) (data : IMU) (imuBurstMsg : ImuBurst)
    (avgImuMsg : Imu (Option ℚ)) :
    Except Fault (LiDARPublisher × ImuBurst × Imu (Option ℚ)) := do
  let this := noteImuTime this avgImuMsg.header.frameId data.startTimeNs
  let burstTimestamp := data.startTimeNs
  let (burst, totals) ← data.samples.foldlM (addSample burstTimestamp) (imuBurstMsg, {})
  return (this, burst, averagedImuMsg avgImuMsg burstTimestamp totals)

/-! ### The node as a machine -/

inductive Event where
  | pointCloud (scanner : Scanner) (frame : Frame)
  | imu (scanner : Scanner) (data : IMU)
  deriving DecidableEq, Repr

inductive Published where
  | pointCloud (msg : PointCloud2)
  | imu (burst : ImuBurst) (avg : Imu (Option ℚ))
  deriving DecidableEq, Repr

def LiDARPublisher.pointCloudMsg (this : LiDARPublisher) : Scanner → PointCloud2
  | .side => this.sidePointCloudMsg
  | .bottom => this.bottomPointCloudMsg

def LiDARPublisher.setPointCloudMsg (this : LiDARPublisher) (msg : PointCloud2) :
    Scanner → LiDARPublisher
  | .side => { this with sidePointCloudMsg := msg }
  | .bottom => { this with bottomPointCloudMsg := msg }

def LiDARPublisher.imuBurstMsg (this : LiDARPublisher) : Scanner → ImuBurst
  | .side => this.sideImuBurstMsg
  | .bottom => this.bottomImuBurstMsg

def LiDARPublisher.avgImuMsg (this : LiDARPublisher) : Scanner → Imu (Option ℚ)
  | .side => this.sideAvgImuMsg
  | .bottom => this.bottomAvgImuMsg

def LiDARPublisher.handle (this : LiDARPublisher) :
    Event → Except Fault (LiDARPublisher × Published)
  | .pointCloud scanner frame => do
      let (this, msg) ← pointcloudCallback this frame (this.pointCloudMsg scanner)
      return (this.setPointCloudMsg msg scanner, .pointCloud msg)
  | .imu scanner data => do
      let (this, burst, avg) ← imuCallback this data (this.imuBurstMsg scanner)
        (this.avgImuMsg scanner)
      return (this, .imu burst avg)

/-- The node and everything it has published, latest last, step through an event. -/
def Step (s : LiDARPublisher × List Published) (event : Event)
    (s' : LiDARPublisher × List Published) : Prop :=
  ∃ out, s.1.handle event = .ok (s'.1, out) ∧ s'.2 = s.2 ++ [out]

end Ilumo.Lidar
