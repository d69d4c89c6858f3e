import Ilumo.Ros.Messages
import Ilumo.Stereo.SensorCapture

/-!
# The sensor callback

A run of the callback goes through the four channels. On each it takes the last reading, and if that
is new it fills the channel's messages, which are members of the node, and publishes them. The three
parts of a channel are the atomic steps of overlapping runs; a whole run is their composition.
-/

namespace Ilumo.Stereo

/-- The messages built from one reading of a channel; from an environment reading pressure,
temperature and humidity, from a camera temperature reading left and right. -/
def Messages : Channel → Type
  | .imu => Imu ℚ
  | .mag => MagneticField
  | .env => FluidPressure × Temperature × RelativeHumidity
  | .camTemp => Temperature × Temperature

def mPi : ℚ := 884279719003555 / 281474976710656

def fillMessages : (channel : Channel) → Messages channel → Reading channel → Messages channel
  | .imu, imuMsg, imuData =>
      { imuMsg with
        header := { imuMsg.header with stamp := stampOf imuData.timestamp }
        linearAcceleration := ⟨imuData.aX, imuData.aY, imuData.aZ⟩
        angularVelocity :=
          ⟨imuData.gX * mPi / 180, imuData.gY * mPi / 180, imuData.gZ * mPi / 180⟩ }
  | .mag, magMsg, magData =>
      { magMsg with
        header := { magMsg.header with stamp := stampOf magData.timestamp }
        magneticField := ⟨magData.mX, magData.mY, magData.mZ⟩ }
  | .env, (pressMsg, tempMsg, humiMsg), envData =>
      -- through two `int`s, and then the whole time over the nanoseconds
      let stamp := { stampOfInts envData.timestamp with nanosec := envData.timestamp.toUInt32 }
      ({ pressMsg with
          header := { pressMsg.header with stamp }
          fluidPressure := envData.press },
        { tempMsg with
          header := { tempMsg.header with stamp }
          temperature := envData.temp },
        { humiMsg with
          header := { humiMsg.header with stamp }
          relativeHumidity := envData.humid })
  | .camTemp, (leftCamTempMsg, rightCamTempMsg), tempData =>
      let stamp := stampOfInts tempData.timestamp
      ({ leftCamTempMsg with
          header := { leftCamTempMsg.header with stamp }
          temperature := tempData.tempLeft },
        { rightCamTempMsg with
          header := { rightCamTempMsg.header with stamp }
          temperature := tempData.tempRight })

def preparedMessages : (channel : Channel) → Messages channel
  | .imu => ⟨{ frameId := "stereo_camera_center" }, ⟨0, 0, 0⟩, ⟨0, 0, 0⟩⟩
  | .mag => ⟨{ frameId := "stereo_camera_center" }, ⟨0, 0, 0⟩⟩
  | .env =>
      (⟨{ frameId := "stereo_camera_center" }, 0⟩, ⟨{ frameId := "stereo_camera_center" }, 0⟩,
        ⟨{ frameId := "stereo_camera_center" }, 0⟩)
  | .camTemp =>
      (⟨{ frameId := "stereo_camera_bottom" }, 0⟩, ⟨{ frameId := "stereo_camera_top" }, 0⟩)

/-- A fill leaves nothing of an earlier one. -/
theorem fillMessages_fillMessages (channel : Channel) (messages : Messages channel)
    (earlier reading : Reading channel) :
    fillMessages channel (fillMessages channel messages earlier) reading =
      fillMessages channel messages reading := by
  cases channel <;> rfl

/-- The capture, the node's messages, and what has left on each channel's topics. -/
structure SensorNode where
  sensCap : SensorCapture
  messages : (channel : Channel) → Messages channel := preparedMessages
  topic : (channel : Channel) → List (Messages channel) := fun _ => []

namespace SensorNode

def new (devFwVer : Int32) : SensorNode where
  sensCap := { devFwVer }

/-! ### The parts of a run -/

/-- `getLast…Data`, and whether the returned data are to be processed. -/
def take (this : SensorNode) (channel : Channel) :
    Option (Nat × Reading channel) × SensorNode :=
  let slot := this.sensCap.channel channel
  (slot.handedOut,
    { this with sensCap := { this.sensCap with
        channel := Function.update this.sensCap.channel channel slot.getLast.2 } })

def fill (this : SensorNode) (channel : Channel) (reading : Reading channel) : SensorNode :=
  { this with messages :=
      Function.update this.messages channel (fillMessages channel (this.messages channel) reading) }

def publish (this : SensorNode) (channel : Channel) : SensorNode :=
  { this with topic :=
      Function.update this.topic channel (this.topic channel ++ [this.messages channel]) }

def process (this : SensorNode) (channel : Channel) : SensorNode :=
  match this.take channel with
  | (some (_, reading), this) => (this.fill channel reading).publish channel
  | (none, this) => this

def channels : List Channel := [.imu, .mag, .env, .camTemp]

def sensorCallback (this : SensorNode) : SensorNode := channels.foldl process this

def grab (this : SensorNode) (number : Nat) (data : RawData) (currentDataTs : UInt64) :
    SensorNode :=
  { this with sensCap := this.sensCap.grab number data currentDataTs }

end SensorNode

end Ilumo.Stereo
