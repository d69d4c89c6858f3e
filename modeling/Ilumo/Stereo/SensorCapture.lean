import Ilumo.Lib.Mailbox
import Mathlib.Data.Rat.Defs

/-!
# The sensor capture

The grab thread receives reports of the camera's sensors and keeps the last reading of each of four
channels, with a flag for new data and a validity field of its own. A report always carries IMU
data; it carries the data of the other three channels only now and then, and says so. The readings
are scaled to physical units, taken as exact rationals.
-/

namespace Ilumo.Stereo

inductive Channel where
  | imu
  | mag
  | env
  | camTemp
  deriving DecidableEq, Repr

namespace Data

/-- `data::Imu`, without the validity field. -/
structure Imu where
  timestamp : UInt64
  aX : ℚ
  aY : ℚ
  aZ : ℚ
  gX : ℚ
  gY : ℚ
  gZ : ℚ
  temp : ℚ
  sync : Bool
  deriving DecidableEq, Repr

structure Magnetometer where
  timestamp : UInt64
  mX : ℚ
  mY : ℚ
  mZ : ℚ
  deriving DecidableEq, Repr

structure Environment where
  timestamp : UInt64
  temp : ℚ
  press : ℚ
  humid : ℚ
  deriving DecidableEq, Repr

structure Temperature where
  timestamp : UInt64
  tempLeft : ℚ
  tempRight : ℚ
  deriving DecidableEq, Repr

end Data

def Reading : Channel → Type
  | .imu => Data.Imu
  | .mag => Data.Magnetometer
  | .env => Data.Environment
  | .camTemp => Data.Temperature

/-- `usb::RawData`, the fields that the readings are made of. -/
structure RawData where
  imuNotValid : UInt8 := 0
  gX : Int16 := 0
  gY : Int16 := 0
  gZ : Int16 := 0
  aX : Int16 := 0
  aY : Int16 := 0
  aZ : Int16 := 0
  frameSync : UInt8 := 0
  imuTemp : Int16 := 0
  magValid : UInt8 := 0
  mX : Int16 := 0
  mY : Int16 := 0
  mZ : Int16 := 0
  envValid : UInt8 := 0
  temp : Int16 := 0
  press : UInt32 := 0
  humid : UInt32 := 0
  tempCamLeft : Int16 := 0
  tempCamRight : Int16 := 0
  deriving DecidableEq, Repr

/-! ### Scale factors -/

def accScale : ℚ := 98189 / 10000 * (8 / 32768)
def gyroScale : ℚ := 1000 / 32768
def magScale : ℚ := 1 / 16
def tempScale : ℚ := 1 / 100
def pressScaleNew : ℚ := 1 / 10000
def pressScaleOld : ℚ := 1 / 100
def humidScaleNew : ℚ := 1 / 100
def humidScaleOld : ℚ := 1 / 1024

def tempNotValid : Int16 := -27315

/-- `atLeast(mDevFwVer, ZED_2_FW::FW_3_9)`. -/
def atLeastFw39 (devFwVer : Int32) : Bool := devFwVer ≥ 777

/-! ### One report -/

/-- A validity field set from a raw byte that is not `NEW_VAL`. -/
def statusOf (valid : UInt8) : Status :=
  if valid = 0 then .notPresent
  else if valid = 1 then .oldVal
  else .newVal

/-- What an iteration of `grabThreadFunc` does to each channel, given the timestamp it has computed
for the report. -/
def RawData.report (data : RawData) (devFwVer : Int32) (currentDataTs : UInt64) :
    (channel : Channel) → Mailbox.Event (Reading channel)
  | .imu =>
      let imu : Data.Imu := {
        timestamp := currentDataTs
        aX := data.aX.toInt * accScale
        aY := data.aY.toInt * accScale
        aZ := data.aZ.toInt * accScale
        gX := data.gX.toInt * gyroScale
        gY := data.gY.toInt * gyroScale
        gZ := data.gZ.toInt * gyroScale
        temp := data.imuTemp.toInt * tempScale
        sync := data.frameSync ≠ 0 }
      .report (some imu) (if data.imuNotValid ≠ 1 then .newVal else .oldVal)
  | .mag =>
      if data.magValid = 2 then
        let mag : Data.Magnetometer := {
          timestamp := currentDataTs
          mX := data.mX.toInt * magScale
          mY := data.mY.toInt * magScale
          mZ := data.mZ.toInt * magScale }
        .report (some mag) .newVal
      else .report none (statusOf data.magValid)
  | .env =>
      if data.envValid = 2 then
        let env : Data.Environment := {
          timestamp := currentDataTs
          temp := data.temp.toInt * tempScale
          press := data.press.toNat * if atLeastFw39 devFwVer then pressScaleNew else pressScaleOld
          humid := data.humid.toNat * if atLeastFw39 devFwVer then humidScaleNew else humidScaleOld }
        .report (some env) .newVal
      else .report none (statusOf data.envValid)
  | .camTemp =>
      -- the left temperature is tested twice, the right one never
      if data.tempCamLeft ≠ tempNotValid ∧ data.tempCamLeft ≠ tempNotValid ∧ data.envValid = 2 then
        let camTemp : Data.Temperature := {
          timestamp := currentDataTs
          tempLeft := data.tempCamLeft.toInt * tempScale
          tempRight := data.tempCamRight.toInt * tempScale }
        .report (some camTemp) .newVal
      else .report none .oldVal

structure SensorCapture where
  devFwVer : Int32
  channel : (channel : Channel) → Mailbox (Reading channel) := fun _ => {}

def SensorCapture.grab (this : SensorCapture) (number : Nat) (data : RawData)
    (currentDataTs : UInt64) : SensorCapture :=
  { this with channel := fun channel =>
      (this.channel channel).step number (data.report this.devFwVer currentDataTs channel) }

theorem exists_report (data : RawData) (devFwVer : Int32) (currentDataTs : UInt64)
    (channel : Channel) :
    ∃ stored valid, data.report devFwVer currentDataTs channel = .report stored valid := by
  cases channel with
  | imu => exact ⟨_, _, rfl⟩
  | mag | env | camTemp =>
      rw [RawData.report]
      split
      all_goals exact ⟨_, _, rfl⟩

/-- The IMU channel is stored by every report, and the others only by reports that call them new. -/
theorem report_disciplined (channel : Channel) :
    (∀ data devFwVer currentDataTs valid,
        RawData.report data devFwVer currentDataTs channel ≠ .report none valid) ∨
      ∀ data devFwVer currentDataTs value valid,
        RawData.report data devFwVer currentDataTs channel = .report (some value) valid →
          valid = .newVal := by
  cases channel with
  | imu => exact .inl fun data devFwVer currentDataTs valid h => by cases h
  | mag | env | camTemp =>
      refine .inr fun data devFwVer currentDataTs value valid h => ?_
      rw [RawData.report] at h
      split at h
      · cases h
        rfl
      · cases h

end Ilumo.Stereo
