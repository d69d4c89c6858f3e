import Ilumo.Stereo.ImageCallback
import Ilumo.Stereo.SensorCallback

/-!
# The stamps of the stereo node

Three images are stamped with the time of one frame, and one, two or three messages with the time of
one reading. Pressure, temperature and humidity have the nanosecond field overwritten with the whole
time, so their stamp means its source time only in the first second of every `2 ^ 23`.
-/

namespace Ilumo.Stereo

/-- What messages are built from: a frame with the bytes behind its pointer, or a reading with the
members it goes into. -/
inductive Source where
  | ofFrame (frame : Frame) (data : List UInt8)
  | ofReading (channel : Channel) (messages : Messages channel) (reading : Reading channel)

def Images.stamps (images : Images) : List Time :=
  [images.left.header.stamp, images.right.header.stamp, images.stereo.header.stamp]

def Messages.stamps : (channel : Channel) → Messages channel → List Time
  | .imu, imuMsg => [imuMsg.header.stamp]
  | .mag, magMsg => [magMsg.header.stamp]
  | .env, (pressMsg, tempMsg, humiMsg) =>
      [pressMsg.header.stamp, tempMsg.header.stamp, humiMsg.header.stamp]
  | .camTemp, (leftCamTempMsg, rightCamTempMsg) =>
      [leftCamTempMsg.header.stamp, rightCamTempMsg.header.stamp]

def Reading.sourceTs : (channel : Channel) → Reading channel → UInt64
  | .imu, imuData => imuData.timestamp
  | .mag, magData => magData.timestamp
  | .env, envData => envData.timestamp
  | .camTemp, tempData => tempData.timestamp

namespace Source

def stamps (cvtColor : CvtColor) : Source → List Time
  | .ofFrame frame data => (prepareImages cvtColor frame data).stamps
  | .ofReading channel messages reading =>
      Messages.stamps channel (fillMessages channel messages reading)

def timestamp : Source → UInt64
  | .ofFrame frame _ => frame.timestamp
  | .ofReading channel _ reading => Reading.sourceTs channel reading

def count : Source → Nat
  | .ofFrame _ _ => 3
  | .ofReading .imu _ _ => 1
  | .ofReading .mag _ _ => 1
  | .ofReading .env _ _ => 3
  | .ofReading .camTemp _ _ => 2

def times (source : Source) : List Nat := List.replicate source.count source.timestamp.toNat

/-- An environment reading is from a second whose number is a multiple of `2 ^ 23`. -/
def EnvAligned : Source → Prop
  | .ofReading .env _ envData => (Reading.sourceTs .env envData).toNat / 10 ^ 9 % 2 ^ 23 = 0
  | _ => True

def stamp : Source → Time
  | .ofReading .env _ envData => overwrittenStamp (Reading.sourceTs .env envData)
  | source => stampOf source.timestamp

variable {cvtColor : CvtColor} {source : Source}

theorem stamps_eq (cvtColor : CvtColor) (source : Source) :
    source.stamps cvtColor = List.replicate source.count source.stamp := by
  cases source with
  | ofFrame frame data => rfl
  | ofReading channel messages reading =>
      cases channel with
      | imu | mag => rfl
      | env | camTemp =>
          simp only [stamps, Messages.stamps, fillMessages, stampOfInts_eq]
          rfl

theorem count_ne_zero (source : Source) : source.count ≠ 0 := by
  cases source with
  | ofFrame frame data => exact three_ne_zero
  | ofReading channel messages reading => cases channel <;> exact Nat.succ_ne_zero _

theorem stamp_denotes_iff (hbound : source.timestamp.toNat < 2 ^ 31 * 10 ^ 9) :
    source.stamp.Denotes source.timestamp.toNat ↔ source.EnvAligned := by
  cases source with
  | ofFrame frame data => exact iff_of_true (stampOf_denotes hbound) trivial
  | ofReading channel messages reading =>
      cases channel with
      | env => exact overwrittenStamp_denotes_iff hbound
      | imu | mag | camTemp => exact iff_of_true (stampOf_denotes hbound) trivial

end Source

theorem flatMap_stamps (cvtColor : CvtColor) (sources : List Source) :
    sources.flatMap (Source.stamps cvtColor) =
      (sources.flatMap fun source => List.replicate source.count source).map Source.stamp := by
  rw [List.map_flatMap]
  apply List.flatMap_congr
  intro source _
  rw [Source.stamps_eq, List.map_replicate]

theorem flatMap_times (sources : List Source) :
    sources.flatMap Source.times =
      (sources.flatMap fun source => List.replicate source.count source).map
        fun source => source.timestamp.toNat := by
  rw [List.map_flatMap]
  apply List.flatMap_congr
  intro source _
  rw [Source.times, List.map_replicate]

/-- **When the stamps of the stereo node are right.** Of messages built from any frames and readings
in the range of a stamp, every stamp means its source time and any two compare as the source times
do, if and only if every environment reading is from a second whose number is a multiple of
`2 ^ 23`. -/
theorem faithful_iff_envAligned {cvtColor : CvtColor} {sources : List Source}
    (hbound : ∀ source ∈ sources, source.timestamp.toNat < 2 ^ 31 * 10 ^ 9) :
    Faithful (sources.flatMap (Source.stamps cvtColor)) (sources.flatMap Source.times) ↔
      ∀ source ∈ sources, source.EnvAligned := by
  rw [flatMap_stamps, flatMap_times, faithful_map_iff]
  refine ⟨?_, ?_⟩
  · intro hall source hmem
    apply (Source.stamp_denotes_iff (hbound source hmem)).mp
    apply hall
    exact List.mem_flatMap.mpr ⟨source, hmem, List.mem_replicate.mpr ⟨source.count_ne_zero, rfl⟩⟩
  · intro haligned message hmem
    obtain ⟨source, hsource, hmessage⟩ := List.mem_flatMap.mp hmem
    obtain rfl := List.eq_of_mem_replicate hmessage
    exact (Source.stamp_denotes_iff (hbound message hsource)).mpr (haligned message hsource)

/-! ### A frame and an environment reading -/

def frameAndEnv : List Source :=
  [.ofFrame { blankFrame 2560 720 with timestamp := 1700000003380000000 } [],
    .ofReading .env (preparedMessages .env) ⟨1700000003380000000, 25, 101325 / 100, 40⟩]

theorem frameAndEnv_bound :
    ∀ source ∈ frameAndEnv, source.timestamp.toNat < 2 ^ 31 * 10 ^ 9 := by
  simp [frameAndEnv, Source.timestamp, Reading.sourceTs]

theorem faithful_iff_envAligned_frameAndEnv :
    Faithful (frameAndEnv.flatMap (Source.stamps cvtGrey)) (frameAndEnv.flatMap Source.times) ↔
      ∀ source ∈ frameAndEnv, source.EnvAligned :=
  faithful_iff_envAligned frameAndEnv_bound

/-- The stamps of pressure, temperature and humidity are not normalised, and above that of a frame
of the same time. -/
theorem frameAndEnv_not_faithful :
    (∀ source ∈ frameAndEnv, source.timestamp.toNat < 2 ^ 31 * 10 ^ 9) ∧
      ¬ Faithful (frameAndEnv.flatMap (Source.stamps cvtGrey)) (frameAndEnv.flatMap Source.times) := by
  refine ⟨frameAndEnv_bound, ?_⟩
  intro hfaithful
  exact absurd hfaithful.denotes (by decide)

end Ilumo.Stereo
