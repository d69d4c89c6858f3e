import Ilumo.Lib.FloatingPoint
import Ilumo.Zed.Region

/-!
# Exposure and gain

A percentage is turned into the raw value of a sensor, written byte by byte, and turned back when it
is read. Setting does not report failures, so these results are about a camera whose calls succeed.
-/

namespace Ilumo.Zed

open FloatingPoint

/-! ### The registers of a sensor -/

def ADDR_EXP_H : UInt32 := 0x3500

def ADDR_EXP_M : UInt32 := 0x3501

def ADDR_EXP_L : UInt32 := 0x3502

def ADDR_GAIN_H : UInt32 := 0x3507

def ADDR_GAIN_M : UInt32 := 0x3508

def ADDR_GAIN_L : UInt32 := 0x3509

def llReadSensorRegister (right : Bool) (sscbId : UInt8) (address : UInt32) :
    Control (Int × UInt8) :=
  .ask (.readSensor right sscbId address)

def llWriteSensorRegister (right : Bool) (sscbId : UInt8) (address : UInt32) (value : UInt8) :
    Control Int := do
  let (hr, _) ← .ask (.writeSensor right sscbId address value)
  return hr

/-- The values from the highest byte to the lowest. -/
def writeThree (addrH addrM addrL : UInt32) (right : Bool) (h m l : UInt8) : Control Int := do
  let hr ← llWriteSensorRegister right 1 addrH h
  let hr' ← llWriteSensorRegister right 1 addrM m
  let hr'' ← llWriteSensorRegister right 1 addrL l
  return hr + hr' + hr''

def readThree (addrH addrM addrL : UInt32) (right : Bool) :
    Control (Int × UInt8 × UInt8 × UInt8) := do
  let (hr, h) ← llReadSensorRegister right 1 addrH
  let (hr', m) ← llReadSensorRegister right 1 addrM
  let (hr'', l) ← llReadSensorRegister right 1 addrL
  return (hr + hr' + hr'', h, m, l)

def llIspSetExposure := writeThree ADDR_EXP_H ADDR_EXP_M ADDR_EXP_L

def llIspGetExposure := readThree ADDR_EXP_H ADDR_EXP_M ADDR_EXP_L

def llIspSetGain := writeThree ADDR_GAIN_H ADDR_GAIN_M ADDR_GAIN_L

def llIspGetGain := readThree ADDR_GAIN_H ADDR_GAIN_M ADDR_GAIN_L

/-! ### Exposure -/

def DEFAULT_MIN_EXP : Int := 0

def DEFAULT_MAX_EXP : Int := 100

def EXP_RAW_MIN : Int := 2

/-- Set by the constructor. -/
def mExpoureRawMax (mFps : Int) : Int :=
  if mFps ≤ 15 then 1550 else if mFps ≤ 30 then 1100 else if mFps ≤ 60 then 880 else 720

/-- `static_cast<int>` of the side; every side but the left one is the right sensor. -/
def isRight (cam : CamSensPos) : Bool := cam != .left

def rawExposure (mFps exposure : Int) : Int :=
  let exposure := if exposure < DEFAULT_MIN_EXP then DEFAULT_MIN_EXP else exposure
  let exposure := if exposure > DEFAULT_MAX_EXP then DEFAULT_MAX_EXP else exposure
  let rawExp := truncate (double (mExpoureRawMax mFps * double (exposure / 100)))
  if rawExp < EXP_RAW_MIN then EXP_RAW_MIN else rawExp

def leaveAutomatic : Control Unit := do
  if ← getAECAGC then
    let _ ← setAECAGC false

def setExposure (mFps : Int) (cam : CamSensPos) (exposure : Int) : Control Unit := do
  leaveAutomatic
  let rawExp := rawExposure mFps exposure
  let _ ← llIspSetExposure (isRight cam) (uint8 (rawExp / 2 ^ 12)) (uint8 (rawExp / 2 ^ 4))
    (uint8 (rawExp * 2 ^ 4) &&& 0xf0)

/-- The percentage of a raw value. -/
def exposureOf (mFps rawExp : Int) : Int :=
  roundAway (double (double (100 * rawExp) / mExpoureRawMax mFps))

def getExposure (mFps : Int) (cam : CamSensPos) : Control Int := do
  let (r, h, m, l) ← llIspGetExposure (isRight cam)
  if r < 0 then return r
  else return exposureOf mFps (h.toNat * 2 ^ 12 + m.toNat * 2 ^ 4 + l.toNat / 2 ^ 4)

/-! ### Gain -/

def DEFAULT_MIN_GAIN : Int := 0

def DEFAULT_MAX_GAIN : Int := 100

def GAIN_ZONE1_MIN : Int := 0

def GAIN_ZONE1_MAX : Int := 255

def GAIN_ZONE2_MIN : Int := 378

def GAIN_ZONE2_MAX : Int := 511

def GAIN_ZONE3_MIN : Int := 890

def GAIN_ZONE3_MAX : Int := 1023

def GAIN_ZONE4_MIN : Int := 1914

def GAIN_ZONE4_MAX : Int := 2047

def gainZone1nbVal : Int := GAIN_ZONE1_MAX - GAIN_ZONE1_MIN

def gainZone2nbVal : Int := GAIN_ZONE2_MAX - GAIN_ZONE2_MIN

def gainZone3nbVal : Int := GAIN_ZONE3_MAX - GAIN_ZONE3_MIN

def gainZone4nbVal : Int := GAIN_ZONE4_MAX - GAIN_ZONE4_MIN

/-- Set by the constructor. -/
def mGainSegMax : Int := gainZone4nbVal + gainZone3nbVal + gainZone2nbVal + gainZone1nbVal

/-- The raw gains are not continuous. -/
def rawOfSegmented (segmentedGain : Int) : Int :=
  if segmentedGain ≤ gainZone1nbVal then segmentedGain + GAIN_ZONE1_MIN
  else if segmentedGain ≤ gainZone1nbVal + gainZone2nbVal then
    segmentedGain + GAIN_ZONE2_MIN - gainZone1nbVal
  else if segmentedGain ≤ gainZone1nbVal + gainZone2nbVal + gainZone3nbVal then
    segmentedGain + GAIN_ZONE3_MIN - (gainZone1nbVal + gainZone2nbVal)
  else if segmentedGain ≤ gainZone1nbVal + gainZone2nbVal + gainZone3nbVal + gainZone4nbVal then
    segmentedGain + GAIN_ZONE4_MIN - (gainZone1nbVal + gainZone2nbVal + gainZone3nbVal)
  else 0

def calcRawGainValue (gain : Int) : Int :=
  rawOfSegmented (roundAway (double (mGainSegMax * double (gain / 100))))

def segmentedOfRaw (rawGain : Int) : Int :=
  if GAIN_ZONE1_MIN ≤ rawGain ∧ rawGain ≤ GAIN_ZONE1_MAX then rawGain - GAIN_ZONE1_MIN
  else if GAIN_ZONE2_MIN ≤ rawGain ∧ rawGain ≤ GAIN_ZONE2_MAX then
    rawGain - GAIN_ZONE2_MIN + gainZone1nbVal
  else if GAIN_ZONE3_MIN ≤ rawGain ∧ rawGain ≤ GAIN_ZONE3_MAX then
    rawGain - GAIN_ZONE3_MIN + gainZone1nbVal + gainZone2nbVal
  else if GAIN_ZONE4_MIN ≤ rawGain ∧ rawGain ≤ GAIN_ZONE4_MAX then
    rawGain - GAIN_ZONE4_MIN + gainZone1nbVal + gainZone2nbVal + gainZone3nbVal
  else -1

def calcGainValue (rawGain : Int) : Int :=
  roundAway (double (double (100 * segmentedOfRaw rawGain) / mGainSegMax))

def setGain (cam : CamSensPos) (gain : Int) : Control Unit := do
  leaveAutomatic
  let gain := if gain ≤ DEFAULT_MIN_GAIN then DEFAULT_MIN_GAIN
    else if gain ≥ DEFAULT_MAX_GAIN then DEFAULT_MAX_GAIN else gain
  let rawGain := calcRawGainValue gain
  let _ ← llIspSetGain (isRight cam) 0 (uint8 (rawGain / 2 ^ 8)) (uint8 rawGain)

/-- The highest byte is left out. -/
def getGain (cam : CamSensPos) : Control Int := do
  let (r, _, m, l) ← llIspGetGain (isRight cam)
  if r < 0 then return r
  else return calcGainValue (m.toNat * 2 ^ 8 + l.toNat)

/-! ### Percentages -/

section Percentages

variable {m n e raw : ℤ}

theorem abs_double_sub_le_tiny {q : ℚ} (hq : |q| ≤ 2 ^ 20) : |double q - q| ≤ 1 / 10 ^ 9 := by
  have hbound : |double q - q| ≤ 2 ^ ((20 : ℤ) - 52 - 1) :=
    binary64.abs_round_sub_le_of_le (by decide) (by exact_mod_cast hq)
  exact hbound.trans (by norm_num)

theorem abs_scale_sub_le (hm : 0 ≤ m) (hm' : m ≤ 1550) (he : 0 ≤ e) (he' : e ≤ 100) :
    |double (m * double (e / 100)) - m * e / 100| ≤ 1 / 100 := by
  have hmq : (0 : ℚ) ≤ m ∧ (m : ℚ) ≤ 1550 := ⟨by exact_mod_cast hm, by exact_mod_cast hm'⟩
  have heq : (0 : ℚ) ≤ e ∧ (e : ℚ) ≤ 100 := ⟨by exact_mod_cast he, by exact_mod_cast he'⟩
  have hquotient : |double ((e : ℚ) / 100) - e / 100| ≤ 1 / 10 ^ 9 := by
    apply abs_double_sub_le_tiny
    rw [abs_le]
    constructor <;> linarith
  generalize double ((e : ℚ) / 100) = d at hquotient ⊢
  obtain ⟨hd, hd'⟩ := abs_le.mp hquotient
  have hscaled : |m * d - m * e / 100| ≤ 1550 * (1 / 10 ^ 9) := by
    rw [mul_div_assoc, ← mul_sub, abs_mul, abs_of_nonneg hmq.1]
    exact mul_le_mul hmq.2 hquotient (abs_nonneg _) (by norm_num)
  have hproduct : |double (m * d) - m * d| ≤ 1 / 10 ^ 9 := by
    apply abs_double_sub_le_tiny
    rw [abs_mul, abs_of_nonneg hmq.1]
    have habs : |d| ≤ 2 := abs_le.mpr ⟨by linarith, by linarith⟩
    calc (m : ℚ) * |d| ≤ 1550 * 2 := mul_le_mul hmq.2 habs (abs_nonneg _) (by norm_num)
      _ ≤ 2 ^ 20 := by norm_num
  calc |double (m * d) - m * e / 100|
      ≤ |double (m * d) - m * d| + |m * d - m * e / 100| := abs_sub_le _ _ _
    _ ≤ 1 / 100 := by linarith

theorem roundAway_percentage (hm : 654 ≤ m) (hm' : m ≤ 1550) (he : 0 ≤ e) (he' : e ≤ 100)
    (hraw : |(raw : ℚ) - m * e / 100| ≤ 202 / 100) :
    roundAway (double (double (100 * raw) / m)) = e := by
  apply roundAway_eq_of_abs_sub_lt
  have hmq : (654 : ℚ) ≤ m ∧ (m : ℚ) ≤ 1550 := ⟨by exact_mod_cast hm, by exact_mod_cast hm'⟩
  have heq : (0 : ℚ) ≤ e ∧ (e : ℚ) ≤ 100 := ⟨by exact_mod_cast he, by exact_mod_cast he'⟩
  have hpos : (0 : ℚ) < m := by linarith
  have hme : (0 : ℚ) ≤ m * e ∧ (m : ℚ) * e ≤ 1550 * 100 :=
    ⟨mul_nonneg hpos.le heq.1, mul_le_mul hmq.2 heq.2 heq.1 (by norm_num)⟩
  obtain ⟨hlow, hhigh⟩ := abs_le.mp hraw
  have hproduct : |double (100 * (raw : ℚ)) - 100 * raw| ≤ 1 / 10 ^ 9 := by
    apply abs_double_sub_le_tiny
    rw [abs_le]
    constructor <;> linarith
  generalize double (100 * (raw : ℚ)) = d at hproduct ⊢
  obtain ⟨hd, hd'⟩ := abs_le.mp hproduct
  -- a raw value that is off by two is off by less than half a percent
  have hquotient : |d / m - e| ≤ 204 / 654 := by
    have hscale : d / m - e = (d - m * e) / m := by
      rw [sub_div, mul_div_cancel_left₀ _ hpos.ne']
    rw [hscale, abs_div, abs_of_pos hpos]
    apply div_le_div₀ (by norm_num) (abs_le.mpr ⟨by linarith, by linarith⟩) (by norm_num) hmq.1
  obtain ⟨hq, hq'⟩ := abs_le.mp hquotient
  have hresult : |double (d / m) - d / m| ≤ 1 / 10 ^ 9 := by
    apply abs_double_sub_le_tiny
    rw [abs_le]
    constructor <;> linarith
  calc |double (d / m) - e| ≤ |double (d / m) - d / m| + |d / m - e| := abs_sub_le _ _ _
    _ < 1 / 2 := by linarith

theorem mExpoureRawMax_bounds (mFps : Int) :
    720 ≤ mExpoureRawMax mFps ∧ mExpoureRawMax mFps ≤ 1550 := by
  rw [mExpoureRawMax]
  split
  · decide
  split
  · decide
  split <;> decide

end Percentages

/-! ### Raw exposures -/

theorem rawExposure_spec (mFps exposure : Int) :
    0 ≤ rawExposure mFps exposure ∧ rawExposure mFps exposure < 2 ^ 20 ∧
      exposureOf mFps (rawExposure mFps exposure) = max 0 (min 100 exposure) := by
  obtain ⟨hmin, hmax⟩ := mExpoureRawMax_bounds mFps
  have hclamp : (if (if exposure < DEFAULT_MIN_EXP then DEFAULT_MIN_EXP else exposure) >
      DEFAULT_MAX_EXP then DEFAULT_MAX_EXP
      else if exposure < DEFAULT_MIN_EXP then DEFAULT_MIN_EXP else exposure) =
      max 0 (min 100 exposure) := by
    simp only [DEFAULT_MIN_EXP, DEFAULT_MAX_EXP]
    grind
  simp only [rawExposure, hclamp]
  obtain ⟨e, he, he0, he100⟩ : ∃ e, max 0 (min 100 exposure) = e ∧ 0 ≤ e ∧ e ≤ 100 :=
    ⟨_, rfl, by omega, by omega⟩
  rw [he, exposureOf]
  generalize mExpoureRawMax mFps = m at hmin hmax ⊢
  have hscale := abs_scale_sub_le (m := m) (e := e) (by omega) hmax he0 he100
  have htruncate := abs_truncate_sub_lt (double (m * double (e / 100)))
  generalize truncate (double (m * double (e / 100))) = rawExp at htruncate ⊢
  have hraw : |(rawExp : ℚ) - m * e / 100| ≤ 101 / 100 := by
    refine (abs_sub_le _ (double (m * double (e / 100))) _).trans ?_
    linarith
  obtain ⟨hlow, hhigh⟩ := abs_le.mp hraw
  have hexact : (0 : ℚ) ≤ m * e / 100 ∧ (m : ℚ) * e / 100 ≤ 1550 := by
    have hme : 0 ≤ m * e ∧ m * e ≤ 1550 * 100 :=
      ⟨mul_nonneg (by omega) he0, mul_le_mul hmax he100 he0 (by decide)⟩
    have hmeq : (0 : ℚ) ≤ m * e ∧ (m : ℚ) * e ≤ 1550 * 100 := by exact_mod_cast hme
    constructor <;> linarith [hmeq.1, hmeq.2]
  have hbound : rawExp < 2 ^ 20 := by
    have hlt : (rawExp : ℚ) < (2 ^ 20 : ℤ) := by
      push_cast
      linarith [hexact.2]
    exact_mod_cast hlt
  rw [EXP_RAW_MIN]
  split
  · rename_i hsmall
    have hle : (rawExp : ℚ) ≤ 1 := by exact_mod_cast Int.lt_add_one_iff.mp hsmall
    refine ⟨by decide, by decide, roundAway_percentage (by omega) hmax he0 he100 ?_⟩
    push_cast
    rw [abs_le]
    constructor <;> linarith [hexact.1]
  · refine ⟨by omega, hbound, roundAway_percentage (by omega) hmax he0 he100 ?_⟩
    linarith

theorem toNat_uint8 (v : Int) : ((uint8 v).toNat : Int) = v % 256 := by
  rw [uint8, UInt8.toNat_ofNat']
  omega

theorem toNat_and_div (v : UInt8) : ((v &&& 0xf0).toNat : Int) / 2 ^ 4 = v.toNat / 2 ^ 4 := by
  have hlt := v.toNat_lt
  have hnat : (v &&& 0xf0).toNat / 2 ^ 4 = v.toNat / 2 ^ 4 := by
    rw [UInt8.toNat_and, Nat.and_div_two_pow]
    show v.toNat / 2 ^ 4 &&& (2 ^ 4 - 1) = _
    rw [Nat.and_two_pow_sub_one_eq_mod]
    omega
  exact_mod_cast hnat

theorem exposureBytes {raw : Int} (h : 0 ≤ raw) (hlt : raw < 2 ^ 20) :
    ((uint8 (raw / 2 ^ 12)).toNat : Int) * 2 ^ 12 + (uint8 (raw / 2 ^ 4)).toNat * 2 ^ 4 +
      (uint8 (raw * 2 ^ 4) &&& 0xf0).toNat / 2 ^ 4 = raw := by
  rw [toNat_and_div, toNat_uint8, toNat_uint8, toNat_uint8]
  omega

/-- The four zones are passed through without a gap, and each raw gain tells its zone. -/
theorem rawOfSegmented_spec {seg : Int} (h : 0 ≤ seg) (hle : seg ≤ mGainSegMax) :
    0 ≤ rawOfSegmented seg ∧ rawOfSegmented seg < 2 ^ 16 ∧
      segmentedOfRaw (rawOfSegmented seg) = seg := by
  simp only [mGainSegMax, rawOfSegmented, segmentedOfRaw, GAIN_ZONE1_MIN, GAIN_ZONE1_MAX,
    GAIN_ZONE2_MIN, GAIN_ZONE2_MAX, GAIN_ZONE3_MIN, GAIN_ZONE3_MAX, GAIN_ZONE4_MIN, GAIN_ZONE4_MAX,
    gainZone1nbVal, gainZone2nbVal, gainZone3nbVal, gainZone4nbVal] at hle ⊢
  refine ⟨?_, ?_, ?_⟩
  · grind
  · grind
  · grind

theorem calcRawGainValue_spec {gain : Int} (h : 0 ≤ gain) (h' : gain ≤ 100) :
    0 ≤ calcRawGainValue gain ∧ calcRawGainValue gain < 2 ^ 16 ∧
      calcGainValue (calcRawGainValue gain) = gain := by
  have hmax : mGainSegMax = 654 := rfl
  have hscale := abs_scale_sub_le (show 0 ≤ mGainSegMax by decide) (by decide) h h'
  have hround := abs_roundAway_sub_le (double (mGainSegMax * double (gain / 100)))
  rw [calcRawGainValue]
  generalize roundAway (double (mGainSegMax * double (gain / 100))) = seg at hround ⊢
  have hseg : |(seg : ℚ) - mGainSegMax * gain / 100| ≤ 51 / 100 := by
    refine (abs_sub_le _ (double (mGainSegMax * double (gain / 100))) _).trans ?_
    linarith
  obtain ⟨hlow, hhigh⟩ := abs_le.mp hseg
  have hgain : (0 : ℚ) ≤ gain ∧ (gain : ℚ) ≤ 100 := ⟨by exact_mod_cast h, by exact_mod_cast h'⟩
  rw [hmax] at hlow hhigh
  push_cast at hlow hhigh
  have hpos : 0 ≤ seg := by
    have hgt : ((-1 : ℤ) : ℚ) < seg := by
      push_cast
      linarith [hgain.1]
    exact Int.lt_iff_add_one_le.mp (by exact_mod_cast hgt)
  have hle : seg ≤ mGainSegMax := by
    have hlt : (seg : ℚ) < ((mGainSegMax + 1 : ℤ) : ℚ) := by
      rw [hmax]
      push_cast
      linarith [hgain.2]
    exact Int.lt_add_one_iff.mp (by exact_mod_cast hlt)
  obtain ⟨hraw, hlt, hback⟩ := rawOfSegmented_spec hpos hle
  refine ⟨hraw, hlt, ?_⟩
  rw [calcGainValue, hback]
  exact roundAway_percentage (by decide) (by decide) h h' (hseg.trans (by norm_num))

theorem gainBytes {raw : Int} (h : 0 ≤ raw) (hlt : raw < 2 ^ 16) :
    ((uint8 (raw / 2 ^ 8)).toNat : Int) * 2 ^ 8 + (uint8 raw).toNat = raw := by
  rw [toNat_uint8, toNat_uint8]
  omega

/-! ### Runs -/

section Ideal

variable {camera : Camera} {right : Bool} {address : UInt32}

@[simp] theorem run_llWriteSensorRegister (sscbId value : UInt8) :
    (llWriteSensorRegister right sscbId address value).run ideal camera =
      (0, camera.setSensor right address value) :=
  rfl

theorem get_run_writeThree (camera : Camera) (right : Bool) {addrH addrM addrL : UInt32}
    (hdistinct : [addrH, addrM, addrL].Nodup) (h m l : UInt8) :
    let last := ((writeThree addrH addrM addrL right h m l).run ideal camera).2
    last.get (.sensor right addrH) = h ∧ last.get (.sensor right addrM) = m ∧
      last.get (.sensor right addrL) = l := by
  have hhm : addrH ≠ addrM := by grind
  have hhl : addrH ≠ addrL := by grind
  have hml : addrM ≠ addrL := by grind
  simp only [writeThree, Client.run_bind, run_llWriteSensorRegister, Client.run_pure,
    Camera.get_setSensor, Register.sensor.injEq, true_and, if_neg hhm, if_neg hhl, if_neg hml,
    if_true, and_self]

theorem getExposure_run (mFps : Int) (cam : CamSensPos) :
    (getExposure mFps cam).run ideal camera =
      (exposureOf mFps ((camera.get (.sensor (isRight cam) ADDR_EXP_H)).toNat * 2 ^ 12 +
        (camera.get (.sensor (isRight cam) ADDR_EXP_M)).toNat * 2 ^ 4 +
        (camera.get (.sensor (isRight cam) ADDR_EXP_L)).toNat / 2 ^ 4), camera) :=
  rfl

theorem getGain_run (cam : CamSensPos) :
    (getGain cam).run ideal camera =
      (calcGainValue ((camera.get (.sensor (isRight cam) ADDR_GAIN_M)).toNat * 2 ^ 8 +
        (camera.get (.sensor (isRight cam) ADDR_GAIN_L)).toNat), camera) :=
  rfl

/-- An exposure is read as it has been set. -/
theorem getExposure_llIspSetExposure (camera : Camera) (mFps exposure : Int)
    {cam cam' : CamSensPos} (hside : isRight cam' = isRight cam) :
    let rawExp := rawExposure mFps exposure
    ((getExposure mFps cam).run ideal ((llIspSetExposure (isRight cam') (uint8 (rawExp / 2 ^ 12))
      (uint8 (rawExp / 2 ^ 4)) (uint8 (rawExp * 2 ^ 4) &&& 0xf0)).run ideal camera).2).1 =
        max 0 (min 100 exposure) := by
  intro rawExp
  obtain ⟨hraw, hlt, hvalue⟩ := rawExposure_spec mFps exposure
  obtain ⟨hh, hm, hl⟩ := get_run_writeThree camera (isRight cam)
    (show [ADDR_EXP_H, ADDR_EXP_M, ADDR_EXP_L].Nodup by decide) (uint8 (rawExp / 2 ^ 12))
    (uint8 (rawExp / 2 ^ 4)) (uint8 (rawExp * 2 ^ 4) &&& 0xf0)
  rw [getExposure_run, llIspSetExposure, hside, hh, hm, hl, exposureBytes hraw hlt, hvalue]

theorem clampGain (gain : Int) :
    (if gain ≤ DEFAULT_MIN_GAIN then DEFAULT_MIN_GAIN
      else if gain ≥ DEFAULT_MAX_GAIN then DEFAULT_MAX_GAIN else gain) = max 0 (min 100 gain) := by
  simp only [DEFAULT_MIN_GAIN, DEFAULT_MAX_GAIN]
  grind

theorem getGain_llIspSetGain (camera : Camera) (gain : Int) {cam cam' : CamSensPos}
    (hside : isRight cam' = isRight cam) :
    let rawGain := calcRawGainValue (max 0 (min 100 gain))
    ((getGain cam).run ideal ((llIspSetGain (isRight cam') 0 (uint8 (rawGain / 2 ^ 8))
      (uint8 rawGain)).run ideal camera).2).1 = max 0 (min 100 gain) := by
  intro rawGain
  obtain ⟨hraw, hlt, hvalue⟩ := calcRawGainValue_spec (show 0 ≤ max 0 (min 100 gain) by omega)
    (by omega)
  obtain ⟨-, hm, hl⟩ := get_run_writeThree camera (isRight cam)
    (show [ADDR_GAIN_H, ADDR_GAIN_M, ADDR_GAIN_L].Nodup by decide) 0 (uint8 (rawGain / 2 ^ 8))
    (uint8 rawGain)
  rw [getGain_run, llIspSetGain, hside, hm, hl, gainBytes hraw hlt, hvalue]

end Ideal

/-! ### What the controls read and write -/

def sensorRegisters (right : Bool) (addresses : List UInt32) (register : Register) : Prop :=
  ∃ address ∈ addresses, register = .sensor right address

section Footprint

variable {reads writes : Register → Prop}

theorem writeThree_within (addrH addrM addrL : UInt32) (right : Bool) (h m l : UInt8) :
    (writeThree addrH addrM addrL right h m l).Issues
      (Command.Within reads (sensorRegisters right [addrH, addrM, addrL])) := by
  have hwrite {address : UInt32} (haddress : address ∈ [addrH, addrM, addrL]) (value : UInt8) :
      (llWriteSensorRegister right 1 address value).Issues
        (Command.Within reads (sensorRegisters right [addrH, addrM, addrL])) := by
    refine Client.Issues.bind (Client.issues_ask.mpr ⟨nofun, ?_⟩) fun _ => Client.issues_pure _
    intro register value' htarget
    exact ⟨address, haddress, (Prod.mk.inj (Option.some_inj.mp htarget)).1.symm⟩
  refine (hwrite (by simp) h).bind fun hr => ?_
  refine (hwrite (by simp) m).bind fun hr' => ?_
  exact (hwrite (by simp) l).bind fun hr'' => Client.issues_pure _

theorem readThree_within (addrH addrM addrL : UInt32) (right : Bool) :
    (readThree addrH addrM addrL right).Issues
      (Command.Within (sensorRegisters right [addrH, addrM, addrL]) writes) := by
  have hread {address : UInt32} (haddress : address ∈ [addrH, addrM, addrL]) :
      (llReadSensorRegister right 1 address).Issues
        (Command.Within (sensorRegisters right [addrH, addrM, addrL]) writes) := by
    refine Client.issues_ask.mpr ⟨fun register hsource => ?_, nofun⟩
    exact ⟨address, haddress, (Option.some_inj.mp hsource).symm⟩
  refine (hread (by simp)).bind fun read => ?_
  refine (hread (by simp)).bind fun read' => ?_
  exact (hread (by simp)).bind fun read'' => Client.issues_pure _

theorem leaveAutomatic_within : leaveAutomatic.Issues (Command.Within automatic automatic) := by
  refine getAECAGC_within.bind fun active => ?_
  refine Client.Issues.ite ?_ (Client.issues_pure _)
  exact (setAECAGC_within false).bind fun _ => Client.issues_pure _

theorem setExposure_within (mFps : Int) (cam : CamSensPos) (exposure : Int) :
    (setExposure mFps cam exposure).Issues (Command.Within automatic fun register =>
      automatic register ∨
        sensorRegisters (isRight cam) [ADDR_EXP_H, ADDR_EXP_M, ADDR_EXP_L] register) := by
  have hleave := leaveAutomatic_within.mono fun command =>
    Command.Within.mono (fun _ => id) fun register => Or.inl
      (b := sensorRegisters (isRight cam) [ADDR_EXP_H, ADDR_EXP_M, ADDR_EXP_L] register)
  refine hleave.bind fun _ => Client.Issues.bind ?_ fun _ => Client.issues_pure _
  exact (writeThree_within ..).mono fun command =>
    Command.Within.mono (fun _ => id) fun _ => Or.inr

theorem setGain_within (cam : CamSensPos) (gain : Int) :
    (setGain cam gain).Issues (Command.Within automatic fun register => automatic register ∨
      sensorRegisters (isRight cam) [ADDR_GAIN_H, ADDR_GAIN_M, ADDR_GAIN_L] register) := by
  have hleave := leaveAutomatic_within.mono fun command =>
    Command.Within.mono (fun _ => id) fun register => Or.inl
      (b := sensorRegisters (isRight cam) [ADDR_GAIN_H, ADDR_GAIN_M, ADDR_GAIN_L] register)
  refine hleave.bind fun _ => Client.Issues.bind ?_ fun _ => Client.issues_pure _
  exact (writeThree_within ..).mono fun command =>
    Command.Within.mono (fun _ => id) fun _ => Or.inr

theorem getExposure_within (mFps : Int) (cam : CamSensPos) :
    (getExposure mFps cam).Issues (Command.Within
      (sensorRegisters (isRight cam) [ADDR_EXP_H, ADDR_EXP_M, ADDR_EXP_L]) writes) :=
  (readThree_within ..).bind fun _ =>
    Client.Issues.ite (Client.issues_pure _) (Client.issues_pure _)

theorem getGain_within (cam : CamSensPos) :
    (getGain cam).Issues (Command.Within
      (sensorRegisters (isRight cam) [ADDR_GAIN_H, ADDR_GAIN_M, ADDR_GAIN_L]) writes) :=
  (readThree_within ..).bind fun _ =>
    Client.Issues.ite (Client.issues_pure _) (Client.issues_pure _)

end Footprint

end Ilumo.Zed
