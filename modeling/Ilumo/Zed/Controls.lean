import Ilumo.Zed.Camera

/-!
# Automatic exposure

A control is a client of the camera's commands. It adds up the results of its calls, none of which
is positive, so a sum of zero says that every call has succeeded; what a control leaves is stated
for any calls that fail.
-/

namespace Ilumo.Zed

abbrev Control := Client Command (Int × UInt8)

def llReadSystemRegister (address : UInt32) : Control (Int × UInt8) := .ask (.readSystem address)

def llWriteSystemRegister (address : UInt32) (value : UInt8) : Control Int := do
  let (hr, _) ← .ask (.writeSystem address value)
  return hr

def ISP_CTRL_LEFT : UInt32 := 0x80181033

def ISP_CTRL_RIGHT : UInt32 := 0x80181833

def AEG_AGC_MASK_ON : UInt8 := 0x02

def AEG_AGC_MASK_OFF : UInt8 := 0xFD

def ispCtrl (right : Bool) : UInt32 := if right then ISP_CTRL_RIGHT else ISP_CTRL_LEFT

def aecagcMask (enable : Bool) (value : UInt8) : UInt8 :=
  if enable then value ||| AEG_AGC_MASK_ON else value &&& AEG_AGC_MASK_OFF

theorem aecagcMask_and (enable : Bool) (value : UInt8) :
    aecagcMask enable value &&& AEG_AGC_MASK_ON = if enable then AEG_AGC_MASK_ON else 0 := by
  cases enable with
  | false =>
      show value &&& AEG_AGC_MASK_OFF &&& AEG_AGC_MASK_ON = 0
      rw [UInt8.and_assoc, show AEG_AGC_MASK_OFF &&& AEG_AGC_MASK_ON = 0 by decide, UInt8.and_zero]
  | true =>
      apply UInt8.toBitVec_inj.mp
      show (value.toBitVec ||| AEG_AGC_MASK_ON.toBitVec) &&& AEG_AGC_MASK_ON.toBitVec =
        AEG_AGC_MASK_ON.toBitVec
      ext i hi
      rw [BitVec.getElem_and, BitVec.getElem_or]
      cases value.toBitVec[i] <;> cases AEG_AGC_MASK_ON.toBitVec[i] <;> rfl

def llIspAecagcEnable (right enable : Bool) : Control Int := do
  let (hr, value) ← llReadSystemRegister (ispCtrl right)
  let hr' ← llWriteSystemRegister (ispCtrl right) (aecagcMask enable value)
  return hr + hr'

def llIspIsAecagc (right : Bool) : Control Int := do
  let (hr, value) ← llReadSystemRegister (ispCtrl right)
  if hr = 0 then
    return if value &&& AEG_AGC_MASK_ON = AEG_AGC_MASK_ON then 1 else 0
  else return hr

def setAECAGC (active : Bool) : Control Int := do
  let resL ← llIspAecagcEnable false active
  let resR ← llIspAecagcEnable true active
  return resL + resR

/-- An error is not zero either. -/
def getAECAGC : Control Bool := do
  let resL ← llIspIsAecagc false
  let resR ← llIspIsAecagc true
  return resL ≠ 0 && resR ≠ 0

section Aecagc

variable (outcome : Nat → Outcome) (capture : VideoCapture Camera)

theorem llReadSystemRegister_spec (address : UInt32) :
    (((llReadSystemRegister address).run (handle memory outcome) capture).1.1 = 0 ∧
        ((llReadSystemRegister address).run (handle memory outcome) capture).1.2 =
          capture.camera.system address ∨
      ((llReadSystemRegister address).run (handle memory outcome) capture).1.1 < 0 ∧
        ((llReadSystemRegister address).run (handle memory outcome) capture).1.2 = 0) ∧
    ((llReadSystemRegister address).run (handle memory outcome) capture).2.camera =
      capture.camera := by
  obtain ⟨hhr, hvalue, hcamera⟩ | ⟨hhr, hvalue, hcamera⟩ :=
    handle_memory outcome capture (.readSystem address)
  · exact ⟨.inl ⟨hhr, hvalue⟩, hcamera⟩
  · exact ⟨.inr ⟨hhr, hvalue⟩, hcamera⟩

theorem llWriteSystemRegister_spec (address : UInt32) (value : UInt8) :
    ((llWriteSystemRegister address value).run (handle memory outcome) capture).1 = 0 ∧
        ((llWriteSystemRegister address value).run (handle memory outcome) capture).2.camera =
          capture.camera.setSystem address value ∨
      ((llWriteSystemRegister address value).run (handle memory outcome) capture).1 < 0 ∧
        ((llWriteSystemRegister address value).run (handle memory outcome) capture).2.camera =
          capture.camera := by
  obtain ⟨hhr, -, hcamera⟩ | ⟨hhr, -, hcamera⟩ :=
    handle_memory outcome capture (.writeSystem address value)
  · exact .inl ⟨hhr, hcamera⟩
  · exact .inr ⟨hhr, hcamera⟩

/-- When the register cannot be read but written, all its other bits are lost. -/
theorem llIspAecagcEnable_spec (right enable : Bool) :
    ((llIspAecagcEnable right enable).run (handle memory outcome) capture).1 = 0 ∧
        ((llIspAecagcEnable right enable).run (handle memory outcome) capture).2.camera =
          capture.camera.setSystem (ispCtrl right)
            (aecagcMask enable (capture.camera.system (ispCtrl right))) ∨
      ((llIspAecagcEnable right enable).run (handle memory outcome) capture).1 < 0 ∧
        (((llIspAecagcEnable right enable).run (handle memory outcome) capture).2.camera =
            capture.camera ∨
          ((llIspAecagcEnable right enable).run (handle memory outcome) capture).2.camera =
            capture.camera.setSystem (ispCtrl right) (aecagcMask enable 0)) := by
  obtain ⟨hread, hsame⟩ := llReadSystemRegister_spec outcome capture (ispCtrl right)
  rw [llIspAecagcEnable, Client.run_bind]
  generalize (llReadSystemRegister (ispCtrl right)).run (handle memory outcome) capture = r
    at hread hsame ⊢
  obtain ⟨⟨hr, value⟩, next⟩ := r
  have hwrite := llWriteSystemRegister_spec outcome next (ispCtrl right) (aecagcMask enable value)
  simp only at hread hsame hwrite ⊢
  rw [Client.run_bind, Client.run_pure]
  generalize (llWriteSystemRegister (ispCtrl right) (aecagcMask enable value)).run
    (handle memory outcome) next = r' at hwrite ⊢
  obtain ⟨hr', last⟩ := r'
  rw [hsame] at hwrite
  rcases hread with ⟨rfl, rfl⟩ | ⟨hhr, rfl⟩ <;> rcases hwrite with ⟨rfl, hcamera⟩ | ⟨hhr', hcamera⟩
  · exact .inl ⟨Int.add_zero 0, hcamera⟩
  · exact .inr ⟨by simpa using hhr', .inl hcamera⟩
  · exact .inr ⟨by simpa using hhr, .inr hcamera⟩
  · exact .inr ⟨Int.add_neg hhr hhr', .inl hcamera⟩

theorem llIspAecagcEnable_registers (right enable : Bool) :
    (((llIspAecagcEnable right enable).run (handle memory outcome) capture).1 ≤ 0 ∧
      (((llIspAecagcEnable right enable).run (handle memory outcome) capture).1 = 0 →
        ((llIspAecagcEnable right enable).run (handle memory outcome) capture).2.camera.system
          (ispCtrl right) = aecagcMask enable (capture.camera.system (ispCtrl right)))) ∧
    ((llIspAecagcEnable right enable).run (handle memory outcome) capture).2.camera.system
        (ispCtrl right) ∈
      [capture.camera.system (ispCtrl right),
        aecagcMask enable (capture.camera.system (ispCtrl right)), aecagcMask enable 0] ∧
    ∀ address ≠ ispCtrl right,
      ((llIspAecagcEnable right enable).run (handle memory outcome) capture).2.camera.system
        address = capture.camera.system address := by
  obtain ⟨hhr, hcamera⟩ | ⟨hhr, hcamera | hcamera⟩ :=
    llIspAecagcEnable_spec outcome capture right enable <;> rw [hcamera]
  · simp only [Camera.system_setSystem, if_true]
    exact ⟨⟨hhr.le, fun _ => trivial⟩, by simp, fun address hne => if_neg hne⟩
  · exact ⟨⟨hhr.le, fun heq => absurd heq hhr.ne⟩, by simp, fun _ _ => rfl⟩
  · simp only [Camera.system_setSystem, if_true]
    exact ⟨⟨hhr.le, fun heq => absurd heq hhr.ne⟩, by simp, fun address hne => if_neg hne⟩

theorem setAECAGC_memory (active : Bool) :
    (((setAECAGC active).run (handle memory outcome) capture).1 = 0 → ∀ right,
      ((setAECAGC active).run (handle memory outcome) capture).2.camera.system (ispCtrl right) =
        aecagcMask active (capture.camera.system (ispCtrl right))) ∧
    ∀ right, ((setAECAGC active).run (handle memory outcome) capture).2.camera.system
        (ispCtrl right) ∈
      [capture.camera.system (ispCtrl right),
        aecagcMask active (capture.camera.system (ispCtrl right)), aecagcMask active 0] := by
  obtain ⟨⟨hle, hzero⟩, hmem, hothers⟩ := llIspAecagcEnable_registers outcome capture false active
  rw [setAECAGC, Client.run_bind, Client.run_bind, Client.run_pure]
  generalize (llIspAecagcEnable false active).run (handle memory outcome) capture = r
    at hle hzero hmem hothers ⊢
  obtain ⟨⟨hle', hzero'⟩, hmem', hothers'⟩ := llIspAecagcEnable_registers outcome r.2 true active
  generalize (llIspAecagcEnable true active).run (handle memory outcome) r.2 = r'
    at hle' hzero' hmem' hothers' ⊢
  -- neither side touches the control register of the other
  have hleft : r'.2.camera.system (ispCtrl false) = r.2.camera.system (ispCtrl false) :=
    hothers' _ (by decide)
  have hright : r.2.camera.system (ispCtrl true) = capture.camera.system (ispCtrl true) :=
    hothers _ (by decide)
  rw [hright] at hzero' hmem'
  refine ⟨fun hsum right => ?_, fun right => ?_⟩
  · have hparts : r.1 = 0 ∧ r'.1 = 0 := by
      have hsum : r.1 + r'.1 = 0 := hsum
      omega
    cases right with
    | false => exact hleft.trans (hzero hparts.1)
    | true => exact hzero' hparts.2
  · cases right with
    | false => exact hleft ▸ hmem
    | true => exact hmem'

theorem llIspIsAecagc_spec (right : Bool) :
    ((llIspIsAecagc right).run (handle memory outcome) capture).2.camera = capture.camera ∧
    (((llIspIsAecagc right).run (handle memory outcome) capture).1 = 0 →
      capture.camera.system (ispCtrl right) &&& AEG_AGC_MASK_ON ≠ AEG_AGC_MASK_ON) := by
  obtain ⟨hread, hsame⟩ := llReadSystemRegister_spec outcome capture (ispCtrl right)
  rw [llIspIsAecagc, Client.run_bind]
  generalize (llReadSystemRegister (ispCtrl right)).run (handle memory outcome) capture = r
    at hread hsame ⊢
  obtain ⟨⟨hr, value⟩, next⟩ := r
  simp only at hread hsame ⊢
  rcases hread with ⟨rfl, rfl⟩ | ⟨hhr, -⟩
  · rw [if_pos rfl, Client.run_pure]
    refine ⟨hsame, fun hzero heq => ?_⟩
    rw [if_pos heq] at hzero
    exact absurd (show (1 : Int) = 0 from hzero) (by decide)
  · rw [if_neg hhr.ne, Client.run_pure]
    exact ⟨hsame, fun hzero => absurd hzero hhr.ne⟩

/-- What `getAECAGC` denies is true, whichever calls fail. -/
theorem getAECAGC_eq_false (h : (getAECAGC.run (handle memory outcome) capture).1 = false) :
    ∃ right, capture.camera.system (ispCtrl right) &&& AEG_AGC_MASK_ON ≠ AEG_AGC_MASK_ON := by
  obtain ⟨hsame, hzero⟩ := llIspIsAecagc_spec outcome capture false
  rw [getAECAGC, Client.run_bind, Client.run_bind, Client.run_pure] at h
  generalize (llIspIsAecagc false).run (handle memory outcome) capture = r at hsame hzero h
  obtain ⟨-, hzero'⟩ := llIspIsAecagc_spec outcome r.2 true
  rw [hsame] at hzero'
  rcases Bool.and_eq_false_iff.mp h with hleft | hright
  · exact ⟨false, hzero (by simpa using hleft)⟩
  · exact ⟨true, hzero' (by simpa using hright)⟩

end Aecagc

/-! ### What the controls read and write -/

section Footprint

variable {reads writes : Register → Prop} {address : UInt32}

theorem llReadSystemRegister_within (h : reads (.system address)) :
    (llReadSystemRegister address).Issues (Command.Within reads writes) := by
  refine Client.issues_ask.mpr ⟨fun register hsource => ?_, nofun⟩
  rwa [← Option.some_inj.mp hsource]

theorem llWriteSystemRegister_within (h : writes (.system address)) (value : UInt8) :
    (llWriteSystemRegister address value).Issues (Command.Within reads writes) := by
  refine Client.Issues.bind (Client.issues_ask.mpr ⟨nofun, ?_⟩) fun _ => Client.issues_pure _
  intro register value' htarget
  rwa [← (Prod.mk.inj (Option.some_inj.mp htarget)).1]

end Footprint

def automatic (register : Register) : Prop := ∃ right, register = .system (ispCtrl right)

theorem setAECAGC_within (active : Bool) :
    (setAECAGC active).Issues (Command.Within automatic automatic) := by
  have hside (right : Bool) :
      (llIspAecagcEnable right active).Issues (Command.Within automatic automatic) := by
    refine (llReadSystemRegister_within ⟨right, rfl⟩).bind fun read => ?_
    refine (llWriteSystemRegister_within ⟨right, rfl⟩ _).bind fun written => ?_
    exact Client.issues_pure _
  exact (hside false).bind fun _ => (hside true).bind fun _ => Client.issues_pure _

theorem getAECAGC_within {writes : Register → Prop} :
    getAECAGC.Issues (Command.Within automatic writes) := by
  have hside (right : Bool) :
      (llIspIsAecagc right).Issues (Command.Within automatic writes) := by
    refine (llReadSystemRegister_within ⟨right, rfl⟩).bind fun read => ?_
    exact Client.Issues.ite (Client.issues_pure _) (Client.issues_pure _)
  exact (hside false).bind fun _ => (hside true).bind fun _ => Client.issues_pure _

/-- **Automatic exposure.** A result of zero says that bit 1 of both control registers is as asked
for. After any other result each of the two registers is still as it was or as asked for, or all of
its other bits are zero. No other register that is always steady ever changes. -/
theorem setAECAGC_spec {δ : Type} {device : Device δ} {plain : Register → Prop}
    (hdevice : device.Documented fun _ => plain)
    (hplain : ∀ right, plain (.system (ispCtrl right))) (outcome : Nat → Outcome)
    (capture : VideoCapture δ) (active : Bool) :
    let last := (setAECAGC active).run (handle device outcome) capture
    (last.1 = 0 → ∀ right, device.registers last.2.camera (.system (ispCtrl right)) =
      aecagcMask active (device.registers capture.camera (.system (ispCtrl right)))) ∧
    (∀ right, device.registers last.2.camera (.system (ispCtrl right)) ∈
      [device.registers capture.camera (.system (ispCtrl right)),
        aecagcMask active (device.registers capture.camera (.system (ispCtrl right))),
        aecagcMask active 0]) ∧
    ∀ register, plain register → (∀ right, register ≠ .system (ispCtrl right)) →
      device.registers last.2.camera register = device.registers capture.camera register := by
  intro last
  have hwithin := setAECAGC_within active
  obtain ⟨hresult, hlast⟩ := run_copy hdevice hwithin
    (fun register ⟨right, heq⟩ => heq ▸ hplain right) capture
  obtain ⟨hzero, hmem⟩ := setAECAGC_memory outcome (capture.copy device) active
  refine ⟨fun hsum right => ?_, fun right => ?_, fun register hregister hne => ?_⟩
  · exact (hlast _ (hplain right)).trans (hzero (hresult ▸ hsum) right)
  · rw [hlast _ (hplain right)]
    exact hmem right
  · exact registers_run hdevice hwithin hregister (fun ⟨right, heq⟩ => hne right heq) capture

/-- The left control register cannot be read. -/
theorem setAECAGC_spec_readFails :
    (∀ right, ((setAECAGC true).run (handle memory (failsAt 0))
        { camera := .uniform 0xC1 }).2.camera.get (.system (ispCtrl right)) ∈
      [0xC1, aecagcMask true 0xC1, aecagcMask true 0]) ∧
    ∀ register, (∀ right, register ≠ .system (ispCtrl right)) →
      ((setAECAGC true).run (handle memory (failsAt 0))
        { camera := .uniform 0xC1 }).2.camera.get register =
          (Camera.uniform 0xC1).get register := by
  obtain ⟨-, hmem, hothers⟩ := setAECAGC_spec (memory_documented fun _ _ => True)
    (fun _ => trivial) (failsAt 0) { camera := .uniform 0xC1 } true
  exact ⟨hmem, fun register hne => hothers register trivial hne⟩

end Ilumo.Zed
