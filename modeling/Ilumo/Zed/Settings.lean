import Ilumo.Zed.Automatic
import Ilumo.Zed.Gamma

/-!
# Settings in any order

The settings of the camera write different registers, apart from automatic exposure, which setting
an exposure or a gain turns off. So whatever is set, in whatever order, what is read in the end is
what has been set last; only the exposure and the gain are the camera's own business again after
automatic exposure has been turned on.
-/

namespace Ilumo.Zed

inductive Setting where
  | exposure (cam : CamSensPos) (percent : Int)
  | gain (cam : CamSensPos) (percent : Int)
  | aecagc (active : Bool)
  | roi (side : CamSensPos) (x y w h : UInt16)
  | gamma (right : Bool) (value : Int)

/-- The registers of the ISP that the settings read and write. -/
def configuration (register : Register) : Prop :=
  automatic register ∨ (∃ side, block (roiAddr side) 8 register) ∨
    ∃ right, block (gammaAddr right) 17 register

namespace Setting

section Apply

variable (mFps : Int) (mWidth mHeight : Nat)

def apply : Setting → Control Unit
  | exposure cam percent => setExposure mFps cam percent
  | gain cam percent => setGain cam percent
  | aecagc active => do let _ ← setAECAGC active
  | roi side x y w h => do let _ ← setROIforAECAGC mWidth mHeight side x y w h
  | gamma right value => do let _ ← setGammaPreset true right value

def footprint : Setting → Register → Prop
  | exposure cam _, register => automatic register ∨
      sensorRegisters (isRight cam) [ADDR_EXP_H, ADDR_EXP_M, ADDR_EXP_L] register
  | gain cam _, register => automatic register ∨
      sensorRegisters (isRight cam) [ADDR_GAIN_H, ADDR_GAIN_M, ADDR_GAIN_L] register
  | aecagc _, register => automatic register
  | roi side x y w h, register =>
      RoiValid mWidth mHeight side x y w h ∧ block (roiAddr side) 8 register
  | gamma right _, register => block (gammaAddr right) 17 register

theorem apply_within (setting : Setting) :
    (setting.apply mFps mWidth mHeight).Issues
      (Command.Within configuration (setting.footprint mWidth mHeight)) := by
  have hmono {α : Type} {p : Control α} {reads writes : Register → Prop}
      (hp : p.Issues (Command.Within reads writes))
      (hreads : ∀ register, reads register → configuration register) :
      p.Issues (Command.Within configuration writes) :=
    hp.mono fun _ => Command.Within.mono hreads fun _ => id
  cases setting with
  | exposure cam percent => exact hmono (setExposure_within mFps cam percent) fun _ => .inl
  | gain cam percent => exact hmono (setGain_within cam percent) fun _ => .inl
  | aecagc active =>
      exact (hmono (setAECAGC_within active) fun _ => .inl).bind fun _ => Client.issues_pure _
  | roi side x y w h =>
      exact (setROIforAECAGC_within mWidth mHeight side x y w h).bind fun _ => Client.issues_pure _
  | gamma right value =>
      refine (hmono (setGammaPreset_within true right value) fun _ hblock => ?_).bind fun _ =>
        Client.issues_pure _
      exact .inr (.inr ⟨right, hblock⟩)

/-! ### What a setting sets -/

/-- Automatic exposure leaves it to the camera. -/
def exposureFor (cam : CamSensPos) : Setting → Option (Option Int)
  | exposure cam' percent => if isRight cam' = isRight cam then some (some percent) else none
  | aecagc true => some none
  | _ => none

def gainFor (cam : CamSensPos) : Setting → Option (Option Int)
  | gain cam' percent => if isRight cam' = isRight cam then some (some percent) else none
  | aecagc true => some none
  | _ => none

def aecagcFor : Setting → Option Bool
  | exposure _ _ => some false
  | gain _ _ => some false
  | aecagc active => some active
  | _ => none

def roiFor (side : CamSensPos) : Setting → Option (UInt16 × UInt16 × UInt16 × UInt16)
  | roi side' x y w h =>
      if RoiValid mWidth mHeight side' x y w h ∧ roiAddr side' = roiAddr side then some (x, y, w, h)
      else none
  | _ => none

/-! ### What a setting keeps -/

variable {mWidth mHeight} {setting : Setting}

theorem footprint_sensor {right : Bool} {a : UInt32}
    (h : setting.footprint mWidth mHeight (.sensor right a)) :
    (∃ cam percent, setting = exposure cam percent ∧ isRight cam = right ∧
        a ∈ [ADDR_EXP_H, ADDR_EXP_M, ADDR_EXP_L]) ∨
      ∃ cam percent, setting = gain cam percent ∧ isRight cam = right ∧
        a ∈ [ADDR_GAIN_H, ADDR_GAIN_M, ADDR_GAIN_L] := by
  cases setting with
  | exposure cam percent =>
      obtain ⟨side, hside⟩ | ⟨address, haddress, heq⟩ := h
      · exact nomatch hside
      · obtain ⟨rfl, rfl⟩ := Register.sensor.inj heq
        exact .inl ⟨cam, percent, rfl, rfl, haddress⟩
  | gain cam percent =>
      obtain ⟨side, hside⟩ | ⟨address, haddress, heq⟩ := h
      · exact nomatch hside
      · obtain ⟨rfl, rfl⟩ := Register.sensor.inj heq
        exact .inr ⟨cam, percent, rfl, rfl, haddress⟩
  | aecagc active =>
      obtain ⟨side, hside⟩ := h
      exact nomatch hside
  | roi side x y w h' => exact absurd h.2 id
  | gamma right' value => exact absurd h id

theorem exposure_notMem_gain :
    ∀ a ∈ [ADDR_EXP_H, ADDR_EXP_M, ADDR_EXP_L], a ∉ [ADDR_GAIN_H, ADDR_GAIN_M, ADDR_GAIN_L] := by
  intro a ha
  simp only [List.mem_cons, List.not_mem_nil, or_false] at ha ⊢
  rcases ha with rfl | rfl | rfl
  · exact not_or.mpr ⟨by decide, not_or.mpr ⟨by decide, by decide⟩⟩
  · exact not_or.mpr ⟨by decide, not_or.mpr ⟨by decide, by decide⟩⟩
  · exact not_or.mpr ⟨by decide, not_or.mpr ⟨by decide, by decide⟩⟩

theorem sensorRegisters_leavesOff {α : Type} {p : Control α} {right : Bool}
    {addresses : List UInt32}
    (hp : p.Issues (Command.Within (fun _ => False) (sensorRegisters right addresses))) :
    p.Issues Command.LeavesOff := by
  refine hp.mono fun _ h => h.leavesOff ?_
  rintro _ ⟨address, -, rfl⟩ ⟨side, heq⟩
  cases heq

/-- Every setting but one leaves the exposure manual. -/
theorem apply_leavesOff (h : setting ≠ aecagc true) :
    (setting.apply mFps mWidth mHeight).Issues Command.LeavesOff := by
  have hwithin := apply_within mFps mWidth mHeight setting
  cases setting with
  | exposure cam percent =>
      refine leaveAutomatic_leavesOff.bind fun _ => Client.Issues.bind ?_ fun _ =>
        Client.issues_pure _
      exact sensorRegisters_leavesOff (writeThree_within ..)
  | gain cam percent =>
      refine leaveAutomatic_leavesOff.bind fun _ => Client.Issues.bind ?_ fun _ =>
        Client.issues_pure _
      exact sensorRegisters_leavesOff (writeThree_within ..)
  | aecagc active =>
      cases active with
      | false => exact setAECAGC_leavesOff.bind fun _ => Client.issues_pure _
      | true => exact absurd rfl h
  | roi side x y w h' =>
      refine hwithin.mono fun _ h => h.leavesOff ?_
      rintro _ ⟨-, hblock⟩ ⟨right, rfl⟩
      rw [block] at hblock
      revert hblock
      cases side <;> cases right <;> decide
  | gamma right value =>
      refine hwithin.mono fun _ h => h.leavesOff ?_
      rintro _ hblock ⟨side, rfl⟩
      rw [footprint, block] at hblock
      revert hblock
      cases right <;> cases side <;> decide

theorem exposureFor_eq_none {cam : CamSensPos} (h : exposureFor cam setting = none) :
    setting ≠ aecagc true ∧ ∀ a ∈ [ADDR_EXP_H, ADDR_EXP_M, ADDR_EXP_L],
      ¬ setting.footprint mWidth mHeight (.sensor (isRight cam) a) := by
  constructor
  · rintro rfl
    cases h
  intro a ha hfootprint
  obtain ⟨cam', percent, rfl, hside, -⟩ | ⟨cam', percent, rfl, -, ha'⟩ :=
    footprint_sensor hfootprint
  · rw [exposureFor, if_pos hside] at h
    cases h
  · exact exposure_notMem_gain a ha ha'

theorem gainFor_eq_none {cam : CamSensPos} (h : gainFor cam setting = none) :
    setting ≠ aecagc true ∧ ∀ a ∈ [ADDR_GAIN_H, ADDR_GAIN_M, ADDR_GAIN_L],
      ¬ setting.footprint mWidth mHeight (.sensor (isRight cam) a) := by
  constructor
  · rintro rfl
    cases h
  intro a ha hfootprint
  obtain ⟨cam', percent, rfl, -, ha'⟩ | ⟨cam', percent, rfl, hside, -⟩ :=
    footprint_sensor hfootprint
  · exact exposure_notMem_gain a ha' ha
  · rw [gainFor, if_pos hside] at h
    cases h

theorem aecagcFor_eq_none (h : aecagcFor setting = none) (right : Bool) :
    ¬ setting.footprint mWidth mHeight (.system (ispCtrl right)) := by
  cases setting with
  | roi side x y w h' =>
      intro hfootprint
      have hblock := hfootprint.2
      rw [block] at hblock
      revert hblock
      cases side <;> cases right <;> decide
  | gamma right' value =>
      rw [footprint, block]
      cases right <;> cases right' <;> decide
  | _ => simp [aecagcFor] at h

theorem roiFor_eq_none {side : CamSensPos} (h : roiFor mWidth mHeight side setting = none)
    {register : Register} (hblock : block (roiAddr side) 8 register) :
    ¬ setting.footprint mWidth mHeight register := by
  have hautomatic : ¬ automatic register := by
    rintro ⟨right, rfl⟩
    rw [block] at hblock
    revert hblock
    cases side <;> cases right <;> decide
  have hsystem (right : Bool) (addresses : List UInt32) :
      ¬ sensorRegisters right addresses register := by
    rintro ⟨address, -, rfl⟩
    exact absurd hblock id
  cases setting with
  | exposure cam percent => exact not_or.mpr ⟨hautomatic, hsystem _ _⟩
  | gain cam percent => exact not_or.mpr ⟨hautomatic, hsystem _ _⟩
  | aecagc active => exact hautomatic
  | roi side' x y w h' =>
      rintro ⟨hvalid, hblock'⟩
      by_cases heq : roiAddr side' = roiAddr side
      · rw [roiFor, if_pos ⟨hvalid, heq⟩] at h
        cases h
      · have hoverlap := block_overlap hblock hblock'
        revert heq hoverlap
        cases side <;> cases side' <;> decide
  | gamma right value =>
      intro hgamma
      have hoverlap := block_overlap hblock hgamma
      revert hoverlap
      cases side <;> cases right <;> decide

/-! ### What a setting leaves in memory -/

theorem get_apply (camera : Camera) {register : Register}
    (h : ¬ setting.footprint mWidth mHeight register) :
    ((setting.apply mFps mWidth mHeight).run ideal camera).2.get register = camera.get register :=
  get_run_ideal (apply_within mFps mWidth mHeight setting) h camera

/-- As long as the two sensors are in the same mode, a setting switches both or none. -/
theorem automaticOn_apply {camera : Camera}
    (hsame : automaticOn camera.get false = automaticOn camera.get true) (right : Bool) :
    automaticOn ((setting.apply mFps mWidth mHeight).run ideal camera).2.get right =
      (aecagcFor setting).getD (automaticOn camera.get right) := by
  have hsensors {addresses : List UInt32} {side : Bool} {p : Control Int}
      (hp : p.Issues (Command.Within (fun _ => False) (sensorRegisters side addresses)))
      (next : Camera) :
      automaticOn (p.run ideal next).2.get right = automaticOn next.get right :=
    automaticOn_congr (get_run_ideal hp (fun ⟨_, _, heq⟩ => nomatch heq) next)
  cases setting with
  | exposure cam percent =>
      simp only [apply, setExposure, Client.run_bind, Client.run_pure]
      exact (hsensors (writeThree_within ..) _).trans (automaticOn_leaveAutomatic hsame right)
  | gain cam percent =>
      simp only [apply, setGain, Client.run_bind, Client.run_pure]
      exact (hsensors (writeThree_within ..) _).trans (automaticOn_leaveAutomatic hsame right)
  | aecagc active =>
      simp only [apply, Client.run_bind, Client.run_pure]
      exact automaticOn_setAECAGC active right camera
  | roi side x y w h =>
      exact automaticOn_congr (get_apply mFps camera (aecagcFor_eq_none rfl right))
  | gamma side value =>
      exact automaticOn_congr (get_apply mFps camera (aecagcFor_eq_none rfl right))

theorem getROIforAECAGC_apply {side : CamSensPos} {region : UInt16 × UInt16 × UInt16 × UInt16}
    (h : roiFor mWidth mHeight side setting = some region) (camera : Camera) :
    ((getROIforAECAGC side).run ideal
      ((setting.apply mFps mWidth mHeight).run ideal camera).2).1 = (true, region) := by
  cases setting with
  | roi side' x y w h' =>
      rw [roiFor] at h
      split at h
      · rename_i hvalid
        obtain rfl := Option.some_inj.mp h
        have hread := getROIforAECAGC_setROIforAECAGC hvalid.1 camera
        rw [getROIforAECAGC_run, hvalid.2] at hread
        rw [getROIforAECAGC_run]
        simp only [apply, Client.run_bind, Client.run_pure]
        exact hread
      · exact nomatch h
  | _ => simp [roiFor] at h

end Apply

/-! ### What a setting leaves in a camera -/

section Device

variable {δ : Type} {device : Device δ} {plain : Register → Prop} {outcome : Nat → Outcome}

/-- No call fails, and the two sensors are in the same mode. -/
structure Calm (device : Device δ) (outcome : Nat → Outcome) (s : VideoCapture δ) : Prop where
  healthy : Healthy outcome s
  same : automaticOn (device.registers s.camera) false =
    automaticOn (device.registers s.camera) true

/-- A value of a sensor that a control reads from some of the registers that cameras adjust. -/
structure SensorControl (mFps : Int) (mWidth mHeight : Nat) (cam : CamSensPos)
    (addresses : List UInt32) (get : Control Int) (tag : Setting → Option (Option Int)) : Prop where
  mem_adjusted : ∀ a ∈ addresses, a ∈ adjustedAddresses
  reads : get.Issues (Command.Within (sensorRegisters (isRight cam) addresses) fun _ => False)
  sets : ∀ setting percent, tag setting = some (some percent) → ∃ rest : Control Unit,
    setting.apply mFps mWidth mHeight = leaveAutomatic >>= (fun _ => rest) ∧
    rest.Issues (Command.Within (fun _ => False) (sensorRegisters (isRight cam) addresses)) ∧
    ∀ camera, (get.run ideal (rest.run ideal camera).2).1 = max 0 (min 100 percent)
  keeps : ∀ setting, tag setting = none → setting ≠ aecagc true ∧
    ∀ a ∈ addresses, ¬ setting.footprint mWidth mHeight (.sensor (isRight cam) a)

theorem SensorControl.adjusted {mFps : Int} {mWidth mHeight : Nat} {cam : CamSensPos}
    {addresses : List UInt32} {get : Control Int} {tag : Setting → Option (Option Int)}
    (h : SensorControl mFps mWidth mHeight cam addresses get tag) {register : Register}
    (hregister : sensorRegisters (isRight cam) addresses register) :
    plain register ∨ ∃ right, Zed.adjusted right register := by
  obtain ⟨a, ha, heq⟩ := hregister
  exact .inr ⟨isRight cam, a, h.mem_adjusted a ha, heq⟩

/-- Neither sensor is automatic, and the control would read the percentage. -/
structure Manual (device : Device δ) (get : Control Int) (percent : Int) (s : VideoCapture δ) :
    Prop where
  off : Off device s.camera
  value : (get.run ideal (s.copy device).camera).1 = max 0 (min 100 percent)

variable (hdevice : device.Documented (steady plain))
  (hplain : ∀ register, configuration register → plain register) (mFps : Int)
  (mWidth mHeight : Nat) {s : VideoCapture δ}

include hdevice hplain

theorem registers_apply (setting : Setting) (hs : Healthy outcome s) {register : Register}
    (hregister : plain register) :
    device.registers ((setting.apply mFps mWidth mHeight).run (handle device outcome) s).2.camera
        register =
      ((setting.apply mFps mWidth mHeight).run ideal (s.copy device).camera).2.get register :=
  (run_copy_of_healthy hdevice.plain (apply_within mFps mWidth mHeight setting) hplain hs).2
    register hregister

theorem automaticOn_registers_apply (setting : Setting) (hs : Calm device outcome s)
    (right : Bool) :
    automaticOn (device.registers
        ((setting.apply mFps mWidth mHeight).run (handle device outcome) s).2.camera) right =
      (aecagcFor setting).getD (automaticOn (device.registers s.camera) right) := by
  have hcontrol := hplain (.system (ispCtrl right)) (.inl ⟨right, rfl⟩)
  have hcopy := get_copy device s
  have hsame := hs.same
  rw [← hcopy] at hsame ⊢
  rw [automaticOn_congr
    (registers_apply hdevice hplain mFps mWidth mHeight setting hs.healthy hcontrol)]
  exact automaticOn_apply mFps hsame right

theorem calm_apply (setting : Setting) (hs : Calm device outcome s) :
    Calm device outcome
      ((setting.apply mFps mWidth mHeight).run (handle device outcome) s).2 where
  healthy := run_healthy _ hs.healthy
  same := by
    rw [automaticOn_registers_apply hdevice hplain mFps mWidth mHeight setting hs,
      automaticOn_registers_apply hdevice hplain mFps mWidth mHeight setting hs, hs.same]

/-- What is read of the steady registers after a setting is what is read of memory. -/
theorem read_copy_apply {β : Type} {get : Control β} {reads writes : Register → Prop}
    (hget : get.Issues (Command.Within reads writes))
    (hreads : ∀ register, reads register → plain register) (setting : Setting)
    (hs : Healthy outcome s) :
    (get.run ideal
        (((setting.apply mFps mWidth mHeight).run (handle device outcome) s).2.copy
          device).camera).1 =
      (get.run ideal
        ((setting.apply mFps mWidth mHeight).run ideal (s.copy device).camera).2).1 := by
  refine run_ideal_congr hget fun register hregister => ?_
  rw [get_copy]
  exact registers_apply hdevice hplain mFps mWidth mHeight setting hs (hreads register hregister)

section Sensor

variable {cam : CamSensPos} {addresses : List UInt32} {get : Control Int}
  {tag : Setting → Option (Option Int)}
  (hcontrol : SensorControl mFps mWidth mHeight cam addresses get tag) {percent : Int}

include hcontrol

theorem manual_set {setting : Setting} (hs : Calm device outcome s)
    (htag : tag setting = some (some percent)) :
    Manual device get percent
      ((setting.apply mFps mWidth mHeight).run (handle device outcome) s).2 := by
  have hautomatic (register : Register) (h : automatic register) : plain register :=
    hplain register (.inl h)
  obtain ⟨rest, happly, hrest, hread⟩ := hcontrol.sets setting percent htag
  rw [happly, Client.run_bind]
  have hleave : Off device (leaveAutomatic.run (handle device outcome) s).2.camera := by
    intro right
    have hsame := hs.same
    rw [← get_copy] at hsame
    rw [automaticOn_congr ((run_copy_of_healthy hdevice.plain leaveAutomatic_within hautomatic
      hs.healthy).2 _ (hautomatic _ ⟨right, rfl⟩))]
    exact automaticOn_leaveAutomatic hsame right
  have hhealthy : Healthy outcome (leaveAutomatic.run (handle device outcome) s).2 :=
    run_healthy leaveAutomatic hs.healthy
  generalize (leaveAutomatic.run (handle device outcome) s).2 = t at hleave hhealthy ⊢
  obtain ⟨-, hlast, hmirrors⟩ := run_off hdevice hautomatic hrest
    (sensorRegisters_leavesOff hrest) (fun _ => False.elim) hhealthy hleave
  refine ⟨hlast, ?_⟩
  rw [← hread (t.copy device).camera]
  refine run_ideal_congr hcontrol.reads fun register hregister => ?_
  rw [get_copy]
  exact hmirrors register (hcontrol.adjusted hregister)

theorem manual_keep {setting : Setting} (hs : Healthy outcome s) (htag : tag setting = none)
    (h : Manual device get percent s) :
    Manual device get percent
      ((setting.apply mFps mWidth mHeight).run (handle device outcome) s).2 := by
  obtain ⟨hne, hfootprint⟩ := hcontrol.keeps setting htag
  obtain ⟨-, hlast, hmirrors⟩ := run_off hdevice (fun register h => hplain register (.inl h))
    (apply_within mFps mWidth mHeight setting) (apply_leavesOff mFps hne)
    (fun register h => .inl (hplain register h)) hs h.off
  refine ⟨hlast, (run_ideal_congr hcontrol.reads fun register hregister => ?_).trans h.value⟩
  rw [get_copy, hmirrors register (hcontrol.adjusted hregister)]
  obtain ⟨a, ha, rfl⟩ := hregister
  exact get_apply mFps _ (hfootprint a ha)

/-- From the setting on the sensors stay manual, and what is read is what memory contains. -/
theorem read_sensor_after_settings (hs : Calm device outcome s) {settings : List Setting}
    (hlast : (settings.filterMap tag).getLast? = some (some percent)) :
    (get.run (handle device outcome)
      ((forM settings (apply mFps mWidth mHeight) : Control Unit).run (handle device outcome)
        s).2).1 = max 0 (min 100 percent) := by
  let Q (b : Option Int) (s : VideoCapture δ) : Prop :=
    ∀ percent, b = some percent → Manual device get percent s
  have hmanual : Q (some percent) ((forM settings (apply mFps mWidth mHeight) :
      Control Unit).run (handle device outcome) s).2 := by
    refine Client.run_forM_last (Q := Q)
      (fun setting s => calm_apply hdevice hplain mFps mWidth mHeight setting) ?_ ?_ hlast hs
    · rintro setting _ s hs htag percent rfl
      exact manual_set hdevice hplain mFps mWidth mHeight hcontrol hs htag
    · rintro setting _ s hs htag hkept percent rfl
      exact manual_keep hdevice hplain mFps mWidth mHeight hcontrol hs.healthy htag
        (hkept percent rfl)
  have h := hmanual percent rfl
  rw [(run_off hdevice (fun register h => hplain register (.inl h)) hcontrol.reads
    (hcontrol.reads.mono fun _ h => h.leavesOff fun _ => False.elim)
    (fun _ => hcontrol.adjusted) (run_healthy _ hs.healthy) h.off).1, h.value]

end Sensor

omit hdevice hplain in
theorem exposureControl (cam : CamSensPos) :
    SensorControl mFps mWidth mHeight cam [ADDR_EXP_H, ADDR_EXP_M, ADDR_EXP_L]
      (getExposure mFps cam) (exposureFor cam) where
  mem_adjusted := by simp [adjustedAddresses]
  reads := getExposure_within mFps cam
  sets setting percent h := by
    cases setting with
    | exposure cam' percent' =>
        rw [exposureFor] at h
        split at h
        · rename_i hside
          obtain rfl := Option.some_inj.mp (Option.some_inj.mp h)
          refine ⟨_, rfl, ?_, fun camera => ?_⟩
          · rw [← hside]
            exact Client.Issues.bind (writeThree_within ..) fun _ => Client.issues_pure _
          · simp only [Client.run_bind, Client.run_pure]
            exact getExposure_llIspSetExposure camera mFps percent' hside
        · cases h
    | aecagc active => cases active <;> cases h
    | _ => cases h
  keeps _ h := exposureFor_eq_none h

omit hdevice hplain in
theorem gainControl (cam : CamSensPos) :
    SensorControl mFps mWidth mHeight cam [ADDR_GAIN_H, ADDR_GAIN_M, ADDR_GAIN_L]
      (getGain cam) (gainFor cam) where
  mem_adjusted := by simp [adjustedAddresses]
  reads := getGain_within cam
  sets setting percent h := by
    cases setting with
    | gain cam' percent' =>
        rw [gainFor] at h
        split at h
        · rename_i hside
          obtain rfl := Option.some_inj.mp (Option.some_inj.mp h)
          refine ⟨_, rfl, ?_, fun camera => ?_⟩
          · rw [← hside]
            exact Client.Issues.bind (writeThree_within ..) fun _ => Client.issues_pure _
          · simp only [Client.run_bind, Client.run_pure, clampGain]
            exact getGain_llIspSetGain camera percent' hside
        · cases h
    | aecagc active => cases active <;> cases h
    | _ => cases h
  keeps _ h := gainFor_eq_none h

theorem automaticOn_after_settings (hs : Calm device outcome s) {settings : List Setting}
    {active : Bool} (hlast : (settings.filterMap aecagcFor).getLast? = some active) (right : Bool) :
    automaticOn (device.registers ((forM settings (apply mFps mWidth mHeight) : Control Unit).run
      (handle device outcome) s).2.camera) right = active := by
  let Q (active : Bool) (s : VideoCapture δ) : Prop :=
    ∀ right, automaticOn (device.registers s.camera) right = active
  refine Client.run_forM_last (Q := Q)
    (fun setting s => calm_apply hdevice hplain mFps mWidth mHeight setting) ?_ ?_ hlast hs right
  · intro setting active s hs htag right
    rw [automaticOn_registers_apply hdevice hplain mFps mWidth mHeight setting hs, htag,
      Option.getD_some]
  · intro setting active s hs htag hkept right
    rw [automaticOn_registers_apply hdevice hplain mFps mWidth mHeight setting hs, htag,
      Option.getD_none, hkept right]

theorem getAECAGC_of_automaticOn (hs : Healthy outcome s) {active : Bool}
    (h : ∀ right, automaticOn (device.registers s.camera) right = active) :
    (getAECAGC.run (handle device outcome) s).1 = active := by
  have hread : getAECAGC.Issues (Command.Within automatic fun _ => False) := getAECAGC_within
  rw [(run_copy_of_healthy hdevice.plain hread (fun register h => hplain register (.inl h))
    hs).1, getAECAGC_run, get_copy, h, h, Bool.and_self]

theorem getROIforAECAGC_after_settings (hs : Calm device outcome s) {settings : List Setting}
    {cam : CamSensPos} {region : UInt16 × UInt16 × UInt16 × UInt16}
    (hlast : (settings.filterMap (roiFor mWidth mHeight cam)).getLast? = some region) :
    ((getROIforAECAGC cam).run (handle device outcome)
      ((forM settings (apply mFps mWidth mHeight) : Control Unit).run (handle device outcome)
        s).2).1 = (true, region) := by
  have hread : (getROIforAECAGC cam).Issues
      (Command.Within (block (roiAddr cam) 8) fun _ => False) := getROIforAECAGC_within cam
  have hblock (register : Register) (h : block (roiAddr cam) 8 register) : plain register :=
    hplain register (.inr (.inl ⟨cam, h⟩))
  rw [(run_copy_of_healthy hdevice.plain hread hblock (run_healthy _ hs.healthy)).1]
  let Q (region : UInt16 × UInt16 × UInt16 × UInt16) (s : VideoCapture δ) : Prop :=
    ((getROIforAECAGC cam).run ideal (s.copy device).camera).1 = (true, region)
  refine Client.run_forM_last (Q := Q)
    (fun setting s => calm_apply hdevice hplain mFps mWidth mHeight setting) ?_ ?_ hlast hs
  · intro setting region s hs htag
    exact (read_copy_apply hdevice hplain mFps mWidth mHeight hread hblock setting
      hs.healthy).trans (getROIforAECAGC_apply mFps htag _)
  · intro setting region s hs htag hkept
    refine (read_copy_apply hdevice hplain mFps mWidth mHeight hread hblock setting
      hs.healthy).trans (Eq.trans ?_ hkept)
    exact run_ideal_congr hread fun register h => get_apply mFps _ (roiFor_eq_none htag h)

/-- **The last setting wins.** As long as no call fails and if the two sensors start in the same
mode, what is read after any settings in any order is what the last setting of its kind has set: the
exposure and the gain of a sensor, unless automatic exposure has left them to the camera since, the
region of a side among the valid ones, and automatic exposure, which an exposure or a gain turns off
in both sensors. -/
theorem read_after_settings (hhealthy : Healthy outcome s)
    (hsame : automaticOn (device.registers s.camera) false =
      automaticOn (device.registers s.camera) true) (settings : List Setting) (cam : CamSensPos) :
    let last := ((forM settings (apply mFps mWidth mHeight) : Control Unit).run
      (handle device outcome) s).2
    (∀ percent, (settings.filterMap (exposureFor cam)).getLast? = some (some percent) →
      ((getExposure mFps cam).run (handle device outcome) last).1 = max 0 (min 100 percent)) ∧
    (∀ percent, (settings.filterMap (gainFor cam)).getLast? = some (some percent) →
      ((getGain cam).run (handle device outcome) last).1 = max 0 (min 100 percent)) ∧
    (∀ active, (settings.filterMap aecagcFor).getLast? = some active →
      (∀ right, automaticOn (device.registers last.camera) right = active) ∧
        (getAECAGC.run (handle device outcome) last).1 = active) ∧
    ∀ region, (settings.filterMap (roiFor mWidth mHeight cam)).getLast? = some region →
      ((getROIforAECAGC cam).run (handle device outcome) last).1 = (true, region) := by
  intro last
  have hs : Calm device outcome s := ⟨hhealthy, hsame⟩
  refine ⟨fun percent hlast => ?_, fun percent hlast => ?_, fun active hlast => ?_,
    fun region hlast => ?_⟩
  · exact read_sensor_after_settings hdevice hplain mFps mWidth mHeight
      (exposureControl mFps mWidth mHeight cam) hs hlast
  · exact read_sensor_after_settings hdevice hplain mFps mWidth mHeight
      (gainControl mFps mWidth mHeight cam) hs hlast
  · have hmode : ∀ right, automaticOn (device.registers last.camera) right = active :=
      automaticOn_after_settings hdevice hplain mFps mWidth mHeight hs hlast
    exact ⟨hmode, getAECAGC_of_automaticOn hdevice hplain (run_healthy _ hhealthy) hmode⟩
  · exact getROIforAECAGC_after_settings hdevice hplain mFps mWidth mHeight hs hlast

end Device

/-- The camera adjusts what is automatic; the gain that is set last turns it off. -/
theorem read_after_settings_adjusting :
    let settings := [aecagc true, gain .left 7, exposure .left 30, roi .left 4 300 100 200,
      exposure .right 60, roi .left 4 300 10 10, gamma false 5, gain .left 120]
    let last := ((forM settings (apply 30 2560 720) : Control Unit).run
      (handle adjusting fun _ => .ok) { camera := .uniform 0xFF }).2
    ((getExposure 30 .left).run (handle adjusting fun _ => .ok) last).1 = 30 ∧
      ((getGain .left).run (handle adjusting fun _ => .ok) last).1 = 100 ∧
      (getAECAGC.run (handle adjusting fun _ => .ok) last).1 = false ∧
      ((getROIforAECAGC .left).run (handle adjusting fun _ => .ok) last).1 =
        (true, 4, 300, 100, 200) := by
  intro settings last
  have hplain (register : Register) (h : configuration register) (right : Bool) :
      ¬ adjusted right register := by
    rintro ⟨address, -, rfl⟩
    obtain ⟨side, heq⟩ | ⟨side, hblock⟩ | ⟨side, hblock⟩ := h
    · cases heq
    · exact hblock
    · exact hblock
  have hhealthy : Healthy (fun _ => .ok) ({ camera := .uniform 0xFF } : VideoCapture Camera) :=
    ⟨rfl, fun _ _ => rfl⟩
  obtain ⟨hexposure, hgain, haecagc, hroi⟩ := read_after_settings adjusting_documented hplain
    30 2560 720 hhealthy rfl settings .left
  exact ⟨hexposure 30 (by decide), hgain 120 (by decide), (haecagc false (by decide)).2,
    hroi (4, 300, 100, 200) (by decide)⟩

end Setting

end Ilumo.Zed
