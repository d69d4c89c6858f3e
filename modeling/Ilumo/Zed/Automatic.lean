import Ilumo.Zed.Exposure

/-!
# The registers that a camera adjusts

As long as the exposure of a sensor is automatic the camera adjusts its exposure and its gain, so
these registers are steady only when bit 1 of the control register is not set. A client that leaves
the bit alone finds them as in memory.
-/

namespace Ilumo.Zed

def automaticOn (registers : Register → UInt8) (right : Bool) : Bool :=
  registers (.system (ispCtrl right)) &&& AEG_AGC_MASK_ON = AEG_AGC_MASK_ON

def adjustedAddresses : List UInt32 :=
  [ADDR_EXP_H, ADDR_EXP_M, ADDR_EXP_L, ADDR_GAIN_H, ADDR_GAIN_M, ADDR_GAIN_L]

def adjusted (right : Bool) : Register → Prop := sensorRegisters right adjustedAddresses

/-- Some registers are always steady, and so is what a camera adjusts when it does not. -/
def steady (plain : Register → Prop) (registers : Register → UInt8) (register : Register) : Prop :=
  plain register ∨ ∃ right, automaticOn registers right = false ∧ adjusted right register

theorem Device.Documented.plain {δ : Type} {device : Device δ} {plain : Register → Prop}
    (h : device.Documented (steady plain)) : device.Documented fun _ => plain :=
  h.mono fun _ _ => .inl

/-! ### Memory -/

section Memory

variable {camera : Camera}

theorem automaticOn_congr {registers registers' : Register → UInt8} {right : Bool}
    (h : registers (.system (ispCtrl right)) = registers' (.system (ispCtrl right))) :
    automaticOn registers right = automaticOn registers' right := by
  rw [automaticOn, automaticOn, h]

theorem llIspIsAecagc_run (camera : Camera) (right : Bool) :
    (llIspIsAecagc right).run ideal camera =
      (if automaticOn camera.get right then 1 else 0, camera) := by
  have hread : (llReadSystemRegister (ispCtrl right)).run ideal camera =
      ((0, camera.get (.system (ispCtrl right))), camera) := rfl
  simp only [llIspIsAecagc, Client.run_bind, hread, if_true, Client.run_pure, automaticOn,
    decide_eq_true_eq]

theorem getAECAGC_run (camera : Camera) :
    getAECAGC.run ideal camera =
      (automaticOn camera.get false && automaticOn camera.get true, camera) := by
  simp only [getAECAGC, Client.run_bind, llIspIsAecagc_run, Client.run_pure]
  cases automaticOn camera.get false <;> cases automaticOn camera.get true <;> rfl

theorem automaticOn_setAECAGC (active right : Bool) (camera : Camera) :
    automaticOn ((setAECAGC active).run ideal camera).2.get right = active := by
  have hregister : ((setAECAGC active).run ideal camera).2.get (.system (ispCtrl right)) =
      aecagcMask active (camera.get (.system (ispCtrl right))) := by
    have hne : ispCtrl false ≠ ispCtrl true := by decide
    let first := camera.setSystem (ispCtrl false)
      (aecagcMask active (camera.system (ispCtrl false)))
    show (first.setSystem (ispCtrl true) (aecagcMask active (first.system (ispCtrl true)))).system
      (ispCtrl right) = aecagcMask active (camera.system (ispCtrl right))
    cases right with
    | false =>
        rw [Camera.system_setSystem, if_neg hne, Camera.system_setSystem, if_pos rfl]
    | true =>
        rw [Camera.system_setSystem, if_pos rfl, Camera.system_setSystem, if_neg hne.symm]
  rw [automaticOn, hregister, aecagcMask_and]
  cases active <;> decide

/-- Only when both sensors are automatic they are switched off. -/
theorem automaticOn_leaveAutomatic
    (hsame : automaticOn camera.get false = automaticOn camera.get true) (right : Bool) :
    automaticOn (leaveAutomatic.run ideal camera).2.get right = false := by
  simp only [leaveAutomatic, Client.run_bind, getAECAGC_run]
  cases hboth : automaticOn camera.get false && automaticOn camera.get true with
  | false =>
      rw [← hsame, Bool.and_self] at hboth
      cases right with
      | false => exact hboth
      | true => exact hsame.symm.trans hboth
  | true =>
      simp only [if_true, Client.run_bind, Client.run_pure]
      exact automaticOn_setAECAGC false right camera

end Memory

/-! ### Clients that do not switch the exposure to automatic -/

def Command.LeavesOff (command : Command) : Prop :=
  ∀ right value, command.target = some (.system (ispCtrl right), value) →
    value &&& AEG_AGC_MASK_ON ≠ AEG_AGC_MASK_ON

theorem Command.Within.leavesOff {reads writes : Register → Prop} {command : Command}
    (h : command.Within reads writes)
    (hwrites : ∀ register, writes register → ¬ automatic register) : command.LeavesOff :=
  fun right value htarget => absurd ⟨right, rfl⟩ (hwrites _ (h.2 _ value htarget))

theorem setAECAGC_leavesOff : (setAECAGC false).Issues Command.LeavesOff := by
  have hside (right : Bool) : (llIspAecagcEnable right false).Issues Command.LeavesOff := by
    refine Client.Issues.bind (Client.issues_ask.mpr fun _ _ => nofun) fun read => ?_
    refine Client.Issues.bind ?_ fun written => Client.issues_pure _
    refine Client.Issues.bind (Client.issues_ask.mpr ?_) fun _ => Client.issues_pure _
    intro side value htarget
    rw [← (Prod.mk.inj (Option.some_inj.mp htarget)).2, aecagcMask_and]
    decide
  exact (hside false).bind fun _ => (hside true).bind fun _ => Client.issues_pure _

theorem getAECAGC_leavesOff : getAECAGC.Issues Command.LeavesOff :=
  getAECAGC_within.mono fun _ (h : Command.Within automatic (fun _ => False) _) =>
    h.leavesOff fun _ => False.elim

theorem leaveAutomatic_leavesOff : leaveAutomatic.Issues Command.LeavesOff :=
  getAECAGC_leavesOff.bind fun _ =>
    Client.Issues.ite (setAECAGC_leavesOff.bind fun _ => Client.issues_pure _)
      (Client.issues_pure _)

section Off

variable {δ : Type} {device : Device δ} {plain : Register → Prop} {outcome : Nat → Outcome}

/-- Neither sensor is automatic. -/
def Off (device : Device δ) (camera : δ) : Prop :=
  ∀ right, automaticOn (device.registers camera) right = false

theorem off_respond (hdevice : device.Documented (steady plain))
    (hplain : ∀ register, automatic register → plain register) {camera : δ} {command : Command}
    (hcommand : command.LeavesOff) (h : Off device camera) :
    Off device (device.respond camera command.bytes).2 := by
  intro right
  have hcontrol := hplain (.system (ispCtrl right)) ⟨right, rfl⟩
  have hstore := hdevice.plain.stores camera command _ hcontrol hcontrol
  rw [automaticOn, hstore, Command.store]
  cases htarget : command.target with
  | none => exact h right
  | some written =>
      obtain ⟨register, value⟩ := written
      by_cases heq : .system (ispCtrl right) = register
      · subst heq
        simp only [Function.update_self]
        exact decide_eq_false (hcommand right value htarget)
      · simp only [Function.update_of_ne heq]
        exact h right

/-- A client that leaves the exposures manual finds them as in memory. -/
theorem run_off (hdevice : device.Documented (steady plain))
    (hplain : ∀ register, automatic register → plain register) {α : Type} {p : Control α}
    {reads writes : Register → Prop} (hp : p.Issues (Command.Within reads writes))
    (hleaves : p.Issues Command.LeavesOff)
    (hreads : ∀ register, reads register → plain register ∨ ∃ right, adjusted right register)
    {s : VideoCapture δ} (hs : Healthy outcome s) (h : Off device s.camera) :
    (p.run (handle device outcome) s).1 = (p.run ideal (s.copy device).camera).1 ∧
      Off device (p.run (handle device outcome) s).2.camera ∧
      ∀ register, (plain register ∨ ∃ right, adjusted right register) →
        device.registers (p.run (handle device outcome) s).2.camera register =
          (p.run ideal (s.copy device).camera).2.get register := by
  have hcopy : Healthy outcome (s.copy device) := hs
  have hstart : s.Related (fun camera copy => Off device camera ∧ Mirrors device
      (fun register => plain register ∨ ∃ right, adjusted right register) camera copy)
      (s.copy device) := by
    refine ⟨⟨h, fun register _ => ?_⟩, rfl, rfl⟩
    rw [get_copy]
  obtain ⟨hresult, hlast⟩ := run_mirrors hdevice
    (fun camera register hoff hkept => hkept.imp id fun ⟨right, hright⟩ =>
      ⟨right, hoff right, hright⟩)
    (fun camera command hcommand hoff => off_respond hdevice hplain hcommand.2 hoff)
    (fun command register hcommand hsource => hreads register (hcommand.1.1 register hsource))
    (hp.and hleaves) hstart
  obtain ⟨hideal, hcamera, -⟩ := run_of_healthy hcopy p
  rw [hideal] at hresult
  obtain ⟨hoff, hmirrors⟩ := hlast.camera
  rw [hcamera] at hmirrors
  exact ⟨hresult, hoff, hmirrors⟩

end Off

/-! ### A camera that adjusts -/

def Camera.adjust (camera : Camera) : Camera :=
  { camera with
    sensor := fun right address =>
      if automaticOn camera.get right ∧ address ∈ adjustedAddresses then
        camera.sensor right address + 1
      else camera.sensor right address }

/-- After each command what is automatic goes up by one. -/
def adjusting : Device Camera where
  respond camera buf :=
    let (value, next) := memory.respond camera buf
    (value, next.adjust)
  registers := Camera.get

theorem get_adjust {camera : Camera} {register : Register}
    (h : steady (fun register => ∀ right, ¬ adjusted right register) camera.adjust.get register) :
    camera.adjust.get register = camera.get register := by
  cases register with
  | sensor right address =>
      refine if_neg fun ⟨hauto, hmem⟩ => ?_
      obtain hplain | ⟨side, hoff, address', -, heq⟩ := h
      · exact hplain right ⟨address, hmem, rfl⟩
      · rw [(Register.sensor.inj heq).1] at hauto
        exact absurd (hoff.symm.trans hauto) Bool.false_ne_true
  | _ => rfl

theorem adjusting_documented :
    adjusting.Documented (steady fun register => ∀ right, ¬ adjusted right register) where
  answers camera command register hsource _ := by
    show (memory.respond camera command.bytes).1 = _
    rw [memory_respond]
    exact camera.execute_of_source hsource
  stores camera command register _ hafter := by
    refine (get_adjust hafter).trans ?_
    show (memory.respond camera command.bytes).2.get register = _
    rw [memory_respond]
    exact congrFun (camera.get_execute command) register

end Ilumo.Zed
