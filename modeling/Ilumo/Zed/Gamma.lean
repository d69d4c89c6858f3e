import Ilumo.Zed.Blocks

/-!
# Gamma presets

A preset is a table of fifteen values that is written value by value, each of which is read back.
-/

namespace Ilumo.Zed

def PRESET_GAMMA : List (List UInt8) := [
  [7, 14, 29, 54, 66, 78, 89, 103, 114, 123, 139, 154, 183, 206, 228, 254],
  [9, 17, 34, 58, 71, 83, 89, 108, 118, 127, 143, 158, 186, 208, 229, 254],
  [10, 20, 38, 63, 75, 88, 99, 112, 123, 132, 147, 162, 189, 210, 230, 254],
  [12, 23, 43, 67, 80, 92, 103, 117, 127, 136, 151, 165, 192, 212, 231, 254],
  [13, 26, 47, 71, 84, 97, 108, 121, 131, 140, 155, 169, 195, 214, 232, 255],
  [18, 32, 54, 80, 93, 106, 117, 130, 140, 149, 164, 177, 202, 219, 236, 255],
  [24, 38, 61, 88, 102, 115, 127, 139, 148, 157, 172, 186, 209, 225, 240, 255],
  [29, 44, 68, 97, 111, 124, 136, 147, 157, 166, 181, 194, 215, 230, 243, 255],
  [34, 50, 75, 105, 120, 133, 145, 156, 165, 174, 189, 202, 222, 235, 247, 255]]

def DEFAULT_MIN_GAMMA : Int := 1

def DEFAULT_MAX_GAMMA : Int := 9

/-- Each value is read back after it has been written; `none` when it has not come through. -/
def writeVerified : List UInt8 → UInt32 → Int → Control (Option Int)
  | [], _, hr => return some hr
  | value :: values, ulAddr, hr => do
      let hr' ← llWriteSystemRegister ulAddr value
      let (hr'', valRead) ← llReadSystemRegister ulAddr
      if valRead ≠ value then return none
      else writeVerified values (ulAddr + 1) (hr + hr' + hr'')

/-- The first 15 values of the preset, for any `int`. -/
def presetGamma (value : Int) : List UInt8 :=
  let value := if value < DEFAULT_MIN_GAMMA then DEFAULT_MIN_GAMMA else value
  let value := if value > DEFAULT_MAX_GAMMA then DEFAULT_MAX_GAMMA else value
  (PRESET_GAMMA.getD (value - 1).toNat []).take 15

def gammaAddr (right : Bool) : UInt32 := if right then 0x80181D00 else 0x80181500

def gammaSwitch (right : Bool) : UInt32 := if right then 0x80181D10 else 0x80181510

def setGammaPreset (mInitialized right : Bool) (value : Int) : Control Int :=
  if !mInitialized then return -1
  else do
    match ← writeVerified (presetGamma value) (gammaAddr right) 0 with
    | none => return -3
    | some hr =>
        let hr' ← llWriteSystemRegister (gammaSwitch right) 0x01
        let (hr'', valRead) ← llReadSystemRegister (gammaSwitch right)
        if valRead ≠ 0x01 then return -2
        else return hr + hr' + hr''

section Gamma

variable (outcome : Nat → Outcome) (capture : VideoCapture Camera)

/-- A read that fails reads a zero, so a value other than zero that is read back is there. -/
theorem writeThenRead_spec (address : UInt32) {value : UInt8} (hvalue : value ≠ 0) :
    let written := (llWriteSystemRegister address value).run (handle memory outcome) capture
    let read := (llReadSystemRegister address).run (handle memory outcome) written.2
    (read.2.camera.system = capture.camera.system ∨
      read.2.camera.system = Function.update capture.camera.system address value) ∧
    (read.1.2 = value →
      read.2.camera.system = Function.update capture.camera.system address value) := by
  intro written read
  obtain ⟨hread, hsame⟩ := llReadSystemRegister_spec outcome written.2 address
  have hwrite := llWriteSystemRegister_spec outcome capture address value
  rw [hsame]
  obtain ⟨-, hcamera⟩ | ⟨-, hcamera⟩ := hwrite
  · rw [hcamera, Camera.setSystem]
    exact ⟨.inr rfl, fun _ => rfl⟩
  · rw [hcamera]
    refine ⟨.inl rfl, fun hback => ?_⟩
    obtain ⟨-, hregister⟩ | ⟨-, hzero⟩ := hread
    · have hthere : capture.camera.system address = value := by
        rw [← hback, hregister, hcamera]
      rw [← hthere, Function.update_eq_self]
    · exact absurd (hback.symm.trans hzero) hvalue

theorem writeVerified_spec (values : List UInt8) (ulAddr : UInt32) (hr : Int) (hne : 0 ∉ values)
    (hlength : values.length < 2 ^ 32) :
    (((writeVerified values ulAddr hr).run (handle memory outcome) capture).1 ≠ none →
      ((writeVerified values ulAddr hr).run (handle memory outcome) capture).2.camera.system =
        overwrite capture.camera.system values ulAddr) ∧
    ∀ a, ((writeVerified values ulAddr hr).run (handle memory outcome) capture).2.camera.system a ∈
      [capture.camera.system a, overwrite capture.camera.system values ulAddr a] := by
  induction values generalizing ulAddr hr capture with
  | nil => exact ⟨fun _ => rfl, fun a => List.mem_cons_self⟩
  | cons value values ih =>
      rw [List.length_cons] at hlength
      rw [List.mem_cons, not_or] at hne
      have hvalues : values.length < 2 ^ 32 := by omega
      obtain ⟨hold, hback⟩ := writeThenRead_spec outcome capture ulAddr (Ne.symm hne.1)
      rw [writeVerified, Client.run_bind, Client.run_bind]
      generalize (llWriteSystemRegister ulAddr value).run (handle memory outcome) capture = written
        at hold hback ⊢
      generalize (llReadSystemRegister ulAddr).run (handle memory outcome) written.2 = read
        at hold hback ⊢
      obtain ⟨⟨hr'', valRead⟩, next⟩ := read
      simp only at hold hback ⊢
      by_cases heq : valRead = value
      · obtain ⟨hall, hmem⟩ := ih next (ulAddr + 1) (hr + written.1 + hr'') hne.2 hvalues
        rw [if_neg (not_not.mpr heq)]
        refine ⟨fun hsome => ?_, fun a => mem_overwrite_cons hold hvalues (hmem a)⟩
        rw [hall hsome, hback heq, overwrite_update value hvalues]
      · rw [if_pos heq, Client.run_pure]
        exact ⟨fun hsome => absurd rfl hsome,
          fun a => mem_overwrite_cons hold hvalues List.mem_cons_self⟩

theorem presetGamma_mem (value : Int) : presetGamma value ∈ PRESET_GAMMA.map (List.take 15) := by
  have hclamp : ∃ n < PRESET_GAMMA.length,
      presetGamma value = (PRESET_GAMMA.getD n []).take 15 := by
    refine ⟨_, ?_, rfl⟩
    show _ < 9
    simp only [DEFAULT_MIN_GAMMA, DEFAULT_MAX_GAMMA]
    grind
  obtain ⟨n, hn, heq⟩ := hclamp
  rw [heq, List.getD_eq_getElem _ _ hn]
  exact List.mem_map_of_mem (List.getElem_mem hn)

/-- Every preset can be told from a read that fails. -/
theorem presetGamma_spec (value : Int) :
    0 ∉ presetGamma value ∧ (presetGamma value).length = 15 := by
  have hrows : ∀ row ∈ PRESET_GAMMA.map (List.take 15), 0 ∉ row ∧ row.length = 15 := by decide
  exact hrows _ (presetGamma_mem value)

def gammaSystem (right : Bool) (value : Int) (registers : UInt32 → UInt8) : UInt32 → UInt8 :=
  Function.update (overwrite registers (presetGamma value) (gammaAddr right)) (gammaSwitch right) 1

/-- The switch does not follow the values. -/
theorem overwrite_gammaSwitch (right : Bool) (value : Int) (registers : UInt32 → UInt8) :
    overwrite registers (presetGamma value) (gammaAddr right) (gammaSwitch right) =
      registers (gammaSwitch right) := by
  apply overwrite_of_le
  rw [(presetGamma_spec value).2]
  cases right <;> decide

theorem gammaSystem_mem {right : Bool} {value : Int} {registers : UInt32 → UInt8} {a : UInt32}
    {b : UInt8}
    (hb : b ∈ [registers a, overwrite registers (presetGamma value) (gammaAddr right) a]) :
    b ∈ [registers a, gammaSystem right value registers a] := by
  rw [gammaSystem]
  by_cases heq : a = gammaSwitch right
  · subst heq
    rw [overwrite_gammaSwitch] at hb
    exact List.mem_pair.mpr (.inl (by simpa using hb))
  · rwa [Function.update_of_ne heq]

theorem setGammaPreset_memory (mInitialized right : Bool) (value : Int) :
    (((setGammaPreset mInitialized right value).run (handle memory outcome) capture).1 ∉
        [-1, -2, -3] →
      ((setGammaPreset mInitialized right value).run (handle memory outcome)
        capture).2.camera.system = gammaSystem right value capture.camera.system) ∧
    ∀ a, ((setGammaPreset mInitialized right value).run (handle memory outcome)
        capture).2.camera.system a ∈
      [capture.camera.system a, gammaSystem right value capture.camera.system a] := by
  cases mInitialized with
  | false => exact ⟨fun hresult => absurd List.mem_cons_self hresult, fun a => List.mem_cons_self⟩
  | true =>
      obtain ⟨hne, hlength⟩ := presetGamma_spec value
      obtain ⟨hall, hmem⟩ := writeVerified_spec outcome capture (presetGamma value)
        (gammaAddr right) 0 hne (by omega)
      rw [setGammaPreset, if_neg (by decide), Client.run_bind]
      generalize (writeVerified (presetGamma value) (gammaAddr right) 0).run (handle memory outcome)
        capture = r at hall hmem ⊢
      obtain ⟨_ | hr, next⟩ := r
      · simp only [Client.run_pure] at hmem ⊢
        exact ⟨fun hresult => absurd (by decide) hresult, fun a => gammaSystem_mem (hmem a)⟩
      · simp only [ne_eq, reduceCtorEq, not_false_eq_true, forall_const] at hall
        obtain ⟨hold, hback⟩ := writeThenRead_spec outcome next (gammaSwitch right)
          (show (1 : UInt8) ≠ 0 by decide)
        simp only [Client.run_bind]
        generalize (llWriteSystemRegister (gammaSwitch right) 1).run (handle memory outcome)
          next = written at hold hback ⊢
        generalize (llReadSystemRegister (gammaSwitch right)).run (handle memory outcome)
          written.2 = read at hold hback ⊢
        obtain ⟨⟨hr'', valRead⟩, last⟩ := read
        simp only [hall] at hold hback ⊢
        have hregisters : ∀ a, last.camera.system a ∈
            [capture.camera.system a, gammaSystem right value capture.camera.system a] := by
          intro a
          rcases hold with hsame | hdone
          · rw [hsame]
            exact gammaSystem_mem (List.mem_pair.mpr (.inr rfl))
          · exact List.mem_pair.mpr (.inr (congrFun hdone a))
        by_cases heq : valRead = 1
        · rw [if_neg (not_not.mpr heq), Client.run_pure]
          exact ⟨fun _ => hback heq, hregisters⟩
        · rw [if_pos heq, Client.run_pure]
          exact ⟨fun hresult => absurd (by simp) hresult, hregisters⟩

end Gamma

theorem writeVerified_within (values : List UInt8) (ulAddr : UInt32) (hr : Int) :
    (writeVerified values ulAddr hr).Issues
      (Command.Within (block ulAddr values.length) (block ulAddr values.length)) := by
  induction values generalizing ulAddr hr with
  | nil => trivial
  | cons value values ih =>
      refine (llWriteSystemRegister_within (block_cons _ _) value).bind fun hr' => ?_
      refine (llReadSystemRegister_within (block_cons _ _)).bind fun read => ?_
      refine Client.Issues.ite (Client.issues_pure _) ?_
      exact (ih (ulAddr + 1) _).mono fun command => Command.Within.mono block_succ block_succ

theorem setGammaPreset_within (mInitialized right : Bool) (value : Int) :
    (setGammaPreset mInitialized right value).Issues
      (Command.Within (block (gammaAddr right) 17) (block (gammaAddr right) 17)) := by
  have hvalues (register : Register) (h : block (gammaAddr right) 15 register) :
      block (gammaAddr right) 17 register := by
    cases register with
    | system a =>
        rw [block] at h ⊢
        omega
    | _ => exact h
  have hswitch : block (gammaAddr right) 17 (.system (gammaSwitch right)) := by
    rw [block]
    cases right <;> decide
  have hverified := writeVerified_within (presetGamma value) (gammaAddr right) 0
  rw [(presetGamma_spec value).2] at hverified
  refine Client.Issues.ite (Client.issues_pure _) ?_
  refine (hverified.mono fun command => Command.Within.mono hvalues hvalues).bind fun result => ?_
  cases result with
  | none => exact Client.issues_pure _
  | some hr =>
      refine (llWriteSystemRegister_within hswitch _).bind fun hr' => ?_
      refine (llReadSystemRegister_within hswitch).bind fun read => ?_
      exact Client.Issues.ite (Client.issues_pure _) (Client.issues_pure _)

/-- The registers with the preset in its place. -/
def gammaRegisters (right : Bool) (value : Int) (registers : Register → UInt8) :
    Register → UInt8
  | .system a => gammaSystem right value (fun address => registers (.system address)) a
  | register => registers register

/-- **Gamma.** Any result but `-1`, `-2` and `-3` says that the preset is in the camera and switched
on, even if calls have failed, and that no other register that is always steady has changed. After
any result each of these registers is as it was or as it should be. -/
theorem setGammaPreset_spec {δ : Type} {device : Device δ} {plain : Register → Prop}
    (hdevice : device.Documented fun _ => plain) {right : Bool}
    (hplain : ∀ register, block (gammaAddr right) 17 register → plain register)
    (outcome : Nat → Outcome) (capture : VideoCapture δ) (mInitialized : Bool) (value : Int) :
    let last := (setGammaPreset mInitialized right value).run (handle device outcome) capture
    (last.1 ∉ [-1, -2, -3] → ∀ register, plain register →
      device.registers last.2.camera register =
        gammaRegisters right value (device.registers capture.camera) register) ∧
    ∀ register, plain register → device.registers last.2.camera register ∈
      [device.registers capture.camera register,
        gammaRegisters right value (device.registers capture.camera) register] := by
  intro last
  have hwithin := setGammaPreset_within mInitialized right value
  obtain ⟨hresult, hlast⟩ := run_copy hdevice hwithin hplain capture
  obtain ⟨hall, hmem⟩ :=
    setGammaPreset_memory outcome (capture.copy device) mInitialized right value
  have hothers (register : Register) (hregister : plain register)
      (hblock : ¬ block (gammaAddr right) 17 register) :
      device.registers last.2.camera register = device.registers capture.camera register :=
    registers_run hdevice hwithin hregister hblock capture
  refine ⟨fun hmem register hregister => ?_, fun register hregister => ?_⟩
  · cases register with
    | system a => exact (hlast _ hregister).trans (congrFun (hall (hresult ▸ hmem)) a)
    | _ => exact hothers _ hregister id
  · cases register with
    | system a =>
        rw [hlast _ hregister]
        exact hmem a
    | _ => exact List.mem_pair.mpr (.inl (hothers _ hregister id))

/-- The last call of all, which reads the switch back, fails. -/
theorem setGammaPreset_spec_readFails :
    gammaRegisters false 5 (fun _ => 9) (.system (gammaAddr false)) = 13 ∧
    ∀ register, ((setGammaPreset true false 5).run (handle memory (failsAt 31))
        { camera := .uniform 9 }).2.camera.get register ∈
      [9, gammaRegisters false 5 (fun _ => 9) register] := by
  obtain ⟨-, hmem⟩ := setGammaPreset_spec (memory_documented fun _ _ => True)
    (fun _ _ => trivial) (failsAt 31) { camera := .uniform 9 } true 5
  have hstart : memory.registers (Camera.uniform 9) = fun _ => 9 := Camera.get_uniform 9
  refine ⟨by decide, fun register => ?_⟩
  have hregister := hmem register trivial
  rwa [hstart] at hregister

end Ilumo.Zed
