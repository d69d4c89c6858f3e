import Ilumo.Zed.Blocks

/-!
# The region of interest of the automatic exposure

A region takes eight registers. The low bytes of three of its four numbers are computed with the
high byte of the first one; no region is changed by it.
-/

namespace Ilumo.Zed

inductive CamSensPos where
  | left
  | right
  | last
  deriving DecidableEq, Repr

/-- `static_cast<uint8_t>` of an `int`. -/
def uint8 (v : Int) : UInt8 := .ofNat (v % 256).toNat

def roiAddr (side : CamSensPos) : UInt32 := if side = .right then 0x801818C0 else 0x801810C0

/-- The low bytes of `y`, `w` and `h` are computed with the high byte of `x`. -/
def roiBytes (x y w h : UInt16) : List UInt8 :=
  let x : Int := x.toNat
  let y : Int := y.toNat
  let w : Int := w.toNat
  let h : Int := h.toNat
  let xStartHigh := x / 256
  let xStartLow := x - xStartHigh * 256
  let yStartHigh := y / 256
  let yStartLow := y - xStartHigh * 256
  let wStartHigh := w / 256
  let wStartLow := w - xStartHigh * 256
  let hStartHigh := h / 256
  let hStartLow := h - xStartHigh * 256
  [uint8 xStartHigh, uint8 xStartLow, uint8 yStartHigh, uint8 yStartLow,
    uint8 wStartHigh, uint8 wStartLow, uint8 hStartHigh, uint8 hStartLow]

def setROIforAECAGC (mWidth mHeight : Nat) (side : CamSensPos) (x y w h : UInt16) : Control Bool :=
  if side ≠ .left ∧ side ≠ .right then return false
  else if w = 0 ∨ h = 0 then return false
  else if x.toNat + w.toNat > mWidth / 2 ∨ y.toNat + h.toNat > mHeight then return false
  else if w.toNat * h.toNat ≤ 100 then return false
  else do
    let r ← writeBlock (roiBytes x y w h) (roiAddr side)
    return r == 0

def uint16 (high low : UInt8) : UInt16 := .ofNat (high.toNat * 256 + low.toNat)

/-- The position and the size that eight bytes stand for. -/
def roiOf (values : List UInt8) : UInt16 × UInt16 × UInt16 × UInt16 :=
  let value (i : Nat) : UInt8 := values.getD i 0
  (uint16 (value 0) (value 1), uint16 (value 2) (value 3), uint16 (value 4) (value 5),
    uint16 (value 6) (value 7))

def getROIforAECAGC (side : CamSensPos) : Control (Bool × UInt16 × UInt16 × UInt16 × UInt16) := do
  let (r, values) ← readBlock 8 (roiAddr side)
  return (r == 0, roiOf values)

@[simp] theorem length_roiBytes (x y w h : UInt16) : (roiBytes x y w h).length = 8 := rfl

theorem uint8_low (y k : Int) : uint8 (y - k * 256) = uint8 y := by
  rw [uint8, uint8, Int.sub_mul_emod_self_right]

theorem uint16_bytes (v : UInt16) : uint16 (uint8 ((v.toNat : Int) / 256)) (uint8 v.toNat) = v := by
  apply UInt16.toNat_inj.mp
  have hv := v.toNat_lt
  simp only [uint16, uint8, UInt16.toNat_ofNat', UInt8.toNat_ofNat']
  omega

/-- Of a low byte only the last eight bits are kept, and there the wrong high byte is gone. -/
theorem roiOf_roiBytes (x y w h : UInt16) : roiOf (roiBytes x y w h) = (x, y, w, h) := by
  simp only [roiOf, roiBytes, uint8_low, List.getD_cons_zero, List.getD_cons_succ, uint16_bytes]

/-- The checks of a region. -/
def RoiValid (mWidth mHeight : Nat) (side : CamSensPos) (x y w h : UInt16) : Prop :=
  side ≠ .last ∧ x.toNat + w.toNat ≤ mWidth / 2 ∧ y.toNat + h.toNat ≤ mHeight ∧
    100 < w.toNat * h.toNat

instance (mWidth mHeight : Nat) (side : CamSensPos) (x y w h : UInt16) :
    Decidable (RoiValid mWidth mHeight side x y w h) :=
  inferInstanceAs (Decidable (_ ∧ _))

/-- A region without width or height is too small. -/
theorem setROIforAECAGC_eq (mWidth mHeight : Nat) (side : CamSensPos) (x y w h : UInt16) :
    setROIforAECAGC mWidth mHeight side x y w h =
      if RoiValid mWidth mHeight side x y w h then do
        let r ← writeBlock (roiBytes x y w h) (roiAddr side)
        return r == 0
      else return false := by
  have hside : (side ≠ .left ∧ side ≠ .right) ↔ side = .last := by cases side <;> decide
  have hempty (hw : w = 0 ∨ h = 0) : w.toNat * h.toNat = 0 := by
    rcases hw with rfl | rfl
    · exact Nat.zero_mul _
    · exact Nat.mul_zero _
  rw [setROIforAECAGC]
  split
  · rename_i hlast
    rw [if_neg fun hvalid => hvalid.1 (hside.mp hlast)]
  split
  · rename_i hw
    rw [if_neg fun hvalid => absurd hvalid.2.2.2 (by rw [hempty hw]; decide)]
  split
  · rename_i hsize
    rw [if_neg fun hvalid => absurd hsize (by have := hvalid.2.1; have := hvalid.2.2.1; omega)]
  split
  · rename_i harea
    rw [if_neg fun hvalid => absurd hvalid.2.2.2 (not_lt.mpr harea)]
  · rename_i hlast hw hsize harea
    rw [if_pos ⟨fun heq => hlast (hside.mpr heq), by omega, by omega, by omega⟩]

theorem setROIforAECAGC_within {reads : Register → Prop} (mWidth mHeight : Nat)
    (side : CamSensPos) (x y w h : UInt16) :
    (setROIforAECAGC mWidth mHeight side x y w h).Issues (Command.Within reads fun register =>
      RoiValid mWidth mHeight side x y w h ∧ block (roiAddr side) 8 register) := by
  rw [setROIforAECAGC_eq]
  by_cases hvalid : RoiValid mWidth mHeight side x y w h
  · rw [if_pos hvalid]
    have hblock : (writeBlock (roiBytes x y w h) (roiAddr side)).Issues
        (Command.Within reads (block (roiAddr side) 8)) :=
      writeBlock_within (roiBytes x y w h) (roiAddr side)
    refine Client.Issues.bind ?_ fun r => Client.issues_pure _
    exact hblock.mono fun command =>
      Command.Within.mono (fun _ => id) fun register hregister => ⟨hvalid, hregister⟩
  · rw [if_neg hvalid]
    exact Client.issues_pure _

theorem getROIforAECAGC_within {writes : Register → Prop} (side : CamSensPos) :
    (getROIforAECAGC side).Issues (Command.Within (block (roiAddr side) 8) writes) :=
  (readBlock_within 8 (roiAddr side)).bind fun _ => Client.issues_pure _

theorem setROIforAECAGC_run {mWidth mHeight : Nat} {side : CamSensPos} {x y w h : UInt16}
    (hvalid : RoiValid mWidth mHeight side x y w h) (camera : Camera) :
    (setROIforAECAGC mWidth mHeight side x y w h).run ideal camera =
      (true, { camera with
        system := overwrite camera.system (roiBytes x y w h) (roiAddr side) }) := by
  rw [setROIforAECAGC_eq, if_pos hvalid, Client.run_bind,
    writeBlock_run _ _ (by rw [length_roiBytes]; decide)]
  rfl

theorem getROIforAECAGC_run (side : CamSensPos) (camera : Camera) :
    (getROIforAECAGC side).run ideal camera =
      ((true, roiOf ((List.range 8).map fun i =>
        camera.get (.system (roiAddr side + UInt32.ofNat i)))), camera) := by
  rw [getROIforAECAGC, Client.run_bind, readBlock_run]
  rfl

theorem getROIforAECAGC_setROIforAECAGC {mWidth mHeight : Nat} {side : CamSensPos}
    {x y w h : UInt16} (hvalid : RoiValid mWidth mHeight side x y w h) (camera : Camera) :
    ((getROIforAECAGC side).run ideal
      ((setROIforAECAGC mWidth mHeight side x y w h).run ideal camera).2).1 =
        (true, x, y, w, h) := by
  have hbytes := map_overwrite camera.system (roiAddr side)
    (show (roiBytes x y w h).length ≤ 2 ^ 32 by rw [length_roiBytes]; decide)
  rw [length_roiBytes] at hbytes
  have hregion := roiOf_roiBytes x y w h
  rw [← hbytes] at hregion
  rw [getROIforAECAGC_run, setROIforAECAGC_run hvalid]
  exact congrArg (Prod.mk true) hregion

section Memory

variable (outcome : Nat → Outcome) (capture : VideoCapture Camera) {mWidth mHeight : Nat}
  {side : CamSensPos} {x y w h : UInt16}

theorem setROIforAECAGC_spec (hset :
    ((setROIforAECAGC mWidth mHeight side x y w h).run (handle memory outcome) capture).1 = true) :
    RoiValid mWidth mHeight side x y w h ∧
    ((setROIforAECAGC mWidth mHeight side x y w h).run (handle memory outcome)
      capture).2.camera.system =
        overwrite capture.camera.system (roiBytes x y w h) (roiAddr side) := by
  rw [setROIforAECAGC_eq] at hset ⊢
  by_cases hvalid : RoiValid mWidth mHeight side x y w h
  · rw [if_pos hvalid] at hset ⊢
    simp only [Client.run_bind, Client.run_pure, beq_iff_eq] at hset ⊢
    obtain ⟨-, hzero, -⟩ := writeBlock_spec outcome capture (roiBytes x y w h) (roiAddr side)
      (by rw [length_roiBytes]; decide)
    exact ⟨hvalid, hzero hset⟩
  · rw [if_neg hvalid, Client.run_pure] at hset
    exact nomatch hset

theorem getROIforAECAGC_spec (side : CamSensPos)
    (hget : ((getROIforAECAGC side).run (handle memory outcome) capture).1.1 = true) :
    ((getROIforAECAGC side).run (handle memory outcome) capture).1.2 =
      roiOf ((List.range 8).map fun i =>
        capture.camera.system (roiAddr side + UInt32.ofNat i)) := by
  obtain ⟨-, -, hvalues⟩ := readBlock_spec outcome capture 8 (roiAddr side) (by decide)
  simp only [getROIforAECAGC, Client.run_bind, Client.run_pure, beq_iff_eq] at hget ⊢
  exact congrArg roiOf (hvalues hget)

end Memory

theorem block_add_ofNat (address : UInt32) {n i : Nat} (hi : i < n) (hn : n ≤ 2 ^ 32) :
    block address n (.system (address + UInt32.ofNat i)) := by
  rw [block, toNat_add_ofNat_sub _ (by omega)]
  exact hi

section Roi

variable {δ : Type} {device : Device δ} {plain : Register → Prop} {mWidth mHeight : Nat}
  {side : CamSensPos} {x y w h : UInt16}

/-- **Region of interest.** If a region has been set successfully and is later read successfully,
with anything in between that does not write its registers, then it is the same region, and it lies
in the image: as long as these registers are always steady, and whichever calls fail. -/
theorem getROIforAECAGC_after_set {α : Type} {p : Control α}
    {roi : UInt16 × UInt16 × UInt16 × UInt16} (hdevice : device.Documented fun _ => plain)
    (hplain : ∀ register, block (roiAddr side) 8 register → plain register)
    (outcome : Nat → Outcome) (capture : VideoCapture δ)
    (hp : p.Issues (Command.Within (fun _ => True) fun register =>
      ¬ block (roiAddr side) 8 register))
    (hrun : ((do
      let set ← setROIforAECAGC mWidth mHeight side x y w h
      let _ ← p
      let (get, roi) ← getROIforAECAGC side
      return (set, get, roi) : Control _).run (handle device outcome) capture).1 =
        (true, true, roi)) :
    roi = (x, y, w, h) ∧ RoiValid mWidth mHeight side x y w h := by
  simp only [Client.run_bind, Client.run_pure, Prod.mk.injEq] at hrun
  obtain ⟨hset, hget, hroi⟩ := hrun
  obtain ⟨hresult, hmirrors⟩ := run_copy hdevice
    (setROIforAECAGC_within mWidth mHeight side x y w h) (fun _ => id) capture
  obtain ⟨hvalid, hsystem⟩ := setROIforAECAGC_spec outcome (capture.copy device) (hresult ▸ hset)
  generalize ((setROIforAECAGC mWidth mHeight side x y w h).run (handle device outcome) capture).2 =
    s at hmirrors hget hroi
  -- the registers are as they were when the region is read
  have hkeep : ∀ register, block (roiAddr side) 8 register →
      device.registers (p.run (handle device outcome) s).2.camera register =
        device.registers s.camera register := fun register hblock =>
    registers_run hdevice hp (hplain register hblock) (not_not.mpr hblock) s
  generalize (p.run (handle device outcome) s).2 = t at hkeep hget hroi
  have hreads : (getROIforAECAGC side).Issues (Command.Within (block (roiAddr side) 8) plain) :=
    getROIforAECAGC_within side
  obtain ⟨hread, -⟩ := run_copy hdevice hreads hplain t
  rw [hread] at hget hroi
  rw [getROIforAECAGC_spec outcome (t.copy device) side hget] at hroi
  have hbytes : ((List.range 8).map fun i =>
      (t.copy device).camera.system (roiAddr side + UInt32.ofNat i)) = roiBytes x y w h := by
    have hmap := map_overwrite (capture.copy device).camera.system (roiAddr side)
      (show (roiBytes x y w h).length ≤ 2 ^ 32 by rw [length_roiBytes]; decide)
    rw [length_roiBytes, ← hsystem] at hmap
    refine (List.map_congr_left fun i hi => ?_).trans hmap
    have hblock := block_add_ofNat (roiAddr side) (List.mem_range.mp hi) (by decide)
    exact (hkeep _ hblock).trans (hmirrors _ (hplain _ hblock))
  rw [hbytes, roiOf_roiBytes] at hroi
  exact ⟨hroi.symm, hvalid⟩

/-- The exposure is made automatic in between. -/
theorem getROIforAECAGC_after_set_left :
    ((do
      let set ← setROIforAECAGC 2560 720 .left 300 4 100 200
      let _ ← setAECAGC true
      let (get, roi) ← getROIforAECAGC .left
      return (set, get, roi) : Control _).run (handle memory fun _ => .ok)
        { camera := .uniform 0 }).1 = (true, true, 300, 4, 100, 200) ∧
      RoiValid 2560 720 .left 300 4 100 200 := by
  have hhealthy : Healthy (fun _ => .ok) ({ camera := .uniform 0 } : VideoCapture Camera) :=
    ⟨rfl, fun _ _ => rfl⟩
  have hvalid : RoiValid 2560 720 .left 300 4 100 200 := by decide
  have hp : (setAECAGC true).Issues (Command.Within (fun _ => True) fun register =>
      ¬ block (roiAddr .left) 8 register) := by
    refine (setAECAGC_within true).mono fun command => Command.Within.mono (fun _ _ => trivial) ?_
    rintro _ ⟨right, rfl⟩
    rw [block]
    cases right <;> decide
  have hrun : ((do
      let set ← setROIforAECAGC 2560 720 .left 300 4 100 200
      let _ ← setAECAGC true
      let (get, roi) ← getROIforAECAGC .left
      return (set, get, roi) : Control _).run (handle memory fun _ => .ok)
        { camera := .uniform 0 }).1 = (true, true, 300, 4, 100, 200) := by
    have hread := getROIforAECAGC_setROIforAECAGC hvalid (.uniform 0)
    have hreads : (getROIforAECAGC .left).Issues
        (Command.Within (block (roiAddr .left) 8) fun _ => False) := getROIforAECAGC_within .left
    rw [(run_of_healthy hhealthy _).1]
    simp only [Client.run_bind, Client.run_pure]
    rw [run_ideal_congr hreads fun register hblock => get_run_ideal hp (not_not.mpr hblock) _,
      hread, setROIforAECAGC_run hvalid]
  exact ⟨hrun, (getROIforAECAGC_after_set (memory_documented fun _ _ => True) (fun _ _ => trivial)
    _ _ hp hrun).2⟩

end Roi

end Ilumo.Zed
