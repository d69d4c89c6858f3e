import Ilumo.Lib.Bytes
import Ilumo.Lib.Client
import Mathlib.Logic.Function.Basic

/-!
# Commands to the stereo camera

The `ll_` functions fill a buffer, hand it to the extension unit of the camera with
`ll_VendorControl` and take the answer out of byte 17. The camera is a parameter. Some of its
registers are relied on as steady: as long as they are, they are read and written like memory. Any
call may fail; which ones do is a parameter too.
-/

namespace Ilumo.Zed

open Bytes

inductive Command where
  | readSystem (address : UInt32)
  | writeSystem (address : UInt32) (value : UInt8)
  | readSensor (right : Bool) (sscbId : UInt8) (address : UInt32)
  | writeSensor (right : Bool) (sscbId : UInt8) (address : UInt32) (value : UInt8)
  | getGpioValue (number : UInt8)
  | setGpioValue (number value : UInt8)
  | setGpioDirection (number direction : UInt8)
  deriving DecidableEq, Repr

inductive Register where
  | system (address : UInt32)
  | sensor (right : Bool) (address : UInt32)
  | gpioValue (number : UInt8)
  | gpioDirection (number : UInt8)
  deriving DecidableEq, Repr

namespace Command

def XU_TASK_SET : UInt8 := 0x50

def XU_TASK_GET : UInt8 := 0x51

def ASIC_INT_NULL_I2C : UInt8 := 0xa3

def ASIC_INT_I2C : UInt8 := 0xa5

/-- A buffer of zeros of which the first bytes have been set. -/
def xuBuf (size : Nat) (bytes : List UInt8) : List UInt8 :=
  bytes ++ List.replicate (size - bytes.length) 0

def addressBytes (address : UInt32) : List UInt8 :=
  [(address >>> 24).toUInt8, (address >>> 16).toUInt8, (address >>> 8).toUInt8, address.toUInt8]

def i2c (right : Bool) : UInt8 := if right then ASIC_INT_I2C else ASIC_INT_NULL_I2C

/-- `xu_buf`, when it is handed to `ll_VendorControl`. -/
def bytes : Command → List UInt8
  | readSystem address =>
      xuBuf 384 ([XU_TASK_GET, 0xA2, 0, 0x04, 0x01] ++ addressBytes address ++
        [0x00, 0x01, 0x00, 0x01])
  | writeSystem address value =>
      xuBuf 384 ([XU_TASK_SET, 0xA2, 0, 0x04, 0x01] ++ addressBytes address ++
        [0x00, 0x01, 0x00, 0x01, 0, 0, 0, value])
  | readSensor right sscbId address =>
      xuBuf 384 ([XU_TASK_GET, i2c right, 0x6c, sscbId + 1, 0x01] ++ addressBytes address ++
        [0x90, 0x01, 0x00, 0x01])
  | writeSensor right sscbId address value =>
      xuBuf 384 ([XU_TASK_SET, i2c right, 0x6c, sscbId + 1, 0x01] ++ addressBytes address ++
        [0x90, 0x01, 0x00, 0x01, 0, 0, 0, value])
  | getGpioValue number => xuBuf 384 [XU_TASK_GET, 0x13, number]
  | setGpioValue number value => xuBuf 64 [XU_TASK_SET, 0x12, number, value]
  | setGpioDirection number direction => xuBuf 64 [XU_TASK_SET, 0x10, number, direction]

/-- `READ_MODE`. -/
def reads : Command → Bool
  | readSystem _ => true
  | readSensor _ _ _ => true
  | getGpioValue _ => true
  | _ => false

theorem length_bytes (command : Command) : 17 < command.bytes.length := by
  have hsize (size : Nat) {bytes : List UInt8} (hbytes : bytes.length ≤ size) (h : 17 < size) :
      17 < (xuBuf size bytes).length := by
    rw [xuBuf, List.length_append, List.length_replicate]
    omega
  cases command <;> exact hsize _ (by simp [addressBytes]) (by decide)

theorem bytes_seventeen (command : Command) : command.bytes.getD 17 0 = 0 := by
  cases command <;> rfl

def source : Command → Option Register
  | readSystem address => some (.system address)
  | readSensor right _ address => some (.sensor right address)
  | getGpioValue number => some (.gpioValue number)
  | _ => none

def target : Command → Option (Register × UInt8)
  | writeSystem address value => some (.system address, value)
  | writeSensor right _ address value => some (.sensor right address, value)
  | setGpioValue number value => some (.gpioValue number, value)
  | setGpioDirection number direction => some (.gpioDirection number, direction)
  | _ => none

theorem exists_source {command : Command} (h : command.reads = true) :
    ∃ register, command.source = some register := by
  cases command <;> first | exact ⟨_, rfl⟩ | exact nomatch h

/-- What a write leaves in the registers. -/
def store (command : Command) (registers : Register → UInt8) : Register → UInt8 :=
  match command.target with
  | some (register, value) => Function.update registers register value
  | none => registers

/-- All that is read and written lies in the two footprints. -/
def Within (reads writes : Register → Prop) (command : Command) : Prop :=
  (∀ register, command.source = some register → reads register) ∧
    ∀ register value, command.target = some (register, value) → writes register

section Footprint

variable {reads reads' writes writes' : Register → Prop} {command : Command}

theorem Within.mono (hreads : ∀ register, reads register → reads' register)
    (hwrites : ∀ register, writes register → writes' register) (h : command.Within reads writes) :
    command.Within reads' writes' :=
  ⟨fun register hsource => hreads register (h.1 register hsource),
    fun register value htarget => hwrites register (h.2 register value htarget)⟩

theorem store_of_within {registers : Register → UInt8} {register : Register}
    (h : command.Within reads writes) (hregister : ¬ writes register) :
    command.store registers register = registers register := by
  rw [store]
  cases htarget : command.target with
  | none => rfl
  | some written =>
      have hne : register ≠ written.1 := fun heq => hregister (heq ▸ h.2 _ _ htarget)
      exact Function.update_of_ne hne _ _

/-- What a write leaves in a register depends on that register only. -/
theorem store_congr {registers registers' : Register → UInt8} {register : Register}
    (h : registers register = registers' register) :
    command.store registers register = command.store registers' register := by
  rw [store, store]
  cases command.target with
  | none => exact h
  | some written => simp only [Function.update_apply, h]

end Footprint

end Command

/-! ### The camera and the calls -/

/-- What a camera answers to a buffer, and what its registers contain. -/
structure Device (δ : Type) where
  respond : δ → List UInt8 → UInt8 × δ
  registers : δ → Register → UInt8

variable {δ ε : Type}

/-- A register that is steady is answered as it is, and one that is steady before and after a
command contains what the command has stored. Which registers are steady may depend on what they
contain; about the others nothing is said. -/
structure Device.Documented (device : Device δ)
    (steady : (Register → UInt8) → Register → Prop) : Prop where
  answers : ∀ camera (command : Command) register, command.source = some register →
    steady (device.registers camera) register →
      (device.respond camera command.bytes).1 = device.registers camera register
  stores : ∀ camera (command : Command) register, steady (device.registers camera) register →
    steady (device.registers (device.respond camera command.bytes).2) register →
      device.registers (device.respond camera command.bytes).2 register =
        command.store (device.registers camera) register

theorem Device.Documented.mono {device : Device δ}
    {steady steady' : (Register → UInt8) → Register → Prop} (h : device.Documented steady)
    (hle : ∀ registers register, steady' registers register → steady registers register) :
    device.Documented steady' where
  answers camera command register hsource hsteady :=
    h.answers camera command register hsource (hle _ _ hsteady)
  stores camera command register hbefore hafter :=
    h.stores camera command register (hle _ _ hbefore) (hle _ _ hafter)

/-- The `ioctl` of a call that fails, if any. -/
inductive Outcome where
  | ok
  | getLenFails
  | setCurFails
  | getCurFails
  deriving DecidableEq, Repr

/-- Only one call fails. -/
def failsAt (call : Nat) (n : Nat) : Outcome := if n = call then .getCurFails else .ok

structure VideoCapture (δ : Type) where
  camera : δ
  initialized : Bool := true
  calls : Nat := 0

variable (device : Device δ) (outcome : Nat → Outcome)

/-- All buffers have at most 384 bytes. -/
def llVendorControl (capture : VideoCapture δ) (buf : List UInt8) (readMode : Bool) :
    (Int × List UInt8) × VideoCapture δ :=
  if !capture.initialized then ((-3, buf), capture)
  else
    let next := { capture with calls := capture.calls + 1 }
    match outcome capture.calls with
    | .getLenFails => ((-4, buf), next)
    | .setCurFails => ((-1, buf), next)
    | last =>
        let (value, camera) := device.respond capture.camera buf
        let next := { next with camera }
        if readMode then
          if last = .getCurFails then ((-1, buf), next) else ((0, buf.set 17 value), next)
        else ((0, buf), next)

/-- An `ll_` function: the result of the call and byte 17 of the buffer. -/
def handle (capture : VideoCapture δ) (command : Command) : (Int × UInt8) × VideoCapture δ :=
  let ((hr, buf), next) := llVendorControl device outcome capture command.bytes command.reads
  ((hr, buf.getD 17 0), next)

/-- The camera has been initialized and no further call fails. -/
def Healthy (capture : VideoCapture δ) : Prop :=
  capture.initialized = true ∧ ∀ n, capture.calls ≤ n → outcome n = .ok

/-- A call has reached the camera or has left it alone, and a read that fails has read a zero. -/
theorem handle_spec (capture : VideoCapture δ) (command : Command) :
    (handle device outcome capture command).1 =
          (0, if command.reads then (device.respond capture.camera command.bytes).1 else 0) ∧
        (handle device outcome capture command).2.camera =
          (device.respond capture.camera command.bytes).2 ∨
      ((handle device outcome capture command).1.1 < 0 ∧
        (handle device outcome capture command).1.2 = 0) ∧
        ((handle device outcome capture command).2.camera = capture.camera ∨
          command.reads = true ∧ (handle device outcome capture command).2.camera =
            (device.respond capture.camera command.bytes).2) := by
  have hzero := command.bytes_seventeen
  rw [handle, llVendorControl]
  cases capture.initialized with
  | false => exact .inr ⟨⟨show (-3 : Int) < 0 by decide, hzero⟩, .inl rfl⟩
  | true =>
      cases outcome capture.calls with
      | getLenFails => exact .inr ⟨⟨show (-4 : Int) < 0 by decide, hzero⟩, .inl rfl⟩
      | setCurFails => exact .inr ⟨⟨show (-1 : Int) < 0 by decide, hzero⟩, .inl rfl⟩
      | ok =>
          refine .inl ?_
          cases command.reads with
          | false => exact ⟨Prod.ext rfl hzero, rfl⟩
          | true =>
              refine ⟨Prod.ext rfl ?_, rfl⟩
              show (command.bytes.set 17 _).getD 17 0 = _
              rw [List.getD_eq_getElem?_getD, List.getElem?_set_self command.length_bytes]
              rfl
      | getCurFails =>
          cases command.reads with
          | false => exact .inl ⟨Prod.ext rfl hzero, rfl⟩
          | true => exact .inr ⟨⟨show (-1 : Int) < 0 by decide, hzero⟩, .inr ⟨rfl, rfl⟩⟩

theorem handle_of_healthy {capture : VideoCapture δ} (h : Healthy outcome capture)
    (command : Command) :
    (handle device outcome capture command).1.1 = 0 ∧
      Healthy outcome (handle device outcome capture command).2 := by
  simp only [handle, llVendorControl, h.1, h.2 _ le_rfl]
  have hlater : ∀ n, capture.calls + 1 ≤ n → outcome n = .ok := fun n hn => h.2 n (by omega)
  cases command.reads with
  | false => exact ⟨rfl, rfl, hlater⟩
  | true => exact ⟨rfl, rfl, hlater⟩

/-! ### Two cameras -/

structure VideoCapture.Related (R : δ → ε → Prop) (s : VideoCapture δ) (t : VideoCapture ε) :
    Prop where
  camera : R s.camera t.camera
  initialized : s.initialized = t.initialized
  calls : s.calls = t.calls

/-- When two cameras answer a command alike, the calls fail alike too. -/
theorem handle_related {device : Device δ} {device' : Device ε} {R : δ → ε → Prop}
    {s : VideoCapture δ} {t : VideoCapture ε} (h : s.Related R t) {command : Command}
    (hreply : command.reads = true → (device.respond s.camera command.bytes).1 =
      (device'.respond t.camera command.bytes).1)
    (hnext : R (device.respond s.camera command.bytes).2
      (device'.respond t.camera command.bytes).2) :
    (handle device outcome s command).1 = (handle device' outcome t command).1 ∧
      (handle device outcome s command).2.Related R (handle device' outcome t command).2 := by
  obtain ⟨camera, initialized, calls⟩ := s
  obtain ⟨camera', initialized', calls'⟩ := t
  obtain ⟨hcamera, rfl, rfl⟩ := h
  simp only [handle, llVendorControl]
  cases initialized with
  | false => exact ⟨rfl, hcamera, rfl, rfl⟩
  | true =>
      cases outcome calls with
      | getLenFails => exact ⟨rfl, hcamera, rfl, rfl⟩
      | setCurFails => exact ⟨rfl, hcamera, rfl, rfl⟩
      | ok =>
          cases hreads : command.reads with
          | false => exact ⟨rfl, hnext, rfl, rfl⟩
          | true =>
              simp only [hreply hreads]
              exact ⟨rfl, hnext, rfl, rfl⟩
      | getCurFails =>
          cases command.reads with
          | false => exact ⟨rfl, hnext, rfl, rfl⟩
          | true => exact ⟨rfl, hnext, rfl, rfl⟩

end Ilumo.Zed
