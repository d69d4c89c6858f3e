import Ilumo.Zed.Command

/-!
# A camera that is memory

The buffers spell their commands without ambiguity (`parse_bytes`), so there is a camera whose
registers are all steady, and what a call does to it is what it does for the command. Any other
camera mirrors it in the registers that are steady: a client that reads no others gets the same
replies from both, and what it leaves is the same there.
-/

namespace Ilumo.Zed

open Bytes

namespace Command

/-- What the camera takes a buffer for. -/
def parse (buf : List UInt8) : Option Command :=
  let field (i : Nat) : UInt8 := buf.getD i 0
  let address := UInt32.ofNat (beValue [field 5, field 6, field 7, field 8])
  if field 0 = XU_TASK_GET then
    if field 1 = 0xA2 then some (readSystem address)
    else if field 1 = ASIC_INT_NULL_I2C then some (readSensor false (field 3 - 1) address)
    else if field 1 = ASIC_INT_I2C then some (readSensor true (field 3 - 1) address)
    else if field 1 = 0x13 then some (getGpioValue (field 2))
    else none
  else if field 0 = XU_TASK_SET then
    if field 1 = 0xA2 then some (writeSystem address (field 16))
    else if field 1 = ASIC_INT_NULL_I2C then
      some (writeSensor false (field 3 - 1) address (field 16))
    else if field 1 = ASIC_INT_I2C then some (writeSensor true (field 3 - 1) address (field 16))
    else if field 1 = 0x12 then some (setGpioValue (field 2) (field 3))
    else if field 1 = 0x10 then some (setGpioDirection (field 2) (field 3))
    else none
  else none

theorem beValue_addressBytes (address : UInt32) :
    UInt32.ofNat (beValue (addressBytes address)) = address := by
  apply UInt32.toNat_inj.mp
  have hlt := address.toNat_lt
  simp only [addressBytes, beValue, List.reverse_cons, List.reverse_nil, List.nil_append,
    List.cons_append, leValue, UInt32.toNat_toUInt8, UInt32.toNat_shiftRight,
    Nat.shiftRight_eq_div_pow, UInt32.toNat_ofNat']
  simp
  omega

/-- No two commands have the same buffer. -/
theorem parse_bytes (command : Command) : parse command.bytes = some command := by
  have hwidth (sscbId : UInt8) : sscbId + 1 - 1 = sscbId := by simp
  cases command with
  | readSystem address =>
      show some (readSystem (.ofNat (beValue (addressBytes address)))) = _
      rw [beValue_addressBytes]
  | writeSystem address value =>
      show some (writeSystem (.ofNat (beValue (addressBytes address))) value) = _
      rw [beValue_addressBytes]
  | readSensor right sscbId address =>
      cases right with
      | false =>
          show some (readSensor false (sscbId + 1 - 1) (.ofNat (beValue (addressBytes address)))) = _
          rw [hwidth, beValue_addressBytes]
      | true =>
          show some (readSensor true (sscbId + 1 - 1) (.ofNat (beValue (addressBytes address)))) = _
          rw [hwidth, beValue_addressBytes]
  | writeSensor right sscbId address value =>
      cases right with
      | false =>
          show some (writeSensor false (sscbId + 1 - 1) (.ofNat (beValue (addressBytes address)))
            value) = _
          rw [hwidth, beValue_addressBytes]
      | true =>
          show some (writeSensor true (sscbId + 1 - 1) (.ofNat (beValue (addressBytes address)))
            value) = _
          rw [hwidth, beValue_addressBytes]
  | getGpioValue number => rfl
  | setGpioValue number value => rfl
  | setGpioDirection number direction => rfl

end Command

/-- The registers of the ISP, of the two sensors, and the pins. -/
structure Camera where
  system : UInt32 → UInt8
  sensor : Bool → UInt32 → UInt8
  gpioValue : UInt8 → UInt8
  gpioDirection : UInt8 → UInt8

namespace Camera

def setSystem (camera : Camera) (address : UInt32) (value : UInt8) : Camera :=
  { camera with system := Function.update camera.system address value }

def setSensor (camera : Camera) (right : Bool) (address : UInt32) (value : UInt8) : Camera :=
  let registers := Function.update (camera.sensor right) address value
  { camera with sensor := Function.update camera.sensor right registers }

def get (camera : Camera) : Register → UInt8
  | .system address => camera.system address
  | .sensor right address => camera.sensor right address
  | .gpioValue number => camera.gpioValue number
  | .gpioDirection number => camera.gpioDirection number

def ofRegisters (registers : Register → UInt8) : Camera where
  system address := registers (.system address)
  sensor right address := registers (.sensor right address)
  gpioValue number := registers (.gpioValue number)
  gpioDirection number := registers (.gpioDirection number)

@[simp] theorem get_ofRegisters (registers : Register → UInt8) :
    (ofRegisters registers).get = registers := by
  funext register
  cases register <;> rfl

theorem system_setSystem (camera : Camera) (address : UInt32) (value : UInt8) (other : UInt32) :
    (camera.setSystem address value).system other =
      if other = address then value else camera.system other :=
  Function.update_apply _ _ _ _

/-- What a command reads, and what it leaves. -/
def execute (camera : Camera) : Command → UInt8 × Camera
  | .readSystem address => (camera.system address, camera)
  | .writeSystem address value => (0, camera.setSystem address value)
  | .readSensor right _ address => (camera.sensor right address, camera)
  | .writeSensor right _ address value => (0, camera.setSensor right address value)
  | .getGpioValue number => (camera.gpioValue number, camera)
  | .setGpioValue number value =>
      (0, { camera with gpioValue := Function.update camera.gpioValue number value })
  | .setGpioDirection number direction =>
      (0, { camera with gpioDirection := Function.update camera.gpioDirection number direction })

theorem get_setSensor (camera : Camera) (right : Bool) (address : UInt32) (value : UInt8)
    (register : Register) :
    (camera.setSensor right address value).get register =
      if register = .sensor right address then value else camera.get register := by
  cases register with
  | sensor side other =>
      simp only [get, setSensor, Register.sensor.injEq]
      by_cases hside : side = right
      · subst hside
        simp only [Function.update_self, Function.update_apply, true_and]
      · rw [Function.update_of_ne hside, if_neg (fun heq => hside heq.1)]
  | _ => rfl

/-- A command stores what it writes. -/
theorem get_execute (camera : Camera) (command : Command) :
    (camera.execute command).2.get = command.store camera.get := by
  funext register
  cases command with
  | writeSystem address value =>
      cases register with
      | system other =>
          simp [execute, setSystem, get, Command.store, Command.target, Function.update_apply]
      | _ => rfl
  | writeSensor right sscbId address value =>
      exact (get_setSensor camera right address value register).trans
        (Function.update_apply _ _ _ _).symm
  | setGpioValue number value =>
      cases register with
      | gpioValue other =>
          simp [execute, get, Command.store, Command.target, Function.update_apply]
      | _ => rfl
  | setGpioDirection number direction =>
      cases register with
      | gpioDirection other =>
          simp [execute, get, Command.store, Command.target, Function.update_apply]
      | _ => rfl
  | _ => rfl

theorem execute_of_reads (camera : Camera) {command : Command} (h : command.reads = true) :
    (camera.execute command).2 = camera := by
  cases command <;> first | rfl | exact nomatch h

theorem execute_of_not_reads (camera : Camera) {command : Command} (h : command.reads = false) :
    (camera.execute command).1 = 0 := by
  cases command <;> first | rfl | exact nomatch h

theorem execute_of_source (camera : Camera) {command : Command} {register : Register}
    (h : command.source = some register) :
    (camera.execute command).1 = camera.get register := by
  cases command with
  | readSystem address =>
      cases Option.some_inj.mp h
      rfl
  | readSensor right sscbId address =>
      cases Option.some_inj.mp h
      rfl
  | getGpioValue number =>
      cases Option.some_inj.mp h
      rfl
  | _ => cases h

end Camera

/-- All registers contain the value. -/
def Camera.uniform (value : UInt8) : Camera :=
  ⟨fun _ => value, fun _ _ => value, fun _ => value, fun _ => value⟩

theorem Camera.get_uniform (value : UInt8) : (Camera.uniform value).get = fun _ => value := by
  funext register
  cases register <;> rfl

def memory : Device Camera where
  respond camera buf :=
    match Command.parse buf with
    | none => (0, camera)
    | some command => camera.execute command
  registers := Camera.get

theorem memory_respond (camera : Camera) (command : Command) :
    memory.respond camera command.bytes = camera.execute command := by
  simp only [memory, Command.parse_bytes]

theorem memory_documented (steady : (Register → UInt8) → Register → Prop) :
    memory.Documented steady where
  answers camera command register hsource _ := by
    rw [memory_respond]
    exact camera.execute_of_source hsource
  stores camera command register _ _ := by
    rw [memory_respond]
    exact congrFun (camera.get_execute command) register

section Calls

variable (outcome : Nat → Outcome) (capture : VideoCapture Camera)

/-- A call either does what the camera does for the command, or it fails, has done nothing and has
read a zero. -/
theorem handle_memory (command : Command) :
    (handle memory outcome capture command).1.1 = 0 ∧
        (handle memory outcome capture command).1.2 = (capture.camera.execute command).1 ∧
        (handle memory outcome capture command).2.camera = (capture.camera.execute command).2 ∨
      (handle memory outcome capture command).1.1 < 0 ∧
        (handle memory outcome capture command).1.2 = 0 ∧
        (handle memory outcome capture command).2.camera = capture.camera := by
  have hspec := handle_spec memory outcome capture command
  rw [memory_respond] at hspec
  obtain ⟨hreply, hcamera⟩ | ⟨⟨hhr, hvalue⟩, hcamera | ⟨hreads, hcamera⟩⟩ := hspec
  · refine .inl ⟨by rw [hreply], ?_, hcamera⟩
    rw [hreply]
    cases hreads : command.reads with
    | true => rfl
    | false => exact (capture.camera.execute_of_not_reads hreads).symm
  · exact .inr ⟨hhr, hvalue, hcamera⟩
  · exact .inr ⟨hhr, hvalue, hcamera.trans (capture.camera.execute_of_reads hreads)⟩

/-! ### A camera whose calls succeed -/

def ideal (camera : Camera) (command : Command) : (Int × UInt8) × Camera :=
  ((0, (camera.execute command).1), (camera.execute command).2)

/-- What a client returns depends on the registers that it reads. -/
theorem run_ideal_congr {α : Type} {reads writes : Register → Prop}
    {p : Client Command (Int × UInt8) α} (hp : p.Issues (Command.Within reads writes))
    {camera camera' : Camera} (h : ∀ register, reads register →
      camera.get register = camera'.get register) :
    (p.run ideal camera).1 = (p.run ideal camera').1 := by
  refine (hp.run_simulation (R := fun camera camera' => ∀ register, reads register →
    camera.get register = camera'.get register) ?_ h).1
  intro camera camera' command hwithin h
  refine ⟨Prod.ext rfl ?_, fun register hregister => ?_⟩
  · show (camera.execute command).1 = (camera'.execute command).1
    cases hreads : command.reads with
    | false => rw [Camera.execute_of_not_reads _ hreads, Camera.execute_of_not_reads _ hreads]
    | true =>
        obtain ⟨register, hsource⟩ := Command.exists_source hreads
        rw [Camera.execute_of_source _ hsource, Camera.execute_of_source _ hsource]
        exact h register (hwithin.1 register hsource)
  · show (camera.execute command).2.get register = (camera'.execute command).2.get register
    rw [Camera.get_execute, Camera.get_execute]
    exact Command.store_congr (h register hregister)

theorem get_run_ideal {α : Type} {reads writes : Register → Prop} {register : Register}
    {p : Client Command (Int × UInt8) α} (hp : p.Issues (Command.Within reads writes))
    (hregister : ¬ writes register) (camera : Camera) :
    (p.run ideal camera).2.get register = camera.get register :=
  hp.run_eq (fun camera => camera.get register)
    (fun camera command hwithin =>
      (congrFun (camera.get_execute command) register).trans
        (Command.store_of_within hwithin hregister)) camera

variable {outcome capture}

theorem handle_memory_of_healthy (h : Healthy outcome capture) (command : Command) :
    (handle memory outcome capture command).1 = (ideal capture.camera command).1 ∧
      (handle memory outcome capture command).2.camera = (ideal capture.camera command).2 ∧
      Healthy outcome (handle memory outcome capture command).2 := by
  obtain ⟨hzero, hnext⟩ := handle_of_healthy memory outcome h command
  obtain ⟨-, hvalue, hcamera⟩ | ⟨hhr, -, -⟩ := handle_memory outcome capture command
  · exact ⟨Prod.ext hzero hvalue, hcamera, hnext⟩
  · exact absurd hzero hhr.ne

theorem run_of_healthy {α : Type} (h : Healthy outcome capture)
    (p : Client Command (Int × UInt8) α) :
    (p.run (handle memory outcome) capture).1 = (p.run ideal capture.camera).1 ∧
      (p.run (handle memory outcome) capture).2.camera = (p.run ideal capture.camera).2 ∧
      Healthy outcome (p.run (handle memory outcome) capture).2 := by
  refine (Client.issues_of_forall (P := fun _ => True) (fun _ => trivial) p).run_simulation
    (R := fun s camera => s.camera = camera ∧ Healthy outcome s) ?_ ⟨rfl, h⟩
  rintro s camera command - ⟨rfl, hs⟩
  exact handle_memory_of_healthy hs command

end Calls

/-! ### A camera that mirrors memory -/

section Mirrors

variable {δ : Type} (device : Device δ)

/-- The camera contains in the registers what the memory contains there. -/
def Mirrors (kept : Register → Prop) (camera : δ) (copy : Camera) : Prop :=
  ∀ register, kept register → device.registers camera register = copy.get register

/-- The memory that contains what the camera contains. -/
def VideoCapture.copy (capture : VideoCapture δ) : VideoCapture Camera where
  camera := .ofRegisters (device.registers capture.camera)
  initialized := capture.initialized
  calls := capture.calls

theorem get_copy (capture : VideoCapture δ) :
    (capture.copy device).camera.get = device.registers capture.camera :=
  Camera.get_ofRegisters _

variable {device} {outcome : Nat → Outcome} {steady : (Register → UInt8) → Register → Prop}
  {kept : Register → Prop}

/-- As long as an invariant of the camera keeps the registers steady, a client that reads no others
cannot tell the camera from the memory that it mirrors. -/
theorem run_mirrors {α : Type} (hdevice : device.Documented steady) {Inv : δ → Prop}
    {P : Command → Prop}
    (hsteady : ∀ camera register, Inv camera → kept register →
      steady (device.registers camera) register)
    (hinv : ∀ camera command, P command → Inv camera → Inv (device.respond camera command.bytes).2)
    (hreads : ∀ command register, P command → command.source = some register → kept register)
    {p : Client Command (Int × UInt8) α} (hp : p.Issues P) {s : VideoCapture δ}
    {t : VideoCapture Camera}
    (hst : s.Related (fun camera copy => Inv camera ∧ Mirrors device kept camera copy) t) :
    (p.run (handle device outcome) s).1 = (p.run (handle memory outcome) t).1 ∧
      (p.run (handle device outcome) s).2.Related
        (fun camera copy => Inv camera ∧ Mirrors device kept camera copy)
        (p.run (handle memory outcome) t).2 := by
  refine hp.run_simulation ?_ hst
  intro s t command hcommand hst
  obtain ⟨hbefore, hmirrors⟩ := hst.camera
  have hafter := hinv s.camera command hcommand hbefore
  refine handle_related outcome hst (fun hread => ?_) ⟨hafter, fun register hregister => ?_⟩
  · obtain ⟨register, hsource⟩ := Command.exists_source hread
    have hregister := hreads command register hcommand hsource
    rw [hdevice.answers s.camera command register hsource (hsteady _ _ hbefore hregister),
      memory_respond, Camera.execute_of_source _ hsource]
    exact hmirrors register hregister
  · rw [hdevice.stores s.camera command register (hsteady _ _ hbefore hregister)
      (hsteady _ _ hafter hregister), memory_respond, Camera.get_execute]
    exact Command.store_congr (hmirrors register hregister)

variable {plain reads writes : Register → Prop} {α : Type} {p : Client Command (Int × UInt8) α}

/-- The special case that the registers are always steady. -/
theorem run_copy (hdevice : device.Documented fun _ => plain)
    (hp : p.Issues (Command.Within reads writes))
    (hreads : ∀ register, reads register → plain register) (s : VideoCapture δ) :
    (p.run (handle device outcome) s).1 = (p.run (handle memory outcome) (s.copy device)).1 ∧
      ∀ register, plain register →
        device.registers (p.run (handle device outcome) s).2.camera register =
          (p.run (handle memory outcome) (s.copy device)).2.camera.get register := by
  have hstart : s.Related (fun camera copy => True ∧ Mirrors device plain camera copy)
      (s.copy device) := by
    refine ⟨⟨trivial, fun register _ => ?_⟩, rfl, rfl⟩
    rw [get_copy]
  obtain ⟨hresult, hlast⟩ := run_mirrors hdevice (fun _ _ _ hregister => hregister)
    (fun _ _ _ _ => trivial)
    (fun command register hwithin hsource => hreads _ (hwithin.1 register hsource)) hp hstart
  exact ⟨hresult, hlast.camera.2⟩

theorem run_copy_of_healthy (hdevice : device.Documented fun _ => plain)
    (hp : p.Issues (Command.Within reads writes))
    (hreads : ∀ register, reads register → plain register) {s : VideoCapture δ}
    (hs : Healthy outcome s) :
    (p.run (handle device outcome) s).1 = (p.run ideal (s.copy device).camera).1 ∧
      ∀ register, plain register →
        device.registers (p.run (handle device outcome) s).2.camera register =
          (p.run ideal (s.copy device).camera).2.get register := by
  have hcopy : Healthy outcome (s.copy device) := hs
  obtain ⟨hresult, hlast⟩ := run_copy hdevice hp hreads s
  obtain ⟨hideal, hcamera, -⟩ := run_of_healthy hcopy p
  rw [hideal] at hresult
  rw [hcamera] at hlast
  exact ⟨hresult, hlast⟩

theorem run_healthy (p : Client Command (Int × UInt8) α) {s : VideoCapture δ}
    (hs : Healthy outcome s) : Healthy outcome (p.run (handle device outcome) s).2 := by
  have hstep (s : VideoCapture δ) (command : Command) (h : Healthy outcome s) :
      Healthy outcome (handle device outcome s command).2 :=
    (handle_of_healthy device outcome h command).2
  exact p.run_invariant hstep hs

/-- **Frame rule.** A register that is always steady and is not written is as it was. -/
theorem registers_run (hdevice : device.Documented fun _ => plain)
    (hp : p.Issues (Command.Within reads writes)) {register : Register} (hplain : plain register)
    (hregister : ¬ writes register) (s : VideoCapture δ) :
    device.registers (p.run (handle device outcome) s).2.camera register =
      device.registers s.camera register := by
  refine hp.run_eq (fun s => device.registers s.camera register) (fun s command hwithin => ?_) s
  have hstore : device.registers (device.respond s.camera command.bytes).2 register =
      device.registers s.camera register :=
    (hdevice.stores s.camera command register hplain hplain).trans
      (Command.store_of_within hwithin hregister)
  obtain ⟨-, hcamera⟩ | ⟨-, hcamera | ⟨-, hcamera⟩⟩ := handle_spec device outcome s command
  · rw [hcamera, hstore]
  · rw [hcamera]
  · rw [hcamera, hstore]

end Mirrors

end Ilumo.Zed
