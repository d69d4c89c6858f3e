import Ilumo.Control.Callbacks

/-!
# When the node object is destroyed

The finalizer stops an attribute `pwm_motor` that the constructor never sets, so it ends at its
first statement: the two motor channels, which are `pwm_motor1` and `pwm_motor2`, the lights and the
pins stay as the last request has left them.
-/

namespace Ilumo.Control

open Script

/-- The exception of reading an attribute that was never set. -/
structure AttributeError where
  name : String
  deriving DecidableEq, Repr

/-- The controller, and whether its pins have been released. -/
structure NodeObject where
  controller : PMWController
  pinsReleased : Bool := false

/-- The attributes that hold a PWM once the constructor has returned. -/
def pwmAttribute : String → Option Channel
  | "pwm_motor1" => some .pwmMotor1
  | "pwm_motor2" => some .pwmMotor2
  | "pwm_led" => some .pwmLed
  | _ => none

abbrev Finalizer := EStateM AttributeError NodeObject

def getattr (name : String) : Finalizer Channel :=
  match pwmAttribute name with
  | some channel => pure channel
  | none => throw ⟨name⟩

/-- `PWM.stop`. -/
def stop (channel : Channel) : Finalizer Unit :=
  modify fun node => { node with controller := { node.controller with
    running := Function.update node.controller.running channel false } }

/-- `GPIO.cleanup`. -/
def cleanup : Finalizer Unit := modify fun node => { node with pinsReleased := true }

/-- `__del__`. -/
def del : Finalizer Unit := do
  stop (← getattr "pwm_motor")
  stop (← getattr "pwm_led")
  cleanup

/-- The node object after a run of requests, ended or not by an exception, and its finalizer. -/
def destroyed (this : PMWController) (requests : List Request) : NodeObject :=
  final (del { controller := final (spin requests this) })

/-- Every channel has been stopped and the pins are released. -/
def TornDown (node : NodeObject) : Prop :=
  (∀ channel, node.controller.running channel = false) ∧ node.pinsReleased = true

/-- The channels the constructor has started are running. -/
def AllRunning (this : PMWController) : Prop := ∀ channel, this.running channel = true

theorem del_eq (node : NodeObject) : del node = .error ⟨"pwm_motor"⟩ node := rfl

/-- No callback starts or stops a channel. -/
theorem running_handle (request : Request) (this : PMWController) :
    (final (handle request this)).running = this.running := by
  cases request with
  | motor req =>
      rw [handle_motor]
      split_ifs
      all_goals rfl
  | led req =>
      rw [handle_led]
      split_ifs
      all_goals rfl

theorem allRunning_spin {this : PMWController} (h : AllRunning this) (requests : List Request) :
    AllRunning (final (spin requests this)) := by
  apply invariant_forM (I := AllRunning) _ h
  intro mid request hmid channel
  rw [running_handle]
  exact hmid channel

theorem allRunning_init {initialBrightness : ℤ} {this : PMWController}
    (h : init initialBrightness {} = .ok () this) : AllRunning this := by
  rw [eq_built_of_init h]
  intro channel
  cases channel <;> rfl

theorem destroyed_eq (this : PMWController) (requests : List Request) :
    destroyed this requests = { controller := final (spin requests this) } := by
  rw [destroyed, del_eq, final_error]

/-- Every channel that runs before the requests runs after the finalizer. -/
theorem not_tornDown_of_allRunning {this : PMWController} (h : AllRunning this)
    (requests : List Request) : ¬ TornDown (destroyed this requests) := by
  have hrunning := allRunning_spin h requests .pwmLed
  intro htorn
  have hstopped := htorn.1 .pwmLed
  rw [destroyed_eq, hrunning] at hstopped
  cases hstopped

/-- **The controller is never torn down.** After any successful construction and any requests, the
finalizer leaves channels running and the pins set up. -/
theorem not_tornDown {initialBrightness : ℤ} {this : PMWController}
    (hinit : init initialBrightness {} = .ok () this) (requests : List Request) :
    ¬ TornDown (destroyed this requests) :=
  not_tornDown_of_allRunning (allRunning_init hinit) requests

theorem not_tornDown_started : ¬ TornDown (destroyed started []) := not_tornDown init_started []

/-- A node that is destroyed without having had a request. -/
theorem started_not_tornDown :
    init 800 {} = .ok () started ∧ ¬ TornDown (destroyed started []) :=
  ⟨init_started, not_tornDown_of_allRunning (allRunning_init init_started) []⟩

end Ilumo.Control
