import Ilumo.Ros.Messages

/-!
# What the scanner sends

The protobuf messages of `blickfeld/protocol/data`. Every scalar field is optional on the wire; its
accessor gives the default `0` when the field is absent. A repeated field is read by position, and
reading past its end is a fault.
-/

namespace Ilumo.Lidar

/-- What ends a callback without a defined result: an access outside the object it is made on, or an
`int` that leaves its range. -/
inductive Fault where
  | elementOutOfRange (index : Nat)
  | fieldOutOfRange (name : String)
  | writeOutOfRange (start size : Nat)
  | intOverflow
  deriving DecidableEq, Repr

def element {α : Type} (values : List α) (index : Nat) : Except Fault α :=
  match values[index]? with
  | some value => .ok value
  | none => .error (.elementOutOfRange index)

theorem bind_eq_ok {α β : Type} {x : Except Fault α} {f : α → Except Fault β} {b : β} :
    x >>= f = .ok b ↔ ∃ a, x = .ok a ∧ f a = .ok b := by
  cases x with
  | error fault => simp [bind, Except.bind]
  | ok a => simp [bind, Except.bind]

@[simp] theorem ok_bind {α β : Type} (a : α) (f : α → Except Fault β) :
    (Except.ok a : Except Fault α) >>= f = f a :=
  rfl

theorem mapM_eq_ok {α β : Type} {f : α → Except Fault β} {xs : List α} {ys : List β} :
    xs.mapM f = .ok ys ↔ List.Forall₂ (fun x y => f x = .ok y) xs ys := by
  induction xs generalizing ys with
  | nil => simp [pure, Except.pure, eq_comm]
  | cons x xs ih =>
      simp only [List.mapM_cons, bind_eq_ok, ih, List.forall₂_cons_left_iff]
      refine ⟨?_, ?_⟩
      · intro h
        obtain ⟨y, hy, rest, hrest, hys⟩ := h
        exact ⟨y, rest, hy, hrest, (Except.ok.inj hys).symm⟩
      · intro h
        obtain ⟨y, rest, hy, hrest, rfl⟩ := h
        exact ⟨y, hy, rest, hrest, rfl⟩

theorem element_eq_ok {α : Type} {values : List α} {index : Nat} {value : α} :
    element values index = .ok value ↔ values[index]? = some value := by
  rw [element]
  cases values[index]? <;> simp

structure Return where
  id? : Option UInt32 := none
  cartesian : List FloatWord := []
  intensity? : Option UInt32 := none
  deriving DecidableEq, Repr

structure Point where
  id? : Option UInt32 := none
  returns : List Return := []
  startOffsetNs? : Option UInt64 := none
  ambientLightLevel? : Option UInt32 := none
  deriving DecidableEq, Repr

structure Scanline where
  points : List Point := []
  startOffsetNs? : Option UInt64 := none
  deriving DecidableEq, Repr

structure Frame where
  startTimeNs? : Option UInt64 := none
  totalNumberOfReturns? : Option UInt32 := none
  scanlines : List Scanline := []
  deriving DecidableEq, Repr

structure Sample where
  startOffsetNs? : Option UInt64 := none
  acceleration : List ℚ := []
  angularVelocity : List ℚ := []
  deriving DecidableEq, Repr

structure IMU where
  startTimeNs? : Option UInt64 := none
  samples : List Sample := []
  deriving DecidableEq, Repr

def Return.id (ret : Return) : UInt32 := ret.id?.getD 0
def Return.intensity (ret : Return) : UInt32 := ret.intensity?.getD 0
def Point.id (point : Point) : UInt32 := point.id?.getD 0
def Point.startOffsetNs (point : Point) : UInt64 := point.startOffsetNs?.getD 0
def Point.ambientLightLevel (point : Point) : UInt32 := point.ambientLightLevel?.getD 0
def Scanline.startOffsetNs (scanline : Scanline) : UInt64 := scanline.startOffsetNs?.getD 0
def Frame.startTimeNs (frame : Frame) : UInt64 := frame.startTimeNs?.getD 0
def Frame.totalNumberOfReturns (frame : Frame) : UInt32 := frame.totalNumberOfReturns?.getD 0
def Sample.startOffsetNs (sample : Sample) : UInt64 := sample.startOffsetNs?.getD 0
def IMU.startTimeNs (data : IMU) : UInt64 := data.startTimeNs?.getD 0

/-! ### The returns of a frame, in order -/

structure Nested where
  scanline : Scanline
  point : Point
  ret : Return
  deriving DecidableEq, Repr

def Nested.timeOffset (nested : Nested) : UInt64 :=
  nested.scanline.startOffsetNs + nested.point.startOffsetNs

def Point.nested (scanline : Scanline) (point : Point) : List Nested :=
  point.returns.map fun ret => ⟨scanline, point, ret⟩

def Scanline.nested (scanline : Scanline) : List Nested :=
  scanline.points.flatMap (Point.nested scanline)

/-- Scanline by scanline, in each point by point, in each return by return. -/
def Frame.nested (frame : Frame) : List Nested := frame.scanlines.flatMap Scanline.nested

end Ilumo.Lidar
