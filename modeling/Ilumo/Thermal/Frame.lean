import Ilumo.Lib.Grid
import Mathlib.Data.Rat.Defs

/-!
# The frame of a thermal picture

The sensor sends one value for each of its pixels as one long vector, which is laid out in Fortran
order and transposed. Which way up the camera is mounted decides along which axis the picture is
flipped. The two orientations are half turns of each other, and neither loses a pixel.
-/

namespace Ilumo.Thermal

open Grid

variable {nc nr : Nat}

/-- A sensor vector with one `float16` for each pixel of an array of `nc` columns and `nr` rows. -/
structure SensorData (nc nr : Nat) where
  values : List ℚ
  size : values.length = nr * nc
  -- every `float16` is a multiple of the smallest one
  multiples : ∀ x ∈ values, (x * 2 ^ 24).den = 1

/-- `data.reshape((nc, nr), order='F')`, where the first index moves fastest. -/
def SensorData.reshape (data : SensorData nc nr) : Grid nc nr ℚ := fun i j =>
  data.values.get ⟨i + nc * j, data.size ▸ (position j i).isLt⟩

def dataToFrame (data : SensorData nc nr) (hflip : Bool) : Grid nr nc ℚ :=
  if hflip then flipCols (transpose data.reshape) else transpose data.reshape

/-- The frame that the callback builds for the value of the `updown` parameter. -/
def thermalFrame (updown : Bool) (data : SensorData nc nr) : Grid nr nc ℚ :=
  if updown then flipRows (dataToFrame data false) else dataToFrame data true

theorem transpose_reshape (data : SensorData nc nr) :
    transpose data.reshape = ofList data.values data.size :=
  rfl

/-- **Upside down is a half turn.** -/
theorem thermalFrame_true (data : SensorData nc nr) :
    thermalFrame true data = halfTurn (thermalFrame false data) := by
  have hupright : thermalFrame false data = flipCols (transpose data.reshape) := rfl
  rw [hupright, ← flipRows_flipCols, flipCols_flipCols]
  rfl

theorem flatten_thermalFrame_perm (updown : Bool) (data : SensorData nc nr) :
    (flatten (thermalFrame updown data)).Perm data.values := by
  have hflat : flatten (transpose data.reshape) = data.values := by
    rw [transpose_reshape, flatten_ofList]
  cases updown with
  | true =>
      have hflipped := flatten_flipRows_perm (transpose data.reshape)
      rw [hflat] at hflipped
      exact hflipped
  | false =>
      have hflipped := flatten_flipCols_perm (transpose data.reshape)
      rw [hflat] at hflipped
      exact hflipped

end Ilumo.Thermal
