import Ilumo.Blickfeld.Convert
import Ilumo.Lib.Runs

/-!
# Unpacking nests the packed returns

The loop of the conversion keeps the last scanline and its last point open, so after `i` returns it
holds the first `i` indices cut into runs of one scanline, each cut into runs of one point
(`Runs.Open`). At the end the nested frame is told by the packed arrays alone: scanlines are the
runs of the scanline id, points the runs of the point id within them, and read in order the returns
are those of the arrays.
-/

namespace Ilumo.Blickfeld

open Bytes Fallible Runs

/-! ### What the arrays hold at an index -/

def directionAt (packed : Packed) (i : Nat) : Direction :=
  let cartesian := packed.cartesian?.getD []
  { azimuth? := some (at32 cartesian (i * 2 + 0)), elevation? := some (at32 cartesian (i * 2 + 1)) }

def pointAt (packed : Packed) (id : UInt32) (i : Nat) : Point where
  id? := some id
  startOffsetNs? := packed.startOffsetNs?.map (at64 · i)
  ambientLightLevel? := packed.ambientLightLevel?.map (at32 · i)
  direction? := packed.direction?.map fun _ => directionAt packed i
  channelId? := packed.channelId?.map (at8 · i)

def cartesianAt (bytes : List UInt8) (i : Nat) : List FloatWord :=
  [at32 bytes (i * 3 + 0), at32 bytes (i * 3 + 1), at32 bytes (i * 3 + 2)]

def returnAt (packed : Packed) (i : Nat) : Return where
  id? := packed.returnId?.map (at8 · i)
  cartesian := (packed.cartesian?.map (cartesianAt · i)).getD []
  range? := packed.range?.map (at32 · i)
  intensity? := packed.intensity?.map (at32 · i)

/-- Every array that is read and present has `n` elements. -/
structure Packed.Sized (packed : Packed) (n : Nat) : Prop where
  cartesian : ∀ bytes ∈ packed.cartesian?, Holds 12 n bytes
  range : ∀ bytes ∈ packed.range?, Holds 4 n bytes
  intensity : ∀ bytes ∈ packed.intensity?, Holds 4 n bytes
  ambientLightLevel : ∀ bytes ∈ packed.ambientLightLevel?, Holds 4 n bytes
  startOffsetNs : ∀ bytes ∈ packed.startOffsetNs?, Holds 8 n bytes
  pointId : ∀ bytes ∈ packed.pointId?, Holds 4 n bytes
  channelId : ∀ bytes ∈ packed.channelId?, Holds 1 n bytes
  returnId : ∀ bytes ∈ packed.returnId?, Holds 1 n bytes

theorem Holds.mono {width m n : Nat} {bytes : List UInt8} (h : Holds width n bytes) (hle : m ≤ n) :
    Holds width m bytes :=
  (Nat.mul_le_mul_right width hle).trans h

theorem Packed.Sized.mono {packed : Packed} {m n : Nat} (h : packed.Sized n) (hle : m ≤ n) :
    packed.Sized m where
  cartesian bytes hbytes := (h.cartesian bytes hbytes).mono hle
  range bytes hbytes := (h.range bytes hbytes).mono hle
  intensity bytes hbytes := (h.intensity bytes hbytes).mono hle
  ambientLightLevel bytes hbytes := (h.ambientLightLevel bytes hbytes).mono hle
  startOffsetNs bytes hbytes := (h.startOffsetNs bytes hbytes).mono hle
  pointId bytes hbytes := (h.pointId bytes hbytes).mono hle
  channelId bytes hbytes := (h.channelId bytes hbytes).mono hle
  returnId bytes hbytes := (h.returnId bytes hbytes).mono hle

/-- Directions are read from the cartesian array. -/
def Packed.Directed (packed : Packed) : Prop :=
  packed.direction?.isSome → packed.cartesian?.isSome

instance (packed : Packed) : Decidable packed.Directed := inferInstanceAs (Decidable (_ → _))

theorem mapM_eq_ok {α β : Type} {x : Option α} {f : α → Except Fault β} {g : α → β}
    (h : ∀ a ∈ x, f a = .ok (g a)) : x.mapM f = .ok (x.map g) := by
  cases x with
  | none => rfl
  | some a =>
      rw [Option.mapM_some, h a rfl]
      rfl

variable {packed : Packed} {n i : Nat}

theorem Holds.triple {bytes : List UInt8} (h : Holds 12 n bytes) : Holds 4 (n * 3) bytes := by
  rw [Holds, Nat.mul_assoc]
  exact h

theorem load32_cartesian {bytes : List UInt8} (h : Holds 12 n bytes) (hi : i < n) {k : Nat}
    (hk : k < 3) : load32 bytes (i * 3 + k) = .ok (at32 bytes (i * 3 + k)) :=
  h.triple.load32 (by omega)

theorem newReturn_eq (hsized : packed.Sized n) (hi : i < n) :
    newReturn packed i = .ok (returnAt packed i) := by
  have hcartesian : ∀ bytes ∈ packed.cartesian?, (do
      let x ← load32 bytes (i * 3 + 0)
      let y ← load32 bytes (i * 3 + 1)
      let z ← load32 bytes (i * 3 + 2)
      pure [x, y, z] : Except Fault (List FloatWord)) = .ok (cartesianAt bytes i) := by
    intro bytes hbytes
    have hholds := hsized.cartesian bytes hbytes
    rw [load32_cartesian hholds hi (by omega), load32_cartesian hholds hi (by omega),
      load32_cartesian hholds hi (by omega)]
    rfl
  rw [newReturn, mapM_eq_ok fun bytes h => (hsized.returnId bytes h).load8 hi,
    mapM_eq_ok hcartesian, mapM_eq_ok fun bytes h => (hsized.range bytes h).load32 hi,
    mapM_eq_ok fun bytes h => (hsized.intensity bytes h).load32 hi]
  rfl

theorem newPoint_eq (hsized : packed.Sized n) (hdirected : packed.Directed) (hi : i < n)
    (id : UInt32) : newPoint packed id i = .ok (pointAt packed id i) := by
  have hdirection : ∀ bytes ∈ packed.direction?, (do
      let azimuth ← load32 (packed.cartesian?.getD []) (i * 2 + 0)
      let elevation ← load32 (packed.cartesian?.getD []) (i * 2 + 1)
      pure { azimuth? := some azimuth, elevation? := some elevation } : Except Fault Direction) =
        .ok (directionAt packed i) := by
    intro bytes hbytes
    have hsome := hdirected (by rw [Option.mem_def.mp hbytes]; rfl)
    obtain ⟨cartesian, hcartesian⟩ := Option.isSome_iff_exists.mp hsome
    have hholds := (hsized.cartesian cartesian hcartesian).triple
    rw [directionAt, hcartesian, Option.getD_some, hholds.load32 (by omega),
      hholds.load32 (by omega)]
    rfl
  rw [newPoint, mapM_eq_ok hdirection,
    mapM_eq_ok fun bytes h => (hsized.ambientLightLevel bytes h).load32 hi,
    mapM_eq_ok fun bytes h => (hsized.startOffsetNs bytes h).load64 hi,
    mapM_eq_ok fun bytes h => (hsized.channelId bytes h).load8 hi]
  rfl

/-! ### The scanline of a point -/

/-- With no scanlines there are no points in each. -/
def Frame.pointsPerScanline (frame : Frame) : UInt32 :=
  frame.totalNumberOfPoints / (getTotalNumberOfScanlines frame).toUInt32

/-- Scanlines can be told from the point ids: no scanline is empty, and their number is an `int`. -/
def Frame.Locates (frame : Frame) (pointIds : List UInt8) (n : Nat) : Prop :=
  frame.pointsPerScanline ≠ 0 ∧
    ∀ i < n, (at32 pointIds i / frame.pointsPerScanline).toNat < 2 ^ 31

instance (frame : Frame) (pointIds : List UInt8) (n : Nat) :
    Decidable (frame.Locates pointIds n) :=
  inferInstanceAs (Decidable (_ ∧ ∀ i < n, _))

variable {frame : Frame}

theorem getScanlineIdByPointId_of_ne_zero (hpoints : frame.pointsPerScanline ≠ 0)
    (id : UInt32) : getScanlineIdByPointId frame id =
      if (id / frame.pointsPerScanline).toNat < 2 ^ 31 then
        .ok (id / frame.pointsPerScanline).toInt32
      else .error .intOutOfRange := by
  have hscanlines : (getTotalNumberOfScanlines frame).toUInt32 ≠ 0 := by
    intro hzero
    apply hpoints
    rw [Frame.pointsPerScanline, hzero, UInt32.div_zero]
  rw [getScanlineIdByPointId, numberOfPointsPerScanline, if_neg hscanlines, ok_bind,
    UInt32.toUInt32_toInt32]
  exact if_neg hpoints

theorem getScanlineIdByPointId_of_eq_zero (hpoints : frame.pointsPerScanline = 0)
    (id : UInt32) : getScanlineIdByPointId frame id = .error .divisionByZero := by
  rw [getScanlineIdByPointId, numberOfPointsPerScanline]
  by_cases hscanlines : (getTotalNumberOfScanlines frame).toUInt32 = 0
  · rw [if_pos hscanlines, error_bind]
  · rw [if_neg hscanlines, ok_bind, UInt32.toUInt32_toInt32]
    exact if_pos hpoints

def scanlineKey (frame : Frame) (pointIds : List UInt8) (i : Nat) : UInt64 :=
  (at32 pointIds i / frame.pointsPerScanline).toUInt64

theorem getScanlineIdByPointId_eq {pointIds : List UInt8} (h : frame.Locates pointIds n)
    (hi : i < n) : ∃ id, getScanlineIdByPointId frame (at32 pointIds i) = .ok id ∧
      id.toUInt32.toUInt64 = scanlineKey frame pointIds i := by
  refine ⟨(at32 pointIds i / frame.pointsPerScanline).toInt32, ?_, ?_⟩
  · rw [getScanlineIdByPointId_of_ne_zero h.1, if_pos (h.2 i hi)]
  · rw [UInt32.toUInt32_toInt32]
    rfl

/-! ### Points and scanlines as runs of indices -/

/-- The first index of a run. -/
def first (run : List Nat) : Nat := run.headD 0

theorem first_append {run : List Nat} (hrun : run ≠ []) (rest : List Nat) :
    first (run ++ rest) = first run := by
  cases run with
  | nil => exact absurd rfl hrun
  | cons i run => rfl

theorem first_mem {run : List Nat} (hrun : run ≠ []) : first run ∈ run := by
  cases run with
  | nil => exact absurd rfl hrun
  | cons i run => exact List.mem_cons_self

def pointOf (packed : Packed) (pointIds : List UInt8) (run : List Nat) : Point :=
  { pointAt packed (at32 pointIds (first run)) (first run) with
    returns := run.map (returnAt packed) }

def scanlineOf (frame : Frame) (packed : Packed) (pointIds : List UInt8) (run : List Nat) :
    Scanline where
  id? := some (scanlineKey frame pointIds (first run))
  points := (run.splitBy (same (at32 pointIds))).map (pointOf packed pointIds)

/-- What unpacking adds to the scanlines of a frame. -/
def unpackedScanlines (frame : Frame) (packed : Packed) : List Scanline :=
  let returns := List.range frame.totalNumberOfReturns.toNat
  match packed.pointId? with
  | none => [{ points := [{ returns := returns.map (returnAt packed) }] }]
  | some pointIds =>
      (returns.splitBy (same (scanlineKey frame pointIds))).map (scanlineOf frame packed pointIds)

/-! ### The loop -/

variable {pointIds : List UInt8}

@[simp] theorem id_pointOf (run : List Nat) :
    (pointOf packed pointIds run).id = at32 pointIds (first run) :=
  rfl

theorem pointOf_addReturn {run : List Nat} (hrun : run ≠ []) (i : Nat) :
    (pointOf packed pointIds run).addReturn (returnAt packed i) =
      pointOf packed pointIds (run ++ [i]) := by
  rw [pointOf, pointOf, first_append hrun, Point.addReturn, List.map_append]
  rfl

theorem pointAt_addReturn (i : Nat) :
    (pointAt packed (at32 pointIds i) i).addReturn (returnAt packed i) =
      pointOf packed pointIds [i] :=
  rfl

/-- The cursor over an open pair of runs. -/
def cursorAt (frame : Frame) (packed : Packed) (pointIds : List UInt8)
    (front inner : List (List Nat)) (run : List Nat) : Cursor where
  scanlines := frame.scanlines ++ front.map (scanlineOf frame packed pointIds)
  current := some (
    { id? := some (scanlineKey frame pointIds (first (inner.flatten ++ run)))
      points := inner.map (pointOf packed pointIds) },
    pointOf packed pointIds run)

/-- Before the first return no scanline is open; after it the indices read so far are cut. -/
def Reading (frame : Frame) (packed : Packed) (pointIds : List UInt8) (i : Nat) (cursor : Cursor) :
    Prop :=
  i = 0 ∧ cursor = ⟨frame.scanlines, none⟩ ∨
    ∃ front inner run, Open (scanlineKey frame pointIds) (at32 pointIds) (List.range i) front inner
      run ∧ cursor = cursorAt frame packed pointIds front inner run

variable {front inner : List (List Nat)} {run : List Nat}

theorem scanline_addPoint
    (h : Open (scanlineKey frame pointIds) (at32 pointIds) (List.range i) front inner run) :
    ({ id? := some (scanlineKey frame pointIds (first (inner.flatten ++ run)))
       points := inner.map (pointOf packed pointIds) } : Scanline).addPoint
        (pointOf packed pointIds run) = scanlineOf frame packed pointIds (inner.flatten ++ run) := by
  rw [scanlineOf, h.finer, Scanline.addPoint, List.map_append]
  rfl

theorem seekPoint_cursorAt
    (h : Open (scanlineKey frame pointIds) (at32 pointIds) (List.range i) front inner run)
    (hsized : packed.Sized n) (hdirected : packed.Directed) (hlocates : frame.Locates pointIds n)
    (hi : i < n) :
    ∃ front' inner' run' scanlines scanline point,
      Open (scanlineKey frame pointIds) (at32 pointIds) (List.range (i + 1)) front' inner' run' ∧
      seekPoint frame packed (cursorAt frame packed pointIds front inner run) (at32 pointIds i) i =
        .ok (scanlines, scanline, point) ∧
      ⟨scanlines, some (scanline, point.addReturn (returnAt packed i))⟩ =
        cursorAt frame packed pointIds front' inner' run' := by
  obtain ⟨id, hid, hkey⟩ := getScanlineIdByPointId_eq hlocates hi
  have hhead : first run ∈ run := first_mem h.ne_nil
  have hne : inner.flatten ++ run ≠ [] := by simp [h.ne_nil]
  have hopen : scanlineKey frame pointIds (first (inner.flatten ++ run)) =
      scanlineKey frame pointIds (first run) :=
    h.key_eq (first_mem hne) (List.mem_append_right _ hhead)
  rw [List.range_succ]
  simp only [seekPoint, hid, ok_bind, hkey, newPoint_eq hsized hdirected hi, cursorAt, Scanline.id,
    Option.getD_some, id_pointOf, hopen, pure_eq_ok]
  by_cases hscanline : scanlineKey frame pointIds (first run) = scanlineKey frame pointIds i
  · rw [if_neg (by rw [hscanline]; simp)]
    by_cases hpoint : at32 pointIds (first run) = at32 pointIds i
    · rw [if_neg (by rw [hpoint]; simp)]
      refine ⟨_, _, _, _, _, _, h.extend hhead hscanline hpoint, rfl, ?_⟩
      rw [pointOf_addReturn h.ne_nil, ← List.append_assoc, first_append hne, hopen]
    · rw [if_pos (Ne.symm hpoint)]
      refine ⟨_, _, _, _, _, _, h.beginInner hhead hscanline hpoint, rfl, ?_⟩
      have hflat : (inner ++ [run]).flatten ++ [i] = (inner.flatten ++ run) ++ [i] := by simp
      rw [pointAt_addReturn, hflat, first_append hne, hopen, Scanline.addPoint, List.map_append]
      rfl
  · rw [if_pos (Ne.symm hscanline)]
    refine ⟨_, _, _, _, _, _, h.beginOuter hhead hscanline, rfl, ?_⟩
    rw [pointAt_addReturn, ← hopen, scanline_addPoint h, List.map_append, List.append_assoc]
    rfl

theorem unpackReturn_reading {cursor : Cursor} (hids : packed.pointId? = some pointIds)
    (hsized : packed.Sized n) (hdirected : packed.Directed) (hlocates : frame.Locates pointIds n)
    (hi : i < n) (hreading : Reading frame packed pointIds i cursor) :
    ∃ cursor', unpackReturn frame packed cursor i = .ok cursor' ∧
      Reading frame packed pointIds (i + 1) cursor' := by
  have hload : load32 pointIds i = .ok (at32 pointIds i) :=
    (hsized.pointId pointIds hids).load32 hi
  rw [unpackReturn, hids]
  simp only [hload, ok_bind]
  rcases hreading with ⟨rfl, rfl⟩ | ⟨front, inner, run, hopen, rfl⟩
  · obtain ⟨id, hid, hkey⟩ := getScanlineIdByPointId_eq hlocates hi
    simp only [seekPoint, hid, ok_bind, hkey, newPoint_eq hsized hdirected hi, newReturn_eq hsized hi,
      pure_eq_ok]
    refine ⟨_, rfl, Or.inr ⟨[], [], [0], Open.singleton _ _ 0, ?_⟩⟩
    rw [cursorAt, pointAt_addReturn]
    simp [first]
  · obtain ⟨front', inner', run', scanlines, scanline, point, hopen', hseek, hcursor⟩ :=
      seekPoint_cursorAt hopen hsized hdirected hlocates hi
    simp only [hseek, ok_bind, newReturn_eq hsized hi, pure_eq_ok]
    exact ⟨_, rfl, Or.inr ⟨front', inner', run', hopen', hcursor⟩⟩

theorem Reading.finish {cursor : Cursor} (h : Reading frame packed pointIds n cursor) :
    cursor.finish = frame.scanlines ++
      ((List.range n).splitBy (same (scanlineKey frame pointIds))).map
        (scanlineOf frame packed pointIds) := by
  rcases h with ⟨rfl, rfl⟩ | ⟨front, inner, run, hopen, rfl⟩
  · rfl
  · rw [hopen.coarse, List.map_append, ← List.append_assoc, Cursor.finish, cursorAt]
    simp only [Option.toList_some, List.map_singleton, scanline_addPoint hopen]

/-- Without point ids every return is added to the one point. -/
theorem unpackReturn_none (frame : Frame) (hids : packed.pointId? = none) (hsized : packed.Sized n) (hi : i < n) :
    unpackReturn frame packed
        ⟨frame.scanlines, some ({}, { returns := (List.range i).map (returnAt packed) })⟩ i =
      .ok ⟨frame.scanlines, some ({}, { returns := (List.range (i + 1)).map (returnAt packed) })⟩ := by
  rw [unpackReturn, hids, newReturn_eq hsized hi, List.range_succ, List.map_append]
  rfl

/-- What a packed frame with returns and point ids must have to be unpacked. -/
def Frame.Unpackable (frame : Frame) (packed : Packed) : Prop :=
  ∀ pointIds ∈ packed.pointId?, frame.totalNumberOfReturns = 0 ∨
    packed.Directed ∧ frame.Locates pointIds frame.totalNumberOfReturns.toNat

/-- **Unpacking nests.** -/
theorem convertPointCloud_eq (hpacked : frame.packed? = some packed)
    (hsized : packed.Sized frame.totalNumberOfReturns.toNat) (hunpackable : frame.Unpackable packed) :
    convertPointCloud frame = .ok { frame with
      scanlines := frame.scanlines ++ unpackedScanlines frame packed, packed? := none } := by
  rw [convertPointCloud, hpacked, unpackedScanlines]
  cases hids : packed.pointId? with
  | none =>
      have hloop := foldlM_range_eq_ok (unpackReturn frame packed) _ fun i hi =>
        unpackReturn_none frame hids hsized hi
      simp only [List.range_zero, List.map_nil] at hloop
      simp only [hids, Option.isNone_none, if_true, hloop, ok_bind, pure_eq_ok]
      rfl
  | some pointIds =>
      have hloop : ∃ cursor, (List.range frame.totalNumberOfReturns.toNat).foldlM
          (unpackReturn frame packed) ⟨frame.scanlines, none⟩ = .ok cursor ∧
          Reading frame packed pointIds frame.totalNumberOfReturns.toNat cursor := by
        apply foldlM_range_invariant (Or.inl ⟨rfl, rfl⟩)
        intro i hi cursor hreading
        rcases hunpackable pointIds hids with hnone | ⟨hdirected, hlocates⟩
        · rw [hnone] at hi
          exact absurd hi (Nat.not_lt_zero i)
        · exact unpackReturn_reading hids hsized hdirected hlocates hi hreading
      obtain ⟨cursor, hcursor, hreading⟩ := hloop
      simp only [hids, Option.isNone_some, Bool.false_eq_true, if_false, hcursor, ok_bind,
        pure_eq_ok, hreading.finish]

end Ilumo.Blickfeld
