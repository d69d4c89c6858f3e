import Ilumo.Blickfeld.Unpacked

/-!
# Both ways to the flat points

A `frame_t` is filled in place: the loop overwrites a growing front of the resized points and leaves
the rest. From this follow what a flat frame still holds of the one before, and that flattening a
packed frame directly or unpacking it first gives the same points, except where the ambient light
changes within a point.
-/

namespace Ilumo.Blickfeld

open Fallible Runs

variable {frame : Frame} {packed : Packed} {pointIds : List UInt8} {n : Nat}
  {toFloat : DoubleWord → FloatWord}

/-! ### Filling points in place -/

theorem length_resizePoints (points : List PointT) (n : Nat) :
    (resizePoints points n).length = n := by
  simp only [resizePoints, List.length_append, List.length_take, List.length_replicate]
  omega

theorem getElem?_resizePoints (points : List PointT) {i : Nat} (hi : i < n) :
    (resizePoints points n)[i]? = some (points.getD i {}) := by
  rw [resizePoints, List.getD_eq_getElem?_getD]
  by_cases hold : i < points.length
  · rw [List.getElem?_append_left (by simp; omega), List.getElem?_take_of_lt hi,
      List.getElem?_eq_getElem hold]
    rfl
  · rw [List.getElem?_append_right (by simp; omega), List.getElem?_replicate,
      List.getElem?_eq_none (by omega), if_pos (by simp; omega)]
    rfl

theorem writePoint_cursor (front rest : List PointT) {old new : PointT} {fill : PointT → Except Fault PointT}
    (hfill : fill old = .ok new) :
    writePoint (front ++ old :: rest) front.length fill = .ok (front ++ [new] ++ rest) := by
  rw [writePoint, List.getElem?_append_right (Nat.le_refl _), Nat.sub_self]
  simp [hfill]

/-! ### A packed frame -/

/-- Where an array is missing the old value stays. -/
def unpackedPoint (packed : Packed) (i : Nat) (old : PointT) : PointT where
  id := (packed.pointId?.map (at32 · i)).getD old.id
  x := (packed.cartesian?.map (at32 · (i * 3 + 0))).getD old.x
  y := (packed.cartesian?.map (at32 · (i * 3 + 1))).getD old.y
  z := (packed.cartesian?.map (at32 · (i * 3 + 2))).getD old.z
  range := (packed.range?.map (at32 · i)).getD old.range
  intensity := (packed.intensity?.map fun bytes => (at32 bytes i).toUInt16).getD old.intensity
  ambientLightLevel :=
    (packed.ambientLightLevel?.map fun bytes => (at32 bytes i).toUInt16).getD old.ambientLightLevel

theorem unpackPoint_eq {i : Nat} (hsized : packed.Sized n) (hi : i < n) (old : PointT) :
    unpackPoint packed i old = .ok (unpackedPoint packed i old) := by
  have hcartesian : ∀ bytes ∈ packed.cartesian?, (do
      let x ← load32 bytes (i * 3 + 0)
      let y ← load32 bytes (i * 3 + 1)
      let z ← load32 bytes (i * 3 + 2)
      pure (x, y, z) : Except Fault (FloatWord × FloatWord × FloatWord)) =
        .ok (at32 bytes (i * 3 + 0), at32 bytes (i * 3 + 1), at32 bytes (i * 3 + 2)) := by
    intro bytes hbytes
    have hholds := hsized.cartesian bytes hbytes
    rw [load32_cartesian hholds hi (by omega), load32_cartesian hholds hi (by omega),
      load32_cartesian hholds hi (by omega)]
    rfl
  rw [unpackPoint, mapM_eq_ok fun bytes h => (hsized.pointId bytes h).load32 hi,
    mapM_eq_ok hcartesian, mapM_eq_ok fun bytes h => (hsized.range bytes h).load32 hi,
    mapM_eq_ok fun bytes h => (hsized.intensity bytes h).load32 hi,
    mapM_eq_ok fun bytes h => (hsized.ambientLightLevel bytes h).load32 hi]
  simp only [ok_bind, pure_eq_ok, Option.map_map, Function.comp_def]
  cases hcart : packed.cartesian? <;> simp [unpackedPoint, hcart]

/-- The loop over a packed frame: the points written so far, then those still to be overwritten. -/
theorem foldlM_unpackPoint (hsized : packed.Sized n) {points : List PointT}
    (hlength : points.length = n) :
    (List.range n).foldlM (fun points i => writePoint points i (unpackPoint packed i)) points =
      .ok ((List.range n).map fun i => unpackedPoint packed i (points.getD i {})) := by
  let new : Nat → PointT := fun i => unpackedPoint packed i (points.getD i {})
  have hstep : ∀ k < n, writePoint ((List.range k).map new ++ points.drop k) k
      (unpackPoint packed k) = .ok ((List.range (k + 1)).map new ++ points.drop (k + 1)) := by
    intro k hk
    have hk' : k < points.length := by omega
    have hold : points.getD k {} = points[k] := by
      rw [List.getD_eq_getElem?_getD, List.getElem?_eq_getElem hk']
      rfl
    have hwrite := writePoint_cursor ((List.range k).map new) (points.drop (k + 1))
      (unpackPoint_eq hsized hk points[k])
    rw [List.length_map, List.length_range] at hwrite
    rw [List.drop_eq_getElem_cons hk', List.range_succ, List.map_append, hwrite, ← hold]
    rfl
  have hloop := foldlM_range_eq_ok (fun points i => writePoint points i (unpackPoint packed i))
    (fun k => (List.range k).map new ++ points.drop k) hstep
  simp only [List.range_zero, List.map_nil, List.nil_append, List.drop_zero] at hloop
  rw [hloop, List.drop_of_length_le (by omega), List.append_nil]

theorem convertPointCloudT_packed (toFloat : DoubleWord → FloatWord) (hpacked : frame.packed? = some packed)
    (hsized : packed.Sized packed.length.toNat) (out : FrameT) :
    convertPointCloudT toFloat frame out = .ok {
      id := frame.id
      points := (List.range packed.length.toNat).map fun i =>
        unpackedPoint packed i (out.points.getD i {})
      frameRate := toFloat frame.scanPattern.maximum
      startTimeNs := frame.startTimeNs } := by
  have hpoints : (List.range packed.length.toNat).map (fun i => unpackedPoint packed i
      ((resizePoints out.points packed.length.toNat).getD i {})) =
      (List.range packed.length.toNat).map fun i =>
        unpackedPoint packed i (out.points.getD i {}) := by
    apply List.map_congr_left
    intro i hi
    have hold := getElem?_resizePoints out.points (List.mem_range.mp hi)
    rw [show (resizePoints out.points packed.length.toNat).getD i {} = out.points.getD i {} by
      rw [List.getD_eq_getElem?_getD, hold, Option.getD_some]]
  rw [convertPointCloudT, hpacked]
  simp only [foldlM_unpackPoint hsized (length_resizePoints out.points _), hpoints, ok_bind,
    pure_eq_ok]

/-! ### A nested frame -/

def Frame.pairs (frame : Frame) : List (Point × Return) :=
  gather (fun _ point ret => (point, ret)) frame.scanlines

def flattenPair (acc : List PointT × Nat) (pair : Point × Return) :
    Except Fault (List PointT × Nat) :=
  flattenReturn pair.1 acc pair.2

theorem foldlM_flattenScanline (frame : Frame) (acc : List PointT × Nat) :
    frame.scanlines.foldlM flattenScanline acc = frame.pairs.foldlM flattenPair acc := by
  have hpoint (acc : List PointT × Nat) (point : Point) :
      flattenPoint acc point = (point.returns.map fun ret => (point, ret)).foldlM flattenPair acc := by
    rw [List.foldlM_map]
    rfl
  have hscanline (acc : List PointT × Nat) (scanline : Scanline) : flattenScanline acc scanline =
      (scanline.points.flatMap fun point => point.returns.map fun ret => (point, ret)).foldlM
        flattenPair acc := by
    rw [← foldlM_flatMap, flattenScanline]
    simp only [← hpoint]
  rw [Frame.pairs, gather, ← foldlM_flatMap]
  simp only [← hscanline]

def flatPointAt (pair : Point × Return) : PointT where
  id := pair.1.id
  x := pair.2.cartesian.getD 0 0
  y := pair.2.cartesian.getD 1 0
  z := pair.2.cartesian.getD 2 0
  range := pair.2.range
  intensity := pair.2.intensity.toUInt16
  ambientLightLevel := pair.1.ambientLightLevel.toUInt16

theorem element_eq {values : List FloatWord} (hlength : 3 ≤ values.length) {i : Nat} (hi : i < 3) :
    element values i = .ok (values.getD i 0) := by
  rw [element, List.getD_eq_getElem?_getD, List.getElem?_eq_getElem (by omega)]
  rfl

theorem flatPoint_eq {pair : Point × Return} (hcartesian : 3 ≤ pair.2.cartesian.length) :
    flatPoint pair.1 pair.2 = .ok (flatPointAt pair) := by
  rw [flatPoint, element_eq hcartesian (by omega), element_eq hcartesian (by omega),
    element_eq hcartesian (by omega)]
  rfl

theorem foldlM_flattenPair {pairs : List (Point × Return)}
    (hcartesian : ∀ pair ∈ pairs, 3 ≤ pair.2.cartesian.length) (front rest : List PointT)
    (hin : pairs.length ≤ rest.length) :
    pairs.foldlM flattenPair (front ++ rest, front.length) =
      .ok (front ++ pairs.map flatPointAt ++ rest.drop pairs.length,
        front.length + pairs.length) := by
  induction pairs generalizing front rest with
  | nil => simp
  | cons pair pairs ih =>
      cases rest with
      | nil => simp at hin
      | cons old rest =>
          have hstep : flattenPair (front ++ old :: rest, front.length) pair =
              .ok (front ++ [flatPointAt pair] ++ rest, (front ++ [flatPointAt pair]).length) := by
            rw [flattenPair, flattenReturn,
              writePoint_cursor _ _ (flatPoint_eq (hcartesian pair (by simp)))]
            simp
          rw [List.foldlM_cons, hstep, ok_bind,
            ih (fun other hother => hcartesian other (by simp [hother])) _ _ (by simpa using hin)]
          simp [Nat.add_left_comm, Nat.add_comm]

theorem convertPointCloudT_nested (toFloat : DoubleWord → FloatWord) (hpacked : frame.packed? = none)
    (hcartesian : ∀ pair ∈ frame.pairs, 3 ≤ pair.2.cartesian.length)
    (hroom : frame.pairs.length ≤ frame.totalNumberOfReturns.toNat) (out : FrameT) :
    convertPointCloudT toFloat frame out = .ok {
      id := frame.id
      points := frame.pairs.map flatPointAt ++
        (resizePoints out.points frame.totalNumberOfReturns.toNat).drop frame.pairs.length
      frameRate := toFloat frame.scanPattern.maximum
      startTimeNs := frame.startTimeNs } := by
  have hloop := foldlM_flattenPair hcartesian []
    (resizePoints out.points frame.totalNumberOfReturns.toNat) (by rwa [length_resizePoints])
  simp only [List.nil_append, List.length_nil] at hloop
  rw [convertPointCloudT, hpacked]
  simp only [foldlM_flattenScanline, hloop, ok_bind, pure_eq_ok]

/-! ### What stays of the frame before -/

def Packed.Complete (packed : Packed) : Prop :=
  packed.pointId?.isSome ∧ packed.cartesian?.isSome ∧ packed.range?.isSome ∧
    packed.intensity?.isSome ∧ packed.ambientLightLevel?.isSome

instance (packed : Packed) : Decidable packed.Complete :=
  inferInstanceAs (Decidable (_ ∧ _ ∧ _ ∧ _ ∧ _))

/-- The frame can be flattened: its arrays have the announced size, or its returns have coordinates
and are not more than announced. -/
def Frame.Flattens (frame : Frame) : Prop :=
  match frame.packed? with
  | some packed => packed.Sized packed.length.toNat
  | none => (∀ pair ∈ frame.pairs, 3 ≤ pair.2.cartesian.length) ∧
      frame.pairs.length ≤ frame.totalNumberOfReturns.toNat

/-- The frame brings every value of every point: all arrays, or as many returns as announced. -/
def Frame.Refills (frame : Frame) : Prop :=
  match frame.packed? with
  | some packed => packed.length = 0 ∨ packed.Complete
  | none => frame.pairs.length = frame.totalNumberOfReturns.toNat

theorem unpackedPoint_of_complete (hcomplete : packed.Complete) (i : Nat) (old old' : PointT) :
    unpackedPoint packed i old = unpackedPoint packed i old' := by
  simp only [Packed.Complete, Option.isSome_iff_exists] at hcomplete
  obtain ⟨⟨id, hid⟩, ⟨cartesian, hcartesian⟩, ⟨range, hrange⟩, ⟨intensity, hintensity⟩,
    ⟨ambient, hambient⟩⟩ := hcomplete
  simp [unpackedPoint, hid, hcartesian, hrange, hintensity, hambient]

def onePoint : PointT := ⟨1, 1, 1, 1, 1, 1, 1⟩

theorem isSome_of_getD_eq {α β : Type} {x : Option α} {f : α → β} {b b' : β} (hne : b ≠ b')
    (h : (x.map f).getD b = (x.map f).getD b') : x.isSome := by
  cases x with
  | none => exact absurd h hne
  | some a => rfl

theorem complete_of_unpackedPoint {i : Nat}
    (h : unpackedPoint packed i {} = unpackedPoint packed i onePoint) : packed.Complete := by
  simp only [unpackedPoint, PointT.mk.injEq] at h
  obtain ⟨hid, hx, -, -, hrange, hintensity, hambient⟩ := h
  exact ⟨isSome_of_getD_eq (by decide) hid, isSome_of_getD_eq (by decide) hx,
    isSome_of_getD_eq (by decide) hrange, isSome_of_getD_eq (by decide) hintensity,
    isSome_of_getD_eq (by decide) hambient⟩

/-- **What a flat frame keeps of the one before.** Conversion forgets the frame it writes into
exactly when the received frame brings every value of every point. -/
theorem convertPointCloudT_forgets_iff (hflattens : frame.Flattens) :
    (∀ out out', convertPointCloudT toFloat frame out = convertPointCloudT toFloat frame out') ↔
      frame.Refills := by
  cases hpacked : frame.packed? with
  | some packed =>
      simp only [Frame.Flattens, Frame.Refills, hpacked] at hflattens ⊢
      simp only [convertPointCloudT_packed toFloat hpacked hflattens]
      refine ⟨fun h => ?_, fun h out out' => ?_⟩
      · by_cases hzero : packed.length.toNat = 0
        · exact Or.inl (UInt32.toNat_inj.mp hzero)
        · right
          have hpoints := (FrameT.mk.inj (Except.ok.inj (h {} { points := [onePoint] }))).2.1
          have hfirst := List.map_inj_left.mp hpoints 0 (List.mem_range.mpr (by omega))
          exact complete_of_unpackedPoint hfirst
      · congr 2
        apply List.map_congr_left
        intro i hi
        rcases h with hzero | hcomplete
        · rw [hzero] at hi
          simp at hi
        · exact unpackedPoint_of_complete hcomplete i _ _
  | none =>
      simp only [Frame.Flattens, Frame.Refills, hpacked] at hflattens ⊢
      obtain ⟨hcartesian, hroom⟩ := hflattens
      simp only [convertPointCloudT_nested toFloat hpacked hcartesian hroom]
      refine ⟨fun h => ?_, fun h out out' => ?_⟩
      · by_contra hfew
        have hlast : frame.pairs.length < frame.totalNumberOfReturns.toNat := by omega
        have hpoints := (FrameT.mk.inj (Except.ok.inj (h {}
          { points := List.replicate frame.totalNumberOfReturns.toNat onePoint }))).2.1
        have hrest := congrArg (fun points => points[frame.pairs.length]?) hpoints
        simp only [List.getElem?_append_right, List.length_map, Nat.le_refl, Nat.sub_self,
          List.getElem?_drop, Nat.add_zero, getElem?_resizePoints _ hlast, Option.some.injEq] at hrest
        simp [hlast, onePoint] at hrest
      · rw [List.drop_of_length_le (by rw [length_resizePoints, h]),
          List.drop_of_length_le (by rw [length_resizePoints, h])]

/-- Without ranges and intensities those of the frame before stay. -/
theorem convertPointCloudT_forgets_iff_packedFrame :
    (∀ out out', convertPointCloudT (fun _ => 0) packedFrame out =
      convertPointCloudT (fun _ => 0) packedFrame out') ↔ packedFrame.Refills :=
  convertPointCloudT_forgets_iff (sized_packedFrame _ rfl)

/-! ### Unpacking before flattening -/

theorem map_pairs_unpackedScanlines {γ : Type} {g : Point × Return → γ}
    (hids : packed.pointId? = some pointIds)
    (hg : ∀ point returns ret, g ({ point with returns := returns }, ret) = g (point, ret)) :
    (gather (fun _ point ret => (point, ret)) (unpackedScanlines frame packed)).map g =
      (List.range frame.totalNumberOfReturns.toNat).map fun i =>
        g (pointAt packed (at32 pointIds i) (start (at32 pointIds) i), returnAt packed i) := by
  rw [map_gather]
  exact gather_unpackedScanlines (g := fun point ret => g (point, ret)) hids
    fun _ _ point returns ret => hg point returns ret

theorem unpackedPoint_eq_iff {bytes : List UInt8} (hids : packed.pointId? = some pointIds)
    (hcartesian : packed.cartesian? = some bytes) (i j : Nat) :
    unpackedPoint packed i {} =
        flatPointAt (pointAt packed (at32 pointIds i) j, returnAt packed i) ↔
      ∀ ambient ∈ packed.ambientLightLevel?,
        (at32 ambient j).toUInt16 = (at32 ambient i).toUInt16 := by
  have hrange : (packed.range?.map (at32 · i)).getD 0 = (returnAt packed i).range := rfl
  have hintensity : (packed.intensity?.map fun bytes => (at32 bytes i).toUInt16).getD 0 =
      (returnAt packed i).intensity.toUInt16 := by
    rw [Return.intensity, returnAt]
    cases packed.intensity? <;> rfl
  simp only [unpackedPoint, hids, hcartesian, flatPointAt, Option.map_some, Option.getD_some,
    PointT.mk.injEq]
  refine ⟨fun h => ?_, fun h => ⟨rfl, ?_, ?_, ?_, hrange, hintensity, ?_⟩⟩
  · intro ambient hambient
    have heq := h.2.2.2.2.2.2
    simp only [Point.ambientLightLevel, pointAt, Option.mem_def.mp hambient, Option.map_some,
      Option.getD_some] at heq
    exact heq.symm
  · simp [returnAt, hcartesian, cartesianAt]
  · simp [returnAt, hcartesian, cartesianAt]
  · simp [returnAt, hcartesian, cartesianAt]
  · rw [Point.ambientLightLevel, pointAt]
    cases hambient : packed.ambientLightLevel? with
    | none => rfl
    | some ambient => exact (h ambient hambient).symm

/-- The ambient light of a point is the same in all its returns, as far as a flat point stores it. -/
def Packed.AmbientOfPoint (packed : Packed) (pointIds : List UInt8) (n : Nat) : Prop :=
  ∀ ambient ∈ packed.ambientLightLevel?, ∀ i, i + 1 < n →
    at32 pointIds i = at32 pointIds (i + 1) →
      (at32 ambient i).toUInt16 = (at32 ambient (i + 1)).toUInt16

/-- **Both ways agree.** For a packed frame with ids and coordinates, flattening its arrays and
flattening the frame unpacked from them both succeed, and they give the same flat frame exactly when
the ambient light never changes within a point. -/
theorem convertPointCloudT_convertPointCloud_iff (hpacked : frame.packed? = some packed)
    (hids : packed.pointId? = some pointIds) (hcartesian : packed.cartesian?.isSome)
    (hnone : frame.scanlines = []) (hlength : packed.length = frame.totalNumberOfReturns)
    (hsized : packed.Sized frame.totalNumberOfReturns.toNat)
    (hlocates : frame.Locates pointIds frame.totalNumberOfReturns.toNat) :
    ∃ unpacked direct nested, convertPointCloud frame = .ok unpacked ∧
      convertPointCloudT toFloat frame {} = .ok direct ∧
      convertPointCloudT toFloat unpacked {} = .ok nested ∧
      (direct = nested ↔
        packed.AmbientOfPoint pointIds frame.totalNumberOfReturns.toNat) := by
  obtain ⟨bytes, hbytes⟩ := Option.isSome_iff_exists.mp hcartesian
  have hunpacked := unpacked_frame_eq hpacked hids hnone hsized (fun _ => hcartesian) hlocates
  obtain ⟨unpacked, hframe⟩ : ∃ unpacked : Frame, unpacked =
      { frame with scanlines := unpackedScanlines frame packed, packed? := none } := ⟨_, rfl⟩
  have hmap {γ : Type} {g : Point × Return → γ}
      (hg : ∀ point returns ret, g ({ point with returns := returns }, ret) = g (point, ret)) :
      unpacked.pairs.map g = (List.range frame.totalNumberOfReturns.toNat).map fun i =>
        g (pointAt packed (at32 pointIds i) (start (at32 pointIds) i), returnAt packed i) := by
    rw [hframe]
    exact map_pairs_unpackedScanlines hids hg
  have hpairs : ∀ pair ∈ unpacked.pairs, 3 ≤ pair.2.cartesian.length := by
    intro pair hpair
    have hmem := List.mem_map_of_mem (f := Prod.snd) hpair
    rw [hmap fun _ _ _ => rfl] at hmem
    obtain ⟨i, -, hi⟩ := List.mem_map.mp hmem
    rw [← hi, returnAt, hbytes]
    exact Nat.le_refl 3
  have hcount : unpacked.pairs.length = frame.totalNumberOfReturns.toNat := by
    rw [← List.length_map (f := Prod.snd), hmap fun _ _ _ => rfl, List.length_map,
      List.length_range]
  have htotal : unpacked.totalNumberOfReturns = frame.totalNumberOfReturns := by
    rw [hframe]
    rfl
  have hdirect := convertPointCloudT_packed toFloat hpacked (by rwa [hlength]) {}
  have hnested := convertPointCloudT_nested toFloat (by rw [hframe]) hpairs
    (by rw [hcount, htotal]) {}
  have hpoints : (List.range packed.length.toNat).map (fun i => unpackedPoint packed i
      (({} : FrameT).points.getD i {})) = unpacked.pairs.map flatPointAt ++
        (resizePoints ({} : FrameT).points unpacked.totalNumberOfReturns.toNat).drop
          unpacked.pairs.length ↔
      packed.AmbientOfPoint pointIds frame.totalNumberOfReturns.toNat := by
    rw [List.drop_of_length_le (by rw [length_resizePoints, hcount, htotal]), List.append_nil,
      hmap fun _ _ _ => rfl, hlength, List.map_inj_left]
    simp only [List.getD_nil, List.mem_range, unpackedPoint_eq_iff hids hbytes]
    rw [Packed.AmbientOfPoint]
    simp only [← forall_start_iff]
    exact ⟨fun h ambient hambient i hi => h i hi ambient hambient,
      fun h i hi ambient hambient => h ambient hambient i hi⟩
  rw [← hframe] at hunpacked
  refine ⟨unpacked, _, _, hunpacked, hdirect, hnested, ?_⟩
  rw [← hpoints, FrameT.mk.injEq]
  refine ⟨fun h => h.2.1, fun h => ⟨?_, h, ?_, ?_⟩⟩
  · rw [hframe]
    rfl
  · rw [hframe]
    rfl
  · rw [hframe]
    rfl

theorem convertPointCloudT_convertPointCloud_iff_packedFrame :
    ∃ unpacked direct nested, convertPointCloud packedFrame = .ok unpacked ∧
      convertPointCloudT (fun _ => 0) packedFrame {} = .ok direct ∧
      convertPointCloudT (fun _ => 0) unpacked {} = .ok nested ∧
      (direct = nested ↔ (packedFrame.packed?.getD {}).AmbientOfPoint
        [0, 0, 0, 4, 0, 0, 0, 4, 0, 0, 0, 5] packedFrame.totalNumberOfReturns.toNat) :=
  convertPointCloudT_convertPointCloud_iff rfl rfl (by decide) rfl rfl (sized_packedFrame _ rfl)
    (by decide)

end Ilumo.Blickfeld
