import Ilumo.Blickfeld.Nesting

/-!
# What an unpacked frame says

Whether a packed frame is unpacked at all, and what the nested frame then tells about the arrays:
which returns it holds, in which order, under which points and scanlines, and which of the arrays
it never looks at.
-/

namespace Ilumo.Blickfeld

open Fallible Runs

/-- Every return with the scanline and the point it is nested in, in order. -/
def gather {γ : Type} (f : Scanline → Point → Return → γ) (scanlines : List Scanline) : List γ :=
  scanlines.flatMap fun scanline => scanline.points.flatMap fun point =>
    point.returns.map (f scanline point)

theorem map_gather {γ δ : Type} (f : Scanline → Point → Return → γ) (g : γ → δ)
    (scanlines : List Scanline) :
    (gather f scanlines).map g =
      gather (fun scanline point ret => g (f scanline point ret)) scanlines := by
  simp only [gather, List.map_flatMap, List.map_map, Function.comp_def]

variable {frame : Frame} {packed : Packed} {pointIds : List UInt8} {n : Nat}

theorem unpackedScanlines_some (hids : packed.pointId? = some pointIds) :
    unpackedScanlines frame packed = ((List.range frame.totalNumberOfReturns.toNat).splitBy
      (same (scanlineKey frame pointIds))).map (scanlineOf frame packed pointIds) := by
  rw [unpackedScanlines, hids]

/-- Points do not cross scanlines. -/
theorem flatMap_splitBy_pointIds (frame : Frame) (pointIds : List UInt8) (l : List Nat) :
    ((l.splitBy (same (scanlineKey frame pointIds))).flatMap fun run =>
      run.splitBy (same (at32 pointIds))) = l.splitBy (same (at32 pointIds)) := by
  apply flatMap_splitBy_splitBy
  intro i j h
  rw [scanlineKey, scanlineKey, h]

/-- Read in order, the nested returns are those of the arrays, each under a point with the data of
the first return with its id. -/
theorem gather_unpackedScanlines {γ : Type} {f : Scanline → Point → Return → γ}
    {g : Point → Return → γ} (hids : packed.pointId? = some pointIds)
    (hf : ∀ id points point returns ret, f { id? := id, points := points }
      { point with returns := returns } ret = g point ret) :
    gather f (unpackedScanlines frame packed) =
      (List.range frame.totalNumberOfReturns.toNat).map fun i =>
        g (pointAt packed (at32 pointIds i) (start (at32 pointIds) i)) (returnAt packed i) := by
  have hpoint (id : Option UInt64) (points : List Point) (run : List Nat) :
      (pointOf packed pointIds run).returns.map
        (f { id? := id, points := points } (pointOf packed pointIds run)) =
      run.map fun i => g (pointAt packed (at32 pointIds (first run)) (first run))
        (returnAt packed i) := by
    rw [pointOf, List.map_map]
    apply List.map_congr_left
    intro i _
    exact hf id points (pointAt packed _ _) _ _
  have hscanline (run : List Nat) :
      ((scanlineOf frame packed pointIds run).points.flatMap fun point =>
        point.returns.map (f (scanlineOf frame packed pointIds run) point)) =
      (run.splitBy (same (at32 pointIds))).flatMap fun run => run.map fun i =>
        g (pointAt packed (at32 pointIds (first run)) (first run)) (returnAt packed i) := by
    rw [scanlineOf, List.flatMap_map]
    apply List.flatMap_congr
    intro run' _
    exact hpoint _ _ run'
  rw [gather, unpackedScanlines_some hids, List.flatMap_map]
  simp only [hscanline]
  rw [← List.flatMap_assoc, flatMap_splitBy_pointIds]
  have hruns := flatMap_map_splitBy_range (at32 pointIds) frame.totalNumberOfReturns.toNat
    fun j i => g (pointAt packed (at32 pointIds j) j) (returnAt packed i)
  simp only [key_start] at hruns
  exact hruns

/-! ### The nesting -/

/-- Scanlines as they come from a frame with point ids: none is empty, and a new one is begun, or a
new point in it, only where the id changes. -/
structure Nested (frame : Frame) (scanlines : List Scanline) : Prop where
  points_ne_nil : ∀ scanline ∈ scanlines, scanline.points ≠ []
  returns_ne_nil : ∀ scanline ∈ scanlines, ∀ point ∈ scanline.points, point.returns ≠ []
  located : ∀ scanline ∈ scanlines, ∀ point ∈ scanline.points, ∃ id,
    getScanlineIdByPointId frame point.id = .ok id ∧ id.toUInt32.toUInt64 = scanline.id
  scanlines_differ : scanlines.IsChain fun scanline next => scanline.id ≠ next.id
  points_differ : ∀ scanline ∈ scanlines,
    scanline.points.IsChain fun point next => point.id ≠ next.id

theorem nested_unpackedScanlines (hids : packed.pointId? = some pointIds)
    (hlocates : frame.Locates pointIds frame.totalNumberOfReturns.toNat) :
    Nested frame (unpackedScanlines frame packed) := by
  rw [unpackedScanlines_some hids]
  have hne {key : Nat → UInt64} {run : List Nat} {l : List Nat}
      (hrun : run ∈ l.splitBy (same key)) : run ≠ [] := List.ne_nil_of_mem_splitBy hrun
  refine ⟨?_, ?_, ?_, ?_, ?_⟩
  · intro scanline hscanline
    obtain ⟨run, hrun, rfl⟩ := List.mem_map.mp hscanline
    rw [scanlineOf, ne_eq, List.map_eq_nil_iff, List.splitBy_eq_nil]
    exact hne hrun
  · intro scanline hscanline point hpoint
    obtain ⟨run, hrun, rfl⟩ := List.mem_map.mp hscanline
    obtain ⟨run', hrun', rfl⟩ := List.mem_map.mp hpoint
    rw [pointOf, ne_eq, List.map_eq_nil_iff]
    exact List.ne_nil_of_mem_splitBy hrun'
  · intro scanline hscanline point hpoint
    obtain ⟨run, hrun, rfl⟩ := List.mem_map.mp hscanline
    obtain ⟨run', hrun', rfl⟩ := List.mem_map.mp hpoint
    have hfirst : first run' ∈ run := by
      rw [← List.flatten_splitBy (same (at32 pointIds)) run]
      exact List.mem_flatten_of_mem hrun' (first_mem (List.ne_nil_of_mem_splitBy hrun'))
    have hindex : first run' < frame.totalNumberOfReturns.toNat := by
      rw [← List.mem_range, ← List.flatten_splitBy (same (scanlineKey frame pointIds))
        (List.range frame.totalNumberOfReturns.toNat)]
      exact List.mem_flatten_of_mem hrun hfirst
    obtain ⟨id, hid, hkey⟩ := getScanlineIdByPointId_eq hlocates hindex
    refine ⟨id, hid, hkey.trans ?_⟩
    exact key_eq_of_mem_splitBy hrun hfirst (first_mem (hne hrun))
  · rw [List.isChain_map]
    apply List.IsChain.imp_of_mem_imp _ (isChain_splitBy _ _)
    intro run run' hrun hrun' hdiff
    exact hdiff _ (first_mem (hne hrun)) _ (first_mem (hne hrun'))
  · intro scanline hscanline
    obtain ⟨run, hrun, rfl⟩ := List.mem_map.mp hscanline
    rw [scanlineOf, List.isChain_map]
    apply List.IsChain.imp_of_mem_imp _ (isChain_splitBy _ _)
    intro run run' hrun hrun' hdiff
    exact hdiff _ (first_mem (List.ne_nil_of_mem_splitBy hrun)) _
      (first_mem (List.ne_nil_of_mem_splitBy hrun'))

/-- **Unpacking keeps every return.** A packed frame with point ids is unpacked into new scanlines
behind those it came with. Their returns, in order, are those of the arrays; each is in a point with
its id and with what the arrays hold at the first of the neighbouring returns with that id, and they
are nested by those ids. -/
theorem convertPointCloud_nests (hpacked : frame.packed? = some packed)
    (hids : packed.pointId? = some pointIds)
    (hsized : packed.Sized frame.totalNumberOfReturns.toNat) (hdirected : packed.Directed)
    (hlocates : frame.Locates pointIds frame.totalNumberOfReturns.toNat) :
    ∃ unpacked, convertPointCloud frame =
        .ok { frame with scanlines := frame.scanlines ++ unpacked, packed? := none } ∧
      gather (fun _ point ret => ({ point with returns := [] }, ret)) unpacked =
        (List.range frame.totalNumberOfReturns.toNat).map (fun i =>
          (pointAt packed (at32 pointIds i) (start (at32 pointIds) i), returnAt packed i)) ∧
      Nested frame unpacked := by
  refine ⟨unpackedScanlines frame packed, ?_, ?_, nested_unpackedScanlines hids hlocates⟩
  · apply convertPointCloud_eq hpacked hsized
    intro bytes hbytes
    rw [hids] at hbytes
    obtain rfl := Option.some.inj hbytes
    exact Or.inr ⟨hdirected, hlocates⟩
  · exact gather_unpackedScanlines (f := fun _ point ret => ({ point with returns := [] }, ret))
      (g := fun point ret => ({ point with returns := [] }, ret)) hids fun _ _ _ _ _ => rfl

theorem unpacked_frame_eq (hpacked : frame.packed? = some packed)
    (hids : packed.pointId? = some pointIds) (hnone : frame.scanlines = [])
    (hsized : packed.Sized frame.totalNumberOfReturns.toNat) (hdirected : packed.Directed)
    (hlocates : frame.Locates pointIds frame.totalNumberOfReturns.toNat) :
    convertPointCloud frame =
      .ok { frame with scanlines := unpackedScanlines frame packed, packed? := none } := by
  rw [convertPointCloud_eq hpacked hsized, hnone, List.nil_append]
  intro bytes hbytes
  rw [hids] at hbytes
  obtain rfl := Option.some.inj hbytes
  exact Or.inr ⟨hdirected, hlocates⟩

/-- Three returns of two points, in two scanlines of five points each. -/
def packedFrame : Frame where
  id? := some 12
  startTimeNs? := some 1700000000123456789
  scanPattern? := some { scanlinesUp? := some 1, scanlinesDown? := some 1 }
  totalNumberOfPoints? := some 10
  totalNumberOfReturns? := some 3
  packed? := some {
    length? := some 3
    cartesian? := some (List.replicate 12 1 ++ List.replicate 12 2 ++ List.replicate 12 3)
    direction? := some (List.replicate 24 9)
    ambientLightLevel? := some [0, 0, 0, 7, 0, 1, 0, 7, 0, 0, 0, 8]
    pointId? := some [0, 0, 0, 4, 0, 0, 0, 4, 0, 0, 0, 5]
    returnId? := some [0, 1, 0] }

theorem sized_packedFrame : ∀ packed ∈ packedFrame.packed?, packed.Sized 3 := by
  intro packed hpacked
  obtain rfl := Option.some.inj hpacked
  exact ⟨by decide, by decide, by decide, by decide, by decide, by decide, by decide, by decide⟩

theorem convertPointCloud_nests_packedFrame :
    ∃ unpacked, convertPointCloud packedFrame =
        .ok { packedFrame with scanlines := packedFrame.scanlines ++ unpacked, packed? := none } ∧
      gather (fun _ point ret => ({ point with returns := [] }, ret)) unpacked =
        (List.range packedFrame.totalNumberOfReturns.toNat).map (fun i =>
          (pointAt (packedFrame.packed?.getD {}) (at32 [0, 0, 0, 4, 0, 0, 0, 4, 0, 0, 0, 5] i)
              (start (at32 [0, 0, 0, 4, 0, 0, 0, 4, 0, 0, 0, 5]) i),
            returnAt (packedFrame.packed?.getD {}) i)) ∧
      Nested packedFrame unpacked :=
  convertPointCloud_nests rfl rfl (sized_packedFrame _ rfl) (by decide) (by decide)

/-! ### Whether a frame is unpacked -/

theorem locates_of_getScanlineIdByPointId {id : Int32} {pointId : UInt32}
    (h : getScanlineIdByPointId frame pointId = .ok id) :
    frame.pointsPerScanline ≠ 0 ∧ (pointId / frame.pointsPerScanline).toNat < 2 ^ 31 := by
  by_cases hpoints : frame.pointsPerScanline = 0
  · rw [getScanlineIdByPointId_of_eq_zero hpoints] at h
    cases h
  · refine ⟨hpoints, ?_⟩
    rw [getScanlineIdByPointId_of_ne_zero hpoints] at h
    by_contra hbig
    rw [if_neg hbig] at h
    cases h

theorem getScanlineIdByPointId_of_unpackReturn {cursor cursor' : Cursor} {i : Nat}
    (hids : packed.pointId? = some pointIds) (hsized : packed.Sized n) (hi : i < n)
    (h : unpackReturn frame packed cursor i = .ok cursor') :
    ∃ id, getScanlineIdByPointId frame (at32 pointIds i) = .ok id := by
  rw [unpackReturn, hids] at h
  simp only [(hsized.pointId pointIds hids).load32 hi, ok_bind, seekPoint, bind_eq_ok] at h
  obtain ⟨place, ⟨id, hid, -⟩, -⟩ := h
  exact ⟨id, hid⟩

/-- The first return opens a point. -/
theorem directed_of_unpackReturn {scanlines : List Scanline} {cursor : Cursor} {i : Nat}
    (hids : packed.pointId? = some pointIds) (hsized : packed.Sized n) (hi : i < n)
    (h : unpackReturn frame packed ⟨scanlines, none⟩ i = .ok cursor) : packed.Directed := by
  intro hdirection
  obtain ⟨direction, hdirection⟩ := Option.isSome_iff_exists.mp hdirection
  by_contra hnone
  have hload : load32 (packed.cartesian?.getD []) (i * 2 + 0) = .error (.readPastEnd (i * 2 + 0)) := by
    rw [Option.not_isSome_iff_eq_none.mp hnone]
    rfl
  have hpoint (id : UInt32) : newPoint packed id i = .error (.readPastEnd (i * 2 + 0)) := by
    rw [newPoint, hdirection, Option.mapM_some]
    simp only [hload]
    rfl
  rw [unpackReturn, hids] at h
  simp only [(hsized.pointId pointIds hids).load32 hi, ok_bind, seekPoint, hpoint, error_bind,
    bind_eq_ok] at h
  obtain ⟨place, ⟨id, -, hplace⟩, -⟩ := h
  cases hplace

theorem unpackable_of_convertPointCloud {out : Frame} (hpacked : frame.packed? = some packed)
    (hsized : packed.Sized frame.totalNumberOfReturns.toNat)
    (h : convertPointCloud frame = .ok out) : frame.Unpackable packed := by
  intro pointIds hids
  rw [Option.mem_def] at hids
  rw [convertPointCloud, hpacked] at h
  simp only [bind_eq_ok] at h
  obtain ⟨cursor, hloop, -⟩ := h
  have hlocated (i : Nat) (hi : i < frame.totalNumberOfReturns.toNat) :
      frame.pointsPerScanline ≠ 0 ∧ (at32 pointIds i / frame.pointsPerScanline).toNat < 2 ^ 31 := by
    obtain ⟨mid, mid', -, hstep⟩ := step_ok_of_foldlM_range hloop hi
    obtain ⟨id, hid⟩ := getScanlineIdByPointId_of_unpackReturn hids hsized hi hstep
    exact locates_of_getScanlineIdByPointId hid
  by_cases hreturns : frame.totalNumberOfReturns = 0
  · exact Or.inl hreturns
  · have hpos : 0 < frame.totalNumberOfReturns.toNat := by
      rw [Nat.pos_iff_ne_zero]
      exact fun hzero => hreturns (UInt32.toNat_inj.mp hzero)
    obtain ⟨start, next, hstart, hfirst⟩ := step_ok_of_foldlM_range hloop hpos
    rw [hids] at hstart
    obtain rfl := Except.ok.inj hstart
    refine Or.inr ⟨?_, (hlocated 0 hpos).1, fun i hi => (hlocated i hi).2⟩
    exact directed_of_unpackReturn hids hsized hpos hfirst

/-- **When a packed frame is unpacked.** With arrays of the announced size that is so exactly when
its points, if it has any, are spread over its scanlines and directions come with coordinates. -/
theorem convertPointCloud_isOk_iff (hpacked : frame.packed? = some packed)
    (hsized : packed.Sized frame.totalNumberOfReturns.toNat) :
    (∃ out, convertPointCloud frame = .ok out) ↔ frame.Unpackable packed := by
  refine ⟨?_, fun h => ⟨_, convertPointCloud_eq hpacked hsized h⟩⟩
  intro h
  obtain ⟨out, hout⟩ := h
  exact unpackable_of_convertPointCloud hpacked hsized hout

theorem convertPointCloud_isOk_iff_packedFrame :
    (∃ out, convertPointCloud packedFrame = .ok out) ↔
      packedFrame.Unpackable (packedFrame.packed?.getD {}) :=
  convertPointCloud_isOk_iff rfl (sized_packedFrame _ rfl)

/-! ### Directions -/

def Frame.withDirection (frame : Frame) (packed : Packed) (bytes : List UInt8) : Frame :=
  { frame with packed? := some { packed with direction? := some bytes } }

theorem unpackReturn_withDirection (frame : Frame) (packed : Packed) (bytes bytes' : List UInt8)
    (cursor : Cursor) (i : Nat) :
    unpackReturn (frame.withDirection packed bytes) { packed with direction? := some bytes } cursor
        i =
      unpackReturn (frame.withDirection packed bytes') { packed with direction? := some bytes' }
        cursor i := by
  have hscanline (id : UInt32) : getScanlineIdByPointId (frame.withDirection packed bytes) id =
      getScanlineIdByPointId (frame.withDirection packed bytes') id := rfl
  have hpoint (id : UInt32) : newPoint { packed with direction? := some bytes } id i =
      newPoint { packed with direction? := some bytes' } id i := by
    simp only [newPoint, Option.mapM_some]
  have hret : newReturn { packed with direction? := some bytes } i =
      newReturn { packed with direction? := some bytes' } i := rfl
  simp only [unpackReturn, seekPoint, hscanline, hpoint, hret]

/-- **Directions are not unpacked.** Two packed frames that differ in their directions alone are
converted alike, or fail alike. -/
theorem convertPointCloud_withDirection (frame : Frame) (packed : Packed)
    (bytes bytes' : List UInt8) :
    convertPointCloud (frame.withDirection packed bytes) =
      convertPointCloud (frame.withDirection packed bytes') := by
  have hstep : unpackReturn (frame.withDirection packed bytes)
      { packed with direction? := some bytes } =
      unpackReturn (frame.withDirection packed bytes') { packed with direction? := some bytes' } := by
    funext cursor i
    exact unpackReturn_withDirection frame packed bytes bytes' cursor i
  rw [convertPointCloud, convertPointCloud]
  simp only [Frame.withDirection] at hstep ⊢
  rw [hstep]
  rfl

end Ilumo.Blickfeld
