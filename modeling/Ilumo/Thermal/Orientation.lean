import Ilumo.Lib.Bytes
import Ilumo.Thermal.Survival

/-!
# Which way up the thermal picture is

The two modes of the node build frames that are half turns of each other. The thermal message holds
the frame row by row in the layout that the constructor wrote into it, and the heat map shows at
each of its positions the colour of the frame's value there, by its place in the range of the
sensor's values.
-/

namespace Ilumo.Thermal

open Bytes FloatingPoint Grid Script

variable {nc nr : Nat}

/-- The place of a value between the lowest and the highest one, in 255 steps. -/
def greyLevel (notANumber : UInt8) (lo hi x : ℚ) : UInt8 :=
  if lo = hi then notANumber
  else UInt8.ofNat ⌊half (half (half (x - lo) / half (hi - lo)) * 255)⌋.toNat

/-- The two messages have the size of the frame, the values are those of the sensor, rearranged, and
value and colour of a pixel stand at its row and column. -/
structure Shows (colorMap : UInt8 → Bgr) (notANumber : UInt8) (updown : Bool)
    (data : SensorData nc nr) (thermalImage : ThermalImage) (image : Image) : Prop where
  height : thermalImage.height = nr ∧ image.height = nr
  width : thermalImage.width = nc ∧ image.width = nc
  perm : thermalImage.data.Perm data.values
  pixels : ∃ lo hi, data.values.min? = some lo ∧ data.values.max? = some hi ∧
    ∀ (r : Fin nr) (c : Fin nc),
      thermalImage.data[r * thermalImage.width + c]? = some (thermalFrame updown data r c) ∧
        slice image.data (r * image.step + 3 * c) 3 =
          bgrBytes (colorMap (greyLevel notANumber lo hi (thermalFrame updown data r c)))

/-- The layout that the constructor writes into the two messages. -/
structure LaidOut (nc nr : Nat) (this : ThermalCameraPublisher) : Prop where
  height : this.dataMsg.height = nr ∧ this.imgMsg.height = nr
  width : this.dataMsg.width = nc ∧ this.imgMsg.width = nc
  step : this.imgMsg.step = nc * 3

theorem laidOut_new : LaidOut nc nr (.new nc nr) := ⟨⟨rfl, rfl⟩, ⟨rfl, rfl⟩, rfl⟩

variable {colorMap : UInt8 → Bgr} {notANumber : UInt8} {s s' : ThermalCameraPublisher}

theorem LaidOut.callback {invocation : Invocation nc nr} (h : LaidOut nc nr s)
    (hcallback : thermalcameraCallback colorMap notANumber invocation s = .ok () s') :
    LaidOut nc nr s' := by
  obtain ⟨-, ⟨-, rfl⟩ | ⟨data, header, filled, -, hfilled, rfl⟩⟩ :=
    thermalcameraCallback_eq_ok.mp hcallback
  · exact ⟨h.height, h.width, h.step⟩
  · obtain ⟨lo, hi, parsed, -, -, -, -, rfl⟩ := fillMessages_eq_ok.mp hfilled
    exact ⟨h.height, h.width, h.step⟩

theorem laidOut_of_spin {pre : List (Invocation nc nr)}
    (h : spin colorMap notANumber pre (.new nc nr) = .ok () s) : LaidOut nc nr s :=
  invariant_of_forM_ok (I := LaidOut nc nr) (fun _ _ _ hlaid => hlaid.callback) laidOut_new h

/-- The bytes of a pixel in an image message. -/
theorem slice_imgmsgData (heatmap : Grid nr nc Bgr) (r : Fin nr) (c : Fin nc) :
    slice (imgmsgData heatmap) (r * (nc * 3) + 3 * c) 3 = bgrBytes (heatmap r c) := by
  obtain ⟨hlt, hpixel⟩ := List.getElem?_eq_some_iff.mp (flatten_getElem? heatmap r c)
  have hwidth (colour : Bgr) : (bgrBytes colour).length = 3 := rfl
  have hstart : r * (nc * 3) + 3 * c = (r * nc + c) * 3 + 0 := by ring
  have hread := slice_flatMap hwidth [] (show 0 + 3 ≤ 3 from le_rfl) (flatten heatmap) _ hlt
  rw [List.append_nil, hpixel] at hread
  rw [hstart, imgmsgData, hread]
  rfl

theorem shade_eq_greyLevel {data : SensorData nc nr} (notANumber : UInt8) {lo hi : ℚ}
    (hlo : data.values.min? = some lo) (hhi : data.values.max? = some hi) (x : ℚ) :
    shade notANumber lo hi x = greyLevel notANumber lo hi x := by
  obtain ⟨hloMem, hlower⟩ := List.min?_eq_some_iff.mp hlo
  obtain ⟨hhiMem, -⟩ := List.max?_eq_some_iff.mp hhi
  rw [shade, greyLevel]
  by_cases hflat : lo = hi
  · rw [hflat, sub_self, half_zero, if_pos rfl, if_pos rfl]
    rfl
  · have hlt : lo < hi := lt_of_le_of_ne (hlower hi hhiMem) hflat
    rw [if_neg (half_sub_pos hhiMem hloMem hlt).ne', if_neg hflat]
    norm_num [toUInt8]
    rfl

/-- The range of the frame is that of the sensor's values. -/
theorem extremes_eq {updown : Bool} {data : SensorData nc nr} {lo hi : ℚ}
    (hlo : (flatten (thermalFrame updown data)).min? = some lo)
    (hhi : (flatten (thermalFrame updown data)).max? = some hi) :
    data.values.min? = some lo ∧ data.values.max? = some hi := by
  simp only [List.min?_eq_some_iff, List.max?_eq_some_iff, mem_flatten_thermalFrame] at hlo hhi ⊢
  exact ⟨hlo, hhi⟩

theorem exists_shows {data : SensorData nc nr} {header : Option FrameHeader} {nanoseconds : Nat}
    {updown : Bool} (hlaid : LaidOut nc nr s)
    (hcallback : thermalcameraCallback colorMap notANumber
      { result := .frame data header, nanoseconds, updown } s = .ok () s') :
    ∃ thermalImage image, s'.thermalData = s.thermalData ++ [thermalImage] ∧
      s'.images = s.images ++ [image] ∧
        Shows colorMap notANumber updown data thermalImage image := by
  obtain ⟨-, ⟨hresult, -⟩ | ⟨_, _, filled, hresult, hfilled, rfl⟩⟩ :=
    thermalcameraCallback_eq_ok.mp hcallback <;> cases hresult
  obtain ⟨lo, hi, parsed, hlo, hhi, -, -, rfl⟩ := fillMessages_eq_ok.mp hfilled
  obtain ⟨hlo, hhi⟩ := extremes_eq hlo hhi
  refine ⟨_, _, rfl, rfl, hlaid.height, hlaid.width, flatten_thermalFrame_perm updown data,
    lo, hi, hlo, hhi, fun r c => ⟨?_, ?_⟩⟩
  · change (flatten (thermalFrame updown data))[r * s.dataMsg.width + c]? = _
    rw [hlaid.width.1, flatten_getElem?]
  · change slice (imgmsgData _) (r * s.imgMsg.step + 3 * c) 3 = _
    rw [hlaid.step, slice_imgmsgData, shade_eq_greyLevel notANumber hlo hhi]

/-- **Mounting the camera upside down is a half turn of the picture.** The frames of the two modes
are half turns of each other, and in both modes, after any run, the published values are those of
the sensor, each at the row and column where the heat map shows its colour. -/
theorem upsideDown_halfTurn (data : SensorData nc nr) :
    thermalFrame true data = halfTurn (thermalFrame false data) ∧
      ∀ (colorMap : UInt8 → Bgr) (notANumber : UInt8) (before : List (Invocation nc nr))
        (s s' : ThermalCameraPublisher) (header : Option FrameHeader) (nanoseconds : Nat)
        (updown : Bool), spin colorMap notANumber before (.new nc nr) = .ok () s →
        thermalcameraCallback colorMap notANumber
          { result := .frame data header, nanoseconds, updown } s = .ok () s' →
        ∃ thermalImage image, s'.thermalData = s.thermalData ++ [thermalImage] ∧
          s'.images = s.images ++ [image] ∧
        Shows colorMap notANumber updown data thermalImage image :=
  ⟨thermalFrame_true data, fun _ _ _ _ _ _ _ _ hspin hcallback =>
    exists_shows (laidOut_of_spin hspin) hcallback⟩

/-- Two rows of three pixels, all of them different. -/
def sixPixels : SensorData 3 2 where
  values := [20, 21, 22, 23, 24, 30]
  size := rfl
  multiples := by decide +kernel

theorem upsideDown_halfTurn_sixPixels :
    thermalFrame true sixPixels = halfTurn (thermalFrame false sixPixels) ∧
      flatten (thermalFrame true sixPixels) = [23, 24, 30, 20, 21, 22] ∧
      ∃ s', thermalcameraCallback (fun grey => (grey, grey, grey)) 0
          { result := .frame sixPixels (some { senxorTemperature := 30 }), nanoseconds := 5,
            updown := true } (.new 3 2) = .ok () s' ∧
        ∃ thermalImage image, s'.thermalData = [thermalImage] ∧ s'.images = [image] ∧
          Shows (fun grey => (grey, grey, grey)) 0 true sixPixels thermalImage image := by
  have hready : Ready (ThermalCameraPublisher.new 3 2).lastImgTs
      { result := .frame sixPixels (some { senxorTemperature := 30 }), nanoseconds := 5,
        updown := true } :=
    ⟨.inl rfl, Option.some_ne_none _, ⟨20, by decide, 30, by decide, by decide⟩, by decide⟩
  obtain ⟨s', hcallback, -⟩ := safe_of_ready (fun _ hmem => absurd hmem List.not_mem_nil) hready
  obtain ⟨hturn, hruns⟩ := upsideDown_halfTurn sixPixels
  exact ⟨hturn, by decide +kernel, s', hcallback, hruns _ _ [] _ _ _ _ _ rfl hcallback⟩

end Ilumo.Thermal
