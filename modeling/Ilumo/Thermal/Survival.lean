import Ilumo.Thermal.Callback

/-!
# The runs that the thermal callback survives

An invocation may fail for what it has read and for when it has read it: a clock that stands still
makes the debug message divide by zero, a frame without a header has no temperature, and a frame of
one temperature has no range to be normalised by. A run is survived exactly when none of its
invocations meets one of these, which depends on the readings alone.
-/

namespace Ilumo.Thermal

open FloatingPoint Grid Script

variable {nc nr : Nat}

/-- The frame shows more than one temperature. -/
def SensorData.Varied (data : SensorData nc nr) : Prop :=
  ∃ x ∈ data.values, ∃ y ∈ data.values, x ≠ y

/-- What has left on the topics: nothing without data, and with data one message on each, all three
with one stamp. -/
def Publishes (result : ReadResult nc nr) (s s' : ThermalCameraPublisher) : Prop :=
  match result with
  | .nothing =>
      s'.thermalData = s.thermalData ∧ s'.images = s.images ∧ s'.temperatures = s.temperatures
  | .frame _ _ => ∃ thermalImage image temperature,
      s'.thermalData = s.thermalData ++ [thermalImage] ∧ s'.images = s.images ++ [image] ∧
        s'.temperatures = s.temperatures ++ [temperature] ∧
        thermalImage.header.stamp = image.header.stamp ∧
        image.header.stamp = temperature.header.stamp

/-- Every invocation of the run returns, has never divided by zero, and publishes what it should. -/
def Survives (colorMap : UInt8 → Bgr) (notANumber : UInt8)
    (invocations : List (Invocation nc nr)) : Prop :=
  ∀ pre invocation post, invocations = pre ++ invocation :: post →
    ∃ s s', spin colorMap notANumber pre (.new nc nr) = .ok () s ∧
      thermalcameraCallback colorMap notANumber invocation s = .ok () s' ∧
      (∀ divisor ∈ s'.divisors, divisor ≠ 0) ∧ Publishes invocation.result s s'

/-- The clock has moved since the reading before, if that was not zero, and a frame has a header, is
not of one temperature, and was read before the seconds of a stamp run out. -/
def Ready (last : Nat) (invocation : Invocation nc nr) : Prop :=
  (last = 0 ∨ invocation.nanoseconds ≠ last) ∧
    match invocation.result with
    | .nothing => True
    | .frame data header =>
        header ≠ none ∧ data.Varied ∧ invocation.nanoseconds / 10 ^ 9 < 2 ^ 31

/-- The clock reading of the latest invocation, 0 if there was none. -/
def lastReading (invocations : List (Invocation nc nr)) : Nat :=
  (invocations.getLast?.map Invocation.nanoseconds).getD 0

/-! ### The range of a frame -/

theorem mem_flatten_thermalFrame {updown : Bool} {data : SensorData nc nr} {x : ℚ} :
    x ∈ flatten (thermalFrame updown data) ↔ x ∈ data.values :=
  (flatten_thermalFrame_perm updown data).mem_iff

theorem exists_extremes (updown : Bool) {data : SensorData nc nr} (hvaried : data.Varied) :
    ∃ lo hi, (flatten (thermalFrame updown data)).min? = some lo ∧
      (flatten (thermalFrame updown data)).max? = some hi := by
  obtain ⟨x, hx, -⟩ := hvaried
  have hmem : x ∈ flatten (thermalFrame updown data) := mem_flatten_thermalFrame.mpr hx
  exact ⟨_, _, Option.eq_some_of_isSome (List.isSome_min?_of_mem hmem),
    Option.eq_some_of_isSome (List.isSome_max?_of_mem hmem)⟩

/-- The difference of two pixels is not rounded to zero. -/
theorem half_sub_pos {data : SensorData nc nr} {x y : ℚ} (hx : x ∈ data.values)
    (hy : y ∈ data.values) (hlt : y < x) : 0 < half (x - y) := by
  have hxInt := (Rat.den_eq_one_iff _).mp (data.multiples x hx)
  have hyInt := (Rat.den_eq_one_iff _).mp (data.multiples y hy)
  have hcast : ((y * 2 ^ 24).num : ℚ) < (x * 2 ^ 24).num := by
    rw [hxInt, hyInt]
    linarith
  have hnext : (y * 2 ^ 24).num + 1 ≤ (x * 2 ^ 24).num := by exact_mod_cast hcast
  have hunit : y * 2 ^ 24 + 1 ≤ x * 2 ^ 24 := by
    rw [← hxInt, ← hyInt]
    exact_mod_cast hnext
  rw [half_pos_iff]
  norm_num
  linarith

/-- The range is zero exactly for a frame of one temperature. -/
theorem range_ne_zero_iff {updown : Bool} {data : SensorData nc nr} {lo hi : ℚ}
    (hlo : (flatten (thermalFrame updown data)).min? = some lo)
    (hhi : (flatten (thermalFrame updown data)).max? = some hi) :
    half (hi - lo) ≠ 0 ↔ data.Varied := by
  obtain ⟨hloMem, hlower⟩ := List.min?_eq_some_iff.mp hlo
  obtain ⟨hhiMem, hupper⟩ := List.max?_eq_some_iff.mp hhi
  simp only [mem_flatten_thermalFrame] at hloMem hlower hhiMem hupper
  refine ⟨?_, ?_⟩
  · intro hrange
    refine ⟨hi, hhiMem, lo, hloMem, ?_⟩
    rintro rfl
    exact hrange (by rw [sub_self, half_zero])
  · intro hvaried
    obtain ⟨x, hx, y, hy, hne⟩ := hvaried
    have hlt : lo < hi := by
      rcases lt_or_gt_of_ne hne with hlt | hgt
      · exact (hlower x hx).trans_lt (hlt.trans_le (hupper y hy))
      · exact (hlower y hy).trans_lt (hgt.trans_le (hupper x hx))
    exact (half_sub_pos hhiMem hloMem hlt).ne'

/-! ### One invocation -/

variable {colorMap : UInt8 → Bgr} {notANumber : UInt8} {s s' : ThermalCameraPublisher}
  {invocation : Invocation nc nr}

theorem logDivisors_ne_zero {nanoseconds : Nat}
    (hmoved : s.lastImgTs = 0 ∨ nanoseconds ≠ s.lastImgTs) :
    ∀ divisor ∈ s.logDivisors nanoseconds, divisor ≠ 0 := by
  have hsecond : (10 ^ 9 : ℚ) ≠ 0 := by norm_num
  rw [ThermalCameraPublisher.logDivisors]
  split
  · simp [hsecond]
  · next hagain =>
      have hne := hmoved.resolve_left hagain
      simp [hsecond, sub_eq_zero, hne]

theorem ready_of_safe (h : thermalcameraCallback colorMap notANumber invocation s = .ok () s')
    (hnonzero : ∀ divisor ∈ s'.divisors, divisor ≠ 0) : Ready s.lastImgTs invocation := by
  obtain ⟨hmoved, ⟨hresult, -⟩ | ⟨data, header, filled, hresult, hfilled, rfl⟩⟩ :=
    thermalcameraCallback_eq_ok.mp h
  · rw [Ready, hresult]
    exact ⟨hmoved, trivial⟩
  · obtain ⟨lo, hi, parsed, hlo, hhi, rfl, hbound, rfl⟩ := fillMessages_eq_ok.mp hfilled
    have hrange : half (hi - lo) ≠ 0 := by
      apply hnonzero
      exact List.mem_append_right _ (List.mem_singleton_self _)
    rw [Ready, hresult]
    exact ⟨hmoved, Option.some_ne_none _, (range_ne_zero_iff hlo hhi).mp hrange, hbound⟩

theorem safe_of_ready (hnonzero : ∀ divisor ∈ s.divisors, divisor ≠ 0)
    (hready : Ready s.lastImgTs invocation) :
    ∃ s', thermalcameraCallback colorMap notANumber invocation s = .ok () s' ∧
      (∀ divisor ∈ s'.divisors, divisor ≠ 0) ∧ Publishes invocation.result s s' := by
  obtain ⟨hmoved, hframe⟩ := hready
  have hlogged : ∀ divisor ∈ (s.logged invocation.nanoseconds).divisors, divisor ≠ 0 := by
    intro divisor hmem
    rcases List.mem_append.mp hmem with hold | hlog
    · exact hnonzero divisor hold
    · exact logDivisors_ne_zero hmoved divisor hlog
  cases hresult : invocation.result with
  | nothing =>
      exact ⟨s.logged invocation.nanoseconds,
        thermalcameraCallback_eq_ok.mpr ⟨hmoved, .inl ⟨hresult, rfl⟩⟩, hlogged, rfl, rfl, rfl⟩
  | frame data header =>
      simp only [hresult] at hframe
      obtain ⟨hheader, hvaried, hbound⟩ := hframe
      obtain ⟨parsed, rfl⟩ := Option.ne_none_iff_exists'.mp hheader
      obtain ⟨lo, hi, hlo, hhi⟩ := exists_extremes invocation.updown hvaried
      let frame := thermalFrame invocation.updown data
      let filled := ((s.logged invocation.nanoseconds).note (half (hi - lo))).filled frame
        (fun r c => colorMap (shade notANumber lo hi (frame r c))) parsed.senxorTemperature
        (timeOf invocation.nanoseconds)
      have hfilled : fillMessages colorMap notANumber frame (some parsed) invocation.nanoseconds
          (s.logged invocation.nanoseconds) = .ok () filled :=
        fillMessages_eq_ok.mpr ⟨lo, hi, parsed, hlo, hhi, rfl, hbound, rfl⟩
      refine ⟨filled.publish, thermalcameraCallback_eq_ok.mpr ⟨hmoved, .inr ⟨data, some parsed,
        filled, hresult, hfilled, rfl⟩⟩, ?_, _, _, _, rfl, rfl, rfl, rfl, rfl⟩
      intro divisor hmem
      rcases List.mem_append.mp hmem with hold | hrange
      · exact hlogged divisor hold
      · rw [List.mem_singleton.mp hrange]
        exact (range_ne_zero_iff hlo hhi).mpr hvaried

/-! ### The run -/

theorem lastImgTs_of_ok (h : thermalcameraCallback colorMap notANumber invocation s = .ok () s') :
    s'.lastImgTs = invocation.nanoseconds := by
  obtain ⟨-, ⟨-, rfl⟩ | ⟨data, header, filled, -, hfilled, rfl⟩⟩ :=
    thermalcameraCallback_eq_ok.mp h
  · rfl
  · obtain ⟨lo, hi, parsed, -, -, -, -, rfl⟩ := fillMessages_eq_ok.mp hfilled
    rfl

theorem lastImgTs_of_spin {pre : List (Invocation nc nr)}
    (h : spin colorMap notANumber pre (.new nc nr) = .ok () s) :
    s.lastImgTs = lastReading pre := by
  rcases List.eq_nil_or_concat pre with rfl | ⟨before, last, rfl⟩
  · cases h
    rfl
  · rw [List.concat_eq_append] at h ⊢
    obtain ⟨mid, -, hlast⟩ := forM_append_eq_ok.mp h
    rw [forM_singleton] at hlast
    rw [lastImgTs_of_ok hlast, lastReading, List.getLast?_concat]
    rfl

theorem ready_of_survives {invocations : List (Invocation nc nr)}
    (h : Survives colorMap notANumber invocations) (pre post : List (Invocation nc nr))
    (hsplit : invocations = pre ++ invocation :: post) : Ready (lastReading pre) invocation := by
  obtain ⟨s, s', hspin, hcallback, hnonzero, -⟩ := h pre invocation post hsplit
  rw [← lastImgTs_of_spin hspin]
  exact ready_of_safe hcallback hnonzero

/-- **When the thermal callback survives a run.** Exactly when every invocation was ready for what
it read, given the reading before it. -/
theorem survives_iff (colorMap : UInt8 → Bgr) (notANumber : UInt8)
    (invocations : List (Invocation nc nr)) :
    Survives colorMap notANumber invocations ↔
      ∀ pre invocation post, invocations = pre ++ invocation :: post →
        Ready (lastReading pre) invocation := by
  refine ⟨fun h pre invocation post hsplit => ready_of_survives h pre post hsplit, ?_⟩
  intro h pre invocation post hsplit
  have hadmits : Admits (thermalcameraCallback colorMap notANumber)
      (fun s invocation => Ready s.lastImgTs invocation) (.new nc nr) invocations := by
    intro pre invocation post s hsplit hspin
    rw [lastImgTs_of_spin hspin]
    exact h pre invocation post hsplit
  rw [hsplit] at hadmits
  obtain ⟨s, hspin, hnonzero⟩ := hadmits.of_append.exists_ok
    (I := fun s => ∀ divisor ∈ s.divisors, divisor ≠ 0)
    (fun s invocation hnonzero hready => (safe_of_ready hnonzero hready).imp
      fun _ hsafe => ⟨hsafe.1, hsafe.2.1⟩) (fun _ hmem => absurd hmem List.not_mem_nil)
  obtain ⟨s', hsafe⟩ := safe_of_ready hnonzero (hadmits pre invocation post s rfl hspin)
  exact ⟨s, s', hspin, hsafe⟩

/-! ### Three runs that end badly -/

/-- A full frame of one temperature. -/
def flatData : SensorData 80 62 where
  values := List.replicate 4960 25
  size := List.length_replicate
  multiples x hx := by
    rw [List.eq_of_mem_replicate hx]
    decide +kernel

/-- A full frame with one pixel hotter than the others. -/
def spotData : SensorData 80 62 where
  values := 30 :: List.replicate 4959 25
  size := by rw [List.length_cons, List.length_replicate]
  multiples x hx := by
    rcases List.mem_cons.mp hx with rfl | hx
    · decide +kernel
    · rw [List.eq_of_mem_replicate hx]
      decide +kernel

def stillClock : List (Invocation 80 62) :=
  [{ result := .nothing, nanoseconds := 5, updown := true },
    { result := .nothing, nanoseconds := 5, updown := true }]

def noHeader : List (Invocation 80 62) :=
  [{ result := .frame spotData none, nanoseconds := 5, updown := true }]

def flatFrame : List (Invocation 80 62) :=
  [{ result := .frame flatData (some { senxorTemperature := 30 })
     nanoseconds := 5
     updown := true }]

theorem flatData_not_varied : ¬ flatData.Varied := by
  intro h
  obtain ⟨x, hx, y, hy, hne⟩ := h
  rw [List.eq_of_mem_replicate hx, List.eq_of_mem_replicate hy] at hne
  exact hne rfl

/-- The second reading of one time divides by zero, as does the frame of one temperature, and the
missing header raises. -/
theorem not_survives :
    ¬ Survives (fun grey => (grey, grey, grey)) 0 stillClock ∧
      ¬ Survives (fun grey => (grey, grey, grey)) 0 noHeader ∧
      ¬ Survives (fun grey => (grey, grey, grey)) 0 flatFrame := by
  refine ⟨?_, ?_, ?_⟩
  · intro hsurvives
    obtain ⟨hmoved, -⟩ := ready_of_survives hsurvives [stillClock[0]] [] rfl
    exact absurd hmoved (by decide)
  · intro hsurvives
    obtain ⟨-, hheader, -⟩ := ready_of_survives hsurvives [] [] rfl
    exact hheader rfl
  · intro hsurvives
    obtain ⟨-, -, hvaried, -⟩ := ready_of_survives hsurvives [] [] rfl
    exact flatData_not_varied hvaried

end Ilumo.Thermal
