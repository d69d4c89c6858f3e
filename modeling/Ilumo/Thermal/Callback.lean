import Ilumo.Thermal.Publisher
import Mathlib.Algebra.Order.Field.Rat
import Mathlib.Tactic.Linarith

/-!
# What an invocation of the thermal callback does

An invocation that returns has left the three topics alone or has published one filled message on
each. The equations say for which readings it returns and what it has divided by; a reading for
which it does not return raises.
-/

namespace Ilumo.Thermal

open FloatingPoint Grid Script

variable {nc nr : Nat} {s s' : ThermalCameraPublisher}

theorem modify_eq_ok {f : ThermalCameraPublisher → ThermalCameraPublisher} {u : Unit} :
    (modify f : Action Unit) s = .ok u s' ↔ s' = f s := by
  refine ⟨?_, ?_⟩
  · intro h
    cases h
    rfl
  · intro h
    rw [h]
    rfl

theorem return_eq_ok {α : Type} {a b : α} : (pure a : Action α) s = .ok b s' ↔ b = a ∧ s' = s := by
  refine ⟨?_, ?_⟩
  · intro h
    cases h
    exact ⟨rfl, rfl⟩
  · intro h
    obtain ⟨rfl, rfl⟩ := h
    rfl

theorem throw_ne_ok {α : Type} {e : PyError} {a : α} : (throw e : Action α) s ≠ .ok a s' :=
  nofun

theorem divide_eq_ok {dividend divisor x : ℚ} : divide dividend divisor s = .ok x s' ↔
    divisor ≠ 0 ∧ x = dividend / divisor ∧ s' = s.note divisor := by
  by_cases hzero : divisor = 0
  · refine iff_of_false ?_ fun h => h.1 hzero
    simp only [divide, if_pos hzero, bind_eq_ok, throw_ne_ok, and_false, exists_false,
      not_false_eq_true]
  · simp only [divide, if_neg hzero, bind_eq_ok, modify_eq_ok, return_eq_ok]
    refine ⟨?_, ?_⟩
    · intro h
      obtain ⟨_, _, rfl, rfl, rfl⟩ := h
      exact ⟨hzero, rfl, rfl⟩
    · intro h
      exact ⟨(), _, rfl, h.2⟩

theorem toMsg_eq_ok {nanoseconds : Nat} {stamp : Time} : toMsg nanoseconds s = .ok stamp s' ↔
    nanoseconds / 10 ^ 9 < 2 ^ 31 ∧ stamp = timeOf nanoseconds ∧ s' = s := by
  rw [toMsg]
  split
  · next hin => simp only [return_eq_ok, hin, true_and]
  · next hout => simp only [throw_ne_ok, hout, false_and]

theorem senxorTemperature_eq_ok {header : Option FrameHeader} {temperature : ℚ} :
    senxorTemperature header s = .ok temperature s' ↔
      ∃ parsed, header = some parsed ∧ temperature = parsed.senxorTemperature ∧ s' = s := by
  cases header with
  | none => simp only [senxorTemperature, throw_ne_ok, reduceCtorEq, false_and, exists_false]
  | some parsed =>
      simp only [senxorTemperature, return_eq_ok, Option.some.injEq, exists_eq_left']

/-! ### The heat map -/

/-- The grey level of a pixel in a frame whose values lie between `lo` and `hi`. -/
def shade (notANumber : UInt8) (lo hi x : ℚ) : UInt8 :=
  toUInt8 notANumber
    ((if half (hi - lo) = 0 then none else some (half (half (x - lo) / half (hi - lo)))).map
      fun x => 0 + half (x * (255 - 0)))

theorem remap_eq_ok {notANumber : UInt8} {data : Grid nr nc ℚ} {out : Grid nr nc UInt8} :
    remap notANumber data s = .ok out s' ↔
      ∃ lo hi, (flatten data).min? = some lo ∧ (flatten data).max? = some hi ∧
        out = (fun r c => shade notANumber lo hi (data r c)) ∧ s' = s.note (half (hi - lo)) := by
  cases hlo : (flatten data).min? with
  | none =>
      refine iff_of_false ?_ fun h => ?_
      · simp only [remap, hlo, throw_ne_ok, not_false_eq_true]
      · obtain ⟨lo, hi, hlo', -⟩ := h
        cases hlo'
  | some lo =>
      cases hhi : (flatten data).max? with
      | none =>
          refine iff_of_false ?_ fun h => ?_
          · simp only [remap, hlo, hhi, throw_ne_ok, not_false_eq_true]
          · obtain ⟨lo, hi, -, hhi', -⟩ := h
            cases hhi'
      | some hi =>
          simp only [remap, hlo, hhi, divideArray, bind_eq_ok, modify_eq_ok, return_eq_ok]
          refine ⟨?_, ?_⟩
          · intro h
            obtain ⟨_, _, ⟨_, _, rfl, rfl, rfl⟩, rfl, rfl⟩ := h
            exact ⟨lo, hi, rfl, rfl, rfl, rfl⟩
          · intro h
            obtain ⟨lo', hi', hlo', hhi', rfl, rfl⟩ := h
            obtain rfl := Option.some.inj hlo'
            obtain rfl := Option.some.inj hhi'
            exact ⟨_, _, ⟨(), _, rfl, rfl, rfl⟩, rfl, rfl⟩

/-! ### The messages -/

/-- The node with its three messages filled from the frame, its heat map and the temperature. -/
def ThermalCameraPublisher.filled (this : ThermalCameraPublisher) (frame : Grid nr nc ℚ)
    (heatmap : Grid nr nc Bgr) (temperature : ℚ) (stamp : Time) : ThermalCameraPublisher :=
  { this with
    dataMsg := { this.dataMsg with
      header := { this.dataMsg.header with stamp }
      data := flatten frame }
    imgMsg := { this.imgMsg with
      header := { this.imgMsg.header with stamp }
      data := imgmsgData heatmap }
    tempMsg := { header := { this.tempMsg.header with stamp }, temperature } }

theorem fillMessages_eq_ok {colorMap : UInt8 → Bgr} {notANumber : UInt8} {frame : Grid nr nc ℚ}
    {header : Option FrameHeader} {nanoseconds : Nat} {u : Unit} :
    fillMessages colorMap notANumber frame header nanoseconds s = .ok u s' ↔
      ∃ lo hi parsed, (flatten frame).min? = some lo ∧ (flatten frame).max? = some hi ∧
        header = some parsed ∧ nanoseconds / 10 ^ 9 < 2 ^ 31 ∧
        s' = (s.note (half (hi - lo))).filled frame
          (fun r c => colorMap (shade notANumber lo hi (frame r c))) parsed.senxorTemperature
          (timeOf nanoseconds) := by
  simp only [fillMessages, bind_eq_ok, modify_eq_ok, remap_eq_ok, toMsg_eq_ok,
    senxorTemperature_eq_ok, exists_const, exists_eq_left, exists_and_left, and_assoc]
  refine ⟨?_, ?_⟩
  · intro h
    obtain ⟨_, _, ⟨lo, hlo, hi, hhi, rfl, rfl⟩, hbound, -, _, _, ⟨parsed, rfl, rfl, rfl⟩, -,
      rfl⟩ := h
    exact ⟨lo, hlo, hi, hhi, parsed, rfl, hbound, rfl⟩
  · intro h
    obtain ⟨lo, hlo, hi, hhi, parsed, rfl, hbound, rfl⟩ := h
    exact ⟨_, _, ⟨lo, hlo, hi, hhi, rfl, rfl⟩, hbound, hbound, _, _, ⟨parsed, rfl, rfl, rfl⟩,
      hbound, rfl⟩

/-! ### The invocation -/

/-- What the debug messages divide by. -/
def ThermalCameraPublisher.logDivisors (this : ThermalCameraPublisher) (nanoseconds : Nat) :
    List ℚ :=
  if this.lastImgTs = 0 then [10 ^ 9] else [10 ^ 9, nanoseconds - this.lastImgTs]

/-- The node after the debug messages, with the clock reading kept. -/
def ThermalCameraPublisher.logged (this : ThermalCameraPublisher) (nanoseconds : Nat) :
    ThermalCameraPublisher :=
  { this with
    lastImgTs := nanoseconds
    divisors := this.divisors ++ this.logDivisors nanoseconds }

theorem logFrequency_eq_ok {nanoseconds : Nat} {u : Unit} :
    logFrequency nanoseconds s = .ok u s' ↔
      (s.lastImgTs = 0 ∨ nanoseconds ≠ s.lastImgTs) ∧
        s' = { s with divisors := s.divisors ++ s.logDivisors nanoseconds } := by
  have hget : (get : Action ThermalCameraPublisher) (s.note (10 ^ 9)) =
      .ok (s.note (10 ^ 9)) (s.note (10 ^ 9)) := rfl
  have hsecond : (10 ^ 9 : ℚ) ≠ 0 := by norm_num
  rw [logFrequency, bind_of_ok (divide_eq_ok.mpr ⟨hsecond, rfl, rfl⟩), bind_of_ok hget,
    ThermalCameraPublisher.logDivisors]
  by_cases hfirst : s.lastImgTs = 0
  · have hskip : ¬ (s.note (10 ^ 9)).lastImgTs ≠ 0 := not_not.mpr hfirst
    rw [if_neg hskip, if_pos hfirst, return_eq_ok]
    exact ⟨fun h => ⟨.inl hfirst, h.2⟩, fun h => ⟨rfl, h.2⟩⟩
  · have hagain : (s.note (10 ^ 9)).lastImgTs ≠ 0 := hfirst
    have hmoved : (nanoseconds : ℚ) - s.lastImgTs ≠ 0 ↔ nanoseconds ≠ s.lastImgTs := by
      rw [ne_eq, sub_eq_zero, Nat.cast_inj]
    have hdivisors : (s.note (10 ^ 9)).note (nanoseconds - s.lastImgTs) =
        { s with divisors := s.divisors ++ [10 ^ 9, (nanoseconds : ℚ) - s.lastImgTs] } := by
      simp only [ThermalCameraPublisher.note, List.append_assoc, List.singleton_append]
    rw [if_pos hagain, if_neg hfirst, ← hdivisors]
    simp only [bind_eq_ok, divide_eq_ok, return_eq_ok, hfirst, false_or]
    refine ⟨?_, ?_⟩
    · intro h
      obtain ⟨_, _, ⟨hdivisor, -, rfl⟩, -, rfl⟩ := h
      exact ⟨hmoved.mp hdivisor, rfl⟩
    · intro h
      obtain ⟨hne, rfl⟩ := h
      exact ⟨_, _, ⟨hmoved.mpr hne, rfl, rfl⟩, trivial, rfl⟩

/-- **One invocation.** It returns if the clock has moved since the reading before and, in case of a
frame, the messages can be filled. -/
theorem thermalcameraCallback_eq_ok {colorMap : UInt8 → Bgr} {notANumber : UInt8}
    {invocation : Invocation nc nr} {u : Unit} :
    thermalcameraCallback colorMap notANumber invocation s = .ok u s' ↔
      (s.lastImgTs = 0 ∨ invocation.nanoseconds ≠ s.lastImgTs) ∧
        (invocation.result = .nothing ∧ s' = s.logged invocation.nanoseconds ∨
          ∃ data header filled, invocation.result = .frame data header ∧
            fillMessages colorMap notANumber (thermalFrame invocation.updown data) header
              invocation.nanoseconds (s.logged invocation.nanoseconds) = .ok () filled ∧
            s' = filled.publish) := by
  simp only [thermalcameraCallback, bind_eq_ok, modify_eq_ok, logFrequency_eq_ok, exists_const,
    and_assoc, exists_and_left, exists_eq_left]
  refine and_congr_right fun _ => ?_
  cases invocation.result with
  | nothing =>
      simp only [return_eq_ok, true_and, ThermalCameraPublisher.logged, reduceCtorEq, false_and,
        exists_false, or_false]
  | frame data header =>
      simp only [bind_eq_ok, modify_eq_ok, reduceCtorEq, false_and, false_or]
      refine ⟨?_, ?_⟩
      · intro h
        obtain ⟨⟨⟩, filled, hfilled, hout⟩ := h
        exact ⟨data, header, rfl, filled, hfilled, hout⟩
      · intro h
        obtain ⟨_, _, hresult, filled, hfilled, hout⟩ := h
        cases hresult
        exact ⟨(), filled, hfilled, hout⟩

end Ilumo.Thermal
