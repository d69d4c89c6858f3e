import Ilumo.Lidar.Bursts
import Mathlib.Tactic.FieldSimp

/-!
# The averaged message

Six totals are divided by the number of samples. Through the loop each total is the sum of its
component over the entries the burst has so far, so the quotient is the mean of the burst, unless
the message has no samples: then all six divisions are by zero.
-/

namespace Ilumo

inductive Component where
  | ax
  | ay
  | az
  | rx
  | ry
  | rz
  deriving DecidableEq, Repr

def ImuSingle.component (single : ImuSingle) : Component → ℚ
  | .ax => single.linearAcceleration.x
  | .ay => single.linearAcceleration.y
  | .az => single.linearAcceleration.z
  | .rx => single.angularVelocity.x
  | .ry => single.angularVelocity.y
  | .rz => single.angularVelocity.z

def Imu.component {α : Type} (avg : Imu α) : Component → α
  | .ax => avg.linearAcceleration.x
  | .ay => avg.linearAcceleration.y
  | .az => avg.linearAcceleration.z
  | .rx => avg.angularVelocity.x
  | .ry => avg.angularVelocity.y
  | .rz => avg.angularVelocity.z

namespace Lidar

open Machine

def Totals.component (totals : Totals) : Component → ℚ
  | .ax => totals.totalAx
  | .ay => totals.totalAy
  | .az => totals.totalAz
  | .rx => totals.totalRx
  | .ry => totals.totalRy
  | .rz => totals.totalRz

/-- The values of one component over a burst, in order. -/
def column (entries : List ImuSingle) (c : Component) : List ℚ :=
  entries.map fun single => single.component c

theorem column_snoc (entries : List ImuSingle) (single : ImuSingle) (c : Component) :
    column (entries ++ [single]) c = column entries c ++ [single.component c] := by
  rw [column, List.map_append]
  rfl

theorem length_column (entries : List ImuSingle) (c : Component) :
    (column entries c).length = entries.length :=
  List.length_map ..

/-- The value is a number, and as often as there are values it is their sum. -/
def MeanOf (values : List ℚ) (value : Option ℚ) : Prop :=
  ∃ mean, value = some mean ∧ values.length * mean = values.sum

theorem meanOf_quotient_iff {values : List ℚ} :
    MeanOf values (quotient values.sum values.length) ↔ values ≠ [] := by
  have hlength : (values.length : ℚ) = 0 ↔ values = [] := by
    rw [Nat.cast_eq_zero, List.length_eq_zero_iff]
  rw [MeanOf, quotient]
  by_cases hnone : values = []
  · rw [if_pos (hlength.mpr hnone)]
    simp [hnone]
  · have hpos : (values.length : ℚ) ≠ 0 := hlength.not.mpr hnone
    rw [if_neg hpos]
    exact iff_of_true ⟨_, rfl, by field_simp⟩ hnone

/-! ### The loop -/

/-- The totals are those of the entries in the burst so far. -/
structure SumsUp (entries : List ImuSingle) (totals : Totals) : Prop where
  numberOfSamples : totals.numberOfSamples = entries.length
  component : ∀ c, totals.component c = (column entries c).sum

theorem sumsUp_nil : SumsUp [] {} := by
  refine ⟨rfl, ?_⟩
  intro c
  cases c <;> rfl

theorem Totals.component_plus (totals : Totals) (single : ImuSingle) (c : Component) :
    (totals.plus single).component c = totals.component c + single.component c := by
  cases c <;> rfl

theorem SumsUp.plus {entries : List ImuSingle} {totals : Totals} (h : SumsUp entries totals)
    (single : ImuSingle) : SumsUp (entries ++ [single]) (totals.plus single) := by
  refine ⟨?_, ?_⟩
  · rw [Totals.plus, h.numberOfSamples, List.length_append]
    norm_num
  · intro c
    rw [Totals.component_plus, h.component, column_snoc, List.sum_append, List.sum_singleton]

theorem SumsUp.foldl {entries : List ImuSingle} {totals : Totals} (h : SumsUp entries totals)
    (more : List ImuSingle) : SumsUp (entries ++ more) (more.foldl Totals.plus totals) := by
  induction more generalizing entries totals with
  | nil =>
      rw [List.append_nil]
      exact h
  | cons single more ih =>
      have hnext := ih (h.plus single)
      rw [List.append_assoc] at hnext
      exact hnext

theorem component_averagedImuMsg (avgImuMsg : Imu (Option ℚ)) (t : UInt64) (totals : Totals)
    (c : Component) : (averagedImuMsg avgImuMsg t totals).component c =
      quotient (totals.component c) totals.numberOfSamples := by
  cases c <;> rfl

theorem meanOf_averagedImuMsg_iff {avgImuMsg : Imu (Option ℚ)} {t : UInt64}
    {entries : List ImuSingle} (c : Component) :
    MeanOf (column entries c)
        ((averagedImuMsg avgImuMsg t (entries.foldl Totals.plus {})).component c) ↔
      entries ≠ [] := by
  have hsums : SumsUp entries (entries.foldl Totals.plus {}) := sumsUp_nil.foldl entries
  rw [component_averagedImuMsg, hsums.component, hsums.numberOfSamples, ← length_column entries c,
    meanOf_quotient_iff, column, ne_eq, List.map_eq_nil_iff]

/-! ### The invocation -/

/-- Handling the message publishes a burst of as many entries as it has samples, and an average
whose six components are the means over that burst. -/
def AveragesBurst (this : LiDARPublisher) (scanner : Scanner) (data : IMU) : Prop :=
  ∃ this' burst avg, this.handle (.imu scanner data) = .ok (this', .imu burst avg) ∧
    burst.burst.length = data.samples.length ∧
    ∀ c, MeanOf (column burst.burst c) (avg.component c)

theorem averagesBurst_iff_of_wired {this : LiDARPublisher} (hwired : Wired this)
    {scanner : Scanner} {data : IMU} (hmeasured : ∀ sample ∈ data.samples, sample.Measured) :
    AveragesBurst this scanner data ↔ data.samples ≠ [] := by
  obtain ⟨entries, hentries⟩ := burstEntries_isOk_iff.mpr hmeasured
  have hlength : data.samples.length = entries.length :=
    (entriesOf_burstEntries hentries).length_eq
  have hempty : entries ≠ [] ↔ data.samples ≠ [] := by
    rw [← List.length_pos_iff, ← List.length_pos_iff, hlength]
  rw [← hempty]
  refine ⟨?_, ?_⟩
  · intro h
    obtain ⟨this', burst, avg, hhandle, -, hmean⟩ := h
    obtain ⟨-, entries', hentries', hout⟩ := (handle_imu_eq_ok hwired).mp hhandle
    obtain rfl := Except.ok.inj (hentries.symm.trans hentries')
    cases hout
    exact (meanOf_averagedImuMsg_iff .ax).mp (hmean .ax)
  · intro hsome
    refine ⟨_, _, _, (handle_imu_eq_ok hwired).mpr ⟨rfl, entries, hentries, rfl⟩, hlength.symm, ?_⟩
    intro c
    exact (meanOf_averagedImuMsg_iff c).mpr hsome

/-- **When the average is the mean of the burst.** For any message whose samples carry their three
components of both kinds, whatever the node has handled before: exactly when there is a sample. -/
theorem averagesBurst_iff {events : List Event} {s : LiDARPublisher × List Published}
    (hrun : Exec Step (.new, []) events s) {scanner : Scanner} {data : IMU}
    (hmeasured : ∀ sample ∈ data.samples, sample.Measured) :
    AveragesBurst s.1 scanner data ↔ data.samples ≠ [] :=
  averagesBurst_iff_of_wired (wired_of_exec hrun) hmeasured

theorem averagesBurst_iff_firstImu :
    AveragesBurst .new .side firstImu ↔ firstImu.samples ≠ [] :=
  averagesBurst_iff (s := (.new, [])) .nil (by decide)

/-- A message without samples is averaged over none: all six components are quotients by zero. -/
theorem noSamples_not_averagesBurst :
    (∀ sample ∈ ({} : IMU).samples, sample.Measured) ∧ ¬ AveragesBurst .new .side {} := by
  have hmeasured : ∀ sample ∈ ({} : IMU).samples, sample.Measured := by decide
  refine ⟨hmeasured, ?_⟩
  rw [averagesBurst_iff_of_wired wired_new hmeasured]
  exact fun hsome => hsome rfl

end Lidar

end Ilumo
