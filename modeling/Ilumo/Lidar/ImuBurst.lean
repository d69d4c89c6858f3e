import Ilumo.Lidar.Publisher

/-!
# What an IMU message is turned into

The loop over the samples fills the burst and the totals side by side. It runs to its end exactly
when every sample carries three components of both kinds, and then one list, the entries, accounts
for both: the burst is extended by them and the totals are increased by their components.
-/

namespace Ilumo.Lidar

/-- The entry holds the sample's angular velocity, and its acceleration in units of gravity. -/
structure EntryOf (sample : Sample) (single : ImuSingle) : Prop where
  angularVelocity : single.angularVelocity.components = sample.angularVelocity.take 3
  linearAcceleration :
    single.linearAcceleration.components = (sample.acceleration.take 3).map (· * gravity)

def Sample.Measured (sample : Sample) : Prop :=
  3 ≤ sample.acceleration.length ∧ 3 ≤ sample.angularVelocity.length

instance (sample : Sample) : Decidable sample.Measured := inferInstanceAs (Decidable (_ ∧ _))

/-! ### One sample -/

theorem three_le_length_iff {α : Type} {values : List α} : 3 ≤ values.length ↔
    ∃ x y z, element values 0 = .ok x ∧ element values 1 = .ok y ∧ element values 2 = .ok z := by
  rcases values with _ | ⟨x, _ | ⟨y, _ | ⟨z, values⟩⟩⟩ <;> simp [element]

theorem take_three {α : Type} {values : List α} {x y z : α} (hx : element values 0 = .ok x)
    (hy : element values 1 = .ok y) (hz : element values 2 = .ok z) :
    values.take 3 = [x, y, z] := by
  rcases values with _ | ⟨x', _ | ⟨y', _ | ⟨z', values⟩⟩⟩ <;> simp_all [element]

theorem entryOf_singleImuMsg {t : UInt64} {sample : Sample} {single : ImuSingle}
    (h : singleImuMsg t sample = .ok single) : EntryOf sample single := by
  simp only [singleImuMsg, bind_eq_ok] at h
  obtain ⟨rx, hrx, ry, hry, rz, hrz, ax, hax, ay, hay, az, haz, h⟩ := h
  obtain rfl := Except.ok.inj h
  refine ⟨?_, ?_⟩
  · rw [take_three hrx hry hrz]
    rfl
  · rw [take_three hax hay haz]
    rfl

theorem singleImuMsg_isOk_iff {t : UInt64} {sample : Sample} :
    (∃ single, singleImuMsg t sample = .ok single) ↔ sample.Measured := by
  simp only [singleImuMsg, bind_eq_ok, Sample.Measured, three_le_length_iff]
  refine ⟨?_, ?_⟩
  · intro h
    obtain ⟨_, rx, hrx, ry, hry, rz, hrz, ax, hax, ay, hay, az, haz, -⟩ := h
    exact ⟨⟨ax, ay, az, hax, hay, haz⟩, rx, ry, rz, hrx, hry, hrz⟩
  · intro h
    obtain ⟨⟨ax, ay, az, hax, hay, haz⟩, rx, ry, rz, hrx, hry, hrz⟩ := h
    exact ⟨_, rx, hrx, ry, hry, rz, hrz, ax, hax, ay, hay, az, haz, rfl⟩

/-- The totals after one more entry. -/
def Totals.plus (totals : Totals) (single : ImuSingle) : Totals where
  numberOfSamples := totals.numberOfSamples + 1
  totalAx := totals.totalAx + single.linearAcceleration.x
  totalAy := totals.totalAy + single.linearAcceleration.y
  totalAz := totals.totalAz + single.linearAcceleration.z
  totalRx := totals.totalRx + single.angularVelocity.x
  totalRy := totals.totalRy + single.angularVelocity.y
  totalRz := totals.totalRz + single.angularVelocity.z

/-- The unit conversion is written out twice; the totals take what the entry has. -/
theorem Totals.add_eq {t : UInt64} {sample : Sample} {single : ImuSingle} (totals : Totals)
    (h : singleImuMsg t sample = .ok single) : totals.add sample = .ok (totals.plus single) := by
  simp only [singleImuMsg, bind_eq_ok] at h
  obtain ⟨rx, hrx, ry, hry, rz, hrz, ax, hax, ay, hay, az, haz, h⟩ := h
  obtain rfl := Except.ok.inj h
  rw [Totals.add, hrx, ok_bind, hry, ok_bind, hrz, ok_bind, hax, ok_bind, hay, ok_bind, haz]
  rfl

theorem addSample_eq_ok {t : UInt64} {acc acc' : ImuBurst × Totals} {sample : Sample} :
    addSample t acc sample = .ok acc' ↔ ∃ single, singleImuMsg t sample = .ok single ∧
      acc' = ({ acc.1 with burst := acc.1.burst ++ [single] }, acc.2.plus single) := by
  rw [addSample, bind_eq_ok]
  refine exists_congr fun single => and_congr_right fun hsingle => ?_
  rw [Totals.add_eq acc.2 hsingle, ok_bind]
  exact ⟨fun h => (Except.ok.inj h).symm, fun h => congrArg Except.ok h.symm⟩

/-! ### The loop -/

def burstEntries (data : IMU) : Except Fault (List ImuSingle) :=
  data.samples.mapM (singleImuMsg data.startTimeNs)

/-- The loop from any burst and any totals on. -/
theorem foldlM_addSample {t : UInt64} {samples : List Sample} {acc acc' : ImuBurst × Totals} :
    samples.foldlM (addSample t) acc = .ok acc' ↔
      ∃ entries, samples.mapM (singleImuMsg t) = .ok entries ∧
        acc' = ({ acc.1 with burst := acc.1.burst ++ entries },
          entries.foldl Totals.plus acc.2) := by
  induction samples generalizing acc with
  | nil =>
      refine ⟨?_, ?_⟩
      · intro h
        obtain rfl := Except.ok.inj h
        exact ⟨[], rfl, by rw [List.append_nil]; rfl⟩
      · intro h
        obtain ⟨entries, hentries, rfl⟩ := h
        have hnone : [] = entries := Except.ok.inj hentries
        rw [← hnone, List.append_nil]
        rfl
  | cons sample samples ih =>
      simp only [List.foldlM_cons, List.mapM_cons, bind_eq_ok, addSample_eq_ok, ih]
      refine ⟨?_, ?_⟩
      · intro h
        obtain ⟨_, ⟨single, hsingle, rfl⟩, entries, hentries, rfl⟩ := h
        refine ⟨single :: entries, ⟨single, hsingle, entries, hentries, rfl⟩, ?_⟩
        simp only [List.append_assoc, List.singleton_append, List.foldl_cons]
      · intro h
        obtain ⟨_, ⟨single, hsingle, entries, hentries, hall⟩, rfl⟩ := h
        obtain rfl := Except.ok.inj hall
        refine ⟨_, ⟨single, hsingle, rfl⟩, entries, hentries, ?_⟩
        simp only [List.append_assoc, List.singleton_append, List.foldl_cons]

/-- **One invocation of `imuCallback`.** -/
theorem imuCallback_eq_ok {this this' : LiDARPublisher} {data : IMU} {imuBurstMsg burst : ImuBurst}
    {avgImuMsg avg : Imu (Option ℚ)} :
    imuCallback this data imuBurstMsg avgImuMsg = .ok (this', burst, avg) ↔
      this' = noteImuTime this avgImuMsg.header.frameId data.startTimeNs ∧
        ∃ entries, burstEntries data = .ok entries ∧
          burst = { imuBurstMsg with burst := imuBurstMsg.burst ++ entries } ∧
          avg = averagedImuMsg avgImuMsg data.startTimeNs (entries.foldl Totals.plus {}) := by
  simp only [imuCallback, bind_eq_ok, foldlM_addSample, burstEntries]
  refine ⟨?_, ?_⟩
  · intro h
    obtain ⟨_, ⟨entries, hentries, rfl⟩, hout⟩ := h
    cases hout
    exact ⟨rfl, entries, hentries, rfl, rfl⟩
  · intro h
    obtain ⟨rfl, entries, hentries, rfl, rfl⟩ := h
    exact ⟨_, ⟨entries, hentries, rfl⟩, rfl⟩

theorem burstEntries_isOk_iff {data : IMU} :
    (∃ entries, burstEntries data = .ok entries) ↔ ∀ sample ∈ data.samples, sample.Measured := by
  simp only [burstEntries, mapM_eq_ok, ← singleImuMsg_isOk_iff (t := data.startTimeNs)]
  induction data.samples with
  | nil => simp
  | cons sample samples ih =>
      simp only [List.forall₂_cons_left_iff, List.forall_mem_cons, ← ih]
      refine ⟨?_, ?_⟩
      · intro h
        obtain ⟨_, single, entries, hsingle, hentries, rfl⟩ := h
        exact ⟨⟨single, hsingle⟩, entries, hentries⟩
      · intro h
        obtain ⟨⟨single, hsingle⟩, entries, hentries⟩ := h
        exact ⟨_, single, entries, hsingle, hentries, rfl⟩

theorem entriesOf_burstEntries {data : IMU} {entries : List ImuSingle}
    (h : burstEntries data = .ok entries) : List.Forall₂ EntryOf data.samples entries :=
  (mapM_eq_ok.mp h).imp fun _ _ => entryOf_singleImuMsg

end Ilumo.Lidar
