import Ilumo.Lidar.Node

/-!
# The stamps of the LiDAR node

A point cloud and an averaged message are stamped with the start time of what they were built from,
and every entry of a burst with the burst's start time plus its sample's offset. The stamp of an
entry has its nanosecond field overwritten with the whole time, so it means its source time only in
the first second of every `2 ^ 23`.
-/

namespace Ilumo.Lidar

open Machine

/-- The stamps of a publication: that of the cloud, or those of a burst's entries and then that of
the average. -/
def Published.stamps : Published → List Time
  | .pointCloud msg => [msg.header.stamp]
  | .imu burst avg => burst.burst.map ImuSingle.stamp ++ [avg.header.stamp]

def IMU.sampleTime (data : IMU) (sample : Sample) : Nat :=
  data.startTimeNs.toNat + sample.startOffsetNs.toNat

def Event.sourceTimes : Event → List Nat
  | .pointCloud _ frame => [frame.startTimeNs.toNat]
  | .imu _ data => data.samples.map data.sampleTime ++ [data.startTimeNs.toNat]

/-- The samples of the event are from a second whose number is a multiple of `2 ^ 23`. -/
def Event.SamplesAligned : Event → Prop
  | .pointCloud _ _ => True
  | .imu _ data => ∀ sample ∈ data.samples, data.sampleTime sample / 10 ^ 9 % 2 ^ 23 = 0

theorem singleImuMsg_stamp {t : UInt64} {sample : Sample} {single : ImuSingle}
    (h : singleImuMsg t sample = .ok single) :
    single.stamp = overwrittenStamp (t + sample.startOffsetNs) := by
  simp only [singleImuMsg, bind_eq_ok] at h
  obtain ⟨_, -, _, -, _, -, _, -, _, -, _, -, h⟩ := h
  obtain rfl := Except.ok.inj h
  rfl

theorem stamps_mapM {t : UInt64} {samples : List Sample} {entries : List ImuSingle}
    (h : samples.mapM (singleImuMsg t) = .ok entries) :
    entries.map ImuSingle.stamp =
      samples.map fun sample => overwrittenStamp (t + sample.startOffsetNs) := by
  rw [mapM_eq_ok] at h
  induction h with
  | nil => rfl
  | cons hsingle _ ih => rw [List.map_cons, List.map_cons, singleImuMsg_stamp hsingle, ih]

theorem Publishes.faithful_iff {event : Event} {out : Published} (h : Publishes event out)
    (hbound : ∀ t ∈ event.sourceTimes, t < 2 ^ 31 * 10 ^ 9) :
    out.stamps.length = event.sourceTimes.length ∧
      (Faithful out.stamps event.sourceTimes ↔ event.SamplesAligned) := by
  cases h with
  | pointCloud hstamp =>
      refine ⟨rfl, fun _ => trivial, fun _ => Ilumo.faithful_iff.mpr ?_⟩
      rw [Published.stamps, hstamp]
      exact .cons (stampOf_denotes (hbound _ (by simp [Event.sourceTimes]))) .nil
  | @imu scanner data burst avg hburst hstamp =>
      have hentries := stamps_mapM hburst
      have hstart : Faithful [avg.header.stamp] [data.startTimeNs.toNat] := by
        rw [hstamp, Ilumo.faithful_iff]
        exact .cons (stampOf_denotes (hbound _ (by simp [Event.sourceTimes]))) .nil
      have hsample : ∀ sample ∈ data.samples,
          ((overwrittenStamp (data.startTimeNs + sample.startOffsetNs)).Denotes
            (data.sampleTime sample) ↔ data.sampleTime sample / 10 ^ 9 % 2 ^ 23 = 0) := by
        intro sample hmem
        have hlt : data.sampleTime sample < 2 ^ 31 * 10 ^ 9 := by
          apply hbound
          exact List.mem_append_left _ (List.mem_map_of_mem hmem)
        have htime : (data.startTimeNs + sample.startOffsetNs).toNat = data.sampleTime sample := by
          rw [UInt64.toNat_add]
          exact Nat.mod_eq_of_lt (lt_trans hlt (by norm_num))
        rw [← htime] at hlt ⊢
        exact overwrittenStamp_denotes_iff hlt
      simp only [Published.stamps, Event.sourceTimes, hentries]
      refine ⟨by simp, ?_⟩
      rw [faithful_append (by simp), faithful_map_iff]
      refine ⟨?_, ?_⟩
      · intro hparts sample hmem
        obtain ⟨hall, -⟩ := hparts
        exact (hsample sample hmem).mp (hall sample hmem)
      · intro hall
        exact ⟨fun sample hmem => (hsample sample hmem).mpr (hall sample hmem), hstart⟩

theorem publishes_of_exec {events : List Event} {s : LiDARPublisher × List Published}
    (h : Exec Step (.new, []) events s) : List.Forall₂ Publishes events s.2 :=
  forall₂_of_exec (fun _ _ _ _ hwired hhandle => (handle_eq_ok hwired hhandle).2.1) h

theorem faithful_flatMap_iff {events : List Event} {outs : List Published}
    (h : List.Forall₂ Publishes events outs)
    (hbound : ∀ event ∈ events, ∀ t ∈ event.sourceTimes, t < 2 ^ 31 * 10 ^ 9) :
    Faithful (outs.flatMap Published.stamps) (events.flatMap Event.sourceTimes) ↔
      ∀ event ∈ events, event.SamplesAligned := by
  induction h with
  | nil => simp [Ilumo.faithful_iff]
  | @cons event out events outs hfirst hrest ih =>
      obtain ⟨hlen, hevent⟩ := hfirst.faithful_iff (hbound event (by simp))
      have hothers := ih fun other hother => hbound other (by simp [hother])
      rw [List.flatMap_cons, List.flatMap_cons, faithful_append hlen, hevent, List.forall_mem_cons,
        hothers]

/-- **When the stamps of a run are right.** With all source times in the range of a stamp, every
stamp the node has published means its source time and any two compare as the source times do, if
and only if every sample was taken in a second whose number is a multiple of `2 ^ 23`. -/
theorem faithful_iff_samplesAligned {events : List Event} {s : LiDARPublisher × List Published}
    (hrun : Exec Step (.new, []) events s)
    (hbound : ∀ event ∈ events, ∀ t ∈ event.sourceTimes, t < 2 ^ 31 * 10 ^ 9) :
    Faithful (s.2.flatMap Published.stamps) (events.flatMap Event.sourceTimes) ↔
      ∀ event ∈ events, event.SamplesAligned :=
  faithful_flatMap_iff (publishes_of_exec hrun) hbound

/-! ### A burst of two samples -/

def twoSampleBurst : List Event :=
  [.imu .side {
    startTimeNs? := some 1700000003380000000
    samples := [
      { startOffsetNs? := some 0, acceleration := [0, 0, 1], angularVelocity := [0, 0, 0] },
      { startOffsetNs? := some 10000000, acceleration := [0, 0, 1],
        angularVelocity := [0, 0, 0] }] }]

theorem exec_twoSampleBurst : ∃ s, Exec Step (.new, []) twoSampleBurst s := by
  have hburst : Exec Step (.new, []) ([] ++ twoSampleBurst) (_, _) := .snoc .nil ⟨_, rfl, rfl⟩
  exact ⟨(_, _), hburst⟩

theorem twoSampleBurst_bound :
    ∀ event ∈ twoSampleBurst, ∀ t ∈ event.sourceTimes, t < 2 ^ 31 * 10 ^ 9 := by
  decide

theorem faithful_iff_samplesAligned_twoSampleBurst :
    ∃ s : LiDARPublisher × List Published, Exec Step (.new, []) twoSampleBurst s ∧
      (Faithful (s.2.flatMap Published.stamps) (twoSampleBurst.flatMap Event.sourceTimes) ↔
        ∀ event ∈ twoSampleBurst, event.SamplesAligned) := by
  obtain ⟨s, hrun⟩ := exec_twoSampleBurst
  exact ⟨s, hrun, faithful_iff_samplesAligned hrun twoSampleBurst_bound⟩

/-- The first entry's stamp is not normalised and the second entry's is below it. -/
theorem twoSampleBurst_not_faithful :
    (∀ event ∈ twoSampleBurst, ∀ t ∈ event.sourceTimes, t < 2 ^ 31 * 10 ^ 9) ∧
      ∃ s, Exec Step (.new, []) twoSampleBurst s ∧
        ¬ Faithful (s.2.flatMap Published.stamps) (twoSampleBurst.flatMap Event.sourceTimes) := by
  obtain ⟨s, hrun⟩ := exec_twoSampleBurst
  refine ⟨twoSampleBurst_bound, s, hrun, ?_⟩
  rw [faithful_flatMap_iff (publishes_of_exec hrun) twoSampleBurst_bound]
  intro haligned
  have hsample := haligned _ (List.mem_cons_self ..) _ (List.mem_cons_self ..)
  exact absurd hsample (by decide)

end Ilumo.Lidar
