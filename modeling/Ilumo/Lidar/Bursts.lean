import Ilumo.Lidar.Node

/-!
# The bursts of a run

The timers capture the burst message by reference, but the callback takes it by value, so the
entries it appends are gone with its copy. Over a run every burst published for a scanner is
therefore made of one IMU message of that scanner, in the order in which they came in.
-/

namespace Ilumo.Lidar

open Machine

/-- The IMU messages received from a scanner, in order. -/
def imuMessages (scanner : Scanner) (events : List Event) : List IMU :=
  events.filterMap fun
    | .imu other data => if other = scanner then some data else none
    | .pointCloud _ _ => none

/-- The bursts published for a scanner, in order: each invocation publishes once, so the
publications pair up with the events. -/
def publishedBursts (scanner : Scanner) (events : List Event) (outs : List Published) :
    List ImuBurst :=
  (events.zip outs).filterMap fun
    | (.imu other _, .imu burst _) => if other = scanner then some burst else none
    | _ => none

/-- The burst is the scanner's and has one entry for each sample of the message, in order. -/
structure BurstOf (scanner : Scanner) (data : IMU) (burst : ImuBurst) : Prop where
  frameId : burst.frameId = scanner.frameId
  entries : List.Forall₂ EntryOf data.samples burst.burst

/-- A frame is answered with a cloud, an IMU message with a burst of its own. -/
def Answers : Event → Published → Prop
  | .pointCloud _ _, .pointCloud _ => True
  | .imu scanner data, .imu burst _ => BurstOf scanner data burst
  | _, _ => False

theorem answers_handle {this this' : LiDARPublisher} {event : Event} {out : Published}
    (hwired : Wired this) (h : this.handle event = .ok (this', out)) : Answers event out := by
  cases event with
  | pointCloud scanner frame =>
      obtain ⟨-, hpublishes, -⟩ := handle_eq_ok hwired h
      cases hpublishes
      trivial
  | imu scanner data =>
      obtain ⟨-, entries, hentries, rfl⟩ := (handle_imu_eq_ok hwired).mp h
      exact ⟨rfl, entriesOf_burstEntries hentries⟩

/-- Picking out one scanner's messages and one scanner's bursts picks the same invocations. -/
theorem burstOf_publishedBursts (scanner : Scanner) {events : List Event} {outs : List Published}
    (h : List.Forall₂ Answers events outs) : List.Forall₂ (BurstOf scanner)
      (imuMessages scanner events) (publishedBursts scanner events outs) := by
  induction h with
  | nil => exact .nil
  | @cons event out events outs hanswers _ ih =>
      cases event with
      | pointCloud other frame =>
          cases out with
          | pointCloud msg => exact ih
          | imu burst avg => exact hanswers.elim
      | imu other data =>
          cases out with
          | pointCloud msg => exact hanswers.elim
          | imu burst avg =>
              simp only [imuMessages, publishedBursts, List.zip_cons_cons, List.filterMap_cons]
              by_cases hsame : other = scanner
              · rw [if_pos hsame, if_pos hsame, ← hsame]
                exact .cons hanswers (hsame ▸ ih)
              · rw [if_neg hsame, if_neg hsame]
                exact ih

theorem exists_step_imu {s : LiDARPublisher × List Published} (hwired : Wired s.1)
    {scanner : Scanner} {data : IMU} (hmeasured : ∀ sample ∈ data.samples, sample.Measured) :
    ∃ s', Step s (.imu scanner data) s' := by
  obtain ⟨entries, hentries⟩ := burstEntries_isOk_iff.mpr hmeasured
  exact ⟨(_, s.2 ++ [_]), _, (handle_imu_eq_ok hwired).mpr ⟨rfl, entries, hentries, rfl⟩, rfl⟩

/-- **Bursts neither accumulate nor mix.** In every run, the bursts published for a scanner are
those of its IMU messages, one by one, and both templates of the scanner are as they were
constructed; and no IMU message with three components of both kinds ends the run. -/
theorem bursts_of_exec {events : List Event} {s : LiDARPublisher × List Published}
    (hrun : Exec Step (.new, []) events s) (scanner : Scanner) :
    List.Forall₂ (BurstOf scanner) (imuMessages scanner events)
        (publishedBursts scanner events s.2) ∧
      s.1.imuBurstMsg scanner = LiDARPublisher.new.imuBurstMsg scanner ∧
      s.1.avgImuMsg scanner = LiDARPublisher.new.avgImuMsg scanner ∧
      ∀ data : IMU, (∀ sample ∈ data.samples, sample.Measured) →
        ∃ s', Step s (.imu scanner data) s' := by
  have hwired := wired_of_exec hrun
  have hanswers : List.Forall₂ Answers events s.2 :=
    forall₂_of_exec (fun _ _ _ _ => answers_handle) hrun
  refine ⟨burstOf_publishedBursts scanner hanswers, ?_, ?_, ?_⟩
  · rw [(hwired scanner).imuBurstMsg, (wired_new scanner).imuBurstMsg]
  · rw [(hwired scanner).avgImuMsg, (wired_new scanner).avgImuMsg]
  · intro data hmeasured
    exact exists_step_imu hwired hmeasured

def firstImu : IMU where
  samples := [
    { startOffsetNs? := some 0, acceleration := [0, 0, 1], angularVelocity := [1, 2, 3] },
    { startOffsetNs? := some 10, acceleration := [0, 1, 0], angularVelocity := [4, 5, 6] }]

def secondImu : IMU where
  samples := [{ startOffsetNs? := some 0, acceleration := [1, 0, 0], angularVelocity := [7, 8, 9] }]

def interruptedImu : List Event := [.imu .side firstImu, .pointCloud .side {}, .imu .side secondImu]

theorem exec_interruptedImu : ∃ s, Exec Step (.new, []) interruptedImu s := by
  have hfirst : Exec Step (.new, []) ([] ++ [.imu .side firstImu]) (_, _) :=
    .snoc .nil ⟨_, rfl, rfl⟩
  have hframe : Exec Step (.new, []) ([.imu .side firstImu] ++ [.pointCloud .side {}]) (_, _) :=
    .snoc hfirst ⟨_, rfl, rfl⟩
  have hsecond : Exec Step (.new, []) interruptedImu (_, _) := .snoc hframe ⟨_, rfl, rfl⟩
  exact ⟨(_, _), hsecond⟩

theorem bursts_of_exec_interruptedImu :
    ∃ s : LiDARPublisher × List Published, Exec Step (.new, []) interruptedImu s ∧
      List.Forall₂ (BurstOf .side) (imuMessages .side interruptedImu)
        (publishedBursts .side interruptedImu s.2) := by
  obtain ⟨s, hrun⟩ := exec_interruptedImu
  exact ⟨s, hrun, (bursts_of_exec hrun .side).1⟩

end Ilumo.Lidar
