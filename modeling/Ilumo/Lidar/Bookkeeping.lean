import Ilumo.Lidar.Node

/-!
# The per-stream time variables

Four variables are meant to hold the start time of the latest event of each of the four streams.
Both callbacks of a scanner write the scanner's point cloud variable, so over a run the IMU
variables stay zero and an IMU message displaces the time of the latest frame. The bookkeeping of a
run is right exactly when no IMU message in it makes a difference by that.
-/

namespace Ilumo.Lidar

open Machine

/-- The start time of the latest event of a stream, 0 if there was none. -/
def latest (stream : Stream) (events : List Event) : UInt64 :=
  (((events.filter (·.stream = stream)).getLast?).map Event.startTimeNs).getD 0

theorem latest_snoc (stream : Stream) (events : List Event) (event : Event) :
    latest stream (events ++ [event]) =
      if stream = event.stream then event.startTimeNs else latest stream events := by
  by_cases hsame : stream = event.stream
  · simp [latest, hsame]
  · simp [latest, hsame, Ne.symm hsame]

theorem latest_snoc_own (events : List Event) (event : Event) :
    latest event.stream (events ++ [event]) = event.startTimeNs := by
  rw [latest_snoc, if_pos rfl]

theorem latest_snoc_other {stream : Stream} {events : List Event} {event : Event}
    (hother : stream ≠ event.stream) :
    latest stream (events ++ [event]) = latest stream events := by
  rw [latest_snoc, if_neg hother]

def Bookkeeping (this : LiDARPublisher) (events : List Event) : Prop :=
  ∀ stream, this.lastTs stream = latest stream events

def KeepsOthers (this : LiDARPublisher) (event : Event) (this' : LiDARPublisher) : Prop :=
  ∀ stream, stream ≠ event.stream → this'.lastTs stream = this.lastTs stream

/-- After every step of the run the variables hold what they are meant to, and no step has touched
the variable of another stream. -/
structure StreamsIndependent (events : List Event) : Prop where
  bookkeeping : ∀ pre s, pre <+: events → Exec Step (.new, []) pre s → Bookkeeping s.1 pre
  keepsOthers : ∀ pre event s s', pre ++ [event] <+: events → Exec Step (.new, []) pre s →
    Step s event s' → KeepsOthers s.1 event s'.1

/-- Every IMU message starts at time zero and arrives when its scanner's latest frame, if any, does
too. -/
def ImuUnnoticed (events : List Event) : Prop :=
  ∀ pre scanner data, pre ++ [.imu scanner data] <+: events →
    data.startTimeNs = 0 ∧ latest (.pointCloud scanner) pre = 0

theorem ImuUnnoticed.of_prefix {pre events : List Event} (h : ImuUnnoticed events)
    (hpre : pre <+: events) : ImuUnnoticed pre :=
  fun _ _ _ himu => h _ _ _ (himu.trans hpre)

theorem Step.lastTs {s s' : LiDARPublisher × List Published} {event : Event}
    (hwired : Wired s.1) (h : Step s event s') (stream : Stream) :
    s'.1.lastTs stream =
      if stream = .pointCloud event.scanner then event.startTimeNs else s.1.lastTs stream := by
  obtain ⟨out, hhandle, -⟩ := h
  exact (handle_eq_ok hwired hhandle).2.2 stream

theorem lastTs_imu_of_exec {events : List Event} {s : LiDARPublisher × List Published}
    (h : Exec Step (.new, []) events s) (scanner : Scanner) : s.1.lastTs (.imu scanner) = 0 := by
  refine (h.invariant (I := fun s => Wired s.1 ∧ s.1.lastTs (.imu scanner) = 0)
    ⟨wired_new, by cases scanner <;> rfl⟩ ?_).2
  intro t event t' hall hstep
  obtain ⟨hwired, hzero⟩ := hall
  obtain ⟨out, hhandle, -⟩ := hstep
  obtain ⟨hwired', -, hlast⟩ := handle_eq_ok hwired hhandle
  exact ⟨hwired', by rw [hlast, if_neg (by simp), hzero]⟩

/-! ### The run -/

/-- A run whose variables are right, one step later: they are still right and the others untouched
if and only if the step is not an IMU message that makes a difference. -/
theorem Step.bookkeeping_iff {s s' : LiDARPublisher × List Published} {pre : List Event}
    {event : Event} (hrun : Exec Step (.new, []) pre s) (hright : Bookkeeping s.1 pre)
    (h : Step s event s') :
    Bookkeeping s'.1 (pre ++ [event]) ∧ KeepsOthers s.1 event s'.1 ↔
      ∀ scanner data, event = .imu scanner data →
        data.startTimeNs = 0 ∧ latest (.pointCloud scanner) pre = 0 := by
  have hlast := h.lastTs (wired_of_exec hrun)
  cases event with
  | pointCloud scanner frame =>
      refine ⟨?_, ?_⟩
      · intro _ _ _ himu
        cases himu
      · intro _
        refine ⟨fun stream => ?_, fun stream hother => ?_⟩
        · rw [hlast, latest_snoc, hright stream]
          rfl
        · rw [hlast]
          exact if_neg hother
  | imu scanner data =>
      have hquiet : latest (.imu scanner) pre = 0 :=
        (hright _).symm.trans (lastTs_imu_of_exec hrun scanner)
      have hnoted : s'.1.lastTs (.pointCloud scanner) = data.startTimeNs := by
        rw [hlast]
        exact if_pos rfl
      refine ⟨?_, ?_⟩
      · rintro ⟨hright', -⟩ _ _ ⟨⟩
        have hown : 0 = data.startTimeNs := by
          rw [← lastTs_imu_of_exec (hrun.snoc h) scanner, hright']
          exact latest_snoc_own pre (.imu scanner data)
        have hpc : data.startTimeNs = latest (.pointCloud scanner) pre := by
          rw [← hnoted, hright', latest_snoc_other (by simp [Event.stream])]
        exact ⟨hown.symm, hpc.symm.trans hown.symm⟩
      · intro hunnoticed
        obtain ⟨hstart, hframe⟩ := hunnoticed scanner data rfl
        have hsame (stream : Stream) : s'.1.lastTs stream = s.1.lastTs stream := by
          by_cases hstream : stream = .pointCloud scanner
          · rw [hstream, hnoted, hright, hstart, hframe]
          · rw [hlast]
            exact if_neg hstream
        refine ⟨fun stream => ?_, fun stream _ => hsame stream⟩
        rw [hsame, hright, latest_snoc]
        split
        · next hown =>
            rw [hown]
            exact hquiet.trans hstart.symm
        · rfl

theorem bookkeeping_of_unnoticed {events : List Event} {s : LiDARPublisher × List Published}
    (hrun : Exec Step (.new, []) events s) (hunnoticed : ImuUnnoticed events) :
    Bookkeeping s.1 events := by
  induction hrun with
  | nil =>
      intro stream
      rcases stream with (_ | _) | (_ | _) <;> rfl
  | snoc hrun hstep ih =>
      have hright := ih (hunnoticed.of_prefix (List.prefix_append _ _))
      exact ((hstep.bookkeeping_iff hrun hright).mpr fun scanner data himu =>
        hunnoticed _ scanner data (by rw [himu])).1

/-- **When the bookkeeping of a run is right.** After every step each of the four variables holds
the time of the latest event of its stream, and no step has touched another stream's variable, if
and only if every IMU message starts at time zero while its scanner's latest frame does too. -/
theorem streamsIndependent_iff {events : List Event} {s : LiDARPublisher × List Published}
    (hrun : Exec Step (.new, []) events s) : StreamsIndependent events ↔ ImuUnnoticed events := by
  refine ⟨?_, ?_⟩
  · intro hindependent pre scanner data himu
    have hpre : pre <+: events := (List.prefix_append _ _).trans himu
    obtain ⟨after, hafter⟩ := hrun.of_prefix himu
    obtain ⟨before, hbefore, hstep⟩ := exec_snoc_iff.mp hafter
    have hright := hindependent.bookkeeping _ _ hpre hbefore
    exact (hstep.bookkeeping_iff hbefore hright).mp
      ⟨hindependent.bookkeeping _ _ himu hafter,
        hindependent.keepsOthers _ _ _ _ himu hbefore hstep⟩ scanner data rfl
  · intro hunnoticed
    refine ⟨?_, ?_⟩
    · intro pre s hpre hs
      exact bookkeeping_of_unnoticed hs (hunnoticed.of_prefix hpre)
    · intro pre event s s' hpre hs hstep
      have hshort : pre <+: events := (List.prefix_append _ _).trans hpre
      have hright := bookkeeping_of_unnoticed hs (hunnoticed.of_prefix hshort)
      exact ((hstep.bookkeeping_iff hs hright).mpr fun scanner data himu =>
        hunnoticed _ scanner data (by rw [← himu]; exact hpre)).2

/-! ### A run with one IMU message -/

def frameThenImu : List Event :=
  [.pointCloud .side { startTimeNs? := some 1700000000000000000 },
    .imu .side {
      startTimeNs? := some 1700000000010000000
      samples := [{ acceleration := [0, 0, 1], angularVelocity := [0, 0, 0] }] }]

theorem exec_frameThenImu : ∃ s, Exec Step (.new, []) frameThenImu s := by
  have hframe : Exec Step (.new, []) ([] ++ [frameThenImu[0]]) (_, _) := .snoc .nil ⟨_, rfl, rfl⟩
  exact ⟨(_, _), hframe.snoc ⟨_, rfl, rfl⟩⟩

theorem streamsIndependent_iff_frameThenImu :
    StreamsIndependent frameThenImu ↔ ImuUnnoticed frameThenImu :=
  streamsIndependent_iff exec_frameThenImu.choose_spec

/-- The IMU message's time displaces that of the frame, and its own variable stays zero. -/
theorem frameThenImu_not_streamsIndependent :
    (∃ s, Exec Step (.new, []) frameThenImu s) ∧ ¬ StreamsIndependent frameThenImu := by
  refine ⟨exec_frameThenImu, fun hindependent => ?_⟩
  obtain ⟨s, hrun⟩ := exec_frameThenImu
  have hright := hindependent.bookkeeping _ _ List.prefix_rfl hrun (.imu .side)
  rw [lastTs_imu_of_exec hrun] at hright
  exact absurd hright (by decide)

end Ilumo.Lidar
