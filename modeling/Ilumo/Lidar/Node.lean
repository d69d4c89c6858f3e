import Ilumo.Lidar.Encoding
import Ilumo.Lidar.ImuBurst

/-!
# What a step of the LiDAR node does

Every scanner keeps its own three messages, and the frame id in them is how the callbacks tell the
scanners apart. A step leaves the two IMU messages of both scanners as the constructor prepared
them, and of the two point cloud messages it touches at most the one it fills.
-/

namespace Ilumo.Lidar

open Machine

def Scanner.frameId : Scanner → String
  | .side => "lidar_side"
  | .bottom => "lidar_bottom"

/-- The messages a scanner's timers hand to the callbacks are that scanner's. -/
structure WiredFor (this : LiDARPublisher) (scanner : Scanner) : Prop where
  pointCloudMsg : Prepared (this.pointCloudMsg scanner)
  frameId : (this.pointCloudMsg scanner).header.frameId = scanner.frameId
  imuBurstMsg : this.imuBurstMsg scanner = preparedImuBurstMsg scanner.frameId
  avgImuMsg : this.avgImuMsg scanner = preparedAvgImuMsg scanner.frameId

def Wired (this : LiDARPublisher) : Prop := ∀ scanner, WiredFor this scanner

theorem wired_new : Wired .new := by
  intro scanner
  cases scanner <;> exact ⟨⟨rfl, rfl⟩, rfl, rfl, rfl⟩

/-! ### The time variables -/

inductive Stream where
  | pointCloud (scanner : Scanner)
  | imu (scanner : Scanner)
  deriving DecidableEq, Repr

def LiDARPublisher.lastTs (this : LiDARPublisher) : Stream → UInt64
  | .pointCloud .side => this.lastPcSideTs
  | .pointCloud .bottom => this.lastPcBottomTs
  | .imu .side => this.lastImuSideTs
  | .imu .bottom => this.lastImuBottomTs

def Event.scanner : Event → Scanner
  | .pointCloud scanner _ => scanner
  | .imu scanner _ => scanner

def Event.stream : Event → Stream
  | .pointCloud scanner _ => .pointCloud scanner
  | .imu scanner _ => .imu scanner

def Event.startTimeNs : Event → UInt64
  | .pointCloud _ frame => frame.startTimeNs
  | .imu _ data => data.startTimeNs

theorem lastTs_notePointCloudTime (this : LiDARPublisher) (scanner : Scanner) (t : UInt64)
    (stream : Stream) :
    (notePointCloudTime this scanner.frameId t).lastTs stream =
      if stream = .pointCloud scanner then t else this.lastTs stream := by
  cases scanner <;> rcases stream with (_ | _) | (_ | _) <;> rfl

/-- The two callbacks note the time in the same variable. -/
theorem noteImuTime_eq (this : LiDARPublisher) (frameId : String) (t : UInt64) :
    noteImuTime this frameId t = notePointCloudTime this frameId t :=
  rfl

theorem lastTs_setPointCloudMsg (this : LiDARPublisher) (msg : PointCloud2) (scanner : Scanner)
    (stream : Stream) : (this.setPointCloudMsg msg scanner).lastTs stream = this.lastTs stream := by
  cases scanner <;> rcases stream with (_ | _) | (_ | _) <;> rfl

/-! ### The messages -/

theorem pointCloudMsg_setPointCloudMsg (this : LiDARPublisher) (msg : PointCloud2)
    (scanner other : Scanner) : (this.setPointCloudMsg msg scanner).pointCloudMsg other =
      if other = scanner then msg else this.pointCloudMsg other := by
  cases scanner <;> cases other <;> rfl

theorem Wired.setPointCloudMsg {this : LiDARPublisher} (h : Wired this) {msg : PointCloud2}
    {scanner : Scanner} (hprep : Prepared msg) (hframeId : msg.header.frameId = scanner.frameId) :
    Wired (this.setPointCloudMsg msg scanner) := by
  intro other
  have hburst : (this.setPointCloudMsg msg scanner).imuBurstMsg other = this.imuBurstMsg other := by
    cases scanner <;> cases other <;> rfl
  have havg : (this.setPointCloudMsg msg scanner).avgImuMsg other = this.avgImuMsg other := by
    cases scanner <;> cases other <;> rfl
  refine ⟨?_, ?_, ?_, ?_⟩
  · rw [pointCloudMsg_setPointCloudMsg]
    split
    · exact hprep
    · exact (h other).pointCloudMsg
  · rw [pointCloudMsg_setPointCloudMsg]
    split
    · next hsame => rw [hframeId, hsame]
    · exact (h other).frameId
  · rw [hburst]
    exact (h other).imuBurstMsg
  · rw [havg]
    exact (h other).avgImuMsg

theorem Wired.notePointCloudTime {this : LiDARPublisher} (h : Wired this) (scanner : Scanner)
    (t : UInt64) : Wired (notePointCloudTime this scanner.frameId t) := by
  intro other
  have hother := h other
  cases scanner <;> cases other <;>
    exact ⟨hother.pointCloudMsg, hother.frameId, hother.imuBurstMsg, hother.avgImuMsg⟩

/-! ### One step -/

/-- An IMU message is answered with its own entries alone, whatever came before. -/
theorem handle_imu_eq_ok {this this' : LiDARPublisher} {scanner : Scanner} {data : IMU}
    {out : Published} (hwired : Wired this) :
    this.handle (.imu scanner data) = .ok (this', out) ↔
      this' = noteImuTime this scanner.frameId data.startTimeNs ∧
        ∃ entries, burstEntries data = .ok entries ∧
          out = .imu { frameId := scanner.frameId, burst := entries }
            (averagedImuMsg (preparedAvgImuMsg scanner.frameId) data.startTimeNs
              (entries.foldl Totals.plus {})) := by
  rw [LiDARPublisher.handle, (hwired scanner).imuBurstMsg, (hwired scanner).avgImuMsg, bind_eq_ok]
  refine ⟨?_, ?_⟩
  · intro h
    obtain ⟨⟨mid, burst, avg⟩, hcallback, hout⟩ := h
    cases hout
    obtain ⟨rfl, entries, hentries, rfl, rfl⟩ := imuCallback_eq_ok.mp hcallback
    exact ⟨rfl, entries, hentries, rfl⟩
  · intro h
    obtain ⟨rfl, entries, hentries, rfl⟩ := h
    exact ⟨_, imuCallback_eq_ok.mpr ⟨rfl, entries, hentries, rfl, rfl⟩, rfl⟩

/-- What a step publishes, as far as its stamps go. -/
inductive Publishes : Event → Published → Prop
  | pointCloud {scanner : Scanner} {frame : Frame} {msg : PointCloud2}
      (hstamp : msg.header.stamp = stampOf frame.startTimeNs) :
      Publishes (.pointCloud scanner frame) (.pointCloud msg)
  | imu {scanner : Scanner} {data : IMU} {burst : ImuBurst} {avg : Imu (Option ℚ)}
      (hburst : burstEntries data = .ok burst.burst)
      (hstamp : avg.header.stamp = stampOf data.startTimeNs) :
      Publishes (.imu scanner data) (.imu burst avg)

/-- **One step.** It notes the event's start time in the point cloud variable of its scanner,
whichever of the scanner's two streams the event is from. -/
theorem handle_eq_ok {this this' : LiDARPublisher} {event : Event} {out : Published}
    (hwired : Wired this) (h : this.handle event = .ok (this', out)) :
    Wired this' ∧ Publishes event out ∧ ∀ stream, this'.lastTs stream =
      if stream = .pointCloud event.scanner then event.startTimeNs else this.lastTs stream := by
  cases event with
  | pointCloud scanner frame =>
      rw [LiDARPublisher.handle, bind_eq_ok] at h
      obtain ⟨⟨mid, msg⟩, hcallback, hout⟩ := h
      obtain ⟨rfl, rfl⟩ := Prod.mk.inj (Except.ok.inj hout)
      have hprep := (hwired scanner).pointCloudMsg
      obtain ⟨rfl, hfill⟩ := pointcloudCallback_eq_ok.mp hcallback
      obtain ⟨-, rfl⟩ := (fillPointCloud_eq_ok hprep).mp hfill
      rw [(hwired scanner).frameId]
      refine ⟨?_, .pointCloud rfl, fun stream => ?_⟩
      · apply (hwired.notePointCloudTime scanner _).setPointCloudMsg
        · exact hprep
        · exact (hwired scanner).frameId
      · rw [lastTs_setPointCloudMsg, lastTs_notePointCloudTime]
        rfl
  | imu scanner data =>
      obtain ⟨rfl, entries, hentries, rfl⟩ := (handle_imu_eq_ok hwired).mp h
      refine ⟨hwired.notePointCloudTime scanner _, .imu hentries rfl, fun stream => ?_⟩
      rw [noteImuTime_eq, lastTs_notePointCloudTime]
      rfl

theorem wired_of_exec {events : List Event} {s : LiDARPublisher × List Published}
    (h : Exec Step (.new, []) events s) : Wired s.1 := by
  refine h.invariant (I := fun s => Wired s.1) wired_new ?_
  intro t event t' hwired hall
  obtain ⟨out, hhandle, -⟩ := hall
  exact (handle_eq_ok hwired hhandle).1

/-- What a run has published answers its events one by one. -/
theorem forall₂_of_exec {R : Event → Published → Prop}
    (hanswer : ∀ this event this' out, Wired this →
      this.handle event = .ok (this', out) → R event out)
    {events : List Event} {s : LiDARPublisher × List Published}
    (h : Exec Step (.new, []) events s) : List.Forall₂ R events s.2 := by
  induction h with
  | nil => exact .nil
  | snoc hrun hstep ih =>
      obtain ⟨out, hhandle, hout⟩ := hstep
      rw [hout]
      exact List.rel_append ih (.cons (hanswer _ _ _ _ (wired_of_exec hrun) hhandle) .nil)

end Ilumo.Lidar
