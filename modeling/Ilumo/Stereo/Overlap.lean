import Ilumo.Lib.Overlap
import Ilumo.Stereo.SensorCallback

/-!
# Overlapping runs of the sensor callback

The sensor timer's callback group is reentrant, so several runs may be in progress, each at its own
place between taking, filling and publishing on one of the channels, and all of them fill the same
member messages. Seen from one channel the node is an instance of overlapping consumers of a
mailbox.
-/

namespace Ilumo.Stereo

open Machine

/-- Where a run is: about to take the next of the remaining channels, or at one of them with the
reading it has taken. -/
inductive Progress where
  | before (rest : List Channel)
  | taken (channel : Channel) (number : Nat) (reading : Reading channel) (rest : List Channel)
  | filled (channel : Channel) (number : Nat) (reading : Reading channel) (rest : List Channel)

/-- The node, the runs in progress, and what has been stored under which step of the history. -/
structure OverlapNode where
  node : SensorNode
  runs : List Progress := []
  stored : (channel : Channel) → List (Nat × Reading channel) := fun _ => []
  number : Nat := 0

inductive OverlapEvent where
  | grab (data : RawData) (currentDataTs : UInt64)
  | start
  | take (i : Nat)
  | fill (i : Nat)
  | publish (i : Nat)
  deriving DecidableEq, Repr

namespace OverlapNode

def new (devFwVer : Int32) : OverlapNode where
  node := .new devFwVer

def storedBy {channel : Channel} : Mailbox.Event (Reading channel) → Option (Reading channel)
  | .report stored _ => stored
  | _ => none

def grab (this : OverlapNode) (data : RawData) (currentDataTs : UInt64) : OverlapNode :=
  { this with
    node := this.node.grab this.number data currentDataTs
    stored := fun channel => this.stored channel ++
      (storedBy (data.report this.node.sensCap.devFwVer currentDataTs channel)).toList.map
        fun reading => (this.number, reading)
    number := this.number + 1 }

def start (this : OverlapNode) : OverlapNode :=
  { this with
    runs := this.runs ++ [.before SensorNode.channels]
    number := this.number + 1 }

def take (this : OverlapNode) (i : Nat) (channel : Channel) (rest : List Channel) : OverlapNode :=
  let (out, node) := this.node.take channel
  let progress := match out with
    | some (number, reading) => .taken channel number reading rest
    | none => .before rest
  { this with node, runs := this.runs.set i progress, number := this.number + 1 }

def fill (this : OverlapNode) (i : Nat) (channel : Channel) (number : Nat)
    (reading : Reading channel) (rest : List Channel) : OverlapNode :=
  { this with
    node := this.node.fill channel reading
    runs := this.runs.set i (.filled channel number reading rest)
    number := this.number + 1 }

def publish (this : OverlapNode) (i : Nat) (channel : Channel) (rest : List Channel) :
    OverlapNode :=
  { this with
    node := this.node.publish channel
    runs := this.runs.set i (.before rest)
    number := this.number + 1 }

end OverlapNode

/-- An iteration of the grab thread, or the next atomic step of one of the runs. -/
inductive OverlapStep : OverlapNode → OverlapEvent → OverlapNode → Prop
  | grab {this : OverlapNode} {data : RawData} {currentDataTs : UInt64} :
      OverlapStep this (.grab data currentDataTs) (this.grab data currentDataTs)
  | start {this : OverlapNode} : OverlapStep this .start this.start
  | take {this : OverlapNode} {i : Nat} {channel : Channel} {rest : List Channel}
      (hrun : this.runs[i]? = some (.before (channel :: rest))) :
      OverlapStep this (.take i) (this.take i channel rest)
  | fill {this : OverlapNode} {i : Nat} {channel : Channel} {number : Nat}
      {reading : Reading channel} {rest : List Channel}
      (hrun : this.runs[i]? = some (.taken channel number reading rest)) :
      OverlapStep this (.fill i) (this.fill i channel number reading rest)
  | publish {this : OverlapNode} {i : Nat} {channel : Channel} {number : Nat}
      {reading : Reading channel} {rest : List Channel}
      (hrun : this.runs[i]? = some (.filled channel number reading rest)) :
      OverlapStep this (.publish i) (this.publish i channel rest)

/-- On each channel the topics show whole messages of distinct stored readings. -/
def WholeAndOnce (this : OverlapNode) (channel : Channel) : Prop :=
  ∃ readings : List (Nat × Reading channel),
    this.node.topic channel =
        readings.map (fun out => fillMessages channel (preparedMessages channel) out.2) ∧
      (∀ out ∈ readings, out ∈ this.stored channel) ∧ (readings.map Prod.fst).Nodup

/-- No run fills a channel's messages between another run's fill of them and its publication. -/
def FillsAlone (this : OverlapNode) : OverlapEvent → Prop
  | .fill i => ∀ channel number reading rest,
      this.runs[i]? = some (.taken channel number reading rest) →
        ∀ number' reading' rest', .filled channel number' reading' rest' ∉ this.runs
  | _ => True

/-! ### The view of one channel -/

def Progress.phase (channel : Channel) : Progress → Overlap.Phase (Reading channel)
  | .before _ => .idle
  | .taken other number reading _ =>
      if h : other = channel then .taken number (h ▸ reading) else .idle
  | .filled other number reading _ =>
      if h : other = channel then .filled number (h ▸ reading) else .idle

def OverlapNode.view (this : OverlapNode) (channel : Channel) :
    Overlap.State (Reading channel) (Messages channel) where
  slot := this.node.sensCap.channel channel
  member := this.node.messages channel
  log := this.node.topic channel
  phases := this.runs.map (Progress.phase channel)
  stored := this.stored channel
  number := this.number

variable {this this' : OverlapNode} {channel : Channel}

theorem getElem?_phases {i : Nat} {progress : Progress} (hrun : this.runs[i]? = some progress) :
    (this.view channel).phases[i]? = some (progress.phase channel) := by
  show (this.runs.map _)[i]? = _
  rw [List.getElem?_map, hrun]
  rfl

theorem phases_set {i : Nat} {old new : Progress} (hrun : this.runs[i]? = some old)
    (hsame : new.phase channel = old.phase channel) :
    (this.runs.set i new).map (Progress.phase channel) =
      this.runs.map (Progress.phase channel) := by
  obtain ⟨hi, rfl⟩ := List.getElem?_eq_some_iff.mp hrun
  rw [List.map_set, hsame, ← List.getElem_map (Progress.phase channel) (h := by simpa using hi),
    List.set_getElem_self]

@[simp] theorem phase_taken (channel : Channel) (number : Nat) (reading : Reading channel)
    (rest : List Channel) :
    (Progress.taken channel number reading rest).phase channel = .taken number reading := by
  simp [Progress.phase]

@[simp] theorem phase_filled (channel : Channel) (number : Nat) (reading : Reading channel)
    (rest : List Channel) :
    (Progress.filled channel number reading rest).phase channel = .filled number reading := by
  simp [Progress.phase]

theorem phase_taken_of_ne {other : Channel} (hne : other ≠ channel) (number : Nat)
    (reading : Reading other) (rest : List Channel) :
    (Progress.taken other number reading rest).phase channel = .idle := by
  simp [Progress.phase, hne]

theorem phase_filled_of_ne {other : Channel} (hne : other ≠ channel) (number : Nat)
    (reading : Reading other) (rest : List Channel) :
    (Progress.filled other number reading rest).phase channel = .idle := by
  simp [Progress.phase, hne]

/-! ### A step on the channel -/

theorem view_take (i : Nat) (rest : List Channel) :
    (this.take i channel rest).view channel = (this.view channel).take i := by
  rw [OverlapNode.view, OverlapNode.take, SensorNode.take, Overlap.State.take]
  simp only [List.map_set, Function.update_self, OverlapNode.view]
  cases (this.node.sensCap.channel channel).handedOut with
  | none => rfl
  | some out => simp

theorem view_fill (i : Nat) (number : Nat) (reading : Reading channel) (rest : List Channel) :
    (this.fill i channel number reading rest).view channel =
      (this.view channel).fill (fillMessages channel) i number reading := by
  simp [OverlapNode.view, OverlapNode.fill, SensorNode.fill, Overlap.State.fill]

theorem view_publish (i : Nat) (rest : List Channel) :
    (this.publish i channel rest).view channel = (this.view channel).publish i := by
  simp [OverlapNode.view, OverlapNode.publish, SensorNode.publish, Overlap.State.publish,
    Progress.phase]

/-! ### A step on another channel -/

theorem view_take_of_ne {i : Nat} {other : Channel} {rest : List Channel} (hne : other ≠ channel)
    (hrun : this.runs[i]? = some (.before (other :: rest))) :
    (this.take i other rest).view channel = (this.view channel).skip := by
  rw [OverlapNode.view, OverlapNode.take, SensorNode.take, Overlap.State.skip]
  simp only [OverlapNode.view, Function.update_of_ne hne.symm]
  congr 1
  apply phases_set hrun
  cases (this.node.sensCap.channel other).handedOut with
  | none => rfl
  | some out => exact phase_taken_of_ne hne ..

theorem view_fill_of_ne {i : Nat} {other : Channel} {number : Nat} {reading : Reading other}
    {rest : List Channel} (hne : other ≠ channel)
    (hrun : this.runs[i]? = some (.taken other number reading rest)) :
    (this.fill i other number reading rest).view channel = (this.view channel).skip := by
  rw [OverlapNode.view, OverlapNode.fill, SensorNode.fill, Overlap.State.skip]
  simp only [OverlapNode.view, Function.update_of_ne hne.symm]
  congr 1
  apply phases_set hrun
  rw [phase_filled_of_ne hne, phase_taken_of_ne hne]

theorem view_publish_of_ne {i : Nat} {other : Channel} {number : Nat} {reading : Reading other}
    {rest : List Channel} (hne : other ≠ channel)
    (hrun : this.runs[i]? = some (.filled other number reading rest)) :
    (this.publish i other rest).view channel = (this.view channel).skip := by
  rw [OverlapNode.view, OverlapNode.publish, SensorNode.publish, Overlap.State.skip]
  simp only [OverlapNode.view, Function.update_of_ne hne.symm]
  congr 1
  apply phases_set hrun
  rw [phase_filled_of_ne hne]
  rfl

theorem unshared_view {i number : Nat} {reading : Reading channel} {rest : List Channel}
    (halone : FillsAlone this (.fill i))
    (hrun : this.runs[i]? = some (.taken channel number reading rest)) :
    Overlap.Unshared (this.view channel) (.fill i) := by
  intro number' reading' hmem
  obtain ⟨progress, hprogress, hphase⟩ := List.mem_map.mp hmem
  cases progress with
  | before rest' => cases hphase
  | taken other number'' reading'' rest' =>
      by_cases hother : other = channel
      · subst hother
        rw [phase_taken] at hphase
        cases hphase
      · rw [phase_taken_of_ne hother] at hphase
        cases hphase
  | filled other number'' reading'' rest' =>
      by_cases hother : other = channel
      · subst hother
        exact halone other number reading rest hrun _ _ _ hprogress
      · rw [phase_filled_of_ne hother] at hphase
        cases hphase

/-! ### The simulation -/

/-- Each step of the node is one step of what a channel sees of it, or none of its business. -/
theorem view_step {event : OverlapEvent} (hstep : Guarded OverlapStep FillsAlone this event this')
    (channel : Channel) : ∃ action,
      Guarded (Overlap.Step (fillMessages channel)) Overlap.Unshared (this.view channel) action
        (this'.view channel) := by
  obtain ⟨hstep, halone⟩ := hstep
  cases hstep with
  | @grab data currentDataTs =>
      obtain ⟨stored, valid, hreport⟩ :=
        exists_report data this.node.sensCap.devFwVer currentDataTs channel
      refine ⟨.report stored valid, ?_, trivial⟩
      have hview : (this.grab data currentDataTs).view channel =
          (this.view channel).report stored valid := by
        simp [OverlapNode.view, OverlapNode.grab, OverlapNode.storedBy, SensorNode.grab,
          SensorCapture.grab, Overlap.State.report, hreport]
      rw [hview]
      exact .report
  | start =>
      refine ⟨.start, ?_, trivial⟩
      have hview : this.start.view channel = (this.view channel).start := by
        simp [OverlapNode.view, OverlapNode.start, Overlap.State.start, Progress.phase]
      rw [hview]
      exact .start
  | @take i other rest hrun =>
      by_cases hother : other = channel
      · subst hother
        refine ⟨.take i, ?_, trivial⟩
        rw [view_take]
        exact .take (getElem?_phases hrun)
      · refine ⟨.skip, ?_, trivial⟩
        rw [view_take_of_ne hother hrun]
        exact .skip
  | @fill i other number reading rest hrun =>
      by_cases hother : other = channel
      · subst hother
        refine ⟨.fill i, ?_, unshared_view halone hrun⟩
        rw [view_fill]
        apply Overlap.Step.fill
        rw [getElem?_phases hrun, phase_taken]
      · refine ⟨.skip, ?_, trivial⟩
        rw [view_fill_of_ne hother hrun]
        exact .skip
  | @publish i other number reading rest hrun =>
      by_cases hother : other = channel
      · subst hother
        refine ⟨.publish i, ?_, trivial⟩
        have hphase := @getElem?_phases _ other _ _ hrun
        rw [phase_filled] at hphase
        rw [view_publish]
        exact .publish hphase
      · refine ⟨.skip, ?_, trivial⟩
        rw [view_publish_of_ne hother hrun]
        exact .skip

/-- **When overlapping callbacks publish each reading whole and once.** In every run in which no
callback fills a channel's messages between another one's fill and publication of them, the topics
of every channel show whole messages of distinct stored readings. -/
theorem wholeAndOnce_of_fillsAlone {devFwVer : Int32} {events : List OverlapEvent}
    (hrun : Exec (Guarded OverlapStep FillsAlone) (.new devFwVer) events this)
    (channel : Channel) : WholeAndOnce this channel := by
  obtain ⟨actions, state, hactions, rfl⟩ :=
    hrun.simulation (R := fun node state => state = node.view channel) rfl
      fun node event node' state hstate hstep => by
        obtain ⟨action, haction⟩ := view_step hstep channel
        rw [hstate]
        exact ⟨[action], _, Exec.nil.snoc haction, rfl⟩
  exact Overlap.wholeAndOnce_of_unshared (fillMessages_fillMessages channel) hactions

def atRest : RawData := { aZ := 4096 }

def turning : RawData := { aZ := 4096, gX := 100 }

/-- Two runs have each taken a report before the first of them fills the messages. -/
def aloneRun : List OverlapEvent :=
  [.grab atRest 1700000000000000000, .start, .take 0, .grab turning 1700000000002500000, .start,
    .take 1, .fill 0, .publish 0, .fill 1, .publish 1]

theorem wholeAndOnce_aloneRun : ∃ this,
    Exec OverlapStep (.new 778) aloneRun this ∧ (this.node.topic .imu).length = 2 ∧
      ∀ channel, WholeAndOnce this channel := by
  have hgrab : Exec (Guarded OverlapStep FillsAlone) (.new 778)
      ([] ++ [.grab atRest 1700000000000000000]) _ := .snoc .nil ⟨.grab, trivial⟩
  have htake := (hgrab.snoc ⟨.start, trivial⟩).snoc ⟨.take (i := 0) rfl, trivial⟩
  have hsecond := htake.snoc
    (show Guarded OverlapStep FillsAlone _ (.grab turning 1700000000002500000) _ from
      ⟨.grab, trivial⟩)
  have hboth := (hsecond.snoc ⟨.start, trivial⟩).snoc ⟨.take (i := 1) rfl, trivial⟩
  have hfill := hboth.snoc ⟨.fill (i := 0) rfl, by
    intro channel number reading rest _ number' reading' rest' hmem
    rcases List.mem_pair.mp (show _ ∈ [_, _] from hmem) with hrun | hrun
    · cases hrun
    · cases hrun⟩
  have hpublish := hfill.snoc ⟨.publish (i := 0) rfl, trivial⟩
  -- the first run is behind its publication when the second one fills
  have hrefill := hpublish.snoc ⟨.fill (i := 1) rfl, by
    intro channel number reading rest _ number' reading' rest' hmem
    rcases List.mem_pair.mp (show _ ∈ [_, _] from hmem) with hrun | hrun
    · cases hrun
    · cases hrun⟩
  have hlast := hrefill.snoc ⟨.publish (i := 1) rfl, trivial⟩
  exact ⟨_, hlast.unguarded, rfl, wholeAndOnce_of_fillsAlone hlast⟩

/-! ### A message filled over another run's -/

def overfilledRun : List OverlapEvent :=
  [.grab atRest 1700000000000000000, .start, .take 0, .fill 0,
    .grab turning 1700000000002500000, .start, .take 1, .fill 1, .publish 0, .publish 1]

/-- Both messages are those of the second report. -/
theorem overfilledRun_not_wholeAndOnce : ∃ this,
    Exec OverlapStep (.new 778) overfilledRun this ∧ ¬ WholeAndOnce this .imu := by
  have hgrab : Exec OverlapStep (.new 778) ([] ++ [.grab atRest 1700000000000000000]) _ :=
    .snoc .nil .grab
  have hfilled := ((hgrab.snoc .start).snoc (.take (i := 0) rfl)).snoc (.fill (i := 0) rfl)
  have hsecond := hfilled.snoc
    (show OverlapStep _ (.grab turning 1700000000002500000) _ from .grab)
  have hover := ((hsecond.snoc .start).snoc (.take (i := 1) rfl)).snoc (.fill (i := 1) rfl)
  have hpublished := (hover.snoc (.publish (i := 0) rfl)).snoc (.publish (i := 1) rfl)
  refine ⟨_, hpublished, ?_⟩
  intro hall
  obtain ⟨readings, htopic, hstored, honce⟩ := hall
  have hstamps : [stampOf 1700000000002500000, stampOf 1700000000002500000] =
      readings.map fun out => stampOf (out.2 : Data.Imu).timestamp := by
    have h := congrArg (List.map fun msg : Imu ℚ => msg.header.stamp) htopic
    exact h.trans List.map_map
  have hlength : readings.length = 2 :=
    (List.length_map _).symm.trans (congrArg List.length hstamps).symm
  obtain ⟨first, second, rfl⟩ := List.length_eq_two.mp hlength
  have hnumber (out : Nat × Reading .imu) (hout : out ∈ [first, second])
      (hstamp : stampOf 1700000000002500000 = stampOf (out.2 : Data.Imu).timestamp) :
      out.1 = 4 := by
    rcases List.mem_pair.mp (show out ∈ [_, _] from hstored out hout) with rfl | rfl
    · exact absurd hstamp (by decide)
    · rfl
  obtain ⟨hfirst, hrest⟩ := List.cons.inj hstamps
  have hsame : first.1 = second.1 := by
    rw [hnumber first (by simp) hfirst, hnumber second (by simp) (List.cons.inj hrest).1]
  have hdistinct : first.1 ≠ second.1 := by simpa using honce
  exact hdistinct hsame

end Ilumo.Stereo
