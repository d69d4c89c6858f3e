import Ilumo.Stereo.SensorCallback

/-!
# Readings between the grab thread and the topics

Whole iterations of the grab thread and whole runs of the callback, in any order. To each channel
such a run is a sequence of events on a mailbox, and what the channel's topics show is what the
mailbox hands out.
-/

namespace Ilumo.Stereo

inductive SensorEvent where
  | grab (data : RawData) (currentDataTs : UInt64)
  | sensorCallback
  deriving DecidableEq, Repr

namespace SensorNode

def handle (this : SensorNode) (number : Nat) : SensorEvent → SensorNode
  | .grab data currentDataTs => this.grab number data currentDataTs
  | .sensorCallback => this.sensorCallback

def run (devFwVer : Int32) (events : List SensorEvent) : Nat → SensorNode
  | 0 => new devFwVer
  | n + 1 =>
      match events[n]? with
      | some event => (run devFwVer events n).handle n event
      | none => run devFwVer events n

/-! ### One channel of a callback -/

structure SameChannel (this this' : SensorNode) (channel : Channel) : Prop where
  version : this'.sensCap.devFwVer = this.sensCap.devFwVer
  slot : this'.sensCap.channel channel = this.sensCap.channel channel
  messages : this'.messages channel = this.messages channel
  topic : this'.topic channel = this.topic channel

theorem process_of_ne (this : SensorNode) {channel other : Channel} (hne : other ≠ channel) :
    SameChannel this (this.process channel) other := by
  rw [process, take]
  cases (this.sensCap.channel channel).handedOut with
  | none => exact ⟨rfl, Function.update_of_ne hne .., rfl, rfl⟩
  | some out =>
      exact ⟨rfl, Function.update_of_ne hne .., Function.update_of_ne hne ..,
        Function.update_of_ne hne ..⟩

theorem foldl_process_of_notMem {order : List Channel} {channel : Channel}
    (hnot : channel ∉ order) (this : SensorNode) :
    SameChannel this (order.foldl process this) channel := by
  induction order generalizing this with
  | nil => exact ⟨rfl, rfl, rfl, rfl⟩
  | cons first order ih =>
      rw [List.mem_cons, not_or] at hnot
      obtain ⟨hne, hnot⟩ := hnot
      have hfirst := process_of_ne this hne
      have hrest := ih hnot (this.process first)
      exact ⟨hrest.version.trans hfirst.version, hrest.slot.trans hfirst.slot,
        hrest.messages.trans hfirst.messages, hrest.topic.trans hfirst.topic⟩

/-- What processing a channel does to it: its slot is polled, and what the poll hands out goes over
its messages to its topics. -/
structure Polled (this this' : SensorNode) (channel : Channel) : Prop where
  version : this'.sensCap.devFwVer = this.sensCap.devFwVer
  slot : this'.sensCap.channel channel = (this.sensCap.channel channel).getLast.2
  messages : ∀ reading, fillMessages channel (this'.messages channel) reading =
    fillMessages channel (this.messages channel) reading
  topic : this'.topic channel = this.topic channel ++
    (this.sensCap.channel channel).handedOut.toList.map fun out =>
      fillMessages channel (this.messages channel) out.2

theorem process_polled (this : SensorNode) (channel : Channel) :
    Polled this (this.process channel) channel := by
  rw [process, take]
  refine ⟨?_, ?_, ?_, ?_⟩
  · cases (this.sensCap.channel channel).handedOut
    all_goals rfl
  · cases (this.sensCap.channel channel).handedOut
    all_goals exact Function.update_self ..
  · intro reading
    cases (this.sensCap.channel channel).handedOut with
    | none => rfl
    | some out =>
        show fillMessages channel (Function.update this.messages channel _ channel) reading = _
        rw [Function.update_self, fillMessages_fillMessages]
  · cases (this.sensCap.channel channel).handedOut with
    | none => exact (List.append_nil _).symm
    | some out =>
        show Function.update this.topic channel (this.topic channel ++
          [Function.update this.messages channel _ channel]) channel = _
        rw [Function.update_self, Function.update_self]
        rfl

theorem sensorCallback_polled (this : SensorNode) (channel : Channel) :
    Polled this this.sensorCallback channel := by
  obtain ⟨before, after, hchannels, hbefore, hafter⟩ : ∃ before after,
      channels = before ++ channel :: after ∧ channel ∉ before ∧ channel ∉ after := by
    cases channel with
    | imu => exact ⟨[], [.mag, .env, .camTemp], rfl, by decide, by decide⟩
    | mag => exact ⟨[.imu], [.env, .camTemp], rfl, by decide, by decide⟩
    | env => exact ⟨[.imu, .mag], [.camTemp], rfl, by decide, by decide⟩
    | camTemp => exact ⟨[.imu, .mag, .env], [], rfl, by decide, by decide⟩
  rw [sensorCallback, hchannels, List.foldl_append, List.foldl_cons]
  have hsame := foldl_process_of_notMem hbefore this
  have hpolled := process_polled (before.foldl process this) channel
  have hlater := foldl_process_of_notMem hafter ((before.foldl process this).process channel)
  refine ⟨?_, ?_, ?_, ?_⟩
  · rw [hlater.version, hpolled.version, hsame.version]
  · rw [hlater.slot, hpolled.slot, hsame.slot]
  · intro reading
    rw [hlater.messages, hpolled.messages, hsame.messages]
  · rw [hlater.topic, hpolled.topic, hsame.topic, hsame.slot, hsame.messages]

/-! ### Runs as runs of mailboxes -/

def channelEvents (devFwVer : Int32) (events : List SensorEvent) (channel : Channel) (n : Nat) :
    Mailbox.Event (Reading channel) :=
  match events[n]? with
  | some (.grab data currentDataTs) => data.report devFwVer currentDataTs channel
  | some .sensorCallback => .poll
  | none => .idle

variable {devFwVer : Int32} {events : List SensorEvent}

theorem run_of_sensorCallback {n : Nat} (h : events[n]? = some .sensorCallback) :
    run devFwVer events (n + 1) = (run devFwVer events n).sensorCallback := by
  rw [run, h]
  rfl

/-- The node refines four mailboxes, and its messages keep what the constructor prepared. -/
theorem run_channel (channel : Channel) (n : Nat) :
    (run devFwVer events n).sensCap.devFwVer = devFwVer ∧
      (run devFwVer events n).sensCap.channel channel =
        Mailbox.run (channelEvents devFwVer events channel) n ∧
      ∀ reading, fillMessages channel ((run devFwVer events n).messages channel) reading =
        fillMessages channel (preparedMessages channel) reading := by
  induction n with
  | zero => exact ⟨rfl, rfl, fun _ => rfl⟩
  | succ n ih =>
      obtain ⟨hversion, hslot, hmessages⟩ := ih
      rw [Mailbox.run, channelEvents]
      cases hevent : events[n]? with
      | none =>
          rw [run, hevent]
          exact ⟨hversion, hslot, hmessages⟩
      | some event =>
          cases event with
          | grab data currentDataTs =>
              rw [run, hevent]
              refine ⟨hversion, ?_, hmessages⟩
              show ((run devFwVer events n).sensCap.channel channel).step n _ = _
              rw [hversion, hslot]
          | sensorCallback =>
              have hpolled := sensorCallback_polled (run devFwVer events n) channel
              rw [run_of_sensorCallback hevent]
              refine ⟨hpolled.version.trans hversion, ?_, fun reading => ?_⟩
              · rw [hpolled.slot, hslot]
                rfl
              · rw [hpolled.messages, hmessages]

/-! ### Exactly once -/

variable (devFwVer events)

def StoresNew (channel : Channel) (n : Nat) : Prop :=
  ∃ data currentDataTs reading, events[n]? = some (.grab data currentDataTs) ∧
    data.report devFwVer currentDataTs channel = .report (some reading) .newVal

/-- Event `k` is a run of the callback in which the reading stored by event `n` goes out on the
channel's topics. -/
def Publishes (channel : Channel) (k n : Nat) : Prop :=
  events[k]? = some .sensorCallback ∧
    ∃ reading, ((run devFwVer events k).sensCap.channel channel).last = some (n, reading) ∧
      (run devFwVer events (k + 1)).topic channel =
        (run devFwVer events k).topic channel ++
          [fillMessages channel (preparedMessages channel) reading]

/-- Every new reading of the channel is published by exactly one run of the callback, if there is
one before the next new reading is stored, and no reading is published by two. -/
structure DeliversOnce (channel : Channel) : Prop where
  delivered : ∀ n j, n < j → StoresNew devFwVer events channel n →
    events[j]? = some .sensorCallback →
    (∀ i, n < i → i < j → ¬ StoresNew devFwVer events channel i) →
    ∃! k, Publishes devFwVer events channel k n
  once : ∀ n k k', Publishes devFwVer events channel k n → Publishes devFwVer events channel k' n →
    k = k'

variable {devFwVer events} {channel : Channel}

theorem fresh_iff {n : Nat} : Mailbox.Fresh (channelEvents devFwVer events channel n) ↔
    StoresNew devFwVer events channel n := by
  rw [Mailbox.Fresh, StoresNew, channelEvents]
  cases events[n]? with
  | none => simp
  | some event => cases event <;> simp

theorem poll_iff {n : Nat} : channelEvents devFwVer events channel n = .poll ↔
    events[n]? = some .sensorCallback := by
  rw [channelEvents]
  cases events[n]? with
  | none => simp
  | some event =>
      cases event with
      | grab data currentDataTs =>
          obtain ⟨stored, valid, hreport⟩ := exists_report data devFwVer currentDataTs channel
          simp [hreport]
      | sensorCallback => simp

theorem publishes_iff {k n : Nat} : Publishes devFwVer events channel k n ↔
    Mailbox.HandsOut (channelEvents devFwVer events channel) k n := by
  obtain ⟨-, hslot, hmessages⟩ := @run_channel devFwVer events channel k
  rw [Publishes, Mailbox.HandsOut, poll_iff, ← hslot]
  apply and_congr_right
  intro hcallback
  have htopic := (sensorCallback_polled (run devFwVer events k) channel).topic
  rw [run_of_sensorCallback hcallback, htopic]
  refine ⟨?_, ?_⟩
  · intro h
    obtain ⟨reading, hlast, hgrown⟩ := h
    have hsingle := List.append_cancel_left hgrown
    cases hout : ((run devFwVer events k).sensCap.channel channel).handedOut with
    | none =>
        rw [hout] at hsingle
        cases hsingle
    | some out =>
        have hlast' := (Mailbox.handedOut_eq_some_iff.mp hout).2.2
        rw [hlast] at hlast'
        exact ⟨reading, hlast'.symm⟩
  · intro h
    obtain ⟨reading, hout⟩ := h
    refine ⟨reading, (Mailbox.handedOut_eq_some_iff.mp hout).2.2, ?_⟩
    rw [hout, ← hmessages]
    rfl

theorem channelEvents_disciplined (devFwVer : Int32) (events : List SensorEvent)
    (channel : Channel) : Mailbox.Disciplined (channelEvents devFwVer events channel) := by
  apply (report_disciplined channel).imp
  · intro hall n valid
    rw [channelEvents]
    split
    · exact hall _ _ _ _
    · simp
    · simp
  · intro hnew n value valid hevent
    rw [channelEvents] at hevent
    split at hevent
    · exact hnew _ _ _ _ _ hevent
    · cases hevent
    · cases hevent

/-- **When no new reading is lost.** Over any run and on each channel, every new reading that a run
of the callback could still have found is published exactly once, and none twice, if and only if the
last report between a new reading and the next run of the callback never calls it old or absent. -/
theorem deliversOnce_iff_unmasked (devFwVer : Int32) (events : List SensorEvent)
    (channel : Channel) :
    DeliversOnce devFwVer events channel ↔
      Mailbox.Unmasked (channelEvents devFwVer events channel) := by
  rw [← Mailbox.deliversOnce_iff (channelEvents_disciplined devFwVer events channel)]
  refine ⟨?_, ?_⟩
  · intro h
    refine ⟨?_, ?_⟩
    · simpa only [fresh_iff, poll_iff, publishes_iff] using h.delivered
    · simpa only [publishes_iff] using h.once
  · intro h
    refine ⟨?_, ?_⟩
    · simpa only [fresh_iff, poll_iff, publishes_iff] using h.delivered
    · simpa only [publishes_iff] using h.once

/-! ### A reading that is masked -/

def maskedRun : List SensorEvent :=
  [.grab { magValid := 2, mX := 160 } 1700000000002500000,
    .grab { magValid := 1, mX := 160 } 1700000000005000000, .sensorCallback]

/-- The flag is set, but the second report has called the reading old. -/
theorem maskedRun_not_deliversOnce : ¬ DeliversOnce 778 maskedRun .mag := by
  intro hdelivers
  have hfresh : StoresNew 778 maskedRun .mag 0 := ⟨_, _, _, rfl, rfl⟩
  have hstale : ¬ StoresNew 778 maskedRun .mag 1 := by
    intro h
    obtain ⟨data, currentDataTs, reading, hevent, hreport⟩ := h
    cases hevent
    cases hreport
  obtain ⟨k, ⟨hcallback, reading, -, hgrown⟩, -⟩ := hdelivers.delivered 0 2 (by decide) hfresh rfl
    fun i hlow hhigh => by
      obtain rfl : i = 1 := by omega
      exact hstale
  obtain rfl : k = 2 := by
    match k, hcallback with
    | 2, _ => rfl
  have hempty : (run 778 maskedRun 3).topic .mag = [] := rfl
  rw [hempty] at hgrown
  cases hgrown

end SensorNode

end Ilumo.Stereo
