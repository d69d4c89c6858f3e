import Ilumo.Blickfeld.Replay

/-!
# The footer of a recording

The recorder keeps the totals of the frames, and an event for each frame whose scan pattern is not
about that of the last event. With frame ids that increase, the last event up to a frame tells the
pattern that the frame was recorded with.
-/

namespace Ilumo.Blickfeld

variable {approximatelyEquals : ScanPattern → ScanPattern → Bool}

/-- The pattern of the last event, or the default one the recorder starts with. -/
def lastPattern (events : List Event) : ScanPattern :=
  (events.getLast?.map Event.scanPattern).getD {}

/-- The pattern of the last event up to a frame id. -/
def Footer.inEffect (footer : Footer) (id : UInt64) : ScanPattern :=
  lastPattern (footer.events.filter fun event => event.fromFrameId ≤ id)

/-- The totals of some frames. -/
def Counter.total (frames : List Frame) : Counter where
  frames := UInt64.ofNat frames.length
  points := UInt64.ofNat (frames.map fun frame => frame.totalNumberOfPoints.toNat).sum
  returns := UInt64.ofNat (frames.map fun frame => frame.totalNumberOfReturns.toNat).sum

theorem Counter.total_concat (frames : List Frame) (frame : Frame) :
    Counter.total (frames ++ [frame]) = {
      frames := (Counter.total frames).frames + 1
      points := (Counter.total frames).points + frame.totalNumberOfPoints.toUInt64
      returns := (Counter.total frames).returns + frame.totalNumberOfReturns.toUInt64 } := by
  simp [Counter.total, UInt64.ofNat_add]

section Steps

variable {events : List Event} {event : Event} {id : UInt64}

theorem filter_concat_of_lt (hlt : id < event.fromFrameId) :
    (events ++ [event]).filter (fun event => event.fromFrameId ≤ id) =
      events.filter fun event => event.fromFrameId ≤ id := by
  have hnot : ¬event.fromFrameId ≤ id := UInt64.not_le.mpr hlt
  rw [List.filter_append, List.filter_singleton, decide_eq_false hnot]
  exact List.append_nil _

theorem filter_of_forall_le (hle : ∀ event ∈ events, event.fromFrameId ≤ id) :
    events.filter (fun event => event.fromFrameId ≤ id) = events :=
  List.filter_eq_self.mpr (by simpa using hle)

end Steps

/-- What the recorder has after some frames: its footer and the pattern it compares with. -/
structure Describes (approximatelyEquals : ScanPattern → ScanPattern → Bool) (frames : List Frame)
    (footer : Footer) (scanPattern : ScanPattern) : Prop where
  counter : footer.counter = Counter.total frames
  last : scanPattern = lastPattern footer.events
  ids : ∀ event ∈ footer.events, ∃ frame ∈ frames, frame.id = event.fromFrameId
  inEffect : ∀ frame ∈ frames, approximatelyEquals (footer.inEffect frame.id) frame.scanPattern

variable {frames : List Frame} {frame : Frame} {footer : Footer} {scanPattern : ScanPattern}

theorem Describes.event_lt (h : Describes approximatelyEquals frames footer scanPattern)
    (hids : ∀ earlier ∈ frames, earlier.id < frame.id) :
    ∀ event ∈ footer.events, event.fromFrameId < frame.id := by
  intro event hevent
  obtain ⟨earlier, hearlier, heq⟩ := h.ids event hevent
  rw [← heq]
  exact hids earlier hearlier

/-- A frame of the pattern that is compared with adds no event. -/
theorem Describes.same (h : Describes approximatelyEquals frames footer scanPattern)
    (happrox : approximatelyEquals scanPattern frame.scanPattern)
    (hids : ∀ earlier ∈ frames, earlier.id < frame.id) (counter : Counter)
    (hcounter : counter = Counter.total (frames ++ [frame])) :
    Describes approximatelyEquals (frames ++ [frame])
      { events := footer.events, counter? := some counter } scanPattern := by
  refine ⟨hcounter, h.last, fun event hevent => ?_, fun other hother => ?_⟩
  · obtain ⟨earlier, hearlier, heq⟩ := h.ids event hevent
    exact ⟨earlier, List.mem_append_left _ hearlier, heq⟩
  · rcases List.mem_append.mp hother with hother | hother
    · exact h.inEffect other hother
    · obtain rfl := List.mem_singleton.mp hother
      rw [Footer.inEffect, filter_of_forall_le fun event hevent =>
        UInt64.le_of_lt (h.event_lt hids event hevent), ← h.last]
      exact happrox

/-- The event of another frame is the last one up to that frame, and not one up to an earlier. -/
theorem Describes.changed (h : Describes approximatelyEquals frames footer scanPattern)
    (hrefl : approximatelyEquals frame.scanPattern frame.scanPattern)
    (hids : ∀ earlier ∈ frames, earlier.id < frame.id) (counter : Counter)
    (hcounter : counter = Counter.total (frames ++ [frame])) :
    Describes approximatelyEquals (frames ++ [frame])
      { events := footer.events ++ [⟨frame.id, frame.scanPattern⟩], counter? := some counter }
      frame.scanPattern := by
  refine ⟨hcounter, by rw [lastPattern, List.getLast?_concat]; rfl, fun event hevent => ?_,
    fun other hother => ?_⟩
  · rcases List.mem_append.mp hevent with hevent | hevent
    · obtain ⟨earlier, hearlier, heq⟩ := h.ids event hevent
      exact ⟨earlier, List.mem_append_left _ hearlier, heq⟩
    · obtain rfl := List.mem_singleton.mp hevent
      exact ⟨frame, by simp, rfl⟩
  · rcases List.mem_append.mp hother with hother | hother
    · rw [Footer.inEffect, filter_concat_of_lt (hids other hother)]
      exact h.inEffect other hother
    · obtain rfl := List.mem_singleton.mp hother
      rw [Footer.inEffect, filter_of_forall_le, lastPattern, List.getLast?_concat]
      · exact hrefl
      · intro event hevent
        rcases List.mem_append.mp hevent with hevent | hevent
        · exact UInt64.le_of_lt (h.event_lt hids event hevent)
        · obtain rfl := List.mem_singleton.mp hevent
          exact UInt64.le_refl _

/-- One frame more, with an id above the others. -/
theorem Describes.count (h : Describes approximatelyEquals frames footer scanPattern)
    (hrefl : approximatelyEquals frame.scanPattern frame.scanPattern)
    (hids : ∀ earlier ∈ frames, earlier.id < frame.id) :
    Describes approximatelyEquals (frames ++ [frame])
      (Footer.count approximatelyEquals (footer, scanPattern) frame).1
      (Footer.count approximatelyEquals (footer, scanPattern) frame).2 := by
  have hcounter : ({
      frames := footer.counter.frames + 1
      points := footer.counter.points + frame.totalNumberOfPoints.toUInt64
      returns := footer.counter.returns + frame.totalNumberOfReturns.toUInt64 } : Counter) =
      Counter.total (frames ++ [frame]) := by
    rw [h.counter, Counter.total_concat]
  cases happrox : approximatelyEquals scanPattern frame.scanPattern with
  | true =>
      simp only [Footer.count, happrox, Bool.not_true, Bool.false_eq_true, if_false]
      exact h.same happrox hids _ hcounter
  | false =>
      simp only [Footer.count, happrox, Bool.not_false, if_true]
      exact h.changed hrefl hids _ hcounter

/-- **What a footer tells.** Its counter has the totals, and the last event up to a frame has about
the scan pattern of the frame. -/
theorem footerOf_describes (hids : frames.Pairwise fun earlier later => earlier.id < later.id)
    (hrefl : ∀ frame ∈ frames, approximatelyEquals frame.scanPattern frame.scanPattern) :
    (footerOf approximatelyEquals frames).counter = Counter.total frames ∧
      ∀ frame ∈ frames, approximatelyEquals
        ((footerOf approximatelyEquals frames).inEffect frame.id) frame.scanPattern := by
  suffices hdescribes : Describes approximatelyEquals frames
      (frames.foldl (Footer.count approximatelyEquals) ({}, {})).1
      (frames.foldl (Footer.count approximatelyEquals) ({}, {})).2 from
    ⟨hdescribes.counter, hdescribes.inEffect⟩
  induction frames using List.reverseRecOn with
  | nil => exact ⟨rfl, rfl, by simp, by simp⟩
  | append_singleton frames frame ih =>
      obtain ⟨hids, -, hlast⟩ := List.pairwise_append.mp hids
      rw [List.foldl_append, List.foldl_cons, List.foldl_nil]
      exact (ih hids fun other hother => hrefl other (by simp [hother])).count
        (hrefl frame (by simp)) fun earlier hearlier => hlast earlier hearlier frame (by simp)

theorem footerOf_describes_two :
    (footerOf (fun p q => p = q)
        [{ id? := some 4 }, { id? := some 6, scanPattern? := some { maximum? := some 1 } }]).counter =
      Counter.total
        [{ id? := some 4 }, { id? := some 6, scanPattern? := some { maximum? := some 1 } }] ∧
      ∀ frame ∈ [({ id? := some 4 } : Frame),
          { id? := some 6, scanPattern? := some { maximum? := some 1 } }],
        decide ((footerOf (fun p q => p = q) [{ id? := some 4 },
          { id? := some 6, scanPattern? := some { maximum? := some 1 } }]).inEffect frame.id =
            frame.scanPattern) = true :=
  footerOf_describes (by decide) (by decide)

end Ilumo.Blickfeld
