import Ilumo.Stereo.Coherence

/-!
# The order of the published images

A run of the callback is admitted by comparing its frame with the last one taken, so frames are
taken in capture order and each at most once. They are published in that order exactly if the runs
in progress publish first taken, first published: what is published and what is in progress is then
one increasing sequence, through which a publication only moves the boundary.
-/

namespace Ilumo.Stereo

open Machine

variable {cvtColor : CvtColor} {width height : Nat} {buffer : List UInt8}

def stamps (topic : List ImageMsg) : List Time := topic.map (·.header.stamp)

structure Stamped (this : ImageNode) : Prop where
  left : stamps this.leftImages = this.published.map stampOf
  right : stamps this.rightImages = this.published.map stampOf
  stereo : stamps this.stereoImages = this.published.map stampOf

theorem Stamped.step {this this' : ImageNode} {event : ImageEvent} (h : Stamped this)
    (hstep : ImageStep cvtColor this event this') : Stamped this' := by
  cases hstep with
  | grab => exact ⟨h.left, h.right, h.stereo⟩
  | take =>
      rcases this.take_cases with ⟨-, htake⟩ | htake
      all_goals
        rw [htake]
        exact ⟨h.left, h.right, h.stereo⟩
  | publish =>
      constructor
      all_goals
        simp only [ImageNode.publish, stamps, List.map_append]
        first
          | exact congrArg (· ++ _) h.left
          | exact congrArg (· ++ _) h.right
          | exact congrArg (· ++ _) h.stereo

/-! ### The sequence of taken frames -/

def ImageNode.sequence (this : ImageNode) : List UInt64 :=
  this.published ++ this.taken.map Frame.timestamp

/-- The sequence is increasing, is made of stored frames, without the initial one, and ends at the
last frame taken, which is not later than the frame in the capture. -/
structure Ordered (this : ImageNode) : Prop where
  increasing : this.sequence.Pairwise (· < ·)
  captured : ∀ t ∈ this.sequence, t ∈ this.captured.map Captured.timestamp
  positive : ∀ t ∈ this.sequence, 0 < t
  bounded : ∀ t ∈ this.sequence, t ≤ this.lastImgTs
  behind : this.lastImgTs ≤ this.videoCap.lastFrame.timestamp

/-- The runs in progress publish in the order in which they took their frames. -/
def FirstTakenFirst (_ : ImageNode) : ImageEvent → Prop
  | .publish i => i = 0
  | _ => True

theorem sequence_publish {this : ImageNode} {frame : Frame} (htaken : this.taken[0]? = some frame) :
    (this.publish cvtColor 0 frame).sequence = this.sequence := by
  obtain ⟨rest, hrest⟩ : ∃ rest, this.taken = frame :: rest := by
    cases hall : this.taken with
    | nil => simp [hall] at htaken
    | cons first rest =>
        rw [hall] at htaken
        exact ⟨rest, by rw [Option.some.inj htaken]⟩
  simp [ImageNode.sequence, ImageNode.publish, hrest]

theorem Ordered.take {this : ImageNode} (h : Ordered this) (hfed : Fed width height this) :
    Ordered this.take := by
  rcases this.take_cases with ⟨hnew, htake⟩ | htake
  · rw [htake]
    have hlater : this.lastImgTs < this.videoCap.lastFrame.timestamp :=
      UInt64.lt_of_le_of_ne h.behind (Ne.symm hnew)
    have hsequence : ImageNode.sequence { this with
        videoCap := { this.videoCap with newFrame := false }
        lastImgTs := this.videoCap.lastFrame.timestamp
        taken := this.taken ++ [this.videoCap.lastFrame] } =
        this.sequence ++ [this.videoCap.lastFrame.timestamp] := by
      simp [ImageNode.sequence]
    have hsplit {t : UInt64} (ht : t ∈ this.sequence ++ [this.videoCap.lastFrame.timestamp]) :
        t ∈ this.sequence ∨ t = this.videoCap.lastFrame.timestamp := by
      simpa using ht
    refine ⟨?_, ?_, ?_, ?_, ?_⟩
    · rw [hsequence, List.pairwise_append]
      refine ⟨h.increasing, List.pairwise_singleton _ _, fun t ht u hu => ?_⟩
      rw [List.mem_singleton.mp hu]
      exact UInt64.lt_of_le_of_lt (h.bounded t ht) hlater
    · intro t ht
      rw [hsequence] at ht
      rcases hsplit ht with ht | rfl
      · exact h.captured t ht
      · exact List.mem_map_of_mem (hfed.mem_captured hnew)
    · intro t ht
      rw [hsequence] at ht
      rcases hsplit ht with ht | rfl
      · exact h.positive t ht
      · exact UInt64.lt_of_le_of_lt UInt64.zero_le hlater
    · intro t ht
      rw [hsequence] at ht
      rcases hsplit ht with ht | rfl
      · exact UInt64.le_trans (h.bounded t ht) h.behind
      · exact UInt64.le_refl _
    · exact UInt64.le_refl _
  · rw [htake]
    exact ⟨h.increasing, h.captured, h.positive, h.bounded, h.behind⟩

theorem Ordered.grab {this : ImageNode} (h : Ordered this) (hfed : Fed width height this)
    {frame : Captured} (hlater : ∀ earlier ∈ this.captured, earlier.timestamp < frame.timestamp) :
    Ordered (this.grab frame) := by
  refine ⟨h.increasing, fun t ht => ?_, h.positive, h.bounded, ?_⟩
  · rw [ImageNode.grab, List.map_append]
    exact List.mem_append_left _ (h.captured t ht)
  · show this.lastImgTs ≤ frame.timestamp
    rcases hfed.holds with hheld | ⟨-, -, hlast, -⟩
    · exact UInt64.le_trans h.behind (UInt64.le_of_lt (hlater _ hheld))
    · rw [hlast]
      exact UInt64.zero_le

theorem Ordered.step {this this' : ImageNode} {event : ImageEvent} (h : Ordered this)
    (hfed : Fed width height this)
    (hstep : Guarded (ImageStep cvtColor) FirstTakenFirst this event this') : Ordered this' := by
  obtain ⟨hstep, hfirst⟩ := hstep
  cases hstep with
  | grab _ hlater => exact h.grab hfed hlater
  | take => exact h.take hfed
  | publish htaken =>
      obtain rfl : _ = 0 := hfirst
      have hsequence := @sequence_publish cvtColor _ _ htaken
      refine ⟨?_, ?_, ?_, ?_, ?_⟩
      · rw [hsequence]
        exact h.increasing
      · rw [hsequence]
        exact h.captured
      · rw [hsequence]
        exact h.positive
      · rw [hsequence]
        exact h.bounded
      · exact h.behind

/-! ### The topics -/

/-- On each topic the frames appear in capture order, each at most once, under the stamps of stored
frames, and the same on all three. -/
structure InCaptureOrder (this : ImageNode) : Prop where
  stamped : Stamped this
  captured : ∀ t ∈ this.published, t ∈ this.captured.map Captured.timestamp
  notInitial : 0 ∉ this.published
  once : this.published.Nodup
  increasing : this.published.Pairwise (· < ·)
  stampsIncreasing : (∀ frame ∈ this.captured, frame.timestamp.toNat < 2 ^ 31 * 10 ^ 9) →
    ∀ topic ∈ [this.leftImages, this.rightImages, this.stereoImages],
      (stamps topic).Pairwise (· < ·)

theorem Ordered.inCaptureOrder {this : ImageNode} (h : Ordered this) (hstamped : Stamped this) :
    InCaptureOrder this := by
  have hmem {t : UInt64} (ht : t ∈ this.published) : t ∈ this.sequence :=
    List.mem_append_left _ ht
  have hincreasing : this.published.Pairwise (· < ·) := (List.pairwise_append.mp h.increasing).1
  refine ⟨hstamped, fun t ht => h.captured t (hmem ht), fun hzero => ?_, ?_, hincreasing, ?_⟩
  · exact absurd (h.positive 0 (hmem hzero)) (UInt64.lt_irrefl 0)
  · exact hincreasing.imp fun hlt => UInt64.ne_of_lt hlt
  · intro hbound
    have hdenotes : ∀ t ∈ this.published, (stampOf t).Denotes t.toNat := by
      intro t ht
      obtain ⟨frame, hframe, rfl⟩ := List.mem_map.mp (h.captured t (hmem ht))
      exact stampOf_denotes (hbound frame hframe)
    have hstamps : (this.published.map stampOf).Pairwise (· < ·) := by
      rw [List.pairwise_map]
      apply hincreasing.imp_of_mem
      intro t u ht hu hlt
      exact ((hdenotes t ht).lt_iff (hdenotes u hu)).mpr hlt
    simpa [hstamped.left, hstamped.right, hstamped.stereo] using hstamps

/-- **When images leave in capture order.** In every run in which callbacks publish in the order in
which they took their frames, each topic shows stored frames in capture order, each at most once
and the same ones on all three. -/
theorem inCaptureOrder_of_firstTakenFirst {events : List ImageEvent} {this : ImageNode}
    (hrun : Exec (Guarded (ImageStep cvtColor) FirstTakenFirst) (.new width height buffer) events
      this) : InCaptureOrder this := by
  have hboth : Ordered this ∧ Stamped this := by
    induction hrun with
    | nil =>
        refine ⟨⟨.nil, by simp [ImageNode.sequence, ImageNode.new], by
          simp [ImageNode.sequence, ImageNode.new], by
          simp [ImageNode.sequence, ImageNode.new], UInt64.le_refl _⟩, rfl, rfl, rfl⟩
    | snoc hrun hstep ih =>
        exact ⟨ih.1.step (fed_of_exec hrun.unguarded) hstep, ih.2.step hstep.1⟩
  exact hboth.1.inCaptureOrder hboth.2

/-! ### A run that overtakes another -/

def twoTaken : ImageNode := (blackTaken.grab whiteFrame).take

theorem exec_twoTaken : Exec (Guarded (ImageStep cvtGrey) FirstTakenFirst)
    (.new 2 1 [0, 0, 0, 0]) [.grab blackFrame, .take, .grab whiteFrame, .take] twoTaken := by
  have hfirst : Exec (Guarded (ImageStep cvtGrey) FirstTakenFirst) (.new 2 1 [0, 0, 0, 0])
      ([] ++ [.grab blackFrame]) ((ImageNode.new 2 1 [0, 0, 0, 0]).grab blackFrame) :=
    .snoc .nil ⟨.grab ⟨by decide, by decide, by decide⟩ (by simp [ImageNode.new]), trivial⟩
  have hblack : Exec (Guarded (ImageStep cvtGrey) FirstTakenFirst) (.new 2 1 [0, 0, 0, 0])
      [.grab blackFrame, .take] blackTaken := hfirst.snoc ⟨.take, trivial⟩
  have hsecond := hblack.snoc ⟨grab_white ⟨by decide, by decide, by decide⟩ rfl, trivial⟩
  exact hsecond.snoc ⟨.take, trivial⟩

theorem taken_twoTaken :
    twoTaken.taken = [frameAt 2 1 1700000000000000000, frameAt 2 1 1700000000016666000] := by
  decide

theorem inCaptureOrder_twoTaken : ∃ this,
    Exec (ImageStep cvtGrey) (.new 2 1 [0, 0, 0, 0])
      [.grab blackFrame, .take, .grab whiteFrame, .take, .publish 0, .publish 0] this ∧
      InCaptureOrder this := by
  have hfirst := exec_twoTaken.snoc ⟨.publish (i := 0) (by rw [taken_twoTaken]; rfl), rfl⟩
  have hsecond := hfirst.snoc ⟨.publish (i := 0) (by
    show (twoTaken.taken.eraseIdx 0)[0]? = _
    rw [taken_twoTaken]
    rfl), rfl⟩
  exact ⟨_, hsecond.unguarded, inCaptureOrder_of_firstTakenFirst hsecond⟩

/-- The run with the later frame publishes first, and the older stamp follows the newer one. -/
theorem twoTaken_not_inCaptureOrder : ∃ this,
    Exec (ImageStep cvtGrey) (.new 2 1 [0, 0, 0, 0])
      [.grab blackFrame, .take, .grab whiteFrame, .take, .publish 1, .publish 0] this ∧
      ¬ (stamps this.leftImages).Pairwise (· < ·) ∧ ¬ InCaptureOrder this := by
  have hfirst := exec_twoTaken.unguarded.snoc (.publish (i := 1) (by rw [taken_twoTaken]; rfl))
  have hsecond := hfirst.snoc (.publish (i := 0) (by
    show (twoTaken.taken.eraseIdx 1)[0]? = _
    rw [taken_twoTaken]
    rfl))
  refine ⟨_, hsecond, by decide, fun horder => ?_⟩
  exact absurd horder.increasing (by decide)

end Ilumo.Stereo
