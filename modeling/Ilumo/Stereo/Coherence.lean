import Ilumo.Stereo.ImageCallback

/-!
# Pixels and timestamps of the published images

A taken frame carries its own timestamp and a pointer to the one buffer. Its images show its own
pixels exactly as long as the buffer has not been overwritten since, that is, as long as the
capture's frame still has the timestamp that was taken.
-/

namespace Ilumo.Stereo

open Machine

variable {cvtColor : CvtColor} {width height : Nat} {buffer : List UInt8}

/-! ### What the grab thread keeps -/

def frameAt (width height : Nat) (timestamp : UInt64) : Frame :=
  { blankFrame width height with timestamp }

/-- Frames differ in their timestamps only, and the capture holds the last stored frame; while
there is none, nothing has been taken. -/
structure Fed (width height : Nat) (this : ImageNode) : Prop where
  lastFrame : this.videoCap.lastFrame = frameAt width height this.videoCap.lastFrame.timestamp
  taken : ∀ frame ∈ this.taken, frame = frameAt width height frame.timestamp
  holds : ⟨this.videoCap.lastFrame.timestamp, this.videoCap.buffer⟩ ∈ this.captured ∨
    this.captured = [] ∧ this.taken = [] ∧ this.lastImgTs = 0 ∧
      this.videoCap.lastFrame.timestamp = 0

theorem fed_new : Fed width height (.new width height buffer) where
  lastFrame := rfl
  taken := by simp [ImageNode.new]
  holds := .inr ⟨rfl, rfl, rfl, rfl⟩

theorem Fed.mem_captured {this : ImageNode} (h : Fed width height this)
    (hnew : this.videoCap.lastFrame.timestamp ≠ this.lastImgTs) :
    ⟨this.videoCap.lastFrame.timestamp, this.videoCap.buffer⟩ ∈ this.captured := by
  apply h.holds.resolve_right
  intro hall
  obtain ⟨-, -, hlast, hframe⟩ := hall
  exact hnew (hframe.trans hlast.symm)

theorem Fed.step {this this' : ImageNode} {event : ImageEvent} (h : Fed width height this)
    (hstep : ImageStep cvtColor this event this') : Fed width height this' := by
  cases hstep with
  | @grab frame hstore hlater =>
      refine ⟨?_, ?_, ?_⟩
      · show { this.videoCap.lastFrame with timestamp := frame.timestamp } = _
        rw [h.lastFrame]
        rfl
      · exact h.taken
      · exact .inl (List.mem_append_right _ (List.mem_singleton_self _))
  | take =>
      rcases this.take_cases with ⟨hnew, htake⟩ | htake
      · rw [htake]
        refine ⟨h.lastFrame, fun frame hframe => ?_, .inl (h.mem_captured hnew)⟩
        rcases List.mem_append.mp hframe with hframe | hframe
        · exact h.taken frame hframe
        · rw [List.mem_singleton.mp hframe]
          exact h.lastFrame
      · rw [htake]
        exact ⟨h.lastFrame, h.taken, h.holds⟩
  | @publish i frame htaken =>
      refine ⟨h.lastFrame, fun other hother => h.taken other (List.mem_of_mem_eraseIdx hother), ?_⟩
      rcases h.holds with hheld | ⟨-, hempty, -⟩
      · exact .inl hheld
      · rw [hempty] at htaken
        cases htaken

theorem fed_of_exec {events : List ImageEvent} {this : ImageNode}
    (h : Exec (ImageStep cvtColor) (.new width height buffer) events this) :
    Fed width height this :=
  h.invariant fed_new fun _ _ _ hfed hstep => hfed.step hstep

/-! ### Coherent images -/

def Captured.images (cvtColor : CvtColor) (width height : Nat) (frame : Captured) : Images :=
  prepareImages cvtColor (frameAt width height frame.timestamp) frame.pixels

/-- The images on the three topics are, message by message, those of stored frames: stamp and pixels
are from one iteration of the grab thread. -/
def Coherent (cvtColor : CvtColor) (width height : Nat) (this : ImageNode) : Prop :=
  ∃ sources : List Captured, (∀ frame ∈ sources, frame ∈ this.captured) ∧
    this.leftImages = sources.map (fun frame => (frame.images cvtColor width height).left) ∧
    this.rightImages = sources.map (fun frame => (frame.images cvtColor width height).right) ∧
    this.stereoImages = sources.map (fun frame => (frame.images cvtColor width height).stereo)

/-- A run publishes the frame it has taken before another one is stored. -/
def StillCurrent (this : ImageNode) : ImageEvent → Prop
  | .publish i => ∀ frame, this.taken[i]? = some frame →
      frame.timestamp = this.videoCap.lastFrame.timestamp
  | _ => True

theorem Coherent.of_subset {this this' : ImageNode} (h : Coherent cvtColor width height this)
    (hcaptured : ∀ frame ∈ this.captured, frame ∈ this'.captured)
    (hleft : this'.leftImages = this.leftImages) (hright : this'.rightImages = this.rightImages)
    (hstereo : this'.stereoImages = this.stereoImages) : Coherent cvtColor width height this' := by
  obtain ⟨sources, hsources, hleft', hright', hstereo'⟩ := h
  exact ⟨sources, fun frame hframe => hcaptured _ (hsources _ hframe), hleft.trans hleft',
    hright.trans hright', hstereo.trans hstereo'⟩

theorem Coherent.publish {this : ImageNode} {i : Nat} {frame : Frame}
    (h : Coherent cvtColor width height this) (hfed : Fed width height this)
    (htaken : this.taken[i]? = some frame)
    (hcurrent : frame.timestamp = this.videoCap.lastFrame.timestamp) :
    Coherent cvtColor width height (this.publish cvtColor i frame) := by
  have hmem : frame ∈ this.taken := List.mem_of_getElem? htaken
  have hheld : (⟨frame.timestamp, this.videoCap.buffer⟩ : Captured) ∈ this.captured := by
    rw [hcurrent]
    apply hfed.holds.resolve_right
    intro hall
    obtain ⟨-, hempty, -⟩ := hall
    rw [hempty] at hmem
    cases hmem
  have himages : prepareImages cvtColor frame this.videoCap.buffer =
      Captured.images cvtColor width height ⟨frame.timestamp, this.videoCap.buffer⟩ := by
    rw [Captured.images, ← hfed.taken frame hmem]
  obtain ⟨sources, hsources, hleft, hright, hstereo⟩ := h
  refine ⟨sources ++ [⟨frame.timestamp, this.videoCap.buffer⟩], ?_, ?_, ?_, ?_⟩
  · intro source hsource
    rcases List.mem_append.mp hsource with hsource | hsource
    · exact hsources source hsource
    · rw [List.mem_singleton.mp hsource]
      exact hheld
  · rw [ImageNode.publish, himages, hleft, List.map_append]
    rfl
  · rw [ImageNode.publish, himages, hright, List.map_append]
    rfl
  · rw [ImageNode.publish, himages, hstereo, List.map_append]
    rfl

theorem Coherent.step {this this' : ImageNode} {event : ImageEvent}
    (h : Coherent cvtColor width height this) (hfed : Fed width height this)
    (hstep : Guarded (ImageStep cvtColor) StillCurrent this event this') :
    Coherent cvtColor width height this' := by
  obtain ⟨hstep, hcurrent⟩ := hstep
  cases hstep with
  | grab => exact h.of_subset (fun _ => List.mem_append_left _) rfl rfl rfl
  | take =>
      rcases this.take_cases with ⟨-, htake⟩ | htake
      all_goals
        rw [htake]
        exact h.of_subset (fun _ hframe => hframe) rfl rfl rfl
  | publish htaken => exact h.publish hfed htaken (hcurrent _ htaken)

/-- **When published pixels belong to the published timestamp.** In every run in which no frame is
stored between a callback's take and its conversion, every message of the three topics has its stamp
and its pixels from one stored frame. -/
theorem coherent_of_stillCurrent {events : List ImageEvent} {this : ImageNode}
    (hrun : Exec (Guarded (ImageStep cvtColor) StillCurrent) (.new width height buffer) events
      this) : Coherent cvtColor width height this := by
  induction hrun with
  | nil => exact ⟨[], by simp, rfl, rfl, rfl⟩
  | snoc hrun hstep ih => exact ih.step (fed_of_exec hrun.unguarded) hstep

/-! ### A frame overwritten before it is converted -/

def blackFrame : Captured := ⟨1700000000000000000, [16, 128, 16, 128]⟩

def whiteFrame : Captured := ⟨1700000000016666000, [235, 128, 235, 128]⟩

/-- The black frame is published before the white one is stored. -/
def undisturbedRun : List ImageEvent := [.grab blackFrame, .take, .publish 0, .grab whiteFrame]

/-- The white frame is stored while the run that has taken the black one is in progress. -/
def overwrittenRun : List ImageEvent := [.grab blackFrame, .take, .grab whiteFrame, .publish 0]

def blackTaken : ImageNode := ((ImageNode.new 2 1 [0, 0, 0, 0]).grab blackFrame).take

theorem exec_blackTaken : Exec (Guarded (ImageStep cvtGrey) StillCurrent)
    (.new 2 1 [0, 0, 0, 0]) [.grab blackFrame, .take] blackTaken := by
  have hstore : (ImageNode.new 2 1 [0, 0, 0, 0]).videoCap.CanStore :=
    ⟨by decide, by decide, by decide⟩
  have hgrab : Exec (Guarded (ImageStep cvtGrey) StillCurrent) (.new 2 1 [0, 0, 0, 0])
      ([] ++ [.grab blackFrame]) ((ImageNode.new 2 1 [0, 0, 0, 0]).grab blackFrame) :=
    .snoc .nil ⟨.grab hstore (by simp [ImageNode.new]), trivial⟩
  exact hgrab.snoc ⟨.take, trivial⟩

theorem taken_blackTaken : blackTaken.taken[0]? = some (frameAt 2 1 1700000000000000000) := by
  decide

theorem grab_white {this : ImageNode} (hstore : this.videoCap.CanStore)
    (hcaptured : this.captured = [blackFrame]) :
    ImageStep cvtGrey this (.grab whiteFrame) (this.grab whiteFrame) := by
  apply ImageStep.grab hstore
  rw [hcaptured]
  decide

theorem coherent_undisturbedRun : ∃ this,
    Exec (ImageStep cvtGrey) (.new 2 1 [0, 0, 0, 0]) undisturbedRun this ∧
      Coherent cvtGrey 2 1 this := by
  have hcurrent : StillCurrent blackTaken (.publish 0) := by
    intro frame hframe
    rw [taken_blackTaken] at hframe
    rw [← Option.some.inj hframe]
    rfl
  have hpublish := exec_blackTaken.snoc ⟨.publish taken_blackTaken, hcurrent⟩
  have hgrab := @grab_white (blackTaken.publish cvtGrey 0 (frameAt 2 1 1700000000000000000))
    ⟨by decide, by decide, by decide⟩ rfl
  have hall := hpublish.snoc ⟨hgrab, trivial⟩
  exact ⟨_, hall.unguarded, coherent_of_stillCurrent hall⟩

def ImageMsg.corner (msg : ImageMsg) : Option Bgr :=
  if h : 0 < msg.height ∧ 0 < msg.width then some (msg.pixels ⟨0, h.1⟩ ⟨0, h.2⟩) else none

/-- The left image has the stamp of the black frame and the pixels of the white one. -/
theorem overwrittenRun_not_coherent : ∃ this,
    Exec (ImageStep cvtGrey) (.new 2 1 [0, 0, 0, 0]) overwrittenRun this ∧
      ¬ Coherent cvtGrey 2 1 this := by
  have hgrab := exec_blackTaken.unguarded.snoc
    (grab_white ⟨by decide, by decide, by decide⟩ rfl)
  have hpublish := hgrab.snoc (.publish taken_blackTaken)
  refine ⟨_, hpublish, ?_⟩
  intro h
  obtain ⟨sources, hsources, hleft, -⟩ := h
  obtain ⟨frame, rfl⟩ : ∃ frame, sources = [frame] := by
    rw [← List.length_eq_one_iff, ← List.length_map, ← hleft]
    rfl
  have hframe : frame ∈ [blackFrame, whiteFrame] := hsources frame (List.mem_singleton_self _)
  have hstamp := congrArg (List.map (·.header.stamp)) hleft
  have hcorner := congrArg (List.map ImageMsg.corner) hleft
  rcases List.mem_pair.mp hframe with rfl | rfl
  · exact absurd hcorner (by decide)
  · exact absurd hstamp (by decide)

end Ilumo.Stereo
