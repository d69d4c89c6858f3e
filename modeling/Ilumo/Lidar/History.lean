import Ilumo.Lidar.Encoding

/-!
# What a point cloud keeps of earlier frames

The buffer is resized from the announced count and filled from the nested returns. Where the two
agree nothing of the old buffer survives; where the count is larger, the bytes behind the last
return are those an earlier frame left. So the published message depends on its own frame alone
exactly when the announced count, as the 32-bit size computation sees it, is the nested one.
-/

namespace Ilumo.Lidar

open Bytes Machine

/-- What the handling of a frame neither reads from the frame nor resets. -/
def SameTemplate (msg msg' : PointCloud2) : Prop :=
  msg'.header.frameId = msg.header.frameId ∧ msg'.fields = msg.fields ∧
    msg'.isBigendian = msg.isBigendian ∧ msg'.pointStep = msg.pointStep

theorem preparePointCloud_congr {msg msg' : PointCloud2} (h : SameTemplate msg msg') (frame : Frame)
    (data : List UInt8) :
    { preparePointCloud frame msg' with data } = { preparePointCloud frame msg with data } := by
  obtain ⟨hframeId, hfields, hbigendian, hstep⟩ := h
  simp only [preparePointCloud, hframeId, hfields, hbigendian, hstep]

theorem sameTemplate_of_exec {this : LiDARPublisher} {frameId : String} {frames : List Frame}
    {s : LiDARPublisher × PointCloud2}
    (h : Exec CloudStep (this, preparedPointCloudMsg frameId) frames s) :
    SameTemplate (preparedPointCloudMsg frameId) s.2 := by
  refine (h.invariant (I := fun s => Prepared s.2 ∧
    SameTemplate (preparedPointCloudMsg frameId) s.2) ⟨⟨rfl, rfl⟩, rfl, rfl, rfl, rfl⟩ ?_).2
  intro t frame t' hall hstep
  obtain ⟨hprep, htemplate⟩ := hall
  refine ⟨hstep.prepared hprep, ?_⟩
  rw [(hstep.out_eq hprep).2]
  exact htemplate

/-- The message published for `frame` is the same after any two histories of the message object. -/
def HistoryIndependent (frameId : String) (frame : Frame) : Prop :=
  ∀ (this₁ this₂ : LiDARPublisher) (history₁ history₂ : List Frame)
    (s₁ s₂ s₁' s₂' : LiDARPublisher × PointCloud2),
    Exec CloudStep (this₁, preparedPointCloudMsg frameId) history₁ s₁ →
    Exec CloudStep (this₂, preparedPointCloudMsg frameId) history₂ s₂ →
    CloudStep s₁ frame s₁' → CloudStep s₂ frame s₂' → s₁'.2 = s₂'.2

theorem dataSize_eq (frame : Frame) :
    frame.dataSize = frame.totalNumberOfReturns.toNat % 2 ^ 27 * 32 := by
  rw [Frame.dataSize, UInt32.toNat_mul]
  change frame.totalNumberOfReturns.toNat * 32 % 2 ^ 32 = _
  omega

theorem historyIndependent_of_count {frameId : String} {frame : Frame}
    (hcount : frame.totalNumberOfReturns.toNat % 2 ^ 27 = frame.nested.length) :
    HistoryIndependent frameId frame := by
  intro this₁ this₂ history₁ history₂ s₁ s₂ s₁' s₂' hrun₁ hrun₂ hstep₁ hstep₂
  have hnothing (data : List UInt8) :
      (resize data frame.dataSize).drop (frame.nested.length * 32) = [] := by
    rw [List.drop_eq_nil_iff, length_resize, dataSize_eq, hcount]
  rw [(hstep₁.out_eq (prepared_of_exec hrun₁)).2, (hstep₂.out_eq (prepared_of_exec hrun₂)).2,
    filledPointCloud, filledPointCloud, hnothing, hnothing,
    preparePointCloud_congr (sameTemplate_of_exec hrun₁),
    preparePointCloud_congr (sameTemplate_of_exec hrun₂)]

/-! ### A history whose bytes survive -/

def fullFrame (n : Nat) : Frame where
  totalNumberOfReturns? := some (UInt32.ofNat n)
  scanlines := [{ points := [{
    returns := List.replicate n { cartesian := [0xffffffff, 0xffffffff, 0xffffffff] } }] }]

def fullNested (n : Nat) : Nested where
  scanline := (fullFrame n).scanlines.headD {}
  point := ((fullFrame n).scanlines.headD {}).points.headD {}
  ret := { cartesian := [0xffffffff, 0xffffffff, 0xffffffff] }

theorem nested_fullFrame (n : Nat) : (fullFrame n).nested = List.replicate n (fullNested n) := by
  simp [Frame.nested, Scanline.nested, Point.nested, fullFrame, fullNested]

theorem slice_record_fullNested (n : Nat) :
    slice (fullNested n).record 0 4 = [255, 255, 255, 255] := by
  have hwords : (fullNested n).words = [0xffffffff, 0xffffffff, 0xffffffff, 0, 0, 0, 0, 0] := by
    simp [Nested.words, fullNested, fullFrame, Nested.timeOffset, Return.intensity,
      Point.ambientLightLevel, Point.id, Return.id, Scanline.startOffsetNs, Point.startOffsetNs]
  rw [Nested.record, hwords]
  decide

theorem dataSize_fullFrame {n : Nat} (hn : n < 2 ^ 27) : (fullFrame n).dataSize = n * 32 := by
  have htotal : (fullFrame n).totalNumberOfReturns.toNat = n := by
    change (UInt32.ofNat n).toNat = n
    rw [UInt32.toNat_ofNat', Nat.mod_eq_of_lt (by omega)]
  rw [dataSize_of_lt (by omega), htotal]

theorem fits_fullFrame {n : Nat} (hn : n < 2 ^ 27) : (fullFrame n).Fits := by
  refine ⟨?_, ?_⟩
  · intro nested hnested
    rw [nested_fullFrame] at hnested
    rw [List.eq_of_mem_replicate hnested]
    exact le_rfl
  · rw [nested_fullFrame, List.length_replicate, dataSize_fullFrame hn]

theorem exists_cloudStep {s : LiDARPublisher × PointCloud2} (hprep : Prepared s.2) {frame : Frame}
    (hfits : frame.Fits) : ∃ s', CloudStep s frame s' := by
  have hout := (fillPointCloud_eq_ok hprep).mpr ⟨hfits, rfl⟩
  exact ⟨(_, _), pointcloudCallback_eq_ok.mpr ⟨rfl, hout⟩⟩

theorem CloudStep.data_fullFrame {n : Nat} (hbound : n < 2 ^ 27)
    {s s' : LiDARPublisher × PointCloud2} (hprep : Prepared s.2)
    (h : CloudStep s (fullFrame n) s') :
    s'.2.data = (fullFrame n).nested.flatMap Nested.record := by
  rw [(h.out_eq hprep).2]
  simp [filledPointCloud, dataSize_fullFrame hbound, nested_fullFrame]

/-- Every record starts with the bytes of a coordinate that are all ones. -/
theorem slice_records_fullFrame {n k : Nat} (hk : k < n) :
    slice ((fullFrame n).nested.flatMap Nested.record) (k * 32) 4 = [255, 255, 255, 255] := by
  have hnested : k < (fullFrame n).nested.length := by
    rw [nested_fullFrame, List.length_replicate]
    exact hk
  have hread := slice_flatMap Nested.length_record [] (show 0 + 4 ≤ 32 by omega)
    (fullFrame n).nested k hnested
  rw [List.append_nil, Nat.add_zero] at hread
  rw [hread]
  simp only [nested_fullFrame, List.getElem_replicate]
  exact slice_record_fullNested n

/-- Room for more records than the frame nests: the bytes behind the last one are zero in a fresh
message, and those of the earlier frame in a message that has been through a full one. -/
theorem not_historyIndependent {frameId : String} {frame : Frame} (hfits : frame.Fits)
    (hlt : frame.nested.length < frame.totalNumberOfReturns.toNat % 2 ^ 27) :
    ¬ HistoryIndependent frameId frame := by
  intro hindependent
  generalize hn : frame.totalNumberOfReturns.toNat % 2 ^ 27 = n at hlt
  have hbound : n < 2 ^ 27 := by omega
  have hsize : frame.dataSize = n * 32 := by rw [dataSize_eq, hn]
  have hprep : Prepared (preparedPointCloudMsg frameId) := prepared_preparedPointCloudMsg frameId
  obtain ⟨fresh, hfresh⟩ :=
    exists_cloudStep (s := (LiDARPublisher.new, preparedPointCloudMsg frameId)) hprep hfits
  obtain ⟨used, hused⟩ :=
    exists_cloudStep (s := (LiDARPublisher.new, preparedPointCloudMsg frameId)) hprep
      (fits_fullFrame hbound)
  obtain ⟨later, hlater⟩ := exists_cloudStep (hused.prepared hprep) hfits
  have hsame := hindependent _ _ [] ([] ++ [fullFrame n]) _ _ _ _ .nil (Exec.nil.snoc hused)
    hfresh hlater
  have hblocks := hused.data_fullFrame hbound hprep
  have husedSize : used.2.data.length = n * 32 := by
    rw [hblocks, length_flatMap Nested.length_record, nested_fullFrame, List.length_replicate]
  rw [(hfresh.out_eq hprep).2, (hlater.out_eq (hused.prepared hprep)).2, filledPointCloud,
    filledPointCloud] at hsame
  -- the two messages agree behind the last nested return
  have htail : (resize [] (n * 32)).drop (frame.nested.length * 32) =
      used.2.data.drop (frame.nested.length * 32) := by
    have hdata := List.append_cancel_left (congrArg PointCloud2.data hsame)
    rw [hsize, ← husedSize, resize_self, husedSize] at hdata
    exact hdata
  have hzero : slice (resize [] (n * 32)) (frame.nested.length * 32) 4 = [0, 0, 0, 0] :=
    slice_resize_nil (by omega)
  have hfull : slice used.2.data (frame.nested.length * 32) 4 = [255, 255, 255, 255] := by
    rw [hblocks]
    exact slice_records_fullFrame hlt
  have hclash : slice (resize [] (n * 32)) (frame.nested.length * 32) 4 =
      slice used.2.data (frame.nested.length * 32) 4 := congrArg (List.take 4) htail
  rw [hzero, hfull] at hclash
  exact absurd hclash (by decide)

/-- **When a published cloud depends on its own frame only.** For a frame whose handling makes no
access outside the message, it does exactly when the announced count, modulo the `2 ^ 27` records
that a 32-bit byte size can express, is the number of nested returns. -/
theorem historyIndependent_iff {this : LiDARPublisher} {frameId : String} {history : List Frame}
    {s s' : LiDARPublisher × PointCloud2} {frame : Frame}
    (hhistory : Exec CloudStep (this, preparedPointCloudMsg frameId) history s)
    (hhandled : CloudStep s frame s') :
    HistoryIndependent frameId frame ↔
      frame.totalNumberOfReturns.toNat % 2 ^ 27 = frame.nested.length := by
  have hfits := (hhandled.out_eq (prepared_of_exec hhistory)).1
  refine ⟨?_, ?_⟩
  · intro hindependent
    by_contra hcount
    have hroom := hfits.2
    rw [dataSize_eq] at hroom
    exact not_historyIndependent hfits (by omega) hindependent
  · exact historyIndependent_of_count

theorem historyIndependent_iff_raggedFrame :
    ∃ s, Exec CloudStep (.new, preparedPointCloudMsg "lidar_side") [earlierFrame] s ∧
      (HistoryIndependent "lidar_side" { raggedFrame with totalNumberOfReturns? := some 4 } ↔
        4 % 2 ^ 27 = raggedFrame.nested.length) := by
  obtain ⟨s, hhistory⟩ := exists_exec_earlierFrame
  obtain ⟨s', hstep⟩ := exists_cloudStep (prepared_of_exec hhistory)
    (show Frame.Fits { raggedFrame with totalNumberOfReturns? := some 4 } by decide)
  exact ⟨s, hhistory, historyIndependent_iff hhistory hstep⟩

def unfilledFrame : Frame where
  startTimeNs? := some 2000000000
  totalNumberOfReturns? := some 1

/-- After a frame with one return, the unfilled frame is published with that return's record. -/
theorem unfilledFrame_not_historyIndependent :
    (∃ s', CloudStep (.new, preparedPointCloudMsg "lidar_side") unfilledFrame s') ∧
      ¬ HistoryIndependent "lidar_side" unfilledFrame :=
  ⟨exists_cloudStep (prepared_preparedPointCloudMsg _) (by decide),
    not_historyIndependent (by decide) (by decide)⟩

end Ilumo.Lidar
