import Ilumo.Lib.Binary32
import Ilumo.Lidar.History

/-!
# Reading the time offset as declared

The table declares `time_offset` as one `float32`. The callback stores the deduced `uint64_t`, whose
high half the next field overwrites, so what a reader finds in the declared four bytes is the low
word of an integer. It decodes to that integer only where the low word of the sum happens to be the
sum's own `float32`.
-/

namespace Ilumo.Lidar

open Binary32 Bytes Machine

/-- The field is declared as one `float32`, and its word in record `k` is the `float32` of `n`. -/
structure DecodesAs (msg : PointCloud2) (k : Nat) (fieldName : String) (n : Nat) : Prop where
  declared : (msg.fields.find? fun field => field.name = fieldName).map
    (fun field => (field.datatype, field.count)) = some (PointField.float32, 1)
  decoded : ∃ word, readWord msg k fieldName = some word ∧ Rounds word n ∧
    (n < 2 ^ 24 → value word = some (n : ℚ))

def Nested.offsetSum (nested : Nested) : Nat :=
  nested.scanline.startOffsetNs.toNat + nested.point.startOffsetNs.toNat

/-- The low word of the number is its own `float32`, which below `2 ^ 30` only that of zero is. -/
def OwnEncoding (n : Nat) : Prop := n = 0 ∨ 2 ^ 30 ≤ n ∧ n % 2 ^ 32 = encode n

instance (n : Nat) : Decidable (OwnEncoding n) := inferInstanceAs (Decidable (_ ∨ _))

theorem Nested.timeOffset_toUInt32 {nested : Nested} (hsum : nested.offsetSum < 2 ^ 64) :
    nested.timeOffset.toUInt32.toNat = nested.offsetSum % 2 ^ 32 := by
  have hoffset : nested.timeOffset.toNat = nested.offsetSum := by
    rw [Nested.timeOffset, UInt64.toNat_add]
    exact Nat.mod_eq_of_lt hsum
  rw [UInt64.toNat_toUInt32, hoffset]

/-- The low word of a sum, read as a `float32`, is the sum rounded. -/
theorem rounds_iff_ownEncoding {n : Nat} (hn : n < 2 ^ 64) {word : UInt32}
    (hword : word.toNat = n % 2 ^ 32) : Rounds word n ↔ OwnEncoding n := by
  rcases Nat.eq_zero_or_pos n with rfl | hpos
  · obtain rfl : word = 0 := UInt32.toNat_inj.mp hword
    exact iff_of_true rounds_zero (.inl rfl)
  · have hlog : n.log2 < 64 := (Nat.log2_lt hpos.ne').mpr hn
    rw [rounds_natCast_iff hpos (by omega), hword, OwnEncoding]
    refine ⟨?_, ?_⟩
    · intro hself
      refine .inr ⟨?_, hself⟩
      by_contra hsmall
      have hlarger := lt_encode hpos (by omega)
      omega
    · intro h
      rcases h with hzero | ⟨-, hself⟩
      · omega
      · exact hself

example : OwnEncoding 1318926965 := by decide

/-- Both writes of the record's second half leave the low word of the sum in the field. -/
theorem readWord_timeOffset {s s' : LiDARPublisher × PointCloud2} {frame : Frame}
    (hprep : Prepared s.2) (h : CloudStep s frame s') {k : Nat} (hk : k < frame.nested.length) :
    readWord s'.2 k "time_offset" = some frame.nested[k].timeOffset.toUInt32 := by
  have hdata := congrArg PointCloud2.data (h.out_eq hprep).2
  exact readWord_records (h.prepared hprep) hdata hk (i := 5) (by decide) rfl

theorem decodesAs_iff_of_prepared {s s' : LiDARPublisher × PointCloud2} {frame : Frame}
    (hprep : Prepared s.2) (h : CloudStep s frame s') {k : Nat} (hk : k < frame.nested.length)
    (hsum : frame.nested[k].offsetSum < 2 ^ 64) :
    DecodesAs s'.2 k "time_offset" frame.nested[k].offsetSum ↔
      OwnEncoding frame.nested[k].offsetSum := by
  have hread := readWord_timeOffset hprep h hk
  have hword := Nested.timeOffset_toUInt32 hsum
  rw [← rounds_iff_ownEncoding hsum hword]
  refine ⟨?_, ?_⟩
  · intro hdecodes
    obtain ⟨word, hfound, hrounds, -⟩ := hdecodes.decoded
    obtain rfl := Option.some.inj (hread.symm.trans hfound)
    exact hrounds
  · intro hrounds
    refine ⟨?_, _, hread, hrounds, fun hsmall => ?_⟩
    · rw [(h.prepared hprep).1]
      decide
    · -- below 2 ^ 24 only zero is its own encoding
      rcases (rounds_iff_ownEncoding hsum hword).mp hrounds with hzero | ⟨hlarge, -⟩
      · rw [hzero] at hword ⊢
        obtain hword : frame.nested[k].timeOffset.toUInt32 = 0 := UInt32.toNat_inj.mp hword
        rw [hword, value_zero, Nat.cast_zero]
      · omega

/-- **When a time offset can be read as declared.** For every return of every handled frame,
whatever the message object has been through: exactly when the sum of the two offsets is zero or,
from `2 ^ 30` nanoseconds on, ends in the bits of its own `float32`. -/
theorem decodesAs_iff {this : LiDARPublisher} {frameId : String} {history : List Frame}
    {s s' : LiDARPublisher × PointCloud2} {frame : Frame}
    (hhistory : Exec CloudStep (this, preparedPointCloudMsg frameId) history s)
    (hhandled : CloudStep s frame s') {k : Nat} (hk : k < frame.nested.length)
    (hsum : frame.nested[k].offsetSum < 2 ^ 64) :
    DecodesAs s'.2 k "time_offset" frame.nested[k].offsetSum ↔
      OwnEncoding frame.nested[k].offsetSum :=
  decodesAs_iff_of_prepared (prepared_of_exec hhistory) hhandled hk hsum

theorem decodesAs_iff_raggedFrame :
    ∃ s s', Exec CloudStep (.new, preparedPointCloudMsg "lidar_side") [earlierFrame] s ∧
      CloudStep s raggedFrame s' ∧
      (DecodesAs s'.2 1 "time_offset" 4294967301 ↔ OwnEncoding 4294967301) ∧
      (DecodesAs s'.2 2 "time_offset" 12 ↔ OwnEncoding 12) := by
  obtain ⟨s, hhistory⟩ := exists_exec_earlierFrame
  obtain ⟨s', hstep⟩ := exists_cloudStep (prepared_of_exec hhistory)
    (show raggedFrame.Fits by decide)
  exact ⟨s, s', hhistory, hstep, decodesAs_iff hhistory hstep (k := 1) (by decide) (by decide),
    decodesAs_iff hhistory hstep (k := 2) (by decide) (by decide)⟩

/-- One return, five nanoseconds after the start of its frame. -/
def offsetFrame : Frame where
  totalNumberOfReturns? := some 1
  scanlines := [{
    startOffsetNs? := some 2
    points := [{ startOffsetNs? := some 3, returns := [{ cartesian := [0, 0, 0] }] }] }]

theorem exists_cloudStep_offsetFrame :
    ∃ s', CloudStep (.new, preparedPointCloudMsg "lidar_side") offsetFrame s' :=
  exists_cloudStep (prepared_preparedPointCloudMsg _) (by decide)

/-- The field holds the word 5, which as a `float32` is `5 * 2 ^ -149`. -/
theorem offsetFrame_not_decodesAs :
    ∃ s', CloudStep (.new, preparedPointCloudMsg "lidar_side") offsetFrame s' ∧
      ¬ DecodesAs s'.2 0 "time_offset" 5 := by
  obtain ⟨s', hstep⟩ := exists_cloudStep_offsetFrame
  refine ⟨s', hstep, ?_⟩
  have hiff := decodesAs_iff_of_prepared (prepared_preparedPointCloudMsg _) hstep (k := 0)
    (by decide) (by decide)
  exact fun hdecodes => absurd (hiff.mp hdecodes) (by decide)

end Ilumo.Lidar
