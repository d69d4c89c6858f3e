import Ilumo.Lib.Layout
import Ilumo.Lidar.Encoding
import Mathlib.Data.List.Nodup

/-!
# The field table as a layout

A sequence of `addPointCloudField` calls lays its fields out one behind the other. The step lemma is
that one call keeps the table laid out as long as the record size does not wrap; everything else is
read off a table that is laid out. The search returns an `int`, which counts the fields only up to
`2 ^ 31`; the write converts that `int` back to `uint32_t`, so it finds its field in every table.
-/

namespace Ilumo.Lidar

open Bytes

/-- One call of `addPointCloudField`. -/
structure FieldCall where
  sizeofFieldT : UInt32
  name : String
  datatype : UInt8
  deriving DecidableEq, Repr

def FieldCall.size (call : FieldCall) : ℕ := call.sizeofFieldT.toNat

def addPointCloudFields (pointCloudMsg : PointCloud2) (calls : List FieldCall) : PointCloud2 :=
  calls.foldl (fun msg call => addPointCloudField call.sizeofFieldT msg call.name call.datatype)
    pointCloudMsg

def names (calls : List FieldCall) : List String := calls.map FieldCall.name

def sizes (calls : List FieldCall) : List ℕ := calls.map FieldCall.size

/-- Distinct names and positive sizes whose sum is a `uint32_t`. -/
structure Declarable (calls : List FieldCall) : Prop where
  distinct : (names calls).Nodup
  positive : ∀ call ∈ calls, 0 < call.size
  bounded : (sizes calls).sum < 2 ^ 32

/-- The bytes of field `i` in its record: from the field's offset on, as many as its call gave. -/
def byteRange (calls : List FieldCall) (msg : PointCloud2) (i : ℕ) : Set ℕ :=
  match msg.fields[i]?, calls[i]? with
  | some field, some call => Set.Ico field.offset.toNat (field.offset.toNat + call.size)
  | _, _ => ∅

/-- Record `k` lies in the data, whose size is a `size_t`. -/
def HasRecord (msg : PointCloud2) (k : ℕ) : Prop :=
  (k + 1) * msg.pointStep.toNat ≤ msg.data.length ∧ msg.data.length < 2 ^ 64

/-- Assigning to field `i` of record `k` stores the value in the bytes of that field and changes no
other byte, nor anything but the data. -/
def AssignsExactly {α : Type} [Pod α] (calls : List FieldCall) (msg : PointCloud2) (k i : ℕ)
    (fieldName : String) (value : α) : Prop :=
  ∃ data, assignField msg k fieldName value = .ok { msg with data } ∧
    data.length = msg.data.length ∧
    (∀ field ∈ msg.fields[i]?,
      slice data (k * msg.pointStep.toNat + field.offset.toNat) (Pod.size α) = Pod.bytes value) ∧
    ∀ p, (∀ q ∈ byteRange calls msg i, p ≠ k * msg.pointStep.toNat + q) → data[p]? = msg.data[p]?

/-- The table holds the fields of the calls, in order; their bytes are disjoint and fill the record;
the search answers `found i` for the name of field `i` and -1 for exactly the names that are not in
the table; and a value of a field's size is assigned to that field alone. -/
structure SoundLayout (found : ℕ → ℤ) (calls : List FieldCall) (msg : PointCloud2) : Prop where
  registered : msg.fields.map PointField.name = names calls
  disjoint : ∀ i j, i ≠ j → Disjoint (byteRange calls msg i) (byteRange calls msg j)
  covers : ⋃ i, byteRange calls msg i = Set.Ico 0 msg.pointStep.toNat
  index : ∀ i (hi : i < calls.length),
    (getPointCloud2FieldIndex msg calls[i].name).toInt = found i
  missing : ∀ fieldName, getPointCloud2FieldIndex msg fieldName = -1 ↔ fieldName ∉ names calls
  assigns : ∀ {α : Type} [Pod α] (value : α) (k i : ℕ) (hi : i < calls.length),
    Pod.size α = calls[i].size → HasRecord msg k →
      AssignsExactly calls msg k i calls[i].name value

/-- `static_cast<int>` of an index below `2 ^ 32`. -/
def staticCastInt (fieldIndex : ℕ) : ℤ :=
  if fieldIndex < 2 ^ 31 then fieldIndex else fieldIndex - 2 ^ 32

/-! ### The calls -/

/-- The table the calls leave: offsets that are the sums of the sizes before. -/
structure LaidOut (calls : List FieldCall) (msg : PointCloud2) : Prop where
  names : msg.fields.map PointField.name = names calls
  offsets : msg.fields.map (fun field => field.offset.toNat) = Layout.offsets (sizes calls)
  pointStep : msg.pointStep.toNat = (sizes calls).sum

variable {calls : List FieldCall} {msg : PointCloud2}

theorem laidOut_nil (hfields : msg.fields = []) (hstep : msg.pointStep = 0) : LaidOut [] msg := by
  refine ⟨?_, ?_, ?_⟩
  · rw [hfields]
    rfl
  · rw [hfields]
    rfl
  · rw [hstep]
    rfl

/-- One call appends its field behind the record so far. -/
theorem LaidOut.addPointCloudField (h : LaidOut calls msg) {call : FieldCall}
    (hroom : (sizes calls).sum + call.size < 2 ^ 32) : LaidOut (calls ++ [call])
      (addPointCloudField call.sizeofFieldT msg call.name call.datatype) := by
  have hsizes : sizes (calls ++ [call]) = sizes calls ++ [call.size] := List.map_append
  refine ⟨?_, ?_, ?_⟩
  · rw [Lidar.addPointCloudField, List.map_append, h.names, Lidar.names, Lidar.names,
      List.map_append]
    rfl
  · rw [Lidar.addPointCloudField, List.map_append, h.offsets, hsizes, Layout.offsets_snoc,
      ← h.pointStep]
    rfl
  · have hstep : (msg.pointStep + call.sizeofFieldT).toNat =
        (msg.pointStep.toNat + call.size) % 2 ^ 32 := UInt32.toNat_add _ _
    rw [Lidar.addPointCloudField, hsizes, List.sum_append, List.sum_singleton, hstep, h.pointStep]
    exact Nat.mod_eq_of_lt hroom

theorem laidOut_addPointCloudFields (hfields : msg.fields = []) (hstep : msg.pointStep = 0)
    (hbounded : (sizes calls).sum < 2 ^ 32) : LaidOut calls (addPointCloudFields msg calls) := by
  induction calls using List.reverseRecOn with
  | nil => exact laidOut_nil hfields hstep
  | append_singleton calls call ih =>
      rw [sizes, List.map_append, List.sum_append, List.map_singleton, List.sum_singleton]
        at hbounded
      rw [addPointCloudFields, List.foldl_append]
      exact (ih (by rw [sizes]; omega)).addPointCloudField hbounded

/-! ### Reading the table -/

theorem length_sizes (calls : List FieldCall) : (sizes calls).length = calls.length :=
  List.length_map _

theorem offset_succ {i : ℕ} (hi : i < calls.length) :
    Layout.offset (sizes calls) (i + 1) = Layout.offset (sizes calls) i + calls[i].size := by
  have hin : i < (sizes calls).length := by rw [length_sizes]; exact hi
  have hsize : (sizes calls)[i] = calls[i].size := List.getElem_map _
  rw [Layout.offset_succ hin, hsize]

theorem Declarable.length_lt (h : Declarable calls) : calls.length < 2 ^ 32 := by
  have hle : (sizes calls).length ≤ (sizes calls).sum := by
    apply List.length_le_sum_of_one_le
    intro size hsize
    obtain ⟨call, hcall, rfl⟩ := List.mem_map.mp hsize
    exact h.positive call hcall
  rw [length_sizes] at hle
  exact hle.trans_lt h.bounded

theorem LaidOut.length_fields (h : LaidOut calls msg) : msg.fields.length = calls.length := by
  have hlength := congrArg List.length h.names
  rw [List.length_map, Lidar.names, List.length_map] at hlength
  exact hlength

theorem LaidOut.field (h : LaidOut calls msg) {i : ℕ} (hi : i < calls.length) :
    ∃ field, msg.fields[i]? = some field ∧
      field.offset.toNat = Layout.offset (sizes calls) i := by
  have hin : i < msg.fields.length := by rw [h.length_fields]; exact hi
  have hoffset := congrArg (fun offsets => offsets[i]?) h.offsets
  simp only [Layout.offsets, List.getElem?_map, List.getElem?_eq_getElem hin, length_sizes,
    List.getElem?_range hi, Option.map_some] at hoffset
  exact ⟨msg.fields[i], List.getElem?_eq_getElem hin, Option.some.inj hoffset⟩

theorem LaidOut.field_of_le (h : LaidOut calls msg) {i : ℕ} (hi : calls.length ≤ i) :
    msg.fields[i]? = none :=
  List.getElem?_eq_none (h.length_fields.trans_le hi)

/-- The bytes of a field are those of the packed record. -/
theorem LaidOut.byteRange_eq (h : LaidOut calls msg) (i : ℕ) :
    byteRange calls msg i = Layout.range (sizes calls) i := by
  by_cases hi : i < calls.length
  · obtain ⟨field, hfield, hoffset⟩ := h.field hi
    have hbytes : byteRange calls msg i =
        Set.Ico field.offset.toNat (field.offset.toNat + calls[i].size) := by
      rw [byteRange, hfield, List.getElem?_eq_getElem hi]
    rw [hbytes, hoffset, Layout.range, offset_succ hi]
  · have hpast := not_lt.mp hi
    rw [Layout.range_of_le (by rw [length_sizes]; exact hpast)]
    simp only [byteRange, h.field_of_le hpast]

/-! ### The search -/

theorem fieldIndexFrom_eq (fieldName : String) (fields : List PointField) (n : ℕ) :
    fieldIndexFrom fieldName fields n =
      if fieldName ∈ fields.map PointField.name then
        Int32.ofNat (n + (fields.map PointField.name).idxOf fieldName)
      else -1 := by
  induction fields generalizing n with
  | nil => rfl
  | cons field fields ih =>
      rw [fieldIndexFrom, List.map_cons]
      by_cases hfound : field.name = fieldName
      · rw [if_pos hfound, hfound, if_pos List.mem_cons_self, List.idxOf_cons_self, Nat.add_zero]
      · have hmem : fieldName ∈ field.name :: fields.map PointField.name ↔
            fieldName ∈ fields.map PointField.name :=
          List.mem_cons.trans (or_iff_right (Ne.symm hfound))
        have hnext : n + 1 + (fields.map PointField.name).idxOf fieldName =
            n + ((fields.map PointField.name).idxOf fieldName).succ := by omega
        rw [if_neg hfound, ih, List.idxOf_cons_ne _ hfound, hnext]
        simp only [hmem]

theorem LaidOut.index_eq (h : LaidOut calls msg) (hdistinct : (Lidar.names calls).Nodup) {i : ℕ}
    (hi : i < calls.length) :
    getPointCloud2FieldIndex msg calls[i].name = Int32.ofNat i := by
  have hin : i < (Lidar.names calls).length := by rw [Lidar.names, List.length_map]; exact hi
  have hname : calls[i].name = (Lidar.names calls)[i] := (List.getElem_map _).symm
  rw [getPointCloud2FieldIndex, fieldIndexFrom_eq, h.names, hname,
    if_pos (List.getElem_mem hin), List.Nodup.idxOf_getElem hdistinct i hin, Nat.zero_add]

theorem ofNat_ne_neg_one {i : ℕ} (hi : i + 1 < 2 ^ 32) : Int32.ofNat i ≠ -1 := by
  intro heq
  have hword := congrArg (fun fieldIndex => fieldIndex.toUInt32.toNat) heq
  rw [Int32.toUInt32_ofNat', UInt32.toNat_ofNat', Nat.mod_eq_of_lt (by omega)] at hword
  have hlast : (-1 : Int32).toUInt32.toNat = 2 ^ 32 - 1 := rfl
  omega

/-- The search finds every name of the table and no other. -/
theorem LaidOut.missing_iff (h : LaidOut calls msg) (hdeclarable : Declarable calls)
    (fieldName : String) :
    getPointCloud2FieldIndex msg fieldName = -1 ↔ fieldName ∉ Lidar.names calls := by
  by_cases hmem : fieldName ∈ Lidar.names calls
  · obtain ⟨call, hcall, rfl⟩ := List.mem_map.mp hmem
    obtain ⟨i, hi, rfl⟩ := List.getElem_of_mem hcall
    have hlt := hdeclarable.length_lt
    rw [h.index_eq hdeclarable.distinct hi]
    exact iff_of_false (ofNat_ne_neg_one (by omega)) (not_not.mpr hmem)
  · rw [getPointCloud2FieldIndex, fieldIndexFrom_eq, h.names, if_neg hmem]
    exact iff_of_true rfl hmem

theorem toInt_ofNat_eq {i : ℕ} (hi : i < 2 ^ 32) : (Int32.ofNat i).toInt = staticCastInt i := by
  have hsize : Int32.size = 2 ^ 32 := rfl
  rw [Int32.toInt_ofNat', hsize, staticCastInt, Int.bmod]
  split <;> split <;> omega

/-- The `uint32_t` that the write converts the answer to is the index again. -/
theorem LaidOut.fieldNamed_eq (h : LaidOut calls msg) (hdeclarable : Declarable calls) {i : ℕ}
    (hi : i < calls.length) :
    fieldNamed msg calls[i].name = msg.fields[i]? := by
  have hlt := hdeclarable.length_lt
  rw [fieldNamed, h.index_eq hdeclarable.distinct hi, Int32.toUInt32_ofNat', UInt32.toNat_ofNat',
    Nat.mod_eq_of_lt (by omega)]

/-! ### The write -/

theorem LaidOut.assignsExactly (h : LaidOut calls msg) (hdeclarable : Declarable calls) {α : Type}
    [Pod α] (value : α) {k i : ℕ} (hi : i < calls.length) (hsize : Pod.size α = calls[i].size)
    (hrecord : HasRecord msg k) : AssignsExactly calls msg k i calls[i].name value := by
  obtain ⟨hin, hbound⟩ := hrecord
  obtain ⟨field, hfield, hoffset⟩ := h.field hi
  have hlast : field.offset.toNat + calls[i].size ≤ msg.pointStep.toNat := by
    have hnext := Layout.offset_le_sum (sizes calls) (i + 1)
    rw [offset_succ hi, ← hoffset, ← h.pointStep] at hnext
    exact hnext
  rw [Nat.succ_mul] at hin
  have hstart : fieldStart msg k field = k * msg.pointStep.toNat + field.offset.toNat :=
    Nat.mod_eq_of_lt (by omega)
  have hlength : (Pod.bytes value).length = calls[i].size := (Pod.length_bytes value).trans hsize
  have hroom : k * msg.pointStep.toNat + field.offset.toNat + (Pod.bytes value).length ≤
      msg.data.length := by omega
  refine ⟨_, assignField_eq_ok.mpr ⟨field, (h.fieldNamed_eq hdeclarable hi).trans hfield, ?_, rfl⟩,
    ?_, ?_, ?_⟩
  · rw [hstart, hsize]
    omega
  · rw [hstart, length_patch hroom]
  · intro other hother
    obtain rfl : field = other := Option.some.inj (hfield.symm.trans hother)
    rw [hstart, ← Pod.length_bytes value, slice_patch_self hroom]
  · intro p hp
    rw [hstart, getElem?_patch hroom, if_neg]
    rintro ⟨hlow, hhigh⟩
    refine hp (p - k * msg.pointStep.toNat) ?_ (by omega)
    rw [byteRange, hfield, List.getElem?_eq_getElem hi]
    exact ⟨by omega, by omega⟩

theorem LaidOut.soundLayout (h : LaidOut calls msg) (hdeclarable : Declarable calls) :
    SoundLayout staticCastInt calls msg where
  registered := h.names
  disjoint := by
    intro i j hne
    rw [h.byteRange_eq, h.byteRange_eq]
    exact Layout.disjoint_range _ hne
  covers := by
    simp only [h.byteRange_eq]
    rw [Layout.iUnion_range, h.pointStep]
  index := by
    intro i hi
    have hlt := hdeclarable.length_lt
    rw [h.index_eq hdeclarable.distinct hi, toInt_ofNat_eq (by omega)]
  missing := h.missing_iff hdeclarable
  assigns := by
    intro α _ value k i hi hsize hrecord
    exact h.assignsExactly hdeclarable value hi hsize hrecord

/-- **The field table is a sound layout**, for every sequence of calls on a message without fields,
with the search answering its index as an `int`. -/
theorem soundLayout_addPointCloudFields (hfields : msg.fields = []) (hstep : msg.pointStep = 0)
    (hdeclarable : Declarable calls) :
    SoundLayout staticCastInt calls (addPointCloudFields msg calls) :=
  (laidOut_addPointCloudFields hfields hstep hdeclarable.bounded).soundLayout hdeclarable

/-! ### The table of the callbacks -/

/-- The calls of `makePointCloudMessage`. -/
def declaredCalls : List FieldCall := [
  ⟨4, "x", PointField.float32⟩, ⟨4, "y", PointField.float32⟩, ⟨4, "z", PointField.float32⟩,
  ⟨4, "intensity", PointField.uint32⟩, ⟨4, "ambient_light", PointField.uint32⟩,
  ⟨4, "time_offset", PointField.float32⟩, ⟨4, "point_id", PointField.uint32⟩,
  ⟨4, "return_id", PointField.uint32⟩]

theorem makePointCloudMessage_eq (pointCloudMsg : PointCloud2) :
    makePointCloudMessage pointCloudMsg =
      addPointCloudFields { pointCloudMsg with pointStep := 0 } declaredCalls :=
  rfl

theorem declarable_declaredCalls : Declarable declaredCalls :=
  ⟨by decide, by decide, by decide⟩

theorem Prepared.laidOut (h : Prepared msg) : LaidOut declaredCalls msg := by
  have hmade : LaidOut declaredCalls (makePointCloudMessage {}) := by
    rw [makePointCloudMessage_eq]
    exact laidOut_addPointCloudFields rfl rfl declarable_declaredCalls.bounded
  refine ⟨?_, ?_, ?_⟩
  · rw [h.1]
    exact hmade.names
  · rw [h.1]
    exact hmade.offsets
  · rw [h.2]
    exact hmade.pointStep

/-- The callbacks leave the table alone, so its layout is sound throughout a run. It says nothing of
their store to `time_offset`, which is not of that field's size. -/
theorem soundLayout_of_exec {this : LiDARPublisher} {frameId : String} {frames : List Frame}
    {s : LiDARPublisher × PointCloud2}
    (h : Machine.Exec CloudStep (this, preparedPointCloudMsg frameId) frames s) :
    SoundLayout staticCastInt declaredCalls s.2 :=
  (prepared_of_exec h).laidOut.soundLayout declarable_declaredCalls

theorem soundLayout_addPointCloudFields_declaredCalls :
    SoundLayout staticCastInt declaredCalls (addPointCloudFields {} declaredCalls) :=
  soundLayout_addPointCloudFields rfl rfl declarable_declaredCalls

/-! ### A table longer than an `int` counts -/

/-- `n` fields of one byte, numbered. -/
def numberedCalls (n : ℕ) : List FieldCall :=
  (List.range n).map fun i => { sizeofFieldT := 1, name := i.repr, datatype := PointField.uint8 }

theorem repr_injective : Function.Injective Nat.repr := by
  intro i j h
  have hdigits := congrArg (fun name => Nat.ofDigitChars 10 name.toList 0) h
  simp only [Nat.toList_repr] at hdigits
  rw [Nat.ofDigitChars_toDigits (by omega) le_rfl, Nat.ofDigitChars_toDigits (by omega) le_rfl]
    at hdigits
  exact hdigits

theorem declarable_numberedCalls {n : ℕ} (hn : n < 2 ^ 32) : Declarable (numberedCalls n) := by
  refine ⟨?_, ?_, ?_⟩
  · rw [names, numberedCalls, List.map_map]
    exact List.Nodup.map repr_injective List.nodup_range
  · intro call hcall
    obtain ⟨i, -, rfl⟩ := List.mem_map.mp hcall
    exact Nat.one_pos
  · have hsizes : sizes (numberedCalls n) = List.replicate n 1 := by
      rw [sizes, numberedCalls, List.map_map, List.eq_replicate_iff]
      refine ⟨?_, ?_⟩
      · rw [List.length_map, List.length_range]
      · intro size hsize
        obtain ⟨i, -, rfl⟩ := List.mem_map.mp hsize
        rfl
    rw [hsizes, List.sum_replicate_nat, Nat.mul_one]
    exact hn

/-- With one field more than an `int` can count, the search answers a negative number for the last
name. -/
theorem numberedCalls_not_soundLayout :
    Declarable (numberedCalls (2 ^ 31 + 1)) ∧
      ¬ SoundLayout Nat.cast (numberedCalls (2 ^ 31 + 1))
        (addPointCloudFields {} (numberedCalls (2 ^ 31 + 1))) := by
  refine ⟨declarable_numberedCalls (by norm_num), ?_⟩
  intro hsound
  have hlast : 2 ^ 31 < (numberedCalls (2 ^ 31 + 1)).length := by
    rw [numberedCalls, List.length_map, List.length_range]
    exact Nat.lt_succ_self _
  have hindex := hsound.index (2 ^ 31) hlast
  have hlt := (getPointCloud2FieldIndex (addPointCloudFields {} (numberedCalls (2 ^ 31 + 1)))
    (numberedCalls (2 ^ 31 + 1))[2 ^ 31].name).toInt_lt
  rw [hindex] at hlt
  exact absurd hlt (by norm_num)

end Ilumo.Lidar
