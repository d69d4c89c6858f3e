import Ilumo.Lidar.Publisher

/-!
# What a filled message holds

The eight writes of a return leave exactly one record at the cursor: the second half of the 8-byte
`time_offset` is overwritten by `point_id` before the record ends. So filling a frame replaces the
front of the resized buffer by the records of the nested returns, in order, and leaves the rest of
the buffer alone. Everything about the encoding follows from that one fact, `fillPointCloud_eq_ok`.
-/

namespace Ilumo.Lidar

open Bytes

/-- The table and the record size that `makePointCloudMessage` leaves. -/
def Prepared (msg : PointCloud2) : Prop :=
  msg.fields = (makePointCloudMessage {}).fields ∧
    msg.pointStep = (makePointCloudMessage {}).pointStep

theorem prepared_preparedPointCloudMsg (frameId : String) :
    Prepared (preparedPointCloudMsg frameId) :=
  ⟨rfl, rfl⟩

theorem Prepared.pointStep {msg : PointCloud2} (h : Prepared msg) : msg.pointStep = 32 := h.2

theorem Prepared.toNat_pointStep {msg : PointCloud2} (h : Prepared msg) :
    msg.pointStep.toNat = 32 := by
  rw [h.pointStep]
  rfl

theorem Prepared.fieldNamed {msg : PointCloud2} (h : Prepared msg) (fieldName : String) :
    fieldNamed msg fieldName = fieldNamed (makePointCloudMessage {}) fieldName := by
  rw [Lidar.fieldNamed, Lidar.fieldNamed, getPointCloud2FieldIndex, getPointCloud2FieldIndex, h.1]

/-- The eight words of one return's record, in the order of the table. -/
def Nested.words (nested : Nested) : List UInt32 :=
  [nested.ret.cartesian.getD 0 0, nested.ret.cartesian.getD 1 0, nested.ret.cartesian.getD 2 0,
    nested.ret.intensity, nested.point.ambientLightLevel, nested.timeOffset.toUInt32,
    nested.point.id, nested.ret.id]

def wordBytes (word : UInt32) : List UInt8 := leBytes 4 word.toNat

@[simp] theorem length_wordBytes (word : UInt32) : (wordBytes word).length = 4 := length_leBytes _ _

def Nested.record (nested : Nested) : List UInt8 := nested.words.flatMap wordBytes

theorem Nested.length_record (nested : Nested) : nested.record.length = 32 := by
  rw [Nested.record, length_flatMap length_wordBytes]
  rfl

/-! ### One write -/

theorem assignField_eq_ok {α : Type} [Pod α] {msg msg' : PointCloud2} {k : Nat} {name : String}
    {value : α} : assignField msg k name value = .ok msg' ↔
      ∃ field, fieldNamed msg name = some field ∧
        fieldStart msg k field + Pod.size α ≤ msg.data.length ∧
        msg' = { msg with data := patch msg.data (fieldStart msg k field) (Pod.bytes value) } := by
  rw [assignField]
  cases fieldNamed msg name with
  | none => simp
  | some field =>
      dsimp only
      split
      · next hin => simp [hin, eq_comm]
      · next hout => simp [hout]

theorem assignField_cursor {α : Type} [Pod α] {msg : PointCloud2} {front rest : List UInt8}
    {k : Nat} {name : String} (offset : Nat) (value : α) (hprep : Prepared msg)
    (hname : (fieldNamed (makePointCloudMessage {}) name).map (·.offset.toNat) = some offset)
    (hfront : front.length = k * 32 + offset) (hindex : k < 2 ^ 31)
    (hin : Pod.size α ≤ rest.length) :
    assignField { msg with data := front ++ rest } k name value =
      .ok { msg with data := front ++ Pod.bytes value ++ rest.drop (Pod.size α) } := by
  obtain ⟨field, hname, hoffset⟩ := Option.map_eq_some_iff.mp hname
  have hstart : fieldStart { msg with data := front ++ rest } k field = front.length := by
    have hlt := field.offset.toNat_lt
    rw [fieldStart, hprep.pointStep, hoffset, hfront]
    exact Nat.mod_eq_of_lt (by change k * 32 + _ < _; omega)
  refine assignField_eq_ok.mpr ⟨field, (Prepared.fieldNamed hprep name).trans hname, ?_, ?_⟩
  · rw [hstart, List.length_append]
    omega
  · rw [hstart, patch_cursor, Pod.length_bytes]

/-! ### One return -/

theorem element_cartesian {ret : Return} (hcartesian : 3 ≤ ret.cartesian.length) {i : Nat}
    (hi : i < 3) : element ret.cartesian i = .ok (ret.cartesian.getD i 0) := by
  rw [element_eq_ok, List.getD_eq_getElem?_getD, List.getElem?_eq_getElem (by omega)]
  rfl

/-- The low half of an 8-byte store stays at the cursor, the high half runs past it. -/
theorem append_bytes_uint64 (front rest : List UInt8) (value : UInt64) :
    front ++ Pod.bytes value ++ rest =
      front ++ wordBytes value.toUInt32 ++ (leBytes 4 (value.toNat / 256 ^ 4) ++ rest) := by
  change front ++ leBytes (4 + 4) value.toNat ++ rest = _
  rw [leBytes_add, wordBytes, UInt64.toNat_toUInt32, show 2 ^ 32 = 256 ^ 4 by norm_num, leBytes_mod]
  simp only [List.append_assoc]

theorem assignReturn_cursor {msg : PointCloud2} {front rest : List UInt8} {k : Nat}
    (nested : Nested) (hprep : Prepared msg) (hfront : front.length = k * 32)
    (hindex : k < 2 ^ 31) (hin : 32 ≤ rest.length)
    (hcartesian : 3 ≤ nested.ret.cartesian.length) :
    assignReturn { msg with data := front ++ rest } k nested.point nested.timeOffset nested.ret =
      .ok { msg with data := front ++ nested.record ++ rest.drop 32 } := by
  rw [assignReturn, element_cartesian hcartesian (show 0 < 3 by omega),
    element_cartesian hcartesian (show 1 < 3 by omega),
    element_cartesian hcartesian (show 2 < 3 by omega)]
  simp only [ok_bind]
  rw [assignField_cursor 0 _ hprep (by decide) (by simp; omega) hindex (by simp; omega), ok_bind,
    assignField_cursor 4 _ hprep (by decide) (by simp; omega) hindex (by simp; omega), ok_bind,
    assignField_cursor 8 _ hprep (by decide) (by simp; omega) hindex (by simp; omega), ok_bind,
    assignField_cursor 12 _ hprep (by decide) (by simp; omega) hindex (by simp; omega), ok_bind,
    assignField_cursor 16 _ hprep (by decide) (by simp; omega) hindex (by simp; omega), ok_bind,
    assignField_cursor 20 _ hprep (by decide) (by simp; omega) hindex (by simp; omega), ok_bind,
    append_bytes_uint64,
    assignField_cursor 24 _ hprep (by decide) (by simp; omega) hindex (by simp), ok_bind,
    assignField_cursor 28 _ hprep (by decide) (by simp; omega) hindex (by simp; omega)]
  simp [Nested.record, Nested.words, Pod.bytes, Pod.toNat, wordBytes]

/-! ### What a successful fill tells about the frame -/

/-- The data may differ, its size and the field table do not. -/
def SameLayout (msg msg' : PointCloud2) : Prop :=
  msg'.data.length = msg.data.length ∧ msg'.fields = msg.fields ∧ msg'.pointStep = msg.pointStep

theorem SameLayout.trans {msg₁ msg₂ msg₃ : PointCloud2} (h : SameLayout msg₁ msg₂)
    (h' : SameLayout msg₂ msg₃) : SameLayout msg₁ msg₃ :=
  ⟨h'.1.trans h.1, h'.2.1.trans h.2.1, h'.2.2.trans h.2.2⟩

theorem SameLayout.prepared {msg msg' : PointCloud2} (h : SameLayout msg msg')
    (hprep : Prepared msg) : Prepared msg' :=
  ⟨h.2.1.trans hprep.1, h.2.2.trans hprep.2⟩

theorem assignField_sameLayout {α : Type} [Pod α] {msg msg' : PointCloud2} {k : Nat}
    {name : String} {value : α} (h : assignField msg k name value = .ok msg') :
    SameLayout msg msg' := by
  obtain ⟨field, -, hin, rfl⟩ := assignField_eq_ok.mp h
  exact ⟨length_patch (by rw [Pod.length_bytes]; exact hin), rfl, rfl⟩

theorem assignReturn_fits {msg msg' : PointCloud2} {k : Nat} {point : Point} {timeOffset : UInt64}
    {ret : Return} (hprep : Prepared msg) (hindex : k < 2 ^ 31)
    (h : assignReturn msg k point timeOffset ret = .ok msg') :
    3 ≤ ret.cartesian.length ∧ (k + 1) * 32 ≤ msg.data.length ∧ SameLayout msg msg' := by
  simp only [assignReturn, bind_eq_ok, element_eq_ok] at h
  obtain ⟨x, -, m₁, h₁, y, -, m₂, h₂, z, hz, m₃, h₃, m₄, h₄, m₅, h₅, m₆, h₆, m₇, h₇, hlast⟩ := h
  have hsame : SameLayout msg m₇ :=
    (assignField_sameLayout h₁).trans <| (assignField_sameLayout h₂).trans <|
    (assignField_sameLayout h₃).trans <| (assignField_sameLayout h₄).trans <|
    (assignField_sameLayout h₅).trans <| (assignField_sameLayout h₆).trans <|
    assignField_sameLayout h₇
  refine ⟨?_, ?_, hsame.trans (assignField_sameLayout hlast)⟩
  · have hlt := (List.getElem?_eq_some_iff.mp hz).1
    omega
  · obtain ⟨field, hname, hin, -⟩ := assignField_eq_ok.mp hlast
    have hoffset : field.offset.toNat = 28 := by
      rw [(hsame.prepared hprep).fieldNamed] at hname
      have htable : (fieldNamed (makePointCloudMessage {}) "return_id").map (·.offset.toNat) =
        some 28 := by decide
      rw [hname] at htable
      exact Option.some.inj htable
    have hstart : fieldStart m₇ k field = k * 32 + 28 := by
      rw [fieldStart, (hsame.prepared hprep).pointStep, hoffset]
      exact Nat.mod_eq_of_lt (by change k * 32 + 28 < _; omega)
    rw [hstart, hsame.1, Pod.size_uint32] at hin
    omega

/-! ### One frame -/

theorem foldlM_flatMap {α β γ : Type} (xs : List α) (g : α → List β)
    (f : γ → β → Except Fault γ) (acc : γ) :
    xs.foldlM (fun acc x => (g x).foldlM f acc) acc = (xs.flatMap g).foldlM f acc := by
  induction xs generalizing acc with
  | nil => rfl
  | cons x xs ih =>
      rw [List.flatMap_cons, List.foldlM_append, List.foldlM_cons]
      simp only [ih]

def fillNested (acc : PointCloud2 × Nat) (nested : Nested) : Except Fault (PointCloud2 × Nat) :=
  fillReturn nested.point nested.timeOffset acc nested.ret

theorem foldlM_fillScanline (frame : Frame) (acc : PointCloud2 × Nat) :
    frame.scanlines.foldlM fillScanline acc = frame.nested.foldlM fillNested acc := by
  have hpoint (scanline : Scanline) (acc : PointCloud2 × Nat) (point : Point) :
      fillPoint scanline acc point = (point.nested scanline).foldlM fillNested acc := by
    rw [Point.nested, List.foldlM_map]
    rfl
  have hscanline (acc : PointCloud2 × Nat) (scanline : Scanline) :
      fillScanline acc scanline = scanline.nested.foldlM fillNested acc := by
    rw [Scanline.nested, ← foldlM_flatMap, fillScanline]
    simp only [← hpoint]
  rw [Frame.nested, ← foldlM_flatMap]
  simp only [← hscanline]

/-- The loops from record `k` on: the records written so far are the front of the buffer, and each
return moves the cursor over the next 32 bytes of the rest. -/
theorem foldlM_fillNested {msg : PointCloud2} (hprep : Prepared msg) {returns : List Nested}
    (hcartesian : ∀ nested ∈ returns, 3 ≤ nested.ret.cartesian.length) {front rest : List UInt8}
    {k : Nat} (hfront : front.length = k * 32) (hin : returns.length * 32 ≤ rest.length)
    (hindex : k + returns.length < 2 ^ 31) :
    returns.foldlM fillNested ({ msg with data := front ++ rest }, k) =
      .ok ({ msg with
        data := front ++ returns.flatMap Nested.record ++ rest.drop (returns.length * 32) },
        k + returns.length) := by
  induction returns generalizing front rest k with
  | nil => simp [pure, Except.pure]
  | cons nested returns ih =>
      simp only [List.length_cons] at hin hindex
      have hstep : fillNested ({ msg with data := front ++ rest }, k) nested =
          .ok ({ msg with data := front ++ nested.record ++ rest.drop 32 }, k + 1) := by
        rw [fillNested, fillReturn, assignReturn_cursor nested hprep hfront (by omega) (by omega)
          (hcartesian nested (by simp)), ok_bind, increment, if_pos (by omega), ok_bind]
        rfl
      rw [List.foldlM_cons, hstep, ok_bind,
        ih (fun other hother => hcartesian other (by simp [hother]))
          (by rw [List.length_append, hfront, nested.length_record]; omega)
          (by rw [List.length_drop]; omega) (by omega)]
      have hdrop : 32 + returns.length * 32 = (returns.length + 1) * 32 := by omega
      have hnext : k + 1 + returns.length = k + (returns.length + 1) := by omega
      simp only [List.flatMap_cons, List.length_cons, List.append_assoc, List.drop_drop, hdrop,
        hnext]

theorem fillNested_fits {acc acc' : PointCloud2 × Nat} {nested : Nested} (hprep : Prepared acc.1)
    (hindex : acc.2 < 2 ^ 31) (h : fillNested acc nested = .ok acc') :
    3 ≤ nested.ret.cartesian.length ∧ (acc.2 + 1) * 32 ≤ acc.1.data.length ∧
      SameLayout acc.1 acc'.1 ∧ acc'.2 = acc.2 + 1 ∧ acc'.2 < 2 ^ 31 := by
  simp only [fillNested, fillReturn, bind_eq_ok] at h
  obtain ⟨msg, hmsg, index, hnext, hacc⟩ := h
  obtain ⟨hcartesian, hroom, hsame⟩ := assignReturn_fits hprep hindex hmsg
  rw [increment] at hnext
  split at hnext
  · obtain rfl := Except.ok.inj hnext
    obtain rfl := Except.ok.inj hacc
    exact ⟨hcartesian, hroom, hsame, rfl, by assumption⟩
  · cases hnext

theorem foldlM_fillNested_fits {returns : List Nested} {acc acc' : PointCloud2 × Nat}
    (hprep : Prepared acc.1) (hindex : acc.2 < 2 ^ 31)
    (hbefore : acc.2 * 32 ≤ acc.1.data.length)
    (h : returns.foldlM fillNested acc = .ok acc') :
    (∀ nested ∈ returns, 3 ≤ nested.ret.cartesian.length) ∧
      (acc.2 + returns.length) * 32 ≤ acc.1.data.length := by
  induction returns generalizing acc with
  | nil => exact ⟨by simp, by simpa using hbefore⟩
  | cons nested returns ih =>
      rw [List.foldlM_cons, bind_eq_ok] at h
      obtain ⟨mid, hmid, hrest⟩ := h
      obtain ⟨hcartesian, hroom, hsame, hnext, hlt⟩ := fillNested_fits hprep hindex hmid
      obtain ⟨hall, hlast⟩ := ih (hsame.prepared hprep) hlt (by rw [hnext, hsame.1]; exact hroom)
        hrest
      rw [hnext, hsame.1] at hlast
      refine ⟨fun other hother => ?_, by simp only [List.length_cons]; omega⟩
      rcases List.mem_cons.mp hother with rfl | hother
      · exact hcartesian
      · exact hall other hother

def Frame.dataSize (frame : Frame) : Nat := (frame.totalNumberOfReturns * 32).toNat

/-- Every return carries its coordinates, and the announced count makes room for all of them. -/
def Frame.Fits (frame : Frame) : Prop :=
  (∀ nested ∈ frame.nested, 3 ≤ nested.ret.cartesian.length) ∧
    frame.nested.length * 32 ≤ frame.dataSize

instance (frame : Frame) : Decidable frame.Fits := inferInstanceAs (Decidable (_ ∧ _))

theorem preparePointCloud_data {msg : PointCloud2} (hprep : Prepared msg) (frame : Frame) :
    (preparePointCloud frame msg).data = resize msg.data frame.dataSize := by
  rw [preparePointCloud, Frame.dataSize, hprep.pointStep]

/-- The records of the nested returns, in order, then what the resized buffer held behind them. -/
def filledPointCloud (frame : Frame) (msg : PointCloud2) : PointCloud2 :=
  { preparePointCloud frame msg with
    data := frame.nested.flatMap Nested.record ++
      (resize msg.data frame.dataSize).drop (frame.nested.length * 32) }

theorem length_filledPointCloud {frame : Frame} (hfits : frame.Fits) (msg : PointCloud2) :
    (filledPointCloud frame msg).data.length = frame.dataSize := by
  have hroom := hfits.2
  rw [filledPointCloud, List.length_append, length_flatMap Nested.length_record, List.length_drop,
    length_resize]
  omega

theorem fillPointCloud_eq {msg : PointCloud2} (hprep : Prepared msg) {frame : Frame}
    (hfits : frame.Fits) : fillPointCloud frame msg = .ok (filledPointCloud frame msg) := by
  have hprep' : Prepared (preparePointCloud frame msg) := hprep
  have hroom : frame.nested.length * 32 < 2 ^ 32 :=
    lt_of_le_of_lt hfits.2 (UInt32.toNat_lt _)
  have hstart : preparePointCloud frame msg =
      { preparePointCloud frame msg with data := [] ++ resize msg.data frame.dataSize } := by
    rw [List.nil_append, ← preparePointCloud_data hprep]
  rw [fillPointCloud, foldlM_fillScanline, hstart,
    foldlM_fillNested hprep' hfits.1 (by simp) (by simpa using hfits.2) (by omega)]
  rfl

theorem fits_of_fillPointCloud {msg out : PointCloud2} (hprep : Prepared msg) {frame : Frame}
    (h : fillPointCloud frame msg = .ok out) : frame.Fits := by
  rw [fillPointCloud, foldlM_fillScanline, bind_eq_ok] at h
  obtain ⟨acc, hacc, -⟩ := h
  have hprep' : Prepared (preparePointCloud frame msg) := hprep
  obtain ⟨hcartesian, hroom⟩ := foldlM_fillNested_fits hprep' (by simp) (by simp) hacc
  refine ⟨hcartesian, ?_⟩
  simpa [preparePointCloud_data hprep] using hroom

/-- **Filling a message.** -/
theorem fillPointCloud_eq_ok {msg out : PointCloud2} (hprep : Prepared msg) {frame : Frame} :
    fillPointCloud frame msg = .ok out ↔ frame.Fits ∧ out = filledPointCloud frame msg := by
  refine ⟨?_, ?_⟩
  · intro h
    have hfits := fits_of_fillPointCloud hprep h
    rw [fillPointCloud_eq hprep hfits] at h
    exact ⟨hfits, (Except.ok.inj h).symm⟩
  · intro h
    obtain ⟨hfits, rfl⟩ := h
    exact fillPointCloud_eq hprep hfits

/-! ### The callback over a message object -/

theorem pointcloudCallback_eq_ok {this this' : LiDARPublisher} {frame : Frame}
    {msg out : PointCloud2} :
    pointcloudCallback this frame msg = .ok (this', out) ↔
      this' = notePointCloudTime this msg.header.frameId frame.startTimeNs ∧
        fillPointCloud frame msg = .ok out := by
  rw [pointcloudCallback, bind_eq_ok]
  refine ⟨?_, ?_⟩
  · intro h
    obtain ⟨filled, hfill, hout⟩ := h
    cases hout
    exact ⟨rfl, hfill⟩
  · intro h
    obtain ⟨rfl, hfill⟩ := h
    exact ⟨out, hfill, rfl⟩

theorem CloudStep.out_eq {s s' : LiDARPublisher × PointCloud2} {frame : Frame}
    (hprep : Prepared s.2) (h : CloudStep s frame s') :
    frame.Fits ∧ s'.2 = filledPointCloud frame s.2 :=
  (fillPointCloud_eq_ok hprep).mp (pointcloudCallback_eq_ok.mp h).2

theorem CloudStep.prepared {s s' : LiDARPublisher × PointCloud2} {frame : Frame}
    (hprep : Prepared s.2) (h : CloudStep s frame s') : Prepared s'.2 := by
  rw [(h.out_eq hprep).2]
  exact hprep

theorem prepared_of_exec {this : LiDARPublisher} {frameId : String} {frames : List Frame}
    {s : LiDARPublisher × PointCloud2}
    (h : Machine.Exec CloudStep (this, preparedPointCloudMsg frameId) frames s) : Prepared s.2 :=
  h.invariant (I := fun s => Prepared s.2) (prepared_preparedPointCloudMsg frameId)
    fun _ _ _ hprep hstep => hstep.prepared hprep

/-! ### Reading a record back -/

/-- The 4-byte word of record `k` at the offset the message declares for a field. -/
def readWord (msg : PointCloud2) (k : Nat) (fieldName : String) : Option UInt32 := do
  let field ← msg.fields.find? fun field => field.name = fieldName
  let start := k * msg.pointStep.toNat + field.offset.toNat
  if start + 4 ≤ msg.data.length then some (UInt32.ofNat (leValue (slice msg.data start 4)))
  else none

structure Holds (msg : PointCloud2) (k : Nat) (nested : Nested) : Prop where
  x : readWord msg k "x" = nested.ret.cartesian[0]?
  y : readWord msg k "y" = nested.ret.cartesian[1]?
  z : readWord msg k "z" = nested.ret.cartesian[2]?
  intensity : readWord msg k "intensity" = some nested.ret.intensity
  ambientLight : readWord msg k "ambient_light" = some nested.point.ambientLightLevel
  pointId : readWord msg k "point_id" = some nested.point.id
  returnId : readWord msg k "return_id" = some nested.ret.id

theorem ofNat_leValue_wordBytes (word : UInt32) :
    UInt32.ofNat (leValue (wordBytes word)) = word := by
  have hlt : word.toNat < 256 ^ 4 := UInt32.toNat_lt word
  rw [wordBytes, leValue_leBytes, Nat.mod_eq_of_lt hlt, UInt32.ofNat_toNat]

/-- Record `k` of a message whose data are records holds the words of return `k`: a field whose
offset is that of word `i` reads as that word. -/
theorem readWord_records {msg : PointCloud2} (hprep : Prepared msg) {returns : List Nested}
    {rest : List UInt8} (hdata : msg.data = returns.flatMap Nested.record ++ rest) {k : Nat}
    (hk : k < returns.length) {fieldName : String} {i : Nat} {word : UInt32}
    (hname : ((makePointCloudMessage {}).fields.find? fun field => field.name = fieldName).map
      (·.offset.toNat) = some (i * 4))
    (hword : returns[k].words[i]? = some word) : readWord msg k fieldName = some word := by
  obtain ⟨field, hfield, hoffset⟩ := Option.map_eq_some_iff.mp hname
  obtain ⟨hi, rfl⟩ := List.getElem?_eq_some_iff.mp hword
  have hwidth : i * 4 + 4 ≤ 32 := by
    change i < 8 at hi
    omega
  have hin : k * 32 + i * 4 + 4 ≤ msg.data.length := by
    rw [hdata, List.length_append, length_flatMap Nested.length_record]
    omega
  have hslice : slice msg.data (k * 32 + i * 4) 4 = wordBytes returns[k].words[i] := by
    have hblock := slice_flatMap length_wordBytes [] (show 0 + 4 ≤ 4 from le_rfl)
      returns[k].words i hi
    rw [List.append_nil, Nat.add_zero] at hblock
    rw [hdata, slice_flatMap Nested.length_record rest hwidth returns k hk, Nested.record, hblock]
    exact List.take_of_length_le (by simp)
  rw [readWord, hprep.1, hfield]
  simp only [Option.bind_eq_bind, Option.bind_some, hprep.toNat_pointStep, hoffset, if_pos hin]
  rw [hslice, ofNat_leValue_wordBytes]

theorem holds_of_records {msg : PointCloud2} (hprep : Prepared msg) {returns : List Nested}
    {rest : List UInt8} (hdata : msg.data = returns.flatMap Nested.record ++ rest) {k : Nat}
    (hk : k < returns.length) (hcartesian : 3 ≤ returns[k].ret.cartesian.length) :
    Holds msg k returns[k] := by
  have hcoordinate (i : Nat) (hi : i < 3) :
      returns[k].ret.cartesian[i]? = some (returns[k].ret.cartesian.getD i 0) := by
    rw [← element_eq_ok]
    exact element_cartesian hcartesian hi
  have hread {fieldName : String} (i : Nat) {word : UInt32} :=
    @readWord_records _ hprep _ _ hdata _ hk fieldName i word
  refine ⟨?_, ?_, ?_, ?_, ?_, ?_, ?_⟩
  · rw [hcoordinate 0 (by omega)]
    exact hread 0 (by decide) rfl
  · rw [hcoordinate 1 (by omega)]
    exact hread 1 (by decide) rfl
  · rw [hcoordinate 2 (by omega)]
    exact hread 2 (by decide) rfl
  · exact hread 3 (by decide) rfl
  · exact hread 4 (by decide) rfl
  · exact hread 6 (by decide) rfl
  · exact hread 7 (by decide) rfl

theorem dataSize_of_lt {frame : Frame} (hbound : frame.totalNumberOfReturns.toNat < 2 ^ 27) :
    frame.dataSize = frame.totalNumberOfReturns.toNat * 32 := by
  have hlt : frame.totalNumberOfReturns.toNat * 32 < 2 ^ 32 := by omega
  rw [Frame.dataSize, UInt32.toNat_mul]
  exact Nat.mod_eq_of_lt hlt

/-- **The encoding is faithful.** Whatever frames the message object has been through, a frame that
announces as many returns as it nests is published as exactly those returns, in order. -/
theorem pointcloudCallback_encodes {this : LiDARPublisher} {frameId : String}
    {history : List Frame} {s : LiDARPublisher × PointCloud2}
    (hhistory : Machine.Exec CloudStep (this, preparedPointCloudMsg frameId) history s)
    {frame : Frame} (hcount : frame.totalNumberOfReturns.toNat = frame.nested.length)
    (hbound : frame.nested.length < 2 ^ 27)
    (hcartesian : ∀ nested ∈ frame.nested, 3 ≤ nested.ret.cartesian.length) :
    ∃ this' out, pointcloudCallback s.1 frame s.2 = .ok (this', out) ∧
      out.width.toNat = frame.nested.length ∧
      out.data.length = frame.nested.length * out.pointStep.toNat ∧
      ∀ (k : Nat) (hk : k < frame.nested.length), Holds out k frame.nested[k] := by
  have hprep : Prepared s.2 := prepared_of_exec hhistory
  have hsize : frame.dataSize = frame.nested.length * 32 := by
    rw [← hcount]
    exact dataSize_of_lt (by omega)
  have hfill := fillPointCloud_eq hprep ⟨hcartesian, hsize.ge⟩
  have hprep' : Prepared (filledPointCloud frame s.2) := hprep
  refine ⟨_, _, pointcloudCallback_eq_ok.mpr ⟨rfl, hfill⟩, hcount, ?_, fun k hk => ?_⟩
  · rw [length_filledPointCloud ⟨hcartesian, hsize.ge⟩, hsize]
    change _ = _ * s.2.pointStep.toNat
    rw [hprep.toNat_pointStep]
  · exact holds_of_records hprep' rfl hk (hcartesian _ (List.getElem_mem hk))

/-- Three returns of two points in two scanlines, with a point and a scanline between that have
none. -/
def raggedFrame : Frame where
  startTimeNs? := some 1700000000123456789
  totalNumberOfReturns? := some 3
  scanlines := [
    { startOffsetNs? := some 4294967296
      points := [
        { id? := some 7, startOffsetNs? := some 5, ambientLightLevel? := some 11
          returns := [
            { id? := some 0, cartesian := [0x3e800000, 0, 0], intensity? := some 99 },
            { id? := some 1, cartesian := [0x3f000000, 1, 2], intensity? := some 12 }] },
        { id? := some 8 }] },
    {},
    { startOffsetNs? := some 9
      points := [
        { id? := some 40, startOffsetNs? := some 3
          returns := [{ cartesian := [0x40000000, 3, 4] }] }] }]

/-- A larger frame that the message has been through before. -/
def earlierFrame : Frame where
  startTimeNs? := some 1700000000023456789
  totalNumberOfReturns? := some 5
  scanlines := [{
    points := [{ id? := some 1, returns := List.replicate 5 { cartesian := [6, 7, 8] } }] }]

theorem exists_exec_earlierFrame :
    ∃ s, Machine.Exec CloudStep (.new, preparedPointCloudMsg "lidar_side") [earlierFrame] s := by
  have hfits : earlierFrame.Fits := by decide
  have hfill := fillPointCloud_eq (prepared_preparedPointCloudMsg "lidar_side") hfits
  exact ⟨_, Machine.Exec.nil.snoc (pointcloudCallback_eq_ok.mpr ⟨rfl, hfill⟩)⟩

theorem pointcloudCallback_encodes_raggedFrame :
    ∃ s, Machine.Exec CloudStep (.new, preparedPointCloudMsg "lidar_side") [earlierFrame] s ∧
      ∃ this' out, pointcloudCallback s.1 raggedFrame s.2 = .ok (this', out) ∧
        out.width.toNat = raggedFrame.nested.length ∧
        out.data.length = raggedFrame.nested.length * out.pointStep.toNat ∧
        ∀ (k : Nat) (hk : k < raggedFrame.nested.length), Holds out k raggedFrame.nested[k] := by
  obtain ⟨s, hhistory⟩ := exists_exec_earlierFrame
  exact ⟨s, hhistory, pointcloudCallback_encodes hhistory (by decide) (by decide) (by decide)⟩

end Ilumo.Lidar
