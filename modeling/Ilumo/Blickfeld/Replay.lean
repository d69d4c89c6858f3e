import Ilumo.Blickfeld.Convert
import Ilumo.Blickfeld.Recording
import Ilumo.Lib.Calls
import Ilumo.Lib.Script

/-!
# A recording is replayed

The reader stands between two records, or has one buffered. Over a file of a header and data
messages that relation (`Replays`) is kept by every call, and it fixes the answers: a recording,
finished or cut off behind a frame, behaves as a tape with the frames that were recorded on it.
-/

namespace Ilumo.Blickfeld

open CodedStream Script

/-! ### Calls and their answers -/

inductive Call where
  | endOfStream
  | recvFrame
  | jumpToFirstFrame
  deriving DecidableEq, Repr

inductive Answer (φ : Type) where
  | flag (value : Bool)
  | frame (frame : φ)
  | done
  | failed (failure : Failure)
  deriving DecidableEq, Repr

variable {δ ι φ : Type}

def answered {α : Type} (f : α → Answer φ) :
    EStateM.Result Failure (PointCloudStream δ ι φ) α → Answer φ × PointCloudStream δ ι φ
  | .ok a s => (f a, s)
  | .error failure s => (.failed failure, s)

def PointCloudStream.handle (coded : CodedInput ι) (wire : Wire δ ι)
    (convert : Frame → φ → Except Fault φ) (s : PointCloudStream δ ι φ) :
    Call → Answer φ × PointCloudStream δ ι φ
  | .endOfStream => answered .flag (endOfStream coded wire s)
  | .recvFrame => answered .frame (recvFrame coded wire convert s)
  | .jumpToFirstFrame => answered (fun _ => .done) (jumpToFirstFrame coded wire s)

/-- What a stream is for: some frames, how many of them have been taken since the last jump, and the
frame they are converted into. -/
def Tape.handle (convert : Frame → φ → Except Fault φ) (frames : List Frame) :
    Nat × φ → Call → Answer φ × Nat × φ
  | (k, out), .endOfStream => (.flag (frames.length ≤ k), k, out)
  | (k, out), .recvFrame =>
      match frames[k]? with
      | none => (.failed (.strException endReached), k, out)
      | some frame =>
          match convert frame out with
          | .ok out => (.frame out, k + 1, out)
          | .error fault => (.failed (.fault fault), k + 1, out)
  | (_, out), .jumpToFirstFrame => (.done, 0, out)

/-! ### The file -/

/-- What is written to a file before it is compressed. -/
def fileOf (wire : Wire δ ι) (header : Header δ) (datas : List Data) : List UInt8 :=
  (wire.serializeHeader header :: datas.map wire.serializeData).flatMap delimited

variable {coded : CodedInput ι} {inflate : List UInt8 → List UInt8}
  {Stands : ι → List UInt8 → Nat → Option Nat → Prop}

/-- Serialized messages are parsed back, a message with a field is not empty, and no bytes are a
message without fields. -/
structure Wire.Faithful (wire : Wire δ ι) (Stands : ι → List UInt8 → Nat → Option Nat → Prop)
    (header : Header δ) (datas : List Data) : Prop where
  header : Reads Stands wire.mergeHeader (wire.serializeHeader header) header
  data : ∀ data ∈ datas, Reads Stands wire.mergeData (wire.serializeData data) data
  ne_nil : ∀ data ∈ datas, wire.serializeData data ≠ []
  empty : Reads Stands wire.mergeData [] {}

variable {wire : Wire δ ι} {header : Header δ} {datas : List Data}

theorem Wire.Faithful.bytes_ne_nil (hfaithful : wire.Faithful Stands header datas) :
    ∀ bytes ∈ datas.map wire.serializeData, bytes ≠ [] := by
  intro bytes hbytes
  obtain ⟨data, hdata, rfl⟩ := List.mem_map.mp hbytes
  exact hfaithful.ne_nil data hdata

/-! ### Looking for the footer -/

/-- Behind the last record the walk stops. -/
theorem findFooter_end (hcoded : coded.Documented inflate Stands) {s : ι} {p : Nat}
    (h : Before Stands s p []) (rounds offsetFooter offsetD : Nat) :
    findFooter coded rounds (coded.readLengthAndPushLimit s) offsetFooter offsetD =
      offsetFooter := by
  obtain ⟨old, inside, hread, hnothing, -⟩ := h.end hcoded
  cases rounds with
  | zero => rfl
  | succ rounds => rw [hread, findFooter, if_neg (by rw [hnothing]; omega)]

/-- A round of the walk goes over a record. -/
theorem findFooter_record (hcoded : coded.Documented inflate Stands) {s : ι} {p : Nat}
    {bytes : List UInt8} {records : List (List UInt8)} (h : Before Stands s p (bytes :: records))
    (hne : bytes ≠ []) (rounds offsetFooter offsetD : Nat) :
    ∃ s', Before Stands s' (p + (delimited bytes).length) records ∧
      findFooter coded (rounds + 1) (coded.readLengthAndPushLimit s) offsetFooter offsetD =
        findFooter coded rounds (coded.readLengthAndPushLimit s') offsetD
          (p + (delimited bytes).length) := by
  obtain ⟨old, inside, q, hread, hq, hinside⟩ := h.record hcoded
  have hpos : 0 < bytes.length := List.length_pos_of_ne_nil hne
  have hlength := hinside.bytesUntilLimit hcoded
  have hnext := hinside.skip hcoded
  rw [hq] at hnext
  refine ⟨_, hnext, ?_⟩
  rw [hread, findFooter, if_pos (by omega)]
  simp only [hlength, Int.toNat_natCast, hnext.currentPosition hcoded]

/-- The walk ends at the start of the last record. -/
theorem findFooter_last (hcoded : coded.Documented inflate Stands) {front : List (List UInt8)}
    {last : List UInt8} {s : ι} {p rounds : Nat} (h : Before Stands s p (front ++ [last]))
    (hne : ∀ bytes ∈ front ++ [last], bytes ≠ []) (hrounds : front.length < rounds)
    (offsetFooter : Nat) :
    findFooter coded rounds (coded.readLengthAndPushLimit s) offsetFooter p =
      p + (front.flatMap delimited).length := by
  induction front generalizing s p rounds offsetFooter with
  | nil =>
      obtain ⟨rounds, rfl⟩ : ∃ j, rounds = j + 1 := ⟨rounds - 1, by simp at hrounds; omega⟩
      obtain ⟨s', hnext, hfind⟩ := findFooter_record hcoded h (hne last (by simp)) rounds
        offsetFooter p
      rw [hfind]
      exact findFooter_end hcoded hnext _ _ _
  | cons bytes front ih =>
      obtain ⟨rounds, rfl⟩ : ∃ j, rounds = j + 1 := ⟨rounds - 1, by simp at hrounds; omega⟩
      obtain ⟨s', hnext, hfind⟩ := findFooter_record hcoded h (hne bytes (by simp)) rounds
        offsetFooter p
      rw [hfind, ih hnext (fun other hother => hne other (List.mem_cons_of_mem _ hother))
        (by simpa using hrounds), List.flatMap_cons, List.length_append, Nat.add_assoc]

theorem length_le_length_flatMap {records : List (List UInt8)}
    (hne : ∀ bytes ∈ records, bytes ≠ []) :
    records.length ≤ (records.flatMap delimited).length := by
  induction records with
  | nil => exact Nat.le_refl 0
  | cons bytes records ih =>
      have hpos : 0 < bytes.length := List.length_pos_of_ne_nil (hne bytes (by simp))
      have hrest := ih fun other hother => hne other (by simp [hother])
      rw [List.flatMap_cons, List.length_append, delimited_length, List.length_cons]
      omega

theorem length_le_length_fileOf (hfaithful : wire.Faithful Stands header datas) :
    datas.length ≤ (fileOf wire header datas).length := by
  have hrecords := length_le_length_flatMap hfaithful.bytes_ne_nil
  rw [List.length_map] at hrecords
  rw [fileOf, List.flatMap_cons, List.length_append]
  omega

/-- A file that can be read: what it inflates to is short enough, and made of these messages. -/
structure Readable (coded : CodedInput ι) (inflate : List UInt8 → List UInt8)
    (Stands : ι → List UInt8 → Nat → Option Nat → Prop) (wire : Wire δ ι) (header : Header δ)
    (datas : List Data) (file : List UInt8) : Prop where
  documented : coded.Documented inflate Stands
  faithful : wire.Faithful Stands header datas
  content : inflate file = fileOf wire header datas
  room : (inflate file).length < intMax

section File

variable {file : List UInt8}

/-- Behind the header the stream stands before the data. -/
theorem Readable.before_data (h : Readable coded inflate Stands wire header datas file) :
    Before Stands (streamInitAndSkip coded file (delimited (wire.serializeHeader header)).length)
      (delimited (wire.serializeHeader header)).length (datas.map wire.serializeData) := by
  have hstart := h.documented.before_skip [wire.serializeHeader header] h.content h.room
  rw [List.flatMap_singleton] at hstart
  exact hstart

/-- Where the walk has led, the last record of a file, or the nothing behind its header, is read for
a footer. -/
theorem Readable.merge_findFooter (h : Readable coded inflate Stands wire header datas file) {s : ι}
    {p : Nat} (hp : p = (delimited (wire.serializeHeader header)).length)
    (hbefore : Before Stands s p (datas.map wire.serializeData)) :
    ∃ s', wire.mergeData (coded.readLengthAndPushLimit (streamInitAndSkip coded file
      (findFooter coded intMax (coded.readLengthAndPushLimit s) p p))).2 =
        (datas.getLast?.getD {}, true, s') := by
  rcases List.eq_nil_or_concat' datas with rfl | ⟨front, last, rfl⟩
  · obtain ⟨old, inside, hread, -, hend⟩ := h.before_data.end h.documented
    obtain ⟨s', hmerge, -⟩ := h.faithful.empty inside [] _ (by simpa using hend)
    rw [findFooter_end h.documented hbefore, hp, hread]
    exact ⟨s', hmerge⟩
  · have hne := h.faithful.bytes_ne_nil
    have hrounds := length_le_length_fileOf h.faithful
    have hroom := h.room
    rw [List.length_append, List.length_singleton, ← h.content] at hrounds
    rw [List.map_append, List.map_singleton] at hbefore hne
    have hcontent : inflate file = ((wire.serializeHeader header :: front.map wire.serializeData) ++
        [wire.serializeData last]).flatMap delimited := by
      rw [h.content, fileOf, List.map_append]
      rfl
    have hstart := h.documented.before_skip
      (wire.serializeHeader header :: front.map wire.serializeData) hcontent h.room
    rw [List.flatMap_cons, List.length_append, ← hp] at hstart
    obtain ⟨old, inside, q, hread, -, hinside⟩ := hstart.record h.documented
    obtain ⟨s', hmerge, -⟩ := hinside.merge (h.faithful.data last (by simp))
    rw [findFooter_last h.documented hbefore hne (by rw [List.length_map]; omega),
      streamInitAndSkip, hread, List.getLast?_concat]
    exact ⟨s', hmerge⟩

/-- What a stream over a file is when it has been opened. -/
def opened (coded : CodedInput ι) (wire : Wire δ ι) (header : Header δ) (datas : List Data)
    (file : List UInt8) (frame : φ) : PointCloudStream δ ι φ where
  istream := file
  pb := streamInitAndSkip coded file (delimited (wire.serializeHeader header)).length
  header := header
  footer? := (datas.getLast?.getD {}).footer?
  offsetData := (delimited (wire.serializeHeader header)).length
  streamData := datas.getLast?.getD {}
  frame := frame

theorem Readable.open_eq (h : Readable coded inflate Stands wire header datas file) (frame : φ) :
    PointCloudStream.open coded wire file frame =
      .ok (opened coded wire header datas file frame) := by
  have hstart := h.documented.before_skip [] h.content h.room
  obtain ⟨old, inside, q, hread, hq, hinside⟩ := hstart.record h.documented
  obtain ⟨s', hmerge, hnext⟩ := hinside.merge h.faithful.header
  rw [List.flatMap_nil, List.length_nil] at hread hq
  rw [hq, Nat.zero_add] at hnext
  obtain ⟨last, hfooter⟩ := h.merge_findFooter rfl hnext
  rw [PointCloudStream.open]
  simp only [streamInitAndSkip, opened, hread, hmerge, hnext.currentPosition h.documented,
    Bool.not_true, Bool.false_eq_true, if_false] at hfooter ⊢
  simp only [hfooter, if_true]

/-! ### Reading on -/

theorem get_bind {α : Type} (f : PointCloudStream δ ι φ → StreamM δ ι φ α)
    (s : PointCloudStream δ ι φ) : (get >>= f : StreamM δ ι φ α) s = f s s :=
  rfl

theorem readStream_end (hcoded : coded.Documented inflate Stands) (wire : Wire δ ι)
    {s : PointCloudStream δ ι φ} {p : Nat} (h : Before Stands s.pb p []) :
    ∃ pb, readStream coded wire s = .ok () { s with pb, streamBuffered := false } ∧
      Before Stands pb p [] := by
  obtain ⟨old, inside, hread, hnothing, hend⟩ := h.end hcoded
  refine ⟨_, ?_, Before.of_end hend⟩
  simp only [readStream, get_bind, hread, if_pos hnothing]
  rfl

theorem readStream_record (hcoded : coded.Documented inflate Stands)
    {s : PointCloudStream δ ι φ} {p : Nat} {bytes : List UInt8} {records : List (List UInt8)}
    {data : Data} (h : Before Stands s.pb p (bytes :: records)) (hne : bytes ≠ [])
    (hreads : Reads Stands wire.mergeData bytes data) :
    ∃ pb, readStream coded wire s =
        .ok () { s with pb, streamData := data, streamBuffered := true } ∧
      ∃ p', Before Stands pb p' records := by
  obtain ⟨old, inside, q, hread, -, hinside⟩ := h.record hcoded
  obtain ⟨s', hmerge, hnext⟩ := hinside.merge hreads
  have hpos : 0 < bytes.length := List.length_pos_of_ne_nil hne
  have hlength := hinside.bytesUntilLimit hcoded
  have hsome : coded.bytesUntilLimit inside ≠ 0 := by omega
  refine ⟨_, ?_, _, hnext⟩
  simp only [readStream, get_bind, hread, if_neg hsome, hmerge, if_true]
  rfl

/-- The message the stream has read ahead. -/
def PointCloudStream.buffer? (s : PointCloudStream δ ι φ) : Option Data :=
  if s.streamBuffered then some s.streamData else none

/-- The stream has taken `k` messages of the file, and stands before the others or has the next of
them buffered. -/
structure Replays (Stands : ι → List UInt8 → Nat → Option Nat → Prop) (wire : Wire δ ι)
    (header : Header δ) (datas : List Data) (file : List UInt8) (k : Nat)
    (s : PointCloudStream δ ι φ) : Prop where
  istream : s.istream = file
  offsetData : s.offsetData = (delimited (wire.serializeHeader header)).length
  next : ∃ p, if s.streamBuffered then
      datas[k]? = some s.streamData ∧
        Before Stands s.pb p ((datas.drop (k + 1)).map wire.serializeData)
    else Before Stands s.pb p ((datas.drop k).map wire.serializeData)

theorem Replays.setFrame {s : PointCloudStream δ ι φ} {k : Nat}
    (h : Replays Stands wire header datas file k s) (frame : φ) :
    Replays Stands wire header datas file k { s with frame } :=
  ⟨h.istream, h.offsetData, h.next⟩

theorem Readable.replays_opened (h : Readable coded inflate Stands wire header datas file)
    (frame : φ) :
    Replays Stands wire header datas file 0 (opened coded wire header datas file frame) :=
  ⟨rfl, rfl, _, h.before_data⟩

section Reading

variable {s : PointCloudStream δ ι φ} {k : Nat}

/-- Reading ahead leaves the stream before the same message, which is buffered unless there is
none. -/
theorem Readable.readStream (h : Readable coded inflate Stands wire header datas file)
    (histream : s.istream = file)
    (hoffset : s.offsetData = (delimited (wire.serializeHeader header)).length) {p : Nat}
    (hbefore : Before Stands s.pb p ((datas.drop k).map wire.serializeData)) :
    ∃ s', readStream coded wire s = .ok () s' ∧ Replays Stands wire header datas file k s' ∧
      s'.buffer? = datas[k]? ∧ s'.frame = s.frame := by
  cases hk : datas[k]? with
  | none =>
      have hnothing : datas.drop k = [] := List.drop_eq_nil_of_le (List.getElem?_eq_none_iff.mp hk)
      rw [hnothing, List.map_nil] at hbefore
      obtain ⟨pb, hread, hend⟩ := readStream_end h.documented wire hbefore
      refine ⟨_, hread, ⟨histream, hoffset, p, ?_⟩, rfl, rfl⟩
      rw [if_neg (by simp), hnothing]
      exact hend
  | some data =>
      obtain ⟨hlt, rfl⟩ := List.getElem?_eq_some_iff.mp hk
      rw [List.drop_eq_getElem_cons hlt, List.map_cons] at hbefore
      have hmem : datas[k] ∈ datas := List.getElem_mem hlt
      obtain ⟨pb, hread, p', hnext⟩ := readStream_record h.documented hbefore
        (h.faithful.ne_nil _ hmem) (h.faithful.data _ hmem)
      exact ⟨_, hread, ⟨histream, hoffset, p', hk, hnext⟩, rfl, rfl⟩

/-- `end_of_stream` looks at the next message, if need be after reading ahead. -/
theorem Readable.endOfStream (h : Readable coded inflate Stands wire header datas file)
    (hs : Replays Stands wire header datas file k s) :
    ∃ s', endOfStream coded wire s = .ok (datas[k]?.all Data.hasFooter) s' ∧
      Replays Stands wire header datas file k s' ∧ s'.buffer? = datas[k]? ∧
      s'.frame = s.frame := by
  obtain ⟨p, hnext⟩ := hs.next
  cases hbuffered : s.streamBuffered with
  | false =>
      rw [hbuffered, if_neg (by simp)] at hnext
      obtain ⟨s', hread, hreplays, hbuffer, hframe⟩ := h.readStream hs.istream hs.offsetData hnext
      refine ⟨s', ?_, hreplays, hbuffer, hframe⟩
      simp only [Blickfeld.endOfStream, get_bind, hbuffered, Bool.not_false, if_true,
        bind_of_ok hread, ← hbuffer, PointCloudStream.buffer?]
      cases s'.streamBuffered <;> rfl
  | true =>
      rw [hbuffered, if_pos rfl] at hnext
      refine ⟨s, ?_, hs, by rw [PointCloudStream.buffer?, if_pos hbuffered, hnext.1], rfl⟩
      simp only [Blickfeld.endOfStream, get_bind, hbuffered, hnext.1, Bool.not_true,
        Bool.false_eq_true, if_false, Bool.false_or]
      rfl

theorem Readable.recvFrame_end (h : Readable coded inflate Stands wire header datas file)
    (hs : Replays Stands wire header datas file k s) (hfooter : datas[k]?.all Data.hasFooter)
    (convert : Frame → φ → Except Fault φ) :
    ∃ s', recvFrame coded wire convert s = .error (.strException endReached) s' ∧
      Replays Stands wire header datas file k s' ∧ s'.frame = s.frame := by
  obtain ⟨s', hend, hreplays, -, hframe⟩ := h.endOfStream hs
  refine ⟨s', ?_, hreplays, hframe⟩
  rw [hfooter] at hend
  simp only [recvFrame, bind_of_ok hend, if_true]
  rfl

/-- The next message is taken out of the buffer, whether or not its frame can be converted. -/
theorem Readable.recvFrame_next (h : Readable coded inflate Stands wire header datas file)
    (hs : Replays Stands wire header datas file k s) {data : Data} (hk : datas[k]? = some data)
    (hfooter : data.hasFooter = false) (convert : Frame → φ → Except Fault φ) :
    ∃ s', Replays Stands wire header datas file (k + 1) s' ∧ s'.frame = s.frame ∧
      recvFrame coded wire convert s = match convert data.frame s.frame with
        | .ok frame => .ok frame { s' with frame }
        | .error fault => .error (.fault fault) s' := by
  obtain ⟨s', hend, hreplays, hbuffer, hframe⟩ := h.endOfStream hs
  rw [hk, PointCloudStream.buffer?] at hbuffer
  have hbuffered : s'.streamBuffered = true := by
    by_contra hnot
    rw [if_neg hnot] at hbuffer
    simp at hbuffer
  rw [if_pos hbuffered, Option.some_inj] at hbuffer
  obtain ⟨p, hnext⟩ := hreplays.next
  rw [if_pos hbuffered] at hnext
  refine ⟨{ s' with streamBuffered := false },
    ⟨hreplays.istream, hreplays.offsetData, p, hnext.2⟩, hframe, ?_⟩
  rw [hk, Option.all_some, hfooter] at hend
  simp only [recvFrame, bind_of_ok hend, Bool.false_eq_true, if_false, ← hbuffer, ← hframe]
  change (match convert s'.streamData.frame s'.frame with
    | .ok frame => _
    | .error fault => _ : StreamM δ ι φ φ) _ = _
  cases convert s'.streamData.frame s'.frame <;> rfl

theorem Readable.jumpToFirstFrame (h : Readable coded inflate Stands wire header datas file)
    (hs : Replays Stands wire header datas file k s) :
    ∃ s', jumpToFirstFrame coded wire s = .ok () s' ∧
      Replays Stands wire header datas file 0 s' ∧ s'.frame = s.frame := by
  have hstart := h.before_data
  rw [← hs.istream, ← hs.offsetData] at hstart
  obtain ⟨s', hread, hreplays, -, hframe⟩ := h.readStream (k := 0)
    (s := { s with pb := streamInitAndSkip coded s.istream s.offsetData }) hs.istream hs.offsetData
    hstart
  exact ⟨s', hread, hreplays, hframe⟩

end Reading

end File

/-! ### The tape -/

def Data.ofFrame (frame : Frame) : Data := { frame? := some frame }

def Data.ofFooter (footer : Footer) : Data := { footer? := some footer }

/-- The messages of a recording: its frames, and a footer unless it was cut off. -/
def messages (frames : List Frame) (footer? : Option Footer) : List Data :=
  frames.map Data.ofFrame ++ footer?.toList.map Data.ofFooter

variable {frames : List Frame} {footer? : Option Footer}

theorem getElem?_messages_of_lt {k : Nat} (hk : k < frames.length) :
    (messages frames footer?)[k]? = some (Data.ofFrame frames[k]) := by
  rw [messages, List.getElem?_append_left (by simpa using hk), List.getElem?_map,
    List.getElem?_eq_getElem hk, Option.map_some]

theorem all_hasFooter_messages {k : Nat} :
    (messages frames footer?)[k]?.all Data.hasFooter = decide (frames.length ≤ k) := by
  by_cases hk : k < frames.length
  · rw [getElem?_messages_of_lt hk, Option.all_some, decide_eq_false (by omega)]
    rfl
  · rw [decide_eq_true (by omega), messages, List.getElem?_append_right (by simpa using hk),
      List.getElem?_map]
    cases footer? with
    | none => rfl
    | some footer => cases k - (frames.map Data.ofFrame).length <;> rfl


section Tape

variable {file : List UInt8} {convert : Frame → φ → Except Fault φ} {k : Nat} {frame : φ}
  {s : PointCloudStream δ ι φ}

/-- A step of the stream is a step of the tape. -/
theorem Readable.handle
    (h : Readable coded inflate Stands wire header (messages frames footer?) file)
    (hs : Replays Stands wire header (messages frames footer?) file k s) (hframe : s.frame = frame)
    (call : Call) :
    (PointCloudStream.handle coded wire convert s call).1 =
        (Tape.handle convert frames (k, frame) call).1 ∧
      Replays Stands wire header (messages frames footer?) file
        (Tape.handle convert frames (k, frame) call).2.1
        (PointCloudStream.handle coded wire convert s call).2 ∧
      (PointCloudStream.handle coded wire convert s call).2.frame =
        (Tape.handle convert frames (k, frame) call).2.2 := by
  subst hframe
  cases call with
  | endOfStream =>
      obtain ⟨s', hend, hreplays, -, hsame⟩ := h.endOfStream hs
      rw [all_hasFooter_messages] at hend
      simp only [PointCloudStream.handle, hend, answered]
      exact ⟨rfl, hreplays, hsame⟩
  | recvFrame =>
      by_cases hk : k < frames.length
      · obtain ⟨s', hreplays, hsame, hrecv⟩ :=
          h.recvFrame_next hs (getElem?_messages_of_lt hk) rfl convert
        simp only [PointCloudStream.handle, Tape.handle, List.getElem?_eq_getElem hk, hrecv,
          Data.ofFrame, Data.frame, Option.getD_some]
        cases convert frames[k] s.frame with
        | ok out => exact ⟨rfl, hreplays.setFrame out, rfl⟩
        | error fault => exact ⟨rfl, hreplays, hsame⟩
      · obtain ⟨s', hrecv, hreplays, hsame⟩ := h.recvFrame_end hs
          (by rw [all_hasFooter_messages, decide_eq_true (by omega)]) convert
        simp only [PointCloudStream.handle, hrecv, answered, Tape.handle,
          List.getElem?_eq_none (Nat.le_of_not_lt hk)]
        exact ⟨trivial, hreplays, hsame⟩
  | jumpToFirstFrame =>
      obtain ⟨s', hjump, hreplays, hsame⟩ := h.jumpToFirstFrame hs
      simp only [PointCloudStream.handle, hjump, answered]
      exact ⟨rfl, hreplays, hsame⟩

/-- A file of messages is a tape of its frames. -/
theorem Readable.exists_open_tape
    (h : Readable coded inflate Stands wire header (messages frames footer?) file)
    (convert : Frame → φ → Except Fault φ) (frame : φ) :
    ∃ s, PointCloudStream.open coded wire file frame = .ok s ∧
      s.header = header ∧ s.footer? = footer? ∧
      ∀ calls, Calls.answers (PointCloudStream.handle coded wire convert) s calls =
        Calls.answers (Tape.handle convert frames) (0, frame) calls := by
  refine ⟨_, h.open_eq frame, rfl, ?_, fun calls => ?_⟩
  · cases footer? with
    | none =>
        rw [opened, messages, Option.toList_none, List.map_nil, List.append_nil]
        cases hlast : (frames.map Data.ofFrame).getLast? with
        | none => rfl
        | some data =>
            obtain ⟨frame, -, rfl⟩ := List.mem_map.mp (List.mem_of_getLast? hlast)
            rfl
    | some footer =>
        rw [opened, messages, Option.toList_some, List.map_singleton, List.getLast?_concat]
        rfl
  · refine Calls.answers_eq_of_simulation (R := fun s tape =>
      Replays Stands wire header (messages frames footer?) file tape.1 s ∧ s.frame = tape.2)
      (fun s tape call hrelated => ?_) ⟨h.replays_opened frame, rfl⟩ calls
    exact h.handle hrelated.1 hrelated.2 call

end Tape

/-! ### The recorder -/

variable (approximatelyEquals : ScanPattern → ScanPattern → Bool)

/-- The footer of a recording of these frames. -/
def footerOf (frames : List Frame) : Footer :=
  (frames.foldl (Footer.count approximatelyEquals) ({}, {})).1

/-- A recording that `finish` has not been called for. -/
def unfinished (wire : Wire δ ι) (header : Header δ) (frames : List Frame) : PointCloudRecord :=
  frames.foldl (PointCloudRecord.recordData wire approximatelyEquals)
    (PointCloudRecord.start wire {} header)

theorem unfinished_eq (frames : List Frame) :
    unfinished approximatelyEquals wire header frames = {
      ostream := fileOf wire header (messages frames none)
      footer := footerOf approximatelyEquals frames
      scanPattern := (frames.foldl (Footer.count approximatelyEquals) ({}, {})).2
      finished := false } := by
  induction frames using List.reverseRecOn with
  | nil => simp [unfinished, PointCloudRecord.start, fileOf, messages, footerOf]
  | append_singleton frames frame ih =>
      rw [unfinished] at ih
      rw [unfinished, List.foldl_append, List.foldl_cons, List.foldl_nil, ih]
      simp [PointCloudRecord.recordData, footerOf, fileOf, messages, Data.ofFrame]

theorem recording_ostream (frames : List Frame) :
    (recording wire approximatelyEquals header frames).ostream =
      fileOf wire header (messages frames (some (footerOf approximatelyEquals frames))) := by
  change ((unfinished approximatelyEquals wire header frames).finish wire).ostream = _
  rw [unfinished_eq, PointCloudRecord.finish, if_neg (by simp)]
  simp [fileOf, messages, Data.ofFooter]

/-- **A recording replays what was recorded.** -/
theorem recording_replays {file : List UInt8} (hcoded : coded.Documented inflate Stands)
    (hfaithful : wire.Faithful Stands header
      (messages frames (some (footerOf approximatelyEquals frames))))
    (hfile : inflate file = (recording wire approximatelyEquals header frames).ostream)
    (hroom : (inflate file).length < intMax) (convert : Frame → φ → Except Fault φ) (frame : φ) :
    ∃ s, PointCloudStream.open coded wire file frame = .ok s ∧
      s.header = header ∧ s.footer? = some (footerOf approximatelyEquals frames) ∧
      ∀ calls, Calls.answers (PointCloudStream.handle coded wire convert) s calls =
        Calls.answers (Tape.handle convert frames) (0, frame) calls := by
  rw [recording_ostream] at hfile
  exact Readable.exists_open_tape ⟨hcoded, hfaithful, hfile, hroom⟩ convert frame

/-! A recording of a packed frame and an empty one, as protobuf serializes the messages and as zlib
compresses them. -/

def sampleHeader : Header Unit := ⟨(), "2.20.6-30", 1, .cpp⟩

def packedSample : Frame where
  id? := some 1
  totalNumberOfReturns? := some 1
  packed? := some {
    length? := some 1
    cartesian? := some [0x3F, 0x80, 0x00, 0x00, 0x40, 0x00, 0x00, 0x00, 0x40, 0x40, 0x00, 0x00] }

def unpackedSample : Frame where
  id? := some 1
  totalNumberOfReturns? := some 1
  scanlines := [{
    points := [{ returns := [{ cartesian := [0x3F800000, 0x40000000, 0x40400000] }] }] }]

def emptySample : Frame where
  id? := some 2

def sampleFooter : Footer where
  counter? := some ⟨2, 0, 1⟩

def headerBytes : List UInt8 :=
  [0x0A, 0x00, 0x12, 0x0F, 0x0A, 0x09, 0x32, 0x2E, 0x32, 0x30, 0x2E, 0x36, 0x2D, 0x33, 0x30, 0x10,
    0x01, 0x18, 0x01]

def packedBytes : List UInt8 :=
  [0x0A, 0x16, 0x08, 0x01, 0x38, 0x01, 0x42, 0x10, 0x08, 0x01, 0x12, 0x0C, 0x3F, 0x80, 0x00, 0x00,
    0x40, 0x00, 0x00, 0x00, 0x40, 0x40, 0x00, 0x00]

def emptyBytes : List UInt8 := [0x0A, 0x02, 0x08, 0x02]

def footerBytes : List UInt8 :=
  [0x12, 0x0A, 0x0A, 0x08, 0x0A, 0x06, 0x08, 0x02, 0x10, 0x00, 0x18, 0x01]

def sampleData : List (Data × List UInt8) :=
  [({}, []), (Data.ofFrame packedSample, packedBytes), (Data.ofFrame emptySample, emptyBytes),
    (Data.ofFooter sampleFooter, footerBytes)]

def parseSampleHeader (bytes : List UInt8) : Option (Header Unit) :=
  if bytes = headerBytes then some sampleHeader else none

def parseSampleData (bytes : List UInt8) : Option Data :=
  (sampleData.find? fun sample => sample.2 = bytes).map Prod.fst

def sampleWire : Wire Unit Input where
  serializeHeader header := if header = sampleHeader then headerBytes else []
  mergeHeader := Input.merge parseSampleHeader sampleHeader
  serializeData data := ((sampleData.find? fun sample => sample.1 = data).map Prod.snd).getD []
  mergeData := Input.merge parseSampleData {}

def sampleFile : List UInt8 :=
  [0x1F, 0x8B, 0x08, 0x00, 0x00, 0x00, 0x00, 0x00, 0x04, 0x03, 0x13, 0xE6, 0x62, 0x10, 0xE2, 0xE7,
    0xE2, 0x34, 0xD2, 0x33, 0x32, 0xD0, 0x33, 0xD3, 0x35, 0x36, 0x10, 0x60, 0x94, 0x60, 0x94, 0xE0,
    0x12, 0xE3, 0x60, 0xB4, 0x60, 0x74, 0x12, 0xE0, 0x60, 0x14, 0xE2, 0xB1, 0x6F, 0x60, 0x60, 0x70,
    0x60, 0x00, 0x62, 0x20, 0xC1, 0xC2, 0xC5, 0xC4, 0xC1, 0xC4, 0x23, 0xC4, 0xC5, 0xC5, 0xC1, 0xC5,
    0xC6, 0xC1, 0x24, 0xC0, 0x20, 0xC1, 0x08, 0x00, 0xD8, 0x17, 0xEC, 0xDC, 0x3F, 0x00, 0x00, 0x00]

/-- The file of the same recording when the recorder has not got to its end. -/
def sampleFileCut : List UInt8 :=
  [0x1F, 0x8B, 0x08, 0x00, 0x00, 0x00, 0x00, 0x00, 0x04, 0x03, 0x12, 0xE6, 0x62, 0x10, 0xE2, 0xE7,
    0xE2, 0x34, 0xD2, 0x33, 0x32, 0xD0, 0x33, 0xD3, 0x35, 0x36, 0x10, 0x60, 0x94, 0x60, 0x94, 0xE0,
    0x12, 0xE3, 0x60, 0xB4, 0x60, 0x74, 0x12, 0xE0, 0x60, 0x14, 0xE2, 0xB1, 0x6F, 0x60, 0x60, 0x70,
    0x60, 0x00, 0x62, 0x20, 0xC1, 0xC2, 0xC5, 0xC4, 0xC1, 0x04, 0x00, 0x00, 0x00, 0xFF, 0xFF]

def sampleInflate (file : List UInt8) : List UInt8 :=
  let written := [headerBytes, packedBytes, emptyBytes].flatMap delimited
  if file = sampleFile then written ++ delimited footerBytes
  else if file = sampleFileCut then written
  else []

theorem sampleWire_faithful (hdatas : datas <+: [Data.ofFrame packedSample,
      Data.ofFrame emptySample, Data.ofFooter sampleFooter]) :
    sampleWire.Faithful Input.Stands sampleHeader datas := by
  have hall {motive : Data → Prop} (hpacked : motive (Data.ofFrame packedSample))
      (hempty : motive (Data.ofFrame emptySample)) (hfooter : motive (Data.ofFooter sampleFooter)) :
      ∀ data ∈ datas, motive data := by
    intro data hdata
    obtain rfl | rfl | rfl : data = _ ∨ data = _ ∨ data = _ := by simpa using hdatas.subset hdata
    · exact hpacked
    · exact hempty
    · exact hfooter
  have hreads {bytes : List UInt8} {data : Data} (hparse : parseSampleData bytes = some data) :
      Reads Input.Stands sampleWire.mergeData bytes data :=
    Input.reads_merge hparse
  exact {
    header := Input.reads_merge (show parseSampleHeader headerBytes = some sampleHeader by decide)
    data := hall (hreads (by decide)) (hreads (by decide)) (hreads (by decide))
    ne_nil := hall (by decide) (by decide) (by decide)
    empty := hreads (by decide) }

def sampleCalls : List Call :=
  [.recvFrame, .recvFrame, .endOfStream, .recvFrame, .jumpToFirstFrame, .recvFrame]

def sampleAnswers : List (Answer Frame) :=
  [.frame unpackedSample, .frame emptySample, .flag true,
    .failed (.strException endReached), .done, .frame unpackedSample]

theorem recording_replays_sample :
    ∃ s, PointCloudStream.open (Input.coded sampleInflate) sampleWire sampleFile ({} : Frame) =
        .ok s ∧
      s.header = sampleHeader ∧ s.footer? = some sampleFooter ∧
      Calls.answers (PointCloudStream.handle (Input.coded sampleInflate) sampleWire
        fun frame _ => convertPointCloud frame) s sampleCalls = sampleAnswers := by
  have hfile : sampleInflate sampleFile = (recording sampleWire (fun p q => p = q) sampleHeader
      [packedSample, emptySample]).ostream := by decide
  obtain ⟨s, hopen, hheader, hfooter, hanswers⟩ := recording_replays (fun p q => p = q)
    (Input.coded_documented sampleInflate) (sampleWire_faithful ⟨[], rfl⟩) hfile (by decide)
    (fun frame _ => convertPointCloud frame) {}
  exact ⟨s, hopen, hheader, hfooter, (hanswers sampleCalls).trans (by decide)⟩

/-- **A recording that was cut off** behind a frame is replayed as far as it goes. -/
theorem unfinished_replays {file : List UInt8} (hcoded : coded.Documented inflate Stands)
    (hfaithful : wire.Faithful Stands header (messages frames none))
    (hfile : inflate file = (unfinished approximatelyEquals wire header frames).ostream)
    (hroom : (inflate file).length < intMax) (convert : Frame → φ → Except Fault φ) (frame : φ) :
    ∃ s, PointCloudStream.open coded wire file frame = .ok s ∧
      s.header = header ∧ s.footer? = none ∧
      ∀ calls, Calls.answers (PointCloudStream.handle coded wire convert) s calls =
        Calls.answers (Tape.handle convert frames) (0, frame) calls := by
  rw [unfinished_eq] at hfile
  exact Readable.exists_open_tape ⟨hcoded, hfaithful, hfile, hroom⟩ convert frame

theorem unfinished_replays_sample :
    ∃ s, PointCloudStream.open (Input.coded sampleInflate) sampleWire sampleFileCut ({} : Frame) =
        .ok s ∧
      s.header = sampleHeader ∧ s.footer? = none ∧
      Calls.answers (PointCloudStream.handle (Input.coded sampleInflate) sampleWire
        fun frame _ => convertPointCloud frame) s sampleCalls = sampleAnswers := by
  have hfile : sampleInflate sampleFileCut = (unfinished (fun p q => p = q) sampleWire sampleHeader
      [packedSample, emptySample]).ostream := by decide
  obtain ⟨s, hopen, hheader, hfooter, hanswers⟩ := unfinished_replays (fun p q => p = q)
    (Input.coded_documented sampleInflate) (sampleWire_faithful ⟨[_], rfl⟩) hfile (by decide)
    (fun frame _ => convertPointCloud frame) {}
  exact ⟨s, hopen, hheader, hfooter, (hanswers sampleCalls).trans (by decide)⟩

end Ilumo.Blickfeld
