import Ilumo.Blickfeld.Answers
import Ilumo.Blickfeld.Mockup
import Ilumo.Blickfeld.Replay

/-!
# What a client receives of a recording

Whatever was sent is with the client, on its way, or in the response buffer, in this order
(`Serving.sent`). In every run the client therefore has the header, and a prefix of the recording
that is repeated from its start again.
-/

namespace Ilumo.Blickfeld.Mockup

open Connection Machine Pipe CodedStream Script

variable {δ ι π : Type}

/-! ### The recording, repeated -/

/-- `q` rounds of some frames and the first `k` of the next. -/
def rounds (played : List Frame) (q k : Nat) : List Frame :=
  (List.replicate q played).flatten ++ played.take k

theorem rounds_next {played : List Frame} {k : Nat} (hk : k < played.length) (q : Nat) :
    rounds played q (k + 1) = rounds played q k ++ [played[k]] := by
  rw [rounds, rounds, List.take_succ_eq_append_getElem hk, List.append_assoc]

theorem rounds_again {played : List Frame} (hpos : 0 < played.length) (q : Nat) :
    rounds played (q + 1) 1 = rounds played q played.length ++ [played[0]] := by
  have hfirst : played.take 1 = [played[0]] := by
    rw [List.take_succ_eq_append_getElem hpos, List.take_zero, List.nil_append]
  rw [rounds, rounds, List.take_length, List.replicate_succ', List.flatten_concat, hfirst]

theorem prefix_rounds (played : List Frame) (q k : Nat) :
    rounds played q k <+: (List.replicate (q + 1) played).flatten := by
  rw [rounds, List.replicate_succ', List.flatten_concat]
  exact (List.prefix_append_right_inj _).mpr (List.take_prefix k played)

/-! ### A frame of the recording -/

section NextFrame

variable {coded : CodedInput ι} {inflate : List UInt8 → List UInt8}
  {Stands : ι → List UInt8 → Nat → Option Nat → Prop} {wire : Wire δ ι} {header : Header δ}
  {frames : List Frame} {footer? : Option Footer} {file : List UInt8}
  {s : PointCloudStream δ ι Frame} {k : Nat}

theorem recvFrame_ok (h : Readable coded inflate Stands wire header (messages frames footer?) file)
    (hs : Replays Stands wire header (messages frames footer?) file k s) (hk : k < frames.length)
    {converted : Frame} (hconvert : convertPointCloud frames[k] = .ok converted) :
    ∃ s', recvFrame coded wire (fun frame _ => convertPointCloud frame) s = .ok converted s' ∧
      Replays Stands wire header (messages frames footer?) file (k + 1) s' := by
  obtain ⟨s', hnext, -, hrecv⟩ := h.recvFrame_next hs (getElem?_messages_of_lt hk) rfl
    fun frame _ => convertPointCloud frame
  simp only [Data.ofFrame, Data.frame, Option.getD_some, hconvert] at hrecv
  exact ⟨_, hrecv, hnext.setFrame converted⟩

theorem nextFrame_next
    (h : Readable coded inflate Stands wire header (messages frames footer?) file)
    (hs : Replays Stands wire header (messages frames footer?) file k s) (hk : k < frames.length)
    {converted : Frame} (hconvert : convertPointCloud frames[k] = .ok converted)
    (loopRecording : Bool) :
    ∃ s', SimulatedConnection.nextFrame loopRecording coded wire s = .ok (some converted) s' ∧
      Replays Stands wire header (messages frames footer?) file (k + 1) s' := by
  obtain ⟨mid, hend, hmid, -⟩ := h.endOfStream hs
  obtain ⟨s', hrecv, hnext⟩ := recvFrame_ok h hmid hk hconvert
  rw [all_hasFooter_messages, decide_eq_false (by omega)] at hend
  refine ⟨s', ?_, hnext⟩
  simp only [SimulatedConnection.nextFrame, bind_of_ok hend, bind_of_ok hrecv,
    Bool.false_eq_true, if_false]
  rfl

theorem nextFrame_again
    (h : Readable coded inflate Stands wire header (messages frames footer?) file)
    (hs : Replays Stands wire header (messages frames footer?) file frames.length s)
    (hpos : 0 < frames.length) {converted : Frame}
    (hconvert : convertPointCloud frames[0] = .ok converted) :
    ∃ s', SimulatedConnection.nextFrame true coded wire s = .ok (some converted) s' ∧
      Replays Stands wire header (messages frames footer?) file 1 s' := by
  obtain ⟨mid, hend, hmid, -⟩ := h.endOfStream hs
  obtain ⟨first, hjump, hfirst, -⟩ := h.jumpToFirstFrame hmid
  obtain ⟨s', hrecv, hnext⟩ := recvFrame_ok h hfirst hpos hconvert
  rw [all_hasFooter_messages, decide_eq_true (Nat.le_refl _)] at hend
  refine ⟨s', ?_, hnext⟩
  simp only [SimulatedConnection.nextFrame, bind_of_ok hend, bind_of_ok hjump, bind_of_ok hrecv,
    if_true, Bool.not_true, Bool.false_eq_true, if_false]
  rfl

theorem nextFrame_end (h : Readable coded inflate Stands wire header (messages frames footer?) file)
    (hs : Replays Stands wire header (messages frames footer?) file frames.length s) :
    ∃ s', SimulatedConnection.nextFrame false coded wire s = .ok none s' ∧
      Replays Stands wire header (messages frames footer?) file frames.length s' := by
  obtain ⟨mid, hend, hmid, -⟩ := h.endOfStream hs
  rw [all_hasFooter_messages, decide_eq_true (Nat.le_refl _)] at hend
  refine ⟨mid, ?_, hmid⟩
  simp only [SimulatedConnection.nextFrame, bind_of_ok hend, if_true, Bool.not_false]
  rfl

end NextFrame

/-! ### From the response buffer to the client -/

def frameEvent (frame : Frame) : Response δ := .event (.pointCloud none (some frame))

def headerEvent (device : δ) : Response δ := .event (.pointCloud (some device) none)

/-- The messages that the client has read. -/
def consumed (client : Client δ π) : List (Response δ) :=
  match client.header with
  | none => []
  | some header? => .event (.pointCloud header? none) :: client.received.map frameEvent

/-- A file that is played, and what it is played with. -/
structure Setup (δ ι π : Type) where
  protocol : Protocol (Request π) (StreamEvent δ) Data Error
  pcProcessor : Option (π → Frame → Frame)
  subscription : π
  loopRecording : Bool
  coded : CodedInput ι
  wire : Wire δ ι
  file : List UInt8

/-- What is recorded in the file. -/
structure Recorded (δ : Type) where
  header : Header δ
  frames : List Frame
  footer? : Option Footer

def Recorded.datas (recorded : Recorded δ) : List Blickfeld.Data :=
  messages recorded.frames recorded.footer?

def Setup.Step (setup : Setup δ ι π) : Playback δ ι π → Action → Playback δ ι π → Prop :=
  Playback.Step setup.protocol setup.pcProcessor setup.loopRecording setup.coded setup.wire

/-- What is done to a frame of the recording before it is sent. -/
def Setup.onFrame (setup : Setup δ ι π) : Frame → Frame :=
  SimulatedConnection.onFrameOf setup.pcProcessor setup.subscription

/-- A client that has not subscribed yet. -/
def Setup.start (setup : Setup δ ι π) (server : SimulatedConnection δ ι) : Playback δ ι π where
  server := server
  client := { subscription := setup.subscription }

/-- A recording that can be played: its file can be read, its frames can be unpacked, the processor
leaves them unpacked, the messages that are sent can be conveyed, and there is a frame to begin with
again. -/
structure Setup.Playable (setup : Setup δ ι π) (inflate : List UInt8 → List UInt8)
    (Stands : ι → List UInt8 → Nat → Option Nat → Prop) (recorded : Recorded δ)
    (played : List Frame) : Prop where
  readable :
    Readable setup.coded inflate Stands setup.wire recorded.header recorded.datas setup.file
  ne_nil : setup.loopRecording → recorded.frames ≠ []
  converted : recorded.frames.map convertPointCloud = played.map Except.ok
  unpacked : ∀ processor ∈ setup.pcProcessor, ∀ frame, frame.packed? = none →
    (processor setup.subscription frame).packed? = none
  conveysRequest : setup.protocol.ConveysRequest (.subscribePointCloud setup.subscription)
  conveysHeader : setup.protocol.Conveys (headerEvent recorded.header.device)
  conveysFrame : ∀ frame ∈ played, setup.protocol.Conveys (frameEvent (setup.onFrame frame))

section Serving

variable (setup : Setup δ ι π) (Stands : ι → List UInt8 → Nat → Option Nat → Prop)
  (recorded : Recorded δ) (played : List Frame)

def startServer : SimulatedConnection δ ι where
  dumpStream := opened setup.coded setup.wire recorded.header recorded.datas setup.file {}

/-- The subscription has been answered, and `q` rounds and `k` frames have been read since. -/
structure Serving (w : Playback δ ι π) (inFlight : List (Response δ)) (q k : Nat) : Prop where
  subscribed : w.client.subscribed
  up : Carries w.up []
  down : Carries w.down (inFlight.map setup.protocol.serialize)
  replays : Replays Stands setup.wire recorded.header recorded.datas setup.file k
    w.server.dumpStream
  le : k ≤ recorded.frames.length
  running : ∀ onFrame ∈ w.server.onFrame, onFrame = setup.onFrame
  thrown : w.server.thrown = false
  unopened : w.client.header = none → w.client.received = []
  once : setup.loopRecording = false → q = 0
  sent : consumed w.client ++ inFlight ++ w.server.responseBuffer =
    headerEvent recorded.header.device :: (rounds played q k).map fun frame =>
      frameEvent (setup.onFrame frame)

inductive Phase (w : Playback δ ι π) : Prop
  | new (hclient : w.client = { subscription := setup.subscription })
      (hserver : w.server = startServer setup recorded)
      (hup : Carries w.up []) (hdown : Carries w.down [])
  | asked (hclient : w.client = { subscription := setup.subscription, subscribed := true })
      (hserver : w.server = startServer setup recorded)
      (hup : Carries w.up
        [setup.protocol.serializeRequest (.subscribePointCloud setup.subscription)])
      (hdown : Carries w.down [])
  | serving (inFlight : List (Response δ)) (q k : Nat)
      (h : Serving setup Stands recorded played w inFlight q k)

end Serving

section Steps

variable {setup : Setup δ ι π} {inflate : List UInt8 → List UInt8}
  {Stands : ι → List UInt8 → Nat → Option Nat → Prop} {recorded : Recorded δ} {played : List Frame}
  {w w' : Playback δ ι π} {inFlight : List (Response δ)} {q k : Nat}

theorem Setup.Playable.length_eq
    (hplay : setup.Playable inflate Stands recorded played) :
    played.length = recorded.frames.length := by
  simpa using (congrArg List.length hplay.converted).symm

theorem Setup.Playable.convert
    (hplay : setup.Playable inflate Stands recorded played)
    (hk : k < recorded.frames.length) (hk' : k < played.length) :
    convertPointCloud recorded.frames[k] = .ok played[k] := by
  have hget := congrArg (·[k]?) hplay.converted
  simpa [hk, hk'] using hget

theorem packed?_of_convertPointCloud {frame converted : Frame}
    (hconvert : convertPointCloud frame = .ok converted) : converted.packed? = none := by
  rw [convertPointCloud] at hconvert
  split at hconvert
  · next hpacked =>
      obtain rfl := Except.ok.inj hconvert
      exact hpacked
  · obtain ⟨cursor, -, hok⟩ := Fallible.bind_eq_ok.mp hconvert
    obtain rfl := Except.ok.inj hok
    rfl

theorem convertPointCloud_of_unpacked {frame : Frame} (hpacked : frame.packed? = none) :
    convertPointCloud frame = .ok frame := by
  rw [convertPointCloud, hpacked]

theorem mem_of_mem_rounds {frame : Frame} (hframe : frame ∈ rounds played q k) :
    frame ∈ played := by
  rcases List.mem_append.mp hframe with hframe | hframe
  · obtain ⟨round, hround, hframe⟩ := List.mem_flatten.mp hframe
    exact List.eq_of_mem_replicate hround ▸ hframe
  · exact List.mem_of_mem_take hframe

/-- The frames that are sent are unpacked, and the client leaves them as they are. -/
theorem Setup.Playable.convert_onFrameOf
    (hplay : setup.Playable inflate Stands recorded played) {frame : Frame}
    (hframe : frame ∈ played) :
    convertPointCloud (setup.onFrame frame) =
      .ok (setup.onFrame frame) := by
  have hok : Except.ok frame ∈ recorded.frames.map convertPointCloud := by
    rw [hplay.converted]
    exact List.mem_map_of_mem hframe
  obtain ⟨recorded, -, hconvert⟩ := List.mem_map.mp hok
  have hpacked := packed?_of_convertPointCloud hconvert
  apply convertPointCloud_of_unpacked
  rw [Setup.onFrame, SimulatedConnection.onFrameOf]
  cases hprocessor : setup.pcProcessor with
  | none => exact hpacked
  | some processor => exact hplay.unpacked processor hprocessor frame hpacked

/-- What is sent are the header and frames that were played. -/
theorem Serving.conveys
    (hplay : setup.Playable inflate Stands recorded played)
    (h : Serving setup Stands recorded played w inFlight q k) :
    (∀ resp ∈ inFlight, setup.protocol.Conveys resp) ∧
      ∀ resp ∈ w.server.responseBuffer, setup.protocol.Conveys resp := by
  have hall : ∀ resp ∈ consumed w.client ++ inFlight ++ w.server.responseBuffer,
      setup.protocol.Conveys resp := by
    rw [h.sent]
    intro resp hresp
    rcases List.mem_cons.mp hresp with rfl | hresp
    · exact hplay.conveysHeader
    · obtain ⟨frame, hframe, rfl⟩ := List.mem_map.mp hresp
      exact hplay.conveysFrame frame (mem_of_mem_rounds hframe)
  exact ⟨fun resp hresp => hall resp (by simp [hresp]),
    fun resp hresp => hall resp (by simp [hresp])⟩

/-- The dump thread puts a frame behind the others. -/
theorem Serving.push (h : Serving setup Stands recorded played w inFlight q k) {q' k' : Nat}
    {frame : Frame}
    {dumpStream : PointCloudStream δ ι Frame} (hq : setup.loopRecording = false → q' = 0)
    (hk : k' ≤ recorded.frames.length)
    (hrounds : rounds played q' k' = rounds played q k ++ [frame])
    (hreplays : Replays Stands setup.wire recorded.header recorded.datas setup.file k'
      dumpStream) :
    Serving setup Stands recorded played
      { w with server := { w.server with
        dumpStream
        responseBuffer := w.server.responseBuffer ++
          [frameEvent (setup.onFrame frame)] } }
      inFlight q' k' := by
  refine ⟨h.subscribed, h.up, h.down, hreplays, hk, h.running, h.thrown, h.unopened, hq, ?_⟩
  rw [hrounds, List.map_append, ← List.cons_append, ← h.sent, List.append_assoc]
  simp

theorem serving_dump (hplay : setup.Playable inflate Stands recorded played)
    (h : Serving setup Stands recorded played w inFlight q k)
    (hstep : setup.Step w .dump w') :
    ∃ q' k', Serving setup Stands recorded played w' inFlight q' k' := by
  have hlength := hplay.length_eq
  rw [Setup.Step, Playback.Step, Playback.step] at hstep
  split at hstep
  · exact absurd hstep (by simp)
  · next server hdump =>
      obtain rfl := Option.some_inj.mp hstep
      rw [SimulatedConnection.dump] at hdump
      cases honFrame : w.server.onFrame with
      | none =>
          rw [honFrame] at hdump
          exact absurd hdump (by simp)
      | some onFrame =>
          obtain rfl := h.running onFrame honFrame
          rcases Nat.lt_or_eq_of_le h.le with hk | rfl
          · have hk' : k < played.length := by omega
            obtain ⟨s', hnext, hreplays⟩ :=
              nextFrame_next hplay.readable h.replays hk (hplay.convert hk hk') setup.loopRecording
            simp only [honFrame, hnext] at hdump
            obtain rfl := Option.some_inj.mp hdump
            exact ⟨q, k + 1, honFrame ▸ h.push h.once hk (rounds_next hk' q) hreplays⟩
          · cases hloop : setup.loopRecording with
            | true =>
                have hpos : 0 < recorded.frames.length :=
                  List.length_pos_of_ne_nil (hplay.ne_nil hloop)
                have hpos' : 0 < played.length := by omega
                obtain ⟨s', hnext, hreplays⟩ :=
                  nextFrame_again hplay.readable h.replays hpos (hplay.convert hpos hpos')
                have hrounds := rounds_again hpos' q
                rw [hlength] at hrounds
                simp only [honFrame, hloop, hnext] at hdump
                obtain rfl := Option.some_inj.mp hdump
                exact ⟨q + 1, 1, honFrame ▸ h.push (by simp [hloop]) hpos hrounds hreplays⟩
            | false =>
                obtain ⟨s', hnext, hreplays⟩ := nextFrame_end hplay.readable h.replays
                simp only [honFrame, hloop, hnext] at hdump
                obtain rfl := Option.some_inj.mp hdump
                exact ⟨q, _, h.subscribed, h.up, h.down, hreplays, h.le, by simp,
                  h.thrown, h.unopened, h.once, h.sent⟩

theorem serving_doSend (hplay : setup.Playable inflate Stands recorded played)
    (h : Serving setup Stands recorded played w inFlight q k)
    (hstep : setup.Step w .doSend w') :
    ∃ inFlight', Serving setup Stands recorded played w' inFlight' q k := by
  rw [Setup.Step, Playback.Step, Playback.step, SimulatedConnection.recv] at hstep
  cases hbuffer : w.server.responseBuffer with
  | nil =>
      simp only [hbuffer] at hstep
      exact absurd hstep (by simp)
  | cons resp responseBuffer =>
      simp only [hbuffer] at hstep
      obtain rfl := Option.some_inj.mp hstep
      refine ⟨inFlight ++ [resp], h.subscribed, h.up, ?_, h.replays, h.le, h.running, h.thrown,
        h.unopened, h.once, ?_⟩
      · rw [List.map_append]
        exact h.down.write ((h.conveys hplay).2 resp (by simp [hbuffer])).length_lt
      · have hsent := h.sent
        rw [hbuffer] at hsent
        simpa using hsent

/-- The client reads the next message, which is an event. -/
theorem recv_event {resp : Response δ} (hconveys : ∀ resp ∈ inFlight, setup.protocol.Conveys resp)
    (hdown : Carries w.down (inFlight.map setup.protocol.serialize))
    (hrecv : w.recv setup.protocol = some (resp, w')) :
    ∃ rest conn down, inFlight = resp :: rest ∧
      w' = { w with down, client := { w.client with conn } } ∧
      Carries down (rest.map setup.protocol.serialize) := by
  rw [Playback.recv] at hrecv
  split at hrecv
  · exact absurd hrecv (by simp)
  · next bytes down hread =>
      obtain ⟨tail, hmap, hcarries⟩ := hdown.read hread
      obtain ⟨resp', rest, rfl, rfl, rfl⟩ := List.map_eq_cons_iff.mp hmap
      have houtcome := parseResponse_outcome (hconveys resp' (by simp)) w.client.conn
      split at hrecv
      · exact absurd hrecv (by simp)
      · next resp'' conn hparse =>
          obtain ⟨rfl, rfl⟩ := Prod.mk.inj (Option.some_inj.mp hrecv)
          rw [hparse] at houtcome
          obtain rfl : resp'' = resp' := by
            cases resp' <;> simp [outcomeOf] at houtcome <;> exact houtcome
          exact ⟨rest, conn, down, rfl, rfl, hcarries⟩

theorem serving_openStream (hplay : setup.Playable inflate Stands recorded played)
    (h : Serving setup Stands recorded played w inFlight q k)
    (hstep : setup.Step w .openStream w') :
    ∃ inFlight', Serving setup Stands recorded played w' inFlight' q k := by
  rw [Setup.Step, Playback.Step, Playback.step] at hstep
  split at hstep
  · next hclosed =>
      have hheader : w.client.header = none :=
        Option.isNone_iff_eq_none.mp (Bool.and_eq_true_iff.mp hclosed).2
      split at hstep
      · exact absurd hstep (by simp)
      · next resp mid hrecv =>
          obtain rfl := Option.some_inj.mp hstep
          obtain ⟨rest, conn, down, rfl, rfl, hcarries⟩ :=
            recv_event (h.conveys hplay).1 h.down hrecv
          have hsent := h.sent
          simp only [consumed, hheader, List.nil_append, List.cons_append] at hsent
          obtain ⟨rfl, hrest⟩ := List.cons.inj hsent
          refine ⟨rest, h.subscribed, h.up, hcarries, h.replays, h.le, h.running, h.thrown,
            fun hnone => absurd hnone (by simp), h.once, ?_⟩
          simp only [consumed, h.unopened hheader, List.map_nil, List.cons_append, List.nil_append,
            hrest]
          rfl
  · exact absurd hstep (by simp)

theorem serving_recvFrame (hplay : setup.Playable inflate Stands recorded played)
    (h : Serving setup Stands recorded played w inFlight q k)
    (hstep : setup.Step w .recvFrame w') :
    ∃ inFlight', Serving setup Stands recorded played w' inFlight' q k := by
  rw [Setup.Step, Playback.Step, Playback.step] at hstep
  split at hstep
  · next hopen =>
      obtain ⟨header?, hheader⟩ := Option.isSome_iff_exists.mp hopen
      split at hstep
      · exact absurd hstep (by simp)
      · next resp mid hrecv =>
          obtain ⟨rest, conn, down, rfl, rfl, hcarries⟩ :=
            recv_event (h.conveys hplay).1 h.down hrecv
          have hsent := h.sent
          simp only [consumed, hheader, List.cons_append] at hsent
          obtain ⟨-, hframes⟩ := List.cons.inj hsent
          obtain ⟨frame, hframe, rfl⟩ : ∃ frame ∈ rounds played q k,
              frameEvent (setup.onFrame frame) = resp :=
            List.mem_map.mp (hframes ▸ by simp)
          have hconvert := hplay.convert_onFrameOf (mem_of_mem_rounds hframe)
          simp only [event, frameEvent, StreamEvent.frame, Option.getD_some, hconvert] at hstep
          obtain rfl := Option.some_inj.mp hstep
          refine ⟨rest, h.subscribed, h.up, hcarries, h.replays, h.le, h.running, h.thrown,
            fun hnone => absurd (hheader.symm.trans hnone) (by simp), h.once, ?_⟩
          rw [← h.sent]
          simp [consumed, hheader, frameEvent]
  · exact absurd hstep (by simp)

theorem recv_eq_none (hdown : Carries w.down []) : w.recv setup.protocol = none := by
  rw [Playback.recv, hdown.read?_nil]

/-- Before there is a subscription only the client can do something. -/
theorem new_step {action : Action}
    (hplay : setup.Playable inflate Stands recorded played)
    (hclient : w.client = { subscription := setup.subscription })
    (hserver : w.server = startServer setup recorded)
    (hup : Carries w.up []) (hdown : Carries w.down [])
    (hstep : setup.Step w action w') :
    Phase setup Stands recorded played w' := by
  rw [Setup.Step, Playback.Step] at hstep
  cases action with
  | subscribe =>
      simp only [Playback.step, hclient, Bool.false_eq_true, if_false] at hstep
      obtain rfl := Option.some_inj.mp hstep
      exact .asked rfl hserver (hup.write hplay.conveysRequest.length_lt) hdown
  | arriveUp n =>
      obtain rfl := Option.some_inj.mp hstep
      exact .new hclient hserver (hup.deliver n) hdown
  | doRead =>
      simp only [Playback.step, hup.read?_nil] at hstep
      exact absurd hstep (by simp)
  | dump =>
      simp only [Playback.step, hserver, startServer, SimulatedConnection.dump] at hstep
      exact absurd hstep (by simp)
  | doSend =>
      simp only [Playback.step, hserver, startServer, SimulatedConnection.recv] at hstep
      exact absurd hstep (by simp)
  | arriveDown n =>
      obtain rfl := Option.some_inj.mp hstep
      exact .new hclient hserver hup (hdown.deliver n)
  | openStream | recvFrame =>
      simp only [Playback.step, hclient] at hstep
      exact absurd hstep (by simp)

/-- The subscription is on its way. -/
theorem asked_step {action : Action}
    (hplay : setup.Playable inflate Stands recorded played)
    (hclient : w.client = { subscription := setup.subscription, subscribed := true })
    (hserver : w.server = startServer setup recorded)
    (hup : Carries w.up [setup.protocol.serializeRequest (.subscribePointCloud setup.subscription)])
    (hdown : Carries w.down [])
    (hstep : setup.Step w action w') :
    Phase setup Stands recorded played w' := by
  rw [Setup.Step, Playback.Step] at hstep
  cases action with
  | subscribe =>
      simp only [Playback.step, hclient, if_true] at hstep
      exact absurd hstep (by simp)
  | arriveUp n =>
      obtain rfl := Option.some_inj.mp hstep
      exact .asked hclient hserver (hup.deliver n) hdown
  | doRead =>
      rw [Playback.step] at hstep
      split at hstep
      · exact absurd hstep (by simp)
      · next bytes up hread =>
          obtain ⟨rest, hall, hcarries⟩ := hup.read hread
          obtain ⟨rfl, rfl⟩ := List.cons.inj hall
          simp only [hplay.conveysRequest.parse, hserver] at hstep
          obtain rfl := Option.some_inj.mp hstep
          refine .serving [] 0 0 ⟨by rw [hclient], hcarries, hdown,
            hplay.readable.replays_opened ({} : Frame), Nat.zero_le _,
            fun _ h => (Option.some_inj.mp h).symm, rfl,
            fun _ => by rw [hclient], fun _ => rfl, ?_⟩
          simp [consumed, hclient, rounds, SimulatedConnection.send, startServer, opened,
            headerEvent]
  | dump =>
      simp only [Playback.step, hserver, startServer, SimulatedConnection.dump] at hstep
      exact absurd hstep (by simp)
  | doSend =>
      simp only [Playback.step, hserver, startServer, SimulatedConnection.recv] at hstep
      exact absurd hstep (by simp)
  | arriveDown n =>
      obtain rfl := Option.some_inj.mp hstep
      exact .asked hclient hserver hup (hdown.deliver n)
  | openStream =>
      simp only [Playback.step, recv_eq_none hdown] at hstep
      exact absurd hstep (by simp)
  | recvFrame =>
      simp only [Playback.step, hclient] at hstep
      exact absurd hstep (by simp)

theorem serving_step {action : Action}
    (hplay : setup.Playable inflate Stands recorded played)
    (h : Serving setup Stands recorded played w inFlight q k)
    (hstep : setup.Step w action w') :
    ∃ inFlight' q' k', Serving setup Stands recorded played w' inFlight' q' k' := by
  cases action with
  | subscribe =>
      rw [Setup.Step, Playback.Step, Playback.step, if_pos h.subscribed] at hstep
      exact absurd hstep (by simp)
  | arriveUp n =>
      obtain rfl := Option.some_inj.mp hstep
      exact ⟨_, _, _, h.subscribed, h.up.deliver n, h.down, h.replays, h.le, h.running, h.thrown,
        h.unopened, h.once, h.sent⟩
  | doRead =>
      rw [Setup.Step, Playback.Step, Playback.step, h.up.read?_nil] at hstep
      exact absurd hstep (by simp)
  | dump => exact ⟨_, serving_dump hplay h hstep⟩
  | doSend =>
      obtain ⟨inFlight', h'⟩ := serving_doSend hplay h hstep
      exact ⟨_, _, _, h'⟩
  | arriveDown n =>
      obtain rfl := Option.some_inj.mp hstep
      exact ⟨_, _, _, h.subscribed, h.up, h.down.deliver n, h.replays, h.le, h.running, h.thrown,
        h.unopened, h.once, h.sent⟩
  | openStream =>
      obtain ⟨inFlight', h'⟩ := serving_openStream hplay h hstep
      exact ⟨_, _, _, h'⟩
  | recvFrame =>
      obtain ⟨inFlight', h'⟩ := serving_recvFrame hplay h hstep
      exact ⟨_, _, _, h'⟩

theorem phase_step (hplay : setup.Playable inflate Stands recorded played)
    {action : Action}
    (h : Phase setup Stands recorded played w)
    (hstep : setup.Step w action w') :
    Phase setup Stands recorded played w' := by
  cases h with
  | new hclient hserver hup hdown => exact new_step hplay hclient hserver hup hdown hstep
  | asked hclient hserver hup hdown => exact asked_step hplay hclient hserver hup hdown hstep
  | serving inFlight q k h =>
      obtain ⟨inFlight', q', k', h'⟩ := serving_step hplay h hstep
      exact .serving inFlight' q' k' h'

/-- What a client has received was played. -/
theorem Serving.received (h : Serving setup Stands recorded played w inFlight q k) :
    w.client.received <+: (rounds played q k).map
      (setup.onFrame) ∧
    ∀ header? ∈ w.client.header, header? = some recorded.header.device := by
  have hsent := h.sent
  rw [consumed] at hsent
  split at hsent
  · next hnone =>
      rw [h.unopened hnone, hnone]
      exact ⟨List.nil_prefix, by simp⟩
  · next header? hsome =>
      obtain ⟨hheader, hframes⟩ := List.cons.inj hsent
      refine ⟨?_, fun other hother => ?_⟩
      · -- a frame is got back from its event
        have hprefix : w.client.received.map frameEvent <+: (rounds played q k).map fun frame =>
            frameEvent (setup.onFrame frame) :=
          ⟨inFlight ++ w.server.responseBuffer, (List.append_assoc _ _ _).symm.trans hframes⟩
        simpa [Function.comp_def, event, frameEvent, StreamEvent.frame] using
          hprefix.map fun resp : Response δ => (event resp).frame
      · obtain rfl := Option.some_inj.mp (hsome.symm.trans hother)
        simpa [headerEvent] using hheader

theorem Setup.Playable.new_eq (hplay : setup.Playable inflate Stands recorded played) :
    SimulatedConnection.new setup.coded setup.wire setup.file =
      .ok (startServer setup recorded) := by
  rw [SimulatedConnection.new, hplay.readable.open_eq]
  rfl

/-- **The client receives the recording.** The file is opened, and in every run the client's header
is that of the recording, and the frames it received are a prefix of the recorded ones, unpacked and
processed, which repeat if the recording loops; the server does not throw. -/
theorem playback_received (hplay : setup.Playable inflate Stands recorded played) :
    ∃ server, SimulatedConnection.new setup.coded setup.wire setup.file = .ok server ∧
      ∀ actions w, Exec setup.Step (setup.start server) actions w →
        w.server.thrown = false ∧
        (∀ header? ∈ w.client.header, header? = some recorded.header.device) ∧
        ∃ rounds, (setup.loopRecording = false → rounds = 1) ∧
          w.client.received <+: ((List.replicate rounds played).flatten).map setup.onFrame := by
  refine ⟨_, hplay.new_eq, fun actions w hrun => ?_⟩
  have hphase : Phase setup Stands recorded played w :=
    hrun.invariant (.new rfl rfl carries_nil carries_nil) fun _ _ _ h hstep =>
      phase_step hplay h hstep
  cases hphase with
  | new hclient hserver | asked hclient hserver =>
      rw [hclient, hserver]
      exact ⟨rfl, by simp, 1, fun _ => rfl, List.nil_prefix⟩
  | serving inFlight q k h =>
      refine ⟨h.thrown, h.received.2, q + 1, fun honce => by rw [h.once honce], ?_⟩
      exact h.received.1.trans ((prefix_rounds played q k).map _)

end Steps

/-! The recording that `sampleFile` holds, played again and again by a processor that leaves out the
number of returns. The responses are serialized as protobuf does. -/

def sampleProcessor (_ : Unit) (frame : Frame) : Frame :=
  { frame with totalNumberOfReturns? := none }

def sampleResponses : List (Response Unit × List UInt8) :=
  [(headerEvent (), [0x92, 0x01, 0x04, 0x5A, 0x02, 0x1A, 0x00]),
    (frameEvent (sampleProcessor () unpackedSample),
      [0x92, 0x01, 0x1A, 0x5A, 0x18, 0x0A, 0x16, 0x08, 0x01, 0x12, 0x12, 0x1A, 0x10, 0x12, 0x0E,
        0x12, 0x0C, 0x00, 0x00, 0x80, 0x3F, 0x00, 0x00, 0x00, 0x40, 0x00, 0x00, 0x40, 0x40]),
    (frameEvent emptySample, [0x92, 0x01, 0x06, 0x5A, 0x04, 0x0A, 0x02, 0x08, 0x02])]

def sampleProtocol : Protocol (Request Unit) (StreamEvent Unit) Data Error where
  serializeRequest req :=
    if req = .subscribePointCloud () then [0x92, 0x01, 0x02, 0x5A, 0x00] else []
  parseRequest bytes :=
    if bytes = [0x92, 0x01, 0x02, 0x5A, 0x00] then some (.subscribePointCloud ()) else none
  serialize resp := ((sampleResponses.find? fun sample => sample.1 = resp).map Prod.snd).getD []
  parse bytes := (sampleResponses.find? fun sample => sample.2 = bytes).map Prod.fst
  dataCase := StreamEvent.dataCase

def sampleSetup : Setup Unit Input Unit where
  protocol := sampleProtocol
  pcProcessor := some sampleProcessor
  subscription := ()
  loopRecording := true
  coded := Input.coded sampleInflate
  wire := sampleWire
  file := sampleFile

def sampleRecorded : Recorded Unit where
  header := sampleHeader
  frames := [packedSample, emptySample]
  footer? := some sampleFooter

theorem playable_sample :
    sampleSetup.Playable sampleInflate Input.Stands sampleRecorded
      [unpackedSample, emptySample] where
  readable := {
    documented := Input.coded_documented sampleInflate
    faithful := sampleWire_faithful ⟨[], rfl⟩
    content := by decide
    room := by decide }
  ne_nil _ := by simp [sampleRecorded]
  converted := by decide
  unpacked := by
    intro processor hprocessor frame hpacked
    obtain rfl := Option.some_inj.mp hprocessor
    exact hpacked
  conveysRequest := ⟨rfl, by decide⟩
  conveysHeader := ⟨by decide, by decide⟩
  conveysFrame := by
    intro frame hframe
    obtain rfl | rfl : frame = _ ∨ frame = _ := by simpa using hframe
    · exact ⟨by decide, by decide⟩
    · exact ⟨by decide, by decide⟩

def sampleActions : List Action :=
  [.subscribe, .arriveUp 9, .doRead, .dump, .doSend, .dump, .doSend, .dump, .doSend, .doSend,
    .arriveDown 100, .openStream, .recvFrame, .recvFrame, .recvFrame]

theorem playback_received_sample :
    ∃ server, SimulatedConnection.new sampleSetup.coded sampleSetup.wire sampleSetup.file =
        .ok server ∧
      ∃ w, Exec sampleSetup.Step (sampleSetup.start server) sampleActions w ∧
        w.client.received = [unpackedSample, emptySample, unpackedSample].map sampleSetup.onFrame ∧
        w.server.thrown = false ∧
        (∀ header? ∈ w.client.header, header? = some sampleRecorded.header.device) ∧
        ∃ rounds, (sampleSetup.loopRecording = false → rounds = 1) ∧
          w.client.received <+:
            ((List.replicate rounds [unpackedSample, emptySample]).flatten).map
              sampleSetup.onFrame := by
  obtain ⟨server, hnew, hreceived⟩ := playback_received playable_sample
  obtain rfl := Except.ok.inj (playable_sample.new_eq.symm.trans hnew)
  have hrun := (Exec.nil : Exec (Guarded sampleSetup.Step fun _ _ => True)
      (sampleSetup.start (startServer sampleSetup sampleRecorded)) [] _)
    |>.andThen .subscribe rfl trivial |>.andThen (.arriveUp 9) rfl trivial
    |>.andThen .doRead rfl trivial |>.andThen .dump rfl trivial |>.andThen .doSend rfl trivial
    |>.andThen .dump rfl trivial |>.andThen .doSend rfl trivial |>.andThen .dump rfl trivial
    |>.andThen .doSend rfl trivial |>.andThen .doSend rfl trivial
    |>.andThen (.arriveDown 100) rfl trivial |>.andThen .openStream rfl trivial
    |>.andThen .recvFrame rfl trivial |>.andThen .recvFrame rfl trivial
    |>.andThen .recvFrame rfl trivial
  exact ⟨_, hnew, _, hrun.unguarded, rfl, hreceived _ _ hrun.unguarded⟩

end Ilumo.Blickfeld.Mockup
