import Ilumo.Lib.Machine
import Ilumo.Lib.Pipe

/-!
# The connection to a scanner

`scanner_connection` with a scanner at the other end. A request goes out behind its length, and
`recv` waits for the answer: before `async_run` it reads the next message itself, afterwards
`async_recv` reads one message after another, calls back for the events and leaves everything else
in `async_received`. The scanner answers one request after another and may send events at any time.
The serialization of the messages is a parameter; timeouts and broken sockets are left out.
-/

namespace Ilumo.Blickfeld.Connection

inductive DataCase where
  | pointCloud
  | status
  | developer
  | rawFile
  | endOfStream
  | imu
  deriving DecidableEq, Repr

/-- `protocol::Response` by its `data_case`, with the errors `ω` and the data of all the other
answers `ρ`. -/
inductive Response (ε ρ ω : Type) where
  | notSet
  | error (error : ω)
  | event (event : ε)
  | data (data : ρ)
  deriving DecidableEq, Repr

/-- `protocol_exception` of a typed error, or the unknown one that any other exception becomes. -/
inductive Exception (ω : Type) where
  | typed (error : ω)
  | unknown (description : String)
  deriving DecidableEq, Repr

variable {θ ε ρ ω : Type}

def Response.isSet : Response ε ρ ω → Bool
  | .notSet => false
  | _ => true

/-- Requests `θ` and responses as bytes, and which part of an event is set. -/
structure Protocol (θ ε ρ ω : Type) where
  serializeRequest : θ → List UInt8
  parseRequest : List UInt8 → Option θ
  serialize : Response ε ρ ω → List UInt8
  parse : List UInt8 → Option (Response ε ρ ω)
  dataCase : ε → Option DataCase

/-- The event of a response if it has data, which is what callbacks are called for. -/
def Protocol.event? (protocol : Protocol θ ε ρ ω) : Response ε ρ ω → Option (ε × DataCase)
  | .event event => (protocol.dataCase event).map (event, ·)
  | _ => none

/-! ### The client -/

/-- `called` is the history of the callbacks that were called; `reading` says that a read of
`async_recv` is pending. -/
structure ScannerConnection (ε ρ ω : Type) where
  asyncReadActive : Bool := false
  reading : Bool := false
  asyncReceived : Response ε ρ ω := .notSet
  eventCallbacks : DataCase → List Nat := fun _ => []
  called : List (ε × List Nat) := []

namespace ScannerConnection

variable (protocol : Protocol θ ε ρ ω)

def subscribe (conn : ScannerConnection ε ρ ω) (eventId : DataCase) (callback : Nat) :
    ScannerConnection ε ρ ω :=
  { conn with eventCallbacks := fun case =>
      if case = eventId then conn.eventCallbacks case ++ [callback] else conn.eventCallbacks case }

def asyncRun (conn : ScannerConnection ε ρ ω) : ScannerConnection ε ρ ω :=
  if conn.asyncReadActive then conn else { conn with asyncReadActive := true, reading := true }

def parseResponse (conn : ScannerConnection ε ρ ω) (bytes : List UInt8) :
    Except (Exception ω) (Response ε ρ ω) × ScannerConnection ε ρ ω :=
  match protocol.parse bytes with
  | none => (.error (.unknown "Message parse failed."), conn)
  | some (.error error) => (.error (.typed error), conn)
  | some resp =>
      match protocol.event? resp with
      | some (event, case) =>
          (.ok resp, { conn with called := conn.called ++ [(event, conn.eventCallbacks case)] })
      | none =>
          (.ok resp, if conn.asyncReadActive then { conn with asyncReceived := resp } else conn)

end ScannerConnection

/-! ### The client and the scanner -/

abbrev Outcome (ε ρ ω : Type) := Except (Exception ω) (Response ε ρ ω)

/-- `waiting` is the request that `recv` is waiting for an answer to. The last four fields are
history: the requests the scanner answered and those `send_request` returned or threw for, the
events the scanner sent, and the exceptions that left `async_run_blocking`. -/
structure World (θ ε ρ ω : Type) where
  conn : ScannerConnection ε ρ ω := {}
  up : Pipe := {}
  down : Pipe := {}
  waiting : Option θ := none
  served : List (θ × Response ε ρ ω) := []
  answered : List (θ × Outcome ε ρ ω) := []
  sent : List ε := []
  escaped : List (Exception ω) := []

/-- `poll` is the completion of an asynchronous read, which runs in `recv` or in another thread: that
is where an exception goes. -/
inductive Action (θ ε ρ ω : Type) where
  | subscribe (eventId : DataCase) (callback : Nat)
  | asyncRun
  | request (req : θ)
  | arriveUp (n : Nat)
  | serve (resp : Response ε ρ ω)
  | emit (event : ε)
  | arriveDown (n : Nat)
  | recv
  | poll (inRecv : Bool)
  | take
  deriving DecidableEq, Repr

namespace World

variable (protocol : Protocol θ ε ρ ω)

def write (w : World θ ε ρ ω) (resp : Response ε ρ ω) : World θ ε ρ ω :=
  { w with
    down := w.down.write (protocol.serialize resp)
    sent := w.sent ++ (protocol.event? resp).toList.map Prod.fst }

def finish (w : World θ ε ρ ω) (req : θ) (outcome : Outcome ε ρ ω) : World θ ε ρ ω :=
  { w with waiting := none, answered := w.answered ++ [(req, outcome)] }

/-- The read of a message by `async_recv`, which reads on only if nothing was thrown. -/
def completeRead (w : World θ ε ρ ω) (inRecv : Bool) (bytes : List UInt8) :
    Option (World θ ε ρ ω) :=
  match w.conn.parseResponse protocol bytes with
  | (.ok _, conn) => some { w with conn }
  | (.error e, conn) =>
      let w := { w with conn := { conn with reading := false } }
      if inRecv then w.waiting.map fun req => w.finish req (.error e)
      else some { w with escaped := w.escaped ++ [e] }

def step (w : World θ ε ρ ω) : Action θ ε ρ ω → Option (World θ ε ρ ω)
  | .subscribe eventId callback => some { w with conn := w.conn.subscribe eventId callback }
  | .asyncRun => if w.waiting.isNone then some { w with conn := w.conn.asyncRun } else none
  | .request req =>
      if w.waiting.isNone then
        some { w with up := w.up.write (protocol.serializeRequest req), waiting := some req }
      else none
  | .arriveUp n => some { w with up := w.up.deliver n }
  | .serve resp =>
      match w.up.read? with
      | none => none
      | some (bytes, up) =>
          match protocol.parseRequest bytes with
          | none => none
          | some req => some ({ w with up, served := w.served ++ [(req, resp)] }.write protocol resp)
  | .emit event => some (w.write protocol (.event event))
  | .arriveDown n => some { w with down := w.down.deliver n }
  | .recv =>
      if w.conn.asyncReadActive then none
      else
        match w.waiting, w.down.read? with
        | some req, some (bytes, down) =>
            match w.conn.parseResponse protocol bytes with
            | (outcome, conn) => some ({ w with conn, down }.finish req outcome)
        | _, _ => none
  | .poll inRecv =>
      if w.conn.asyncReadActive && w.conn.reading then
        match w.down.read? with
        | some (bytes, down) => { w with down }.completeRead protocol inRecv bytes
        | none => none
      else none
  | .take =>
      match w.waiting with
      | some req =>
          if w.conn.asyncReadActive && w.conn.asyncReceived.isSet then
            some ({ w with conn := { w.conn with asyncReceived := .notSet } }.finish req
              (.ok w.conn.asyncReceived))
          else none
      | none => none

/-- The steps of the machine. -/
def Step (w : World θ ε ρ ω) (action : Action θ ε ρ ω) (w' : World θ ε ρ ω) : Prop :=
  w.step protocol action = some w'

end World

end Ilumo.Blickfeld.Connection
