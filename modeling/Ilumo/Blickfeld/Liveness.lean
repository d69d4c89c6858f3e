import Ilumo.Blickfeld.Answers

/-!
# Which answers come

With `async_run`, an answer that is an event goes to the callbacks and never to the caller, and an
error is the last message that is read at all. Any other answer can still come, whatever the
schedule was so far.
-/

namespace Ilumo.Blickfeld.Connection

open Machine Pipe

variable {θ ε ρ ω : Type} {protocol : Protocol θ ε ρ ω} {w w' w'' : World θ ε ρ ω}
  {actions rest : List (Action θ ε ρ ω)}

theorem completeRead_event {resp : Response ε ρ ω} {event : ε} {case : DataCase}
    (hresp : protocol.Conveys resp) (hevent : protocol.event? resp = some (event, case))
    (w : World θ ε ρ ω) (inRecv : Bool) :
    w.completeRead protocol inRecv (protocol.serialize resp) = some { w with conn := { w.conn with
      called := w.conn.called ++ [(event, w.conn.eventCallbacks case)] } } := by
  rw [World.completeRead]
  rcases parseResponse_cases hresp w.conn with
    ⟨event', case', hevent', hparse⟩ | ⟨error, rfl, -⟩ | ⟨hnone, -⟩
  · obtain ⟨rfl, rfl⟩ := Prod.mk.inj (Option.some_inj.mp (hevent.symm.trans hevent'))
    rw [hparse]
  · exact absurd hevent (by simp [Protocol.event?])
  · exact absurd (hevent.symm.trans hnone) (by simp)

/-! ### An answer that is an event -/

/-- A request is outstanding, but nothing that could answer it is on its way. -/
structure Lost (protocol : Protocol θ ε ρ ω) (w : World θ ε ρ ω) (req : θ)
    (inFlight : List (Response ε ρ ω)) : Prop where
  waiting : w.waiting = some req
  mode : w.conn.asyncReadActive
  mailbox : w.conn.asyncReceived = .notSet
  up : Carries w.up []
  conveys : ∀ resp ∈ inFlight, protocol.Conveys resp
  down : Carries w.down (inFlight.map protocol.serialize)
  events : protocol.Events inFlight

/-- The scanner answers with an event. -/
theorem lost_serve {event : ε} (hrun : OrderlyRun protocol {} actions w) (hasync : w.conn.asyncReadActive)
    (hdata : (protocol.dataCase event).isSome) (hevent : protocol.Conveys (.event event))
    (hstep : w.Step protocol (.serve (.event event)) w') :
    ∃ req inFlight, Lost protocol w' req inFlight := by
  obtain ⟨requests, inFlight, hinv⟩ := exists_inv hrun
  have hinv' := inv_serve hinv hevent hstep
  rw [World.Step, World.step] at hstep
  split at hstep
  · exact absurd hstep (by simp)
  · next bytes up hread =>
      obtain ⟨tail, hmap, -⟩ := hinv.up.read hread
      obtain ⟨req, requests, rfl, rfl, rfl⟩ := List.map_eq_cons_iff.mp hmap
      simp only [(hinv.conveysRequest req (by simp)).parse, Option.some_inj] at hstep
      subst hstep
      have hturn := hinv.turn
      cases hturn with
      | asked hwaiting hevents hmailbox =>
          refine ⟨req, _, hwaiting, hasync, hmailbox, hinv'.up, hinv'.conveys, hinv'.down,
            hevents.append ?_⟩
          intro resp hresp
          obtain rfl := List.mem_singleton.mp hresp
          obtain ⟨case, hcase⟩ := Option.isSome_iff_exists.mp hdata
          rw [Protocol.event?, hcase]
          rfl

theorem lost_step {action : Action θ ε ρ ω} {req : θ} {inFlight : List (Response ε ρ ω)}
    (h : Lost protocol w req inFlight)
    (horderly : Orderly protocol w action) (hstep : w.Step protocol action w') :
    w'.answered = w.answered ∧ ∃ inFlight', Lost protocol w' req inFlight' := by
  cases action with
  | subscribe eventId callback =>
      obtain rfl := Option.some_inj.mp hstep
      exact ⟨rfl, _, h.waiting, h.mode, h.mailbox, h.up, h.conveys, h.down, h.events⟩
  | asyncRun | request req =>
      rw [World.Step, World.step, h.waiting] at hstep
      exact absurd hstep (by simp)
  | arriveUp n =>
      obtain rfl := Option.some_inj.mp hstep
      exact ⟨rfl, _, h.waiting, h.mode, h.mailbox, h.up.deliver n, h.conveys, h.down, h.events⟩
  | serve resp =>
      rw [World.Step, World.step, h.up.read?_nil] at hstep
      exact absurd hstep (by simp)
  | emit event =>
      obtain rfl := Option.some_inj.mp hstep
      refine ⟨rfl, inFlight ++ [.event event], h.waiting, h.mode, h.mailbox, h.up,
        forall_mem_concat h.conveys horderly.1, ?_, h.events.append ?_⟩
      · rw [List.map_append]
        exact h.down.write horderly.1.length_lt
      · intro resp hresp
        obtain rfl := List.mem_singleton.mp hresp
        obtain ⟨case, hcase⟩ := Option.isSome_iff_exists.mp horderly.2.1
        rw [Protocol.event?, hcase]
        rfl
  | arriveDown n =>
      obtain rfl := Option.some_inj.mp hstep
      exact ⟨rfl, _, h.waiting, h.mode, h.mailbox, h.up, h.conveys, h.down.deliver n, h.events⟩
  | recv =>
      rw [World.Step, World.step, if_pos h.mode] at hstep
      exact absurd hstep (by simp)
  | poll inRecv =>
      rw [World.Step, World.step] at hstep
      split at hstep
      · split at hstep
        · next bytes down hread =>
            obtain ⟨tail, hmap, hcarries⟩ := h.down.read hread
            obtain ⟨resp, inFlight, rfl, rfl, rfl⟩ := List.map_eq_cons_iff.mp hmap
            obtain ⟨⟨event, case⟩, hevent⟩ :=
              Option.isSome_iff_exists.mp (h.events resp (by simp))
            simp only [completeRead_event (h.conveys resp (by simp)) hevent] at hstep
            obtain rfl := Option.some_inj.mp hstep
            exact ⟨rfl, inFlight, h.waiting, h.mode, h.mailbox, h.up,
              fun other hother => h.conveys other (by simp [hother]), hcarries,
              fun other hother => h.events other (by simp [hother])⟩
        · exact absurd hstep (by simp)
      · exact absurd hstep (by simp)
  | take =>
      rw [World.Step, World.step, h.waiting] at hstep
      simp only [h.mailbox, Response.isSet, Bool.and_false] at hstep
      exact absurd hstep (by simp)

theorem Lost.run {req : θ} {inFlight : List (Response ε ρ ω)}
    (h : Lost protocol w req inFlight) (hrun : OrderlyRun protocol w rest w') :
    w'.answered = w.answered ∧ ∃ inFlight', Lost protocol w' req inFlight' := by
  induction hrun with
  | nil => exact ⟨rfl, inFlight, h⟩
  | snoc _ hstep ih =>
      obtain ⟨hanswered, inFlight', hlost⟩ := ih
      obtain ⟨hanswered', hlost'⟩ := lost_step hlost hstep.2 hstep.1
      exact ⟨hanswered'.trans hanswered, hlost'⟩

/-- **A request that is answered by an event is never answered.** `send_request` neither returns nor
throws in any orderly run from there. -/
theorem event_answer_lost {event : ε} (hrun : OrderlyRun protocol {} actions w)
    (hasync : w.conn.asyncReadActive) (hdata : (protocol.dataCase event).isSome)
    (hevent : protocol.Conveys (.event event))
    (hserve : w.Step protocol (.serve (.event event)) w')
    (hrest : OrderlyRun protocol w' rest w'') :
    w''.answered = w'.answered ∧ w''.waiting.isSome := by
  obtain ⟨req, inFlight, hlost⟩ := lost_serve hrun hasync hdata hevent hserve
  obtain ⟨hanswered, inFlight', hlost'⟩ := hlost.run hrest
  exact ⟨hanswered, Option.isSome_iff_exists.mpr ⟨req, hlost'.waiting⟩⟩

/-- The world some actions lead to. -/
def statusWorld (actions : List (Action Unit Unit Unit Unit)) : World Unit Unit Unit Unit :=
  actions.foldl (fun w action => (w.step statusProtocol action).getD w) {}

theorem event_answer_lost_status : ∃ w w' w'',
    OrderlyRun statusProtocol {} [.asyncRun, .request (), .arriveUp 7] w ∧
    w.Step statusProtocol (.serve (.event ())) w' ∧
    OrderlyRun statusProtocol w' [.arriveDown 9, .poll true] w'' ∧
    w''.answered = w'.answered ∧ w''.waiting.isSome := by
  have hrun := (Exec.nil : OrderlyRun statusProtocol {} [] {}).andThen .asyncRun rfl trivial
    |>.andThen (.request ()) rfl ⟨conveysRequest_status, .inl rfl⟩ |>.andThen (.arriveUp 7) rfl trivial
  have hserve : (statusWorld [.asyncRun, .request (), .arriveUp 7]).Step statusProtocol
      (.serve (.event ()))
      (statusWorld [.asyncRun, .request (), .arriveUp 7, .serve (.event ())]) := rfl
  have hrest := (Exec.nil : OrderlyRun statusProtocol
      (statusWorld [.asyncRun, .request (), .arriveUp 7, .serve (.event ())]) [] _).andThen
    (.arriveDown 9) rfl trivial |>.andThen (.poll true) rfl trivial
  exact ⟨_, _, _, hrun, hserve, hrest,
    event_answer_lost hrun rfl rfl (conveys_status _) hserve hrest⟩

/-! ### An error -/

/-- Nothing is read any more. -/
structure Silent (conn : ScannerConnection ε ρ ω) : Prop where
  mode : conn.asyncReadActive
  reading : conn.reading = false
  mailbox : conn.asyncReceived = .notSet

theorem silent_step {action : Action θ ε ρ ω} (h : Silent w.conn) (hstep : w.Step protocol action w') :
    w'.answered = w.answered ∧ w'.conn.called = w.conn.called ∧ Silent w'.conn := by
  rw [World.Step] at hstep
  cases action with
  | subscribe eventId callback =>
      obtain rfl := Option.some_inj.mp hstep
      exact ⟨rfl, rfl, h.mode, h.reading, h.mailbox⟩
  | asyncRun =>
      rw [World.step, ScannerConnection.asyncRun, if_pos h.mode] at hstep
      split at hstep
      · obtain rfl := Option.some_inj.mp hstep
        exact ⟨rfl, rfl, h⟩
      · exact absurd hstep (by simp)
  | request req =>
      rw [World.step] at hstep
      split at hstep
      · obtain rfl := Option.some_inj.mp hstep
        exact ⟨rfl, rfl, h⟩
      · exact absurd hstep (by simp)
  | serve resp =>
      rw [World.step] at hstep
      split at hstep
      · exact absurd hstep (by simp)
      · split at hstep
        · exact absurd hstep (by simp)
        · obtain rfl := Option.some_inj.mp hstep
          exact ⟨rfl, rfl, h⟩
  | emit event | arriveUp n | arriveDown n =>
      obtain rfl := Option.some_inj.mp hstep
      exact ⟨rfl, rfl, h⟩
  | recv =>
      rw [World.step, if_pos h.mode] at hstep
      exact absurd hstep (by simp)
  | poll inRecv =>
      rw [World.step, h.reading, Bool.and_false] at hstep
      exact absurd hstep (by simp)
  | take =>
      rw [World.step, h.mailbox] at hstep
      split at hstep
      · simp only [Response.isSet, Bool.and_false] at hstep
        exact absurd hstep (by simp)
      · exact absurd hstep (by simp)

/-- A read that threw was of an answer. -/
theorem silent_poll {inRecv : Bool} (hrun : OrderlyRun protocol {} actions w) (hstep : w.Step protocol (.poll inRecv) w')
    (hthrown : w'.conn.reading = false) : Silent w'.conn := by
  obtain ⟨requests, inFlight, hinv⟩ := exists_inv hrun
  rw [World.Step, World.step] at hstep
  split at hstep
  · next hmode =>
      obtain ⟨hasync, hreading⟩ := Bool.and_eq_true_iff.mp hmode
      split at hstep
      · next bytes down hread =>
          obtain ⟨resp, inFlight, rfl, rfl, hresp, -⟩ := hinv.read hread
          rw [World.completeRead] at hstep
          rcases parseResponse_cases hresp w.conn with
            ⟨event, case, -, hparse⟩ | ⟨error, rfl, hparse⟩ | ⟨-, -, hparse⟩
          · rw [hparse] at hstep
            obtain rfl := Option.some_inj.mp hstep
            exact absurd (hreading.symm.trans hthrown) (by simp)
          · obtain ⟨event, case, hevent, -⟩ | ⟨req, front, -, hwaiting, -, hmailbox, -⟩ :=
              hinv.turn.head
            · exact absurd hevent (by simp [Protocol.event?])
            · simp only [hparse, hwaiting] at hstep
              split at hstep <;> obtain rfl := Option.some_inj.mp hstep <;>
                exact ⟨hasync, rfl, hmailbox⟩
          · rw [hparse, if_pos hasync] at hstep
            obtain rfl := Option.some_inj.mp hstep
            exact absurd (hreading.symm.trans hthrown) (by simp)
      · exact absurd hstep (by simp)
  · exact absurd hstep (by simp)

/-- **An error ends the reading.** When `async_recv` has thrown for a message no callback is called
any more, and no request answered, whatever the scanner sends. -/
theorem error_ends_reading {inRecv : Bool} (hrun : OrderlyRun protocol {} actions w)
    (hpoll : w.Step protocol (.poll inRecv) w')
    (hthrown : w'.conn.reading = false) (hrest : Exec (World.Step protocol) w' rest w'') :
    w''.answered = w'.answered ∧ w''.conn.called = w'.conn.called := by
  have hsilent := silent_poll hrun hpoll hthrown
  suffices h : w''.answered = w'.answered ∧ w''.conn.called = w'.conn.called ∧ Silent w''.conn from
    ⟨h.1, h.2.1⟩
  induction hrest with
  | nil => exact ⟨rfl, rfl, hsilent⟩
  | snoc _ hstep ih =>
      obtain ⟨hanswered, hcalled, h⟩ := ih
      obtain ⟨hanswered', hcalled', h'⟩ := silent_step h hstep
      exact ⟨hanswered'.trans hanswered, hcalled'.trans hcalled, h'⟩

theorem error_ends_reading_status : ∃ w w' w'',
    OrderlyRun statusProtocol {}
      [.asyncRun, .request (), .arriveUp 7, .serve (.error ()), .arriveDown 8] w ∧
    w.Step statusProtocol (.poll true) w' ∧ w'.conn.reading = false ∧
    Exec (World.Step statusProtocol) w' [.emit (), .arriveDown 9] w'' ∧
    w''.answered = w'.answered ∧ w''.conn.called = w'.conn.called := by
  have hrun := (Exec.nil : OrderlyRun statusProtocol {} [] {}).andThen .asyncRun rfl trivial
    |>.andThen (.request ()) rfl ⟨conveysRequest_status, .inl rfl⟩ |>.andThen (.arriveUp 7) rfl trivial
    |>.andThen (.serve (.error ())) rfl (conveys_status _) |>.andThen (.arriveDown 8) rfl trivial
  have hpoll : (statusWorld
        [.asyncRun, .request (), .arriveUp 7, .serve (.error ()), .arriveDown 8]).Step
      statusProtocol (.poll true) (statusWorld
        [.asyncRun, .request (), .arriveUp 7, .serve (.error ()), .arriveDown 8, .poll true]) := rfl
  have hrest := (Exec.nil : OrderlyRun statusProtocol (statusWorld [.asyncRun, .request (),
      .arriveUp 7, .serve (.error ()), .arriveDown 8, .poll true]) [] _).andThen
    (.emit ()) rfl ⟨conveys_status _, rfl, .inl rfl⟩ |>.andThen (.arriveDown 9) rfl trivial
  exact ⟨_, _, _, hrun, hpoll, rfl, hrest.unguarded,
    error_ends_reading hrun hpoll rfl hrest.unguarded⟩

/-! ### Any other answer -/

/-- All that is on its way to a caller has arrived, and is going to be read. -/
structure Ready (protocol : Protocol θ ε ρ ω) (w : World θ ε ρ ω) (req : θ)
    (inFlight : List (Response ε ρ ω)) : Prop where
  waiting : w.waiting = some req
  mode : w.conn.asyncReadActive
  reading : w.conn.reading
  conveys : ∀ resp ∈ inFlight, protocol.Conveys resp
  down : Carries w.down (inFlight.map protocol.serialize)
  arrived : w.down.flight = []

variable {req : θ} {resp : Response ε ρ ω} {inFlight : List (Response ε ρ ω)}

theorem Ready.poll (h : Ready protocol w req (resp :: inFlight)) (inRecv : Bool) :
    ∃ down, w.step protocol (.poll inRecv) =
        { w with down }.completeRead protocol inRecv (protocol.serialize resp) ∧
      Carries down (inFlight.map protocol.serialize) ∧ down.flight = [] := by
  obtain ⟨down, hread, hflight⟩ := Carries.exists_read h.down h.arrived
  obtain ⟨tail, hmap, hcarries⟩ := Carries.read h.down hread
  obtain ⟨-, rfl⟩ := List.cons.inj hmap
  refine ⟨down, ?_, hcarries, hflight⟩
  rw [World.step, h.mode, h.reading, hread]
  rfl

/-- The events before an answer are read one by one. -/
theorem Ready.exists_run (hevents : protocol.Events inFlight)
    (h : Ready protocol w req (inFlight ++ [resp])) :
    ∃ rest w', OrderlyRun protocol w rest w' ∧ w'.answered = w.answered ∧
      Ready protocol w' req [resp] := by
  induction inFlight generalizing w with
  | nil => exact ⟨[], w, .nil, rfl, h⟩
  | cons first inFlight ih =>
      obtain ⟨⟨event, case⟩, hevent⟩ := Option.isSome_iff_exists.mp (hevents first (by simp))
      obtain ⟨down, hstep, hcarries, hflight⟩ := Ready.poll h false
      rw [completeRead_event (h.conveys first (by simp)) hevent] at hstep
      obtain ⟨rest, w', hrun, hanswered, hready⟩ :=
        ih (fun other hother => hevents other (by simp [hother]))
          (w := { w with down, conn := { w.conn with
            called := w.conn.called ++ [(event, w.conn.eventCallbacks case)] } })
          ⟨h.waiting, h.mode, h.reading, fun other hother => h.conveys other (by simp_all),
            hcarries, hflight⟩
      exact ⟨_, w', (Exec.nil.snoc ⟨hstep, trivial⟩).append hrun, hanswered, hready⟩

/-- The answer itself is thrown by `recv`, or taken out of `async_received`. -/
theorem Ready.exists_finish (hevent : protocol.event? resp = none)
    (hset : resp.isSet) (h : Ready protocol w req [resp]) :
    ∃ rest w', OrderlyRun protocol w rest w' ∧
      w'.answered = w.answered ++ [(req, outcomeOf resp)] ∧ w'.waiting = none := by
  obtain ⟨down, hstep, -⟩ := h.poll true
  have hresp := h.conveys resp (by simp)
  rw [World.completeRead] at hstep
  rcases parseResponse_cases hresp w.conn with
    ⟨event, case, hevent', -⟩ | ⟨error, rfl, hparse⟩ | ⟨-, houtcome, hparse⟩
  · exact absurd (hevent.symm.trans hevent') (by simp)
  · simp only [hparse, h.waiting, if_true, Option.map_some] at hstep
    exact ⟨_, _, Exec.nil.snoc ⟨hstep, trivial⟩, rfl, rfl⟩
  · rw [hparse, if_pos h.mode] at hstep
    have htake : World.step protocol
        { w with down, conn := { w.conn with asyncReceived := resp } } .take =
        some (World.finish { w with down, conn := { w.conn with asyncReceived := .notSet } } req
          (.ok resp)) := by
      simp only [World.step, h.waiting, h.mode, hset, Bool.and_self, if_true]
    refine ⟨_, _, (Exec.nil.snoc ⟨hstep, trivial⟩).snoc ⟨htake, trivial⟩, ?_, rfl⟩
    rw [houtcome]
    rfl

/-- Without `async_run` the answer is all that is on its way. -/
theorem exists_recv (hresp : protocol.Conveys resp) (hwaiting : w.waiting = some req)
    (hsync : ¬w.conn.asyncReadActive) (hdown : Carries w.down ([resp].map protocol.serialize))
    (harrived : w.down.flight = []) :
    ∃ w', w.Step protocol .recv w' ∧ w'.answered = w.answered ++ [(req, outcomeOf resp)] ∧
      w'.waiting = none := by
  obtain ⟨down, hread, -⟩ := Carries.exists_read hdown harrived
  have houtcome := parseResponse_outcome hresp w.conn
  refine ⟨World.finish { w with
      conn := (w.conn.parseResponse protocol (protocol.serialize resp)).2, down } req
      (w.conn.parseResponse protocol (protocol.serialize resp)).1,
    ?_, congrArg (fun outcome => w.answered ++ [(req, outcome)]) houtcome, rfl⟩
  rw [World.Step, World.step, if_neg hsync]
  simp only [hwaiting, hread]

/-- Requests arrive. -/
theorem exists_serve (hinv : Inv protocol w [req] inFlight) (hresp : protocol.Conveys resp) :
    ∃ w', OrderlyRun protocol w [.arriveUp w.up.flight.length, .serve resp] w' ∧
      Inv protocol w' [] (inFlight ++ [resp]) ∧ w'.conn = w.conn ∧ w'.waiting = w.waiting ∧
      w'.answered = w.answered := by
  have hflight : (w.up.deliver w.up.flight.length).flight = [] := List.drop_length
  obtain ⟨up, hread, -⟩ := Carries.exists_read (hinv.up.deliver w.up.flight.length) hflight
  have hinv' : Inv protocol { w with up := w.up.deliver w.up.flight.length } [req] inFlight :=
    ⟨hinv.conveysRequest, hinv.conveys, hinv.up.deliver _, hinv.down, hinv.sent, hinv.turn.congr rfl rfl rfl rfl id⟩
  have hserve : World.step protocol { w with up := w.up.deliver w.up.flight.length } (.serve resp) =
      some (World.write protocol { w with up, served := w.served ++ [(req, resp)] } resp) := by
    simp only [World.step, hread, (hinv.conveysRequest req (by simp)).parse]
  exact ⟨_, (Exec.nil.snoc ⟨rfl, trivial⟩).snoc ⟨hserve, hresp⟩, inv_serve hinv' hresp hserve,
    rfl, rfl, rfl⟩

/-- **No deadlock.** After any orderly run, a request that the scanner has not answered yet can
still be answered with whatever is not an event, as long as there was no exception. -/
theorem exists_answer (hrun : OrderlyRun protocol {} actions w)
    (hreading : w.conn.asyncReadActive → w.conn.reading) (hwaiting : w.waiting = some req)
    (hpending : w.answered = outcomes w.served) (hresp : protocol.Conveys resp)
    (hevent : protocol.event? resp = none) (hset : resp.isSet) :
    ∃ rest w', OrderlyRun protocol w rest w' ∧
      w'.answered = w.answered ++ [(req, outcomeOf resp)] ∧ w'.waiting = none := by
  obtain ⟨requests, inFlight, hinv⟩ := exists_inv hrun
  have hturn := hinv.turn
  cases hturn with
  | @asked req' inFlight hwaiting' hevents hmailbox hanswered hmode =>
      obtain rfl := Option.some_inj.mp (hwaiting.symm.trans hwaiting')
      obtain ⟨mid, hserve, hinv', hconn, hwaiting'', hanswered'⟩ := exists_serve hinv hresp
      have harrive : OrderlyRun protocol mid [.arriveDown mid.down.flight.length]
          { mid with down := mid.down.deliver mid.down.flight.length } :=
        Exec.nil.snoc ⟨rfl, trivial⟩
      have hflight : (mid.down.deliver mid.down.flight.length).flight = [] := List.drop_length
      cases hasync : w.conn.asyncReadActive with
      | true =>
          have hready : Ready protocol
              { mid with down := mid.down.deliver mid.down.flight.length } req
              (inFlight ++ [resp]) :=
            ⟨hwaiting''.trans hwaiting, hconn ▸ hasync, hconn ▸ hreading hasync,
              hinv'.conveys, hinv'.down.deliver _, hflight⟩
          obtain ⟨rest, last, hevents, hsame, hlast⟩ := hready.exists_run hevents
          obtain ⟨rest', w', hanswer, hresult, hnone⟩ := hlast.exists_finish hevent hset
          refine ⟨_, w', ((hserve.append harrive).append hevents).append hanswer, ?_, hnone⟩
          rw [hresult, hsame]
          exact congrArg (· ++ _) hanswered'
      | false =>
          obtain rfl := hmode.resolve_left (by simp [hasync])
          obtain ⟨w', hrecv, hresult, hnone⟩ := exists_recv
            (w := { mid with down := mid.down.deliver mid.down.flight.length }) hresp
            (hwaiting''.trans hwaiting) (by simp [hconn, hasync]) (hinv'.down.deliver _) hflight
          refine ⟨_, w', (hserve.append harrive).snoc ⟨hrecv, trivial⟩, ?_, hnone⟩
          rw [hresult]
          exact congrArg (· ++ _) hanswered'
  | idle hwaiting' => exact absurd (hwaiting.symm.trans hwaiting') (by simp)
  | answering _ _ _ _ hserved hanswered | arrived _ _ _ _ _ hserved hanswered
  | lost _ _ _ hserved hanswered =>
      rw [hpending, hserved, outcomes_concat] at hanswered
      exact absurd (congrArg List.length hanswered) (by simp)

theorem exists_answer_status : ∃ w,
    OrderlyRun statusProtocol {} [.asyncRun, .request (), .emit ()] w ∧
    ∃ rest w', OrderlyRun statusProtocol w rest w' ∧
      w'.answered = w.answered ++ [((), outcomeOf (.data ()))] ∧ w'.waiting = none := by
  have hrun := (Exec.nil : OrderlyRun statusProtocol {} [] {}).andThen .asyncRun rfl trivial
    |>.andThen (.request ()) rfl ⟨conveysRequest_status, .inl rfl⟩ |>.andThen (.emit ()) rfl ⟨conveys_status _, rfl, .inl rfl⟩
  exact ⟨_, hrun,
    exists_answer hrun (fun _ => rfl) rfl rfl (conveys_status _) rfl rfl⟩

end Ilumo.Blickfeld.Connection
