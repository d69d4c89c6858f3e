import Ilumo.Blickfeld.Connection

/-!
# Answers and events

At most one request is outstanding, and its answer is somewhere between the scanner and the caller
(`Turn`): not given yet, on its way between events, in `async_received`, or lost. In every orderly
run `send_request` therefore returns the answers of the scanner in their order, and the callbacks
are called for every event, once and in order.
-/

namespace Ilumo.Blickfeld.Connection

open Machine Pipe

variable {θ ε ρ ω : Type} {protocol : Protocol θ ε ρ ω}

/-- A request arrives as what it was, and its length fits the four bytes in front of it. -/
structure Protocol.ConveysRequest (protocol : Protocol θ ε ρ ω) (req : θ) : Prop where
  parse : protocol.parseRequest (protocol.serializeRequest req) = some req
  length_lt : (protocol.serializeRequest req).length < 2 ^ 32

structure Protocol.Conveys (protocol : Protocol θ ε ρ ω) (resp : Response ε ρ ω) : Prop where
  parse : protocol.parse (protocol.serialize resp) = some resp
  length_lt : (protocol.serialize resp).length < 2 ^ 32

/-- What a response is to the caller: errors are thrown. -/
def outcomeOf : Response ε ρ ω → Outcome ε ρ ω
  | .error error => .error (.typed error)
  | resp => .ok resp

/-- The outcomes of the requests that the scanner answered. -/
def outcomes (served : List (θ × Response ε ρ ω)) : List (θ × Outcome ε ρ ω) :=
  served.map fun (req, resp) => (req, outcomeOf resp)

def Protocol.Events (protocol : Protocol θ ε ρ ω) (inFlight : List (Response ε ρ ω)) : Prop :=
  ∀ resp ∈ inFlight, (protocol.event? resp).isSome

def Protocol.eventsOf (protocol : Protocol θ ε ρ ω) (inFlight : List (Response ε ρ ω)) : List ε :=
  inFlight.filterMap fun resp => (protocol.event? resp).map Prod.fst

/-! ### One message -/

section Message

variable {w w' : World θ ε ρ ω} {conn : ScannerConnection ε ρ ω} {resp : Response ε ρ ω}
  {inRecv : Bool}

/-- A message is an event with data, an error, or something for `async_received`. -/
theorem parseResponse_cases {resp : Response ε ρ ω} (hconveys : protocol.Conveys resp)
    (conn : ScannerConnection ε ρ ω) :
    (∃ event case, protocol.event? resp = some (event, case) ∧
      conn.parseResponse protocol (protocol.serialize resp) = (.ok resp,
        { conn with called := conn.called ++ [(event, conn.eventCallbacks case)] })) ∨
    (∃ error, resp = .error error ∧
      conn.parseResponse protocol (protocol.serialize resp) = (.error (.typed error), conn)) ∨
    (protocol.event? resp = none ∧ outcomeOf resp = .ok resp ∧
      conn.parseResponse protocol (protocol.serialize resp) = (.ok resp,
        if conn.asyncReadActive then { conn with asyncReceived := resp } else conn)) := by
  have hparse := hconveys.parse
  cases resp with
  | error error =>
      exact .inr (.inl ⟨error, rfl, by rw [ScannerConnection.parseResponse, hparse]⟩)
  | event event =>
      cases hcase : protocol.dataCase event with
      | some case =>
          have hevent : protocol.event? (.event event : Response ε ρ ω) = some (event, case) := by
            rw [Protocol.event?, hcase]
            rfl
          refine .inl ⟨event, case, hevent, ?_⟩
          rw [ScannerConnection.parseResponse, hparse]
          simp only [hevent]
      | none =>
          have hevent : protocol.event? (.event event : Response ε ρ ω) = none := by
            rw [Protocol.event?, hcase]
            rfl
          refine .inr (.inr ⟨hevent, rfl, ?_⟩)
          rw [ScannerConnection.parseResponse, hparse]
          simp only [hevent]
  | notSet =>
      refine .inr (.inr ⟨rfl, rfl, ?_⟩)
      rw [ScannerConnection.parseResponse, hparse]
      rfl
  | data data =>
      refine .inr (.inr ⟨rfl, rfl, ?_⟩)
      rw [ScannerConnection.parseResponse, hparse]
      rfl

/-! ### The callbacks -/

end Message

/-! ### The outstanding request -/

/-- Where the answer of the outstanding request is. The indices are the requests and responses on
their way. Without `async_run` nothing but the answer may be on its way to a caller. -/
inductive Turn (protocol : Protocol θ ε ρ ω) (w : World θ ε ρ ω) :
    List θ → List (Response ε ρ ω) → Prop
  | idle {inFlight : List (Response ε ρ ω)} (hwaiting : w.waiting = none)
      (hevents : protocol.Events inFlight) (hmailbox : w.conn.asyncReceived = .notSet)
      (hanswered : w.answered = outcomes w.served) : Turn protocol w [] inFlight
  | asked {req : θ} {inFlight : List (Response ε ρ ω)} (hwaiting : w.waiting = some req)
      (hevents : protocol.Events inFlight) (hmailbox : w.conn.asyncReceived = .notSet)
      (hanswered : w.answered = outcomes w.served)
      (hmode : w.conn.asyncReadActive ∨ inFlight = []) : Turn protocol w [req] inFlight
  | answering {req : θ} {resp : Response ε ρ ω} {before after : List (Response ε ρ ω)}
      {front : List (θ × Response ε ρ ω)} (hwaiting : w.waiting = some req)
      (hbefore : protocol.Events before) (hafter : protocol.Events after)
      (hmailbox : w.conn.asyncReceived = .notSet) (hserved : w.served = front ++ [(req, resp)])
      (hanswered : w.answered = outcomes front)
      (hmode : w.conn.asyncReadActive ∨ (before = [] ∧ after = [])) :
      Turn protocol w [] (before ++ resp :: after)
  | arrived {req : θ} {resp : Response ε ρ ω} {inFlight : List (Response ε ρ ω)}
      {front : List (θ × Response ε ρ ω)} (hwaiting : w.waiting = some req)
      (hevents : protocol.Events inFlight) (hmailbox : w.conn.asyncReceived = resp)
      (houtcome : outcomeOf resp = .ok resp) (hset : resp.isSet)
      (hserved : w.served = front ++ [(req, resp)]) (hanswered : w.answered = outcomes front)
      (hmode : w.conn.asyncReadActive) : Turn protocol w [] inFlight
  | lost {req : θ} {resp : Response ε ρ ω} {inFlight : List (Response ε ρ ω)}
      {front : List (θ × Response ε ρ ω)} (hwaiting : w.waiting = some req)
      (hevents : protocol.Events inFlight) (hmailbox : w.conn.asyncReceived = .notSet)
      (hserved : w.served = front ++ [(req, resp)]) (hanswered : w.answered = outcomes front)
      (hmode : w.conn.asyncReadActive) : Turn protocol w [] inFlight

/-- The invariant of an orderly run. -/
structure Inv (protocol : Protocol θ ε ρ ω) (w : World θ ε ρ ω) (requests : List θ)
    (inFlight : List (Response ε ρ ω)) : Prop where
  conveysRequest : ∀ req ∈ requests, protocol.ConveysRequest req
  conveys : ∀ resp ∈ inFlight, protocol.Conveys resp
  up : Carries w.up (requests.map protocol.serializeRequest)
  down : Carries w.down (inFlight.map protocol.serialize)
  sent : w.sent = w.conn.called.map Prod.fst ++ protocol.eventsOf inFlight
  turn : Turn protocol w requests inFlight

/-- Messages can be conveyed and events have data. Before `async_run`, a request waits until nothing
is on its way to the client, and the scanner sends no event while a request is outstanding. -/
def Orderly (protocol : Protocol θ ε ρ ω) (w : World θ ε ρ ω) : Action θ ε ρ ω → Prop
  | .request req => protocol.ConveysRequest req ∧ (w.conn.asyncReadActive ∨ w.down = {})
  | .serve resp => protocol.Conveys resp
  | .emit event => protocol.Conveys (.event event) ∧ (protocol.dataCase event).isSome ∧
      (w.conn.asyncReadActive ∨ w.waiting = none)
  | _ => True

theorem inv_init : Inv protocol ({} : World θ ε ρ ω) [] [] :=
  ⟨by simp, by simp, carries_nil, carries_nil, rfl, .idle rfl (by simp [Protocol.Events]) rfl rfl⟩

/-! ### Steps -/

section Steps

variable {w w' : World θ ε ρ ω} {requests : List θ} {inFlight : List (Response ε ρ ω)}

/-- What does not concern the outstanding request leaves its turn. -/
theorem Turn.congr (h : Turn protocol w requests inFlight) (hwaiting : w'.waiting = w.waiting)
    (hmailbox : w'.conn.asyncReceived = w.conn.asyncReceived) (hserved : w'.served = w.served)
    (hanswered : w'.answered = w.answered)
    (hmode : w.conn.asyncReadActive → w'.conn.asyncReadActive) :
    Turn protocol w' requests inFlight := by
  cases h with
  | idle h₁ h₂ h₃ h₄ =>
      exact .idle (hwaiting.trans h₁) h₂ (hmailbox.trans h₃) (by rw [hanswered, hserved, h₄])
  | asked h₁ h₂ h₃ h₄ h₅ =>
      exact .asked (hwaiting.trans h₁) h₂ (hmailbox.trans h₃) (by rw [hanswered, hserved, h₄])
        (h₅.imp hmode id)
  | answering h₁ h₂ h₃ h₄ h₅ h₆ h₇ =>
      exact .answering (hwaiting.trans h₁) h₂ h₃ (hmailbox.trans h₄) (hserved.trans h₅)
        (hanswered.trans h₆) (h₇.imp hmode id)
  | arrived h₁ h₂ h₃ h₄ h₅ h₆ h₇ h₈ =>
      exact .arrived (hwaiting.trans h₁) h₂ (hmailbox.trans h₃) h₄ h₅ (hserved.trans h₆)
        (hanswered.trans h₇) (hmode h₈)
  | lost h₁ h₂ h₃ h₄ h₅ h₆ =>
      exact .lost (hwaiting.trans h₁) h₂ (hmailbox.trans h₃) (hserved.trans h₄)
        (hanswered.trans h₅) (hmode h₆)

theorem Protocol.Events.append {before after : List (Response ε ρ ω)}
    (hbefore : protocol.Events before) (hafter : protocol.Events after) :
    protocol.Events (before ++ after) := by
  intro resp hresp
  rcases List.mem_append.mp hresp with hresp | hresp
  · exact hbefore resp hresp
  · exact hafter resp hresp

theorem forall_mem_concat {α : Type} {P : α → Prop} {xs : List α} {x : α} (hxs : ∀ y ∈ xs, P y)
    (hx : P x) : ∀ y ∈ xs ++ [x], P y := by
  intro y hy
  rcases List.mem_append.mp hy with hy | hy
  · exact hxs y hy
  · exact List.mem_singleton.mp hy ▸ hx

theorem eventsOf_append (before after : List (Response ε ρ ω)) :
    protocol.eventsOf (before ++ after) = protocol.eventsOf before ++ protocol.eventsOf after :=
  List.filterMap_append

theorem eventsOf_singleton (resp : Response ε ρ ω) :
    protocol.eventsOf [resp] = (protocol.event? resp).toList.map Prod.fst := by
  rw [Protocol.eventsOf, List.filterMap_cons, List.filterMap_nil]
  cases protocol.event? resp <;> rfl

/-- Nothing more is on its way when the pipe is empty. -/
theorem inFlight_eq_nil (hdown : Carries w.down (inFlight.map protocol.serialize))
    (hempty : w.down = {}) : inFlight = [] := by
  cases inFlight with
  | nil => rfl
  | cons resp inFlight =>
      have hbytes := hdown.bytes
      rw [hempty, List.map_cons, List.flatMap_cons] at hbytes
      exact absurd (congrArg List.length hbytes) (by simp [framed]; omega)

theorem Turn.of_waiting_none (h : Turn protocol w requests inFlight) (hnone : w.waiting = none) :
    requests = [] ∧ protocol.Events inFlight ∧ w.conn.asyncReceived = .notSet ∧
      w.answered = outcomes w.served := by
  cases h with
  | idle hwaiting hevents hmailbox hanswered => exact ⟨rfl, hevents, hmailbox, hanswered⟩
  | asked hwaiting | answering hwaiting | arrived hwaiting | lost hwaiting =>
      exact absurd (hwaiting.symm.trans hnone) (by simp)

/-- The next message is an event that has nothing to do with the request, or it is the answer. -/
theorem Turn.head {resp : Response ε ρ ω} (h : Turn protocol w requests (resp :: inFlight)) :
    (∃ event case, protocol.event? resp = some (event, case) ∧
      Turn protocol w requests inFlight ∧ (w.waiting = none ∨ w.conn.asyncReadActive)) ∨
    (∃ req front, requests = [] ∧ w.waiting = some req ∧ protocol.Events inFlight ∧
      w.conn.asyncReceived = .notSet ∧ w.served = front ++ [(req, resp)] ∧
      w.answered = outcomes front ∧ (w.conn.asyncReadActive ∨ inFlight = [])) := by
  have hsplit : ∀ {inFlight' : List (Response ε ρ ω)}, protocol.Events (resp :: inFlight') →
      (∃ event case, protocol.event? resp = some (event, case)) ∧ protocol.Events inFlight' := by
    intro inFlight' hevents
    obtain ⟨⟨event, case⟩, hevent⟩ := Option.isSome_iff_exists.mp (hevents resp (by simp))
    exact ⟨⟨event, case, hevent⟩, fun other hother => hevents other (by simp [hother])⟩
  generalize hall : resp :: inFlight = all at h
  cases h with
  | idle h₁ hevents h₃ h₄ =>
      obtain ⟨⟨event, case, hevent⟩, hrest⟩ := hsplit (hall ▸ hevents)
      exact .inl ⟨event, case, hevent, .idle h₁ hrest h₃ h₄, .inl h₁⟩
  | asked h₁ hevents h₃ h₄ h₅ =>
      obtain ⟨⟨event, case, hevent⟩, hrest⟩ := hsplit (hall ▸ hevents)
      have hmode := h₅.resolve_right (by simp [← hall])
      exact .inl ⟨event, case, hevent, .asked h₁ hrest h₃ h₄ (.inl hmode), .inr hmode⟩
  | arrived h₁ hevents h₃ h₄ h₅ h₆ h₇ h₈ =>
      obtain ⟨⟨event, case, hevent⟩, hrest⟩ := hsplit (hall ▸ hevents)
      exact .inl ⟨event, case, hevent, .arrived h₁ hrest h₃ h₄ h₅ h₆ h₇ h₈, .inr h₈⟩
  | lost h₁ hevents h₃ h₄ h₅ h₆ =>
      obtain ⟨⟨event, case, hevent⟩, hrest⟩ := hsplit (hall ▸ hevents)
      exact .inl ⟨event, case, hevent, .lost h₁ hrest h₃ h₄ h₅ h₆, .inr h₆⟩
  | @answering req answer before after front h₁ hbefore hafter h₄ h₅ h₆ h₇ =>
      cases before with
      | nil =>
          obtain ⟨rfl, rfl⟩ := List.cons.inj hall
          exact .inr ⟨req, front, rfl, h₁, hafter, h₄, h₅, h₆, h₇.imp id And.right⟩
      | cons first before =>
          obtain ⟨rfl, rfl⟩ := List.cons.inj hall
          obtain ⟨⟨event, case, hevent⟩, hrest⟩ := hsplit hbefore
          have hmode := h₇.resolve_right (by simp)
          exact .inl ⟨event, case, hevent, .answering h₁ hrest hafter h₄ h₅ h₆ (.inl hmode),
            .inr hmode⟩

/-- Reading takes the first message. -/
theorem Inv.read {bytes : List UInt8} {down : Pipe} (h : Inv protocol w requests inFlight)
    (hread : w.down.read? = some (bytes, down)) :
    ∃ resp rest, inFlight = resp :: rest ∧ bytes = protocol.serialize resp ∧
      protocol.Conveys resp ∧ (∀ other ∈ rest, protocol.Conveys other) ∧
      Carries down (rest.map protocol.serialize) := by
  obtain ⟨rest, hmap, hcarries⟩ := h.down.read hread
  obtain ⟨resp, tail, rfl, hbytes, rfl⟩ := List.map_eq_cons_iff.mp hmap
  exact ⟨resp, tail, rfl, hbytes.symm, h.conveys resp (by simp),
    fun other hother => h.conveys other (by simp [hother]), hcarries⟩

theorem inv_request {req : θ} (h : Inv protocol w requests inFlight)
    (horderly : Orderly protocol w (.request req)) (hstep : w.Step protocol (.request req) w') :
    Inv protocol w' (requests ++ [req]) inFlight := by
  rw [World.Step, World.step] at hstep
  split at hstep
  · next hnone =>
      obtain rfl := Option.some_inj.mp hstep
      obtain ⟨rfl, hevents, hmailbox, hanswered⟩ :=
        h.turn.of_waiting_none (Option.isNone_iff_eq_none.mp hnone)
      refine ⟨by simpa using horderly.1, h.conveys, ?_, h.down, h.sent,
        .asked rfl hevents hmailbox hanswered ?_⟩
      · rw [List.map_append]
        exact h.up.write horderly.1.length_lt
      · exact horderly.2.imp id (inFlight_eq_nil h.down)
  · exact absurd hstep (by simp)

theorem inv_serve {resp : Response ε ρ ω} (h : Inv protocol w requests inFlight)
    (horderly : Orderly protocol w (.serve resp)) (hstep : w.Step protocol (.serve resp) w') :
    Inv protocol w' [] (inFlight ++ [resp]) := by
  rw [World.Step, World.step] at hstep
  split at hstep
  · exact absurd hstep (by simp)
  · next bytes up hread =>
      obtain ⟨rest, hmap, hcarries⟩ := h.up.read hread
      obtain ⟨req, requests, rfl, rfl, rfl⟩ := List.map_eq_cons_iff.mp hmap
      simp only [(h.conveysRequest req (by simp)).parse, Option.some_inj] at hstep
      subst hstep
      have hturn := h.turn
      cases hturn with
      | asked hwaiting hevents hmailbox hanswered hmode =>
          refine ⟨by simp, forall_mem_concat h.conveys horderly, hcarries, ?_, ?_, ?_⟩
          · rw [List.map_append]
            exact h.down.write horderly.length_lt
          · rw [eventsOf_append, eventsOf_singleton, ← List.append_assoc]
            exact congrArg (· ++ _) h.sent
          · exact .answering hwaiting hevents (by simp [Protocol.Events]) hmailbox rfl hanswered
              (hmode.imp id (⟨·, rfl⟩))

theorem inv_emit {event : ε} (h : Inv protocol w requests inFlight)
    (horderly : Orderly protocol w (.emit event)) (hstep : w.Step protocol (.emit event) w') :
    Inv protocol w' requests (inFlight ++ [.event event]) := by
  obtain rfl := Option.some_inj.mp hstep
  obtain ⟨case, hcase⟩ := Option.isSome_iff_exists.mp horderly.2.1
  have hevents : protocol.Events [(.event event : Response ε ρ ω)] := by
    intro resp hresp
    obtain rfl := List.mem_singleton.mp hresp
    rw [Protocol.event?, hcase]
    rfl
  refine ⟨h.conveysRequest, forall_mem_concat h.conveys horderly.1, h.up, ?_, ?_, ?_⟩
  · rw [List.map_append]
    exact h.down.write horderly.1.length_lt
  · rw [eventsOf_append, eventsOf_singleton, ← List.append_assoc]
    exact congrArg (· ++ _) h.sent
  · have hmode : ∀ {req}, w.waiting = some req → w.conn.asyncReadActive := fun hwaiting =>
      horderly.2.2.resolve_right (by simp [hwaiting])
    have hturn := h.turn
    cases hturn with
    | idle h₁ h₂ h₃ h₄ => exact .idle h₁ (h₂.append hevents) h₃ h₄
    | asked h₁ h₂ h₃ h₄ h₅ => exact .asked h₁ (h₂.append hevents) h₃ h₄ (.inl (hmode h₁))
    | answering h₁ h₂ h₃ h₄ h₅ h₆ h₇ =>
        rw [List.append_assoc, List.cons_append]
        exact .answering h₁ h₂ (h₃.append hevents) h₄ h₅ h₆ (.inl (hmode h₁))
    | arrived h₁ h₂ h₃ h₄ h₅ h₆ h₇ h₈ =>
        exact .arrived h₁ (h₂.append hevents) h₃ h₄ h₅ h₆ h₇ h₈
    | lost h₁ h₂ h₃ h₄ h₅ h₆ => exact .lost h₁ (h₂.append hevents) h₃ h₄ h₅ h₆

theorem outcomes_concat (front : List (θ × Response ε ρ ω)) (req : θ) (resp : Response ε ρ ω) :
    outcomes (front ++ [(req, resp)]) = outcomes front ++ [(req, outcomeOf resp)] := by
  rw [outcomes, List.map_append]
  rfl

theorem eventsOf_cons_event {resp : Response ε ρ ω} {event : ε} {case : DataCase}
    (hevent : protocol.event? resp = some (event, case)) :
    protocol.eventsOf (resp :: inFlight) = event :: protocol.eventsOf inFlight := by
  rw [Protocol.eventsOf, List.filterMap_cons, hevent]
  rfl

theorem eventsOf_cons_none {resp : Response ε ρ ω} (hevent : protocol.event? resp = none) :
    protocol.eventsOf (resp :: inFlight) = protocol.eventsOf inFlight := by
  rw [Protocol.eventsOf, List.filterMap_cons, hevent]
  rfl

/-- Parsing calls back for an event, and adds nothing to the calls for anything else. -/
theorem parseResponse_called {resp : Response ε ρ ω} (hconveys : protocol.Conveys resp)
    (conn : ScannerConnection ε ρ ω) :
    (conn.parseResponse protocol (protocol.serialize resp)).2.called.map Prod.fst =
      conn.called.map Prod.fst ++ protocol.eventsOf [resp] := by
  rcases parseResponse_cases hconveys conn with
    ⟨event, case, hevent, hparse⟩ | ⟨error, rfl, hparse⟩ | ⟨hevent, -, hparse⟩
  · rw [hparse, eventsOf_cons_event hevent]
    simp [Protocol.eventsOf]
  · rw [hparse]
    simp [Protocol.eventsOf, Protocol.event?]
  · rw [hparse, eventsOf_cons_none hevent]
    split <;> simp [Protocol.eventsOf]

theorem parseResponse_outcome {resp : Response ε ρ ω} (hconveys : protocol.Conveys resp)
    (conn : ScannerConnection ε ρ ω) :
    (conn.parseResponse protocol (protocol.serialize resp)).1 = outcomeOf resp := by
  rcases parseResponse_cases hconveys conn with
    ⟨event, case, hevent, hparse⟩ | ⟨error, rfl, hparse⟩ | ⟨-, houtcome, hparse⟩
  · rw [hparse]
    cases resp <;> first | rfl | exact absurd hevent (by simp [Protocol.event?])
  · rw [hparse]
    rfl
  · rw [hparse, houtcome]

theorem parseResponse_asyncReceived {resp : Response ε ρ ω} (hconveys : protocol.Conveys resp)
    {conn : ScannerConnection ε ρ ω} (hsync : ¬conn.asyncReadActive) :
    (conn.parseResponse protocol (protocol.serialize resp)).2.asyncReceived =
      conn.asyncReceived := by
  rcases parseResponse_cases hconveys conn with
    ⟨event, case, -, hparse⟩ | ⟨error, -, hparse⟩ | ⟨-, -, hparse⟩
  · rw [hparse]
  · rw [hparse]
  · rw [hparse, if_neg hsync]

theorem inv_recv (h : Inv protocol w requests inFlight) (hstep : w.Step protocol .recv w') :
    ∃ requests' inFlight', Inv protocol w' requests' inFlight' := by
  rw [World.Step, World.step] at hstep
  split at hstep
  · exact absurd hstep (by simp)
  · next hsync =>
      split at hstep
      · next req bytes down hwaiting hread =>
          obtain rfl := Option.some_inj.mp hstep
          obtain ⟨resp, rest, rfl, rfl, hresp, hrest, hcarries⟩ := h.read hread
          rcases h.turn.head with ⟨event, case, hevent, -, hmode⟩ |
            ⟨req', front, rfl, hwaiting', hevents, hmailbox, hserved, hanswered, hmode⟩
          · exact absurd (hmode.resolve_left (by simp [hwaiting])) hsync
          · obtain rfl := Option.some_inj.mp (hwaiting.symm.trans hwaiting')
            obtain rfl := hmode.resolve_left hsync
            refine ⟨[], [], by simp, hrest, h.up, hcarries, ?_, .idle rfl hevents ?_ ?_⟩
            · have hsent := h.sent
              rw [← parseResponse_called hresp] at hsent
              exact hsent.trans (List.append_nil _).symm
            · exact (parseResponse_asyncReceived hresp hsync).trans hmailbox
            · have houtcome := parseResponse_outcome hresp w.conn
              change w.answered ++ [(req, (w.conn.parseResponse protocol _).1)] = outcomes w.served
              rw [houtcome, hanswered, hserved, outcomes_concat]
      · exact absurd hstep (by simp)

/-- The next message was read by `async_recv`. -/
theorem inv_completeRead {inRecv : Bool} {resp : Response ε ρ ω} {rest : List (Response ε ρ ω)}
    (hresp : protocol.Conveys resp) (hrest : ∀ other ∈ rest, protocol.Conveys other)
    (hrequests : ∀ req ∈ requests, protocol.ConveysRequest req) (hasync : w.conn.asyncReadActive)
    (hup : Carries w.up (requests.map protocol.serializeRequest))
    (hdown : Carries w.down (rest.map protocol.serialize))
    (hsent : w.sent = w.conn.called.map Prod.fst ++ protocol.eventsOf (resp :: rest))
    (hturn : Turn protocol w requests (resp :: rest))
    (hread : w.completeRead protocol inRecv (protocol.serialize resp) = some w') :
    Inv protocol w' requests rest := by
  rw [World.completeRead] at hread
  rcases parseResponse_cases hresp w.conn with
    ⟨event, case, hevent, hparse⟩ | ⟨error, rfl, hparse⟩ | ⟨hnone, houtcome, hparse⟩
  · rw [hparse] at hread
    obtain rfl := Option.some_inj.mp hread
    refine ⟨hrequests, hrest, hup, hdown, ?_, ?_⟩
    · rw [eventsOf_cons_event hevent] at hsent
      simpa using hsent
    · rcases hturn.head with ⟨-, -, -, hturn, -⟩ |
        ⟨req, front, rfl, hwaiting, hevents, hmailbox, hserved, hanswered, -⟩
      · exact hturn.congr rfl rfl rfl rfl id
      · exact .lost hwaiting hevents hmailbox hserved hanswered hasync
  · rcases hturn.head with ⟨event, case, hevent, -⟩ |
      ⟨req, front, rfl, hwaiting, hevents, hmailbox, hserved, hanswered, -⟩
    · exact absurd hevent (by simp [Protocol.event?])
    · rw [eventsOf_cons_none rfl] at hsent
      simp only [hparse, hwaiting] at hread
      split at hread
      · obtain rfl := Option.some_inj.mp hread
        refine ⟨hrequests, hrest, hup, hdown, hsent, .idle rfl hevents hmailbox ?_⟩
        change w.answered ++ [(req, .error (.typed error))] = outcomes w.served
        rw [hanswered, hserved, outcomes_concat]
        rfl
      · obtain rfl := Option.some_inj.mp hread
        exact ⟨hrequests, hrest, hup, hdown, hsent,
          .lost rfl hevents hmailbox hserved hanswered hasync⟩
  · rcases hturn.head with ⟨event, case, hevent, -⟩ |
      ⟨req, front, rfl, hwaiting, hevents, hmailbox, hserved, hanswered, -⟩
    · exact absurd (hevent.symm.trans hnone) (by simp)
    · rw [eventsOf_cons_none hnone] at hsent
      rw [hparse, if_pos hasync] at hread
      obtain rfl := Option.some_inj.mp hread
      refine ⟨hrequests, hrest, hup, hdown, hsent, ?_⟩
      cases hset : resp.isSet with
      | true => exact .arrived hwaiting hevents rfl houtcome hset hserved hanswered hasync
      | false =>
          obtain rfl : resp = .notSet := by cases resp <;> simp_all [Response.isSet]
          exact .lost hwaiting hevents rfl hserved hanswered hasync

theorem inv_poll {inRecv : Bool} (h : Inv protocol w requests inFlight)
    (hstep : w.Step protocol (.poll inRecv) w') :
    ∃ inFlight', Inv protocol w' requests inFlight' := by
  rw [World.Step, World.step] at hstep
  split at hstep
  · next hreading =>
      split at hstep
      · next bytes down hread =>
          obtain ⟨resp, rest, rfl, rfl, hresp, hrest, hcarries⟩ := h.read hread
          refine ⟨rest, inv_completeRead (w := { w with down }) hresp hrest h.conveysRequest ?_
            h.up hcarries h.sent ?_ hstep⟩
          · exact (Bool.and_eq_true_iff.mp hreading).1
          · exact h.turn.congr rfl rfl rfl rfl id
      · exact absurd hstep (by simp)
  · exact absurd hstep (by simp)

/-- `recv` takes the answer out of `async_received`. -/
theorem inv_take (h : Inv protocol w requests inFlight) (hstep : w.Step protocol .take w') :
    Inv protocol w' requests inFlight := by
  rw [World.Step, World.step] at hstep
  split at hstep
  · next req hwaiting =>
      split at hstep
      · next hset =>
          obtain rfl := Option.some_inj.mp hstep
          have hset' := (Bool.and_eq_true_iff.mp hset).2
          have hturn := h.turn
          cases hturn with
          | arrived hwaiting' hevents hmailbox houtcome _ hserved hanswered =>
              obtain rfl := Option.some_inj.mp (hwaiting.symm.trans hwaiting')
              refine ⟨h.conveysRequest, h.conveys, h.up, h.down, h.sent, .idle rfl hevents rfl ?_⟩
              change w.answered ++ [(req, .ok w.conn.asyncReceived)] = outcomes w.served
              rw [hanswered, hserved, outcomes_concat, hmailbox, houtcome]
          | idle _ _ hmailbox | asked _ _ hmailbox | answering _ _ _ hmailbox | lost _ _ hmailbox =>
              rw [hmailbox] at hset'
              exact absurd hset' (by simp [Response.isSet])
      · exact absurd hstep (by simp)
  · exact absurd hstep (by simp)

/-- Every orderly step keeps the invariant. -/
theorem inv_step {action : Action θ ε ρ ω} (h : Inv protocol w requests inFlight)
    (horderly : Orderly protocol w action) (hstep : w.Step protocol action w') :
    ∃ requests' inFlight', Inv protocol w' requests' inFlight' := by
  cases action with
  | subscribe eventId callback =>
      obtain rfl := Option.some_inj.mp hstep
      exact ⟨_, _, h.conveysRequest, h.conveys, h.up, h.down, h.sent,
        h.turn.congr rfl rfl rfl rfl id⟩
  | asyncRun =>
      rw [World.Step, World.step] at hstep
      split at hstep
      · obtain rfl := Option.some_inj.mp hstep
        refine ⟨_, _, h.conveysRequest, h.conveys, h.up, h.down, ?_,
          h.turn.congr rfl ?_ rfl rfl ?_⟩ <;>
          simp only [ScannerConnection.asyncRun] <;> split
        all_goals first | exact h.sent | rfl | exact id | exact fun _ => rfl
      · exact absurd hstep (by simp)
  | request req => exact ⟨_, _, inv_request h horderly hstep⟩
  | arriveUp n =>
      obtain rfl := Option.some_inj.mp hstep
      exact ⟨_, _, h.conveysRequest, h.conveys, h.up.deliver n, h.down, h.sent,
        h.turn.congr rfl rfl rfl rfl id⟩
  | serve resp => exact ⟨_, _, inv_serve h horderly hstep⟩
  | emit event => exact ⟨_, _, inv_emit h horderly hstep⟩
  | arriveDown n =>
      obtain rfl := Option.some_inj.mp hstep
      exact ⟨_, _, h.conveysRequest, h.conveys, h.up, h.down.deliver n, h.sent,
        h.turn.congr rfl rfl rfl rfl id⟩
  | recv => exact inv_recv h hstep
  | poll inRecv => exact ⟨_, inv_poll h hstep⟩
  | take => exact ⟨_, _, inv_take h hstep⟩

end Steps

/-! ### Runs -/

section Runs

variable {w w' w'' : World θ ε ρ ω} {actions rest : List (Action θ ε ρ ω)} {requests : List θ}
  {inFlight : List (Response ε ρ ω)}

/-- A run of orderly steps. -/
abbrev OrderlyRun (protocol : Protocol θ ε ρ ω) :=
  Exec (Guarded (World.Step protocol) (Orderly protocol))

theorem exists_inv (hrun : OrderlyRun protocol {} actions w) :
    ∃ requests inFlight, Inv protocol w requests inFlight := by
  refine hrun.invariant (I := fun w => ∃ requests inFlight, Inv protocol w requests inFlight)
    ⟨[], [], inv_init⟩ ?_
  rintro w action w' ⟨requests, inFlight, hinv⟩ hstep
  exact inv_step hinv hstep.2 hstep.1

theorem Turn.answered (h : Turn protocol w requests inFlight) :
    w.answered <+: outcomes w.served ∧ w.served.length ≤ w.answered.length + 1 := by
  have hlast : ∀ {front req resp}, w.served = front ++ [(req, resp)] →
      w.answered = outcomes front →
      w.answered <+: outcomes w.served ∧ w.served.length ≤ w.answered.length + 1 := by
    intro front req resp hserved hanswered
    rw [hserved, hanswered, outcomes_concat]
    exact ⟨List.prefix_append _ _, by simp [outcomes]⟩
  cases h with
  | idle _ _ _ hanswered | asked _ _ _ hanswered =>
      rw [hanswered]
      exact ⟨List.prefix_refl _, by simp [outcomes]⟩
  | answering _ _ _ _ hserved hanswered | arrived _ _ _ _ _ hserved hanswered
  | lost _ _ _ hserved hanswered => exact hlast hserved hanswered

end Runs

/-! ### A scanner that is asked for its status -/

def statusBytes : Response Unit Unit Unit → List UInt8
  | .notSet => []
  | .error _ => [0x52, 0x02, 0x12, 0x00]
  | .event _ => [0x92, 0x01, 0x02, 0x62, 0x00]
  | .data _ => [0x9A, 0x01, 0x00]

/-- Status requests, answers and events without their contents, and `not_implemented`. -/
def statusProtocol : Protocol Unit Unit Unit Unit where
  serializeRequest _ := [0x9A, 0x01, 0x00]
  parseRequest bytes := if bytes = [0x9A, 0x01, 0x00] then some () else none
  serialize := statusBytes
  parse bytes :=
    [.notSet, .error (), .event (), .data ()].find? fun resp => statusBytes resp = bytes
  dataCase _ := some .status

theorem conveysRequest_status : statusProtocol.ConveysRequest () :=
  ⟨rfl, by simp [statusProtocol]⟩

theorem conveys_status (resp : Response Unit Unit Unit) : statusProtocol.Conveys resp := by
  refine ⟨?_, ?_⟩
  · cases resp <;> rfl
  · cases resp <;> simp [statusProtocol, statusBytes]

end Ilumo.Blickfeld.Connection
