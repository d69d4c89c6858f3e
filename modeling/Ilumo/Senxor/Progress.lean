import Ilumo.Senxor.Link

/-!
# Calls that return, and answers that outlive them

From every state that a run over the link can reach, the host can go on until its program returns.
As long as the camera is not capturing, what the program computes does not depend on when anything
arrives. While it is capturing it does: an answer that is still on its way when the host throws its
input away is taken for the answer to the next call.
-/

namespace Ilumo.Senxor.Link

open Hexadecimal Registers Machine

variable {δ α : Type} {foreign : List UInt8 → Option Int} {dev : Device δ} {plain : Set Nat}
  {goal : α × (Nat → Nat)} {link link' : Link δ α}

/-- A step that is not an `acknowledge`. -/
theorem run_one {event : Event} (hne : event ≠ .acknowledge)
    (hstep : link.step foreign dev event = some link') : Run foreign dev link [event] link' :=
  Exec.nil.snoc ⟨hstep, fun heq => absurd heq hne⟩

theorem run_acknowledge (htodo : link.todo = []) (hflight : link.flight = [])
    (hstep : link.step foreign dev .acknowledge = some link') :
    Run foreign dev link [.acknowledge] link' :=
  Exec.nil.snoc ⟨hstep, fun _ _ _ _ => ⟨htodo, by simp [hflight]⟩⟩

variable (foreign dev) in
theorem exists_flush (link : Link δ α) :
    ∃ events, Run foreign dev link events
      { link with flight := [], input := link.input ++ link.flight.flatten } := by
  generalize hflight : link.flight = flight
  induction flight generalizing link with
  | nil =>
      refine ⟨[], ?_⟩
      rw [List.flatten_nil, List.append_nil, ← hflight]
      exact .nil
  | cons ack flight ih =>
      have harrive : link.step foreign dev .arrive =
          some { link with flight, input := link.input ++ ack } := by
        simp only [step, hflight]
      obtain ⟨events, hrun⟩ := ih { link with flight, input := link.input ++ ack } rfl
      refine ⟨[.arrive] ++ events, (run_one (by decide) harrive).append ?_⟩
      rw [List.flatten_cons, ← List.append_assoc]
      exact hrun

/-- Some run goes on until the host's call has returned. -/
def CanResume (foreign : List UInt8 → Option Int) (dev : Device δ) (link : Link δ α) : Prop :=
  ∃ events link' data, Run foreign dev link events link' ∧ resume link.host data = some link'.host

theorem CanResume.of_run {events : List Event} (hrun : Run foreign dev link events link')
    (hhost : link'.host = link.host) (h : CanResume foreign dev link') :
    CanResume foreign dev link := by
  obtain ⟨events', link'', data, hrest, hresume⟩ := h
  exact ⟨_, link'', data, hrun.append hrest, hhost ▸ hresume⟩

theorem canResume_of_answer {request : Request} {ack rest : List UInt8} (hwithin : request.Within)
    (hwaiting : link.waiting = true) (hrequest : request? link.host = some request)
    (htodo : link.todo = []) (hflight : link.flight = []) (hinput : link.input = ack ++ rest)
    (hanswers : Answers foreign (dev.registers link.device) ack request) :
    CanResume foreign dev link := by
  obtain ⟨data, next, hack, hresume, -, -⟩ := hanswers.usbAcknowledge hrequest ∅ rest
  rw [← hinput] at hack
  exact ⟨_, _, data, run_acknowledge htodo hflight
    (step_of_answer hwithin hwaiting hrequest hack hresume), hresume⟩

theorem canResume_of_resent (hdev : dev.Documented foreign plain) {request : Request}
    (hwithin : link.host.Within plain 256) (hwaiting : link.waiting = true)
    (hrequest : request? link.host = some request) (htodo : link.todo = [request.bytes])
    (hflight : link.flight = []) (hinput : link.input = []) : CanResume foreign dev link := by
  obtain ⟨hanswers, -⟩ := hdev.process hwithin hrequest link.device
  have hprocess : link.step foreign dev .process =
      some { link with device := (dev.respond link.device request.bytes).2, todo := [],
                       flight := [(dev.respond link.device request.bytes).1] } := by
    simp only [step, htodo, hflight, List.nil_append]
  have harrive : step foreign dev
      { link with device := (dev.respond link.device request.bytes).2, todo := [],
                  flight := [(dev.respond link.device request.bytes).1] } .arrive =
      some { link with device := (dev.respond link.device request.bytes).2, todo := [], flight := [],
                       input := link.input ++ (dev.respond link.device request.bytes).1 } := rfl
  refine .of_run (run_one (by decide) hprocess) rfl ?_
  refine .of_run (run_one (by decide) harrive) rfl ?_
  have hall : link.input ++ (dev.respond link.device request.bytes).1 =
      (dev.respond link.device request.bytes).1 ++ [] := by
    rw [hinput, List.nil_append, List.append_nil]
  have hbounded := (within_of_request? hdev.plain_lt hwithin hrequest).2
  exact canResume_of_answer hbounded hwaiting hrequest rfl rfl hall hanswers

theorem canResume_of_answered (hdev : dev.Documented foreign plain) {request : Request}
    (h : Clean foreign dev plain (Frame foreign) goal link) (hwaiting : link.waiting = true)
    (hrequest : request? link.host = some request) (htodo : link.todo = []) :
    CanResume foreign dev link := by
  obtain ⟨hwithin, -, -, arrived, hinput, hpending⟩ := h
  have hbounded := (within_of_request? hdev.plain_lt hwithin hrequest).2
  obtain ⟨events, hflush⟩ := exists_flush foreign dev link
  refine .of_run hflush rfl ?_
  cases hpending with
  | idle hwaiting' _ _ => exact absurd (hwaiting.symm.trans hwaiting') (by decide)
  | asked _ _ _ htodo' _ => exact nomatch htodo.symm.trans htodo'
  | answered request' pre ack post _ hrequest' _ hsplit hpre _ hanswers =>
      obtain rfl := Option.some_inj.mp (hrequest.symm.trans hrequest')
      have hall : link.input ++ link.flight.flatten = (pre ++ ack :: post).flatten := by
        rw [hinput, ← List.flatten_append, hsplit]
      cases pre with
      | nil =>
          exact canResume_of_answer hbounded hwaiting hrequest htodo rfl hall hanswers
      | cons frame pre =>
          obtain ⟨words, hfirst⟩ :=
            (hpre frame (by simp)).usbAcknowledge (pre ++ ack :: post).flatten
          rw [← List.flatten_cons, ← List.cons_append, ← hall] at hfirst
          -- a frame is first: the host throws all away, and the answer to its next request is alone
          refine .of_run (run_acknowledge htodo rfl
            (step_of_frame hbounded hwaiting hrequest hfirst)) rfl ?_
          exact canResume_of_resent hdev hwithin hwaiting hrequest (by rw [htodo]; rfl) rfl rfl

theorem canResume (hdev : dev.Documented foreign plain) {request : Request}
    (h : Clean foreign dev plain (Frame foreign) goal link) (hrequest : request? link.host = some request) :
    CanResume foreign dev link := by
  have hwaiting {link : Link δ α} (h : Clean foreign dev plain (Frame foreign) goal link)
      (hrequest : request? link.host = some request) (hwaiting : link.waiting = true) :
      CanResume foreign dev link := by
    obtain ⟨arrived, hinput, hpending⟩ := h.pending
    cases hpending with
    | idle hwaiting' _ _ => exact absurd (hwaiting.symm.trans hwaiting') (by decide)
    | answered _ _ _ _ _ _ htodo _ _ _ _ =>
        exact canResume_of_answered hdev h hwaiting hrequest htodo
    | asked request' _ hrequest' htodo _ =>
        obtain rfl := Option.some_inj.mp (hrequest.symm.trans hrequest')
        have hprocess : link.step foreign dev .process =
            some { link with device := (dev.respond link.device request.bytes).2, todo := [],
                             flight := link.flight ++ [(dev.respond link.device request.bytes).1] } := by
          simp only [step, htodo]
        refine .of_run (run_one (by decide) hprocess) rfl ?_
        exact canResume_of_answered hdev (h.process hdev hprocess) hwaiting hrequest rfl
  cases hcase : link.waiting with
  | true => exact hwaiting h hrequest hcase
  | false =>
      have hsend : link.step foreign dev .send =
          some { link with todo := link.todo ++ [request.bytes], waiting := true } := by
        simp only [step, hcase, hrequest, Option.map_some]
        rfl
      exact .of_run (run_one (by decide) hsend) rfl (hwaiting (h.send hsend) hrequest rfl)

theorem Clean.can_return (hdev : dev.Documented foreign plain)
    (h : Clean foreign dev plain (Frame foreign) goal link) :
    ∃ events link', Run foreign dev link events link' ∧ link'.host = .ret goal.1 := by
  generalize hhost : link.host = p
  induction p generalizing link with
  | ret a =>
      have hresult := h.result
      rw [hhost] at hresult
      exact ⟨[], link, .nil, by rw [hhost, ← hresult, Prog.run]⟩
  | read reg next ih =>
      obtain ⟨events, mid, data, hrun, hresume⟩ :=
        canResume hdev h (show request? link.host = some (.read reg) by rw [hhost, request?])
      rw [hhost] at hresume
      cases data with
      | value value =>
          rw [resume] at hresume
          split_ifs at hresume
          obtain ⟨events', link', hrun', hret⟩ :=
            ih value.toNat (h.exec hdev hrun) (Option.some_inj.mp hresume).symm
          exact ⟨_, link', hrun.append hrun', hret⟩
      | none => simp [resume] at hresume
      | text text => simp [resume] at hresume
      | frame words => simp [resume] at hresume
  | write reg value next ih =>
      obtain ⟨events, mid, data, hrun, hresume⟩ :=
        canResume hdev h (show request? link.host = some (.write reg value) by rw [hhost, request?])
      rw [hhost] at hresume
      obtain ⟨events', link', hrun', hret⟩ :=
        ih (h.exec hdev hrun) (Option.some_inj.mp hresume).symm
      exact ⟨_, link', hrun.append hrun', hret⟩

/-! ### Registers over the link -/

def FRAME_RATE : Nat := 0xB4

def STATUS : Nat := 0xB6

def DATA_READY : Nat := 0x10

/-- A camera that always sends the same frame. The status cannot be written, tells of a frame and is
cleared when it is read; the other registers are in a memory. -/
def evk : Device (Nat → Nat) where
  respond mem bytes :=
    let reg := ((int16 ((bytes.drop 12).take 2)).getD 0).toNat
    let value := ((int16 ((bytes.drop 14).take 2)).getD 0).toNat
    if (bytes.drop 8).take 4 = RREG then
      (ackBytes RREG (upperHex 2 (mem reg % 256)),
        if reg = STATUS then Function.update mem STATUS 0 else mem)
    else (ackBytes WREG [], if reg = STATUS then mem else Function.update mem reg value)
  capture mem :=
    (ackBytes GFRA [0x10, 0x0B], Function.update mem STATUS (mem STATUS ||| DATA_READY))
  registers mem reg := mem reg % 256

def evkPlain : Set Nat := {reg | reg < 256 ∧ reg ≠ STATUS}

theorem evk_read {reg : Nat} (hreg : reg ∈ evkPlain) (mem : Nat → Nat) :
    evk.respond mem (Request.read reg).bytes =
      (ackBytes RREG (upperHex 2 (mem reg % 256)), mem) := by
  have hwithin : (Request.read reg).Within := hreg.1
  have hname : ((Request.read reg).bytes.drop 8).take 4 = RREG := by
    rw [← Request.expected, Request.expected_eq hwithin, Request.name]
  have hcmd : ((Request.read reg).bytes.drop 8).drop 4 = upperHex 2 reg ++ List.replicate 6 0x58 := by
    rw [Request.drop_bytes hwithin, Request.cmd, List.append_assoc,
      List.drop_left' (show RREG.length = 4 from rfl)]
  have hfield : ((Request.read reg).bytes.drop 12).take 2 = upperHex 2 reg := by
    rw [← List.drop_drop (i := 4) (j := 8), hcmd, List.take_left' (length_upperHex hreg.1)]
  rw [evk]
  simp only [hname, hfield, int16_upperHex (show 0 < 2 by decide), Option.getD_some,
    Int.toNat_natCast, if_true, if_neg hreg.2]

theorem evk_write {reg value : Nat} (hreg : reg ∈ evkPlain) (hvalue : value < 256)
    (mem : Nat → Nat) :
    evk.respond mem (Request.write reg value).bytes =
      (ackBytes WREG [], Function.update mem reg value) := by
  have hwithin : (Request.write reg value).Within := ⟨hreg.1, hvalue⟩
  have hname : ((Request.write reg value).bytes.drop 8).take 4 ≠ RREG := by
    rw [← Request.expected, Request.expected_eq hwithin, Request.name]
    decide
  have hcmd : ((Request.write reg value).bytes.drop 8).drop 4 =
      upperHex 2 reg ++ (upperHex 2 value ++ List.replicate 4 0x58) := by
    rw [Request.drop_bytes hwithin, Request.cmd, List.append_assoc, List.append_assoc,
      List.drop_left' (show WREG.length = 4 from rfl)]
  have hfield : ((Request.write reg value).bytes.drop 12).take 2 = upperHex 2 reg := by
    rw [← List.drop_drop (i := 4) (j := 8), hcmd, List.take_left' (length_upperHex hreg.1)]
  have hfield' : ((Request.write reg value).bytes.drop 14).take 2 = upperHex 2 value := by
    rw [← List.drop_drop (i := 2) (j := 12), ← List.drop_drop (i := 4) (j := 8), hcmd,
      List.drop_left' (length_upperHex hreg.1), List.take_left' (length_upperHex hvalue)]
  rw [evk]
  simp only [if_neg hname, hfield, hfield', int16_upperHex (show 0 < 2 by decide),
    Option.getD_some, Int.toNat_natCast, if_neg hreg.2]

theorem evk_documented : evk.Documented foreign evkPlain where
  plain_lt reg hreg := hreg.1
  registers_lt mem reg _ := Nat.mod_lt _ (by decide)
  respond_read mem reg hreg := by
    rw [evk_read hreg]
    have hlength : (upperHex 2 (mem reg % 256)).length = 2 :=
      length_upperHex (Nat.mod_lt _ (by decide))
    exact ⟨_, spells_ackBytes rfl (by rw [hlength]; decide), decodeInt_upperHex (by decide) _⟩
  registers_read mem reg hreg := by
    rw [evk_read hreg]
    exact Set.eqOn_refl _ _
  respond_write mem reg hreg value hvalue := by
    rw [evk_write hreg hvalue]
    exact ⟨_, spells_ackBytes rfl (by decide)⟩
  registers_write mem reg hreg value hvalue := by
    rw [evk_write hreg hvalue]
    intro other _
    show Function.update mem reg value other % 256 = _
    rw [Function.update_apply, Function.update_apply]
    split
    · exact Nat.mod_eq_of_lt hvalue
    · rfl
  capture mem := ⟨_, spells_ackBytes rfl (by decide), by decide⟩
  registers_capture mem reg hreg := by
    show Function.update mem STATUS _ reg % 256 = mem reg % 256
    rw [Function.update_of_ne hreg.2]

/-- **Registers over the link.** However the frames come in between, a program over plain registers
that returns has computed what it does to a memory, and has left that in these registers, provided
that no answer is on its way whenever a frame makes the host throw its input away. -/
theorem run_eq_of_exec (hdev : dev.Documented foreign plain) {p : Prog α}
    (hwithin : p.Within plain 256) {d : δ} {events : List Event} {a : α}
    (h : Run foreign dev (start d p) events link) (hret : link.host = .ret a) :
    a = (p.run (dev.registers d)).1 ∧
      Set.EqOn (dev.registers link.device) (p.run (dev.registers d)).2 plain := by
  have hclean := (clean_start hwithin d).exec hdev h
  have hresult := hclean.result
  have hmemory := hclean.memory
  rw [hret] at hresult hmemory
  exact ⟨hresult, hmemory⟩

/-- The frame rate is set and read back. -/
def setFrameRate : Prog Nat := .write FRAME_RATE 2 (.read FRAME_RATE .ret)

theorem within_setFrameRate : setFrameRate.Within evkPlain 256 := by
  have hreg : FRAME_RATE ∈ evkPlain := ⟨by decide, by decide⟩
  exact ⟨hreg, by decide, hreg, fun _ _ => trivial⟩

/-- A frame is on its way before the frame rate is set. -/
theorem run_eq_of_exec_evk : ∃ events link,
    Run (fun _ => none) evk (start (fun reg => reg) setFrameRate) (.capture :: events) link ∧
      link.host = .ret 2 ∧ evk.registers link.device FRAME_RATE = 2 := by
  have hcapture : Run (fun _ => none) evk (start (fun reg => reg) setFrameRate) [.capture]
      { start (evk.capture fun reg => reg).2 setFrameRate with
        flight := [ackBytes GFRA [0x10, 0x0B]] } := run_one (by decide) rfl
  obtain ⟨events, link, hrun, hret⟩ :=
    ((clean_start within_setFrameRate _).exec evk_documented hcapture).can_return evk_documented
  obtain ⟨-, hmemory⟩ :=
    run_eq_of_exec evk_documented within_setFrameRate (hcapture.append hrun) hret
  exact ⟨events, link, hcapture.append hrun, hret, hmemory within_setFrameRate.1⟩

/-- **A program can always return.** Whatever frames have come so far, the host can go on to its
result, which is the one that the memory gives. -/
theorem exists_return (hdev : dev.Documented foreign plain) {p : Prog α}
    (hwithin : p.Within plain 256) {d : δ} {events : List Event}
    (h : Run foreign dev (start d p) events link) :
    ∃ events' link', Run foreign dev link events' link' ∧
      link'.host = .ret (p.run (dev.registers d)).1 :=
  ((clean_start hwithin d).exec hdev h).can_return hdev

theorem exists_return_evk : ∃ events link,
    Run (fun _ => none) evk (start (fun reg => reg) setFrameRate) events link ∧
      link.host = .ret 2 :=
  exists_return (p := setFrameRate) evk_documented within_setFrameRate .nil

/-! ### Without frames -/

theorem Clean.settled (h : Clean foreign dev plain (fun _ => False) goal link) (event : Event) :
    Settled foreign link event := by
  rintro - data rest hfirst
  obtain ⟨-, -, -, arrived, hinput, hpending⟩ := h
  have hnil (hacks : ∀ ack ∈ arrived ++ link.flight, False) : link.input = [] := by
    have hempty := List.eq_nil_iff_forall_not_mem.mpr hacks
    rw [hinput, (List.append_eq_nil_iff.mp hempty).1, List.flatten_nil]
  have hnone : usbAcknowledge foreign [] = (none, []) := rfl
  cases hpending with
  | idle _ _ hacks =>
      rw [hnil hacks, hnone] at hfirst
      exact nomatch hfirst
  | asked _ _ _ _ hacks =>
      rw [hnil hacks, hnone] at hfirst
      exact nomatch hfirst
  | answered request pre ack post _ hrequest htodo hsplit hpre hpost hanswers =>
      obtain rfl := List.eq_nil_iff_forall_not_mem.mpr hpre
      obtain rfl := List.eq_nil_iff_forall_not_mem.mpr hpost
      cases arrived with
      | nil =>
          rw [hinput, List.flatten_nil, hnone] at hfirst
          exact nomatch hfirst
      | cons first arrived =>
          obtain ⟨rfl, hrest⟩ := List.cons.inj hsplit
          have hempty : arrived ++ link.flight = [] := hrest
          exact ⟨htodo, by simp [(List.append_eq_nil_iff.mp hempty).2]⟩

/-- As long as the camera does not capture, a program computes what it does to a memory, whenever
its commands are worked off and the acknowledges arrive. -/
theorem run_eq_of_quiet (hdev : dev.Documented foreign plain) {p : Prog α} (hwithin : p.Within plain 256)
    {d : δ} {events : List Event} {a : α}
    (h : Exec (Guarded (Step foreign dev) fun _ event => event ≠ .capture) (start d p) events link)
    (hret : link.host = .ret a) :
    a = (p.run (dev.registers d)).1 ∧
      Set.EqOn (dev.registers link.device) (p.run (dev.registers d)).2 plain := by
  have hclean : Clean foreign dev plain (fun _ => False) (p.run (dev.registers d)) link :=
    h.invariant (clean_start hwithin d) fun link event _ hclean hstep =>
      hclean.step hdev (fun _ hfalse => hfalse.elim) (fun heq => absurd heq hstep.2)
        (hclean.settled event) hstep.1
  have hresult := hclean.result
  have hmemory := hclean.memory
  rw [hret] at hresult hmemory
  exact ⟨hresult, hmemory⟩

/-! ### An answer that outlives its call -/

/-- **A stale answer.** Any register can be read as a plain one that was read before it: one frame at
the wrong moment is enough. -/
theorem exists_stale_answer (hdev : dev.Documented foreign plain) (d : δ) {reg reg' : Nat}
    (hreg : reg ∈ plain) (hreg' : reg' < 256) :
    ∃ events link, Exec (Step foreign dev)
      (start d do
        let value ← Prog.regread reg
        let value' ← Prog.regread reg'
        return (value, value')) events link ∧
      link.host = .ret (dev.registers d reg, dev.registers d reg) := by
  let second (value : Nat) : Prog (Nat × Nat) := .read reg' fun value' => .ret (value, value')
  let first : Prog (Nat × Nat) := .read reg second
  have hfirst : (Request.read reg).Within := hdev.plain_lt reg hreg
  have hsecond : (Request.read reg').Within := hreg'
  let command := (Request.read reg).bytes
  let command' := (Request.read reg').bytes
  let d₁ := (dev.capture d).2
  let d₂ := (dev.respond d₁ command).2
  let d₃ := (dev.respond d₂ command).2
  let frame := (dev.capture d).1
  let answer := (dev.respond d₁ command).1
  let answer' := (dev.respond d₂ command).1
  have h₁ : dev.registers d₁ reg = dev.registers d reg := hdev.registers_capture d hreg
  have h₂ : dev.registers d₂ reg = dev.registers d reg :=
    (hdev.registers_read d₁ reg hreg hreg).trans h₁
  obtain ⟨words, hframe⟩ := (hdev.capture d).usbAcknowledge []
  have hanswer {d' : δ} (h : dev.registers d' reg = dev.registers d reg) :
      usbAcknowledge foreign ((dev.respond d' command).1 ++ []) =
        (some (.ok (RREG, .value (dev.registers d reg))), []) := by
    obtain ⟨data, hspells, hdata⟩ := hdev.respond_read d' reg hreg
    rw [hspells.usbAcknowledge, usbParseAck, if_neg (by decide), if_pos rfl, hdata, h]
  rw [List.append_nil] at hframe
  simp only [List.append_nil] at hanswer
  have hresume (next : Nat → Prog (Nat × Nat)) (reg : Nat) (value : Nat) :
      resume (.read reg next) (.value value) = some (next value) := by
    rw [resume, if_pos (Int.natCast_nonneg _), Int.toNat_natCast]
  -- the frame comes before the answer to the first command, which is still to come when the host
  -- throws the frame away and writes the command again
  let s₁ : Link δ (Nat × Nat) := { device := d, host := first, waiting := true, todo := [command] }
  let s₂ : Link δ (Nat × Nat) := { s₁ with device := d₁, flight := [frame] }
  let s₃ : Link δ (Nat × Nat) := { s₂ with flight := [], input := frame }
  let s₄ : Link δ (Nat × Nat) := { s₃ with input := [], todo := [command, command] }
  let s₅ : Link δ (Nat × Nat) := { s₄ with device := d₂, todo := [command], flight := [answer] }
  let s₆ : Link δ (Nat × Nat) := { s₅ with device := d₃, todo := [], flight := [answer, answer'] }
  let s₇ : Link δ (Nat × Nat) := { s₆ with flight := [answer'], input := answer }
  let s₈ : Link δ (Nat × Nat) :=
    { s₇ with host := second (dev.registers d reg), input := [], waiting := false }
  let s₉ : Link δ (Nat × Nat) := { s₈ with todo := [command'], waiting := true }
  let s₁₀ : Link δ (Nat × Nat) := { s₉ with flight := [], input := answer' }
  let s₁₁ : Link δ (Nat × Nat) := { s₁₀ with
    host := .ret (dev.registers d reg, dev.registers d reg), input := [], waiting := false }
  have hstep₁ : (start d first).step foreign dev .send = some s₁ := rfl
  have hstep₂ : s₁.step foreign dev .capture = some s₂ := rfl
  have hstep₃ : s₂.step foreign dev .arrive = some s₃ := rfl
  have hstep₄ : s₃.step foreign dev .acknowledge = some s₄ := step_of_frame hfirst rfl rfl hframe
  have hstep₅ : s₄.step foreign dev .process = some s₅ := rfl
  have hstep₆ : s₅.step foreign dev .process = some s₆ := rfl
  have hstep₇ : s₆.step foreign dev .arrive = some s₇ := rfl
  have hstep₈ : s₇.step foreign dev .acknowledge = some s₈ :=
    step_of_answer hfirst rfl rfl (hanswer h₁) (hresume second reg _)
  have hstep₉ : s₈.step foreign dev .send = some s₉ := rfl
  have hstep₁₀ : s₉.step foreign dev .arrive = some s₁₀ := rfl
  have hstep₁₁ : s₁₀.step foreign dev .acknowledge = some s₁₁ :=
    step_of_answer hsecond rfl rfl (hanswer h₂) (hresume _ reg' _)
  exact ⟨_, _, ((((((((((Exec.nil.snoc hstep₁).snoc hstep₂).snoc hstep₃).snoc hstep₄).snoc
    hstep₅).snoc hstep₆).snoc hstep₇).snoc hstep₈).snoc hstep₉).snoc hstep₁₀).snoc hstep₁₁, rfl⟩

/-- The status is read as the frame rate. -/
theorem exists_stale_answer_evk : ∃ events link, Exec (Step (fun _ => none) evk)
    (start (fun reg => reg) do
      let value ← Prog.regread FRAME_RATE
      let value' ← Prog.regread STATUS
      return (value, value')) events link ∧
    link.host = .ret (0xB4, 0xB4) :=
  exists_stale_answer evk_documented (fun reg => reg) within_setFrameRate.1 (by decide)

end Ilumo.Senxor.Link
