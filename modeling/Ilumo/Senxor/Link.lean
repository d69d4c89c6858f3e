import Ilumo.Lib.Machine
import Ilumo.Lib.Registers
import Ilumo.Senxor.Ack

/-!
# The USB link to the camera

`USB_Interface.regread` and `regwrite` over `usb_command`, with the camera at the other end. The host
writes a command and waits for the acknowledge of that name; whatever else comes first, it throws its
input away and writes the command again. The camera works its commands off in their order, and while
it is capturing it sends frames in between. An acknowledge arrives as a whole. Some registers are
not memory, such as the status, which is cleared when it is read and tells of a frame; all others
are `plain`. A program over plain registers that runs over the link leads to what it leads to on a
memory: `Clean` is what each step keeps, as long as no answer is still on its way when the host
throws its input away.
-/

namespace Ilumo.Senxor

open Hexadecimal Registers

inductive Request where
  | read (reg : Nat)
  | write (reg value : Nat)
  deriving DecidableEq, Repr

/-- `'RREG{:02X}XXXXXX'` and `'WREG{:02X}{:02X}XXXX'`. -/
def Request.cmd : Request → List UInt8
  | read reg => RREG ++ upperHex 2 reg ++ List.replicate 6 0x58
  | write reg value => WREG ++ upperHex 2 reg ++ upperHex 2 value ++ List.replicate 4 0x58

/-- `'   #{:04X}{}'`. -/
def Request.bytes (request : Request) : List UInt8 :=
  header ++ upperHex 4 request.cmd.length ++ request.cmd

/-- `cmd[8:12]`. -/
def Request.expected (request : Request) : List UInt8 := (request.bytes.drop 8).take 4

/-- The camera: what it does with a command, the next frame it sends, and its registers. -/
structure Device (δ : Type) where
  respond : δ → List UInt8 → List UInt8 × δ
  capture : δ → List UInt8 × δ
  registers : δ → Nat → Nat

variable {δ α : Type} (foreign : List UInt8 → Option Int) (dev : Device δ)

def Frame (ack : List UInt8) : Prop := ∃ data, Spells foreign GFRA data ack ∧ 2 ∣ data.length

/-- The acknowledge that a request gets from a camera with these registers. -/
def Answers (mem : Nat → Nat) (ack : List UInt8) : Request → Prop
  | .read reg => ∃ data, Spells foreign RREG data ack ∧ decodeInt foreign data = some (mem reg : Int)
  | .write reg value => mem reg = value ∧ ∃ data, Spells foreign WREG data ack

/-- The documented commands and acknowledges, with the registers that only a write changes. Of the
others nothing is said. -/
structure Device.Documented (plain : Set Nat) : Prop where
  plain_lt : ∀ reg ∈ plain, reg < 256
  registers_lt : ∀ d, ∀ reg ∈ plain, dev.registers d reg < 256
  respond_read : ∀ d, ∀ reg ∈ plain,
    Answers foreign (dev.registers d) (dev.respond d (Request.read reg).bytes).1 (.read reg)
  registers_read : ∀ d, ∀ reg ∈ plain,
    Set.EqOn (dev.registers (dev.respond d (Request.read reg).bytes).2) (dev.registers d) plain
  respond_write : ∀ d, ∀ reg ∈ plain, ∀ value < 256,
    ∃ data, Spells foreign WREG data (dev.respond d (Request.write reg value).bytes).1
  registers_write : ∀ d, ∀ reg ∈ plain, ∀ value < 256,
    Set.EqOn (dev.registers (dev.respond d (Request.write reg value).bytes).2)
      (Function.update (dev.registers d) reg value) plain
  capture : ∀ d, Frame foreign (dev.capture d).1
  registers_capture : ∀ d, Set.EqOn (dev.registers (dev.capture d).2) (dev.registers d) plain

def request? : Prog α → Option Request
  | .ret _ => none
  | .read reg _ => some (.read reg)
  | .write reg value _ => some (.write reg value)

/-- What is left of the program once its call has returned. A camera that answers with a negative
number is left out. -/
def resume : Prog α → Data → Option (Prog α)
  | .read _ next, .value value => if 0 ≤ value then some (next value.toNat) else none
  | .write _ _ next, _ => some next
  | _, _ => none

/-- `waiting` says that the host has written the command of its next call. `todo` are the commands
the camera has not worked off and `flight` the acknowledges that have not arrived. -/
structure Link (δ α : Type) where
  device : δ
  host : Prog α
  waiting : Bool := false
  todo : List (List UInt8) := []
  flight : List (List UInt8) := []
  input : List UInt8 := []

inductive Event where
  | send
  | process
  | capture
  | arrive
  | acknowledge
  deriving DecidableEq, Repr

namespace Link

def step (link : Link δ α) : Event → Option (Link δ α)
  | .send =>
      if link.waiting then none
      else (request? link.host).map fun request =>
        { link with todo := link.todo ++ [request.bytes], waiting := true }
  | .process =>
      match link.todo with
      | [] => none
      | command :: todo =>
          let (ack, device) := dev.respond link.device command
          some { link with device, todo, flight := link.flight ++ [ack] }
  | .capture =>
      let (ack, device) := dev.capture link.device
      some { link with device, flight := link.flight ++ [ack] }
  | .arrive =>
      match link.flight with
      | [] => none
      | ack :: flight => some { link with flight, input := link.input ++ ack }
  | .acknowledge =>
      match link.waiting, request? link.host with
      | true, some request =>
          match usbAcknowledge foreign link.input with
          | (none, input) => some { link with input }
          | (some (.error _), _) => none
          | (some (.ok (cmd, data)), input) =>
              if cmd = request.expected then
                (resume link.host data).map fun host => { link with host, input, waiting := false }
              else
                some { link with input := [], todo := link.todo ++ [request.bytes] }
      | _, _ => none

def Step (link : Link δ α) (event : Event) (link' : Link δ α) : Prop :=
  link.step foreign dev event = some link'

/-- When a frame makes the host throw its input away, nothing that it has asked for is still on its
way. -/
def Settled (link : Link δ α) (event : Event) : Prop :=
  event = .acknowledge → ∀ data input,
    usbAcknowledge foreign link.input = (some (.ok (GFRA, data)), input) →
      link.todo = [] ∧ ∀ ack ∈ link.flight, (ack.drop 8).take 4 = GFRA

end Link

/-! ### Acknowledges in the input buffer -/

variable {foreign} {ack rest : List UInt8} {mem mem' : Nat → Nat} {plain : Set Nat}

theorem Spells.name {cmd data : List UInt8} (h : Spells foreign cmd data ack) :
    (ack.drop 8).take 4 = cmd := by
  obtain ⟨len, cks, hack, -, rfl⟩ := h
  have hhead : (header ++ len).length = 8 := by
    rw [List.length_append, hack.length_len]
    rfl
  rw [← List.append_assoc, List.drop_left' hhead, List.take_left' hack.length_cmd]

def Request.name : Request → List UInt8
  | read _ => RREG
  | write _ _ => WREG

def Request.Within : Request → Prop
  | read reg => reg < 256
  | write reg value => reg < 256 ∧ value < 256

theorem Request.length_cmd {request : Request} (h : request.Within) : request.cmd.length < 16 ^ 4 := by
  cases request with
  | read reg =>
      have hreg : (upperHex 2 reg).length = 2 := length_upperHex h
      simp [Request.cmd, hreg, RREG]
  | write reg value =>
      have hreg : (upperHex 2 reg).length = 2 := length_upperHex h.1
      have hvalue : (upperHex 2 value).length = 2 := length_upperHex h.2
      simp [Request.cmd, hreg, hvalue, WREG]

theorem Request.drop_bytes {request : Request} (h : request.Within) :
    request.bytes.drop 8 = request.cmd := by
  have hhead : (header ++ upperHex 4 request.cmd.length).length = 8 := by
    rw [List.length_append, length_upperHex (length_cmd h)]
    rfl
  rw [bytes, List.drop_left' hhead]

theorem Request.expected_eq {request : Request} (h : request.Within) :
    request.expected = request.name := by
  rw [expected, drop_bytes h]
  cases request with
  | read reg => rw [cmd, List.append_assoc, List.take_left' (show RREG.length = 4 from rfl), name]
  | write reg value =>
      rw [cmd, List.append_assoc, List.append_assoc,
        List.take_left' (show WREG.length = 4 from rfl), name]

def Request.reg : Request → Nat
  | read reg => reg
  | write reg _ => reg

theorem within_of_request? {p : Prog α} {request : Request} (hplain : ∀ reg ∈ plain, reg < 256)
    (h : p.Within plain 256) (hrequest : request? p = some request) :
    request.reg ∈ plain ∧ request.Within := by
  cases p with
  | ret a => exact nomatch hrequest
  | read reg next =>
      cases hrequest
      exact ⟨h.1, hplain reg h.1⟩
  | write reg value next =>
      cases hrequest
      exact ⟨h.1, hplain reg h.1, h.2.1⟩

theorem Answers.congr {request : Request} (h : Answers foreign mem ack request)
    (hsame : mem' request.reg = mem request.reg) : Answers foreign mem' ack request := by
  cases request with
  | read reg =>
      obtain ⟨data, hspells, hdata⟩ := h
      refine ⟨data, hspells, ?_⟩
      rw [hdata, ← show mem' reg = mem reg from hsame]
  | write reg value =>
      obtain ⟨hvalue, hspells⟩ := h
      exact ⟨hsame.trans hvalue, hspells⟩

theorem exists_frombuffer {data : List UInt8} (heven : 2 ∣ data.length) :
    ∃ words, frombuffer data = some words := by
  induction data using frombuffer.induct with
  | case1 => exact ⟨[], rfl⟩
  | case2 a b rest ih =>
      obtain ⟨words, hwords⟩ := ih (by simpa using heven)
      exact ⟨_, by rw [frombuffer, hwords, Option.map_some]⟩
  | case3 a =>
      rw [List.length_singleton] at heven
      omega

theorem Frame.usbAcknowledge (h : Frame foreign ack) (rest : List UInt8) :
    ∃ words, usbAcknowledge foreign (ack ++ rest) = (some (.ok (GFRA, .frame words)), rest) := by
  obtain ⟨data, hspells, heven⟩ := h
  obtain ⟨words, hwords⟩ := exists_frombuffer heven
  refine ⟨words, ?_⟩
  rw [hspells.usbAcknowledge, usbParseAck, if_neg (by decide), if_neg (by decide),
    if_neg (by decide), if_pos rfl, hwords]

/-- An answer lets the program go on just as the registers would. -/
theorem Answers.usbAcknowledge {p : Prog α} {request : Request}
    (hrequest : request? p = some request) (h : Answers foreign mem ack request)
    (plain : Set Nat) (rest : List UInt8) :
    ∃ data next, usbAcknowledge foreign (ack ++ rest) = (some (.ok (request.name, data)), rest) ∧
      resume p data = some next ∧ p.run mem = next.run mem ∧
        (p.Within plain 256 → (∀ reg ∈ plain, mem reg < 256) → next.Within plain 256) := by
  cases p with
  | ret a => exact nomatch hrequest
  | read reg next =>
      cases hrequest
      obtain ⟨data, hspells, hdata⟩ := h
      refine ⟨.value (mem reg), next (mem reg), ?_, ?_, rfl, ?_⟩
      · rw [hspells.usbAcknowledge, usbParseAck, if_neg (by decide), if_pos rfl, hdata]
        rfl
      · rw [resume, if_pos (Int.natCast_nonneg _), Int.toNat_natCast]
      · exact fun hwithin hmem => hwithin.2 _ (hmem reg hwithin.1)
  | write reg value next =>
      cases hrequest
      obtain ⟨hvalue, data, hspells⟩ := h
      refine ⟨.none, next, ?_, rfl, ?_, fun hwithin _ => hwithin.2.2⟩
      · rw [hspells.usbAcknowledge, usbParseAck, if_pos rfl]
        rfl
      · rw [Prog.run, ← hvalue, Function.update_eq_self]

theorem Answers.name_ne {request : Request} (h : Answers foreign mem ack request) :
    (ack.drop 8).take 4 ≠ GFRA := by
  cases request with
  | read reg =>
      obtain ⟨data, hspells, -⟩ := h
      rw [hspells.name]
      decide
  | write reg value =>
      obtain ⟨-, data, hspells⟩ := h
      rw [hspells.name]
      decide

variable {dev}

/-- What the camera makes of a command that the host has written. -/
theorem Device.Documented.process (hdev : dev.Documented foreign plain) {p : Prog α}
    {request : Request} (hwithin : p.Within plain 256) (hrequest : request? p = some request)
    (d : δ) :
    Answers foreign (dev.registers (dev.respond d request.bytes).2)
        (dev.respond d request.bytes).1 request ∧
      (p.run (dev.registers (dev.respond d request.bytes).2)).1 = (p.run (dev.registers d)).1 ∧
      Set.EqOn (p.run (dev.registers (dev.respond d request.bytes).2)).2
        (p.run (dev.registers d)).2 plain := by
  cases p with
  | ret a => exact nomatch hrequest
  | read reg next =>
      cases hrequest
      have hsame := hdev.registers_read d reg hwithin.1
      exact ⟨(hdev.respond_read d reg hwithin.1).congr (hsame hwithin.1),
        hwithin.run_congr (hdev.registers_lt _) hsame⟩
  | write reg value next =>
      cases hrequest
      obtain ⟨hreg, hvalue, hnext⟩ := hwithin
      have hsame := hdev.registers_write d reg hreg value hvalue
      have hself : dev.registers (dev.respond d (Request.write reg value).bytes).2 reg = value :=
        (hsame hreg).trans (Function.update_self ..)
      refine ⟨⟨hself, hdev.respond_write d reg hreg value hvalue⟩, ?_⟩
      have hupdate := Function.update_eq_self reg
        (dev.registers (dev.respond d (Request.write reg value).bytes).2)
      rw [hself] at hupdate
      rw [Prog.run, Prog.run, hupdate]
      exact hnext.run_congr (hdev.registers_lt _) hsame

/-! ### One answer at a time -/

namespace Link

variable (foreign dev)

/-- Of the acknowledges on their way or in the input buffer, one at most is an answer, to the
request of the host's next call; all others are of the kind `F`. -/
inductive Pending (F : List UInt8 → Prop) (link : Link δ α) (acks : List (List UInt8)) : Prop
  | idle (hwaiting : link.waiting = false) (htodo : link.todo = []) (hacks : ∀ ack ∈ acks, F ack)
  | asked (request : Request) (hwaiting : link.waiting = true)
      (hrequest : request? link.host = some request) (htodo : link.todo = [request.bytes])
      (hacks : ∀ ack ∈ acks, F ack)
  | answered (request : Request) (pre : List (List UInt8)) (ack : List UInt8)
      (post : List (List UInt8)) (hwaiting : link.waiting = true)
      (hrequest : request? link.host = some request) (htodo : link.todo = [])
      (hsplit : acks = pre ++ ack :: post) (hpre : ∀ other ∈ pre, F other)
      (hpost : ∀ other ∈ post, F other)
      (hanswers : Answers foreign (dev.registers link.device) ack request)

/-- The rest of the program leads to the goal, and no answer but the one awaited is to come. -/
structure Clean (plain : Set Nat) (F : List UInt8 → Prop) (goal : α × (Nat → Nat))
    (link : Link δ α) : Prop where
  within : link.host.Within plain 256
  result : (link.host.run (dev.registers link.device)).1 = goal.1
  memory : Set.EqOn (link.host.run (dev.registers link.device)).2 goal.2 plain
  pending : ∃ arrived : List (List UInt8), link.input = arrived.flatten ∧
    Pending foreign dev F link (arrived ++ link.flight)

variable {foreign dev} {F : List UInt8 → Prop} {goal : α × (Nat → Nat)} {link link' : Link δ α}

theorem Clean.send (h : Clean foreign dev plain F goal link)
    (hstep : Step foreign dev link .send link') : Clean foreign dev plain F goal link' := by
  obtain ⟨hwithin, hresult, hmemory, arrived, hinput, hpending⟩ := h
  simp only [Step, step] at hstep
  split_ifs at hstep with hwaiting
  obtain ⟨request, hrequest, rfl⟩ := Option.map_eq_some_iff.mp hstep
  refine ⟨hwithin, hresult, hmemory, arrived, hinput, ?_⟩
  cases hpending with
  | idle _ htodo hacks =>
      refine .asked request rfl hrequest ?_ hacks
      rw [htodo, List.nil_append]
  | asked _ hwaiting' _ _ _ => exact absurd hwaiting' hwaiting
  | answered _ _ _ _ hwaiting' _ _ _ _ _ _ => exact absurd hwaiting' hwaiting

theorem Clean.process (hdev : dev.Documented foreign plain) (h : Clean foreign dev plain F goal link)
    (hstep : Step foreign dev link .process link') : Clean foreign dev plain F goal link' := by
  obtain ⟨hwithin, hresult, hmemory, arrived, hinput, hpending⟩ := h
  cases hpending with
  | idle _ htodo _ => simp [Step, step, htodo] at hstep
  | answered _ _ _ _ _ _ htodo _ _ _ _ => simp [Step, step, htodo] at hstep
  | asked request hwaiting hrequest htodo hacks =>
      simp only [Step, step, htodo, Option.some_inj] at hstep
      subst hstep
      obtain ⟨hanswers, hsame, hsame'⟩ := hdev.process hwithin hrequest link.device
      refine ⟨hwithin, hsame.trans hresult, hsame'.trans hmemory, arrived, hinput, ?_⟩
      refine .answered request (arrived ++ link.flight) _ [] hwaiting hrequest rfl ?_ hacks
        (by simp) hanswers
      rw [List.append_assoc]

theorem Clean.capture (hdev : dev.Documented foreign plain) (h : Clean foreign dev plain F goal link)
    (hframe : F (dev.capture link.device).1)
    (hstep : Step foreign dev link .capture link') : Clean foreign dev plain F goal link' := by
  obtain ⟨hwithin, hresult, hmemory, arrived, hinput, hpending⟩ := h
  simp only [Step, step, Option.some_inj] at hstep
  subst hstep
  have hregisters := hdev.registers_capture link.device
  obtain ⟨hsame, hsame'⟩ := hwithin.run_congr (hdev.registers_lt _) hregisters
  refine ⟨hwithin, hsame.trans hresult, hsame'.trans hmemory, arrived, hinput, ?_⟩
  rw [← List.append_assoc]
  have hsnoc {acks : List (List UInt8)} (hacks : ∀ ack ∈ acks, F ack) :
      ∀ ack ∈ acks ++ [(dev.capture link.device).1], F ack := by
    intro ack hack
    rcases List.mem_append.mp hack with hack | hack
    · exact hacks ack hack
    · exact List.mem_singleton.mp hack ▸ hframe
  cases hpending with
  | idle hwaiting htodo hacks => exact .idle hwaiting htodo (hsnoc hacks)
  | asked request hwaiting hrequest htodo hacks =>
      exact .asked request hwaiting hrequest htodo (hsnoc hacks)
  | answered request pre ack post hwaiting hrequest htodo hsplit hpre hpost hanswers =>
      refine .answered request pre ack _ hwaiting hrequest htodo ?_ hpre (hsnoc hpost) ?_
      · rw [hsplit, List.append_assoc, List.cons_append]
      · have hreg := (within_of_request? hdev.plain_lt hwithin hrequest).1
        exact hanswers.congr (hregisters hreg)

theorem Clean.arrive (h : Clean foreign dev plain F goal link)
    (hstep : Step foreign dev link .arrive link') : Clean foreign dev plain F goal link' := by
  obtain ⟨hwithin, hresult, hmemory, arrived, hinput, hpending⟩ := h
  cases hflight : link.flight with
  | nil => simp [Step, step, hflight] at hstep
  | cons ack flight =>
      simp only [Step, step, hflight, Option.some_inj] at hstep
      subst hstep
      have hsame : arrived ++ link.flight = arrived ++ [ack] ++ flight := by
        rw [hflight, List.append_assoc, List.singleton_append]
      refine ⟨hwithin, hresult, hmemory, arrived ++ [ack], ?_, ?_⟩
      · rw [hinput, List.flatten_append, List.flatten_singleton]
      · rw [hsame] at hpending
        cases hpending with
        | idle hwaiting htodo hacks => exact .idle hwaiting htodo hacks
        | asked request hwaiting hrequest htodo hacks =>
            exact .asked request hwaiting hrequest htodo hacks
        | answered request pre ack post hwaiting hrequest htodo hsplit hpre hpost hanswers =>
            exact .answered request pre ack post hwaiting hrequest htodo hsplit hpre hpost hanswers

theorem step_of_empty {request : Request} (hwaiting : link.waiting = true)
    (hrequest : request? link.host = some request) (hinput : link.input = []) :
    link.step foreign dev .acknowledge = some link := by
  have hnone : usbAcknowledge foreign [] = (none, []) := rfl
  simp only [step, hwaiting, hrequest, hinput, hnone]
  rw [← hinput, ← hwaiting]

theorem step_of_frame {request : Request} {data : Data} {rest : List UInt8}
    (hwithin : request.Within) (hwaiting : link.waiting = true)
    (hrequest : request? link.host = some request)
    (hack : usbAcknowledge foreign link.input = (some (.ok (GFRA, data)), rest)) :
    link.step foreign dev .acknowledge =
      some { link with input := [], todo := link.todo ++ [request.bytes] } := by
  have hne : GFRA ≠ request.expected := by
    rw [Request.expected_eq hwithin]
    cases request with
    | read reg => exact show GFRA ≠ RREG by decide
    | write reg value => exact show GFRA ≠ WREG by decide
  simp only [step, hwaiting, hrequest, hack]
  rw [if_neg hne]

theorem step_of_answer {request : Request} {data : Data} {rest : List UInt8} {next : Prog α}
    (hwithin : request.Within) (hwaiting : link.waiting = true)
    (hrequest : request? link.host = some request)
    (hack : usbAcknowledge foreign link.input = (some (.ok (request.name, data)), rest))
    (hresume : resume link.host data = some next) :
    link.step foreign dev .acknowledge =
      some { link with host := next, input := rest, waiting := false } := by
  simp only [step, hwaiting, hrequest, hack]
  rw [if_pos (Request.expected_eq hwithin).symm, hresume, Option.map_some]

theorem Clean.acknowledge (hdev : dev.Documented foreign plain) (hF : ∀ ack, F ack → Frame foreign ack)
    (h : Clean foreign dev plain F goal link) (hsettled : Settled foreign link .acknowledge)
    (hstep : Step foreign dev link .acknowledge link') : Clean foreign dev plain F goal link' := by
  obtain ⟨hwithin, hresult, hmemory, arrived, hinput, hpending⟩ := h
  have hbounded {request : Request} (hrequest : request? link.host = some request) :
      request.Within := (within_of_request? hdev.plain_lt hwithin hrequest).2
  rw [Step] at hstep
  cases hpending with
  | idle hwaiting _ _ => simp [step, hwaiting] at hstep
  | asked request hwaiting hrequest htodo hacks =>
      cases arrived with
      | nil =>
          rw [step_of_empty hwaiting hrequest hinput] at hstep
          cases hstep
          exact ⟨hwithin, hresult, hmemory, [], hinput, .asked request hwaiting hrequest htodo hacks⟩
      | cons first arrived =>
          obtain ⟨words, hfirst⟩ :=
            (hF first (hacks first (by simp))).usbAcknowledge arrived.flatten
          rw [← List.flatten_cons, ← hinput] at hfirst
          rw [(hsettled rfl _ _ hfirst).1] at htodo
          exact nomatch htodo
  | answered request pre ack post hwaiting hrequest htodo hsplit hpre hpost hanswers =>
      cases arrived with
      | nil =>
          rw [step_of_empty hwaiting hrequest hinput] at hstep
          cases hstep
          exact ⟨hwithin, hresult, hmemory, [], hinput,
            .answered request pre ack post hwaiting hrequest htodo hsplit hpre hpost hanswers⟩
      | cons first arrived =>
          cases pre with
          | nil =>
              rw [List.cons_append, List.nil_append] at hsplit
              obtain ⟨rfl, hrest⟩ := List.cons.inj hsplit
              obtain ⟨data, next, hfirst, hresume, hnext, hbound⟩ :=
                hanswers.usbAcknowledge hrequest plain arrived.flatten
              rw [← List.flatten_cons, ← hinput] at hfirst
              rw [step_of_answer (hbounded hrequest) hwaiting hrequest hfirst hresume] at hstep
              cases hstep
              rw [hnext] at hresult hmemory
              refine ⟨hbound hwithin (hdev.registers_lt _), hresult, hmemory, arrived, rfl, ?_⟩
              exact .idle rfl htodo (hrest ▸ hpost)
          | cons frame pre =>
              rw [List.cons_append, List.cons_append] at hsplit
              obtain ⟨rfl, hrest⟩ := List.cons.inj hsplit
              obtain ⟨words, hfirst⟩ :=
                (hF first (hpre first (by simp))).usbAcknowledge arrived.flatten
              rw [← List.flatten_cons, ← hinput] at hfirst
              obtain ⟨-, hflight⟩ := hsettled rfl _ _ hfirst
              rw [step_of_frame (hbounded hrequest) hwaiting hrequest hfirst] at hstep
              cases hstep
              refine ⟨hwithin, hresult, hmemory, [], rfl, .asked request hwaiting hrequest ?_ ?_⟩
              · rw [htodo, List.nil_append]
              · intro other hother
                have hmem : other ∈ pre ++ ack :: post :=
                  hrest ▸ List.mem_append_right arrived hother
                rcases List.mem_append.mp hmem with hmem | hmem
                · exact hpre other (by simp [hmem])
                rcases List.mem_cons.mp hmem with rfl | hmem
                · exact absurd (hflight other hother) hanswers.name_ne
                · exact hpost other hmem

theorem Clean.step (hdev : dev.Documented foreign plain) (hF : ∀ ack, F ack → Frame foreign ack)
    {event : Event} (h : Clean foreign dev plain F goal link)
    (hframe : event = .capture → F (dev.capture link.device).1)
    (hsettled : Settled foreign link event) (hstep : Step foreign dev link event link') :
    Clean foreign dev plain F goal link' := by
  cases event with
  | send => exact h.send hstep
  | process => exact h.process hdev hstep
  | capture => exact h.capture hdev (hframe rfl) hstep
  | arrive => exact h.arrive hstep
  | acknowledge => exact h.acknowledge hdev hF hsettled hstep

/-! ### Runs -/

/-- The link before the first call of a program. -/
def start (d : δ) (p : Prog α) : Link δ α := { device := d, host := p }

theorem clean_start {p : Prog α} (hwithin : p.Within plain 256) (d : δ) :
    Clean foreign dev plain F (p.run (dev.registers d)) (start d p) :=
  ⟨hwithin, rfl, Set.eqOn_refl _ _, [], rfl, .idle rfl rfl (by simp [start])⟩

variable (foreign dev) in
/-- A run in which the host never throws its input away too early. -/
abbrev Run : Link δ α → List Event → Link δ α → Prop :=
  Machine.Exec (Machine.Guarded (Step foreign dev) (Settled foreign))

theorem Clean.exec (hdev : dev.Documented foreign plain) {events : List Event}
    (h : Clean foreign dev plain (Frame foreign) goal link) (hrun : Run foreign dev link events link') :
    Clean foreign dev plain (Frame foreign) goal link' :=
  hrun.invariant h fun link _ _ hclean hstep =>
    hclean.step hdev (fun _ => id) (fun _ => hdev.capture link.device) hstep.2 hstep.1

end Link

end Ilumo.Senxor
