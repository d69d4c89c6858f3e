import Ilumo.Lib.Bytes
import Ilumo.Senxor.Progress

/-!
# Settings of the camera

The methods of `MI48` that read, change and write its registers, as programs over registers. Two
of them share a register: `enable_filter` and `disable_filter` change their own bits of the filter
control register and leave the others, so whatever the order of the calls, each bit is as the last
call that was about it has left it. The compensation parameters are single precision numbers in
consecutive registers, which are those of the user flash while it is enabled; floating point itself
is left out, so a parameter is the word that `struct.pack` makes of it.
-/

namespace Ilumo.Senxor.Mi48

open Registers Prog Bytes

/-! ### Filters -/

def FILTER_CTRL : Nat := 0xD0

def FILTER_1_LSB : Nat := 0xD1

def FILTER_1_MSB : Nat := 0xD2

def FILTER_2 : Nat := 0xD3

/-- The registers of the filters. -/
def filterRegisters : Set Nat := {FILTER_CTRL, FILTER_1_LSB, FILTER_1_MSB, FILTER_2}

def getFilterCtrl : Prog Nat := regread FILTER_CTRL

/-- The class defines it twice, and this is the later definition. -/
def getFilter1 : Prog Nat := do
  let lsb ← regread FILTER_1_LSB
  let msb ← regread FILTER_1_MSB
  return (msb <<< 8) + lsb

def getFilter2 : Prog Nat := regread FILTER_2

def setFilter1 (setting : Nat) : Prog Unit := do
  let lsb := setting &&& 0xFF
  let msb := (setting &&& 0xFF00) >>> 8
  regwrite FILTER_1_LSB lsb
  regwrite FILTER_1_MSB msb

def setFilter2 (setting : Nat) : Prog Unit := regwrite FILTER_2 setting

/-- `fctrl` with the bits of the filters that are asked for. -/
def enabled (f1 f2 f3 f3Ks5 : Bool) (fctrl : Nat) : Nat :=
  let fctrl := if f1 then fctrl ||| 0x03 else fctrl
  let fctrl := if f2 then fctrl ||| 0x04 else fctrl
  let fctrl := if f3 then fctrl ||| 0x40 else fctrl
  if f3Ks5 then fctrl ||| 0x20 else fctrl

def disabled (f1 f2 f3 : Bool) (fctrl : Nat) : Nat :=
  let fctrl := if f1 then fctrl &&& 0xFC else fctrl
  let fctrl := if f2 then fctrl &&& 0xFB else fctrl
  if f3 then fctrl &&& 0xBF else fctrl

/-- The settings of the filters that are on are read for the log. -/
def logFilters (fctrl : Nat) : Prog Unit := do
  if fctrl &&& 0x01 ≠ 0 then discard getFilter1
  if fctrl &&& 0x04 ≠ 0 then discard getFilter2

def enableFilter (f1 f2 f3 f3Ks5 : Bool) : Prog Unit := do
  let fctrl ← regread FILTER_CTRL
  let fctrl := enabled f1 f2 f3 f3Ks5 fctrl
  logFilters fctrl
  regwrite FILTER_CTRL fctrl
  discard getFilterCtrl

def disableFilter (f1 f2 f3 : Bool) : Prog Unit := do
  let fctrl ← regread FILTER_CTRL
  regwrite FILTER_CTRL (disabled f1 f2 f3 fctrl)
  discard getFilterCtrl

theorem run_logFilters (fctrl : Nat) (mem : Nat → Nat) :
    (logFilters fctrl).run mem = ((), mem) := by
  rw [logFilters]
  split <;> split <;> rfl

theorem within_logFilters {S : Set Nat} (hS : filterRegisters ⊆ S) (fctrl : Nat) :
    (logFilters fctrl).Within S 256 := by
  have hreg : FILTER_1_LSB ∈ S ∧ FILTER_1_MSB ∈ S ∧ FILTER_2 ∈ S :=
    ⟨hS (by simp [filterRegisters]), hS (by simp [filterRegisters]), hS (by simp [filterRegisters])⟩
  rw [logFilters]
  split <;> split
  · exact ⟨hreg.1, fun _ _ => ⟨hreg.2.1, fun _ _ => ⟨hreg.2.2, fun _ _ => trivial⟩⟩⟩
  · exact ⟨hreg.1, fun _ _ => ⟨hreg.2.1, fun _ _ => trivial⟩⟩
  · exact ⟨hreg.2.2, fun _ _ => trivial⟩
  · trivial

theorem keeps_logFilters {S : Set Nat} (fctrl : Nat) : (logFilters fctrl).Keeps S := by
  rw [logFilters]
  split <;> split
  · exact fun _ _ _ => trivial
  · exact fun _ _ => trivial
  · exact fun _ => trivial
  · trivial

inductive FilterCall where
  | enable (f1 f2 f3 f3Ks5 : Bool)
  | disable (f1 f2 f3 : Bool)
  deriving DecidableEq, Repr

namespace FilterCall

def prog : FilterCall → Prog Unit
  | enable f1 f2 f3 f3Ks5 => enableFilter f1 f2 f3 f3Ks5
  | disable f1 f2 f3 => disableFilter f1 f2 f3

def apply : FilterCall → Nat → Nat
  | enable f1 f2 f3 f3Ks5 => enabled f1 f2 f3 f3Ks5
  | disable f1 f2 f3 => disabled f1 f2 f3

/-- The call is about the filter that the bit belongs to. Nothing ever takes bit 5 back. -/
def mentions : FilterCall → Nat → Bool
  | enable f1 f2 f3 f3Ks5, i =>
      (f1 && (i == 0 || i == 1)) || (f2 && i == 2) || (f3 && i == 6) || (f3Ks5 && i == 5)
  | disable f1 f2 f3, i => (f1 && (i == 0 || i == 1)) || (f2 && i == 2) || (f3 && i == 6)

def enables : FilterCall → Bool
  | enable _ _ _ _ => true
  | disable _ _ _ => false

theorem run_prog (call : FilterCall) (mem : Nat → Nat) :
    (call.prog.run mem).2 = Function.update mem FILTER_CTRL (call.apply (mem FILTER_CTRL)) := by
  cases call with
  | enable f1 f2 f3 f3Ks5 =>
      rw [prog, enableFilter, run_bind, run_regread, run_bind, run_logFilters]
      rfl
  | disable f1 f2 f3 => rfl

theorem apply_lt (call : FilterCall) {fctrl : Nat} (h : fctrl < 256) : call.apply fctrl < 256 := by
  cases call with
  | enable f1 f2 f3 f3Ks5 =>
      have hor {fctrl : Nat} (h : fctrl < 256) (b : Bool) {mask : Nat} (hmask : mask < 256) :
          (if b then fctrl ||| mask else fctrl) < 256 := by
        split
        · exact Nat.or_lt_two_pow (n := 8) h hmask
        · exact h
      exact hor (hor (hor (hor h f1 (by decide)) f2 (by decide)) f3 (by decide)) f3Ks5 (by decide)
  | disable f1 f2 f3 =>
      have hand {fctrl : Nat} (h : fctrl < 256) (b : Bool) (mask : Nat) :
          (if b then fctrl &&& mask else fctrl) < 256 := by
        split
        · exact Nat.lt_of_le_of_lt Nat.and_le_left h
        · exact h
      exact hand (hand (hand h f1 _) f2 _) f3 _

theorem within_prog {S : Set Nat} (hS : filterRegisters ⊆ S) (call : FilterCall) :
    call.prog.Within S 256 := by
  have hctrl : FILTER_CTRL ∈ S := hS (Set.mem_insert ..)
  cases call with
  | enable f1 f2 f3 f3Ks5 =>
      refine ⟨hctrl, fun fctrl hfctrl => (within_logFilters hS _).bind fun _ => ?_⟩
      exact ⟨hctrl, apply_lt (.enable f1 f2 f3 f3Ks5) hfctrl, hctrl, fun _ _ => trivial⟩
  | disable f1 f2 f3 =>
      refine ⟨hctrl, fun fctrl hfctrl => ?_⟩
      exact ⟨hctrl, apply_lt (.disable f1 f2 f3) hfctrl, hctrl, fun _ _ => trivial⟩

theorem keeps_prog {S : Set Nat} (hS : FILTER_CTRL ∉ S) (call : FilterCall) :
    call.prog.Keeps S := by
  cases call with
  | enable f1 f2 f3 f3Ks5 =>
      exact fun _ => (keeps_logFilters _).bind fun _ => ⟨hS, fun _ => trivial⟩
  | disable f1 f2 f3 => exact fun _ => ⟨hS, fun _ => trivial⟩

/-- Which bits the masks of the two methods are made of. -/
theorem testBit_masks {i : Nat} (hi : i < 8) :
    (Nat.testBit 0x03 i = (i == 0 || i == 1) ∧ Nat.testBit 0x04 i = (i == 2) ∧
      Nat.testBit 0x40 i = (i == 6) ∧ Nat.testBit 0x20 i = (i == 5)) ∧
    Nat.testBit 0xFC i = !(i == 0 || i == 1) ∧ Nat.testBit 0xFB i = !(i == 2) ∧
      Nat.testBit 0xBF i = !(i == 6) := by
  revert i
  decide

theorem testBit_apply (call : FilterCall) {fctrl : Nat} (h : fctrl < 256) (i : Nat) :
    (call.apply fctrl).testBit i =
      if call.mentions i then call.enables else fctrl.testBit i := by
  by_cases hi : i < 8
  · obtain ⟨⟨h03, h04, h40, h20⟩, hFC, hFB, hBF⟩ := testBit_masks hi
    cases call with
    | enable f1 f2 f3 f3Ks5 =>
        have hor (fctrl mask : Nat) (b : Bool) : (if b then fctrl ||| mask else fctrl).testBit i =
            (fctrl.testBit i || (b && mask.testBit i)) := by
          cases b <;> simp [Nat.testBit_or]
        have hbits : ∀ bit a b c d : Bool,
            (bit || a || b || c || d) = if a || b || c || d then true else bit := by decide
        simp only [apply, enabled, hor, h03, h04, h40, h20]
        exact hbits _ _ _ _ _
    | disable f1 f2 f3 =>
        have hand (fctrl mask : Nat) (b : Bool) : (if b then fctrl &&& mask else fctrl).testBit i =
            (fctrl.testBit i && (!b || mask.testBit i)) := by
          cases b <;> simp [Nat.testBit_and]
        have hbits : ∀ bit f1 a f2 b f3 c : Bool,
            (bit && (!f1 || !a) && (!f2 || !b) && (!f3 || !c)) =
              if f1 && a || f2 && b || f3 && c then false else bit := by decide
        simp only [apply, disabled, hand, hFC, hFB, hBF]
        exact hbits _ _ _ _ _ _ _
  · -- no filter has a bit beyond the register
    have hlt : 2 ^ 8 ≤ 2 ^ i := Nat.pow_le_pow_right (by decide) (by omega)
    have happly := call.apply_lt h
    rw [Nat.testBit_lt_two_pow (by omega), Nat.testBit_lt_two_pow (by omega), if_neg]
    have hne {k : Nat} (hk : k < 8) : (i == k) = false := by
      simp only [beq_eq_false_iff_ne]
      omega
    cases call <;> simp [mentions, hne]

/-- Each bit is as the last call that is about it leaves it. -/
theorem run_forM (calls : List FilterCall) (mem : Nat → Nat) :
    ((calls.forM prog).run mem).2 =
      Function.update mem FILTER_CTRL (calls.foldl (fun fctrl call => call.apply fctrl)
        (mem FILTER_CTRL)) := by
  induction calls generalizing mem with
  | nil => exact (Function.update_eq_self FILTER_CTRL mem).symm
  | cons call calls ih =>
      rw [run_forM_cons, ih, run_prog, Function.update_self, Function.update_idem, List.foldl_cons]

theorem testBit_foldl (calls : List FilterCall) {fctrl : Nat} (h : fctrl < 256) (i : Nat) :
    (calls.foldl (fun fctrl call => call.apply fctrl) fctrl).testBit i =
      (calls.reverse.find? (·.mentions i)).elim (fctrl.testBit i) enables := by
  induction calls generalizing fctrl with
  | nil => rfl
  | cons call calls ih =>
      rw [List.foldl_cons, ih (call.apply_lt h), List.reverse_cons, List.find?_append]
      cases calls.reverse.find? (·.mentions i) with
      | some last => rfl
      | none =>
          rw [Option.none_or, testBit_apply call h, List.find?_singleton, Option.elim_none]
          split <;> rfl

end FilterCall

variable {δ : Type} {foreign : List UInt8 → Option Int} {dev : Device δ} {plain : Set Nat}
  {link : Link δ Unit}

/-- **Filters.** After any sequence of calls, over the link and however the frames come in between,
each bit of the control register is as the last call that is about it has left it, and no other
plain register has changed. -/
theorem testBit_filterCtrl (hdev : dev.Documented foreign plain)
    (hfilters : filterRegisters ⊆ plain) {d : δ} {calls : List FilterCall} {events : List Event}
    (h : Link.Run foreign dev (Link.start d (calls.forM FilterCall.prog))
      events link) (hret : link.host = .ret ()) :
    (∀ i, (dev.registers link.device FILTER_CTRL).testBit i =
      (calls.reverse.find? (·.mentions i)).elim ((dev.registers d FILTER_CTRL).testBit i)
        FilterCall.enables) ∧
    ∀ reg ∈ plain, reg ≠ FILTER_CTRL →
      dev.registers link.device reg = dev.registers d reg := by
  have hwithin : (calls.forM FilterCall.prog).Within plain 256 :=
    .forM fun call _ => call.within_prog hfilters
  have hctrl : FILTER_CTRL ∈ plain := hfilters (Set.mem_insert ..)
  have hmemory := ((Link.clean_start hwithin d).exec hdev h).memory
  rw [hret, FilterCall.run_forM calls (dev.registers d)] at hmemory
  refine ⟨fun i => ?_, fun reg hreg hne => ?_⟩
  · have hvalue : dev.registers link.device FILTER_CTRL = _ :=
      (hmemory hctrl).trans (Function.update_self ..)
    rw [hvalue]
    exact FilterCall.testBit_foldl calls (hdev.registers_lt d FILTER_CTRL hctrl) i
  · exact (hmemory hreg).trans (Function.update_of_ne hne ..)

theorem filterRegisters_subset_evkPlain : filterRegisters ⊆ Link.evkPlain := by
  rintro reg (rfl | rfl | rfl | rfl) <;> exact ⟨by decide, by decide⟩

/-- Filter 1 has been turned on and off again, filter 3 was on before. -/
theorem testBit_filterCtrl_evk : ∃ events link,
    Link.Run (fun _ => none) Link.evk (Link.start (fun _ => 0x60)
      ([.enable true true false false, .disable true false true].forM FilterCall.prog)) events
      link ∧
    ((Link.evk.registers link.device FILTER_CTRL).testBit 5 = true ∧
      (Link.evk.registers link.device FILTER_CTRL).testBit 2 = true ∧
      (Link.evk.registers link.device FILTER_CTRL).testBit 1 = false ∧
      (Link.evk.registers link.device FILTER_CTRL).testBit 6 = false) ∧
    Link.evk.registers link.device FILTER_2 = 0x60 := by
  obtain ⟨events, link, hrun, hret⟩ :=
    (Link.clean_start (.forM fun call _ => FilterCall.within_prog filterRegisters_subset_evkPlain call)
      fun _ => 0x60).can_return Link.evk_documented
  obtain ⟨hbits, hothers⟩ :=
    testBit_filterCtrl Link.evk_documented filterRegisters_subset_evkPlain hrun hret
  exact ⟨events, link, hrun, ⟨hbits 5, hbits 2, hbits 1, hbits 6⟩,
    hothers FILTER_2 ⟨by decide, by decide⟩ (by decide)⟩

/-! ### Settings of filter 1 -/

/-- A setting is read back modulo `2 ^ 16`. -/
theorem run_setFilter1_getFilter1 (setting : Nat) (mem : Nat → Nat) :
    ((do
      setFilter1 setting
      getFilter1).run mem).1 = setting % 65536 := by
  have hlsb : setting &&& 0xFF = setting % 2 ^ 8 := Nat.and_two_pow_sub_one_eq_mod setting 8
  have hmsb : (setting &&& 0xFF00) >>> 8 = setting / 2 ^ 8 % 2 ^ 8 := by
    rw [Nat.shiftRight_and_distrib, Nat.shiftRight_eq_div_pow]
    exact Nat.and_two_pow_sub_one_eq_mod _ 8
  rw [setFilter1, getFilter1]
  simp only [run_bind, run_regwrite, run_regread, run_pure]
  rw [Function.update_self, Function.update_of_ne (by decide), Function.update_self, hlsb, hmsb,
    Nat.shiftLeft_eq]
  omega

/-! ### Compensation parameters -/

def storeCompensationParams (params : List UInt32) (baseAddr : Nat) : Prog Unit :=
  params.zipIdx.forM fun (p, i) =>
    (leBytes 4 p.toNat).zipIdx.forM fun (uint8, j) => regwrite (baseAddr + 4 * i + j) uint8.toNat

def getCompensationParams (npar baseAddr : Nat) : Prog (List UInt32) :=
  (List.range npar).mapM fun i => do
    let intList ← (List.range 4).mapM fun j => regread (baseAddr + 4 * i + j)
    return UInt32.ofNat (leValue (intList.map UInt8.ofNat))

/-- The parameter in the four registers from `addr` on. -/
def paramAt (mem : Nat → Nat) (addr : Nat) : UInt32 :=
  UInt32.ofNat (leValue (((List.range 4).map fun j => mem (addr + j)).map UInt8.ofNat))

theorem paramAt_congr {mem mem' : Nat → Nat} {addr : Nat}
    (h : ∀ j < 4, mem (addr + j) = mem' (addr + j)) : paramAt mem addr = paramAt mem' addr := by
  rw [paramAt, paramAt, List.map_congr_left fun j hj => h j (List.mem_range.mp hj)]

theorem run_getCompensationParams (npar baseAddr : Nat) (mem : Nat → Nat) :
    (getCompensationParams npar baseAddr).run mem =
      ((List.range npar).map fun i => paramAt mem (baseAddr + 4 * i), mem) := by
  refine run_mapM fun i _ => ?_
  have hbytes : ((List.range 4).mapM fun j => regread (baseAddr + 4 * i + j)).run mem =
      ((List.range 4).map fun j => mem (baseAddr + 4 * i + j), mem) := run_mapM fun _ _ => rfl
  rw [run_bind, hbytes]
  rfl

/-- What the inner loop of `store_compensation_params` does. -/
def storeParam (p : UInt32) (addr : Nat) : Prog Unit :=
  (leBytes 4 p.toNat).zipIdx.forM fun (uint8, j) => regwrite (addr + j) uint8.toNat

theorem run_storeParam (p : UInt32) (addr : Nat) (mem : Nat → Nat) :
    paramAt ((storeParam p addr).run mem).2 addr = p ∧
      ∀ other, other < addr ∨ addr + 4 ≤ other → ((storeParam p addr).run mem).2 other = mem other := by
  obtain ⟨a, b, c, d, hbytes⟩ : ∃ a b c d, leBytes 4 p.toNat = [a, b, c, d] := ⟨_, _, _, _, rfl⟩
  have hmem : ((storeParam p addr).run mem).2 =
      Function.update (Function.update (Function.update (Function.update mem (addr + 0) a.toNat)
        (addr + 1) b.toNat) (addr + 2) c.toNat) (addr + 3) d.toNat := by
    rw [storeParam, hbytes]
    rfl
  rw [hmem]
  refine ⟨?_, fun other hother => ?_⟩
  · have hread : ((List.range 4).map fun j => Function.update (Function.update (Function.update
        (Function.update mem (addr + 0) a.toNat) (addr + 1) b.toNat) (addr + 2) c.toNat) (addr + 3)
        d.toNat (addr + j)).map UInt8.ofNat = leBytes 4 p.toNat := by
      rw [hbytes]
      simp [List.range_succ, Function.update_apply]
    have hword : p.toNat < 256 ^ 4 := p.toNat_lt
    rw [paramAt, hread, leValue_leBytes, Nat.mod_eq_of_lt hword, UInt32.ofNat_toNat]
  · simp only [Function.update_apply]
    rw [if_neg (by omega), if_neg (by omega), if_neg (by omega), if_neg (by omega)]

/-- The outer loop, by the address it has come to. -/
def storeParams : List UInt32 → Nat → Prog Unit
  | [], _ => pure ()
  | p :: params, addr => do
      storeParam p addr
      storeParams params (addr + 4)

theorem storeCompensationParams_eq (params : List UInt32) (baseAddr : Nat) :
    storeCompensationParams params baseAddr = storeParams params baseAddr := by
  have hloop (k : Nat) : ((params.zipIdx k).forM fun entry =>
      storeParam entry.1 (baseAddr + 4 * entry.2)) = storeParams params (baseAddr + 4 * k) := by
    induction params generalizing k with
    | nil => rfl
    | cons p params ih =>
        rw [List.zipIdx_cons, storeParams]
        exact congrArg (storeParam p (baseAddr + 4 * k) >>= ·) (funext fun _ => ih (k + 1))
  exact hloop 0

theorem run_storeParams_of_lt {params : List UInt32} {addr other : Nat} (hother : other < addr)
    (mem : Nat → Nat) : ((storeParams params addr).run mem).2 other = mem other := by
  induction params generalizing addr mem with
  | nil => rfl
  | cons p params ih =>
      rw [storeParams, run_bind, ih (by omega)]
      exact (run_storeParam p addr mem).2 other (Or.inl hother)

theorem paramAt_storeParams {params : List UInt32} {i : Nat} (hi : i < params.length) (addr : Nat)
    (mem : Nat → Nat) : paramAt ((storeParams params addr).run mem).2 (addr + 4 * i) = params[i] := by
  induction params generalizing addr mem i with
  | nil => exact absurd hi (by simp)
  | cons p params ih =>
      rw [storeParams, run_bind]
      cases i with
      | zero =>
          -- the parameters that follow are stored above this one
          rw [List.getElem_cons_zero]
          refine (paramAt_congr fun j hj => ?_).trans (run_storeParam p addr mem).1
          exact run_storeParams_of_lt (by omega) _
      | succ i =>
          rw [List.getElem_cons_succ, ← ih (by simpa using hi) (addr + 4) ((storeParam p addr).run mem).2]
          congr 1
          omega

/-- The registers of `npar` parameters. -/
def paramRegisters (npar baseAddr : Nat) : Set Nat := Set.Ico baseAddr (baseAddr + 4 * npar)

theorem within_storeCompensationParams (params : List UInt32) {baseAddr : Nat}
    (hplain : paramRegisters params.length baseAddr ⊆ plain) :
    (storeCompensationParams params baseAddr).Within plain 256 := by
  refine .forM fun entry hentry => .forM fun byte hbyte => ?_
  obtain ⟨-, hi, -⟩ := List.mem_zipIdx hentry
  obtain ⟨-, hj, -⟩ := List.mem_zipIdx hbyte
  rw [length_leBytes] at hj
  exact ⟨hplain ⟨by omega, by omega⟩, byte.1.toNat_lt, trivial⟩

theorem within_getCompensationParams {npar baseAddr : Nat}
    (hplain : paramRegisters npar baseAddr ⊆ plain) :
    (getCompensationParams npar baseAddr).Within plain 256 := by
  refine .mapM fun i hi => (Within.mapM fun j hj => ?_).bind fun _ => trivial
  have hi' := List.mem_range.mp hi
  have hj' := List.mem_range.mp hj
  exact ⟨hplain ⟨by omega, by omega⟩, fun _ _ => trivial⟩

variable {got : List UInt32} {params : List UInt32}

/-- **Compensation parameters.** What has been stored in plain registers is read back, over the link
and however the frames come in between, whatever is done to other plain registers in the meantime. -/
theorem getCompensationParams_stored {link : Link δ (List UInt32)}
    (hdev : dev.Documented foreign plain) {d : δ} {baseAddr : Nat}
    (hplain : paramRegisters params.length baseAddr ⊆ plain) {p : Prog Unit}
    (hwithin : p.Within plain 256) (hkeeps : p.Keeps (paramRegisters params.length baseAddr))
    {events : List Event}
    (h : Link.Run foreign dev (Link.start d do
      storeCompensationParams params baseAddr
      p
      getCompensationParams params.length baseAddr) events link)
    (hret : link.host = .ret got) : got = params := by
  have hbound := (within_storeCompensationParams params hplain).bind fun _ => hwithin.bind fun _ =>
    within_getCompensationParams hplain
  have hresult := ((Link.clean_start hbound d).exec hdev h).result
  rw [hret, run_bind, run_bind, run_getCompensationParams] at hresult
  have hgot : got = _ := hresult
  rw [hgot, storeCompensationParams_eq]
  refine List.ext_getElem (by simp) fun i hi hi' => ?_
  rw [List.getElem_map, List.getElem_range, ← paramAt_storeParams hi' baseAddr (dev.registers d)]
  exact paramAt_congr fun j hj => hkeeps.run_apply ⟨by omega, by omega⟩

def twoParams : List UInt32 := [0x3F800000, 0xBF000000]

/-- Filter 1 is turned on between the two. -/
theorem getCompensationParams_stored_evk : ∃ events link,
    Link.Run (fun _ => none) Link.evk (Link.start (fun _ => 0) do
      storeCompensationParams twoParams 0x10
      enableFilter true false false false
      getCompensationParams twoParams.length 0x10) events link ∧
    link.host = .ret twoParams := by
  have hwithin := FilterCall.within_prog filterRegisters_subset_evkPlain
    (.enable true false false false)
  have hplain : paramRegisters twoParams.length 0x10 ⊆ Link.evkPlain := by
    intro reg hreg
    have hhigh : reg < 24 := hreg.2
    exact ⟨by omega, (lt_trans hhigh (show 24 < Link.STATUS by decide)).ne⟩
  have hkeeps := FilterCall.keeps_prog
    (show FILTER_CTRL ∉ paramRegisters twoParams.length 0x10 from fun h => absurd h.2 (by decide))
    (.enable true false false false)
  have hbound := (within_storeCompensationParams twoParams hplain).bind fun _ =>
    hwithin.bind fun _ => within_getCompensationParams hplain
  obtain ⟨events, link, hrun, hret⟩ :=
    (Link.clean_start hbound fun _ => 0).can_return Link.evk_documented
  have hgot := getCompensationParams_stored Link.evk_documented hplain hwithin hkeeps hrun hret
  exact ⟨events, link, hrun, hret.trans (congrArg Prog.ret hgot)⟩

/-! ### Capture -/

def FRAME_MODE : Nat := 0xB1

def GET_SINGLE_FRAME : Nat := 0x01

def CONTINUOUS_STREAM : Nat := 0x02

def NO_HEADER : Nat := 0x20

def start (stream withHeader : Bool) : Prog Unit :=
  let mode := if stream then CONTINUOUS_STREAM else GET_SINGLE_FRAME
  regwrite FRAME_MODE (if withHeader then mode else mode ||| NO_HEADER)

/-- `polls` reads of the mode fit into `stop_timeout` after the first. -/
def pollStopped : Nat → Nat → Prog Nat
  | polls, mode =>
      if mode &&& (GET_SINGLE_FRAME ||| CONTINUOUS_STREAM) = 0 then pure mode
      else do
        let mode ← regread FRAME_MODE
        match polls with
        | 0 => return mode
        | polls + 1 => pollStopped polls mode

def stopCapture (polls : Nat) : Prog Nat := do
  let mode ← regread FRAME_MODE
  -- the register has eight bits, and all but the two that capture are left as they are
  regwrite FRAME_MODE (mode &&& 0xFC)
  pollStopped polls mode

/-- A camera that has stopped says so at the first read. -/
theorem run_stopCapture (polls : Nat) {mem : Nat → Nat} (hmem : mem FRAME_MODE < 256) :
    (stopCapture polls).run mem =
      (mem FRAME_MODE &&& 0xFC, Function.update mem FRAME_MODE (mem FRAME_MODE &&& 0xFC)) := by
  have hmask : GET_SINGLE_FRAME ||| CONTINUOUS_STREAM = 3 := rfl
  have hstopped (polls : Nat) {mode : Nat} (hmode : mode &&& 3 = 0) :
      pollStopped polls mode = pure mode := by
    rw [pollStopped, hmask, if_pos hmode]
  have hclear : mem FRAME_MODE &&& 0xFC &&& 3 = 0 := by
    rw [Nat.and_assoc]
    exact Nat.and_zero _
  have hbits : ∀ mode < 256, mode &&& 3 = 0 → mode &&& 0xFC = mode := by decide +kernel
  rw [stopCapture, run_bind, run_regread, run_bind, run_regwrite]
  simp only
  by_cases hmode : mem FRAME_MODE &&& 3 = 0
  · rw [hstopped polls hmode, run_pure, hbits _ hmem hmode]
  · rw [pollStopped, hmask, if_neg hmode, run_bind, run_regread, Function.update_self]
    cases polls with
    | zero => rfl
    | succ polls =>
        simp only [hstopped polls hclear]
        rfl

end Ilumo.Senxor.Mi48
