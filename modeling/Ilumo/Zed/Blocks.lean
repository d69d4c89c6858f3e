import Ilumo.Zed.Controls
import Mathlib.Data.List.GetD

/-!
# Blocks of registers

Some controls take several registers in a row. A block is written and read register by register, so
when calls fail each of its registers is as it was or as it should be.
-/

namespace Ilumo.Zed

/-- Writes from an address on; the result is the sum of the results. -/
def writeBlock : List UInt8 → UInt32 → Control Int
  | [], _ => return 0
  | value :: values, address => do
      let hr ← llWriteSystemRegister address value
      let r ← writeBlock values (address + 1)
      return hr + r

def readBlock : Nat → UInt32 → Control (Int × List UInt8)
  | 0, _ => return (0, [])
  | n + 1, address => do
      let (hr, value) ← llReadSystemRegister address
      let (r, values) ← readBlock n (address + 1)
      return (hr + r, value :: values)

/-- Registers that have the values from the address on. -/
def overwrite (registers : UInt32 → UInt8) (values : List UInt8) (address : UInt32) :
    UInt32 → UInt8 :=
  fun a => values.getD (a - address).toNat (registers a)

section Overwrite

variable {registers : UInt32 → UInt8} {values : List UInt8} {address a : UInt32}

theorem overwrite_of_le (h : values.length ≤ (a - address).toNat) :
    overwrite registers values address a = registers a :=
  List.getD_eq_default _ _ h

theorem overwrite_cons_self {value : UInt8} :
    overwrite registers (value :: values) address address = value := by
  rw [overwrite, UInt32.sub_self]
  rfl

theorem toNat_sub_succ (hne : a ≠ address) :
    (a - address).toNat = (a - (address + 1)).toNat + 1 := by
  have hne' : a.toNat ≠ address.toNat := fun h => hne (UInt32.toNat_inj.mp h)
  have ha := a.toNat_lt
  have haddress := address.toNat_lt
  simp only [UInt32.toNat_sub, UInt32.toNat_add, UInt32.toNat_one]
  omega

/-- The registers that follow a register are not the register. -/
theorem overwrite_succ_self (hlength : values.length < 2 ^ 32) :
    overwrite registers values (a + 1) a = registers a := by
  apply overwrite_of_le
  have ha := a.toNat_lt
  simp only [UInt32.toNat_sub, UInt32.toNat_add, UInt32.toNat_one]
  omega

theorem overwrite_update (value : UInt8) (hlength : values.length < 2 ^ 32) :
    overwrite (Function.update registers address value) values (address + 1) =
      overwrite registers (value :: values) address := by
  funext a
  by_cases heq : a = address
  · subst heq
    rw [overwrite_succ_self hlength, Function.update_self, overwrite_cons_self]
  · simp only [overwrite, toNat_sub_succ heq, List.getD_cons_succ, Function.update_of_ne heq]

/-- Whether or not the first register has been written. -/
theorem mem_overwrite_cons {first : UInt32 → UInt8} {value b : UInt8}
    (hfirst : first = registers ∨ first = Function.update registers address value)
    (hlength : values.length < 2 ^ 32)
    (hmem : b ∈ [first a, overwrite first values (address + 1) a]) :
    b ∈ [registers a, overwrite registers (value :: values) address a] := by
  by_cases heq : a = address
  · subst heq
    rw [overwrite_succ_self hlength] at hmem
    rw [overwrite_cons_self]
    obtain hb : b = first a := by simpa using hmem
    rcases hfirst with rfl | rfl
    · exact List.mem_pair.mpr (.inl hb)
    · exact List.mem_pair.mpr (.inr (hb.trans (Function.update_self ..)))
  · have hsame : first a = registers a := by
      rcases hfirst with rfl | rfl
      · rfl
      · exact Function.update_of_ne heq value registers
    rw [overwrite, hsame] at hmem
    rwa [overwrite, toNat_sub_succ heq, List.getD_cons_succ]

theorem toNat_add_ofNat_sub (address : UInt32) {i : Nat} (hi : i < 2 ^ 32) :
    (address + UInt32.ofNat i - address).toNat = i := by
  have haddress := address.toNat_lt
  rw [UInt32.toNat_sub, UInt32.toNat_add, UInt32.toNat_ofNat_of_lt' hi]
  omega

theorem add_one_add_ofNat (address : UInt32) (i : Nat) :
    address + 1 + UInt32.ofNat i = address + UInt32.ofNat (i + 1) := by
  rw [UInt32.ofNat_add, UInt32.add_assoc, UInt32.add_comm 1]
  rfl

end Overwrite

section Runs

variable (outcome : Nat → Outcome) (capture : VideoCapture Camera)

/-- Whatever fails, a register is as it was or as it should be. -/
theorem writeBlock_spec (values : List UInt8) (address : UInt32)
    (hlength : values.length < 2 ^ 32) :
    ((writeBlock values address).run (handle memory outcome) capture).1 ≤ 0 ∧
    (((writeBlock values address).run (handle memory outcome) capture).1 = 0 →
      ((writeBlock values address).run (handle memory outcome) capture).2.camera.system =
        overwrite capture.camera.system values address) ∧
    ∀ a, ((writeBlock values address).run (handle memory outcome) capture).2.camera.system a ∈
      [capture.camera.system a, overwrite capture.camera.system values address a] := by
  induction values generalizing address capture with
  | nil => exact ⟨le_refl _, fun _ => rfl, fun a => by simp [writeBlock]⟩
  | cons value values ih =>
      rw [List.length_cons] at hlength
      have hwrite := llWriteSystemRegister_spec outcome capture address value
      rw [writeBlock, Client.run_bind, Client.run_bind, Client.run_pure]
      generalize (llWriteSystemRegister address value).run (handle memory outcome) capture = r
        at hwrite ⊢
      obtain ⟨hle, hzero, hmem⟩ := ih r.2 (address + 1) (by omega)
      generalize (writeBlock values (address + 1)).run (handle memory outcome) r.2 = r'
        at hle hzero hmem ⊢
      have hvalues : values.length < 2 ^ 32 := by omega
      simp only
      obtain ⟨hhr, hcamera⟩ | ⟨hhr, hcamera⟩ := hwrite
      · rw [hcamera, Camera.setSystem] at hzero hmem
        refine ⟨by omega, fun hsum => ?_, fun a => mem_overwrite_cons (.inr rfl) hvalues (hmem a)⟩
        rw [hzero (by omega), overwrite_update value hvalues]
      · rw [hcamera] at hmem
        exact ⟨by omega, fun hsum => by omega,
          fun a => mem_overwrite_cons (.inl rfl) hvalues (hmem a)⟩

theorem readBlock_spec (n : Nat) (address : UInt32) (hlength : n ≤ 2 ^ 32) :
    ((readBlock n address).run (handle memory outcome) capture).2.camera = capture.camera ∧
    ((readBlock n address).run (handle memory outcome) capture).1.1 ≤ 0 ∧
    (((readBlock n address).run (handle memory outcome) capture).1.1 = 0 →
      ((readBlock n address).run (handle memory outcome) capture).1.2 =
        (List.range n).map fun i => capture.camera.system (address + UInt32.ofNat i)) := by
  induction n generalizing address capture with
  | zero => exact ⟨rfl, le_refl _, fun _ => rfl⟩
  | succ n ih =>
      obtain ⟨hread, hsame⟩ := llReadSystemRegister_spec outcome capture address
      rw [readBlock, Client.run_bind]
      generalize (llReadSystemRegister address).run (handle memory outcome) capture = r
        at hread hsame ⊢
      obtain ⟨⟨hr, value⟩, next⟩ := r
      simp only at hread hsame ⊢
      obtain ⟨hsame', hle, hzero⟩ := ih next (address + 1) (by omega)
      rw [hsame] at hsame' hzero
      rw [Client.run_bind]
      generalize (readBlock n (address + 1)).run (handle memory outcome) next = r'
        at hsame' hle hzero ⊢
      obtain ⟨⟨rest, values⟩, last⟩ := r'
      simp only [Client.run_pure] at hsame' hle hzero ⊢
      refine ⟨hsame', by omega, fun hsum => ?_⟩
      have hvalue : value = capture.camera.system address := by
        obtain ⟨-, hvalue⟩ | ⟨hhr, -⟩ := hread
        · exact hvalue
        · omega
      rw [hzero (by omega), hvalue, List.range_succ_eq_map, List.map_cons, List.map_map]
      simp only [Function.comp_def, Nat.succ_eq_add_one, add_one_add_ofNat]
      simp

theorem map_overwrite (registers : UInt32 → UInt8) {values : List UInt8} (address : UInt32)
    (hlength : values.length ≤ 2 ^ 32) :
    ((List.range values.length).map fun i =>
      overwrite registers values address (address + UInt32.ofNat i)) = values := by
  apply List.ext_getElem
  · simp
  · intro i hi hi'
    rw [List.getElem_map, List.getElem_range, overwrite, toNat_add_ofNat_sub address (by omega),
      List.getD_eq_getElem]

theorem writeBlock_run (values : List UInt8) (address : UInt32) (hlength : values.length < 2 ^ 32)
    (camera : Camera) :
    (writeBlock values address).run ideal camera =
      (0, { camera with system := overwrite camera.system values address }) := by
  induction values generalizing address camera with
  | nil => rfl
  | cons value values ih =>
      rw [List.length_cons] at hlength
      have hrest := ih (address + 1) (by omega) (camera.setSystem address value)
      rw [Camera.setSystem, overwrite_update value (by omega)] at hrest
      rw [writeBlock, Client.run_bind, Client.run_bind, Client.run_pure]
      exact congrArg (fun r : Int × Camera => (0 + r.1, r.2)) hrest

theorem readBlock_run (n : Nat) (address : UInt32) (camera : Camera) :
    (readBlock n address).run ideal camera =
      ((0, (List.range n).map fun i => camera.get (.system (address + UInt32.ofNat i))),
        camera) := by
  induction n generalizing address with
  | zero => rfl
  | succ n ih =>
      have hread : (llReadSystemRegister address).run ideal camera =
          ((0, camera.get (.system address)), camera) := rfl
      simp only [readBlock, Client.run_bind, hread, ih (address + 1), Client.run_pure,
        add_one_add_ofNat]
      rw [List.range_succ_eq_map, List.map_cons, List.map_map]
      simp [Function.comp_def]

end Runs

def block (address : UInt32) (n : Nat) : Register → Prop
  | .system a => (a - address).toNat < n
  | _ => False

theorem block_cons (address : UInt32) (n : Nat) : block address (n + 1) (.system address) := by
  rw [block, UInt32.sub_self]
  exact Nat.succ_pos _

theorem block_succ {address : UInt32} {n : Nat} (register : Register)
    (h : block (address + 1) n register) : block address (n + 1) register := by
  cases register with
  | system a =>
      by_cases heq : a = address
      · rw [heq]
        exact block_cons address n
      · rw [block] at h ⊢
        rw [toNat_sub_succ heq]
        omega
  | _ => exact h

/-- One of two blocks that overlap starts in the other. -/
theorem block_overlap {address other : UInt32} {n m : Nat} {register : Register}
    (h : block address n register) (h' : block other m register) :
    (other - address).toNat < n ∨ (address - other).toNat < m := by
  cases register with
  | system a =>
      have ha := a.toNat_lt
      have haddress := address.toNat_lt
      have hother := other.toNat_lt
      simp only [block, UInt32.toNat_sub] at h h' ⊢
      omega
  | _ => exact absurd h id

section Footprint

variable {reads writes : Register → Prop}

theorem writeBlock_within (values : List UInt8) (address : UInt32) :
    (writeBlock values address).Issues (Command.Within reads (block address values.length)) := by
  induction values generalizing address with
  | nil => trivial
  | cons value values ih =>
      have hrest := (ih (address + 1)).mono fun command =>
        Command.Within.mono (fun _ => id) block_succ
      refine (llWriteSystemRegister_within (block_cons _ _) value).bind fun hr => ?_
      exact hrest.bind fun r => Client.issues_pure _

theorem readBlock_within (n : Nat) (address : UInt32) :
    (readBlock n address).Issues (Command.Within (block address n) writes) := by
  induction n generalizing address with
  | zero => trivial
  | succ n ih =>
      have hrest := (ih (address + 1)).mono fun command =>
        Command.Within.mono block_succ fun _ => id
      refine (llReadSystemRegister_within (block_cons _ _)).bind fun read => ?_
      exact hrest.bind fun r => Client.issues_pure _

end Footprint

end Ilumo.Zed
