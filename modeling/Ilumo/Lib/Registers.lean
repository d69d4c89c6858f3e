import Mathlib.Data.Set.Function
import Mathlib.Tactic.Common

/-!
# Programs over registers

A program reads and writes numbered registers of a device and goes on with what it has read. Its
meaning is what it does to a memory, whatever transport its reads and writes take. `Within S n` says
that a program keeps to the registers in `S` and to values below `n`, as long as it reads such
values, and `Keeps S` that it writes none of the registers in `S`.
-/

namespace Registers

inductive Prog (α : Type) where
  | ret (a : α)
  | read (reg : Nat) (next : Nat → Prog α)
  | write (reg value : Nat) (next : Prog α)

variable {α β γ : Type}

namespace Prog

def bind : Prog α → (α → Prog β) → Prog β
  | ret a, f => f a
  | read reg next, f => read reg fun value => (next value).bind f
  | write reg value next, f => write reg value (next.bind f)

instance : Monad Prog where
  pure := ret
  bind := bind

def regread (reg : Nat) : Prog Nat := read reg ret

def regwrite (reg value : Nat) : Prog Unit := write reg value (ret ())

def run : Prog α → (Nat → Nat) → α × (Nat → Nat)
  | ret a, mem => (a, mem)
  | read reg next, mem => (next (mem reg)).run mem
  | write reg value next, mem => next.run (Function.update mem reg value)

variable {p : Prog α} {f : α → Prog β} {mem mem' : Nat → Nat} {S : Set Nat} {n reg : Nat}

@[simp] theorem run_pure (a : α) : (pure a : Prog α).run mem = (a, mem) := rfl

@[simp] theorem run_regread : (regread reg).run mem = (mem reg, mem) := rfl

@[simp] theorem run_regwrite (value : Nat) :
    (regwrite reg value).run mem = ((), Function.update mem reg value) :=
  rfl

@[simp] theorem run_bind (p : Prog α) (f : α → Prog β) (mem : Nat → Nat) :
    (p >>= f).run mem = (f (p.run mem).1).run (p.run mem).2 := by
  induction p generalizing mem with
  | ret a => rfl
  | read reg next ih => exact ih (mem reg) mem
  | write reg value next ih => exact ih (Function.update mem reg value)

theorem bind_ret (p : Prog α) : p.bind ret = p := by
  induction p with
  | ret a => rfl
  | read reg next ih => exact congrArg (read reg) (funext ih)
  | write reg value next ih => exact congrArg (write reg value) ih

theorem bind_assoc (p : Prog α) (f : α → Prog β) (g : β → Prog γ) :
    (p.bind f).bind g = p.bind fun a => (f a).bind g := by
  induction p with
  | ret a => rfl
  | read reg next ih => exact congrArg (read reg) (funext ih)
  | write reg value next ih => exact congrArg (write reg value) ih

instance : LawfulMonad Prog := LawfulMonad.mk' Prog bind_ret (fun _ _ => rfl) bind_assoc

section Loops

variable {f : α → Prog β} {g : α → β} {xs : List α}

/-- A loop of programs that only read. -/
theorem run_mapM (hread : ∀ x ∈ xs, (f x).run mem = (g x, mem)) :
    (xs.mapM f).run mem = (xs.map g, mem) := by
  induction xs with
  | nil => rfl
  | cons x xs ih =>
      rw [List.mapM_cons, run_bind, hread x (by simp), run_bind,
        ih fun y hy => hread y (by simp [hy]), run_pure, List.map_cons]

theorem run_forM_cons {f : α → Prog Unit} (x : α) (xs : List α) (mem : Nat → Nat) :
    ((x :: xs).forM f).run mem = (xs.forM f).run ((f x).run mem).2 :=
  run_bind _ _ _

end Loops

/-! ### Bounds -/

def Within (S : Set Nat) (n : Nat) : Prog α → Prop
  | ret _ => True
  | read reg next => reg ∈ S ∧ ∀ value < n, (next value).Within S n
  | write reg value next => reg ∈ S ∧ value < n ∧ next.Within S n

theorem Within.bind (h : p.Within S n) (hf : ∀ a, (f a).Within S n) : (p >>= f).Within S n := by
  induction p with
  | ret a => exact hf a
  | read reg next ih => exact ⟨h.1, fun value hvalue => ih value (h.2 value hvalue)⟩
  | write reg value next ih => exact ⟨h.1, h.2.1, ih h.2.2⟩

theorem Within.forM {f : β → Prog Unit} {xs : List β} (h : ∀ x ∈ xs, (f x).Within S n) :
    (xs.forM f).Within S n := by
  induction xs with
  | nil => trivial
  | cons x xs ih => exact (h x (by simp)).bind fun _ => ih fun y hy => h y (by simp [hy])

theorem Within.mapM {f : β → Prog γ} {xs : List β} (h : ∀ x ∈ xs, (f x).Within S n) :
    (xs.mapM f).Within S n := by
  induction xs with
  | nil => trivial
  | cons x xs ih =>
      rw [List.mapM_cons]
      exact (h x (by simp)).bind fun y =>
        (ih fun z hz => h z (by simp [hz])).bind fun ys => trivial

/-- A program does the same to memories that agree on its registers. -/
theorem Within.run_congr (h : p.Within S n) (hmem : ∀ reg ∈ S, mem reg < n)
    (hsame : Set.EqOn mem mem' S) :
    (p.run mem).1 = (p.run mem').1 ∧ Set.EqOn (p.run mem).2 (p.run mem').2 S := by
  induction p generalizing mem mem' with
  | ret a => exact ⟨rfl, hsame⟩
  | read reg next ih =>
      obtain ⟨hreg, hnext⟩ := h
      rw [run, run, ← hsame hreg]
      exact ih (mem reg) (hnext _ (hmem reg hreg)) hmem hsame
  | write reg value next ih =>
      obtain ⟨-, hvalue, hnext⟩ := h
      refine ih hnext (fun other hother => ?_) fun other hother => ?_
      · rw [Function.update_apply]
        split
        · exact hvalue
        · exact hmem other hother
      · rw [Function.update_apply, Function.update_apply, hsame hother]

/-! ### Frames -/

def Keeps (S : Set Nat) : Prog α → Prop
  | ret _ => True
  | read _ next => ∀ value, (next value).Keeps S
  | write reg _ next => reg ∉ S ∧ next.Keeps S

theorem Keeps.bind (h : p.Keeps S) (hf : ∀ a, (f a).Keeps S) : (p >>= f).Keeps S := by
  induction p with
  | ret a => exact hf a
  | read reg next ih => exact fun value => ih value (h value)
  | write reg value next ih => exact ⟨h.1, ih h.2⟩

/-- **Frame rule.** -/
theorem Keeps.run_apply (h : p.Keeps S) (hreg : reg ∈ S) : (p.run mem).2 reg = mem reg := by
  induction p generalizing mem with
  | ret a => rfl
  | read reg' next ih => exact ih _ (h _)
  | write reg' value next ih =>
      have hne : reg ≠ reg' := fun heq => h.1 (heq ▸ hreg)
      rw [run, ih h.2, Function.update_of_ne hne]

end Prog

end Registers
