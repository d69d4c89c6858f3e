import Mathlib.Data.List.Basic
import Mathlib.Tactic.Common

/-!
# Computations that may fail

An `Except` computation taken apart at its first step, and loops that count up to `n`. A loop whose
steps lead from one known state to the next ends in the last of these, and a loop that ends well
had no step that failed.
-/

namespace Fallible

variable {ε α β σ : Type}

theorem bind_eq_ok {x : Except ε α} {f : α → Except ε β} {b : β} :
    x >>= f = .ok b ↔ ∃ a, x = .ok a ∧ f a = .ok b := by
  cases x with
  | error e => simp [bind, Except.bind]
  | ok a => simp [bind, Except.bind]

@[simp] theorem ok_bind (a : α) (f : α → Except ε β) : (Except.ok a : Except ε α) >>= f = f a :=
  rfl

@[simp] theorem error_bind (e : ε) (f : α → Except ε β) :
    (Except.error e : Except ε α) >>= f = .error e :=
  rfl

@[simp] theorem pure_eq_ok (a : α) : (pure a : Except ε α) = .ok a := rfl

variable {step : σ → Nat → Except ε σ} {n : Nat}

theorem foldlM_range_succ (s : σ) :
    (List.range (n + 1)).foldlM step s = (List.range n).foldlM step s >>= fun s => step s n := by
  rw [List.range_succ, List.foldlM_append]
  cases (List.range n).foldlM step s with
  | error e => rfl
  | ok mid =>
      rw [ok_bind, ok_bind, List.foldlM_cons]
      exact bind_pure _

/-- The loop passes through the states `state 0`, `state 1`, …, `state n`. -/
theorem foldlM_range_eq_ok (step : σ → Nat → Except ε σ) (state : Nat → σ)
    (hstep : ∀ i < n, step (state i) i = .ok (state (i + 1))) :
    (List.range n).foldlM step (state 0) = .ok (state n) := by
  induction n with
  | zero => rfl
  | succ n ih =>
      rw [foldlM_range_succ, ih fun i hi => hstep i (by omega), ok_bind]
      exact hstep n (by omega)

theorem foldlM_range_invariant {I : Nat → σ → Prop} {s : σ} (hinit : I 0 s)
    (hstep : ∀ i < n, ∀ s, I i s → ∃ s', step s i = .ok s' ∧ I (i + 1) s') :
    ∃ s', (List.range n).foldlM step s = .ok s' ∧ I n s' := by
  induction n with
  | zero => exact ⟨s, rfl, hinit⟩
  | succ n ih =>
      obtain ⟨mid, hmid, hinv⟩ := ih fun i hi => hstep i (by omega)
      obtain ⟨s', hs', hinv'⟩ := hstep n (by omega) mid hinv
      refine ⟨s', ?_, hinv'⟩
      rw [foldlM_range_succ, hmid, ok_bind, hs']

/-- No step of a loop that ends well has failed. -/
theorem step_ok_of_foldlM_range {s s' : σ} (h : (List.range n).foldlM step s = .ok s') {i : Nat}
    (hi : i < n) :
    ∃ mid mid', (List.range i).foldlM step s = .ok mid ∧ step mid i = .ok mid' := by
  induction n generalizing s' with
  | zero => omega
  | succ n ih =>
      rw [foldlM_range_succ, bind_eq_ok] at h
      obtain ⟨mid, hmid, hlast⟩ := h
      by_cases hin : i < n
      · exact ih hmid hin
      · obtain rfl : i = n := by omega
        exact ⟨mid, s', hmid, hlast⟩

/-- Nested loops are one loop over what they visit. -/
theorem foldlM_flatMap {f : σ → β → Except ε σ} (xs : List α) (g : α → List β) (s : σ) :
    xs.foldlM (fun s x => (g x).foldlM f s) s = (xs.flatMap g).foldlM f s := by
  induction xs generalizing s with
  | nil => rfl
  | cons x xs ih =>
      rw [List.flatMap_cons, List.foldlM_append, List.foldlM_cons]
      simp only [ih]

end Fallible
