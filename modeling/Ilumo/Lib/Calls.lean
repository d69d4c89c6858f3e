import Mathlib.Data.List.Basic
import Mathlib.Tactic.Common

/-!
# An object and its calls

An object handles one call after another, each with an answer and a next state. Two objects whose
answers agree on related states, and whose next states are related again, cannot be told apart by
any sequence of calls.
-/

namespace Calls

variable {σ τ γ α : Type*}

/-- The answers to a sequence of calls. -/
def answers (handle : σ → γ → α × σ) : σ → List γ → List α
  | _, [] => []
  | s, call :: calls => (handle s call).1 :: answers handle (handle s call).2 calls

/-- The state a sequence of calls leaves. -/
def after (handle : σ → γ → α × σ) (s : σ) (calls : List γ) : σ :=
  calls.foldl (fun s call => (handle s call).2) s

variable {handle : σ → γ → α × σ} {handle' : τ → γ → α × τ} {s : σ} {t : τ}

/-- **Indistinguishable objects.** -/
theorem answers_eq_of_simulation {R : σ → τ → Prop}
    (hstep : ∀ s t call, R s t →
      (handle s call).1 = (handle' t call).1 ∧ R (handle s call).2 (handle' t call).2)
    (hinit : R s t) (calls : List γ) : answers handle s calls = answers handle' t calls := by
  induction calls generalizing s t with
  | nil => rfl
  | cons call calls ih =>
      obtain ⟨hanswer, hnext⟩ := hstep s t call hinit
      rw [answers, answers, hanswer, ih hnext]

end Calls
