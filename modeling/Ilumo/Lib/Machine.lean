import Mathlib.Data.List.Infix
import Mathlib.Tactic.Common

/-!
# Runs of a labelled machine

A machine is a relation between a state, the label of a step and the state after it. `Exec` is a
finite run, latest step last, so an induction on it sees the whole history before the step it is
about. A run whose steps all meet a condition is a run of the guarded machine, and one machine
refines another when each of its steps is matched by a run of the other.
-/

namespace Machine

variable {σ τ ε δ : Type*}

/-- A run over the labels `es`, from `s` to the last argument. -/
inductive Exec (Step : σ → ε → σ → Prop) (s : σ) : List ε → σ → Prop
  | nil : Exec Step s [] s
  | snoc {es : List ε} {e : ε} {mid last : σ} :
      Exec Step s es mid → Step mid e last → Exec Step s (es ++ [e]) last

/-- The steps of a machine that are taken from a state meeting the condition. -/
def Guarded (Step : σ → ε → σ → Prop) (Cond : σ → ε → Prop) (s : σ) (e : ε) (s' : σ) : Prop :=
  Step s e s' ∧ Cond s e

variable {Step Step' : σ → ε → σ → Prop} {s s' : σ} {es : List ε}

theorem Exec.mono (hle : ∀ s e s', Step s e s' → Step' s e s') (h : Exec Step s es s') :
    Exec Step' s es s' := by
  induction h with
  | nil => exact .nil
  | snoc _ hstep ih => exact ih.snoc (hle _ _ _ hstep)

theorem Exec.unguarded {Cond : σ → ε → Prop} (h : Exec (Guarded Step Cond) s es s') :
    Exec Step s es s' :=
  h.mono fun _ _ _ hstep => hstep.1

theorem Exec.invariant {I : σ → Prop} (h : Exec Step s es s') (hinit : I s)
    (hstep : ∀ t e t', I t → Step t e t' → I t') : I s' := by
  induction h with
  | nil => exact hinit
  | snoc _ hlast ih => exact hstep _ _ _ ih hlast

theorem exec_snoc_iff {e : ε} :
    Exec Step s (es ++ [e]) s' ↔ ∃ mid, Exec Step s es mid ∧ Step mid e s' := by
  refine ⟨?_, ?_⟩
  · intro h
    generalize hall : es ++ [e] = all at h
    cases h with
    | nil => simp at hall
    | snoc hrun hlast =>
        obtain ⟨rfl, he⟩ := List.append_inj' hall rfl
        obtain rfl := List.singleton_inj.mp he
        exact ⟨_, hrun, hlast⟩
  · intro hparts
    obtain ⟨mid, hrun, hlast⟩ := hparts
    exact hrun.snoc hlast

theorem Exec.append {es' : List ε} {mid : σ} (h : Exec Step s es mid)
    (h' : Exec Step mid es' s') : Exec Step s (es ++ es') s' := by
  induction h' with
  | nil => simpa using h
  | snoc _ hlast ih =>
      rw [← List.append_assoc]
      exact ih.snoc hlast

/-- One step more of a machine whose steps are computed. -/
theorem Exec.andThen {step : σ → ε → Option σ} {Cond : σ → ε → Prop} {mid : σ}
    (h : Exec (Guarded (fun s e s' => step s e = some s') Cond) s es mid) (e : ε)
    (hsome : (step mid e).isSome) (hcond : Cond mid e) :
    Exec (Guarded (fun s e s' => step s e = some s') Cond) s (es ++ [e])
      ((step mid e).get hsome) :=
  h.snoc ⟨(Option.some_get hsome).symm, hcond⟩

theorem Exec.of_prefix {pre : List ε} (h : Exec Step s es s') (hpre : pre <+: es) :
    ∃ mid, Exec Step s pre mid := by
  induction h with
  | nil =>
      obtain rfl := List.prefix_nil.mp hpre
      exact ⟨s, .nil⟩
  | snoc hrun hlast ih =>
      rcases List.prefix_concat_iff.mp hpre with rfl | hshort
      · exact ⟨_, hrun.snoc hlast⟩
      · exact ih hshort

/-- **Simulation.** If each step of the concrete machine is matched by a run of the abstract one
that keeps the relation, then so is each run. -/
theorem Exec.simulation {Abs : τ → δ → τ → Prop} {R : σ → τ → Prop} {t : τ}
    (h : Exec Step s es s') (hinit : R s t)
    (hstep : ∀ s e s' t, R s t → Step s e s' → ∃ ds t', Exec Abs t ds t' ∧ R s' t') :
    ∃ ds t', Exec Abs t ds t' ∧ R s' t' := by
  induction h with
  | nil => exact ⟨[], t, .nil, hinit⟩
  | snoc _ hlast ih =>
      obtain ⟨ds, t', hrun, hrel⟩ := ih
      obtain ⟨ds', t'', hrun', hrel'⟩ := hstep _ _ _ _ hrel hlast
      exact ⟨ds ++ ds', t'', hrun.append hrun', hrel'⟩

end Machine
