import Mathlib.Data.List.Induction
import Mathlib.Tactic.Common

/-!
# Scripts whose effects outlive an exception

A script changes a state and may raise; unlike in a transaction, what it changed before it raised
stays changed. `EStateM` without backtracking is that monad. `final` is the state a script leaves
either way, and a list of inputs is served by running a script on each until one raises.
-/

namespace Script

variable {ε σ α β : Type}

/-- The state that is left, by a return or by an exception. -/
def final : EStateM.Result ε σ α → σ
  | .ok _ s => s
  | .error _ s => s

@[simp] theorem final_ok (a : α) (s : σ) : final (.ok a s : EStateM.Result ε σ α) = s := rfl

@[simp] theorem final_error (e : ε) (s : σ) : final (.error e s : EStateM.Result ε σ α) = s := rfl

theorem bind_of_ok {x : EStateM ε σ α} {f : α → EStateM ε σ β} {s s' : σ} {a : α}
    (h : x s = .ok a s') : (x >>= f) s = f a s' := by
  show EStateM.bind x f s = _
  rw [EStateM.bind, h]

theorem bind_of_error {x : EStateM ε σ α} {f : α → EStateM ε σ β} {s s' : σ} {e : ε}
    (h : x s = .error e s') : (x >>= f) s = .error e s' := by
  show EStateM.bind x f s = _
  rw [EStateM.bind, h]

theorem bind_eq_ok {x : EStateM ε σ α} {f : α → EStateM ε σ β} {s s'' : σ} {b : β} :
    (x >>= f) s = .ok b s'' ↔ ∃ a s', x s = .ok a s' ∧ f a s' = .ok b s'' := by
  cases hx : x s with
  | ok a s' =>
      rw [bind_of_ok hx]
      refine ⟨fun h => ⟨a, s', rfl, h⟩, fun h => ?_⟩
      obtain ⟨_, _, hsame, h⟩ := h
      cases hsame
      exact h
  | error e s' =>
      rw [bind_of_error hx]
      refine ⟨fun h => (nomatch h), fun h => ?_⟩
      obtain ⟨_, _, hsame, -⟩ := h
      cases hsame

variable {f : α → EStateM ε σ Unit} {s s' : σ} {x : α} {xs : List α}

theorem forM_cons_of_ok (h : f x s = .ok () s') : (x :: xs).forM f s = xs.forM f s' :=
  bind_of_ok h

theorem forM_cons_of_error {e : ε} (h : f x s = .error e s') :
    (x :: xs).forM f s = .error e s' :=
  bind_of_error h

theorem forM_append_of_ok (h : xs.forM f s = .ok () s') (ys : List α) :
    (xs ++ ys).forM f s = ys.forM f s' := by
  induction xs generalizing s with
  | nil =>
      cases h
      rfl
  | cons x xs ih =>
      cases hfirst : f x s with
      | ok a mid =>
          rw [forM_cons_of_ok hfirst] at h
          rw [List.cons_append, forM_cons_of_ok hfirst, ih h]
      | error e mid =>
          rw [forM_cons_of_error hfirst] at h
          cases h

theorem forM_append_eq_ok {ys : List α} {s'' : σ} :
    (xs ++ ys).forM f s = .ok () s'' ↔
      ∃ s', xs.forM f s = .ok () s' ∧ ys.forM f s' = .ok () s'' := by
  refine ⟨?_, ?_⟩
  · intro h
    induction xs generalizing s with
    | nil => exact ⟨s, rfl, h⟩
    | cons x xs ih =>
        cases hfirst : f x s with
        | ok a mid =>
            rw [List.cons_append, forM_cons_of_ok hfirst] at h
            obtain ⟨s', hxs, hys⟩ := ih h
            exact ⟨s', (forM_cons_of_ok hfirst).trans hxs, hys⟩
        | error e mid =>
            rw [List.cons_append, forM_cons_of_error hfirst] at h
            cases h
  · intro h
    obtain ⟨s', hxs, hys⟩ := h
    rw [forM_append_of_ok hxs, hys]

theorem forM_singleton (x : α) (s : σ) : [x].forM f s = f x s := by
  cases hfirst : f x s with
  | ok a s' => exact forM_cons_of_ok hfirst
  | error e s' => exact forM_cons_of_error hfirst

/-- What every input preserves, served or refused, holds when the serving has ended. -/
theorem invariant_forM {I : σ → Prop} (hkeep : ∀ s x, I s → I (final (f x s))) (hinv : I s)
    (xs : List α) : I (final (xs.forM f s)) := by
  induction xs generalizing s with
  | nil => exact hinv
  | cons x xs ih =>
      have hnext := hkeep s x hinv
      cases hfirst : f x s with
      | ok a s' =>
          rw [hfirst] at hnext
          rw [forM_cons_of_ok hfirst]
          exact ih hnext
      | error e s' =>
          rw [hfirst] at hnext
          rw [forM_cons_of_error hfirst]
          exact hnext

/-- What every served input preserves holds after a list of served inputs. -/
theorem invariant_of_forM_ok {I : σ → Prop} (hkeep : ∀ s x s', I s → f x s = .ok () s' → I s')
    (hinv : I s) (h : xs.forM f s = .ok () s') : I s' := by
  induction xs generalizing s with
  | nil =>
      cases h
      exact hinv
  | cons x xs ih =>
      obtain ⟨⟨⟩, mid, hfirst, hrest⟩ := bind_eq_ok.mp h
      exact ih (hkeep s x mid hinv hfirst) hrest

/-- A property of the inputs served so far: each was admissible in the state it found. -/
def Admits (f : α → EStateM ε σ Unit) (Admissible : σ → α → Prop) (s : σ) (xs : List α) : Prop :=
  ∀ pre x post s', xs = pre ++ x :: post → pre.forM f s = .ok () s' → Admissible s' x

variable {Admissible : σ → α → Prop}

theorem admits_nil : Admits f Admissible s [] := by
  intro pre x post s' hsplit
  simp at hsplit

theorem admits_cons_of_error {e : ε} (h : f x s = .error e s') :
    Admits f Admissible s (x :: xs) ↔ Admissible s x := by
  refine ⟨?_, ?_⟩
  · intro hall
    exact hall [] x xs s rfl rfl
  · intro hfirst pre y post s'' hsplit hrun
    cases pre with
    | nil =>
        obtain ⟨rfl, -⟩ := List.cons.inj hsplit
        cases hrun
        exact hfirst
    | cons z pre =>
        obtain ⟨rfl, -⟩ := List.cons.inj hsplit
        rw [forM_cons_of_error h] at hrun
        cases hrun

theorem admits_cons_of_ok (h : f x s = .ok () s') :
    Admits f Admissible s (x :: xs) ↔ Admissible s x ∧ Admits f Admissible s' xs := by
  refine ⟨?_, ?_⟩
  · intro hall
    refine ⟨hall [] x xs s rfl rfl, fun pre y post s'' hsplit hrun => ?_⟩
    apply hall (x :: pre) y post s''
    · rw [hsplit, List.cons_append]
    · rw [forM_cons_of_ok h, hrun]
  · intro hparts pre y post s'' hsplit hrun
    obtain ⟨hfirst, hrest⟩ := hparts
    cases pre with
    | nil =>
        obtain ⟨rfl, -⟩ := List.cons.inj hsplit
        cases hrun
        exact hfirst
    | cons z pre =>
        obtain ⟨rfl, htail⟩ := List.cons.inj hsplit
        rw [forM_cons_of_ok h] at hrun
        exact hrest pre y post s'' htail hrun

theorem Admits.of_append {ys : List α} (h : Admits f Admissible s (xs ++ ys)) :
    Admits f Admissible s xs := by
  intro pre x post s' hsplit hrun
  apply h pre x (post ++ ys) s' _ hrun
  rw [hsplit, List.append_assoc, List.cons_append]

theorem Admits.last {x : α} (h : Admits f Admissible s (xs ++ [x]))
    (hrun : xs.forM f s = .ok () s') : Admissible s' x :=
  h xs x [] s' rfl hrun

/-- If an invariant lets no admissible input raise and is kept by it, a list of inputs admitted one
by one is served to its end. -/
theorem Admits.exists_ok {I : σ → Prop}
    (hserve : ∀ s x, I s → Admissible s x → ∃ s', f x s = .ok () s' ∧ I s') (hinv : I s)
    (h : Admits f Admissible s xs) : ∃ s', xs.forM f s = .ok () s' ∧ I s' := by
  induction xs using List.reverseRecOn with
  | nil => exact ⟨s, rfl, hinv⟩
  | append_singleton xs x ih =>
      obtain ⟨mid, hmid, hinv'⟩ := ih h.of_append
      obtain ⟨s', hs', hinv''⟩ := hserve mid x hinv' (h.last hmid)
      exact ⟨s', forM_append_eq_ok.mpr ⟨mid, hmid, (forM_singleton x mid).trans hs'⟩, hinv''⟩

theorem exists_ok_of_admits (hserve : ∀ s x, Admissible s x → ∃ s', f x s = .ok () s')
    (h : Admits f Admissible s xs) : ∃ s', xs.forM f s = .ok () s' := by
  obtain ⟨s', hs', -⟩ := h.exists_ok (I := fun _ => True)
    (fun s x _ hx => (hserve s x hx).imp fun _ hok => ⟨hok, trivial⟩) trivial
  exact ⟨s', hs'⟩

/-- **Safety up to an exact condition.** If a violation can never be undone, and from a safe state
of the invariant one input keeps the state safe exactly when it is admissible, then serving a list
of inputs ends in a safe state exactly when each of them was admissible where it was served. -/
theorem safe_forM_iff {I Safe : σ → Prop} (hkeep : ∀ s x, I s → I (final (f x s)))
    (hsticky : ∀ s x, Safe (final (f x s)) → Safe s)
    (hstep : ∀ s x, I s → Safe s → (Safe (final (f x s)) ↔ Admissible s x)) (hinv : I s)
    (hsafe : Safe s) : Safe (final (xs.forM f s)) ↔ Admits f Admissible s xs := by
  have hback (xs : List α) (s : σ) : Safe (final (xs.forM f s)) → Safe s := by
    induction xs generalizing s with
    | nil => exact id
    | cons x xs ih =>
        intro hlast
        apply hsticky s x
        cases hfirst : f x s with
        | ok a s' =>
            rw [forM_cons_of_ok hfirst] at hlast
            exact ih s' hlast
        | error e s' =>
            rw [forM_cons_of_error hfirst] at hlast
            exact hlast
  induction xs generalizing s with
  | nil => exact ⟨fun _ => admits_nil, fun _ => hsafe⟩
  | cons x xs ih =>
      have hinv' := hkeep s x hinv
      have hiff := hstep s x hinv hsafe
      cases hfirst : f x s with
      | ok a s' =>
          rw [hfirst, final_ok] at hinv' hiff
          rw [forM_cons_of_ok hfirst, admits_cons_of_ok hfirst, ← hiff]
          refine ⟨?_, ?_⟩
          · intro hlast
            have hsafe' := hback xs s' hlast
            exact ⟨hsafe', (ih hinv' hsafe').mp hlast⟩
          · intro h
            obtain ⟨hsafe', hrest⟩ := h
            exact (ih hinv' hsafe').mpr hrest
      | error e s' =>
          rw [hfirst, final_error] at hiff
          rw [forM_cons_of_error hfirst, admits_cons_of_error hfirst, ← hiff, final_error]

end Script
