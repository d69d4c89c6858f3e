import Mathlib.Logic.Basic
import Mathlib.Tactic.Common

/-!
# Clients of an object

A client calls an object again and again and goes on with its replies. `run` is the client together
with an object that handles the calls. What every call keeps a client keeps, and what only some
calls change is as it was after a client that issues none of these.
-/

inductive Client (γ ρ α : Type) where
  | ret (a : α)
  | call (request : γ) (next : ρ → Client γ ρ α)

namespace Client

variable {γ ρ σ α β : Type}

def bind : Client γ ρ α → (α → Client γ ρ β) → Client γ ρ β
  | ret a, f => f a
  | call request next, f => call request fun reply => (next reply).bind f

instance : Monad (Client γ ρ) where
  pure := ret
  bind := bind

def ask (request : γ) : Client γ ρ ρ := call request ret

def run (handle : σ → γ → ρ × σ) : Client γ ρ α → σ → α × σ
  | ret a, s => (a, s)
  | call request next, s => (next (handle s request).1).run handle (handle s request).2

variable {handle : σ → γ → ρ × σ} {p : Client γ ρ α} {f : α → Client γ ρ β} {s : σ}

@[simp] theorem run_pure (a : α) : (pure a : Client γ ρ α).run handle s = (a, s) := rfl

@[simp] theorem run_bind (p : Client γ ρ α) (f : α → Client γ ρ β) (s : σ) :
    (p >>= f).run handle s = (f (p.run handle s).1).run handle (p.run handle s).2 := by
  induction p generalizing s with
  | ret a => rfl
  | call request next ih => exact ih (handle s request).1 (handle s request).2

/-- Every request of the client, whatever the replies, has the property. -/
def Issues (P : γ → Prop) : Client γ ρ α → Prop
  | ret _ => True
  | call request next => P request ∧ ∀ reply, (next reply).Issues P

variable {P : γ → Prop}

@[simp] theorem issues_pure (a : α) : (pure a : Client γ ρ α).Issues P := trivial

@[simp] theorem issues_ask {request : γ} : (ask request : Client γ ρ ρ).Issues P ↔ P request :=
  ⟨fun h => h.1, fun h => ⟨h, fun _ => trivial⟩⟩

theorem Issues.bind (h : p.Issues P) (hf : ∀ a, (f a).Issues P) : (p >>= f).Issues P := by
  induction p with
  | ret a => exact hf a
  | call request next ih => exact ⟨h.1, fun reply => ih reply (h.2 reply)⟩

theorem Issues.ite {c : Prop} [Decidable c] {q : Client γ ρ α} (hp : p.Issues P)
    (hq : q.Issues P) : (if c then p else q).Issues P := by
  split
  · exact hp
  · exact hq

theorem issues_of_forall (h : ∀ request, P request) (p : Client γ ρ α) : p.Issues P := by
  induction p with
  | ret a => trivial
  | call request next ih => exact ⟨h request, ih⟩

theorem Issues.and {Q : γ → Prop} (h : p.Issues P) (h' : p.Issues Q) :
    p.Issues fun request => P request ∧ Q request := by
  induction p with
  | ret a => trivial
  | call request next ih => exact ⟨⟨h.1, h'.1⟩, fun reply => ih reply (h.2 reply) (h'.2 reply)⟩

theorem Issues.mono {Q : γ → Prop} (hle : ∀ request, P request → Q request) (h : p.Issues P) :
    p.Issues Q := by
  induction p with
  | ret a => trivial
  | call request next ih => exact ⟨hle _ h.1, fun reply => ih reply (h.2 reply)⟩

/-- **Frame rule.** -/
theorem Issues.run_eq (view : σ → β) (hkeep : ∀ s request, P request →
    view (handle s request).2 = view s) (h : p.Issues P) (s : σ) :
    view (p.run handle s).2 = view s := by
  induction p generalizing s with
  | ret a => rfl
  | call request next ih => rw [run, ih _ (h.2 _), hkeep s request h.1]

/-- Two objects that handle the requests of a client alike cannot be told apart by it. -/
theorem Issues.run_simulation {τ : Type} {handle' : τ → γ → ρ × τ} {R : σ → τ → Prop} {s : σ}
    {t : τ}
    (hstep : ∀ s t request, P request → R s t →
      (handle s request).1 = (handle' t request).1 ∧ R (handle s request).2 (handle' t request).2)
    (h : p.Issues P) (hR : R s t) :
    (p.run handle s).1 = (p.run handle' t).1 ∧ R (p.run handle s).2 (p.run handle' t).2 := by
  induction p generalizing s t with
  | ret a => exact ⟨rfl, hR⟩
  | call request next ih =>
      obtain ⟨hreply, hnext⟩ := hstep s t request h.1 hR
      rw [run, run, hreply]
      exact ih _ (h.2 _) hnext

theorem run_invariant {Inv : σ → Prop} (hstep : ∀ s request, Inv s → Inv (handle s request).2)
    (p : Client γ ρ α) {s : σ} (hs : Inv s) : Inv (p.run handle s).2 := by
  induction p generalizing s with
  | ret a => exact hs
  | call request next ih => exact ih _ (hstep s request hs)

/-- **The last one wins.** Some clients set a property, and the others keep it. -/
theorem run_forM_last {ι : Type} {apply : ι → Client γ ρ Unit} {tag : ι → Option β}
    {Inv : σ → Prop} {Q : β → σ → Prop} (hinv : ∀ i s, Inv s → Inv ((apply i).run handle s).2)
    (hset : ∀ i b s, Inv s → tag i = some b → Q b ((apply i).run handle s).2)
    (hkeep : ∀ i b s, Inv s → tag i = none → Q b s → Q b ((apply i).run handle s).2)
    {items : List ι} {b : β} (hlast : (items.filterMap tag).getLast? = some b) {s : σ}
    (hs : Inv s) : Q b ((forM items apply).run handle s).2 := by
  suffices hgeneral : ∀ (items : List ι) (initial : Option β) (s : σ), Inv s →
      (∀ b, initial = some b → Q b s) → ∀ b, (items.filterMap tag).getLast?.or initial = some b →
        Q b ((forM items apply).run handle s).2 from
    hgeneral items none s hs nofun b (by rw [hlast, Option.some_or])
  intro items
  induction items with
  | nil => exact fun initial s _ hinitial b hb => hinitial b hb
  | cons i items ih =>
      intro initial s hs hinitial b hb
      rw [List.forM_cons, run_bind]
      have hnext := hinv i s hs
      cases htag : tag i with
      | none =>
          rw [List.filterMap_cons_none htag] at hb
          exact ih initial _ hnext (fun b hb => hkeep i b s hs htag (hinitial b hb)) b hb
      | some b' =>
          rw [List.filterMap_cons_some htag, List.getLast?_cons] at hb
          refine ih (some b') _ hnext (fun b hb => Option.some_inj.mp hb ▸ hset i b' s hs htag) b ?_
          cases hrest : (items.filterMap tag).getLast? with
          | none => simpa [hrest] using hb
          | some last => simpa [hrest] using hb

end Client
