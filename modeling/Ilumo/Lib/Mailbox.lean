import Mathlib.Data.Nat.Find
import Mathlib.Tactic.Common

/-!
# A mailbox that keeps its freshness twice

A producer stores values in a mailbox and a consumer polls it. The mailbox has a flag that says
whether there is a value the consumer has not taken, and a validity field that is stored with the
value; a report of the producer that brings no value writes the validity field alone. A poll hands
out a value only if both say that it is new.

`Mailbox.run` is the mailbox after the first events of a sequence, and `deliversOnce_iff` says for
which sequences the mailbox hands out every fresh value that is polled for in time, and none twice.
-/

inductive Status where
  | notPresent
  | oldVal
  | newVal
  deriving DecidableEq, Repr

/-- The flag, the validity field, and the stored value with the number of the event that stored
it. -/
structure Mailbox (α : Type) where
  new : Bool := false
  valid : Status := .notPresent
  last : Option (Nat × α) := none
  deriving DecidableEq, Repr

namespace Mailbox

variable {α : Type}

/-- What happens to a mailbox in one step of the system around it. -/
inductive Event (α : Type) where
  | report (stored : Option α) (valid : Status)
  | poll
  | idle
  deriving DecidableEq, Repr

def store (number : Nat) (value : α) (valid : Status) : Mailbox α where
  new := true
  valid := valid
  last := some (number, value)

def mark (this : Mailbox α) (valid : Status) : Mailbox α := { this with valid }

/-- The validity and the value that a poll returns, and the mailbox it leaves: with the flag it
takes what is there, without it the wait times out and the value counts as old. -/
def getLast (this : Mailbox α) : (Status × Option (Nat × α)) × Mailbox α :=
  if this.new then ((this.valid, this.last), { this with new := false })
  else
    let valid := if this.valid ≠ .notPresent then .oldVal else this.valid
    ((valid, this.last), { this with valid })

def handedOut (this : Mailbox α) : Option (Nat × α) :=
  if this.getLast.1.1 = .newVal then this.getLast.1.2 else none

def step (number : Nat) (this : Mailbox α) : Event α → Mailbox α
  | .report (some value) valid => store number value valid
  | .report none valid => this.mark valid
  | .poll => this.getLast.2
  | .idle => this

theorem handedOut_eq_some_iff {this : Mailbox α} {out : Nat × α} :
    this.handedOut = some out ↔
      this.new = true ∧ this.valid = .newVal ∧ this.last = some out := by
  rw [handedOut, getLast]
  by_cases hnew : this.new = true
  · simp [hnew]
  · simp only [hnew, Bool.false_eq_true, if_false, false_and, iff_false]
    split <;> simp_all

/-! ### Sequences of events -/

section Run

variable (events : Nat → Event α)

def run : Nat → Mailbox α
  | 0 => {}
  | n + 1 => (run n).step n (events n)

def Fresh (event : Event α) : Prop := ∃ value, event = .report (some value) .newVal

def HandsOut (k n : Nat) : Prop :=
  events k = .poll ∧ ∃ value, (run events k).handedOut = some (n, value)

/-- Each fresh value is handed out by exactly one poll, if there is one before the next fresh value,
and no value is handed out by two. -/
structure DeliversOnce : Prop where
  delivered : ∀ n j, n < j → Fresh (events n) → events j = .poll →
    (∀ i, n < i → i < j → ¬ Fresh (events i)) → ∃! k, HandsOut events k n
  once : ∀ n k k', HandsOut events k n → HandsOut events k' n → k = k'

/-- Event `i` is the last report between events `n` and `k`. -/
structure LastReport (n k i : Nat) (valid : Status) : Prop where
  after : n < i
  before : i < k
  reported : ∃ stored, events i = .report stored valid
  last : ∀ j, i < j → j < k → ∀ stored valid, events j ≠ .report stored valid

/-- Event `k` is the first poll after the fresh value of event `n`, and none fresher is there. -/
structure FirstPoll (n k : Nat) : Prop where
  lt : n < k
  fresh : Fresh (events n)
  poll : events k = .poll
  between : ∀ i, n < i → i < k → ¬ Fresh (events i) ∧ events i ≠ .poll

/-- The last report between a fresh value and its first poll, if there is one, says new. -/
def Unmasked : Prop :=
  ∀ n k, FirstPoll events n k → ∀ i valid, LastReport events n k i valid → valid = .newVal

/-- Event `n` stored the value that is there before event `k`, and it has not been polled for. -/
structure Pending (n k : Nat) : Prop where
  lt : n < k
  stored : ∃ value valid, events n = .report (some value) valid
  untouched : ∀ i, n < i → i < k →
    events i ≠ .poll ∧ ∀ value valid, events i ≠ .report (some value) valid

variable {events}

theorem Pending.unique {n n' k : Nat} (h : Pending events n k) (h' : Pending events n' k) :
    n = n' := by
  obtain ⟨value, valid, hstored⟩ := h.stored
  obtain ⟨value', valid', hstored'⟩ := h'.stored
  rcases Nat.lt_trichotomy n n' with hlt | heq | hgt
  · exact absurd hstored' ((h.untouched n' hlt h'.lt).2 value' valid')
  · exact heq
  · exact absurd hstored ((h'.untouched n hgt h.lt).2 value valid)

theorem Pending.succ {n k : Nat} (h : Pending events n k) (hpoll : events k ≠ .poll)
    (hstore : ∀ value valid, events k ≠ .report (some value) valid) :
    Pending events n (k + 1) := by
  refine ⟨Nat.lt_succ_of_lt h.lt, h.stored, fun i hni hik => ?_⟩
  rcases Nat.lt_succ_iff_lt_or_eq.mp hik with hlt | rfl
  · exact h.untouched i hni hlt
  · exact ⟨hpoll, hstore⟩

/-- What holds right after event `n` and survives the events up to `k` holds before event `k`. -/
theorem run_between {P : Mailbox α → Prop} {n k : Nat} (hlt : n < k)
    (hstart : P (run events (n + 1)))
    (hkeep : ∀ i, n < i → i < k → P (run events i) → P ((run events i).step i (events i))) :
    P (run events k) := by
  induction hlt with
  | refl => exact hstart
  | @step k hle ih =>
      apply hkeep k hle (Nat.lt_succ_self k)
      exact ih fun i hni hik => hkeep i hni (Nat.lt_succ_of_lt hik)

theorem Pending.holds {n k : Nat} (h : Pending events n k) :
    (run events k).new = true ∧
      ∃ value valid, events n = .report (some value) valid ∧
        (run events k).last = some (n, value) := by
  obtain ⟨value, valid, hstored⟩ := h.stored
  have hboth : (run events k).new = true ∧ (run events k).last = some (n, value) := by
    apply run_between (P := fun mailbox => mailbox.new = true ∧ mailbox.last = some (n, value)) h.lt
    · rw [run, hstored]
      exact ⟨rfl, rfl⟩
    · intro i hni hik hheld
      obtain ⟨hpoll, hstore⟩ := h.untouched i hni hik
      cases hevent : events i with
      | report stored valid =>
          cases stored with
          | none => exact hheld
          | some value => exact absurd hevent (hstore value valid)
      | poll => exact absurd hevent hpoll
      | idle => exact hheld
  exact ⟨hboth.1, value, valid, hstored, hboth.2⟩

/-- The validity field is what the last report says, as long as no poll comes after it. -/
theorem run_valid {i k : Nat} (hlt : i < k) {stored : Option α} {valid : Status}
    (hreport : events i = .report stored valid)
    (hlast : ∀ j, i < j → j < k →
      events j ≠ .poll ∧ ∀ stored valid, events j ≠ .report stored valid) :
    (run events k).valid = valid := by
  apply run_between (P := fun mailbox => mailbox.valid = valid) hlt
  · rw [run, hreport]
    cases stored <;> rfl
  · intro j hij hjk hvalid
    obtain ⟨hpoll, hnone⟩ := hlast j hij hjk
    cases hevent : events j with
    | report stored valid => exact absurd hevent (hnone stored valid)
    | poll => exact absurd hevent hpoll
    | idle => exact hvalid

theorem getLast_new (this : Mailbox α) : this.getLast.2.new = false := by
  rw [getLast]
  split
  · rfl
  · next hnew => exact eq_false_of_ne_true hnew

/-- The flag is only set while some store is pending. -/
theorem exists_pending {k : Nat} (hnew : (run events k).new = true) :
    ∃ n, Pending events n k := by
  induction k with
  | zero => cases hnew
  | succ k ih =>
      rw [run] at hnew
      have hprevious (hkept : (run events k).new = true) (hpoll : events k ≠ .poll)
          (hstore : ∀ value valid, events k ≠ .report (some value) valid) :
          ∃ n, Pending events n (k + 1) := by
        obtain ⟨n, hpending⟩ := ih hkept
        exact ⟨n, hpending.succ hpoll hstore⟩
      cases hevent : events k with
      | report stored valid =>
          cases stored with
          | none =>
              rw [hevent] at hnew
              exact hprevious hnew (by simp [hevent]) (by simp [hevent])
          | some value =>
              refine ⟨k, Nat.lt_succ_self k, ⟨value, valid, hevent⟩, fun i hki hik => ?_⟩
              omega
      | poll =>
          rw [hevent] at hnew
          exact absurd hnew (by rw [step, getLast_new]; decide)
      | idle =>
          rw [hevent] at hnew
          exact hprevious hnew (by simp [hevent]) (by simp [hevent])

/-- **A successful poll.** It hands out a pending store while the validity field says new. -/
theorem handsOut_iff {k n : Nat} :
    HandsOut events k n ↔
      events k = .poll ∧ Pending events n k ∧ (run events k).valid = .newVal := by
  refine ⟨?_, ?_⟩
  · intro h
    obtain ⟨hpoll, value, hout⟩ := h
    obtain ⟨hnew, hvalid, hlast⟩ := handedOut_eq_some_iff.mp hout
    obtain ⟨m, hpending⟩ := exists_pending hnew
    obtain ⟨-, value', -, -, hlast'⟩ := hpending.holds
    obtain ⟨rfl, -⟩ := Prod.mk.inj (Option.some.inj (hlast.symm.trans hlast'))
    exact ⟨hpoll, hpending, hvalid⟩
  · intro h
    obtain ⟨hpoll, hpending, hvalid⟩ := h
    obtain ⟨hnew, value, -, -, hlast⟩ := hpending.holds
    exact ⟨hpoll, value, handedOut_eq_some_iff.mpr ⟨hnew, hvalid, hlast⟩⟩

theorem HandsOut.unique {k k' n : Nat} (h : HandsOut events k n) (h' : HandsOut events k' n) :
    k = k' := by
  obtain ⟨hpoll, hpending, -⟩ := handsOut_iff.mp h
  obtain ⟨hpoll', hpending', -⟩ := handsOut_iff.mp h'
  rcases Nat.lt_trichotomy k k' with hlt | heq | hgt
  · exact absurd hpoll (hpending'.untouched k hpending.lt hlt).1
  · exact heq
  · exact absurd hpoll' (hpending.untouched k' hpending'.lt hgt).1

/-! ### When every fresh value is delivered -/

/-- The producer either brings a value with every report, or brings only values it calls new. -/
def Disciplined (events : Nat → Event α) : Prop :=
  (∀ n valid, events n ≠ .report none valid) ∨
    ∀ n value valid, events n = .report (some value) valid → valid = .newVal

theorem exists_lastReport {n k i : Nat} {stored : Option α} {valid : Status} (hni : n < i)
    (hik : i < k) (hreport : events i = .report stored valid) :
    ∃ j valid', LastReport events n k j valid' := by
  induction k with
  | zero => omega
  | succ k ih =>
      by_cases hat : ∃ stored valid, events k = .report stored valid
      · obtain ⟨stored', valid', hlast⟩ := hat
        exact ⟨k, valid', by omega, by omega, ⟨stored', hlast⟩, fun j hkj hjk => by omega⟩
      · have hne : i ≠ k := by
          rintro rfl
          exact hat ⟨stored, valid, hreport⟩
        obtain ⟨j, valid', hlast⟩ := ih (by omega)
        refine ⟨j, valid', hlast.after, Nat.lt_succ_of_lt hlast.before, hlast.reported, ?_⟩
        intro m hjm hmk stored'' valid'' hm
        rcases Nat.lt_succ_iff_lt_or_eq.mp hmk with hlt | rfl
        · exact hlast.last m hjm hlt stored'' valid'' hm
        · exact hat ⟨stored'', valid'', hm⟩

theorem FirstPoll.run_valid {n k i : Nat} {valid : Status} (h : FirstPoll events n k)
    (hlast : LastReport events n k i valid) : (run events k).valid = valid := by
  obtain ⟨stored, hreport⟩ := hlast.reported
  apply Mailbox.run_valid hlast.before hreport
  intro j hij hjk
  exact ⟨(h.between j (Nat.lt_trans hlast.after hij) hjk).2, hlast.last j hij hjk⟩

/-- With the last report saying new, the first poll hands the fresh value out. -/
theorem FirstPoll.handsOut {n k : Nat} (h : FirstPoll events n k)
    (hdisciplined : Disciplined events)
    (hunmasked : ∀ i valid, LastReport events n k i valid → valid = .newVal) :
    HandsOut events k n := by
  obtain ⟨value, hfresh⟩ := h.fresh
  have hnostore : ∀ i, n < i → i < k → ∀ value valid, events i ≠ .report (some value) valid := by
    intro i hni hik value valid hstore
    rcases hdisciplined with hall | hnew
    · -- the last report in between stores something and says new, so it is fresh
      obtain ⟨j, valid', hlast⟩ := exists_lastReport hni hik hstore
      obtain ⟨stored, hreport⟩ := hlast.reported
      obtain rfl := hunmasked j valid' hlast
      cases stored with
      | none => exact hall j _ hreport
      | some value' => exact (h.between j hlast.after hlast.before).1 ⟨value', hreport⟩
    · obtain rfl := hnew i value valid hstore
      exact (h.between i hni hik).1 ⟨value, hstore⟩
  have hpending : Pending events n k :=
    ⟨h.lt, ⟨value, _, hfresh⟩, fun i hni hik => ⟨(h.between i hni hik).2, hnostore i hni hik⟩⟩
  refine handsOut_iff.mpr ⟨h.poll, hpending, ?_⟩
  by_cases hsome : ∃ i stored valid, n < i ∧ i < k ∧ events i = .report stored valid
  · obtain ⟨i, stored, valid, hni, hik, hreport⟩ := hsome
    obtain ⟨j, valid', hlast⟩ := exists_lastReport hni hik hreport
    rw [h.run_valid hlast]
    exact hunmasked j valid' hlast
  · apply Mailbox.run_valid h.lt hfresh
    intro j hnj hjk
    exact ⟨(h.between j hnj hjk).2, fun stored valid hreport =>
      hsome ⟨j, stored, valid, hnj, hjk, hreport⟩⟩

theorem exists_firstPoll {n j : Nat} (hlt : n < j) (hfresh : Fresh (events n))
    (hpoll : events j = .poll) (hbetween : ∀ i, n < i → i < j → ¬ Fresh (events i)) :
    ∃ k, FirstPoll events n k := by
  classical
  have hexists : ∃ k, n < k ∧ events k = .poll := ⟨j, hlt, hpoll⟩
  obtain ⟨hnk, hk⟩ := Nat.find_spec hexists
  have hmin : Nat.find hexists ≤ j := Nat.find_min' hexists ⟨hlt, hpoll⟩
  refine ⟨Nat.find hexists, hnk, hfresh, hk, fun i hni hik => ⟨hbetween i hni (by omega), ?_⟩⟩
  exact fun hi => Nat.find_min hexists hik ⟨hni, hi⟩

/-- **Exactly once.** With a disciplined producer, every fresh value that is polled for in time is
handed out exactly once if and only if no report before that poll masks it. -/
theorem deliversOnce_iff (hdisciplined : Disciplined events) :
    DeliversOnce events ↔ Unmasked events := by
  refine ⟨?_, ?_⟩
  · intro hdelivers n k hfirst i valid hlast
    obtain ⟨k', hout, -⟩ := hdelivers.delivered n k hfirst.lt hfirst.fresh hfirst.poll
      fun i hni hik => (hfirst.between i hni hik).1
    obtain ⟨hpoll, hpending, hvalid⟩ := handsOut_iff.mp hout
    have hsame : k' = k := by
      rcases Nat.lt_trichotomy k' k with hlt | heq | hgt
      · exact absurd hpoll (hfirst.between k' hpending.lt hlt).2
      · exact heq
      · exact absurd hfirst.poll (hpending.untouched k hfirst.lt hgt).1
    rw [← hfirst.run_valid hlast, ← hsame]
    exact hvalid
  · intro hunmasked
    refine ⟨fun n j hlt hfresh hpoll hbetween => ?_, fun n k k' h h' => h.unique h'⟩
    obtain ⟨k, hfirst⟩ := exists_firstPoll hlt hfresh hpoll hbetween
    have hout := hfirst.handsOut hdisciplined (hunmasked n k hfirst)
    exact ⟨k, hout, fun k' hout' => hout'.unique hout⟩

end Run

end Mailbox
