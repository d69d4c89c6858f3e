import Ilumo.Lib.Machine
import Ilumo.Lib.Mailbox
import Mathlib.Data.List.Nodup

/-!
# Overlapping consumers of one mailbox

Any number of runs take readings from a mailbox, fill a message that all of them share, and publish
it. A taken reading is in one place only: the mailbox, a run in progress, or the log. A published
message is that of the reading its run has taken as long as no run fills the message while another
one has filled it and not yet published.
-/

namespace Overlap

variable {R M : Type}

/-- How far a run has come, with the reading it has taken and the number under which that was
stored. -/
inductive Phase (R : Type) where
  | idle
  | taken (number : Nat) (reading : R)
  | filled (number : Nat) (reading : R)

/-- The mailbox, the shared message, the published messages and the runs; `number` counts the steps
and `stored` lists what has been stored by them. -/
structure State (R M : Type) where
  slot : Mailbox R := {}
  member : M
  log : List M := []
  phases : List (Phase R) := []
  stored : List (Nat × R) := []
  number : Nat := 0

inductive Action (R : Type) where
  | report (stored : Option R) (valid : Status)
  | start
  | take (i : Nat)
  | fill (i : Nat)
  | publish (i : Nat)
  | skip

namespace State

def report (this : State R M) (stored : Option R) (valid : Status) : State R M :=
  { this with
    slot := this.slot.step this.number (.report stored valid)
    stored := this.stored ++ stored.toList.map fun reading => (this.number, reading)
    number := this.number + 1 }

def start (this : State R M) : State R M :=
  { this with phases := this.phases ++ [.idle], number := this.number + 1 }

def take (this : State R M) (i : Nat) : State R M :=
  let phase := match this.slot.handedOut with
    | some (number, reading) => .taken number reading
    | none => .idle
  { this with
    slot := this.slot.getLast.2
    phases := this.phases.set i phase
    number := this.number + 1 }

def fill (messageOf : M → R → M) (this : State R M) (i : Nat) (number : Nat) (reading : R) :
    State R M :=
  { this with
    member := messageOf this.member reading
    phases := this.phases.set i (.filled number reading)
    number := this.number + 1 }

def publish (this : State R M) (i : Nat) : State R M :=
  { this with
    log := this.log ++ [this.member]
    phases := this.phases.set i .idle
    number := this.number + 1 }

def skip (this : State R M) : State R M := { this with number := this.number + 1 }

end State

inductive Step (messageOf : M → R → M) : State R M → Action R → State R M → Prop
  | report {this : State R M} {stored : Option R} {valid : Status} :
      Step messageOf this (.report stored valid) (this.report stored valid)
  | start {this : State R M} : Step messageOf this .start this.start
  | take {this : State R M} {i : Nat} (hphase : this.phases[i]? = some .idle) :
      Step messageOf this (.take i) (this.take i)
  | fill {this : State R M} {i number : Nat} {reading : R}
      (hphase : this.phases[i]? = some (.taken number reading)) :
      Step messageOf this (.fill i) (this.fill messageOf i number reading)
  | publish {this : State R M} {i number : Nat} {reading : R}
      (hphase : this.phases[i]? = some (.filled number reading)) :
      Step messageOf this (.publish i) (this.publish i)
  | skip {this : State R M} : Step messageOf this .skip this.skip

/-- No run fills the message between another run's fill and its publication. -/
def Unshared (this : State R M) : Action R → Prop
  | .fill _ => ∀ number reading, .filled number reading ∉ this.phases
  | _ => True

/-- Every published message is that of one stored reading, and no reading has two. -/
def WholeAndOnce (messageOf : M → R → M) (prepared : M) (this : State R M) : Prop :=
  ∃ readings : List (Nat × R),
    this.log = readings.map (fun out => messageOf prepared out.2) ∧
      (∀ out ∈ readings, out ∈ this.stored) ∧ (readings.map Prod.fst).Nodup

/-! ### Where a reading is -/

def Phase.carries (number : Nat) : Phase R → Bool
  | .idle => false
  | .taken other _ => other = number
  | .filled other _ => other = number

/-- The mailbox still has the reading with this number to hand out. -/
def inSlot (slot : Mailbox R) (number : Nat) : Nat :=
  if slot.new = true ∧ slot.last.map Prod.fst = some number then 1 else 0

def places (readings : List (Nat × R)) (this : State R M) (number : Nat) : Nat :=
  (readings.map Prod.fst).count number + this.phases.countP (Phase.carries number) +
    inSlot this.slot number

/-- Each reading is in one place at most, and in none before it is stored. -/
def Counted (readings : List (Nat × R)) (this : State R M) : Prop :=
  ∀ number, places readings this number ≤ 1 ∧
    (this.number ≤ number → places readings this number = 0)

/-- What is published, taken or in the mailbox has been stored. -/
structure Known (readings : List (Nat × R)) (this : State R M) : Prop where
  published : ∀ out ∈ readings, out ∈ this.stored
  slot : ∀ out, this.slot.last = some out → out ∈ this.stored
  taken : ∀ number reading, .taken number reading ∈ this.phases → (number, reading) ∈ this.stored
  filled : ∀ number reading, .filled number reading ∈ this.phases → (number, reading) ∈ this.stored

/-- The shared message is that of the run that has filled it, and so is each published one. -/
structure Filled (messageOf : M → R → M) (prepared : M) (readings : List (Nat × R))
    (this : State R M) : Prop where
  log : this.log = readings.map fun out => messageOf prepared out.2
  template : ∀ reading, messageOf this.member reading = messageOf prepared reading
  member : ∀ number reading, .filled number reading ∈ this.phases →
    this.member = messageOf prepared reading

/-! ### Counting the places -/

theorem countP_set {phases : List (Phase R)} {i : Nat} {old : Phase R}
    (hold : phases[i]? = some old) (new : Phase R) (p : Phase R → Bool) :
    (phases.set i new).countP p + (if p old then 1 else 0) =
      phases.countP p + if p new then 1 else 0 := by
  obtain ⟨hi, rfl⟩ := List.getElem?_eq_some_iff.mp hold
  have hle := List.boole_getElem_le_countP (p := p) hi
  rw [List.countP_set hi]
  omega

theorem Counted.mono {readings readings' : List (Nat × R)} {this this' : State R M}
    (h : Counted readings this) (hnumber : this.number ≤ this'.number)
    (hle : ∀ number, places readings' this' number ≤ places readings this number) :
    Counted readings' this' := by
  intro number
  have hone := h number
  have hplaces := hle number
  refine ⟨by omega, fun hlater => ?_⟩
  have hnone := hone.2 (hnumber.trans hlater)
  omega

theorem Counted.report {readings : List (Nat × R)} {this : State R M} (h : Counted readings this)
    (stored : Option R) (valid : Status) : Counted readings (this.report stored valid) := by
  cases stored with
  | none => exact h.mono (Nat.le_succ _) fun _ => le_rfl
  | some reading =>
      intro number
      have hone := h number
      have hslot : inSlot (this.report (some reading) valid).slot number =
          if this.number = number then 1 else 0 := by
        simp [inSlot, State.report, Mailbox.step, Mailbox.store]
      have hplaces : places readings (this.report (some reading) valid) number +
          inSlot this.slot number =
            places readings this number + if this.number = number then 1 else 0 := by
        rw [places, hslot, places]
        simp only [State.report]
        omega
      have hlater : (this.report (some reading) valid).number = this.number + 1 := rfl
      rw [hlater]
      split at hplaces
      · next hnow =>
          have hnone := hone.2 hnow.le
          omega
      · omega

theorem Counted.take {readings : List (Nat × R)} {this : State R M} (h : Counted readings this)
    {i : Nat} (hphase : this.phases[i]? = some .idle) : Counted readings (this.take i) := by
  apply h.mono (Nat.le_succ _)
  intro number
  have hempty : inSlot (this.take i).slot number = 0 := by
    rw [inSlot, if_neg]
    intro hall
    obtain ⟨hnew, -⟩ := hall
    rw [State.take, Mailbox.getLast_new] at hnew
    cases hnew
  rw [places, hempty, places, State.take]
  cases hout : this.slot.handedOut with
  | none =>
      have hset := countP_set hphase .idle (Phase.carries number)
      simp only [Phase.carries] at hset ⊢
      omega
  | some out =>
      obtain ⟨hnew, -, hlast⟩ := Mailbox.handedOut_eq_some_iff.mp hout
      have hset := countP_set hphase (.taken out.1 out.2) (Phase.carries number)
      have hslot : inSlot this.slot number = if out.1 = number then 1 else 0 := by
        simp [inSlot, hnew, hlast]
      simp only [Phase.carries, decide_eq_true_eq, Bool.false_eq_true, if_false] at hset ⊢
      omega

theorem Counted.fill {messageOf : M → R → M} {readings : List (Nat × R)} {this : State R M}
    (h : Counted readings this) {i number : Nat} {reading : R}
    (hphase : this.phases[i]? = some (.taken number reading)) :
    Counted readings (this.fill messageOf i number reading) := by
  apply h.mono (Nat.le_succ _)
  intro other
  have hset := countP_set hphase (.filled number reading) (Phase.carries other)
  have hsame : Phase.carries other (.filled number reading) =
    Phase.carries other (.taken number reading) := rfl
  rw [hsame] at hset
  rw [places, places, State.fill]
  dsimp only
  omega

theorem Counted.publish {readings : List (Nat × R)} {this : State R M} (h : Counted readings this)
    {i number : Nat} {reading : R} (hphase : this.phases[i]? = some (.filled number reading)) :
    Counted (readings ++ [(number, reading)]) (this.publish i) := by
  apply h.mono (Nat.le_succ _)
  intro other
  have hset := countP_set hphase .idle (Phase.carries other)
  rw [places, places, State.publish, List.map_append, List.count_append]
  simp only [Phase.carries, List.map_cons, List.map_nil, List.count_singleton, beq_iff_eq,
    decide_eq_true_eq, Bool.false_eq_true, if_false] at hset ⊢
  omega

/-! ### Provenance -/

theorem Known.report {readings : List (Nat × R)} {this : State R M} (h : Known readings this)
    (stored : Option R) (valid : Status) : Known readings (this.report stored valid) := by
  have hold {out : Nat × R} (hout : out ∈ this.stored) :
      out ∈ (this.report stored valid).stored := List.mem_append_left _ hout
  refine ⟨fun out hout => hold (h.published out hout), fun out hout => ?_,
    fun number reading hmem => hold (h.taken number reading hmem),
    fun number reading hmem => hold (h.filled number reading hmem)⟩
  cases stored with
  | none => exact hold (h.slot out hout)
  | some reading =>
      obtain rfl := Option.some.inj hout
      exact List.mem_append_right _ (List.mem_singleton_self _)

theorem Known.take {readings : List (Nat × R)} {this : State R M} (h : Known readings this)
    (i : Nat) : Known readings (this.take i) := by
  refine ⟨h.published, fun out hout => h.slot out ?_, fun number reading hmem => ?_,
    fun number reading hmem => ?_⟩
  · rw [← hout, State.take, Mailbox.getLast]
    split <;> rfl
  · rcases List.mem_or_eq_of_mem_set hmem with hmem | hphase
    · exact h.taken number reading hmem
    · cases hout : this.slot.handedOut with
      | none =>
          rw [hout] at hphase
          cases hphase
      | some out =>
          rw [hout] at hphase
          cases hphase
          exact h.slot out (Mailbox.handedOut_eq_some_iff.mp hout).2.2
  · rcases List.mem_or_eq_of_mem_set hmem with hmem | hphase
    · exact h.filled number reading hmem
    · split at hphase <;> cases hphase

theorem Known.fill {messageOf : M → R → M} {readings : List (Nat × R)} {this : State R M}
    (h : Known readings this) {i number : Nat} {reading : R}
    (hphase : this.phases[i]? = some (.taken number reading)) :
    Known readings (this.fill messageOf i number reading) := by
  refine ⟨h.published, h.slot, fun other reading' hmem => ?_, fun other reading' hmem => ?_⟩
  · rcases List.mem_or_eq_of_mem_set hmem with hmem | hnew
    · exact h.taken other reading' hmem
    · cases hnew
  · rcases List.mem_or_eq_of_mem_set hmem with hmem | hnew
    · exact h.filled other reading' hmem
    · cases hnew
      exact h.taken number reading (List.mem_of_getElem? hphase)

theorem Known.publish {readings : List (Nat × R)} {this : State R M} (h : Known readings this)
    {i number : Nat} {reading : R} (hphase : this.phases[i]? = some (.filled number reading)) :
    Known (readings ++ [(number, reading)]) (this.publish i) := by
  refine ⟨fun out hout => ?_, h.slot, fun other reading' hmem => ?_, fun other reading' hmem => ?_⟩
  · rcases List.mem_append.mp hout with hout | hout
    · exact h.published out hout
    · rw [List.mem_singleton.mp hout]
      exact h.filled number reading (List.mem_of_getElem? hphase)
  · rcases List.mem_or_eq_of_mem_set hmem with hmem | hnew
    · exact h.taken other reading' hmem
    · cases hnew
  · rcases List.mem_or_eq_of_mem_set hmem with hmem | hnew
    · exact h.filled other reading' hmem
    · cases hnew

theorem Known.start {readings : List (Nat × R)} {this : State R M} (h : Known readings this) :
    Known readings this.start := by
  refine ⟨h.published, h.slot, fun number reading hmem => ?_, fun number reading hmem => ?_⟩
  · apply h.taken number reading
    simpa [State.start] using hmem
  · apply h.filled number reading
    simpa [State.start] using hmem

/-! ### Steps and runs -/

variable {messageOf : M → R → M} {prepared : M}

/-- A message that is filled again is as if it had been filled once. -/
def Overwrites (messageOf : M → R → M) : Prop :=
  ∀ message earlier reading,
    messageOf (messageOf message earlier) reading = messageOf message reading

structure Inv (messageOf : M → R → M) (prepared : M) (readings : List (Nat × R))
    (this : State R M) : Prop where
  counted : Counted readings this
  known : Known readings this
  filled : Filled messageOf prepared readings this

theorem Filled.set_of_not_filled {readings : List (Nat × R)} {this this' : State R M}
    (h : Filled messageOf prepared readings this) {i : Nat} {new : Phase R}
    (hlog : this'.log = this.log) (hmember : this'.member = this.member)
    (hphases : this'.phases = this.phases.set i new)
    (hnew : ∀ number reading, new ≠ .filled number reading) :
    Filled messageOf prepared readings this' := by
  refine ⟨hlog.trans h.log, by rw [hmember]; exact h.template, fun number reading hmem => ?_⟩
  rw [hmember]
  rw [hphases] at hmem
  rcases List.mem_or_eq_of_mem_set hmem with hmem | hphase
  · exact h.member number reading hmem
  · exact absurd hphase.symm (hnew number reading)

theorem Inv.step (hoverwrites : Overwrites messageOf) {readings : List (Nat × R)}
    {this this' : State R M} {action : Action R} (h : Inv messageOf prepared readings this)
    (hstep : Machine.Guarded (Step messageOf) Unshared this action this') :
    ∃ readings', Inv messageOf prepared readings' this' := by
  obtain ⟨hstep, hunshared⟩ := hstep
  cases hstep with
  | report =>
      exact ⟨readings, h.counted.report _ _, h.known.report _ _,
        h.filled.log, h.filled.template, h.filled.member⟩
  | start =>
      refine ⟨readings, h.counted.mono (Nat.le_succ _) fun number => ?_, h.known.start,
        h.filled.log, h.filled.template, fun number reading hmem => ?_⟩
      · simp [places, State.start, Phase.carries]
      · apply h.filled.member number reading
        simpa [State.start] using hmem
  | @take i hphase =>
      refine ⟨readings, h.counted.take hphase, h.known.take i,
        h.filled.set_of_not_filled rfl rfl rfl fun number reading hnew => ?_⟩
      split at hnew <;> cases hnew
  | @fill i number reading hphase =>
      refine ⟨readings, h.counted.fill hphase, h.known.fill hphase, h.filled.log,
        fun reading' => ?_, fun other reading' hmem => ?_⟩
      · exact (hoverwrites ..).trans (h.filled.template reading')
      · rcases List.mem_or_eq_of_mem_set hmem with hmem | hnew
        · exact absurd hmem (hunshared other reading')
        · cases hnew
          exact h.filled.template reading
  | @publish i number reading hphase =>
      have hmember := h.filled.member number reading (List.mem_of_getElem? hphase)
      refine ⟨readings ++ [(number, reading)], h.counted.publish hphase, h.known.publish hphase,
        ?_, h.filled.template, fun other reading' hmem => ?_⟩
      · rw [State.publish, List.map_append, h.filled.log, hmember]
        rfl
      · rcases List.mem_or_eq_of_mem_set hmem with hmem | hnew
        · exact h.filled.member other reading' hmem
        · cases hnew
  | skip =>
      exact ⟨readings, h.counted.mono (Nat.le_succ _) fun _ => le_rfl,
        ⟨h.known.published, h.known.slot, h.known.taken, h.known.filled⟩,
        h.filled.log, h.filled.template, h.filled.member⟩

theorem inv_new : Inv messageOf prepared [] { member := prepared } where
  counted := by simp [Counted, places, inSlot]
  known := ⟨by simp, by simp, by simp, by simp⟩
  filled := ⟨rfl, fun _ => rfl, by simp⟩

/-- **Overlapping runs that do not share a filled message.** -/
theorem wholeAndOnce_of_unshared (hoverwrites : Overwrites messageOf) {actions : List (Action R)}
    {this : State R M}
    (hrun : Machine.Exec (Machine.Guarded (Step messageOf) Unshared) { member := prepared }
      actions this) : WholeAndOnce messageOf prepared this := by
  obtain ⟨readings, h⟩ : ∃ readings, Inv messageOf prepared readings this := by
    apply hrun.invariant (I := fun this => ∃ readings, Inv messageOf prepared readings this)
    · exact ⟨[], inv_new⟩
    · intro t action t' hall hstep
      obtain ⟨readings, h⟩ := hall
      exact h.step hoverwrites hstep
  refine ⟨readings, h.filled.log, h.known.published, ?_⟩
  rw [List.nodup_iff_count_le_one]
  intro number
  have hone := (h.counted number).1
  rw [places] at hone
  omega

end Overlap
