import Mathlib.Data.List.Forall2
import Mathlib.Data.Nat.GCD.Basic
import Mathlib.Tactic.Common
import Mathlib.Tactic.Linarith

/-!
# Time stamps

`builtin_interfaces/Time` splits a time in nanoseconds into a signed 32-bit and an unsigned 32-bit
field. Every stamp of the two sensor nodes is assigned from a 64-bit time by the same pair of
statements, `stampOf`; a few of them overwrite the nanosecond field with the whole time afterwards,
`overwrittenStamp`. What a stamp means is `Time.Denotes`, and for which times the overwritten one
still means its source time is `overwrittenStamp_denotes_iff`.
-/

namespace Ilumo

structure Time where
  sec : Int32 := 0
  nanosec : UInt32 := 0
  deriving DecidableEq, Repr

structure Header where
  stamp : Time := {}
  frameId : String := ""
  deriving DecidableEq, Repr

/-- `stamp.sec = t / 1000000000; stamp.nanosec = t % 1000000000;`, each narrowed into its field. -/
def stampOf (t : UInt64) : Time where
  sec := (t / 1000000000).toUInt32.toInt32
  nanosec := (t % 1000000000).toUInt32

/-- The same through two `int` temporaries. -/
def stampOfInts (t : UInt64) : Time :=
  let sec : Int32 := (t / 1000000000).toUInt32.toInt32
  let nsec : Int32 := (t % 1000000000).toUInt32.toInt32
  { sec, nanosec := nsec.toUInt32 }

theorem stampOfInts_eq (t : UInt64) : stampOfInts t = stampOf t := rfl

def overwrittenStamp (t : UInt64) : Time := { stampOf t with nanosec := t.toUInt32 }

namespace Time

/-- The stamp is normalised and stands for `t` nanoseconds. -/
def Denotes (stamp : Time) (t : Nat) : Prop :=
  stamp.nanosec.toNat < 10 ^ 9 ∧ stamp.sec.toInt * 10 ^ 9 + stamp.nanosec.toNat = t

instance (stamp : Time) (t : Nat) : Decidable (stamp.Denotes t) :=
  inferInstanceAs (Decidable (_ ∧ _))

instance : LT Time where
  lt left right := left.sec < right.sec ∨ left.sec = right.sec ∧ left.nanosec < right.nanosec

instance (left right : Time) : Decidable (left < right) :=
  inferInstanceAs (Decidable (_ ∨ _))

theorem lt_def {left right : Time} :
    left < right ↔ left.sec < right.sec ∨ left.sec = right.sec ∧ left.nanosec < right.nanosec :=
  Iff.rfl

theorem Denotes.lt_iff {left right : Time} {t u : Nat} (hleft : left.Denotes t)
    (hright : right.Denotes u) : left < right ↔ t < u := by
  obtain ⟨hleftNorm, hleftTime⟩ := hleft
  obtain ⟨hrightNorm, hrightTime⟩ := hright
  rw [lt_def, Int32.lt_iff_toInt_lt, ← Int32.toInt_inj, UInt32.lt_iff_toNat_lt]
  omega

/-- A time has one normalised stamp. -/
theorem Denotes.eq_iff {left right : Time} {t u : Nat} (hleft : left.Denotes t)
    (hright : right.Denotes u) : left = right ↔ t = u := by
  obtain ⟨hleftNorm, hleftTime⟩ := hleft
  obtain ⟨hrightNorm, hrightTime⟩ := hright
  refine ⟨?_, ?_⟩
  · rintro rfl
    omega
  · intro htime
    have hsec : left.sec = right.sec := Int32.toInt_inj.mp (by omega)
    have hnanosec : left.nanosec = right.nanosec := UInt32.toNat_inj.mp (by omega)
    cases left
    cases right
    congr

end Time

/-! ### The stamps of several messages -/

/-- Each stamp is normalised and stands for its source time, and stamps compare as their source
times do. -/
structure Faithful (stamps : List Time) (times : List Nat) : Prop where
  denotes : List.Forall₂ Time.Denotes stamps times
  same : ∀ p ∈ stamps.zip times, ∀ q ∈ stamps.zip times, p.1 = q.1 ↔ p.2 = q.2
  ordered : ∀ p ∈ stamps.zip times, ∀ q ∈ stamps.zip times, p.1 < q.1 ↔ p.2 < q.2

theorem faithful_iff {stamps : List Time} {times : List Nat} :
    Faithful stamps times ↔ List.Forall₂ Time.Denotes stamps times := by
  refine ⟨?_, ?_⟩
  · exact Faithful.denotes
  · intro hdenotes
    obtain ⟨-, hzip⟩ := List.forall₂_iff_zip.mp hdenotes
    exact ⟨hdenotes, fun p hp q hq => (hzip hp).eq_iff (hzip hq),
      fun p hp q hq => (hzip hp).lt_iff (hzip hq)⟩

theorem faithful_append {stamps stamps' : List Time} {times times' : List Nat}
    (hlen : stamps.length = times.length) :
    Faithful (stamps ++ stamps') (times ++ times') ↔
      Faithful stamps times ∧ Faithful stamps' times' := by
  simp only [faithful_iff, List.forall₂_iff_zip, List.zip_append hlen, List.length_append,
    List.mem_append]
  refine ⟨?_, ?_⟩
  · intro h
    obtain ⟨hall, hzip⟩ := h
    exact ⟨⟨hlen, fun hp => hzip (.inl hp)⟩, by omega, fun hp => hzip (.inr hp)⟩
  · intro h
    obtain ⟨⟨-, hfirst⟩, hlen', hsecond⟩ := h
    exact ⟨by omega, fun hp => hp.elim hfirst hsecond⟩

theorem faithful_map_iff {α : Type} {sources : List α} {stamp : α → Time} {time : α → Nat} :
    Faithful (sources.map stamp) (sources.map time) ↔
      ∀ source ∈ sources, (stamp source).Denotes (time source) := by
  rw [faithful_iff, List.forall₂_map_left_iff, List.forall₂_map_right_iff, List.forall₂_same]

theorem toInt_toInt32 {word : UInt32} (hword : word.toNat < 2 ^ 31) :
    word.toInt32.toInt = word.toNat :=
  BitVec.toInt_eq_toNat_of_lt (by change 2 * word.toNat < 2 ^ 32; omega)

/-- The two remainders agree on the first second of each period of `lcm (2 ^ 32) (10 ^ 9)`
nanoseconds, which is `2 ^ 23` seconds. -/
theorem mod_word_eq_mod_second_iff (n : Nat) :
    n % 2 ^ 32 = n % 10 ^ 9 ↔ n / 10 ^ 9 % 2 ^ 23 = 0 := by
  have hword := Nat.div_add_mod n (2 ^ 32)
  have hsecond := Nat.div_add_mod n (10 ^ 9)
  refine ⟨?_, ?_⟩
  · intro hresidue
    have hmul : 2 ^ 23 * (n / 2 ^ 32) = n / 10 ^ 9 * 5 ^ 9 := by linarith
    have hdvd : 2 ^ 23 ∣ n / 10 ^ 9 :=
      Nat.Coprime.dvd_of_dvd_mul_right (by decide) ⟨_, hmul.symm⟩
    exact Nat.mod_eq_zero_of_dvd hdvd
  · intro hperiod
    omega

section Source

variable {t : UInt64} (ht : t.toNat < 2 ^ 31 * 10 ^ 9)

include ht

theorem stampOf_sec : (stampOf t).sec.toInt = (t.toNat / 10 ^ 9 : Nat) := by
  have hquot : (t / 1000000000).toUInt32.toNat = t.toNat / 10 ^ 9 := by
    rw [UInt64.toNat_toUInt32, UInt64.toNat_div]
    exact Nat.mod_eq_of_lt (by change t.toNat / 1000000000 < 2 ^ 32; omega)
  rw [stampOf, toInt_toInt32 (by omega), hquot]

omit ht in
theorem stampOf_nanosec : (stampOf t).nanosec.toNat = t.toNat % 10 ^ 9 := by
  rw [stampOf, UInt64.toNat_toUInt32, UInt64.toNat_mod]
  exact Nat.mod_eq_of_lt (by change t.toNat % 1000000000 < 2 ^ 32; omega)

theorem stampOf_denotes : (stampOf t).Denotes t.toNat := by
  have hsec := stampOf_sec ht
  have hnano : (stampOf t).nanosec.toNat = t.toNat % 10 ^ 9 := stampOf_nanosec
  constructor <;> omega

/-- The whole time in the nanosecond field is truncated to 32 bits, which is the remainder below a
second only when the whole seconds are a multiple of `2 ^ 23`. -/
theorem overwrittenStamp_denotes_iff :
    (overwrittenStamp t).Denotes t.toNat ↔ t.toNat / 10 ^ 9 % 2 ^ 23 = 0 := by
  have hsec : (overwrittenStamp t).sec.toInt = (t.toNat / 10 ^ 9 : Nat) := stampOf_sec ht
  have hnano : (overwrittenStamp t).nanosec.toNat = t.toNat % 2 ^ 32 := UInt64.toNat_toUInt32 t
  have hsplit := Nat.div_add_mod t.toNat (10 ^ 9)
  rw [Time.Denotes, hsec, hnano, ← mod_word_eq_mod_second_iff]
  refine ⟨?_, ?_⟩
  · intro h
    obtain ⟨-, htime⟩ := h
    have htime : t.toNat / 10 ^ 9 * 10 ^ 9 + t.toNat % 2 ^ 32 = t.toNat := mod_cast htime
    linarith
  · intro hresidue
    rw [hresidue]
    refine ⟨Nat.mod_lt _ (by norm_num), ?_⟩
    have htime : t.toNat / 10 ^ 9 * 10 ^ 9 + t.toNat % 10 ^ 9 = t.toNat := by linarith
    exact mod_cast htime

end Source

end Ilumo
