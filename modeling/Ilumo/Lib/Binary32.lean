import Mathlib.Algebra.Order.Field.Basic
import Mathlib.Algebra.Order.Ring.Abs
import Mathlib.Data.Rat.Cast.Order
import Mathlib.Tactic.Linarith
import Mathlib.Tactic.NormNum
import Mathlib.Tactic.Ring

/-!
# The binary32 format

The value of a 32-bit word, what it means for a word to be a number rounded to nearest with ties to
even, and the word of a natural number. Without the sign bit the finite words are counted through in
the order of their values (`magnitude_strictMono`), one unit in the last place at a time, so only
the two neighbours of a word compete with it.
-/

namespace Binary32

/-- The unit in the last place of the word `k`, its sign bit apart. -/
def ulp (k : Nat) : ℚ := 2 ^ ((max (k / 2 ^ 23) 1 : Nat) - 150 : ℤ)

/-- With the leading bit that a normal number does not store. -/
def significand (k : Nat) : Nat := if k < 2 ^ 23 then k else 2 ^ 23 + k % 2 ^ 23

def magnitude (k : Nat) : ℚ := significand k * ulp k

/-- The number a word stands for; an infinity or a NaN stands for none. -/
def value (word : UInt32) : Option ℚ :=
  let k := word.toNat % 2 ^ 31
  if k < 255 * 2 ^ 23 then some (if word.toNat < 2 ^ 31 then magnitude k else -magnitude k)
  else none

/-- No word is nearer to `x`, and if another one is as near then this one is even. -/
def Rounds (word : UInt32) (x : ℚ) : Prop :=
  ∃ v, value word = some v ∧ ∀ other v', value other = some v' →
    |x - v| ≤ |x - v'| ∧ (v' ≠ v → |x - v'| = |x - v| → word.toNat % 2 = 0)

/-! ### The order of the words -/

theorem ulp_pos (k : Nat) : 0 < ulp k := zpow_pos (by norm_num) _

theorem magnitude_nonneg (k : Nat) : 0 ≤ magnitude k :=
  mul_nonneg (Nat.cast_nonneg _) (ulp_pos k).le

theorem magnitude_succ (k : Nat) : magnitude (k + 1) = magnitude k + ulp k := by
  by_cases hsame : max ((k + 1) / 2 ^ 23) 1 = max (k / 2 ^ 23) 1
  · have hulp : ulp (k + 1) = ulp k := by rw [ulp, ulp, hsame]
    have hsignificand : significand (k + 1) = significand k + 1 := by
      rw [significand, significand]
      split <;> split <;> omega
    rw [magnitude, magnitude, hulp, hsignificand]
    push_cast
    ring
  · -- the significand was all ones, so the exponent field is the next one
    have hexponent : max ((k + 1) / 2 ^ 23) 1 = max (k / 2 ^ 23) 1 + 1 := by omega
    have hulp : ulp (k + 1) = ulp k * 2 := by
      rw [ulp, ulp, hexponent, ← zpow_add_one₀ (by norm_num)]
      congr 1
      push_cast
      ring
    have hnext : significand (k + 1) = 2 ^ 23 := by
      rw [significand, if_neg (by omega)]
      omega
    have hlast : significand k = 2 ^ 24 - 1 := by
      rw [significand, if_neg (by omega)]
      omega
    rw [magnitude, magnitude, hulp, hnext, hlast]
    push_cast
    ring

theorem magnitude_strictMono : StrictMono magnitude := by
  apply strictMono_nat_of_lt_succ
  intro k
  rw [magnitude_succ]
  linarith [ulp_pos k]

theorem value_of_lt {word : UInt32} (hfinite : word.toNat < 255 * 2 ^ 23) :
    value word = some (magnitude word.toNat) := by
  have hsign : word.toNat < 2 ^ 31 := by omega
  simp only [value, Nat.mod_eq_of_lt hsign, if_pos hfinite, if_pos hsign]

theorem value_zero : value 0 = some 0 := by
  rw [value_of_lt (by decide)]
  simp [magnitude, significand]

theorem value_one : value 0x3f800000 = some 1 := by
  have hulp : ulp 0x3f800000 = 2 ^ (-23 : ℤ) := rfl
  have hsignificand : significand 0x3f800000 = 2 ^ 23 := rfl
  rw [value_of_lt (by decide)]
  change some (magnitude 0x3f800000) = _
  rw [magnitude, hulp, hsignificand]
  norm_num

/-- A finite word is a magnitude or the opposite of one. -/
theorem value_eq_some {word : UInt32} {v : ℚ} (h : value word = some v) :
    (word.toNat < 255 * 2 ^ 23 ∧ v = magnitude word.toNat) ∨ v ≤ 0 := by
  simp only [value] at h
  split at h
  · next hfinite =>
      obtain rfl := Option.some.inj h
      split
      · next hsign =>
          rw [Nat.mod_eq_of_lt hsign] at hfinite ⊢
          exact .inl ⟨hfinite, rfl⟩
      · exact .inr (neg_nonpos.mpr (magnitude_nonneg _))
  · cases h

/-! ### Rounding -/

theorem rounds_zero : Rounds 0 0 := by
  refine ⟨0, value_zero, fun other v' _ => ?_⟩
  rw [sub_zero, abs_zero]
  exact ⟨abs_nonneg _, fun _ _ => rfl⟩

theorem Rounds.magnitude {word : UInt32} {x : ℚ} (h : Rounds word x) (hx : 1 ≤ x) :
    word.toNat < 255 * 2 ^ 23 ∧ ∀ other v', value other = some v' →
      |x - Binary32.magnitude word.toNat| ≤ |x - v'| ∧
        (v' ≠ Binary32.magnitude word.toNat →
          |x - v'| = |x - Binary32.magnitude word.toNat| → word.toNat % 2 = 0) := by
  obtain ⟨v, hv, hnearest⟩ := h
  rcases value_eq_some hv with ⟨hfinite, rfl⟩ | hneg
  · exact ⟨hfinite, hnearest⟩
  · have hone := (hnearest _ _ value_one).1
    rw [abs_of_pos (by linarith), abs_of_nonneg (by linarith)] at hone
    linarith

theorem Rounds.not_lt {word word' : UInt32} {x : ℚ} (hx : 1 ≤ x) (h : Rounds word x)
    (h' : Rounds word' x) : ¬ word.toNat < word'.toNat := by
  intro hlt
  obtain ⟨-, hnearest⟩ := h.magnitude hx
  obtain ⟨hfinite', hnearest'⟩ := h'.magnitude hx
  have hvalue := value_of_lt (lt_trans hlt hfinite')
  have hless := magnitude_strictMono hlt
  have hsame : |x - Binary32.magnitude word'.toNat| = |x - Binary32.magnitude word.toNat| :=
    le_antisymm (hnearest' _ _ hvalue).1 (hnearest _ _ (value_of_lt hfinite')).1
  have heven := (hnearest _ _ (value_of_lt hfinite')).2 hless.ne' hsame
  have heven' := (hnearest' _ _ hvalue).2 hless.ne hsame.symm
  -- the word between the two is nearer than both
  have hbetween : (UInt32.ofNat (word.toNat + 1)).toNat = word.toNat + 1 := by
    rw [UInt32.toNat_ofNat']
    exact Nat.mod_eq_of_lt (by omega)
  have hbetweenValue : value (UInt32.ofNat (word.toNat + 1)) =
      some (Binary32.magnitude (word.toNat + 1)) := by
    rw [value_of_lt (by omega), hbetween]
  have hleft := magnitude_strictMono (show word.toNat < word.toNat + 1 by omega)
  have hright := magnitude_strictMono (show word.toNat + 1 < word'.toNat by omega)
  have hbest := (hnearest _ _ hbetweenValue).1
  have hmiddle : x - Binary32.magnitude word.toNat = Binary32.magnitude word'.toNat - x := by
    rcases abs_eq_abs.mp hsame with hequal | hopposite <;> linarith
  rw [hmiddle, abs_of_nonneg (by linarith)] at hbest
  rcases le_abs'.mp hbest with hbelow | habove <;> linarith

/-- A number from 1 on has one rounding. -/
theorem Rounds.unique {word word' : UInt32} {x : ℚ} (hx : 1 ≤ x) (h : Rounds word x)
    (h' : Rounds word' x) : word = word' := by
  have hle := h.not_lt hx h'
  have hge := h'.not_lt hx h
  exact UInt32.toNat_inj.mp (by omega)

/-- A word rounds `x` if the two words next to it do not come nearer. -/
theorem rounds_of_neighbours {word : UInt32} {x : ℚ} {k : Nat} (hword : word.toNat = k + 1)
    (hfinite : k + 1 < 255 * 2 ^ 23)
    (hleft : |x - magnitude (k + 1)| ≤ x - magnitude k)
    (hright : |x - magnitude (k + 1)| ≤ magnitude (k + 2) - x)
    (htie : |x - magnitude (k + 1)| = x - magnitude k ∨
      |x - magnitude (k + 1)| = magnitude (k + 2) - x → (k + 1) % 2 = 0) : Rounds word x := by
  refine ⟨magnitude (k + 1), by rw [value_of_lt (by omega), hword], fun other v' hother => ?_⟩
  rw [hword]
  have hside : v' ≤ magnitude k ∨ v' = magnitude (k + 1) ∨ magnitude (k + 2) ≤ v' := by
    rcases value_eq_some hother with ⟨-, rfl⟩ | hneg
    · rcases Nat.lt_trichotomy other.toNat (k + 1) with hlt | heq | hgt
      · exact .inl (magnitude_strictMono.monotone (by omega))
      · exact .inr (.inl (by rw [heq]))
      · exact .inr (.inr (magnitude_strictMono.monotone (by omega)))
    · exact .inl (hneg.trans (magnitude_nonneg k))
  rcases hside with hbelow | rfl | habove
  · have hfar := le_abs_self (x - v')
    exact ⟨by linarith, fun _ hsame => htie (.inl (by linarith))⟩
  · exact ⟨le_rfl, fun hother => absurd rfl hother⟩
  · have hfar := neg_abs_le (x - v')
    exact ⟨by linarith, fun _ hsame => htie (.inr (by linarith))⟩

/-! ### The word of a natural number -/

/-- The integer nearest to `a / b`, and of two the even one. -/
def roundHalfEven (a b : Nat) : Nat :=
  if 2 * (a % b) < b ∨ 2 * (a % b) = b ∧ a / b % 2 = 0 then a / b else a / b + 1

theorem roundHalfEven_spec (a : Nat) {b : Nat} (hb : 0 < b) :
    2 * a ≤ (2 * roundHalfEven a b + 1) * b ∧ 2 * roundHalfEven a b * b ≤ 2 * a + b ∧
      (2 * a = (2 * roundHalfEven a b + 1) * b ∨ 2 * roundHalfEven a b * b = 2 * a + b →
        roundHalfEven a b % 2 = 0) := by
  have hsplit := Nat.div_add_mod a b
  have hrem := Nat.mod_lt a hb
  have hdouble (q : Nat) : 2 * q * b = 2 * (b * q) := by ring
  rw [roundHalfEven]
  split
  · next hdown =>
      rw [Nat.add_mul, hdouble]
      omega
  · next hup =>
      rw [Nat.add_mul, hdouble, Nat.mul_add]
      omega

/-- The bits of a positive number, its leading bit added to the exponent field. -/
def encode (n : Nat) : Nat := 2 ^ 23 * (126 + n.log2) + roundHalfEven (n * 2 ^ 23) (2 ^ n.log2)

theorem encode_eq (n : Nat) :
    encode n = 2 ^ 23 * (126 + n.log2) + roundHalfEven (n * 2 ^ 23) (2 ^ n.log2) :=
  rfl

section Encode

variable {n : Nat} (hn : 0 < n)

include hn

theorem roundHalfEven_bounds :
    2 ^ 23 ≤ roundHalfEven (n * 2 ^ 23) (2 ^ n.log2) ∧
      roundHalfEven (n * 2 ^ 23) (2 ^ n.log2) ≤ 2 ^ 24 := by
  have hb : 0 < 2 ^ n.log2 := Nat.two_pow_pos _
  have hlow : 2 ^ 23 ≤ n * 2 ^ 23 / 2 ^ n.log2 := by
    rw [Nat.le_div_iff_mul_le hb, Nat.mul_comm]
    exact Nat.mul_le_mul_right _ (Nat.log2_self_le hn.ne')
  have hhigh : n * 2 ^ 23 / 2 ^ n.log2 < 2 ^ 24 := by
    rw [Nat.div_lt_iff_lt_mul hb]
    have hlt : n < 2 ^ (n.log2 + 1) := Nat.lt_log2_self
    rw [pow_succ] at hlt
    omega
  rw [roundHalfEven]
  split <;> omega

theorem le_encode : 2 ^ 23 * (127 + n.log2) ≤ encode n := by
  obtain ⟨hlow, -⟩ := roundHalfEven_bounds hn
  have hencode := encode_eq n
  omega

theorem encode_lt (hrange : n.log2 ≤ 126) : encode n < 255 * 2 ^ 23 := by
  obtain ⟨-, hhigh⟩ := roundHalfEven_bounds hn
  have hencode := encode_eq n
  omega

omit hn in
theorem ulp_of_div {k L : Nat} (h : k / 2 ^ 23 = L + 127) : ulp k = 2 ^ (L - 23 : ℤ) := by
  have hexponent : ((L + 127 : Nat) : ℤ) - 150 = L - 23 := by omega
  rw [ulp, h, Nat.max_eq_left (by omega), hexponent]

theorem magnitude_encode :
    magnitude (encode n) =
      roundHalfEven (n * 2 ^ 23) (2 ^ n.log2) * (2 : ℚ) ^ (n.log2 - 23 : ℤ) := by
  obtain ⟨hlow, hhigh⟩ := roundHalfEven_bounds hn
  rw [encode_eq]
  generalize roundHalfEven (n * 2 ^ 23) (2 ^ n.log2) = q at hlow hhigh
  generalize hk : 2 ^ 23 * (126 + n.log2) + q = k
  by_cases hlt : q < 2 ^ 24
  · have hsignificand : significand k = q := by
      rw [significand, if_neg (by omega)]
      omega
    rw [magnitude, hsignificand, ulp_of_div (L := n.log2) (by omega)]
  · -- the rounding carried into the exponent field
    have hsignificand : significand k = 2 ^ 23 := by
      rw [significand, if_neg (by omega)]
      omega
    have hulp : ulp k = 2 * (2 : ℚ) ^ (n.log2 - 23 : ℤ) := by
      have hnext : ((n.log2 + 1 : Nat) : ℤ) - 23 = (n.log2 - 23 : ℤ) + 1 := by omega
      rw [ulp_of_div (L := n.log2 + 1) (by omega), hnext, zpow_add_one₀ (by norm_num), mul_comm]
    have hq : (q : ℚ) = 2 ^ 24 := by
      have hq : q = 2 ^ 24 := by omega
      exact_mod_cast hq
    rw [magnitude, hsignificand, hulp, hq]
    push_cast
    ring

theorem abs_sub_magnitude_encode :
    2 * |(n : ℚ) - magnitude (encode n)| ≤ 2 ^ (n.log2 - 23 : ℤ) ∧
      (2 * |(n : ℚ) - magnitude (encode n)| = 2 ^ (n.log2 - 23 : ℤ) → encode n % 2 = 0) := by
  obtain ⟨habove, hbelow, htie⟩ := roundHalfEven_spec (n * 2 ^ 23) (Nat.two_pow_pos n.log2)
  have hparity : encode n % 2 = roundHalfEven (n * 2 ^ 23) (2 ^ n.log2) % 2 := by
    have hencode := encode_eq n
    omega
  rw [magnitude_encode hn, hparity]
  generalize roundHalfEven (n * 2 ^ 23) (2 ^ n.log2) = q at habove hbelow htie
  have hpow : (2 : ℚ) ^ n.log2 = 2 ^ 23 * (2 : ℚ) ^ (n.log2 - 23 : ℤ) := by
    rw [← zpow_natCast, ← zpow_natCast, ← zpow_add₀ (by norm_num)]
    congr 1
    push_cast
    ring
  have habove : (2 * (n * 2 ^ 23) : ℚ) ≤ (2 * q + 1) * 2 ^ n.log2 := by exact_mod_cast habove
  have hbelow : (2 * q * 2 ^ n.log2 : ℚ) ≤ 2 * (n * 2 ^ 23) + 2 ^ n.log2 := by
    exact_mod_cast hbelow
  rw [hpow] at habove hbelow
  refine ⟨?_, ?_⟩
  · have hhalf : |(n : ℚ) - q * 2 ^ (n.log2 - 23 : ℤ)| ≤ 2 ^ (n.log2 - 23 : ℤ) / 2 :=
      abs_le.mpr ⟨by linarith, by linarith⟩
    linarith
  · intro hhalf
    apply htie
    rcases abs_cases ((n : ℚ) - q * 2 ^ (n.log2 - 23 : ℤ)) with ⟨habs, -⟩ | ⟨habs, -⟩
    · have hup : (2 * (n * 2 ^ 23) : ℚ) = (2 * q + 1) * 2 ^ n.log2 := by
        rw [hpow]
        linarith
      exact .inl (by exact_mod_cast hup)
    · have hdown : (2 * q * 2 ^ n.log2 : ℚ) = 2 * (n * 2 ^ 23) + 2 ^ n.log2 := by
        rw [hpow]
        linarith
      exact .inr (by exact_mod_cast hdown)

/-- **The rounding of a natural number**, as long as it stays below the infinities. -/
theorem rounds_encode (hrange : n.log2 ≤ 126) {word : UInt32} (hword : word.toNat = encode n) :
    Rounds word n := by
  have hle := le_encode hn
  obtain ⟨hhalf, htie⟩ := abs_sub_magnitude_encode hn
  obtain ⟨hlow, hhigh⟩ := roundHalfEven_bounds hn
  have hencode := encode_eq n
  have hlt := encode_lt hn hrange
  obtain ⟨k, hk⟩ : ∃ k, encode n = k + 1 := ⟨encode n - 1, by omega⟩
  have hnext := magnitude_succ (k + 1)
  have hlast := magnitude_succ k
  have hpos := ulp_pos k
  have hnextUlp : (2 : ℚ) ^ (n.log2 - 23 : ℤ) ≤ ulp (k + 1) := by
    rw [ulp]
    exact zpow_le_zpow_right₀ (by norm_num) (by omega)
  -- below a power of two the words lie twice as close, but then the number is not below its word
  have hlastUlp : (2 : ℚ) ^ (n.log2 - 23 : ℤ) ≤ ulp k ∨ magnitude (k + 1) ≤ n := by
    by_cases hleading : roundHalfEven (n * 2 ^ 23) (2 ^ n.log2) = 2 ^ 23
    · right
      have hself : ((2 ^ n.log2 : Nat) : ℚ) ≤ n := Nat.cast_le.mpr (Nat.log2_self_le hn.ne')
      rw [← hk, magnitude_encode hn, hleading]
      push_cast at hself ⊢
      rw [zpow_sub₀ (by norm_num)]
      norm_num at hself ⊢
      linarith
    · left
      rw [ulp]
      exact zpow_le_zpow_right₀ (by norm_num) (by omega)
  rw [hk] at hhalf htie
  generalize (2 : ℚ) ^ (n.log2 - 23 : ℤ) = u at *
  have hupper := le_abs_self ((n : ℚ) - magnitude (k + 1))
  have hlower := neg_abs_le ((n : ℚ) - magnitude (k + 1))
  refine rounds_of_neighbours (hword.trans hk) (hk ▸ hlt) ?_ ?_ ?_
  · rcases hlastUlp with hulp | hbelow
    · linarith
    · rw [abs_of_nonneg (by linarith)]
      linarith
  · linarith
  · intro hsame
    apply htie
    rcases hsame with hsame | hsame
    · rcases hlastUlp with hulp | hbelow
      · linarith
      · rw [abs_of_nonneg (by linarith)] at hsame
        linarith
    · linarith

theorem rounds_natCast_iff (hrange : n.log2 ≤ 126) {word : UInt32} :
    Rounds word n ↔ word.toNat = encode n := by
  refine ⟨?_, ?_⟩
  · intro h
    have hlt := encode_lt hn hrange
    have hself : (UInt32.ofNat (encode n)).toNat = encode n := by
      rw [UInt32.toNat_ofNat']
      exact Nat.mod_eq_of_lt (by omega)
    have hone : (1 : ℚ) ≤ n := Nat.one_le_cast.mpr hn
    rw [h.unique hone (rounds_encode hn hrange hself), hself]
  · exact rounds_encode hn hrange

/-- The bits of a small number are those of a larger one. -/
theorem lt_encode (hsmall : n < 2 ^ 30) : n < encode n := by
  have hle := le_encode hn
  by_cases hhalf : n < 2 ^ 29
  · omega
  · have hlog : 29 ≤ n.log2 := (Nat.le_log2 hn.ne').mpr (by omega)
    omega

end Encode

end Binary32
