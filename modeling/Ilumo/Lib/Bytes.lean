import Mathlib.Data.List.Basic
import Mathlib.Tactic.Common
import Mathlib.Tactic.Ring

/-!
# Flat byte buffers

Little-endian words, and a buffer that is resized, written in place and read back. A write at the
end of what is already known moves a cursor (`patch_cursor`), so a buffer that is filled from the
front is, at every moment, the bytes written so far and the untouched rest. Reading a fixed-width
block back out of such a buffer is `slice_flatMap`. A write anywhere changes the positions it covers
and no other (`getElem?_patch`).
-/

namespace Bytes

/-- The `n` low bytes of a number, least significant first. -/
def leBytes : Nat → Nat → List UInt8
  | 0, _ => []
  | n + 1, value => UInt8.ofNat value :: leBytes n (value / 256)

/-- The number that a string of bytes spells, least significant first. -/
def leValue : List UInt8 → Nat
  | [] => 0
  | byte :: rest => byte.toNat + 256 * leValue rest

/-- Most significant first. -/
def beValue (bytes : List UInt8) : Nat := leValue bytes.reverse

@[simp] theorem length_leBytes (n value : Nat) : (leBytes n value).length = n := by
  induction n generalizing value with
  | zero => rfl
  | succ n ih => simp [leBytes, ih]

theorem leValue_leBytes (n value : Nat) : leValue (leBytes n value) = value % 256 ^ n := by
  induction n generalizing value with
  | zero => simp [leBytes, leValue, Nat.mod_one]
  | succ n ih =>
      have hbyte : (UInt8.ofNat value).toNat = value % 256 := by simp
      rw [leBytes, leValue, ih, hbyte, pow_succ, Nat.mul_comm (256 ^ n), Nat.mod_mul]

theorem leBytes_mod (n value : Nat) : leBytes n (value % 256 ^ n) = leBytes n value := by
  induction n generalizing value with
  | zero => rfl
  | succ n ih =>
      have hlow : UInt8.ofNat (value % 256 ^ (n + 1)) = UInt8.ofNat value := by
        apply UInt8.toNat_inj.mp
        simp only [UInt8.toNat_ofNat']
        exact Nat.mod_mod_of_dvd _ (dvd_pow_self 256 (Nat.succ_ne_zero n))
      have hhigh : value % 256 ^ (n + 1) / 256 = value / 256 % 256 ^ n := by
        rw [pow_succ, Nat.mul_comm, Nat.mod_mul_right_div_self]
      rw [leBytes, leBytes, hlow, hhigh, ih]

theorem leBytes_add (m n value : Nat) :
    leBytes (m + n) value = leBytes m value ++ leBytes n (value / 256 ^ m) := by
  induction m generalizing value with
  | zero => simp [leBytes]
  | succ m ih =>
      have hdiv : value / 256 / 256 ^ m = value / 256 ^ (m + 1) := by
        rw [Nat.div_div_eq_div_mul, pow_succ, Nat.mul_comm 256]
      rw [Nat.add_right_comm, leBytes, leBytes, ih, hdiv, List.cons_append]

/-! ### Buffers -/

/-- `std::vector<uint8_t>::resize`: old bytes stay, new ones are zero. -/
def resize (buf : List UInt8) (n : Nat) : List UInt8 :=
  buf.take n ++ List.replicate (n - buf.length) 0

/-- The buffer after the bytes `bs` are stored from position `start` on. -/
def patch (buf : List UInt8) (start : Nat) (bs : List UInt8) : List UInt8 :=
  buf.take start ++ bs ++ buf.drop (start + bs.length)

def slice (buf : List UInt8) (start n : Nat) : List UInt8 := (buf.drop start).take n

@[simp] theorem length_resize (buf : List UInt8) (n : Nat) : (resize buf n).length = n := by
  simp only [resize, List.length_append, List.length_take, List.length_replicate]
  omega

@[simp] theorem resize_self (buf : List UInt8) : resize buf buf.length = buf := by
  simp [resize]

theorem resize_nil (n : Nat) : resize [] n = List.replicate n 0 := by
  simp [resize]

theorem slice_resize_nil {n start m : Nat} (hin : start + m ≤ n) :
    slice (resize [] n) start m = List.replicate m 0 := by
  rw [resize_nil, slice, List.drop_replicate, List.take_replicate, Nat.min_eq_left (by omega)]

theorem length_patch {buf bs : List UInt8} {start : Nat} (hin : start + bs.length ≤ buf.length) :
    (patch buf start bs).length = buf.length := by
  simp only [patch, List.length_append, List.length_take, List.length_drop]
  omega

/-- A write at the end of a known front extends the front and uses up as much of the rest. -/
theorem patch_cursor (front rest bs : List UInt8) :
    patch (front ++ rest) front.length bs = (front ++ bs) ++ rest.drop bs.length := by
  simp [patch, List.drop_append]

theorem slice_append_left {buf : List UInt8} (rest : List UInt8) {start n : Nat}
    (hin : start + n ≤ buf.length) : slice (buf ++ rest) start n = slice buf start n := by
  rw [slice, slice, List.drop_append_of_le_length (by omega), List.take_append_of_le_length]
  rw [List.length_drop]
  omega

theorem slice_append_right (front buf : List UInt8) (start n : Nat) :
    slice (front ++ buf) (front.length + start) n = slice buf start n := by
  rw [slice, slice, List.drop_length_add_append]

theorem getElem?_patch {buf bs : List UInt8} {start : Nat}
    (hin : start + bs.length ≤ buf.length) (p : Nat) :
    (patch buf start bs)[p]? =
      if start ≤ p ∧ p < start + bs.length then bs[p - start]? else buf[p]? := by
  have hfront : (buf.take start).length = start := List.length_take_of_le (by omega)
  rw [patch, List.append_assoc]
  by_cases hbefore : p < start
  · rw [if_neg (by omega), List.getElem?_append_left (by omega), List.getElem?_take_of_lt hbefore]
  rw [List.getElem?_append_right (by omega), hfront]
  by_cases hwithin : p < start + bs.length
  · rw [if_pos (by omega), List.getElem?_append_left (by omega)]
  · have hback : start + bs.length + (p - start - bs.length) = p := by omega
    rw [if_neg (by omega), List.getElem?_append_right (by omega), List.getElem?_drop, hback]

theorem slice_patch_self {buf bs : List UInt8} {start : Nat}
    (hin : start + bs.length ≤ buf.length) : slice (patch buf start bs) start bs.length = bs := by
  have hfront : (buf.take start).length = start := List.length_take_of_le (by omega)
  have hread := slice_append_right (buf.take start) (bs ++ buf.drop (start + bs.length)) 0 bs.length
  rw [hfront, Nat.add_zero, ← List.append_assoc] at hread
  rw [patch, hread, slice, List.drop_zero, List.take_left]

section Blocks

variable {α : Type*} {f : α → List UInt8} {width : Nat}

theorem length_flatMap (hwidth : ∀ x, (f x).length = width) (xs : List α) :
    (xs.flatMap f).length = xs.length * width := by
  induction xs with
  | nil => simp
  | cons x xs ih =>
      rw [List.flatMap_cons, List.length_append, hwidth, ih, List.length_cons, Nat.succ_mul,
        Nat.add_comm]

/-- Reading inside block `k` of a sequence of equally wide blocks reads inside that block alone. -/
theorem slice_flatMap (hwidth : ∀ x, (f x).length = width) (rest : List UInt8) {start n : Nat}
    (hin : start + n ≤ width) (xs : List α) (k : Nat) (hk : k < xs.length) :
    slice (xs.flatMap f ++ rest) (k * width + start) n = slice (f xs[k]) start n := by
  induction xs generalizing k with
  | nil => simp at hk
  | cons x xs ih =>
      rw [List.flatMap_cons, List.append_assoc]
      cases k with
      | zero =>
          rw [Nat.zero_mul, Nat.zero_add, List.getElem_cons_zero]
          exact slice_append_left _ (by rw [hwidth]; exact hin)
      | succ k =>
          have hshift : (k + 1) * width + start = (f x).length + (k * width + start) := by
            rw [hwidth, Nat.succ_mul]
            omega
          rw [hshift, slice_append_right, List.getElem_cons_succ]
          exact ih k (by simpa using hk)

end Blocks

end Bytes
