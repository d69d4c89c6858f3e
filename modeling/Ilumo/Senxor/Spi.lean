import Ilumo.Lib.Bytes
import Ilumo.Senxor.Ack

/-!
# Frames over SPI

`SPI_Interface.read` fetches a frame in transfers of `xfer_size` bytes and puts their big-endian
words into an array of the length that was asked for. The last transfer may reach beyond the end of
the array. The code expects an `IndexError` there, but a NumPy slice is clipped and the assignment
raises a `ValueError`, so a read ends well exactly when the length is a number of whole transfers.
-/

namespace Ilumo.Senxor.Spi

open Bytes

/-- `device.xfer`, the `k`-th time: as many bytes as it is given, from the stream of the camera. -/
def xfer (stream : Nat → UInt8) (xferSize k : Nat) : List UInt8 :=
  (List.range xferSize).map fun j => stream (k * xferSize + j)

/-- `np.ndarray` of type `>u2` over a buffer; an odd byte at the end is not part of it. -/
def bigEndian : List UInt8 → List UInt16
  | a :: b :: rest => UInt16.ofNat (beValue [a, b]) :: bigEndian rest
  | _ => []

/-- `data[i0: i1] = values`: the slice is clipped to the array, and a single value fills it. -/
def assign (data : List UInt16) (i0 i1 : Nat) (values : List UInt16) :
    Except Exception (List UInt16) :=
  let i1 := min i1 data.length
  let i0 := min i0 data.length
  if values.length = i1 - i0 then .ok (data.take i0 ++ values ++ data.drop (i0 + values.length))
  else if values.length = 1 then
    .ok (data.take i0 ++ List.replicate (i1 - i0) (values.headD 0) ++ data.drop (i0 + (i1 - i0)))
  else .error .valueError

/-- The loop of `read`, before its transfer `k`; `none` when it takes more than `fuel` of them. -/
def readLoop (stream : Nat → UInt8) (xferSize lengthInWords : Nat) :
    Nat → Nat → Nat → List UInt16 → Option (Except Exception (List UInt16))
  | 0, _, nWords, data => if nWords < lengthInWords then none else some (.ok data)
  | fuel + 1, k, nWords, data =>
      if nWords < lengthInWords then
        let i0 := nWords
        let i1 := nWords + xferSize / 2
        let buffer := xfer stream xferSize k
        let nWords := nWords + buffer.length / 2
        match assign data i0 i1 (bigEndian buffer) with
        | .error error => some (.error error)
        | .ok data => readLoop stream xferSize lengthInWords fuel (k + 1) nWords data
      else some (.ok data)

def read (stream : Nat → UInt8) (xferSize lengthInWords fuel : Nat) :
    Option (Except Exception (List UInt16)) :=
  readLoop stream xferSize lengthInWords fuel 0 0 (List.replicate lengthInWords 0)

/-- Word `i` of what the camera sends, in transfers of `xferSize` bytes. -/
def word (stream : Nat → UInt8) (xferSize i : Nat) : UInt16 :=
  let start := i / (xferSize / 2) * xferSize + 2 * (i % (xferSize / 2))
  UInt16.ofNat (beValue [stream start, stream (start + 1)])

variable {stream : Nat → UInt8} {xferSize lengthInWords : Nat}

@[simp] theorem length_xfer (k : Nat) : (xfer stream xferSize k).length = xferSize := by
  simp [xfer]

theorem bigEndian_map_range (f : Nat → UInt8) (n : Nat) :
    bigEndian ((List.range n).map f) =
      (List.range (n / 2)).map fun j => UInt16.ofNat (beValue [f (2 * j), f (2 * j + 1)]) := by
  induction n using Nat.twoStepInduction generalizing f with
  | zero => rfl
  | one => rfl
  | more n ih _ =>
      have hhalf : (n + 2) / 2 = n / 2 + 1 := by omega
      have hrange : List.range (n + 2) = 0 :: 1 :: (List.range n).map (· + 2) := by
        rw [List.range_succ_eq_map, List.range_succ_eq_map, List.map_cons, List.map_map]
        rfl
      rw [hrange, List.map_cons, List.map_cons, bigEndian, List.map_map, ih, hhalf,
        List.range_succ_eq_map, List.map_cons, List.map_map]
      rfl

theorem bigEndian_xfer (hw : 0 < xferSize / 2) (k : Nat) :
    bigEndian (xfer stream xferSize k) =
      (List.range (xferSize / 2)).map fun j => word stream xferSize (k * (xferSize / 2) + j) := by
  rw [xfer, bigEndian_map_range]
  refine List.map_congr_left fun j hj => ?_
  have hj' := List.mem_range.mp hj
  have hdiv : (k * (xferSize / 2) + j) / (xferSize / 2) = k := by
    rw [Nat.add_comm, Nat.add_mul_div_right _ _ hw, Nat.div_eq_of_lt hj', Nat.zero_add]
  have hmod : (k * (xferSize / 2) + j) % (xferSize / 2) = j := by
    rw [Nat.add_comm, Nat.add_mul_mod_self_right, Nat.mod_eq_of_lt hj']
  rw [word, hdiv, hmod, Nat.add_assoc]

/-- The array after the words up to `n` have been received. -/
def received (stream : Nat → UInt8) (xferSize lengthInWords n : Nat) : List UInt16 :=
  (List.range n).map (word stream xferSize) ++ List.replicate (lengthInWords - n) 0

/-- A transfer that fits into the array. -/
theorem assign_received (hw : 0 < xferSize / 2) {k : Nat}
    (hfits : k * (xferSize / 2) + xferSize / 2 ≤ lengthInWords) :
    assign (received stream xferSize lengthInWords (k * (xferSize / 2))) (k * (xferSize / 2))
        (k * (xferSize / 2) + xferSize / 2) (bigEndian (xfer stream xferSize k)) =
      .ok (received stream xferSize lengthInWords ((k + 1) * (xferSize / 2))) := by
  generalize hn : k * (xferSize / 2) = n at hfits
  have hlength : (received stream xferSize lengthInWords n).length = lengthInWords := by
    simp only [received, List.length_append, List.length_map, List.length_range,
      List.length_replicate]
    omega
  have hnext : (k + 1) * (xferSize / 2) = n + xferSize / 2 := by rw [Nat.succ_mul, hn]
  rw [assign, hlength, bigEndian_xfer hw, hn, hnext]
  simp only [List.length_map, List.length_range]
  rw [Nat.min_eq_left hfits, Nat.min_eq_left (by omega), if_pos (by omega)]
  congr 1
  rw [received, received, List.range_add, List.map_append, List.map_map, List.take_left' (by simp),
    List.drop_append, List.drop_eq_nil_of_le (by simp), List.nil_append, List.drop_replicate]
  congr 2
  simp only [List.length_map, List.length_range]
  omega

/-- The one that does not. -/
theorem assign_error (hw : 0 < xferSize / 2) {k : Nat}
    (hbefore : k * (xferSize / 2) < lengthInWords)
    (hbeyond : lengthInWords < k * (xferSize / 2) + xferSize / 2) :
    assign (received stream xferSize lengthInWords (k * (xferSize / 2))) (k * (xferSize / 2))
        (k * (xferSize / 2) + xferSize / 2) (bigEndian (xfer stream xferSize k)) =
      .error .valueError := by
  have hlength : (received stream xferSize lengthInWords (k * (xferSize / 2))).length =
      lengthInWords := by
    simp only [received, List.length_append, List.length_map, List.length_range,
      List.length_replicate]
    omega
  rw [assign, hlength, bigEndian_xfer hw]
  simp only [List.length_map, List.length_range]
  rw [if_neg (by omega), if_neg (by omega)]

theorem readLoop_of_le {nWords : Nat} (hn : lengthInWords ≤ nWords) (fuel k : Nat)
    (data : List UInt16) :
    readLoop stream xferSize lengthInWords fuel k nWords data = some (.ok data) := by
  cases fuel <;> rw [readLoop, if_neg (by omega)]

variable (stream) in
theorem readLoop_received (hw : 0 < xferSize / 2) (fuel k : Nat)
    (hk : k * (xferSize / 2) ≤ lengthInWords) :
    readLoop stream xferSize lengthInWords fuel k (k * (xferSize / 2))
        (received stream xferSize lengthInWords (k * (xferSize / 2))) =
      if lengthInWords ≤ (k + fuel) * (xferSize / 2) then
        some (if xferSize / 2 ∣ lengthInWords then
          .ok ((List.range lengthInWords).map (word stream xferSize))
        else .error .valueError)
      else none := by
  have hdone (fuel k : Nat) (heq : lengthInWords = k * (xferSize / 2)) :
      readLoop stream xferSize lengthInWords fuel k (k * (xferSize / 2))
          (received stream xferSize lengthInWords (k * (xferSize / 2))) =
        some (if xferSize / 2 ∣ lengthInWords then
          .ok ((List.range lengthInWords).map (word stream xferSize))
        else .error .valueError) := by
    rw [readLoop_of_le heq.le, if_pos ⟨k, by rw [heq, Nat.mul_comm]⟩, ← heq, received,
      Nat.sub_self, List.replicate_zero, List.append_nil]
  induction fuel generalizing k with
  | zero =>
      by_cases heq : lengthInWords = k * (xferSize / 2)
      · rw [hdone 0 k heq, Nat.add_zero, if_pos heq.le]
      · rw [readLoop, if_pos (by omega), Nat.add_zero, if_neg (by omega)]
  | succ fuel ih =>
      have hsucc : (k + 1) * (xferSize / 2) = k * (xferSize / 2) + xferSize / 2 := Nat.succ_mul _ _
      have hfuel : k + (fuel + 1) = k + 1 + fuel := by omega
      have hreach : (k + 1) * (xferSize / 2) ≤ (k + 1 + fuel) * (xferSize / 2) :=
        Nat.mul_le_mul_right _ (by omega)
      rw [hfuel]
      by_cases heq : lengthInWords = k * (xferSize / 2)
      · rw [hdone _ k heq, if_pos (show lengthInWords ≤ (k + 1 + fuel) * (xferSize / 2) by omega)]
      rw [readLoop, if_pos (by omega)]
      by_cases hfits : k * (xferSize / 2) + xferSize / 2 ≤ lengthInWords
      · simp only [assign_received hw hfits, length_xfer]
        rw [← hsucc]
        exact ih (k + 1) (by omega)
      · -- the last transfer is too long for what is left of the array
        have hnot : ¬ xferSize / 2 ∣ lengthInWords := by
          rintro ⟨m, hm⟩
          rw [Nat.mul_comm] at hm
          have hlow : k < m := Nat.lt_of_mul_lt_mul_right (a := xferSize / 2) (by omega)
          have hhigh : m * (xferSize / 2) < (k + 1) * (xferSize / 2) := by omega
          have := Nat.lt_of_mul_lt_mul_right hhigh
          omega
        simp only [assign_error hw (show k * (xferSize / 2) < lengthInWords by omega) (by omega)]
        rw [if_pos (by omega), if_neg hnot]

theorem bigEndian_of_length_lt {buffer : List UInt8} (h : buffer.length / 2 = 0) :
    bigEndian buffer = [] := by
  match buffer, h with
  | [], _ => rfl
  | [a], _ => rfl
  | a :: b :: rest, h =>
      simp only [List.length_cons] at h
      omega

/-- A transfer of less than two bytes brings nothing, however often it is repeated. -/
theorem readLoop_of_tiny (hw : xferSize / 2 = 0) {nWords : Nat} (hn : nWords < lengthInWords)
    (fuel k : Nat) (data : List UInt16) :
    readLoop stream xferSize lengthInWords fuel k nWords data = none := by
  induction fuel generalizing k with
  | zero => rw [readLoop, if_pos hn]
  | succ fuel ih =>
      have hassign : assign data nWords nWords (bigEndian (xfer stream xferSize k)) = .ok data := by
        rw [assign, bigEndian_of_length_lt (by rw [length_xfer, hw])]
        simp only [List.length_nil, Nat.sub_self, if_true, List.append_nil, Nat.add_zero,
          List.take_append_drop]
      rw [readLoop, if_pos hn]
      simp only [length_xfer, hw, Nat.add_zero, hassign]
      exact ih (k + 1)

theorem read_of_tiny (hw : xferSize / 2 = 0) (fuel : Nat) :
    read stream xferSize lengthInWords fuel = if lengthInWords = 0 then some (.ok []) else none := by
  split
  · next hzero =>
      subst hzero
      rw [read, readLoop_of_le (Nat.le_refl 0), List.replicate_zero]
  · next hlength => exact readLoop_of_tiny hw (by omega) fuel 0 _

theorem read_of_pos (hw : 0 < xferSize / 2) (fuel : Nat) :
    read stream xferSize lengthInWords fuel =
      if lengthInWords ≤ fuel * (xferSize / 2) then
        some (if xferSize / 2 ∣ lengthInWords then
          .ok ((List.range lengthInWords).map (word stream xferSize))
        else .error .valueError)
      else none := by
  have hloop := readLoop_received stream hw fuel 0
    (show 0 * (xferSize / 2) ≤ lengthInWords by omega)
  rw [Nat.zero_mul, Nat.zero_add, received, List.range_zero, List.map_nil, List.nil_append,
    Nat.sub_zero] at hloop
  exact hloop

theorem exists_read_of_pos (hw : 0 < xferSize / 2) (outcome : Except Exception (List UInt16)) :
    (∃ fuel, read stream xferSize lengthInWords fuel = some outcome) ↔
      (if xferSize / 2 ∣ lengthInWords then
        .ok ((List.range lengthInWords).map (word stream xferSize))
      else .error .valueError) = outcome := by
  refine ⟨?_, ?_⟩
  · intro h
    obtain ⟨fuel, h⟩ := h
    rw [read_of_pos hw] at h
    split at h
    · exact Option.some_inj.mp h
    · exact nomatch h
  · intro h
    refine ⟨lengthInWords, ?_⟩
    rw [read_of_pos hw, if_pos (Nat.le_mul_of_pos_right _ hw), h]

/-- **Frames over SPI.** A read returns exactly when the length is a number of whole transfers, and
then it returns the words that the camera has sent, in their order. It raises if the last transfer
is too long, and it never ends if a transfer is too short for a word. -/
theorem read_spec (stream : Nat → UInt8) (xferSize lengthInWords : Nat) :
    (∀ data, (∃ fuel, read stream xferSize lengthInWords fuel = some (.ok data)) ↔
      xferSize / 2 ∣ lengthInWords ∧
        data = (List.range lengthInWords).map (word stream xferSize)) ∧
    (∀ error, (∃ fuel, read stream xferSize lengthInWords fuel = some (.error error)) ↔
      0 < xferSize / 2 ∧ ¬ xferSize / 2 ∣ lengthInWords ∧ error = .valueError) ∧
    ((∀ fuel, read stream xferSize lengthInWords fuel = none) ↔
      xferSize / 2 = 0 ∧ 0 < lengthInWords) := by
  rcases Nat.eq_zero_or_pos (xferSize / 2) with hw | hw
  · simp only [read_of_tiny hw, hw, Nat.zero_dvd, Nat.lt_irrefl, false_and, true_and]
    by_cases hlength : lengthInWords = 0
    · subst hlength
      simp [eq_comm]
    · simp [hlength, Nat.pos_of_ne_zero hlength]
  · simp only [exists_read_of_pos hw, hw, true_and]
    refine ⟨fun data => ?_, fun error => ?_, iff_of_false ?_ (by omega)⟩
    · split
      · next hdvd => simp [hdvd, eq_comm]
      · next hdvd => simp [hdvd]
    · split
      · next hdvd => simp [hdvd]
      · next hdvd => simp [hdvd, eq_comm]
    · intro hnever
      have hsome := hnever lengthInWords
      rw [read_of_pos hw, if_pos (Nat.le_mul_of_pos_right _ hw)] at hsome
      cases hsome

end Ilumo.Senxor.Spi
