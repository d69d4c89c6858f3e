import Ilumo.Lib.Hexadecimal
import Ilumo.Lib.Bytes

/-!
# Acknowledges of the USB interface

`usb_get_ack`, `usb_parse_ack` and `usb_acknowledge` on the bytes that wait in the input buffer of
the port; a read of more bytes than there are times out with those there are. An acknowledge is the
header, four characters of length, four of command, the data and four of check sum, and
`usbGetAck_eq_ack_iff` says exactly which bytes the receiver takes for one.
-/

namespace Ilumo.Senxor

open Hexadecimal

-- what `int(text, base=16)` makes of a text with characters outside ASCII, some of which are
-- digits, or of bytes that are no text
variable (foreign : List UInt8 → Option Int)

/-- `'   #'`. -/
def header : List UInt8 := [0x20, 0x20, 0x20, 0x23]

def RREG : List UInt8 := [0x52, 0x52, 0x45, 0x47]

def WREG : List UInt8 := [0x57, 0x52, 0x45, 0x47]

def SERR : List UInt8 := [0x53, 0x45, 0x52, 0x52]

def GFRA : List UInt8 := [0x47, 0x46, 0x52, 0x41]

def usbCmdLen : Nat := 4

def usbAckLen : Nat := 4

def usbCksLen : Nat := 4

def cksum (data : List UInt8) (sum : Nat) : Nat := data.foldl (fun sum byte => sum + byte.toNat) sum

/-- `int(text.decode(), base=16)`. -/
def decodeInt (text : List UInt8) : Option Int :=
  if text.all (· < 128) then int16 text else foreign text

/-- Four bytes at a time until they are the header; `none` when the bytes run out before. -/
def seekHeader : List UInt8 → Option (List UInt8)
  | a :: b :: c :: d :: rest => if [a, b, c, d] = header then some rest else seekHeader rest
  | _ => none

inductive Received where
  /-- No header so far: the reads go on timing out. -/
  | waiting
  | refused (rest : List UInt8)
  | ack (cmd data rest : List UInt8)
  deriving DecidableEq, Repr

def usbGetAck (input : List UInt8) : Received :=
  match seekHeader input with
  | none => .waiting
  | some input =>
      let len := input.take usbAckLen
      let input := input.drop usbAckLen
      match decodeInt foreign len with
      | none => .refused input
      | some ackLen =>
          let dataLen := ackLen - usbAckLen - usbCmdLen
          let cmd := input.take usbCmdLen
          let input := input.drop usbCmdLen
          -- a negative length reads nothing
          let data := input.take dataLen.toNat
          let input := input.drop dataLen.toNat
          let cs := cksum cmd (cksum len 0)
          let cs := if 0 < dataLen then cksum data cs else cs
          let cs := cs % 65536
          let cks := input.take usbCksLen
          let input := input.drop usbCksLen
          match int16 cks with
          | none => .refused input
          | some cks => if (cs : Int) ≠ cks then .refused input else .ack cmd data input

inductive Data where
  | none
  | value (value : Int)
  | text (text : List UInt8)
  | frame (words : List UInt16)
  deriving DecidableEq, Repr

/-- `UnicodeDecodeError` is a `ValueError`. -/
inductive Exception where
  | valueError
  | typeError
  | assertionError
  deriving DecidableEq, Repr

/-- `bytes.decode` does not raise. -/
def decodes (bytes : List UInt8) : Bool := (String.fromUTF8? ⟨bytes.toArray⟩).isSome

/-- `np.frombuffer` with `u2`, on a little-endian machine. -/
def frombuffer : List UInt8 → Option (List UInt16)
  | [] => some []
  | a :: b :: rest =>
      (frombuffer rest).map (UInt16.ofNat (Bytes.leValue [a, b]) :: ·)
  | [_] => none

/-- A command that is none of the four gives `None`, which its callers cannot unpack. -/
def usbParseAck (cmd data : List UInt8) : Except Exception (List UInt8 × Data) :=
  if cmd = WREG then .ok (cmd, .none)
  else if cmd = RREG then
    match decodeInt foreign data with
    | some value => .ok (cmd, .value value)
    | none => .error .valueError
  else if cmd = SERR then
    if decodes data then .ok (cmd, .text data) else .error .valueError
  else if cmd = GFRA then
    match frombuffer data with
    | some words => .ok (cmd, .frame words)
    | none => .error .valueError
  else if decodes cmd then .error .typeError
  else .error .valueError

/-- The acknowledge that has come, if any, and what is left in the input buffer. After a refused
one the buffer is reset and the wait goes on. -/
def usbAcknowledge (input : List UInt8) :
    Option (Except Exception (List UInt8 × Data)) × List UInt8 :=
  match usbGetAck foreign input with
  | .waiting => (none, [])
  | .refused _ => (none, [])
  | .ack cmd data rest => (some (usbParseAck foreign cmd data), rest)

/-! ### Check sums -/

theorem cksum_eq (data : List UInt8) (sum : Nat) :
    cksum data sum = sum + (data.map UInt8.toNat).sum := by
  induction data generalizing sum with
  | nil => rfl
  | cons byte data ih =>
      rw [cksum, List.foldl_cons, ← cksum, ih, List.map_cons, List.sum_cons, Nat.add_assoc]

theorem cksum_append (data data' : List UInt8) (sum : Nat) :
    cksum (data ++ data') sum = cksum data' (cksum data sum) :=
  List.foldl_append

/-- A changed byte changes the sum by less than the modulus. -/
theorem cksum_set {payload : List UInt8} {i : Nat} (hi : i < payload.length) {b : UInt8}
    (hb : b ≠ payload[i]) (sum : Nat) :
    cksum (payload.set i b) sum % 65536 ≠ cksum payload sum % 65536 := by
  have hbytes : b.toNat ≠ payload[i].toNat := fun h => hb (UInt8.toNat_inj.mp h)
  have hold : payload = payload.take i ++ payload[i] :: payload.drop (i + 1) := by
    rw [← List.drop_eq_getElem_cons hi, List.take_append_drop]
  have hsum : (payload.map UInt8.toNat).sum =
      ((payload.take i).map UInt8.toNat).sum +
        (payload[i].toNat + ((payload.drop (i + 1)).map UInt8.toNat).sum) := by
    conv_lhs => rw [hold]
    rw [List.map_append, List.sum_append, List.map_cons, List.sum_cons]
  have hsum' : ((payload.set i b).map UInt8.toNat).sum =
      ((payload.take i).map UInt8.toNat).sum +
        (b.toNat + ((payload.drop (i + 1)).map UInt8.toNat).sum) := by
    rw [List.set_eq_take_append_cons_drop, if_pos hi, List.map_append, List.sum_append,
      List.map_cons, List.sum_cons]
  rw [cksum_eq, cksum_eq, hsum, hsum']
  have hlt := b.toNat_lt
  have hlt' := payload[i].toNat_lt
  omega

/-! ### The header -/

/-- Blocks of four bytes none of which is the header. -/
def Headless (junk : List UInt8) : Prop :=
  ∃ blocks : List (List UInt8), (∀ block ∈ blocks, block.length = 4 ∧ block ≠ header) ∧
    junk = blocks.flatten

theorem headless_nil : Headless [] := ⟨[], by simp, rfl⟩

theorem seekHeader_header (rest : List UInt8) : seekHeader (header ++ rest) = some rest := by
  simp [header, seekHeader]

theorem seekHeader_block {block : List UInt8} (hlength : block.length = 4) (hne : block ≠ header)
    (rest : List UInt8) : seekHeader (block ++ rest) = seekHeader rest := by
  match block, hlength with
  | [a, b, c, d], _ =>
      show seekHeader (a :: b :: c :: d :: rest) = _
      rw [seekHeader, if_neg hne]

theorem seekHeader_eq_some_iff {input rest : List UInt8} :
    seekHeader input = some rest ↔ ∃ junk, Headless junk ∧ input = junk ++ header ++ rest := by
  refine ⟨?_, ?_⟩
  · intro h
    induction input using seekHeader.induct with
    | case1 a b c d tail heq =>
        rw [seekHeader, if_pos heq] at h
        cases h
        exact ⟨[], headless_nil, by rw [List.nil_append, ← heq]; rfl⟩
    | case2 a b c d tail hne ih =>
        rw [seekHeader, if_neg hne] at h
        obtain ⟨junk, hjunk, rfl⟩ := ih h
        obtain ⟨blocks, hblocks, rfl⟩ := hjunk
        refine ⟨[a, b, c, d] ++ blocks.flatten, ⟨[a, b, c, d] :: blocks, ?_, rfl⟩, by simp⟩
        intro block hblock
        rcases List.mem_cons.mp hblock with rfl | hblock
        · exact ⟨rfl, hne⟩
        · exact hblocks block hblock
    | case3 input hshort =>
        rw [seekHeader] at h
        · simp at h
        · exact hshort
  · intro h
    obtain ⟨junk, hjunk, rfl⟩ := h
    obtain ⟨blocks, hblocks, rfl⟩ := hjunk
    induction blocks with
    | nil => exact seekHeader_header rest
    | cons block blocks ih =>
        obtain ⟨hlength, hne⟩ := hblocks block (by simp)
        rw [List.flatten_cons, List.append_assoc, List.append_assoc, seekHeader_block hlength hne,
          ← List.append_assoc]
        exact ih fun other hother => hblocks other (by simp [hother])

/-! ### What is taken for an acknowledge -/

/-- The fields of an acknowledge in the documented format. The length counts the command, the data
and the check sum. -/
structure IsAck (len cmd data cks : List UInt8) : Prop where
  length_len : len.length = 4
  length_cmd : cmd.length = 4
  length_data : ∃ n, decodeInt foreign len = some n ∧ data.length = (n - 8).toNat
  length_cks : cks.length ≤ 4
  sum : int16 cks = some ((cksum (len ++ cmd ++ data) 0 % 65536 : Nat) : Int)

variable {foreign} {input len cmd data cks rest : List UInt8}

theorem length_take_of_drop {n : Nat} {bytes : List UInt8} (h : bytes.drop n ≠ []) :
    (bytes.take n).length = n :=
  List.length_take_of_le (Nat.le_of_lt (List.length_lt_of_drop_ne_nil h))

theorem cksum_fields (len cmd data : List UInt8) {n : Int} (hdata : data.length = (n - 8).toNat) :
    (if 0 < n - 8 then cksum data (cksum cmd (cksum len 0)) else cksum cmd (cksum len 0)) =
      cksum (len ++ cmd ++ data) 0 := by
  rw [cksum_append, cksum_append]
  split
  · rfl
  · have hnil : data = [] := List.eq_nil_of_length_eq_zero (by omega)
    rw [hnil]
    rfl

theorem usbGetAck_of_fields {n value : Int}
    (hseek : seekHeader input = some (len ++ (cmd ++ (data ++ (cks ++ rest)))))
    (hlen : len.length = 4) (hcmd : cmd.length = 4) (hn : decodeInt foreign len = some n)
    (hdata : data.length = (n - 8).toNat) (hcks : cks.length ≤ 4)
    (hrest : cks.length < 4 → rest = []) (hvalue : int16 cks = some value) :
    usbGetAck foreign input =
      if ((cksum (len ++ cmd ++ data) 0 % 65536 : Nat) : Int) ≠ value then .refused rest
      else .ack cmd data rest := by
  have htake : (cks ++ rest).take 4 = cks := by
    by_cases hshort : cks.length < 4
    · rw [hrest hshort, List.append_nil, List.take_of_length_le hcks]
    · exact List.take_left' (by omega)
  have hdrop : (cks ++ rest).drop 4 = rest := by
    by_cases hshort : cks.length < 4
    · rw [hrest hshort, List.append_nil, List.drop_eq_nil_of_le hcks]
    · exact List.drop_left' (by omega)
  have hsub : n - (4 : Nat) - (4 : Nat) = n - 8 := by omega
  rw [usbGetAck, hseek]
  simp only [usbAckLen, usbCmdLen, usbCksLen, List.take_left' hlen, List.drop_left' hlen, hn,
    List.take_left' hcmd, List.drop_left' hcmd, hsub, List.take_left' hdata, List.drop_left' hdata,
    htake, hdrop, cksum_fields len cmd data hdata, hvalue]

theorem usbGetAck_of_isAck
    (hseek : seekHeader input = some (len ++ (cmd ++ (data ++ (cks ++ rest)))))
    (h : IsAck foreign len cmd data cks) (hrest : cks.length < 4 → rest = []) :
    usbGetAck foreign input = .ack cmd data rest := by
  obtain ⟨n, hn, hdata⟩ := h.length_data
  rw [usbGetAck_of_fields hseek h.length_len h.length_cmd hn hdata h.length_cks hrest h.sum,
    if_neg (by simp)]

/-- What the receiver takes for an acknowledge, and that is all: blocks of four bytes that are not
the header, the header, and the fields of the format, the check sum perhaps cut short by a timeout. -/
theorem usbGetAck_eq_ack_iff :
    usbGetAck foreign input = .ack cmd data rest ↔
      ∃ junk len cks, Headless junk ∧ IsAck foreign len cmd data cks ∧
        (cks.length < 4 → rest = []) ∧
          input = junk ++ header ++ (len ++ (cmd ++ (data ++ (cks ++ rest)))) := by
  refine ⟨?_, ?_⟩
  · intro h
    rw [usbGetAck] at h
    cases hseek : seekHeader input with
    | none => simp [hseek] at h
    | some tail =>
        obtain ⟨junk, hjunk, rfl⟩ := seekHeader_eq_some_iff.mp hseek
        simp only [hseek, usbAckLen, usbCmdLen, usbCksLen] at h
        cases hlen : decodeInt foreign (tail.take 4) with
        | none => simp [hlen] at h
        | some n =>
            have hsub : n - (4 : Nat) - (4 : Nat) = n - 8 := by omega
            simp only [hlen, hsub] at h
            cases hcks : int16 ((((tail.drop 4).drop 4).drop (n - 8).toNat).take 4) with
            | none =>
                rw [hcks] at h
                exact nomatch h
            | some value =>
                -- the check sum is there, so all that was read before it had its full length
                have hthird : ((tail.drop 4).drop 4).drop (n - 8).toNat ≠ [] := by
                  intro hnil
                  rw [hnil] at hcks
                  exact nomatch hcks
                have hsecond : (tail.drop 4).drop 4 ≠ [] := List.ne_nil_of_drop_ne_nil hthird
                have hfirst : tail.drop 4 ≠ [] := List.ne_nil_of_drop_ne_nil hsecond
                have hdata := length_take_of_drop hthird
                rw [hcks] at h
                simp only [cksum_fields _ _ _ hdata] at h
                split_ifs at h with hsum
                obtain ⟨rfl, rfl, rfl⟩ := Received.ack.inj h
                refine ⟨junk, tail.take 4, (((tail.drop 4).drop 4).drop (n - 8).toNat).take 4, hjunk,
                  ⟨length_take_of_drop hfirst, length_take_of_drop hsecond, ⟨n, hlen, hdata⟩,
                    List.length_take_le _ _, ?_⟩, ?_, ?_⟩
                · rw [hcks, not_not.mp hsum]
                · intro hshort
                  rw [List.length_take] at hshort
                  exact List.drop_eq_nil_of_le (by omega)
                · simp only [List.take_append_drop]
  · intro h
    obtain ⟨junk, len, cks, hjunk, hack, hrest, rfl⟩ := h
    exact usbGetAck_of_isAck (seekHeader_eq_some_iff.mpr ⟨junk, hjunk, rfl⟩) hack hrest

/-- **Damage.** A command and data that have changed on the way, but not in length, are refused
exactly when the sum of their bytes has changed. -/
theorem usbGetAck_damaged_iff {junk payload : List UInt8} (hjunk : Headless junk)
    (h : IsAck foreign len cmd data cks) (hcks : cks.length = 4)
    (hlength : payload.length = (cmd ++ data).length) (rest : List UInt8) :
    usbGetAck foreign (junk ++ header ++ (len ++ (payload ++ (cks ++ rest)))) = .refused rest ↔
      cksum payload 0 % 65536 ≠ cksum (cmd ++ data) 0 % 65536 := by
  obtain ⟨n, hn, hdata⟩ := h.length_data
  have hcmd := h.length_cmd
  rw [List.length_append] at hlength
  have htake : (payload.take 4).length = 4 := List.length_take_of_le (by omega)
  have hdrop : (payload.drop 4).length = (n - 8).toNat := by
    rw [List.length_drop]
    omega
  have hsplit : payload ++ (cks ++ rest) = payload.take 4 ++ (payload.drop 4 ++ (cks ++ rest)) := by
    rw [← List.append_assoc (payload.take 4), List.take_append_drop]
  have hsum (bytes : List UInt8) : cksum bytes (cksum len 0) = cksum len 0 + cksum bytes 0 := by
    rw [cksum_eq bytes, cksum_eq bytes, Nat.zero_add]
  rw [hsplit, usbGetAck_of_fields (seekHeader_eq_some_iff.mpr ⟨junk, hjunk, rfl⟩) h.length_len htake
    hn hdrop h.length_cks (by omega) h.sum, List.append_assoc, List.append_assoc,
    List.take_append_drop, cksum_append, cksum_append, hsum, hsum]
  split
  · next hne => exact iff_of_true rfl (by omega)
  · next heq => exact iff_of_false (fun h => nomatch h) (by omega)

/-- The two digits of a register's value in the wrong order pass. -/
theorem usbGetAck_damaged_iff_swapped :
    usbGetAck (fun _ => none) ([] ++ header ++ (upperHex 4 10 ++
      ((RREG ++ [0x33, 0x35]) ++ (upperHex 4 0x269 ++ [])))) ≠ .refused [] := by
  have hack : IsAck (fun _ => none) (upperHex 4 10) RREG [0x35, 0x33] (upperHex 4 0x269) :=
    ⟨by decide, by decide, ⟨10, by decide, by decide⟩, by decide, by decide⟩
  exact fun h => (usbGetAck_damaged_iff headless_nil hack (by decide) (by decide) []).mp h (by decide)

/-- One changed byte is never overlooked. -/
theorem usbGetAck_set {junk : List UInt8} (hjunk : Headless junk)
    (h : IsAck foreign len cmd data cks) (hcks : cks.length = 4) {i : Nat}
    (hi : i < (cmd ++ data).length) {b : UInt8} (hb : b ≠ (cmd ++ data)[i]) (rest : List UInt8) :
    usbGetAck foreign (junk ++ header ++ (len ++ ((cmd ++ data).set i b ++ (cks ++ rest)))) =
      .refused rest :=
  (usbGetAck_damaged_iff hjunk h hcks List.length_set rest).mpr (cksum_set hi hb 0)

/-! ### The documented format -/

/-- The bytes are an acknowledge with this command and these data. -/
def Spells (foreign : List UInt8 → Option Int) (cmd data bytes : List UInt8) : Prop :=
  ∃ len cks, IsAck foreign len cmd data cks ∧ cks.length = 4 ∧
    bytes = header ++ (len ++ (cmd ++ (data ++ cks)))

theorem Spells.usbAcknowledge {bytes : List UInt8} (h : Spells foreign cmd data bytes)
    (rest : List UInt8) :
    usbAcknowledge foreign (bytes ++ rest) = (some (usbParseAck foreign cmd data), rest) := by
  obtain ⟨len, cks, hack, hcks, rfl⟩ := h
  have hseek : seekHeader (header ++ (len ++ (cmd ++ (data ++ cks))) ++ rest) =
      some (len ++ (cmd ++ (data ++ (cks ++ rest)))) := by
    rw [List.append_assoc, seekHeader_header]
    simp only [List.append_assoc]
  rw [Senxor.usbAcknowledge, usbGetAck_of_isAck hseek hack (by omega)]

def ackBytes (cmd data : List UInt8) : List UInt8 :=
  header ++ (upperHex 4 (data.length + 8) ++ (cmd ++ (data ++
    upperHex 4 (cksum (upperHex 4 (data.length + 8) ++ cmd ++ data) 0 % 65536))))

theorem decodeInt_upperHex {w : Nat} (hw : 0 < w) (n : Nat) :
    decodeInt foreign (upperHex w n) = some (n : Int) := by
  rw [decodeInt, if_pos, int16_upperHex hw]
  exact List.all_eq_true.mpr fun b hb => decide_eq_true (lt_of_mem_upperHex hb)

theorem spells_ackBytes (hcmd : cmd.length = 4) (hdata : data.length + 8 < 65536) :
    Spells foreign cmd data (ackBytes cmd data) := by
  have hsum : cksum (upperHex 4 (data.length + 8) ++ cmd ++ data) 0 % 65536 < 16 ^ 4 :=
    Nat.mod_lt _ (by norm_num)
  refine ⟨_, _, ⟨length_upperHex hdata, hcmd, ⟨_, decodeInt_upperHex (by norm_num) _, by omega⟩,
    (length_upperHex hsum).le, int16_upperHex (by norm_num) _⟩, length_upperHex hsum, rfl⟩

end Ilumo.Senxor
