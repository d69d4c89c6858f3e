import Mathlib.Data.List.Basic
import Mathlib.Tactic.Common
import Mathlib.Tactic.Ring

/-!
# Length-delimited records

A record is preceded by its length as a base-128 varint. A coded input stream, a parameter here,
reads such records: it pushes the length as a limit, behind which the stream seems to have ended,
and pops it again when the record has been read. `Before` and `Inside` are the invariants of a
reader that stands before some records, or in the first of them.
-/

namespace CodedStream

/-! ### Varints -/

/-- The number in at most `k` groups of seven bits, least significant first. -/
def varint : Nat → Nat → List UInt8
  | 0, _ => []
  | k + 1, n =>
      if n < 128 then [UInt8.ofNat n] else UInt8.ofNat (n % 128 + 128) :: varint k (n / 128)

def varint32 (n : Nat) : List UInt8 := varint 5 (n % 2 ^ 32)

def readVarint : Nat → List UInt8 → Option (Nat × List UInt8)
  | 0, _ => none
  | _ + 1, [] => none
  | k + 1, byte :: rest =>
      if byte.toNat < 128 then some (byte.toNat, rest)
      else (readVarint k rest).map fun (n, rest) => (byte.toNat % 128 + 128 * n, rest)

theorem readVarint_varint {k k' n : Nat} (hn : n < 128 ^ (k + 1)) (hk : k ≤ k')
    (rest : List UInt8) :
    readVarint (k' + 1) (varint (k + 1) n ++ rest) = some (n, rest) := by
  induction k generalizing n k' with
  | zero =>
      have hsmall : n < 128 := by simpa using hn
      have hbyte : (UInt8.ofNat n).toNat = n := by simp; omega
      rw [varint, if_pos hsmall, List.singleton_append, readVarint, hbyte, if_pos hsmall]
  | succ k ih =>
      rw [varint]
      split
      · next hsmall =>
          have hbyte : (UInt8.ofNat n).toNat = n := by simp; omega
          rw [List.singleton_append, readVarint, hbyte, if_pos hsmall]
      · next hlarge =>
          obtain ⟨k', rfl⟩ : ∃ j, k' = j + 1 := ⟨k' - 1, by omega⟩
          have hbyte : (UInt8.ofNat (n % 128 + 128)).toNat = n % 128 + 128 := by simp; omega
          have hhigh : n / 128 < 128 ^ (k + 1) := by
            rw [Nat.div_lt_iff_lt_mul (by omega), ← pow_succ]
            exact hn
          rw [List.cons_append, readVarint, hbyte, if_neg (by omega), ih hhigh (by omega)]
          simp only [Option.map_some, Option.some.injEq, Prod.mk.injEq, and_true]
          omega

/-! ### Streams -/

/-- The largest `int`. -/
def intMax : Nat := 2 ^ 31 - 1

/-- A coded input stream over the bytes of a file. -/
structure CodedInput (ι : Type) where
  init : List UInt8 → ι
  currentPosition : ι → Nat
  skip : ι → Nat → ι
  readLengthAndPushLimit : ι → Int × ι
  popLimit : ι → Int → ι
  bytesUntilLimit : ι → Int

variable {ι : Type}

/-- What is relied on: `Stands s rest p limit?` says that the stream is at position `p`, before
`rest`, and seems to end at the limit if there is one. A file may be compressed, and a position is
an `int`. -/
structure CodedInput.Documented (coded : CodedInput ι) (inflate : List UInt8 → List UInt8)
    (Stands : ι → List UInt8 → Nat → Option Nat → Prop) : Prop where
  init : ∀ file, (inflate file).length < intMax → Stands (coded.init file) (inflate file) 0 none
  currentPosition : ∀ s rest p limit?, Stands s rest p limit? → coded.currentPosition s = p
  skip : ∀ s bytes rest p limit?, Stands s (bytes ++ rest) p limit? →
    (∀ limit ∈ limit?, p + bytes.length ≤ limit) →
    Stands (coded.skip s bytes.length) rest (p + bytes.length) limit?
  readLength : ∀ s n rest p, Stands s (varint32 n ++ rest) p none → n ≤ rest.length →
    ∃ old inside, coded.readLengthAndPushLimit s = (old, inside) ∧
      Stands inside rest (p + (varint32 n).length) (some (p + (varint32 n).length + n)) ∧
      ∀ s' rest' p' limit?, Stands s' rest' p' limit? →
        Stands (coded.popLimit s' old) rest' p' none
  /-- Where there is no length, a limit of nothing is pushed. -/
  readNoLength : ∀ s p limit?, Stands s [] p limit? →
    ∃ old s', coded.readLengthAndPushLimit s = (old, s') ∧ Stands s' [] p (some p)
  bytesUntilLimit : ∀ s rest p limit, Stands s rest p (some limit) →
    coded.bytesUntilLimit s = (limit : Int) - p

/-- A parser that makes `a` of exactly these bytes, where they end at the limit. Its flag says that
it has consumed them all. -/
def Reads {α : Type} (Stands : ι → List UInt8 → Nat → Option Nat → Prop)
    (merge : ι → α × Bool × ι) (bytes : List UInt8) (a : α) : Prop :=
  ∀ s rest p, Stands s (bytes ++ rest) p (some (p + bytes.length)) →
    ∃ s', merge s = (a, true, s') ∧ Stands s' rest (p + bytes.length) (some (p + bytes.length))

/-! ### Records -/

def delimited (bytes : List UInt8) : List UInt8 := varint32 bytes.length ++ bytes

theorem delimited_length (bytes : List UInt8) :
    (delimited bytes).length = (varint32 bytes.length).length + bytes.length :=
  List.length_append

/-- The stream stands before these records, which are all that is left of it. -/
structure Before (Stands : ι → List UInt8 → Nat → Option Nat → Prop) (s : ι) (p : Nat)
    (records : List (List UInt8)) : Prop where
  stands : ∃ limit?, Stands s (records.flatMap delimited) p limit? ∧
    (limit? = none ∨ records = [])

/-- The stream stands inside a record, before its bytes; `old` is what has to be popped. -/
structure Inside (coded : CodedInput ι) (Stands : ι → List UInt8 → Nat → Option Nat → Prop)
    (old : Int) (s : ι) (p : Nat) (bytes : List UInt8) (records : List (List UInt8)) : Prop where
  stands : Stands s (bytes ++ records.flatMap delimited) p (some (p + bytes.length))
  pop : ∀ s' rest p' limit?, Stands s' rest p' limit? → Stands (coded.popLimit s' old) rest p' none

section Records

variable {coded : CodedInput ι} {inflate : List UInt8 → List UInt8}
  {Stands : ι → List UInt8 → Nat → Option Nat → Prop} {s : ι} {p : Nat} {old : Int}
  {bytes : List UInt8} {records : List (List UInt8)}

/-- From the start of a file, an offset that spans the first records leads before the others. -/
theorem CodedInput.Documented.before_skip (hcoded : coded.Documented inflate Stands)
    {file : List UInt8} (first : List (List UInt8))
    (hfile : inflate file = (first ++ records).flatMap delimited)
    (hroom : (inflate file).length < intMax) :
    Before Stands (coded.skip (coded.init file) (first.flatMap delimited).length)
      (first.flatMap delimited).length records := by
  have hstart := hcoded.init file hroom
  rw [hfile, List.flatMap_append] at hstart
  have hskip := hcoded.skip _ _ _ _ _ hstart (by simp)
  rw [Nat.zero_add] at hskip
  exact ⟨none, hskip, Or.inl rfl⟩

theorem Before.record (h : Before Stands s p (bytes :: records))
    (hcoded : coded.Documented inflate Stands) :
    ∃ old inside q, coded.readLengthAndPushLimit s = (old, inside) ∧
      q + bytes.length = p + (delimited bytes).length ∧
      Inside coded Stands old inside q bytes records := by
  obtain ⟨limit?, hstands, hlimit⟩ := h.stands
  obtain rfl : limit? = none := hlimit.resolve_right (by simp)
  rw [List.flatMap_cons, delimited, List.append_assoc] at hstands
  obtain ⟨old, inside, hread, hinside, hpop⟩ := hcoded.readLength s _ _ p hstands
    (by rw [List.length_append]; omega)
  refine ⟨old, inside, _, hread, ?_, hinside, hpop⟩
  rw [delimited_length, Nat.add_assoc]

/-- At the end there is no length to read. -/
theorem Before.end (h : Before Stands s p []) (hcoded : coded.Documented inflate Stands) :
    ∃ old inside, coded.readLengthAndPushLimit s = (old, inside) ∧
      coded.bytesUntilLimit inside = 0 ∧ Stands inside [] p (some p) := by
  obtain ⟨limit?, hstands, -⟩ := h.stands
  obtain ⟨old, inside, hread, hend⟩ := hcoded.readNoLength s p limit? hstands
  exact ⟨old, inside, hread, by rw [hcoded.bytesUntilLimit _ _ _ _ hend, Int.sub_self], hend⟩

theorem Before.of_end (h : Stands s [] p (some p)) : Before Stands s p [] :=
  ⟨some p, h, Or.inr rfl⟩

theorem Before.currentPosition (h : Before Stands s p records)
    (hcoded : coded.Documented inflate Stands) : coded.currentPosition s = p := by
  obtain ⟨limit?, hstands, -⟩ := h.stands
  exact hcoded.currentPosition s _ p limit? hstands

theorem Inside.bytesUntilLimit (h : Inside coded Stands old s p bytes records)
    (hcoded : coded.Documented inflate Stands) : coded.bytesUntilLimit s = bytes.length := by
  rw [hcoded.bytesUntilLimit _ _ _ _ h.stands]
  omega

theorem Inside.skip (h : Inside coded Stands old s p bytes records)
    (hcoded : coded.Documented inflate Stands) :
    Before Stands (coded.popLimit (coded.skip s bytes.length) old) (p + bytes.length) records := by
  have hbehind := hcoded.skip s bytes _ p _ h.stands (by simp)
  exact ⟨none, h.pop _ _ _ _ hbehind, Or.inl rfl⟩

/-- A parser of the record leaves the stream before the others. -/
theorem Inside.merge {α : Type} {merge : ι → α × Bool × ι} {a : α}
    (h : Inside coded Stands old s p bytes records) (hreads : Reads Stands merge bytes a) :
    ∃ s', merge s = (a, true, s') ∧
      Before Stands (coded.popLimit s' old) (p + bytes.length) records := by
  obtain ⟨s', hmerge, hbehind⟩ := hreads s _ p h.stands
  exact ⟨s', hmerge, none, h.pop _ _ _ _ hbehind, Or.inl rfl⟩

end Records

/-! ### A stream that holds its bytes -/

structure Input where
  position : Nat := 0
  rest : List UInt8
  limit : Nat := intMax
  deriving DecidableEq, Repr

namespace Input

/-- What can be read before the stream seems to have ended. -/
def visible (s : Input) : List UInt8 := s.rest.take (s.limit - s.position)

def skip (s : Input) (n : Nat) : Input :=
  let k := min n s.visible.length
  { s with position := s.position + k, rest := s.rest.drop k }

/-- A varint of up to ten bytes, of which 32 bits are kept. -/
def readVarint32 (s : Input) : Option Nat × Input :=
  match readVarint 10 s.visible with
  | some (n, rest) => (some (n % 2 ^ 32), s.skip (s.visible.length - rest.length))
  | none => (none, s.skip 10)

/-- The limit before, and the stream that ends `n` bytes from here or at that limit. -/
def pushLimit (s : Input) (n : Nat) : Int × Input :=
  (s.limit, { s with
    limit := min s.limit (if n ≤ intMax - s.position then s.position + n else intMax) })

/-- The coded input stream over what a file inflates to. -/
def coded (inflate : List UInt8 → List UInt8) : CodedInput Input where
  init file := { rest := inflate file }
  currentPosition s := s.position
  skip := skip
  readLengthAndPushLimit s := s.readVarint32.2.pushLimit (s.readVarint32.1.getD 0)
  popLimit s limit := { s with limit := limit.toNat }
  bytesUntilLimit s := if s.limit = intMax then -1 else (s.limit : Int) - s.position

/-- Where such a stream stands. -/
structure Stands (s : Input) (rest : List UInt8) (p : Nat) (limit? : Option Nat) : Prop where
  rest_eq : s.rest = rest
  position_eq : s.position = p
  limit_eq : s.limit = limit?.getD intMax
  room : p + rest.length < intMax
  ahead : ∀ limit ∈ limit?, p ≤ limit ∧ limit < intMax

variable {s : Input} {bytes rest : List UInt8} {p n : Nat} {limit? : Option Nat}

theorem Stands.visible (h : s.Stands rest p limit?) :
    s.visible = rest.take (limit?.getD intMax - p) := by
  rw [Input.visible, h.rest_eq, h.position_eq, h.limit_eq]

theorem Stands.skip (h : s.Stands (bytes ++ rest) p limit?)
    (hlimit : ∀ limit ∈ limit?, p + bytes.length ≤ limit) :
    (s.skip bytes.length).Stands rest (p + bytes.length) limit? := by
  have hroom := h.room
  rw [List.length_append] at hroom
  have hvisible : min bytes.length s.visible.length = bytes.length := by
    rw [h.visible, List.length_take, List.length_append]
    cases limit? with
    | none => simp only [Option.getD_none]; omega
    | some limit =>
        have hle := hlimit limit rfl
        simp only [Option.getD_some]
        omega
  refine ⟨?_, ?_, h.limit_eq, by omega, fun limit hmem => ?_⟩
  · simp only [Input.skip, hvisible, h.rest_eq, List.drop_left]
  · simp only [Input.skip, hvisible, h.position_eq]
  · exact ⟨hlimit limit hmem, (h.ahead limit hmem).2⟩

theorem Stands.readVarint32 (h : s.Stands (varint32 n ++ rest) p none) (hn : n < 2 ^ 32) :
    s.readVarint32 = (some n, s.skip (varint32 n).length) := by
  have hroom := h.room
  have hvisible : s.visible = varint32 n ++ rest := by
    rw [h.visible, Option.getD_none, List.take_of_length_le (by omega)]
  have hread : readVarint 10 s.visible = some (n, rest) := by
    rw [hvisible, varint32, Nat.mod_eq_of_lt hn]
    exact readVarint_varint (by norm_num; omega) (by omega) _
  have hlength : s.visible.length - rest.length = (varint32 n).length := by
    rw [hvisible, List.length_append, Nat.add_sub_cancel]
  rw [Input.readVarint32, hread]
  simp only [hlength, Nat.mod_eq_of_lt hn]

theorem Stands.readVarint32_nil (h : s.Stands [] p limit?) : s.readVarint32 = (none, s) := by
  have hvisible : s.visible = [] := by
    rw [h.visible, List.take_nil]
  rw [Input.readVarint32, hvisible]
  simp [readVarint, Input.skip, hvisible]

theorem Stands.popLimit (h : s.Stands rest p limit?) :
    Stands { s with limit := intMax } rest p none :=
  ⟨h.rest_eq, h.position_eq, rfl, h.room, by simp⟩

theorem coded_documented (inflate : List UInt8 → List UInt8) :
    (coded inflate).Documented inflate Stands where
  init file hroom := ⟨rfl, rfl, rfl, by omega, by simp⟩
  currentPosition s rest p limit? h := h.position_eq
  skip s bytes rest p limit? h hlimit := h.skip hlimit
  readLength s n rest p h hn := by
    have hroom := h.room
    rw [List.length_append] at hroom
    have hsmall : n < 2 ^ 32 := by rw [intMax] at hroom; omega
    have hread := h.readVarint32 hsmall
    have hskip := h.skip (by simp)
    have hlimit := h.limit_eq
    refine ⟨intMax, { s.skip (varint32 n).length with
        limit := p + (varint32 n).length + n }, ?_, ?_, fun s' rest' p' limit? h' => h'.popLimit⟩
    · simp only [coded, hread, Option.getD_some, pushLimit, hskip.limit_eq, hskip.position_eq,
        Option.getD_none]
      rw [if_pos (by omega), Nat.min_eq_right (by omega)]
    · refine ⟨hskip.rest_eq, hskip.position_eq, rfl, hskip.room, fun limit hmem => ?_⟩
      obtain rfl := Option.some_inj.mp hmem
      omega
  readNoLength s p limit? h := by
    have hroom := h.room
    have hahead : p ≤ limit?.getD intMax := by
      cases limit? with
      | none => simp only [Option.getD_none]; omega
      | some limit => exact (h.ahead limit rfl).1
    refine ⟨s.limit, { s with limit := p }, ?_, h.rest_eq, h.position_eq, rfl, h.room, ?_⟩
    · simp only [coded, h.readVarint32_nil, Option.getD_none, pushLimit, h.position_eq]
      rw [if_pos (by omega), Nat.add_zero, h.limit_eq, Nat.min_eq_right hahead]
    · intro limit hmem
      obtain rfl := Option.some_inj.mp hmem
      rw [List.length_nil] at hroom
      omega
  bytesUntilLimit s rest p limit h := by
    have hlt := (h.ahead limit rfl).2
    have hlimit : s.limit = limit := h.limit_eq
    simp only [coded, hlimit, h.position_eq]
    rw [if_neg (by omega)]

/-- A parser of all that is visible. -/
def merge {α : Type} (parse : List UInt8 → Option α) (partly : α) (s : Input) : α × Bool × Input :=
  ((parse s.visible).getD partly, (parse s.visible).isSome, s.skip s.visible.length)

theorem reads_merge {α : Type} {parse : List UInt8 → Option α} {partly a : α}
    (hparse : parse bytes = some a) : Reads Stands (merge parse partly) bytes a := by
  intro s rest p h
  have hvisible : s.visible = bytes := by
    rw [h.visible, Option.getD_some, Nat.add_sub_cancel_left, List.take_left]
  refine ⟨s.skip bytes.length, ?_, h.skip (by simp)⟩
  rw [merge, hvisible, hparse]
  rfl

end Input

end CodedStream
