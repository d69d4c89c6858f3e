import Mathlib.Data.Nat.Digits.Lemmas
import Mathlib.Tactic.Common

/-!
# Hexadecimal text

Numbers as Python writes them with `{:0wX}` and reads them with `int(text, base=16)`. The reader
takes more than the writer gives: blanks around the number, a sign, `0x` in front and single
underscores between the digits. It reads back whatever was written.
-/

namespace Hexadecimal

def hexDigit (d : Nat) : UInt8 := if d < 10 then UInt8.ofNat (48 + d) else UInt8.ofNat (55 + d)

/-- `'{:0wX}'.format(n)`. -/
def upperHex (w n : Nat) : List UInt8 := ((Nat.digitsAppend 16 w n).map hexDigit).reverse

def isSpace (b : UInt8) : Bool := b == 0x20 || (9 ≤ b && b ≤ 13)

def digitValue (b : UInt8) : Option Nat :=
  if 48 ≤ b ∧ b ≤ 57 then some (b.toNat - 48)
  else if 65 ≤ b ∧ b ≤ 70 then some (b.toNat - 55)
  else if 97 ≤ b ∧ b ≤ 102 then some (b.toNat - 87)
  else none

/-- The digits up to the first character that belongs to no number, and what follows them. An
underscore stands between two digits; `prev` says that one has just been read. -/
def readDigits (value : Nat) (prev : Bool) : List UInt8 → Option (Nat × List UInt8)
  | [] => if prev then none else some (value, [])
  | b :: rest =>
      match digitValue b with
      | some d => readDigits (16 * value + d) false rest
      | none =>
          if prev then none
          else if b = 0x5F then readDigits value true rest
          else some (value, b :: rest)

def readSign : List UInt8 → Bool × List UInt8
  | 0x2B :: rest => (false, rest)
  | 0x2D :: rest => (true, rest)
  | text => (false, text)

def skipUnderscore : List UInt8 → List UInt8
  | 0x5F :: rest => rest
  | text => text

/-- `0x` in front of the digits, which one underscore may follow. -/
def skipBase : List UInt8 → List UInt8
  | 0x30 :: x :: rest =>
      if x = 0x78 ∨ x = 0x58 then skipUnderscore rest else 0x30 :: x :: rest
  | text => text

/-- `int(text, base=16)` of a text of ASCII characters; `none` is its `ValueError`. -/
def int16 (text : List UInt8) : Option Int :=
  let (negative, text) := readSign (text.dropWhile isSpace)
  let text := skipBase text
  if text.head? = some 0x5F then none
  else
    match readDigits 0 false text with
    | none => none
    | some (value, rest) =>
        if rest.length = text.length ∨ rest.dropWhile isSpace ≠ [] then none
        else some (if negative then -value else value)

theorem length_upperHex {w n : Nat} (hn : n < 16 ^ w) : (upperHex w n).length = w := by
  rw [upperHex, List.length_reverse, List.length_map]
  exact Nat.length_digitsAppend (by norm_num) w hn

/-- Sixteen characters, each checked against all the tests the reader makes. -/
theorem hexDigit_spec {d : Nat} (hd : d < 16) :
    digitValue (hexDigit d) = some d ∧ isSpace (hexDigit d) = false ∧ hexDigit d ≠ 0x5F ∧
      hexDigit d ≠ 0x2B ∧ hexDigit d ≠ 0x2D ∧ hexDigit d ≠ 0x78 ∧ hexDigit d ≠ 0x58 ∧
        hexDigit d < 128 := by
  revert d
  decide

theorem readDigits_map (value : Nat) {ds : List Nat} (hds : ∀ d ∈ ds, d < 16) :
    readDigits value false (ds.map hexDigit) =
      some (ds.foldl (fun value d => 16 * value + d) value, []) := by
  induction ds generalizing value with
  | nil => rfl
  | cons d ds ih =>
      rw [List.map_cons, readDigits, (hexDigit_spec (hds d (by simp))).1, List.foldl_cons]
      exact ih _ fun d' hd' => hds d' (by simp [hd'])

theorem foldl_reverse_digitsAppend (w n : Nat) :
    (Nat.digitsAppend 16 w n).reverse.foldl (fun value d => 16 * value + d) 0 = n := by
  have hfoldr : (Nat.digitsAppend 16 w n).foldr (fun d value => 16 * value + d) 0 =
      Nat.ofDigits 16 (Nat.digitsAppend 16 w n) := by
    rw [Nat.ofDigits_eq_foldr]
    congr 1
    funext d value
    exact Nat.add_comm _ _
  rw [List.foldl_reverse, hfoldr, Nat.digitsAppend, Nat.ofDigits_append_replicate_zero,
    Nat.ofDigits_digits]

/-- Nothing in front of digits is taken for a blank, a sign or a base. -/
theorem int16_map {ds : List Nat} (hds : ∀ d ∈ ds, d < 16) (hne : ds ≠ []) :
    int16 (ds.map hexDigit) = some ((ds.foldl (fun value d => 16 * value + d) 0 : Nat) : Int) := by
  obtain ⟨d, ds, rfl⟩ := List.exists_cons_of_ne_nil hne
  obtain ⟨hvalue, hspace, hunder, hplus, hminus, -, -, -⟩ := hexDigit_spec (hds d (by simp))
  have hdrop : ((d :: ds).map hexDigit).dropWhile isSpace = (d :: ds).map hexDigit := by
    rw [List.map_cons, List.dropWhile_cons_of_neg (by simp [hspace])]
  have hsign : readSign ((d :: ds).map hexDigit) = (false, (d :: ds).map hexDigit) := by
    rw [List.map_cons, readSign]
    · exact fun rest h => hplus (List.cons.inj h).1
    · exact fun rest h => hminus (List.cons.inj h).1
  have hskip : skipBase ((d :: ds).map hexDigit) = (d :: ds).map hexDigit := by
    cases ds with
    | nil =>
        rw [skipBase]
        intro x rest h
        simp at h
    | cons d' ds =>
        obtain ⟨-, -, -, -, -, hx, hX, -⟩ := hexDigit_spec (hds d' (by simp))
        by_cases hzero : hexDigit d = 0x30
        · rw [List.map_cons, List.map_cons, hzero, skipBase, if_neg (by simp [hx, hX])]
        · rw [skipBase]
          intro x rest h
          exact hzero (List.cons.inj h).1
  rw [int16, hdrop, hsign]
  simp only [hskip]
  rw [if_neg (by simpa using hunder), readDigits_map 0 hds]
  simp

theorem int16_upperHex {w : Nat} (hw : 0 < w) (n : Nat) : int16 (upperHex w n) = some (n : Int) := by
  have hds : ∀ d ∈ (Nat.digitsAppend 16 w n).reverse, d < 16 := fun d hd =>
    Nat.lt_of_mem_digitsAppend (by norm_num) w d (List.mem_reverse.mp hd)
  have hne : (Nat.digitsAppend 16 w n).reverse ≠ [] := by
    intro hnil
    have hlength := congrArg List.length (List.reverse_eq_nil_iff.mp hnil)
    rw [Nat.digitsAppend, List.length_append, List.length_replicate, List.length_nil] at hlength
    omega
  rw [upperHex, ← List.map_reverse, int16_map hds hne, foldl_reverse_digitsAppend]

theorem lt_of_mem_upperHex {w n : Nat} {b : UInt8} (hb : b ∈ upperHex w n) : b < 128 := by
  rw [upperHex, List.mem_reverse, List.mem_map] at hb
  obtain ⟨d, hd, rfl⟩ := hb
  exact (hexDigit_spec (Nat.lt_of_mem_digitsAppend (by norm_num) w d hd)).2.2.2.2.2.2.2

end Hexadecimal
