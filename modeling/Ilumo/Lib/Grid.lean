import Mathlib.Data.Fin.Rev
import Mathlib.Data.Fin.Tuple.Basic
import Mathlib.Data.List.FinRange
import Mathlib.Logic.Equiv.Fin.Basic
import Mathlib.Logic.Equiv.Prod
import Mathlib.Tactic.Common

/-!
# Grids

A grid is a function of a row and a column. The operations that turn, mirror, cut and flatten it
only rearrange positions, so what they do to a picture is told by a bijection of positions: a grid
read along a permutation of its positions flattens to a permutation of the same list.
-/

abbrev Grid (rows cols : Nat) (α : Type*) := Fin rows → Fin cols → α

namespace Grid

variable {rows cols cols' : Nat} {α : Type*}

def transpose (grid : Grid rows cols α) : Grid cols rows α := fun r c => grid c r

/-- The last row becomes the first. -/
def flipRows (grid : Grid rows cols α) : Grid rows cols α := fun r c => grid r.rev c

/-- The last column becomes the first. -/
def flipCols (grid : Grid rows cols α) : Grid rows cols α := fun r c => grid r c.rev

def halfTurn (grid : Grid rows cols α) : Grid rows cols α := fun r c => grid r.rev c.rev

/-- The left column, read upwards, becomes the top row. -/
def clockwise (grid : Grid rows cols α) : Grid cols rows α := fun r c => grid c.rev r

def counterclockwise (grid : Grid rows cols α) : Grid cols rows α := fun r c => grid c r.rev

/-- Two grids of one height, side by side. -/
def beside (left : Grid rows cols α) (right : Grid rows cols' α) : Grid rows (cols + cols') α :=
  fun r => Fin.append (left r) (right r)

def leftPart (grid : Grid rows (cols + cols') α) : Grid rows cols α := fun r c =>
  grid r (Fin.castAdd cols' c)

def rightPart (grid : Grid rows (cols + cols') α) : Grid rows cols' α := fun r c =>
  grid r (Fin.natAdd cols c)

theorem flipRows_flipCols (grid : Grid rows cols α) : flipRows (flipCols grid) = halfTurn grid :=
  rfl

theorem flipCols_flipCols (grid : Grid rows cols α) : flipCols (flipCols grid) = grid := by
  funext r c
  rw [flipCols, flipCols, Fin.rev_rev]

theorem counterclockwise_clockwise (grid : Grid rows cols α) :
    counterclockwise (clockwise grid) = grid := by
  funext r c
  rw [counterclockwise, clockwise, Fin.rev_rev]

theorem leftPart_beside_rightPart (grid : Grid rows (cols + cols') α) :
    beside (leftPart grid) (rightPart grid) = grid := by
  funext r
  exact Fin.append_castAdd_natAdd

/-! ### Cutting a grid into two turned parts -/

/-- Where the pixels of the two parts, each turned clockwise, come from. -/
def cut (rows cols cols' : Nat) :
    (Fin cols × Fin rows) ⊕ (Fin cols' × Fin rows) ≃ Fin rows × Fin (cols + cols') :=
  (Equiv.sumProdDistrib (Fin cols) (Fin cols') (Fin rows)).symm.trans
    ((Equiv.prodComm _ _).trans (Equiv.prodCongr Fin.revPerm finSumFinEquiv))

theorem clockwise_leftPart (grid : Grid rows (cols + cols') α) (r : Fin cols) (c : Fin rows) :
    clockwise (leftPart grid) r c =
      grid (cut rows cols cols' (.inl (r, c))).1 (cut rows cols cols' (.inl (r, c))).2 :=
  rfl

theorem clockwise_rightPart (grid : Grid rows (cols + cols') α) (r : Fin cols') (c : Fin rows) :
    clockwise (rightPart grid) r c =
      grid (cut rows cols cols' (.inr (r, c))).1 (cut rows cols cols' (.inr (r, c))).2 :=
  rfl

/-! ### Flattening -/

def position (r : Fin rows) (c : Fin cols) : Fin (rows * cols) := finProdFinEquiv (r, c)

theorem position_val (r : Fin rows) (c : Fin cols) : (position r c).val = r * cols + c := by
  change (c : Nat) + cols * r = _
  rw [Nat.add_comm, Nat.mul_comm]

/-- Row by row, each row from the left. -/
def flatten (grid : Grid rows cols α) : List α :=
  List.ofFn fun k : Fin (rows * cols) => grid k.divNat k.modNat

@[simp] theorem length_flatten (grid : Grid rows cols α) : (flatten grid).length = rows * cols :=
  List.length_ofFn

theorem divNat_position (r : Fin rows) (c : Fin cols) : (position r c).divNat = r :=
  congrArg Prod.fst (finProdFinEquiv.symm_apply_apply (r, c))

theorem modNat_position (r : Fin rows) (c : Fin cols) : (position r c).modNat = c :=
  congrArg Prod.snd (finProdFinEquiv.symm_apply_apply (r, c))

theorem flatten_getElem? (grid : Grid rows cols α) (r : Fin rows) (c : Fin cols) :
    (flatten grid)[r * cols + c]? = some (grid r c) := by
  have hlt := (position r c).isLt
  rw [← position_val, flatten, List.getElem?_ofFn, dif_pos hlt, Fin.eta, divNat_position,
    modNat_position]

/-- A grid read along a permutation of its positions. -/
theorem flatten_perm (positions : Equiv.Perm (Fin rows × Fin cols)) (grid : Grid rows cols α) :
    (flatten fun r c => grid (positions (r, c)).1 (positions (r, c)).2).Perm (flatten grid) := by
  let places : Equiv.Perm (Fin (rows * cols)) :=
    finProdFinEquiv.symm.trans (positions.trans finProdFinEquiv)
  have hplaces : (fun k : Fin (rows * cols) => grid (positions (k.divNat, k.modNat)).1
      (positions (k.divNat, k.modNat)).2) = (fun k => grid k.divNat k.modNat) ∘ places := by
    funext k
    have hback : finProdFinEquiv.symm (places k) = positions (k.divNat, k.modNat) :=
      finProdFinEquiv.symm_apply_apply _
    rw [← hback]
    rfl
  rw [flatten, hplaces]
  exact places.ofFn_comp_perm _

theorem flatten_flipRows_perm (grid : Grid rows cols α) :
    (flatten (flipRows grid)).Perm (flatten grid) :=
  flatten_perm (Equiv.prodCongr Fin.revPerm (Equiv.refl _)) grid

theorem flatten_flipCols_perm (grid : Grid rows cols α) :
    (flatten (flipCols grid)).Perm (flatten grid) :=
  flatten_perm (Equiv.prodCongr (Equiv.refl _) Fin.revPerm) grid

/-- A list that is as long as the grid has positions, laid out row by row. -/
def ofList (values : List α) (hlength : values.length = rows * cols) : Grid rows cols α :=
  fun r c => values.get ((position r c).cast hlength.symm)

theorem flatten_ofList (values : List α) (hlength : values.length = rows * cols) :
    flatten (ofList values hlength : Grid rows cols α) = values := by
  apply List.ext_getElem
  · rw [length_flatten, hlength]
  · intro k hk hk'
    have hposition : position (Fin.divNat ⟨k, by rwa [length_flatten] at hk⟩)
        (Fin.modNat ⟨k, by rwa [length_flatten] at hk⟩) = ⟨k, by rwa [length_flatten] at hk⟩ :=
      finProdFinEquiv.apply_symm_apply _
    simp only [flatten, List.getElem_ofFn, ofList, hposition]
    rfl

end Grid
