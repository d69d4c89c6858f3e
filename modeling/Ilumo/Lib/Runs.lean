import Mathlib.Data.List.SplitBy
import Mathlib.Tactic.Common

/-!
# Runs of equal keys

`List.splitBy` cuts a list into its maximal runs of neighbours with one key. A loop that reads the
list from the front either extends the last run or begins a new one (`splitBy_extend`,
`splitBy_begin`). Where the runs of a coarse key are cut again by a finer one, the loop keeps the
last run of each level open; `Open` is its invariant.
-/

namespace Runs

variable {α β κ κ' : Type*} [DecidableEq κ] [DecidableEq κ']

def same (key : α → κ) (x y : α) : Bool := key x = key y

theorem same_eq_true {key : α → κ} {x y : α} : same key x y = true ↔ key x = key y := by
  simp [same]

theorem same_eq_false {key : α → κ} {x y : α} : same key x y = false ↔ key x ≠ key y := by
  simp [same]

variable {key : α → κ} {fine : α → κ'} {l run : List α} {front inner : List (List α)} {x : α}

theorem isChain_same {y : α} (hconst : ∀ z ∈ l, key z = key y) :
    l.IsChain fun x y => same key x y := by
  apply List.Pairwise.isChain
  apply List.pairwise_of_forall_mem_list
  intro a ha b hb
  rw [same_eq_true, hconst a ha, hconst b hb]

theorem key_eq_of_mem_splitBy (hrun : run ∈ l.splitBy (same key)) {y z : α} (hy : y ∈ run)
    (hz : z ∈ run) : key y = key z := by
  have hchain : (run.map key).IsChain (· = ·) := by
    rw [List.isChain_map]
    simpa only [same_eq_true] using List.isChain_of_mem_splitBy hrun
  have hpair := List.isChain_iff_pairwise.mp hchain
  exact hpair.forall_of_forall (fun _ _ => rfl) (List.mem_map_of_mem hy) (List.mem_map_of_mem hz)

theorem splitBy_singleton (x : α) : [x].splitBy (same key) = [[x]] := rfl

/-- The key of the last run continues. -/
theorem splitBy_extend (h : l.splitBy (same key) = front ++ [run])
    (hkey : ∀ y ∈ run, key y = key x) :
    (l ++ [x]).splitBy (same key) = front ++ [run ++ [x]] := by
  obtain ⟨hflat, hnil, hchain, hsep⟩ := List.splitBy_eq_iff.mp h
  have hrun : run ≠ [] := fun hnone => hnil (by simp [hnone])
  refine List.splitBy_eq_iff.mpr ⟨?_, ?_, ?_, ?_⟩
  · rw [hflat]
    simp
  · simp only [List.mem_append, List.mem_singleton, not_or] at hnil ⊢
    exact ⟨hnil.1, by simp⟩
  · intro m hm
    rcases List.mem_append.mp hm with hm | hm
    · exact hchain m (by simp [hm])
    · obtain rfl := List.mem_singleton.mp hm
      apply isChain_same (y := x)
      intro z hz
      rcases List.mem_append.mp hz with hz | hz
      · exact hkey z hz
      · rw [List.mem_singleton.mp hz]
  · rw [List.isChain_append] at hsep ⊢
    refine ⟨hsep.1, by simp, fun a ha b hb => ?_⟩
    obtain ⟨hlast, hhead, hdiff⟩ := hsep.2.2 a ha run (by simp)
    obtain rfl : run ++ [x] = b := by simpa using hb
    refine ⟨hlast, by simp, ?_⟩
    rw [List.head_append_of_ne_nil hrun]
    exact hdiff

/-- A new key begins. -/
theorem splitBy_begin (h : l.splitBy (same key) = front ++ [run])
    (hkey : ∀ y ∈ run, key y ≠ key x) :
    (l ++ [x]).splitBy (same key) = front ++ [run] ++ [[x]] := by
  rw [List.splitBy_append_cons [], h, splitBy_singleton]
  intro y hy
  rw [same_eq_false]
  have hrun : run ≠ [] := fun hnone =>
    List.nil_notMem_splitBy (same key) l (by rw [h, hnone]; simp)
  have hlast : l = front.flatten ++ run := by
    rw [← List.flatten_splitBy (same key) l, h]
    simp
  rw [hlast, List.getLast?_append_of_ne_nil _ hrun] at hy
  exact hkey y (List.mem_of_getLast? hy)

/-- Neighbouring runs share no key. -/
theorem isChain_splitBy (key : α → κ) (l : List α) :
    (l.splitBy (same key)).IsChain fun run run' => ∀ y ∈ run, ∀ z ∈ run', key y ≠ key z := by
  apply List.IsChain.imp_of_mem_imp _ (List.isChain_getLast_head_splitBy (same key) l)
  intro run run' hrun hrun' hdiff y hy z hz
  obtain ⟨hlast, hhead, hdiff⟩ := hdiff
  rw [key_eq_of_mem_splitBy hrun hy (List.getLast_mem hlast),
    key_eq_of_mem_splitBy hrun' hz (List.head_mem hhead)]
  exact same_eq_false.mp hdiff

theorem flatMap_map_splitBy (r : α → α → Bool) (l : List α) (f : α → β) :
    ((l.splitBy r).flatMap fun run => run.map f) = l.map f := by
  rw [List.flatMap_def, ← List.map_flatten, List.flatten_splitBy]

/-! ### Two levels -/

/-- The list read so far, cut by the coarse key into `front` and a last run that is still open, and
that run cut by the finer key into `inner` and its last run, open too. -/
structure Open (key : α → κ) (fine : α → κ') (l : List α) (front inner : List (List α))
    (run : List α) : Prop where
  coarse : l.splitBy (same key) = front ++ [inner.flatten ++ run]
  finer : (inner.flatten ++ run).splitBy (same fine) = inner ++ [run]

theorem Open.singleton (key : α → κ) (fine : α → κ') (x : α) : Open key fine [x] [] [] [x] :=
  ⟨rfl, rfl⟩

theorem Open.mem_fine (h : Open key fine l front inner run) : run ∈
    (inner.flatten ++ run).splitBy (same fine) := by
  rw [h.finer]
  simp

theorem Open.ne_nil (h : Open key fine l front inner run) : run ≠ [] :=
  List.ne_nil_of_mem_splitBy h.mem_fine

theorem Open.key_eq (h : Open key fine l front inner run) {y z : α}
    (hy : y ∈ inner.flatten ++ run) (hz : z ∈ inner.flatten ++ run) : key y = key z :=
  key_eq_of_mem_splitBy (l := l) (by rw [h.coarse]; simp) hy hz

theorem Open.fine_eq (h : Open key fine l front inner run) {y z : α} (hy : y ∈ run)
    (hz : z ∈ run) : fine y = fine z :=
  key_eq_of_mem_splitBy h.mem_fine hy hz

theorem Open.extend (h : Open key fine l front inner run) {y : α} (hy : y ∈ run)
    (hkey : key y = key x) (hfine : fine y = fine x) :
    Open key fine (l ++ [x]) front inner (run ++ [x]) := by
  have hmem : y ∈ inner.flatten ++ run := List.mem_append_right _ hy
  refine ⟨?_, ?_⟩
  · rw [splitBy_extend h.coarse fun z hz => (h.key_eq hz hmem).trans hkey, List.append_assoc]
  · rw [← List.append_assoc]
    exact splitBy_extend h.finer fun z hz => (h.fine_eq hz hy).trans hfine

theorem Open.beginInner (h : Open key fine l front inner run) {y : α} (hy : y ∈ run)
    (hkey : key y = key x) (hfine : fine y ≠ fine x) :
    Open key fine (l ++ [x]) front (inner ++ [run]) [x] := by
  have hmem : y ∈ inner.flatten ++ run := List.mem_append_right _ hy
  have hflat : (inner ++ [run]).flatten = inner.flatten ++ run := by simp
  refine ⟨?_, ?_⟩
  · rw [hflat]
    exact splitBy_extend h.coarse fun z hz => (h.key_eq hz hmem).trans hkey
  · rw [hflat]
    exact splitBy_begin h.finer fun z hz => (h.fine_eq hz hy).trans_ne hfine

theorem Open.beginOuter (h : Open key fine l front inner run) {y : α} (hy : y ∈ run)
    (hkey : key y ≠ key x) :
    Open key fine (l ++ [x]) (front ++ [inner.flatten ++ run]) [] [x] := by
  have hmem : y ∈ inner.flatten ++ run := List.mem_append_right _ hy
  refine ⟨?_, rfl⟩
  exact splitBy_begin h.coarse fun z hz => (h.key_eq hz hmem).trans_ne hkey

/-- Where the coarse key is a function of the finer one, cutting twice is cutting by the finer. -/
theorem Open.exists (hfine : ∀ x y : α, fine x = fine y → key x = key y) (l : List α) (x : α) :
    ∃ front inner run, Open key fine (l ++ [x]) front inner run ∧ x ∈ run ∧
      (l ++ [x]).splitBy (same fine) =
        (front.flatMap fun run => run.splitBy (same fine)) ++ inner ++ [run] := by
  induction l using List.reverseRecOn generalizing x with
  | nil => exact ⟨[], [], [x], Open.singleton key fine x, List.mem_singleton_self x, rfl⟩
  | append_singleton l y ih =>
      obtain ⟨front, inner, run, hopen, hy, hsplit⟩ := ih y
      by_cases hsame : fine y = fine x
      · refine ⟨_, _, _, hopen.extend hy (hfine y x hsame) hsame, by simp, ?_⟩
        exact splitBy_extend hsplit fun z hz => (hopen.fine_eq hz hy).trans hsame
      · have hnext := splitBy_begin hsplit fun z hz => (hopen.fine_eq hz hy).trans_ne hsame
        by_cases hkey : key y = key x
        · refine ⟨_, _, _, hopen.beginInner hy hkey hsame, by simp, ?_⟩
          rw [hnext]
          simp only [List.append_assoc]
        · refine ⟨_, _, _, hopen.beginOuter hy hkey, by simp, ?_⟩
          rw [hnext, List.flatMap_append, List.flatMap_singleton, hopen.finer]
          simp only [List.append_assoc, List.append_nil]

theorem flatMap_splitBy_splitBy (hfine : ∀ x y : α, fine x = fine y → key x = key y)
    (l : List α) :
    ((l.splitBy (same key)).flatMap fun run => run.splitBy (same fine)) =
      l.splitBy (same fine) := by
  rcases List.eq_nil_or_concat' l with rfl | ⟨l, x, rfl⟩
  · rfl
  · obtain ⟨front, inner, run, hopen, -, hsplit⟩ := Open.exists hfine l x
    rw [hsplit, hopen.coarse, List.flatMap_append, List.flatMap_singleton, hopen.finer,
      List.append_assoc]

/-! ### Runs of a sequence -/

/-- Where the run around index `i` begins. -/
def start (key : Nat → κ) : Nat → Nat
  | 0 => 0
  | i + 1 => if key i = key (i + 1) then start key i else i + 1

theorem key_start (key : Nat → κ) (i : Nat) : key (start key i) = key i := by
  induction i with
  | zero => rfl
  | succ i ih =>
      rw [start]
      split
      · next hsame => rw [ih, hsame]
      · rfl

/-- A value is that of the first index of every run if it never changes within a run. -/
theorem forall_start_iff (key : Nat → κ) (value : Nat → β) (n : Nat) :
    (∀ i < n, value (start key i) = value i) ↔
      ∀ i, i + 1 < n → key i = key (i + 1) → value i = value (i + 1) := by
  refine ⟨?_, ?_⟩
  · intro h i hi hkey
    have hnext := h (i + 1) hi
    rw [start, if_pos hkey, h i (by omega)] at hnext
    exact hnext
  · intro h i hi
    induction i with
    | zero => rfl
    | succ i ih =>
        rw [start]
        split
        · next hkey => rw [ih (by omega), h i hi hkey]
        · rfl

theorem splitBy_range (key : Nat → κ) (n : Nat) :
    ∃ front run, (List.range (n + 1)).splitBy (same key) = front ++ [run] ∧ n ∈ run ∧
      ∀ run' ∈ front ++ [run], ∀ i ∈ run', start key i = run'.headD 0 := by
  induction n with
  | zero => exact ⟨[], [0], rfl, by simp, by simp [start]⟩
  | succ n ih =>
      obtain ⟨front, run, hsplit, hmem, hstart⟩ := ih
      have hrun : run ∈ (List.range (n + 1)).splitBy (same key) := by simp [hsplit]
      have hne : run ≠ [] := List.ne_nil_of_mem_splitBy hrun
      rw [List.range_succ (n := n + 1)]
      by_cases hsame : key n = key (n + 1)
      · refine ⟨front, run ++ [n + 1], splitBy_extend hsplit fun z hz =>
          (key_eq_of_mem_splitBy hrun hz hmem).trans hsame, by simp, ?_⟩
        have hhead : (run ++ [n + 1]).headD 0 = run.headD 0 := by
          cases run with
          | nil => exact absurd rfl hne
          | cons j run => rfl
        intro run' hrun' i hi
        rcases List.mem_append.mp hrun' with hrun' | hrun'
        · exact hstart run' (by simp [hrun']) i hi
        · obtain rfl := List.mem_singleton.mp hrun'
          rw [hhead]
          rcases List.mem_append.mp hi with hi | hi
          · exact hstart run (by simp) i hi
          · rw [List.mem_singleton.mp hi, start, if_pos hsame]
            exact hstart run (by simp) n hmem
      · refine ⟨front ++ [run], [n + 1], splitBy_begin hsplit fun z hz =>
          (key_eq_of_mem_splitBy hrun hz hmem).trans_ne hsame, by simp, ?_⟩
        intro run' hrun' i hi
        rcases List.mem_append.mp hrun' with hrun' | hrun'
        · exact hstart run' hrun' i hi
        · obtain rfl := List.mem_singleton.mp hrun'
          rw [List.mem_singleton.mp hi, start, if_neg hsame]
          rfl

/-- The runs of the first `n` indices, each index with the beginning of its run. -/
theorem flatMap_map_splitBy_range (key : Nat → κ) (n : Nat) (f : Nat → Nat → β) :
    (((List.range n).splitBy (same key)).flatMap fun run => run.map (f (run.headD 0))) =
      (List.range n).map fun i => f (start key i) i := by
  rw [← flatMap_map_splitBy (same key) (List.range n)]
  apply List.flatMap_congr
  intro run hrun
  apply List.map_congr_left
  intro i hi
  cases n with
  | zero => simp at hrun
  | succ n =>
      obtain ⟨front, last, hsplit, -, hstart⟩ := splitBy_range key n
      rw [hstart run (by rwa [← hsplit]) i hi]

end Runs
