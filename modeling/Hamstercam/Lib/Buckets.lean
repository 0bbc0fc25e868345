import Mathlib.Algebra.BigOperators.Group.List.Basic
import Mathlib.Algebra.GroupWithZero.Nat
import Mathlib.Order.Lattice

/-!
# Buckets

Values of a linear order, sorted into the buckets between ascending bounds.

* `index bounds v` — the first bound that `v` does not exceed; behind the last bound there is one more
  bucket. `index_lt_iff` says which values are in the buckets up to a bound, once the bounds ascend.
* `occupancy bounds vs` — how many values are in each bucket; `occupancy_concat` is the law for one more
  value, and `sum_occupancy` says that every value is in one of them.
* `cumulative bounds vs` — how many values are at most each bound, and how many there are.
-/

namespace Buckets

variable {α : Type} [LinearOrder α] {bounds front back vs ws : List α} {b v : α} {k : Nat}

/-- The bucket of a value. Source: none: infrastructure -/
def index (bounds : List α) (v : α) : Nat := bounds.findIdx fun b => decide (v ≤ b)

/-- The number of values in the buckets below the `k`-th. Source: none: infrastructure -/
def below (bounds vs : List α) (k : Nat) : Nat := vs.countP fun v => decide (index bounds v < k)

/-- The number of values in the `k`-th bucket. Source: none: infrastructure -/
def inside (bounds vs : List α) (k : Nat) : Nat := vs.countP fun v => index bounds v == k

/-- The number of values in each bucket. Source: none: infrastructure -/
def occupancy (bounds vs : List α) : List Nat :=
  (List.range (bounds.length + 1)).map (inside bounds vs)

/-- The cumulative distribution: for every bound the number of values that are at most as large, and the
number of all values. Source: none: infrastructure -/
def cumulative (bounds vs : List α) : List Nat :=
  bounds.map (fun b => vs.countP fun v => decide (v ≤ b)) ++ [vs.length]

/-- Source: none: infrastructure -/
theorem index_le (bounds : List α) (v : α) : index bounds v ≤ bounds.length :=
  List.findIdx_le_length

/-- **The buckets up to a bound hold what is at most the bound.** Source: none: infrastructure -/
theorem index_lt_iff (hbounds : (front ++ b :: back).Pairwise (· < ·)) :
    index (front ++ b :: back) v < front.length + 1 ↔ v ≤ b := by
  unfold index
  rw [List.findIdx_append]
  split
  · rename_i hfront
    have hle : v ≤ b := by
      obtain ⟨x, hx, hvx⟩ := List.findIdx_lt_length.mp hfront
      have hxb : x < b := (List.pairwise_append.mp hbounds).2.2 x hx b List.mem_cons_self
      exact (of_decide_eq_true hvx).trans hxb.le
    exact iff_of_true (by omega) hle
  · rw [List.findIdx_cons]
    by_cases hle : v ≤ b
    · simp [hle]
    · rw [decide_eq_false hle, cond_false]
      exact iff_of_false (by omega) hle

/-- Source: none: infrastructure -/
theorem below_zero (bounds vs : List α) : below bounds vs 0 = 0 := by
  simp [below]

/-- Source: none: infrastructure -/
theorem below_succ (bounds vs : List α) (k : Nat) :
    below bounds vs (k + 1) = below bounds vs k + inside bounds vs k := by
  unfold below inside
  induction vs with
  | nil => rfl
  | cons v vs ih =>
      rw [List.countP_cons, List.countP_cons, List.countP_cons, ih]
      obtain h | h | h := Nat.lt_trichotomy (index bounds v) k
      · simp [h, Nat.lt_succ_of_lt h, Nat.ne_of_lt h]
        omega
      · simp [h]
        omega
      · simp [Nat.not_lt.mpr h, Nat.not_lt.mpr (Nat.le_of_lt h), Nat.ne_of_gt h]

/-- **What is in the buckets up to a bound is what is at most the bound.**
Source: none: infrastructure -/
theorem below_bound (hbounds : (front ++ b :: back).Pairwise (· < ·)) (vs : List α) :
    below (front ++ b :: back) vs (front.length + 1) = vs.countP fun v => decide (v ≤ b) := by
  apply List.countP_congr
  intro v _
  rw [decide_eq_true_iff, decide_eq_true_iff]
  exact index_lt_iff hbounds

/-- Every value is in some bucket. Source: none: infrastructure -/
theorem below_all (bounds vs : List α) : below bounds vs (bounds.length + 1) = vs.length := by
  apply List.countP_eq_length.mpr
  intro v _
  exact decide_eq_true (Nat.lt_succ_of_le (index_le bounds v))

/-- **No value is lost, and none is counted twice.** Source: none: infrastructure -/
theorem sum_occupancy (bounds vs : List α) : (occupancy bounds vs).sum = vs.length := by
  have hbelow : ∀ n, ((List.range n).map (inside bounds vs)).sum = below bounds vs n := by
    intro n
    induction n with
    | zero => exact (below_zero bounds vs).symm
    | succ n ih =>
        rw [List.range_succ, List.map_append, List.sum_append, ih, below_succ]
        simp
  rw [occupancy, hbelow, below_all]

/-- One more value. Source: none: infrastructure -/
theorem occupancy_concat (bounds vs : List α) (v : α) : occupancy bounds (vs ++ [v]) =
    (occupancy bounds vs).modify (index bounds v) (· + 1) := by
  apply List.ext_getElem
  · simp [occupancy]
  · intro k _ _
    rw [List.getElem_modify]
    by_cases h : index bounds v = k
    · simp [occupancy, inside, h]
    · simp [occupancy, inside, h]

/-- The numbers of the bounds. Source: none: infrastructure -/
theorem zip_cumulative (bounds vs : List α) : bounds.zip (cumulative bounds vs) =
    bounds.map fun b => (b, vs.countP fun v => decide (v ≤ b)) := by
  induction bounds with
  | nil => rfl
  | cons b bounds ih =>
      show (b, _) :: bounds.zip (cumulative bounds vs) = _
      rw [ih, List.map_cons]

/-- The number of all values. Source: none: infrastructure -/
theorem getLastD_cumulative (bounds vs : List α) : (cumulative bounds vs).getLastD 0 = vs.length := by
  rw [cumulative, List.getLastD_concat]

/-- The distribution ascends. Source: none: infrastructure -/
theorem cumulative_ascends (hbounds : bounds.Pairwise (· < ·)) :
    (cumulative bounds vs).Pairwise (· ≤ ·) := by
  unfold cumulative
  apply List.pairwise_append.mpr
  refine ⟨?_, List.pairwise_singleton _ _, ?_⟩
  · apply List.Pairwise.map _ _ hbounds
    intro x y hxy
    apply List.countP_mono_left
    intro v _ hv
    exact decide_eq_true ((of_decide_eq_true hv).trans hxy.le)
  · intro n hn m hm
    obtain ⟨x, -, rfl⟩ := List.mem_map.mp hn
    obtain rfl := List.mem_singleton.mp hm
    exact List.countP_le_length

/-- The order in which the values come does not matter. Source: none: infrastructure -/
theorem cumulative_perm (h : vs.Perm ws) : cumulative bounds vs = cumulative bounds ws := by
  unfold cumulative
  rw [h.length_eq]
  congr 1
  apply List.map_congr_left
  intro b _
  exact h.countP_eq _

end Buckets
