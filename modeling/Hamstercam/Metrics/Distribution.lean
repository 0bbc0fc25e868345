import Hamstercam.Lib.Buckets
import Hamstercam.Metrics.Render

/-!
# The printed distribution

What `write_histogram` prints after a sequence of observations.

* `Histogram.observeAll` — the calls of `observe`, in order. `observeAll_counts` says that the counts are
  the occupancy of the buckets, modulo `2 ^ 64`.
* `writeBuckets_cumulative` — the loop over the bounds prints the cumulative distribution: before a
  bound, `cumulative` is what is in the buckets below it.
-/

namespace Hamstercam

open Decimal Buckets

section distribution

variable {α : Type} [LinearOrder α]

/-! ## The observations -/

/-- A histogram after calls of `observe`. Source: `histogram.hpp` `Histogram::observe` -/
def Histogram.observeAll (plus : α → α → α) (zero : α) (bounds vs : List α) : Histogram α :=
  vs.foldl (Histogram.observe plus) (Histogram.new zero bounds)

variable {plus : α → α → α} {zero : α} {bounds front back vs : List α} {b v : α}

/-- Source: `histogram.hpp` `Histogram::observe` -/
theorem Histogram.observeAll_concat (vs : List α) (v : α) :
    observeAll plus zero bounds (vs ++ [v]) = (observeAll plus zero bounds vs).observe plus v := by
  rw [observeAll, List.foldl_append]
  rfl

/-- Source: `histogram.hpp` `Histogram::upper_bounds` -/
theorem Histogram.observeAll_bounds (vs : List α) :
    (observeAll plus zero bounds vs).bounds = bounds := by
  induction vs using List.reverseRecOn with
  | nil => rfl
  | append_singleton vs v ih =>
      rw [observeAll_concat, observe]
      exact ih

/-- The sum of the observations, in the order in which they came.
Source: `histogram.hpp` `Histogram::observe` -/
theorem Histogram.observeAll_sum (vs : List α) :
    (observeAll plus zero bounds vs).sum = vs.foldl plus zero := by
  induction vs using List.reverseRecOn with
  | nil => rfl
  | append_singleton vs v ih =>
      rw [observeAll_concat, observe, List.foldl_concat]
      show plus (observeAll plus zero bounds vs).sum v = _
      rw [ih]

/-- Source: `histogram.hpp` `Histogram::observe` -/
theorem Histogram.observeAll_total (vs : List α) :
    (observeAll plus zero bounds vs).total = UInt64.ofNat vs.length := by
  induction vs using List.reverseRecOn with
  | nil => rfl
  | append_singleton vs v ih =>
      rw [observeAll_concat, observe_total, ih, List.length_append, UInt64.ofNat_add]
      rfl

/-- **The counts are what is in the buckets.** Source: `histogram.hpp` `Histogram::observe` -/
theorem Histogram.observeAll_counts (vs : List α) :
    (observeAll plus zero bounds vs).counts = (occupancy bounds vs).map UInt64.ofNat := by
  induction vs using List.reverseRecOn with
  | nil =>
      apply List.ext_getElem
      · simp [observeAll, new, occupancy]
      · intro k _ _
        simp [observeAll, new, occupancy, inside]
  | append_singleton vs v ih =>
      rw [observeAll_concat, observe, occupancy_concat]
      show List.modify _ (bucketIndex (observeAll plus zero bounds vs).bounds v) _ = _
      rw [ih, observeAll_bounds]
      apply List.ext_getElem
      · simp
      · intro k _ _
        rw [List.getElem_modify, List.getElem_map, List.getElem_map, List.getElem_modify]
        show (if index bounds v = k then _ else _) = _
        split
        · rw [UInt64.ofNat_add]
          rfl
        · rfl

/-! ## What is printed -/

/-- One line of the buckets. Source: `metrics.cpp` `write_histogram` -/
def bucketLine (format : α → List Byte) (name : List Byte) (bound : α) (n : Nat) : List Byte :=
  name ++ text "_bucket\x7ble=\"" ++ format bound ++ text "\"\x7d " ++ decimal n ++ text "\n"

/-- **The loop over the bounds.** Before the bound `b`, `cumulative` is what is in the buckets below it.
Source: `metrics.cpp` `write_histogram` -/
theorem writeBuckets_cumulative (format : α → List Byte) (name : List Byte)
    (hbounds : (front ++ back).Pairwise (· < ·)) (hsize : vs.length < 2 ^ 64) :
    writeBuckets format name (UInt64.ofNat (below (front ++ back) vs front.length))
      (back.zip ((List.range' front.length (back.length + 1)).map fun k =>
        UInt64.ofNat (inside (front ++ back) vs k))) =
    (back.flatMap fun b => bucketLine format name b (vs.countP fun v => decide (v ≤ b)),
      UInt64.ofNat (below (front ++ back) vs (front ++ back).length)) := by
  induction back generalizing front with
  | nil => simp [writeBuckets]
  | cons b back ih =>
      have hnext := @ih (front ++ [b]) (by simpa using hbounds)
      rw [List.length_append, List.length_singleton, List.append_assoc, List.singleton_append] at hnext
      have hadded : UInt64.ofNat (below (front ++ b :: back) vs front.length) +
          UInt64.ofNat (inside (front ++ b :: back) vs front.length) =
          UInt64.ofNat (below (front ++ b :: back) vs (front.length + 1)) := by
        rw [below_succ, UInt64.ofNat_add]
      have hprinted : (UInt64.ofNat (below (front ++ b :: back) vs (front.length + 1))).toNat =
          vs.countP fun v => decide (v ≤ b) := by
        rw [below_bound hbounds]
        exact UInt64.toNat_ofNat_of_lt' (List.countP_le_length.trans_lt hsize)
      rw [List.length_cons, List.range'_succ, List.map_cons, List.zip_cons_cons, writeBuckets, hadded,
        hnext, hprinted]
      rfl

/-- What `write_histogram` is to print: a number for each bound, and one for all observations.
Source: `metrics.cpp` `write_histogram` -/
def distributionText (format : α → List Byte) (name help : List Byte) (bounds : List α)
    (numbers : List Nat) (sum : α) : List Byte :=
  text "# HELP " ++ name ++ text " " ++ help ++ text "\n" ++
    (text "# TYPE " ++ name ++ text " histogram\n") ++
    (bounds.zip numbers).flatMap (fun p => bucketLine format name p.1 p.2) ++
    (name ++ text "_bucket\x7ble=\"+Inf\"\x7d " ++ decimal (numbers.getLastD 0) ++ text "\n") ++
    (name ++ text "_sum " ++ format sum ++ text "\n") ++
    (name ++ text "_count " ++ decimal (numbers.getLastD 0) ++ text "\n")

/-- What is printed is the cumulative distribution. Source: `metrics.cpp` `write_histogram` -/
theorem writeHistogram_observeAll (format : α → List Byte) (name help : List Byte)
    (plus : α → α → α) (zero : α) (hbounds : bounds.Pairwise (· < ·)) (hsize : vs.length < 2 ^ 64) :
    writeHistogram format name help (Histogram.observeAll plus zero bounds vs) =
      distributionText format name help bounds (cumulative bounds vs) (vs.foldl plus zero) := by
  have hloop := @writeBuckets_cumulative _ _ [] bounds vs format name hbounds hsize
  rw [List.nil_append, List.length_nil, below_zero, show UInt64.ofNat 0 = 0 from rfl,
    ← List.range_eq_range'] at hloop
  have hcounts : (Histogram.observeAll plus zero bounds vs).counts =
      (List.range (bounds.length + 1)).map fun k => UInt64.ofNat (inside bounds vs k) := by
    rw [Histogram.observeAll_counts, occupancy, List.map_map]
    rfl
  have hlast : ∀ h, (Histogram.observeAll plus zero bounds vs).counts.getLast h =
      UInt64.ofNat (inside bounds vs bounds.length) := by
    intro h
    apply Option.some.inj
    rw [← List.getLast?_eq_some_getLast, hcounts, List.range_succ, List.map_append,
      List.map_singleton, List.getLast?_concat]
  have hall : UInt64.ofNat (below bounds vs bounds.length) +
      UInt64.ofNat (inside bounds vs bounds.length) = UInt64.ofNat vs.length := by
    rw [← UInt64.ofNat_add, ← below_succ, below_all]
  have hnumber : (UInt64.ofNat vs.length).toNat = vs.length := UInt64.toNat_ofNat_of_lt' hsize
  unfold writeHistogram distributionText
  simp only [hlast]
  rw [Histogram.observeAll_bounds, hcounts, Histogram.observeAll_sum, Histogram.observeAll_total, hloop,
    zip_cumulative, getLastD_cumulative, List.flatMap_map, hall, hnumber]

/-- As numbers, the counts are what is in the buckets. Source: `histogram.hpp` `Histogram::observe` -/
theorem toNat_counts (plus : α → α → α) (zero : α) (bounds : List α) (hsize : vs.length < 2 ^ 64) :
    (Histogram.observeAll plus zero bounds vs).counts.map UInt64.toNat = occupancy bounds vs := by
  have hid : ∀ n ∈ occupancy bounds vs, (UInt64.toNat ∘ UInt64.ofNat) n = id n := by
    intro n hn
    obtain ⟨k, -, rfl⟩ := List.mem_map.mp hn
    exact UInt64.toNat_ofNat_of_lt' (List.countP_le_length.trans_lt hsize)
  rw [Histogram.observeAll_counts, List.map_map, List.map_congr_left hid, List.map_id]

/-- **The printed histogram is the cumulative distribution.** For each bound it shows how many
observations are at most as large, and for `+Inf` and in `_count` how many there are; the numbers
ascend, every observation is in exactly one bucket, and the order of the observations does not show.
Source: `metrics.cpp` `write_histogram`, `histogram.hpp` `Histogram` -/
theorem printed_distribution (format : α → List Byte) (name help : List Byte) (plus : α → α → α)
    (zero : α) (hbounds : bounds.Pairwise (· < ·)) (hsize : vs.length < 2 ^ 64) :
    writeHistogram format name help (Histogram.observeAll plus zero bounds vs) =
        distributionText format name help bounds (cumulative bounds vs) (vs.foldl plus zero) ∧
      (cumulative bounds vs).Pairwise (· ≤ ·) ∧
      ((Histogram.observeAll plus zero bounds vs).counts.map UInt64.toNat).sum = vs.length ∧
      ∀ ws, vs.Perm ws → writeHistogram format name help (Histogram.observeAll plus zero bounds ws) =
        distributionText format name help bounds (cumulative bounds vs) (ws.foldl plus zero) := by
  refine ⟨writeHistogram_observeAll format name help plus zero hbounds hsize,
    cumulative_ascends hbounds, ?_, ?_⟩
  · rw [toNat_counts plus zero bounds hsize, sum_occupancy]
  · intro ws hperm
    rw [cumulative_perm hperm]
    exact writeHistogram_observeAll format name help plus zero hbounds (hperm.length_eq ▸ hsize)

end distribution

/-- Four observations, one of them on a bound and one above all of them.
Source: `metrics.cpp` `write_histogram` -/
theorem printed_distribution_four :
    writeHistogram decimal (text "seconds") (text "Seconds.")
        (Histogram.observeAll (· + ·) 0 [1, 5, 10] [7, 0, 99, 5]) =
      distributionText decimal (text "seconds") (text "Seconds.") [1, 5, 10] [1, 2, 3, 4] 111 :=
  (printed_distribution decimal (text "seconds") (text "Seconds.") (· + ·) 0 (by decide)
    (by decide)).1

end Hamstercam
