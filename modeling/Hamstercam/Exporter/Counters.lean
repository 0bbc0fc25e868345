import Mathlib.Algebra.Order.Field.Rat
import Hamstercam.Exporter.ProgressParser
import Hamstercam.Lib.Decimal

/-!
# The counters of the producer

* `Counter` — the three counters that a line can set, each with its key.
* `parseU64_eq` — `parse_u64` takes exactly the numerals, and reduces what they denote modulo `2 ^ 64`.
* `feed_line` — what the line `key=s` does to the statistics, for every `s`.
* `CountsExactly` — the line sets the counter to the number that `s` denotes if that is below `2 ^ 64`,
  and does nothing else.
* `counts_exactly_iff` — it does so unless `s` is `Misread`: in one of three ways, of which a number that
  does not fit is one.
-/

namespace Hamstercam

open Lines ProgressParser Decimal

/-! ## `parse_u64` -/

/-- Reading digits goes on from the value so far, in 64 bits.
Source: `progress_parser.cpp` `parse_u64` -/
theorem parseU64Loop_eq (n : Nat) (s : List Byte) :
    parseU64Loop (UInt64.ofNat n) s =
      if s.all isDigit = true then some (UInt64.ofNat (n * 10 ^ s.length + value s)) else none := by
  induction s generalizing n with
  | nil => simp [parseU64Loop]
  | cons c s ih =>
      unfold parseU64Loop
      by_cases hc : isDigit c = true
      · have hrange := isDigit_iff.mp hc
        have hnot : ¬ (c < 48 ∨ 57 < c) := by
          rw [UInt8.lt_iff_toNat_lt, UInt8.lt_iff_toNat_lt]
          show ¬ (c.toNat < 48 ∨ 57 < c.toNat)
          omega
        have hvalue : UInt64.ofNat n * 10 + (c - 48).toUInt64 = UInt64.ofNat (n * 10 + digit c) := by
          rw [UInt64.ofNat_add, UInt64.ofNat_mul, digit, UInt64.ofNat_uInt8ToNat]
          rfl
        have hweight : (n * 10 + digit c) * 10 ^ s.length + value s =
            n * 10 ^ (c :: s).length + value (c :: s) := by
          rw [value_cons, List.length_cons]
          ring
        rw [if_neg hnot, hvalue, ih, hweight]
        simp [hc]
      · have hrange := mt isDigit_iff.mpr hc
        have hout : c < 48 ∨ 57 < c := by
          rw [UInt8.lt_iff_toNat_lt, UInt8.lt_iff_toNat_lt]
          show c.toNat < 48 ∨ 57 < c.toNat
          omega
        rw [if_pos hout, if_neg]
        exact fun hall => hc (List.all_eq_true.mp hall c List.mem_cons_self)

/-- **`parse_u64` takes the numerals**, and keeps 64 bits of what they denote.
Source: `progress_parser.cpp` `parse_u64` -/
theorem parseU64_eq (s : List Byte) : parseU64 s = (denotes s).map UInt64.ofNat := by
  unfold parseU64
  by_cases hnil : s = []
  · rw [if_pos hnil, denotes_of_not_isNumeral fun h => h.1 hnil]
    rfl
  · have hloop := parseU64Loop_eq 0 s
    rw [Nat.zero_mul, Nat.zero_add] at hloop
    rw [if_neg hnil]
    show parseU64Loop (UInt64.ofNat 0) s = _
    rw [hloop]
    by_cases hall : s.all isDigit = true
    · rw [if_pos hall, denotes_of_isNumeral ⟨hnil, List.all_eq_true.mp hall⟩]
      rfl
    · rw [if_neg hall, denotes_of_not_isNumeral fun h => hall (List.all_eq_true.mpr h.2)]
      rfl

/-! ## Lines with a counter -/

/-- The counters that a line can set.
Source: `progress_parser.cpp` `ProgressParser::parse_line` -/
inductive Counter
  | frame
  | dropFrames
  | dupFrames
  deriving DecidableEq

namespace Counter

/-- Source: `progress_parser.cpp` `ProgressParser::parse_line` -/
def key : Counter → List Byte
  | frame => text "frame"
  | dropFrames => text "drop_frames"
  | dupFrames => text "dup_frames"

/-- Source: `progress_parser.cpp` `ProgressParser::parse_line` -/
def toStore {F : Type} : Counter → UInt64 → Store F
  | frame => .framesTotal
  | dropFrames => .droppedFramesTotal
  | dupFrames => .duplicatedFramesTotal

/-- Source: `producer_stats.hpp` `ProducerStats` -/
def get {F : Type} [Zero F] : Counter → ProducerStats F → UInt64
  | frame => ProducerStats.framesTotal
  | dropFrames => ProducerStats.droppedFramesTotal
  | dupFrames => ProducerStats.duplicatedFramesTotal

/-- The line `key=s`. Source: `progress_parser.cpp` `ProgressParser::parse_line` -/
def line (k : Counter) (s : List Byte) : List Byte := k.key ++ equalsSign :: s

end Counter

variable {F : Type} [Zero F] {stod : List Byte → Option (F × Nat)} {k : Counter} {s : List Byte}

/-- Source: none: infrastructure -/
@[simp] theorem get_store (k : Counter) (stats : ProducerStats F) (v : UInt64) :
    k.get (stats.store (k.toStore v)) = v := by
  cases k <;> rfl

/-- No key contains a separator. Source: none: infrastructure -/
theorem notMem_key (k : Counter) : newline ∉ k.key ∧ carriageReturn ∉ k.key ∧ equalsSign ∉ k.key := by
  cases k <;> decide

/-- One `'\r'` at the end of the line is one at the end of the value. Source: none: infrastructure -/
theorem removeSuffix_line (k : Counter) (s : List Byte) :
    removeSuffix carriageReturn (k.line s) = k.line (removeSuffix carriageReturn s) := by
  unfold removeSuffix Counter.line
  rcases List.eq_nil_or_concat' s with rfl | ⟨init, c, rfl⟩
  · simp
    decide
  · have hline : k.key ++ equalsSign :: (init ++ [c]) = (k.key ++ equalsSign :: init) ++ [c] := by simp
    rw [hline, List.getLast?_concat, List.getLast?_concat, List.dropLast_concat, List.dropLast_concat]
    split_ifs
    · rfl
    · exact hline.symm

omit [Zero F] in
/-- The store of the line `key=s`: one `'\r'` at the end is not part of the value.
Source: `progress_parser.cpp` `ProgressParser::parse_line` -/
theorem lineStore_line (now : Int) :
    lineStore stod now (k.line s) =
      (parseU64 (removeSuffix carriageReturn s)).map k.toStore := by
  have hkey : keyValue (k.line s) = some (k.key, removeSuffix carriageReturn s) := by
    have hfind : find (k.line (removeSuffix carriageReturn s)) equalsSign 0 = some (0 + k.key.length) :=
      find_eq_some List.drop_zero (notMem_key k).2.2
    unfold keyValue
    dsimp only
    rw [removeSuffix_line, hfind, Option.map_some]
    simp [Counter.line]
  unfold lineStore
  rw [hkey]
  cases k <;> rfl

/-- **The line `key=s`, fed at the beginning of a line.**
Source: `progress_parser.cpp` `ProgressParser::feed` -/
theorem feed_line {p : ProgressParser F} (hp : p.buffer = []) (hs : newline ∉ s) :
    (p.feed stod (k.line s ++ [newline])).stats =
      if kMaxBufferedLine < (k.line s).length + 1 then p.stats
      else (parseU64 (removeSuffix carriageReturn s)).elim p.stats
        fun v => p.stats.store (k.toStore v) := by
  have hline : newline ∉ k.line s := by
    simp [Counter.line, (notMem_key k).1, hs]
    decide
  rw [feed_eq, hp]
  unfold handed
  rw [List.nil_append, List.length_append, List.length_singleton]
  split_ifs
  · rfl
  · rw [complete_line hline, complete_nil, List.foldl_cons, List.foldl_nil, parseLine_eq, lineStore_line]
    cases parseU64 (removeSuffix carriageReturn s) <;> rfl

/-! ## What counts and what does not -/

/-- The statistics after the line `key=s`, if counters are never corrupted: a numeral of a number below
`2 ^ 64` sets the counter to that number, and nothing else changes anything.
Source: `progress_parser.hpp` `ProgressParser`, `progress_parser_test.cpp`
`UnparseableValueSkipsOnlyThatKey` -/
def Counter.expected (k : Counter) (s : List Byte) (stats : ProducerStats F) : ProducerStats F :=
  match denotes s with
  | some n => if n < 2 ^ 64 then stats.store (k.toStore (UInt64.ofNat n)) else stats
  | none => stats

/-- The line `key=s` is counted exactly, whatever the parser held before.
Source: `progress_parser.hpp` `ProgressParser` -/
def CountsExactly (F : Type) [Zero F] (k : Counter) (s : List Byte) : Prop :=
  ∀ (stod : List Byte → Option (F × Nat)) (p : ProgressParser F), p.buffer = [] →
    (p.feed stod (k.line s ++ [newline])).stats = k.expected s p.stats

/-- The line `key=s`, with its newline, fits into the buffer.
Source: `progress_parser.cpp` `kMaxBufferedLine` -/
def Fits (k : Counter) (s : List Byte) : Prop := (k.line s).length + 1 ≤ kMaxBufferedLine

/-- The values that are not counted exactly.
Source: `progress_parser.cpp` `parse_u64`, `parse_line`, `feed` -/
inductive Misread (k : Counter) (s : List Byte) : Prop
  /-- A numeral of a number that does not fit into 64 bits. -/
  | overflows {n : Nat} (fits : Fits k s) (hs : denotes s = some n) (hn : 2 ^ 64 ≤ n)
  /-- A numeral and the `'\r'` of a line end. -/
  | returns {d : List Byte} (fits : Fits k s) (hs : s = d ++ [carriageReturn]) (hd : IsNumeral d)
  /-- A numeral with more leading zeros than the buffer holds. -/
  | padded {n : Nat} (fits : ¬ Fits k s) (hs : denotes s = some n) (hn : n < 2 ^ 64)

/-- A `'\r'` at the end is removed, and nothing else is.
Source: `progress_parser.cpp` `ProgressParser::parse_line` -/
theorem removeSuffix_cases (c : Byte) (s : List Byte) :
    removeSuffix c s = s ∨ s = removeSuffix c s ++ [c] := by
  unfold removeSuffix
  by_cases h : s.getLast? = some c
  · rw [if_pos h]
    exact .inr (List.dropLast_append_getLast? c h).symm
  · rw [if_neg h]
    exact .inl rfl

/-- A value that ends in `'\r'` is not a numeral. Source: none: infrastructure -/
theorem denotes_return (d : List Byte) : denotes (d ++ [carriageReturn]) = none := by
  apply denotes_of_not_isNumeral
  intro h
  have hreturn := h.2 carriageReturn (by simp)
  cases hreturn

/-- Where nothing is to be counted, nothing is expected to change. Source: none: infrastructure -/
theorem expected_of_none (hs : denotes s = none) (stats : ProducerStats F) :
    k.expected s stats = stats := by
  rw [Counter.expected, hs]

/-- A number that fits is expected in its counter. Source: none: infrastructure -/
theorem expected_of_lt {n : Nat} (hs : denotes s = some n) (hn : n < 2 ^ 64) (stats : ProducerStats F) :
    k.expected s stats = stats.store (k.toStore (UInt64.ofNat n)) := by
  rw [Counter.expected, hs]
  exact if_pos hn

/-- A number that does not fit is expected to change nothing. Source: none: infrastructure -/
theorem expected_of_le {n : Nat} (hs : denotes s = some n) (hn : 2 ^ 64 ≤ n) (stats : ProducerStats F) :
    k.expected s stats = stats := by
  rw [Counter.expected, hs]
  exact if_neg (Nat.not_lt.mpr hn)

/-- What is counted cannot be what was expected to stay, whatever the counter held before.
Source: none: infrastructure -/
theorem exists_store_ne (F : Type) [Zero F] (k : Counter) (v : UInt64) :
    ∃ stats : ProducerStats F, stats.store (k.toStore v) ≠ stats := by
  refine ⟨({} : ProducerStats F).store (k.toStore (v + 1)), ?_⟩
  intro heq
  have hget := congrArg k.get heq
  rw [get_store, get_store] at hget
  simp at hget

/-- A line that fits, and whose value is none to be counted, is not counted exactly if the value less the
`'\r'` is a numeral. Source: `progress_parser.cpp` `parse_u64`, `parse_line` -/
theorem not_countsExactly_of_fits {n : Nat} (hs : newline ∉ s) (fits : Fits k s)
    (hvalue : denotes (removeSuffix carriageReturn s) = some n)
    (hexpected : ∀ stats : ProducerStats F, k.expected s stats = stats) : ¬ CountsExactly F k s := by
  intro hcounts
  obtain ⟨stats, hne⟩ := exists_store_ne F k (UInt64.ofNat n)
  have hfeed := hcounts (fun _ => none) { stats := stats, clock := fun _ => 0 } rfl
  rw [feed_line rfl hs, if_neg (Nat.not_lt.mpr fits), parseU64_eq, hvalue, hexpected] at hfeed
  exact hne hfeed

/-- **Counters are never corrupted, but for three kinds of values.**
Source: `progress_parser.cpp` `parse_u64`, `ProgressParser::parse_line`, `ProgressParser::feed` -/
theorem counts_exactly_iff (F : Type) [Zero F] (k : Counter) {s : List Byte} (hs : newline ∉ s) :
    CountsExactly F k s ↔ ¬ Misread k s := by
  constructor
  · intro hcounts hmisread
    cases hmisread with
    | @overflows n fits hvalue hn =>
        refine not_countsExactly_of_fits (n := n) hs fits ?_ (expected_of_le hvalue hn) hcounts
        rcases removeSuffix_cases carriageReturn s with hsame | hcut
        · rw [hsame]
          exact hvalue
        · rw [hcut, denotes_return] at hvalue
          cases hvalue
    | @returns d fits hcut hd =>
        subst hcut
        refine not_countsExactly_of_fits (n := value d) hs fits ?_
          (expected_of_none (denotes_return d)) hcounts
        have hsame : removeSuffix carriageReturn (d ++ [carriageReturn]) = d := by
          simp [removeSuffix]
        rw [hsame]
        exact denotes_of_isNumeral hd
    | @padded n hfits hvalue hn =>
        obtain ⟨stats, hne⟩ := exists_store_ne F k (UInt64.ofNat n)
        have hfeed := hcounts (fun _ => none) { stats := stats, clock := fun _ => 0 } rfl
        rw [feed_line rfl hs, if_pos (Nat.not_le.mp hfits), expected_of_lt hvalue hn] at hfeed
        exact hne hfeed.symm
  · intro hread stod p hp
    rw [feed_line hp hs, parseU64_eq]
    by_cases hfits : Fits k s
    · rw [if_neg (Nat.not_lt.mpr hfits)]
      rcases removeSuffix_cases carriageReturn s with hsame | hcut
      · rw [hsame]
        rcases hvalue : denotes s with _ | n
        · rw [expected_of_none hvalue]
          rfl
        · have hn : n < 2 ^ 64 := Nat.not_le.mp fun hn => hread (.overflows hfits hvalue hn)
          rw [expected_of_lt hvalue hn]
          rfl
      · have hnone : denotes (removeSuffix carriageReturn s) = none :=
          denotes_of_not_isNumeral fun hd => hread (.returns hfits hcut hd)
        have hreturn : denotes s = none := by
          rw [hcut]
          exact denotes_return _
        rw [hnone, expected_of_none hreturn]
        rfl
    · rw [if_pos (Nat.not_le.mp hfits)]
      rcases hvalue : denotes s with _ | n
      · rw [expected_of_none hvalue]
      · have hn : 2 ^ 64 ≤ n := Nat.not_lt.mp fun hn => hread (.padded hfits hvalue hn)
        rw [expected_of_le hvalue hn]

/-- The line `frame=17`. Source: none: infrastructure -/
theorem counts_exactly_seventeen : CountsExactly ℚ .frame (text "17") ↔ ¬ Misread .frame (text "17") :=
  counts_exactly_iff ℚ .frame (by decide)

/-- **A number that does not fit corrupts its counter**: `frame=18446744073709551617` sets it to one.
Source: `progress_parser.cpp` `parse_u64` -/
theorem overflow_not_counted : ¬ CountsExactly ℚ .frame (text "18446744073709551617") := by
  intro hcounts
  have hfeed := congrArg ProducerStats.framesTotal (hcounts (fun _ => none) (.new {} fun _ => 0) rfl)
  rw [feed_line rfl (by decide)] at hfeed
  revert hfeed
  decide

end Hamstercam
