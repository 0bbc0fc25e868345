import Mathlib.Data.UInt
import Hamstercam.Lib.Lines
import Hamstercam.Text

/-!
# The progress parser

`ProgressParser`, translated from `progress_parser.cpp`, with the `ProducerStats` it stores into.

* Text is a list of bytes. `stod` stands for `std::stod`: a value and the number of bytes read, or
  `none` where it throws; the doubles are an arbitrary type `F`. The clock is the sequence of the
  readings of `wall_now()` that are still to come.
* `lineStore` is the store that `parse_line` makes for a line, `parseLine` makes it, and `feed` cuts
  the buffer into lines with an index as the source does. `parsed` and `stored` record what the parser
  did; nothing reads them.
* `feedLoop_eq` says what the index loop does in terms of `Lines.complete` and `Lines.pending`, and
  `feed_eq`, `feedAll_eq` say what one call of `feed` and a sequence of calls do: they parse the lines
  `handed` over and leave the bytes `kept`.
-/

namespace Hamstercam

open Lines

/-! ## Text -/

/-- `'\r'`. Source: `progress_parser.cpp` -/
abbrev carriageReturn : Byte := 13

/-- `'='`. Source: `progress_parser.cpp` -/
abbrev equalsSign : Byte := 61

/-- `std::string::find(c, pos)`; `none` is `npos`.
Source: `progress_parser.cpp` -/
def find (s : List Byte) (c : Byte) (pos : Nat) : Option Nat :=
  ((s.drop pos).idxOf? c).map (· + pos)

/-- Where a search ends. Source: none: infrastructure -/
theorem find_bounds {s : List Byte} {c : Byte} {pos i : Nat} (h : find s c pos = some i) :
    pos ≤ i ∧ i < s.length := by
  obtain ⟨j, hj, rfl⟩ := Option.map_eq_some_iff.mp h
  have hlt : j < (s.drop pos).length := (List.idxOf?_eq_some_iff.mp hj).1
  rw [List.length_drop] at hlt
  omega

/-- Source: none: infrastructure -/
theorem find_eq_none {s : List Byte} {c : Byte} {pos : Nat} (h : c ∉ s.drop pos) :
    find s c pos = none := by
  rw [find, List.idxOf?_eq_none_iff.mpr h, Option.map_none]

/-- A search ends at the first occurrence. Source: none: infrastructure -/
theorem find_eq_some {s l rest : List Byte} {c : Byte} {pos : Nat} (h : s.drop pos = l ++ c :: rest)
    (hl : c ∉ l) : find s c pos = some (pos + l.length) := by
  have hidx : (l ++ c :: rest).idxOf? c = some l.length := by
    rw [List.idxOf?_eq_some_iff]
    refine ⟨by simp, by simp, fun i hi => ?_⟩
    rw [List.getElem_append_left hi]
    exact fun he => hl (he ▸ List.getElem_mem hi)
  rw [find, h, hidx, Option.map_some, Nat.add_comm]

/-- `std::string_view::substr(pos, count)`.
Source: `progress_parser.cpp` -/
def substr (s : List Byte) (pos count : Nat) : List Byte := (s.drop pos).take count

/-- `remove_suffix(1)` where the last byte is `c`.
Source: `progress_parser.cpp` `ProgressParser::parse_line` -/
def removeSuffix (c : Byte) (s : List Byte) : List Byte := if s.getLast? = some c then s.dropLast else s

/-! ## Numbers -/

/-- The loop of `parse_u64`, with the value so far. A byte outside `'0'..'9'` fails both as a signed
and as an unsigned `char`. Source: `progress_parser.cpp` `parse_u64` -/
def parseU64Loop (value : UInt64) : List Byte → Option UInt64
  | [] => some value
  | c :: s => if c < 48 ∨ 57 < c then none else parseU64Loop (value * 10 + (c - 48).toUInt64) s

/-- Source: `progress_parser.cpp` `parse_u64` -/
def parseU64 (s : List Byte) : Option UInt64 := if s = [] then none else parseU64Loop 0 s

section parser

variable {F : Type}

/-- Source: `progress_parser.cpp` `parse_double` -/
def parseDouble (stod : List Byte → Option (F × Nat)) (s : List Byte) : Option F :=
  if s = [] then none
  else match stod s with
    | some (v, pos) => if pos ≠ s.length then none else some v
    | none => none

/-! ## The producer's statistics -/

variable [Zero F]

/-- Source: `producer_stats.hpp` `ProducerStats` -/
structure ProducerStats (F : Type) [Zero F] where
  /-- `frames_total` -/
  framesTotal : UInt64 := 0
  /-- `fps` -/
  fps : F := 0
  /-- `dropped_frames_total` -/
  droppedFramesTotal : UInt64 := 0
  /-- `duplicated_frames_total` -/
  duplicatedFramesTotal : UInt64 := 0
  /-- `speed_ratio` -/
  speedRatio : F := 0
  /-- `connected` -/
  connected : Bool := false
  /-- `last_update_unixtime` -/
  lastUpdateUnixtime : Int := 0
  deriving DecidableEq

/-- A store of `parse_line`: the field and the value.
Source: `progress_parser.cpp` `ProgressParser::parse_line` -/
inductive Store (F : Type)
  | framesTotal (v : UInt64)
  | fps (v : F)
  | droppedFramesTotal (v : UInt64)
  | duplicatedFramesTotal (v : UInt64)
  | speedRatio (v : F)
  | lastUpdateUnixtime (v : Int)
  deriving DecidableEq

/-- What `last_update_unixtime` is set to, by a store into it. Source: none: infrastructure -/
def Store.update? : Store F → Option Int
  | .lastUpdateUnixtime v => some v
  | _ => none

/-- Source: `progress_parser.cpp` `ProgressParser::parse_line` -/
def ProducerStats.store (s : ProducerStats F) : Store F → ProducerStats F
  | .framesTotal v => { s with framesTotal := v }
  | .fps v => { s with fps := v }
  | .droppedFramesTotal v => { s with droppedFramesTotal := v }
  | .duplicatedFramesTotal v => { s with duplicatedFramesTotal := v }
  | .speedRatio v => { s with speedRatio := v }
  | .lastUpdateUnixtime v => { s with lastUpdateUnixtime := v }

/-! ## One line -/

/-- The key and the value of a line, one `'\r'` at its end removed; `none` without an `'='`.
Source: `progress_parser.cpp` `ProgressParser::parse_line` -/
def keyValue (line : List Byte) : Option (List Byte × List Byte) :=
  let line := removeSuffix carriageReturn line
  (find line equalsSign 0).map fun eq => (line.take eq, line.drop (eq + 1))

/-- A double that is not `N/A`.
Source: `progress_parser.cpp` `ProgressParser::parse_line` (`fps`, `speed`) -/
def parseReading (stod : List Byte → Option (F × Nat)) (value : List Byte) : Option F :=
  if value ≠ text "N/A" then parseDouble stod value else none

/-- The store that `parse_line` makes for a line, if it makes one, when the clock reads `now`.
Source: `progress_parser.cpp` `ProgressParser::parse_line` -/
def lineStore (stod : List Byte → Option (F × Nat)) (now : Int) (line : List Byte) :
    Option (Store F) :=
  match keyValue line with
  | none => none
  | some (key, value) =>
      if key = text "frame" then (parseU64 value).map Store.framesTotal
      else if key = text "fps" then (parseReading stod value).map Store.fps
      else if key = text "drop_frames" then (parseU64 value).map Store.droppedFramesTotal
      else if key = text "dup_frames" then (parseU64 value).map Store.duplicatedFramesTotal
      else if key = text "speed" then
        (parseReading stod (removeSuffix 120 value)).map Store.speedRatio
      else if key = text "progress" then some (.lastUpdateUnixtime (durationCastSeconds now))
      else none

/-! ## The parser -/

/-- Source: `progress_parser.hpp` `ProgressParser` -/
structure ProgressParser (F : Type) [Zero F] where
  /-- `stats_` -/
  stats : ProducerStats F
  /-- `clock_`: the readings of `wall_now()` still to come, in nanoseconds since the epoch. -/
  clock : Nat → Int
  /-- `buffer_` -/
  buffer : List Byte := []
  /-- Every line handed to `parse_line` so far. -/
  parsed : List (List Byte) := []
  /-- Every store made so far. -/
  stored : List (Store F) := []

/-- Source: `progress_parser.cpp` `kMaxBufferedLine` -/
def kMaxBufferedLine : Nat := 65536

namespace ProgressParser

/-- Source: `progress_parser.hpp` `ProgressParser::ProgressParser` -/
def new (stats : ProducerStats F) (clock : Nat → Int) : ProgressParser F :=
  { stats := stats, clock := clock }

/-- Store into the statistics. A store into `last_update_unixtime` takes a reading of the clock.
Source: `progress_parser.cpp` `ProgressParser::parse_line` -/
def store (p : ProgressParser F) (w : Store F) : ProgressParser F :=
  { p with
    stats := p.stats.store w
    clock := if w.update?.isSome then fun i => p.clock (i + 1) else p.clock
    stored := p.stored ++ [w] }

variable (stod : List Byte → Option (F × Nat))

/-- Source: `progress_parser.cpp` `ProgressParser::parse_line` -/
def parseLine (p : ProgressParser F) (line : List Byte) : ProgressParser F :=
  let p := { p with parsed := p.parsed ++ [line] }
  match lineStore stod (p.clock 0) line with
  | some w => p.store w
  | none => p

/-- The loop of `feed` over the buffer, from index `consumed` on.
Source: `progress_parser.cpp` `ProgressParser::feed` -/
def feedLoop (buffer : List Byte) (p : ProgressParser F) (consumed : Nat) : ProgressParser F × Nat :=
  match h : find buffer newline consumed with
  | none => (p, consumed)
  | some nl => feedLoop buffer (p.parseLine stod (substr buffer consumed (nl - consumed))) (nl + 1)
termination_by buffer.length - consumed
decreasing_by
  have := find_bounds h
  omega

/-- Source: `progress_parser.cpp` `ProgressParser::feed` -/
def feed (p : ProgressParser F) (chunk : List Byte) : ProgressParser F :=
  let p := { p with buffer := p.buffer ++ chunk }
  if kMaxBufferedLine < p.buffer.length then { p with buffer := [] }
  else
    let (p, consumed) := feedLoop stod p.buffer p 0
    { p with buffer := p.buffer.drop consumed }

/-- A sequence of calls of `feed`. Source: none: infrastructure -/
def feedAll (p : ProgressParser F) (chunks : List (List Byte)) : ProgressParser F :=
  chunks.foldl (feed stod) p

/-! ## What the calls do -/

variable {stod} {p : ProgressParser F} {line chunk buffer : List Byte} {consumed : Nat}

/-- Source: none: infrastructure -/
theorem parseLine_eq : p.parseLine stod line =
    let made := lineStore stod (p.clock 0) line
    { p with
      stats := made.elim p.stats p.stats.store
      clock := if (made.bind Store.update?).isSome then fun i => p.clock (i + 1) else p.clock
      parsed := p.parsed ++ [line]
      stored := p.stored ++ made.toList } := by
  simp only [parseLine]
  cases lineStore stod (p.clock 0) line with
  | none => simp
  | some w => simp [store]

/-- `parse_line` does not touch the buffer. Source: none: infrastructure -/
theorem parseLine_withBuffer (b : List Byte) :
    ({ p with buffer := b } : ProgressParser F).parseLine stod line =
      { p.parseLine stod line with buffer := b } := by
  simp only [parseLine_eq]

/-- Source: none: infrastructure -/
theorem parseLines_withBuffer (b : List Byte) (lines : List (List Byte)) :
    lines.foldl (parseLine stod) { p with buffer := b } =
      { lines.foldl (parseLine stod) p with buffer := b } := by
  induction lines generalizing p with
  | nil => rfl
  | cons line lines ih => rw [List.foldl_cons, List.foldl_cons, parseLine_withBuffer, ih]

/-- **The index loop.** It hands over the complete lines, and stops where the pending line begins.
Source: none: infrastructure -/
theorem feedLoop_eq (h : consumed ≤ buffer.length) : feedLoop stod buffer p consumed =
    ((complete newline (buffer.drop consumed)).foldl (parseLine stod) p,
      buffer.length - (pending newline (buffer.drop consumed)).length) := by
  induction hrest : buffer.drop consumed using line_induction newline generalizing p consumed with
  | tail rest hnl =>
      have hfind : find buffer newline consumed = none := find_eq_none (hrest ▸ hnl)
      have hlen : rest.length = buffer.length - consumed := by rw [← hrest, List.length_drop]
      unfold feedLoop
      rw [complete_of_not_mem hnl, pending_of_not_mem hnl]
      split
      · rw [List.foldl_nil, hlen, Nat.sub_sub_self h]
      · simp_all
  | line l rest hnl ih =>
      have hfind := find_eq_some hrest hnl
      have hdrop : buffer.drop (consumed + l.length + 1) = rest := by
        rw [Nat.add_assoc, ← List.drop_drop, hrest, List.drop_append, Nat.add_sub_cancel_left]
        simp
      have hsub : substr buffer consumed (consumed + l.length - consumed) = l := by
        rw [substr, hrest, Nat.add_sub_cancel_left, List.take_left]
      have hlen := (find_bounds hfind).2
      unfold feedLoop
      split
      · simp_all
      · next nl hnl' =>
          obtain rfl : consumed + l.length = nl := Option.some.inj (hfind.symm.trans hnl')
          rw [hsub, ih (by omega) hdrop, complete_line hnl, pending_line, List.foldl_cons]

/-- The lines that a call of `feed` hands over. Source: none: infrastructure -/
def handed (buffer chunk : List Byte) : List (List Byte) :=
  if kMaxBufferedLine < (buffer ++ chunk).length then [] else complete newline (buffer ++ chunk)

/-- What a call of `feed` leaves in the buffer. Source: none: infrastructure -/
def kept (buffer chunk : List Byte) : List Byte :=
  if kMaxBufferedLine < (buffer ++ chunk).length then [] else pending newline (buffer ++ chunk)

/-- **One call of `feed`** parses the lines it hands over, and keeps the rest.
Source: none: infrastructure -/
theorem feed_eq : p.feed stod chunk =
    { (handed p.buffer chunk).foldl (parseLine stod) p with buffer := kept p.buffer chunk } := by
  have hdrop : (p.buffer ++ chunk).drop
      ((p.buffer ++ chunk).length - (pending newline (p.buffer ++ chunk)).length) =
        pending newline (p.buffer ++ chunk) :=
    (List.suffix_iff_eq_drop.mp pending_suffix).symm
  unfold feed handed kept
  dsimp only
  split_ifs
  · rfl
  · rw [feedLoop_eq (Nat.zero_le _), List.drop_zero]
    simp only [parseLines_withBuffer, hdrop]

/-- The buffer holds no newline between two calls. Source: none: infrastructure -/
theorem newline_notMem_kept : newline ∉ kept buffer chunk := by
  unfold kept
  split_ifs
  · exact List.not_mem_nil
  · exact not_mem_pending

section calls

variable {chunks : List (List Byte)}

/-- What a sequence of calls leaves in the buffer. Source: none: infrastructure -/
def keptAll (buffer : List Byte) (chunks : List (List Byte)) : List Byte := chunks.foldl kept buffer

/-- The lines that a sequence of calls hands over. Source: none: infrastructure -/
def handedAll (buffer : List Byte) : List (List Byte) → List (List Byte)
  | [] => []
  | chunk :: chunks => handed buffer chunk ++ handedAll (kept buffer chunk) chunks

/-- **A sequence of calls.** Source: none: infrastructure -/
theorem feedAll_eq : feedAll stod p chunks =
    { (handedAll p.buffer chunks).foldl (parseLine stod) p with
      buffer := keptAll p.buffer chunks } := by
  induction chunks generalizing p with
  | nil => rfl
  | cons chunk chunks ih =>
      have hfeed : feedAll stod p (chunk :: chunks) = feedAll stod (p.feed stod chunk) chunks := rfl
      rw [hfeed, ih, feed_eq, handedAll, List.foldl_append]
      simp only [parseLines_withBuffer]
      rfl

/-- Source: none: infrastructure -/
theorem handedAll_append (chunks later : List (List Byte)) : handedAll buffer (chunks ++ later) =
    handedAll buffer chunks ++ handedAll (keptAll buffer chunks) later := by
  induction chunks generalizing buffer with
  | nil => rfl
  | cons chunk chunks ih =>
      rw [List.cons_append, handedAll, handedAll, ih, List.append_assoc]
      rfl

/-- Source: none: infrastructure -/
theorem keptAll_append (chunks later : List (List Byte)) :
    keptAll buffer (chunks ++ later) = keptAll (keptAll buffer chunks) later :=
  List.foldl_append

/-- `parsed` records the lines. Source: none: infrastructure -/
theorem parseLines_parsed {ls : List (List Byte)} :
    (ls.foldl (parseLine stod) p).parsed = p.parsed ++ ls := by
  induction ls generalizing p with
  | nil => simp
  | cons line ls ih => simp [ih, parseLine_eq]

end calls

end ProgressParser

end parser

end Hamstercam
