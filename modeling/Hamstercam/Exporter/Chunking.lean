import Mathlib.Algebra.Order.Field.Rat
import Hamstercam.Exporter.ProgressParser
import Hamstercam.Lib.Runs

/-!
# Parsing does not depend on chunking

* `metric key accept line` — the value that a line gives the metric `key`, if it does, and
  `lastWriter f lines initial` — the last value that `f` finds in the lines.
* `lineStore_elim` — the seven ways through `parse_line`; `lineStore_stats` is the store of one line,
  read as one value for each metric.
* `WithinCap` — no call of `feed` takes the buffer past the cap. Then the calls together hand over the
  complete lines of the whole stream, `calls_within`, and what they leave is `chunking_independent`.
-/

namespace Hamstercam

open Lines Interaction ProgressParser

/-! ## The last writer -/

/-- The last value that `f` finds, or `initial`. Source: none: infrastructure -/
def lastWriter {χ V : Type} (f : χ → Option V) (xs : List χ) (initial : V) : V :=
  (xs.filterMap f).getLast?.getD initial

/-- One more step overwrites the value or leaves it. Source: none: infrastructure -/
theorem lastWriter_snoc {χ V : Type} (f : χ → Option V) (xs : List χ) (x : χ) (initial : V) :
    lastWriter f (xs ++ [x]) initial = (f x).getD (lastWriter f xs initial) := by
  rw [lastWriter, lastWriter, List.filterMap_append]
  rcases hx : f x with _ | v
  · simp [hx]
  · simp [hx]

/-! ## What a line says -/

variable {F V : Type} {line : List Byte}

/-- The value that a line gives the metric `key`: its key is exactly that one, and `accept` takes its
value. Source: `progress_parser.cpp` `ProgressParser::parse_line` -/
def metric (key : String) (accept : List Byte → Option V) (line : List Byte) : Option V :=
  match keyValue line with
  | some (k, value) => if k = text key then accept value else none
  | none => none

/-- The value of `speed`: one `'x'` at the end is dropped.
Source: `progress_parser.cpp` `ProgressParser::parse_line` -/
def parseSpeed (stod : List Byte → Option (F × Nat)) (value : List Byte) : Option F :=
  parseReading stod (removeSuffix 120 value)

/-- The keys of `parse_line` are different. Source: none: infrastructure -/
theorem keys_nodup :
    (["frame", "fps", "drop_frames", "dup_frames", "speed", "progress"].map text).Nodup := by
  decide

variable [Zero F] {stod : List Byte → Option (F × Nat)}

omit [Zero F] in
/-- **A line gives a value to at most the one metric that its key names.** What holds of every such
store, with no value for the other metrics, holds of the store of a line and the metrics of the line.
Source: none: infrastructure -/
theorem lineStore_elim {motive : Option (Store F) → Option UInt64 → Option F → Option UInt64 →
      Option UInt64 → Option F → Option (List Byte) → Prop}
    (now : Int) (line : List Byte) (other : motive none none none none none none none)
    (frame : ∀ v, motive (v.map .framesTotal) v none none none none none)
    (fps : ∀ v, motive (v.map .fps) none v none none none none)
    (drop : ∀ v, motive (v.map .droppedFramesTotal) none none v none none none)
    (dup : ∀ v, motive (v.map .duplicatedFramesTotal) none none none v none none)
    (speed : ∀ v, motive (v.map .speedRatio) none none none none v none)
    (progress : ∀ v, motive (some (.lastUpdateUnixtime (durationCastSeconds now)))
      none none none none none (some v)) :
    motive (lineStore stod now line) (metric "frame" parseU64 line)
      (metric "fps" (parseReading stod) line) (metric "drop_frames" parseU64 line)
      (metric "dup_frames" parseU64 line) (metric "speed" (parseSpeed stod) line)
      (metric "progress" some line) := by
  have hkeys := keys_nodup
  simp only [List.map_cons, List.map_nil, List.nodup_cons, List.mem_cons, List.not_mem_nil, not_or,
    or_false, not_false_eq_true, List.nodup_nil, and_true] at hkeys
  unfold lineStore metric
  rcases keyValue line with _ | ⟨key, value⟩
  · exact other
  · dsimp only
    -- the keys are different, so the first one that matches is the only one
    by_cases hframe : key = text "frame"
    · simp only [hframe, hkeys, if_true, if_false]
      exact frame _
    simp only [if_neg hframe]
    by_cases hfps : key = text "fps"
    · simp only [hfps, hkeys, if_true, if_false]
      exact fps _
    simp only [if_neg hfps]
    by_cases hdrop : key = text "drop_frames"
    · simp only [hdrop, hkeys, if_true, if_false]
      exact drop _
    simp only [if_neg hdrop]
    by_cases hdup : key = text "dup_frames"
    · simp only [hdup, hkeys, if_true, if_false]
      exact dup _
    simp only [if_neg hdup]
    by_cases hspeed : key = text "speed"
    · simp only [hspeed, hkeys, if_true, if_false]
      exact speed _
    simp only [if_neg hspeed]
    by_cases hprogress : key = text "progress"
    · simp only [hprogress, if_true]
      exact progress _
    simp only [if_neg hprogress]
    exact other

/-- The store of a line, metric by metric. Source: none: infrastructure -/
theorem lineStore_stats (now : Int) (s : ProducerStats F) :
    (lineStore stod now line).elim s s.store = { s with
      framesTotal := (metric "frame" parseU64 line).getD s.framesTotal
      fps := (metric "fps" (parseReading stod) line).getD s.fps
      droppedFramesTotal := (metric "drop_frames" parseU64 line).getD s.droppedFramesTotal
      duplicatedFramesTotal := (metric "dup_frames" parseU64 line).getD s.duplicatedFramesTotal
      speedRatio := (metric "speed" (parseSpeed stod) line).getD s.speedRatio
      lastUpdateUnixtime := ((metric "progress" some line).map fun _ =>
        durationCastSeconds now).getD s.lastUpdateUnixtime } := by
  apply lineStore_elim (motive := fun made frame fps drop dup speed progress =>
    made.elim s s.store = { s with
      framesTotal := frame.getD s.framesTotal
      fps := fps.getD s.fps
      droppedFramesTotal := drop.getD s.droppedFramesTotal
      duplicatedFramesTotal := dup.getD s.duplicatedFramesTotal
      speedRatio := speed.getD s.speedRatio
      lastUpdateUnixtime :=
        (progress.map fun _ => durationCastSeconds now).getD s.lastUpdateUnixtime }) now line
  case other => rfl
  case progress => exact fun _ => rfl
  all_goals
    rintro (_ | v) <;> rfl

omit [Zero F] in
/-- The clock is read for the lines with the key `progress`. Source: none: infrastructure -/
theorem lineStore_update (now : Int) : (lineStore stod now line).bind Store.update? =
    (metric "progress" some line).map fun _ => durationCastSeconds now := by
  apply lineStore_elim (motive := fun made _ _ _ _ _ progress =>
    made.bind Store.update? = progress.map fun _ => durationCastSeconds now) now line
  case other => rfl
  case progress => exact fun _ => rfl
  all_goals
    rintro (_ | v) <;> rfl

/-! ## Many lines -/

section lines

variable {p : ProgressParser F} {ls : List (List Byte)}

/-- How many lines have the key `progress`. Source: none: infrastructure -/
def progressCount (ls : List (List Byte)) : Nat := (ls.filterMap (metric "progress" some)).length

/-- The first `n` readings of a clock, in seconds. Source: none: infrastructure -/
def updates (clock : Nat → Int) (n : Nat) : List Int :=
  (List.range n).map fun i => durationCastSeconds (clock i)

/-- Source: none: infrastructure -/
theorem updates_succ (clock : Nat → Int) (n : Nat) :
    updates clock (n + 1) = updates clock n ++ [durationCastSeconds (clock n)] := by
  rw [updates, List.range_succ, List.map_append]
  rfl

/-- Source: none: infrastructure -/
theorem progressCount_snoc (line : List Byte) : progressCount (ls ++ [line]) =
    progressCount ls + if (metric "progress" some line).isSome then 1 else 0 := by
  rw [progressCount, List.filterMap_append, List.length_append, progressCount]
  rcases h : metric "progress" some line with _ | v
  · simp [h]
  · simp [h]

/-- Source: none: infrastructure -/
theorem parseLines_snoc (line : List Byte) : (ls ++ [line]).foldl (parseLine stod) p =
    (ls.foldl (parseLine stod) p).parseLine stod line := by
  rw [List.foldl_append, List.foldl_cons, List.foldl_nil]

/-- Every line with the key `progress` takes one reading of the clock. Source: none: infrastructure -/
theorem parseLines_clock :
    (ls.foldl (parseLine stod) p).clock = fun i => p.clock (i + progressCount ls) := by
  induction ls using List.reverseRecOn with
  | nil => rfl
  | append_singleton ls line ih =>
      rw [parseLines_snoc, parseLine_eq, progressCount_snoc]
      simp only [lineStore_update, Option.isSome_map, ih]
      split_ifs
      · funext i
        rw [Nat.add_right_comm, Nat.add_assoc]
      · rfl

/-- **Every line with the key `progress` is stored once**, as the next reading of the clock.
Source: none: infrastructure -/
theorem parseLines_updates : (ls.foldl (parseLine stod) p).stored.filterMap Store.update? =
    p.stored.filterMap Store.update? ++ updates p.clock (progressCount ls) := by
  induction ls using List.reverseRecOn with
  | nil => simp [progressCount, updates]
  | append_singleton ls line ih =>
      have hopt : ∀ made : Option (Store F),
          made.toList.filterMap Store.update? = (made.bind Store.update?).toList := by
        rintro (_ | w)
        · rfl
        · rcases h : w.update? with _ | v <;> simp [h]
      rw [parseLines_snoc, parseLine_eq, progressCount_snoc]
      simp only [List.filterMap_append, ih, hopt, lineStore_update, parseLines_clock]
      rcases metric "progress" some line with _ | v
      · simp
      · simp [updates_succ]

/-- **The last writer wins**, for each metric on its own. Source: none: infrastructure -/
theorem parseLines_stats : (ls.foldl (parseLine stod) p).stats = { p.stats with
    framesTotal := lastWriter (metric "frame" parseU64) ls p.stats.framesTotal
    fps := lastWriter (metric "fps" (parseReading stod)) ls p.stats.fps
    droppedFramesTotal := lastWriter (metric "drop_frames" parseU64) ls p.stats.droppedFramesTotal
    duplicatedFramesTotal :=
      lastWriter (metric "dup_frames" parseU64) ls p.stats.duplicatedFramesTotal
    speedRatio := lastWriter (metric "speed" (parseSpeed stod)) ls p.stats.speedRatio
    lastUpdateUnixtime :=
      (updates p.clock (progressCount ls)).getLast?.getD p.stats.lastUpdateUnixtime } := by
  induction ls using List.reverseRecOn with
  | nil => rfl
  | append_singleton ls line ih =>
      rw [parseLines_snoc, parseLine_eq, progressCount_snoc]
      simp only [lineStore_stats, ih, lastWriter_snoc, parseLines_clock, Nat.zero_add]
      rcases metric "progress" some line with _ | v
      · simp
      · simp [updates_succ]

end lines

/-! ## Many chunks -/

section chunks

variable {p : ProgressParser F} {chunks : List (List Byte)} {stats : ProducerStats F}
  {clock : Nat → Int}

/-- No call of `feed` takes the buffer past the cap.
Source: `progress_parser.cpp` `kMaxBufferedLine` -/
def WithinCap (stod : List Byte → Option (F × Nat)) (p : ProgressParser F)
    (chunks : List (List Byte)) : Prop :=
  AtEach (fun before chunk => ((feedAll stod p before).buffer ++ chunk).length ≤ kMaxBufferedLine)
    chunks

/-- **Within the cap, the calls together are one call with the whole stream and no cap.**
Source: none: infrastructure -/
theorem calls_within (h : WithinCap stod p chunks) (hp : newline ∉ p.buffer) :
    handedAll p.buffer chunks = complete newline (p.buffer ++ chunks.flatten) ∧
      keptAll p.buffer chunks = pending newline (p.buffer ++ chunks.flatten) := by
  induction chunks generalizing p with
  | nil =>
      rw [List.flatten_nil, List.append_nil, complete_of_not_mem hp, pending_of_not_mem hp]
      exact ⟨rfl, rfl⟩
  | cons chunk chunks ih =>
      obtain ⟨hchunk, hrest⟩ := atEach_cons.mp h
      have hin : ¬ kMaxBufferedLine < (p.buffer ++ chunk).length := Nat.not_lt.mpr hchunk
      have hhanded : handed p.buffer chunk = complete newline (p.buffer ++ chunk) := if_neg hin
      have hkept : kept p.buffer chunk = pending newline (p.buffer ++ chunk) := if_neg hin
      have hbuffer : (p.feed stod chunk).buffer = pending newline (p.buffer ++ chunk) := by
        rw [feed_eq, hkept]
      have hnext := ih (p := p.feed stod chunk) hrest (hbuffer ▸ not_mem_pending)
      rw [hbuffer] at hnext
      rw [List.flatten_cons, ← List.append_assoc, complete_append (p.buffer ++ chunk),
        pending_append (p.buffer ++ chunk), ← hnext.1, ← hnext.2, ← hhanded, ← hkept]
      exact ⟨rfl, rfl⟩

/-- Source: none: infrastructure -/
theorem withinCap_snoc {chunk : List Byte} : WithinCap stod p (chunks ++ [chunk]) ↔
    WithinCap stod p chunks ∧
      ((feedAll stod p chunks).buffer ++ chunk).length ≤ kMaxBufferedLine := by
  simp [WithinCap, atEach_append]

/-- Chunks of at most 4096 bytes, in a stream whose lines are not too long, stay within the cap.
Source: none: infrastructure -/
theorem withinCap_of_bounds (hp : p.buffer = []) (hchunk : ∀ chunk ∈ chunks, chunk.length ≤ 4096)
    (hline : ∀ run, run <:+: chunks.flatten → newline ∉ run → run.length ≤ 61440) :
    WithinCap stod p chunks := by
  induction chunks using List.reverseRecOn with
  | nil => exact atEach_nil
  | append_singleton chunks chunk ih =>
      rw [List.flatten_append] at hline
      have hinit : WithinCap stod p chunks := by
        apply ih
        · intro c hc
          exact hchunk c (List.mem_append_left _ hc)
        · intro run hrun
          exact hline run (hrun.trans (List.prefix_append _ _).isInfix)
      have hbuffer : (feedAll stod p chunks).buffer = pending newline chunks.flatten := by
        rw [feedAll_eq, (calls_within hinit (by simp [hp])).2, hp, List.nil_append]
      have hpending : (pending newline chunks.flatten).length ≤ 61440 := by
        apply hline _ _ not_mem_pending
        exact pending_suffix.isInfix.trans (List.prefix_append _ _).isInfix
      have hlast : chunk.length ≤ 4096 := hchunk chunk (by simp)
      rw [withinCap_snoc, hbuffer, List.length_append]
      refine ⟨hinit, ?_⟩
      unfold kMaxBufferedLine
      omega

/-- **Progress parsing does not depend on chunking.** As long as no call of `feed` takes the buffer
past the cap, the parser keeps the bytes after the last newline of the stream; each metric holds the
value of the last complete line that gives it one, and nothing else changes it; and
`last_update_unixtime` was stored once for every complete line with the key `progress`, each time from
the next reading of the clock. Chunks of at most 4096 bytes stay within the cap when no 61441 bytes in
a row are without a newline.
Source: `progress_parser.cpp` `ProgressParser::feed`, `ProgressParser::parse_line` -/
theorem chunking_independent (stod : List Byte → Option (F × Nat)) (stats : ProducerStats F)
    (clock : Nat → Int) (chunks : List (List Byte)) :
    (WithinCap stod (.new stats clock) chunks →
      let p := feedAll stod (.new stats clock) chunks
      let ls := complete newline chunks.flatten
      p.buffer = pending newline chunks.flatten ∧
        p.stats = { stats with
          framesTotal := lastWriter (metric "frame" parseU64) ls stats.framesTotal
          fps := lastWriter (metric "fps" (parseReading stod)) ls stats.fps
          droppedFramesTotal :=
            lastWriter (metric "drop_frames" parseU64) ls stats.droppedFramesTotal
          duplicatedFramesTotal :=
            lastWriter (metric "dup_frames" parseU64) ls stats.duplicatedFramesTotal
          speedRatio := lastWriter (metric "speed" (parseSpeed stod)) ls stats.speedRatio
          lastUpdateUnixtime :=
            (updates clock (progressCount ls)).getLast?.getD stats.lastUpdateUnixtime } ∧
        p.stored.filterMap Store.update? = updates clock (progressCount ls)) ∧
      ((∀ chunk ∈ chunks, chunk.length ≤ 4096) →
        (∀ run, run <:+: chunks.flatten → newline ∉ run → run.length ≤ 61440) →
        WithinCap stod (.new stats clock) chunks) := by
  refine ⟨fun h => ?_, withinCap_of_bounds rfl⟩
  obtain ⟨hhanded, hkept⟩ := calls_within h List.not_mem_nil
  dsimp only
  rw [feedAll_eq, hhanded, hkept]
  refine ⟨rfl, ?_, ?_⟩
  · exact parseLines_stats
  · exact parseLines_updates

/-- What `std::stod` gives for a plain decimal number without a point.
Source: `progress_parser.cpp` `parse_double` -/
def stodWhole (s : List Byte) : Option (ℚ × Nat) := (parseU64 s).map fun v => (v.toNat, s.length)

/-- A block cut inside a key, inside a value, between the `'\r'` and the `'\n'`, and after the block;
one chunk is empty.
Source: `progress_parser_test.cpp` `TruncatedLinesAcrossMultipleFeedCallsStillParse` -/
def cutChunks : List (List Byte) :=
  [text "fra", text "me=55", [], text "5\ndrop_frames=1\r", text "\nfps=15\nfps=N/A\nspeed=",
    text "2x\nbitrate\nprogress=continue\nframe=5"]

/-- Source: `progress_parser_test.cpp` `TruncatedLinesAcrossMultipleFeedCallsStillParse` -/
theorem chunking_independent_cutChunks :
    let p := feedAll stodWhole (.new {} fun i => 1700000000000000000 + i) cutChunks
    p.buffer = text "frame=5" ∧
      p.stats = { framesTotal := 555, droppedFramesTotal := 1, fps := 15, speedRatio := 2,
                  lastUpdateUnixtime := 1700000000 } ∧
      p.stored.filterMap Store.update? = [1700000000] := by
  have hstream : cutChunks.flatten.length ≤ 61440 := by decide
  have h := chunking_independent stodWhole {} (fun i => 1700000000000000000 + i) cutChunks
  obtain ⟨hbuffer, hstats, hupdates⟩ := h.1 (h.2 (by decide) fun run hrun _ =>
    hrun.length_le.trans hstream)
  refine ⟨?_, ?_, ?_⟩
  · rw [hbuffer]
    decide
  · rw [hstats]
    decide +kernel
  · rw [hupdates]
    decide

end chunks

end Hamstercam
