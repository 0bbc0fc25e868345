import Mathlib.Algebra.BigOperators.Group.List.Basic
import Mathlib.Algebra.Order.BigOperators.Group.List
import Hamstercam.Capture.Stores
import Hamstercam.Metrics.CounterSeries

/-!
# A scrape while the machine runs

The page is made in one thread while the machine runs in another, and `render_metrics` looks at the cells of
`CaptureStats` one after the other.

* `scrapedStats` — what it finds: each cell as some of the writes have left it.
* `CounterSeries.counted` — how much of a counter a scrape has seen.
* `scraped_counters` — the counters of a page are those of moments between two steps of the run, and no
  counter is smaller in a later scrape.
* `scraped_moments` — so are the histogram, the time of the last frame and the published format; only the
  gauge can be seen in the middle of a step.
-/

namespace Hamstercam

open Decimal Interaction SharedMemory CaptureStateMachine

/-! ## What a scrape finds -/

/-- The statistics as `render_metrics` finds them: it looks at each cell once.
Source: `metrics.cpp` `render_metrics` -/
def scrapedStats (rnd : ℚ → ℚ) {log : List StatsWrite} (v : View StatsCell log) : CaptureStats where
  framesReceived := (statsAfter rnd (v.seen .framesReceived)).framesReceived
  bytesReceived := (statsAfter rnd (v.seen .bytesReceived)).bytesReceived
  captureState := (statsAfter rnd (v.seen .captureState)).captureState
  reconnects := (statsAfter rnd (v.seen .reconnects)).reconnects
  stalls := (statsAfter rnd (v.seen .stalls)).stalls
  lastFrameUnixtime := (statsAfter rnd (v.seen .lastFrameUnixtime)).lastFrameUnixtime
  frameIntervalSeconds := (statsAfter rnd (v.seen .frameIntervalSeconds)).frameIntervalSeconds
  errors reason := (statsAfter rnd (v.seen (.errors reason))).errors reason
  streamInfoKnown := (statsAfter rnd (v.seen .streamInfo)).streamInfoKnown
  streamInfoValue := (statsAfter rnd (v.seen .streamInfo)).streamInfoValue

namespace CounterSeries

/-- Source: `metrics.cpp` `render_metrics` -/
def cell : CounterSeries → StatsCell
  | frames => .framesReceived
  | bytes => .bytesReceived
  | errors reason => .errors reason
  | reconnects => .reconnects
  | stalls => .stalls

/-- What a write adds to a counter. Source: `stats.hpp` `CaptureStats` -/
def amount : CounterSeries → StatsWrite → Nat
  | frames, .frame => 1
  | bytes, .bytes n => n.toNat
  | errors reason, .error reason' => if reason' = reason then 1 else 0
  | reconnects, .reconnect => 1
  | stalls, .stall => 1
  | _, _ => 0

/-- What some writes add to a counter. Source: none: infrastructure -/
def amounts (x : CounterSeries) (ws : List StatsWrite) : Nat := (ws.map x.amount).sum

/-- How much of a counter a scrape has seen. Source: none: infrastructure -/
def counted {log : List StatsWrite} (x : CounterSeries) (v : View StatsCell log) : Nat :=
  x.amounts (v.seen x.cell)

variable {rnd : ℚ → ℚ} {x : CounterSeries} {w : StatsWrite} {ws ws' : List StatsWrite}

/-- Source: `stats.hpp` `CaptureStats` -/
theorem value_write (x : CounterSeries) (s : CaptureStats) (w : StatsWrite) :
    x.value (s.write rnd w) = x.value s + UInt64.ofNat (x.amount w) := by
  cases x <;> cases w <;> try simp [value, amount, CaptureStats.write]
  next reason reason' =>
    by_cases h : reason' = reason
    · simp [h]
    · simp [h, Ne.symm h]

/-- Source: none: infrastructure -/
theorem amounts_append : x.amounts (ws ++ ws') = x.amounts ws + x.amounts ws' := by
  rw [amounts, List.map_append, List.sum_append]
  rfl

/-- Source: `stats.hpp` `CaptureStats` -/
theorem value_foldl (x : CounterSeries) (s : CaptureStats) (ws : List StatsWrite) :
    x.value (ws.foldl (CaptureStats.write rnd) s) = x.value s + UInt64.ofNat (x.amounts ws) := by
  induction ws generalizing s with
  | nil => simp [amounts]
  | cons w ws ih =>
      have hamounts : x.amounts (w :: ws) = x.amount w + x.amounts ws := by simp [amounts]
      rw [List.foldl_cons, ih, value_write, hamounts, UInt64.ofNat_add, UInt64.add_assoc]

/-- A write to another cell adds nothing. Source: `stats.hpp` `CaptureStats` -/
theorem amount_other (h : w.cell ≠ x.cell) : x.amount w = 0 := by
  cases x <;> cases w <;> simp_all [amount, cell, StatsWrite.cell]

/-- Source: `stats.hpp` `CaptureStats` -/
theorem amount_lt (x : CounterSeries) (w : StatsWrite) : x.amount w < 2 ^ 64 := by
  cases x <;> cases w <;> try exact Nat.two_pow_pos 64
  all_goals try exact Nat.one_lt_two_pow (by decide)
  · exact UInt64.toNat_lt _
  · next reason reason' =>
      rw [amount]
      split <;> decide

/-- Source: none: infrastructure -/
theorem amounts_eq_foldl (x : CounterSeries) (ws : List StatsWrite) :
    x.amounts ws = ws.foldl (fun n w => n + x.amount w) 0 := by
  rw [amounts, List.sum_eq_foldl, List.foldl_map]

/-- Source: `stats.hpp` `CaptureStats` -/
theorem amounts_other (h : x.cell ∉ ws.map StatsWrite.cell) : x.amounts ws = 0 := by
  rw [amounts, List.sum_eq_zero_iff]
  intro n hn
  obtain ⟨w, hw, rfl⟩ := List.mem_map.mp hn
  exact amount_other fun heq => h (List.mem_map.mpr ⟨w, hw, heq⟩)

/-- Source: `stats.hpp` `CaptureStats` -/
theorem amounts_lt_of_once (h : (ws.map StatsWrite.cell).count x.cell ≤ 1) : x.amounts ws < 2 ^ 64 := by
  induction ws with
  | nil => exact Nat.two_pow_pos 64
  | cons w ws ih =>
      have hamounts : x.amounts (w :: ws) = x.amount w + x.amounts ws := by simp [amounts]
      rw [hamounts]
      rw [List.map_cons, List.count_cons] at h
      by_cases hw : w.cell = x.cell
      · have hnone : x.cell ∉ ws.map StatsWrite.cell := by
          rw [← List.count_eq_zero]
          simp [hw] at h
          exact h
        rw [amounts_other hnone]
        exact amount_lt x w
      · rw [amount_other hw, Nat.zero_add]
        exact ih (by omega)

/-- Source: `stats.hpp` `CaptureStats` -/
theorem amounts_le_length (hx : x ≠ bytes) : x.amounts ws ≤ ws.length := by
  have hone : ∀ w, x.amount w ≤ 1 := by
    intro w
    cases x <;> cases w <;> first | exact Nat.zero_le 1 | exact Nat.le_refl 1 | skip
    · exact absurd rfl hx
    · next reason reason' =>
        rw [amount]
        split <;> decide
  induction ws with
  | nil => exact Nat.le_refl 0
  | cons w ws ih =>
      have hamounts : x.amounts (w :: ws) = x.amount w + x.amounts ws := by simp [amounts]
      have hw := hone w
      rw [hamounts, List.length_cons]
      omega

end CounterSeries

/-! ## One turn -/

section turn

variable {rnd : ℚ → ℚ} {m m' : CaptureStateMachine} {l : SharedTurn} {t : Millis}
  {tr : List Observation} {out : StepOutcome} {x : CounterSeries}

/-- Only the gauge and the geometry errors are written twice in one step.
Source: `capture_state_machine.cpp` `CaptureStateMachine::step` -/
theorem SharedTurn.Of.once (h : SharedTurn.Of rnd m l m') {k : StatsCell} (hgauge : k ≠ .captureState)
    (hgeometry : k ≠ .errors .geometry) : ((writes l.trace).map StatsWrite.cell).count k ≤ 1 := by
  refine (h.cells.count_le k).trans ?_
  cases k with
  | captureState => exact absurd rfl hgauge
  | errors reason =>
      cases reason with
      | geometry => exact absurd rfl hgeometry
      | _ => decide
  | _ => decide

/-- Source: `capture_state_machine.cpp` `CaptureStateMachine::step` -/
theorem SharedTurn.Of.amounts_lt (h : SharedTurn.Of rnd m l m') (x : CounterSeries) :
    x.amounts (writes l.trace) < 2 ^ 64 := by
  by_cases hx : x = .bytes
  · rw [hx]
    exact CounterSeries.amounts_lt_of_once (h.once (by decide) (by decide))
  · have hlength := h.cells.length_le
    rw [List.length_map] at hlength
    exact (CounterSeries.amounts_le_length hx).trans_lt (hlength.trans_lt (by decide))

/-- Source: `capture_state_machine.cpp` `CaptureStateMachine::step` -/
theorem CaptureStateMachine.StepCase.length_le (h : StepCase rnd t m tr out m') : tr.length ≤ 8 := by
  cases h with
  | @recoveringStarts _ _ f =>
      unfold recoveryEvents
      split <;> simp
  | _ => simp

/-- A step takes at most one frame. Source: `capture_state_machine.cpp`
`CaptureStateMachine::step_streaming` -/
theorem CaptureStateMachine.StepCase.frameBytes_lt (h : StepCase rnd t m tr out m') :
    Turn.frameBytes ⟨m, t, tr, out, m'⟩ < 2 ^ 64 := by
  unfold Turn.frameBytes
  cases h with
  | @recoveringStarts _ _ f =>
      unfold recoveryEvents
      split <;> simp
  | @streamsFrame w f hs hp => simpa using f.bytesUsed.toNat_lt
  | @streamsMismatch w f now hs hc hp => simpa using f.bytesUsed.toNat_lt
  | _ => simp

/-- What one turn counts fits into 64 bits. Source: `capture_state_machine.cpp`
`CaptureStateMachine::step` -/
theorem CaptureStateMachine.StepCase.count_lt (h : StepCase rnd t m tr out m') (x : CounterSeries) :
    x.count ⟨m, t, tr, out, m'⟩ < 2 ^ 64 := by
  have hlength := h.length_le
  have hcount : ∀ p : Observation → Bool, Turn.count p ⟨m, t, tr, out, m'⟩ ≤ 8 :=
    fun p => List.countP_le_length.trans hlength
  have hsmall : ∀ {n : Nat}, n ≤ 9 → n < 2 ^ 64 := fun hn => hn.trans_lt (by decide)
  cases x with
  | frames => exact hsmall ((hcount _).trans (by decide))
  | bytes => exact h.frameBytes_lt
  | errors reason =>
      refine hsmall ?_
      have hopen := hcount Observation.isOpenFailure
      have hstall := hcount (Observation.isEvent .stallDetected)
      cases reason with
      | «open» =>
          show Turn.coldOpenFailures _ ≤ 9
          unfold Turn.coldOpenFailures
          split <;> omega
      | timeout =>
          show Turn.timeoutReleases _ ≤ 9
          unfold Turn.timeoutReleases
          split <;> omega
      | geometry =>
          show Turn.mismatchReleases _ + Turn.rateEpisodes _ ≤ 9
          unfold Turn.mismatchReleases Turn.rateEpisodes
          split <;> split <;> omega
      | count => exact Nat.zero_le 9
      | _ => exact (hcount _).trans (by decide)
  | reconnects => exact hsmall ((hcount _).trans (by decide))
  | stalls => exact hsmall ((hcount _).trans (by decide))

/-- **The writes of a turn add what the turn counts.** Source: `capture_state_machine.cpp`
`CaptureStateMachine::step` -/
theorem SharedTurn.Of.amounts_eq (hm : Resting m) (h : SharedTurn.Of rnd m l m') (x : CounterSeries) :
    x.amounts (writes l.trace) = x.count l.plain := by
  have hcase := h.plain.case
  have hadds : x.value m'.stats = x.value m.stats + UInt64.ofNat (x.count l.plain) := by
    obtain ⟨rfl, rfl, -⟩ := h
    cases x with
    | frames => exact hcase.adds_frames
    | bytes => exact hcase.adds_bytes
    | errors reason => exact hcase.adds_errors hm reason
    | reconnects => exact hcase.adds_reconnects
    | stalls => exact hcase.adds_stalls
  have hlt : x.count l.plain < 2 ^ 64 := by
    obtain ⟨rfl, rfl, -⟩ := h
    exact hcase.count_lt x
  have hsame : UInt64.ofNat (x.amounts (writes l.trace)) = UInt64.ofNat (x.count l.plain) := by
    rw [h.stats, CounterSeries.value_foldl] at hadds
    exact (UInt64.add_right_inj _).mp hadds
  have hnat := congrArg UInt64.toNat hsame
  rwa [UInt64.toNat_ofNat_of_lt' (h.amounts_lt x), UInt64.toNat_ofNat_of_lt' hlt] at hnat

end turn

/-! ## The run -/

section run

variable {rnd : ℚ → ℚ} {config : DaemonConfig} {now : TimePoint} {ls before : List SharedTurn}
  {m : CaptureStateMachine} {x : CounterSeries} {log : List StatsWrite}

/-- Source: none: infrastructure -/
theorem SharedRun.of_prefix (h : SharedRun rnd config now ls m) (hbefore : before <+: ls) :
    ∃ m', SharedRun rnd config now before m' := by
  obtain ⟨after, rfl⟩ := hbefore
  obtain ⟨m', hrun, -⟩ := run_append.mp h
  exact ⟨m', hrun⟩

/-- **The writes of a run add up to its account.** Source: `capture_state_machine.cpp`, `stats.hpp` -/
theorem SharedRun.amounts_eq (h : SharedRun rnd config now ls m) (x : CounterSeries) :
    x.amounts (written ls) = total x.count (ls.map SharedTurn.plain) := by
  refine Run.history_invariant
    (fun ls _ => x.amounts (written ls) = total x.count (ls.map SharedTurn.plain)) rfl ?_ h
  intro ls m l m' hrun ih hl
  rw [written_snoc, CounterSeries.amounts_append, ih, hl.amounts_eq (CaptureRun.resting (SharedRun.plain hrun)) x,
    List.map_append, List.map_singleton, total_snoc]

/-- Source: `capture_state_machine.cpp` `CaptureStateMachine::step` -/
theorem SharedRun.once (h : SharedRun rnd config now ls m) {k : StatsCell} (hgauge : k ≠ .captureState)
    (hgeometry : k ≠ .errors .geometry) :
    ∀ l ∈ ls, ((writes l.trace).map StatsWrite.cell).count k ≤ 1 := by
  intro l hl
  obtain ⟨_, _, _, -, -, hstep⟩ := Run.at_mem h hl
  exact hstep.once hgauge hgeometry

/-- What a scrape finds of a counter. Source: `metrics.cpp` `render_metrics` -/
theorem value_scrapedStats (v : View StatsCell log) (x : CounterSeries) :
    x.value (scrapedStats rnd v) = UInt64.ofNat (x.counted v) := by
  have hvalue : x.value (scrapedStats rnd v) = x.value (statsAfter rnd (v.seen x.cell)) := by
    cases x <;> rfl
  have hinitial : x.value (initialStats rnd) = 0 := by
    cases x <;> rfl
  rw [hvalue, statsAfter, CounterSeries.value_foldl, hinitial, UInt64.zero_add]
  rfl

/-- A scrape has seen all of some turns, and at most a part of the next.
Source: `metrics.cpp` `render_metrics` -/
theorem SharedRun.counted_within (h : SharedRun rnd config now ls m) (v : View StatsCell (written ls))
    (x : CounterSeries) : ∃ k, total x.count ((ls.take k).map SharedTurn.plain) ≤ x.counted v ∧
      x.counted v ≤ total x.count ((ls.take (k + 1)).map SharedTurn.plain) := by
  obtain ⟨k, hfrom, hto⟩ := prefix_take (v.isPrefix x.cell)
  obtain ⟨_, hbefore⟩ := h.of_prefix (List.take_prefix k ls)
  obtain ⟨_, hafter⟩ := h.of_prefix (List.take_prefix (k + 1) ls)
  refine ⟨k, ?_, ?_⟩
  · rw [← hbefore.amounts_eq x]
    exact sum_le_of_prefix x.amount hfrom
  · rw [← hafter.amounts_eq x]
    exact sum_le_of_prefix x.amount hto

/-- A scrape sees no step half done, but for the geometry errors. Source: `metrics.cpp`
`render_metrics` -/
theorem SharedRun.counted_exact (h : SharedRun rnd config now ls m) (v : View StatsCell (written ls))
    (hx : x ≠ .errors .geometry) :
    ∃ k, x.counted v = total x.count ((ls.take k).map SharedTurn.plain) := by
  have hcell : x.cell ≠ .captureState ∧ x.cell ≠ .errors .geometry := by
    cases x with
    | errors reason => exact ⟨nofun, fun heq => hx (congrArg _ (StatsCell.errors.inj heq))⟩
    | _ => exact ⟨nofun, nofun⟩
  obtain ⟨before, hbefore, hsame⟩ := @at_boundary StatsWrite StatsCell Nat Nat SharedTurn
    (fun n w => n + x.amount w) StatsWrite.cell _ _ ls id x.cell _
    (fun n w hw => by rw [CounterSeries.amount_other hw]; rfl) (h.once hcell.1 hcell.2) 0
    (v.isPrefix x.cell)
  obtain ⟨_, hrun⟩ := h.of_prefix hbefore
  refine ⟨before.length, ?_⟩
  rw [← List.prefix_iff_eq_take.mp hbefore, ← hrun.amounts_eq x, CounterSeries.counted,
    CounterSeries.amounts_eq_foldl, CounterSeries.amounts_eq_foldl]
  exact hsame

/-- **What a scrape shows of a counter while the machine runs.** It is the account of all turns up to some
moment between two of them, modulo `2 ^ 64`; the geometry errors, of which one step can count two, are
between two such accounts. What a later scrape has seen is no less.
Source: `metrics.cpp` `render_metrics`, `stats.hpp` `CaptureStats` -/
theorem scraped_counters (h : SharedRun rnd config now ls m) {v w : View StatsCell (written ls)}
    (hvw : v.Before w) (hx : x.Shown) (build : BuildInfo) (uptimeSeconds : ℚ) (residentBytes : UInt64) :
    counterValue x.name x.labels (metricsEntries (scrapedStats rnd v) build uptimeSeconds residentBytes) =
        some (x.counted v % 2 ^ 64) ∧
      x.counted v ≤ x.counted w ∧
      (x ≠ .errors .geometry →
        ∃ k, x.counted v = total x.count ((ls.take k).map SharedTurn.plain)) ∧
      ∃ k, total x.count ((ls.take k).map SharedTurn.plain) ≤ x.counted v ∧
        x.counted v ≤ total x.count ((ls.take (k + 1)).map SharedTurn.plain) := by
  refine ⟨?_, sum_le_of_prefix x.amount (hvw x.cell), h.counted_exact v, h.counted_within v x⟩
  rw [counterValue_metricsEntries _ _ _ _ hx, value_scrapedStats]
  exact congrArg some UInt64.toNat_ofNat'

/-- A cell that no step writes twice is seen as it is between two steps. Source: `metrics.cpp`
`render_metrics` -/
theorem SharedRun.at_moment {γ : Type} (h : SharedRun rnd config now ls m)
    (v : View StatsCell (written ls)) {k : StatsCell} (get : CaptureStats → γ)
    (hother : ∀ s w, StatsWrite.cell w ≠ k → get (CaptureStats.write rnd s w) = get s)
    (hgauge : k ≠ .captureState) (hgeometry : k ≠ .errors .geometry) :
    ∃ before m', before <+: ls ∧ SharedRun rnd config now before m' ∧
      get (statsAfter rnd (v.seen k)) = get m'.stats := by
  obtain ⟨before, hbefore, hsame⟩ := at_boundary hother (h.once hgauge hgeometry) (initialStats rnd)
    (v.isPrefix k)
  obtain ⟨m', hrun⟩ := h.of_prefix hbefore
  refine ⟨before, m', hbefore, hrun, ?_⟩
  rw [hrun.stats_eq]
  exact hsame

/-- The gauge shows a state. Source: `capture_state.hpp` `CaptureState` -/
theorem captureState_statsAfter (ws : List StatsWrite) :
    ∃ s : CaptureState, (statsAfter rnd ws).captureState = s.toInt := by
  induction ws using List.reverseRecOn with
  | nil => exact ⟨.deviceAbsent, rfl⟩
  | append_singleton ws w ih =>
      rw [statsAfter, List.foldl_append, List.foldl_cons, List.foldl_nil]
      cases w with
      | state s => exact ⟨s, rfl⟩
      | _ => exact ih

/-- Source: `capture_state.hpp` `CaptureState` -/
theorem CaptureState.toInt_injective : Function.Injective CaptureState.toInt := by
  intro s s' h
  cases s <;> cases s' <;> first | rfl | exact absurd h (by decide)

/-- **What else a scrape shows while the machine runs.** The histogram is that of the intervals up to some
moment between two steps; the published format and the time of the last frame are those of such a moment.
The gauge shows a state, and one of the transient states only in the middle of a step.
Source: `metrics.cpp` `render_metrics`, `stats.hpp` `CaptureStats` -/
theorem scraped_moments (h : SharedRun rnd config now ls m) (v : View StatsCell (written ls)) :
    (∃ before, before <+: ls ∧ (scrapedStats rnd v).frameIntervalSeconds =
      histogramOf rnd (intervals (sessions (before.map SharedTurn.plain)))) ∧
    (∃ before m', before <+: ls ∧ SharedRun rnd config now before m' ∧
      (scrapedStats rnd v).streamInfo = m'.stats.streamInfo) ∧
    (∃ before m', before <+: ls ∧ SharedRun rnd config now before m' ∧
      (scrapedStats rnd v).lastFrameUnixtime = m'.stats.lastFrameUnixtime) ∧
    ∃ s : CaptureState, (scrapedStats rnd v).captureState = s.toInt ∧
      ∀ before, before <+: ls → v.seen .captureState = written before →
        s ≠ .configuring ∧ s ≠ .stalled := by
  refine ⟨?_, ?_, ?_, ?_⟩
  · obtain ⟨before, m', hbefore, hrun, hsame⟩ := h.at_moment v (fun s => s.frameIntervalSeconds)
      (k := .frameIntervalSeconds) (fun s w hw => by cases w <;> first | rfl | exact absurd rfl hw)
      nofun nofun
    exact ⟨before, hbefore, hsame.trans (CaptureRun.histogram_eq hrun.plain)⟩
  · exact h.at_moment v CaptureStats.streamInfo (k := .streamInfo)
      (fun s w hw => by cases w <;> first | rfl | exact absurd rfl hw) nofun nofun
  · exact h.at_moment v (fun s => s.lastFrameUnixtime) (k := .lastFrameUnixtime)
      (fun s w hw => by cases w <;> first | rfl | exact absurd rfl hw) nofun nofun
  · obtain ⟨s, hs⟩ := @captureState_statsAfter rnd (v.seen .captureState)
    refine ⟨s, hs, fun before hbefore hseen => ?_⟩
    obtain ⟨m', hrun⟩ := h.of_prefix hbefore
    have hresting := CaptureRun.resting hrun.plain
    have hstate : s = m'.state := by
      apply CaptureState.toInt_injective
      rw [← hs, hseen, ← hrun.stats_eq, hresting.gauge]
    rw [hstate]
    rcases hresting.state with h | h | h <;> rw [h] <;> exact ⟨nofun, nofun⟩

end run

/-- A scrape after a cold start and one frame, when all writes have been seen.
Source: `main.cpp` `main` -/
theorem scraped_counters_coldFrame : ∃ ls : List SharedTurn, ls.map SharedTurn.plain = coldFrameTurns ∧
    counterValue CounterSeries.frames.name CounterSeries.frames.labels
      (metricsEntries (scrapedStats id (View.all (written ls))) ⟨[], []⟩ 0 0) = some 1 := by
  obtain ⟨ls, hls, hrun⟩ := CaptureRun.shared coldFrame_run
  refine ⟨ls, hls, ?_⟩
  have hshown := (scraped_counters hrun (View.all (written ls)).before_all
    (by decide : CounterSeries.frames.Shown) ⟨[], []⟩ 0 0).1
  have hone : CounterSeries.frames.counted (View.all (written ls)) = 1 := by
    have hall := hrun.amounts_eq .frames
    rw [hls] at hall
    exact hall
  rwa [hone] at hshown

/-- The same scrape shows a resting state. Source: `main.cpp` `main` -/
theorem scraped_moments_coldFrame : ∃ ls : List SharedTurn, ls.map SharedTurn.plain = coldFrameTurns ∧
    ∃ s : CaptureState, (scrapedStats id (View.all (written ls))).captureState = s.toInt ∧
      s ≠ .configuring ∧ s ≠ .stalled := by
  obtain ⟨ls, hls, hrun⟩ := CaptureRun.shared coldFrame_run
  obtain ⟨-, -, -, s, hs, hrest⟩ := scraped_moments hrun (View.all (written ls))
  exact ⟨ls, hls, s, hs, hrest ls List.prefix_rfl rfl⟩

end Hamstercam
