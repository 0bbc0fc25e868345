import Hamstercam.Capture.Retries
import Hamstercam.Main.Values

/-!
# The bounds of the backoffs

* `WithinBounds config ls` — what the delays of a run are to be: positive, at most the ceiling of their
  phase, and in a stay none smaller than the one before.
* `backoffDelay_bounds`, `backoffDelay_ascends` — a backoff whose ceiling is not below its initial delay
  stays between the two and never shrinks.
* `backoff_bounds_iff` — the delays of all runs are within bounds if and only if no ceiling is below the
  initial delay of 200 ms, which no flag sets.
-/

namespace Hamstercam

open CaptureStateMachine

/-- The delays of the failed attempts of a run are within bounds.
Source: `backoff.hpp` `Backoff` (comment), `daemon_config.hpp` `DaemonConfig` -/
structure WithinBounds (config : DaemonConfig) (ls : List Turn) : Prop where
  /-- There is something to wait for. -/
  positive : ∀ l ∈ ls, l.fails = true → 0 < l.outcome.recommendedWait
  /-- No delay is above the ceiling of its phase. -/
  bounded : ∀ l ∈ ls, l.fails = true → l.outcome.recommendedWait ≤ config.ceiling l.pre.state
  /-- The delays of a stay do not shrink. -/
  ascending : ((failures ls).map fun l => l.outcome.recommendedWait).IsChain (· ≤ ·)

/-! ## One backoff -/

section delays

variable {initial max : Millis}

/-- Source: `backoff.hpp` `Backoff::next` -/
theorem backoffDelay_bounds (hpos : 0 < initial) (hle : initial ≤ max) (k : Nat) :
    0 < backoffDelay initial max k ∧ backoffDelay initial max k ≤ max := by
  induction k with
  | zero => exact ⟨hpos, hle⟩
  | succ k ih =>
      have hdouble : (0 : Int) < 2 * backoffDelay initial max k := Int.mul_pos (by decide) ih.1
      exact ⟨lt_min (hpos.trans_le hle) hdouble, min_le_left _ _⟩

/-- Source: `backoff.hpp` `Backoff::next` -/
theorem backoffDelay_ascends (hpos : 0 < initial) (hle : initial ≤ max) (k : Nat) :
    backoffDelay initial max k ≤ backoffDelay initial max (k + 1) := by
  obtain ⟨hk, hmax⟩ := backoffDelay_bounds hpos hle k
  have hdouble : backoffDelay initial max k ≤ 2 * backoffDelay initial max k :=
    le_mul_of_one_le_left hk.le (by decide)
  exact le_min hmax hdouble

/-- Source: `backoff.hpp` `Backoff::next` -/
theorem isChain_backoffDelay (hpos : 0 < initial) (hle : initial ≤ max) (n : Nat) :
    ((List.range n).map (backoffDelay initial max)).IsChain (· ≤ ·) := by
  apply List.isChain_iff_getElem.mpr
  intro k hk
  rw [List.getElem_map, List.getElem_map, List.getElem_range, List.getElem_range]
  exact backoffDelay_ascends hpos hle k

end delays

/-! ## The delays of a run -/

section bounds

variable {rnd : ℚ → ℚ} {config : DaemonConfig} {now : TimePoint} {ls : List Turn} {l : Turn}
  {m m' : CaptureStateMachine}

/-- A failed attempt of a run is given a delay of its backoff.
Source: `backoff.hpp` `Backoff`, `capture_state_machine.hpp` members -/
theorem CaptureRun.delay_of_fails (h : CaptureRun rnd config now ls m) (hl : l ∈ ls)
    (hf : l.fails = true) : ∃ k, l.outcome.recommendedWait =
      backoffDelay config.reconnectInitialBackoff (config.ceiling l.pre.state) k := by
  obtain ⟨before, m₁, m₂, -, hbefore, hturn⟩ := h.at_mem hl
  have hs := CaptureRun.onBackoff hbefore
  have hcase := hturn.case
  obtain ⟨rfl, rfl, -⟩ := hturn
  obtain ⟨-, -, ⟨hstate, hwait⟩ | ⟨hstate, hwait⟩⟩ := hcase.failure hf
  · refine ⟨(failures before).length, ?_⟩
    rw [hwait, hs.absent, DaemonConfig.ceiling, if_pos hstate, if_pos hstate]
  · refine ⟨(failures before).length, ?_⟩
    rw [hwait, hs.waiting, DaemonConfig.ceiling, hstate]
    rfl

/-- Well-ordered settings keep the delays within bounds.
Source: `backoff.hpp` `Backoff`, `daemon_config.hpp` `DaemonConfig` -/
theorem CaptureRun.withinBounds (h : CaptureRun rnd config now ls m)
    (hpos : 0 < config.reconnectInitialBackoff)
    (hceiling : ∀ state, config.reconnectInitialBackoff ≤ config.ceiling state) :
    WithinBounds config ls where
  positive l hl hf := by
    obtain ⟨k, hk⟩ := CaptureRun.delay_of_fails h hl hf
    rw [hk]
    exact (backoffDelay_bounds hpos (hceiling _) k).1
  bounded l hl hf := by
    obtain ⟨k, hk⟩ := CaptureRun.delay_of_fails h hl hf
    rw [hk]
    exact (backoffDelay_bounds hpos (hceiling _) k).2
  ascending := by
    rw [(CaptureRun.onBackoff h).delays]
    exact isChain_backoffDelay hpos (hceiling _) _

/-! ## Settings that are not well-ordered -/

/-- The first attempt of a run, when it fails. Source: none: infrastructure -/
def firstOpenFails (rnd : ℚ → ℚ) (config : DaemonConfig) : Turn :=
  let m := CaptureStateMachine.new rnd config 0
  ⟨m, 200, [.steady 0, .opened .absent], ⟨config.reconnectInitialBackoff⟩,
    (m.withError .open).delayDeviceAbsent 0⟩

/-- Source: none: infrastructure -/
theorem firstOpenFails_run (rnd : ℚ → ℚ) (config : DaemonConfig) :
    CaptureRun rnd config 0 [firstOpenFails rnd config] (firstOpenFails rnd config).post :=
  CaptureRun.snoc (t := 200) .nil (.absentFails rfl (Int.le_refl 0))

/-- The first attempt of a run, when it succeeds. Source: none: infrastructure -/
def firstOpen (rnd : ℚ → ℚ) (config : DaemonConfig) : Turn :=
  let m := CaptureStateMachine.new rnd config 0
  ⟨m, 200, [.steady 0, .opened .opened, .emitted { type := .deviceOpened },
    .emitted { type := .awaitingProducer }], {}, m.resetBackoffs.withState .awaitingProducer⟩

/-- The first look for a producer, when there is none. Source: none: infrastructure -/
def firstQueryFails (rnd : ℚ → ℚ) (config : DaemonConfig) : Turn :=
  let m := (firstOpen rnd config).post
  ⟨m, 200, [.steady 0, .queried .noProducer {}], ⟨config.reconnectInitialBackoff⟩,
    m.delayAwaitingProducer 0⟩

/-- Source: none: infrastructure -/
theorem firstQueryFails_run (rnd : ℚ → ℚ) (config : DaemonConfig) :
    CaptureRun rnd config 0 [firstOpen rnd config, firstQueryFails rnd config]
      (firstQueryFails rnd config).post := by
  have hopen : CaptureRun rnd config 0 [firstOpen rnd config] (firstOpen rnd config).post :=
    CaptureRun.snoc (t := 200) .nil (.absentOpens rfl (Int.le_refl 0))
  exact CaptureRun.snoc (t := 200) hopen (.waitingNoProducer rfl rfl (Int.le_refl 0))

/-- **When the backoffs stay within their bounds**: if and only if neither of the ceilings that the flags
set is below the initial delay, which they do not set.
Source: `backoff.hpp` `Backoff`, `main.cpp` `main`, `daemon_config.hpp` `DaemonConfig` -/
theorem backoff_bounds_iff (hconfig : config.Accepted) :
    (∀ now ls m, CaptureRun rnd config now ls m → WithinBounds config ls) ↔
      200 ≤ config.reconnectMaxBackoff ∧ 200 ≤ config.awaitingProducerMaxBackoff := by
  obtain ⟨hinitial, -, -⟩ := (DaemonConfig.accepted_iff config).mp hconfig
  constructor
  · intro h
    have habsent := (h _ _ _ (firstOpenFails_run rnd config)).bounded _ (List.mem_singleton_self _)
      (by simp [Turn.fails, firstOpenFails])
    have hwaiting := (h _ _ _ (firstQueryFails_run rnd config)).bounded (firstQueryFails rnd config)
      (by simp) (by simp [Turn.fails, firstQueryFails, firstOpen])
    rw [show (firstOpenFails rnd config).outcome.recommendedWait = _ from hinitial] at habsent
    rw [show (firstQueryFails rnd config).outcome.recommendedWait = _ from hinitial] at hwaiting
    exact ⟨habsent, hwaiting⟩
  · rintro ⟨habsent, hwaiting⟩ now ls m hrun
    apply CaptureRun.withinBounds hrun
    · rw [hinitial]
      decide
    · intro state
      unfold DaemonConfig.ceiling
      rw [hinitial]
      split
      · exact habsent
      · exact hwaiting

end bounds

/-- The defaults are accepted. Source: `main.cpp` `main` -/
theorem accepted_default : DaemonConfig.Accepted {} :=
  (DaemonConfig.accepted_iff _).mpr
    ⟨rfl, ⟨text "30s", by decide +kernel⟩, text "2s", by decide +kernel⟩

/-- With the defaults, the failed `open` of a first attempt is given a delay within its bounds.
Source: `daemon_config.hpp` `DaemonConfig` -/
theorem backoff_bounds_default : WithinBounds {} [failedOpen] :=
  (backoff_bounds_iff accepted_default).mpr ⟨by decide, by decide⟩ 0 _ _ failedOpen_run

/-- **A delay above its ceiling**: with a ceiling of 50 ms, the first delay is 200 ms all the same.
Source: `backoff.hpp` `Backoff::Backoff` -/
theorem backoff_above_ceiling :
    ¬ ∀ (config : DaemonConfig) (now : TimePoint) (ls : List Turn) (m : CaptureStateMachine),
      config.Accepted → CaptureRun id config now ls m → WithinBounds config ls := by
  intro h
  have haccepted : DaemonConfig.Accepted { reconnectMaxBackoff := 50 } :=
    (DaemonConfig.accepted_iff _).mpr
      ⟨rfl, ⟨text "50ms", by decide +kernel⟩, text "2s", by decide +kernel⟩
  have hbounded := (h _ _ _ _ haccepted (firstOpenFails_run id _)).bounded _
    (List.mem_singleton_self _) (by simp [Turn.fails, firstOpenFails])
  exact absurd hbounded (by decide)

end Hamstercam
