import Mathlib.Algebra.Order.BigOperators.Group.List
import Mathlib.Algebra.Order.Field.Rat
import Mathlib.Tactic.Positivity
import Hamstercam.Capture.Accounting
import Hamstercam.Lib.Segments

/-!
# The arrival-rate detector

* `rateWindows` — the capture times of a session, cut into windows of at least `kRateAnomalyWindow`.
* `exceeds config w` — the rate of a window, exactly, is above the threshold. `exceeds_of_short_gaps` and
  `not_exceeds_of_long_gaps` compare it with the gaps between the frames.
* `InWindow` — the members of the machine that belong to the detector are those of the windows;
  `InWindow.check` is the step lemma for a frame, `StepCase.inWindow` the one for a step of a session.
* `SessionRun` — a session inside a run; `SessionRun.inWindow` is the run lemma.
* `arrival_rate` — the windows, the latch, the errors counted and what the detector leaves alone.
-/

namespace Hamstercam

open Interaction CaptureStateMachine Segments

/-! ## Windows and rates -/

/-- A frame captured at `t` closes a window that started at `start`.
Source: `capture_state_machine.cpp` `CaptureStateMachine::check_arrival_rate` -/
def rateWindowDue (start t : TimePoint) : Bool := decide (rateAnomalyWindow ≤ t - start)

/-- The windows of a session.
Source: `capture_state_machine.cpp` `CaptureStateMachine::check_arrival_rate` -/
def Session.rateWindows (s : Session) : Windows TimePoint :=
  windows rateWindowDue s.entered s.frames.reverse

/-- Nanoseconds as seconds. Source: `capture_state_machine.cpp` `std::chrono::duration<double>` -/
def inSeconds (nanos : Int) : ℚ := nanos / 1000000000

/-- The frames of a window for each second of its duration.
Source: `capture_state_machine.cpp` `CaptureStateMachine::check_arrival_rate` -/
def arrivalRate (w : Window TimePoint) : ℚ := w.times.length / inSeconds (w.stop - w.start)

/-- The rate of a window is above the threshold.
Source: `capture_state_machine.cpp` `CaptureStateMachine::check_arrival_rate` -/
def exceeds (config : DaemonConfig) (w : Window TimePoint) : Bool :=
  decide (0 < config.expectedFps ∧ 5 * (config.expectedFps.toNat : ℚ) < arrivalRate w)

/-- The longest gap, in seconds, of frames that come too fast.
Source: `capture_state_machine.cpp` `kRateAnomalyFactor` -/
def gapBound (config : DaemonConfig) : ℚ := 1 / (5 * config.expectedFps.toNat)

section rates

variable {config : DaemonConfig} {w : Window TimePoint}

/-- The gaps of a window in seconds add up to its duration. Source: none: infrastructure -/
theorem sum_gaps_inSeconds (w : Window TimePoint) :
    (w.gaps.map inSeconds).sum = inSeconds (w.stop - w.start) := by
  have hsum : ∀ gs : List Int, (gs.map inSeconds).sum = inSeconds gs.sum := by
    intro gs
    induction gs with
    | nil => simp [inSeconds]
    | cons g gs ih =>
        rw [List.map_cons, List.sum_cons, List.sum_cons, ih]
        simp only [inSeconds]
        push_cast
        exact (add_div _ _ _).symm
  exact (hsum w.gaps).trans (congrArg inSeconds w.sum_gaps)

/-- A rate above the threshold, without the divisions. Source: none: infrastructure -/
theorem exceeds_iff (hfps : 0 < config.expectedFps) (hw : 0 < w.stop - w.start) :
    exceeds config w = true ↔ inSeconds (w.stop - w.start) < w.times.length • gapBound config := by
  have hseconds : 0 < inSeconds (w.stop - w.start) := by
    unfold inSeconds
    positivity
  have hrate : (0 : ℚ) < 5 * config.expectedFps.toNat := by
    have hnat : 0 < config.expectedFps.toNat := UInt32.lt_iff_toNat_lt.mp hfps
    positivity
  rw [exceeds, decide_eq_true_iff, arrivalRate, gapBound, lt_div_iff₀ hseconds, nsmul_eq_mul,
    mul_one_div, lt_div_iff₀ hrate, mul_comm]
  exact ⟨fun h => h.2, fun h => ⟨hfps, h⟩⟩

/-- Frames that all come too fast make a window that exceeds the threshold.
Source: `capture_state_machine.cpp` `CaptureStateMachine::check_arrival_rate` -/
theorem exceeds_of_short_gaps (hfps : 0 < config.expectedFps) (hw : 0 < w.stop - w.start)
    (hgaps : ∀ g ∈ w.gaps, inSeconds g < gapBound config) : exceeds config w = true := by
  apply (exceeds_iff hfps hw).mpr
  have hne : w.gaps ≠ [] := by
    intro hnil
    have hsum := w.sum_gaps
    rw [hnil, List.sum_nil] at hsum
    exact absurd hsum (ne_of_lt hw)
  have hlt := List.sum_lt_sum_of_ne_nil hne inSeconds (fun _ => gapBound config) hgaps
  rw [sum_gaps_inSeconds, List.map_const', List.sum_replicate, w.length_gaps] at hlt
  exact hlt

/-- Frames that all come slowly enough make a window that does not.
Source: `capture_state_machine.cpp` `CaptureStateMachine::check_arrival_rate` -/
theorem not_exceeds_of_long_gaps (hfps : 0 < config.expectedFps) (hw : 0 < w.stop - w.start)
    (hgaps : ∀ g ∈ w.gaps, gapBound config ≤ inSeconds g) : exceeds config w = false := by
  apply Bool.eq_false_iff.mpr
  intro hexceeds
  have hle : w.gaps.length • gapBound config ≤ (w.gaps.map inSeconds).sum := by
    rw [← List.length_map inSeconds]
    apply List.card_nsmul_le_sum
    intro q hq
    obtain ⟨g, hg, rfl⟩ := List.mem_map.mp hq
    exact hgaps g hg
  rw [sum_gaps_inSeconds, w.length_gaps] at hle
  exact absurd ((exceeds_iff hfps hw).mp hexceeds) (not_lt.mpr hle)

end rates

/-! ## The detector follows the windows -/

section detector

variable {config : DaemonConfig} {now : TimePoint} {ls : List Turn} {l : Turn}
  {m m' : CaptureStateMachine} {t : Millis} {tr : List Observation} {out : StepOutcome}
  {ws : Windows TimePoint}

/-- No window of a session has `2 ^ 32` frames, so `rate_window_frame_count_` does not wrap.
Source: `capture_state_machine.hpp` member `rate_window_frame_count_` -/
def Countable (ws : Windows TimePoint) : Prop :=
  ∀ w ∈ ws.closed ++ [ws.current], w.times.length < 2 ^ 32

/-- The members of the detector are those of the windows.
Source: `capture_state_machine.hpp` members `rate_window_start_`, `rate_window_frame_count_`,
`rate_anomaly_active_` -/
structure InWindow (config : DaemonConfig) (ws : Windows TimePoint) (m : CaptureStateMachine) :
    Prop where
  configured : m.config = config
  start : m.rateWindowStart = ws.current.start
  count : m.rateWindowFrameCount = UInt32.ofNat ws.current.times.length
  /-- The latch is the verdict on the last closed window. -/
  latch : m.rateAnomalyActive = ws.closed.getLast?.any (exceeds config)

/-- The rate episodes of the closed windows. Source: none: infrastructure -/
def episodes (config : DaemonConfig) (ws : Windows TimePoint) : Nat :=
  (maximalRuns (exceeds config) ws.closed).length

/-- What the detector decides about a window is the verdict on it, in exact arithmetic.
Source: `capture_state_machine.cpp` `CaptureStateMachine::check_arrival_rate` -/
theorem rateExceeds_eq {w : Window TimePoint} (hfew : w.times.length < 2 ^ 32)
    (config : DaemonConfig) :
    rateExceeds id config (UInt32.ofNat w.times.length) (w.stop - w.start) = exceeds config w := by
  have hcount : (UInt32.ofNat w.times.length).toNat = w.times.length := UInt32.toNat_ofNat_of_lt' hfew
  unfold rateExceeds exceeds arrivalRate inSeconds
  simp only [hcount, id, rateAnomalyFactor]
  rw [mul_comm (5 : ℚ)]

/-- A frame counts in its window, closes it when it is due, and begins an episode when the window exceeds
the threshold and the one before it did not.
Source: `capture_state_machine.cpp` `CaptureStateMachine::check_arrival_rate` -/
theorem InWindow.check {captured : TimePoint} (h : InWindow config ws m)
    (hfew : Countable (ws.after rateWindowDue captured)) :
    InWindow config (ws.after rateWindowDue captured) (m.checkArrivalRate id captured) ∧
      episodes config (ws.after rateWindowDue captured) = episodes config ws +
        if m.rateAnomalyActive = false ∧ (m.checkArrivalRate id captured).rateAnomalyActive = true
        then 1 else 0 := by
  obtain ⟨hconfig, hstart, hcount, hlatch⟩ := h
  have hmore : m.rateWindowFrameCount + 1 =
      UInt32.ofNat (ws.current.add captured).times.length := by
    rw [hcount, Window.add_times, List.length_append, UInt32.ofNat_add]
    rfl
  unfold Windows.after at hfew ⊢
  unfold checkArrivalRate
  simp only [withWindowFrame_rateWindowStart, withWindowFrame_rateWindowFrameCount,
    withWindowFrame_config, withWindowFrame_rateAnomalyActive, hmore, hstart, hconfig]
  by_cases hdue : captured - ws.current.start < rateAnomalyWindow
  · have hnot : rateWindowDue ws.current.start captured = false := by
      simpa [rateWindowDue] using hdue
    rw [hnot] at hfew ⊢
    rw [if_pos hdue]
    refine ⟨⟨hconfig, hstart, hmore, hlatch⟩, ?_⟩
    simp [episodes]
  · have hyes : rateWindowDue ws.current.start captured = true := by
      simpa [rateWindowDue] using hdue
    rw [hyes] at hfew ⊢
    rw [if_neg hdue]
    have hverdict : rateExceeds id config
        (UInt32.ofNat (ws.current.add captured).times.length) (captured - ws.current.start) =
          exceeds config (ws.current.add captured) := by
      have hlt := hfew (ws.current.add captured) (by simp)
      simpa using rateExceeds_eq hlt config
    rw [hverdict, if_pos rfl, episodes, length_maximalRuns_snoc, ← hlatch, ← episodes]
    -- an episode begins when the verdict is true and the latch is not set
    cases hexceeds : exceeds config (ws.current.add captured)
    · refine ⟨⟨hconfig, rfl, rfl, by simp [hexceeds]⟩, by simp⟩
    · cases hactive : m.rateAnomalyActive
      · exact ⟨⟨by simp [hconfig], by simp, by simp, by simp [hexceeds]⟩, by simp⟩
      · exact ⟨⟨by simp [hconfig], by simp, by simp, by simp [hexceeds, hactive]⟩, by simp⟩

/-- Windows that can be counted could be counted before. Source: none: infrastructure -/
theorem Countable.before {captured : TimePoint}
    (h : Countable (ws.after rateWindowDue captured)) : Countable ws := by
  unfold Windows.after at h
  intro w hw
  rcases List.mem_append.mp hw with hclosed | hcurrent
  · split_ifs at h
    · exact h w (by simp [hclosed])
    · exact h w (by simp [hclosed])
  · rw [List.mem_singleton.mp hcurrent]
    have hadd : (ws.current.add captured).times.length < 2 ^ 32 := by
      split_ifs at h
      · exact h _ (by simp)
      · exact h _ (by simp)
    rw [Window.add_times, List.length_append] at hadd
    omega

/-! ## A session of a run -/

/-- A frame of the session is a time of its windows. Source: none: infrastructure -/
theorem rateWindows_cons (entered captured : TimePoint) (frames : List TimePoint) :
    Session.rateWindows ⟨entered, captured :: frames⟩ =
      (Session.rateWindows ⟨entered, frames⟩).after rateWindowDue captured := by
  unfold Session.rateWindows
  rw [List.reverse_cons, windows_snoc]

/-- The detector members decide whether the machine is in a window. Source: none: infrastructure -/
theorem InWindow.of_eq (h : InWindow config ws m) (hconfig : m'.config = m.config)
    (hstart : m'.rateWindowStart = m.rateWindowStart)
    (hcount : m'.rateWindowFrameCount = m.rateWindowFrameCount)
    (hlatch : m'.rateAnomalyActive = m.rateAnomalyActive) : InWindow config ws m' :=
  ⟨hconfig.trans h.configured, hstart.trans h.start, hcount.trans h.count, hlatch.trans h.latch⟩

/-- Where the latch stays, no episode begins. Source: none: infrastructure -/
theorem rateEpisodes_of_eq (hlatch : m'.rateAnomalyActive = m.rateAnomalyActive) :
    Turn.rateEpisodes ⟨m, t, tr, out, m'⟩ = 0 := by
  unfold Turn.rateEpisodes
  rw [if_neg]
  rintro ⟨hpre, hpost⟩
  rw [hlatch, hpre] at hpost
  cases hpost

/-- **A step of a session keeps the detector in its windows**, and counts the episodes that begin.
Source: `capture_state_machine.cpp` `CaptureStateMachine::step_streaming` -/
theorem CaptureStateMachine.StepCase.inWindow (hs : m.state = .streaming)
    (h : StepCase id t m tr out m') (config : DaemonConfig) (s : Session) (ss : List Session) :
    ∃ s', sessionsAfter (s :: ss) tr = s' :: ss ∧
      (Countable s'.rateWindows → Countable s.rateWindows) ∧
      (Countable s'.rateWindows → InWindow config s.rateWindows m →
        InWindow config s'.rateWindows m' ∧
          episodes config s'.rateWindows =
            episodes config s.rateWindows + Turn.rateEpisodes ⟨m, t, tr, out, m'⟩) := by
  have hkeeps : ∀ m' : CaptureStateMachine, m'.config = m.config →
      m'.rateWindowStart = m.rateWindowStart → m'.rateWindowFrameCount = m.rateWindowFrameCount →
      m'.rateAnomalyActive = m.rateAnomalyActive →
      InWindow config s.rateWindows m → InWindow config s.rateWindows m' ∧
        episodes config s.rateWindows =
          episodes config s.rateWindows + Turn.rateEpisodes ⟨m, t, tr, out, m'⟩ := by
    intro m' hconfig hstart hcount hlatch hin
    exact ⟨hin.of_eq hconfig hstart hcount hlatch, by rw [rateEpisodes_of_eq hlatch]; rfl⟩
  have hframe : ∀ (f : FrameDescriptor) (w : Int),
      Countable (Session.rateWindows ⟨s.entered, f.capturedAt :: s.frames⟩) →
      InWindow config s.rateWindows m →
      InWindow config (Session.rateWindows ⟨s.entered, f.capturedAt :: s.frames⟩)
          (m.frameTaken id f w) ∧
        episodes config (Session.rateWindows ⟨s.entered, f.capturedAt :: s.frames⟩) =
          episodes config s.rateWindows +
            if m.rateAnomalyActive = false ∧ (m.frameTaken id f w).rateAnomalyActive = true
            then 1 else 0 := by
    intro f w hfew hin
    rw [rateWindows_cons] at hfew ⊢
    have htaken : InWindow config s.rateWindows (m.withFrame id f w) := hin.of_eq rfl rfl rfl rfl
    exact htaken.check hfew
  cases h with
  | @streamsFrame w f _ hp =>
      refine ⟨⟨s.entered, f.capturedAt :: s.frames⟩, rfl, ?_, hframe f w⟩
      rw [rateWindows_cons]
      exact Countable.before
  | @streamsMismatch w f now _ hc hp =>
      refine ⟨⟨s.entered, f.capturedAt :: s.frames⟩, rfl, ?_, ?_⟩
      · rw [rateWindows_cons]
        exact Countable.before
      · intro hfew hin
        obtain ⟨hwindow, hepisodes⟩ := hframe f w hfew hin
        have hlatch : ((m.frameTaken id f w).released .geometry now).rateAnomalyActive =
            (m.frameTaken id f w).rateAnomalyActive := by simp
        refine ⟨hwindow.of_eq (by simp) (by simp) (by simp) hlatch, ?_⟩
        unfold Turn.rateEpisodes
        rw [hlatch]
        exact hepisodes
  | streamsTimeout hs hq =>
      exact ⟨s, rfl, id, fun _ => hkeeps _ (by simp) (by simp) (by simp) (by simp)⟩
  | streamsStall hs hq =>
      exact ⟨s, rfl, id, fun _ => hkeeps _ (by simp) (by simp) (by simp) (by simp)⟩
  | streamsError hs =>
      exact ⟨s, rfl, id, fun _ => hkeeps _ (by simp) (by simp) (by simp) (by simp)⟩
  | streamsLoses hs =>
      exact ⟨s, rfl, id, fun _ => hkeeps _ (by simp) (by simp) (by simp) (by simp)⟩
  | _ => simp_all

/-- **A session begins with an empty window** at the clock reading that follows the start.
Source: `capture_state_machine.cpp` `CaptureStateMachine::enter_configuring` -/
theorem CaptureStateMachine.StepCase.enters (hpre : m.state ≠ .streaming)
    (hpost : m'.state = .streaming) (hconfig : m.config = config)
    (h : StepCase id t m tr out m') (ss : List Session) :
    ∃ entered, sessionsAfter ss tr = ⟨entered, []⟩ :: ss ∧
      InWindow config (Session.rateWindows ⟨entered, []⟩) m' := by
  cases h with
  | @waitingStarts _ now' => exact ⟨now', rfl, hconfig, rfl, rfl, rfl⟩
  | @waitingReconnects _ now' => exact ⟨now', rfl, hconfig, rfl, rfl, rfl⟩
  | @recoveringStarts _ now' => exact ⟨now', sessionsAfter_recovered _ _ _ _ _ _, hconfig, rfl, rfl, rfl⟩
  | _ => simp_all

/-- No step changes the configuration. Source: `capture_state_machine.hpp` member `config_` -/
theorem CaptureStateMachine.StepCase.config_eq {rnd : ℚ → ℚ} (h : StepCase rnd t m tr out m') :
    m'.config = m.config := by
  cases h <;> simp

/-- The configuration of a run is that of the constructor.
Source: `capture_state_machine.hpp` member `config_` -/
theorem CaptureRun.config_eq {rnd : ℚ → ℚ} (h : CaptureRun rnd config now ls m) :
    m.config = config := by
  apply Run.history_invariant (fun _ m => m.config = config) rfl ?_ h
  intro ls m l m' _ hm hl
  rw [hl.case.config_eq, hm]

/-- A streaming session inside a run: the turn that enters it, and turns of the session.
Source: `capture_state_machine.cpp` `enter_configuring`, `step_streaming` -/
structure SessionRun (config : DaemonConfig) (now : TimePoint) (before : List Turn) (enter : Turn)
    (ks : List Turn) (m : CaptureStateMachine) : Prop where
  /-- The run, with rates in exact arithmetic. -/
  run : CaptureRun id config now (before ++ enter :: ks) m
  /-- The stream starts. -/
  enters : enter.pre.state ≠ .streaming ∧ enter.post.state = .streaming
  /-- All that follows is a step of the stream, the last one perhaps its end. -/
  streams : ∀ l ∈ ks, l.pre.state = .streaming

/-- **In a session the detector is in its windows**, and has counted their episodes.
Source: `capture_state_machine.cpp` `CaptureStateMachine::check_arrival_rate` -/
theorem SessionRun.inWindow {before ks : List Turn} {enter : Turn}
    (h : SessionRun config now before enter ks m) :
    ∃ s, sessions (before ++ enter :: ks) = s :: sessions before ∧
      (Countable s.rateWindows → InWindow config s.rateWindows m ∧
        episodes config s.rateWindows = total Turn.rateEpisodes ks) := by
  obtain ⟨run, ⟨hpre, hpost⟩, streams⟩ := h
  obtain ⟨u, hbefore, hafter⟩ := run_append.mp run
  obtain ⟨v, henter, hks⟩ := run_cons.mp hafter
  obtain ⟨entered, hentered, hin⟩ :=
    henter.case.enters (henter.pre ▸ hpre) (henter.post ▸ hpost)
      (CaptureRun.config_eq hbefore) (sessions before)
  refine Run.history_invariant (fun ks m => (∀ l ∈ ks, l.pre.state = .streaming) →
    ∃ s, sessions (before ++ enter :: ks) = s :: sessions before ∧
      (Countable s.rateWindows → InWindow config s.rateWindows m ∧
        episodes config s.rateWindows = total Turn.rateEpisodes ks)) ?_ ?_ hks streams
  · intro _
    exact ⟨⟨entered, []⟩, by rw [sessions_snoc, hentered], fun _ => ⟨hin, rfl⟩⟩
  · intro ks m l m' _ ih hl hstreams
    obtain ⟨s, hsession, hwindow⟩ := ih fun k hk => hstreams k (List.mem_append_left _ hk)
    have hstate : m.state = .streaming := by
      rw [← hl.pre]
      exact hstreams l (List.mem_append_right _ List.mem_cons_self)
    obtain ⟨s', hafter, hfewer, hstep⟩ :=
      hl.case.inWindow hstate config s (sessions before)
    refine ⟨s', ?_, ?_⟩
    · rw [← List.cons_append, ← List.append_assoc, sessions_snoc, hsession, hafter]
    · intro hfew
      obtain ⟨hin, hepisodes⟩ := hwindow (hfewer hfew)
      obtain ⟨hin', hepisodes'⟩ := hstep hfew hin
      refine ⟨hin', ?_⟩
      rw [hepisodes', hepisodes, total_snoc]
      obtain ⟨rfl, rfl, -⟩ := hl
      rfl

/-! ## What the detector leaves alone -/

/-- The machine without the members of the detector and the count it adds to.
Source: `capture_state_machine.hpp` members `rate_window_start_`, `rate_window_frame_count_`,
`rate_anomaly_active_`, `stats.hpp` `CaptureStats::record_error` -/
def CaptureStateMachine.sansDetector (m : CaptureStateMachine) : CaptureStateMachine :=
  { m with
    rateWindowStart := 0
    rateWindowFrameCount := 0
    rateAnomalyActive := false
    stats := { m.stats with errors := Function.update m.stats.errors .geometry 0 } }

/-- The members of the detector do not matter without it.
Source: `capture_state_machine.cpp` `CaptureStateMachine::check_arrival_rate` -/
@[simp] theorem sansDetector_updates (m : CaptureStateMachine) :
    m.withWindowFrame.sansDetector = m.sansDetector ∧
      (∀ active, (m.withAnomaly active).sansDetector = m.sansDetector) ∧
      ∀ t, (m.withWindow t).sansDetector = m.sansDetector :=
  ⟨rfl, fun _ => rfl, fun _ => rfl⟩

/-- Geometry errors do not matter without the detector.
Source: `capture_state_machine.cpp` `CaptureStateMachine::check_arrival_rate` -/
@[simp] theorem sansDetector_withError (m : CaptureStateMachine) :
    (m.withError .geometry).sansDetector = m.sansDetector := by
  simp [sansDetector, withError, CaptureStats.recordError]

/-- The detector changes its own members and the count of geometry errors, and nothing else.
Source: `capture_state_machine.cpp` `CaptureStateMachine::check_arrival_rate` -/
theorem sansDetector_checkArrivalRate (rnd : ℚ → ℚ) (m : CaptureStateMachine) (captured : TimePoint) :
    (m.checkArrivalRate rnd captured).sansDetector = m.sansDetector := by
  unfold checkArrivalRate
  dsimp only
  split_ifs <;> simp

/-- A release for a payload size does the same whatever the detector has counted.
Source: `capture_state_machine.cpp` `CaptureStateMachine::begin_release_cycle` -/
theorem sansDetector_released (m : CaptureStateMachine) (now : TimePoint) :
    (m.released .geometry now).sansDetector =
      (m.sansDetector.released .geometry now).sansDetector := by
  simp [sansDetector, released, withDeadline, resetAwaitingProducer, withRecovering, withState,
    withError, withStall, CaptureStats.recordError, CaptureStats.addStall,
    CaptureStats.storeCaptureState]

/-- A turn that takes a frame, as a machine without a detector takes it: the frame is returned to the
device and counted, and the stream goes on unless the payload has the wrong size.
Source: `capture_state_machine.cpp` `CaptureStateMachine::step_streaming` -/
def Turn.TakesFrame (l : Turn) : Prop :=
  ∀ t f, Observation.dequeued t .frame f ∈ l.trace → ∃ w,
    (¬ Observation.isMismatch l.pre.currentFormat (.dequeued t .frame f) ∧
      l.trace = [.dequeued t .frame f, .requeued f.bufferIndex, .wall w] ∧
      l.post.phase = l.pre.phase ∧
      l.post.sansDetector = (l.pre.withFrame id f w).sansDetector) ∨
    (Observation.isMismatch l.pre.currentFormat (.dequeued t .frame f) ∧ ∃ now,
      l.trace = [.dequeued t .frame f, .requeued f.bufferIndex, .wall w,
        .emitted { type := .stallDetected }, .stopped, .closed, .steady now] ∧
      l.post.sansDetector = ((l.pre.withFrame id f w).released .geometry now).sansDetector)

/-- **Every frame is taken as a machine without a detector takes it.**
Source: `capture_state_machine.cpp` `step_streaming`, `check_arrival_rate` -/
theorem CaptureStateMachine.StepCase.takesFrame (hs : m.state = .streaming)
    (h : StepCase id t m tr out m') : Turn.TakesFrame ⟨m, t, tr, out, m'⟩ := by
  intro t' f' hmem
  cases h with
  | @streamsFrame w f _ hp =>
      obtain ⟨rfl, rfl⟩ : t' = t ∧ f' = f := by simpa using hmem
      refine ⟨w, .inl ⟨?_, rfl, ?_, sansDetector_checkArrivalRate id _ _⟩⟩
      · rcases hp with hp | hp <;> simp [hp]
      · simp [CaptureStateMachine.phase]
  | @streamsMismatch w f now _ hc hp =>
      obtain ⟨rfl, rfl⟩ : t' = t ∧ f' = f := by simpa using hmem
      refine ⟨w, .inr ⟨by simp [hc, hp], now, rfl, ?_⟩⟩
      rw [sansDetector_released, sansDetector_released (m.withFrame id f' w)]
      exact congrArg (fun n => (released n .geometry now).sansDetector)
        (sansDetector_checkArrivalRate id _ _)
  | _ => simp_all

/-! ## The detector over a session -/

/-- What the detector does in a session with the turns `ks`, entered at `start` and now at `m`.
Source: `capture_state_machine.cpp` `CaptureStateMachine::check_arrival_rate` -/
structure Detected (config : DaemonConfig) (start : CaptureStateMachine) (ks : List Turn)
    (s : Session) (m : CaptureStateMachine) : Prop where
  /-- The frames of the session are cut into windows of at least two seconds. -/
  cut : IsCut rateWindowDue s.entered s.frames.reverse s.rateWindows
  /-- The members of the detector are those of the windows. -/
  window : InWindow config s.rateWindows m
  /-- Frames that all come too fast in the last closed window leave the latch set. -/
  fast : 0 < config.expectedFps → ∀ w ∈ s.rateWindows.closed.getLast?,
    (∀ g ∈ w.gaps, inSeconds g < gapBound config) → m.rateAnomalyActive = true
  /-- Frames that all come slowly enough leave it clear. -/
  slow : 0 < config.expectedFps → ∀ w ∈ s.rateWindows.closed.getLast?,
    (∀ g ∈ w.gaps, gapBound config ≤ inSeconds g) → m.rateAnomalyActive = false
  /-- The detector counts the runs of windows whose rate is above the threshold. -/
  counts : total Turn.rateEpisodes ks =
    (maximalRuns (exceeds config) s.rateWindows.closed).length
  /-- These and the releases for a payload size are the geometry errors of the session. -/
  errors : m.stats.errors .geometry = start.stats.errors .geometry +
    UInt64.ofNat (total Turn.mismatchReleases ks +
      (maximalRuns (exceeds config) s.rateWindows.closed).length)
  /-- Apart from that the frames are taken as without it. -/
  quiet : ∀ l ∈ ks, l.TakesFrame
  /-- Without an expected rate it counts nothing. -/
  idle : config.expectedFps = 0 → total Turn.rateEpisodes ks = 0

/-- A closed window is not empty in time. Source: none: infrastructure -/
theorem duration_pos {s : Session} {w : Window TimePoint} (hw : w ∈ s.rateWindows.closed) :
    0 < w.stop - w.start := by
  obtain ⟨_, -, hdue, -⟩ := (windows_isCut rateWindowDue s.entered s.frames.reverse).closing w hw
  have hlong : rateAnomalyWindow ≤ w.stop - w.start := of_decide_eq_true hdue
  exact lt_of_lt_of_le (by decide) hlong

/-- **The arrival-rate detector**, in every session of every run, as long as no window has `2 ^ 32`
frames.
Source: `capture_state_machine.cpp` `CaptureStateMachine::check_arrival_rate`, `enter_configuring` -/
theorem arrival_rate {before ks : List Turn} {enter : Turn}
    (h : SessionRun config now before enter ks m) {s : Session}
    (hsession : (sessions (before ++ enter :: ks)).head? = some s)
    (hfew : Countable s.rateWindows) : Detected config enter.post ks s m := by
  obtain ⟨s', hsessions, hwindow⟩ := h.inWindow
  obtain rfl : s' = s := by
    rw [hsessions, List.head?_cons] at hsession
    exact Option.some.inj hsession
  obtain ⟨hin, hepisodes⟩ := hwindow hfew
  have hlatch : ∀ w ∈ s'.rateWindows.closed.getLast?, m.rateAnomalyActive = exceeds config w := by
    intro w hw
    rw [hin.latch, Option.mem_def.mp hw, Option.any_some]
  obtain ⟨run, -, streams⟩ := h
  obtain ⟨u, hbefore, hafter⟩ := run_append.mp run
  obtain ⟨v, henter, hks⟩ := run_cons.mp hafter
  exact {
    cut := windows_isCut _ _ _
    window := hin
    fast := by
      intro hfps w hw hgaps
      rw [hlatch w hw]
      exact exceeds_of_short_gaps hfps (duration_pos (List.mem_of_getLast? hw)) hgaps
    slow := by
      intro hfps w hw hgaps
      rw [hlatch w hw]
      exact not_exceeds_of_long_gaps hfps (duration_pos (List.mem_of_getLast? hw)) hgaps
    counts := hepisodes.symm
    errors := by
      have hstart := (exact_account (Run.snoc hbefore henter)).geometryErrors
      have hend := (exact_account run).geometryErrors
      have hsplit : ∀ count : Turn → Nat, total count (before ++ enter :: ks) =
          total count (before ++ [enter]) + total count ks := by
        intro count
        simp [total, Nat.add_assoc]
      rw [hsplit, hsplit] at hend
      change episodes config s'.rateWindows = _ at hepisodes
      rw [henter.post, hend, hstart, ← UInt64.ofNat_add]
      change _ = UInt64.ofNat (_ + (_ + episodes config s'.rateWindows))
      rw [hepisodes]
      congr 1
      omega
    quiet := by
      intro l hl
      obtain ⟨-, n, n', -, -, hturn⟩ := hks.at_mem hl
      have hcase := hturn.case
      have hstate := streams l hl
      obtain ⟨rfl, rfl, -⟩ := hturn
      exact hcase.takesFrame hstate
    idle := by
      intro hfps
      have hnone : ∀ w ∈ s'.rateWindows.closed, exceeds config w = false := by
        intro w _
        simp [exceeds, hfps]
      rw [← hepisodes, episodes, maximalRuns_eq_nil hnone, List.length_nil] }

end detector

/-! ## A window that is closed by its only frame -/

section detected

/-- A frame two seconds after a cold start. Source: none: infrastructure -/
def slowFrame : FrameDescriptor := { capturedAt := 2000000000 }

/-- The turn that takes it. Source: none: infrastructure -/
def slowTurn : Turn where
  pre := coldStarted id {} 0 {}
  pollTimeout := 200
  trace := [.dequeued 200 .frame slowFrame, .requeued 0, .wall 0]
  outcome := {}
  post := (coldStarted id {} 0 {}).frameTaken id slowFrame 0

/-- Its session is a session inside a run. Source: none: infrastructure -/
theorem slowTurn_session : ∃ opens enter, coldStart id {} 0 {} = [opens, enter] ∧
    enter.post = coldStarted id {} 0 {} ∧ SessionRun {} 0 [opens] enter [slowTurn] slowTurn.post := by
  refine ⟨_, _, rfl, rfl, ?_, ?_, ?_⟩
  · exact (coldStart_run id {} 0 {}).snoc (t := 200) (.streamsFrame rfl (.inr rfl))
  · exact ⟨by decide, rfl⟩
  · intro l hl
    rw [List.mem_singleton.mp hl]
    rfl

/-- The window of a lone frame is closed, and its rate is not above the threshold.
Source: none: infrastructure -/
theorem arrival_rate_slowTurn :
    Detected {} (coldStarted id {} 0 {}) [slowTurn] ⟨0, [2000000000]⟩ slowTurn.post := by
  obtain ⟨opens, enter, hstart, hpost, hsession⟩ := slowTurn_session
  have hsessions : (sessions (opens :: enter :: [slowTurn])).head? = some ⟨0, [2000000000]⟩ := by
    change (sessions ([opens, enter] ++ [slowTurn])).head? = _
    rw [← hstart]
    rfl
  have hfew : Countable (Session.rateWindows ⟨0, [2000000000]⟩) := by
    unfold Countable
    decide
  rw [← hpost]
  exact arrival_rate hsession hsessions hfew

end detected

end Hamstercam
