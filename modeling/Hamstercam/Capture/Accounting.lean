import Mathlib.Data.UInt
import Hamstercam.Capture.Sessions

/-!
# The counters are an account of the run

* `Turn.count`, `Turn.eventCount`, `Turn.frameBytes`, … — what a turn adds to a total: how many
  answers, events and releases of a kind there are in its exchange. `total` sums over a run.
* `StepCase.adds_*` — one lemma for each counter of `CaptureStats`: a step raises the counter by what
  its exchange shows.
* `CaptureRun.counter_eq` — the run lemma for all of them: a counter holds its total, modulo `2 ^ 64`.
* `CaptureRun.histogram_eq` — the interval histogram is made of the differences between consecutive
  frames of one session, and of nothing else.
* `exact_account` — the account as a whole.
-/

namespace Hamstercam

open Interaction CaptureStateMachine

/-! ## What a turn shows -/

namespace Observation

/-- A dequeue answered `Frame`. Source: `capture_device.hpp` `DequeueResult` -/
@[simp] def isFrame : Observation → Bool
  | .dequeued _ .frame _ => true
  | _ => false

/-- A dequeue answered `Error`. Source: `capture_device.hpp` `DequeueResult` -/
@[simp] def isDequeueError : Observation → Bool
  | .dequeued _ .error _ => true
  | _ => false

/-- A dequeue answered `Timeout`. Source: `capture_device.hpp` `DequeueResult` -/
@[simp] def isTimeout : Observation → Bool
  | .dequeued _ .timeout _ => true
  | _ => false

/-- A dequeue answered `DeviceLost`. Source: `capture_device.hpp` `DequeueResult` -/
@[simp] def isDequeueLost : Observation → Bool
  | .dequeued _ .deviceLost _ => true
  | _ => false

/-- An `open` answered `Absent`. Source: `capture_device.hpp` `OpenResult` -/
@[simp] def isOpenFailure : Observation → Bool
  | .opened .absent => true
  | _ => false

/-- A `query_format` answered `Error`. Source: `capture_device.hpp` `FormatResult` -/
@[simp] def isQueryError : Observation → Bool
  | .queried .error _ => true
  | _ => false

/-- A `start_streaming` answered `BufferError`. Source: `capture_device.hpp` `StreamStartResult` -/
@[simp] def isStartFailure : Observation → Bool
  | .started _ .bufferError => true
  | _ => false

/-- An event of type `k` was emitted. Source: `event.hpp` `EventType` -/
@[simp] def isEvent (k : EventType) : Observation → Bool
  | .emitted e => e.type = k
  | _ => false

/-- The payload size of a dequeued frame. Source: `capture_device.hpp` `FrameDescriptor` -/
@[simp] def bytes : Observation → Nat
  | .dequeued _ .frame f => f.bytesUsed.toNat
  | _ => 0

/-- A frame was dequeued whose size is not the one an uncompressed format prescribes.
Source: `capture_state_machine.cpp` `CaptureStateMachine::step_streaming` -/
@[simp] def isMismatch (format : StreamFormat) : Observation → Bool
  | .dequeued _ .frame f => !format.compressed && f.bytesUsed != format.sizeImage.toUInt64
  | _ => false

end Observation

namespace Turn

/-- How many observations of a turn are of a kind. Source: none: infrastructure -/
def count (p : Observation → Bool) (l : Turn) : Nat := l.trace.countP p

/-- The bytes of the frames of a turn. Source: none: infrastructure -/
def frameBytes (l : Turn) : Nat := (l.trace.map Observation.bytes).sum

/-- Failed opens outside recovery. Source: `capture_state_machine.cpp` `step_device_absent` -/
def coldOpenFailures (l : Turn) : Nat :=
  if l.pre.recovering then 0 else l.count Observation.isOpenFailure

/-- Failed opens in recovery. Source: `capture_state_machine.cpp` `step_recovering` -/
def probeOpenFailures (l : Turn) : Nat :=
  if l.pre.recovering then l.count Observation.isOpenFailure else 0

/-- Releases caused by a payload-size mismatch: a stall is reported in the turn of such a frame.
Source: `capture_state_machine.cpp` `CaptureStateMachine::step_streaming` -/
def mismatchReleases (l : Turn) : Nat :=
  if l.trace.any (Observation.isMismatch l.pre.currentFormat) then
    l.count (Observation.isEvent .stallDetected)
  else 0

/-- Releases caused by silence: a stall is reported in a turn whose dequeue timed out.
Source: `capture_state_machine.cpp` `CaptureStateMachine::step_streaming` -/
def timeoutReleases (l : Turn) : Nat :=
  if l.trace.any Observation.isTimeout then l.count (Observation.isEvent .stallDetected) else 0

/-- Rate episodes that begin in the turn.
Source: `capture_state_machine.cpp` `CaptureStateMachine::check_arrival_rate` -/
def rateEpisodes (l : Turn) : Nat :=
  if l.pre.rateAnomalyActive = false ∧ l.post.rateAnomalyActive = true then 1 else 0

/-- The errors of a turn, by reason.
Source: `error_reason.hpp` `ErrorReason`, `capture_state_machine.cpp` -/
def errors (l : Turn) : ErrorReason → Nat
  | .open => l.coldOpenFailures
  | .format => l.count Observation.isQueryError
  | .buffer => l.count Observation.isStartFailure
  | .timeout => l.timeoutReleases
  | .dequeue => l.count Observation.isDequeueError
  | .deviceLost => l.count (Observation.isEvent .deviceLost)
  | .geometry => l.mismatchReleases + l.rateEpisodes
  | .count => 0

end Turn

/-- The sum of a turn count over a run. Source: none: infrastructure -/
def total (count : Turn → Nat) (ls : List Turn) : Nat := (ls.map count).sum

/-- Source: none: infrastructure -/
theorem total_cons (count : Turn → Nat) (l : Turn) (ls : List Turn) :
    total count (l :: ls) = count l + total count ls := by
  simp [total]

/-- Source: none: infrastructure -/
theorem total_snoc (count : Turn → Nat) (ls : List Turn) (l : Turn) :
    total count (ls ++ [l]) = total count ls + count l := by
  simp [total]

section account

variable {rnd : ℚ → ℚ} {config : DaemonConfig} {now : TimePoint} {ls : List Turn}
  {m m' : CaptureStateMachine} {t : Millis} {tr : List Observation} {out : StepOutcome}

/-! ## What a step adds -/

/-- No event is an answer of the device. Source: none: infrastructure -/
theorem countP_comp_emitted {p : Observation → Bool} (hp : ∀ e, p (.emitted e) = false)
    (es : List Event) : es.countP (p ∘ Observation.emitted) = 0 := by
  rw [List.countP_eq_zero]
  intro e _
  simp [hp e]

/-- The end of a recovery reports no stall, no loss and no reconnection.
Source: `capture_state_machine.cpp` `CaptureStateMachine::step_recovering` -/
theorem countP_recoveryEvents {k : EventType} {previous f : StreamFormat}
    (hk : k ≠ .stallCleared ∧ k ≠ .formatChanged ∧ k ≠ .streamingStarted) :
    (recoveryEvents previous f).countP (Observation.isEvent k ∘ Observation.emitted) = 0 := by
  rw [List.countP_eq_zero]
  intro e he
  obtain ⟨h₁, h₂, h₃⟩ := hk
  unfold recoveryEvents at he
  split_ifs at he <;> simp at he <;> rcases he with rfl | rfl | rfl <;>
    simp [Ne.symm h₁, Ne.symm h₂, Ne.symm h₃]

/-- The statistics after a frame.
Source: `capture_state_machine.cpp` `handle_frame`, `check_arrival_rate` -/
theorem frameTaken_stats (f : FrameDescriptor) (w : Int) :
    (m.frameTaken rnd f w).stats =
      if m.rateAnomalyActive = false ∧ (m.frameTaken rnd f w).rateAnomalyActive = true then
        (m.withFrame rnd f w).stats.recordError .geometry
      else (m.withFrame rnd f w).stats :=
  checkArrivalRate_stats _ _

@[simp] theorem frameTaken_framesReceived (f : FrameDescriptor) (w : Int) :
    (m.frameTaken rnd f w).stats.framesReceived = m.stats.framesReceived + 1 := by
  rw [frameTaken_stats]
  split_ifs <;> simp

@[simp] theorem frameTaken_bytesReceived (f : FrameDescriptor) (w : Int) :
    (m.frameTaken rnd f w).stats.bytesReceived = m.stats.bytesReceived + f.bytesUsed := by
  rw [frameTaken_stats]
  split_ifs <;> simp

@[simp] theorem frameTaken_stalls (f : FrameDescriptor) (w : Int) :
    (m.frameTaken rnd f w).stats.stalls = m.stats.stalls := by
  rw [frameTaken_stats]
  split_ifs <;> simp

@[simp] theorem frameTaken_reconnects (f : FrameDescriptor) (w : Int) :
    (m.frameTaken rnd f w).stats.reconnects = m.stats.reconnects := by
  rw [frameTaken_stats]
  split_ifs <;> simp

@[simp] theorem frameTaken_frameIntervalSeconds (f : FrameDescriptor) (w : Int) :
    (m.frameTaken rnd f w).stats.frameIntervalSeconds =
      (m.frameInterval rnd f).elim m.stats.frameIntervalSeconds
        (m.stats.frameIntervalSeconds.observe fun a b => rnd (a + b)) := by
  rw [frameTaken_stats]
  split_ifs <;> simp

/-- A frame counts no error but that of a rate episode.
Source: `capture_state_machine.cpp` `CaptureStateMachine::check_arrival_rate` -/
theorem frameTaken_errors (f : FrameDescriptor) (w : Int) (r : ErrorReason) :
    (m.frameTaken rnd f w).stats.errors r = m.stats.errors r +
      if r = .geometry ∧ m.rateAnomalyActive = false ∧
        (m.frameTaken rnd f w).rateAnomalyActive = true then 1 else 0 := by
  rw [frameTaken_stats]
  by_cases hr : r = .geometry
  · subst hr
    split_ifs <;> simp_all
  · split_ifs <;> simp_all

/-- Frames received. Source: `capture_state_machine.cpp` `CaptureStateMachine::handle_frame` -/
theorem CaptureStateMachine.StepCase.adds_frames (h : StepCase rnd t m tr out m') :
    m'.stats.framesReceived = m.stats.framesReceived +
      UInt64.ofNat (Turn.count Observation.isFrame ⟨m, t, tr, out, m'⟩) := by
  unfold Turn.count
  cases h <;> simp [List.countP_cons, countP_comp_emitted (p := Observation.isFrame) fun _ => rfl]

/-- Bytes received. Source: `capture_state_machine.cpp` `CaptureStateMachine::handle_frame` -/
theorem CaptureStateMachine.StepCase.adds_bytes (h : StepCase rnd t m tr out m') :
    m'.stats.bytesReceived = m.stats.bytesReceived +
      UInt64.ofNat (Turn.frameBytes ⟨m, t, tr, out, m'⟩) := by
  unfold Turn.frameBytes
  cases h with
  | @recoveringStarts _ _ f =>
      have hzero : ∀ es : List Event, (es.map (Observation.bytes ∘ Observation.emitted)).sum = 0 := by
        intro es
        induction es with
        | nil => rfl
        | cons e es ih => simpa using ih
      simp [hzero]
  | _ => simp

/-- Stalls. Source: `capture_state_machine.cpp` `CaptureStateMachine::begin_release_cycle` -/
theorem CaptureStateMachine.StepCase.adds_stalls (h : StepCase rnd t m tr out m') :
    m'.stats.stalls = m.stats.stalls +
      UInt64.ofNat (Turn.count (Observation.isEvent .stallDetected) ⟨m, t, tr, out, m'⟩) := by
  unfold Turn.count
  cases h <;> simp [countP_recoveryEvents]

/-- Reconnections.
Source: `capture_state_machine.cpp` `CaptureStateMachine::step_awaiting_producer` -/
theorem CaptureStateMachine.StepCase.adds_reconnects (h : StepCase rnd t m tr out m') :
    m'.stats.reconnects = m.stats.reconnects +
      UInt64.ofNat (Turn.count (Observation.isEvent .reconnecting) ⟨m, t, tr, out, m'⟩) := by
  unfold Turn.count
  cases h <;> simp [countP_recoveryEvents]

/-- Errors, by reason. Source: `capture_state_machine.cpp`, wherever `record_error` is called -/
theorem CaptureStateMachine.StepCase.adds_errors (hm : Resting m) (h : StepCase rnd t m tr out m')
    (r : ErrorReason) :
    m'.stats.errors r = m.stats.errors r +
      UInt64.ofNat (Turn.errors ⟨m, t, tr, out, m'⟩ r) := by
  have hnot := hm.not_recovering
  cases h with
  | recoveringStarts =>
      cases r <;> simp_all [Turn.errors, Turn.coldOpenFailures, Turn.timeoutReleases,
        Turn.mismatchReleases, Turn.rateEpisodes, Turn.count, countP_recoveryEvents,
        countP_comp_emitted (p := Observation.isQueryError) fun _ => rfl,
        countP_comp_emitted (p := Observation.isStartFailure) fun _ => rfl,
        countP_comp_emitted (p := Observation.isDequeueError) fun _ => rfl]
  | streamsFrame hs hp =>
      -- the payload fits, so only a rate episode can be counted
      rw [frameTaken_errors]
      cases r <;> simp_all [Turn.errors, Turn.coldOpenFailures, Turn.timeoutReleases,
        Turn.mismatchReleases, Turn.rateEpisodes, Turn.count]
      split_ifs <;> simp_all
  | streamsMismatch hs hc hp =>
      -- a rate episode and the release can be counted in one step
      cases r <;> simp_all [Turn.errors, Turn.coldOpenFailures, Turn.timeoutReleases,
        Turn.mismatchReleases, Turn.rateEpisodes, Turn.count, frameTaken_errors]
      split_ifs with hepisode
      · rw [UInt64.add_assoc]
        simp_all
      · simp_all
  | absentWaits hs hw | absentOpens hs hw | absentFails hs hw =>
      have hr := hnot (by simp [hs])
      cases r <;> simp [Turn.errors, Turn.coldOpenFailures, Turn.timeoutReleases,
        Turn.mismatchReleases, Turn.rateEpisodes, Turn.count, hr]
  | streamsTimeout hs hq | streamsStall hs hq | streamsError hs | streamsLoses hs =>
      have hr := hnot (by simp [hs])
      cases r <;> simp [Turn.errors, Turn.coldOpenFailures, Turn.timeoutReleases,
        Turn.mismatchReleases, Turn.rateEpisodes, Turn.count, hr]
  | waitingWaits hs hr hw | waitingNoProducer hs hr hw | waitingQueryFails hs hr hw
  | waitingStartFails hs hr hw | waitingStarts hs hr hw hb | waitingReconnects hs hr hw hb
  | recoveringWaits hs hr hw | recoveringLoses hs hr hw | recoveringNoProducer hs hr hw
  | recoveringQueryFails hs hr hw | recoveringStartFails hs hr hw =>
      cases r <;> simp [Turn.errors, Turn.coldOpenFailures, Turn.timeoutReleases,
        Turn.mismatchReleases, Turn.rateEpisodes, Turn.count, List.countP_cons, hr]
  | transient hs =>
      cases r <;> simp [Turn.errors, Turn.coldOpenFailures, Turn.timeoutReleases,
        Turn.mismatchReleases, Turn.rateEpisodes, Turn.count]

/-- A device is lost in a dequeue or when a probe cannot open it.
Source: `capture_state_machine.cpp` `step_recovering`, `step_streaming` -/
theorem CaptureStateMachine.StepCase.losses (hm : Resting m) (h : StepCase rnd t m tr out m') :
    Turn.count (Observation.isEvent .deviceLost) ⟨m, t, tr, out, m'⟩ =
      Turn.count Observation.isDequeueLost ⟨m, t, tr, out, m'⟩ +
        Turn.probeOpenFailures ⟨m, t, tr, out, m'⟩ := by
  have hnot := hm.not_recovering
  unfold Turn.probeOpenFailures Turn.count
  cases h <;> simp_all [List.countP_cons, countP_recoveryEvents,
    countP_comp_emitted (p := Observation.isDequeueLost) fun _ => rfl,
    countP_comp_emitted (p := Observation.isOpenFailure) fun _ => rfl]

/-- A device is released because of a timeout or because of a payload size.
Source: `capture_state_machine.cpp` `CaptureStateMachine::step_streaming` -/
theorem CaptureStateMachine.StepCase.releases (h : StepCase rnd t m tr out m') :
    Turn.count (Observation.isEvent .stallDetected) ⟨m, t, tr, out, m'⟩ =
      Turn.timeoutReleases ⟨m, t, tr, out, m'⟩ + Turn.mismatchReleases ⟨m, t, tr, out, m'⟩ := by
  unfold Turn.timeoutReleases Turn.mismatchReleases Turn.count
  cases h <;> simp_all [countP_recoveryEvents]

/-! ## What a run adds up to -/

/-- Totals of sums. Source: none: infrastructure -/
theorem total_add (f g : Turn → Nat) (ls : List Turn) :
    total (fun l => f l + g l) ls = total f ls + total g ls := by
  induction ls with
  | nil => rfl
  | cons l ls ih =>
      rw [total_cons, total_cons, total_cons, ih]
      omega

/-- **A counter holds its total**, modulo `2 ^ 64`, when it starts at zero and every step raises it by
what the turn counts.
Source: none: infrastructure -/
theorem CaptureRun.counter_eq (counter : CaptureStateMachine → UInt64) {count : Turn → Nat}
    (start : counter (.new rnd config now) = 0)
    (adds : ∀ {m t tr out m'}, Resting m → StepCase rnd t m tr out m' →
      counter m' = counter m + UInt64.ofNat (count ⟨m, t, tr, out, m'⟩))
    (h : CaptureRun rnd config now ls m) : counter m = UInt64.ofNat (total count ls) := by
  have hsum : counter m = counter (.new rnd config now) +
      (ls.map fun l => UInt64.ofNat (count l)).sum := by
    refine Run.total ?_ h
    intro ls m l m' hrun hl
    have hadds := adds (CaptureRun.resting hrun) hl.case
    obtain ⟨rfl, rfl, -⟩ := hl
    exact hadds
  have hofNat : ∀ ls : List Turn,
      (ls.map fun l => UInt64.ofNat (count l)).sum = UInt64.ofNat (total count ls) := by
    intro ls
    induction ls with
    | nil => rfl
    | cons l ls ih => rw [List.map_cons, List.sum_cons, ih, total_cons, UInt64.ofNat_add]
  rw [hsum, start, hofNat, UInt64.zero_add]

/-- A relation between the counts of one turn is a relation between their totals.
Source: none: infrastructure -/
theorem CaptureRun.total_congr {f g : Turn → Nat}
    (each : ∀ {m t tr out m'}, Resting m → StepCase rnd t m tr out m' →
      f ⟨m, t, tr, out, m'⟩ = g ⟨m, t, tr, out, m'⟩)
    (h : CaptureRun rnd config now ls m) : total f ls = total g ls := by
  refine Run.history_invariant (fun ls _ => total f ls = total g ls) rfl ?_ h
  intro ls m l m' hrun ih hl
  have heach := each (CaptureRun.resting hrun) hl.case
  obtain ⟨rfl, rfl, -⟩ := hl
  rw [total_snoc, total_snoc, ih, heach]

/-! ## The interval histogram -/

/-- The differences between neighbours of a list of times, newest first.
Source: `capture_state_machine.cpp` `CaptureStateMachine::handle_frame` -/
def consecutive : List TimePoint → List Int
  | later :: earlier :: ts => (later - earlier) :: consecutive (earlier :: ts)
  | _ => []

/-- The times between consecutive frames of the same session, newest first.
Source: `capture_state_machine.cpp` `CaptureStateMachine::handle_frame` -/
def intervals (ss : List Session) : List Int := ss.flatMap fun s => consecutive s.frames

/-- A histogram of time differences, newest first, in seconds.
Source: `capture_state_machine.cpp` `CaptureStateMachine::handle_frame` -/
def histogramOf (rnd : ℚ → ℚ) (ds : List Int) : Histogram ℚ :=
  ds.foldr (fun d h => h.observe (fun a b => rnd (a + b)) (rnd (rnd d / 1000000000)))
    (Histogram.new 0 (frameIntervalBuckets rnd))

/-- A session of `n + 1` frames has `n` intervals. Source: none: infrastructure -/
theorem length_consecutive (ts : List TimePoint) : (consecutive ts).length = ts.length - 1 := by
  fun_induction consecutive ts with
  | case1 later earlier ts ih =>
      rw [List.length_cons, ih]
      simp
  | case2 ts hts =>
      cases ts with
      | nil => rfl
      | cons later ts =>
          cases ts with
          | nil => rfl
          | cons earlier ts => exact absurd rfl (hts later earlier ts)

/-- Source: none: infrastructure -/
theorem length_intervals (ss : List Session) :
    (intervals ss).length = (ss.map fun s => s.frames.length - 1).sum := by
  simp [intervals, List.length_flatMap, length_consecutive]

/-- A histogram counts its observations. Source: `histogram.hpp` `Histogram::observe` -/
theorem histogramOf_total (rnd : ℚ → ℚ) (ds : List Int) :
    (histogramOf rnd ds).total = UInt64.ofNat ds.length := by
  induction ds with
  | nil => rfl
  | cons d ds ih =>
      have hcons : histogramOf rnd (d :: ds) = (histogramOf rnd ds).observe (fun a b => rnd (a + b))
        (rnd (rnd d / 1000000000)) := rfl
      rw [hcons, Histogram.observe_total, ih, List.length_cons, UInt64.ofNat_add]
      rfl

/-- A frame of the newest session adds its distance from the frame before it, if there is one.
Source: `capture_state_machine.cpp` `CaptureStateMachine::handle_frame` -/
theorem histogramOf_addFrame {ss : List Session} {f : FrameDescriptor} (hs : m.state = .streaming)
    (hss : InSession m ss) :
    histogramOf rnd (intervals (addFrame f.capturedAt ss)) =
      (m.frameInterval rnd f).elim (histogramOf rnd (intervals ss))
        ((histogramOf rnd (intervals ss)).observe fun a b => rnd (a + b)) := by
  obtain ⟨s, hs₁, hs₂⟩ := hss hs
  obtain ⟨ss, rfl⟩ := List.head?_eq_some_iff.mp hs₁
  unfold CaptureStateMachine.lastFrame at hs₂
  unfold CaptureStateMachine.frameInterval
  by_cases hhave : m.haveLastFrame = true
  · rw [if_pos hhave] at hs₂ ⊢
    obtain ⟨ts, hts⟩ := List.head?_eq_some_iff.mp hs₂
    simp [addFrame, intervals, hts, consecutive, histogramOf]
  · rw [if_neg hhave] at hs₂ ⊢
    have hnil : s.frames = [] := List.head?_eq_none_iff.mp hs₂
    simp [addFrame, intervals, hnil, consecutive]

/-- **Every step keeps the histogram exact.**
Source: `capture_state_machine.cpp` `CaptureStateMachine::step` -/
theorem CaptureStateMachine.StepCase.adds_interval {ss : List Session} (hss : InSession m ss)
    (hh : m.stats.frameIntervalSeconds = histogramOf rnd (intervals ss))
    (h : StepCase rnd t m tr out m') :
    m'.stats.frameIntervalSeconds = histogramOf rnd (intervals (sessionsAfter ss tr)) := by
  cases h with
  | @streamsFrame w f hs hp =>
      rw [frameTaken_frameIntervalSeconds, hh]
      exact (histogramOf_addFrame hs hss).symm
  | @streamsMismatch w f now hs hc hp =>
      have hfinal : ((m.frameTaken rnd f w).released .geometry now).stats.frameIntervalSeconds =
          (m.frameTaken rnd f w).stats.frameIntervalSeconds := by simp
      rw [hfinal, frameTaken_frameIntervalSeconds, hh]
      exact (histogramOf_addFrame hs hss).symm
  | @recoveringStarts _ now' f hs hr hw =>
      rw [sessionsAfter_recovered]
      exact hh
  | recoveringLoses hs hr hw => simpa [sessionsAfter] using hh
  | streamsStall hs hq => simpa [sessionsAfter] using hh
  | streamsLoses hs => simpa [sessionsAfter] using hh
  | _ => exact hh

/-- **The histogram of a run** is that of the intervals of its sessions.
Source: `capture_state_machine.cpp` `CaptureStateMachine::handle_frame` -/
theorem CaptureRun.histogram_eq (h : CaptureRun rnd config now ls m) :
    m.stats.frameIntervalSeconds = histogramOf rnd (intervals (sessions ls)) := by
  refine Run.history_invariant (fun ls m =>
    m.stats.frameIntervalSeconds = histogramOf rnd (intervals (sessions ls))) rfl ?_ h
  intro ls m l m' hrun ih hl
  rw [sessions_snoc]
  exact hl.case.adds_interval (CaptureRun.inSession hrun) ih

/-- The frames of all sessions. Source: none: infrastructure -/
def sessionFrames (ss : List Session) : Nat := (ss.map fun s => s.frames.length).sum

/-- Every frame a step takes belongs to a session.
Source: `capture_state_machine.cpp` `CaptureStateMachine::step_streaming` -/
theorem CaptureStateMachine.StepCase.adds_sessionFrames {ss : List Session} (hss : InSession m ss)
    (h : StepCase rnd t m tr out m') :
    sessionFrames (sessionsAfter ss tr) =
      sessionFrames ss + Turn.count Observation.isFrame ⟨m, t, tr, out, m'⟩ := by
  have hadd : ∀ f : FrameDescriptor, m.state = .streaming →
      sessionFrames (addFrame f.capturedAt ss) = sessionFrames ss + 1 := by
    intro f hs
    obtain ⟨s, hs₁, -⟩ := hss hs
    obtain ⟨ss, rfl⟩ := List.head?_eq_some_iff.mp hs₁
    simp only [addFrame, sessionFrames, List.map_cons, List.sum_cons, List.length_cons]
    omega
  unfold Turn.count
  cases h with
  | @streamsFrame w f hs hp => exact hadd f hs
  | @streamsMismatch w f now hs hc hp => exact hadd f hs
  | @recoveringStarts now now' f hs hr hw =>
      rw [sessionsAfter_recovered]
      simp [sessionFrames, countP_comp_emitted (p := Observation.isFrame) fun _ => rfl]
  | _ => simp [sessionsAfter, sessionFrames]

/-- **Every frame of a run belongs to one session.**
Source: `capture_state_machine.cpp` `CaptureStateMachine::step_streaming` -/
theorem CaptureRun.sessionFrames_eq (h : CaptureRun rnd config now ls m) :
    sessionFrames (sessions ls) = total (Turn.count Observation.isFrame) ls := by
  refine Run.history_invariant (fun ls _ =>
    sessionFrames (sessions ls) = total (Turn.count Observation.isFrame) ls) rfl ?_ h
  intro ls m l m' hrun ih hl
  have hadds := hl.case.adds_sessionFrames (CaptureRun.inSession hrun)
  obtain ⟨rfl, rfl, -⟩ := hl
  rw [sessions_snoc, total_snoc, hadds, ih]

/-! ## The account -/

/-- What the statistics say about a run: 64-bit counters are taken modulo `2 ^ 64`.
Source: `stats.hpp` `CaptureStats` -/
structure Account (rnd : ℚ → ℚ) (ls : List Turn) (stats : CaptureStats) : Prop where
  /-- Frames are dequeues that answered `Frame`. -/
  frames : stats.framesReceived = UInt64.ofNat (total (Turn.count Observation.isFrame) ls)
  /-- Bytes are the payloads of those frames. -/
  bytes : stats.bytesReceived = UInt64.ofNat (total Turn.frameBytes ls)
  /-- Every frame belongs to a session. -/
  sessionFrames : sessionFrames (sessions ls) = total (Turn.count Observation.isFrame) ls
  /-- The observed intervals are those between consecutive frames of a session, and no others. -/
  histogram : stats.frameIntervalSeconds = histogramOf rnd (intervals (sessions ls))
  /-- A session of `n` frames has `n - 1` intervals, and one without frames has none. -/
  intervals : stats.frameIntervalSeconds.total =
    UInt64.ofNat ((sessions ls).map fun s => s.frames.length - 1).sum
  /-- Stalls are `stall_detected` events. -/
  stalls : stats.stalls = UInt64.ofNat (total (Turn.count (Observation.isEvent .stallDetected)) ls)
  /-- Reconnections are `reconnecting` events. -/
  reconnects :
    stats.reconnects = UInt64.ofNat (total (Turn.count (Observation.isEvent .reconnecting)) ls)
  /-- Open errors are failed opens outside recovery. -/
  openErrors : stats.errors .open = UInt64.ofNat (total Turn.coldOpenFailures ls)
  /-- Format errors are `query_format` answers `Error`. -/
  formatErrors :
    stats.errors .format = UInt64.ofNat (total (Turn.count Observation.isQueryError) ls)
  /-- Buffer errors are failed starts. -/
  bufferErrors :
    stats.errors .buffer = UInt64.ofNat (total (Turn.count Observation.isStartFailure) ls)
  /-- Dequeue errors are dequeue answers `Error`. -/
  dequeueErrors :
    stats.errors .dequeue = UInt64.ofNat (total (Turn.count Observation.isDequeueError) ls)
  /-- Losses are `device_lost` events … -/
  lostErrors : stats.errors .deviceLost =
    UInt64.ofNat (total (Turn.count (Observation.isEvent .deviceLost)) ls)
  /-- … and these are dequeue answers `DeviceLost` and failed opens in recovery. -/
  losses : total (Turn.count (Observation.isEvent .deviceLost)) ls =
    total (Turn.count Observation.isDequeueLost) ls + total Turn.probeOpenFailures ls
  /-- The other stalls are timeout errors. -/
  timeoutErrors :
    stats.errors .timeout + UInt64.ofNat (total Turn.mismatchReleases ls) = stats.stalls
  /-- Geometry errors are payload mismatches that release the device, and rate episodes. -/
  geometryErrors : stats.errors .geometry =
    UInt64.ofNat (total Turn.mismatchReleases ls + total Turn.rateEpisodes ls)

/-- **The counters are an exact account of the run.**
Source: `capture_state_machine.cpp`, `stats.hpp` `CaptureStats` -/
theorem exact_account (h : CaptureRun rnd config now ls m) : Account rnd ls m.stats := by
  have herrors : ∀ r, m.stats.errors r = UInt64.ofNat (total (fun l => l.errors r) ls) := by
    intro r
    exact CaptureRun.counter_eq (fun m => m.stats.errors r) rfl
      (fun hm hcase => hcase.adds_errors hm r) h
  have hstalls : m.stats.stalls =
      UInt64.ofNat (total (Turn.count (Observation.isEvent .stallDetected)) ls) :=
    CaptureRun.counter_eq (fun m => m.stats.stalls) rfl
      (fun _ hcase => hcase.adds_stalls) h
  have hreleases : total (Turn.count (Observation.isEvent .stallDetected)) ls =
      total Turn.timeoutReleases ls + total Turn.mismatchReleases ls := by
    rw [← total_add]
    exact CaptureRun.total_congr (fun _ hcase => hcase.releases) h
  have hlosses : total (Turn.count (Observation.isEvent .deviceLost)) ls =
      total (Turn.count Observation.isDequeueLost) ls + total Turn.probeOpenFailures ls := by
    rw [← total_add]
    exact CaptureRun.total_congr (fun hm hcase => hcase.losses hm) h
  have hhistogram := CaptureRun.histogram_eq h
  exact {
    frames := CaptureRun.counter_eq (fun m => m.stats.framesReceived) rfl
      (fun _ hcase => hcase.adds_frames) h
    bytes := CaptureRun.counter_eq (fun m => m.stats.bytesReceived) rfl
      (fun _ hcase => hcase.adds_bytes) h
    sessionFrames := CaptureRun.sessionFrames_eq h
    histogram := hhistogram
    intervals := by rw [hhistogram, histogramOf_total, length_intervals]
    stalls := hstalls
    reconnects := CaptureRun.counter_eq (fun m => m.stats.reconnects) rfl
      (fun _ hcase => hcase.adds_reconnects) h
    openErrors := herrors .open
    formatErrors := herrors .format
    bufferErrors := herrors .buffer
    dequeueErrors := herrors .dequeue
    lostErrors := herrors .deviceLost
    losses := hlosses
    timeoutErrors := by
      have htimeout : m.stats.errors .timeout = UInt64.ofNat (total Turn.timeoutReleases ls) :=
        herrors .timeout
      rw [htimeout, hstalls, hreleases, UInt64.ofNat_add]
    geometryErrors := by
      rw [← total_add]
      exact herrors .geometry }

end account

/-- The account of a cold start and one frame. Source: none: infrastructure -/
theorem exact_account_coldFrame : Account id coldFrameTurns coldFrame.stats :=
  exact_account coldFrame_run

end Hamstercam
