import Hamstercam.Capture.Machine

/-!
# What one step can do

* `Observation` — one exchange of the machine with the world, with a name for each call.
* `does_handleFrame`, `does_beginReleaseCycle`, `does_loseDevice`, `does_enterConfiguring` — the
  specification of each member function the steps share.
* `StepCase m tr out m'` — the complete list of what `step` can do from `m`: which exchange, which
  outcome, which successor. `stepCase_iff` says that it is exactly that, so an invariant of the machine
  is proved by one case for each constructor and no member function is unfolded again.
-/

namespace Hamstercam

open Interaction

/-! ## Observations -/

/-- One exchange of the machine with the world. Source: none: infrastructure -/
abbrev Observation : Type := Obs Call.Answer

namespace Observation

/-- `open()` answered `r`. Source: none: infrastructure -/
@[match_pattern] abbrev opened (r : OpenResult) : Observation := ⟨.device .openDevice, r⟩

/-- `close()` was called. Source: none: infrastructure -/
@[match_pattern] abbrev closed : Observation := ⟨.device .closeDevice, ()⟩

/-- `query_format` answered `r` with format `f`. Source: none: infrastructure -/
@[match_pattern] abbrev queried (r : FormatResult) (f : StreamFormat) : Observation :=
  ⟨.device .queryFormat, (r, f)⟩

/-- `start_streaming(n)` answered `r`. Source: none: infrastructure -/
@[match_pattern] abbrev started (n : UInt32) (r : StreamStartResult) : Observation :=
  ⟨.device (.startStreaming n), r⟩

/-- `stop_streaming()` was called. Source: none: infrastructure -/
@[match_pattern] abbrev stopped : Observation := ⟨.device .stopStreaming, ()⟩

/-- `dequeue_frame(t)` answered `r` with frame `f`. Source: none: infrastructure -/
@[match_pattern] abbrev dequeued (t : Millis) (r : DequeueResult) (f : FrameDescriptor) :
    Observation := ⟨.device (.dequeueFrame t), (r, f)⟩

/-- `requeue_frame(i)` was called. Source: none: infrastructure -/
@[match_pattern] abbrev requeued (i : UInt32) : Observation := ⟨.device (.requeueFrame i), ()⟩

/-- `steady_now()` read `t`. Source: none: infrastructure -/
@[match_pattern] abbrev steady (t : TimePoint) : Observation := ⟨.steadyNow, t⟩

/-- `wall_now()` read `t`. Source: none: infrastructure -/
@[match_pattern] abbrev wall (t : Int) : Observation := ⟨.wallNow, t⟩

/-- `e` was emitted. Source: none: infrastructure -/
@[match_pattern] abbrev emitted (e : Event) : Observation := ⟨.emit e, ()⟩

end Observation

namespace CaptureStateMachine

variable {rnd : ℚ → ℚ} {m m' : CaptureStateMachine} {tr : List Observation} {u : Unit}
  {out : StepOutcome} {t : Millis}

/-! ## Where the shared member functions lead -/

/-- The machine after a release for `reason`, at clock reading `now`.
Source: `capture_state_machine.cpp` `CaptureStateMachine::begin_release_cycle` -/
def released (m : CaptureStateMachine) (reason : ErrorReason) (now : TimePoint) :
    CaptureStateMachine :=
  (((((m.withStall.withError reason).withState .stalled).withState .awaitingProducer).withRecovering
    true).resetAwaitingProducer).withDeadline now

/-- The machine after the loss of the device, at clock reading `now`.
Source: `capture_state_machine.cpp` `CaptureStateMachine::lose_device` -/
def lost (m : CaptureStateMachine) (now : TimePoint) : CaptureStateMachine :=
  ((((m.withError .deviceLost).withState .deviceAbsent).withRecovering false).resetBackoffs).withDeadline
    now

/-- The machine after a failed start, at clock reading `now`.
Source: `capture_state_machine.cpp` `CaptureStateMachine::enter_configuring` -/
def startFailed (m : CaptureStateMachine) (now : TimePoint) : CaptureStateMachine :=
  (((m.withState .configuring).withError .buffer).withState .awaitingProducer).delayAwaitingProducer
    now

/-- The machine after a successful start, at clock reading `now`.
Source: `capture_state_machine.cpp` `CaptureStateMachine::enter_configuring` -/
def sessionStarted (m : CaptureStateMachine) (now : TimePoint) : CaptureStateMachine :=
  ((m.withState .configuring).withSession now).withState .streaming

attribute [simp] released lost startFailed sessionStarted

/-- The machine after a dequeued frame, before the payload check.
Source: `capture_state_machine.cpp` `CaptureStateMachine::step_streaming` -/
def frameTaken (rnd : ℚ → ℚ) (m : CaptureStateMachine) (frame : FrameDescriptor) (wall : Int) :
    CaptureStateMachine :=
  (m.withFrame rnd frame wall).checkArrivalRate rnd frame.capturedAt

/-- The statistics after the rate check: a new episode counts one geometry error.
Source: `capture_state_machine.cpp` `CaptureStateMachine::check_arrival_rate` -/
theorem checkArrivalRate_stats (m : CaptureStateMachine) (now : TimePoint) :
    (m.checkArrivalRate rnd now).stats =
      if m.rateAnomalyActive = false ∧ (m.checkArrivalRate rnd now).rateAnomalyActive = true then
        m.stats.recordError .geometry
      else m.stats := by
  unfold checkArrivalRate
  dsimp only
  split_ifs <;> simp_all

section frameTaken

variable (f : FrameDescriptor) (w : Int)

/-- A frame changes the rate window and the statistics, and is remembered as the last one. The rest of
the machine stays as it was. Source: `capture_state_machine.cpp` `CaptureStateMachine::handle_frame` -/
@[simp] theorem frameTaken_frame :
    (m.frameTaken rnd f w).config = m.config ∧
      (m.frameTaken rnd f w).state = m.state ∧
      (m.frameTaken rnd f w).recovering = m.recovering ∧
      (m.frameTaken rnd f w).deviceAbsentBackoff = m.deviceAbsentBackoff ∧
      (m.frameTaken rnd f w).awaitingProducerBackoff = m.awaitingProducerBackoff ∧
      (m.frameTaken rnd f w).nextAttemptAt = m.nextAttemptAt ∧
      (m.frameTaken rnd f w).hasStreamedBefore = m.hasStreamedBefore ∧
      (m.frameTaken rnd f w).stallThreshold = m.stallThreshold ∧
      (m.frameTaken rnd f w).lastFrameAt = f.capturedAt ∧
      (m.frameTaken rnd f w).haveLastFrame = true := by
  simp only [frameTaken, checkArrivalRate]
  split_ifs <;> simp

/-- The format does not change with a frame. Source: none: infrastructure -/
@[simp] theorem frameTaken_currentFormat :
    (m.frameTaken rnd f w).currentFormat = m.currentFormat := by
  simp only [frameTaken, checkArrivalRate]
  split_ifs <;> rfl

end frameTaken

/-- `begin_release_cycle` stops and closes the device and reads the clock.
Source: `capture_state_machine.cpp` `CaptureStateMachine::begin_release_cycle` -/
theorem does_beginReleaseCycle {reason : ErrorReason} :
    Does (beginReleaseCycle reason) m tr u m' ↔ ∃ now, m' = m.released reason now ∧
      tr = [.emitted { type := .stallDetected }, .stopped, .closed, .steady now] := by
  simp only [beginReleaseCycle, does_modify_bind, does_perform_bind, does_modify]
  constructor
  · rintro ⟨_, _, rfl, _, _, rfl, _, _, rfl, now, _, rfl, rfl, rfl⟩
    exact ⟨now, rfl, rfl⟩
  · rintro ⟨now, rfl, rfl⟩
    exact ⟨_, _, rfl, _, _, rfl, _, _, rfl, now, _, rfl, rfl, rfl⟩

/-- `lose_device` stops and closes the device and reads the clock.
Source: `capture_state_machine.cpp` `CaptureStateMachine::lose_device` -/
theorem does_loseDevice :
    Does loseDevice m tr u m' ↔ ∃ now, m' = m.lost now ∧
      tr = [.stopped, .closed, .emitted { type := .deviceLost }, .steady now] := by
  simp only [loseDevice, does_modify_bind, does_perform_bind, does_modify]
  constructor
  · rintro ⟨_, _, rfl, _, _, rfl, _, _, rfl, now, _, rfl, rfl, rfl⟩
    exact ⟨now, rfl, rfl⟩
  · rintro ⟨now, rfl, rfl⟩
    exact ⟨_, _, rfl, _, _, rfl, _, _, rfl, now, _, rfl, rfl, rfl⟩

/-- `handle_frame` returns the buffer before it looks at the wall clock.
Source: `capture_state_machine.cpp` `CaptureStateMachine::handle_frame` -/
theorem does_handleFrame {frame : FrameDescriptor} :
    Does (handleFrame rnd frame) m tr u m' ↔ ∃ w, m' = m.withFrame rnd frame w ∧
      tr = [.requeued frame.bufferIndex, .wall w] := by
  simp only [handleFrame, does_modify, does_perform_bind]
  constructor
  · rintro ⟨_, _, rfl, w, _, rfl, rfl, rfl⟩
    exact ⟨w, rfl, rfl⟩
  · rintro ⟨w, rfl, rfl⟩
    exact ⟨_, _, rfl, w, _, rfl, rfl, rfl⟩

/-- `enter_configuring` starts the stream or queues a retry.
Source: `capture_state_machine.cpp` `CaptureStateMachine::enter_configuring` -/
theorem does_enterConfiguring :
    Does enterConfiguring m tr out m' ↔ ∃ now,
      (m' = m.startFailed now ∧ out = ⟨m.awaitingProducerBackoff.current⟩ ∧
        tr = [.started m.config.bufferCount .bufferError, .steady now]) ∨
      (m' = m.sessionStarted now ∧ out = {} ∧
        tr = [.started m.config.bufferCount .started, .steady now]) := by
  simp only [enterConfiguring, does_modify_bind, does_perform_bind, does_get_bind]
  constructor
  · rintro ⟨r, tr, rfl, h⟩
    cases r with
    | bufferError =>
        simp only [↓reduceIte, does_modify_bind, does_perform_bind, does_pure] at h
        obtain ⟨now, _, rfl, rfl, rfl, rfl⟩ := h
        exact ⟨now, .inl ⟨rfl, rfl, rfl⟩⟩
    | started =>
        simp only [reduceCtorEq, ↓reduceIte, does_modify_bind, does_perform_bind, does_pure] at h
        obtain ⟨now, _, rfl, rfl, rfl, rfl⟩ := h
        exact ⟨now, .inr ⟨rfl, rfl, rfl⟩⟩
  · rintro ⟨now, ⟨rfl, rfl, rfl⟩ | ⟨rfl, rfl, rfl⟩⟩
    · exact ⟨.bufferError, _, rfl, .call (.ret _)⟩
    · exact ⟨.started, _, rfl, .call (.ret _)⟩

/-! ## The cases of a step -/

/-- The events of a session that starts in recovery: `format_changed` only when the format differs.
Source: `capture_state_machine.cpp` `CaptureStateMachine::step_recovering` -/
def recoveryEvents (previous format : StreamFormat) : List Event :=
  { type := .stallCleared } ::
    ((if format = previous then []
      else [{ type := .formatChanged, format := format, previousFormat := previous }]) ++
      [{ type := .streamingStarted, format := format }])

/-- Everything `step` can do from `m`, with poll timeout `t`.
Source: `capture_state_machine.cpp` `CaptureStateMachine::step` and the functions it calls -/
inductive StepCase (rnd : ℚ → ℚ) (t : Millis) (m : CaptureStateMachine) :
    List Observation → StepOutcome → CaptureStateMachine → Prop
  | absentWaits {now} (hs : m.state = .deviceAbsent) (hw : now < m.nextAttemptAt) :
      StepCase rnd t m [.steady now] ⟨durationCastMillis (m.nextAttemptAt - now)⟩ m
  | absentOpens {now} (hs : m.state = .deviceAbsent) (hw : m.nextAttemptAt ≤ now) :
      StepCase rnd t m
        [.steady now, .opened .opened, .emitted { type := .deviceOpened },
          .emitted { type := .awaitingProducer }]
        {} (m.resetBackoffs.withState .awaitingProducer)
  | absentFails {now} (hs : m.state = .deviceAbsent) (hw : m.nextAttemptAt ≤ now) :
      StepCase rnd t m [.steady now, .opened .absent] ⟨m.deviceAbsentBackoff.current⟩
        ((m.withError .open).delayDeviceAbsent now)
  | waitingWaits {now} (hs : m.state = .awaitingProducer) (hr : m.recovering = false)
      (hw : now < m.nextAttemptAt) :
      StepCase rnd t m [.steady now] ⟨durationCastMillis (m.nextAttemptAt - now)⟩ m
  | waitingNoProducer {now f} (hs : m.state = .awaitingProducer) (hr : m.recovering = false)
      (hw : m.nextAttemptAt ≤ now) :
      StepCase rnd t m [.steady now, .queried .noProducer f] ⟨m.awaitingProducerBackoff.current⟩
        (m.delayAwaitingProducer now)
  | waitingQueryFails {now f} (hs : m.state = .awaitingProducer) (hr : m.recovering = false)
      (hw : m.nextAttemptAt ≤ now) :
      StepCase rnd t m [.steady now, .queried .error f] ⟨m.awaitingProducerBackoff.current⟩
        ((m.withError .format).delayAwaitingProducer now)
  | waitingStartFails {now now' f} (hs : m.state = .awaitingProducer) (hr : m.recovering = false)
      (hw : m.nextAttemptAt ≤ now) :
      StepCase rnd t m
        [.steady now, .queried .known f, .started m.config.bufferCount .bufferError, .steady now']
        ⟨m.awaitingProducerBackoff.current⟩ ((m.withFormat f).startFailed now')
  | waitingStarts {now now' f} (hs : m.state = .awaitingProducer) (hr : m.recovering = false)
      (hw : m.nextAttemptAt ≤ now) (hb : m.hasStreamedBefore = false) :
      StepCase rnd t m
        [.steady now, .queried .known f, .started m.config.bufferCount .started, .steady now',
          .emitted { type := .streamingStarted, format := f }]
        {} ((m.withFormat f).sessionStarted now').withStreamed
  | waitingReconnects {now now' f} (hs : m.state = .awaitingProducer) (hr : m.recovering = false)
      (hw : m.nextAttemptAt ≤ now) (hb : m.hasStreamedBefore = true) :
      StepCase rnd t m
        [.steady now, .queried .known f, .started m.config.bufferCount .started, .steady now',
          .emitted { type := .reconnecting }]
        {} ((m.withFormat f).sessionStarted now').withReconnect
  | recoveringWaits {now} (hs : m.state = .awaitingProducer) (hr : m.recovering = true)
      (hw : now < m.nextAttemptAt) :
      StepCase rnd t m [.steady now] ⟨durationCastMillis (m.nextAttemptAt - now)⟩ m
  | recoveringLoses {now now'} (hs : m.state = .awaitingProducer) (hr : m.recovering = true)
      (hw : m.nextAttemptAt ≤ now) :
      StepCase rnd t m
        [.steady now, .opened .absent, .stopped, .closed, .emitted { type := .deviceLost },
          .steady now']
        {} (m.lost now')
  | recoveringNoProducer {now f} (hs : m.state = .awaitingProducer) (hr : m.recovering = true)
      (hw : m.nextAttemptAt ≤ now) :
      StepCase rnd t m [.steady now, .opened .opened, .queried .noProducer f, .closed]
        ⟨m.awaitingProducerBackoff.current⟩ (m.delayAwaitingProducer now)
  | recoveringQueryFails {now f} (hs : m.state = .awaitingProducer) (hr : m.recovering = true)
      (hw : m.nextAttemptAt ≤ now) :
      StepCase rnd t m [.steady now, .opened .opened, .queried .error f, .closed]
        ⟨m.awaitingProducerBackoff.current⟩ ((m.withError .format).delayAwaitingProducer now)
  | recoveringStartFails {now now' f} (hs : m.state = .awaitingProducer) (hr : m.recovering = true)
      (hw : m.nextAttemptAt ≤ now) :
      StepCase rnd t m
        [.steady now, .opened .opened, .queried .known f,
          .started m.config.bufferCount .bufferError, .steady now', .closed]
        ⟨m.awaitingProducerBackoff.current⟩ ((m.withFormat f).startFailed now')
  | recoveringStarts {now now' f} (hs : m.state = .awaitingProducer) (hr : m.recovering = true)
      (hw : m.nextAttemptAt ≤ now) :
      StepCase rnd t m
        ([.steady now, .opened .opened, .queried .known f,
          .started m.config.bufferCount .started, .steady now'] ++
          (recoveryEvents m.currentFormat f).map .emitted)
        {} (((m.withFormat f).sessionStarted now').withRecovering false)
  | streamsFrame {w f} (hs : m.state = .streaming)
      (hp : m.currentFormat.compressed = true ∨ f.bytesUsed = m.currentFormat.sizeImage.toUInt64) :
      StepCase rnd t m [.dequeued t .frame f, .requeued f.bufferIndex, .wall w] {}
        (m.frameTaken rnd f w)
  | streamsMismatch {w f now} (hs : m.state = .streaming) (hc : m.currentFormat.compressed = false)
      (hp : f.bytesUsed ≠ m.currentFormat.sizeImage.toUInt64) :
      StepCase rnd t m
        [.dequeued t .frame f, .requeued f.bufferIndex, .wall w,
          .emitted { type := .stallDetected }, .stopped, .closed, .steady now]
        {} ((m.frameTaken rnd f w).released .geometry now)
  | streamsTimeout {now f} (hs : m.state = .streaming)
      (hq : ¬ (m.haveLastFrame = true ∧ m.stallThreshold.toNanos ≤ now - m.lastFrameAt)) :
      StepCase rnd t m [.dequeued t .timeout f, .steady now] {} m
  | streamsStall {now now' f} (hs : m.state = .streaming)
      (hq : m.haveLastFrame = true ∧ m.stallThreshold.toNanos ≤ now - m.lastFrameAt) :
      StepCase rnd t m
        [.dequeued t .timeout f, .steady now, .emitted { type := .stallDetected }, .stopped,
          .closed, .steady now']
        {} (m.released .timeout now')
  | streamsError {f} (hs : m.state = .streaming) :
      StepCase rnd t m [.dequeued t .error f] {} (m.withError .dequeue)
  | streamsLoses {now f} (hs : m.state = .streaming) :
      StepCase rnd t m
        [.dequeued t .deviceLost f, .stopped, .closed, .emitted { type := .deviceLost },
          .steady now]
        {} (m.lost now)
  | transient (hs : m.state = .configuring ∨ m.state = .stalled) : StepCase rnd t m [] {} m

/-! ## The list is complete, and it is exact -/

/-- Source: `capture_state_machine.cpp` `CaptureStateMachine::step_device_absent` -/
theorem stepCase_of_stepDeviceAbsent (hs : m.state = .deviceAbsent)
    (h : Does stepDeviceAbsent m tr out m') : StepCase rnd t m tr out m' := by
  simp only [stepDeviceAbsent, does_perform_bind, does_get_bind] at h
  obtain ⟨now, tr, rfl, h⟩ := h
  by_cases hw : now < m.nextAttemptAt
  · rw [if_pos hw, does_pure] at h
    obtain ⟨rfl, rfl, rfl⟩ := h
    exact .absentWaits hs hw
  · rw [if_neg hw, does_perform_bind] at h
    obtain ⟨r, tr, rfl, h⟩ := h
    cases r with
    | opened =>
        simp only [↓reduceIte, does_modify_bind, does_perform_bind, does_pure] at h
        obtain ⟨_, _, rfl, _, _, rfl, rfl, rfl, rfl⟩ := h
        exact .absentOpens hs (Int.not_lt.mp hw)
    | absent =>
        simp only [reduceCtorEq, ↓reduceIte, does_modify_bind, does_pure] at h
        obtain ⟨rfl, rfl, rfl⟩ := h
        exact .absentFails hs (Int.not_lt.mp hw)

/-- Source: `capture_state_machine.cpp` `CaptureStateMachine::step_awaiting_producer` -/
theorem stepCase_of_stepAwaitingProducer (hs : m.state = .awaitingProducer)
    (hr : m.recovering = false) (h : Does stepAwaitingProducer m tr out m') :
    StepCase rnd t m tr out m' := by
  simp only [stepAwaitingProducer, does_perform_bind, does_get_bind] at h
  obtain ⟨now, tr, rfl, h⟩ := h
  by_cases hw : now < m.nextAttemptAt
  · rw [if_pos hw, does_pure] at h
    obtain ⟨rfl, rfl, rfl⟩ := h
    exact .waitingWaits hs hr hw
  · rw [if_neg hw, does_perform_bind] at h
    obtain ⟨⟨r, f⟩, tr, rfl, h⟩ := h
    cases r with
    | noProducer =>
        simp only [↓reduceIte, does_modify_bind, does_pure] at h
        obtain ⟨rfl, rfl, rfl⟩ := h
        exact .waitingNoProducer hs hr (Int.not_lt.mp hw)
    | error =>
        simp only [reduceCtorEq, ↓reduceIte, does_modify_bind, does_pure] at h
        obtain ⟨rfl, rfl, rfl⟩ := h
        exact .waitingQueryFails hs hr (Int.not_lt.mp hw)
    | known =>
        simp only [reduceCtorEq, ↓reduceIte, does_modify_bind] at h
        obtain ⟨_, _, o, m₁, rfl, he, hk⟩ := does_bind.mp h
        obtain ⟨now', ⟨rfl, rfl, rfl⟩ | ⟨rfl, rfl, rfl⟩⟩ := does_enterConfiguring.mp he
        · simp only [does_get_bind, startFailed, delayAwaitingProducer_state, withState_state,
            reduceCtorEq, ↓reduceIte, does_pure] at hk
          obtain ⟨rfl, rfl, rfl⟩ := hk
          exact .waitingStartFails hs hr (Int.not_lt.mp hw)
        · simp only [does_get_bind, sessionStarted, withState_state, ↓reduceIte] at hk
          by_cases hb : m.hasStreamedBefore = true
          · rw [if_pos (by simpa using hb)] at hk
            simp only [does_modify_bind, does_perform_bind, does_pure] at hk
            obtain ⟨_, _, rfl, rfl, rfl, rfl⟩ := hk
            exact .waitingReconnects hs hr (Int.not_lt.mp hw) hb
          · rw [if_neg (by simpa using hb)] at hk
            simp only [does_modify_bind, does_perform_bind, does_pure] at hk
            obtain ⟨_, _, rfl, rfl, rfl, rfl⟩ := hk
            exact .waitingStarts hs hr (Int.not_lt.mp hw) (by simpa using hb)

/-- Source: `capture_state_machine.cpp` `CaptureStateMachine::step_recovering` -/
theorem stepCase_of_stepRecovering (hs : m.state = .awaitingProducer) (hr : m.recovering = true)
    (h : Does stepRecovering m tr out m') : StepCase rnd t m tr out m' := by
  simp only [stepRecovering, does_perform_bind, does_get_bind] at h
  obtain ⟨now, tr, rfl, h⟩ := h
  by_cases hw : now < m.nextAttemptAt
  · rw [if_pos hw, does_pure] at h
    obtain ⟨rfl, rfl, rfl⟩ := h
    exact .recoveringWaits hs hr hw
  · rw [if_neg hw, does_perform_bind] at h
    obtain ⟨r, tr, rfl, h⟩ := h
    cases r with
    | absent =>
        rw [if_pos (by simp), does_bind] at h
        obtain ⟨_, _, _, m₁, rfl, hl, hk⟩ := h
        obtain ⟨now', rfl, rfl⟩ := does_loseDevice.mp hl
        obtain ⟨rfl, rfl, rfl⟩ := does_pure.mp hk
        exact .recoveringLoses hs hr (Int.not_lt.mp hw)
    | opened =>
        simp only [ne_eq, not_true_eq_false, ↓reduceIte, does_perform_bind] at h
        obtain ⟨⟨r, f⟩, tr, rfl, h⟩ := h
        cases r with
        | noProducer =>
            simp only [reduceCtorEq, not_false_eq_true, ↓reduceIte, does_perform_bind,
              does_modify_bind, does_pure] at h
            obtain ⟨_, _, rfl, rfl, rfl, rfl⟩ := h
            exact .recoveringNoProducer hs hr (Int.not_lt.mp hw)
        | error =>
            simp only [reduceCtorEq, not_false_eq_true, ↓reduceIte, does_perform_bind,
              does_modify_bind, does_pure] at h
            obtain ⟨_, _, rfl, rfl, rfl, rfl⟩ := h
            exact .recoveringQueryFails hs hr (Int.not_lt.mp hw)
        | known =>
            simp only [not_true_eq_false, ↓reduceIte, does_modify_bind] at h
            obtain ⟨_, _, o, m₁, rfl, he, hk⟩ := does_bind.mp h
            obtain ⟨now', ⟨rfl, rfl, rfl⟩ | ⟨rfl, rfl, rfl⟩⟩ := does_enterConfiguring.mp he
            · simp only [does_get_bind, startFailed, delayAwaitingProducer_state, withState_state,
                reduceCtorEq, ↓reduceIte, does_perform_bind, does_pure] at hk
              obtain ⟨_, _, rfl, rfl, rfl, rfl⟩ := hk
              exact .recoveringStartFails hs hr (Int.not_lt.mp hw)
            · simp only [does_get_bind, sessionStarted, withState_state, ↓reduceIte,
                does_modify_bind, does_perform_bind] at hk
              obtain ⟨_, _, rfl, hk⟩ := hk
              have hcase := @StepCase.recoveringStarts rnd t m now now' f hs hr (Int.not_lt.mp hw)
              by_cases hf : f = m.currentFormat
              · simp only [if_neg (not_not.mpr hf), does_perform_bind, does_pure] at hk
                obtain ⟨_, _, rfl, rfl, rfl, rfl⟩ := hk
                rw [recoveryEvents, if_pos hf] at hcase
                exact hcase
              · simp only [if_pos hf, does_perform_bind, does_pure] at hk
                obtain ⟨_, _, rfl, _, _, rfl, rfl, rfl, rfl⟩ := hk
                rw [recoveryEvents, if_neg hf] at hcase
                exact hcase

/-- Source: `capture_state_machine.cpp` `CaptureStateMachine::step_streaming` -/
theorem stepCase_of_stepStreaming (hs : m.state = .streaming)
    (h : Does (stepStreaming rnd t) m tr out m') : StepCase rnd t m tr out m' := by
  simp only [stepStreaming, does_perform_bind] at h
  obtain ⟨⟨r, f⟩, tr, rfl, h⟩ := h
  cases r with
  | frame =>
      obtain ⟨_, _, _, m₁, rfl, hf, hk⟩ := does_bind.mp h
      obtain ⟨w, rfl, rfl⟩ := does_handleFrame.mp hf
      simp only [does_modify_bind, does_get_bind] at hk
      change Does (if (m.frameTaken rnd f w).currentFormat.compressed = false ∧ f.bytesUsed ≠
        (m.frameTaken rnd f w).currentFormat.sizeImage.toUInt64 then _ else _)
        (m.frameTaken rnd f w) _ _ _ at hk
      rw [frameTaken_currentFormat] at hk
      split_ifs at hk with hp
      · obtain ⟨_, _, _, m₂, rfl, hb, hk'⟩ := does_bind.mp hk
        obtain ⟨now, rfl, rfl⟩ := does_beginReleaseCycle.mp hb
        obtain ⟨rfl, rfl, rfl⟩ := does_pure.mp hk'
        exact .streamsMismatch hs hp.1 hp.2
      · obtain ⟨rfl, rfl, rfl⟩ := does_pure.mp hk
        refine .streamsFrame hs ?_
        by_cases hc : m.currentFormat.compressed = true
        · exact .inl hc
        · exact .inr (not_not.mp fun hne => hp ⟨by simpa using hc, hne⟩)
  | timeout =>
      simp only [does_perform_bind, does_get_bind] at h
      obtain ⟨now, tr, rfl, h⟩ := h
      split_ifs at h with hq
      · obtain ⟨_, _, _, m₂, rfl, hb, hk'⟩ := does_bind.mp h
        obtain ⟨now', rfl, rfl⟩ := does_beginReleaseCycle.mp hb
        obtain ⟨rfl, rfl, rfl⟩ := does_pure.mp hk'
        exact .streamsStall hs hq
      · obtain ⟨rfl, rfl, rfl⟩ := does_pure.mp h
        exact .streamsTimeout hs hq
  | error =>
      simp only [does_modify_bind, does_pure] at h
      obtain ⟨rfl, rfl, rfl⟩ := h
      exact .streamsError hs
  | deviceLost =>
      obtain ⟨_, _, _, m₂, rfl, hl, hk'⟩ := does_bind.mp h
      obtain ⟨now, rfl, rfl⟩ := does_loseDevice.mp hl
      obtain ⟨rfl, rfl, rfl⟩ := does_pure.mp hk'
      exact .streamsLoses hs

/-- **Every step is one of the listed cases.**
Source: `capture_state_machine.cpp` `CaptureStateMachine::step` -/
theorem stepCase_of_does (h : Does (step rnd t) m tr out m') : StepCase rnd t m tr out m' := by
  simp only [step, does_get_bind] at h
  cases hs : m.state with
  | deviceAbsent => exact stepCase_of_stepDeviceAbsent hs (by simpa only [hs] using h)
  | awaitingProducer =>
      simp only [hs] at h
      split_ifs at h with hr
      · exact stepCase_of_stepRecovering hs hr h
      · exact stepCase_of_stepAwaitingProducer hs (by simpa using hr) h
  | configuring =>
      simp only [hs, does_pure] at h
      obtain ⟨rfl, rfl, rfl⟩ := h
      exact .transient (.inl hs)
  | stalled =>
      simp only [hs, does_pure] at h
      obtain ⟨rfl, rfl, rfl⟩ := h
      exact .transient (.inr hs)
  | streaming => exact stepCase_of_stepStreaming hs (by simpa only [hs] using h)

/-- A step from `deviceAbsent` is `step_device_absent`.
Source: `capture_state_machine.cpp` `CaptureStateMachine::step` -/
theorem does_step_of_absent (hs : m.state = .deviceAbsent) (h : Does stepDeviceAbsent m tr out m') :
    Does (step rnd t) m tr out m' := by
  simp only [step, does_get_bind, hs]
  exact h

/-- A step of an ordinary wait is `step_awaiting_producer`.
Source: `capture_state_machine.cpp` `CaptureStateMachine::step` -/
theorem does_step_of_waiting (hs : m.state = .awaitingProducer) (hr : m.recovering = false)
    (h : Does stepAwaitingProducer m tr out m') : Does (step rnd t) m tr out m' := by
  simp only [step, does_get_bind, hs, hr, Bool.false_eq_true, ↓reduceIte]
  exact h

/-- A step of a recovery is `step_recovering`.
Source: `capture_state_machine.cpp` `CaptureStateMachine::step` -/
theorem does_step_of_recovering (hs : m.state = .awaitingProducer) (hr : m.recovering = true)
    (h : Does stepRecovering m tr out m') : Does (step rnd t) m tr out m' := by
  simp only [step, does_get_bind, hs, hr, ↓reduceIte]
  exact h

/-- A step of a session is `step_streaming`.
Source: `capture_state_machine.cpp` `CaptureStateMachine::step` -/
theorem does_step_of_streaming (hs : m.state = .streaming)
    (h : Does (stepStreaming rnd t) m tr out m') : Does (step rnd t) m tr out m' := by
  simp only [step, does_get_bind, hs]
  exact h

/-- Every listed case can happen.
Source: `capture_state_machine.cpp` `CaptureStateMachine::step` -/
theorem does_of_stepCase (h : StepCase rnd t m tr out m') : Does (step rnd t) m tr out m' := by
  cases h with
  | absentWaits hs hw =>
      refine does_step_of_absent hs (does_perform_bind.mpr ⟨_, _, rfl, ?_⟩)
      rw [does_get_bind, if_pos hw]
      exact .ret _
  | absentOpens hs hw =>
      refine does_step_of_absent hs (does_perform_bind.mpr ⟨_, _, rfl, ?_⟩)
      rw [does_get_bind, if_neg (Int.not_lt.mpr hw)]
      exact .call (.call (.call (.ret _)))
  | absentFails hs hw =>
      refine does_step_of_absent hs (does_perform_bind.mpr ⟨_, _, rfl, ?_⟩)
      rw [does_get_bind, if_neg (Int.not_lt.mpr hw)]
      exact .call (.ret _)
  | waitingWaits hs hr hw =>
      refine does_step_of_waiting hs hr (does_perform_bind.mpr ⟨_, _, rfl, ?_⟩)
      rw [does_get_bind, if_pos hw]
      exact .ret _
  | waitingNoProducer hs hr hw =>
      refine does_step_of_waiting hs hr (does_perform_bind.mpr ⟨_, _, rfl, ?_⟩)
      rw [does_get_bind, if_neg (Int.not_lt.mpr hw)]
      exact .call (.ret _)
  | waitingQueryFails hs hr hw =>
      refine does_step_of_waiting hs hr (does_perform_bind.mpr ⟨_, _, rfl, ?_⟩)
      rw [does_get_bind, if_neg (Int.not_lt.mpr hw)]
      exact .call (.ret _)
  | waitingStartFails hs hr hw =>
      refine does_step_of_waiting hs hr (does_perform_bind.mpr ⟨_, _, rfl, ?_⟩)
      rw [does_get_bind, if_neg (Int.not_lt.mpr hw)]
      exact .call (.call (.call (.ret _)))
  | @waitingStarts now now' f hs hr hw hb =>
      refine does_step_of_waiting hs hr (does_perform_bind.mpr ⟨_, _, rfl, ?_⟩)
      rw [does_get_bind, if_neg (Int.not_lt.mpr hw), does_perform_bind]
      refine ⟨(.known, f), _, rfl, does_bind.mpr ⟨[], _, _, m.withFormat f, rfl, .ret _,
        does_bind.mpr ⟨[_, _], _, _, _, rfl,
          does_enterConfiguring.mpr ⟨now', .inr ⟨rfl, rfl, rfl⟩⟩, ?_⟩⟩⟩
      rw [does_get_bind]
      dsimp only
      rw [if_pos (by simp), if_neg (by simpa using hb)]
      exact .call (.ret _)
  | @waitingReconnects now now' f hs hr hw hb =>
      refine does_step_of_waiting hs hr (does_perform_bind.mpr ⟨_, _, rfl, ?_⟩)
      rw [does_get_bind, if_neg (Int.not_lt.mpr hw), does_perform_bind]
      refine ⟨(.known, f), _, rfl, does_bind.mpr ⟨[], _, _, m.withFormat f, rfl, .ret _,
        does_bind.mpr ⟨[_, _], _, _, _, rfl,
          does_enterConfiguring.mpr ⟨now', .inr ⟨rfl, rfl, rfl⟩⟩, ?_⟩⟩⟩
      rw [does_get_bind]
      dsimp only
      rw [if_pos (by simp), if_pos (by simpa using hb)]
      exact .call (.ret _)
  | recoveringWaits hs hr hw =>
      refine does_step_of_recovering hs hr (does_perform_bind.mpr ⟨_, _, rfl, ?_⟩)
      rw [does_get_bind, if_pos hw]
      exact .ret _
  | recoveringLoses hs hr hw =>
      refine does_step_of_recovering hs hr (does_perform_bind.mpr ⟨_, _, rfl, ?_⟩)
      rw [does_get_bind, if_neg (Int.not_lt.mpr hw), does_perform_bind]
      exact ⟨.absent, _, rfl, .call (.call (.call (.call (.ret _))))⟩
  | recoveringNoProducer hs hr hw =>
      refine does_step_of_recovering hs hr (does_perform_bind.mpr ⟨_, _, rfl, ?_⟩)
      rw [does_get_bind, if_neg (Int.not_lt.mpr hw)]
      exact .call (.call (.call (.ret _)))
  | recoveringQueryFails hs hr hw =>
      refine does_step_of_recovering hs hr (does_perform_bind.mpr ⟨_, _, rfl, ?_⟩)
      rw [does_get_bind, if_neg (Int.not_lt.mpr hw)]
      exact .call (.call (.call (.ret _)))
  | recoveringStartFails hs hr hw =>
      refine does_step_of_recovering hs hr (does_perform_bind.mpr ⟨_, _, rfl, ?_⟩)
      rw [does_get_bind, if_neg (Int.not_lt.mpr hw), does_perform_bind]
      exact ⟨.opened, _, rfl, .call (.call (.call (.call (.ret _))))⟩
  | @recoveringStarts now now' f hs hr hw =>
      refine does_step_of_recovering hs hr (does_perform_bind.mpr ⟨_, _, rfl, ?_⟩)
      rw [does_get_bind, if_neg (Int.not_lt.mpr hw), does_perform_bind]
      refine ⟨.opened, _, rfl, ?_⟩
      rw [if_neg (by simp), does_perform_bind]
      refine ⟨(.known, f), _, rfl, does_bind.mpr ⟨[], _, _, m.withFormat f, rfl, .ret _,
        does_bind.mpr ⟨[_, _], _, _, _, rfl,
          does_enterConfiguring.mpr ⟨now', .inr ⟨rfl, rfl, rfl⟩⟩, ?_⟩⟩⟩
      rw [does_get_bind]
      dsimp only
      rw [if_pos (by simp), does_modify_bind, does_perform_bind]
      refine ⟨(), _, rfl, ?_⟩
      by_cases hf : f = m.currentFormat
      · rw [if_pos hf, if_neg (not_not.mpr hf)]
        exact .call (.ret _)
      · rw [if_neg hf, if_pos hf]
        exact .call (.call (.ret _))
  | @streamsFrame w f hs hp =>
      refine does_step_of_streaming hs (does_perform_bind.mpr ⟨(.frame, f), _, rfl,
        does_bind.mpr ⟨[_, _], [], (), _, rfl, does_handleFrame.mpr ⟨w, rfl, rfl⟩,
          does_bind.mpr ⟨[], _, _, m.frameTaken rnd f w, rfl, .ret _, ?_⟩⟩⟩)
      rw [does_get_bind]
      dsimp only
      rw [frameTaken_currentFormat, if_neg fun ⟨hc, hne⟩ => hp.elim (by simp [hc]) hne]
      exact .ret _
  | @streamsMismatch w f now hs hc hp =>
      refine does_step_of_streaming hs (does_perform_bind.mpr ⟨(.frame, f), _, rfl,
        does_bind.mpr ⟨[_, _], _, (), _, rfl, does_handleFrame.mpr ⟨w, rfl, rfl⟩,
          does_bind.mpr ⟨[], _, _, m.frameTaken rnd f w, rfl, .ret _, ?_⟩⟩⟩)
      rw [does_get_bind]
      dsimp only
      rw [frameTaken_currentFormat, if_pos ⟨hc, hp⟩]
      exact .call (.call (.call (.call (.ret _))))
  | @streamsTimeout now f hs hq =>
      refine does_step_of_streaming hs (does_perform_bind.mpr ⟨(.timeout, f), _, rfl,
        does_perform_bind.mpr ⟨now, _, rfl, ?_⟩⟩)
      rw [does_get_bind, if_neg hq]
      exact .ret _
  | @streamsStall now now' f hs hq =>
      refine does_step_of_streaming hs (does_perform_bind.mpr ⟨(.timeout, f), _, rfl,
        does_perform_bind.mpr ⟨now, _, rfl, ?_⟩⟩)
      rw [does_get_bind, if_pos hq]
      exact .call (.call (.call (.call (.ret _))))
  | streamsError hs => exact does_step_of_streaming hs (.call (.ret _))
  | streamsLoses hs =>
      exact does_step_of_streaming hs (.call (.call (.call (.call (.call (.ret _))))))
  | transient hs =>
      simp only [step, does_get_bind]
      rcases hs with hs | hs <;> rw [hs] <;> exact .ret _

/-- **What one step can do**, exactly.
Source: `capture_state_machine.cpp` `CaptureStateMachine::step` -/
theorem stepCase_iff : Does (step rnd t) m tr out m' ↔ StepCase rnd t m tr out m' :=
  ⟨stepCase_of_does, does_of_stepCase⟩

end CaptureStateMachine

end Hamstercam
