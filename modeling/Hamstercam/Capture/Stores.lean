import Hamstercam.Capture.Runs
import Hamstercam.Lib.SharedMemory

/-!
# The capture thread and the statistics it shares

The capture machine with every single write to `CaptureStats`, as the other thread can see them.

* `StatsWrite` — a write: an atomic operation, or what is done while a mutex is held. `StatsCell` — what it
  is a write to. `statsMemory` — the memory they make up.
* `SharedCapture` — the member functions of `CaptureStateMachine` once more, statement by statement, with
  the writes in the order of the source.
* `refines_step` — the calls are those of `step`, the writes add up to what `step` leaves, and none of them
  is made more often than `stepCells` says.
* `SharedTurn`, `SharedRun` — turns and runs of this machine. `written` is the log of a run.
-/

namespace Hamstercam

open Interaction SharedMemory

/-! ## The writes -/

/-- A write to the statistics. Source: `stats.hpp` `CaptureStats`, `histogram.hpp` `Histogram::observe` -/
inductive StatsWrite
  /-- `frames_received.fetch_add(1)` -/
  | frame
  /-- `bytes_received.fetch_add(n)` -/
  | bytes (n : UInt64)
  /-- `last_frame_unixtime.store(seconds)` -/
  | unixtime (seconds : Int)
  /-- `frame_interval_seconds.observe(seconds)`, under the mutex of the histogram. -/
  | interval (seconds : ℚ)
  /-- `capture_state.store(state)` -/
  | state (state : CaptureState)
  /-- `record_error(reason)` -/
  | error (reason : ErrorReason)
  /-- `reconnects.fetch_add(1)` -/
  | reconnect
  /-- `stalls.fetch_add(1)` -/
  | stall
  /-- `set_stream_info(format)`, under `stream_info_mutex_`. -/
  | streamInfo (format : StreamFormat)

/-- What is written and read at once. Source: `stats.hpp` `CaptureStats` -/
inductive StatsCell
  | framesReceived
  | bytesReceived
  | captureState
  | reconnects
  | stalls
  | lastFrameUnixtime
  | frameIntervalSeconds
  | errors (reason : ErrorReason)
  | streamInfo
  deriving DecidableEq

/-- Source: `stats.hpp` `CaptureStats` -/
def StatsWrite.cell : StatsWrite → StatsCell
  | .frame => .framesReceived
  | .bytes _ => .bytesReceived
  | .unixtime _ => .lastFrameUnixtime
  | .interval _ => .frameIntervalSeconds
  | .state _ => .captureState
  | .error reason => .errors reason
  | .reconnect => .reconnects
  | .stall => .stalls
  | .streamInfo _ => .streamInfo

/-- Source: `stats.hpp` `CaptureStats` -/
def CaptureStats.write (rnd : ℚ → ℚ) (s : CaptureStats) : StatsWrite → CaptureStats
  | .frame => { s with framesReceived := s.framesReceived + 1 }
  | .bytes n => { s with bytesReceived := s.bytesReceived + n }
  | .unixtime seconds => { s with lastFrameUnixtime := seconds }
  | .interval seconds =>
      { s with
        frameIntervalSeconds := s.frameIntervalSeconds.observe (fun a b => rnd (a + b)) seconds }
  | .state state => s.storeCaptureState state
  | .error reason => s.recordError reason
  | .reconnect => s.addReconnect
  | .stall => s.addStall
  | .streamInfo format => s.setStreamInfo format

/-- The statistics, as the capture thread leaves them. Source: `stats.hpp` `CaptureStats` -/
def statsMemory (rnd : ℚ → ℚ) : Memory CaptureStateMachine CaptureStats StatsWrite StatsCell where
  content m := m.stats
  write := CaptureStats.write rnd
  update m w := { m with stats := m.stats.write rnd w }
  cell := StatsWrite.cell
  content_update _ _ := rfl

/-! ## The member functions -/

/-- A member function of the machine, with its single writes.
Source: `capture_state_machine.hpp` -/
abbrev Shared : Type → Type :=
  StateT CaptureStateMachine (Prog (Access.Answer StatsWrite Call.Answer))

namespace SharedCapture

open CaptureStateMachine (rateAnomalyWindow rateExceeds resetBackoffs resetAwaitingProducer withStreamed
  withWindowFrame)

variable (rnd : ℚ → ℚ)

/-- Source: `capture_state_machine.cpp` -/
abbrev store (w : StatsWrite) : Shared Unit := (statsMemory rnd).store w

/-- `device_.open()`. Source: `capture_state_machine.cpp` -/
abbrev openDevice : Shared OpenResult := ask (Call.device .openDevice)

/-- `device_.close()`. Source: `capture_state_machine.cpp` -/
abbrev closeDevice : Shared Unit := ask (Call.device .closeDevice)

/-- `device_.query_format(format)`. Source: `capture_state_machine.cpp` -/
abbrev queryFormat : Shared (FormatResult × StreamFormat) := ask (Call.device .queryFormat)

/-- `device_.start_streaming(count)`. Source: `capture_state_machine.cpp` -/
abbrev startStreaming (count : UInt32) : Shared StreamStartResult :=
  ask (Call.device (.startStreaming count))

/-- `device_.stop_streaming()`. Source: `capture_state_machine.cpp` -/
abbrev stopStreaming : Shared Unit := ask (Call.device .stopStreaming)

/-- `device_.dequeue_frame(timeout, frame)`. Source: `capture_state_machine.cpp` -/
abbrev dequeueFrame (timeout : Millis) : Shared (DequeueResult × FrameDescriptor) :=
  ask (Call.device (.dequeueFrame timeout))

/-- `device_.requeue_frame(index)`. Source: `capture_state_machine.cpp` -/
abbrev requeueFrame (index : UInt32) : Shared Unit := ask (Call.device (.requeueFrame index))

/-- `clock_.steady_now()`. Source: `capture_state_machine.cpp` -/
abbrev steadyNow : Shared TimePoint := ask Call.steadyNow

/-- `clock_.wall_now()`. Source: `capture_state_machine.cpp` -/
abbrev wallNow : Shared Int := ask Call.wallNow

/-- `events_.emit(event)`. Source: `capture_state_machine.cpp` -/
abbrev emit (event : Event) : Shared Unit := ask (Call.emit event)

/-- `state_ = s; stats_.capture_state.store(s)`. Source: `capture_state_machine.cpp` -/
def setState (s : CaptureState) : Shared Unit := do
  modify fun m => { m with state := s }
  store rnd (.state s)

/-- Source: `capture_state_machine.cpp` `CaptureStateMachine::handle_frame` -/
def handleFrame (frame : FrameDescriptor) : Shared Unit := do
  requeueFrame frame.bufferIndex
  store rnd .frame
  store rnd (.bytes frame.bytesUsed)
  let wall ← wallNow
  store rnd (.unixtime (durationCastSeconds wall))
  let m ← get
  if m.haveLastFrame then
    store rnd (.interval (rnd (rnd (frame.capturedAt - m.lastFrameAt : Int) / 1000000000)))
  modify fun m => { m with lastFrameAt := frame.capturedAt, haveLastFrame := true }

/-- Source: `capture_state_machine.cpp` `CaptureStateMachine::check_arrival_rate` -/
def checkArrivalRate (now : TimePoint) : Shared Unit := do
  modify withWindowFrame
  let m ← get
  let elapsed := now - m.rateWindowStart
  if elapsed < rateAnomalyWindow then
    return
  if rateExceeds rnd m.config m.rateWindowFrameCount elapsed then
    if !m.rateAnomalyActive then
      store rnd (.error .geometry)
      modify (·.withAnomaly true)
  else
    modify (·.withAnomaly false)
  modify (·.withWindow now)

/-- Source: `capture_state_machine.cpp` `CaptureStateMachine::begin_release_cycle` -/
def beginReleaseCycle (reason : ErrorReason) : Shared Unit := do
  store rnd .stall
  store rnd (.error reason)
  setState rnd .stalled
  emit { type := .stallDetected }
  stopStreaming
  closeDevice
  setState rnd .awaitingProducer
  modify (·.withRecovering true)
  modify resetAwaitingProducer
  let now ← steadyNow
  modify (·.withDeadline now)

/-- Source: `capture_state_machine.cpp` `CaptureStateMachine::lose_device` -/
def loseDevice : Shared Unit := do
  store rnd (.error .deviceLost)
  stopStreaming
  closeDevice
  emit { type := .deviceLost }
  setState rnd .deviceAbsent
  modify (·.withRecovering false)
  modify resetBackoffs
  let now ← steadyNow
  modify (·.withDeadline now)

/-- Source: `capture_state_machine.cpp` `CaptureStateMachine::enter_configuring` -/
def enterConfiguring : Shared StepOutcome := do
  setState rnd .configuring
  let m ← get
  if (← startStreaming m.config.bufferCount) = .bufferError then
    store rnd (.error .buffer)
    setState rnd .awaitingProducer
    let delay := m.awaitingProducerBackoff.next.1
    let now ← steadyNow
    modify (·.delayAwaitingProducer now)
    return ⟨delay⟩
  modify resetBackoffs
  store rnd (.streamInfo m.currentFormat)
  modify fun m => { m with haveLastFrame := false }
  let now ← steadyNow
  modify fun m =>
    { m with rateWindowStart := now, rateWindowFrameCount := 0, rateAnomalyActive := false }
  setState rnd .streaming
  return {}

/-- Source: `capture_state_machine.cpp` `CaptureStateMachine::step_device_absent` -/
def stepDeviceAbsent : Shared StepOutcome := do
  let now ← steadyNow
  let m ← get
  if now < m.nextAttemptAt then
    return ⟨durationCastMillis (m.nextAttemptAt - now)⟩
  if (← openDevice) = .opened then
    modify resetBackoffs
    setState rnd .awaitingProducer
    emit { type := .deviceOpened }
    emit { type := .awaitingProducer }
    return {}
  store rnd (.error .open)
  modify (·.delayDeviceAbsent now)
  return ⟨m.deviceAbsentBackoff.next.1⟩

/-- Source: `capture_state_machine.cpp` `CaptureStateMachine::step_awaiting_producer` -/
def stepAwaitingProducer : Shared StepOutcome := do
  let now ← steadyNow
  let m ← get
  if now < m.nextAttemptAt then
    return ⟨durationCastMillis (m.nextAttemptAt - now)⟩
  let (result, format) ← queryFormat
  if result = .noProducer then
    modify (·.delayAwaitingProducer now)
    return ⟨m.awaitingProducerBackoff.next.1⟩
  if result = .error then
    store rnd (.error .format)
    modify (·.delayAwaitingProducer now)
    return ⟨m.awaitingProducerBackoff.next.1⟩
  modify (·.withFormat format)
  let outcome ← enterConfiguring rnd
  let m ← get
  if m.state = .streaming then
    if m.hasStreamedBefore then
      store rnd .reconnect
      emit { type := .reconnecting }
    else
      modify withStreamed
      emit { type := .streamingStarted, format := m.currentFormat }
  return outcome

/-- Source: `capture_state_machine.cpp` `CaptureStateMachine::step_recovering` -/
def stepRecovering : Shared StepOutcome := do
  let now ← steadyNow
  let m ← get
  if now < m.nextAttemptAt then
    return ⟨durationCastMillis (m.nextAttemptAt - now)⟩
  if (← openDevice) ≠ .opened then
    loseDevice rnd
    return {}
  let (result, format) ← queryFormat
  if result ≠ .known then
    closeDevice
    if result = .error then
      store rnd (.error .format)
    modify (·.delayAwaitingProducer now)
    return ⟨m.awaitingProducerBackoff.next.1⟩
  let previous := m.currentFormat
  modify (·.withFormat format)
  let outcome ← enterConfiguring rnd
  let m ← get
  if m.state = .streaming then
    modify (·.withRecovering false)
    emit { type := .stallCleared }
    if ¬ format = previous then
      emit { type := .formatChanged, format := format, previousFormat := previous }
    emit { type := .streamingStarted, format := m.currentFormat }
  else
    closeDevice
  return outcome

/-- Source: `capture_state_machine.cpp` `CaptureStateMachine::step_streaming` -/
def stepStreaming (pollTimeout : Millis) : Shared StepOutcome := do
  let (result, frame) ← dequeueFrame pollTimeout
  match result with
  | .frame =>
      handleFrame rnd frame
      checkArrivalRate rnd frame.capturedAt
      let m ← get
      if m.currentFormat.compressed = false ∧ frame.bytesUsed ≠ m.currentFormat.sizeImage.toUInt64 then
        beginReleaseCycle rnd .geometry
      return {}
  | .timeout =>
      let now ← steadyNow
      let m ← get
      if m.haveLastFrame ∧ m.stallThreshold.toNanos ≤ now - m.lastFrameAt then
        beginReleaseCycle rnd .timeout
      return {}
  | .error =>
      store rnd (.error .dequeue)
      return {}
  | .deviceLost =>
      loseDevice rnd
      return {}

/-- Source: `capture_state_machine.cpp` `CaptureStateMachine::step` -/
def step (pollTimeout : Millis) : Shared StepOutcome := do
  let m ← get
  match m.state with
  | .deviceAbsent => stepDeviceAbsent rnd
  | .awaitingProducer => if m.recovering then stepRecovering rnd else stepAwaitingProducer rnd
  | .configuring => return {}
  | .stalled => return {}
  | .streaming => stepStreaming rnd pollTimeout

/-! ## The machine does the same -/

open Memory

variable {rnd} {bound : List StatsCell} {β : Type}

/-- Source: `capture_state_machine.cpp` -/
theorem does_setState {m m' : CaptureStateMachine} {s : CaptureState} {u : Unit}
    {tr : List (AccessObs StatsWrite Call.Answer)} :
    Does (setState rnd s) m tr u m' ↔ tr = [⟨.write (.state s), ()⟩] ∧ m' = m.withState s := by
  rw [setState, does_modify_bind, does_store]
  rfl

/-- Source: `capture_state_machine.cpp` -/
theorem does_setState_bind {m m' : CaptureStateMachine} {s : CaptureState} {b : β}
    {tr : List (AccessObs StatsWrite Call.Answer)} {f : Unit → Shared β} :
    Does (setState rnd s >>= f) m tr b m' ↔
      ∃ tr', tr = ⟨.write (.state s), ()⟩ :: tr' ∧ Does (f ()) (m.withState s) tr' b m' := by
  constructor
  · intro h
    obtain ⟨_, tr', u, _, rfl, hs, hf⟩ := does_bind.mp h
    obtain ⟨rfl, rfl⟩ := does_setState.mp hs
    exact ⟨tr', rfl, hf⟩
  · rintro ⟨tr', rfl, hf⟩
    exact does_bind.mpr ⟨_, tr', (), _, rfl, does_setState.mpr ⟨rfl, rfl⟩, hf⟩

/-- Source: `capture_state_machine.cpp` -/
theorem refines_setState (s : CaptureState) : (statsMemory rnd).Refines [.captureState] (setState rnd s)
    (modify (·.withState s)) where
  sound h := by
    obtain ⟨rfl, rfl⟩ := does_setState.mp h
    exact ⟨does_modify.mpr ⟨rfl, rfl⟩, rfl, .refl _⟩
  complete h := by
    obtain ⟨rfl, rfl⟩ := does_modify.mp h
    exact ⟨[⟨.write (.state s), ()⟩], rfl, does_setState.mpr ⟨rfl, rfl⟩⟩

/-- Source: `capture_state_machine.cpp` -/
theorem refines_setState_bind {s : CaptureState} {f' : Unit → Shared β} {f : PUnit → Capture β}
    (hf : (statsMemory rnd).Refines bound (f' ()) (f ⟨⟩)) :
    (statsMemory rnd).Refines (.captureState :: bound) (setState rnd s >>= f')
      (modify (·.withState s) >>= f) :=
  (refines_setState s).bind fun _ => hf

/-- Source: `capture_state_machine.cpp` `CaptureStateMachine::begin_release_cycle` -/
theorem refines_beginReleaseCycle (reason : ErrorReason) :
    (statsMemory rnd).Refines [.stalls, .errors reason, .captureState, .captureState]
      (beginReleaseCycle rnd reason) (CaptureStateMachine.beginReleaseCycle reason) := by
  refine refines_store_bind rfl (fun _ => rfl) (refines_store_bind rfl (fun _ => rfl) (refines_setState_bind ?_))
  refine refines_ask_bind fun _ => refines_ask_bind fun _ => refines_ask_bind fun _ => ?_
  refine refines_setState_bind (refines_modify_bind (fun _ => rfl) (refines_modify_bind (fun _ => rfl) ?_))
  exact refines_ask_bind fun _ => refines_modify fun _ => rfl

/-- Source: `capture_state_machine.cpp` `CaptureStateMachine::lose_device` -/
theorem refines_loseDevice : (statsMemory rnd).Refines [.errors .deviceLost, .captureState]
    (loseDevice rnd) CaptureStateMachine.loseDevice := by
  refine refines_store_bind rfl (fun _ => rfl) (refines_ask_bind fun _ => refines_ask_bind fun _ => ?_)
  refine refines_ask_bind fun _ => refines_setState_bind (refines_modify_bind (fun _ => rfl) ?_)
  exact refines_modify_bind (fun _ => rfl) (refines_ask_bind fun _ => refines_modify fun _ => rfl)

/-- A write is seen in the statistics only. Source: `stats.hpp` `CaptureStats` -/
@[simp] theorem update_haveLastFrame (m : CaptureStateMachine) (w : StatsWrite) :
    ((statsMemory rnd).update m w).haveLastFrame = m.haveLastFrame := rfl

/-- A write is seen in the statistics only. Source: `stats.hpp` `CaptureStats` -/
@[simp] theorem update_lastFrameAt (m : CaptureStateMachine) (w : StatsWrite) :
    ((statsMemory rnd).update m w).lastFrameAt = m.lastFrameAt := rfl

/-- The wall clock is read between two writes. Source: `capture_state_machine.cpp`
`CaptureStateMachine::handle_frame` -/
theorem refines_handleFrame (frame : FrameDescriptor) : (statsMemory rnd).Refines
    [.framesReceived, .bytesReceived, .lastFrameUnixtime, .frameIntervalSeconds]
    (handleFrame rnd frame) (CaptureStateMachine.handleFrame rnd frame) where
  sound {m tr u m'} h := by
    simp only [handleFrame, does_ask_bind, does_store_bind, does_get_bind, update_haveLastFrame,
      update_lastFrameAt] at h
    obtain ⟨_, _, rfl, _, rfl, _, rfl, wall, _, rfl, _, rfl, h⟩ := h
    by_cases hhave : m.haveLastFrame = true
    · simp only [hhave, ↓reduceIte] at h
      obtain ⟨_, rfl, hlast⟩ := does_store_bind.mp h
      obtain ⟨rfl, rfl⟩ := does_modify.mp hlast
      refine ⟨CaptureStateMachine.does_handleFrame.mpr ⟨wall, ?_, rfl⟩, rfl, .refl _⟩
      simp [CaptureStateMachine.withFrame, CaptureStats.recordFrame, CaptureStateMachine.frameInterval,
        hhave, statsMemory, CaptureStats.write]
    · simp only [hhave, Bool.false_eq_true, ↓reduceIte] at h
      obtain ⟨rfl, rfl⟩ := does_modify.mp h
      refine ⟨CaptureStateMachine.does_handleFrame.mpr ⟨wall, ?_, rfl⟩, rfl, ?_⟩
      rotate_left
      · exact List.sublist_append_left [StatsCell.framesReceived, .bytesReceived, .lastFrameUnixtime] _
      simp [CaptureStateMachine.withFrame, CaptureStats.recordFrame, CaptureStateMachine.frameInterval,
        hhave, statsMemory, CaptureStats.write]
  complete {m tr u m'} h := by
    obtain ⟨wall, rfl, rfl⟩ := CaptureStateMachine.does_handleFrame.mp h
    simp only [handleFrame, does_ask_bind, does_store_bind, does_get_bind, update_haveLastFrame,
      update_lastFrameAt]
    have hfirst : ∀ rest : List (AccessObs StatsWrite Call.Answer),
        calls (⟨.call (.device (.requeueFrame frame.bufferIndex)), ()⟩ :: ⟨.write .frame, ()⟩ ::
          ⟨.write (.bytes frame.bytesUsed), ()⟩ :: ⟨.call .wallNow, wall⟩ ::
          ⟨.write (.unixtime (durationCastSeconds wall)), ()⟩ :: rest) =
        Observation.requeued frame.bufferIndex :: Observation.wall wall :: calls rest := fun _ => rfl
    by_cases hhave : m.haveLastFrame = true
    · refine ⟨_, hfirst [⟨.write (.interval
        (rnd (rnd (frame.capturedAt - m.lastFrameAt : Int) / 1000000000))), ()⟩], (), _, rfl, _, rfl, _, rfl, wall, _, rfl, _, rfl, ?_⟩
      simp only [hhave, ↓reduceIte]
      refine does_store_bind.mpr ⟨_, rfl, does_modify.mpr ⟨rfl, ?_⟩⟩
      simp [CaptureStateMachine.withFrame, CaptureStats.recordFrame, CaptureStateMachine.frameInterval,
        hhave, statsMemory, CaptureStats.write]
    · refine ⟨_, hfirst [], (), _, rfl, _, rfl, _, rfl, wall, _, rfl, _, rfl, ?_⟩
      simp only [hhave, Bool.false_eq_true, ↓reduceIte]
      refine does_modify.mpr ⟨rfl, ?_⟩
      simp [CaptureStateMachine.withFrame, CaptureStats.recordFrame, CaptureStateMachine.frameInterval,
        hhave, statsMemory, CaptureStats.write]

/-- Source: `capture_state_machine.cpp` `CaptureStateMachine::check_arrival_rate` -/
theorem refines_checkArrivalRate (now : TimePoint) : (statsMemory rnd).Refines [.errors .geometry]
    (checkArrivalRate rnd now) (modify (·.checkArrivalRate rnd now)) where
  sound {m tr u m'} h := by
    simp only [checkArrivalRate, does_modify_bind, does_get_bind] at h
    by_cases helapsed : now - m.withWindowFrame.rateWindowStart < rateAnomalyWindow
    · simp only [helapsed, ↓reduceIte, does_pure] at h
      obtain ⟨rfl, -, rfl⟩ := h
      refine ⟨does_modify.mpr ⟨rfl, ?_⟩, rfl, List.nil_sublist _⟩
      simp only [CaptureStateMachine.checkArrivalRate, helapsed, ↓reduceIte]
    · by_cases hrate : rateExceeds rnd m.withWindowFrame.config m.withWindowFrame.rateWindowFrameCount
          (now - m.withWindowFrame.rateWindowStart) = true
      · by_cases hactive : m.withWindowFrame.rateAnomalyActive = true
        · simp only [helapsed, hrate, hactive, ↓reduceIte, Bool.not_true, Bool.false_eq_true, does_modify] at h
          obtain ⟨rfl, rfl⟩ := h
          refine ⟨does_modify.mpr ⟨rfl, ?_⟩, rfl, List.nil_sublist _⟩
          simp only [CaptureStateMachine.checkArrivalRate, helapsed, hrate, hactive, ↓reduceIte,
            Bool.not_true, Bool.false_eq_true]
        · simp only [helapsed, hrate, hactive, ↓reduceIte, Bool.not_false, does_store_bind, does_modify_bind,
            does_modify] at h
          obtain ⟨_, rfl, rfl, rfl⟩ := h
          refine ⟨does_modify.mpr ⟨rfl, ?_⟩, rfl, .refl _⟩
          simp only [CaptureStateMachine.checkArrivalRate, helapsed, hrate, hactive, ↓reduceIte,
            Bool.not_false]
          rfl
      · simp only [helapsed, hrate, ↓reduceIte, Bool.false_eq_true, does_modify_bind, does_modify] at h
        obtain ⟨rfl, rfl⟩ := h
        refine ⟨does_modify.mpr ⟨rfl, ?_⟩, rfl, List.nil_sublist _⟩
        simp only [CaptureStateMachine.checkArrivalRate, helapsed, hrate, ↓reduceIte, Bool.false_eq_true]
  complete {m tr u m'} h := by
    obtain ⟨rfl, rfl⟩ := does_modify.mp h
    simp only [checkArrivalRate, does_modify_bind, does_get_bind, CaptureStateMachine.checkArrivalRate]
    by_cases helapsed : now - m.withWindowFrame.rateWindowStart < rateAnomalyWindow
    · simp only [helapsed, ↓reduceIte]
      exact ⟨[], rfl, does_pure.mpr ⟨rfl, rfl, rfl⟩⟩
    · by_cases hrate : rateExceeds rnd m.withWindowFrame.config m.withWindowFrame.rateWindowFrameCount
          (now - m.withWindowFrame.rateWindowStart) = true
      · by_cases hactive : m.withWindowFrame.rateAnomalyActive = true
        · simp only [helapsed, hrate, hactive, ↓reduceIte, Bool.not_true, Bool.false_eq_true]
          exact ⟨[], rfl, does_modify.mpr ⟨rfl, rfl⟩⟩
        · simp only [helapsed, hrate, hactive, ↓reduceIte, Bool.not_false]
          exact ⟨[⟨.write (.error .geometry), ()⟩], rfl, does_store_bind.mpr ⟨[], rfl,
            does_modify_bind.mpr (does_modify.mpr ⟨rfl, rfl⟩)⟩⟩
      · simp only [helapsed, hrate, ↓reduceIte, Bool.false_eq_true]
        exact ⟨[], rfl, does_modify_bind.mpr (does_modify.mpr ⟨rfl, rfl⟩)⟩

/-- The published format is written before the clock is read. Source: `capture_state_machine.cpp`
`CaptureStateMachine::enter_configuring` -/
theorem refines_enterConfiguring : (statsMemory rnd).Refines
    [.captureState, .errors .buffer, .streamInfo, .captureState]
    (enterConfiguring rnd) CaptureStateMachine.enterConfiguring where
  sound {m tr out m'} h := by
    rw [enterConfiguring, does_setState_bind] at h
    simp only [does_get_bind, does_ask_bind] at h
    obtain ⟨_, rfl, r, tr, rfl, h⟩ := h
    rw [CaptureStateMachine.does_enterConfiguring]
    cases r with
    | bufferError =>
        simp only [↓reduceIte, does_modify_bind, does_store_bind, does_setState_bind, does_ask_bind,
          does_pure] at h
        obtain ⟨_, rfl, _, rfl, now, _, rfl, rfl, rfl, rfl⟩ := h
        exact ⟨⟨now, .inl ⟨rfl, rfl, rfl⟩⟩, rfl,
          show [StatsCell.captureState, .errors .buffer, .captureState].Sublist _ by decide⟩
    | started =>
        simp only [reduceCtorEq, ↓reduceIte, does_modify_bind, does_store_bind, does_setState_bind,
          does_ask_bind, does_pure] at h
        obtain ⟨_, rfl, now, _, rfl, _, rfl, rfl, rfl, rfl⟩ := h
        exact ⟨⟨now, .inr ⟨rfl, rfl, rfl⟩⟩, rfl,
          show [StatsCell.captureState, .streamInfo, .captureState].Sublist _ by decide⟩
  complete {m tr out m'} h := by
    simp only [enterConfiguring, does_setState_bind, does_get_bind, does_ask_bind]
    obtain ⟨now, ⟨rfl, rfl, rfl⟩ | ⟨rfl, rfl, rfl⟩⟩ := CaptureStateMachine.does_enterConfiguring.mp h
    · refine ⟨[⟨.write (.state .configuring), ()⟩,
        ⟨.call (.device (.startStreaming m.config.bufferCount)), .bufferError⟩,
        ⟨.write (.error .buffer), ()⟩, ⟨.write (.state .awaitingProducer), ()⟩, ⟨.call .steadyNow, now⟩],
        rfl, _, rfl, .bufferError, _, rfl, ?_⟩
      simp only [↓reduceIte, does_store_bind, does_setState_bind, does_ask_bind, does_modify_bind, does_pure]
      exact ⟨_, rfl, _, rfl, now, _, rfl, rfl, rfl, rfl⟩
    · refine ⟨[⟨.write (.state .configuring), ()⟩,
        ⟨.call (.device (.startStreaming m.config.bufferCount)), .started⟩,
        ⟨.write (.streamInfo m.currentFormat), ()⟩, ⟨.call .steadyNow, now⟩,
        ⟨.write (.state .streaming), ()⟩], rfl, _, rfl, .started, _, rfl, ?_⟩
      simp only [reduceCtorEq, ↓reduceIte, does_store_bind, does_setState_bind, does_ask_bind,
        does_modify_bind, does_pure]
      exact ⟨_, rfl, now, _, rfl, _, rfl, rfl, trivial, rfl⟩

/-- Source: `capture_state_machine.cpp` `CaptureStateMachine::step_device_absent` -/
theorem refines_stepDeviceAbsent : (statsMemory rnd).Refines [.errors .open, .captureState]
    (stepDeviceAbsent rnd) CaptureStateMachine.stepDeviceAbsent := by
  refine refines_ask_bind fun now => refines_get_bind fun m => .ite (fun _ => ?_) fun _ => ?_
  · exact .weaken (List.nil_sublist _) (refines_pure _)
  · refine refines_ask_bind fun r => .ite (fun _ => ?_) fun _ => ?_
    · refine .weaken (show [StatsCell.captureState].Sublist _ by decide) ?_
      refine refines_modify_bind (fun _ => rfl) (refines_setState_bind ?_)
      exact refines_ask_bind fun _ => refines_ask_bind fun _ => refines_pure _
    · refine .weaken (show [StatsCell.errors .open].Sublist _ by decide) ?_
      exact refines_store_bind rfl (fun _ => rfl) (refines_modify_bind (fun _ => rfl) (refines_pure _))

/-- Source: `capture_state_machine.cpp` `CaptureStateMachine::step_awaiting_producer` -/
theorem refines_stepAwaitingProducer : (statsMemory rnd).Refines
    [.errors .format, .captureState, .errors .buffer, .streamInfo, .captureState, .reconnects]
    (stepAwaitingProducer rnd) CaptureStateMachine.stepAwaitingProducer := by
  refine refines_ask_bind fun now => refines_get_bind fun m => .ite (fun _ => ?_) fun _ => ?_
  · exact .weaken (List.nil_sublist _) (refines_pure _)
  · refine refines_ask_bind fun answer => .ite (fun _ => ?_) fun _ => .ite (fun _ => ?_) fun _ => ?_
    · exact .weaken (List.nil_sublist _) (refines_modify_bind (fun _ => rfl) (refines_pure _))
    · refine .weaken (show [StatsCell.errors .format].Sublist _ by decide) ?_
      exact refines_store_bind rfl (fun _ => rfl) (refines_modify_bind (fun _ => rfl) (refines_pure _))
    · refine .weaken (List.sublist_cons_self _ _) (refines_modify_bind (fun _ => rfl) ?_)
      refine refines_enterConfiguring.bind fun outcome => refines_get_bind fun m => ?_
      refine .ite (fun _ => .ite (fun _ => ?_) fun _ => ?_) fun _ => ?_
      · exact refines_store_bind rfl (fun _ => rfl) (refines_ask_bind fun _ => refines_pure _)
      · exact .weaken (List.nil_sublist _)
          (refines_modify_bind (fun _ => rfl) (refines_ask_bind fun _ => refines_pure _))
      · exact .weaken (List.nil_sublist _) (refines_pure _)

/-- Source: `capture_state_machine.cpp` `CaptureStateMachine::step_recovering` -/
theorem refines_stepRecovering : (statsMemory rnd).Refines
    [.errors .format, .errors .deviceLost, .captureState, .errors .buffer, .streamInfo, .captureState]
    (stepRecovering rnd) CaptureStateMachine.stepRecovering := by
  refine refines_ask_bind fun now => refines_get_bind fun m => .ite (fun _ => ?_) fun _ => ?_
  · exact .weaken (List.nil_sublist _) (refines_pure _)
  · refine refines_ask_bind fun _ => .ite (fun _ => ?_) fun _ => ?_
    · refine .weaken (show [StatsCell.errors .deviceLost, .captureState].Sublist _ by decide) ?_
      exact refines_loseDevice.bind_quiet fun _ => refines_pure _
    · refine refines_ask_bind fun answer => .ite (fun _ => ?_) fun _ => ?_
      · refine refines_ask_bind fun _ => ?_
        refine .weaken (show [StatsCell.errors .format].Sublist _ by decide) ?_
        refine .ite (fun _ => ?_) fun _ => ?_
        · exact refines_store_bind rfl (fun _ => rfl) (refines_modify_bind (fun _ => rfl) (refines_pure _))
        · exact .weaken (List.nil_sublist _) (refines_modify_bind (fun _ => rfl) (refines_pure _))
      · refine .weaken (List.drop_sublist 2 _) (refines_modify_bind (fun _ => rfl) ?_)
        refine refines_enterConfiguring.bind_quiet fun outcome => refines_get_bind fun m => ?_
        refine .ite (fun _ => ?_) fun _ => refines_ask_bind fun _ => refines_pure _
        refine refines_modify_bind (fun _ => rfl) (refines_ask_bind fun _ => ?_)
        refine .ite (fun _ => ?_) fun _ => ?_
        · exact refines_ask_bind fun _ => refines_ask_bind fun _ => refines_pure _
        · exact refines_ask_bind fun _ => refines_pure _

/-- Source: `capture_state_machine.cpp` `CaptureStateMachine::step_streaming` -/
theorem refines_stepStreaming (t : Millis) : (statsMemory rnd).Refines
    [.framesReceived, .bytesReceived, .lastFrameUnixtime, .frameIntervalSeconds, .errors .geometry,
      .stalls, .errors .timeout, .errors .geometry, .errors .dequeue, .errors .deviceLost,
      .captureState, .captureState]
    (stepStreaming rnd t) (CaptureStateMachine.stepStreaming rnd t) := by
  refine refines_ask_bind fun answer => ?_
  obtain ⟨r, frame⟩ := answer
  cases r with
  | frame =>
      refine .weaken (show ([StatsCell.framesReceived, .bytesReceived, .lastFrameUnixtime, .frameIntervalSeconds] ++
        ([StatsCell.errors .geometry] ++
          [StatsCell.stalls, .errors .geometry, .captureState, .captureState])).Sublist _
        by decide) ?_
      refine (refines_handleFrame frame).bind fun _ => (refines_checkArrivalRate _).bind fun _ => ?_
      refine refines_get_bind fun m => .ite (fun _ => ?_) fun _ => ?_
      · exact (refines_beginReleaseCycle _).bind_quiet fun _ => refines_pure _
      · exact .weaken (List.nil_sublist _) (refines_pure _)
  | timeout =>
      refine .weaken (show [StatsCell.stalls, .errors .timeout, .captureState, .captureState].Sublist _
        by decide) ?_
      refine refines_ask_bind fun now => refines_get_bind fun m => .ite (fun _ => ?_) fun _ => ?_
      · exact (refines_beginReleaseCycle _).bind_quiet fun _ => refines_pure _
      · exact .weaken (List.nil_sublist _) (refines_pure _)
  | error =>
      refine .weaken (show [StatsCell.errors .dequeue].Sublist _ by decide) ?_
      exact refines_store_bind rfl (fun _ => rfl) (refines_pure _)
  | deviceLost =>
      refine .weaken (show [StatsCell.errors .deviceLost, .captureState].Sublist _ by decide) ?_
      exact refines_loseDevice.bind_quiet fun _ => refines_pure _

/-- How often a step can write to a cell: more than once only to the gauge and to the geometry errors.
Source: `capture_state_machine.cpp` `CaptureStateMachine::step` -/
def stepCells : List StatsCell :=
  [.errors .open, .errors .format, .framesReceived, .bytesReceived, .lastFrameUnixtime,
    .frameIntervalSeconds, .errors .geometry, .stalls, .errors .timeout, .errors .geometry,
    .errors .dequeue, .errors .deviceLost, .captureState, .errors .buffer, .streamInfo, .captureState,
    .reconnects]

/-- **The machine with its single writes does what the machine does.**
Source: `capture_state_machine.cpp` `CaptureStateMachine::step` -/
theorem refines_step (t : Millis) :
    (statsMemory rnd).Refines stepCells (step rnd t) (CaptureStateMachine.step rnd t) := by
  refine refines_get_bind fun m => ?_
  cases m.state with
  | deviceAbsent => exact .weaken (by decide) refines_stepDeviceAbsent
  | awaitingProducer =>
      refine .ite (fun _ => ?_) fun _ => ?_
      · exact .weaken (by decide) refines_stepRecovering
      · exact .weaken (by decide) refines_stepAwaitingProducer
  | configuring => exact .weaken (List.nil_sublist _) (refines_pure _)
  | stalled => exact .weaken (List.nil_sublist _) (refines_pure _)
  | streaming => exact .weaken (by decide) (refines_stepStreaming t)

end SharedCapture

/-! ## Runs -/

/-- One call of `step`, with its single writes.
Source: `capture_state_machine.hpp` `CaptureStateMachine::step` -/
structure SharedTurn where
  pre : CaptureStateMachine
  pollTimeout : Millis
  /-- The calls and the writes, in order. -/
  trace : List (AccessObs StatsWrite Call.Answer)
  outcome : StepOutcome
  post : CaptureStateMachine

/-- The turn without its writes. Source: none: infrastructure -/
def SharedTurn.plain (l : SharedTurn) : Turn := ⟨l.pre, l.pollTimeout, calls l.trace, l.outcome, l.post⟩

/-- The turn `l` is a step from `m` to `m'`.
Source: `capture_state_machine.cpp` `CaptureStateMachine::step` -/
structure SharedTurn.Of (rnd : ℚ → ℚ) (m : CaptureStateMachine) (l : SharedTurn)
    (m' : CaptureStateMachine) : Prop where
  pre : l.pre = m
  post : l.post = m'
  does : Does (SharedCapture.step rnd l.pollTimeout) m l.trace l.outcome m'

/-- The machine constructed at clock reading `now` reaches `m` by the turns `ls`.
Source: `main.cpp` `main` -/
abbrev SharedRun (rnd : ℚ → ℚ) (config : DaemonConfig) (now : TimePoint) (ls : List SharedTurn)
    (m : CaptureStateMachine) : Prop :=
  Run (SharedTurn.Of rnd) (.new rnd config now) ls m

/-- The writes of a run, in order. Source: none: infrastructure -/
def written (ls : List SharedTurn) : List StatsWrite := ls.flatMap fun l => writes l.trace

/-- The statistics after their constructor and that of the machine; no other thread runs yet.
Source: `main.cpp` `main` -/
def initialStats (rnd : ℚ → ℚ) : CaptureStats := (CaptureStats.new rnd).storeCaptureState .deviceAbsent

/-- The statistics after some writes. Source: `stats.hpp` `CaptureStats` -/
def statsAfter (rnd : ℚ → ℚ) (ws : List StatsWrite) : CaptureStats :=
  ws.foldl (CaptureStats.write rnd) (initialStats rnd)

section runs

variable {rnd : ℚ → ℚ} {config : DaemonConfig} {now : TimePoint} {ls : List SharedTurn} {l : SharedTurn}
  {m m' : CaptureStateMachine}

/-- Source: none: infrastructure -/
theorem written_snoc (ls : List SharedTurn) (l : SharedTurn) :
    written (ls ++ [l]) = written ls ++ writes l.trace := by
  simp [written]

/-- Source: `capture_state_machine.cpp` `CaptureStateMachine::step` -/
theorem SharedTurn.Of.plain (h : SharedTurn.Of rnd m l m') : Turn.Of rnd m l.plain m' :=
  ⟨h.pre, h.post, (SharedCapture.refines_step l.pollTimeout).sound h.does |>.1⟩

/-- What the writes of a turn add up to. Source: `capture_state_machine.cpp`
`CaptureStateMachine::step` -/
theorem SharedTurn.Of.stats (h : SharedTurn.Of rnd m l m') :
    m'.stats = (writes l.trace).foldl (CaptureStats.write rnd) m.stats :=
  ((SharedCapture.refines_step l.pollTimeout).sound h.does).2.1

/-- How often a turn writes to a cell. Source: `capture_state_machine.cpp`
`CaptureStateMachine::step` -/
theorem SharedTurn.Of.cells (h : SharedTurn.Of rnd m l m') :
    ((writes l.trace).map StatsWrite.cell).Sublist SharedCapture.stepCells :=
  ((SharedCapture.refines_step l.pollTimeout).sound h.does).2.2

/-- Without the writes, the run is one of the machine. Source: `capture_state_machine.cpp` -/
theorem SharedRun.plain (h : SharedRun rnd config now ls m) :
    CaptureRun rnd config now (ls.map SharedTurn.plain) m := by
  induction h with
  | nil => exact .nil
  | snoc init last ih =>
      rw [List.map_append]
      exact Run.snoc ih last.plain

/-- **The writes of a run are what the machine leaves.** Source: `capture_state_machine.cpp`, `stats.hpp` -/
theorem SharedRun.stats_eq (h : SharedRun rnd config now ls m) : m.stats = statsAfter rnd (written ls) := by
  refine Run.history_invariant (fun ls m => m.stats = statsAfter rnd (written ls)) rfl ?_ h
  intro ls m l m' _ ih hl
  rw [written_snoc, statsAfter, List.foldl_append, hl.stats, ih]
  rfl

/-- **Every run of the machine is a run with single writes.** Source: `capture_state_machine.cpp` -/
theorem CaptureRun.shared {ts : List Turn} (h : CaptureRun rnd config now ts m) :
    ∃ ls, ls.map SharedTurn.plain = ts ∧ SharedRun rnd config now ls m := by
  induction h with
  | nil => exact ⟨[], rfl, .nil⟩
  | @snoc ts m m' t init last ih =>
      obtain ⟨ls, rfl, hrun⟩ := ih
      obtain ⟨tr, htr, hdoes⟩ := (SharedCapture.refines_step t.pollTimeout).complete last.does
      refine ⟨ls ++ [⟨m, t.pollTimeout, tr, t.outcome, m'⟩], ?_, .snoc hrun ⟨rfl, rfl, hdoes⟩⟩
      obtain ⟨rfl, rfl, -⟩ := last
      rw [List.map_append, List.map_singleton, SharedTurn.plain, htr]

end runs

end Hamstercam
