import Hamstercam.Capture.Formats

/-!
# The published format, and the logged one

* `FormatLedger` — what an exchange with the device says about formats: the one `query_format` answered
  last, and the one of the last start that succeeded.
* `resting_state` — the machine between two steps, with the published format as the one of the last
  successful start.
* `lastLoggedFormat` — the format a reader of the event log knows: that of the newest event with one.
* `sessionFormats`, `announcedFormats` — the formats of the sessions of a run, and of those that did not
  begin with a reconnection.
* `format_logged_iff` — a reconnection is logged without a format, so the log shows the published format
  if and only if the newest session has the format of the newest one that was announced.
-/

namespace Hamstercam

open Interaction CaptureStateMachine

/-! ## The formats of an exchange -/

/-- What an exchange says about formats.
Source: `capture_device.hpp` `ICaptureDevice::query_format`, `start_streaming` -/
structure FormatLedger where
  /-- The format that `query_format` answered last. -/
  queried : Option StreamFormat := none
  /-- The format of the last `start_streaming` that returned `Started`. -/
  started : Option StreamFormat := none

/-- A start is for the format most recently answered by `query_format`.
Source: `capture_device.hpp` `ICaptureDevice::start_streaming` -/
def FormatLedger.after (r : FormatLedger) : Observation → FormatLedger
  | .queried .known f => { r with queried := some f }
  | .started _ .started => { r with started := r.queried }
  | _ => r

/-- The format of the last successful start of an exchange, if there is one.
Source: `capture_device.hpp` `ICaptureDevice::start_streaming` -/
def lastStartedFormat (tr : List Observation) : Option StreamFormat :=
  (tr.foldl FormatLedger.after {}).started

/-- Events say nothing about the device. Source: none: infrastructure -/
@[simp] theorem foldl_after_emitted (r : FormatLedger) (es : List Event) :
    (es.map Observation.emitted).foldl FormatLedger.after r = r := by
  induction es with
  | nil => rfl
  | cons e es ih => exact ih

/-- A session publishes its format.
Source: `capture_state_machine.cpp` `CaptureStateMachine::enter_configuring` -/
@[simp] theorem streamInfo_withSession (m : CaptureStateMachine) (now : TimePoint) :
    (m.withSession now).stats.streamInfo = some m.currentFormat := rfl

/-- The gauge does not touch the published format. Source: `stats.hpp` `CaptureStats` -/
@[simp] theorem streamInfo_storeCaptureState (s : CaptureStats) (state : CaptureState) :
    (s.storeCaptureState state).streamInfo = s.streamInfo := rfl

/-- Nor do the counters of stalls and reconnections. Source: `stats.hpp` `CaptureStats` -/
@[simp] theorem streamInfo_counters (s : CaptureStats) :
    s.addStall.streamInfo = s.streamInfo ∧ s.addReconnect.streamInfo = s.streamInfo :=
  ⟨rfl, rfl⟩

section published

variable {rnd : ℚ → ℚ} {config : DaemonConfig} {now : TimePoint} {ls : List Turn} {l : Turn}
  {m m' : CaptureStateMachine} {t : Millis} {tr : List Observation} {out : StepOutcome}

/-- A step starts a stream for a format it has queried itself.
Source: `capture_state_machine.cpp` `step_awaiting_producer`, `step_recovering` -/
theorem CaptureStateMachine.StepCase.ledger (h : StepCase rnd t m tr out m') (r : FormatLedger) :
    (tr.foldl FormatLedger.after r).started = (lastStartedFormat tr).or r.started := by
  cases h <;> simp [lastStartedFormat, FormatLedger.after]

/-- **A step publishes the format of a start that succeeds**, and no other.
Source: `capture_state_machine.cpp` `CaptureStateMachine::enter_configuring` -/
theorem CaptureStateMachine.StepCase.publishes (h : StepCase rnd t m tr out m') :
    m'.stats.streamInfo = (lastStartedFormat tr).or m.stats.streamInfo := by
  cases h <;> simp [lastStartedFormat, FormatLedger.after]

/-- The published format is that of the last successful start of the run.
Source: `capture_state_machine.cpp` `CaptureStateMachine::enter_configuring` -/
theorem CaptureRun.streamInfo_eq (h : CaptureRun rnd config now ls m) :
    m.stats.streamInfo = lastStartedFormat (exchange ls) := by
  refine Run.history_invariant (fun ls m => m.stats.streamInfo = lastStartedFormat (exchange ls))
    rfl ?_ h
  intro ls m l m' _ ih hl
  have hexchange : lastStartedFormat (exchange (ls ++ [l])) =
      (lastStartedFormat l.trace).or (lastStartedFormat (exchange ls)) := by
    rw [exchange_snoc, lastStartedFormat, List.foldl_append, hl.case.ledger]
    rfl
  rw [hexchange, hl.case.publishes, ih]

/-- **The machine between two steps.** It is absent, waiting or streaming; the gauge shows which; a
recovery waits for a producer; a stream or a recovery comes after a first stream; a last frame belongs
to a stream; and the published format is that of the stream and of the last start that succeeded.
Source: `capture_state_machine.hpp` `CaptureStateMachine`, `stats.hpp` `CaptureStats::stream_info` -/
theorem resting_state (h : CaptureRun rnd config now ls m) :
    (m.state = .deviceAbsent ∨ m.state = .awaitingProducer ∨ m.state = .streaming) ∧
      m.stats.captureState = m.state.toInt ∧
      (m.recovering = true → m.state = .awaitingProducer) ∧
      (m.recovering = true ∨ m.state = .streaming → m.hasStreamedBefore = true) ∧
      (m.haveLastFrame = true → m.state = .streaming) ∧
      (m.state = .streaming → m.stats.streamInfo = some m.currentFormat) ∧
      m.stats.streamInfo = lastStartedFormat (exchange ls) := by
  have hm := CaptureRun.resting h
  refine ⟨hm.state, hm.gauge, hm.recovers, ?_, hm.frame, hm.info, CaptureRun.streamInfo_eq h⟩
  intro hor
  exact hm.streamed hor.symm

/-- A run that has just been cold-started publishes the format it was started with.
Source: none: infrastructure -/
theorem resting_state_coldStart :
    (coldStarted id {} 0 vga).stats.streamInfo =
      lastStartedFormat (exchange (coldStart id {} 0 vga)) :=
  (resting_state (coldStart_run id {} 0 vga)).2.2.2.2.2.2

/-! ## The logged format -/

/-- The format an event carries. Source: `event.hpp` `Event` -/
def Event.loggedFormat (e : Event) : Option StreamFormat :=
  if e.type = .streamingStarted ∨ e.type = .formatChanged then some e.format else none

/-- The format a reader of the event log knows: that of the newest event with one.
Source: `event.hpp` `Event` -/
def lastLoggedFormat (es : List Event) : Option StreamFormat :=
  (es.filterMap Event.loggedFormat).getLast?

/-- Source: none: infrastructure -/
theorem lastLoggedFormat_append (es ds : List Event) :
    lastLoggedFormat (es ++ ds) = (lastLoggedFormat ds).or (lastLoggedFormat es) := by
  simp [lastLoggedFormat, List.getLast?_append]

/-- The end of a recovery is logged with the new format.
Source: `capture_state_machine.cpp` `CaptureStateMachine::step_recovering` -/
@[simp] theorem lastLoggedFormat_recoveryEvents (previous f : StreamFormat) :
    lastLoggedFormat (recoveryEvents previous f) = some f := by
  rw [recoveryEvents, ← List.cons_append, lastLoggedFormat_append]
  rfl

/-- A session that starts in the turn is a reconnection: there has been a stream before, and the device
is not being recovered.
Source: `capture_state_machine.cpp` `CaptureStateMachine::step_awaiting_producer` -/
def Turn.reconnects (l : Turn) : Bool := l.pre.hasStreamedBefore && !l.pre.recovering

/-- The formats of the sessions of a run, in order.
Source: `capture_state_machine.cpp` `CaptureStateMachine::enter_configuring` -/
def sessionFormats (ls : List Turn) : List StreamFormat :=
  ls.filterMap fun l => lastStartedFormat l.trace

/-- The formats of the sessions of a run that did not begin with a reconnection, in order.
Source: `capture_state_machine.cpp` `step_awaiting_producer`, `step_recovering` -/
def announcedFormats (ls : List Turn) : List StreamFormat :=
  sessionFormats (ls.filter fun l => !l.reconnects)

/-- Source: none: infrastructure -/
theorem getLast?_sessionFormats_snoc (ls : List Turn) (l : Turn) :
    (sessionFormats (ls ++ [l])).getLast? =
      (lastStartedFormat l.trace).or (sessionFormats ls).getLast? := by
  cases hf : lastStartedFormat l.trace <;> simp [sessionFormats, hf]

/-- **What a step logs of formats**: the format of a session that does not begin with a reconnection,
and nothing else.
Source: `capture_state_machine.cpp` `step_awaiting_producer`, `step_recovering` -/
theorem CaptureStateMachine.StepCase.logs (h : StepCase rnd t m tr out m') :
    lastLoggedFormat (tr.filterMap Observation.event) =
      if m.hasStreamedBefore && !m.recovering then none else lastStartedFormat tr := by
  cases h with
  | recoveringStarts hs hr hw =>
      rw [List.filterMap_append, filterMap_event_emitted, lastLoggedFormat_append]
      simp [hr, lastStartedFormat, FormatLedger.after]
  | waitingStarts hs hr hw hb =>
      rw [hb]
      rfl
  | waitingReconnects hs hr hw hb =>
      rw [hb, hr]
      rfl
  -- no other step starts a stream, and no other event carries a format
  | _ => split_ifs <;> rfl

/-- The published format is that of the newest session.
Source: `capture_state_machine.cpp` `CaptureStateMachine::enter_configuring` -/
theorem CaptureRun.streamInfo_eq_session (h : CaptureRun rnd config now ls m) :
    m.stats.streamInfo = (sessionFormats ls).getLast? := by
  refine Run.history_invariant (fun ls m => m.stats.streamInfo = (sessionFormats ls).getLast?)
    rfl ?_ h
  intro ls m l m' _ ih hl
  rw [getLast?_sessionFormats_snoc, hl.case.publishes, ih]

/-- The logged format is that of the newest session that was announced.
Source: `capture_state_machine.cpp` `step_awaiting_producer`, `step_recovering` -/
theorem CaptureRun.lastLoggedFormat_eq (h : CaptureRun rnd config now ls m) :
    lastLoggedFormat (events ls) = (announcedFormats ls).getLast? := by
  refine Run.history_invariant
    (fun ls _ => lastLoggedFormat (events ls) = (announcedFormats ls).getLast?) rfl ?_ h
  intro ls m l m' _ ih hl
  have hlogs : lastLoggedFormat l.events =
      if l.reconnects then none else lastStartedFormat l.trace := by
    rw [Turn.events, hl.case.logs, Turn.reconnects, hl.pre]
  rw [events_snoc, lastLoggedFormat_append, hlogs, ih, announcedFormats, announcedFormats,
    List.filter_append]
  by_cases hr : l.reconnects = true
  · simp [hr]
  · simp only [hr, List.filter_cons, List.filter_nil]
    exact (getLast?_sessionFormats_snoc _ l).symm

/-- **Exactly when the log shows the published format**: the newest session has the format of the newest
one that did not begin with a reconnection.
Source: `capture_state_machine.cpp` `step_awaiting_producer`, `step_recovering`, `enter_configuring` -/
theorem format_logged_iff (h : CaptureRun rnd config now ls m) :
    lastLoggedFormat (events ls) = m.stats.streamInfo ↔
      (sessionFormats ls).getLast? = (announcedFormats ls).getLast? := by
  rw [CaptureRun.streamInfo_eq_session h, CaptureRun.lastLoggedFormat_eq h]
  exact eq_comm

end published

/-! ## A reconnection to another producer

A stream with format `hd` ends because the device is lost; the device comes back with `vga`. -/

section reconnection

/-- The machine after the loss. Source: none: infrastructure -/
def hdLost : CaptureStateMachine := (coldStarted id {} 0 hd).lost 0

/-- The machine after the device has been opened again. Source: none: infrastructure -/
def hdReopened : CaptureStateMachine := hdLost.resetBackoffs.withState .awaitingProducer

/-- The machine after the reconnection. Source: none: infrastructure -/
def vgaReconnected : CaptureStateMachine :=
  ((hdReopened.withFormat vga).sessionStarted 0).withReconnect

/-- A cold start, a loss and a reconnection. Source: none: infrastructure -/
def reconnectionTurns : List Turn :=
  coldStart id {} 0 hd ++
    [⟨coldStarted id {} 0 hd, 200, [.dequeued 200 .deviceLost {}, .stopped, .closed,
        .emitted { type := .deviceLost }, .steady 0], {}, hdLost⟩,
      ⟨hdLost, 200, [.steady 0, .opened .opened, .emitted { type := .deviceOpened },
        .emitted { type := .awaitingProducer }], {}, hdReopened⟩,
      ⟨hdReopened, 200, [.steady 0, .queried .known vga, .started 4 .started, .steady 0,
        .emitted { type := .reconnecting }], {}, vgaReconnected⟩]

/-- They are a run. Source: none: infrastructure -/
theorem reconnection_run : CaptureRun id {} 0 reconnectionTurns vgaReconnected := by
  have hlost : CaptureRun id {} 0 _ hdLost :=
    (coldStart_run id {} 0 hd).snoc (t := 200) (.streamsLoses (f := {}) rfl)
  have hopened : CaptureRun id {} 0 _ hdReopened :=
    hlost.snoc (t := 200) (.absentOpens rfl (Int.le_refl 0))
  exact hopened.snoc (t := 200) (.waitingReconnects rfl rfl (Int.le_refl 0) rfl)

/-- The condition at work: after this run the log shows the published format if and only if `vga` is
`hd`.
Source: none: infrastructure -/
theorem format_logged_iff_reconnection :
    lastLoggedFormat (events reconnectionTurns) = vgaReconnected.stats.streamInfo ↔
      (sessionFormats reconnectionTurns).getLast? =
        (announcedFormats reconnectionTurns).getLast? :=
  format_logged_iff reconnection_run

/-- **A reconnection that the log does not show.** The stream has format `vga`, and the newest event
with a format says `hd`.
Source: `capture_state_machine.cpp` `CaptureStateMachine::step_awaiting_producer` -/
theorem format_not_logged :
    ¬ ∀ (rnd : ℚ → ℚ) (config : DaemonConfig) (now : TimePoint) (ls : List Turn)
        (m : CaptureStateMachine), CaptureRun rnd config now ls m → m.state = .streaming →
        lastLoggedFormat (events ls) = m.stats.streamInfo := by
  intro hall
  have hagree := hall id {} 0 reconnectionTurns vgaReconnected reconnection_run rfl
  have hlogged : lastLoggedFormat (events reconnectionTurns) = some hd := rfl
  have hpublished : vgaReconnected.stats.streamInfo = some vga := rfl
  rw [hlogged, hpublished] at hagree
  exact absurd hagree (by decide)

end reconnection

end Hamstercam
