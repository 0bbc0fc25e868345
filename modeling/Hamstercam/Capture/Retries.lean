import Mathlib.Data.List.Chain
import Mathlib.Data.List.DropRight
import Hamstercam.Capture.Accounting

/-!
# The retry schedule

* `NonDecreasing now ls` — the steady clock, read `now` at construction, never goes back in the run.
* `Turn.attempts`, `Turn.fails`, `Turn.beginsStay` — which turns try to make progress, which of them end
  with a delay, and which begin a new stay in a phase; `failures ls` are the failed attempts of the
  newest stay.
* `RetryStep` — the four things a step can do to the backoffs and the deadline; `StepCase.retryStep`
  says that there are no others.
* `OnBackoff` — backoffs and failed attempts are in step, on any clock; `OnSchedule` — so is the deadline,
  on a clock that does not go back. `RetryStep.keeps_backoff`, `RetryStep.keeps_schedule` are the step
  lemmas.
* `retry_schedule` — the delays of a stay, its first attempt, and the attempt after a failed one.
* `no_dead_end` — the deadline is never more than the longest delay away, and once it has come, a device
  that grants everything is streaming after two steps.
-/

namespace Hamstercam

open Interaction CaptureStateMachine

/-! ## The steady clock of a run -/

/-- What an observation reads off the steady clock. Source: `clock.hpp` `Clock::steady_now` -/
@[simp] def Observation.reading : Observation → Option TimePoint
  | .steady r => some r
  | _ => none

/-- Events read no clock. Source: none: infrastructure -/
@[simp] theorem filterMap_reading_emitted (es : List Event) :
    (es.map Observation.emitted).filterMap Observation.reading = [] := by
  rw [List.filterMap_eq_nil_iff]
  intro o ho
  obtain ⟨e, -, rfl⟩ := List.mem_map.mp ho
  rfl

/-- The clock readings of a turn, in order. Source: `clock.hpp` `Clock::steady_now` -/
def Turn.readings (l : Turn) : List TimePoint := l.trace.filterMap Observation.reading

/-- The clock readings of a run, in order. Source: `clock.hpp` `Clock::steady_now` -/
def readings (ls : List Turn) : List TimePoint := ls.flatMap Turn.readings

/-- The latest reading of a run whose constructor read `now`. Source: none: infrastructure -/
def latest (now : TimePoint) (ls : List Turn) : TimePoint := (readings ls).getLastD now

/-- The clock of a run whose constructor read `now` never goes back.
Source: `clock.hpp` `Clock::steady_now` -/
def NonDecreasing (now : TimePoint) (ls : List Turn) : Prop :=
  (now :: readings ls).IsChain (· ≤ ·)

instance (now : TimePoint) (ls : List Turn) : Decidable (NonDecreasing now ls) :=
  inferInstanceAs (Decidable (List.IsChain _ _))

/-- A chain goes on from its last element. Source: none: infrastructure -/
theorem isChain_cons_append {α : Type} {R : α → α → Prop} {a : α} {xs ys : List α} :
    (a :: (xs ++ ys)).IsChain R ↔ (a :: xs).IsChain R ∧ (xs.getLastD a :: ys).IsChain R := by
  induction xs generalizing a with
  | nil => simp
  | cons x xs ih =>
      rw [List.cons_append, List.isChain_cons_cons, ih, List.isChain_cons_cons, and_assoc,
        List.getLastD_cons]

/-- The last element of an ascending chain is its greatest. Source: none: infrastructure -/
theorem le_getLastD_of_isChain {a : Int} {as : List Int} (h : (a :: as).IsChain (· ≤ ·)) :
    ∀ x ∈ a :: as, x ≤ as.getLastD a := by
  induction as generalizing a with
  | nil =>
      intro x hx
      rw [List.mem_singleton.mp hx]
      exact Int.le_refl a
  | cons b bs ih =>
      obtain ⟨hab, hafter⟩ := List.isChain_cons_cons.mp h
      intro x hx
      rw [List.getLastD_cons]
      rcases List.mem_cons.mp hx with rfl | hx
      · exact Int.le_trans hab (ih hafter b List.mem_cons_self)
      · exact ih hafter x hx

section clock

variable {now : TimePoint} {ls ks : List Turn} {l : Turn}

/-- Source: none: infrastructure -/
theorem readings_append (ls ks : List Turn) : readings (ls ++ ks) = readings ls ++ readings ks := by
  simp [readings]

/-- Source: none: infrastructure -/
theorem readings_singleton (l : Turn) : readings [l] = l.readings := by
  simp [readings]

/-- Source: none: infrastructure -/
theorem latest_snoc : latest now (ls ++ [l]) = l.readings.getLastD (latest now ls) := by
  rw [latest, readings_append, readings_singleton, latest, List.getLastD_eq_getLast?,
    List.getLastD_eq_getLast?,
    List.getLastD_eq_getLast?, List.getLast?_append]
  cases l.readings.getLast? <;> rfl

/-- A clock that does not go back goes on from its latest reading. Source: none: infrastructure -/
theorem nonDecreasing_append :
    NonDecreasing now (ls ++ ks) ↔
      NonDecreasing now ls ∧ (latest now ls :: readings ks).IsChain (· ≤ ·) := by
  rw [NonDecreasing, readings_append, isChain_cons_append]
  rfl

/-- Source: none: infrastructure -/
theorem nonDecreasing_snoc :
    NonDecreasing now (ls ++ [l]) ↔
      NonDecreasing now ls ∧ (latest now ls :: l.readings).IsChain (· ≤ ·) := by
  rw [nonDecreasing_append, readings_singleton]

end clock

/-! ## Attempts, failures and stays -/

namespace Observation

/-- The device was called. Source: `capture_device.hpp` `ICaptureDevice` -/
@[simp] def isDeviceCall : Observation → Bool
  | ⟨.device _, _⟩ => true
  | _ => false

/-- A `query_format` answered `NoProducer`. Source: `capture_device.hpp` `FormatResult` -/
@[simp] def isNoProducer : Observation → Bool
  | .queried .noProducer _ => true
  | _ => false

/-- An `open` answered `Opened`. Source: `capture_device.hpp` `OpenResult` -/
@[simp] def isOpened : Observation → Bool
  | .opened .opened => true
  | _ => false

/-- A `start_streaming` answered `Started`. Source: `capture_device.hpp` `StreamStartResult` -/
@[simp] def isStarted : Observation → Bool
  | .started _ .started => true
  | _ => false

/-- An attempt to find a producer fails: there is none, the query fails, or the start does.
Source: `capture_state_machine.cpp` `step_awaiting_producer`, `step_recovering`, `enter_configuring` -/
@[simp] def isProducerFailure (o : Observation) : Bool :=
  o.isNoProducer || o.isQueryError || o.isStartFailure

end Observation

namespace Turn

/-- The turn is an attempt: it calls the device outside a stream.
Source: `capture_state_machine.cpp` `step_device_absent`, `step_awaiting_producer`, `step_recovering` -/
def attempts (l : Turn) : Bool := l.pre.state != .streaming && l.trace.any Observation.isDeviceCall

/-- The turn is an attempt that fails and is to be repeated: the device cannot be opened, or a producer
cannot be reached.
Source: `capture_state_machine.cpp` `step_device_absent`, `step_awaiting_producer`, `step_recovering` -/
def fails (l : Turn) : Bool :=
  if l.pre.state = .deviceAbsent then l.trace.any Observation.isOpenFailure
  else l.trace.any Observation.isProducerFailure

/-- A new stay in a phase begins with the turn: the absent device is opened, a stream starts, or the
device is released or lost. A probe of a recovery opens the device as well, and begins no stay.
Source: `backoff.hpp` `Backoff`, `capture_state_machine.cpp` `reset_backoffs`, `begin_release_cycle` -/
def beginsStay (l : Turn) : Bool :=
  (l.pre.state == .deviceAbsent && l.trace.any Observation.isOpened) ||
    l.trace.any Observation.isStarted ||
    l.trace.any (Observation.isEvent .stallDetected) ||
    l.trace.any (Observation.isEvent .deviceLost)

end Turn

/-- The turns of the newest stay. Source: `backoff.hpp` `Backoff` -/
def stay (ls : List Turn) : List Turn := ls.rtakeWhile fun l => !l.beginsStay

/-- The failed attempts of the newest stay. Source: `backoff.hpp` `Backoff` -/
def failures (ls : List Turn) : List Turn := (stay ls).filter Turn.fails

/-- The delay after `k` failed attempts of a stay.
Source: `backoff.hpp` `Backoff::next` -/
def backoffDelay (initial max : Millis) : Nat → Millis
  | 0 => initial
  | k + 1 => min max (2 * backoffDelay initial max k)

/-- The ceiling of the delays of a phase.
Source: `daemon_config.hpp` `DaemonConfig`, `capture_state_machine.hpp` members -/
def DaemonConfig.ceiling (config : DaemonConfig) (state : CaptureState) : Millis :=
  if state = .deviceAbsent then config.reconnectMaxBackoff else config.awaitingProducerMaxBackoff

section failures

variable {l : Turn}

/-- A new stay has had no failure. Source: none: infrastructure -/
theorem failures_snoc_of_begins (ls : List Turn) (hb : l.beginsStay = true) :
    failures (ls ++ [l]) = [] := by
  rw [failures, stay, List.rtakeWhile_concat_neg _ _ _ (by simp [hb]), List.filter_nil]

/-- A failure of a stay is one failure more. Source: none: infrastructure -/
theorem failures_snoc_of_fails (ls : List Turn) (hb : l.beginsStay = false)
    (hf : l.fails = true) :
    failures (ls ++ [l]) = failures ls ++ [l] := by
  rw [failures, stay, List.rtakeWhile_concat_pos _ _ _ (by simp [hb]), List.filter_append]
  simp [failures, stay, hf]

/-- Another turn of a stay is not a failure. Source: none: infrastructure -/
theorem failures_snoc_of_keeps (ls : List Turn) (hb : l.beginsStay = false)
    (hf : l.fails = false) :
    failures (ls ++ [l]) = failures ls := by
  rw [failures, stay, List.rtakeWhile_concat_pos _ _ _ (by simp [hb]), List.filter_append]
  simp [failures, stay, hf]

end failures

/-! ## What a step does to the schedule -/

section schedule

variable {rnd : ℚ → ℚ} {config : DaemonConfig} {now : TimePoint} {ls : List Turn} {l : Turn}
  {m m' : CaptureStateMachine} {t : Millis} {tr : List Observation} {out : StepOutcome}

/-- What the turn `l` from `m` to `m'` does to the backoffs and the deadline.
Source: `capture_state_machine.cpp` `CaptureStateMachine::step` and the functions it calls -/
inductive RetryStep (m : CaptureStateMachine) (l : Turn) (m' : CaptureStateMachine) : Prop
  /-- Nothing. -/
  | keeps (hb : l.beginsStay = false) (hf : l.fails = false) (state : m'.state = m.state)
      (absent : m'.deviceAbsentBackoff = m.deviceAbsentBackoff)
      (waiting : m'.awaitingProducerBackoff = m.awaitingProducerBackoff)
      (deadline : m'.nextAttemptAt = m.nextAttemptAt)
  /-- A new stay begins, with backoffs that start anew and a deadline that is not in the future. -/
  | begins (hb : l.beginsStay = true)
      (absent : m'.deviceAbsentBackoff = m.deviceAbsentBackoff.reset ∨
        m.state ≠ .deviceAbsent ∧ m'.deviceAbsentBackoff = m.deviceAbsentBackoff)
      (waiting : m'.awaitingProducerBackoff = m.awaitingProducerBackoff.reset)
      (deadline : l.readings.IsChain (· ≤ ·) →
        ∃ r, l.readings.getLast? = some r ∧ m'.nextAttemptAt ≤ r)
  /-- The absent device cannot be opened. -/
  | failsAbsent (hb : l.beginsStay = false) (hf : l.fails = true) (was : m.state = .deviceAbsent)
      (state : m'.state = .deviceAbsent)
      (absent : m'.deviceAbsentBackoff = m.deviceAbsentBackoff.next.2)
      (waiting : m'.awaitingProducerBackoff = m.awaitingProducerBackoff)
      (wait : l.outcome.recommendedWait = m.deviceAbsentBackoff.current)
      (deadline : ∃ r, l.readings.getLast? = some r ∧
        m'.nextAttemptAt = r + l.outcome.recommendedWait.toNanos)
  /-- A producer cannot be reached. -/
  | failsWaiting (hb : l.beginsStay = false) (hf : l.fails = true)
      (was : m.state = .awaitingProducer) (state : m'.state = .awaitingProducer)
      (absent : m'.deviceAbsentBackoff = m.deviceAbsentBackoff)
      (waiting : m'.awaitingProducerBackoff = m.awaitingProducerBackoff.next.2)
      (wait : l.outcome.recommendedWait = m.awaitingProducerBackoff.current)
      (deadline : ∃ r, l.readings.getLast? = some r ∧
        m'.nextAttemptAt = r + l.outcome.recommendedWait.toNanos)

/-- **Every step is one of the four.**
Source: `capture_state_machine.cpp` `CaptureStateMachine::step` and the functions it calls -/
theorem CaptureStateMachine.StepCase.retryStep (h : StepCase rnd t m tr out m') :
    RetryStep m ⟨m, t, tr, out, m'⟩ m' := by
  cases h with
  | absentOpens hs hw =>
      refine .begins (by simp [Turn.beginsStay, hs]) (.inl rfl) rfl ?_
      intro _
      exact ⟨_, rfl, hw⟩
  | absentFails hs hw =>
      exact .failsAbsent (by simp [Turn.beginsStay]) (by simp [Turn.fails, hs]) hs hs rfl rfl rfl
        ⟨_, rfl, rfl⟩
  | waitingNoProducer hs hr hw | waitingQueryFails hs hr hw | recoveringNoProducer hs hr hw
  | recoveringQueryFails hs hr hw =>
      exact .failsWaiting (by simp [Turn.beginsStay, hs]) (by simp [Turn.fails, hs]) hs hs rfl rfl
        rfl ⟨_, rfl, rfl⟩
  | waitingStartFails hs hr hw | recoveringStartFails hs hr hw =>
      exact .failsWaiting (by simp [Turn.beginsStay, hs]) (by simp [Turn.fails, hs]) hs rfl rfl rfl
        rfl ⟨_, rfl, rfl⟩
  | @waitingStarts read started _ hs hr hw hb | @waitingReconnects read started _ hs hr hw hb =>
      refine .begins (by simp [Turn.beginsStay]) (.inl rfl) rfl ?_
      intro hclock
      have hle : read ≤ started := (List.isChain_cons_cons.mp hclock).1
      exact ⟨_, rfl, Int.le_trans hw hle⟩
  | @recoveringStarts read started _ hs hr hw =>
      refine .begins (by simp [Turn.beginsStay]) (.inl rfl) rfl ?_
      intro hclock
      rw [Turn.readings, List.filterMap_append, filterMap_reading_emitted] at hclock ⊢
      have hle : read ≤ started := (List.isChain_cons_cons.mp hclock).1
      exact ⟨_, rfl, Int.le_trans hw hle⟩
  | recoveringLoses hs hr hw =>
      exact .begins (by simp [Turn.beginsStay]) (.inl rfl) rfl
        fun _ => ⟨_, rfl, Int.le_refl _⟩
  | streamsLoses hs =>
      exact .begins (by simp [Turn.beginsStay]) (.inl rfl) rfl
        fun _ => ⟨_, rfl, Int.le_refl _⟩
  | streamsMismatch hs hc hp =>
      refine .begins (by simp [Turn.beginsStay]) (.inr ⟨by simp [hs], ?_⟩) ?_
        fun _ => ⟨_, rfl, Int.le_refl _⟩
      · simp
      · simp
  | streamsStall hs hq =>
      exact .begins (by simp [Turn.beginsStay]) (.inr ⟨by simp [hs], by simp⟩) (by simp)
        fun _ => ⟨_, rfl, Int.le_refl _⟩
  | streamsFrame hs hp =>
      refine .keeps (by simp [Turn.beginsStay]) (by simp [Turn.fails]) ?_ ?_ ?_ ?_ <;> simp
  | _ =>
      exact .keeps (by simp [Turn.beginsStay]) (by simp [Turn.fails]) rfl rfl rfl rfl

/-- **What a failed attempt does**: it hands out the current delay of its phase, and sets the deadline that
much after its last clock reading.
Source: `capture_state_machine.cpp` `step_device_absent`, `step_awaiting_producer`, `step_recovering`,
`enter_configuring` -/
theorem CaptureStateMachine.StepCase.failure (h : StepCase rnd t m tr out m')
    (hf : Turn.fails ⟨m, t, tr, out, m'⟩ = true) :
    m'.state = m.state ∧
      (∃ r, (Turn.readings ⟨m, t, tr, out, m'⟩).getLast? = some r ∧
        m'.nextAttemptAt = r + out.recommendedWait.toNanos) ∧
      ((m.state = .deviceAbsent ∧ out.recommendedWait = m.deviceAbsentBackoff.current) ∨
        (m.state = .awaitingProducer ∧ out.recommendedWait = m.awaitingProducerBackoff.current)) := by
  cases h with
  | absentFails hs hw => exact ⟨rfl, ⟨_, rfl, rfl⟩, .inl ⟨hs, rfl⟩⟩
  | waitingNoProducer hs hr hw | waitingQueryFails hs hr hw | recoveringNoProducer hs hr hw
  | recoveringQueryFails hs hr hw => exact ⟨rfl, ⟨_, rfl, rfl⟩, .inr ⟨hs, rfl⟩⟩
  | waitingStartFails hs hr hw | recoveringStartFails hs hr hw =>
      exact ⟨hs.symm, ⟨_, rfl, rfl⟩, .inr ⟨hs, rfl⟩⟩
  | absentWaits hs | absentOpens hs | waitingWaits hs | waitingStarts hs | waitingReconnects hs
  | recoveringWaits hs | recoveringLoses hs | recoveringStarts hs => simp [Turn.fails, hs] at hf
  | _ => simp_all [Turn.fails]

/-- Backoffs and failed attempts of a run are in step, after the turns `ls`, whatever the clock says.
Source: `capture_state_machine.hpp` members, `backoff.hpp` `Backoff` -/
structure OnBackoff (config : DaemonConfig) (ls : List Turn) (m : CaptureStateMachine) : Prop where
  /-- The backoffs are the configured ones, each as far as its phase has failed. -/
  absent : m.deviceAbsentBackoff = ⟨config.reconnectInitialBackoff, config.reconnectMaxBackoff,
    backoffDelay config.reconnectInitialBackoff config.reconnectMaxBackoff
      (if m.state = .deviceAbsent then (failures ls).length else 0)⟩
  waiting : m.awaitingProducerBackoff =
    ⟨config.reconnectInitialBackoff, config.awaitingProducerMaxBackoff,
      backoffDelay config.reconnectInitialBackoff config.awaitingProducerMaxBackoff
        (if m.state = .awaitingProducer then (failures ls).length else 0)⟩
  /-- A stream is no attempt. -/
  idle : m.state = .streaming → failures ls = []
  /-- The delays so far. -/
  delays : (failures ls).map (fun l => l.outcome.recommendedWait) =
    (List.range (failures ls).length).map
      (backoffDelay config.reconnectInitialBackoff (config.ceiling m.state))

/-- The next delay of a backoff. Source: `backoff.hpp` `Backoff::next` -/
theorem next_backoffDelay (initial max : Millis) (k : Nat) :
    (Backoff.next ⟨initial, max, backoffDelay initial max k⟩).2 =
      ⟨initial, max, backoffDelay initial max (k + 1)⟩ := by
  rw [backoffDelay, Int.mul_comm]
  rfl

/-- A failure is given the next delay of its phase. Source: `backoff.hpp` `Backoff::next` -/
theorem OnBackoff.fail (hs : OnBackoff config ls m) (hstate : m'.state = m.state)
    (hfail : failures (ls ++ [l]) = failures ls ++ [l])
    (hwait : l.outcome.recommendedWait =
      backoffDelay config.reconnectInitialBackoff (config.ceiling m.state) (failures ls).length) :
    (failures (ls ++ [l])).map (fun l => l.outcome.recommendedWait) =
      (List.range (failures (ls ++ [l])).length).map
        (backoffDelay config.reconnectInitialBackoff (config.ceiling m'.state)) := by
  rw [hfail, List.map_append, hs.delays, List.length_append, List.length_singleton, List.range_succ,
    List.map_append, hstate, List.map_singleton, List.map_singleton, hwait]

/-- **Every step keeps the backoffs in step with the failures.**
Source: `capture_state_machine.cpp` `CaptureStateMachine::step` and the functions it calls -/
theorem RetryStep.keeps_backoff (hs : OnBackoff config ls m) (h : RetryStep m l m') :
    OnBackoff config (ls ++ [l]) m' := by
  cases h with
  | keeps hb hf state absent waiting deadline =>
      have hfail := failures_snoc_of_keeps ls hb hf
      refine ⟨?_, ?_, ?_, ?_⟩
      · rw [absent, state, hfail, hs.absent]
      · rw [waiting, state, hfail, hs.waiting]
      · rw [state, hfail]
        exact hs.idle
      · rw [state, hfail]
        exact hs.delays
  | begins hb absent waiting deadline =>
      have hfail := failures_snoc_of_begins ls hb
      refine ⟨?_, ?_, ?_, ?_⟩
      · rw [hfail, List.length_nil, ite_self]
        rcases absent with absent | ⟨hne, absent⟩
        · rw [absent, hs.absent]
          rfl
        · rw [absent, hs.absent, if_neg hne]
      · rw [hfail, List.length_nil, ite_self, waiting, hs.waiting]
        rfl
      · intro _
        exact hfail
      · rw [hfail]
        rfl
  | failsAbsent hb hf was state absent waiting wait deadline =>
      have hfail := failures_snoc_of_fails ls hb hf
      have hwait : l.outcome.recommendedWait = backoffDelay config.reconnectInitialBackoff
          (config.ceiling m.state) (failures ls).length := by
        rw [wait, hs.absent, if_pos was, DaemonConfig.ceiling, if_pos was]
      refine ⟨?_, ?_, ?_, hs.fail (state.trans was.symm) hfail hwait⟩
      · rw [absent, hs.absent, next_backoffDelay, if_pos was, if_pos state, hfail,
          List.length_append]
        rfl
      · rw [waiting, hs.waiting, was, state]
        rfl
      · rw [state]
        intro habs
        cases habs
  | failsWaiting hb hf was state absent waiting wait deadline =>
      have hfail := failures_snoc_of_fails ls hb hf
      have hwait : l.outcome.recommendedWait = backoffDelay config.reconnectInitialBackoff
          (config.ceiling m.state) (failures ls).length := by
        rw [wait, hs.waiting, if_pos was, DaemonConfig.ceiling, was]
        rfl
      refine ⟨?_, ?_, ?_, hs.fail (state.trans was.symm) hfail hwait⟩
      · rw [absent, hs.absent, was, state]
        rfl
      · rw [waiting, hs.waiting, next_backoffDelay, if_pos was, if_pos state, hfail,
          List.length_append]
        rfl
      · rw [state]
        intro hwaits
        cases hwaits

/-- **The backoffs of a run are in step with its failures.**
Source: `capture_state_machine.cpp` `CaptureStateMachine::step` -/
theorem CaptureRun.onBackoff (h : CaptureRun rnd config now ls m) : OnBackoff config ls m := by
  refine Run.history_invariant (fun ls m => OnBackoff config ls m) ⟨rfl, rfl, fun _ => rfl, rfl⟩ ?_ h
  intro ls m l m' _ ih hl
  have hretry := hl.case.retryStep
  obtain ⟨rfl, rfl, -⟩ := hl
  exact hretry.keeps_backoff ih

/-- Backoffs, deadline and failed attempts of a run are in step, after the turns `ls`.
Source: `capture_state_machine.hpp` members, `backoff.hpp` `Backoff` -/
structure OnSchedule (config : DaemonConfig) (now : TimePoint) (ls : List Turn)
    (m : CaptureStateMachine) : Prop where
  /-- The backoffs are the configured ones, each as far as its phase has failed. -/
  absent : m.deviceAbsentBackoff = ⟨config.reconnectInitialBackoff, config.reconnectMaxBackoff,
    backoffDelay config.reconnectInitialBackoff config.reconnectMaxBackoff
      (if m.state = .deviceAbsent then (failures ls).length else 0)⟩
  waiting : m.awaitingProducerBackoff =
    ⟨config.reconnectInitialBackoff, config.awaitingProducerMaxBackoff,
      backoffDelay config.reconnectInitialBackoff config.awaitingProducerMaxBackoff
        (if m.state = .awaitingProducer then (failures ls).length else 0)⟩
  /-- A stream is no attempt. -/
  idle : m.state = .streaming → failures ls = []
  /-- The delays so far. -/
  delays : (failures ls).map (fun l => l.outcome.recommendedWait) =
    (List.range (failures ls).length).map
      (backoffDelay config.reconnectInitialBackoff (config.ceiling m.state))
  /-- Before the first failure there is nothing to wait for. -/
  due : failures ls = [] → m.nextAttemptAt ≤ latest now ls
  /-- After a failure there is its delay. -/
  delayed : ∀ f, (failures ls).getLast? = some f →
    ∃ r, f.readings.getLast? = some r ∧
      m.nextAttemptAt = r + f.outcome.recommendedWait.toNanos

/-- The machine is on schedule after its constructor.
Source: `capture_state_machine.cpp` `CaptureStateMachine::CaptureStateMachine` -/
theorem onSchedule_new : OnSchedule config now [] (.new rnd config now) where
  absent := rfl
  waiting := rfl
  idle _ := rfl
  delays := rfl
  due _ := Int.le_refl now
  delayed _ hf := by cases hf

/-- A clock that does not go back does not go back in a turn.
Source: none: infrastructure -/
theorem latest_le_latest_snoc (h : NonDecreasing now (ls ++ [l])) :
    latest now ls ≤ latest now (ls ++ [l]) := by
  have hturn := (nonDecreasing_snoc.mp h).2
  rw [latest_snoc]
  exact le_getLastD_of_isChain hturn _ List.mem_cons_self

/-- The last reading of a turn is the latest of the run. Source: none: infrastructure -/
theorem latest_snoc_of_getLast? {r : TimePoint} (h : l.readings.getLast? = some r) :
    latest now (ls ++ [l]) = r := by
  rw [latest_snoc, List.getLastD_eq_getLast?, h]
  rfl

/-- Source: none: infrastructure -/
theorem OnSchedule.onBackoff (hs : OnSchedule config now ls m) : OnBackoff config ls m :=
  ⟨hs.absent, hs.waiting, hs.idle, hs.delays⟩

/-- The delay of a failure counts from the last reading of its turn.
Source: `backoff.hpp` `Backoff::next` -/
theorem OnSchedule.of_failure (hs : OnBackoff config (ls ++ [l]) m')
    (hfail : failures (ls ++ [l]) = failures ls ++ [l])
    (hdeadline : ∃ r, l.readings.getLast? = some r ∧
      m'.nextAttemptAt = r + l.outcome.recommendedWait.toNanos) :
    OnSchedule config now (ls ++ [l]) m' := by
  refine ⟨hs.absent, hs.waiting, hs.idle, hs.delays, ?_, ?_⟩
  · intro hnone
    rw [hfail] at hnone
    simp at hnone
  · intro f hf
    rw [hfail, List.getLast?_concat] at hf
    obtain rfl := Option.some.inj hf
    exact hdeadline

/-- **Every step keeps the machine on schedule.**
Source: `capture_state_machine.cpp` `CaptureStateMachine::step` and the functions it calls -/
theorem RetryStep.keeps_schedule (hclock : NonDecreasing now (ls ++ [l]))
    (hs : OnSchedule config now ls m) (h : RetryStep m l m') :
    OnSchedule config now (ls ++ [l]) m' := by
  have hbackoff := h.keeps_backoff hs.onBackoff
  cases h with
  | keeps hb hf state absent waiting deadline =>
      have hfail := failures_snoc_of_keeps ls hb hf
      refine ⟨hbackoff.absent, hbackoff.waiting, hbackoff.idle, hbackoff.delays, ?_, ?_⟩
      · rw [hfail, deadline]
        intro hnone
        exact Int.le_trans (hs.due hnone) (latest_le_latest_snoc hclock)
      · rw [hfail, deadline]
        exact hs.delayed
  | begins hb absent waiting deadline =>
      have hfail := failures_snoc_of_begins ls hb
      have hturn := (nonDecreasing_snoc.mp hclock).2
      obtain ⟨r, hr, hdue⟩ := deadline (List.isChain_cons.mp hturn).2
      refine ⟨hbackoff.absent, hbackoff.waiting, hbackoff.idle, hbackoff.delays, ?_, ?_⟩
      · intro _
        rw [latest_snoc_of_getLast? hr]
        exact hdue
      · intro f hf
        rw [hfail] at hf
        cases hf
  | failsAbsent hb hf was state absent waiting wait deadline =>
      exact .of_failure hbackoff (failures_snoc_of_fails ls hb hf) deadline
  | failsWaiting hb hf was state absent waiting wait deadline =>
      exact .of_failure hbackoff (failures_snoc_of_fails ls hb hf) deadline

/-- **A run with a clock that does not go back is on schedule.**
Source: `capture_state_machine.cpp` `CaptureStateMachine::step` -/
theorem CaptureRun.onSchedule (h : CaptureRun rnd config now ls m) (hclock : NonDecreasing now ls) :
    OnSchedule config now ls m := by
  revert hclock
  refine Run.history_invariant (fun ls m => NonDecreasing now ls → OnSchedule config now ls m)
    (fun _ => onSchedule_new) ?_ h
  intro ls m l m' _ ih hl hclock
  have hretry := hl.case.retryStep
  obtain ⟨rfl, rfl, -⟩ := hl
  exact hretry.keeps_schedule hclock (ih (nonDecreasing_snoc.mp hclock).1)

/-- Outside a stream a step reads the clock, and attempts something exactly if the deadline has come.
Source: `capture_state_machine.cpp` `step_device_absent`, `step_awaiting_producer`, `step_recovering` -/
theorem CaptureStateMachine.StepCase.attempts_iff (hm : Resting m) (hs : m.state ≠ .streaming)
    (h : StepCase rnd t m tr out m') :
    ∃ r, (Turn.readings ⟨m, t, tr, out, m'⟩).head? = some r ∧
      (Turn.attempts ⟨m, t, tr, out, m'⟩ = true ↔ m.nextAttemptAt ≤ r) := by
  cases h with
  | absentWaits hs' hw | waitingWaits hs' hr hw | recoveringWaits hs' hr hw =>
      refine ⟨_, rfl, ?_⟩
      simp [Turn.attempts, hw]
  | absentOpens hs' hw | absentFails hs' hw | waitingNoProducer hs' hr hw
  | waitingQueryFails hs' hr hw | waitingStartFails hs' hr hw | recoveringLoses hs' hr hw
  | recoveringNoProducer hs' hr hw | recoveringQueryFails hs' hr hw
  | recoveringStartFails hs' hr hw | recoveringStarts hs' hr hw =>
      refine ⟨_, rfl, ?_⟩
      simp [Turn.attempts, hs', hw]
  | waitingStarts hs' hr hw hb | waitingReconnects hs' hr hw hb =>
      refine ⟨_, rfl, ?_⟩
      simp [Turn.attempts, hs', hw]
  | transient hs' =>
      have hstate := hm.state
      rcases hs' with hs' | hs' <;> simp [hs'] at hstate
  | _ => contradiction

/-- **The retry schedule.** The failed attempts of a stay are given the delays `d₁ = initial` and
`dₖ₊₁ = min max (2 dₖ)`, with the ceiling of the phase; the first attempt of a stay is made at once; and
the attempt after a failed one is made when its delay has passed since its last clock reading.
Source: `backoff.hpp` `Backoff`, `capture_state_machine.cpp` `CaptureStateMachine::step` -/
theorem retry_schedule (h : CaptureRun rnd config now ls m) (hclock : NonDecreasing now ls) :
    (failures ls).map (fun l => l.outcome.recommendedWait) =
        (List.range (failures ls).length).map
          (backoffDelay config.reconnectInitialBackoff (config.ceiling m.state)) ∧
      ∀ l m', Turn.Of rnd m l m' → m.state ≠ .streaming → NonDecreasing now (ls ++ [l]) →
        (failures ls = [] → l.attempts = true) ∧
          ∀ f, (failures ls).getLast? = some f →
            ∃ r r', f.readings.getLast? = some r ∧ l.readings.head? = some r' ∧
              (l.attempts = true ↔ r + f.outcome.recommendedWait.toNanos ≤ r') := by
  have hs := CaptureRun.onSchedule h hclock
  refine ⟨hs.delays, ?_⟩
  intro l m' hl hne hnext
  obtain ⟨r', hr', hattempt⟩ := hl.case.attempts_iff (CaptureRun.resting h) hne
  obtain ⟨rfl, rfl, -⟩ := hl
  constructor
  · intro hnone
    have hlatest : latest now ls ≤ r' :=
      (List.isChain_cons.mp (nonDecreasing_snoc.mp hnext).2).1 r' hr'
    exact hattempt.mpr (Int.le_trans (hs.due hnone) hlatest)
  · intro f hf
    obtain ⟨r, hr, hdeadline⟩ := hs.delayed f hf
    refine ⟨r, r', hr, hr', ?_⟩
    rw [← hdeadline]
    exact hattempt

/-! ## No dead end -/

/-- The longest delay of a configuration. Source: `daemon_config.hpp` `DaemonConfig` -/
def DaemonConfig.longestBackoff (config : DaemonConfig) : Millis :=
  max config.reconnectInitialBackoff
    (max config.reconnectMaxBackoff config.awaitingProducerMaxBackoff)

/-- Source: `backoff.hpp` `Backoff::next` -/
theorem backoffDelay_le_max (initial max' : Millis) (k : Nat) :
    backoffDelay initial max' k ≤ max initial max' := by
  cases k with
  | zero => exact Int.le_max_left _ _
  | succ k => exact Int.le_trans (Int.min_le_left _ _) (Int.le_max_right _ _)

/-- No delay is longer than the longest. Source: `daemon_config.hpp` `DaemonConfig` -/
theorem backoffDelay_le_longest (state : CaptureState) (k : Nat) :
    backoffDelay config.reconnectInitialBackoff (config.ceiling state) k ≤ config.longestBackoff := by
  have hceiling : config.ceiling state ≤
      max config.reconnectMaxBackoff config.awaitingProducerMaxBackoff := by
    unfold DaemonConfig.ceiling
    split_ifs
    · exact Int.le_max_left _ _
    · exact Int.le_max_right _ _
  have hlongest : config.ceiling state ≤ config.longestBackoff :=
    Int.le_trans hceiling (Int.le_max_right _ _)
  exact Int.le_trans (backoffDelay_le_max _ _ k) (Int.max_le.mpr ⟨Int.le_max_left _ _, hlongest⟩)

/-- Every reading of a run is at most the latest. Source: none: infrastructure -/
theorem le_latest {r : TimePoint} (h : NonDecreasing now ls) (hr : r ∈ readings ls) :
    r ≤ latest now ls := by
  exact le_getLastD_of_isChain h r (List.mem_cons_of_mem now hr)

/-- The answer is one that lets the machine go on: `Opened`, `Known` or `Started`.
Source: `capture_device.hpp` `ICaptureDevice` -/
def Observation.granted : Observation → Bool
  | .opened r => r = .opened
  | .queried r _ => r = .known
  | .started _ r => r = .started
  | _ => true

/-- **What a step does when the deadline has come and the device grants everything**: it opens the
device, or it reaches the stream.
Source: `capture_state_machine.cpp` `step_device_absent`, `step_awaiting_producer`, `step_recovering` -/
theorem CaptureStateMachine.StepCase.of_granted (hm : Resting m) (hs : m.state ≠ .streaming)
    (h : StepCase rnd t m tr out m')
    (hdue : ∀ r, (tr.filterMap Observation.reading).head? = some r → m.nextAttemptAt ≤ r)
    (hgranted : ∀ o ∈ tr, o.granted = true) :
    (m.state = .deviceAbsent ∧ m'.state = .awaitingProducer ∧
        m'.nextAttemptAt = m.nextAttemptAt) ∨
      (m.state = .awaitingProducer ∧ m'.state = .streaming ∧ m'.recovering = false) := by
  cases h with
  | absentOpens hs' hw => exact .inl ⟨hs', rfl, rfl⟩
  | waitingStarts hs' hr hw hb => exact .inr ⟨hs', rfl, hr⟩
  | waitingReconnects hs' hr hw hb => exact .inr ⟨hs', rfl, hr⟩
  | recoveringStarts hs' hr hw => exact .inr ⟨hs', rfl, rfl⟩
  | absentWaits hs' hw | waitingWaits hs' hr hw | recoveringWaits hs' hr hw =>
      exact absurd (hdue _ rfl) (Int.not_le.mpr hw)
  | transient hs' =>
      have hstate := hm.state
      rcases hs' with hs' | hs' <;> simp [hs'] at hstate
  | _ => simp_all [Observation.granted]

/-- **The deadline is never more than the longest delay away.**
Source: `capture_state_machine.hpp` member `next_attempt_at_` -/
theorem CaptureRun.deadline_le (h : CaptureRun rnd config now ls m) (hclock : NonDecreasing now ls)
    (hinitial : 0 ≤ config.reconnectInitialBackoff) :
    m.nextAttemptAt ≤ latest now ls + config.longestBackoff.toNanos := by
  have hs := CaptureRun.onSchedule h hclock
  have hlongest : 0 ≤ config.longestBackoff := Int.le_trans hinitial (Int.le_max_left _ _)
  cases hlast : (failures ls).getLast? with
  | none =>
      have hdue := hs.due (List.getLast?_eq_none_iff.mp hlast)
      have hpos : 0 ≤ config.longestBackoff.toNanos := Int.mul_nonneg hlongest (by decide)
      exact Int.le_trans hdue (Int.le_add_of_nonneg_right hpos)
  | some f =>
      obtain ⟨r, hr, hdeadline⟩ := hs.delayed f hlast
      have hmem : f ∈ failures ls := List.mem_of_getLast? hlast
      have hrun : f ∈ ls := (List.rtakeWhile_suffix _ _).subset (List.mem_filter.mp hmem).1
      have hreading : r ∈ readings ls :=
        List.mem_flatMap.mpr ⟨f, hrun, List.mem_of_getLast? hr⟩
      have hwait : f.outcome.recommendedWait ≤ config.longestBackoff := by
        have hdelay := List.mem_map_of_mem (f := fun l => l.outcome.recommendedWait) hmem
        rw [hs.delays] at hdelay
        obtain ⟨k, -, hk⟩ := List.mem_map.mp hdelay
        rw [← hk]
        exact backoffDelay_le_longest _ k
      have hnanos : f.outcome.recommendedWait.toNanos ≤ config.longestBackoff.toNanos :=
        Int.mul_le_mul_of_nonneg_right hwait (by decide)
      rw [hdeadline]
      exact Int.add_le_add (le_latest hclock hreading) hnanos

/-- **No dead end.** The deadline is never more than the longest delay away; and once it has come, two
steps with a device that grants everything reach a stream.
Source: `capture_state_machine.cpp` `CaptureStateMachine::step` and the functions it calls -/
theorem no_dead_end (h : CaptureRun rnd config now ls m) (hclock : NonDecreasing now ls)
    (hinitial : 0 ≤ config.reconnectInitialBackoff) :
    m.nextAttemptAt ≤ latest now ls + config.longestBackoff.toNanos ∧
      (m.state ≠ .streaming → ∀ ks m', Run (Turn.Of rnd) m ks m' →
        NonDecreasing now (ls ++ ks) → (∀ r, (readings ks).head? = some r → m.nextAttemptAt ≤ r) →
        (∀ o ∈ exchange ks, o.granted = true) → 2 ≤ ks.length →
        ∃ l ∈ ks.take 2, l.post.state = .streaming ∧ l.post.recovering = false) := by
  refine ⟨CaptureRun.deadline_le h hclock hinitial, ?_⟩
  intro hne ks m' hks hforward hdue hgranted hlen
  obtain ⟨l₁, l₂, rest, rfl⟩ : ∃ l₁ l₂ rest, ks = l₁ :: l₂ :: rest := by
    match ks, hlen with
    | l₁ :: l₂ :: rest, _ => exact ⟨l₁, l₂, rest, rfl⟩
  obtain ⟨m₁, hl₁, hrest⟩ := run_cons.mp hks
  obtain ⟨m₂, hl₂, -⟩ := run_cons.mp hrest
  have hm := CaptureRun.resting h
  have hgrant₁ : ∀ o ∈ l₁.trace, o.granted = true := fun o ho => hgranted o (by simp [exchange, ho])
  have hgrant₂ : ∀ o ∈ l₂.trace, o.granted = true := fun o ho => hgranted o (by simp [exchange, ho])
  obtain ⟨r₁, hr₁, -⟩ := hl₁.case.attempts_iff hm hne
  have hread : l₁.readings.head? = some r₁ := hr₁
  have hdue₁ : ∀ r, l₁.readings.head? = some r → m.nextAttemptAt ≤ r :=
    fun r hr => hdue r (by simp [readings, hr])
  rcases hl₁.case.of_granted hm hne hdue₁ hgrant₁ with
    ⟨-, hstate, hdeadline⟩ | ⟨-, hstate, hrecovering⟩
  · -- the first step opens the device, so the second one finds the producer
    have hm₁ := hm.keeps hl₁.case
    have hne₁ : m₁.state ≠ .streaming := by simp [hstate]
    have hdue₂ : ∀ r, l₂.readings.head? = some r → m₁.nextAttemptAt ≤ r := by
      intro r hr
      have hclock₂ : NonDecreasing now ((ls ++ [l₁]) ++ (l₂ :: rest)) := by simpa using hforward
      obtain ⟨hclock₁, hchain⟩ := nonDecreasing_append.mp hclock₂
      have hr₁mem : r₁ ∈ readings (ls ++ [l₁]) := by
        rw [readings_append, readings_singleton]
        exact List.mem_append_right _ (List.mem_of_mem_head? hread)
      have hhead : (readings (l₂ :: rest)).head? = some r := by simp [readings, hr]
      have hlatest := (List.isChain_cons.mp hchain).1 r hhead
      rw [hdeadline]
      exact Int.le_trans (hdue₁ r₁ hread) (Int.le_trans (le_latest hclock₁ hr₁mem) hlatest)
    rcases hl₂.case.of_granted hm₁ hne₁ hdue₂ hgrant₂ with
      ⟨habsent, -, -⟩ | ⟨-, hstate₂, hrecovering₂⟩
    · rw [hstate] at habsent
      cases habsent
    · refine ⟨l₂, by simp, ?_, ?_⟩
      · rw [hl₂.post, hstate₂]
      · rw [hl₂.post, hrecovering₂]
  · refine ⟨l₁, by simp, ?_, ?_⟩
    · rw [hl₁.post, hstate]
    · rw [hl₁.post, hrecovering]

end schedule

/-! ## A device that is not there at first

The first `open` fails; 200 ms later the device is opened, and its producer is found at once. -/

section failedOpen

/-- The machine after the failed `open`. Source: none: infrastructure -/
def openFailed : CaptureStateMachine :=
  ((CaptureStateMachine.new id {} 0).withError .open).delayDeviceAbsent 0

/-- The machine after the second `open`. Source: none: infrastructure -/
def openRetried : CaptureStateMachine := openFailed.resetBackoffs.withState .awaitingProducer

/-- The machine at the beginning of its stream. Source: none: infrastructure -/
def openStreams : CaptureStateMachine :=
  ((openRetried.withFormat {}).sessionStarted 200000000).withStreamed

/-- The failed `open`. Source: none: infrastructure -/
def failedOpen : Turn :=
  ⟨.new id {} 0, 200, [.steady 0, .opened .absent], ⟨200⟩, openFailed⟩

/-- The second `open`. Source: none: infrastructure -/
def retriedOpen : Turn :=
  ⟨openFailed, 200, [.steady 200000000, .opened .opened, .emitted { type := .deviceOpened },
    .emitted { type := .awaitingProducer }], {}, openRetried⟩

/-- The start of the stream. Source: none: infrastructure -/
def retriedStart : Turn :=
  ⟨openRetried, 200, [.steady 200000000, .queried .known {}, .started 4 .started,
    .steady 200000000, .emitted { type := .streamingStarted }], {}, openStreams⟩

/-- The failed `open` is a run. Source: none: infrastructure -/
theorem failedOpen_run : CaptureRun id {} 0 [failedOpen] openFailed :=
  CaptureRun.snoc (t := 200) .nil (.absentFails rfl (Int.le_refl 0))

/-- The second `open` is a turn. Source: none: infrastructure -/
theorem retriedOpen_turn : Turn.Of id openFailed retriedOpen openRetried :=
  Turn.of_case (.absentOpens rfl (by decide))

/-- So is the start. Source: none: infrastructure -/
theorem retriedStart_turn : Turn.Of id openRetried retriedStart openStreams :=
  Turn.of_case (.waitingStarts rfl rfl (by decide) rfl)

/-- The schedule at work: one delay so far, and the second `open` is made after it.
Source: none: infrastructure -/
theorem retry_schedule_failedOpen :
    (failures [failedOpen]).map (fun l => l.outcome.recommendedWait) =
        (List.range (failures [failedOpen]).length).map (backoffDelay 200 30000) ∧
      ∀ f, (failures [failedOpen]).getLast? = some f →
        ∃ r r', f.readings.getLast? = some r ∧ retriedOpen.readings.head? = some r' ∧
          (retriedOpen.attempts = true ↔ r + f.outcome.recommendedWait.toNanos ≤ r') := by
  have hclock : NonDecreasing 0 [failedOpen] := by decide
  have hschedule := retry_schedule failedOpen_run hclock
  have hnext : NonDecreasing 0 ([failedOpen] ++ [retriedOpen]) := by decide
  exact ⟨hschedule.1, (hschedule.2 _ _ retriedOpen_turn (by decide) hnext).2⟩

/-- The device is there from the second `open` on, and two steps reach the stream.
Source: none: infrastructure -/
theorem no_dead_end_failedOpen :
    ∃ l ∈ [retriedOpen, retriedStart], l.post.state = .streaming ∧ l.post.recovering = false := by
  have hclock : NonDecreasing 0 [failedOpen] := by decide
  have hnext : NonDecreasing 0 ([failedOpen] ++ [retriedOpen, retriedStart]) := by decide
  have hrun : Run (Turn.Of id) openFailed [retriedOpen, retriedStart] openStreams :=
    (Run.snoc (.snoc .nil retriedOpen_turn) retriedStart_turn :)
  have hdue : ∀ r, (readings [retriedOpen, retriedStart]).head? = some r →
      openFailed.nextAttemptAt ≤ r := by
    intro r hr
    cases hr
    decide
  exact (no_dead_end failedOpen_run hclock (by decide)).2 (by decide) _ _ hrun hnext hdue
    (by decide) (by decide)

end failedOpen

end Hamstercam
