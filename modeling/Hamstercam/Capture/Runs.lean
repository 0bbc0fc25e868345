import Hamstercam.Capture.StepCases
import Hamstercam.Lib.Runs

/-!
# Runs of the capture state machine

* `Turn` — one call of `step`, with the machine before and after it and everything exchanged with the
  world in between; `Turn.Of` says that it is one.
* `CaptureRun rnd config now ls m` — the machine constructed at clock reading `now` reaches `m` by the
  turns `ls`. Neither the device nor the clock is restricted.
* `Resting` — what holds of the machine between two steps. `CaptureRun.resting` is the invariant;
  `Turn.Of.case` and `Turn.Of.resting` are what the other modules use of a step.
* `Phase` — the four resting phases of the machine.
* `coldStart` — the shortest run to a stream: the device opens, a producer is there, the stream starts.
-/

namespace Hamstercam

open Interaction CaptureStateMachine

/-! ## Turns and runs -/

/-- One call of `step`.
Source: `capture_state_machine.hpp` `CaptureStateMachine::step` -/
structure Turn where
  /-- The machine before the step. -/
  pre : CaptureStateMachine
  /-- The argument of `step`. -/
  pollTimeout : Millis
  /-- Everything exchanged with the device, the clocks and the event sink. -/
  trace : List Observation
  /-- What `step` returns. -/
  outcome : StepOutcome
  /-- The machine after the step. -/
  post : CaptureStateMachine

/-- The turn `l` is a step from `m` to `m'`.
Source: `capture_state_machine.cpp` `CaptureStateMachine::step` -/
structure Turn.Of (rnd : ℚ → ℚ) (m : CaptureStateMachine) (l : Turn) (m' : CaptureStateMachine) :
    Prop where
  pre : l.pre = m
  post : l.post = m'
  does : Does (step rnd l.pollTimeout) m l.trace l.outcome m'

/-- The machine constructed at clock reading `now` reaches `m` by the turns `ls`.
Source: `main.cpp` `main`, `capture_state_machine.cpp` `CaptureStateMachine::CaptureStateMachine` -/
abbrev CaptureRun (rnd : ℚ → ℚ) (config : DaemonConfig) (now : TimePoint) (ls : List Turn)
    (m : CaptureStateMachine) : Prop :=
  Run (Turn.Of rnd) (.new rnd config now) ls m

variable {rnd : ℚ → ℚ} {config : DaemonConfig} {now : TimePoint} {ls : List Turn} {l : Turn}
  {m m' : CaptureStateMachine}

/-- A turn is one of the cases of a step. Source: none: infrastructure -/
theorem Turn.Of.case (h : Turn.Of rnd m l m') : StepCase rnd l.pollTimeout m l.trace l.outcome m' :=
  stepCase_of_does h.does

/-- Every case of a step is a turn. Source: none: infrastructure -/
theorem Turn.of_case {t : Millis} {tr : List Observation} {out : StepOutcome}
    (h : StepCase rnd t m tr out m') : Turn.Of rnd m ⟨m, t, tr, out, m'⟩ m' :=
  ⟨rfl, rfl, does_of_stepCase h⟩

/-- The event an observation emits. Source: none: infrastructure -/
def Observation.event : Observation → Option Event
  | .emitted e => some e
  | _ => none

/-- The events of an emitted list are the list. Source: none: infrastructure -/
@[simp] theorem filterMap_event_emitted (es : List Event) :
    (es.map Observation.emitted).filterMap Observation.event = es := by
  induction es with
  | nil => rfl
  | cons e es ih =>
      have hhead : Observation.event (.emitted e) = some e := rfl
      rw [List.map_cons, List.filterMap_cons_some hhead, ih]

/-- The events of a turn, in order. Source: none: infrastructure -/
def Turn.events (l : Turn) : List Event := l.trace.filterMap Observation.event

/-- Everything exchanged in a run, in order. Source: none: infrastructure -/
def exchange (ls : List Turn) : List Observation := ls.flatMap Turn.trace

/-- The events of a run, in order. Source: none: infrastructure -/
def events (ls : List Turn) : List Event := ls.flatMap Turn.events

/-- Source: none: infrastructure -/
theorem exchange_snoc (ls : List Turn) (l : Turn) : exchange (ls ++ [l]) = exchange ls ++ l.trace := by
  simp [exchange]

/-- Source: none: infrastructure -/
theorem events_snoc (ls : List Turn) (l : Turn) : events (ls ++ [l]) = events ls ++ l.events := by
  simp [events]

/-! ## The machine between two steps -/

/-- What holds of the machine whenever `step` is not running.
Source: `capture_state_machine.cpp` `CaptureStateMachine::step` (the comment on the transient states) -/
structure Resting (m : CaptureStateMachine) : Prop where
  /-- The transient states are never seen. -/
  state : m.state = .deviceAbsent ∨ m.state = .awaitingProducer ∨ m.state = .streaming
  /-- The gauge shows the state. -/
  gauge : m.stats.captureState = m.state.toInt
  /-- A recovery waits for a producer. -/
  recovers : m.recovering = true → m.state = .awaitingProducer
  /-- A stream, and a recovery from one, come after a first stream. -/
  streamed : m.state = .streaming ∨ m.recovering = true → m.hasStreamedBefore = true
  /-- A last frame belongs to a stream. -/
  frame : m.haveLastFrame = true → m.state = .streaming
  /-- The published format is the format of the stream. -/
  info : m.state = .streaming → m.stats.streamInfo = some m.currentFormat

namespace CaptureStateMachine

/-- The machine is resting after its constructor.
Source: `capture_state_machine.cpp` `CaptureStateMachine::CaptureStateMachine` -/
theorem resting_new : Resting (.new rnd config now) where
  state := .inl rfl
  gauge := rfl
  recovers h := by simp at h
  streamed h := by simp at h
  frame h := by simp at h
  info h := by simp at h

end CaptureStateMachine

/-- No error count changes the published format. Source: none: infrastructure -/
@[simp] theorem streamInfo_recordError (s : CaptureStats) (r : ErrorReason) :
    (s.recordError r).streamInfo = s.streamInfo := rfl

/-- A frame does not change the published format. Source: none: infrastructure -/
@[simp] theorem streamInfo_recordFrame (s : CaptureStats) (b : UInt64) (w : Int) (i : Option ℚ) :
    (s.recordFrame rnd b w i).streamInfo = s.streamInfo := rfl

/-- Taking a frame does not change the published format.
Source: `capture_state_machine.cpp` `handle_frame`, `check_arrival_rate` -/
@[simp] theorem streamInfo_frameTaken (m : CaptureStateMachine) (f : FrameDescriptor) (w : Int) :
    (m.frameTaken rnd f w).stats.streamInfo = m.stats.streamInfo := by
  rw [frameTaken, checkArrivalRate_stats]
  split_ifs <;> simp

/-- Taking a frame does not change the gauge.
Source: `capture_state_machine.cpp` `handle_frame`, `check_arrival_rate` -/
@[simp] theorem captureState_frameTaken (m : CaptureStateMachine) (f : FrameDescriptor) (w : Int) :
    (m.frameTaken rnd f w).stats.captureState = m.stats.captureState := by
  rw [frameTaken, checkArrivalRate_stats]
  split_ifs <;> simp

/-- **Every step leads from a resting machine to a resting machine.**
Source: `capture_state_machine.cpp` `CaptureStateMachine::step` -/
theorem Resting.keeps {t : Millis} {tr : List Observation} {out : StepOutcome} (hm : Resting m)
    (h : StepCase rnd t m tr out m') : Resting m' := by
  cases h with
  | absentWaits hs hw => exact hm
  | absentOpens hs hw =>
      have hr : m.recovering = false := by
        by_contra hr
        have := hm.recovers (by simpa using hr)
        simp [hs] at this
      have hf : m.haveLastFrame = false := by
        by_contra hf
        have := hm.frame (by simpa using hf)
        simp [hs] at this
      constructor <;> simp [hr, hf]
  | absentFails hs hw =>
      obtain ⟨h₁, h₂, h₃, h₄, h₅, h₆⟩ := hm
      constructor <;> simp_all
  | waitingWaits hs hr hw => exact hm
  | waitingNoProducer hs hr hw =>
      obtain ⟨h₁, h₂, h₃, h₄, h₅, h₆⟩ := hm
      constructor <;> simp_all
  | waitingQueryFails hs hr hw =>
      obtain ⟨h₁, h₂, h₃, h₄, h₅, h₆⟩ := hm
      constructor <;> simp_all
  | waitingStartFails hs hr hw =>
      obtain ⟨h₁, h₂, h₃, h₄, h₅, h₆⟩ := hm
      constructor <;> simp_all
  | waitingStarts hs hr hw hb =>
      constructor <;> simp [hr, CaptureStats.streamInfo]
  | waitingReconnects hs hr hw hb =>
      constructor <;> simp [hr, hb, CaptureStats.streamInfo]
  | recoveringWaits hs hr hw => exact hm
  | recoveringLoses hs hr hw => constructor <;> simp
  | recoveringNoProducer hs hr hw =>
      obtain ⟨h₁, h₂, h₃, h₄, h₅, h₆⟩ := hm
      constructor <;> simp_all
  | recoveringQueryFails hs hr hw =>
      obtain ⟨h₁, h₂, h₃, h₄, h₅, h₆⟩ := hm
      constructor <;> simp_all
  | recoveringStartFails hs hr hw =>
      obtain ⟨h₁, h₂, h₃, h₄, h₅, h₆⟩ := hm
      constructor <;> simp_all
  | recoveringStarts hs hr hw =>
      have hb := hm.streamed (.inr hr)
      constructor <;> simp [hb, CaptureStats.streamInfo]
  | streamsFrame hs hp =>
      obtain ⟨h₁, h₂, h₃, h₄, h₅, h₆⟩ := hm
      constructor <;> simp_all
  | streamsMismatch hs hc hp =>
      have hb := hm.streamed (.inl hs)
      constructor <;> simp [hb]
  | streamsTimeout hs hq => exact hm
  | streamsStall hs hq =>
      have hb := hm.streamed (.inl hs)
      constructor <;> simp [hb]
  | streamsError hs =>
      obtain ⟨h₁, h₂, h₃, h₄, h₅, h₆⟩ := hm
      constructor <;> simp_all
  | streamsLoses hs => constructor <;> simp
  | transient hs => exact hm

/-- **The machine is resting between any two steps of a run.**
Source: `capture_state_machine.cpp` `CaptureStateMachine::step` -/
theorem CaptureRun.resting (h : CaptureRun rnd config now ls m) : Resting m :=
  h.invariant resting_new fun hm hl => hm.keeps hl.case

/-! ## Phases -/

/-- The phases of the machine between two steps.
Source: `capture_state_machine.hpp` members `state_`, `recovering_` -/
inductive Phase
  | absent
  | waiting
  | streaming
  | recovering
  deriving DecidableEq

/-- The phase of the machine, unless it is in a transient state.
Source: `capture_state_machine.hpp` members `state_`, `recovering_` -/
def CaptureStateMachine.phase (m : CaptureStateMachine) : Option Phase :=
  match m.state, m.recovering with
  | .deviceAbsent, false => some .absent
  | .awaitingProducer, false => some .waiting
  | .awaitingProducer, true => some .recovering
  | .streaming, false => some .streaming
  | _, _ => none

section phase

/-- Source: none: infrastructure -/
theorem phase_eq_absent : m.phase = some .absent ↔ m.state = .deviceAbsent ∧ m.recovering = false := by
  unfold CaptureStateMachine.phase
  cases m.state <;> cases m.recovering <;> simp

/-- Source: none: infrastructure -/
theorem phase_eq_waiting :
    m.phase = some .waiting ↔ m.state = .awaitingProducer ∧ m.recovering = false := by
  unfold CaptureStateMachine.phase
  cases m.state <;> cases m.recovering <;> simp

/-- Source: none: infrastructure -/
theorem phase_eq_recovering :
    m.phase = some .recovering ↔ m.state = .awaitingProducer ∧ m.recovering = true := by
  unfold CaptureStateMachine.phase
  cases m.state <;> cases m.recovering <;> simp

/-- Source: none: infrastructure -/
theorem phase_eq_streaming :
    m.phase = some .streaming ↔ m.state = .streaming ∧ m.recovering = false := by
  unfold CaptureStateMachine.phase
  cases m.state <;> cases m.recovering <;> simp

/-- A resting machine that is not waiting for a producer is not recovering.
Source: none: infrastructure -/
theorem Resting.not_recovering (hm : Resting m) (hs : m.state ≠ .awaitingProducer) :
    m.recovering = false := by
  by_contra hr
  exact hs (hm.recovers (by simpa using hr))

/-- A resting machine has a phase. Source: none: infrastructure -/
theorem Resting.phase (hm : Resting m) : ∃ p, m.phase = some p := by
  rcases hm.state with hs | hs | hs
  · exact ⟨_, phase_eq_absent.mpr ⟨hs, hm.not_recovering (by simp [hs])⟩⟩
  · cases hr : m.recovering with
    | false => exact ⟨_, phase_eq_waiting.mpr ⟨hs, hr⟩⟩
    | true => exact ⟨_, phase_eq_recovering.mpr ⟨hs, hr⟩⟩
  · exact ⟨_, phase_eq_streaming.mpr ⟨hs, hm.not_recovering (by simp [hs])⟩⟩

end phase

/-! ## A cold start -/

/-- One step more. Source: none: infrastructure -/
theorem CaptureRun.snoc {t : Millis} {tr : List Observation} {out : StepOutcome}
    (h : CaptureRun rnd config now ls m) (hc : StepCase rnd t m tr out m') :
    CaptureRun rnd config now (ls ++ [⟨m, t, tr, out, m'⟩]) m' :=
  Run.snoc h (Turn.of_case hc)

section coldStart

variable (rnd : ℚ → ℚ) (config : DaemonConfig) (now : TimePoint) (f : StreamFormat)

/-- The machine after its first `open`. Source: none: infrastructure -/
def coldOpened : CaptureStateMachine :=
  (CaptureStateMachine.new rnd config now).resetBackoffs.withState .awaitingProducer

/-- The machine at the beginning of its first stream. Source: none: infrastructure -/
def coldStarted : CaptureStateMachine :=
  (((coldOpened rnd config now).withFormat f).sessionStarted now).withStreamed

/-- The turns of a cold start: `open` succeeds, `query_format` answers `f`, the stream starts, and
the clock stands still.
Source: none: infrastructure -/
def coldStart : List Turn :=
  [⟨.new rnd config now, 200, [.steady now, .opened .opened, .emitted { type := .deviceOpened },
      .emitted { type := .awaitingProducer }], {}, coldOpened rnd config now⟩,
    ⟨coldOpened rnd config now, 200,
      [.steady now, .queried .known f, .started config.bufferCount .started, .steady now,
        .emitted { type := .streamingStarted, format := f }], {}, coldStarted rnd config now f⟩]

/-- A cold start is a run. Source: none: infrastructure -/
theorem coldStart_run :
    CaptureRun rnd config now (coldStart rnd config now f) (coldStarted rnd config now f) := by
  have hopen : CaptureRun rnd config now _ (coldOpened rnd config now) :=
    CaptureRun.snoc (t := 200) .nil (.absentOpens rfl (Int.le_refl now))
  exact hopen.snoc (t := 200) (.waitingStarts rfl rfl (Int.le_refl now) rfl)

end coldStart

end Hamstercam
