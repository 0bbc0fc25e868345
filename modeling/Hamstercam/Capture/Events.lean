import Mathlib.Data.List.Infix
import Hamstercam.Capture.Runs

/-!
# The event language

* `PhaseStep` — which phase changes there are, and which events each one emits.
* `StepCase.phaseStep` — every step is one of them, so a step that stays in its phase is silent.
* `EventLog streamed p es` — what the event types emitted so far say about the phase the machine is in;
  `PhaseStep.keeps` is its step lemma.
* `event_language` — the run theorem: the events of every turn, what answers a stall, and what a
  reconnection follows.
-/

namespace Hamstercam

open Interaction CaptureStateMachine

/-! ## Phase changes -/

/-- `PhaseStep streamed p q es`: the machine may go from phase `p` to phase `q` emitting exactly `es`.
`streamed` says whether a session has streamed before.
Source: `capture_state_machine.cpp` `CaptureStateMachine::step` and the functions it calls -/
inductive PhaseStep (streamed : Prop) : Phase → Phase → List Event → Prop
  | stays (p : Phase) : PhaseStep streamed p p []
  | opens :
      PhaseStep streamed .absent .waiting [{ type := .deviceOpened }, { type := .awaitingProducer }]
  | starts (f : StreamFormat) (first : ¬ streamed) :
      PhaseStep streamed .waiting .streaming [{ type := .streamingStarted, format := f }]
  | reconnects (again : streamed) :
      PhaseStep streamed .waiting .streaming [{ type := .reconnecting }]
  | releases : PhaseStep streamed .streaming .recovering [{ type := .stallDetected }]
  | restarts (f : StreamFormat) (change : Option Event)
      (changed : ∀ e, change = some e → e.type = .formatChanged) :
      PhaseStep streamed .recovering .streaming
        ({ type := .stallCleared } :: (change.toList ++ [{ type := .streamingStarted, format := f }]))
  | loses {p : Phase} (was : p = .streaming ∨ p = .recovering) :
      PhaseStep streamed p .absent [{ type := .deviceLost }]

section steps

variable {rnd : ℚ → ℚ} {config : DaemonConfig} {now : TimePoint} {ls : List Turn}
  {m m' : CaptureStateMachine} {t : Millis} {tr : List Observation} {out : StepOutcome}

/-- The events of a recovery that ends in a stream are a `PhaseStep`.
Source: `capture_state_machine.cpp` `CaptureStateMachine::step_recovering` -/
theorem phaseStep_recoveryEvents {streamed : Prop} (previous f : StreamFormat) :
    PhaseStep streamed .recovering .streaming (recoveryEvents previous f) := by
  unfold recoveryEvents
  by_cases hf : f = previous
  · rw [if_pos hf]
    exact .restarts f none (by simp)
  · rw [if_neg hf]
    refine .restarts f (some _) ?_
    intro e he
    cases he
    rfl

/-- **Every step is a phase step.**
Source: `capture_state_machine.cpp` `CaptureStateMachine::step` -/
theorem CaptureStateMachine.StepCase.phaseStep (hm : Resting m) (h : StepCase rnd t m tr out m') :
    ∃ p q, m.phase = some p ∧ m'.phase = some q ∧
      PhaseStep (m.hasStreamedBefore = true) p q (tr.filterMap Observation.event) := by
  have hnot := hm.not_recovering
  cases h with
  | absentWaits hs hw =>
      have hp := phase_eq_absent.mpr ⟨hs, hnot (by simp [hs])⟩
      exact ⟨_, _, hp, hp, .stays _⟩
  | absentOpens hs hw =>
      have hr := hnot (by simp [hs])
      exact ⟨.absent, .waiting, phase_eq_absent.mpr ⟨hs, hr⟩, phase_eq_waiting.mpr (by simp [hr]),
        .opens⟩
  | absentFails hs hw =>
      have hr := hnot (by simp [hs])
      exact ⟨.absent, .absent, phase_eq_absent.mpr ⟨hs, hr⟩, phase_eq_absent.mpr (by simp [hs, hr]),
        .stays _⟩
  | waitingWaits hs hr hw =>
      have hp := phase_eq_waiting.mpr ⟨hs, hr⟩
      exact ⟨_, _, hp, hp, .stays _⟩
  | waitingNoProducer hs hr hw =>
      exact ⟨.waiting, .waiting, phase_eq_waiting.mpr ⟨hs, hr⟩, phase_eq_waiting.mpr (by simp [hs, hr]),
        .stays _⟩
  | waitingQueryFails hs hr hw =>
      exact ⟨.waiting, .waiting, phase_eq_waiting.mpr ⟨hs, hr⟩, phase_eq_waiting.mpr (by simp [hs, hr]),
        .stays _⟩
  | waitingStartFails hs hr hw =>
      exact ⟨.waiting, .waiting, phase_eq_waiting.mpr ⟨hs, hr⟩, phase_eq_waiting.mpr (by simp [hr]),
        .stays _⟩
  | @waitingStarts _ _ f hs hr hw hb =>
      exact ⟨.waiting, .streaming, phase_eq_waiting.mpr ⟨hs, hr⟩,
        phase_eq_streaming.mpr (by simp [hr]), .starts f (by simp [hb])⟩
  | waitingReconnects hs hr hw hb =>
      exact ⟨.waiting, .streaming, phase_eq_waiting.mpr ⟨hs, hr⟩,
        phase_eq_streaming.mpr (by simp [hr]), .reconnects hb⟩
  | recoveringWaits hs hr hw =>
      have hp := phase_eq_recovering.mpr ⟨hs, hr⟩
      exact ⟨_, _, hp, hp, .stays _⟩
  | recoveringLoses hs hr hw =>
      exact ⟨.recovering, .absent, phase_eq_recovering.mpr ⟨hs, hr⟩, phase_eq_absent.mpr (by simp),
        .loses (.inr rfl)⟩
  | recoveringNoProducer hs hr hw =>
      exact ⟨.recovering, .recovering, phase_eq_recovering.mpr ⟨hs, hr⟩,
        phase_eq_recovering.mpr (by simp [hs, hr]), .stays _⟩
  | recoveringQueryFails hs hr hw =>
      exact ⟨.recovering, .recovering, phase_eq_recovering.mpr ⟨hs, hr⟩,
        phase_eq_recovering.mpr (by simp [hs, hr]), .stays _⟩
  | recoveringStartFails hs hr hw =>
      exact ⟨.recovering, .recovering, phase_eq_recovering.mpr ⟨hs, hr⟩,
        phase_eq_recovering.mpr (by simp [hr]), .stays _⟩
  | @recoveringStarts _ _ f hs hr hw =>
      refine ⟨.recovering, .streaming, phase_eq_recovering.mpr ⟨hs, hr⟩,
        phase_eq_streaming.mpr (by simp), ?_⟩
      rw [List.filterMap_append, filterMap_event_emitted]
      exact phaseStep_recoveryEvents m.currentFormat f
  | streamsFrame hs hp =>
      have hr := hnot (by simp [hs])
      exact ⟨.streaming, .streaming, phase_eq_streaming.mpr ⟨hs, hr⟩,
        phase_eq_streaming.mpr (by simp [hs, hr]), .stays _⟩
  | streamsMismatch hs hc hp =>
      exact ⟨.streaming, .recovering, phase_eq_streaming.mpr ⟨hs, hnot (by simp [hs])⟩,
        phase_eq_recovering.mpr (by simp), .releases⟩
  | streamsTimeout hs hq =>
      have hp := phase_eq_streaming.mpr ⟨hs, hnot (by simp [hs])⟩
      exact ⟨_, _, hp, hp, .stays _⟩
  | streamsStall hs hq =>
      exact ⟨.streaming, .recovering, phase_eq_streaming.mpr ⟨hs, hnot (by simp [hs])⟩,
        phase_eq_recovering.mpr (by simp), .releases⟩
  | streamsError hs =>
      have hr := hnot (by simp [hs])
      exact ⟨.streaming, .streaming, phase_eq_streaming.mpr ⟨hs, hr⟩,
        phase_eq_streaming.mpr (by simp [hs, hr]), .stays _⟩
  | streamsLoses hs =>
      exact ⟨.streaming, .absent, phase_eq_streaming.mpr ⟨hs, hnot (by simp [hs])⟩,
        phase_eq_absent.mpr (by simp), .loses (.inl rfl)⟩
  | transient hs =>
      rcases hm.state with h | h | h <;> simp [h] at hs

/-! ## Having streamed before -/

/-- A step sets `has_streamed_before_` exactly when it leads to a stream.
Source: `capture_state_machine.cpp` `step_awaiting_producer`, `step_recovering` -/
theorem CaptureStateMachine.StepCase.hasStreamedBefore (hm : Resting m)
    (h : StepCase rnd t m tr out m') :
    m'.hasStreamedBefore = true ↔ m.hasStreamedBefore = true ∨ m'.state = .streaming := by
  have hst := hm.streamed
  cases h <;> simp_all

/-- `has_streamed_before_` says whether a session has streamed in the run.
Source: `capture_state_machine.hpp` member `has_streamed_before_` -/
theorem CaptureRun.hasStreamedBefore_iff (h : CaptureRun rnd config now ls m) :
    m.hasStreamedBefore = true ↔ ∃ l ∈ ls, l.post.state = .streaming := by
  refine Run.history_invariant (fun ls m =>
    m.hasStreamedBefore = true ↔ ∃ l ∈ ls, l.post.state = .streaming) (by simp) ?_ h
  intro ls m l m' hrun ih hl
  rw [hl.case.hasStreamedBefore (CaptureRun.resting hrun), ih, ← hl.post]
  simp only [List.mem_append, List.mem_singleton, or_and_right, exists_or, exists_eq_left]

end steps

/-! ## What the events say -/

/-- What the types of the events emitted so far say about the phase: how they end, how a stall is
answered, what a reconnection follows, and how many device losses are not yet made good.
Source: `capture_state_machine.cpp` `CaptureStateMachine::step` -/
structure EventLog (streamed : Bool) (p : Phase) (es : List EventType) : Prop where
  /-- A stream, and a recovery from one, come after a first stream. -/
  once : p = .streaming ∨ p = .recovering → streamed = true
  /-- A recovery begins with a stall, and says nothing until it is over. -/
  stalled : es.getLast? = some .stallDetected ↔ p = .recovering
  /-- After a first stream, the device is absent because it was lost. -/
  lost : p = .absent → streamed = true → [.deviceLost] <:+ es
  /-- After a first stream, a device that waits for a producer was lost and opened again. -/
  reopened : p = .waiting → streamed = true →
    [.deviceLost, .deviceOpened, .awaitingProducer] <:+ es
  /-- The answer to a stall. -/
  answered : AtEach (fun before e => before.getLast? = some .stallDetected →
    e = .stallCleared ∨ e = .deviceLost) es
  /-- What a reconnection follows. -/
  own : AtEach (fun before e => e = .reconnecting →
    [.deviceLost, .deviceOpened, .awaitingProducer] <:+ before) es
  /-- Every reconnection has made good one loss. -/
  losses : es.count .deviceLost =
    es.count .reconnecting + if streamed = true ∧ (p = .absent ∨ p = .waiting) then 1 else 0

/-- Nothing has been said at the start. Source: none: infrastructure -/
theorem eventLog_nil : EventLog false .absent [] where
  once := by simp
  stalled := by simp
  lost := by simp
  reopened := by simp
  answered := atEach_nil
  own := atEach_nil
  losses := by simp

/-- **Every phase step extends the log.** `streamed'` is `has_streamed_before_` after the step.
Source: `capture_state_machine.cpp` `CaptureStateMachine::step` -/
theorem PhaseStep.keeps {streamed streamed' : Bool} {p q : Phase} {es : List Event}
    {log : List EventType} (h : PhaseStep (streamed = true) p q es)
    (hb : streamed' = true ↔ streamed = true ∨ q = .streaming)
    (hlog : EventLog streamed p log) : EventLog streamed' q (log ++ es.map Event.type) := by
  obtain ⟨honce, hstall, hlost, hopen, hans, hown, hcount⟩ := hlog
  have hkeep : q ≠ .streaming → streamed' = streamed := by
    intro hq
    rw [Bool.eq_iff_iff, hb]
    exact or_iff_left hq
  have hstarts : q = .streaming → streamed' = true := fun hq => hb.mpr (.inr hq)
  cases h with
  | stays p =>
      rw [List.map_nil, List.append_nil]
      by_cases hp : p = .streaming
      · subst hp
        exact ⟨fun _ => hstarts rfl, hstall, by simp, by simp, hans, hown, by simpa using hcount⟩
      · rw [hkeep hp]
        exact ⟨honce, hstall, hlost, hopen, hans, hown, hcount⟩
  | opens =>
      have hs := hkeep (by simp)
      subst hs
      refine ⟨by simp, by simp, by simp, fun _ hs => ?_, ?_, ?_, ?_⟩
      · obtain ⟨pre, rfl⟩ := hlost rfl hs
        exact ⟨pre, by simp⟩
      · exact atEach_append.mpr ⟨hans, by simp [hstall]⟩
      · exact atEach_append.mpr ⟨hown, by simp⟩
      · simp [List.count_append, hcount]
  | starts f first =>
      refine ⟨fun _ => hstarts rfl, by simp, by simp, by simp, ?_, ?_, ?_⟩
      · exact atEach_append.mpr ⟨hans, by simp [hstall]⟩
      · exact atEach_append.mpr ⟨hown, by simp⟩
      · simp [List.count_append, hcount, first]
  | reconnects again =>
      refine ⟨fun _ => hstarts rfl, by simp, by simp, by simp, ?_, ?_, ?_⟩
      · exact atEach_append.mpr ⟨hans, by simp [hstall]⟩
      · exact atEach_append.mpr ⟨hown, by simpa using hopen rfl again⟩
      · simp [List.count_append, hcount, again]
  | releases =>
      have hs := hkeep (by simp)
      subst hs
      refine ⟨fun _ => honce (.inl rfl), by simp, by simp, by simp, ?_, ?_, ?_⟩
      · exact atEach_append.mpr ⟨hans, by simp [hstall]⟩
      · exact atEach_append.mpr ⟨hown, by simp⟩
      · simp [List.count_append, hcount]
  | restarts f change changed =>
      have hchange : change.toList.map Event.type = [] ∨
          change.toList.map Event.type = [.formatChanged] := by
        cases change with
        | none => exact .inl rfl
        | some e => exact .inr (by simp [changed e rfl])
      simp only [List.map_cons, List.map_append, List.map_nil]
      refine ⟨fun _ => hstarts rfl, ?_, by simp, by simp, ?_, ?_, ?_⟩
      · rcases hchange with hc | hc <;> simp [hc]
      · exact atEach_append.mpr ⟨hans, by rcases hchange with hc | hc <;> simp [hc]⟩
      · exact atEach_append.mpr ⟨hown, by rcases hchange with hc | hc <;> simp [hc]⟩
      · rcases hchange with hc | hc <;> simp [hc, List.count_append, hcount]
  | loses hp =>
      -- only a device that has streamed can be lost, so the loss is one to be made good
      have hs := hkeep (by simp)
      have hstreamed := honce hp
      subst hs
      refine ⟨by simp, by simp, fun _ _ => ⟨log, rfl⟩, by simp, ?_, ?_, ?_⟩
      · exact atEach_append.mpr ⟨hans, by simp⟩
      · exact atEach_append.mpr ⟨hown, by simp⟩
      · rcases hp with rfl | rfl <;> simp [List.count_append, hcount, hstreamed]

/-! ## The language of a run -/

section language

variable {rnd : ℚ → ℚ} {config : DaemonConfig} {now : TimePoint} {ls : List Turn}
  {m : CaptureStateMachine}

/-- The types of the events of a run, in order. Source: none: infrastructure -/
def eventTypes (ls : List Turn) : List EventType := (events ls).map Event.type

/-- The log of a run. Source: `capture_state_machine.cpp` `CaptureStateMachine::step` -/
theorem CaptureRun.eventLog (h : CaptureRun rnd config now ls m) :
    ∃ p, m.phase = some p ∧ EventLog m.hasStreamedBefore p (eventTypes ls) := by
  refine Run.history_invariant (fun ls m =>
    ∃ p, m.phase = some p ∧ EventLog m.hasStreamedBefore p (eventTypes ls)) ?_ ?_ h
  · exact ⟨.absent, rfl, eventLog_nil⟩
  · intro ls m l m' hrun ⟨p, hp, hlog⟩ hl
    have hm := CaptureRun.resting hrun
    obtain ⟨p', q, hp', hq, hstep⟩ := hl.case.phaseStep hm
    have hpp : p = p' := by
      rw [hp] at hp'
      exact Option.some.inj hp'
    subst hpp
    have hb : m'.hasStreamedBefore = true ↔ m.hasStreamedBefore = true ∨ q = .streaming := by
      rw [hl.case.hasStreamedBefore hm]
      refine or_congr_right ⟨fun hs => ?_, ?_⟩
      · have := phase_eq_streaming.mpr ⟨hs, (hm.keeps hl.case).not_recovering (by simp [hs])⟩
        rw [hq] at this
        exact Option.some.inj this
      · rintro rfl
        exact (phase_eq_streaming.mp hq).1
    refine ⟨q, hq, ?_⟩
    rw [eventTypes, events_snoc, List.map_append]
    exact hstep.keeps hb hlog

/-- **The event language.** Every turn of a run changes the phase and emits events as `PhaseStep` says,
where a session counts as an earlier one if an earlier turn of the run led to a stream. A stall is
followed by `stall_cleared` or `device_lost`; a reconnection comes right after its own loss, opening and
wait; so there are never more reconnections than losses.
Source: `capture_state_machine.cpp` `CaptureStateMachine::step` and the functions it calls -/
theorem event_language (h : CaptureRun rnd config now ls m) :
    AtEach (fun before l => ∃ p q, l.pre.phase = some p ∧ l.post.phase = some q ∧
      PhaseStep (∃ k ∈ before, k.post.state = .streaming) p q l.events) ls ∧
    AtEach (fun before e => before.getLast? = some .stallDetected →
      e = .stallCleared ∨ e = .deviceLost) (eventTypes ls) ∧
    AtEach (fun before e => e = .reconnecting →
      [.deviceLost, .deviceOpened, .awaitingProducer] <:+ before) (eventTypes ls) ∧
    (eventTypes ls).count .reconnecting ≤ (eventTypes ls).count .deviceLost := by
  obtain ⟨p, -, hlog⟩ := CaptureRun.eventLog h
  refine ⟨?_, hlog.answered, hlog.own, ?_⟩
  · refine Run.atEach ?_ h
    intro ls m l m' hrun hl
    obtain ⟨p, q, hp, hq, hstep⟩ := hl.case.phaseStep (CaptureRun.resting hrun)
    rw [CaptureRun.hasStreamedBefore_iff hrun] at hstep
    exact ⟨p, q, by rw [hl.pre]; exact hp, by rw [hl.post]; exact hq, hstep⟩
  · rw [hlog.losses]
    exact Nat.le_add_right _ _

/-- The event language of a cold start.
Source: none: infrastructure -/
theorem event_language_coldStart :
    AtEach (fun before l => ∃ p q, l.pre.phase = some p ∧ l.post.phase = some q ∧
      PhaseStep (∃ k ∈ before, k.post.state = .streaming) p q l.events) (coldStart id {} 0 {}) ∧
    AtEach (fun before e => before.getLast? = some .stallDetected →
      e = .stallCleared ∨ e = .deviceLost) (eventTypes (coldStart id {} 0 {})) ∧
    AtEach (fun before e => e = .reconnecting →
      [.deviceLost, .deviceOpened, .awaitingProducer] <:+ before)
      (eventTypes (coldStart id {} 0 {})) ∧
    (eventTypes (coldStart id {} 0 {})).count .reconnecting ≤
      (eventTypes (coldStart id {} 0 {})).count .deviceLost :=
  event_language (coldStart_run id {} 0 {})

end language

end Hamstercam
