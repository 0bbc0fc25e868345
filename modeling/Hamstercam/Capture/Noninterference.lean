import Mathlib.Data.List.Forall2
import Hamstercam.Capture.Runs

/-!
# What does not influence the machine

* `Observation.low` — what of an answer may influence the machine: of a wall-clock reading nothing, and
  of a frame of a compressed format everything but its payload size.
* `CaptureStateMachine.low` — the machine without the two values that are made of the rest.
* `StepCase.low` — a step of the machine is, for the low views, a step of the low machine.
* `noninterference` — two runs with answers of the same low view go through the same states, make the same
  calls, emit the same events, return the same waits and end with the same low view.
-/

namespace Hamstercam

open Interaction CaptureStateMachine

/-! ## Low views -/

/-- What of an observation may influence the machine while the current format is `compressed`.
Source: `capture_state_machine.cpp` `step_streaming` (the comment on sizeimage), `handle_frame` -/
def Observation.low (compressed : Bool) : Observation → Observation
  | .wall _ => .wall 0
  | .dequeued t .frame f =>
      .dequeued t .frame (if compressed then { f with bytesUsed := 0 } else f)
  | o => o

/-- The statistics without what is made of wall-clock readings and payload sizes.
Source: `stats.hpp` `CaptureStats` -/
def CaptureStats.low (s : CaptureStats) : CaptureStats :=
  { s with bytesReceived := 0, lastFrameUnixtime := 0 }

/-- The machine without what is made of wall-clock readings and payload sizes.
Source: `capture_state_machine.hpp` `CaptureStateMachine` -/
def CaptureStateMachine.low (m : CaptureStateMachine) : CaptureStateMachine :=
  { m with stats := m.stats.low }

section low

variable {rnd : ℚ → ℚ} {config : DaemonConfig} {now : TimePoint} {ls ks : List Turn}
  {m m' n n' : CaptureStateMachine} {t : Millis} {tr : List Observation} {out : StepOutcome}

/-- Source: none: infrastructure -/
@[simp] theorem low_low (m : CaptureStateMachine) : m.low.low = m.low := rfl

/-- What two machines of one low view share. Source: none: infrastructure -/
theorem eq_of_low_eq (h : m.low = n.low) :
    m.state = n.state ∧ m.currentFormat = n.currentFormat ∧ m.stats.low = n.stats.low := by
  have hstate : m.low.state = n.low.state := by rw [h]
  have hformat : m.low.currentFormat = n.low.currentFormat := by rw [h]
  have hstats : m.low.stats = n.low.stats := by rw [h]
  exact ⟨hstate, hformat, hstats⟩

/-- No update of the machine but that of a frame looks at what is hidden.
Source: `capture_state_machine.cpp` -/
@[simp] theorem low_updates (m : CaptureStateMachine) :
    (∀ s, (m.withState s).low = m.low.withState s) ∧
      (∀ r, (m.withError r).low = m.low.withError r) ∧
      (∀ f, (m.withFormat f).low = m.low.withFormat f) ∧
      (∀ b, (m.withRecovering b).low = m.low.withRecovering b) ∧
      (∀ now, (m.withSession now).low = m.low.withSession now) ∧
      (∀ now, (m.withDeadline now).low = m.low.withDeadline now) ∧
      (∀ now, (m.delayDeviceAbsent now).low = m.low.delayDeviceAbsent now) ∧
      (∀ now, (m.delayAwaitingProducer now).low = m.low.delayAwaitingProducer now) ∧
      m.resetBackoffs.low = m.low.resetBackoffs ∧
      m.resetAwaitingProducer.low = m.low.resetAwaitingProducer ∧
      m.withStall.low = m.low.withStall ∧ m.withReconnect.low = m.low.withReconnect ∧
      m.withStreamed.low = m.low.withStreamed :=
  ⟨fun _ => rfl, fun _ => rfl, fun _ => rfl, fun _ => rfl, fun _ => rfl, fun _ => rfl, fun _ => rfl,
    fun _ => rfl, rfl, rfl, rfl, rfl, rfl⟩

/-- The rate check does not look at what is hidden.
Source: `capture_state_machine.cpp` `CaptureStateMachine::check_arrival_rate` -/
theorem low_checkArrivalRate (m : CaptureStateMachine) (now : TimePoint) :
    (m.low.checkArrivalRate rnd now).low = (m.checkArrivalRate rnd now).low := by
  simp only [checkArrivalRate, apply_ite CaptureStateMachine.low,
    apply_ite fun k : CaptureStateMachine => k.withWindow now]
  rfl

/-- Nor does the rest of what is done with a frame.
Source: `capture_state_machine.cpp` `handle_frame`, `check_arrival_rate` -/
theorem low_frameTaken (m : CaptureStateMachine) (f f' : FrameDescriptor) (w : Int)
    (hf : f'.capturedAt = f.capturedAt) :
    (m.low.frameTaken rnd f' 0).low = (m.frameTaken rnd f w).low := by
  have hframe : (m.low.withFrame rnd f' 0).low = (m.withFrame rnd f w).low := by
    simp only [withFrame, frameInterval, hf]
    rfl
  rw [frameTaken, frameTaken, ← low_checkArrivalRate, hframe, low_checkArrivalRate, hf]

/-- **A step, seen from below.** The low machine makes the same step with the low answers.
Source: `capture_state_machine.cpp` `CaptureStateMachine::step` and the functions it calls -/
theorem CaptureStateMachine.StepCase.low (h : StepCase rnd t m tr out m') :
    ∃ k, StepCase rnd t m.low (tr.map (Observation.low m.currentFormat.compressed)) out k ∧
      k.low = m'.low := by
  cases h with
  | absentWaits hs hw => exact ⟨_, .absentWaits hs hw, by simp⟩
  | absentOpens hs hw => exact ⟨_, .absentOpens hs hw, by simp⟩
  | absentFails hs hw => exact ⟨_, .absentFails hs hw, by simp⟩
  | waitingWaits hs hr hw => exact ⟨_, .waitingWaits hs hr hw, by simp⟩
  | waitingNoProducer hs hr hw => exact ⟨_, .waitingNoProducer hs hr hw, by simp⟩
  | waitingQueryFails hs hr hw => exact ⟨_, .waitingQueryFails hs hr hw, by simp⟩
  | waitingStartFails hs hr hw => exact ⟨_, .waitingStartFails hs hr hw, by simp⟩
  | waitingStarts hs hr hw hb => exact ⟨_, .waitingStarts hs hr hw hb, by simp⟩
  | waitingReconnects hs hr hw hb => exact ⟨_, .waitingReconnects hs hr hw hb, by simp⟩
  | recoveringWaits hs hr hw => exact ⟨_, .recoveringWaits hs hr hw, by simp⟩
  | recoveringLoses hs hr hw => exact ⟨_, .recoveringLoses hs hr hw, by simp⟩
  | recoveringNoProducer hs hr hw => exact ⟨_, .recoveringNoProducer hs hr hw, by simp⟩
  | recoveringQueryFails hs hr hw => exact ⟨_, .recoveringQueryFails hs hr hw, by simp⟩
  | recoveringStartFails hs hr hw => exact ⟨_, .recoveringStartFails hs hr hw, by simp⟩
  | recoveringStarts hs hr hw =>
      rw [List.map_append, List.map_map]
      exact ⟨_, .recoveringStarts hs hr hw, by simp⟩
  | @streamsFrame w f hs hp =>
      cases hc : m.currentFormat.compressed with
      | true =>
          refine ⟨m.low.frameTaken rnd { f with bytesUsed := 0 } 0, ?_, low_frameTaken m _ _ _ rfl⟩
          exact .streamsFrame hs (.inl hc)
      | false =>
          refine ⟨m.low.frameTaken rnd f 0, ?_, low_frameTaken m _ _ _ rfl⟩
          exact .streamsFrame hs hp
  | @streamsMismatch w f now hs hc hp =>
      rw [hc]
      refine ⟨(m.low.frameTaken rnd f 0).released .geometry now, .streamsMismatch hs hc hp, ?_⟩
      simp [low_frameTaken m f f w rfl]
  | streamsTimeout hs hq => exact ⟨_, .streamsTimeout hs hq, by simp⟩
  | streamsStall hs hq => exact ⟨_, .streamsStall hs hq, by simp⟩
  | streamsError hs => exact ⟨_, .streamsError hs, by simp⟩
  | streamsLoses hs => exact ⟨_, .streamsLoses hs, by simp⟩
  | transient hs => exact ⟨_, .transient hs, by simp⟩

/-! ## Two runs -/

/-- Two turns with the same poll timeout and, of the same low view, the same answers.
Source: `capture_state_machine.hpp` `CaptureStateMachine::step` -/
structure Turn.Alike (l k : Turn) : Prop where
  timeout : l.pollTimeout = k.pollTimeout
  answers : SameAnswers (l.trace.map (Observation.low l.pre.currentFormat.compressed))
    (k.trace.map (Observation.low l.pre.currentFormat.compressed))

/-- Two turns that cannot be told apart: they lead to the same state by the same calls, emit the same
events, return the same wait and leave the same statistics, except for what is hidden.
Source: `capture_state_machine.hpp` `CaptureStateMachine::step` -/
structure Turn.Same (l k : Turn) : Prop where
  state : l.post.state = k.post.state
  calls : l.trace.map Sigma.fst = k.trace.map Sigma.fst
  events : l.events = k.events
  wait : l.outcome = k.outcome
  stats : l.post.stats.low = k.post.stats.low

/-- The low view of an observation is of the same call. Source: none: infrastructure -/
theorem fst_low (c : Bool) (o : Observation) : (o.low c).1 = o.1 := by
  unfold Observation.low
  split <;> rfl

/-- Nothing of an event is hidden. Source: none: infrastructure -/
theorem event_low (c : Bool) (o : Observation) :
    Observation.event (o.low c) = Observation.event o := by
  unfold Observation.low
  split <;> rfl

/-- **Two alike turns from machines of one low view** cannot be told apart, and lead to machines of one
low view.
Source: `capture_state_machine.cpp` `CaptureStateMachine::step` -/
theorem Turn.Of.same {l k : Turn} (hl : Turn.Of rnd m l m') (hk : Turn.Of rnd n k n')
    (hlow : m.low = n.low) (halike : Turn.Alike l k) : Turn.Same l k ∧ m'.low = n'.low := by
  obtain ⟨m₁, hm₁, hm'⟩ := hl.case.low
  obtain ⟨n₁, hn₁, hn'⟩ := hk.case.low
  have hformat := (eq_of_low_eq hlow).2.1
  have hanswers := halike.answers
  rw [hl.pre] at hanswers
  rw [← hlow, ← halike.timeout, ← hformat] at hn₁
  obtain ⟨htrace, hwait, hpost⟩ :=
    (does_of_stepCase hm₁).deterministic (does_of_stepCase hn₁) hanswers
  have hfinal : m'.low = n'.low := by rw [← hm', ← hn', hpost]
  obtain ⟨hstate, -, hstats⟩ := eq_of_low_eq hfinal
  refine ⟨⟨?_, ?_, ?_, hwait, ?_⟩, hfinal⟩
  · rw [hl.post, hk.post]
    exact hstate
  · have hcalls := congrArg (List.map Sigma.fst) htrace
    simpa only [List.map_map, Function.comp_def, fst_low] using hcalls
  · have hevents := congrArg (List.filterMap Observation.event) htrace
    simp only [List.filterMap_map, Function.comp_def, event_low] at hevents
    exact hevents
  · rw [hl.post, hk.post]
    exact hstats

/-- Alike turns lead from machines of one low view to machines of one low view.
Source: `capture_state_machine.cpp` `CaptureStateMachine::step` -/
theorem same_of_alike (hlow : m.low = n.low) (halike : List.Forall₂ Turn.Alike ls ks)
    (hls : Run (Turn.Of rnd) m ls m') (hks : Run (Turn.Of rnd) n ks n') :
    List.Forall₂ Turn.Same ls ks ∧ m'.low = n'.low := by
  induction halike generalizing m n with
  | nil =>
      obtain rfl := run_nil.mp hls
      obtain rfl := run_nil.mp hks
      exact ⟨.nil, hlow⟩
  | cons hturn _ ih =>
      obtain ⟨m₁, hl, hls⟩ := run_cons.mp hls
      obtain ⟨n₁, hk, hks⟩ := run_cons.mp hks
      obtain ⟨hsame, hlow₁⟩ := hl.same hk hlow hturn
      obtain ⟨hrest, hfinal⟩ := ih hlow₁ hls hks
      exact ⟨.cons hsame hrest, hfinal⟩

/-- **Noninterference.** Two runs with the same configuration, steady clock readings and answers, except
for the wall-clock readings and the payload sizes of frames of a compressed format, cannot be told
apart.
Source: `capture_state_machine.cpp` `CaptureStateMachine::step` and the functions it calls -/
theorem noninterference (hls : CaptureRun rnd config now ls m) (hks : CaptureRun rnd config now ks n)
    (halike : List.Forall₂ Turn.Alike ls ks) :
    List.Forall₂ Turn.Same ls ks ∧ m.state = n.state ∧ m.stats.low = n.stats.low := by
  obtain ⟨hsame, hfinal⟩ := same_of_alike rfl halike hls hks
  obtain ⟨hstate, -, hstats⟩ := eq_of_low_eq hfinal
  exact ⟨hsame, hstate, hstats⟩

end low

/-! ## One frame, twice -/

section oneFrame

/-- The first frame after a cold start, of `bytes` bytes and at wall-clock reading `w`.
Source: none: infrastructure -/
def firstFrame (bytes : UInt64) (w : Int) : Turn :=
  ⟨coldStarted id {} 0 {}, 200,
    [.dequeued 200 .frame { bytesUsed := bytes }, .requeued 0, .wall w], {},
    (coldStarted id {} 0 {}).frameTaken id { bytesUsed := bytes } w⟩

/-- A cold start and a frame are a run. Source: none: infrastructure -/
theorem firstFrame_run (bytes : UInt64) (w : Int) :
    CaptureRun id {} 0 (coldStart id {} 0 {} ++ [firstFrame bytes w]) (firstFrame bytes w).post :=
  (coldStart_run id {} 0 {}).snoc (t := 200) (.streamsFrame rfl (.inl rfl))

/-- Frames of different sizes, at different wall-clock readings, are one to the machine.
Source: `capture_state_machine_test.cpp` -/
theorem noninterference_firstFrame :
    List.Forall₂ Turn.Same (coldStart id {} 0 {} ++ [firstFrame 1000 0])
        (coldStart id {} 0 {} ++ [firstFrame 5000 (-3600)]) ∧
      (firstFrame 1000 0).post.state = (firstFrame 5000 (-3600)).post.state ∧
      (firstFrame 1000 0).post.stats.low = (firstFrame 5000 (-3600)).post.stats.low := by
  have hsame : ∀ l : Turn, Turn.Alike l l := fun l => ⟨rfl, sameAnswers_refl _⟩
  have hframe : Turn.Alike (firstFrame 1000 0) (firstFrame 5000 (-3600)) := by
    refine ⟨rfl, ?_⟩
    exact sameAnswers_refl ((firstFrame 1000 0).trace.map (Observation.low true))
  exact noninterference (firstFrame_run 1000 0) (firstFrame_run 5000 (-3600))
    (.cons (hsame _) (.cons (hsame _) (.cons hframe .nil)))

end oneFrame

end Hamstercam
