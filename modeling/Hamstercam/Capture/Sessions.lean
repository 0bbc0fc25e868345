import Hamstercam.Capture.Runs

/-!
# Streaming sessions, and silence in them

* `Session` — when a stream was entered and when its frames were captured; `sessions ls` reads the
  sessions of a run off its exchange with the device and the clock, newest first.
* `CaptureRun.session` — a streaming machine is in the newest session, and `last_frame_at_` is the
  capture time of its newest frame, `have_last_frame_` whether it has one.
* `silence_noticed` — in a session that has delivered a frame, a timeout that comes a stall threshold
  after the session was entered and after its last frame ends the session; an error never does.
-/

namespace Hamstercam

open Interaction CaptureStateMachine

/-! ## Sessions -/

/-- A stretch of streaming: from a successful start to the release or loss of the device.
Source: `capture_state_machine.cpp` `enter_configuring`, `handle_frame` -/
structure Session where
  /-- The clock reading when the stream had started. -/
  entered : TimePoint
  /-- `captured_at` of the frames dequeued since, newest first. -/
  frames : List TimePoint
  deriving DecidableEq

/-- One more frame for the newest session. Source: none: infrastructure -/
def addFrame (capturedAt : TimePoint) : List Session → List Session
  | s :: ss => { s with frames := capturedAt :: s.frames } :: ss
  | [] => []

/-- The sessions after an exchange, newest first: a successful `start_streaming` and the clock reading
that follows it begin one, a dequeued frame belongs to the newest.
Source: `capture_state_machine.cpp` `enter_configuring`, `step_streaming` -/
def sessionsAfter (ss : List Session) : List Observation → List Session
  | .started _ .started :: .steady now :: tr => sessionsAfter (⟨now, []⟩ :: ss) tr
  | .dequeued _ .frame f :: tr => sessionsAfter (addFrame f.capturedAt ss) tr
  | _ :: tr => sessionsAfter ss tr
  | [] => ss

/-- The sessions of a list of turns, newest first. Source: none: infrastructure -/
def sessions (ls : List Turn) : List Session :=
  ls.foldl (fun ss l => sessionsAfter ss l.trace) []

/-- Source: none: infrastructure -/
theorem sessions_snoc (ls : List Turn) (l : Turn) :
    sessions (ls ++ [l]) = sessionsAfter (sessions ls) l.trace := by
  simp [sessions]

/-- Events are not part of a session. Source: none: infrastructure -/
theorem sessionsAfter_emitted (ss : List Session) (es : List Event) :
    sessionsAfter ss (es.map .emitted) = ss := by
  induction es with
  | nil => rfl
  | cons e es ih => exact ih

/-- A recovery that ends in a stream begins one session.
Source: `capture_state_machine.cpp` `CaptureStateMachine::step_recovering` -/
theorem sessionsAfter_recovered (ss : List Session) (now now' : TimePoint) (n : UInt32)
    (f : StreamFormat) (es : List Event) :
    sessionsAfter ss ([.steady now, .opened .opened, .queried .known f, .started n .started,
      .steady now'] ++ es.map .emitted) = ⟨now', []⟩ :: ss :=
  sessionsAfter_emitted (⟨now', []⟩ :: ss) es

section sessions

variable {rnd : ℚ → ℚ} {config : DaemonConfig} {now : TimePoint} {ls : List Turn} {l : Turn}
  {m m' : CaptureStateMachine} {t : Millis} {tr : List Observation} {out : StepOutcome}
  {ss : List Session}

/-- What the machine remembers of a session: `last_frame_at_`, if `have_last_frame_`.
Source: `capture_state_machine.hpp` members `last_frame_at_`, `have_last_frame_` -/
def CaptureStateMachine.lastFrame (m : CaptureStateMachine) : Option TimePoint :=
  if m.haveLastFrame then some m.lastFrameAt else none

/-- While the machine streams, the newest session is the one it remembers.
Source: `capture_state_machine.hpp` members `last_frame_at_`, `have_last_frame_` -/
def InSession (m : CaptureStateMachine) (ss : List Session) : Prop :=
  m.state = .streaming → ∃ s, ss.head? = some s ∧ s.frames.head? = m.lastFrame

/-- **Every step keeps track of the session.**
Source: `capture_state_machine.cpp` `CaptureStateMachine::step` -/
theorem CaptureStateMachine.StepCase.inSession (hss : InSession m ss)
    (h : StepCase rnd t m tr out m') : InSession m' (sessionsAfter ss tr) := by
  intro hs'
  cases h with
  | @waitingStarts _ now' => exact ⟨⟨now', []⟩, rfl, rfl⟩
  | @waitingReconnects _ now' => exact ⟨⟨now', []⟩, rfl, rfl⟩
  | @recoveringStarts _ now' f =>
      rw [sessionsAfter_recovered]
      exact ⟨⟨now', []⟩, rfl, rfl⟩
  | @streamsFrame w f hs hp =>
      obtain ⟨s, hs₁, hs₂⟩ := hss hs
      obtain ⟨ss, rfl⟩ := List.head?_eq_some_iff.mp hs₁
      exact ⟨{ s with frames := f.capturedAt :: s.frames }, rfl,
        by simp [CaptureStateMachine.lastFrame]⟩
  | streamsTimeout hs hq => exact hss hs
  | streamsError hs => exact hss hs
  | transient hs => simp_all
  | _ => simp_all

/-- **In a run, a streaming machine is in the newest session**, and remembers its newest frame.
Source: `capture_state_machine.cpp` `CaptureStateMachine::step` -/
theorem CaptureRun.inSession (h : CaptureRun rnd config now ls m) : InSession m (sessions ls) := by
  refine Run.history_invariant (fun ls m => InSession m (sessions ls)) ?_ ?_ h
  · intro hs
    cases hs
  · intro ls m l m' hrun ih hl
    rw [sessions_snoc]
    exact hl.case.inSession ih

/-! ## Silence -/

/-- A timeout at clock reading `reading` in a session with a last frame releases the device exactly if
the reading is a stall threshold past that frame.
Source: `capture_state_machine.cpp` `CaptureStateMachine::step_streaming` -/
theorem CaptureStateMachine.StepCase.of_timeout {f : FrameDescriptor} {reading : TimePoint}
    {rest : List Observation} (hs : m.state = .streaming)
    (h : StepCase rnd t m (.dequeued t .timeout f :: .steady reading :: rest) out m') :
    (m' = m ∧ ¬ (m.haveLastFrame = true ∧ m.stallThreshold.toNanos ≤ reading - m.lastFrameAt)) ∨
      (m.haveLastFrame = true ∧ m.stallThreshold.toNanos ≤ reading - m.lastFrameAt ∧
        ∃ now, m' = m.released .timeout now ∧
          rest = [.emitted { type := .stallDetected }, .stopped, .closed, .steady now]) := by
  generalize htr : (Observation.dequeued t .timeout f :: .steady reading :: rest) = tr at h
  cases h with
  | streamsTimeout _ hq =>
      simp only [List.cons.injEq] at htr
      obtain ⟨-, hr, -⟩ := htr
      cases hr
      exact .inl ⟨rfl, hq⟩
  | @streamsStall _ now' _ _ hq =>
      simp only [List.cons.injEq] at htr
      obtain ⟨-, hr, rfl⟩ := htr
      cases hr
      exact .inr ⟨hq.1, hq.2, now', rfl, rfl⟩
  | _ => simp_all

/-- An error of the device is counted, and nothing else happens.
Source: `capture_state_machine.cpp` `CaptureStateMachine::step_streaming` -/
theorem CaptureStateMachine.StepCase.of_error {f : FrameDescriptor} {rest : List Observation}
    (hs : m.state = .streaming) (h : StepCase rnd t m (.dequeued t .error f :: rest) out m') :
    m' = m.withError .dequeue := by
  generalize htr : (Observation.dequeued t .error f :: rest) = tr at h
  cases h with
  | streamsError _ => rfl
  | _ => simp_all

/-- **Silence is noticed.** In a session that has delivered a frame, a step whose dequeue times out and
whose clock reading is a stall threshold past the entry of the session and past its last frame releases
the device and counts a stall; a step whose dequeue fails counts the error and goes on streaming.
Source: `capture_state_machine.cpp` `CaptureStateMachine::step_streaming` -/
theorem silence_noticed (h : CaptureRun rnd config now ls m) (hs : m.state = .streaming) {s : Session}
    (hsession : (sessions ls).head? = some s) {last : TimePoint}
    (hlast : s.frames.head? = some last) (hl : Turn.Of rnd m l m') :
    (∀ f reading rest, l.trace = .dequeued l.pollTimeout .timeout f :: .steady reading :: rest →
      max s.entered last + m.stallThreshold.toNanos ≤ reading →
      m'.phase = some .recovering ∧ m'.stats.stalls = m.stats.stalls + 1 ∧
        Observation.stopped ∈ l.trace ∧ Observation.closed ∈ l.trace) ∧
    (∀ f rest, l.trace = .dequeued l.pollTimeout .error f :: rest →
      m'.state = .streaming ∧
        m'.stats.errors .dequeue = m.stats.errors .dequeue + 1) := by
  have hcase := hl.case
  constructor
  · intro f reading rest htrace hreading
    rw [htrace] at hcase ⊢
    obtain ⟨s', hs', hframe⟩ := CaptureRun.inSession h hs
    have hss : s' = s := by
      rw [hsession] at hs'
      exact (Option.some.inj hs').symm
    rw [hss, hlast, lastFrame] at hframe
    have hhave : m.haveLastFrame = true := by
      by_contra hno
      rw [if_neg hno] at hframe
      cases hframe
    have hat : last = m.lastFrameAt := by
      rw [if_pos hhave] at hframe
      exact Option.some.inj hframe
    have hdue : m.stallThreshold.toNanos ≤ reading - m.lastFrameAt := by
      have hmax : last ≤ max s.entered last := Int.le_max_right _ _
      have hsum := Int.le_trans (Int.add_le_add_right hmax m.stallThreshold.toNanos) hreading
      rw [hat] at hsum
      omega
    rcases hcase.of_timeout hs with ⟨-, hnot⟩ | ⟨-, -, now, rfl, rfl⟩
    · exact absurd ⟨hhave, hdue⟩ hnot
    · refine ⟨phase_eq_recovering.mpr (by simp), by simp, ?_, ?_⟩ <;> simp
  · intro f rest htrace
    rw [htrace] at hcase
    rw [hcase.of_error hs]
    exact ⟨hs, by simp⟩

end sessions

/-! ## A session with one frame, and one with none -/

section silence

/-- The machine after the first frame of a cold start. Source: none: infrastructure -/
def coldFrame : CaptureStateMachine := (coldStarted id {} 0 {}).frameTaken id {} 0

/-- A cold start and one frame. Source: none: infrastructure -/
def coldFrameTurns : List Turn :=
  coldStart id {} 0 {} ++
    [⟨coldStarted id {} 0 {}, 200, [.dequeued 200 .frame {}, .requeued 0, .wall 0], {}, coldFrame⟩]

/-- A cold start and one frame are a run. Source: none: infrastructure -/
theorem coldFrame_run : CaptureRun id {} 0 coldFrameTurns coldFrame :=
  (coldStart_run id {} 0 {}).snoc (t := 200) (.streamsFrame rfl (.inl rfl))

/-- A second after its only frame, the session is over.
Source: none: infrastructure -/
theorem silence_noticed_coldFrame :
    (coldFrame.released .timeout 1000000000).phase = some .recovering ∧
      (coldFrame.released .timeout 1000000000).stats.stalls = coldFrame.stats.stalls + 1 ∧
      Observation.stopped ∈ [Observation.dequeued 200 .timeout {}, .steady 1000000000,
        .emitted { type := .stallDetected }, .stopped, .closed, .steady 1000000000] ∧
      Observation.closed ∈ [Observation.dequeued 200 .timeout {}, .steady 1000000000,
        .emitted { type := .stallDetected }, .stopped, .closed, .steady 1000000000] := by
  have hdue : coldFrame.stallThreshold.toNanos ≤ 1000000000 - coldFrame.lastFrameAt := by
    decide +kernel
  have hsession : (sessions coldFrameTurns).head? = some ⟨0, [0]⟩ := rfl
  have hlast : Session.frames ⟨0, [0]⟩ = [0] := rfl
  exact (silence_noticed coldFrame_run rfl hsession (congrArg List.head? hlast)
    (Turn.of_case (.streamsStall (t := 200) rfl ⟨rfl, hdue⟩))).1 _ _ _ rfl (by decide +kernel)

/-- **A session without a first frame is never found silent**: however late the timeout comes, the
machine goes on streaming.
Source: `capture_state_machine.cpp` `CaptureStateMachine::step_streaming` -/
theorem silence_not_noticed :
    ¬ ∀ (rnd : ℚ → ℚ) (config : DaemonConfig) (now : TimePoint) (ls : List Turn) (l : Turn)
        (m m' : CaptureStateMachine) (s : Session) (f : FrameDescriptor) (reading : TimePoint)
        (rest : List Observation),
        CaptureRun rnd config now ls m → m.state = .streaming → (sessions ls).head? = some s →
        Turn.Of rnd m l m' →
        l.trace = .dequeued l.pollTimeout .timeout f :: .steady reading :: rest →
        max s.entered (s.frames.head?.getD s.entered) + m.stallThreshold.toNanos ≤ reading →
        m'.state ≠ .streaming := by
  intro hall
  have hturn : Turn.Of id (coldStarted id {} 0 {})
      ⟨coldStarted id {} 0 {}, 200, [.dequeued 200 .timeout {}, .steady 3600000000000], {},
        coldStarted id {} 0 {}⟩ (coldStarted id {} 0 {}) := by
    refine Turn.of_case (.streamsTimeout rfl ?_)
    rintro ⟨hhave, -⟩
    cases hhave
  exact hall id {} 0 (coldStart id {} 0 {}) _ _ _ ⟨0, []⟩ {} 3600000000000 []
    (coldStart_run id {} 0 {}) rfl rfl hturn rfl (by decide +kernel) rfl

end silence

end Hamstercam
