import Mathlib.Data.Finset.Basic
import Mathlib.Data.UInt
import Hamstercam.Capture.Protocol

/-!
# The driver model, and whether a producer is reached

* `FakeCaptureDevice` — the driver model of the tests, translated from `fake_capture_device.hpp`: what
  `query_format` answers is sampled by `open` and frozen until the next `open`. `Control` is its control
  surface, which says what is true on the wire.
* `FakeStep` — one turn of the machine on that device, after any control actions.
* `GrantedStep f` — such a turn taken when it is due, while opens and starts succeed and a producer is
  writing the format `f`. `ReachedWithin f n s` — every `n` such turns from `s` visit a stream.
* `Stuck` — the machine holds a descriptor whose frozen answer is not a format. It stays so
  (`Stuck.keeps`), and from every other state two turns are enough: `producer_reached_iff`.
-/

namespace Hamstercam

open Interaction CaptureStateMachine

/-! ## The driver model -/

/-- Source: `fake_capture_device.hpp` `FakeCaptureDevice` -/
structure FakeCaptureDevice where
  /-- What `clock_` shows. -/
  clock : TimePoint := 0
  /-- `open_result_` -/
  openResult : OpenResult := .absent
  /-- `format_result_` -/
  formatResult : FormatResult := .noProducer
  /-- `format_` -/
  format : StreamFormat := {}
  /-- `observed_format_result_` -/
  observedFormatResult : FormatResult := .noProducer
  /-- `observed_format_` -/
  observedFormat : StreamFormat := {}
  /-- `start_result_` -/
  startResult : StreamStartResult := .started
  /-- `default_dequeue_result_` -/
  defaultDequeueResult : DequeueResult := .timeout
  /-- `dequeue_queue_` -/
  dequeueQueue : List (DequeueResult × FrameDescriptor) := []
  /-- `outstanding_` -/
  outstanding : Finset UInt32 := ∅
  /-- `is_open_` -/
  isOpen : Bool := false
  /-- `is_streaming_` -/
  isStreaming : Bool := false
  /-- `buffer_count_` -/
  bufferCount : UInt32 := 0

namespace FakeCaptureDevice

/-- Source: `fake_capture_device.hpp` `FakeCaptureDevice::open` -/
def openDevice (d : FakeCaptureDevice) : OpenResult × FakeCaptureDevice :=
  let d := { d with isOpen := decide (d.openResult = OpenResult.opened) }
  (d.openResult,
    if d.isOpen then { d with observedFormatResult := d.formatResult, observedFormat := d.format }
    else d)

/-- Source: `fake_capture_device.hpp` `FakeCaptureDevice::close` -/
def closeDevice (d : FakeCaptureDevice) : FakeCaptureDevice :=
  { d with isOpen := false, isStreaming := false }

/-- Source: `fake_capture_device.hpp` `FakeCaptureDevice::query_format` -/
def queryFormat (d : FakeCaptureDevice) : (FormatResult × StreamFormat) × FakeCaptureDevice :=
  ((d.observedFormatResult, if d.observedFormatResult = .known then d.observedFormat else {}), d)

/-- Source: `fake_capture_device.hpp` `FakeCaptureDevice::start_streaming` -/
def startStreaming (n : UInt32) (d : FakeCaptureDevice) : StreamStartResult × FakeCaptureDevice :=
  (d.startResult, { d with
    bufferCount := n
    isStreaming := decide (d.startResult = StreamStartResult.started) })

/-- Source: `fake_capture_device.hpp` `FakeCaptureDevice::stop_streaming` -/
def stopStreaming (d : FakeCaptureDevice) : FakeCaptureDevice := { d with isStreaming := false }

/-- Source: `fake_capture_device.hpp` `FakeCaptureDevice::dequeue_frame` -/
def dequeueFrame (_timeout : Millis) (d : FakeCaptureDevice) :
    (DequeueResult × FrameDescriptor) × FakeCaptureDevice :=
  match d.dequeueQueue with
  | [] => ((d.defaultDequeueResult, {}), d)
  | (.frame, frame) :: queue =>
      ((.frame, { frame with capturedAt := d.clock }),
        { d with dequeueQueue := queue, outstanding := insert frame.bufferIndex d.outstanding })
  | (result, _) :: queue => ((result, {}), { d with dequeueQueue := queue })

/-- Source: `fake_capture_device.hpp` `FakeCaptureDevice::requeue_frame` -/
def requeueFrame (i : UInt32) (d : FakeCaptureDevice) : FakeCaptureDevice :=
  { d with outstanding := d.outstanding.erase i }

end FakeCaptureDevice

/-- The driver model as an implementation of the interface.
Source: `fake_capture_device.hpp` `FakeCaptureDevice` -/
def fake : CaptureDevice FakeCaptureDevice where
  openDevice := FakeCaptureDevice.openDevice
  closeDevice := FakeCaptureDevice.closeDevice
  queryFormat := FakeCaptureDevice.queryFormat
  startStreaming := FakeCaptureDevice.startStreaming
  stopStreaming := FakeCaptureDevice.stopStreaming
  dequeueFrame := FakeCaptureDevice.dequeueFrame
  requeueFrame := FakeCaptureDevice.requeueFrame

/-- The control surface: what happens on the wire, at the device node and to the clock.
Source: `fake_capture_device.hpp` `FakeCaptureDevice` (test control surface), `clock.hpp` -/
inductive Control
  | setOpenResult (r : OpenResult)
  | setFormatResult (r : FormatResult)
  | setFormat (f : StreamFormat)
  | setStartResult (r : StreamStartResult)
  | setDefaultDequeueResult (r : DequeueResult)
  | queueFrame (f : FrameDescriptor)
  | queueDequeueResult (r : DequeueResult)
  | setClock (t : TimePoint)

/-- Source: `fake_capture_device.hpp` `FakeCaptureDevice` (test control surface) -/
def Control.apply (d : FakeCaptureDevice) : Control → FakeCaptureDevice
  | .setOpenResult r => { d with openResult := r }
  | .setFormatResult r => { d with formatResult := r }
  | .setFormat f => { d with format := f }
  | .setStartResult r => { d with startResult := r }
  | .setDefaultDequeueResult r => { d with defaultDequeueResult := r }
  | .queueFrame f => { d with dequeueQueue := d.dequeueQueue ++ [(.frame, f)] }
  | .queueDequeueResult r => { d with dequeueQueue := d.dequeueQueue ++ [(r, {})] }
  | .setClock t => { d with clock := t }

/-- Several control actions. Source: none: infrastructure -/
def controlled (cs : List Control) (d : FakeCaptureDevice) : FakeCaptureDevice :=
  cs.foldl Control.apply d

/-- **No control action changes what an open descriptor reports.**
Source: `fake_capture_device.hpp` `FakeCaptureDevice` (the comment on the frozen format) -/
@[simp] theorem controlled_observed (cs : List Control) (d : FakeCaptureDevice) :
    (controlled cs d).observedFormatResult = d.observedFormatResult ∧
      (controlled cs d).observedFormat = d.observedFormat := by
  induction cs generalizing d with
  | nil => exact ⟨rfl, rfl⟩
  | cons c cs ih =>
      obtain ⟨h₁, h₂⟩ := ih (c.apply d)
      have hone : (c.apply d).observedFormatResult = d.observedFormatResult ∧
          (c.apply d).observedFormat = d.observedFormat := by
        cases c <;> exact ⟨rfl, rfl⟩
      exact ⟨h₁.trans hone.1, h₂.trans hone.2⟩

/-! ## The machine on the driver model -/

/-- The machine and its device. Source: none: infrastructure -/
abbrev Setup : Type := CaptureStateMachine × FakeCaptureDevice

/-- One turn of the machine on the device, after the control actions `l.1`.
Source: `capture_state_machine_test.cpp`, `fake_capture_device.hpp` -/
structure FakeStep (rnd : ℚ → ℚ) (s : Setup) (l : List Control × Turn) (s' : Setup) : Prop where
  turn : Turn.Of rnd s.1 l.2 s'.1
  device : Follows fake.env (controlled l.1 s.2) l.2.trace s'.2

/-- What the machine and its device can reach from their constructors.
Source: `capture_state_machine_test.cpp` `CaptureStateMachineTest` -/
def FakeReachable (rnd : ℚ → ℚ) (config : DaemonConfig) (now : TimePoint) (s : Setup) : Prop :=
  ∃ ls, Run (FakeStep rnd) (.new rnd config now, {}) ls s

/-- Opens and starts succeed, and a producer is writing the format `f`.
Source: `fake_capture_device.hpp` `FakeCaptureDevice` (test control surface) -/
structure Granting (f : StreamFormat) (d : FakeCaptureDevice) : Prop where
  openResult : d.openResult = .opened
  startResult : d.startResult = .started
  formatResult : d.formatResult = .known
  format : d.format = f

/-- The turn is taken when the clock has passed `next_attempt_at_`: the first reading of a step that
begins with one is not before it.
Source: `capture_state_machine.cpp` `step_device_absent`, `step_awaiting_producer`, `step_recovering` -/
def Turn.Due (l : Turn) : Prop :=
  ∀ t rest, l.trace = .steady t :: rest → l.pre.nextAttemptAt ≤ t

/-- One due turn while opens and starts succeed and a producer is writing the format `f`.
Source: `fake_capture_device.hpp`, `capture_state_machine.cpp` -/
structure GrantedStep (rnd : ℚ → ℚ) (f : StreamFormat) (s : Setup) (l : List Control × Turn)
    (s' : Setup) : Prop where
  step : FakeStep rnd s l s'
  granting : Granting f (controlled l.1 s.2)
  due : l.2.Due

/-- Whatever happens, the machine streams within `n` such turns.
Source: `capture_state_machine.cpp` `CaptureStateMachine::step` -/
def ReachedWithin (rnd : ℚ → ℚ) (f : StreamFormat) (n : Nat) (s : Setup) : Prop :=
  ∀ ls s', Run (GrantedStep rnd f) s ls s' → ls.length = n →
    s.1.state = .streaming ∨ ∃ l ∈ ls, l.2.post.state = .streaming

/-- The machine waits with an open descriptor whose frozen answer is not a format.
Source: `capture_state_machine.cpp` `CaptureStateMachine::step_awaiting_producer` -/
def Stuck (s : Setup) : Prop :=
  s.1.state = .awaitingProducer ∧ s.1.recovering = false ∧ s.2.observedFormatResult ≠ .known

/-- The machine waits with an open descriptor whose frozen answer is a format.
Source: `capture_state_machine.cpp` `CaptureStateMachine::step_awaiting_producer` -/
def Ready (s : Setup) : Prop :=
  s.1.state = .awaitingProducer ∧ s.1.recovering = false ∧ s.2.observedFormatResult = .known

section granted

variable {rnd : ℚ → ℚ} {config : DaemonConfig} {now : TimePoint} {f : StreamFormat} {s s' : Setup}
  {l : List Control × Turn}

/-! ## What the driver model answers -/

section answers

variable {d d' : FakeCaptureDevice}

/-- An open that succeeds samples the wire. Source: `fake_capture_device.hpp` `open` -/
theorem Granting.open_answer {r : OpenResult} (h : Granting f d)
    (ha : fake.answer d .openDevice = (r, d')) :
    r = .opened ∧ d'.observedFormatResult = .known ∧ d'.startResult = .started := by
  have hopen : (decide (d.openResult = OpenResult.opened)) = true := by simp [h.openResult]
  unfold CaptureDevice.answer at ha
  dsimp only [fake, FakeCaptureDevice.openDevice] at ha
  rw [hopen] at ha
  obtain ⟨rfl, rfl⟩ := Prod.mk.inj ha
  exact ⟨h.openResult, h.formatResult, h.startResult⟩

/-- A query reports what was sampled. Source: `fake_capture_device.hpp` `query_format` -/
theorem query_answer {r : FormatResult} {g : StreamFormat}
    (ha : fake.answer d .queryFormat = ((r, g), d')) : r = d.observedFormatResult ∧ d' = d := by
  obtain ⟨hr, rfl⟩ := Prod.mk.inj ha
  exact ⟨(Prod.mk.inj hr).1.symm, rfl⟩

/-- A start reports what it is set to. Source: `fake_capture_device.hpp` `start_streaming` -/
theorem start_answer {n : UInt32} {r : StreamStartResult}
    (ha : fake.answer d (.startStreaming n) = (r, d')) : r = d.startResult :=
  (Prod.mk.inj ha).1.symm

end answers

/-! ## One granted turn -/

/-- The parts of a granted turn. Source: none: infrastructure -/
theorem GrantedStep.parts (h : GrantedStep rnd f s l s') :
    ∃ d t tr out, d.observedFormatResult = s.2.observedFormatResult ∧ Granting f d ∧
      StepCase rnd t s.1 tr out s'.1 ∧ Follows fake.env d tr s'.2 ∧
      (∀ now rest, tr = Observation.steady now :: rest → s.1.nextAttemptAt ≤ now) := by
  refine ⟨_, _, _, _, (controlled_observed l.1 s.2).1, h.granting, h.step.turn.case, h.step.device, ?_⟩
  intro now rest htr
  rw [← h.step.turn.pre]
  exact h.due now rest htr

/-- An absent device is opened, and its descriptor reports the format on the wire.
Source: `capture_state_machine.cpp` `CaptureStateMachine::step_device_absent` -/
theorem GrantedStep.of_absent (hm : Resting s.1) (hs : s.1.state = .deviceAbsent)
    (h : GrantedStep rnd f s l s') : Ready s' := by
  obtain ⟨d, t, tr, out, -, hgranting, hcase, hdevice, hdue⟩ := h.parts
  obtain ⟨m, d₀⟩ := s
  obtain ⟨m', d'⟩ := s'
  dsimp only at hs hm hcase hdevice hdue
  have hr : m.recovering = false := hm.not_recovering (by simp [hs])
  cases hcase with
  | absentWaits _ hw => exact absurd (hdue _ _ rfl) (Int.not_le.mpr hw)
  | absentOpens _ hw =>
      simp only [follows_cons, env_steady, env_device, env_emitted, follows_nil, exists_eq_left]
        at hdevice
      obtain ⟨d₁, hopen, rfl⟩ := hdevice
      exact ⟨rfl, hr, (hgranting.open_answer hopen).2.1⟩
  | absentFails _ hw =>
      simp only [follows_cons, env_steady, env_device, follows_nil, exists_eq_left] at hdevice
      obtain ⟨d₁, hopen, -⟩ := hdevice
      cases (hgranting.open_answer hopen).1
  | _ => simp_all

/-- A descriptor that reports a format is turned into a stream.
Source: `capture_state_machine.cpp` `CaptureStateMachine::step_awaiting_producer` -/
theorem GrantedStep.of_ready (hready : Ready s) (h : GrantedStep rnd f s l s') :
    s'.1.state = .streaming := by
  obtain ⟨d, t, tr, out, hobserved, hgranting, hcase, hdevice, hdue⟩ := h.parts
  obtain ⟨m, d₀⟩ := s
  obtain ⟨m', d'⟩ := s'
  obtain ⟨hs, hr, hknown⟩ := hready
  dsimp only at hs hr hknown hobserved hcase hdevice hdue ⊢
  have hquery : ∀ {r g d₁}, fake.answer d .queryFormat = ((r, g), d₁) → r = .known ∧ d₁ = d := by
    intro r g d₁ ha
    obtain ⟨hrr, hd₁⟩ := query_answer ha
    exact ⟨hrr.trans (hobserved.trans hknown), hd₁⟩
  cases hcase with
  | waitingWaits _ _ hw => exact absurd (hdue _ _ rfl) (Int.not_le.mpr hw)
  | waitingNoProducer _ _ hw =>
      simp only [follows_cons, env_steady, env_device, follows_nil, exists_eq_left] at hdevice
      obtain ⟨d₁, ha, -⟩ := hdevice
      cases (hquery ha).1
  | waitingQueryFails _ _ hw =>
      simp only [follows_cons, env_steady, env_device, follows_nil, exists_eq_left] at hdevice
      obtain ⟨d₁, ha, -⟩ := hdevice
      cases (hquery ha).1
  | waitingStartFails _ _ hw =>
      simp only [follows_cons, env_steady, env_device, follows_nil, exists_eq_left] at hdevice
      obtain ⟨d₁, ha, d₂, hst, -⟩ := hdevice
      have hfail := start_answer hst
      rw [(hquery ha).2, hgranting.startResult] at hfail
      cases hfail
  | waitingStarts => rfl
  | waitingReconnects => rfl
  | _ => simp_all

/-- A probe opens the device anew and turns it into a stream.
Source: `capture_state_machine.cpp` `CaptureStateMachine::step_recovering` -/
theorem GrantedStep.of_recovering (hs : s.1.state = .awaitingProducer)
    (hr : s.1.recovering = true) (h : GrantedStep rnd f s l s') : s'.1.state = .streaming := by
  obtain ⟨d, t, tr, out, -, hgranting, hcase, hdevice, hdue⟩ := h.parts
  obtain ⟨m, d₀⟩ := s
  obtain ⟨m', d'⟩ := s'
  dsimp only at hs hr hcase hdevice hdue ⊢
  cases hcase with
  | recoveringWaits _ _ hw => exact absurd (hdue _ _ rfl) (Int.not_le.mpr hw)
  | recoveringLoses _ _ hw =>
      simp only [follows_cons, env_steady, env_device, exists_eq_left] at hdevice
      obtain ⟨d₁, hopen, -⟩ := hdevice
      cases (hgranting.open_answer hopen).1
  | recoveringNoProducer _ _ hw =>
      simp only [follows_cons, env_steady, env_device, exists_eq_left] at hdevice
      obtain ⟨d₁, hopen, d₂, ha, -⟩ := hdevice
      have hquery := (query_answer ha).1
      rw [(hgranting.open_answer hopen).2.1] at hquery
      cases hquery
  | recoveringQueryFails _ _ hw =>
      simp only [follows_cons, env_steady, env_device, exists_eq_left] at hdevice
      obtain ⟨d₁, hopen, d₂, ha, -⟩ := hdevice
      have hquery := (query_answer ha).1
      rw [(hgranting.open_answer hopen).2.1] at hquery
      cases hquery
  | recoveringStartFails _ _ hw =>
      simp only [follows_cons, env_steady, env_device, exists_eq_left] at hdevice
      obtain ⟨d₁, hopen, d₂, ha, d₃, hst, -⟩ := hdevice
      have hfail := start_answer hst
      rw [(query_answer ha).2, (hgranting.open_answer hopen).2.2] at hfail
      cases hfail
  | recoveringStarts => rfl
  | _ => simp_all

/-- A granted turn is possible in every state.
Source: `capture_state_machine.cpp` `CaptureStateMachine::step` -/
theorem granted_exists (rnd : ℚ → ℚ) (f : StreamFormat) (s : Setup) :
    ∃ l s', GrantedStep rnd f s l s' := by
  have hgranting : Granting f (controlled [.setOpenResult .opened, .setStartResult .started,
    .setFormatResult .known, .setFormat f] s.2) := ⟨rfl, rfl, rfl, rfl⟩
  obtain ⟨tr, out, m', d', hdoes, hfollows, hreading⟩ :=
    step_exists fake rnd 0 s.1.nextAttemptAt s.1 (controlled _ s.2)
  refine ⟨(_, ⟨s.1, 0, tr, out, m'⟩), (m', d'), ⟨⟨rfl, rfl, hdoes⟩, hfollows⟩, hgranting, ?_⟩
  intro t rest htr
  exact (hreading t rest htr).symm.le

/-! ## A machine that is stuck -/

/-- **A stuck machine stays stuck**, whatever happens on the wire: it asks the same descriptor again and
is told the same.
Source: `capture_state_machine.cpp` `CaptureStateMachine::step_awaiting_producer` -/
theorem Stuck.keeps (hstuck : Stuck s) (h : FakeStep rnd s l s') : Stuck s' := by
  have hobserved := (controlled_observed l.1 s.2).1
  have hcase := h.turn.case
  have hdevice := h.device
  generalize controlled l.1 s.2 = d at hobserved hdevice
  generalize l.2.trace = tr at hcase hdevice
  generalize l.2.outcome = out at hcase
  obtain ⟨m, d₀⟩ := s
  obtain ⟨m', d'⟩ := s'
  obtain ⟨hs, hr, hfrozen⟩ := hstuck
  dsimp only at hs hr hfrozen hobserved hcase hdevice
  rw [← hobserved] at hfrozen
  have hquery : ∀ {g d₁}, fake.answer d .queryFormat ≠ ((.known, g), d₁) := by
    intro g d₁ ha
    exact hfrozen (query_answer ha).1.symm
  cases hcase with
  | waitingWaits _ _ hw =>
      simp only [follows_cons, env_steady, follows_nil, exists_eq_left] at hdevice
      exact ⟨hs, hr, by rw [hdevice]; exact hfrozen⟩
  | waitingNoProducer _ _ hw =>
      simp only [follows_cons, env_steady, env_device, follows_nil, exists_eq_left] at hdevice
      obtain ⟨d₁, ha, rfl⟩ := hdevice
      exact ⟨hs, hr, by rw [(query_answer ha).2]; exact hfrozen⟩
  | waitingQueryFails _ _ hw =>
      simp only [follows_cons, env_steady, env_device, follows_nil, exists_eq_left] at hdevice
      obtain ⟨d₁, ha, rfl⟩ := hdevice
      exact ⟨hs, hr, by rw [(query_answer ha).2]; exact hfrozen⟩
  | waitingStartFails _ _ hw =>
      simp only [follows_cons, env_steady, env_device, exists_eq_left] at hdevice
      obtain ⟨d₁, ha, -⟩ := hdevice
      exact absurd ha hquery
  | waitingStarts _ _ hw hb =>
      simp only [follows_cons, env_steady, env_device, exists_eq_left] at hdevice
      obtain ⟨d₁, ha, -⟩ := hdevice
      exact absurd ha hquery
  | waitingReconnects _ _ hw hb =>
      simp only [follows_cons, env_steady, env_device, exists_eq_left] at hdevice
      obtain ⟨d₁, ha, -⟩ := hdevice
      exact absurd ha hquery
  | _ => simp_all

/-- A stuck machine has granted runs of every length, and stays stuck in all of them.
Source: `capture_state_machine.cpp` `CaptureStateMachine::step_awaiting_producer` -/
theorem Stuck.run (rnd : ℚ → ℚ) (f : StreamFormat) (hstuck : Stuck s) (n : Nat) :
    ∃ ls s', Run (GrantedStep rnd f) s ls s' ∧ ls.length = n ∧ Stuck s' ∧
      ∀ l ∈ ls, l.2.post.state ≠ .streaming := by
  induction n with
  | zero => exact ⟨[], s, .nil, rfl, hstuck, by simp⟩
  | succ n ih =>
      obtain ⟨ls, s₁, hrun, hlength, hstuck₁, hls⟩ := ih
      obtain ⟨l, s₂, hl⟩ := granted_exists rnd f s₁
      have hstuck₂ : Stuck s₂ := hstuck₁.keeps hl.step
      refine ⟨ls ++ [l], s₂, .snoc hrun hl, by simp [hlength], hstuck₂, ?_⟩
      intro k hk
      rcases List.mem_append.mp hk with hk | hk
      · exact hls k hk
      · rw [List.mem_singleton] at hk
        rw [hk, hl.step.turn.post, hstuck₂.1]
        simp

/-! ## When a producer is reached -/

/-- What the machine and the driver model reach is reached by the machine.
Source: none: infrastructure -/
theorem FakeReachable.resting (h : FakeReachable rnd config now s) : Resting s.1 := by
  obtain ⟨ls, hrun⟩ := h
  exact Run.invariant (I := fun s : Setup => Resting s.1) resting_new
    (fun hm hl => hm.keeps hl.turn.case) hrun

/-- **From every state that is not stuck, two granted turns visit a stream.**
Source: `capture_state_machine.cpp` `CaptureStateMachine::step` -/
theorem reachedWithin_two (hm : Resting s.1) (hfree : ¬ Stuck s) : ReachedWithin rnd f 2 s := by
  intro ls s₂ hrun hlength
  obtain ⟨l₁, l₂, rfl⟩ := List.length_eq_two.mp hlength
  obtain ⟨s₁, h₁, hrest⟩ := run_cons.mp hrun
  obtain ⟨s₂', h₂, -⟩ := run_cons.mp hrest
  rcases hm.state with hs | hs | hs
  · right
    have hstream := h₂.of_ready (h₁.of_absent hm hs)
    exact ⟨l₂, by simp, by rw [h₂.step.turn.post]; exact hstream⟩
  · right
    have hstream : s₁.1.state = .streaming := by
      cases hr : s.1.recovering with
      | true => exact h₁.of_recovering hs hr
      | false =>
          refine h₁.of_ready ⟨hs, hr, ?_⟩
          by_contra hfrozen
          exact hfree ⟨hs, hr, hfrozen⟩
    exact ⟨l₁, by simp, by rw [h₁.step.turn.post]; exact hstream⟩
  · exact .inl hs

/-- **Exactly when a producer is reached.** From a reachable state, the machine streams within a bounded
number of granted turns if and only if it does not hold a descriptor whose frozen answer is something
else than a format; and then the bound is two, whatever the state.
Source: `capture_state_machine.cpp` `step_awaiting_producer`, `step_recovering` -/
theorem producer_reached_iff (h : FakeReachable rnd config now s) :
    ((∃ n, ReachedWithin rnd f n s) ↔
      ¬ (s.1.state = .awaitingProducer ∧ s.1.recovering = false ∧
        s.2.observedFormatResult ≠ .known)) ∧
    (¬ (s.1.state = .awaitingProducer ∧ s.1.recovering = false ∧
        s.2.observedFormatResult ≠ .known) → ReachedWithin rnd f 2 s) := by
  refine ⟨⟨?_, ?_⟩, ?_⟩
  · rintro ⟨n, hn⟩ (hstuck : Stuck s)
    obtain ⟨ls, s', hrun, hlength, -, hls⟩ := hstuck.run rnd f n
    rcases hn ls s' hrun hlength with hs | ⟨l, hl, hs⟩
    · rw [hstuck.1] at hs
      cases hs
    · exact hls l hl hs
  · intro hfree
    exact ⟨2, reachedWithin_two h.resting hfree⟩
  · intro hfree
    exact reachedWithin_two h.resting hfree

end granted

/-! ## A cold open before the producer starts -/

section coldOpen

/-- The device when it has been opened and nothing is writing to it. Source: none: infrastructure -/
def coldDevice : FakeCaptureDevice := { openResult := .opened, isOpen := true }

/-- The machine has opened the device before the producer started. Source: none: infrastructure -/
theorem coldOpen_reachable :
    FakeReachable id {} 0 (coldOpened id {} 0, coldDevice) := by
  have hturn := Turn.of_case (@StepCase.absentOpens id 0 (.new id {} 0) 0 rfl (Int.le_refl 0))
  have hdevice : Follows fake.env (controlled [.setOpenResult .opened] {})
      ([.steady 0, .opened .opened, .emitted { type := .deviceOpened },
        .emitted { type := .awaitingProducer }] : List Observation) coldDevice :=
    .cons (t := controlled [.setOpenResult .opened] {}) rfl
      (.cons (t := coldDevice) rfl (.cons (t := coldDevice) rfl (.cons (t := coldDevice) rfl (.nil _))))
  exact ⟨[([.setOpenResult .opened], _)], .snoc .nil ⟨hturn, hdevice⟩⟩

/-- The condition at work: after a cold open before the producer starts, no bound is good enough.
Source: none: infrastructure -/
theorem producer_reached_iff_coldOpen :
    ((∃ n, ReachedWithin id {} n (coldOpened id {} 0, coldDevice)) ↔
      ¬ ((coldOpened id {} 0).state = .awaitingProducer ∧ (coldOpened id {} 0).recovering = false ∧
        coldDevice.observedFormatResult ≠ .known)) ∧
    (¬ ((coldOpened id {} 0).state = .awaitingProducer ∧ (coldOpened id {} 0).recovering = false ∧
        coldDevice.observedFormatResult ≠ .known) →
      ReachedWithin id {} 2 (coldOpened id {} 0, coldDevice)) :=
  producer_reached_iff coldOpen_reachable

/-- **A producer that is never reached**: no bound is good enough for every reachable state, since none
is for the state after a cold open before the producer starts.
Source: `capture_state_machine.cpp` `CaptureStateMachine::step_awaiting_producer` -/
theorem producer_not_reached :
    ¬ ∃ n, ∀ (rnd : ℚ → ℚ) (config : DaemonConfig) (now : TimePoint) (f : StreamFormat) (s : Setup),
      FakeReachable rnd config now s → ReachedWithin rnd f n s := by
  rintro ⟨n, hn⟩
  have hstuck : Stuck (coldOpened id {} 0, coldDevice) := ⟨rfl, rfl, by decide⟩
  obtain ⟨ls, s', hrun, hlength, -, hls⟩ := hstuck.run id {} n
  rcases hn id {} 0 {} _ coldOpen_reachable ls s' hrun hlength with hs | ⟨l, hl, hs⟩
  · cases hs
  · exact hls l hl hs

end coldOpen

end Hamstercam
