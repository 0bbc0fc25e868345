import Hamstercam.Capture.Runs

/-!
# Format changes across a recovery

* `RecoveryStretch` — the turns from a release of a stream to the next stream, with no loss of the
  device in between.
* `FormatChangedExact A B es` — the events `es` report a format change exactly if `A ≠ B`, and they
  report the change from `A` to `B`.
* `RecoveryStretch.events` — what the last turn of a stretch emits: it compares the new format with
  `current_format_`, which every probe that gets as far as `start_streaming` has overwritten.
* `formatChanged_exact_iff` — so the report is exact if and only if the last probe whose start failed
  saw the format that was streaming before, or no probe got that far.
-/

namespace Hamstercam

open Interaction CaptureStateMachine

/-! ## The formats of failed starts -/

/-- The formats that `query_format` answered right before a `start_streaming` that failed, in order.
Source: `capture_state_machine.cpp` `CaptureStateMachine::step_recovering` -/
def failedStarts : List Observation → List StreamFormat
  | .queried .known f :: .started _ .bufferError :: tr => f :: failedStarts tr
  | _ :: tr => failedStarts tr
  | [] => []

/-- The format of the last failed start of a list of turns, if there is one.
Source: none: infrastructure -/
def lastFailedStart (ls : List Turn) : Option StreamFormat :=
  (ls.flatMap fun l => failedStarts l.trace).getLast?

/-- Source: none: infrastructure -/
theorem lastFailedStart_snoc (ls : List Turn) (l : Turn) :
    lastFailedStart (ls ++ [l]) = (failedStarts l.trace).getLast?.or (lastFailedStart ls) := by
  simp [lastFailedStart, List.getLast?_append]

section stretch

variable {rnd : ℚ → ℚ} {config : DaemonConfig} {now : TimePoint} {ls ps : List Turn}
  {release restart : Turn} {m m' : CaptureStateMachine} {t : Millis} {tr : List Observation}
  {out : StepOutcome} {A B : StreamFormat}

/-! ## The three kinds of step of a stretch -/

/-- A release keeps the format.
Source: `capture_state_machine.cpp` `CaptureStateMachine::begin_release_cycle` -/
theorem CaptureStateMachine.StepCase.of_release (hm : Resting m) (hs : m.state = .streaming)
    (hr : m'.recovering = true) (h : StepCase rnd t m tr out m') :
    m'.state = .awaitingProducer ∧ m'.currentFormat = m.currentFormat := by
  have hnot : m.recovering = false := hm.not_recovering (by simp [hs])
  cases h <;> simp_all

/-- A probe that does not end the recovery keeps the format, unless it gets as far as a start that
fails: then it leaves the format it has seen.
Source: `capture_state_machine.cpp` `CaptureStateMachine::step_recovering` -/
theorem CaptureStateMachine.StepCase.of_probe (hs : m.state = .awaitingProducer)
    (hr : m.recovering = true) (hr' : m'.recovering = true) (h : StepCase rnd t m tr out m') :
    m'.state = .awaitingProducer ∧
      m'.currentFormat = (failedStarts tr).getLast?.getD m.currentFormat := by
  cases h <;> simp_all [failedStarts]

/-- A probe that ends in a stream emits what `recoveryEvents` says, from `current_format_`.
Source: `capture_state_machine.cpp` `CaptureStateMachine::step_recovering` -/
theorem CaptureStateMachine.StepCase.of_restart (hs : m.state = .awaitingProducer)
    (hr : m.recovering = true) (hs' : m'.state = .streaming) (h : StepCase rnd t m tr out m') :
    tr.filterMap Observation.event = recoveryEvents m.currentFormat m'.currentFormat := by
  cases h with
  | recoveringStarts _ _ hw =>
      rw [List.filterMap_append, filterMap_event_emitted]
      simp [Observation.event]
  | _ => simp_all

/-! ## A stretch from stream to stream -/

/-- A stretch of a run: the turn `release` takes the machine from a stream into a recovery, the turns
`ps` leave it there, and the turn `restart` takes it to the next stream. A loss of the device would end
the recovery, so there is none.
Source: `capture_state_machine.cpp` `begin_release_cycle`, `step_recovering` -/
structure RecoveryStretch (rnd : ℚ → ℚ) (release : Turn) (ps : List Turn) (restart : Turn) :
    Prop where
  run : Run (Turn.Of rnd) release.pre (release :: (ps ++ [restart])) restart.post
  streams : release.pre.state = .streaming
  recovers : ∀ l ∈ release :: ps, l.post.recovering = true
  streamsAgain : restart.post.state = .streaming

/-- The events `es` report the change of format from `A` to `B`: exactly if there is one, and as the
change it is.
Source: `event.hpp` `Event`, `capture_state_machine.cpp` `CaptureStateMachine::step_recovering` -/
def FormatChangedExact (A B : StreamFormat) (es : List Event) : Prop :=
  ((∃ e ∈ es, e.type = .formatChanged) ↔ A ≠ B) ∧
    ∀ e ∈ es, e.type = .formatChanged → e.format = B ∧ e.previousFormat = A

/-- Probes that leave the machine in its recovery leave it the format of their last failed start.
Source: `capture_state_machine.cpp` `CaptureStateMachine::step_recovering` -/
theorem currentFormat_of_probes (hs : m.state = .awaitingProducer) (hr : m.recovering = true)
    (h : Run (Turn.Of rnd) m ps m') (hps : ∀ l ∈ ps, l.post.recovering = true) :
    m'.state = .awaitingProducer ∧ m'.recovering = true ∧
      m'.currentFormat = (lastFailedStart ps).getD m.currentFormat := by
  induction h with
  | nil => exact ⟨hs, hr, rfl⟩
  | @snoc ps m₁ m₂ l init last ih =>
      obtain ⟨hs₁, hr₁, hf₁⟩ := ih fun k hk => hps k (by simp [hk])
      have hr₂ : m₂.recovering = true := by
        rw [← last.post]
        exact hps l (by simp)
      obtain ⟨hs₂, hf₂⟩ := last.case.of_probe hs₁ hr₁ hr₂
      refine ⟨hs₂, hr₂, ?_⟩
      rw [hf₂, hf₁, lastFailedStart_snoc]
      cases (failedStarts l.trace).getLast? <;> rfl

/-- **What the last turn of a stretch emits.** It compares the format it starts with the one the last
failed start has left, or else the one that was streaming.
Source: `capture_state_machine.cpp` `CaptureStateMachine::step_recovering` -/
theorem RecoveryStretch.events (hm : Resting release.pre)
    (h : RecoveryStretch rnd release ps restart) :
    restart.events = recoveryEvents ((lastFailedStart ps).getD release.pre.currentFormat)
      restart.post.currentFormat := by
  obtain ⟨m₁, hrel, hrest⟩ := run_cons.mp h.run
  obtain ⟨m₂, hps, hlast⟩ := run_snoc.mp hrest
  have hr₁ : m₁.recovering = true := by
    rw [← hrel.post]
    exact h.recovers release (by simp)
  obtain ⟨hs₁, hf₁⟩ := hrel.case.of_release hm h.streams hr₁
  obtain ⟨hs₂, hr₂, hf₂⟩ := currentFormat_of_probes hs₁ hr₁ hps fun l hl => h.recovers l (by simp [hl])
  rw [Turn.events, hlast.case.of_restart hs₂ hr₂ h.streamsAgain, hf₂, hf₁]

/-- Comparing the new format with `previous` is exact only if `previous` was streaming.
Source: `capture_state_machine.cpp` `CaptureStateMachine::step_recovering` -/
theorem formatChangedExact_recoveryEvents {previous : StreamFormat} :
    FormatChangedExact A B (recoveryEvents previous B) ↔ previous = A := by
  unfold FormatChangedExact recoveryEvents
  by_cases hB : B = previous
  · subst hB
    simp [eq_comm]
  · constructor
    · rintro ⟨-, h⟩
      have hmem : ({ type := .formatChanged, format := B, previousFormat := previous } : Event) ∈
          recoveryEvents previous B := by simp [recoveryEvents, hB]
      exact (h _ hmem rfl).2
    · rintro rfl
      simp [hB, Ne.symm hB]

/-! ## When the report is exact -/

/-- **Exactly when a recovery reports its format change right**: the last probe whose start failed saw
the format `A` that was streaming before, or no start failed.
Source: `capture_state_machine.cpp` `CaptureStateMachine::step_recovering` -/
theorem formatChanged_exact_iff (h : CaptureRun rnd config now ls release.pre)
    (hstretch : RecoveryStretch rnd release ps restart)
    (hA : release.pre.stats.streamInfo = some A) (hB : restart.post.stats.streamInfo = some B) :
    FormatChangedExact A B restart.events ↔ ∀ f, lastFailedStart ps = some f → f = A := by
  have hm := CaptureRun.resting h
  have hm' : Resting restart.post :=
    Run.invariant hm (fun hm hl => hm.keeps hl.case) hstretch.run
  have hAf : release.pre.currentFormat = A := by
    rw [hm.info hstretch.streams] at hA
    exact Option.some.inj hA
  have hBf : restart.post.currentFormat = B := by
    rw [hm'.info hstretch.streamsAgain] at hB
    exact Option.some.inj hB
  rw [hstretch.events hm, hAf, hBf, formatChangedExact_recoveryEvents]
  cases lastFailedStart ps <;> simp

end stretch

/-! ## A probe that sees the new format first and fails

A stream with format `hd` is released because a frame has the wrong size; a first probe sees `vga`
but cannot start it; a second one starts it. -/

section failedProbe

/-- 1280x720, uncompressed. Source: `capture_state_machine_test.cpp` -/
def hd : StreamFormat := { width := 1280, height := 720, sizeImage := 1382400, compressed := false }

/-- 640x480, uncompressed. Source: `capture_state_machine_test.cpp` -/
def vga : StreamFormat := { width := 640, height := 480, sizeImage := 460800, compressed := false }

/-- The machine after the release. Source: none: infrastructure -/
def hdReleased : CaptureStateMachine :=
  ((coldStarted id {} 0 hd).frameTaken id {} 0).released .geometry 0

/-- The machine after the probe that fails. Source: none: infrastructure -/
def vgaFailed : CaptureStateMachine := (hdReleased.withFormat vga).startFailed 0

/-- The machine after the probe that succeeds. Source: none: infrastructure -/
def vgaStarted : CaptureStateMachine :=
  ((vgaFailed.withFormat vga).sessionStarted 1000000000).withRecovering false

/-- The release. Source: none: infrastructure -/
def hdRelease : Turn :=
  ⟨coldStarted id {} 0 hd, 200, [.dequeued 200 .frame {}, .requeued 0, .wall 0,
    .emitted { type := .stallDetected }, .stopped, .closed, .steady 0], {}, hdReleased⟩

/-- The probe that fails. Source: none: infrastructure -/
def vgaProbe : Turn :=
  ⟨hdReleased, 200, [.steady 0, .opened .opened, .queried .known vga, .started 4 .bufferError,
    .steady 0, .closed], ⟨200⟩, vgaFailed⟩

/-- The probe that succeeds. Source: none: infrastructure -/
def vgaRestart : Turn :=
  ⟨vgaFailed, 200, [.steady 1000000000, .opened .opened, .queried .known vga, .started 4 .started,
    .steady 1000000000, .emitted { type := .stallCleared },
    .emitted { type := .streamingStarted, format := vga }], {}, vgaStarted⟩

/-- The three turns are a stretch. Source: none: infrastructure -/
theorem vga_stretch : RecoveryStretch id hdRelease [vgaProbe] vgaRestart where
  run := by
    have hrelease : Turn.Of id (coldStarted id {} 0 hd) hdRelease hdReleased :=
      Turn.of_case (.streamsMismatch rfl rfl (by decide))
    have hprobe : Turn.Of id hdReleased vgaProbe vgaFailed :=
      Turn.of_case (.recoveringStartFails rfl rfl (Int.le_refl 0))
    have hrestart : Turn.Of id vgaFailed vgaRestart vgaStarted :=
      Turn.of_case (.recoveringStarts rfl rfl (by decide))
    exact Run.snoc (Run.snoc (Run.snoc .nil hrelease) hprobe) hrestart
  streams := rfl
  recovers := by
    intro l hl
    simp only [List.mem_cons, List.not_mem_nil, or_false] at hl
    rcases hl with rfl | rfl <;> rfl
  streamsAgain := rfl

/-- The condition at work: the report of this stretch is exact if and only if `vga` is `hd`.
Source: none: infrastructure -/
theorem formatChanged_exact_iff_vga :
    FormatChangedExact hd vga vgaRestart.events ↔
      ∀ f, lastFailedStart [vgaProbe] = some f → f = hd :=
  formatChanged_exact_iff (coldStart_run id {} 0 hd) vga_stretch rfl rfl

/-- **A change that is not reported.** The format goes from `hd` to `vga` and no event says so.
Source: `capture_state_machine.cpp` `CaptureStateMachine::step_recovering` -/
theorem formatChanged_not_exact :
    ¬ ∀ (rnd : ℚ → ℚ) (config : DaemonConfig) (now : TimePoint) (ls ps : List Turn)
        (release restart : Turn) (A B : StreamFormat),
        CaptureRun rnd config now ls release.pre → RecoveryStretch rnd release ps restart →
        release.pre.stats.streamInfo = some A → restart.post.stats.streamInfo = some B →
        FormatChangedExact A B restart.events := by
  intro hall
  have h := hall id {} 0 (coldStart id {} 0 hd) [vgaProbe] hdRelease vgaRestart hd vga
    (coldStart_run id {} 0 hd) vga_stretch rfl rfl
  obtain ⟨e, he, htype⟩ := h.1.mpr (by decide)
  have hevents : vgaRestart.events =
      [{ type := .stallCleared }, { type := .streamingStarted, format := vga }] := rfl
  rw [hevents] at he
  simp only [List.mem_cons, List.not_mem_nil, or_false] at he
  rcases he with rfl | rfl <;> cases htype

end failedProbe

end Hamstercam
