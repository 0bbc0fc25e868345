import Hamstercam.Capture.Retries

/-!
# Does the daemon ever spin?

* `Turn.quiet` — a turn that waits: it recommends a positive wait, or the poll of the device provided
  one.
* `Turn.paced`, `Turn.unpaced` — the same read off what the step is given: the answers of the device, the
  clock and the deadline. A dequeue that fails, a loss of the device and a clock in the last millisecond
  before the deadline let the machine go on at once.
* `Turn.pays` — every other step that does not wait brings the machine nearer to its stream.
* `hot_loop_iff` — so a set of runs has no hot loop if and only if those three do not come in a row
  without end.
-/

namespace Hamstercam

open Interaction CaptureStateMachine

/-! ## Turns that wait -/

namespace Turn

/-- The turn recommends a positive wait, or the dequeue waited for a frame or timed out.
Source: `capture_state_machine.hpp` `CaptureStateMachine::StepOutcome` -/
def quiet (l : Turn) : Bool :=
  decide (0 < l.outcome.recommendedWait) || l.trace.any Observation.isFrame ||
    l.trace.any Observation.isTimeout

/-- How far the deadline is, in nanoseconds, when a step outside a stream looks at the clock.
Source: `capture_state_machine.cpp` `step_device_absent`, `step_awaiting_producer`, `step_recovering` -/
def remaining (l : Turn) : Option Int :=
  if l.pre.state = .streaming then none
  else l.readings.head?.map fun r => l.pre.nextAttemptAt - r

/-- The step is given something to wait for: a frame, a time-out, a failure of the device, or a deadline
a millisecond ahead or more.
Source: `capture_state_machine.cpp` `CaptureStateMachine::step` -/
def paced (l : Turn) : Bool :=
  l.trace.any Observation.isFrame || l.trace.any Observation.isTimeout || l.fails ||
    l.remaining.any fun ns => decide (1000000 ≤ ns)

/-- The step is given something that lets it return at once: a dequeue that fails, the loss of the
device in a dequeue, or a deadline less than a millisecond ahead.
Source: `capture_state_machine.cpp` `step_streaming`, `lose_device`, `duration_cast<milliseconds>` -/
def unpaced (l : Turn) : Bool :=
  l.trace.any Observation.isDequeueError || l.trace.any Observation.isDequeueLost ||
    l.remaining.any fun ns => decide (0 < ns ∧ ns < 1000000)

end Turn

section pacing

variable {rnd : ℚ → ℚ} {config : DaemonConfig} {now : TimePoint} {ls : List Turn} {l : Turn}
  {m m' : CaptureStateMachine} {t : Millis} {tr : List Observation} {out : StepOutcome}

/-- A wait of some nanoseconds is positive in milliseconds if it is a millisecond or more.
Source: `capture_state_machine.cpp` `duration_cast<milliseconds>` -/
theorem durationCastMillis_pos {ns : Int} (h : 0 < ns) : 0 < durationCastMillis ns ↔ 1000000 ≤ ns := by
  rw [durationCastMillis, Int.tdiv_eq_ediv_of_nonneg (Int.le_of_lt h)]
  show (0 : Int) < ns / 1000000 ↔ 1000000 ≤ ns
  omega

/-- A backoff that hands out positive delays.
Source: `backoff.hpp` `Backoff` -/
structure Backoff.Positive (b : Backoff) : Prop where
  initial : 0 < b.initial
  max : 0 < b.max
  current : 0 < b.current

namespace Backoff.Positive

variable {b : Backoff}

/-- Source: `backoff.hpp` `Backoff::reset` -/
theorem reset (h : b.Positive) : b.reset.Positive := ⟨h.initial, h.max, h.initial⟩

/-- Source: `backoff.hpp` `Backoff::next` -/
theorem next (h : b.Positive) : b.next.2.Positive := by
  refine ⟨h.initial, h.max, ?_⟩
  exact Int.lt_min.mpr ⟨h.max, Int.mul_pos h.current (by decide)⟩

end Backoff.Positive

/-- Both backoffs of the machine hand out positive delays.
Source: `capture_state_machine.hpp` members `device_absent_backoff_`, `awaiting_producer_backoff_` -/
def PositiveDelays (m : CaptureStateMachine) : Prop :=
  m.deviceAbsentBackoff.Positive ∧ m.awaitingProducerBackoff.Positive

/-- Every step keeps the delays positive.
Source: `capture_state_machine.cpp` `CaptureStateMachine::step` -/
theorem PositiveDelays.keeps (hp : PositiveDelays m) (h : StepCase rnd t m tr out m') :
    PositiveDelays m' := by
  obtain ⟨habsent, hwaiting⟩ := hp
  cases h.retryStep with
  | keeps hb hf state absent waiting deadline =>
      rw [PositiveDelays, absent, waiting]
      exact ⟨habsent, hwaiting⟩
  | begins hb absent waiting deadline =>
      rw [PositiveDelays, waiting]
      refine ⟨?_, hwaiting.reset⟩
      rcases absent with absent | ⟨-, absent⟩
      · rw [absent]
        exact habsent.reset
      · rw [absent]
        exact habsent
  | failsAbsent hb hf was state absent waiting wait deadline =>
      rw [PositiveDelays, absent, waiting]
      exact ⟨habsent.next, hwaiting⟩
  | failsWaiting hb hf was state absent waiting wait deadline =>
      rw [PositiveDelays, absent, waiting]
      exact ⟨habsent, hwaiting.next⟩

/-- A step that waits is given something to wait for, and the other way round.
Source: `capture_state_machine.cpp` `CaptureStateMachine::step` -/
theorem CaptureStateMachine.StepCase.quiet_eq_paced (hp : PositiveDelays m)
    (h : StepCase rnd t m tr out m') :
    Turn.quiet ⟨m, t, tr, out, m'⟩ = Turn.paced ⟨m, t, tr, out, m'⟩ := by
  obtain ⟨⟨-, -, habsent⟩, ⟨-, -, hwaiting⟩⟩ := hp
  cases h with
  | @absentWaits now hs hw | @waitingWaits now hs hr hw | @recoveringWaits now hs hr hw =>
      have hpos := durationCastMillis_pos (Int.sub_pos_of_lt hw)
      simp [Turn.quiet, Turn.paced, Turn.remaining, Turn.readings, Turn.fails, hs, hpos]
  | absentFails hs hw =>
      simp [Turn.quiet, Turn.paced, Turn.fails, hs, habsent]
  | waitingNoProducer hs hr hw | waitingQueryFails hs hr hw | waitingStartFails hs hr hw
  | recoveringNoProducer hs hr hw | recoveringQueryFails hs hr hw
  | recoveringStartFails hs hr hw =>
      simp [Turn.quiet, Turn.paced, Turn.fails, hs, hwaiting]
  | @absentOpens now hs hw | @waitingStarts now _ _ hs hr hw hb
  | @waitingReconnects now _ _ hs hr hw hb | @recoveringLoses now _ hs hr hw
  | @recoveringStarts now _ _ hs hr hw =>
      -- the deadline has come, so there is nothing left to wait for
      have hdue : m.nextAttemptAt - now < 1000000 :=
        Int.lt_of_le_of_lt (Int.sub_nonpos_of_le hw) (by decide)
      simp [Turn.quiet, Turn.paced, Turn.remaining, Turn.readings, Turn.fails, hs, hdue,
        Function.comp_def]
  | streamsFrame hs hp | streamsMismatch hs hc hp | streamsTimeout hs hq | streamsStall hs hq
  | streamsError hs | streamsLoses hs | transient hs =>
      simp [Turn.quiet, Turn.paced, Turn.remaining, Turn.readings, Turn.fails, hs]

/-! ## Steps that do not wait -/

/-- How many steps that do not wait may come before the next stream.
Source: `capture_state_machine.cpp` `CaptureStateMachine::step` -/
def CaptureStateMachine.rank (m : CaptureStateMachine) : Nat :=
  match m.state with
  | .deviceAbsent => 2
  | .awaitingProducer => if m.recovering then 3 else 1
  | _ => 0

/-- **A step that does not wait brings the machine nearer to its stream**, unless it is one of the
three that may be repeated at once.
Source: `capture_state_machine.cpp` `CaptureStateMachine::step` -/
theorem CaptureStateMachine.StepCase.pays (hm : Resting m) (h : StepCase rnd t m tr out m')
    (hpaced : Turn.paced ⟨m, t, tr, out, m'⟩ = false) :
    m'.rank + 1 ≤ m.rank + if Turn.unpaced ⟨m, t, tr, out, m'⟩ then 4 else 0 := by
  cases h with
  | @absentWaits now hs hw | @waitingWaits now hs hr hw | @recoveringWaits now hs hr hw =>
      -- the deadline is ahead, but by less than a millisecond
      have hsoon : m.nextAttemptAt - now < 1000000 := by
        simpa [Turn.paced, Turn.remaining, Turn.readings, Turn.fails, hs] using hpaced
      have hun : Turn.unpaced ⟨m, t, [.steady now], ⟨durationCastMillis (m.nextAttemptAt - now)⟩,
          m⟩ = true := by
        simp [Turn.unpaced, Turn.remaining, Turn.readings, hs, hsoon, hw]
      rw [if_pos hun]
      omega
  | absentOpens hs hw =>
      have hr := hm.not_recovering (by simp [hs])
      refine Nat.le_trans ?_ (Nat.le_add_right m.rank _)
      simp [CaptureStateMachine.rank, hs, hr]
  | waitingStarts hs hr hw hb | waitingReconnects hs hr hw hb | recoveringLoses hs hr hw
  | recoveringStarts hs hr hw =>
      refine Nat.le_trans ?_ (Nat.le_add_right m.rank _)
      simp [CaptureStateMachine.rank, hs, hr]
  | streamsError hs | streamsLoses hs =>
      simp [CaptureStateMachine.rank, Turn.unpaced, hs]
  | transient hs =>
      have hstate := hm.state
      rcases hs with hs | hs <;> simp [hs] at hstate
  | _ => simp_all [Turn.paced, Turn.fails]

/-! ## Runs with the default configuration -/

/-- The delays of the default configuration are positive.
Source: `daemon_config.hpp` `DaemonConfig` -/
theorem CaptureRun.positiveDelays (h : CaptureRun rnd {} now ls m) : PositiveDelays m := by
  have habsent : (Backoff.new 200 30000).Positive := ⟨by decide, by decide, by decide⟩
  have hwaiting : (Backoff.new 200 2000).Positive := ⟨by decide, by decide, by decide⟩
  exact h.invariant ⟨habsent, hwaiting⟩ fun hp hl => hp.keeps hl.case

/-- In a run, a turn waits exactly if it is given something to wait for.
Source: `capture_state_machine.cpp` `CaptureStateMachine::step` -/
theorem CaptureRun.quiet_eq_paced (h : CaptureRun rnd {} now ls m) (hl : l ∈ ls) :
    l.quiet = l.paced := by
  obtain ⟨before, v, w, -, hbefore, hstep⟩ := h.at_mem hl
  have hcase := hstep.case.quiet_eq_paced (CaptureRun.positiveDelays hbefore)
  obtain ⟨rfl, rfl, -⟩ := hstep
  exact hcase

/-- The costs of a stretch, with four for each step that may be repeated at once.
Source: none: infrastructure -/
theorem sum_cost (p : Turn → Bool) (ls : List Turn) :
    (ls.map fun l => if p l then 4 else 0).sum = 4 * ls.countP p := by
  induction ls with
  | nil => rfl
  | cons l ls ih =>
      rw [List.map_cons, List.sum_cons, ih, List.countP_cons]
      split_ifs <;> omega

/-- **A stretch in which no step waits is short**, unless it has many steps that may be repeated at once.
Source: `capture_state_machine.cpp` `CaptureStateMachine::step` -/
theorem length_le_of_not_paced (hm : Resting m) (h : Run (Turn.Of rnd) m ls m')
    (hpaced : ∀ l ∈ ls, l.paced = false) : ls.length ≤ 4 * ls.countP Turn.unpaced + 3 := by
  have hlen := Run.length_le rank (fun l => if l.unpaced then 4 else 0) hm
    (fun hm hl => hm.keeps hl.case) ?_ h
  · have hrank : m.rank ≤ 3 := by
      unfold CaptureStateMachine.rank
      split <;> try omega
      split_ifs <;> omega
    rw [sum_cost] at hlen
    omega
  · intro v l w hv hl hstep
    have hpays := hstep.case.pays hv
    obtain ⟨rfl, rfl, -⟩ := hstep
    exact hpays (hpaced l hl)

/-- No hot loop in the runs of `R` with the default configuration: there is a bound `K` such that among
any `K` consecutive steps there is one that waits.
Source: `capture_state_machine.hpp` `CaptureStateMachine::StepOutcome`, `backoff.hpp` `Backoff` -/
def NoHotLoop (rnd : ℚ → ℚ) (R : List Turn → Prop) : Prop :=
  ∃ K, ∀ now ls m, CaptureRun rnd {} now ls m → R ls →
    ∀ bs, bs <:+: ls → bs.length = K → ∃ l ∈ bs, l.quiet = true

/-- **Exactly when there is no hot loop**: there is a bound on how many dequeue errors, losses of the
device in a dequeue and clock readings in the last millisecond before a deadline come without anything
to wait for in between.
Source: `capture_state_machine.cpp` `CaptureStateMachine::step` and the functions it calls -/
theorem hot_loop_iff (R : List Turn → Prop) :
    NoHotLoop rnd R ↔
      ∃ N, ∀ now ls m, CaptureRun rnd {} now ls m → R ls →
        ∀ bs, bs <:+: ls → N ≤ bs.countP Turn.unpaced → ∃ l ∈ bs, l.paced = true := by
  constructor
  · rintro ⟨K, hK⟩
    refine ⟨K, ?_⟩
    intro now ls m hrun hR bs hbs hcount
    have htake : bs.take K <:+: ls := (List.take_prefix K bs).isInfix.trans hbs
    have hlen : (bs.take K).length = K :=
      List.length_take_of_le (Nat.le_trans hcount List.countP_le_length)
    obtain ⟨l, hl, hquiet⟩ := hK now ls m hrun hR _ htake hlen
    refine ⟨l, List.mem_of_mem_take hl, ?_⟩
    rw [← CaptureRun.quiet_eq_paced hrun (htake.subset hl)]
    exact hquiet
  · rintro ⟨N, hN⟩
    refine ⟨4 * N + 4, ?_⟩
    intro now ls m hrun hR bs hbs hlen
    by_contra hno
    have hpaced : ∀ l ∈ bs, l.paced = false := by
      intro l hl
      rw [← CaptureRun.quiet_eq_paced hrun (hbs.subset hl)]
      by_contra hquiet
      exact hno ⟨l, hl, by simpa using hquiet⟩
    have hfew : bs.countP Turn.unpaced < N := by
      by_contra hmany
      obtain ⟨l, hl, hp⟩ := hN now ls m hrun hR bs hbs (Nat.not_lt.mp hmany)
      rw [hpaced l hl] at hp
      cases hp
    obtain ⟨as, cs, rfl⟩ := hbs
    obtain ⟨w, hw, -⟩ := run_append.mp hrun
    obtain ⟨v, hv, hstretch⟩ := run_append.mp hw
    have hshort := length_le_of_not_paced (CaptureRun.resting hv) hstretch hpaced
    omega

end pacing

/-! ## A device whose dequeues fail -/

section errors

/-- `n` dequeues that fail, from the machine `m`. Source: none: infrastructure -/
def errorTurns (m : CaptureStateMachine) : Nat → List Turn
  | 0 => []
  | n + 1 =>
      ⟨m, 200, [.dequeued 200 .error {}], {}, m.withError .dequeue⟩ ::
        errorTurns (m.withError .dequeue) n

/-- A streaming machine goes on with them. Source: none: infrastructure -/
theorem errorTurns_run {m : CaptureStateMachine} (hs : m.state = .streaming) (n : Nat) :
    ∃ m', Run (Turn.Of id) m (errorTurns m n) m' := by
  induction n generalizing m with
  | zero => exact ⟨m, .nil⟩
  | succ n ih =>
      obtain ⟨m', hrun⟩ := ih (m := m.withError .dequeue) hs
      exact ⟨m', run_cons.mpr ⟨_, Turn.of_case (.streamsError hs), hrun⟩⟩

/-- None of them waits. Source: none: infrastructure -/
theorem errorTurns_quiet (m : CaptureStateMachine) (n : Nat) :
    (errorTurns m n).length = n ∧ ∀ l ∈ errorTurns m n, l.quiet = false := by
  induction n generalizing m with
  | zero => exact ⟨rfl, by simp [errorTurns]⟩
  | succ n ih =>
      obtain ⟨hlen, hquiet⟩ := ih (m.withError .dequeue)
      refine ⟨by rw [errorTurns, List.length_cons, hlen], ?_⟩
      intro l hl
      rcases List.mem_cons.mp hl with rfl | hl
      · rfl
      · exact hquiet l hl

/-- **A hot loop.** A device whose dequeues fail makes the daemon spin: there is no bound.
Source: `capture_state_machine.cpp` `CaptureStateMachine::step_streaming` -/
theorem hot_loop : ¬ NoHotLoop id fun _ => True := by
  rintro ⟨K, hK⟩
  have hs : (coldStarted id {} 0 {}).state = .streaming := rfl
  obtain ⟨m, hrun⟩ := errorTurns_run hs K
  obtain ⟨hlen, hquiet⟩ := errorTurns_quiet (coldStarted id {} 0 {}) K
  have hwhole : CaptureRun id {} 0 (coldStart id {} 0 {} ++ errorTurns (coldStarted id {} 0 {}) K) m :=
    run_append.mpr ⟨_, coldStart_run id {} 0 {}, hrun⟩
  obtain ⟨l, hl, hq⟩ := hK 0 _ m hwhole trivial _ (List.suffix_append _ _).isInfix hlen
  rw [hquiet l hl] at hq
  cases hq

end errors

end Hamstercam
