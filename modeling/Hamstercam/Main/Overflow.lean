import Mathlib.Data.Rat.Floor
import Hamstercam.Capture.Backoffs
import Hamstercam.Capture.Checked
import Hamstercam.Main.Values

/-!
# Time arithmetic does not overflow

The daemon in 64-bit arithmetic: `step64` of `Capture/Checked.lean`, and here the other computations on
times and durations, each checked for overflow.

* `parseDurationMs64` — the conversion of a ceiling from seconds; `new64` — the conversion of the stall
  threshold from a `double`; `interruptibleSleep` — the countdown of a wait.
* `Rounding rnd` — what is used of the rounding of `double`: it is monotone, and integers up to `2 ^ 53`
  are `double`s. Exact arithmetic is such a rounding.
* `CheckedRun` — the runs of the daemon in 64-bit arithmetic, each wait of which is slept.
* `time_arithmetic_fits` — for all settings that `main` accepts, and all clock readings below `2 ^ 62`
  nanoseconds, nothing overflows, and the runs are those of exact arithmetic.
-/

namespace Hamstercam

open Interaction Checked

/-! ## The ceilings -/

/-- `std::chrono::seconds` as `std::chrono::milliseconds`. Source: `main.cpp` `parse_duration_ms` -/
def secondsToMillis64 (seconds : Int) : Option Millis := mul seconds 1000

/-- `parse_duration_ms`; no outer value if it overflows. Source: `main.cpp` `parse_duration_ms` -/
def parseDurationMs64 (s : List Byte) : Option (Option Millis) :=
  if 2 < s.length ∧ s.drop (s.length - 2) = msSuffix then
    some ((parseU32 (s.take (s.length - 2))).map fun v => v.toNat)
  else if 1 < s.length ∧ s.getLast? = some secondsSuffix then
    match parseU32 (s.take (s.length - 1)) with
    | none => some none
    | some v => (secondsToMillis64 v.toNat).map some
  else some none

/-- A number of seconds that a flag can say. Source: `main.cpp` `parse_duration_ms` -/
theorem fits_seconds (v : UInt32) : Millis.Settable v.toNat ∧ Millis.Settable (1000 * v.toNat) := by
  have hv := v.toNat_lt
  unfold Millis.Settable
  omega

/-- **The conversion of a ceiling does not overflow.** Source: `main.cpp` `parse_duration_ms` -/
theorem parseDurationMs64_eq (s : List Byte) : parseDurationMs64 s = some (parseDurationMs s) := by
  unfold parseDurationMs64 parseDurationMs
  split_ifs
  · rfl
  · cases parseU32 (s.take (s.length - 1)) with
    | none => rfl
    | some v =>
        have hfits : Fits64 (v.toNat * 1000) := by
          rw [Int.mul_comm]
          exact (fits_settable (fits_seconds v).2).2
        show (mul v.toNat 1000).map some = _
        rw [mul_of_fits hfits]
        rfl
  · rfl

/-- What a duration flag can say is within the range of the flags.
Source: `main.cpp` `parse_duration_ms` -/
theorem settable_of_parseDurationMs {s : List Byte} {d : Millis} (h : parseDurationMs s = some d) :
    Millis.Settable d := by
  obtain ⟨body, v, -, ⟨-, rfl⟩ | ⟨-, rfl⟩⟩ := parseDurationMs_eq_some.mp h
  · exact (fits_seconds v).1
  · exact (fits_seconds v).2

/-! ## The stall threshold -/

/-- What is used of the rounding of `double`: it keeps the order, and integers up to `2 ^ 53` are
`double`s. Source: none: infrastructure -/
structure Rounding (rnd : ℚ → ℚ) : Prop where
  mono : ∀ a b, a ≤ b → rnd a ≤ rnd b
  integer : ∀ n : Nat, n ≤ 9007199254740992 → rnd n = n

/-- Exact arithmetic. Source: none: infrastructure -/
theorem rounding_id : Rounding id := ⟨fun _ _ h => h, fun _ _ => rfl⟩

/-- A number up to an integer is rounded to one. Source: none: infrastructure -/
theorem Rounding.bounds {rnd : ℚ → ℚ} (h : Rounding rnd) {q : ℚ} {n : Nat} (hn : n ≤ 9007199254740992)
    (h₀ : 0 ≤ q) (h₁ : q ≤ n) : 0 ≤ rnd q ∧ rnd q ≤ n := by
  have hzero : rnd 0 = 0 := by simpa using h.integer 0 (by omega)
  constructor
  · rw [← hzero]
    exact h.mono 0 q h₀
  · rw [← h.integer n hn]
    exact h.mono q n h₁

/-- A number up to an integer is truncated to one.
Source: `capture_state_machine.cpp` `CaptureStateMachine::CaptureStateMachine` -/
theorem truncate_bounds {q : ℚ} {n : Nat} (h₀ : 0 ≤ q) (h₁ : q ≤ n) :
    0 ≤ CaptureStateMachine.truncate q ∧ CaptureStateMachine.truncate q ≤ n := by
  have hfloor : CaptureStateMachine.truncate q = ⌊q⌋ := by
    rw [CaptureStateMachine.truncate, Int.tdiv_eq_ediv_of_nonneg (Rat.num_nonneg.mpr h₀),
      Rat.floor_def']
  rw [hfloor]
  exact ⟨Int.floor_nonneg.mpr h₀, Int.floor_le_iff.mpr (by push_cast; linarith)⟩

/-- **The stall threshold is within the range of the flags**: at most `2 ^ 32 - 1` intervals of at most a
second. Source: `capture_state_machine.cpp` `CaptureStateMachine::CaptureStateMachine` -/
theorem settable_stallThreshold {rnd : ℚ → ℚ} (hrnd : Rounding rnd) (config : DaemonConfig) :
    Millis.Settable (CaptureStateMachine.stallThresholdOf rnd config) := by
  have hmultiple : (config.stallMultiple.toNat : ℚ) ≤ (4294967295 : Nat) := by
    have := config.stallMultiple.toNat_lt
    exact_mod_cast (by omega : config.stallMultiple.toNat ≤ 4294967295)
  have hinterval : ∀ interval : ℚ, 0 ≤ interval → interval ≤ 1 →
      Millis.Settable (CaptureStateMachine.truncate
        (rnd (rnd (interval * config.stallMultiple.toNat) * 1000))) := by
    intro interval h₀ h₁
    have hseconds := hrnd.bounds (q := interval * config.stallMultiple.toNat) (n := 4294967295)
      (by omega) (by positivity) (by nlinarith)
    have hmillis := hrnd.bounds (n := 4294967295000) (by omega)
      (mul_nonneg hseconds.1 (by norm_num : (0 : ℚ) ≤ 1000)) (by push_cast at hseconds ⊢; linarith)
    exact truncate_bounds hmillis.1 hmillis.2
  unfold CaptureStateMachine.stallThresholdOf
  dsimp only
  split_ifs with hfps
  · have hfps' : (1 : ℚ) ≤ config.expectedFps.toNat := by
      have hpos : 0 < config.expectedFps.toNat := hfps
      exact_mod_cast hpos
    have hbounds := hrnd.bounds (q := 1 / config.expectedFps.toNat) (n := 1) (by omega)
      (by positivity) (by simpa using inv_le_one_of_one_le₀ hfps')
    exact hinterval _ hbounds.1 (by simpa using hbounds.2)
  · exact hinterval 1 zero_le_one le_rfl

/-! ## The machine, from its constructor on -/

/-- The constructor; `now` is the clock reading.
Source: `capture_state_machine.cpp` `CaptureStateMachine::CaptureStateMachine` -/
def CaptureStateMachine.new64 (rnd : ℚ → ℚ) (config : DaemonConfig) (now : TimePoint) :
    Option CaptureStateMachine := do
  let stallThreshold ← check (stallThresholdOf rnd config)
  return { CaptureStateMachine.new rnd config now with stallThreshold := stallThreshold }

/-- The turn `l` is a step from `m` to `m'` that does not overflow.
Source: `capture_state_machine.cpp` `CaptureStateMachine::step` -/
structure Turn.Of64 (rnd : ℚ → ℚ) (m : CaptureStateMachine) (l : Turn) (m' : CaptureStateMachine) :
    Prop where
  pre : l.pre = m
  post : l.post = m'
  does : Does (CaptureStateMachine.step64 rnd l.pollTimeout).run m l.trace (some l.outcome) m'

/-- The machine constructed at clock reading `now` reaches `m` by the turns `ls` without an overflow.
Source: `main.cpp` `main` -/
def CheckedRun (rnd : ℚ → ℚ) (config : DaemonConfig) (now : TimePoint) (ls : List Turn)
    (m : CaptureStateMachine) : Prop :=
  ∃ m₀, CaptureStateMachine.new64 rnd config now = some m₀ ∧ Run (Turn.Of64 rnd) m₀ ls m

/-- The clock readings and the times of frames of a turn are in time.
Source: `clock.hpp`, `capture_device.hpp` `FrameDescriptor` -/
def Turn.InTime (l : Turn) : Prop := ∀ o ∈ l.trace, o.InTime

section runs

variable {rnd : ℚ → ℚ} {config : DaemonConfig} {now : TimePoint} {ls : List Turn} {l : Turn}
  {m m' : CaptureStateMachine} {t : Millis} {tr : List Observation}

/-- **The conversion of the stall threshold does not overflow.**
Source: `capture_state_machine.cpp` `CaptureStateMachine::CaptureStateMachine` -/
theorem new64_eq (hrnd : Rounding rnd) (config : DaemonConfig) (now : TimePoint) :
    CaptureStateMachine.new64 rnd config now = some (.new rnd config now) := by
  unfold CaptureStateMachine.new64
  rw [check_of_fits (fits_settable (settable_stallThreshold hrnd config)).2]
  rfl

/-- The members are in time after the constructor.
Source: `capture_state_machine.cpp` `CaptureStateMachine::CaptureStateMachine` -/
theorem timely_new (hrnd : Rounding rnd) (hconfig : config.Accepted) (hnow : InTime now) :
    (CaptureStateMachine.new rnd config now).Timely := by
  obtain ⟨hinitial, ⟨s, hreconnect⟩, ⟨s', hawaiting⟩⟩ := (DaemonConfig.accepted_iff _).mp hconfig
  have hinitial' : Millis.Settable config.reconnectInitialBackoff := by
    rw [hinitial]
    exact ⟨by decide, by decide⟩
  have hzero : InTime 0 := ⟨le_rfl, by decide⟩
  exact ⟨⟨hinitial', settable_of_parseDurationMs hreconnect, hinitial'⟩,
    ⟨hinitial', settable_of_parseDurationMs hawaiting, hinitial'⟩,
    settable_stallThreshold hrnd config, hnow.timely, hzero, hzero⟩

/-- A turn in time, from members in time, is a step in 64-bit arithmetic if it is a step.
Source: `capture_state_machine.cpp` `CaptureStateMachine::step` -/
theorem of64_iff (hm : m.Timely) (hl : l.InTime) : Turn.Of64 rnd m l m' ↔ Turn.Of rnd m l m' := by
  have hexact : Exact Observation.InTime (CaptureStateMachine.step64 rnd l.pollTimeout)
      (CaptureStateMachine.step rnd l.pollTimeout) m := hm.exact_step
  have hstep := hexact l.trace (some l.outcome) m' hl
  constructor
  · rintro ⟨hpre, hpost, hdoes⟩
    obtain ⟨out, hout, hdoes'⟩ := hstep.mp hdoes
    exact ⟨hpre, hpost, Option.some.inj hout ▸ hdoes'⟩
  · rintro ⟨hpre, hpost, hdoes⟩
    exact ⟨hpre, hpost, hstep.mpr ⟨_, rfl, hdoes⟩⟩

/-- **The members are in time wherever a run in time leads.**
Source: `capture_state_machine.cpp` `CaptureStateMachine::step` -/
theorem CaptureRun.timely (hrnd : Rounding rnd) (hconfig : config.Accepted) (hnow : InTime now)
    (h : CaptureRun rnd config now ls m) (hls : ∀ l ∈ ls, l.InTime) : m.Timely := by
  revert hls
  refine Run.history_invariant (fun ls m => (∀ l ∈ ls, l.InTime) → m.Timely) ?_ ?_ h
  · intro _
    exact timely_new hrnd hconfig hnow
  · intro ls m l m' hrun ih hl hls
    obtain ⟨hbefore, hlast⟩ := List.forall_mem_append.mp hls
    exact (ih hbefore).keeps (hlast l List.mem_cons_self) hl.case

/-- **The runs in 64-bit arithmetic are the runs**, as long as they are in time.
Source: `main.cpp` `main`, `capture_state_machine.cpp` -/
theorem checkedRun_iff (hrnd : Rounding rnd) (hconfig : config.Accepted) (hnow : InTime now)
    (hls : ∀ l ∈ ls, l.InTime) :
    CheckedRun rnd config now ls m ↔ CaptureRun rnd config now ls m := by
  unfold CheckedRun
  rw [new64_eq hrnd config now]
  simp only [Option.some.injEq, exists_eq_left']
  symm
  apply run_congr
  intro ks m l m' hks hrun
  have hin : ∀ k ∈ ks ++ [l], k.InTime := fun k hk => hls k (hks.subset hk)
  obtain ⟨hbefore, hlast⟩ := List.forall_mem_append.mp hin
  exact (of64_iff (CaptureRun.timely hrnd hconfig hnow hrun hbefore)
    (hlast l List.mem_cons_self)).symm

end runs

/-! ## The countdown -/

/-- The chunks that are slept until a wait of `remaining` is over or a look at the flag, the `k`-th or a
later one, finds that a stop is requested. Source: `main.cpp` `interruptible_sleep` -/
def interruptibleSleep (stopRequested : Nat → Bool) (k : Nat) (remaining : Int) : Option (List Int) :=
  if 0 < remaining ∧ stopRequested k = false then
    match hrest : sub remaining (min remaining 100) with
    | none => none
    | some rest => (interruptibleSleep stopRequested (k + 1) rest).map (min remaining 100 :: ·)
  else some []
termination_by remaining.toNat
decreasing_by
  have hdifference := eq_of_sub hrest
  omega

/-- **The countdown does not overflow**: what is slept is at most the wait, and all of it unless a stop is
requested. Source: `main.cpp` `interruptible_sleep` -/
theorem interruptibleSleep_fits (stopRequested : Nat → Bool) (k : Nat) {remaining : Int}
    (h₀ : 0 ≤ remaining) (h : Fits64 remaining) :
    ∃ chunks, interruptibleSleep stopRequested k remaining = some chunks ∧ chunks.sum ≤ remaining ∧
      ((∀ j, stopRequested j = false) → chunks.sum = remaining) := by
  fun_induction interruptibleSleep stopRequested k remaining with
  | case1 k remaining hgo hnone =>
      have hchunk : Fits64 (remaining - min remaining 100) := by
        unfold Fits64 at *
        omega
      rw [sub_of_fits hchunk] at hnone
      cases hnone
  | case2 k remaining hgo rest hrest ih =>
      have hdifference := eq_of_sub hrest
      have hrest₀ : 0 ≤ rest := by omega
      have hfits : Fits64 rest := by
        unfold Fits64 at *
        omega
      obtain ⟨chunks, hchunks, hle, hall⟩ := ih hrest₀ hfits
      refine ⟨_, by rw [hchunks]; rfl, ?_, ?_⟩
      · rw [List.sum_cons]
        omega
      · intro hnever
        have hsum := hall hnever
        rw [List.sum_cons]
        omega
  | case3 k remaining hstop =>
      refine ⟨[], rfl, h₀, ?_⟩
      intro hnever
      have hover : ¬ 0 < remaining := fun hpos => hstop ⟨hpos, hnever k⟩
      rw [List.sum_nil]
      omega

/-! ## The daemon -/

/-- The time arithmetic of a daemon with these settings, started at clock reading `now`, does not
overflow as long as the clock readings and the times of frames are in time.
Source: `main.cpp`, `capture_state_machine.cpp`, `backoff.hpp` -/
structure TimeFits (rnd : ℚ → ℚ) (config : DaemonConfig) (now : TimePoint) : Prop where
  /-- The conversion of a ceiling from seconds. -/
  ceilings : ∀ s, parseDurationMs64 s = some (parseDurationMs s)
  /-- The conversion of the stall threshold. -/
  constructed : CaptureStateMachine.new64 rnd config now = some (.new rnd config now)
  /-- No step of a run overflows. -/
  steps : ∀ ls m, CheckedRun rnd config now ls m → (∀ l ∈ ls, l.InTime) →
    ∀ t (tr : List Observation) result m', (∀ o ∈ tr, o.InTime) →
      Does (CaptureStateMachine.step64 rnd t).run m tr result m' → ∃ out, result = some out
  /-- No wait of a run overflows. -/
  sleeps : ∀ ls m, CheckedRun rnd config now ls m → (∀ l ∈ ls, l.InTime) →
    ∀ l ∈ ls, ∀ stopRequested,
      ∃ chunks, interruptibleSleep stopRequested 0 l.outcome.recommendedWait = some chunks
  /-- The runs are those of exact arithmetic. -/
  runs : ∀ ls m, (∀ l ∈ ls, l.InTime) →
    (CheckedRun rnd config now ls m ↔ CaptureRun rnd config now ls m)

/-- **Time arithmetic does not overflow**, for any settings that `main` accepts.
Source: `main.cpp` `main`, `parse_duration_ms`, `interruptible_sleep`, `capture_state_machine.cpp`,
`backoff.hpp` `Backoff` -/
theorem time_arithmetic_fits {rnd : ℚ → ℚ} {config : DaemonConfig} {now : TimePoint}
    (hrnd : Rounding rnd) (hconfig : config.Accepted) (hnow : InTime now) :
    TimeFits rnd config now where
  ceilings := parseDurationMs64_eq
  constructed := new64_eq hrnd config now
  steps ls m hrun hls t tr result m' htr hdoes := by
    have hrun' := (checkedRun_iff hrnd hconfig hnow hls).mp hrun
    have hm := CaptureRun.timely hrnd hconfig hnow hrun' hls
    obtain ⟨out, hout, -⟩ := (hm.exact_step tr result m' htr).mp hdoes
    exact ⟨out, hout⟩
  sleeps ls m hrun hls l hl stopRequested := by
    have hrun' := (checkedRun_iff hrnd hconfig hnow hls).mp hrun
    obtain ⟨before, m₁, m₂, hks, hbefore, hturn⟩ := hrun'.at_mem hl
    have hm := CaptureRun.timely hrnd hconfig hnow hbefore fun k hk =>
      hls k (hks.subset (List.mem_append_left _ hk))
    obtain ⟨hpos, hfits⟩ := hm.fits_wait (hls l hl) hturn.case
    obtain ⟨chunks, hchunks, -⟩ := interruptibleSleep_fits stopRequested 0 hpos hfits
    exact ⟨chunks, hchunks⟩
  runs _ _ hls := checkedRun_iff hrnd hconfig hnow hls

/-- The default settings, in exact arithmetic. Source: `daemon_config.hpp` `DaemonConfig` -/
theorem time_arithmetic_fits_default : TimeFits id {} 0 :=
  time_arithmetic_fits rounding_id accepted_default ⟨le_rfl, by decide⟩

end Hamstercam
