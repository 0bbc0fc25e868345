import Hamstercam.Capture.Accounting
import Hamstercam.Metrics.WholeSeconds

/-!
# The counters on the page of the daemon

* `CounterSeries` — the series of the page that only ever count: its name and labels, the member of the
  statistics behind it, and what one turn of the machine adds to it.
* `counterValue` — the number that a page shows for a series, as its reader finds it.
  `counterValue_metricsEntries` says that it is the member.
* `CaptureRun.series_eq` — in every run the member is the total of the turns, modulo `2 ^ 64`.
-/

namespace Hamstercam

open Decimal Interaction CaptureStateMachine
open Exposition (Sample Entry)

/-! ## The series -/

/-- The counters of the page. Source: `metrics.cpp` `render_metrics` -/
inductive CounterSeries
  | frames
  | bytes
  | errors (reason : ErrorReason)
  | reconnects
  | stalls
  deriving DecidableEq

namespace CounterSeries

/-- Source: `metrics.cpp` `render_metrics` -/
def name : CounterSeries → List Byte
  | frames => text "hamstercam_frames_received_total"
  | bytes => text "hamstercam_bytes_received_total"
  | errors _ => text "hamstercam_capture_errors_total"
  | reconnects => text "hamstercam_reconnects_total"
  | stalls => text "hamstercam_stalls_total"

/-- Source: `metrics.cpp` `render_metrics` -/
def labels : CounterSeries → List MetricLabel
  | frames | bytes => []
  | errors reason => [(text "reason", reason.toText)]
  | reconnects | stalls => []

/-- The member that is shown. Source: `metrics.cpp` `render_metrics` -/
def value (stats : CaptureStats) : CounterSeries → UInt64
  | frames => stats.framesReceived
  | bytes => stats.bytesReceived
  | errors reason => stats.errors reason
  | reconnects => stats.reconnects
  | stalls => stats.stalls

/-- What a turn adds. Source: `capture_state_machine.cpp` -/
def count : CounterSeries → Turn → Nat
  | frames => Turn.count Observation.isFrame
  | bytes => Turn.frameBytes
  | errors reason => fun l => l.errors reason
  | reconnects => Turn.count (Observation.isEvent .reconnecting)
  | stalls => Turn.count (Observation.isEvent .stallDetected)

/-- The page has a sample for it: there is none for the reason that only ends the list of reasons.
Source: `error_reason.hpp` `kErrorReasonCount` -/
def Shown (x : CounterSeries) : Prop := x ≠ errors .count

instance (x : CounterSeries) : Decidable x.Shown := inferInstanceAs (Decidable (_ ≠ _))

end CounterSeries

/-! ## Reading a counter -/

/-- Source: none: infrastructure -/
def valueFor (name : List Byte) (labels : List MetricLabel) : Entry → Option Nat
  | .sample s => if s.name = name ∧ s.labels = labels then denotes s.value else none
  | _ => none

/-- The number of the first sample with a name and labels. Source: none: infrastructure -/
def counterValue (name : List Byte) (labels : List MetricLabel) (entries : List Entry) : Option Nat :=
  entries.findSome? (valueFor name labels)

section reading

variable {name name' help type v : List Byte} {ls ls' : List MetricLabel} {before after : List Entry}

/-- Source: none: infrastructure -/
theorem counterValue_append : counterValue name ls (before ++ after) =
    (counterValue name ls before).or (counterValue name ls after) :=
  List.findSome?_append

/-- Samples of other names do not matter. Source: none: infrastructure -/
theorem counterValue_none (h : ∀ s, Entry.sample s ∈ before → s.name ≠ name) :
    counterValue name ls before = none := by
  rw [counterValue, List.findSome?_eq_none_iff]
  intro e he
  cases e with
  | sample s => exact if_neg fun hs => h s he hs.1
  | help n d => rfl
  | type n k => rfl

/-- Source: none: infrastructure -/
theorem counterValue_sample (s : Sample) (hlabels : s.labels = ls → s.name = name → (denotes s.value).isSome) :
    counterValue name ls (.sample s :: after) =
      if s.name = name ∧ s.labels = ls then denotes s.value else counterValue name ls after := by
  by_cases h : s.name = name ∧ s.labels = ls
  · obtain ⟨n, hn⟩ := Option.isSome_iff_exists.mp (hlabels h.2 h.1)
    simp [counterValue, valueFor, h, hn]
  · simp [counterValue, valueFor, h]

/-- Source: `metrics_primitives.cpp` `write_metric_header` -/
theorem counterValue_header :
    counterValue name ls (header name' help type ++ after) = counterValue name ls after := rfl

/-- Source: `metrics_primitives.cpp` `write_counter` -/
theorem counterValue_single (n : Nat) :
    counterValue name [] (single name help type (decimal n)) = some n := by
  rw [single, counterValue_header, counterValue_sample _ (fun _ _ => by simp [denotes_decimal]),
    if_pos ⟨rfl, rfl⟩, denotes_decimal]

/-- Source: `metrics_primitives.cpp` `write_counter`, `write_gauge` -/
theorem counterValue_other (h : name' ≠ name) :
    counterValue name ls (single name' help type v) = none := by
  apply counterValue_none
  intro s hs
  simp only [single, header, List.mem_append, List.mem_cons, List.not_mem_nil, or_false,
    reduceCtorEq, false_or, Entry.sample.injEq] at hs
  rw [hs]
  exact h

/-- Source: `metrics.cpp` `render_metrics` -/
theorem counterValue_info (h : name' ≠ name) :
    counterValue name ls (header name' help type ++ [.sample ⟨name', ls', v, none⟩]) = none := by
  apply counterValue_none
  intro s hs
  simp only [header, List.mem_append, List.mem_cons, List.not_mem_nil, or_false,
    reduceCtorEq, false_or, Entry.sample.injEq] at hs
  rw [hs]
  exact h

/-- Source: `metrics.cpp` `write_histogram` -/
theorem name_of_bucketSamples {α : Type} {format : α → List Byte} (buckets : List (α × UInt64))
    (cumulative : UInt64) {s : Sample}
    (h : Entry.sample s ∈ bucketSamples format name' cumulative buckets) :
    s.name = name' ++ text "_bucket" := by
  induction buckets generalizing cumulative with
  | nil => exact absurd h List.not_mem_nil
  | cons b buckets ih =>
      rw [bucketSamples, List.mem_cons] at h
      rcases h with h | h
      · rw [Entry.sample.inj h]
      · exact ih _ h

/-- Source: `metrics.cpp` `write_histogram` -/
theorem counterValue_histogram {α : Type} {format : α → List Byte} {hist : Histogram α}
    (h : ∀ suffix ∈ [text "_bucket", text "_sum", text "_count"], name' ++ suffix ≠ name) :
    counterValue name ls (histogramEntries format name' help hist) = none := by
  apply counterValue_none
  intro s hs
  simp only [histogramEntries, header, List.mem_append, List.mem_cons, List.not_mem_nil, or_false,
    reduceCtorEq, false_or, Entry.sample.injEq] at hs
  rcases hs with hs | rfl | rfl | rfl
  · rw [name_of_bucketSamples _ _ hs]
    exact h _ (by simp)
  · exact h _ (by simp)
  · exact h _ (by simp)
  · exact h _ (by simp)

/-- Source: `metrics.cpp` `render_metrics` -/
theorem counterValue_errorEntries_other (stats : CaptureStats)
    (h : text "hamstercam_capture_errors_total" ≠ name) :
    counterValue name ls (errorEntries stats) = none := by
  apply counterValue_none
  intro s hs
  rw [errorEntries, List.mem_append] at hs
  rcases hs with hs | hs
  · simp [header] at hs
  · obtain ⟨reason, -, heq⟩ := List.mem_map.mp hs
    rw [← Entry.sample.inj heq]
    exact h

/-- The text of a reason is its own. Source: `error_reason.hpp` `to_string` -/
theorem ErrorReason.toText_injective : Function.Injective ErrorReason.toText := by
  intro r r' h
  cases r <;> cases r' <;> first | rfl | exact absurd h (text_ne (by decide))

/-- Source: `metrics.cpp` `render_metrics` -/
theorem counterValue_errorEntries (stats : CaptureStats) {reason : ErrorReason} (h : reason ≠ .count) :
    counterValue (text "hamstercam_capture_errors_total") [(text "reason", reason.toText)]
      (errorEntries stats) = some (stats.errors reason).toNat := by
  have hmem : reason ∈ errorReasons := by
    cases reason <;> simp_all [errorReasons]
  rw [errorEntries, counterValue_header]
  generalize errorReasons = reasons at hmem
  induction reasons with
  | nil => exact absurd hmem List.not_mem_nil
  | cons r rs ih =>
      rw [List.map_cons, counterValue_sample _ (fun _ _ => by simp [denotes_decimal])]
      by_cases hr : r = reason
      · rw [if_pos ⟨rfl, by rw [hr]⟩, denotes_decimal, hr]
      · have hlabel : [(text "reason", r.toText)] ≠ [(text "reason", reason.toText)] := by
          intro heq
          simp only [List.cons.injEq, Prod.mk.injEq, true_and, and_true] at heq
          exact hr (ErrorReason.toText_injective heq)
        rw [if_neg (fun hboth => hlabel hboth.2)]
        exact ih ((List.mem_cons.mp hmem).resolve_left (Ne.symm hr))

end reading

/-! ## The page -/

/-- **What the page shows for a counter is the member behind it.**
Source: `metrics.cpp` `render_metrics` -/
theorem counterValue_metricsEntries (stats : CaptureStats) (build : BuildInfo) (uptimeSeconds : ℚ)
    (residentBytes : UInt64) {x : CounterSeries} (hx : x.Shown) :
    counterValue x.name x.labels (metricsEntries stats build uptimeSeconds residentBytes) =
      some (x.value stats).toNat := by
  unfold metricsEntries
  simp only [counterValue_append]
  cases x with
  | frames => rw [CounterSeries.name, CounterSeries.labels, counterValue_single]; rfl
  | bytes =>
      rw [CounterSeries.name, CounterSeries.labels, counterValue_other (text_ne (by decide)),
        counterValue_single]
      rfl
  | errors reason =>
      have hreason : reason ≠ .count := by
        rintro rfl
        exact hx rfl
      rw [CounterSeries.name, CounterSeries.labels, counterValue_errorEntries stats hreason,
        counterValue_histogram (by decide)]
      repeat rw [counterValue_other (text_ne (by decide))]
      simp only [Option.none_or, Option.some_or]
      rfl
  | reconnects =>
      rw [CounterSeries.name, CounterSeries.labels, counterValue_single,
        counterValue_histogram (by decide), counterValue_errorEntries_other _ (text_ne (by decide))]
      repeat rw [counterValue_other (text_ne (by decide))]
      simp only [Option.none_or, Option.some_or]
      rfl
  | stalls =>
      rw [CounterSeries.name, CounterSeries.labels, counterValue_single,
        counterValue_histogram (by decide), counterValue_errorEntries_other _ (text_ne (by decide))]
      repeat rw [counterValue_other (text_ne (by decide))]
      simp only [Option.none_or, Option.some_or]
      rfl

/-! ## The run -/

section run

variable {rnd : ℚ → ℚ} {config : DaemonConfig} {now : TimePoint} {ls : List Turn}
  {m : CaptureStateMachine}

/-- **Every counter is the total of the turns.** Source: `capture_state_machine.cpp`, `stats.hpp` -/
theorem CaptureRun.series_eq (h : CaptureRun rnd config now ls m) (x : CounterSeries) :
    x.value m.stats = UInt64.ofNat (total x.count ls) := by
  cases x with
  | frames =>
      exact CaptureRun.counter_eq (fun m => m.stats.framesReceived) rfl
        (fun _ hcase => hcase.adds_frames) h
  | bytes =>
      exact CaptureRun.counter_eq (fun m => m.stats.bytesReceived) rfl
        (fun _ hcase => hcase.adds_bytes) h
  | errors reason =>
      exact CaptureRun.counter_eq (fun m => m.stats.errors reason) rfl
        (fun hm hcase => hcase.adds_errors hm reason) h
  | reconnects =>
      exact CaptureRun.counter_eq (fun m => m.stats.reconnects) rfl
        (fun _ hcase => hcase.adds_reconnects) h
  | stalls =>
      exact CaptureRun.counter_eq (fun m => m.stats.stalls) rfl
        (fun _ hcase => hcase.adds_stalls) h

end run

end Hamstercam
