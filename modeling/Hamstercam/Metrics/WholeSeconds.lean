import Hamstercam.Lib.NumberText
import Hamstercam.Metrics.Pages

/-!
# Whole seconds on the page of the daemon

The uptime and the sum of the frame intervals are printed with `%g`, to six significant digits.

* `Scrape.printed_eq` — which text a page shows for the two series.
* `scraped_seconds` — what a reader of the page makes of it.
* `whole_seconds_iff` — which whole numbers the text denotes, and which numbers are printed alike.
-/

namespace Hamstercam

open Decimal GeneralFormat NumberText
open Exposition (Sample Entry Clean page)

/-! ## The series -/

/-- The series of the page of the daemon whose values are seconds in a `double`.
Source: `metrics.cpp` `render_metrics`, `write_histogram` -/
inductive SecondsSeries where
  | uptime
  | intervalSum
  deriving DecidableEq

/-- Source: `metrics.cpp` `render_metrics`, `write_histogram` -/
def SecondsSeries.name : SecondsSeries → List Byte
  | .uptime => text "hamstercam_uptime_seconds"
  | .intervalSum => text "hamstercam_frame_interval_seconds_sum"

/-- What a page is rendered from. Source: `metrics.hpp` `render_metrics` -/
structure Scrape where
  stats : CaptureStats
  build : BuildInfo
  uptimeSeconds : ℚ
  residentBytes : UInt64

/-- Source: `metrics.cpp` `render_metrics` -/
def Scrape.body (s : Scrape) : List Byte :=
  renderMetrics s.stats s.build s.uptimeSeconds s.residentBytes

/-- What the page is meant to say. Source: `metrics.cpp` `render_metrics` -/
def Scrape.entries (s : Scrape) : List Entry :=
  metricsEntries s.stats s.build s.uptimeSeconds s.residentBytes

/-- The value of a series. Source: `metrics.cpp` `render_metrics`, `write_histogram` -/
def Scrape.seconds (s : Scrape) : SecondsSeries → ℚ
  | .uptime => s.uptimeSeconds
  | .intervalSum => s.stats.frameIntervalSeconds.sum

/-! ## The samples of a page -/

/-- Source: none: infrastructure -/
def valueOf (name : List Byte) : Entry → Option (List Byte)
  | .sample s => if s.name = name then some s.value else none
  | _ => none

/-- The text of the first sample of a name. Source: none: infrastructure -/
def sampleValue (name : List Byte) (entries : List Entry) : Option (List Byte) :=
  entries.findSome? (valueOf name)

/-- The text that the page shows for a series. Source: `metrics.cpp` `render_metrics` -/
def Scrape.printed (s : Scrape) (x : SecondsSeries) : Option (List Byte) := sampleValue x.name s.entries

section samples

variable {α : Type} {format : α → List Byte} {name name' help type value : List Byte}
  {before after : List Entry} {hist : Histogram α}

/-- Source: none: infrastructure -/
theorem sampleValue_append : sampleValue name (before ++ after) =
    (sampleValue name before).or (sampleValue name after) :=
  List.findSome?_append

/-- Source: none: infrastructure -/
theorem sampleValue_sample (s : Sample) : sampleValue name (.sample s :: after) =
    if s.name = name then some s.value else sampleValue name after := by
  by_cases h : s.name = name <;> simp [sampleValue, valueOf, h]

/-- Source: `metrics_primitives.cpp` `write_metric_header` -/
theorem sampleValue_header : sampleValue name (header name' help type ++ after) = sampleValue name after :=
  rfl

/-- A metric with one sample. Source: `metrics_primitives.cpp` `write_metric_sample` -/
theorem sampleValue_metric (labels : List MetricLabel) :
    sampleValue name (header name' help type ++ [.sample ⟨name', labels, value, none⟩]) =
      if name' = name then some value else none := by
  rw [sampleValue_header, sampleValue_sample]
  rfl

/-- Source: `metrics_primitives.cpp` `write_counter`, `write_gauge` -/
theorem sampleValue_single (h : name' ≠ name) : sampleValue name (single name' help type value) = none := by
  rw [single, sampleValue_metric, if_neg h]

/-- Source: `metrics.cpp` `write_histogram` -/
theorem sampleValue_bucketSamples (h : name' ++ text "_bucket" ≠ name) (buckets : List (α × UInt64))
    (cumulative : UInt64) : sampleValue name (bucketSamples format name' cumulative buckets) = none := by
  induction buckets generalizing cumulative with
  | nil => rfl
  | cons b buckets ih => rw [bucketSamples, sampleValue_sample, if_neg h, ih]

/-- Source: `metrics.cpp` `write_histogram` -/
theorem sampleValue_histogram (h : name' ++ text "_bucket" ≠ name) :
    sampleValue name (histogramEntries format name' help hist) =
      if name' ++ text "_sum" = name then some (format hist.sum)
      else if name' ++ text "_count" = name then some (decimal hist.total.toNat)
      else none := by
  rw [histogramEntries, List.append_assoc, sampleValue_header, sampleValue_append,
    sampleValue_bucketSamples h, Option.none_or, sampleValue_sample, if_neg h, sampleValue_sample,
    sampleValue_sample]
  rfl

/-- Source: `metrics.cpp` `render_metrics` -/
theorem sampleValue_errorEntries (stats : CaptureStats)
    (h : text "hamstercam_capture_errors_total" ≠ name) :
    sampleValue name (errorEntries stats) = none := by
  rw [errorEntries, sampleValue_header]
  induction errorReasons with
  | nil => rfl
  | cons reason reasons ih => rw [List.map_cons, sampleValue_sample, if_neg h, ih]

end samples

/-- **What the page shows is the formatted value.**
Source: `metrics.cpp` `render_metrics`, `write_histogram` -/
theorem Scrape.printed_eq (s : Scrape) (x : SecondsSeries) :
    s.printed x = some (formatMetricDouble (s.seconds x)) := by
  cases x with
  | uptime =>
    have hstream : sampleValue (text "hamstercam_uptime_seconds")
        (s.stats.streamInfo.elim [] streamInfoEntries) = none := by
      cases s.stats.streamInfo with
      | none => rfl
      | some format =>
          rw [Option.elim_some, streamInfoEntries, sampleValue_metric, if_neg (text_ne (by decide))]
    have hbuild : sampleValue (text "hamstercam_uptime_seconds") (buildInfoEntries s.build) = none := by
      rw [buildInfoEntries, sampleValue_metric, if_neg (text_ne (by decide))]
    have hhistogram : sampleValue (text "hamstercam_uptime_seconds")
        (histogramEntries formatMetricDouble (text "hamstercam_frame_interval_seconds")
          (text "Observed inter-frame gap.") s.stats.frameIntervalSeconds) = none := by
      rw [sampleValue_histogram (by decide), if_neg (by decide), if_neg (by decide)]
    unfold printed entries metricsEntries SecondsSeries.name
    simp only [sampleValue_append, hstream, hbuild, hhistogram]
    rw [sampleValue_errorEntries _ (text_ne (by decide))]
    repeat rw [sampleValue_single (text_ne (by decide))]
    rw [single, sampleValue_metric, if_pos rfl]
    rfl
  | intervalSum =>
    have hhistogram : sampleValue (text "hamstercam_frame_interval_seconds_sum")
        (histogramEntries formatMetricDouble (text "hamstercam_frame_interval_seconds")
          (text "Observed inter-frame gap.") s.stats.frameIntervalSeconds) =
        some (formatMetricDouble s.stats.frameIntervalSeconds.sum) := by
      rw [sampleValue_histogram (by decide), if_pos (by decide)]
    unfold printed entries metricsEntries SecondsSeries.name
    simp only [sampleValue_append, hhistogram]
    repeat rw [sampleValue_single (text_ne (by decide))]
    simp only [Option.none_or, Option.some_or]
    rfl

/-! ## What the page keeps -/

/-- **What a reader of the page makes of it**: the value to six significant digits.
Source: `metrics.cpp` `render_metrics`, `metrics_primitives.cpp` `format_metric_double` -/
theorem scraped_seconds (s : Scrape) (x : SecondsSeries)
    (hformat : ∀ format, s.stats.streamInfo = some format → Clean format.pixelFormatString)
    (hversion : Clean s.build.version) (hsha : Clean s.build.gitSha) :
    ((page s.body).bind fun entries => (sampleValue x.name entries).bind number) =
      some (rounded 6 (s.seconds x)) := by
  have hread : page s.body = some s.entries := by
    rw [Scrape.body, renderMetrics_eq]
    apply (Exposition.page_plain (isPlain_metricsEntries _ _ _ _)).mpr
    exact (readable_metricsEntries_iff _ _ _ _).mpr ⟨hformat, hversion, hsha⟩
  have hshown : sampleValue x.name s.entries = some (formatMetricDouble (s.seconds x)) :=
    s.printed_eq x
  rw [hread, Option.bind_some, hshown, Option.bind_some]
  exact number_general (by decide) (s.seconds x)

/-- Every value is that of a scrape: for the sum, after an interval of that length.
Source: `metrics.cpp` `render_metrics`, `write_histogram` -/
theorem exists_scrape (x : SecondsSeries) (v : ℚ) : ∃ s : Scrape, s.seconds x = v := by
  cases x with
  | uptime => exact ⟨⟨CaptureStats.new id, ⟨[], []⟩, v, 0⟩, rfl⟩
  | intervalSum =>
    exact ⟨⟨(CaptureStats.new id).recordFrame id 0 0 (some v), ⟨[], []⟩, 0, 0⟩, zero_add v⟩

/-- Two scrapes show the same text if and only if the values are the same to six significant digits.
Source: `metrics_primitives.cpp` `format_metric_double` -/
theorem printed_eq_iff {x : SecondsSeries} {s s' : Scrape} {n m : Nat} (hn : s.seconds x = n)
    (hm : s'.seconds x = m) : s.printed x = s'.printed x ↔ toPrecision 6 n = toPrecision 6 m := by
  rw [s.printed_eq, s'.printed_eq, hn, hm, Option.some_inj, formatMetricDouble, formatMetricDouble,
    general_eq_iff (by decide), rounded_natCast, rounded_natCast, Nat.cast_inj]

/-- What the text of a whole number denotes.
Source: `metrics_primitives.cpp` `format_metric_double` -/
theorem number_formatMetricDouble (n : Nat) :
    number (formatMetricDouble n) = some (toPrecision 6 n : ℚ) := by
  rw [formatMetricDouble, number_general (by decide), rounded_natCast]

/-- **Which whole seconds are kept.** The text denotes the value if and only if that is a number of at
most six digits with zeros after them; the texts of two scrapes are the same if and only if the values are
when rounded to six significant digits; and a value shares its text with no other one if and only if it
is below `10 ^ 6`.
Source: `metrics_primitives.cpp` `format_metric_double`, `metrics.cpp` `write_histogram`,
`render_metrics` -/
theorem whole_seconds_iff (x : SecondsSeries) {s s' : Scrape} {n m : Nat} (hn : s.seconds x = n)
    (hm : s'.seconds x = m) :
    (s.printed x = some (formatMetricDouble n) ∧
      (number (formatMetricDouble n) = some (n : ℚ) ↔ ∃ k < 10 ^ 6, ∃ j, n = k * 10 ^ j)) ∧
    (s.printed x = s'.printed x ↔ toPrecision 6 n = toPrecision 6 m) ∧
    (n < 2 ^ 53 →
      ((∀ (t : Scrape) (k : Nat), k < 2 ^ 53 → t.seconds x = k → t.printed x = s.printed x → k = n) ↔
        n < 10 ^ 6)) := by
  refine ⟨⟨hn ▸ s.printed_eq x, ?_⟩, printed_eq_iff hn hm, ?_⟩
  · rw [number_formatMetricDouble, Option.some_inj, Nat.cast_inj]
    exact toPrecision_eq_self_iff
  · intro hbound
    constructor
    · intro happart
      by_contra hlong
      have hshares : ∀ k < 2 ^ 53, toPrecision 6 k = toPrecision 6 n → k = n := by
        intro k hk hsame
        obtain ⟨t, ht⟩ := exists_scrape x k
        exact happart t k hk ht ((printed_eq_iff ht hn).mpr hsame)
      obtain ⟨k, hk, hsame⟩ := exists_neighbour (by decide) (not_lt.mp hlong)
      by_cases hlast : k < 2 ^ 53
      · have heq := hshares k hlast hsame
        omega
      · -- the last value below the bound is not told from the one before it
        obtain rfl : n = 2 ^ 53 - 1 := by omega
        exact absurd (hshares (2 ^ 53 - 2) (by decide) (by decide +kernel)) (by decide)
    · intro hshort t k _ ht hsame
      exact eq_of_toPrecision_eq (by decide) hshort ((printed_eq_iff ht hn).mp hsame)

/-- The last second that shows, with the one after it. Source: `metrics.cpp` `render_metrics` -/
theorem whole_seconds_kept :
    let s : Scrape := ⟨CaptureStats.new id, ⟨text "1.0.0", text "deadbee"⟩, 999999, 0⟩
    let s' : Scrape := ⟨CaptureStats.new id, ⟨text "1.0.0", text "deadbee"⟩, 1000000, 0⟩
    s.printed .uptime ≠ s'.printed .uptime := by
  intro s s' hsame
  have hkept := @whole_seconds_iff .uptime s s' 999999 1000000 rfl rfl
  exact absurd (hkept.2.1.mp hsame) (by decide +kernel)

/-- The sum of a histogram shows as its text only. Source: `metrics.cpp` `write_histogram` -/
theorem writeHistogram_congr {α : Type} {format : α → List Byte} {hist hist' : Histogram α}
    (name help : List Byte) (hbounds : hist.bounds = hist'.bounds) (hcounts : hist.counts = hist'.counts)
    (htotal : hist.total = hist'.total) (hsum : format hist.sum = format hist'.sum) :
    writeHistogram format name help hist = writeHistogram format name help hist' := by
  obtain ⟨bounds, counts, sum, total, hlength⟩ := hist
  obtain ⟨bounds', counts', sum', total', hlength'⟩ := hist'
  obtain rfl : bounds = bounds' := hbounds
  obtain rfl : counts = counts' := hcounts
  obtain rfl : total = total' := htotal
  have htext : format sum = format sum' := hsum
  rw [writeHistogram, writeHistogram, htext]

/-- After eleven and a half days a second makes no difference: neither to the uptime, nor to the sum of
the intervals. Source: `metrics_primitives.cpp` `format_metric_double`, `metrics.cpp` `write_histogram` -/
theorem whole_second_lost :
    let build : BuildInfo := ⟨text "1.0.0", text "deadbee"⟩
    let stats := fun v => (CaptureStats.new id).recordFrame id 1 0 (some v)
    formatMetricDouble 1000001 = text "1e+06" ∧ number (formatMetricDouble 1000001) ≠ some 1000001 ∧
      renderMetrics (stats 0) build 1000000 0 = renderMetrics (stats 0) build 1000001 0 ∧
      (stats 1000000).frameIntervalSeconds.sum = 1000000 ∧
      (stats 1000001).frameIntervalSeconds.sum = 1000001 ∧
      renderMetrics (stats 1000000) build 0 0 = renderMetrics (stats 1000001) build 0 0 := by
  intro build stats
  have hsame : formatMetricDouble 1000000 = formatMetricDouble 1000001 := by decide +kernel
  have hrounded : toPrecision 6 1000001 = 1000000 := by decide +kernel
  have hnumber := number_formatMetricDouble 1000001
  rw [hrounded, Nat.cast_ofNat, Nat.cast_ofNat] at hnumber
  refine ⟨by decide +kernel, by simp [hnumber], ?_, by decide +kernel, by decide +kernel, ?_⟩
  · rw [renderMetrics, renderMetrics, hsame]
  · have hhist := @writeHistogram_congr ℚ formatMetricDouble (stats 1000000).frameIntervalSeconds
      (stats 1000001).frameIntervalSeconds (text "hamstercam_frame_interval_seconds")
      (text "Observed inter-frame gap.") rfl (by decide +kernel) rfl (by decide +kernel)
    rw [renderMetrics, renderMetrics, hhist]
    rfl

end Hamstercam
