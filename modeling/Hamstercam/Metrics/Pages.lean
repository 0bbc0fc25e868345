import Hamstercam.Metrics.Render

/-!
# The metrics pages, read back

What becomes of the pages at a reader of the exposition format.

* `histogramEntries`, `metricsEntries`, `exporterEntries` — what the pages are meant to say. The texts
  are these entries, written as they stand (`writeHistogram_eq`, `renderMetrics_eq`).
* `samples_read_back_iff` — a sample reads back if and only if no label value needs an escape, and so
  does the page of the daemon: of its labels, the pixel format comes from the driver.
* `page_renderExporterMetrics` — the page of the exporter has no labels and always reads back.
-/

namespace Hamstercam

open Decimal GeneralFormat
open Exposition (Sample Entry Clean IsName isNameChar isLabelChar isValueChar page)

/-! ## The histogram -/

section histogram

variable {α : Type} (format : α → List Byte) (name help : List Byte)

/-- The samples of the buckets below `+Inf`, the counts added up.
Source: `histogram.hpp` `Histogram` (comment) -/
def bucketSamples : UInt64 → List (α × UInt64) → List Entry
  | _, [] => []
  | cumulative, (bound, count) :: rest =>
      .sample ⟨name ++ text "_bucket", [(text "le", format bound)],
          decimal (cumulative + count).toNat, none⟩ ::
        bucketSamples (cumulative + count) rest

/-- All counts together. Source: `histogram.hpp` `Histogram` (comment) -/
def bucketTotal (buckets : List (α × UInt64)) (cumulative : UInt64) : UInt64 :=
  buckets.foldl (fun sum b => sum + b.2) cumulative

/-- Source: `metrics.cpp` `write_histogram` -/
def histogramEntries (hist : Histogram α) : List Entry :=
  header name help (text "histogram") ++ bucketSamples format name 0 (hist.bounds.zip hist.counts) ++
    [.sample ⟨name ++ text "_bucket", [(text "le", text "+Inf")],
        decimal (bucketTotal (hist.bounds.zip hist.counts) 0 +
          hist.counts.getLast hist.counts_ne_nil).toNat, none⟩,
      .sample ⟨name ++ text "_sum", [], format hist.sum, none⟩,
      .sample ⟨name ++ text "_count", [], decimal hist.total.toNat, none⟩]

/-- Source: `metrics.cpp` `write_histogram` -/
theorem writeBuckets_eq (buckets : List (α × UInt64)) (cumulative : UInt64) :
    writeBuckets format name cumulative buckets =
      ((bucketSamples format name cumulative buckets).flatMap Entry.plain,
        bucketTotal buckets cumulative) := by
  have hopen : text "_bucket\x7ble=\"" = text "_bucket" ++ 123 :: (text "le" ++ [61, 34]) := rfl
  have hclose : text "\"\x7d " = [34, 125, 32] := rfl
  induction buckets generalizing cumulative with
  | nil => rfl
  | cons b buckets ih =>
      obtain ⟨bound, count⟩ := b
      rw [writeBuckets, ih]
      simp [bucketSamples, bucketTotal, Entry.plain, Sample.plain, Exposition.plainLabels,
        Exposition.plainLabel, hopen, hclose]

/-- Source: `metrics.cpp` `write_histogram` -/
theorem writeHistogram_eq (hist : Histogram α) : writeHistogram format name help hist =
    (histogramEntries format name help hist).flatMap Entry.plain := by
  have hkind : text " histogram\n" = 32 :: (text "histogram" ++ [10]) := rfl
  have hinf : text "_bucket\x7ble=\"+Inf\"\x7d " =
      text "_bucket" ++ 123 :: (text "le" ++ 61 :: 34 :: (text "+Inf" ++ [34, 125, 32])) := rfl
  have hsum : text "_sum " = text "_sum" ++ [32] := rfl
  have hcount : text "_count " = text "_count" ++ [32] := rfl
  rw [writeHistogram, writeBuckets_eq]
  simp [histogramEntries, header, Entry.plain, Sample.plain, Exposition.plainLabels,
    Exposition.plainLabel, hkind, hinf, hsum, hcount]

variable {format name help}

/-- Source: `metrics.cpp` `write_histogram` -/
theorem bucketSamples_spec (hname : IsName isNameChar name) (hformat : ∀ v, IsNumberText (format v))
    (buckets : List (α × UInt64)) (cumulative : UInt64) :
    ∀ e ∈ bucketSamples format name cumulative buckets, e.IsPlain ∧ e.Readable := by
  have hbucket : IsName isNameChar (name ++ text "_bucket") := hname.append (by decide)
  induction buckets generalizing cumulative with
  | nil => exact fun e he => absurd he List.not_mem_nil
  | cons b buckets ih =>
      have hvalue := isNumberText_decimal (cumulative + b.2).toNat
      refine List.forall_mem_cons.mpr ⟨⟨?_, ?_⟩, ih (cumulative + b.2)⟩
      · have hle : IsName isLabelChar (text "le") := by decide
        exact isPlain_sample hbucket (List.forall_mem_singleton.mpr hle) hvalue
      · apply (readable_sample_iff hvalue).mpr
        exact List.forall_mem_singleton.mpr (clean_of_isNumberText (hformat b.1))

/-- The lines of a histogram are well formed, and none needs an escape.
Source: `metrics.cpp` `write_histogram` -/
theorem histogramEntries_spec (h : IsHeader name help (text "histogram"))
    (hformat : ∀ v, IsNumberText (format v)) (hist : Histogram α) :
    ∀ e ∈ histogramEntries format name help hist, e.IsPlain ∧ e.Readable := by
  have hbucket : IsName isNameChar (name ++ text "_bucket") := h.1.append (by decide)
  have hsum : IsName isNameChar (name ++ text "_sum") := h.1.append (by decide)
  have hcount : IsName isNameChar (name ++ text "_count") := h.1.append (by decide)
  have hno : ∀ l ∈ ([] : List MetricLabel), IsName isLabelChar l.1 :=
    fun l hl => absurd hl List.not_mem_nil
  have hnone : ∀ l ∈ ([] : List MetricLabel), Clean l.2 := fun l hl => absurd hl List.not_mem_nil
  have htotal := isNumberText_decimal (bucketTotal (hist.bounds.zip hist.counts) 0 +
    hist.counts.getLast hist.counts_ne_nil).toNat
  unfold histogramEntries
  refine List.forall_mem_append.mpr ⟨List.forall_mem_append.mpr ⟨?_, ?_⟩, ?_⟩
  · exact fun e he => ⟨isPlain_header h e he, readable_header name help _ e he⟩
  · exact bucketSamples_spec h.1 hformat _ 0
  · intro e he
    rcases List.mem_cons.mp he with rfl | he
    · refine ⟨isPlain_sample hbucket (List.forall_mem_singleton.mpr (by decide)) htotal, ?_⟩
      exact (readable_sample_iff htotal).mpr (List.forall_mem_singleton.mpr (by decide))
    · rcases List.mem_pair.mp he with rfl | rfl
      · exact ⟨isPlain_sample hsum hno (hformat _), (readable_sample_iff (hformat _)).mpr hnone⟩
      · have htotal := isNumberText_decimal hist.total.toNat
        exact ⟨isPlain_sample hcount hno htotal, (readable_sample_iff htotal).mpr hnone⟩

end histogram

/-! ## The page of the daemon -/

/-- Source: `metrics.cpp` `render_metrics` -/
def errorEntries (stats : CaptureStats) : List Entry :=
  header (text "hamstercam_capture_errors_total") (text "Capture errors by reason.") (text "counter") ++
    errorReasons.map fun reason => .sample ⟨text "hamstercam_capture_errors_total",
      [(text "reason", reason.toText)], decimal (stats.errors reason).toNat, none⟩

/-- Source: `metrics.cpp` `render_metrics` -/
def streamInfoEntries (format : StreamFormat) : List Entry :=
  header (text "hamstercam_stream_info") (text "Observed stream format.") (text "gauge") ++
    [.sample ⟨text "hamstercam_stream_info",
      [(text "width", decimal format.width.toNat), (text "height", decimal format.height.toNat),
        (text "pixel_format", format.pixelFormatString)], text "1", none⟩]

/-- Source: `metrics.cpp` `render_metrics` -/
def buildInfoEntries (build : BuildInfo) : List Entry :=
  header (text "hamstercam_build_info") (text "Build version and git SHA.") (text "gauge") ++
    [.sample ⟨text "hamstercam_build_info",
      [(text "version", build.version), (text "git_sha", build.gitSha)], text "1", none⟩]

/-- What the page of the daemon is meant to say.
Source: `metrics.cpp` `render_metrics` -/
def metricsEntries (stats : CaptureStats) (build : BuildInfo) (uptimeSeconds : ℚ)
    (residentBytes : UInt64) : List Entry :=
  single (text "hamstercam_frames_received_total") (text "Frames dequeued.") (text "counter")
    (decimal stats.framesReceived.toNat) ++
  single (text "hamstercam_bytes_received_total") (text "Payload bytes across received frames.")
    (text "counter") (decimal stats.bytesReceived.toNat) ++
  histogramEntries formatMetricDouble (text "hamstercam_frame_interval_seconds")
    (text "Observed inter-frame gap.") stats.frameIntervalSeconds ++
  single (text "hamstercam_capture_state") (text "Capture state machine state.") (text "gauge")
    (signedDecimal stats.captureState) ++
  errorEntries stats ++
  single (text "hamstercam_reconnects_total") (text "Successful reconnections.") (text "counter")
    (decimal stats.reconnects.toNat) ++
  single (text "hamstercam_stalls_total") (text "Stall events entered.") (text "counter")
    (decimal stats.stalls.toNat) ++
  single (text "hamstercam_last_frame_unixtime_seconds") (text "Wall-clock time of the last frame.")
    (text "gauge") (signedDecimal stats.lastFrameUnixtime) ++
  stats.streamInfo.elim [] streamInfoEntries ++
  buildInfoEntries build ++
  single (text "hamstercam_process_resident_bytes") (text "Resident memory, for the flatness check.")
    (text "gauge") (decimal residentBytes.toNat) ++
  single (text "hamstercam_uptime_seconds") (text "Seconds since process start.") (text "gauge")
    (formatMetricDouble uptimeSeconds)

section daemon

variable (stats : CaptureStats) (build : BuildInfo) (uptimeSeconds : ℚ) (residentBytes : UInt64)

/-- **The page is what it is meant to say, written as it stands.**
Source: `metrics.cpp` `render_metrics` -/
theorem renderMetrics_eq : renderMetrics stats build uptimeSeconds residentBytes =
    (metricsEntries stats build uptimeSeconds residentBytes).flatMap Entry.plain := by
  have hsample : ∀ s : Sample, [Entry.sample s].flatMap Entry.plain = s.plain :=
    fun s => List.append_nil _
  unfold renderMetrics metricsEntries errorEntries buildInfoEntries
  simp only [writeCounter_eq, writeGauge_eq, writeHistogram_eq, writeMetricHeader_eq,
    writeMetricSample_eq, List.flatMap_append, List.flatMap_map, hsample, List.append_assoc]
  cases stats.streamInfo with
  | none => rfl
  | some format => simp only [Option.elim_some, streamInfoEntries, List.flatMap_append, hsample]; rfl

/-- Source: `error_reason.hpp` `to_string` -/
theorem clean_toText (reason : ErrorReason) : Clean reason.toText := by
  cases reason <;> decide

/-- Source: `metrics.cpp` `render_metrics` -/
theorem errorEntries_spec : ∀ e ∈ errorEntries stats, e.IsPlain ∧ e.Readable := by
  have hheader : IsHeader (text "hamstercam_capture_errors_total") (text "Capture errors by reason.")
      (text "counter") := isHeader_text (by decide)
  refine List.forall_mem_append.mpr ⟨?_, ?_⟩
  · exact fun e he => ⟨isPlain_header hheader e he, readable_header _ _ _ e he⟩
  · refine List.forall_mem_map.mpr ?_
    intro reason _
    have hlabel : IsName isLabelChar (text "reason") := by decide
    have hvalue := isNumberText_decimal (stats.errors reason).toNat
    refine ⟨isPlain_sample hheader.1 (List.forall_mem_singleton.mpr hlabel) hvalue, ?_⟩
    exact (readable_sample_iff hvalue).mpr (List.forall_mem_singleton.mpr (clean_toText reason))

/-- An info metric: the header, and a sample `1` whose labels carry the information.
Source: `metrics.cpp` `render_metrics` -/
theorem isPlain_info {name help : List Byte} {labels : List MetricLabel}
    (h : IsHeader name help (text "gauge")) (hlabels : ∀ l ∈ labels, IsName isLabelChar l.1) :
    ∀ e ∈ header name help (text "gauge") ++ [.sample ⟨name, labels, text "1", none⟩], e.IsPlain := by
  refine List.forall_mem_append.mpr ⟨isPlain_header h, List.forall_mem_singleton.mpr ?_⟩
  exact isPlain_sample h.1 hlabels (isNumberText_decimal 1)

/-- Source: `metrics.cpp` `render_metrics` -/
theorem readable_info_iff {name help : List Byte} {labels : List MetricLabel} :
    (∀ e ∈ header name help (text "gauge") ++ [.sample ⟨name, labels, text "1", none⟩], e.Readable) ↔
      ∀ l ∈ labels, Clean l.2 := by
  rw [List.forall_mem_append, List.forall_mem_singleton,
    readable_sample_iff (show IsNumberText (text "1") from isNumberText_decimal 1)]
  exact and_iff_right (readable_header name help (text "gauge"))

/-- Source: `metrics.cpp` `render_metrics` -/
theorem isPlain_metricsEntries :
    ∀ e ∈ metricsEntries stats build uptimeSeconds residentBytes, e.IsPlain := by
  unfold metricsEntries
  simp only [List.forall_mem_append, and_assoc]
  refine ⟨isPlain_single (isHeader_text (by decide)) (isNumberText_decimal _),
    isPlain_single (isHeader_text (by decide)) (isNumberText_decimal _), ?_,
    isPlain_single (isHeader_text (by decide)) (isNumberText_signedDecimal _), ?_,
    isPlain_single (isHeader_text (by decide)) (isNumberText_decimal _),
    isPlain_single (isHeader_text (by decide)) (isNumberText_decimal _),
    isPlain_single (isHeader_text (by decide)) (isNumberText_signedDecimal _), ?_, ?_,
    isPlain_single (isHeader_text (by decide)) (isNumberText_decimal _),
    isPlain_single (isHeader_text (by decide)) (isNumberText_formatMetricDouble _)⟩
  · intro e he
    exact (histogramEntries_spec (isHeader_text (by decide)) isNumberText_formatMetricDouble _ e he).1
  · exact fun e he => (errorEntries_spec stats e he).1
  · cases stats.streamInfo with
    | none => exact fun e he => absurd he List.not_mem_nil
    | some format =>
        refine isPlain_info (isHeader_text (by decide)) (List.forall_mem_cons.mpr ⟨?_,
          List.forall_mem_cons.mpr ⟨?_, List.forall_mem_singleton.mpr ?_⟩⟩)
        · exact (by decide : IsName isLabelChar (text "width"))
        · exact (by decide : IsName isLabelChar (text "height"))
        · exact (by decide : IsName isLabelChar (text "pixel_format"))
  · refine isPlain_info (isHeader_text (by decide)) (List.forall_mem_cons.mpr ⟨?_,
      List.forall_mem_singleton.mpr ?_⟩)
    · exact (by decide : IsName isLabelChar (text "version"))
    · exact (by decide : IsName isLabelChar (text "git_sha"))

/-- The page can be misread only at the pixel format and at the build information.
Source: `metrics.cpp` `render_metrics` -/
theorem readable_metricsEntries_iff :
    (∀ e ∈ metricsEntries stats build uptimeSeconds residentBytes, e.Readable) ↔
      (∀ format, stats.streamInfo = some format → Clean format.pixelFormatString) ∧
        Clean build.version ∧ Clean build.gitSha := by
  have hstream : (∀ e ∈ stats.streamInfo.elim [] streamInfoEntries, e.Readable) ↔
      ∀ format, stats.streamInfo = some format → Clean format.pixelFormatString := by
    cases stats.streamInfo with
    | none => simp
    | some format =>
        have hnumber := fun n => clean_of_isNumberText (isNumberText_decimal n)
        rw [Option.elim_some, streamInfoEntries, readable_info_iff]
        simp [hnumber]
  have hbuild : (∀ e ∈ buildInfoEntries build, e.Readable) ↔
      Clean build.version ∧ Clean build.gitSha := by
    rw [buildInfoEntries, readable_info_iff]
    simp
  unfold metricsEntries
  simp only [List.forall_mem_append, and_assoc, hstream, hbuild]
  constructor
  · rintro ⟨-, -, -, -, -, -, -, -, hformat, hversion, hsha, -, -⟩
    exact ⟨hformat, hversion, hsha⟩
  · rintro ⟨hformat, hversion, hsha⟩
    refine ⟨readable_single _ _ _ (isNumberText_decimal _),
      readable_single _ _ _ (isNumberText_decimal _), ?_,
      readable_single _ _ _ (isNumberText_signedDecimal _), ?_,
      readable_single _ _ _ (isNumberText_decimal _), readable_single _ _ _ (isNumberText_decimal _),
      readable_single _ _ _ (isNumberText_signedDecimal _), hformat, hversion, hsha,
      readable_single _ _ _ (isNumberText_decimal _),
      readable_single _ _ _ (isNumberText_formatMetricDouble _)⟩
    · intro e he
      exact (histogramEntries_spec (isHeader_text (by decide)) isNumberText_formatMetricDouble _ e he).2
    · exact fun e he => (errorEntries_spec stats e he).2

end daemon

/-! ## The page of the exporter -/

section exporter

variable {F : Type} [Zero F] {format : F → List Byte} (stats : ProducerStats F)

/-- What the page of the exporter is meant to say.
Source: `exporter_metrics.cpp` `render_exporter_metrics` -/
def exporterEntries (format : F → List Byte) (stats : ProducerStats F) : List Entry :=
  single (text "hamstercam_producer_frames_total") (text "Frames ffmpeg has processed.")
    (text "counter") (decimal stats.framesTotal.toNat) ++
  single (text "hamstercam_producer_fps") (text "ffmpeg's reported instantaneous fps.")
    (text "gauge") (format stats.fps) ++
  single (text "hamstercam_producer_dropped_frames_total") (text "ffmpeg's drop_frames.")
    (text "counter") (decimal stats.droppedFramesTotal.toNat) ++
  single (text "hamstercam_producer_duplicated_frames_total") (text "ffmpeg's dup_frames.")
    (text "counter") (decimal stats.duplicatedFramesTotal.toNat) ++
  single (text "hamstercam_producer_speed_ratio") (text "ffmpeg's speed (1.0 = realtime).")
    (text "gauge") (format stats.speedRatio) ++
  single (text "hamstercam_producer_connected") (text "1 while ffmpeg is attached, else 0.")
    (text "gauge") (if stats.connected then text "1" else text "0") ++
  single (text "hamstercam_producer_last_update_unixtime_seconds")
    (text "Wall-clock time of the last progress block.") (text "gauge")
    (signedDecimal stats.lastUpdateUnixtime)

/-- **The page of the exporter reads back in every state.** A `double` is written with the bytes of a
number. Source: `exporter_metrics.cpp` `render_exporter_metrics` -/
theorem page_renderExporterMetrics (hformat : ∀ v, IsNumberText (format v)) :
    page (renderExporterMetrics format stats) = some (exporterEntries format stats) := by
  have htext : renderExporterMetrics format stats =
      (exporterEntries format stats).flatMap Entry.plain := by
    simp only [renderExporterMetrics, exporterEntries, writeCounter_eq, writeGauge_eq,
      List.flatMap_append]
  have hconnected : IsNumberText (if stats.connected then text "1" else text "0") := by
    cases stats.connected
    · exact isNumberText_decimal 0
    · exact isNumberText_decimal 1
  have hspec : ∀ e ∈ exporterEntries format stats, e.IsPlain ∧ e.Readable := by
    unfold exporterEntries
    simp only [List.forall_mem_append, and_assoc]
    exact ⟨single_spec (isHeader_text (by decide)) (isNumberText_decimal _),
      single_spec (isHeader_text (by decide)) (hformat _),
      single_spec (isHeader_text (by decide)) (isNumberText_decimal _),
      single_spec (isHeader_text (by decide)) (isNumberText_decimal _),
      single_spec (isHeader_text (by decide)) (hformat _),
      single_spec (isHeader_text (by decide)) hconnected,
      single_spec (isHeader_text (by decide)) (isNumberText_signedDecimal _)⟩
  rw [htext]
  exact (Exposition.page_plain fun e he => (hspec e he).1).mpr fun e he => (hspec e he).2

end exporter

/-! ## Samples that read back -/

/-- The names of the metrics. Source: `metrics.cpp`, `exporter_metrics.cpp` -/
def metricNames : List (List Byte) :=
  ["hamstercam_frames_received_total", "hamstercam_bytes_received_total",
    "hamstercam_frame_interval_seconds", "hamstercam_frame_interval_seconds_bucket",
    "hamstercam_frame_interval_seconds_sum", "hamstercam_frame_interval_seconds_count",
    "hamstercam_capture_state",
    "hamstercam_capture_errors_total", "hamstercam_reconnects_total", "hamstercam_stalls_total",
    "hamstercam_last_frame_unixtime_seconds", "hamstercam_stream_info", "hamstercam_build_info",
    "hamstercam_process_resident_bytes", "hamstercam_uptime_seconds", "hamstercam_producer_frames_total",
    "hamstercam_producer_fps", "hamstercam_producer_dropped_frames_total",
    "hamstercam_producer_duplicated_frames_total", "hamstercam_producer_speed_ratio",
    "hamstercam_producer_connected", "hamstercam_producer_last_update_unixtime_seconds"].map text

/-- The names of the labels. Source: `metrics.cpp` -/
def labelNames : List (List Byte) :=
  ["le", "reason", "width", "height", "pixel_format", "version", "git_sha"].map text

/-- What `write_metric_sample` appends is one line, and it is read to what was passed.
Source: `metrics_primitives.hpp` `write_metric_sample` (comment) -/
def SampleReadsBack (name value : List Byte) (labels : List MetricLabel) : Prop :=
  (∃ line, writeMetricSample name value labels = line ++ [newline] ∧ newline ∉ line) ∧
    Exposition.sample (writeMetricSample name value labels) = some (⟨name, labels, value, none⟩, [])

/-- Source: `metrics.cpp`, `exporter_metrics.cpp` -/
theorem isName_metricNames : ∀ name ∈ metricNames, IsName isNameChar name := by
  unfold metricNames
  simp only [List.map_cons, List.map_nil, List.forall_mem_cons]
  repeat refine ⟨isName_text (by decide), ?_⟩
  exact fun name hname => absurd hname List.not_mem_nil

/-- Source: `metrics.cpp` -/
theorem isName_labelNames : ∀ name ∈ labelNames, IsName isLabelChar name := by
  decide

/-- Source: `metrics_primitives.cpp` `write_metric_sample` -/
theorem sampleReadsBack_iff {name value : List Byte} {labels : List MetricLabel}
    (hname : IsName isNameChar name) (hlabels : ∀ l ∈ labels, IsName isLabelChar l.1)
    (hvalue : ∀ c ∈ value, isValueChar c = true) :
    SampleReadsBack name value labels ↔
      (∀ l ∈ labels, Clean l.2) ∧ value ≠ [] ∧ (labels = [] → value.head? ≠ some 123) := by
  have hplain : (⟨name, labels, value, none⟩ : Sample).IsPlain := ⟨hname, hlabels, hvalue, rfl⟩
  have hnil := List.append_nil (⟨name, labels, value, none⟩ : Sample).plain
  unfold SampleReadsBack
  rw [writeMetricSample_eq]
  constructor
  · rintro ⟨-, hread⟩
    rw [← hnil] at hread
    exact Exposition.readable_of_sample hplain hread
  · intro hread
    refine ⟨Exposition.plain_eq_line hplain hread, ?_⟩
    rw [← hnil]
    exact Exposition.sample_plain hplain hread []

/-- **Samples and the page of the daemon read back if and only if no label value needs an escape.** A
value that is empty, or one without labels that begins with a brace, is not read back either; the
program writes neither.
Source: `metrics_primitives.cpp` `write_metric_sample`, `metrics.cpp` `render_metrics` -/
theorem samples_read_back_iff {name value : List Byte} {labels : List MetricLabel}
    (hname : name ∈ metricNames) (hlabels : ∀ l ∈ labels, l.1 ∈ labelNames)
    (hvalue : ∀ c ∈ value, isValueChar c = true)
    (stats : CaptureStats) (build : BuildInfo) (uptimeSeconds : ℚ) (residentBytes : UInt64) :
    (SampleReadsBack name value labels ↔
      (∀ l ∈ labels, Clean l.2) ∧ value ≠ [] ∧ (labels = [] → value.head? ≠ some 123)) ∧
    (page (renderMetrics stats build uptimeSeconds residentBytes) =
        some (metricsEntries stats build uptimeSeconds residentBytes) ↔
      (∀ format, stats.streamInfo = some format → Clean format.pixelFormatString) ∧
        Clean build.version ∧ Clean build.gitSha) := by
  refine ⟨?_, ?_⟩
  · have hlabels : ∀ l ∈ labels, IsName isLabelChar l.1 :=
      fun l hl => isName_labelNames l.1 (hlabels l hl)
    exact sampleReadsBack_iff (isName_metricNames name hname) hlabels hvalue
  · rw [renderMetrics_eq, Exposition.page_plain (isPlain_metricsEntries _ _ _ _)]
    exact readable_metricsEntries_iff stats build uptimeSeconds residentBytes

/-- The sample and the page of a build: both read back, and with a quote in the version neither does.
Source: `metrics.cpp` `render_metrics` -/
theorem samples_read_back_build_info :
    let build : BuildInfo := ⟨text "1.2.3", text "abc123"⟩
    let quoted : BuildInfo := ⟨text "1.2\"3", text "abc123"⟩
    let labels := fun b : BuildInfo => [(text "version", b.version), (text "git_sha", b.gitSha)]
    let stats := CaptureStats.new id
    (SampleReadsBack (text "hamstercam_build_info") (text "1") (labels build) ∧
      page (renderMetrics stats build 0 0) = some (metricsEntries stats build 0 0)) ∧
    ¬ SampleReadsBack (text "hamstercam_build_info") (text "1") (labels quoted) ∧
      page (renderMetrics stats quoted 0 0) ≠ some (metricsEntries stats quoted 0 0) := by
  intro build quoted labels stats
  have hname : text "hamstercam_build_info" ∈ metricNames := by simp [metricNames]
  have hlabels : ∀ b : BuildInfo, ∀ l ∈ labels b, l.1 ∈ labelNames := by
    intro b
    refine List.forall_mem_cons.mpr ⟨?_, List.forall_mem_singleton.mpr ?_⟩
    · simp [labelNames]
    · simp [labelNames]
  have hvalue : ∀ c ∈ text "1", isValueChar c = true :=
    isValue_of_isNumberText (isNumberText_decimal 1)
  have hiff := fun b => samples_read_back_iff hname (hlabels b) hvalue stats b 0 0
  refine ⟨⟨?_, ?_⟩, ?_, ?_⟩
  · exact (hiff build).1.mpr ⟨by decide, by decide, fun h => absurd h (List.cons_ne_nil _ _)⟩
  · exact (hiff build).2.mpr ⟨by simp [stats, CaptureStats.streamInfo], by decide, by decide⟩
  · exact fun hread => absurd ((hiff quoted).1.mp hread).1 (by decide)
  · exact fun hread => absurd ((hiff quoted).2.mp hread).2.1 (by decide)

/-- A driver reports a code with a quote in it, and the sample of the stream format cannot be read at
all. Source: `metrics.cpp` `render_metrics`, `capture_device.cpp` `StreamFormat::pixel_format_string` -/
theorem quoted_format_not_read_back :
    let format : StreamFormat := { width := 640, height := 480, pixelFormatFourcc := 0x20223859 }
    let stats := (CaptureStats.new id).setStreamInfo format
    let build : BuildInfo := ⟨text "1.0.0", text "deadbee"⟩
    Exposition.sample (writeMetricSample (text "hamstercam_stream_info") (text "1")
        [(text "width", decimal format.width.toNat), (text "height", decimal format.height.toNat),
          (text "pixel_format", format.pixelFormatString)]) = none ∧
      page (renderMetrics stats build 0 0) ≠ some (metricsEntries stats build 0 0) := by
  refine ⟨by decide +kernel, ?_⟩
  rw [renderMetrics_eq, ne_eq, Exposition.page_plain (isPlain_metricsEntries _ _ _ _),
    readable_metricsEntries_iff]
  rintro ⟨hformat, -, -⟩
  exact absurd (hformat _ rfl) (by decide)

end Hamstercam
