import Hamstercam.Exporter.ProgressParser
import Hamstercam.Metrics.Primitives

/-!
# The writers of the metrics pages

`metrics.cpp` and `exporter_metrics.cpp`: `writeHistogram`, `renderMetrics`, and `renderExporterMetrics`.
A function that appends to a stream is the text it appends.
-/

namespace Hamstercam

open Decimal

/-! ## The page of the daemon -/

section histogram

variable {α : Type}

/-- There is an overflow bucket. Source: `histogram.hpp` `Histogram::Histogram` -/
theorem Histogram.counts_ne_nil (h : Histogram α) : h.counts ≠ [] := by
  intro hnil
  have hlength := h.length_counts
  rw [hnil, List.length_nil] at hlength
  omega

/-- The loop over the bounds: what it appends, and `cumulative` after it.
Source: `metrics.cpp` `write_histogram` -/
def writeBuckets (format : α → List Byte) (name : List Byte) :
    UInt64 → List (α × UInt64) → List Byte × UInt64
  | cumulative, [] => ([], cumulative)
  | cumulative, (bound, count) :: rest =>
      let (out, total) := writeBuckets format name (cumulative + count) rest
      (name ++ text "_bucket\x7ble=\"" ++ format bound ++ text "\"\x7d " ++
        decimal (cumulative + count).toNat ++ text "\n" ++ out, total)

/-- `format` is the formatting of a `double`.
Source: `metrics.cpp` `write_histogram` -/
def writeHistogram (format : α → List Byte) (name help : List Byte) (hist : Histogram α) : List Byte :=
  let (out, total) := writeBuckets format name 0 (hist.bounds.zip hist.counts)
  let cumulative := total + hist.counts.getLast hist.counts_ne_nil
  text "# HELP " ++ name ++ text " " ++ help ++ text "\n" ++
    (text "# TYPE " ++ name ++ text " histogram\n") ++ out ++
    (name ++ text "_bucket\x7ble=\"+Inf\"\x7d " ++ decimal cumulative.toNat ++ text "\n") ++
    (name ++ text "_sum " ++ format hist.sum ++ text "\n") ++
    (name ++ text "_count " ++ decimal hist.total.toNat ++ text "\n")

end histogram

/-- Source: `metrics.hpp` `BuildInfo` -/
structure BuildInfo where
  version : List Byte
  gitSha : List Byte

/-- The reasons below `Count`. Source: `error_reason.hpp` `kErrorReasonCount` -/
def errorReasons : List ErrorReason :=
  [.open, .format, .buffer, .timeout, .dequeue, .deviceLost, .geometry]

/-- Source: `metrics.cpp` `render_metrics` -/
def renderMetrics (stats : CaptureStats) (build : BuildInfo) (uptimeSeconds : ℚ)
    (residentBytes : UInt64) : List Byte :=
  writeCounter (text "hamstercam_frames_received_total") (text "Frames dequeued.") stats.framesReceived ++
  writeCounter (text "hamstercam_bytes_received_total") (text "Payload bytes across received frames.")
    stats.bytesReceived ++
  writeHistogram formatMetricDouble (text "hamstercam_frame_interval_seconds")
    (text "Observed inter-frame gap.") stats.frameIntervalSeconds ++
  writeGauge (text "hamstercam_capture_state") (text "Capture state machine state.")
    (signedDecimal stats.captureState) ++
  writeMetricHeader (text "hamstercam_capture_errors_total") (text "Capture errors by reason.")
    (text "counter") ++
  (errorReasons.flatMap fun reason =>
    writeMetricSample (text "hamstercam_capture_errors_total") (decimal (stats.errors reason).toNat)
      [(text "reason", reason.toText)]) ++
  writeCounter (text "hamstercam_reconnects_total") (text "Successful reconnections.") stats.reconnects ++
  writeCounter (text "hamstercam_stalls_total") (text "Stall events entered.") stats.stalls ++
  writeGauge (text "hamstercam_last_frame_unixtime_seconds") (text "Wall-clock time of the last frame.")
    (signedDecimal stats.lastFrameUnixtime) ++
  (match stats.streamInfo with
    | none => []
    | some format =>
        writeMetricHeader (text "hamstercam_stream_info") (text "Observed stream format.") (text "gauge") ++
        writeMetricSample (text "hamstercam_stream_info") (text "1")
          [(text "width", decimal format.width.toNat), (text "height", decimal format.height.toNat),
            (text "pixel_format", format.pixelFormatString)]) ++
  writeMetricHeader (text "hamstercam_build_info") (text "Build version and git SHA.") (text "gauge") ++
  writeMetricSample (text "hamstercam_build_info") (text "1")
    [(text "version", build.version), (text "git_sha", build.gitSha)] ++
  writeGauge (text "hamstercam_process_resident_bytes") (text "Resident memory, for the flatness check.")
    (decimal residentBytes.toNat) ++
  writeGauge (text "hamstercam_uptime_seconds") (text "Seconds since process start.")
    (formatMetricDouble uptimeSeconds)

/-! ## The page of the exporter -/

/-- `format` is the formatting of a `double`.
Source: `exporter_metrics.cpp` `render_exporter_metrics` -/
def renderExporterMetrics {F : Type} [Zero F] (format : F → List Byte) (stats : ProducerStats F) :
    List Byte :=
  writeCounter (text "hamstercam_producer_frames_total") (text "Frames ffmpeg has processed.")
    stats.framesTotal ++
  writeGauge (text "hamstercam_producer_fps") (text "ffmpeg's reported instantaneous fps.")
    (format stats.fps) ++
  writeCounter (text "hamstercam_producer_dropped_frames_total") (text "ffmpeg's drop_frames.")
    stats.droppedFramesTotal ++
  writeCounter (text "hamstercam_producer_duplicated_frames_total") (text "ffmpeg's dup_frames.")
    stats.duplicatedFramesTotal ++
  writeGauge (text "hamstercam_producer_speed_ratio") (text "ffmpeg's speed (1.0 = realtime).")
    (format stats.speedRatio) ++
  writeGauge (text "hamstercam_producer_connected") (text "1 while ffmpeg is attached, else 0.")
    (if stats.connected then text "1" else text "0") ++
  writeGauge (text "hamstercam_producer_last_update_unixtime_seconds")
    (text "Wall-clock time of the last progress block.") (signedDecimal stats.lastUpdateUnixtime)

end Hamstercam
