import Hamstercam.Exporter.Chunking
import Hamstercam.Exporter.Counters
import Hamstercam.Http.Server
import Hamstercam.Metrics.CounterSeries

/-!
# What a client of the programs reads

The handlers of `main.cpp` and `exporter_main.cpp`, and the way of a number from the capture machine or
from ffmpeg to the client that fetches it.

* `handleDaemon`, `handleExporter` — the handlers.
* `daemon_fetched` — a request of the daemon, in whatever pieces it comes, is answered and the answer read:
  `/metrics` shows the counters of the run.
* `exporter_fetched` — the same of the exporter: it shows the last numbers that ffmpeg wrote, in whatever
  chunks these came.
-/

namespace Hamstercam

open Decimal HttpMessage GeneralFormat
open Exposition (Clean page)
open Search (position)

/-! ## The handlers -/

/-- Source: `main.cpp` `main`, `exporter_main.cpp` `main` -/
def notFound : HttpResponse :=
  { status := 404, contentType := text "text/plain", body := text "not found\n" }

/-- The content type of the pages. Source: `main.cpp` `main`, `exporter_main.cpp` `main` -/
def pageType : List Byte := text "text/plain; version=0.0.4; charset=utf-8"

/-- The handler of the daemon. Source: `main.cpp` `main` -/
def handleDaemon (s : Scrape) (method path : List Byte) : HttpResponse :=
  if method ≠ text "GET" then notFound
  else if path = text "/metrics" then { status := 200, contentType := pageType, body := s.body }
  else if path = text "/healthz" then
    { status := 200, contentType := text "text/plain", body := text "ok\n" }
  else notFound

/-- The handler of the exporter; `format` is the formatting of a `double`.
Source: `exporter_main.cpp` `main` -/
def handleExporter {F : Type} [Zero F] (format : F → List Byte) (stats : ProducerStats F)
    (method path : List Byte) : HttpResponse :=
  if method ≠ text "GET" then notFound
  else if path = text "/metrics" then
    { status := 200, contentType := pageType, body := renderExporterMetrics format stats }
  else notFound

/-! ## Every answer can be read -/

/-- Source: `main.cpp` `main`, `exporter_main.cpp` `main` -/
theorem isValue_contentTypes : IsValue (text "text/plain") ∧ IsValue pageType :=
  ⟨⟨by decide, by decide⟩, ⟨by decide, by decide⟩⟩

/-- Source: `main.cpp` `main`, `exporter_main.cpp` `main` -/
theorem wellFormed_notFound : notFound.message.WellFormed :=
  HttpResponse.wellFormed_iff.mpr ⟨by decide, isValue_contentTypes.1⟩

/-- Source: `main.cpp` `main`, `exporter_main.cpp` `main` -/
theorem wellFormed_ok {contentType : List Byte} (h : IsValue contentType) (body : List Byte) :
    ({ status := 200, contentType := contentType, body := body } : HttpResponse).message.WellFormed := by
  have hstatus : (100 : Int) ≤ 200 ∧ (200 : Int) ≤ 999 := by decide
  exact HttpResponse.wellFormed_iff.mpr ⟨hstatus, h⟩

/-- What the handler of the daemon can answer. Source: `main.cpp` `main` -/
theorem handleDaemon_spec (s : Scrape) (method path : List Byte) :
    let resp := (handleDaemon s method path).message
    resp.WellFormed ∧
    (resp.status = 200 ↔
      method = text "GET" ∧ (path = text "/metrics" ∨ path = text "/healthz")) ∧
    (resp.status ≠ 200 → resp.status = 404 ∧ resp.body = text "not found\n") ∧
    (method = text "GET" → path = text "/metrics" → resp.body = s.body) := by
  have hpaths : text "/healthz" ≠ text "/metrics" := text_ne (by decide)
  have h404 : notFound.message.status = 404 := rfl
  unfold handleDaemon
  by_cases hmethod : method = text "GET"
  · rw [if_neg (not_not.mpr hmethod)]
    by_cases hmetrics : path = text "/metrics"
    · rw [if_pos hmetrics]
      refine ⟨wellFormed_ok isValue_contentTypes.2 _,
        ⟨fun _ => ⟨hmethod, .inl hmetrics⟩, fun _ => rfl⟩, fun h => absurd rfl h, fun _ _ => rfl⟩
    · rw [if_neg hmetrics]
      by_cases hhealthz : path = text "/healthz"
      · rw [if_pos hhealthz]
        refine ⟨wellFormed_ok isValue_contentTypes.1 _,
          ⟨fun _ => ⟨hmethod, .inr hhealthz⟩, fun _ => rfl⟩, fun h => absurd rfl h,
          fun _ h => absurd h hmetrics⟩
      · rw [if_neg hhealthz]
        refine ⟨wellFormed_notFound, ⟨fun h => ?_, fun h => ?_⟩, fun _ => ⟨rfl, rfl⟩,
          fun _ h => absurd h hmetrics⟩
        · rw [h404] at h
          cases h
        · exact absurd h.2 (not_or.mpr ⟨hmetrics, hhealthz⟩)
  · rw [if_pos hmethod]
    refine ⟨wellFormed_notFound, ⟨fun h => ?_, fun h => absurd h.1 hmethod⟩, fun _ => ⟨rfl, rfl⟩,
      fun h => absurd h hmethod⟩
    rw [h404] at h
    cases h

/-- What the handler of the exporter can answer. Source: `exporter_main.cpp` `main` -/
theorem handleExporter_spec {F : Type} [Zero F] (format : F → List Byte) (stats : ProducerStats F)
    (method path : List Byte) :
    let resp := (handleExporter format stats method path).message
    resp.WellFormed ∧
    (resp.status = 200 ↔ method = text "GET" ∧ path = text "/metrics") ∧
    (resp.status ≠ 200 → resp.status = 404 ∧ resp.body = text "not found\n") ∧
    (resp.status = 200 → resp.body = renderExporterMetrics format stats) := by
  have h404 : notFound.message.status = 404 := rfl
  unfold handleExporter
  by_cases hmethod : method = text "GET"
  · rw [if_neg (not_not.mpr hmethod)]
    by_cases hmetrics : path = text "/metrics"
    · rw [if_pos hmetrics]
      exact ⟨wellFormed_ok isValue_contentTypes.2 _,
        ⟨fun _ => ⟨hmethod, hmetrics⟩, fun _ => rfl⟩, fun h => absurd rfl h, fun _ => rfl⟩
    · rw [if_neg hmetrics]
      refine ⟨wellFormed_notFound, ⟨fun h => ?_, fun h => absurd h.2 hmetrics⟩,
        fun _ => ⟨rfl, rfl⟩, fun h => ?_⟩
      · rw [h404] at h
        cases h
      · rw [h404] at h
        cases h
  · rw [if_pos hmethod]
    refine ⟨wellFormed_notFound, ⟨fun h => ?_, fun h => absurd h.1 hmethod⟩,
      fun _ => ⟨rfl, rfl⟩, fun h => ?_⟩
    · rw [h404] at h
      cases h
    · rw [h404] at h
      cases h

/-! ## The daemon -/

section daemon

variable {rnd : ℚ → ℚ} {config : DaemonConfig} {now : TimePoint} {ls : List Turn}
  {m : CaptureStateMachine} {turns : List (ServerTurn Scrape)} {t : ServerTurn Scrape} {n i : Nat}
  {method path : List Byte}

/-- **What a client of the daemon reads.** Let the machine have come to `m` by the turns `ls` when the
request is handled. A client that is accepted, sends a request line in time and takes what it is sent reads
an answer, whatever the pieces are. It is `200` for a `GET` of the two paths of the daemon, and else `404`;
and the page of `/metrics` shows every counter as the account of the run, modulo `2 ^ 64`, if the pixel
format and the build information need no escape.
Source: `main.cpp` `main`, `http_server.cpp` `HttpServer::run`, `metrics.cpp` `render_metrics` -/
theorem daemon_fetched (listenFd : Int) (h : CaptureRun rnd config now ls m)
    (ht : t ∈ turns.takeWhile fun t => !t.stop) (haccepted : t.Accepted) (hseen : t.seen.stats = m.stats)
    (hline : position crlf (received t.recv n) = some i) (hfits : i + 2 ≤ 8192)
    (hrequest : requestOf ((received t.recv n).take i) = some (method, path))
    (hsend : ∀ k size, 0 < size → 0 < (t.send k size).1) :
    ∃ c ∈ (HttpServer.run handleDaemon listenFd turns).2, ∃ resp,
      HttpMessage.message c.sent = some (resp, []) ∧
      (resp.status = 200 ↔ method = text "GET" ∧ (path = text "/metrics" ∨ path = text "/healthz")) ∧
      (resp.status ≠ 200 → resp.status = 404 ∧ resp.body = text "not found\n") ∧
      (method = text "GET" → path = text "/metrics" →
        (∀ format, m.stats.streamInfo = some format → Clean format.pixelFormatString) →
        Clean t.seen.build.version → Clean t.seen.build.gitSha →
        ∃ entries, page resp.body = some entries ∧ ∀ x : CounterSeries, x.Shown →
          counterValue x.name x.labels entries = some (total x.count ls % 2 ^ 64)) := by
  obtain ⟨hwell, hok, hnot, hbody⟩ := handleDaemon_spec t.seen method path
  refine ⟨HttpServer.converse handleDaemon t, ?_, _,
    HttpServer.converse_read hline hfits hrequest hsend hwell, hok, hnot, ?_⟩
  · rw [HttpServer.run_conversations]
    exact List.mem_map_of_mem (List.mem_filter.mpr ⟨ht, by simpa using haccepted⟩)
  · intro hmethod hpath hformat hversion hsha
    refine ⟨t.seen.entries, ?_, fun x hx => ?_⟩
    · rw [hbody hmethod hpath, Scrape.body, renderMetrics_eq]
      apply (Exposition.page_plain (isPlain_metricsEntries _ _ _ _)).mpr
      rw [readable_metricsEntries_iff, hseen]
      exact ⟨hformat, hversion, hsha⟩
    · rw [Scrape.entries, counterValue_metricsEntries _ _ _ _ hx, hseen, h.series_eq x]
      exact congrArg some (UInt64.toNat_ofNat')

end daemon

/-- A request in two pieces, which part the path. Source: `http_server.cpp` `read_request_line` -/
def splitClient : Client := fun k =>
  [(⟨text "GET /met", by decide, by decide⟩ : Piece),
    ⟨text "rics HTTP/1.1\r\n\r\n", by decide, by decide⟩][k]?

/-- Source: `http_server.cpp` `read_request_line` -/
theorem splitClient_line : position crlf (received splitClient 2) = some 21 ∧
    requestOf ((received splitClient 2).take 21) = some (text "GET", text "/metrics") := by
  decide

/-- A turn in which that client is accepted; it takes one byte at a time.
Source: `http_server.cpp` `HttpServer::run` -/
def splitTurn {σ : Type} (seen : σ) : ServerTurn σ where
  stop := false
  poll := 1
  accept := 5
  recv := splitClient
  seen := seen
  send _ size := ⟨min 1 size, by omega⟩

/-- A receiver that takes one byte at a time fails no call. Source: none: infrastructure -/
theorem splitTurn_send {σ : Type} (seen : σ) (k size : Nat) (h : 0 < size) :
    0 < ((splitTurn seen).send k size).1 := by
  show (0 : Int) < min 1 (size : Int)
  omega

/-- After a cold start and one frame, the client reads that there has been one frame.
Source: `main.cpp` `main` -/
theorem daemon_fetched_coldFrame :
    let seen : Scrape := ⟨coldFrame.stats, ⟨text "1.0.0", text "deadbee"⟩, 0, 0⟩
    ∃ c ∈ (HttpServer.run handleDaemon 3 [splitTurn seen]).2, ∃ resp,
      HttpMessage.message c.sent = some (resp, []) ∧ ∃ entries, page resp.body = some entries ∧
        counterValue CounterSeries.frames.name CounterSeries.frames.labels entries = some 1 := by
  intro seen
  have hturn : splitTurn seen ∈ [splitTurn seen].takeWhile fun t => !t.stop := List.mem_cons_self
  obtain ⟨c, hc, resp, hread, -, -, hpage⟩ := daemon_fetched 3 coldFrame_run hturn (by decide) rfl
    splitClient_line.1 (by decide) splitClient_line.2 (splitTurn_send seen)
  obtain ⟨entries, hentries, hcounters⟩ := hpage rfl rfl (by decide) (by decide) (by decide)
  refine ⟨c, hc, resp, hread, entries, hentries, ?_⟩
  rw [hcounters .frames (by decide)]
  decide

/-! ## The exporter -/

/-- The series of a counter. Source: `exporter_metrics.cpp` `render_exporter_metrics` -/
def Counter.series : Counter → List Byte
  | .frame => text "hamstercam_producer_frames_total"
  | .dropFrames => text "hamstercam_producer_dropped_frames_total"
  | .dupFrames => text "hamstercam_producer_duplicated_frames_total"

section exporter

variable {F : Type} [Zero F] {format : F → List Byte} {stod : List Byte → Option (F × Nat)}
  {clock : Nat → Int} {chunks : List (List Byte)} {turns : List (ServerTurn (ProducerStats F))}
  {t : ServerTurn (ProducerStats F)} {n i : Nat} {method path : List Byte}

/-- **What the page shows for a counter of the producer is the member behind it.**
Source: `exporter_metrics.cpp` `render_exporter_metrics` -/
theorem counterValue_exporterEntries (stats : ProducerStats F) (k : Counter) :
    counterValue k.series [] (exporterEntries format stats) = some (k.get stats).toNat := by
  unfold exporterEntries
  simp only [counterValue_append]
  cases k with
  | frame =>
      rw [Counter.series, counterValue_single]
      rfl
  | dropFrames =>
      rw [Counter.series, counterValue_single]
      repeat rw [counterValue_other (text_ne (by decide))]
      rfl
  | dupFrames =>
      rw [Counter.series, counterValue_single]
      repeat rw [counterValue_other (text_ne (by decide))]
      rfl

/-- The counter after the chunks: the last numeral that a complete line gives it.
Source: `progress_parser.cpp` `ProgressParser::feed`, `ProgressParser::parse_line` -/
theorem get_feedAll (h : WithinCap stod (.new {} clock) chunks) (k : Counter) :
    k.get (ProgressParser.feedAll stod (.new {} clock) chunks).stats =
      lastWriter (fun line => (keyValue line).bind fun kv => if kv.1 = k.key then parseU64 kv.2 else none)
        (Lines.complete newline chunks.flatten) 0 := by
  obtain ⟨hhanded, -⟩ := calls_within h List.not_mem_nil
  have hstats := @parseLines_stats F _ stod (.new {} clock) (Lines.complete newline chunks.flatten)
  have hmetric : ∀ key : String, metric key parseU64 =
      fun line => (keyValue line).bind fun kv => if kv.1 = text key then parseU64 kv.2 else none := by
    intro key
    funext line
    unfold metric
    cases keyValue line with
    | none => rfl
    | some kv => rfl
  rw [ProgressParser.feedAll_eq, hhanded]
  show k.get ((Lines.complete newline chunks.flatten).foldl (ProgressParser.parseLine stod)
    (.new {} clock)).stats = _
  rw [hstats]
  cases k with
  | frame => rw [Counter.key, ← hmetric]; rfl
  | dropFrames => rw [Counter.key, ← hmetric]; rfl
  | dupFrames => rw [Counter.key, ← hmetric]; rfl

/-- **What a client of the exporter reads.** Let ffmpeg have written `chunks.flatten` when the request is
handled, in chunks that stay within the cap of the buffer. A client that is accepted, sends a request line
in time and takes what it is sent reads an answer, whatever the pieces are. It is `200` for a `GET` of
`/metrics`, and else `404`; and the page can be read and shows, for each counter, the number that the last
complete line with its key and a numeral gave it.
Source: `exporter_main.cpp` `main`, `http_server.cpp` `HttpServer::run`, `progress_parser.cpp`
`ProgressParser::feed`, `exporter_metrics.cpp` `render_exporter_metrics` -/
theorem exporter_fetched (listenFd : Int) (hformat : ∀ v, IsNumberText (format v))
    (hcap : WithinCap stod (.new {} clock) chunks)
    (ht : t ∈ turns.takeWhile fun t => !t.stop) (haccepted : t.Accepted) {connected : Bool}
    (hseen : t.seen = { (ProgressParser.feedAll stod (.new {} clock) chunks).stats with
      connected := connected })
    (hline : position crlf (received t.recv n) = some i) (hfits : i + 2 ≤ 8192)
    (hrequest : requestOf ((received t.recv n).take i) = some (method, path))
    (hsend : ∀ k size, 0 < size → 0 < (t.send k size).1) :
    ∃ c ∈ (HttpServer.run (handleExporter format) listenFd turns).2, ∃ resp,
      HttpMessage.message c.sent = some (resp, []) ∧
      (resp.status = 200 ↔ method = text "GET" ∧ path = text "/metrics") ∧
      (resp.status ≠ 200 → resp.status = 404 ∧ resp.body = text "not found\n") ∧
      (resp.status = 200 → ∃ entries, page resp.body = some entries ∧ ∀ k : Counter,
        counterValue k.series [] entries = some (lastWriter (fun line =>
          (keyValue line).bind fun kv => if kv.1 = k.key then parseU64 kv.2 else none)
          (Lines.complete newline chunks.flatten) 0).toNat) := by
  obtain ⟨hwell, hok, hnot, hbody⟩ := handleExporter_spec format t.seen method path
  refine ⟨HttpServer.converse (handleExporter format) t, ?_, _,
    HttpServer.converse_read hline hfits hrequest hsend hwell, hok, hnot, ?_⟩
  · rw [HttpServer.run_conversations]
    exact List.mem_map_of_mem (List.mem_filter.mpr ⟨ht, by simpa using haccepted⟩)
  · intro hstatus
    refine ⟨exporterEntries format t.seen, ?_, fun k => ?_⟩
    · rw [hbody hstatus]
      exact page_renderExporterMetrics t.seen hformat
    · have hget : k.get t.seen = k.get (ProgressParser.feedAll stod (.new {} clock) chunks).stats := by
        rw [hseen]
        cases k <;> rfl
      rw [counterValue_exporterEntries, hget, get_feedAll hcap]

end exporter

/-- After one line, the client reads the number in it.
Source: `exporter_main.cpp` `main` -/
theorem exporter_fetched_frame :
    let stats := { (ProgressParser.feedAll stodWhole (.new {} fun _ => 0)
      [text "fra", text "me=7\n"]).stats with connected := true }
    ∃ c ∈ (HttpServer.run (handleExporter formatMetricDouble) 3 [splitTurn stats]).2, ∃ resp,
      HttpMessage.message c.sent = some (resp, []) ∧ resp.status = 200 := by
  intro stats
  have hcap : WithinCap stodWhole (.new {} fun _ => 0) [text "fra", text "me=7\n"] := by
    refine withinCap_of_bounds rfl (by decide) fun run hrun _ => ?_
    exact hrun.length_le.trans (by decide)
  have hturn : splitTurn stats ∈ [splitTurn stats].takeWhile fun t => !t.stop := List.mem_cons_self
  obtain ⟨c, hc, resp, hread, hok, -⟩ := exporter_fetched 3 isNumberText_formatMetricDouble hcap hturn
    (by decide) rfl splitClient_line.1 (by decide) splitClient_line.2 (splitTurn_send stats)
  exact ⟨c, hc, resp, hread, hok.mpr ⟨rfl, rfl⟩⟩

end Hamstercam
