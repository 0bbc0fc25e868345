import Hamstercam.Exporter.Connections
import Hamstercam.Lib.SharedMemory
import Hamstercam.Metrics.WholeSeconds

/-!
# A scrape while ffmpeg writes

The page of the exporter is made in one thread while the progress socket is read in another, and
`render_exporter_metrics` looks at the members of `ProducerStats` one after the other.

* `ProducerCell`, `ProducerWrite` — the members, and what is stored into them. `writes` lists the stores of
  a run of the server in their order, and `run_writes` says that they are all it does to the statistics.
* `given` — the texts that the lines and the connections of a run give a member, one after the other;
  `writes_given` — these are the stores of the run.
* `producer_scraped` — the page reads back at every moment, and shows the last of the first so many texts
  for each metric; a later page shows a later one.
-/

namespace Hamstercam

open Decimal GeneralFormat Interaction SharedMemory ProgressParser
open Exposition (Entry page)

variable {F : Type}

/-! ## The stores of a run -/

/-- The members of the statistics. Source: `producer_stats.hpp` `ProducerStats` -/
inductive ProducerCell
  | framesTotal
  | fps
  | droppedFramesTotal
  | duplicatedFramesTotal
  | speedRatio
  | connected
  | lastUpdateUnixtime
  deriving DecidableEq

/-- A store into a member. Source: `progress_parser.cpp` `ProgressParser::parse_line`,
`progress_socket_server.cpp` `ProgressSocketServer::run` -/
inductive ProducerWrite (F : Type)
  | store (w : Store F)
  | connected (c : Bool)

/-- Source: none: infrastructure -/
def ProducerWrite.store? : ProducerWrite F → Option (Store F)
  | .store w => some w
  | .connected _ => none

/-- Source: none: infrastructure -/
def ProducerWrite.connected? : ProducerWrite F → Option Bool
  | .store _ => none
  | .connected c => some c

variable [Zero F]

/-- Source: `progress_parser.cpp` `ProgressParser::parse_line`, `progress_socket_server.cpp`
`ProgressSocketServer::run` -/
def ProducerStats.write (s : ProducerStats F) : ProducerWrite F → ProducerStats F
  | .store w => s.store w
  | .connected c => { s with connected := c }

namespace ProgressSocketServer

/-- The stores of a run, in their order: `connected`, those of the loop over the connection, and `connected`
again. Source: `progress_socket_server.cpp` `ProgressSocketServer::run` -/
def writes (stod : List Byte → Option (F × Nat)) (p : ProgressParser F) :
    List ListenTurn → List (ProducerWrite F)
  | [] => []
  | t :: turns =>
      if t.stop then []
      else if t.poll ≤ 0 then writes stod p turns
      else if t.accept < 0 then writes stod p turns
      else
        let served := serve stod (p.setConnected true) t.conn
        .connected true :: ((served.stored.drop p.stored.length).map .store ++
          .connected false :: writes stod (served.setConnected false) turns)

variable {stod : List Byte → Option (F × Nat)} {p : ProgressParser F}

/-- What the parser does to the statistics are its stores. Source: `progress_parser.cpp`
`ProgressParser::parse_line` -/
theorem parseLines_stored (ls : List (List Byte)) : ∃ made,
    (ls.foldl (parseLine stod) p).stored = p.stored ++ made ∧
      (ls.foldl (parseLine stod) p).stats = made.foldl ProducerStats.store p.stats := by
  induction ls using List.reverseRecOn with
  | nil => exact ⟨[], (List.append_nil _).symm, rfl⟩
  | append_singleton ls line ih =>
      obtain ⟨made, hstored, hstats⟩ := ih
      refine ⟨made ++ (lineStore stod ((ls.foldl (parseLine stod) p).clock 0) line).toList, ?_, ?_⟩
      · rw [parseLines_snoc, parseLine_eq, hstored]
        exact List.append_assoc _ _ _
      · rw [parseLines_snoc, parseLine_eq, hstats, List.foldl_append]
        cases lineStore stod ((ls.foldl (parseLine stod) p).clock 0) line with
        | none => rfl
        | some w => rfl

/-- Source: `progress_socket_server.cpp` `ProgressSocketServer::run` -/
theorem serve_stored (turns : List ConnTurn) : ∃ made,
    (serve stod p turns).stored = p.stored ++ made ∧
      (serve stod p turns).stats = made.foldl ProducerStats.store p.stats := by
  obtain ⟨made, hstored, hstats⟩ :=
    @parseLines_stored F _ stod p (handedAll p.buffer (received turns))
  refine ⟨made, ?_, ?_⟩
  · rw [serve_eq, feedAll_eq]
    exact hstored
  · rw [serve_eq, feedAll_eq]
    exact hstats

/-- **The stores of a run are all it does to the statistics.**
Source: `progress_socket_server.cpp` `ProgressSocketServer::run` -/
theorem run_writes (turns : List ListenTurn) :
    (run stod p turns).stats = (writes stod p turns).foldl ProducerStats.write p.stats ∧
      (run stod p turns).stored =
        p.stored ++ (writes stod p turns).filterMap ProducerWrite.store? ∧
      (writes stod p turns).filterMap ProducerWrite.connected? =
        (connections turns).flatMap fun _ => [true, false] := by
  induction turns generalizing p with
  | nil => exact ⟨rfl, (List.append_nil _).symm, rfl⟩
  | cons t turns ih =>
      unfold run writes connections
      split_ifs
      · exact ⟨rfl, (List.append_nil _).symm, rfl⟩
      · exact ih
      · exact ih
      · obtain ⟨made, hstored, hstats⟩ := @serve_stored F _ stod (p.setConnected true) t.conn
        have hmade : (serve stod (p.setConnected true) t.conn).stored.drop p.stored.length = made := by
          rw [hstored]
          exact List.drop_left
        have hstore : ∀ s : ProducerStats F, (made.map ProducerWrite.store).foldl ProducerStats.write s =
            made.foldl ProducerStats.store s := fun s => List.foldl_map
        have hstores : (made.map ProducerWrite.store).filterMap ProducerWrite.store? = made := by
          rw [List.filterMap_map]
          exact List.filterMap_some
        have hconnected : (made.map ProducerWrite.store).filterMap
            (ProducerWrite.connected? (F := F)) = [] := by
          rw [List.filterMap_map, List.filterMap_eq_nil_iff]
          exact fun _ _ => rfl
        obtain ⟨ihstats, ihstored, ihconnected⟩ :=
          ih (p := (serve stod (p.setConnected true) t.conn).setConnected false)
        dsimp only
        rw [hmade]
        refine ⟨?_, ?_, ?_⟩
        · rw [ihstats, List.foldl_cons, List.foldl_append, hstore, List.foldl_cons]
          congr 1
          show { (serve stod (p.setConnected true) t.conn).stats with connected := false } = _
          rw [hstats]
          rfl
        · rw [ihstored, List.filterMap_cons, List.filterMap_append, hstores]
          show (serve stod (p.setConnected true) t.conn).stored ++ _ = p.stored ++ (made ++ _)
          rw [hstored, List.append_assoc]
          rfl
        · rw [List.filterMap_cons, List.filterMap_append, hconnected]
          show true :: false :: _ = _
          rw [ihconnected]
          rfl

end ProgressSocketServer

/-! ## What the lines give a metric -/

namespace ProducerCell

/-- Source: `exporter_metrics.cpp` `render_exporter_metrics` -/
def name : ProducerCell → List Byte
  | framesTotal => text "hamstercam_producer_frames_total"
  | fps => text "hamstercam_producer_fps"
  | droppedFramesTotal => text "hamstercam_producer_dropped_frames_total"
  | duplicatedFramesTotal => text "hamstercam_producer_duplicated_frames_total"
  | speedRatio => text "hamstercam_producer_speed_ratio"
  | connected => text "hamstercam_producer_connected"
  | lastUpdateUnixtime => text "hamstercam_producer_last_update_unixtime_seconds"

/-- The text that a page shows. Source: `exporter_metrics.cpp` `render_exporter_metrics` -/
def shown (format : F → List Byte) (stats : ProducerStats F) : ProducerCell → List Byte
  | framesTotal => decimal stats.framesTotal.toNat
  | fps => format stats.fps
  | droppedFramesTotal => decimal stats.droppedFramesTotal.toNat
  | duplicatedFramesTotal => decimal stats.duplicatedFramesTotal.toNat
  | speedRatio => format stats.speedRatio
  | connected => if stats.connected then text "1" else text "0"
  | lastUpdateUnixtime => signedDecimal stats.lastUpdateUnixtime

omit [Zero F] in
/-- The text of what a store of the parser gives a member. Source: `progress_parser.cpp`
`ProgressParser::parse_line` -/
def stored (format : F → List Byte) : ProducerCell → Store F → Option (List Byte)
  | framesTotal, .framesTotal v => some (decimal v.toNat)
  | fps, .fps v => some (format v)
  | droppedFramesTotal, .droppedFramesTotal v => some (decimal v.toNat)
  | duplicatedFramesTotal, .duplicatedFramesTotal v => some (decimal v.toNat)
  | speedRatio, .speedRatio v => some (format v)
  | lastUpdateUnixtime, .lastUpdateUnixtime v => some (signedDecimal v)
  | _, _ => none

omit [Zero F] in
/-- The text of what a store gives a member. Source: `progress_parser.cpp`
`ProgressParser::parse_line`, `progress_socket_server.cpp` `ProgressSocketServer::run` -/
def written (format : F → List Byte) (k : ProducerCell) : ProducerWrite F → Option (List Byte)
  | .store w => k.stored format w
  | .connected c => if k = connected then some (if c then text "1" else text "0") else none

/-- Of one value for each metric that takes its value from the text of a line, the one of this metric.
Source: none: infrastructure -/
def pick {V : Type} (frame fps drop dup speed : Option V) : ProducerCell → Option V
  | framesTotal => frame
  | .fps => fps
  | droppedFramesTotal => drop
  | duplicatedFramesTotal => dup
  | speedRatio => speed
  | _ => none

omit [Zero F] in
/-- The text of what a line gives a metric. Source: `progress_parser.cpp` `ProgressParser::parse_line` -/
def ofLine (stod : List Byte → Option (F × Nat)) (format : F → List Byte) (k : ProducerCell)
    (line : List Byte) : Option (List Byte) :=
  k.pick ((metric "frame" parseU64 line).map fun v => decimal v.toNat)
    ((metric "fps" (parseReading stod) line).map format)
    ((metric "drop_frames" parseU64 line).map fun v => decimal v.toNat)
    ((metric "dup_frames" parseU64 line).map fun v => decimal v.toNat)
    ((metric "speed" (parseSpeed stod) line).map format)

omit [Zero F] in
/-- The texts that the lines `ls` of the connections `conns` give a metric, one after the other: each line
with its key and a value that can be parsed gives one, each with the key `progress` the next reading of the
clock, and a connection is there and then gone.
Source: none: abstract behaviour of `progress_parser.cpp` `ProgressParser::parse_line` and
`progress_socket_server.cpp` `ProgressSocketServer::run` -/
def given (stod : List Byte → Option (F × Nat)) (format : F → List Byte) (clock : Nat → Int)
    (ls : List (List Byte)) (conns : List (List (List Byte))) : ProducerCell → List (List Byte)
  | connected => conns.flatMap fun _ => [text "1", text "0"]
  | lastUpdateUnixtime => (updates clock (progressCount ls)).map signedDecimal
  | k => ls.filterMap (k.ofLine stod format)

variable {stod : List Byte → Option (F × Nat)} {format : F → List Byte} {p : ProgressParser F}
  {k : ProducerCell}

/-- Source: `producer_stats.hpp` `ProducerStats` -/
theorem shown_write (k : ProducerCell) (s : ProducerStats F) (w : ProducerWrite F) :
    k.shown format (s.write w) = (k.written format w).getD (k.shown format s) := by
  cases w with
  | connected c => cases k <;> rfl
  | store w => cases k <;> cases w <;> rfl

omit [Zero F] in
/-- Source: `progress_parser.cpp` `ProgressParser::parse_line` -/
theorem lineStore_stored (hk : k ≠ lastUpdateUnixtime) (now : Int) (line : List Byte) :
    (lineStore stod now line).bind (k.stored format) = k.ofLine stod format line := by
  apply lineStore_elim (motive := fun made frame fps drop dup speed _ =>
    made.bind (k.stored format) = k.pick (frame.map fun v => decimal v.toNat) (fps.map format)
      (drop.map fun v => decimal v.toNat) (dup.map fun v => decimal v.toNat) (speed.map format)) now line
  case other => cases k <;> rfl
  case progress =>
    intro v
    cases k <;> first | rfl | exact absurd rfl hk
  all_goals
    rintro (_ | v) <;> cases k <;> rfl

/-- Source: `progress_parser.cpp` `ProgressParser::parse_line` -/
theorem parseLines_given (hk : k ≠ lastUpdateUnixtime) (ls : List (List Byte)) :
    (ls.foldl (parseLine stod) p).stored.filterMap (k.stored format) =
      p.stored.filterMap (k.stored format) ++ ls.filterMap (k.ofLine stod format) := by
  induction ls using List.reverseRecOn with
  | nil => exact (List.append_nil _).symm
  | append_singleton ls line ih =>
      have hone : ∀ made : Option (Store F), made.toList.filterMap (k.stored format) =
          (made.bind (k.stored format)).toList := by
        rintro (_ | w)
        · rfl
        · rcases h : k.stored format w with _ | v <;> simp [h]
      have hline : [line].filterMap (k.ofLine stod format) = (k.ofLine stod format line).toList := by
        rcases h : k.ofLine stod format line with _ | v <;> simp [h]
      rw [parseLines_snoc, parseLine_eq]
      simp only [List.filterMap_append, hone, lineStore_stored hk, hline, ih, List.append_assoc]

end ProducerCell

/-! ## The page -/

open ProgressSocketServer

/-- The statistics as `render_exporter_metrics` finds them: it looks at each member once.
Source: `exporter_metrics.cpp` `render_exporter_metrics` -/
def scrapedProducer {log : List (ProducerWrite F)} (v : View ProducerCell log) : ProducerStats F where
  framesTotal := ((v.seen .framesTotal).foldl ProducerStats.write {}).framesTotal
  fps := ((v.seen .fps).foldl ProducerStats.write {}).fps
  droppedFramesTotal := ((v.seen .droppedFramesTotal).foldl ProducerStats.write {}).droppedFramesTotal
  duplicatedFramesTotal :=
    ((v.seen .duplicatedFramesTotal).foldl ProducerStats.write {}).duplicatedFramesTotal
  speedRatio := ((v.seen .speedRatio).foldl ProducerStats.write {}).speedRatio
  connected := ((v.seen .connected).foldl ProducerStats.write {}).connected
  lastUpdateUnixtime := ((v.seen .lastUpdateUnixtime).foldl ProducerStats.write {}).lastUpdateUnixtime

section page

variable {stod : List Byte → Option (F × Nat)} {format : F → List Byte} {clock : Nat → Int}
  {turns : List ListenTurn} {k : ProducerCell}

/-- **The stores of a run give a metric what its lines and connections give it.**
Source: `progress_parser.cpp` `ProgressParser::parse_line`, `progress_socket_server.cpp`
`ProgressSocketServer::run` -/
theorem writes_given (k : ProducerCell) :
    (writes stod (.new {} clock) turns).filterMap (k.written format) =
      k.given stod format clock (run stod (.new {} clock) turns).parsed (connections turns) := by
  obtain ⟨-, hstored, hconnected⟩ := @run_writes F _ stod (.new {} clock) turns
  by_cases hk : k = .connected
  · subst hk
    have hwritten : ∀ w : ProducerWrite F, ProducerCell.written format .connected w =
        w.connected?.map fun c => if c then text "1" else text "0" := by
      rintro (w | c)
      · rfl
      · rfl
    rw [funext hwritten, ← List.map_filterMap, hconnected, List.map_flatMap]
    rfl
  · have hwritten : ∀ w : ProducerWrite F, k.written format w = w.store?.bind (k.stored format) := by
      rintro (w | c)
      · rfl
      · exact if_neg hk
    have hnew : (ProgressParser.new ({} : ProducerStats F) clock).stored = [] := rfl
    have hfirst : ∀ c : Prop, [Decidable c] → ∀ q : ProgressParser F,
        (if c then q else q.setConnected false).stored = q.stored ∧
          (if c then q else q.setConnected false).parsed = q.parsed ∧
          (if c then q else q.setConnected false).clock = q.clock := by
      intro c _ q
      split <;> exact ⟨rfl, rfl, rfl⟩
    rw [hnew, List.nil_append] at hstored
    rw [funext hwritten, ← List.filterMap_filterMap, ← hstored, run_lines]
    simp only [parseLines_parsed, hfirst]
    by_cases hupdate : k = .lastUpdateUnixtime
    · subst hupdate
      have hstore : ∀ w : Store F, ProducerCell.stored format .lastUpdateUnixtime w =
          w.update?.map signedDecimal := by
        intro w
        cases w <;> rfl
      rw [funext hstore, ← List.map_filterMap, parseLines_updates]
      simp only [hfirst]
      rfl
    · rw [ProducerCell.parseLines_given hupdate]
      simp only [hfirst]
      cases k <;> first | rfl | exact absurd rfl hk | exact absurd rfl hupdate

/-- Source: `exporter_metrics.cpp` `render_exporter_metrics` -/
theorem sampleValue_exporterEntries (stats : ProducerStats F) (k : ProducerCell) :
    sampleValue k.name (exporterEntries format stats) = some (k.shown format stats) := by
  have hself : ∀ name help type value : List Byte,
      sampleValue name (single name help type value) = some value := by
    intro name help type value
    rw [single, sampleValue_metric, if_pos rfl]
  unfold exporterEntries
  simp only [sampleValue_append]
  cases k
  all_goals
    -- the metrics before this one have other names
    dsimp only [ProducerCell.name, ProducerCell.shown]
    repeat rw [sampleValue_single (text_ne (by decide))]
    rw [hself]
    rfl

/-- What a scrape finds of a metric. Source: `exporter_metrics.cpp` `render_exporter_metrics` -/
theorem shown_scrapedProducer {log : List (ProducerWrite F)} (v : View ProducerCell log)
    (k : ProducerCell) : k.shown format (scrapedProducer v) =
      k.shown format ((v.seen k).foldl ProducerStats.write {}) := by
  cases k <;> rfl

/-- **What a scrape shows while ffmpeg writes.** Whatever the connections are, their chunks and the stores
that have been seen, the page reads back. For each metric it shows the last of the first so many texts that
the lines of the parser and the connections have given it, in their order, and what it began with if there
are none; a later scrape has seen no fewer of them, and one that has seen all stores shows the last one.
Source: `exporter_main.cpp` `main`, `exporter_metrics.cpp` `render_exporter_metrics`,
`progress_socket_server.cpp` `ProgressSocketServer::run`, `progress_parser.cpp`
`ProgressParser::parse_line` -/
theorem producer_scraped (hformat : ∀ v, IsNumberText (format v))
    {v w : View ProducerCell (writes stod (.new {} clock) turns)} (hvw : v.Before w) :
    ∃ shown later, page (renderExporterMetrics format (scrapedProducer v)) = some shown ∧
      page (renderExporterMetrics format (scrapedProducer w)) = some later ∧
      ∀ k : ProducerCell,
        let texts := k.given stod format clock (run stod (.new {} clock) turns).parsed (connections turns)
        let initial := k.shown format ({} : ProducerStats F)
        ∃ i j, i ≤ j ∧ j ≤ texts.length ∧
          sampleValue k.name shown = some ((texts.take i).getLast?.getD initial) ∧
          sampleValue k.name later = some ((texts.take j).getLast?.getD initial) ∧
          (v.seen k = writes stod (.new {} clock) turns → i = texts.length) := by
  refine ⟨_, _, page_renderExporterMetrics _ hformat, page_renderExporterMetrics _ hformat, fun k => ?_⟩
  obtain ⟨i, j, hij, hj, hv, hw, hall⟩ := @View.Before.last (ProducerWrite F) ProducerCell
    (ProducerStats F) (List Byte) ProducerStats.write (writes stod (.new {} clock) turns)
    (k.shown format ·) (k.written format) k v w hvw k.shown_write {}
  rw [writes_given] at hj hv hw hall
  refine ⟨i, j, hij, hj, ?_, ?_, hall⟩
  · rw [sampleValue_exporterEntries, shown_scrapedProducer, hv]
  · rw [sampleValue_exporterEntries, shown_scrapedProducer, hw]

end page

/-- After two producers, when all stores have been seen, the page shows that none is attached.
Source: `progress_parser_test.cpp` `CounterResetOnProducerRestartIsVisibleNotSmoothed` -/
theorem producer_scraped_restart :
    let log := writes stodWhole (.new {} fun _ => 0) restartTurns
    ∃ shown, page (renderExporterMetrics formatMetricDouble (scrapedProducer (View.all log))) =
        some shown ∧
      sampleValue ProducerCell.connected.name shown = some (text "0") := by
  intro log
  obtain ⟨shown, later, hshown, -, htexts⟩ := producer_scraped isNumberText_formatMetricDouble
    (View.before_all (View.all log))
  obtain ⟨i, j, -, -, hv, -, hall⟩ := htexts .connected
  refine ⟨shown, hshown, ?_⟩
  rw [hv, hall rfl]
  decide

end Hamstercam
