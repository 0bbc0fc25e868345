import Hamstercam.Exporter.Chunking

/-!
# Connections of the progress socket

* `run` — `ProgressSocketServer::run`, translated from `progress_socket_server.cpp`: one list of turns
  of the accept loop, each with what the system answers and with the turns of the loop over the
  connection. `connections` are the chunks that are fed, connection by connection.
* `separately` — the same connections, each parsed for itself: its complete lines, and no buffer.
  `Separate` says that the run leaves what this leaves, and hands over the same lines.
* `fed` — every chunk, with what its own connection has pending. `OwnLines` says that each chunk with
  a newline finds just that in the buffer. This is when the connections stay separate:
  `connections_separate_iff`. It fails as soon as a connection that closes in the middle of a line is
  followed by one that completes a line.
-/

namespace Hamstercam

open Lines Interaction ProgressParser

/-! ## The server -/

/-- What one `recv` into the array of 4096 bytes delivers.
Source: `progress_socket_server.cpp` `ProgressSocketServer::run` -/
structure Chunk where
  /-- The bytes; none of them at an orderly close. -/
  bytes : List Byte
  /-- The array has 4096 bytes. -/
  length_le : bytes.length ≤ 4096

/-- One turn of the loop over a connection, with what the system answers.
Source: `progress_socket_server.cpp` `ProgressSocketServer::run` -/
structure ConnTurn where
  /-- What `stop_requested_` reads. -/
  stop : Bool
  /-- What `poll` on the connection returns. -/
  poll : Int
  /-- What `recv` delivers; `none` at an error. -/
  recv : Option Chunk

/-- One turn of the accept loop, with what the system answers.
Source: `progress_socket_server.cpp` `ProgressSocketServer::run` -/
structure ListenTurn where
  /-- What `stop_requested_` reads. -/
  stop : Bool
  /-- What `poll` on the listening socket returns. -/
  poll : Int
  /-- What `accept` returns. -/
  accept : Int
  /-- The turns of the loop over the connection. -/
  conn : List ConnTurn

variable {F : Type} [Zero F]

/-- `stats_.connected.store(c)`.
Source: `progress_socket_server.cpp` `ProgressSocketServer::run` -/
def ProgressParser.setConnected (p : ProgressParser F) (c : Bool) : ProgressParser F :=
  { p with stats := { p.stats with connected := c } }

namespace ProgressSocketServer

section server

variable (stod : List Byte → Option (F × Nat))

/-- The loop over a connection. A list of turns that runs out ends it as a close does.
Source: `progress_socket_server.cpp` `ProgressSocketServer::run` -/
def serve (p : ProgressParser F) : List ConnTurn → ProgressParser F
  | [] => p
  | t :: turns =>
      if t.stop then p
      else if t.poll < 0 then p
      else if t.poll = 0 then serve p turns
      else match t.recv with
        | none => p
        | some chunk =>
            if chunk.bytes = [] then p else serve (p.feed stod chunk.bytes) turns

/-- The accept loop. Source: `progress_socket_server.cpp` `ProgressSocketServer::run` -/
def run (p : ProgressParser F) : List ListenTurn → ProgressParser F
  | [] => p
  | t :: turns =>
      if t.stop then p
      else if t.poll ≤ 0 then run p turns
      else if t.accept < 0 then run p turns
      else run ((serve stod (p.setConnected true) t.conn).setConnected false) turns

end server

/-- The chunks that the loop over a connection feeds. Source: none: infrastructure -/
def received : List ConnTurn → List (List Byte)
  | [] => []
  | t :: turns =>
      if t.stop then []
      else if t.poll < 0 then []
      else if t.poll = 0 then received turns
      else match t.recv with
        | none => []
        | some chunk => if chunk.bytes = [] then [] else chunk.bytes :: received turns

/-- The connections that are served, each with its chunks. Source: none: infrastructure -/
def connections : List ListenTurn → List (List (List Byte))
  | [] => []
  | t :: turns =>
      if t.stop then []
      else if t.poll ≤ 0 then connections turns
      else if t.accept < 0 then connections turns
      else received t.conn :: connections turns

end ProgressSocketServer

open ProgressSocketServer

/-! ## What the server does -/

variable {stod : List Byte → Option (F × Nat)} {p : ProgressParser F}
  {conns : List (List (List Byte))}

/-- Source: none: infrastructure -/
theorem serve_eq (turns : List ConnTurn) : serve stod p turns = feedAll stod p (received turns) := by
  induction turns generalizing p with
  | nil => rfl
  | cons t turns ih =>
      unfold serve received
      split_ifs
      · rfl
      · rfl
      · exact ih
      · rcases t.recv with _ | chunk
        · rfl
        · dsimp only
          split_ifs
          · rfl
          · exact ih

/-- One connection after the other. Source: none: infrastructure -/
theorem run_eq (turns : List ListenTurn) : run stod p turns =
    (connections turns).foldl
      (fun p chunks => (feedAll stod (p.setConnected true) chunks).setConnected false) p := by
  induction turns generalizing p with
  | nil => rfl
  | cons t turns ih =>
      unfold run connections
      split_ifs
      · rfl
      · exact ih
      · exact ih
      · rw [ih, serve_eq, List.foldl_cons]

/-- `parse_line` does not touch `connected`. Source: none: infrastructure -/
theorem parseLines_setConnected (c : Bool) (ls : List (List Byte)) :
    ls.foldl (parseLine stod) (p.setConnected c) =
      (ls.foldl (parseLine stod) p).setConnected c := by
  induction ls generalizing p with
  | nil => rfl
  | cons line ls ih =>
      have hline : (p.setConnected c).parseLine stod line =
          (p.parseLine stod line).setConnected c := by
        simp only [parseLine_eq, lineStore_stats, setConnected]
      rw [List.foldl_cons, hline, ih, List.foldl_cons]

/-- A server that is not connected stays so. Source: none: infrastructure -/
theorem ite_setConnected {c : Prop} [Decidable c] (hp : p.setConnected false = p) :
    (if c then p else p.setConnected false) = p := by
  rw [hp, ite_self]

/-- The parser after a list of connections: all chunks were fed into one buffer.
Source: none: infrastructure -/
theorem run_lines (turns : List ListenTurn) : run stod p turns =
    { (handedAll p.buffer (connections turns).flatten).foldl (parseLine stod)
        (if connections turns = [] then p else p.setConnected false) with
      buffer := keptAll p.buffer (connections turns).flatten } := by
  rw [run_eq]
  induction connections turns generalizing p with
  | nil => rfl
  | cons chunks conns ih =>
      have hone : (feedAll stod (p.setConnected true) chunks).setConnected false =
          { (handedAll p.buffer chunks).foldl (parseLine stod) (p.setConnected false) with
            buffer := keptAll p.buffer chunks } := by
        rw [feedAll_eq, parseLines_setConnected, parseLines_setConnected]
        rfl
      rw [List.foldl_cons, hone, ih, ite_setConnected, if_neg (List.cons_ne_nil _ _),
        List.flatten_cons, handedAll_append, List.foldl_append, keptAll_append]
      · simp only [parseLines_withBuffer]
      · rw [parseLines_setConnected]
        rfl

/-- Each connection for itself: its complete lines are parsed, and nothing is kept.
Source: none: abstract behaviour of `progress_socket_server.cpp` `ProgressSocketServer::run` -/
def separately (stod : List Byte → Option (F × Nat)) (p : ProgressParser F)
    (conns : List (List (List Byte))) : ProgressParser F :=
  conns.foldl (fun p chunks =>
    ((complete newline chunks.flatten).foldl (parseLine stod)
      (p.setConnected true)).setConnected false) p

/-- The complete lines of the connections. Source: none: infrastructure -/
def ownLines (conns : List (List (List Byte))) : List (List Byte) :=
  conns.flatMap fun chunks => complete newline chunks.flatten

/-- Source: none: infrastructure -/
theorem separately_lines : separately stod p conns =
    (ownLines conns).foldl (parseLine stod) (if conns = [] then p else p.setConnected false) := by
  unfold separately
  induction conns generalizing p with
  | nil => rfl
  | cons chunks conns ih =>
      have hone : ((complete newline chunks.flatten).foldl (parseLine stod)
          (p.setConnected true)).setConnected false =
            (complete newline chunks.flatten).foldl (parseLine stod) (p.setConnected false) := by
        rw [parseLines_setConnected, parseLines_setConnected]
        rfl
      have hlines : ownLines (chunks :: conns) =
          complete newline chunks.flatten ++ ownLines conns := List.flatMap_cons
      rw [List.foldl_cons, hone, ih, ite_setConnected, if_neg (List.cons_ne_nil _ _), hlines,
        List.foldl_append]
      rw [parseLines_setConnected]
      rfl

/-! ## Chunks with what their connection has pending -/

/-- The chunks of a connection, each with the bytes that the connection has sent since its last
newline; `own` is what it has sent before. Source: none: infrastructure -/
def fedFrom (own : List Byte) : List (List Byte) → List (List Byte × List Byte)
  | [] => []
  | chunk :: chunks => (own, chunk) :: fedFrom (pending newline (own ++ chunk)) chunks

/-- All chunks that are fed, each with what its own connection has pending.
Source: none: infrastructure -/
def fed (conns : List (List (List Byte))) : List (List Byte × List Byte) :=
  conns.flatMap (fedFrom [])

/-- The lines that a chunk completes for its own connection. Source: none: infrastructure -/
def completed (f : List Byte × List Byte) : List (List Byte) := complete newline (f.1 ++ f.2)

section fed

variable {own buffer : List Byte} {chunks : List (List Byte)}
  {fs : List (List Byte × List Byte)}

/-- Source: none: infrastructure -/
theorem fedFrom_chunks : (fedFrom own chunks).map Prod.snd = chunks := by
  induction chunks generalizing own with
  | nil => rfl
  | cons chunk chunks ih => rw [fedFrom, List.map_cons, ih]

/-- Source: none: infrastructure -/
theorem fedFrom_lines (h : newline ∉ own) :
    (fedFrom own chunks).flatMap completed = complete newline (own ++ chunks.flatten) := by
  induction chunks generalizing own with
  | nil => rw [List.flatten_nil, List.append_nil, complete_of_not_mem h, fedFrom, List.flatMap_nil]
  | cons chunk chunks ih =>
      rw [fedFrom, List.flatMap_cons, ih not_mem_pending, List.flatten_cons, ← List.append_assoc,
        complete_append (own ++ chunk), completed]

/-- Source: none: infrastructure -/
theorem newline_notMem_fedFrom (h : newline ∉ own) : ∀ f ∈ fedFrom own chunks, newline ∉ f.1 := by
  induction chunks generalizing own with
  | nil =>
      intro f hf
      simp [fedFrom] at hf
  | cons chunk chunks ih =>
      intro f hf
      rcases List.mem_cons.mp hf with rfl | hf
      · exact h
      · exact ih not_mem_pending f hf

/-- Source: none: infrastructure -/
theorem fed_chunks : (fed conns).map Prod.snd = conns.flatten := by
  induction conns with
  | nil => rfl
  | cons chunks conns ih =>
      rw [fed, List.flatMap_cons, List.map_append, fedFrom_chunks, List.flatten_cons, ← ih, fed]

/-- Source: none: infrastructure -/
theorem fed_lines : (fed conns).flatMap completed = ownLines conns := by
  induction conns with
  | nil => rfl
  | cons chunks conns ih =>
      rw [fed, List.flatMap_cons, List.flatMap_append, fedFrom_lines List.not_mem_nil, ownLines,
        List.flatMap_cons, ← fed, ih, List.nil_append, ownLines]

/-- A call hands over at most the lines that its chunk completes. Source: none: infrastructure -/
theorem length_handed_le (chunk : List Byte) (hb : newline ∉ buffer) (ho : newline ∉ own) :
    (handed buffer chunk).length ≤ (completed (own, chunk)).length := by
  have hown : (completed (own, chunk)).length = chunk.count newline := by
    rw [completed, length_complete, List.count_append, List.count_eq_zero_of_not_mem ho,
      Nat.zero_add]
  unfold handed
  split_ifs
  · exact Nat.zero_le _
  · rw [hown, length_complete, List.count_append, List.count_eq_zero_of_not_mem hb, Nat.zero_add]

/-- **One call.** It hands over what its chunk completes for its own connection just when the chunk
has no newline, or finds the connection's own bytes in the buffer and room for it.
Source: none: infrastructure -/
theorem handed_eq_completed_iff (chunk : List Byte) (hb : newline ∉ buffer) (ho : newline ∉ own) :
    handed buffer chunk = completed (own, chunk) ↔
      (newline ∈ chunk → buffer = own ∧ (own ++ chunk).length ≤ kMaxBufferedLine) := by
  unfold handed completed
  dsimp only
  split_ifs with hcap
  · constructor
    · intro h hc
      have hlen := congrArg List.length h
      have hpos := List.count_pos_iff.mpr hc
      rw [length_complete, List.count_append, List.length_nil] at hlen
      omega
    · intro h
      have hc : newline ∉ chunk := by
        intro hc
        obtain ⟨rfl, hle⟩ := h hc
        exact absurd hcap (Nat.not_lt.mpr hle)
      rw [complete_of_not_mem (by simp [ho, hc])]
  · rw [complete_append_inj hb ho]
    constructor
    · intro h hc
      obtain rfl := h hc
      exact ⟨rfl, Nat.not_lt.mp hcap⟩
    · intro h hc
      exact (h hc).1

/-- No call makes up for a line that another one lost. Source: none: infrastructure -/
theorem length_handedAll_le (hb : newline ∉ buffer) (ho : ∀ f ∈ fs, newline ∉ f.1) :
    (handedAll buffer (fs.map Prod.snd)).length ≤ (fs.flatMap completed).length := by
  induction fs generalizing buffer with
  | nil => exact Nat.le_refl _
  | cons f fs ih =>
      have hone := length_handed_le f.2 hb (ho f List.mem_cons_self)
      have hkept : newline ∉ kept buffer f.2 := newline_notMem_kept
      have hrest := ih hkept fun g hg => ho g (List.mem_cons_of_mem _ hg)
      rw [List.map_cons, handedAll, List.flatMap_cons, List.length_append, List.length_append]
      exact Nat.add_le_add hone hrest

/-- **A sequence of calls** hands over the lines of the connections just when every call does.
Source: none: infrastructure -/
theorem handedAll_eq_completed_iff (hb : newline ∉ buffer) (ho : ∀ f ∈ fs, newline ∉ f.1) :
    handedAll buffer (fs.map Prod.snd) = fs.flatMap completed ↔
      AtEach (fun before f => newline ∈ f.2 →
        keptAll buffer (before.map Prod.snd) = f.1 ∧
          (f.1 ++ f.2).length ≤ kMaxBufferedLine) fs := by
  induction fs generalizing buffer with
  | nil => simp [handedAll]
  | cons f fs ih =>
      obtain ⟨own, chunk⟩ := f
      have hown : newline ∉ own := ho (own, chunk) List.mem_cons_self
      have hos : ∀ f ∈ fs, newline ∉ f.1 := fun f hf => ho f (List.mem_cons_of_mem _ hf)
      have hkept : newline ∉ kept buffer chunk := newline_notMem_kept
      have hone := length_handed_le chunk hb hown
      have hrest := length_handedAll_le hkept hos
      rw [atEach_cons, List.map_cons, handedAll, List.flatMap_cons]
      apply Iff.trans _ (and_congr (handed_eq_completed_iff chunk hb hown) (ih hkept hos))
      constructor
      · intro h
        have hlen := congrArg List.length h
        rw [List.length_append, List.length_append] at hlen
        have hsame : (handed buffer chunk).length = (completed (own, chunk)).length := by
          dsimp only at hlen
          omega
        exact List.append_inj h hsame
      · rintro ⟨h₁, h₂⟩
        rw [h₁, h₂]

end fed

/-! ## When connections stay separate -/

/-- The run leaves the statistics, and hands over the lines, of the connections each parsed for
itself. Source: `progress_socket_server.cpp` `ProgressSocketServer::run` -/
def Separate (stod : List Byte → Option (F × Nat)) (p : ProgressParser F)
    (turns : List ListenTurn) : Prop :=
  (run stod p turns).stats = (separately stod p (connections turns)).stats ∧
    (run stod p turns).parsed = (separately stod p (connections turns)).parsed

/-- Every chunk with a newline finds in the buffer what its own connection has sent since its last
newline, nothing else, and does not take it past the cap.
Source: `progress_parser.cpp` `ProgressParser::feed` -/
def OwnLines (stod : List Byte → Option (F × Nat)) (p : ProgressParser F)
    (conns : List (List (List Byte))) : Prop :=
  AtEach (fun before f => newline ∈ f.2 →
    (feedAll stod p (before.map Prod.snd)).buffer = f.1 ∧
      (f.1 ++ f.2).length ≤ kMaxBufferedLine) (fed conns)

/-- The condition, in terms of all lines of the run. Source: none: infrastructure -/
theorem ownLines_iff_handedAll {stats : ProducerStats F} {clock : Nat → Int} :
    OwnLines stod (.new stats clock) conns ↔ handedAll [] conns.flatten = ownLines conns := by
  have hown : ∀ f ∈ fed conns, newline ∉ f.1 := by
    intro f hf
    obtain ⟨chunks, -, hf⟩ := List.mem_flatMap.mp hf
    exact newline_notMem_fedFrom List.not_mem_nil f hf
  have hlines := handedAll_eq_completed_iff List.not_mem_nil hown
  rw [fed_chunks, fed_lines] at hlines
  rw [hlines, OwnLines]
  simp only [feedAll_eq]
  rfl

/-- **Connections stay separate** just when every chunk with a newline finds the bytes of its own
connection in the buffer, and room for it. The buffer outlives the connection: the unterminated tail
of one that closed is still there when the next one sends its first line.
Source: `progress_socket_server.cpp` `ProgressSocketServer::run`, `progress_parser.cpp`
`ProgressParser::feed` -/
theorem connections_separate_iff (stod : List Byte → Option (F × Nat)) (stats : ProducerStats F)
    (clock : Nat → Int) (turns : List ListenTurn) :
    Separate stod (.new stats clock) turns ↔
      OwnLines stod (.new stats clock) (connections turns) := by
  rw [ownLines_iff_handedAll, Separate, run_lines, separately_lines]
  constructor
  · rintro ⟨-, hparsed⟩
    rw [parseLines_parsed, parseLines_parsed] at hparsed
    exact List.append_cancel_left hparsed
  · intro h
    rw [← h]
    exact ⟨rfl, rfl⟩

omit [Zero F] in
/-- Some bytes in front of all connections leave their lines as they are just when they are none, or
when nobody sends a newline after them; and so do the bytes of each connection for the later ones.
Source: none: infrastructure -/
theorem complete_eq_ownLines_iff {front : List Byte} (hf : newline ∉ front) :
    complete newline (front ++ conns.flatten.flatten) = ownLines conns ↔
      AtEach (fun served chunks => newline ∈ chunks.flatten →
        pending newline (front ++ served.flatten.flatten) = []) conns := by
  induction conns generalizing front with
  | nil =>
      rw [List.flatten_nil, List.flatten_nil, List.append_nil, complete_of_not_mem hf]
      simp [ownLines]
  | cons chunks conns ih =>
      have hlines : ownLines (chunks :: conns) =
          complete newline chunks.flatten ++ ownLines conns := List.flatMap_cons
      have hlen : (complete newline (front ++ chunks.flatten)).length =
          (complete newline chunks.flatten).length := by
        rw [length_complete, length_complete, List.count_append, List.count_eq_zero_of_not_mem hf,
          Nat.zero_add]
      have hfirst := complete_append_inj (l := chunks.flatten) hf List.not_mem_nil
      have hpending : newline ∉ pending newline (front ++ chunks.flatten) := not_mem_pending
      have hrest := ih hpending
      rw [List.nil_append] at hfirst
      rw [atEach_cons, List.flatten_cons, List.flatten_append, ← List.append_assoc, complete_append,
        hlines]
      simp only [List.flatten_cons, List.flatten_append, ← List.append_assoc,
        pending_append (front ++ chunks.flatten), List.flatten_nil, List.append_nil,
        pending_of_not_mem hf]
      apply Iff.trans _ (and_congr hfirst hrest)
      constructor
      · intro h
        exact List.append_inj h hlen
      · rintro ⟨h₁, h₂⟩
        rw [h₁, h₂]

/-- **Within the cap**, every chunk finds just the bytes of its own connection as long as no connection
that sends a newline comes after bytes that end in the middle of a line.
Source: `progress_parser.cpp` `ProgressParser::feed` -/
theorem ownLines_iff_of_withinCap {stats : ProducerStats F} {clock : Nat → Int}
    (h : WithinCap stod (.new stats clock) conns.flatten) :
    OwnLines stod (.new stats clock) conns ↔
      AtEach (fun served chunks => newline ∈ chunks.flatten →
        pending newline served.flatten.flatten = []) conns := by
  have hall : handedAll [] conns.flatten = complete newline conns.flatten.flatten :=
    (calls_within h List.not_mem_nil).1
  have hfront := @complete_eq_ownLines_iff conns [] List.not_mem_nil
  simp only [List.nil_append] at hfront
  rw [ownLines_iff_handedAll, hall, hfront]

/-- A producer that is killed in the middle of a line, and the first line of the next one.
Source: `progress_parser_test.cpp` `CounterResetOnProducerRestartIsVisibleNotSmoothed` -/
def restartTurns : List ListenTurn :=
  [⟨false, 1, 7, [⟨false, 1, some ⟨text "frame=12", by decide⟩⟩,
      ⟨false, 1, some ⟨[], by decide⟩⟩]⟩,
    ⟨false, 1, 7, [⟨false, 1, some ⟨text "frame=3\n", by decide⟩⟩,
      ⟨false, 1, some ⟨[], by decide⟩⟩]⟩]

/-- The parser sees `frame=12frame=3`, and the first frame count of the new producer is lost.
Source: `progress_socket_server.cpp` `ProgressSocketServer::run` -/
theorem connections_not_separate :
    ¬ Separate stodWhole (.new {} fun _ => 0) restartTurns ∧
      (run stodWhole (.new {} fun _ => 0) restartTurns).stats.framesTotal = 0 ∧
      (separately stodWhole (.new {} fun _ => 0)
        (connections restartTurns)).stats.framesTotal = 3 := by
  have hrun : (run stodWhole (.new {} fun _ => 0) restartTurns).stats.framesTotal = 0 := by
    rw [run_lines]
    decide
  have hsep : (separately stodWhole (.new {} fun _ => 0)
      (connections restartTurns)).stats.framesTotal = 3 := by
    decide
  refine ⟨fun h => ?_, hrun, hsep⟩
  rw [← h.1, hrun] at hsep
  exact absurd hsep (by decide)

end Hamstercam
