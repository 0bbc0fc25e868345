import Hamstercam.Exporter.Connections
import Hamstercam.Exporter.SocketFile
import Hamstercam.Http.Server
import Hamstercam.Lib.Lines

/-!
# The threads of the servers

What the threads of `HttpServer` and `ProgressSocketServer` do, one action after the other, and what the
progress server does with its sockets from its constructor to its destructor.

* `ServerAction` — a look at `stop_requested_`, or a call. `HttpServer.runActs` and
  `ProgressSocketServer.runActs` are the two loops.
* `startCalls`, `destroyCalls`, `life` — the calls on sockets of the progress server; `leads_life` — it leaves
  no descriptor behind, whatever the connections are and however the start fails.
* `pending_runActs` — what a loop still does after the last look that finds the flag clear: it polls once at
  most, and is done after a handful of calls.
-/

namespace Hamstercam

open Descriptors Lines
open HttpServer (actionsOf)

/-- What the thread of a server does. Source: `http_server.cpp` `HttpServer::run`,
`progress_socket_server.cpp` `ProgressSocketServer::run` -/
inductive ServerAction
  /-- `stop_requested_.load()` -/
  | look (stop : Bool)
  | call (c : SocketCall)
  deriving DecidableEq

/-- Source: none: infrastructure -/
def ServerAction.call? : ServerAction → Option SocketCall
  | .look _ => none
  | .call c => some c

/-- The calls among some actions. Source: none: infrastructure -/
def callsOf (acts : List ServerAction) : List SocketCall := acts.filterMap ServerAction.call?

/-- Source: none: infrastructure -/
@[simp] theorem callsOf_append (acts acts' : List ServerAction) :
    callsOf (acts ++ acts') = callsOf acts ++ callsOf acts' := List.filterMap_append

/-- Source: none: infrastructure -/
@[simp] theorem callsOf_map (calls : List SocketCall) : callsOf (calls.map .call) = calls := by
  rw [callsOf, List.filterMap_map]
  exact List.filterMap_some

/-- The action may block for the 200 ms of a poll. Source: `http_server.cpp` `HttpServer::run`,
`progress_socket_server.cpp` `ProgressSocketServer::run` -/
def ServerAction.isPoll : ServerAction → Bool
  | .call (.poll _) => true
  | _ => false

/-- The flag is found clear. Source: `http_server.cpp` `HttpServer::run` -/
abbrev flagClear : ServerAction := .look false

/-! ## The HTTP server -/

namespace HttpServer

variable {σ : Type} {handler : σ → List Byte → List Byte → HttpResponse}

/-- The loop, action by action. Source: `http_server.cpp` `HttpServer::run` -/
def runActs (handler : σ → List Byte → List Byte → HttpResponse) (listenFd : Int) :
    List (ServerTurn σ) → List ServerAction
  | [] => []
  | t :: ts =>
      .look t.stop ::
        if t.stop then []
        else (serveTurn handler listenFd t).1.map .call ++ runActs handler listenFd ts

/-- These are the calls of the loop. Source: `http_server.cpp` `HttpServer::run` -/
theorem callsOf_runActs (listenFd : Int) (turns : List (ServerTurn σ)) :
    callsOf (runActs handler listenFd turns) = (run handler listenFd turns).1 := by
  induction turns with
  | nil => rfl
  | cons t ts ih =>
      rw [runActs, run]
      by_cases hstop : t.stop = true
      · rw [if_pos hstop, if_pos hstop]
        rfl
      · rw [if_neg hstop, if_neg hstop]
        show callsOf ((serveTurn handler listenFd t).1.map .call ++ runActs handler listenFd ts) =
          (serveTurn handler listenFd t).1 ++ (run handler listenFd ts).1
        rw [callsOf_append, callsOf_map, ih]

end HttpServer

/-! ## The progress server -/

namespace ProgressSocketServer

/-- The calls on sockets of `start`. Source: `progress_socket_server.cpp` `ProgressSocketServer::start` -/
def startCalls (sys : SystemAnswers) (s : ProgressSocketServer) (w : World) : List SocketCall :=
  match sys.socket with
  | .error _ => [.socket (-1)]
  | .ok fd =>
      if sunPathSize ≤ s.socketPath.length then [.socket fd, .close fd]
      else
        match (w.files.unlink (cPath s.socketPath)).bind (cPath s.socketPath) sys.bind with
        | .error _ => [.socket fd, .bind fd, .close fd]
        | .ok _ =>
            match sys.listen with
            | some _ => [.socket fd, .bind fd, .listen fd, .close fd]
            | none => [.socket fd, .bind fd, .listen fd]

/-- The loop over a connection, action by action. A list of turns that runs out ends it as a close does.
Source: `progress_socket_server.cpp` `ProgressSocketServer::run` -/
def serveActs (conn : Int) : List ConnTurn → List ServerAction
  | [] => []
  | t :: turns =>
      .look t.stop ::
        if t.stop then []
        else .call (.poll conn) ::
          if t.poll < 0 then []
          else if t.poll = 0 then serveActs conn turns
          else .call (.recv conn) :: match t.recv with
            | none => []
            | some chunk => if chunk.bytes = [] then [] else serveActs conn turns

/-- The accept loop, action by action. Source: `progress_socket_server.cpp` `ProgressSocketServer::run` -/
def runActs (listenFd : Int) : List ListenTurn → List ServerAction
  | [] => []
  | t :: turns =>
      .look t.stop ::
        if t.stop then []
        else .call (.poll listenFd) ::
          if t.poll ≤ 0 then runActs listenFd turns
          else .call (.accept listenFd t.accept) ::
            if t.accept < 0 then runActs listenFd turns
            else serveActs t.accept t.conn ++ .call (.close t.accept) :: runActs listenFd turns

/-- The calls on sockets of the destructor.
Source: `progress_socket_server.cpp` `ProgressSocketServer::~ProgressSocketServer` -/
def destroyCalls (s : ProgressSocketServer) : List SocketCall :=
  match s.listenFd with
  | some fd => [.close fd]
  | none => []

/-- All calls on sockets from `start` to the destructor: the loop runs only if the start succeeds.
Source: `exporter_main.cpp` `main` -/
def life (sys : SystemAnswers) (path : List Byte) (w : World) (turns : List ListenTurn) : List SocketCall :=
  let s := (start sys (new path) w).2.1
  startCalls sys (new path) w ++ (match s.listenFd with
    | some fd => callsOf (runActs fd turns)
    | none => []) ++ s.destroyCalls

section descriptors

variable {sys : SystemAnswers} {path : List Byte} {w : World} {limit : Nat} {held : List Int}

/-- **What `start` leaves**: the descriptor that it listens on if it succeeds, and none if it fails.
Source: `progress_socket_server.cpp` `ProgressSocketServer::start` -/
theorem leads_start (hroom : held.length < limit) :
    let out := start sys (new path) w
    (out.1 = true → ∃ fd, out.2.1.listenFd = some fd ∧
      Leads limit held (actionsOf (startCalls sys (new path) w)) (fd :: held)) ∧
    (out.1 = false → out.2.1.listenFd = none ∧
      Leads limit held (actionsOf (startCalls sys (new path) w)) held) := by
  have hgiven : ∀ fd : Nat, given (fd : Int) = [.acquire (fd : Int)] := fun fd => if_pos (Int.natCast_nonneg fd)
  have hnothing : given (-1) = [] := if_neg (by decide)
  have huses : ∀ fd : Int, ∀ acts : List (Action Int), (∀ x ∈ acts, x = .use fd) →
      Leads limit (fd :: held) acts (fd :: held) := fun fd acts h =>
    leads_uses fun x hx => ⟨fd, List.mem_cons_self, h x hx⟩
  intro out
  simp only [out]
  unfold start startCalls new
  cases sys.socket with
  | error errno =>
      refine ⟨fun h => absurd h Bool.false_ne_true, fun _ => ⟨rfl, ?_⟩⟩
      show Leads limit held (given (-1) ++ []) held
      rw [hnothing]
      exact leads_nil.mpr rfl
  | ok fd =>
      dsimp only
      by_cases hlong : sunPathSize ≤ path.length
      · rw [if_pos hlong, if_pos hlong]
        refine ⟨fun h => absurd h Bool.false_ne_true, fun _ => ⟨rfl, ?_⟩⟩
        show Leads limit held (given fd ++ [.release (fd : Int)]) held
        rw [hgiven]
        exact .session hroom (leads_nil.mpr rfl)
      · rw [if_neg hlong, if_neg hlong]
        cases (w.files.unlink (cPath path)).bind (cPath path) sys.bind with
        | error errno =>
            refine ⟨fun h => absurd h Bool.false_ne_true, fun _ => ⟨rfl, ?_⟩⟩
            show Leads limit held (given fd ++ ([.use (fd : Int)] ++ [.release (fd : Int)])) held
            rw [hgiven]
            exact .session hroom (huses fd _ (by simp))
        | ok files =>
            cases sys.listen with
            | some errno =>
                refine ⟨fun h => absurd h Bool.false_ne_true, fun _ => ⟨rfl, ?_⟩⟩
                show Leads limit held (given fd ++ ([.use (fd : Int), .use (fd : Int)] ++
                  [.release (fd : Int)])) held
                rw [hgiven]
                exact .session hroom (huses fd _ (by simp))
            | none =>
                refine ⟨fun _ => ⟨fd, rfl, ?_⟩, fun h => absurd h.symm Bool.false_ne_true⟩
                show Leads limit held (given fd ++ [.use (fd : Int), .use (fd : Int)]) (fd :: held)
                rw [hgiven]
                exact .acquire hroom (huses fd _ (by simp))

/-- The loop over a connection only uses its descriptor.
Source: `progress_socket_server.cpp` `ProgressSocketServer::run` -/
theorem actionsOf_serveActs (conn : Int) (turns : List ConnTurn) :
    ∀ x ∈ actionsOf (callsOf (serveActs conn turns)), x = .use conn := by
  induction turns with
  | nil => exact fun x hx => absurd hx List.not_mem_nil
  | cons t turns ih =>
      have hone : ∀ {c : SocketCall} {acts : List ServerAction}, c.actions = [.use conn] →
          (∀ x ∈ actionsOf (callsOf acts), x = .use conn) →
          ∀ x ∈ actionsOf (callsOf (.call c :: acts)), x = .use conn := by
        intro c acts hc hacts x hx
        have hcons : actionsOf (callsOf (.call c :: acts)) = .use conn :: actionsOf (callsOf acts) := by
          show c.actions ++ actionsOf (callsOf acts) = _
          rw [hc]
          rfl
        rw [hcons] at hx
        exact (List.mem_cons.mp hx).elim id (hacts x)
      have hnone : ∀ x ∈ actionsOf (callsOf []), x = .use conn := fun x hx => absurd hx List.not_mem_nil
      rw [serveActs]
      show ∀ x ∈ actionsOf (callsOf (if t.stop then [] else _)), x = .use conn
      split
      · exact hnone
      · refine hone rfl ?_
        split
        · exact hnone
        · split
          · exact ih
          · refine hone rfl ?_
            split
            · exact hnone
            · split
              · exact hnone
              · exact ih

/-- The accept loop leaves no descriptor behind. Source: `progress_socket_server.cpp`
`ProgressSocketServer::run` -/
theorem leads_runActs {listenFd : Int} (hlisten : listenFd ∈ held) (hroom : held.length < limit)
    (turns : List ListenTurn) : Leads limit held (actionsOf (callsOf (runActs listenFd turns))) held := by
  induction turns with
  | nil => exact leads_nil.mpr rfl
  | cons t turns ih =>
      rw [runActs]
      show Leads limit held (actionsOf (callsOf (if t.stop then [] else _))) held
      split
      · exact leads_nil.mpr rfl
      · show Leads limit held (.use listenFd :: actionsOf (callsOf (if t.poll ≤ 0 then _ else _))) held
        refine .use hlisten ?_
        split
        · exact ih
        · show Leads limit held (.use listenFd :: (given t.accept ++
            actionsOf (callsOf (if t.accept < 0 then _ else _)))) held
          refine .use hlisten ?_
          split
          · next hrefused =>
              have hnothing : given t.accept = [] := if_neg (Int.not_le.mpr hrefused)
              rw [hnothing]
              exact ih
          · next haccepted =>
              have hgiven : given t.accept = [.acquire t.accept] := if_pos (Int.not_lt.mp haccepted)
              have hserved : Leads limit held (.acquire t.accept ::
                  (actionsOf (callsOf (serveActs t.accept t.conn)) ++ [.release t.accept])) held :=
                .session hroom (leads_uses fun x hx =>
                  ⟨t.accept, List.mem_cons_self, actionsOf_serveActs t.accept t.conn x hx⟩)
              have hsplit : given t.accept ++ actionsOf (callsOf (serveActs t.accept t.conn ++
                  .call (.close t.accept) :: runActs listenFd turns)) =
                  .acquire t.accept :: (actionsOf (callsOf (serveActs t.accept t.conn)) ++
                    [.release t.accept]) ++ actionsOf (callsOf (runActs listenFd turns)) := by
                rw [hgiven, callsOf_append, actionsOf, List.flatMap_append]
                simp [callsOf, actionsOf, ServerAction.call?, SocketCall.actions]
              rw [hsplit]
              exact hserved.trans ih

/-- **The progress server leaves no descriptor behind**, however its start fails, whatever its connections
are. Source: `progress_socket_server.cpp` `ProgressSocketServer` -/
theorem leads_life (turns : List ListenTurn) : Leads 2 [] (actionsOf (life sys path w turns)) [] := by
  obtain ⟨hstarted, hfailed⟩ := @leads_start sys path w 2 [] Nat.two_pos
  simp only [life, actionsOf, List.flatMap_append] at hstarted hfailed ⊢
  cases hout : (start sys (new path) w).1 with
  | true =>
      obtain ⟨fd, hfd, hopen⟩ := hstarted hout
      rw [destroyCalls, hfd]
      exact (hopen.trans (leads_runActs List.mem_cons_self Nat.one_lt_two turns)).trans leads_release
  | false =>
      obtain ⟨hfd, hopen⟩ := hfailed hout
      rw [destroyCalls, hfd]
      exact (hopen.trans (leads_nil.mpr rfl)).trans (leads_nil.mpr rfl)

end descriptors

end ProgressSocketServer

/-! ## After the last look that finds the flag clear -/

/-- How many polls there are. Source: none: infrastructure -/
def polls (acts : List ServerAction) : Nat := acts.countP ServerAction.isPoll

/-- There are at most `n` actions, and at most `k` of them poll. Source: none: infrastructure -/
def Short (n k : Nat) (acts : List ServerAction) : Prop := acts.length ≤ n ∧ polls acts ≤ k

section pending

variable {acts acts' front tail : List ServerAction} {n k n' k' : Nat}

/-- Source: none: infrastructure -/
theorem Short.append (h : Short n k acts) (h' : Short n' k' acts') :
    Short (n + n') (k + k') (acts ++ acts') := by
  refine ⟨?_, ?_⟩
  · rw [List.length_append]
    exact Nat.add_le_add h.1 h'.1
  · rw [polls, List.countP_append]
    exact Nat.add_le_add h.2 h'.2

/-- Source: none: infrastructure -/
theorem Short.mono (h : Short n k acts) (hn : n ≤ n') (hk : k ≤ k') : Short n' k' acts :=
  ⟨h.1.trans hn, h.2.trans hk⟩

/-- Source: none: infrastructure -/
theorem pending_flagClear (acts : List ServerAction) : pending flagClear (flagClear :: acts) = pending flagClear acts :=
  @pending_line _ _ flagClear acts []

/-- Source: none: infrastructure -/
theorem pending_after (front : List ServerAction) (h : flagClear ∈ acts) :
    pending flagClear (front ++ acts) = pending flagClear acts := by
  obtain ⟨first, rest, rfl, -⟩ := List.eq_append_cons_of_mem h
  rw [← List.append_assoc, pending_line, pending_line]

/-- Source: none: infrastructure -/
theorem Short.pending (h : Short n k acts) (hclear : flagClear ∉ acts) : Short n k (pending flagClear acts) := by
  rwa [pending_of_not_mem hclear]

end pending

namespace HttpServer

variable {σ : Type} {handler : σ → List Byte → List Byte → HttpResponse}

/-- A turn polls once. Source: `http_server.cpp` `HttpServer::run` -/
theorem short_serveTurn (listenFd : Int) (t : ServerTurn σ) :
    Short 5 1 ((serveTurn handler listenFd t).1.map .call) ∧
      flagClear ∉ (serveTurn handler listenFd t).1.map .call := by
  refine ⟨?_, by simp⟩
  unfold serveTurn
  split_ifs
  · exact ⟨by simp, Nat.le_refl 1⟩
  · exact ⟨by simp, Nat.le_refl 1⟩
  · dsimp only
    by_cases hanswered : (converse handler t).answer.isSome = true
    · rw [if_pos hanswered]
      exact ⟨Nat.le_refl 5, Nat.le_refl 1⟩
    · rw [if_neg hanswered]
      exact ⟨by simp, Nat.le_refl 1⟩

/-- A loop that never finds the flag clear does nothing. Source: `http_server.cpp` `HttpServer::run` -/
theorem short_runActs {listenFd : Int} {turns : List (ServerTurn σ)}
    (h : flagClear ∉ runActs handler listenFd turns) : Short 1 0 (runActs handler listenFd turns) := by
  cases turns with
  | nil => exact ⟨Nat.zero_le 1, Nat.le_refl 0⟩
  | cons t ts =>
      rw [runActs] at h ⊢
      cases hstop : t.stop with
      | true => exact ⟨Nat.le_refl 1, Nat.le_refl 0⟩
      | false => exact absurd (hstop ▸ List.mem_cons_self) h

/-- **After the last look that finds the flag clear** the loop polls once at most, and talks to one client.
Source: `http_server.cpp` `HttpServer::run` -/
theorem pending_runActs (listenFd : Int) (turns : List (ServerTurn σ)) :
    Short 6 1 (pending flagClear (runActs handler listenFd turns)) := by
  induction turns with
  | nil => exact ⟨by simp [runActs], by simp [runActs, polls]⟩
  | cons t ts ih =>
      obtain ⟨hturn, hclear⟩ := @short_serveTurn σ handler listenFd t
      rw [runActs]
      cases hstop : t.stop with
      | true =>
          have hone : Short 6 1 [ServerAction.look true] := ⟨by decide, by decide⟩
          exact hone.pending (by decide)
      | false =>
          show Short 6 1 (pending flagClear (flagClear ::
            ((serveTurn handler listenFd t).1.map .call ++ runActs handler listenFd ts)))
          rw [pending_flagClear]
          by_cases hmem : flagClear ∈ runActs handler listenFd ts
          · rw [pending_after _ hmem]
            exact ih
          · refine (hturn.append (short_runActs hmem)).pending fun h => ?_
            exact (List.mem_append.mp h).elim hclear hmem

end HttpServer

namespace ProgressSocketServer

/-- A loop that never finds the flag clear does nothing.
Source: `progress_socket_server.cpp` `ProgressSocketServer::run` -/
theorem short_runActs {listenFd : Int} {turns : List ListenTurn}
    (h : flagClear ∉ runActs listenFd turns) : Short 1 0 (runActs listenFd turns) := by
  cases turns with
  | nil => exact ⟨Nat.zero_le 1, Nat.le_refl 0⟩
  | cons t ts =>
      rw [runActs] at h ⊢
      cases hstop : t.stop with
      | true => exact ⟨Nat.le_refl 1, Nat.le_refl 0⟩
      | false => exact absurd (hstop ▸ List.mem_cons_self) h

/-- The loop over a connection, with what stands before it since the last look and what comes after it.
Source: `progress_socket_server.cpp` `ProgressSocketServer::run` -/
theorem pending_serveActs {conn : Int} {front tail : List ServerAction} (turns : List ConnTurn)
    (hfront : Short 2 1 front) (hclear : flagClear ∉ front) (htail : Short 2 0 tail) (hlast : flagClear ∉ tail) :
    Short 5 1 (pending flagClear (front ++ (serveActs conn turns ++ tail))) := by
  -- where the loop ends without another look
  have hends : ∀ {front : List ServerAction}, Short 2 1 front → flagClear ∉ front →
      Short 5 1 (pending flagClear (front ++ ([] ++ tail))) := by
    intro front hfront hclear
    refine ((hfront.append htail).mono (by decide) (Nat.le_refl 1)).pending fun h => ?_
    exact (List.mem_append.mp h).elim hclear hlast
  have hpoll : Short 2 1 [ServerAction.call (.poll conn)] ∧
      flagClear ∉ [ServerAction.call (.poll conn)] := ⟨⟨by simp, Nat.le_refl 1⟩, by simp⟩
  have hrecv : Short 2 1 [ServerAction.call (.poll conn), .call (.recv conn)] ∧
      flagClear ∉ [ServerAction.call (.poll conn), .call (.recv conn)] :=
    ⟨⟨by simp, Nat.le_refl 1⟩, by simp⟩
  induction turns generalizing front with
  | nil => exact hends hfront hclear
  | cons t turns ih =>
      rw [serveActs]
      cases hstop : t.stop with
      | true =>
          have hlook : Short 1 0 [ServerAction.look true] := ⟨Nat.le_refl 1, Nat.le_refl 0⟩
          refine (hfront.append (hlook.append htail)).pending fun h => ?_
          rcases List.mem_append.mp h with h | h
          · exact hclear h
          · exact hlast (by simpa using h)
      | false =>
          show Short 5 1 (pending flagClear (front ++ flagClear :: (.call (.poll conn) ::
            (if t.poll < 0 then [] else _) ++ tail)))
          rw [pending_line]
          split
          · exact hends hpoll.1 hpoll.2
          · split
            · exact ih hpoll.1 hpoll.2
            · split
              · exact hends hrecv.1 hrecv.2
              · split
                · exact hends hrecv.1 hrecv.2
                · exact ih hrecv.1 hrecv.2

/-- **After the last look that finds the flag clear** the loop polls once at most.
Source: `progress_socket_server.cpp` `ProgressSocketServer::run` -/
theorem pending_runActs (listenFd : Int) (turns : List ListenTurn) :
    Short 5 1 (pending flagClear (runActs listenFd turns)) := by
  induction turns with
  | nil => exact ⟨by simp [runActs], by simp [runActs, polls]⟩
  | cons t ts ih =>
      rw [runActs]
      cases hstop : t.stop with
      | true =>
          have hone : Short 5 1 [ServerAction.look true] := ⟨by decide, by decide⟩
          exact hone.pending (by decide)
      | false =>
          show Short 5 1 (pending flagClear (flagClear :: (.call (.poll listenFd) ::
            if t.poll ≤ 0 then runActs listenFd ts else .call (.accept listenFd t.accept) ::
              if t.accept < 0 then runActs listenFd ts
              else serveActs t.accept t.conn ++ .call (.close t.accept) :: runActs listenFd ts)))
          have hpoll : Short 1 1 [ServerAction.call (.poll listenFd)] := ⟨by simp, Nat.le_refl 1⟩
          have haccept : Short 2 1 [ServerAction.call (.poll listenFd), .call (.accept listenFd t.accept)] :=
            ⟨by simp, Nat.le_refl 1⟩
          rw [pending_flagClear]
          by_cases hmem : flagClear ∈ runActs listenFd ts
          · split
            · exact pending_after [_] hmem ▸ ih
            · split
              · exact pending_after [_, _] hmem ▸ ih
              · have hsplit : ServerAction.call (.poll listenFd) :: .call (.accept listenFd t.accept) ::
                    (serveActs t.accept t.conn ++ .call (.close t.accept) :: runActs listenFd ts) =
                    (.call (.poll listenFd) :: .call (.accept listenFd t.accept) ::
                      (serveActs t.accept t.conn ++ [.call (.close t.accept)])) ++ runActs listenFd ts := by
                  simp
                rw [hsplit, pending_after _ hmem]
                exact ih
          · have hrest := short_runActs hmem
            split
            · refine ((hpoll.append hrest).mono (by decide) (Nat.le_refl 1)).pending ?_
              simpa using hmem
            · split
              · refine ((haccept.append hrest).mono (by decide) (Nat.le_refl 1)).pending ?_
                simpa using hmem
              · have hclose : Short 1 0 [ServerAction.call (.close t.accept)] := ⟨by simp, Nat.le_refl 0⟩
                exact pending_serveActs t.conn haccept (by simp) (hclose.append hrest) (by simpa using hmem)

end ProgressSocketServer

end Hamstercam
