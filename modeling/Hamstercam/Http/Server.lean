import Hamstercam.Http.Response
import Hamstercam.Lib.Descriptors

/-!
# The HTTP server

`HttpServer` of `http_server.cpp`, from its constructor to its destructor.

* `splitHostPort` cuts an address at its last colon.
* `start` tries the candidates of `getaddrinfo` in order; a `Candidate` comes with the answers of the
  calls that are made for it. `started_iff` says which candidate is taken.
* A `ServerTurn` is one turn of the loop of `run`, with the answers of its calls; `σ` is what the handler
  sees of the program at that time. A `Conversation` is what happens on one connection.
* `SocketCall` — the calls on sockets, with the descriptors they give. `server_descriptors` — over the whole
  life of a server every descriptor is closed as often as it was opened.
-/

namespace Hamstercam

open Decimal Descriptors

/-! ## The address -/

/-- `s.rfind(c)` Source: `http_server.cpp` `split_host_port` -/
def rfind (c : Byte) (s : List Byte) : Option Nat :=
  (s.reverse.findIdx? fun d => d == c).map fun k => s.length - 1 - k

/-- The host and the port. Source: `http_server.cpp` `split_host_port` -/
def splitHostPort (address : List Byte) : Option (List Byte × List Byte) :=
  match rfind 58 address with
  | none => none
  | some colon => some (address.take colon, address.drop (colon + 1))

/-! ## The calls -/

/-- A call on a socket. `socket` and `accept` come with the descriptor they answer, which is negative if
they fail; `recv` stands for the calls of one `read_request_line`, and `send` for those of one
`write_response`. Source: `http_server.cpp` -/
inductive SocketCall
  | socket (answer : Int)
  | setsockopt (fd : Int)
  | bind (fd : Int)
  | listen (fd : Int)
  | poll (fd : Int)
  | accept (fd : Int) (answer : Int)
  | recv (fd : Int)
  | send (fd : Int)
  | close (fd : Int)
  deriving DecidableEq

/-- A call that answers a descriptor gives it to the program. Source: none: infrastructure -/
def given (answer : Int) : List (Action Int) := if 0 ≤ answer then [.acquire answer] else []

/-- What a call does with descriptors. Source: none: infrastructure -/
def SocketCall.actions : SocketCall → List (Action Int)
  | .socket answer => given answer
  | .setsockopt fd => [.use fd]
  | .bind fd => [.use fd]
  | .listen fd => [.use fd]
  | .poll fd => [.use fd]
  | .accept fd answer => .use fd :: given answer
  | .recv fd => [.use fd]
  | .send fd => [.use fd]
  | .close fd => [.release fd]

/-! ## The server -/

/-- One address of `getaddrinfo`, with the answers of the calls that are made for it.
Source: `http_server.cpp` `HttpServer::start` -/
structure Candidate where
  socket : Int
  bind : Int
  listen : Int

/-- Source: `http_server.hpp` `HttpServer` -/
structure HttpServer where
  /-- `address_` -/
  address : List Byte
  /-- `listen_fd_` -/
  listenFd : Int := -1

namespace HttpServer

/-- The loop over the candidates: whether one of them listens, `listen_fd_` after it, and the calls.
Source: `http_server.cpp` `HttpServer::start` -/
def startLoop (listenFd : Int) : List Candidate → Bool × Int × List SocketCall
  | [] => (false, listenFd, [])
  | rp :: rest =>
      if rp.socket < 0 then
        let (started, fd, calls) := startLoop rp.socket rest
        (started, fd, .socket rp.socket :: calls)
      else
        let opening := [SocketCall.socket rp.socket, .setsockopt rp.socket, .bind rp.socket] ++
          (if rp.bind = 0 then [.listen rp.socket] else [])
        if rp.bind = 0 ∧ rp.listen = 0 then (true, rp.socket, opening)
        else
          let (started, fd, calls) := startLoop (-1) rest
          (started, fd, opening ++ [.close rp.socket] ++ calls)

/-- `c_str()`: the system reads a text up to the first NUL. Source: `http_server.cpp` `HttpServer::start` -/
def cString (s : List Byte) : List Byte := s.takeWhile (· != 0)

/-- `getaddrinfo` answers the candidates for a host and a port, or fails.
Source: `http_server.cpp` `HttpServer::start` -/
def start (getaddrinfo : List Byte → List Byte → Option (List Candidate)) (s : HttpServer) :
    Bool × HttpServer × List SocketCall :=
  match splitHostPort s.address with
  | none => (false, s, [])
  | some (host, port) =>
      match getaddrinfo (cString host) (cString port) with
      | none => (false, s, [])
      | some result =>
          let (started, fd, calls) := startLoop s.listenFd result
          (started, { s with listenFd := fd }, calls)

end HttpServer

/-- One turn of the loop: what `stop_requested_.load()`, `poll` and `accept` answer, the client, and what
the handler sees. Source: `http_server.cpp` `HttpServer::run` -/
structure ServerTurn (σ : Type) where
  stop : Bool
  poll : Int
  accept : Int
  recv : Client
  seen : σ
  send : Receiver

/-- What happens on one connection: the answer of the handler, if the request line could be read, and what
the client is sent. Source: `http_server.cpp` `HttpServer::run` -/
structure Conversation where
  answer : Option HttpResponse
  sent : List Byte
  deriving DecidableEq

namespace HttpServer

variable {σ : Type}

/-- From `accept` to `close`. Source: `http_server.cpp` `HttpServer::run` -/
def converse (handler : σ → List Byte → List Byte → HttpResponse) (t : ServerTurn σ) : Conversation :=
  match (readRequestLine t.recv).1 with
  | none => ⟨none, []⟩
  | some (method, path) =>
      let resp := handler t.seen method path
      ⟨some resp, writeResponse t.send resp⟩

/-- One turn: the calls, and the conversation if there is one.
Source: `http_server.cpp` `HttpServer::run` -/
def serveTurn (handler : σ → List Byte → List Byte → HttpResponse) (listenFd : Int) (t : ServerTurn σ) :
    List SocketCall × List Conversation :=
  if t.poll ≤ 0 then ([.poll listenFd], [])
  else if t.accept < 0 then ([.poll listenFd, .accept listenFd t.accept], [])
  else
    let c := converse handler t
    ([.poll listenFd, .accept listenFd t.accept, .recv t.accept] ++
      (if c.answer.isSome then [.send t.accept] else []) ++ [.close t.accept], [c])

/-- The loop, up to the turn that sees the request to stop.
Source: `http_server.cpp` `HttpServer::run` -/
def run (handler : σ → List Byte → List Byte → HttpResponse) (listenFd : Int) :
    List (ServerTurn σ) → List SocketCall × List Conversation
  | [] => ([], [])
  | t :: ts =>
      if t.stop then ([], [])
      else
        let (calls, cs) := serveTurn handler listenFd t
        let (later, ds) := run handler listenFd ts
        (calls ++ later, cs ++ ds)

/-- The destructor. Source: `http_server.cpp` `HttpServer::~HttpServer` -/
def destroy (s : HttpServer) : List SocketCall := if 0 ≤ s.listenFd then [.close s.listenFd] else []

/-- All calls from `start` to the destructor: the loop runs only if the start succeeds.
Source: `main.cpp` `main`, `exporter_main.cpp` `main` -/
def life (handler : σ → List Byte → List Byte → HttpResponse)
    (getaddrinfo : List Byte → List Byte → Option (List Candidate)) (address : List Byte)
    (turns : List (ServerTurn σ)) : List SocketCall :=
  let (started, s, calls) := start getaddrinfo { address := address }
  calls ++ (if started then (run handler s.listenFd turns).1 else []) ++ s.destroy

end HttpServer

/-- A turn in which a client is accepted. Source: `http_server.cpp` `HttpServer::run` -/
def ServerTurn.Accepted {σ : Type} (t : ServerTurn σ) : Prop := 0 < t.poll ∧ 0 ≤ t.accept

instance {σ : Type} (t : ServerTurn σ) : Decidable t.Accepted := inferInstanceAs (Decidable (_ ∧ _))

/-! ## The address, taken apart -/

variable {address host port : List Byte}

/-- Source: `http_server.cpp` `split_host_port` -/
theorem rfind_append {c : Byte} (hport : c ∉ port) :
    rfind c (host ++ c :: port) = some host.length := by
  have hskip : (host ++ c :: port).reverse = port.reverse ++ c :: host.reverse := by simp
  have hfirst : (port.reverse ++ c :: host.reverse).findIdx? (fun d => d == c) = some port.length := by
    rw [List.findIdx?_append]
    have hnone : port.reverse.findIdx? (fun d => d == c) = none := by
      rw [List.findIdx?_eq_none_iff]
      intro d hd
      have hne : d ≠ c := by
        rintro rfl
        exact hport (List.mem_reverse.mp hd)
      simpa using hne
    rw [hnone, List.findIdx?_cons]
    simp
  rw [rfind, hskip, hfirst, Option.map_some]
  simp only [List.length_append, List.length_cons]
  congr 1
  omega

/-- Source: `http_server.cpp` `split_host_port` -/
theorem splitHostPort_append (hport : 58 ∉ port) :
    splitHostPort (host ++ 58 :: port) = some (host, port) := by
  have hdrop : (host ++ 58 :: port).drop (host.length + 1) = port := by
    rw [← List.drop_drop, List.drop_left]
    rfl
  rw [splitHostPort, rfind_append hport]
  simp only [List.take_left, hdrop]

/-- **An address is cut at its last colon.** Source: `http_server.cpp` `split_host_port` -/
theorem splitHostPort_eq_some :
    splitHostPort address = some (host, port) ↔ address = host ++ 58 :: port ∧ 58 ∉ port := by
  constructor
  · intro h
    by_cases hcolon : 58 ∈ address
    · obtain ⟨back, front, hsplit, hback⟩ :=
        List.eq_append_cons_of_mem (List.mem_reverse.mpr hcolon)
      have haddress : address = front.reverse ++ 58 :: back.reverse := by
        rw [← List.reverse_reverse address, hsplit]
        simp
      have hport : 58 ∉ back.reverse := fun hmem => hback (List.mem_reverse.mp hmem)
      rw [haddress, splitHostPort_append hport] at h
      obtain ⟨rfl, rfl⟩ := Prod.mk.inj (Option.some.inj h)
      exact ⟨haddress, hport⟩
    · have hnone : rfind 58 address = none := by
        rw [rfind, Option.map_eq_none_iff, List.findIdx?_eq_none_iff]
        intro d hd
        have hne : d ≠ 58 := by
          rintro rfl
          exact hcolon (List.mem_reverse.mp hd)
        simpa using hne
      rw [splitHostPort, hnone] at h
      cases h
  · rintro ⟨rfl, hport⟩
    exact splitHostPort_append hport

/-! ## The start -/

/-- All calls for a candidate succeed. Source: `http_server.cpp` `HttpServer::start` -/
def Candidate.Serves (rp : Candidate) : Prop := 0 ≤ rp.socket ∧ rp.bind = 0 ∧ rp.listen = 0

instance (rp : Candidate) : Decidable rp.Serves := inferInstanceAs (Decidable (_ ∧ _ ∧ _))

namespace HttpServer

variable {σ : Type} {handler : σ → List Byte → List Byte → HttpResponse}
  {getaddrinfo : List Byte → List Byte → Option (List Candidate)} {held : List Int} {limit : Nat}

/-- **The loop takes the first candidate that serves**, and no descriptor is left if there is none.
Source: `http_server.cpp` `HttpServer::start` -/
theorem startLoop_found (listenFd : Int) (result : List Candidate) :
    match result.find? fun rp => decide rp.Serves with
    | some rp => (startLoop listenFd result).1 = true ∧ (startLoop listenFd result).2.1 = rp.socket
    | none => (startLoop listenFd result).1 = false ∧
        (listenFd < 0 → (startLoop listenFd result).2.1 < 0) := by
  induction result generalizing listenFd with
  | nil => exact ⟨rfl, id⟩
  | cons rp rest ih =>
      rw [startLoop]
      by_cases hsocket : rp.socket < 0
      · have hnot : ¬ rp.Serves := fun h => absurd h.1 (by omega)
        rw [if_pos hsocket, List.find?_cons_of_neg (by simpa using hnot)]
        have hrest := ih rp.socket
        cases hfind : rest.find? fun rp => decide rp.Serves with
        | some c =>
            rw [hfind] at hrest
            exact hrest
        | none =>
            rw [hfind] at hrest
            exact ⟨hrest.1, fun _ => hrest.2 hsocket⟩
      · rw [if_neg hsocket]
        by_cases hboth : rp.bind = 0 ∧ rp.listen = 0
        · have hserves : rp.Serves := ⟨Int.not_lt.mp hsocket, hboth⟩
          rw [List.find?_cons_of_pos (by simpa using hserves), if_pos hboth]
          exact ⟨rfl, rfl⟩
        · have hnot : ¬ rp.Serves := fun h => hboth h.2
          rw [List.find?_cons_of_neg (by simpa using hnot), if_neg hboth]
          have hrest := ih (-1)
          cases hfind : rest.find? fun rp => decide rp.Serves with
          | some c =>
              rw [hfind] at hrest
              exact hrest
          | none =>
              rw [hfind] at hrest
              exact ⟨hrest.1, fun _ => hrest.2 (by decide)⟩

/-- **When a start succeeds, and on which descriptor it then listens**: the address has a host and, after
its last colon, a port, and of the candidates for them one serves; it is the first such one.
Source: `http_server.cpp` `HttpServer::start`, `split_host_port` -/
theorem started_iff
    (getaddrinfo : List Byte → List Byte → Option (List Candidate)) (address : List Byte) (fd : Int) :
    ((start getaddrinfo { address := address }).1 = true ∧
        (start getaddrinfo { address := address }).2.1.listenFd = fd ↔
      ∃ host port result rp, address = host ++ 58 :: port ∧ 58 ∉ port ∧
        getaddrinfo (cString host) (cString port) = some result ∧
        (result.find? fun rp => decide rp.Serves) = some rp ∧ rp.socket = fd) ∧
    ((start getaddrinfo { address := address }).1 = false →
      (start getaddrinfo { address := address }).2.1.listenFd < 0) := by
  unfold start
  cases hsplit : splitHostPort address with
  | none =>
      refine ⟨⟨fun h => absurd h.1 (by simp), ?_⟩, fun _ => by simp⟩
      rintro ⟨host, port, result, rp, haddress, hport, -⟩
      rw [splitHostPort_eq_some.mpr ⟨haddress, hport⟩] at hsplit
      cases hsplit
  | some p =>
      obtain ⟨host, port⟩ := p
      have hparts := splitHostPort_eq_some.mp hsplit
      have hunique : ∀ host' port', address = host' ++ 58 :: port' → 58 ∉ port' →
          host' = host ∧ port' = port := by
        intro host' port' haddress hport
        rw [splitHostPort_eq_some.mpr ⟨haddress, hport⟩] at hsplit
        exact Prod.mk.inj (Option.some.inj hsplit)
      cases hresult : getaddrinfo (cString host) (cString port) with
      | none =>
          simp only [hresult]
          refine ⟨⟨fun h => absurd h.1 (by simp), ?_⟩, fun _ => by simp⟩
          rintro ⟨host', port', result, rp, haddress, hport, hget, -⟩
          obtain ⟨rfl, rfl⟩ := hunique host' port' haddress hport
          rw [hresult] at hget
          cases hget
      | some result =>
          simp only [hresult]
          have hfound := startLoop_found (-1) result
          cases hfind : result.find? fun rp => decide rp.Serves with
          | none =>
              rw [hfind] at hfound
              refine ⟨⟨fun h => ?_, ?_⟩, fun _ => hfound.2 (by decide)⟩
              · rw [hfound.1] at h
                exact absurd h.1 (by simp)
              · rintro ⟨host', port', result', rp, haddress, hport, hget, hfind', -⟩
                obtain ⟨rfl, rfl⟩ := hunique host' port' haddress hport
                rw [hresult] at hget
                obtain rfl := Option.some.inj hget
                rw [hfind] at hfind'
                cases hfind'
          | some rp =>
              rw [hfind] at hfound
              refine ⟨⟨fun h => ?_, ?_⟩, fun h => ?_⟩
              · exact ⟨host, port, result, rp, hparts.1, hparts.2, hresult, hfind,
                  hfound.2.symm.trans h.2⟩
              · rintro ⟨host', port', result', rp', haddress, hport, hget, hfind', hfd⟩
                obtain ⟨rfl, rfl⟩ := hunique host' port' haddress hport
                rw [hresult] at hget
                obtain rfl := Option.some.inj hget
                rw [hfind] at hfind'
                obtain rfl := Option.some.inj hfind'
                exact ⟨hfound.1, hfound.2.trans hfd⟩
              · rw [hfound.1] at h
                exact absurd h (by simp)

/-! ## The descriptors -/

/-- The actions of some calls. Source: none: infrastructure -/
abbrev actionsOf (calls : List SocketCall) : List (Action Int) := calls.flatMap SocketCall.actions

/-- Source: `http_server.cpp` `HttpServer::start` -/
theorem leads_startLoop (hroom : held.length < limit) (listenFd : Int) (result : List Candidate) :
    Leads limit held (actionsOf (startLoop listenFd result).2.2)
      (if (startLoop listenFd result).1 then (startLoop listenFd result).2.1 :: held else held) := by
  induction result generalizing listenFd with
  | nil => exact leads_nil.mpr rfl
  | cons rp rest ih =>
      rw [startLoop]
      by_cases hsocket : rp.socket < 0
      · have hnothing : given rp.socket = [] := if_neg (by omega)
        rw [if_pos hsocket]
        show Leads limit held (given rp.socket ++ actionsOf (startLoop rp.socket rest).2.2) _
        rw [hnothing, List.nil_append]
        exact ih rp.socket
      · have hgiven : given rp.socket = [.acquire rp.socket] := if_pos (by omega)
        rw [if_neg hsocket]
        -- what is called before it is known whether the candidate serves
        set opening := [SocketCall.socket rp.socket, .setsockopt rp.socket, .bind rp.socket] ++
          (if rp.bind = 0 then [SocketCall.listen rp.socket] else []) with hopening
        obtain ⟨uses, hactions, huses⟩ : ∃ uses, actionsOf opening = .acquire rp.socket :: uses ∧
            Leads limit (rp.socket :: held) uses (rp.socket :: held) := by
          refine ⟨[.use rp.socket, .use rp.socket] ++
            (if rp.bind = 0 then [.use rp.socket] else []), ?_, ?_⟩
          · by_cases hbind : rp.bind = 0 <;> simp [hopening, hbind, SocketCall.actions, hgiven]
          · apply leads_uses
            intro x hx
            refine ⟨rp.socket, List.mem_cons_self, ?_⟩
            by_cases hbind : rp.bind = 0
            · simpa [hbind] using hx
            · simpa [hbind] using hx
        by_cases hboth : rp.bind = 0 ∧ rp.listen = 0
        · rw [if_pos hboth]
          show Leads limit held (actionsOf opening) (rp.socket :: held)
          rw [hactions]
          exact .acquire hroom huses
        · rw [if_neg hboth]
          show Leads limit held (actionsOf (opening ++ [.close rp.socket] ++
            (startLoop (-1) rest).2.2)) _
          have hclosed : Leads limit held (actionsOf (opening ++ [.close rp.socket])) held := by
            rw [actionsOf, List.flatMap_append, ← actionsOf, hactions]
            exact .session hroom huses
          rw [actionsOf, List.flatMap_append, ← actionsOf]
          exact hclosed.trans (ih (-1))

/-- What `start` leaves: the descriptor that it listens on, or none.
Source: `http_server.cpp` `HttpServer::start` -/
theorem leads_start (getaddrinfo : List Byte → List Byte → Option (List Candidate)) (hlimit : 0 < limit)
    (address : List Byte) :
    let out := start getaddrinfo { address := address }
    (out.1 = true → 0 ≤ out.2.1.listenFd ∧ Leads limit [] (actionsOf out.2.2) [out.2.1.listenFd]) ∧
    (out.1 = false → out.2.1.listenFd < 0 ∧ Leads limit [] (actionsOf out.2.2) []) := by
  intro out
  have hfailed := (started_iff getaddrinfo address out.2.1.listenFd).2
  have hstarted := (started_iff getaddrinfo address out.2.1.listenFd).1
  have hleads : Leads limit [] (actionsOf out.2.2) (if out.1 then [out.2.1.listenFd] else []) := by
    simp only [out]
    unfold start
    cases splitHostPort address with
    | none => exact leads_nil.mpr rfl
    | some p =>
        cases hresult : getaddrinfo (cString p.1) (cString p.2) with
        | none =>
            simp only [hresult]
            exact leads_nil.mpr rfl
        | some result =>
            simp only [hresult]
            exact leads_startLoop hlimit (-1) result
  constructor
  · intro h
    obtain ⟨host, port, result, rp, -, -, -, hfind, hfd⟩ := hstarted.mp ⟨h, rfl⟩
    have hserves : rp.Serves := by simpa using List.find?_some hfind
    rw [if_pos h] at hleads
    exact ⟨hfd ▸ hserves.1, hleads⟩
  · intro h
    rw [if_neg (by simp [h])] at hleads
    exact ⟨hfailed h, hleads⟩

/-- A turn leaves no descriptor behind, whatever the client does.
Source: `http_server.cpp` `HttpServer::run` -/
theorem leads_serveTurn {listenFd : Int} (hlisten : listenFd ∈ held) (hroom : held.length < limit)
    (t : ServerTurn σ) : Leads limit held (actionsOf (serveTurn handler listenFd t).1) held := by
  unfold serveTurn
  by_cases hpoll : t.poll ≤ 0
  · rw [if_pos hpoll]
    exact .use hlisten (leads_nil.mpr rfl)
  · rw [if_neg hpoll]
    by_cases haccept : t.accept < 0
    · have hnothing : given t.accept = [] := if_neg (by omega)
      rw [if_pos haccept]
      show Leads limit held (.use listenFd :: .use listenFd :: (given t.accept ++ [])) held
      rw [hnothing]
      exact .use hlisten (.use hlisten (leads_nil.mpr rfl))
    · have hgiven : given t.accept = [.acquire t.accept] := if_pos (by omega)
      rw [if_neg haccept]
      have hactions : actionsOf ([.poll listenFd, .accept listenFd t.accept, .recv t.accept] ++
          (if (converse handler t).answer.isSome then [.send t.accept] else []) ++ [.close t.accept]) =
          .use listenFd :: .use listenFd :: .acquire t.accept ::
            ((.use t.accept :: if (converse handler t).answer.isSome then [.use t.accept] else []) ++
              [.release t.accept]) := by
        cases (converse handler t).answer.isSome <;> simp [SocketCall.actions, hgiven]
      show Leads limit held (actionsOf _) held
      rw [hactions]
      refine .use hlisten (.use hlisten (.session hroom (leads_uses ?_)))
      intro x hx
      refine ⟨t.accept, List.mem_cons_self, ?_⟩
      rcases List.mem_cons.mp hx with rfl | hx
      · rfl
      · by_cases hanswered : (converse handler t).answer.isSome = true
        · simpa [hanswered] using hx
        · simp [hanswered] at hx

/-- Source: `http_server.cpp` `HttpServer::run` -/
theorem leads_run {listenFd : Int} (hlisten : listenFd ∈ held) (hroom : held.length < limit)
    (turns : List (ServerTurn σ)) : Leads limit held (actionsOf (run handler listenFd turns).1) held := by
  induction turns with
  | nil => exact leads_nil.mpr rfl
  | cons t ts ih =>
      rw [run]
      by_cases hstop : t.stop = true
      · rw [if_pos hstop]
        exact leads_nil.mpr rfl
      · rw [if_neg hstop]
        show Leads limit held (actionsOf ((serveTurn handler listenFd t).1 ++
          (run handler listenFd ts).1)) held
        rw [actionsOf, List.flatMap_append]
        exact (leads_serveTurn hlisten hroom t).trans ih

/-- From the constructor to the destructor. Source: `http_server.cpp` `HttpServer::start`,
`HttpServer::run`, `HttpServer::~HttpServer` -/
theorem leads_life (handler : σ → List Byte → List Byte → HttpResponse)
    (getaddrinfo : List Byte → List Byte → Option (List Candidate)) (address : List Byte)
    (turns : List (ServerTurn σ)) :
    Leads 2 [] (actionsOf (life handler getaddrinfo address turns)) [] := by
  obtain ⟨hstarted, hfailed⟩ := leads_start getaddrinfo Nat.two_pos address
  simp only [life, actionsOf, List.flatMap_append] at hstarted hfailed ⊢
  cases hout : (start getaddrinfo { address := address }).1 with
  | true =>
      obtain ⟨hfd, hopen⟩ := hstarted hout
      rw [destroy, if_pos hfd]
      exact (hopen.trans (leads_run List.mem_cons_self Nat.one_lt_two turns)).trans leads_release
  | false =>
      obtain ⟨hfd, hopen⟩ := hfailed hout
      rw [destroy, if_neg (Int.not_le.mpr hfd)]
      exact (hopen.trans (leads_nil.mpr rfl)).trans (leads_nil.mpr rfl)

/-- **Over its whole life, a server closes every descriptor as often as it was given it**: whatever the
system and the clients do, from the constructor to the destructor. It uses a descriptor only between the
call that gave it and the one that closes it, and never has more than two of them.
Source: `http_server.cpp` `HttpServer::start`, `HttpServer::run`, `HttpServer::~HttpServer` -/
theorem server_descriptors (handler : σ → List Byte → List Byte → HttpResponse)
    (getaddrinfo : List Byte → List Byte → Option (List Candidate)) (address : List Byte)
    (turns : List (ServerTurn σ)) :
    let acts := actionsOf (life handler getaddrinfo address turns)
    (∀ fd, acts.count (.acquire fd) = acts.count (.release fd)) ∧
    (∀ before fd after, acts = before ++ .use fd :: after →
      before.count (.release fd) < before.count (.acquire fd)) ∧
    ∀ before after, acts = before ++ after →
      ∃ open', Leads 2 [] before open' ∧ open'.length ≤ 2 := by
  intro acts
  have hleads : Leads 2 [] acts [] := leads_life handler getaddrinfo address turns
  refine ⟨fun fd => ?_, fun before fd after h => hleads.used_held h, fun before after h => ?_⟩
  · have hbalance := hleads.balance fd
    simpa using hbalance
  · rw [h] at hleads
    obtain ⟨open', hbefore, -⟩ := leads_append.mp hleads
    exact ⟨open', hbefore, hbefore.within (Nat.zero_le 2)⟩

/-! ## The conversations -/

section conversations

variable {turns : List (ServerTurn σ)} {t : ServerTurn σ} {n i : Nat} {method path : List Byte}

/-- **Every client that is accepted before the request to stop is talked to once**, in the order in which
they come. Source: `http_server.cpp` `HttpServer::run` -/
theorem run_conversations (listenFd : Int) (turns : List (ServerTurn σ)) :
    (run handler listenFd turns).2 =
      ((turns.takeWhile fun t => !t.stop).filter fun t => decide t.Accepted).map (converse handler) := by
  induction turns with
  | nil => rfl
  | cons t ts ih =>
      rw [run]
      by_cases hstop : t.stop = true
      · rw [if_pos hstop, List.takeWhile_cons_of_neg (by simp [hstop])]
        rfl
      · rw [if_neg hstop, List.takeWhile_cons_of_pos (by simp [hstop])]
        show (serveTurn handler listenFd t).2 ++ (run handler listenFd ts).2 = _
        rw [ih]
        by_cases haccepted : t.Accepted
        · rw [List.filter_cons_of_pos (by simpa using haccepted), serveTurn,
            if_neg (by have := haccepted.1; omega), if_neg (by have := haccepted.2; omega)]
          rfl
        · rw [List.filter_cons_of_neg (by simpa using haccepted), serveTurn]
          by_cases hpoll : t.poll ≤ 0
          · rw [if_pos hpoll]
            rfl
          · have hrefused : t.accept < 0 := by
              by_contra hnonneg
              exact haccepted ⟨Int.not_le.mp hpoll, Int.not_lt.mp hnonneg⟩
            rw [if_neg hpoll, if_pos hrefused]
            rfl

/-- What a client is told whose request line comes in time.
Source: `http_server.cpp` `HttpServer::run` -/
theorem converse_line (hline : Search.position crlf (received t.recv n) = some i) (hfits : i + 2 ≤ 8192) :
    converse handler t = match requestOf ((received t.recv n).take i) with
      | none => ⟨none, []⟩
      | some (method, path) => ⟨some (handler t.seen method path),
          writeResponse t.send (handler t.seen method path)⟩ := by
  obtain ⟨m, hread, -⟩ := readRequestLine_line hline hfits
  rw [converse, hread]

/-- A client whose request line comes in time, and that takes what it is sent, reads the answer of the
handler. Source: `http_server.cpp` `HttpServer::run` -/
theorem converse_read (hline : Search.position crlf (received t.recv n) = some i) (hfits : i + 2 ≤ 8192)
    (hrequest : requestOf ((received t.recv n).take i) = some (method, path))
    (hsend : ∀ k size, 0 < size → 0 < (t.send k size).1)
    (hwell : (handler t.seen method path).message.WellFormed) :
    HttpMessage.message (converse handler t).sent = some ((handler t.seen method path).message, []) := by
  have hparts := HttpResponse.wellFormed_iff.mp hwell
  rw [converse_line hline hfits, hrequest]
  show HttpMessage.message (sendLoop t.send _ 0) = _
  rw [sendLoop_all hsend, List.drop_zero, HttpResponse.out_eq_write (by omega)]
  exact HttpMessage.message_write hwell

end conversations

end HttpServer

end Hamstercam
