import Hamstercam.Lib.Search
import Hamstercam.Lib.Unsigned
import Hamstercam.Text

/-!
# The request line

`read_request_line` of `http_server.cpp`.

* A client is the sequence of answers of `recv`: a `Piece` of 1 to 512 bytes, or `none` where the call
  returns 0 or less. Nothing says that it ever does. `received recv n` is what `n` calls deliver.
* `receiveLoop` is the loop, `readRequestLine` the function; it stops because every piece makes the
  buffer longer.
* `receiveLoop_spec` — what the loop leaves: everything up to the first call after which the buffer
  holds a line or is full, or up to the end of the stream.
* `request_line_independent` — the line that is read does not depend on the pieces.
* `head_consumed_iff` — the rest of the head has been read if the piece that ends the line ends it too.
-/

namespace Hamstercam

open Search Unsigned

/-! ## The function -/

/-- `"\r\n"`. Source: `http_server.cpp` `read_request_line` -/
abbrev crlf : List Byte := [13, 10]

/-- What one call of `recv` with a buffer of 512 bytes delivers.
Source: `http_server.cpp` `read_request_line` -/
structure Piece where
  /-- The bytes. -/
  bytes : List Byte
  /-- A call that returns nothing returns `0`. -/
  nonempty : 0 < bytes.length
  /-- The size of `chunk`. -/
  fits : bytes.length ≤ 512

/-- The answers of `recv`, call by call. Source: `http_server.cpp` `read_request_line` -/
abbrev Client : Type := Nat → Option Piece

/-- The client after one call. Source: none: infrastructure -/
def Client.next (recv : Client) : Client := fun k => recv (k + 1)

/-- The loop goes on: there is no line in the buffer, and room for more.
Source: `http_server.cpp` `read_request_line` -/
def Incomplete (buf : List Byte) : Prop := position crlf buf = none ∧ buf.length < 8192

instance (buf : List Byte) : Decidable (Incomplete buf) := inferInstanceAs (Decidable (_ ∧ _))

/-- What a call of `read_request_line` has read from the connection, and whether the loop ended with
`return false`.
Source: `http_server.cpp` `read_request_line` -/
structure Reading where
  /-- `buf` -/
  buf : List Byte
  /-- The loop ended because `recv` failed, or because the client was done. -/
  ended : Bool
  deriving DecidableEq

/-- The loop. Source: `http_server.cpp` `read_request_line` -/
def receiveLoop (recv : Client) (buf : List Byte) : Reading :=
  if _ : Incomplete buf then
    match recv 0 with
    | none => ⟨buf, true⟩
    | some p => receiveLoop recv.next (buf ++ p.bytes)
  else ⟨buf, false⟩
termination_by 8192 - buf.length
decreasing_by
  rename_i h
  have hroom := h.2
  have hpos := p.nonempty
  rw [List.length_append]
  omega

/-- `iss >> method >> path >> version`.
Source: `http_server.cpp` `read_request_line` -/
def parseRequestLine (line : List Byte) : Option (List Byte × List Byte) := do
  let (method, line) ← nextWord isSpace line
  let (path, line) ← nextWord isSpace line
  let _ ← nextWord isSpace line
  return (method, path)

/-- The method and the path, or `none` for `false`; and what was read from the connection.
Source: `http_server.cpp` `read_request_line` -/
def readRequestLine (recv : Client) : Option (List Byte × List Byte) × List Byte :=
  let r := receiveLoop recv []
  if r.ended then (none, r.buf)
  else
    let line := match position crlf r.buf with
      | some lineEnd => r.buf.take lineEnd
      | none => r.buf
    (parseRequestLine line, r.buf)

/-! ## What the client delivers -/

/-- The bytes that the first `n` calls deliver, up to the end of the stream.
Source: none: infrastructure -/
def received : Client → Nat → List Byte
  | _, 0 => []
  | recv, n + 1 =>
      match recv 0 with
      | none => []
      | some p => p.bytes ++ received recv.next n

variable {recv : Client} {buf stream : List Byte} {n m i j : Nat}

/-- Source: none: infrastructure -/
theorem received_succ_some {p : Piece} (h : recv 0 = some p) (n : Nat) :
    received recv (n + 1) = p.bytes ++ received recv.next n := by
  rw [received, h]

/-- A stream that has ended delivers nothing. Source: none: infrastructure -/
theorem received_none (h : recv 0 = none) (n : Nat) : received recv n = [] := by
  cases n with
  | zero => rfl
  | succ n => rw [received, h]

/-- One more call delivers at most one more piece. Source: none: infrastructure -/
theorem received_succ (recv : Client) (n : Nat) :
    received recv n <+: received recv (n + 1) ∧
      (received recv (n + 1)).length ≤ (received recv n).length + 512 := by
  induction n generalizing recv with
  | zero =>
      refine ⟨List.nil_prefix, ?_⟩
      unfold received
      cases recv 0 with
      | none => simp
      | some p => simpa [received] using p.fits
  | succ n ih =>
      cases hnext : recv 0 with
      | none => simp [received_none hnext]
      | some p =>
          rw [received_succ_some hnext, received_succ_some hnext, List.length_append,
            List.length_append]
          have hnext := ih recv.next
          exact ⟨(List.prefix_append_right_inj _).mpr hnext.1, by omega⟩

/-- What is delivered only grows. Source: none: infrastructure -/
theorem received_mono (h : n ≤ m) : received recv n <+: received recv m := by
  induction m, h using Nat.le_induction with
  | base => exact List.prefix_rfl
  | succ m _ ih => exact ih.trans (received_succ recv m).1

/-- Of two prefixes of what is delivered, the longer one holds the other.
Source: none: infrastructure -/
theorem received_total (recv : Client) (n m : Nat) :
    received recv n <+: received recv m ∨ received recv m <+: received recv n :=
  (Nat.le_total n m).imp received_mono received_mono

/-- What is found in the stream is found as soon as it has been delivered.
Source: none: infrastructure -/
theorem position_received {pat : List Byte} (h : position pat (received recv n) = some i)
    (hfits : i + pat.length ≤ (received recv m).length) :
    position pat (received recv m) = some i := by
  obtain hle | hle := received_total recv m n
  · exact position_restricts hle h hfits
  · exact position_extends hle h

/-- A stream has one first line. Source: none: infrastructure -/
theorem position_unique {pat : List Byte} (hi : position pat (received recv n) = some i)
    (hj : position pat (received recv m) = some j) : i = j := by
  obtain hle | hle := received_total recv n m
  · exact Option.some.inj ((position_extends hle hi).symm.trans hj)
  · exact Option.some.inj (hi.symm.trans (position_extends hle hj))

/-! ## The loop -/

/-- **What the loop leaves**: it takes what `m` calls deliver, and goes on until then. It ends with the
stream, or because there is a line in the buffer or no room left.
Source: `http_server.cpp` `read_request_line` -/
theorem receiveLoop_spec (recv : Client) (buf : List Byte) : ∃ m,
    (receiveLoop recv buf).buf = buf ++ received recv m ∧
    (∀ l < m, Incomplete (buf ++ received recv l)) ∧
    ((receiveLoop recv buf).ended = true → Incomplete (buf ++ received recv m) ∧
      ∀ n, received recv n <+: received recv m) ∧
    ((receiveLoop recv buf).ended = false → ¬ Incomplete (buf ++ received recv m)) := by
  fun_induction receiveLoop recv buf with
  | case1 recv buf hgo hend =>
      refine ⟨0, by simp [received], by simp, fun _ => ⟨by simpa [received] using hgo, ?_⟩, by simp⟩
      intro n
      rw [received_none hend]
      exact List.nil_prefix
  | case2 recv buf hgo p hp ih =>
      obtain ⟨m, hbuf, hwhile, hended, hstopped⟩ := ih
      have hshift : ∀ l, buf ++ received recv (l + 1) = buf ++ p.bytes ++ received recv.next l := by
        intro l
        rw [received_succ_some hp, List.append_assoc]
      refine ⟨m + 1, ?_, ?_, ?_, ?_⟩
      · rw [hshift, hbuf]
      · intro l hl
        cases l with
        | zero => simpa [received] using hgo
        | succ l =>
            rw [hshift]
            exact hwhile l (by omega)
      · intro h
        rw [hshift]
        refine ⟨(hended h).1, fun n => ?_⟩
        cases n with
        | zero => exact List.nil_prefix
        | succ n =>
            rw [received_succ_some hp, received_succ_some hp]
            exact (List.prefix_append_right_inj _).mpr ((hended h).2 n)
      · intro h
        rw [hshift]
        exact hstopped h
  | case3 recv buf hstop =>
      refine ⟨0, by simp [received], by simp, by simp, fun _ => ?_⟩
      simpa [received] using hstop

/-- What the loop leaves holds at most 511 bytes more than it has room for.
Source: `http_server.cpp` `read_request_line` -/
theorem length_received (h : ∀ l < m, Incomplete (received recv l)) :
    (received recv m).length ≤ 8703 := by
  cases m with
  | zero => exact Nat.zero_le _
  | succ m =>
      have hroom := (h m (Nat.lt_succ_self m)).2
      have hpiece := (received_succ recv m).2
      omega

/-- The loop reads as far as the line, if that ends within the buffer.
Source: `http_server.cpp` `read_request_line` -/
theorem receiveLoop_line (hline : position crlf (received recv n) = some i) (hfits : i + 2 ≤ 8192) :
    ∃ m, receiveLoop recv [] = ⟨received recv m, false⟩ ∧
      position crlf (received recv m) = some i ∧ ∀ l < m, (received recv l).length < i + 2 := by
  obtain ⟨m, hbuf, hwhile, hended, hstopped⟩ := receiveLoop_spec recv []
  simp only [List.nil_append] at hbuf hwhile hended hstopped
  have hrunning : (receiveLoop recv []).ended = false := by
    apply Bool.eq_false_iff.mpr
    intro h
    obtain ⟨hgo, hall⟩ := hended h
    have hfound := position_extends (hall n) hline
    rw [hgo.1] at hfound
    cases hfound
  have hlong : i + 2 ≤ (received recv m).length := by
    by_contra hshort
    apply hstopped hrunning
    refine ⟨?_, by omega⟩
    apply Option.eq_none_iff_forall_ne_some.mpr
    intro j hj
    have hbound := position_bound hj
    rw [position_unique hj hline] at hbound
    exact hshort hbound
  refine ⟨m, ?_, position_received hline hlong, ?_⟩
  · rw [← hbuf, ← hrunning]
  · intro l hl
    by_contra hlong
    have hfound := position_received hline (Nat.not_lt.mp hlong)
    rw [(hwhile l hl).1] at hfound
    cases hfound

/-! ## The request -/

/-- The first two words of a line that has at least three. Source: none: infrastructure -/
def requestOf (line : List Byte) : Option (List Byte × List Byte) :=
  match words isSpace line with
  | method :: path :: _ :: _ => some (method, path)
  | _ => none

/-- **What is read from a line.** Source: `http_server.cpp` `read_request_line` -/
theorem parseRequestLine_eq (line : List Byte) : parseRequestLine line = requestOf line := by
  have hwords : ∀ s : List Byte, words isSpace s =
      (nextWord isSpace s).elim [] fun p => p.1 :: words isSpace p.2 := words_eq
  unfold parseRequestLine requestOf
  rw [hwords line]
  cases nextWord isSpace line with
  | none => rfl
  | some first =>
      rw [Option.elim_some, hwords first.2]
      cases hsecond : nextWord isSpace first.2 with
      | none => simp [hsecond]
      | some second =>
          rw [Option.elim_some, hwords second.2]
          cases hthird : nextWord isSpace second.2 with
          | none => simp [hsecond, hthird]
          | some third => simp [hsecond, hthird]

/-- Source: none: infrastructure -/
theorem requestOf_isSome (line : List Byte) :
    (requestOf line).isSome = true ↔ ¬ (words isSpace line).length < 3 := by
  unfold requestOf
  match words isSpace line with
  | [] => simp
  | [_] => simp
  | [_, _] => simp
  | _ :: _ :: _ :: _ => simp

/-- Source: `http_server.cpp` `read_request_line` -/
theorem readRequestLine_snd (recv : Client) :
    (readRequestLine recv).2 = (receiveLoop recv []).buf := by
  unfold readRequestLine
  by_cases h : (receiveLoop recv []).ended = true
  · simp only [h, if_true]
  · simp only [h, Bool.false_eq_true, if_false]

/-- A call that finds a line in time. Source: `http_server.cpp` `read_request_line` -/
theorem readRequestLine_line (hline : position crlf (received recv n) = some i)
    (hfits : i + 2 ≤ 8192) : ∃ m,
    readRequestLine recv = (requestOf ((received recv n).take i), received recv m) ∧
      i + 2 ≤ (received recv m).length ∧ ∀ l < m, (received recv l).length < i + 2 := by
  obtain ⟨m, hloop, hfound, hearlier⟩ := receiveLoop_line hline hfits
  have hsame : (received recv m).take i = (received recv n).take i := by
    have hm := position_bound hfound
    have hn := position_bound hline
    have hlength : ((received recv m).take i).length = ((received recv n).take i).length := by
      rw [List.length_take, List.length_take]
      omega
    obtain hle | hle := received_total recv m n
    · exact (hle.take i).eq_of_length hlength
    · exact ((hle.take i).eq_of_length hlength.symm).symm
  refine ⟨m, ?_, position_bound hfound, hearlier⟩
  unfold readRequestLine
  simp only [hloop, Bool.false_eq_true, if_false, hfound, hsame, parseRequestLine_eq]

/-- **Reading the request line does not depend on the pieces, and always stops.** If the first line ends
within the first 8192 bytes, its words decide; without a line, the call ends with at most 8703 bytes
in the buffer, at least 8192 or else all that there are.
Source: `http_server.cpp` `read_request_line` -/
theorem request_line_independent (recv : Client) :
    (∀ n i, position crlf (received recv n) = some i → i + 2 ≤ 8192 →
      (readRequestLine recv).1 = requestOf ((received recv n).take i)) ∧
    ((∀ n, position crlf (received recv n) = none) →
      (readRequestLine recv).2.length ≤ 8703 ∧
      (8192 ≤ (readRequestLine recv).2.length ∨
        (readRequestLine recv).1 = none ∧ ∀ n, received recv n <+: (readRequestLine recv).2)) := by
  constructor
  · intro n i hline hfits
    obtain ⟨m, hread, -⟩ := readRequestLine_line hline hfits
    rw [hread]
  · intro hnone
    obtain ⟨m, hbuf, hwhile, hended, hstopped⟩ := receiveLoop_spec recv []
    simp only [List.nil_append] at hbuf hwhile hended hstopped
    rw [readRequestLine_snd, hbuf]
    refine ⟨length_received hwhile, ?_⟩
    cases h : (receiveLoop recv []).ended with
    | true =>
        refine Or.inr ⟨?_, (hended h).2⟩
        unfold readRequestLine
        simp [h]
    | false =>
        refine Or.inl ?_
        by_contra hroom
        exact hstopped h ⟨hnone m, Nat.not_le.mp hroom⟩

/-- Two pieces that part the end of the line: the request is read all the same.
Source: `http_server.cpp` `read_request_line` -/
theorem request_line_independent_split :
    let first : Piece := ⟨text "GET / HTTP/1.1\r", by decide, by decide⟩
    let second : Piece := ⟨text "\n", by decide, by decide⟩
    (readRequestLine fun k => [first, second][k]?).1 = some (text "GET", text "/") := by
  intro first second
  rw [(request_line_independent _).1 2 14 (by decide) (by decide)]
  decide

/-- **When the request is consumed before it is answered**: it is not answered, or the piece that ends
the first line ends the head as well. The head ends with the first blank line, within the first 8192
bytes.
Source: `http_server.cpp` `read_request_line`, `HttpServer::run` -/
theorem head_consumed_iff (hline : position crlf (received recv n) = some i)
    (hhead : position (crlf ++ crlf) (received recv n) = some j) (hfits : j + 4 ≤ 8192) :
    ((readRequestLine recv).1.isSome = true → j + 4 ≤ (readRequestLine recv).2.length) ↔
      (words isSpace ((received recv n).take i)).length < 3 ∨
        ∀ k, i + 2 ≤ (received recv k).length → j + 4 ≤ (received recv k).length := by
  have hij : i ≤ j := by
    obtain ⟨-, hcrlf, -⟩ := position_eq_some.mp hhead
    by_contra hlt
    exact (position_eq_some.mp hline).2.2 j (Nat.not_le.mp hlt)
      ((List.prefix_append crlf crlf).trans hcrlf)
  obtain ⟨m, hread, hm, hearlier⟩ := readRequestLine_line hline (by omega)
  rw [hread, requestOf_isSome]
  constructor
  · intro h
    by_cases hwords : (words isSpace ((received recv n).take i)).length < 3
    · exact Or.inl hwords
    · refine Or.inr fun k hk => (h hwords).trans ?_
      -- before the last piece there was no line
      have hmk : m ≤ k := by
        by_contra hlt
        have hshort := hearlier k (Nat.not_le.mp hlt)
        omega
      exact (received_mono hmk).length_le
  · rintro (hwords | hpieces) hanswered
    · exact absurd hwords hanswered
    · exact hpieces m hm

/-- A request whose line comes in a piece of its own. Source: `http_server.cpp` `read_request_line` -/
def slowClient : Client := fun k =>
  [(⟨text "GET / HTTP/1.1\r\n", by decide, by decide⟩ : Piece),
    ⟨text "Host: a\r\n\r\n", by decide, by decide⟩][k]?

/-- In one piece, the same request is consumed. Source: `http_server.cpp` `read_request_line` -/
theorem head_consumed_in_one_piece :
    let recv : Client := fun k =>
      [(⟨text "GET / HTTP/1.1\r\nHost: a\r\n\r\n", by decide, by decide⟩ : Piece)][k]?
    ((readRequestLine recv).1.isSome = true → 23 + 4 ≤ (readRequestLine recv).2.length) := by
  intro recv
  apply (head_consumed_iff (n := 1) (i := 14) (j := 23) (by decide) (by decide) (by decide)).mpr
  right
  intro k hk
  cases k with
  | zero => exact absurd hk (by decide)
  | succ k => exact le_trans (by decide) (received_mono (Nat.le_add_left 1 k)).length_le

/-- **A request that is answered before it is consumed**: its headers come after its line.
Source: `http_server.cpp` `read_request_line` -/
theorem head_left_unread :
    ¬ ∀ (recv : Client) (n i j : Nat), position crlf (received recv n) = some i →
      position (crlf ++ crlf) (received recv n) = some j → j + 4 ≤ 8192 →
      (readRequestLine recv).1.isSome = true → j + 4 ≤ (readRequestLine recv).2.length := by
  intro h
  have hline : position crlf (received slowClient 2) = some 14 := by decide
  obtain ⟨m, hread, -, hearlier⟩ := readRequestLine_line hline (by decide)
  have hanswered : (readRequestLine slowClient).1.isSome = true := by
    rw [hread]
    show (requestOf ((received slowClient 2).take 14)).isSome = true
    decide
  have hconsumed := h slowClient 2 14 23 hline (by decide) (by decide) hanswered
  have hm : m ≤ 1 := by
    by_contra hlt
    exact absurd (hearlier 1 (Nat.not_le.mp hlt)) (by decide)
  have hlength : (received slowClient m).length ≤ 16 :=
    (received_mono hm).length_le.trans (by decide)
  rw [hread] at hconsumed
  exact absurd (hconsumed.trans hlength) (by decide)

end Hamstercam
