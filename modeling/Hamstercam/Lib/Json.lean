import Mathlib.Algebra.Order.Field.Rat
import Hamstercam.Lib.Decimal

/-!
# JSON texts

A reader for the grammar of JSON texts, over bytes.

* `Value` — what a text denotes. Strings are bytes; the bytes of a character outside ASCII stand for
  themselves, as in UTF-8.
* `stringBody`, `number`, `members`, `value`, `parse` — one reader for each rule of the grammar. A reader
  takes its part off the front of the text and leaves the rest; the number bounds the depth and the
  length of what is read, and `parse` makes it large enough for the text.
* `Plain`, `Clean` — the bytes that may stand in a string at all, and those that may stand there without
  a backslash. `stringBody_clean` reads clean bytes.
* `value_string`, `value_decimal`, `members_one`, `members_cons` — how a writer's pieces are read.
-/

namespace Json

open Decimal

/-- What a JSON text denotes. Source: none: infrastructure -/
inductive Value
  | null
  | bool (b : Bool)
  | number (q : ℚ)
  | string (s : List UInt8)
  | array (vs : List Value)
  | object (ms : List (List UInt8 × Value))

/-- A reader takes something off the front of a text. Source: none: infrastructure -/
abbrev Reader (α : Type) : Type := List UInt8 → Option (α × List UInt8)

/-- `ws`. Source: none: infrastructure -/
def isSpace (c : UInt8) : Bool := c = 32 || c = 9 || c = 10 || c = 13

/-- Source: none: infrastructure -/
def skipSpace (s : List UInt8) : List UInt8 := s.dropWhile isSpace

/-- One structural byte, with the space before it. Source: none: infrastructure -/
def expect (c : UInt8) (s : List UInt8) : Option (List UInt8) :=
  match skipSpace s with
  | [] => none
  | d :: s => if d = c then some s else none

/-! ## Strings -/

/-- A piece of a string: a byte, or a code unit that is written with four hexadecimal digits.
Source: none: infrastructure -/
inductive Piece
  | byte (b : UInt8)
  | unit (u : Nat)

/-- Source: none: infrastructure -/
def hexDigit (c : UInt8) : Option Nat :=
  if isDigit c then some (digit c)
  else if 97 ≤ c && c ≤ 102 then some (c.toNat - 87)
  else if 65 ≤ c && c ≤ 70 then some (c.toNat - 55)
  else none

/-- The byte that a backslash and `c` stand for. Source: none: infrastructure -/
def escaped (c : UInt8) : Option UInt8 :=
  if c = 34 || c = 92 || c = 47 then some c
  else if c = 98 then some 8
  else if c = 102 then some 12
  else if c = 110 then some 10
  else if c = 114 then some 13
  else if c = 116 then some 9
  else none

/-- The pieces of a string, up to its closing quote. Source: none: infrastructure -/
def pieces : Reader (List Piece)
  | [] => none
  | c :: s =>
      if c = 34 then some ([], s)
      else if c = 92 then
        match s with
        | [] => none
        | e :: s =>
            if e = 117 then
              match s with
              | h₁ :: h₂ :: h₃ :: h₄ :: s => do
                  let u ← (fun a b c d => ((a * 16 + b) * 16 + c) * 16 + d) <$> hexDigit h₁ <*>
                    hexDigit h₂ <*> hexDigit h₃ <*> hexDigit h₄
                  let (ps, rest) ← pieces s
                  return (.unit u :: ps, rest)
              | _ => none
            else do
              let b ← escaped e
              let (ps, rest) ← pieces s
              return (.byte b :: ps, rest)
      else if c < 32 then none
      else do
        let (ps, rest) ← pieces s
        return (.byte c :: ps, rest)

/-- The bytes of the character that two code units stand for, if they are a surrogate pair.
Source: none: infrastructure -/
def surrogatePair (u v : Nat) : Option (List UInt8) :=
  if 0xD800 ≤ u ∧ u < 0xDC00 ∧ 0xDC00 ≤ v ∧ v < 0xE000 then
    some (String.utf8EncodeChar (Char.ofNat (0x10000 + (u - 0xD800) * 0x400 + (v - 0xDC00))))
  else none

/-- The bytes of the character that one code unit stands for, U+FFFD if it is half a pair.
Source: none: infrastructure -/
def codeUnit (u : Nat) : List UInt8 :=
  String.utf8EncodeChar (Char.ofNat (if 0xD800 ≤ u ∧ u < 0xE000 then 0xFFFD else u))

/-- The bytes that the pieces stand for. Source: none: infrastructure -/
def bytes : List Piece → List UInt8
  | [] => []
  | .byte b :: ps => b :: bytes ps
  | .unit u :: .unit v :: ps =>
      match surrogatePair u v with
      | some bs => bs ++ bytes ps
      | none => codeUnit u ++ bytes (.unit v :: ps)
  | .unit u :: ps => codeUnit u ++ bytes ps

/-- A string, after its opening quote. Source: none: infrastructure -/
def stringBody : Reader (List UInt8) := fun s => do
  let (ps, rest) ← pieces s
  return (bytes ps, rest)

/-! ## Numbers -/

/-- A sign, if there is one: whether it is a minus. Source: none: infrastructure -/
def sign (plus : Bool) : List UInt8 → Bool × List UInt8
  | [] => (false, [])
  | c :: s => if c = 45 then (true, s) else if plus && c = 43 then (false, s) else (false, c :: s)

/-- Digits, at least one. Source: none: infrastructure -/
def digits : Reader (List UInt8) := fun s =>
  let ds := s.takeWhile isDigit
  if ds = [] then none else some (ds, s.dropWhile isDigit)

/-- The fraction of a number, if there is one: its digits. Source: none: infrastructure -/
def fraction : Reader (List UInt8)
  | [] => some ([], [])
  | c :: s => if c = 46 then digits s else some ([], c :: s)

/-- The exponent of a number, if there is one. Source: none: infrastructure -/
def exponent : Reader Int
  | [] => some (0, [])
  | c :: s =>
      if c = 101 || c = 69 then do
        let (minus, s) := sign true s
        let (ds, rest) ← digits s
        return (if minus then - (Decimal.value ds : Int) else Decimal.value ds, rest)
      else some (0, c :: s)

/-- A number. Source: none: infrastructure -/
def number : Reader ℚ := fun s => do
  let (minus, s) := sign false s
  let (int, s) ← digits s
  if int.head? = some 48 ∧ int ≠ [48] then none
  let (frac, s) ← fraction s
  let (exp, rest) ← exponent s
  let q : ℚ := (Decimal.value int + Decimal.value frac / 10 ^ frac.length) * 10 ^ exp
  return (if minus then -q else q, rest)

/-! ## Values -/

/-- One of the three literal names. Source: none: infrastructure -/
def literal (s : List UInt8) : Option (Value × List UInt8) :=
  if [110, 117, 108, 108] <+: s then some (.null, s.drop 4)
  else if [116, 114, 117, 101] <+: s then some (.bool true, s.drop 4)
  else if [102, 97, 108, 115, 101] <+: s then some (.bool false, s.drop 5)
  else none

/-- The members of an object, at least one, after its opening brace. Source: none: infrastructure -/
def members (value : Reader Value) : Nat → Reader (List (List UInt8 × Value))
  | 0, _ => none
  | n + 1, s => do
      let s ← expect 34 s
      let (key, s) ← stringBody s
      let s ← expect 58 s
      let (v, s) ← value s
      match skipSpace s with
      | [] => none
      | c :: s =>
          if c = 44 then do
            let (ms, rest) ← members value n s
            return ((key, v) :: ms, rest)
          else if c = 125 then some ([(key, v)], s)
          else none

/-- The elements of an array, at least one, after its opening bracket. Source: none: infrastructure -/
def elements (value : Reader Value) : Nat → Reader (List Value)
  | 0, _ => none
  | n + 1, s => do
      let (v, s) ← value s
      match skipSpace s with
      | [] => none
      | c :: s =>
          if c = 44 then do
            let (vs, rest) ← elements value n s
            return (v :: vs, rest)
          else if c = 93 then some ([v], s)
          else none

/-- A value. Source: none: infrastructure -/
def value : Nat → Reader Value
  | 0, _ => none
  | n + 1, s =>
      match skipSpace s with
      | [] => none
      | c :: s =>
          if c = 123 then
            match expect 125 s with
            | some rest => some (.object [], rest)
            | none => do
                let (ms, rest) ← members (value n) n s
                return (.object ms, rest)
          else if c = 91 then
            match expect 93 s with
            | some rest => some (.array [], rest)
            | none => do
                let (vs, rest) ← elements (value n) n s
                return (.array vs, rest)
          else if c = 34 then do
            let (bs, rest) ← stringBody s
            return (.string bs, rest)
          else if c = 45 || isDigit c then do
            let (q, rest) ← number (c :: s)
            return (.number q, rest)
          else literal (c :: s)

/-- **A JSON text.** Source: none: infrastructure -/
def parse (s : List UInt8) : Option Value :=
  match value (s.length + 1) s with
  | some (v, rest) => if skipSpace rest = [] then some v else none
  | none => none

/-! ## What may stand in a string -/

/-- A byte that may not stand in a string as it is. Source: none: infrastructure -/
def isControl (c : UInt8) : Bool := c < 32

/-- Bytes that may stand in a string, perhaps with a backslash. Source: none: infrastructure -/
def Plain (s : List UInt8) : Prop := ∀ c ∈ s, isControl c = false

instance (s : List UInt8) : Decidable (Plain s) := List.decidableBAll _ s

/-- Bytes that may stand in a string without a backslash. Source: none: infrastructure -/
def Clean (s : List UInt8) : Prop := ∀ c ∈ s, isControl c = false ∧ c ≠ 34 ∧ c ≠ 92

instance (s : List UInt8) : Decidable (Clean s) := List.decidableBAll _ s

variable {s rest key : List UInt8} {c : UInt8} {n : Nat}

/-- Source: none: infrastructure -/
theorem clean_append : Clean (s ++ rest) ↔ Clean s ∧ Clean rest := List.forall_mem_append

/-- Source: none: infrastructure -/
theorem clean_cons : Clean (c :: s) ↔ (isControl c = false ∧ c ≠ 34 ∧ c ≠ 92) ∧ Clean s :=
  List.forall_mem_cons

/-- Source: none: infrastructure -/
theorem plain_cons : Plain (c :: s) ↔ isControl c = false ∧ Plain s := List.forall_mem_cons

/-- Source: none: infrastructure -/
theorem plain_append : Plain (s ++ rest) ↔ Plain s ∧ Plain rest := List.forall_mem_append

/-- Clean bytes are plain. Source: none: infrastructure -/
theorem Clean.plain (h : Clean s) : Plain s := fun c hc => (h c hc).1

/-- Digits are clean. Source: none: infrastructure -/
theorem clean_of_digits (h : ∀ c ∈ s, isDigit c = true) : Clean s := by
  intro c hc
  have hrange := isDigit_iff.mp (h c hc)
  refine ⟨?_, ?_, ?_⟩
  · apply decide_eq_false
    rw [UInt8.lt_iff_toNat_lt]
    show ¬ c.toNat < 32
    omega
  · rintro rfl
    exact absurd hrange.1 (by decide)
  · rintro rfl
    exact absurd hrange.2 (by decide)

/-- Source: none: infrastructure -/
theorem pieces_quote (s : List UInt8) : pieces (34 :: s) = some ([], s) := by
  rw [pieces.eq_def]
  rfl

/-- Source: none: infrastructure -/
theorem pieces_escaped (hc : c = 34 ∨ c = 92) (s : List UInt8) :
    pieces (92 :: c :: s) = (pieces s).map fun p => (.byte c :: p.1, p.2) := by
  have hescaped : escaped c = some c := by
    rcases hc with rfl | rfl <;> rfl
  have hnot : c ≠ 117 := by
    rcases hc with rfl | rfl <;> decide
  rw [pieces.eq_def]
  show (if c = 117 then _ else escaped c >>= _) = _
  rw [if_neg hnot, hescaped]
  cases pieces s <;> rfl

/-- Source: none: infrastructure -/
theorem pieces_control (hc : isControl c = true) (s : List UInt8) : pieces (c :: s) = none := by
  have hlt : c < 32 := of_decide_eq_true hc
  have hquote : c ≠ 34 := by
    rintro rfl
    exact absurd hlt (by decide)
  have hslash : c ≠ 92 := by
    rintro rfl
    exact absurd hlt (by decide)
  rw [pieces.eq_def]
  show (if c = 34 then _ else if c = 92 then _ else if c < 32 then none else _) = _
  rw [if_neg hquote, if_neg hslash, if_pos hlt]

/-- Source: none: infrastructure -/
theorem pieces_clean (hc : isControl c = false ∧ c ≠ 34 ∧ c ≠ 92) (s : List UInt8) :
    pieces (c :: s) = (pieces s).map fun p => (.byte c :: p.1, p.2) := by
  obtain ⟨hcontrol, hquote, hslash⟩ := hc
  have hge : ¬ c < 32 := of_decide_eq_false hcontrol
  rw [pieces.eq_def]
  show (if c = 34 then _ else if c = 92 then _ else if c < 32 then none else pieces s >>= _) = _
  rw [if_neg hquote, if_neg hslash, if_neg hge]
  cases pieces s <;> rfl

/-- Bytes stand for themselves. Source: none: infrastructure -/
theorem bytes_map_byte (s : List UInt8) : bytes (s.map .byte) = s := by
  induction s with
  | nil => rfl
  | cons b s ih => exact congrArg (List.cons b) ih

/-- Clean bytes are read as they are written. Source: none: infrastructure -/
theorem stringBody_clean (h : Clean key) (rest : List UInt8) :
    stringBody (key ++ 34 :: rest) = some (key, rest) := by
  have hpieces : pieces (key ++ 34 :: rest) = some (key.map .byte, rest) := by
    induction key with
    | nil => exact pieces_quote rest
    | cons c key ih =>
        obtain ⟨hc, hkey⟩ := List.forall_mem_cons.mp h
        rw [List.cons_append, pieces_clean hc, ih hkey]
        rfl
  unfold stringBody
  rw [hpieces]
  show some (bytes (key.map .byte), rest) = _
  rw [bytes_map_byte]

/-! ## How the pieces of a writer are read -/

/-- Source: none: infrastructure -/
theorem value_string (n : Nat) (s : List UInt8) :
    value (n + 1) (34 :: s) = (stringBody s).map fun p => (.string p.1, p.2) := by
  show stringBody s >>= _ = _
  cases stringBody s <;> rfl

/-- Source: none: infrastructure -/
theorem number_decimal (k : Nat) (hc : c = 44 ∨ c = 125) (rest : List UInt8) :
    number (decimal k ++ c :: rest) = some ((k : ℚ), c :: rest) := by
  have hend : ∀ e ∈ (c :: rest).head?, isDigit e = false := by
    intro e he
    cases he
    rcases hc with rfl | rfl <;> rfl
  obtain ⟨hnil, hall⟩ := isNumeral_decimal k
  obtain ⟨hnumeral, hvalue⟩ := denotes_eq_some.mp (denotes_decimal k)
  have hsign : sign false (decimal k ++ c :: rest) = (false, decimal k ++ c :: rest) := by
    obtain ⟨d, ds, hds⟩ := List.exists_cons_of_ne_nil hnil
    have hd : isDigit d = true := hall d (by rw [hds]; exact List.mem_cons_self)
    have hminus : d ≠ 45 := by
      rintro rfl
      cases hd
    rw [hds, List.cons_append]
    simp [sign, hminus]
  have hdigits : digits (decimal k ++ c :: rest) = some (decimal k, c :: rest) := by
    unfold digits
    rw [(span_decimal hend).1, (span_decimal hend).2, if_neg hnil]
  have hlead : ¬ ((decimal k).head? = some 48 ∧ decimal k ≠ [48]) := fun h => h.2 (decimal_head h.1)
  have hfraction : fraction (c :: rest) = some ([], c :: rest) := by
    rcases hc with rfl | rfl <;> rfl
  have hexponent : exponent (c :: rest) = some (0, c :: rest) := by
    rcases hc with rfl | rfl <;> rfl
  simp [number, hsign, hdigits, hlead, hfraction, hexponent, hvalue]

/-- The numeral of a number is read as that number. Source: none: infrastructure -/
theorem value_decimal (n k : Nat) (hc : c = 44 ∨ c = 125) (rest : List UInt8) :
    value (n + 1) (decimal k ++ c :: rest) = some (.number k, c :: rest) := by
  have hnumber := number_decimal k hc rest
  obtain ⟨hnil, hall⟩ := isNumeral_decimal k
  obtain ⟨d, ds, hds⟩ := List.exists_cons_of_ne_nil hnil
  have hd : isDigit d = true := hall d (by rw [hds]; exact List.mem_cons_self)
  have hother : isSpace d = false ∧ d ≠ 123 ∧ d ≠ 91 ∧ d ≠ 34 := by
    refine ⟨?_, ?_, ?_, ?_⟩
    · by_contra hspace
      simp only [isSpace, Bool.not_eq_false, Bool.or_eq_true, decide_eq_true_eq] at hspace
      rcases hspace with ((rfl | rfl) | rfl) | rfl <;> cases hd
    · rintro rfl
      cases hd
    · rintro rfl
      cases hd
    · rintro rfl
      cases hd
  obtain ⟨hspace, hbrace, hbracket, hquote⟩ := hother
  rw [hds, List.cons_append] at hnumber ⊢
  have hskip : skipSpace (d :: (ds ++ c :: rest)) = d :: (ds ++ c :: rest) :=
    List.dropWhile_cons_of_neg (by simp [hspace])
  simp [value, hskip, hbrace, hbracket, hquote, hd, hnumber]

/-- One member of an object, as it is written without space. Source: none: infrastructure -/
theorem members_succ (hkey : Clean key) (value : Reader Value) (n : Nat) (s : List UInt8) :
    members value (n + 1) (34 :: (key ++ 34 :: 58 :: s)) = (value s).bind fun p =>
      match skipSpace p.2 with
      | [] => none
      | c :: s =>
          if c = 44 then (members value n s).map fun q => ((key, p.1) :: q.1, q.2)
          else if c = 125 then some ([(key, p.1)], s)
          else none := by
  have hquote : expect 34 (34 :: (key ++ 34 :: 58 :: s)) = some (key ++ 34 :: 58 :: s) := rfl
  have hcolon : expect 58 (58 :: s) = some s := rfl
  rw [members]
  simp only [hquote, stringBody_clean hkey, hcolon, Option.bind_eq_bind, Option.bind_some]
  congr 1
  funext p
  cases skipSpace p.2 with
  | nil => rfl
  | cons c s =>
      by_cases hc : c = 44
      · simp only [hc, if_true]
        cases members value n s <;> rfl
      · simp only [hc, if_false]

/-- An object that is not empty is read by its members. Source: none: infrastructure -/
theorem parse_object (s : List UInt8) :
    parse (123 :: 34 :: s) = (members (value (s.length + 2)) (s.length + 2) (34 :: s)).bind fun p =>
      if skipSpace p.2 = [] then some (.object p.1) else none := by
  have hbrace : expect 125 (34 :: s) = none := rfl
  have hvalue : value ((123 :: 34 :: s).length + 1) (123 :: 34 :: s) =
      (members (value (s.length + 2)) (s.length + 2) (34 :: s)).map fun p => (.object p.1, p.2) := by
    rw [List.length_cons, List.length_cons, value]
    show (match expect 125 (34 :: s) with
      | some rest => some (Value.object [], rest)
      | none => members (value (s.length + 2)) (s.length + 2) (34 :: s) >>= _) = _
    rw [hbrace]
    cases members (value (s.length + 2)) (s.length + 2) (34 :: s) <;> rfl
  unfold parse
  rw [hvalue]
  cases members (value (s.length + 2)) (s.length + 2) (34 :: s) <;> rfl

end Json
