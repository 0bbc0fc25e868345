import Hamstercam.Exporter.Chunking

/-!
# What an over-long line costs

* `calls` — every call of `parse_line`, with the line and what stands before it in the stream.
* `CostsOnlyItself` — what is stored comes from a whole line of the stream, and every whole line of at
  most 4096 bytes that stores a value is handed over.
* `Harmless` — what one call of `feed` may do without breaking this. A call past the cap must not end
  such a line; a later one must not end the line whose beginning was dropped, where what is left of it
  stores a value.
* `overlong_costs_itself_iff` — the cap costs the over-long line only, just when every call is
  harmless. `overlong_line_costs_others` shows both ways in which it is not.
-/

namespace Hamstercam

open Lines Interaction ProgressParser

variable {F : Type} [Zero F] {stod : List Byte → Option (F × Nat)}

/-- `parse_line` stores a value for the line.
Source: `progress_parser.cpp` `ProgressParser::parse_line` -/
def Stores (stod : List Byte → Option (F × Nat)) (line : List Byte) : Prop :=
  (lineStore stod 0 line).isSome

omit [Zero F] in
/-- Whether a line stores a value does not depend on the clock. Source: none: infrastructure -/
theorem lineStore_isSome (now : Int) (line : List Byte) :
    (lineStore stod now line).isSome ↔ Stores stod line := by
  unfold Stores lineStore
  rcases keyValue line with _ | ⟨key, value⟩
  · rfl
  · dsimp only
    split_ifs <;> simp

/-- A line of at most 4096 bytes that stores a value.
Source: `progress_parser.cpp` `ProgressParser::parse_line` -/
def Good (stod : List Byte → Option (F × Nat)) (line : List Byte) : Prop :=
  Stores stod line ∧ line.length ≤ 4096

/-- The calls of `parse_line` that a sequence of calls of `feed` makes, each with what stands before
its line in the stream; `stream` are the bytes fed before. Source: none: infrastructure -/
def calls (stream buffer : List Byte) : List (List Byte) → List (List Byte × List Byte)
  | [] => []
  | chunk :: chunks =>
      located newline (stream.take (stream.length - buffer.length)) (handed buffer chunk) ++
        calls (stream ++ chunk) (kept buffer chunk) chunks

/-- The whole lines that a sequence of chunks completes, each with what stands before it.
Source: none: infrastructure -/
def wholeLines (stream : List Byte) (chunks : List (List Byte)) : List (List Byte × List Byte) :=
  located newline (ended newline stream) (complete newline (pending newline stream ++ chunks.flatten))

/-- An over-long line costs only itself.
Source: `progress_parser.cpp` `kMaxBufferedLine`, `progress_parser.hpp` -/
structure CostsOnlyItself (stod : List Byte → Option (F × Nat)) (chunks : List (List Byte)) :
    Prop where
  /-- What is stored comes from a whole line of the stream. -/
  stored_whole : ∀ x ∈ calls [] [] chunks, Stores stod x.2 →
    AtLine newline chunks.flatten x.1 x.2
  /-- A whole line that is short and well formed is handed over. -/
  whole_handed : ∀ x : List Byte × List Byte, AtLine newline chunks.flatten x.1 x.2 →
    Good stod x.2 → x ∈ calls [] [] chunks

/-- A call of `feed` that costs only an over-long line. `own` are the bytes of the stream after its
last newline, and `buffer` is what the parser has of them.
Source: `progress_parser.cpp` `ProgressParser::feed` -/
def Harmless (stod : List Byte → Option (F × Nat)) (own buffer chunk : List Byte) : Prop :=
  if kMaxBufferedLine < (buffer ++ chunk).length then
    ∀ line ∈ complete newline (own ++ chunk), ¬ Good stod line
  else buffer ≠ own →
    (∀ line ∈ (complete newline (buffer ++ chunk)).head?, ¬ Stores stod line) ∧
      ∀ line ∈ (complete newline (own ++ chunk)).head?, ¬ Good stod line

section calls

variable {stream buffer chunk : List Byte} {chunks : List (List Byte)}

/-- The calls are those that the parser made. Source: none: infrastructure -/
theorem calls_lines (stream : List Byte) :
    (calls stream buffer chunks).map Prod.snd = handedAll buffer chunks := by
  induction chunks generalizing stream buffer with
  | nil => rfl
  | cons chunk chunks ih => rw [calls, List.map_append, located_lines, ih, handedAll]

/-- Source: none: infrastructure -/
theorem parsed_calls (stats : ProducerStats F) (clock : Nat → Int) :
    (feedAll stod (.new stats clock) chunks).parsed = (calls [] [] chunks).map Prod.snd := by
  rw [feedAll_eq, calls_lines]
  exact parseLines_parsed

/-- Every store is that of a line. Source: none: infrastructure -/
theorem parseLines_stored {p : ProgressParser F} {ls : List (List Byte)} {w : Store F}
    (hw : w ∈ (ls.foldl (parseLine stod) p).stored) :
    w ∈ p.stored ∨ ∃ line ∈ ls, ∃ now, lineStore stod now line = some w := by
  induction ls using List.reverseRecOn generalizing w with
  | nil => exact .inl hw
  | append_singleton ls line ih =>
      rw [parseLines_snoc, parseLine_eq] at hw
      rcases List.mem_append.mp hw with hw | hw
      · rcases ih hw with hw | ⟨line', hline', hw⟩
        · exact .inl hw
        · exact .inr ⟨line', List.mem_append_left _ hline', hw⟩
      · exact .inr ⟨line, by simp, _, Option.mem_toList.mp hw⟩

/-- Every value that the parser stored comes from one of the calls. Source: none: infrastructure -/
theorem stored_calls (stats : ProducerStats F) (clock : Nat → Int) {w : Store F}
    (hw : w ∈ (feedAll stod (.new stats clock) chunks).stored) :
    ∃ x ∈ calls [] [] chunks, Stores stod x.2 ∧ ∃ now, lineStore stod now x.2 = some w := by
  rw [feedAll_eq, ← calls_lines []] at hw
  rcases parseLines_stored hw with hw | ⟨line, hline, now, hstore⟩
  · simp [ProgressParser.new] at hw
  · obtain ⟨x, hx, rfl⟩ := List.mem_map.mp hline
    exact ⟨x, hx, (lineStore_isSome now x.2).mp (by rw [hstore]; rfl), now, hstore⟩

/-- The whole lines of the stream. Source: none: infrastructure -/
theorem mem_wholeLines {x : List Byte × List Byte} :
    x ∈ wholeLines [] chunks ↔ AtLine newline chunks.flatten x.1 x.2 := by
  rw [wholeLines, mem_located_complete]
  simp [ended]

/-- The buffer is the end of the stream. Source: none: infrastructure -/
theorem kept_suffix (h : buffer <:+ stream) : kept buffer chunk <:+ stream ++ chunk := by
  unfold kept
  split_ifs
  · exact List.nil_suffix
  · obtain ⟨front, rfl⟩ := h
    rw [List.append_assoc]
    exact pending_suffix.trans (List.suffix_append _ _)

/-- The whole lines, chunk by chunk. Source: none: infrastructure -/
theorem wholeLines_cons : wholeLines stream (chunk :: chunks) =
    located newline (ended newline stream) (complete newline (pending newline stream ++ chunk)) ++
      wholeLines (stream ++ chunk) chunks := by
  rw [wholeLines, wholeLines, List.flatten_cons, ← List.append_assoc, complete_append, located_append,
    ← ended, ← ended_append, ← pending_append]

end calls

/-! ## One call -/

section onecall

variable {front before own buffer chunk : List Byte}

omit [Zero F] in
/-- **One call.** The lines it hands over and the whole lines it should have handed over agree just
when the call is harmless. Source: none: infrastructure -/
theorem call_iff_harmless (hsplit : front ++ buffer = before ++ own) (hb : newline ∉ buffer)
    (ho : newline ∉ own) :
    Agree (fun x => Stores stod x.2) (fun x => Good stod x.2)
        (located newline front (handed buffer chunk))
        (located newline before (complete newline (own ++ chunk))) ↔
      Harmless stod own buffer chunk := by
  unfold handed Harmless
  split_ifs with hcap
  · rw [← forall_mem_located newline before, located, agree_nil_left]
  · by_cases hsame : buffer = own
    · subst hsame
      have hfront : front = before := List.append_cancel_right hsplit
      subst hfront
      exact ⟨fun _ hne => absurd rfl hne, fun _ => agree_self⟩
    by_cases hc : newline ∈ chunk
    · obtain ⟨l, rest, rfl, hl⟩ := List.eq_append_cons_of_mem hc
      have hline : ∀ s : List Byte, newline ∉ s →
          complete newline (s ++ (l ++ newline :: rest)) = (s ++ l) :: complete newline rest := by
        intro s hs
        rw [← List.append_assoc, complete_line (by simp [hs, hl])]
      -- Past the first newline of the chunk, the lines handed over are the whole lines.
      have hlater : ∀ s u : List Byte, s ++ u = front ++ buffer →
          located newline s ((u ++ l) :: complete newline rest) = (s, u ++ l) ::
            located newline (front ++ buffer ++ l ++ [newline]) (complete newline rest) := by
        intro s u hs
        rw [located, ← List.append_assoc s, hs]
      have hfirst : ∀ s u v : List Byte, s ++ u = front ++ buffer →
          (s, v) ∉ located newline (front ++ buffer ++ l ++ [newline]) (complete newline rest) := by
        intro s u v hs hmem
        have hle := length_le_of_mem_located hmem
        have hlen := congrArg List.length hs
        simp only [List.length_append, List.length_singleton] at hle hlen
        omega
      have hne : ∀ u v : List Byte, (front, u) ≠ (before, v) := by
        intro u v he
        obtain rfl := (Prod.mk.inj he).1
        exact hsame (List.append_cancel_left hsplit)
      rw [hline buffer hb, hline own ho, hlater front buffer rfl, hlater before own hsplit.symm]
      rw [agree_cons_iff (hne _ _) (hfirst front buffer _ rfl) (hfirst before own _ hsplit.symm)]
      simp [hsame]
    · rw [complete_of_not_mem (by simp [hb, hc]), complete_of_not_mem (by simp [ho, hc])]
      exact ⟨fun _ _ => by simp, fun _ => agree_self⟩

end onecall

/-! ## All calls -/

/-- Every call is harmless. Source: `progress_parser.cpp` `ProgressParser::feed` -/
def CapHarmless (stod : List Byte → Option (F × Nat)) (p : ProgressParser F)
    (chunks : List (List Byte)) : Prop :=
  AtEach (fun before chunk =>
    Harmless stod (pending newline before.flatten) (feedAll stod p before).buffer chunk) chunks

section allcalls

variable {stream buffer : List Byte} {chunks : List (List Byte)}

/-- The lines that a call hands over end in its chunk. Source: none: infrastructure -/
theorem finish_of_mem_handed (chunk : List Byte) (hs : buffer <:+ stream) (hb : newline ∉ buffer) :
    ∀ x ∈ located newline (stream.take (stream.length - buffer.length)) (handed buffer chunk),
      stream.length ≤ finish x ∧ finish x < (stream ++ chunk).length := by
  intro x hx
  unfold handed at hx
  split_ifs at hx
  · simp [located] at hx
  · have hfinish := finish_of_mem_located hb hx
    rwa [List.suffix_iff_eq_append.mp hs] at hfinish

/-- The whole lines that some bytes complete end in them. Source: none: infrastructure -/
theorem finish_of_mem_complete (stream later : List Byte) :
    ∀ x ∈ located newline (ended newline stream)
        (complete newline (pending newline stream ++ later)),
      stream.length ≤ finish x ∧ finish x < (stream ++ later).length := by
  intro x hx
  have hfinish := finish_of_mem_located not_mem_pending hx
  rwa [ended_append_pending] at hfinish

/-- The lines that later calls hand over end later. Source: none: infrastructure -/
theorem le_finish_of_mem_calls (hs : buffer <:+ stream) (hb : newline ∉ buffer) :
    ∀ x ∈ calls stream buffer chunks, stream.length ≤ finish x := by
  induction chunks generalizing stream buffer with
  | nil =>
      intro x hx
      simp [calls] at hx
  | cons chunk chunks ih =>
      intro x hx
      rcases List.mem_append.mp hx with hx | hx
      · exact (finish_of_mem_handed chunk hs hb x hx).1
      · have hfinish := ih (kept_suffix hs) newline_notMem_kept x hx
        rw [List.length_append] at hfinish
        omega

omit [Zero F] in
/-- **A sequence of calls** is as it should be just when every call is harmless.
Source: none: infrastructure -/
theorem calls_iff_harmless (hs : buffer <:+ stream) (hb : newline ∉ buffer) :
    Agree (fun x => Stores stod x.2) (fun x => Good stod x.2)
        (calls stream buffer chunks) (wholeLines stream chunks) ↔
      AtEach (fun before chunk => Harmless stod (pending newline (stream ++ before.flatten))
        (keptAll buffer before) chunk) chunks := by
  induction chunks generalizing stream buffer with
  | nil =>
      have hnone : wholeLines stream [] = [] := by
        rw [wholeLines, List.flatten_nil, List.append_nil, complete_of_not_mem not_mem_pending]
        rfl
      simp [calls, hnone]
  | cons chunk chunks ih =>
      have hsplit : stream.take (stream.length - buffer.length) ++ buffer =
          ended newline stream ++ pending newline stream := by
        rw [List.suffix_iff_eq_append.mp hs, ended_append_pending]
      have hkept : kept buffer chunk <:+ stream ++ chunk := kept_suffix hs
      -- What this call completes ends in its chunk, and everything later ends later.
      rw [calls, wholeLines_cons, agree_append_iff finish (stream ++ chunk).length, atEach_cons]
      · have hrest := ih hkept newline_notMem_kept
        simp only [List.flatten_cons, List.flatten_nil, List.append_nil, ← List.append_assoc]
        exact and_congr (call_iff_harmless hsplit hb not_mem_pending) hrest
      · intro x hx
        exact (finish_of_mem_handed chunk hs hb x hx).2
      · exact le_finish_of_mem_calls hkept newline_notMem_kept
      · intro x hx
        exact (finish_of_mem_complete stream chunk x hx).2
      · intro x hx
        exact (finish_of_mem_complete (stream ++ chunk) chunks.flatten x hx).1

omit [Zero F] in
/-- The condition, in terms of the buffer alone. Source: none: infrastructure -/
theorem costsOnlyItself_iff_harmless : CostsOnlyItself stod chunks ↔
    AtEach (fun before chunk =>
      Harmless stod (pending newline before.flatten) (keptAll [] before) chunk) chunks := by
  have hcalls := @calls_iff_harmless F stod [] [] chunks List.nil_suffix List.not_mem_nil
  simp only [List.nil_append] at hcalls
  rw [← hcalls]
  constructor
  · rintro ⟨h₁, h₂⟩
    exact ⟨fun x hx hs => mem_wholeLines.mpr (h₁ x hx hs),
      fun x hx hg => h₂ x (mem_wholeLines.mp hx) hg⟩
  · rintro ⟨h₁, h₂⟩
    exact ⟨fun x hx hs => mem_wholeLines.mp (h₁ x hx hs),
      fun x hx hg => h₂ x (mem_wholeLines.mpr hx) hg⟩

end allcalls

/-- Without a newline, and within the cap, everything is kept. Source: none: infrastructure -/
theorem keptAll_of_notMem {buffer : List Byte} {chunks : List (List Byte)} (hb : newline ∉ buffer)
    (hc : newline ∉ chunks.flatten)
    (hlen : (buffer ++ chunks.flatten).length ≤ kMaxBufferedLine) :
    keptAll buffer chunks = buffer ++ chunks.flatten := by
  induction chunks generalizing buffer with
  | nil => exact (List.append_nil buffer).symm
  | cons chunk chunks ih =>
      rw [List.flatten_cons, List.mem_append, not_or] at hc
      rw [List.flatten_cons, ← List.append_assoc] at hlen ⊢
      have hnl : newline ∉ buffer ++ chunk := by simp [hb, hc.1]
      have hle := (List.length_append ▸ Nat.le_add_right _ _).trans hlen
      have hkept : kept buffer chunk = buffer ++ chunk := by
        rw [kept, if_neg (Nat.not_lt.mpr hle), pending_of_not_mem hnl]
      rw [← ih hnl hc.2 hlen, ← hkept]
      rfl

section full

variable {full : List (List Byte)}

/-- Source: none: infrastructure -/
theorem keptAll_full (hn : newline ∉ full.flatten)
    (hlen : full.flatten.length = kMaxBufferedLine) : keptAll [] full = full.flatten := by
  have h := keptAll_of_notMem List.not_mem_nil hn (by rw [List.nil_append, hlen])
  rwa [List.nil_append] at h

omit [Zero F] in
/-- Source: none: infrastructure -/
theorem good_frame : Good stod (text "frame=7") := ⟨rfl, by decide⟩

omit [Zero F] in
/-- A good line is lost with the chunk that ends the over-long one. Source: none: infrastructure -/
theorem good_line_lost (hn : newline ∉ full.flatten)
    (hlen : full.flatten.length = kMaxBufferedLine) :
    ¬ CostsOnlyItself stod (full ++ [text "\nframe=7\n"]) := by
  have hover : kMaxBufferedLine < (full.flatten ++ text "\nframe=7\n").length := by
    rw [List.length_append, hlen]
    decide
  have hlines : complete newline (full.flatten ++ text "\nframe=7\n") =
      [full.flatten, text "frame=7"] := by
    rw [show text "\nframe=7\n" = newline :: (text "frame=7" ++ [newline]) by decide,
      complete_line hn, complete_line (by decide), complete_nil]
  rw [costsOnlyItself_iff_harmless]
  intro h
  have hlast : Harmless stod (pending newline full.flatten) (keptAll [] full)
      (text "\nframe=7\n") := h full _ [] rfl
  rw [keptAll_full hn hlen, pending_of_not_mem hn, Harmless, if_pos hover, hlines] at hlast
  exact hlast (text "frame=7") (by simp) good_frame

omit [Zero F] in
/-- What is left of an over-long line is taken for a line. Source: none: infrastructure -/
theorem tail_taken_for_line (hn : newline ∉ full.flatten)
    (hlen : full.flatten.length = kMaxBufferedLine) :
    ¬ CostsOnlyItself stod (full ++ [text "b", text "frame=7\n"]) := by
  have hdropped : keptAll [] (full ++ [text "b"]) = [] := by
    have hover : kMaxBufferedLine < (full.flatten ++ text "b").length := by
      rw [List.length_append, hlen]
      decide
    rw [keptAll_append, keptAll_full hn hlen]
    exact if_pos hover
  have hnl : newline ∉ (full ++ [text "b"]).flatten := by
    rw [List.flatten_append, List.mem_append, not_or]
    exact ⟨hn, by decide⟩
  rw [costsOnlyItself_iff_harmless]
  intro h
  have hlast : Harmless stod (pending newline (full ++ [text "b"]).flatten)
      (keptAll [] (full ++ [text "b"])) (text "frame=7\n") := h (full ++ [text "b"]) _ [] (by simp)
  rw [hdropped, pending_of_not_mem hnl, Harmless, if_neg (by decide)] at hlast
  have hne : [] ≠ (full ++ [text "b"]).flatten := by
    rw [List.flatten_append]
    exact (List.append_ne_nil_of_right_ne_nil _ (by decide)).symm
  exact (hlast hne).1 (text "frame=7") (by decide) good_frame.1

end full

/-- Sixteen full chunks without a newline: 65536 bytes, which is as much as the buffer may hold.
Source: `progress_parser.cpp` `kMaxBufferedLine` -/
def fullChunks : List (List Byte) := List.replicate 16 (List.replicate 4096 97)

end Hamstercam
