import Mathlib.Algebra.GroupWithZero.Nat
import Mathlib.Data.List.Infix
import Mathlib.Data.List.TakeDrop
import Hamstercam.Lib.Interaction

/-!
# One thread writes, another one reads

* `Access ι ω` — what a thread does that shares a memory: it makes calls and writes. `calls` and
  `writes` take its exchange apart.
* `Memory σ μ ω κ` — a memory of the cells `κ`, with contents `μ`, of a thread with local state `σ` that
  alone writes to it; `Memory.store` is one write.
* `Memory.Refines bound x' x` — the program `x'` makes the calls of `x` and leaves what `x` leaves, and it
  writes to no cell more often than `bound` has it. The rules `refines_*` follow the statements.
* `View κ log` — what a reader has seen of the writes: of each cell a beginning of the log, and of two
  cells not the same one. `View.Before` orders the views of one reader.
* `prefix_flatMap` — a beginning of the log of many blocks lies between two of them; `at_boundary` — a cell
  that a block writes at most once looks as it does between two blocks. `View.Before.last` — a reader finds
  the values of a cell in the order in which they are written.
-/

namespace SharedMemory

open Interaction

/-! ## Calls and writes -/

section programs

variable {ι ω κ μ σ α β : Type} {ans : ι → Type}

/-- What a thread does. Source: none: infrastructure -/
inductive Access (ι ω : Type)
  | call (c : ι)
  | write (w : ω)

/-- A write is not answered. Source: none: infrastructure -/
@[reducible] def Access.Answer (ω : Type) (ans : ι → Type) : Access ι ω → Type
  | .call c => ans c
  | .write _ => Unit

/-- Source: none: infrastructure -/
abbrev AccessObs (ω : Type) (ans : ι → Type) : Type := Obs (Access.Answer ω ans)

/-- Source: none: infrastructure -/
def AccessObs.call? : AccessObs ω ans → Option (Obs ans)
  | ⟨.call c, r⟩ => some ⟨c, r⟩
  | ⟨.write _, _⟩ => none

/-- Source: none: infrastructure -/
def AccessObs.write? : AccessObs ω ans → Option ω
  | ⟨.call _, _⟩ => none
  | ⟨.write w, _⟩ => some w

/-- The calls of an exchange, in order. Source: none: infrastructure -/
def calls (tr : List (AccessObs ω ans)) : List (Obs ans) := tr.filterMap AccessObs.call?

/-- The writes of an exchange, in order. Source: none: infrastructure -/
def writes (tr : List (AccessObs ω ans)) : List ω := tr.filterMap AccessObs.write?

variable {tr tr' : List (AccessObs ω ans)}

/-- Source: none: infrastructure -/
@[simp] theorem calls_nil : calls ([] : List (AccessObs ω ans)) = [] := rfl

/-- Source: none: infrastructure -/
@[simp] theorem writes_nil : writes ([] : List (AccessObs ω ans)) = [] := rfl

/-- Source: none: infrastructure -/
@[simp] theorem calls_call (c : ι) (r : ans c) :
    calls ((⟨.call c, r⟩ : AccessObs ω ans) :: tr) = ⟨c, r⟩ :: calls tr := rfl

/-- Source: none: infrastructure -/
@[simp] theorem writes_call (c : ι) (r : ans c) :
    writes ((⟨.call c, r⟩ : AccessObs ω ans) :: tr) = writes tr := rfl

/-- Source: none: infrastructure -/
@[simp] theorem calls_write (w : ω) (u : Unit) :
    calls ((⟨.write w, u⟩ : AccessObs ω ans) :: tr) = calls tr := rfl

/-- Source: none: infrastructure -/
@[simp] theorem writes_write (w : ω) (u : Unit) :
    writes ((⟨.write w, u⟩ : AccessObs ω ans) :: tr) = w :: writes tr := rfl

/-- Source: none: infrastructure -/
@[simp] theorem calls_append : calls (tr ++ tr') = calls tr ++ calls tr' := List.filterMap_append

/-- Source: none: infrastructure -/
@[simp] theorem writes_append : writes (tr ++ tr') = writes tr ++ writes tr' := List.filterMap_append

/-! ## The writer -/

/-- A memory that one thread writes. Source: none: infrastructure -/
structure Memory (σ μ ω κ : Type) where
  /-- The contents, as the writer leaves them. -/
  content : σ → μ
  /-- What a write does to the contents. -/
  write : μ → ω → μ
  /-- The state of the writer after a write. -/
  update : σ → ω → σ
  /-- The cell that is written. -/
  cell : ω → κ
  content_update : ∀ s w, content (update s w) = write (content s) w

/-- A call of the thread. Source: none: infrastructure -/
def ask (c : ι) : StateT σ (Prog (Access.Answer ω ans)) (ans c) := perform (Access.call c)

namespace Memory

variable (M : Memory σ μ ω κ)

/-- One write. Source: none: infrastructure -/
def store (w : ω) : StateT σ (Prog (Access.Answer ω ans)) Unit := do
  let _ ← perform (Access.write w)
  modify (M.update · w)

/-- **The program `x'` does what `x` does**, and its writes are what it leaves in the memory.
Source: none: infrastructure -/
structure Refines (bound : List κ) (x' : StateT σ (Prog (Access.Answer ω ans)) α)
    (x : StateT σ (Prog ans) α) : Prop where
  /-- Its calls are those of `x`, and it leads to the same state. -/
  sound : ∀ {s tr a s'}, Does x' s tr a s' → Does x s (calls tr) a s' ∧
    M.content s' = (writes tr).foldl M.write (M.content s) ∧ ((writes tr).map M.cell).Sublist bound
  /-- It can do all that `x` can do. -/
  complete : ∀ {s tr a s'}, Does x s tr a s' → ∃ tr', calls tr' = tr ∧ Does x' s tr' a s'

variable {M} {bound bound' : List κ} {x' : StateT σ (Prog (Access.Answer ω ans)) α}
  {x : StateT σ (Prog ans) α}

/-- Source: none: infrastructure -/
theorem Refines.weaken (hbound : bound.Sublist bound') (h : M.Refines bound x' x) :
    M.Refines bound' x' x where
  sound hd := ⟨(h.sound hd).1, (h.sound hd).2.1, (h.sound hd).2.2.trans hbound⟩
  complete := h.complete

/-- Source: none: infrastructure -/
theorem refines_pure (a : α) :
    M.Refines [] (pure a : StateT σ (Prog (Access.Answer ω ans)) α) (pure a) where
  sound h := by
    obtain ⟨rfl, rfl, rfl⟩ := does_pure.mp h
    exact ⟨does_pure.mpr ⟨rfl, rfl, rfl⟩, rfl, .refl []⟩
  complete h := by
    obtain ⟨rfl, rfl, rfl⟩ := does_pure.mp h
    exact ⟨[], rfl, does_pure.mpr ⟨rfl, rfl, rfl⟩⟩

/-- **One statement after the other.** Source: none: infrastructure -/
theorem Refines.bind {f' : α → StateT σ (Prog (Access.Answer ω ans)) β}
    {f : α → StateT σ (Prog ans) β} (h : M.Refines bound x' x)
    (hf : ∀ a, M.Refines bound' (f' a) (f a)) : M.Refines (bound ++ bound') (x' >>= f') (x >>= f) where
  sound hd := by
    obtain ⟨tr₁, tr₂, a, s₁, rfl, h₁, h₂⟩ := does_bind.mp hd
    obtain ⟨hd₁, hm₁, hw₁⟩ := h.sound h₁
    obtain ⟨hd₂, hm₂, hw₂⟩ := (hf a).sound h₂
    refine ⟨?_, ?_, ?_⟩
    · rw [calls_append]
      exact does_bind.mpr ⟨_, _, a, s₁, rfl, hd₁, hd₂⟩
    · rw [writes_append, List.foldl_append, ← hm₁, hm₂]
    · rw [writes_append, List.map_append]
      exact hw₁.append hw₂
  complete hd := by
    obtain ⟨tr₁, tr₂, a, s₁, rfl, h₁, h₂⟩ := does_bind.mp hd
    obtain ⟨tr₁', rfl, h₁'⟩ := h.complete h₁
    obtain ⟨tr₂', rfl, h₂'⟩ := (hf a).complete h₂
    exact ⟨tr₁' ++ tr₂', calls_append, does_bind.mpr ⟨_, _, a, s₁, rfl, h₁', h₂'⟩⟩

/-- What comes after a program writes nothing. Source: none: infrastructure -/
theorem Refines.bind_quiet {f' : α → StateT σ (Prog (Access.Answer ω ans)) β}
    {f : α → StateT σ (Prog ans) β} (h : M.Refines bound x' x)
    (hf : ∀ a, M.Refines [] (f' a) (f a)) : M.Refines bound (x' >>= f') (x >>= f) := by
  rw [← List.append_nil bound]
  exact h.bind hf

/-- Source: none: infrastructure -/
theorem does_ask_bind {c : ι} {s s' : σ} {tr : List (AccessObs ω ans)} {b : β}
    {f : ans c → StateT σ (Prog (Access.Answer ω ans)) β} :
    Does (ask c >>= f) s tr b s' ↔ ∃ r tr', tr = ⟨.call c, r⟩ :: tr' ∧ Does (f r) s tr' b s' :=
  Prog.exec_call

/-- Source: none: infrastructure -/
theorem does_store_bind {w : ω} {s s' : σ} {tr : List (AccessObs ω ans)} {b : β}
    {f : Unit → StateT σ (Prog (Access.Answer ω ans)) β} :
    Does (M.store w >>= f) s tr b s' ↔
      ∃ tr', tr = ⟨.write w, ()⟩ :: tr' ∧ Does (f ()) (M.update s w) tr' b s' := by
  constructor
  · intro h
    obtain ⟨_, tr', rfl, hf⟩ := Prog.exec_call.mp h
    exact ⟨tr', rfl, hf⟩
  · rintro ⟨tr', rfl, hf⟩
    exact Prog.exec_call.mpr ⟨(), tr', rfl, hf⟩

/-- Source: none: infrastructure -/
theorem does_store {w : ω} {s s' : σ} {tr : List (AccessObs ω ans)} {u : Unit} :
    Does (M.store w) s tr u s' ↔ tr = [⟨.write w, ()⟩] ∧ s' = M.update s w := by
  constructor
  · intro h
    obtain ⟨_, tr', rfl, hf⟩ := Prog.exec_call.mp h
    obtain ⟨rfl, rfl⟩ := does_modify.mp hf
    exact ⟨rfl, rfl⟩
  · rintro ⟨rfl, rfl⟩
    exact .call (.ret _)

/-- A call, and then the rest. Source: none: infrastructure -/
theorem refines_ask_bind {c : ι} {f' : ans c → StateT σ (Prog (Access.Answer ω ans)) β}
    {f : ans c → StateT σ (Prog ans) β} (hf : ∀ r, M.Refines bound (f' r) (f r)) :
    M.Refines bound (ask c >>= f') (perform c >>= f) where
  sound h := by
    obtain ⟨r, tr, rfl, hr⟩ := does_ask_bind.mp h
    obtain ⟨hd, hm, hw⟩ := (hf r).sound hr
    exact ⟨does_perform_bind.mpr ⟨r, calls tr, rfl, hd⟩, hm, hw⟩
  complete h := by
    obtain ⟨r, tr, rfl, hr⟩ := does_perform_bind.mp h
    obtain ⟨tr', rfl, hr'⟩ := (hf r).complete hr
    exact ⟨⟨.call c, r⟩ :: tr', rfl, does_ask_bind.mpr ⟨r, tr', rfl, hr'⟩⟩

/-- A look at the local state, and then the rest. Source: none: infrastructure -/
theorem refines_get_bind {f' : σ → StateT σ (Prog (Access.Answer ω ans)) β}
    {f : σ → StateT σ (Prog ans) β} (hf : ∀ s, M.Refines bound (f' s) (f s)) :
    M.Refines bound (get >>= f') (get >>= f) where
  sound h := (hf _).sound h
  complete h := (hf _).complete h

/-- An update of the local state that leaves the memory, and then the rest.
Source: none: infrastructure -/
theorem refines_modify_bind {g : σ → σ} {f' : PUnit → StateT σ (Prog (Access.Answer ω ans)) β}
    {f : PUnit → StateT σ (Prog ans) β} (hg : ∀ s, M.content (g s) = M.content s)
    (hf : M.Refines bound (f' ⟨⟩) (f ⟨⟩)) : M.Refines bound (modify g >>= f') (modify g >>= f) where
  sound h := by
    obtain ⟨hd, hm, hw⟩ := hf.sound h
    refine ⟨hd, ?_, hw⟩
    rw [hm, hg]
  complete h := hf.complete h

/-- An update of the local state that leaves the memory. Source: none: infrastructure -/
theorem refines_modify {g : σ → σ} (hg : ∀ s, M.content (g s) = M.content s) :
    M.Refines [] (modify g : StateT σ (Prog (Access.Answer ω ans)) PUnit) (modify g) where
  sound h := by
    obtain ⟨rfl, rfl⟩ := does_modify.mp h
    exact ⟨does_modify.mpr ⟨rfl, rfl⟩, hg _, .refl []⟩
  complete h := by
    obtain ⟨rfl, rfl⟩ := does_modify.mp h
    exact ⟨[], rfl, does_modify.mpr ⟨rfl, rfl⟩⟩

/-- **A write is one update of the plain program**, and then the rest. Source: none: infrastructure -/
theorem refines_store_bind {w : ω} {k : κ} {g : σ → σ}
    {f' : Unit → StateT σ (Prog (Access.Answer ω ans)) β} {f : PUnit → StateT σ (Prog ans) β}
    (hcell : M.cell w = k) (hg : ∀ s, M.update s w = g s) (hf : M.Refines bound (f' ()) (f ⟨⟩)) :
    M.Refines (k :: bound) (M.store w >>= f') (modify g >>= f) where
  sound h := by
    subst hcell
    obtain ⟨tr, rfl, hrest⟩ := does_store_bind.mp h
    obtain ⟨hd, hm, hw⟩ := hf.sound hrest
    refine ⟨?_, ?_, hw.cons_cons _⟩
    · rw [hg] at hd
      exact does_modify_bind.mpr hd
    · rw [hm, writes_write, List.foldl_cons, M.content_update]
  complete h := by
    obtain ⟨tr', rfl, hd⟩ := hf.complete (does_modify_bind.mp h)
    rw [← hg] at hd
    exact ⟨⟨.write w, ()⟩ :: tr', rfl, does_store_bind.mpr ⟨tr', rfl, hd⟩⟩

/-- Source: none: infrastructure -/
theorem Refines.ite {p : Prop} [Decidable p] {y' : StateT σ (Prog (Access.Answer ω ans)) α}
    {y : StateT σ (Prog ans) α} (hx : p → M.Refines bound x' x) (hy : ¬ p → M.Refines bound y' y) :
    M.Refines bound (if p then x' else y') (if p then x else y) := by
  by_cases hp : p
  · rw [if_pos hp, if_pos hp]
    exact hx hp
  · rw [if_neg hp, if_neg hp]
    exact hy hp

end Memory

end programs

/-! ## The reader -/

section reader

variable {ω κ μ γ τ : Type} {write : μ → ω → μ} {cell : ω → κ} {log p q : List ω}

/-- What a reader has seen of the writes. To each cell the writes come in order, and nothing is said about
the cells together. Source: none: infrastructure -/
structure View (κ : Type) (log : List ω) where
  /-- The writes that the reader has seen when it looks at a cell. -/
  seen : κ → List ω
  isPrefix : ∀ x, seen x <+: log

/-- A later view: of no cell less has been seen. Source: none: infrastructure -/
def View.Before (v w : View κ log) : Prop := ∀ x, v.seen x <+: w.seen x

/-- The view of a reader that has seen everything. Source: none: infrastructure -/
def View.all (log : List ω) : View κ log := ⟨fun _ => log, fun _ => List.prefix_rfl⟩

/-- Source: none: infrastructure -/
theorem View.before_all (v : View κ log) : v.Before (.all log) := v.isPrefix

/-- Sums over more writes are larger. Source: none: infrastructure -/
theorem sum_le_of_prefix (amount : ω → Nat) (h : p <+: q) :
    (p.map amount).sum ≤ (q.map amount).sum := by
  obtain ⟨rest, rfl⟩ := h
  rw [List.map_append, List.sum_append_nat]
  exact Nat.le_add_right _ _

/-- **A beginning of a log of blocks lies within one block.** Source: none: infrastructure -/
theorem prefix_flatMap {f : τ → List ω} {ls : List τ} (h : p <+: ls.flatMap f) :
    ∃ before after q, ls = before ++ after ∧ p = before.flatMap f ++ q ∧
      (q = [] ∨ ∃ l rest, after = l :: rest ∧ q <+: f l) := by
  induction ls generalizing p with
  | nil =>
      rw [List.flatMap_nil, List.prefix_nil] at h
      exact ⟨[], [], [], rfl, h, .inl rfl⟩
  | cons l ls ih =>
      rw [List.flatMap_cons] at h
      rcases List.prefix_or_prefix_of_prefix h (List.prefix_append (f l) _) with hin | ⟨q, rfl⟩
      · exact ⟨[], l :: ls, p, rfl, rfl, .inr ⟨l, ls, rfl, hin⟩⟩
      · have hq := (List.prefix_append_right_inj (f l)).mp h
        obtain ⟨before, after, q', rfl, rfl, hq'⟩ := ih hq
        refine ⟨l :: before, after, q', rfl, ?_, hq'⟩
        rw [List.flatMap_cons, List.append_assoc]

/-- A beginning of a log of blocks lies between two moments at which a block ends.
Source: none: infrastructure -/
theorem prefix_take {f : τ → List ω} {ls : List τ} (h : p <+: ls.flatMap f) :
    ∃ k, (ls.take k).flatMap f <+: p ∧ p <+: (ls.take (k + 1)).flatMap f := by
  obtain ⟨before, after, q, rfl, rfl, hq⟩ := prefix_flatMap h
  refine ⟨before.length, ?_, ?_⟩
  · rw [List.take_left]
    exact List.prefix_append _ q
  · rcases hq with rfl | ⟨l, rest, rfl, hq⟩
    · rw [List.append_nil, List.take_append, List.flatMap_append,
        List.take_of_length_le (Nat.le_succ _)]
      exact List.prefix_append _ _
    · have hnext : (before ++ l :: rest).take (before.length + 1) = before ++ [l] := by
        simp [List.take_append]
      rw [hnext, List.flatMap_append, List.flatMap_singleton]
      exact (List.prefix_append_right_inj _).mpr hq

/-- Writes to other cells do not show. Source: none: infrastructure -/
theorem foldl_other {get : μ → γ} {x : κ} (hother : ∀ s w, cell w ≠ x → get (write s w) = get s)
    (s : μ) (h : ∀ w ∈ p, cell w ≠ x) : get (p.foldl write s) = get s := by
  induction p generalizing s with
  | nil => rfl
  | cons w p ih =>
      obtain ⟨hw, hp⟩ := List.forall_mem_cons.mp h
      rw [List.foldl_cons, ih _ hp, hother s w hw]

/-- **A cell holds what was written to it last.** Source: none: infrastructure -/
theorem foldl_last {get : μ → γ} {value : ω → Option γ}
    (hwrite : ∀ s w, get (write s w) = (value w).getD (get s)) (s : μ) (p : List ω) :
    get (p.foldl write s) = (p.filterMap value).getLast?.getD (get s) := by
  induction p using List.reverseRecOn with
  | nil => rfl
  | append_singleton p w ih =>
      rw [List.foldl_append, List.foldl_cons, List.foldl_nil, hwrite, ih, List.filterMap_append]
      cases hw : value w with
      | none => simp [hw]
      | some x => simp [hw]

/-- What a reader finds in a cell is the last of the first values of the cell; a later one has seen more
of them. Source: none: infrastructure -/
theorem View.Before.last {get : μ → γ} {value : ω → Option γ} {x : κ} {v w : View κ log}
    (hvw : v.Before w) (hwrite : ∀ s w, get (write s w) = (value w).getD (get s)) (s : μ) :
    ∃ i j, i ≤ j ∧ j ≤ (log.filterMap value).length ∧
      get ((v.seen x).foldl write s) = ((log.filterMap value).take i).getLast?.getD (get s) ∧
      get ((w.seen x).foldl write s) = ((log.filterMap value).take j).getLast?.getD (get s) ∧
      (v.seen x = log → i = (log.filterMap value).length) := by
  have hv := (v.isPrefix x).filterMap value
  have hw := (w.isPrefix x).filterMap value
  refine ⟨_, _, ((hvw x).filterMap value).length_le, hw.length_le, ?_, ?_, fun hall => by rw [hall]⟩
  · rw [foldl_last hwrite, ← List.prefix_iff_eq_take.mp hv]
  · rw [foldl_last hwrite, ← List.prefix_iff_eq_take.mp hw]

/-- **A cell that no block writes twice looks as it does between two blocks.**
Source: none: infrastructure -/
theorem at_boundary {f : τ → List ω} {ls : List τ} {get : μ → γ} {x : κ} [DecidableEq κ]
    (hother : ∀ s w, cell w ≠ x → get (write s w) = get s)
    (honce : ∀ l ∈ ls, ((f l).map cell).count x ≤ 1) (s : μ) (h : p <+: ls.flatMap f) :
    ∃ before, before <+: ls ∧ get (p.foldl write s) = get ((before.flatMap f).foldl write s) := by
  obtain ⟨before, after, q, rfl, rfl, hq⟩ := prefix_flatMap h
  rcases hq with rfl | ⟨l, rest, rfl, r, hr⟩
  · exact ⟨before, List.prefix_append before after, by rw [List.append_nil]⟩
  · have hl := honce l (by simp)
    rw [← hr, List.map_append, List.count_append] at hl
    by_cases hmem : x ∈ q.map cell
    · -- the write has been seen, and none comes after it in the block
      have hpos := List.count_pos_iff.mpr hmem
      have hrest : ∀ w ∈ r, cell w ≠ x := by
        intro w hw heq
        have hpos' : 0 < (r.map cell).count x :=
          List.count_pos_iff.mpr (List.mem_map.mpr ⟨w, hw, heq⟩)
        omega
      refine ⟨before ++ [l], ⟨rest, by simp⟩, ?_⟩
      have hend : (before ++ [l]).flatMap f = (before.flatMap f ++ q) ++ r := by
        simp [← hr]
      have hlater := foldl_other hother ((before.flatMap f ++ q).foldl write s) hrest
      rw [hend, ← hlater, ← List.foldl_append]
    · refine ⟨before, List.prefix_append before _, ?_⟩
      rw [List.foldl_append]
      exact foldl_other hother _ fun w hw heq => hmem (List.mem_map.mpr ⟨w, hw, heq⟩)

end reader

end SharedMemory
