import Mathlib.Algebra.Group.Basic
import Mathlib.Data.List.Chain
import Mathlib.Data.List.SplitBy

/-!
# Windows and runs of a sequence

* `windows due start ts` — the times `ts`, cut into windows: a window is closed by the first time that is
  `due`, and the next one starts there. `windows_isCut` says what the cut is, without the recursion.
* `Window.gaps` — the distances between the times of a window, counting the one from its start;
  `Window.sum_gaps` adds them up.
* `maximalRuns p ls` — the longest pieces of `ls`, in order, whose elements all satisfy `p`.
* `length_maximalRuns_snoc` — an element at the end begins a new run if it satisfies `p` and the element
  before it does not.
-/

namespace Segments

/-! ## Windows -/

section windows

variable {τ : Type}

/-- A window: where it starts, and the times that belong to it, oldest first.
Source: none: infrastructure -/
structure Window (τ : Type) where
  /-- Where the window starts. -/
  start : τ
  /-- The times of the window. -/
  times : List τ
  deriving DecidableEq

/-- Where a window ends so far. Source: none: infrastructure -/
def Window.stop (w : Window τ) : τ := w.times.getLastD w.start

/-- One more time for a window. Source: none: infrastructure -/
def Window.add (w : Window τ) (t : τ) : Window τ := { w with times := w.times ++ [t] }

/-- Source: none: infrastructure -/
@[simp] theorem Window.add_start (w : Window τ) (t : τ) : (w.add t).start = w.start := rfl

/-- Source: none: infrastructure -/
@[simp] theorem Window.add_times (w : Window τ) (t : τ) : (w.add t).times = w.times ++ [t] := rfl

/-- Source: none: infrastructure -/
@[simp] theorem Window.add_stop (w : Window τ) (t : τ) : (w.add t).stop = t := by
  simp [Window.stop]

/-- A sequence of windows: the closed ones, oldest first, and the one that is open.
Source: none: infrastructure -/
structure Windows (τ : Type) where
  /-- The closed windows. -/
  closed : List (Window τ)
  /-- The open window. -/
  current : Window τ

/-- The time `t` belongs to the open window, and closes it if it is due.
Source: none: infrastructure -/
def Windows.after (due : τ → τ → Bool) (ws : Windows τ) (t : τ) : Windows τ :=
  if due ws.current.start t then ⟨ws.closed ++ [ws.current.add t], ⟨t, []⟩⟩
  else { ws with current := ws.current.add t }

/-- The windows of a sequence of times. Source: none: infrastructure -/
def windows (due : τ → τ → Bool) (start : τ) (ts : List τ) : Windows τ :=
  ts.foldl (Windows.after due) ⟨[], ⟨start, []⟩⟩

variable {due : τ → τ → Bool} {start t : τ} {ts : List τ} {ws : Windows τ}

/-- Source: none: infrastructure -/
theorem windows_snoc (due : τ → τ → Bool) (start : τ) (ts : List τ) (t : τ) :
    windows due start (ts ++ [t]) = (windows due start ts).after due t := by
  rw [windows, windows, List.foldl_append]
  rfl

/-- The cut of a sequence of times into windows, seen from outside.
Source: none: infrastructure -/
structure IsCut (due : τ → τ → Bool) (start : τ) (ts : List τ) (ws : Windows τ) : Prop where
  /-- Every time belongs to exactly one window. -/
  once : ws.closed.flatMap Window.times ++ ws.current.times = ts
  /-- The first window starts at the start, and each one after it where the one before it stops. -/
  consecutive : (ws.closed ++ [ws.current]).map Window.start = start :: ws.closed.map Window.stop
  /-- A closed window is closed by the first of its times that is due. -/
  closing : ∀ w ∈ ws.closed, ∃ before, w.times = before ++ [w.stop] ∧ due w.start w.stop = true ∧
    ∀ t ∈ before, due w.start t = false
  /-- No time of the open window is due. -/
  opened : ∀ t ∈ ws.current.times, due ws.current.start t = false

/-- One more time, and the windows are still a cut. Source: none: infrastructure -/
theorem IsCut.after (h : IsCut due start ts ws) (t : τ) :
    IsCut due start (ts ++ [t]) (ws.after due t) := by
  obtain ⟨once, consecutive, closing, opened⟩ := h
  unfold Windows.after
  by_cases hdue : due ws.current.start t = true
  · rw [if_pos hdue]
    refine ⟨?_, ?_, ?_, ?_⟩
    · simp [← once]
    · simp only [List.map_append, List.map_cons, List.map_nil, Window.add_start, Window.add_stop] at *
      rw [consecutive]
      rfl
    · intro w hw
      rcases List.mem_append.mp hw with hw | hw
      · exact closing w hw
      · rw [List.mem_singleton.mp hw]
        exact ⟨ws.current.times, by simp, by simpa using hdue, opened⟩
    · intro t ht
      cases ht
  · rw [if_neg hdue]
    refine ⟨?_, ?_, closing, ?_⟩
    · simp [← once]
    · simpa using consecutive
    · intro u hu
      rcases List.mem_append.mp hu with hu | hu
      · exact opened u hu
      · rw [List.mem_singleton.mp hu]
        simpa using hdue

/-- **The windows are a cut.** Source: none: infrastructure -/
theorem windows_isCut (due : τ → τ → Bool) (start : τ) (ts : List τ) :
    IsCut due start ts (windows due start ts) := by
  induction ts using List.reverseRecOn with
  | nil => exact ⟨rfl, rfl, by simp [windows], by simp [windows]⟩
  | append_singleton ts t ih =>
      rw [windows_snoc]
      exact ih.after t

/-- The distances from each time of a window to the next, counting the one from its start.
Source: none: infrastructure -/
def Window.gaps [Sub τ] (w : Window τ) : List τ := w.times.zipWith (· - ·) (w.start :: w.times)

/-- There is one gap before each time. Source: none: infrastructure -/
theorem Window.length_gaps [Sub τ] (w : Window τ) : w.gaps.length = w.times.length := by
  simp [Window.gaps]

/-- The gaps of a window add up to its duration. Source: none: infrastructure -/
theorem Window.sum_gaps [AddCommGroup τ] (w : Window τ) : w.gaps.sum = w.stop - w.start := by
  obtain ⟨start, times⟩ := w
  unfold Window.gaps Window.stop
  induction times generalizing start with
  | nil => simp
  | cons t ts ih =>
      rw [List.zipWith_cons_cons, List.sum_cons, ih t, List.getLastD_cons]
      exact sub_add_sub_cancel' t start _

end windows

/-! ## Maximal runs -/

section runs

variable {α : Type} {p : α → Bool} {ls : List α} {a b : α}

/-- Cut a list where `p` changes. Source: none: infrastructure -/
abbrev pieces (p : α → Bool) (ls : List α) : List (List α) := ls.splitBy fun a b => p a == p b

/-- The maximal runs of elements that satisfy `p`. Source: none: infrastructure -/
def maximalRuns (p : α → Bool) (ls : List α) : List (List α) :=
  (pieces p ls).filter fun piece => piece.all p

/-- Source: none: infrastructure -/
@[simp] theorem maximalRuns_nil : maximalRuns p [] = [] := by
  rw [maximalRuns, pieces, List.splitBy_nil, List.filter_nil]

/-- Where no element satisfies `p` there is no run. Source: none: infrastructure -/
theorem maximalRuns_eq_nil (h : ∀ a ∈ ls, p a = false) : maximalRuns p ls = [] := by
  apply List.filter_eq_nil_iff.mpr
  intro piece hpiece hall
  obtain ⟨a, ha⟩ := List.exists_mem_of_ne_nil piece (List.ne_nil_of_mem_splitBy hpiece)
  have hmem : a ∈ ls := by
    rw [← List.flatten_splitBy (fun a b => p a == p b) ls]
    exact List.mem_flatten.mpr ⟨piece, hpiece, ha⟩
  have htrue := List.all_eq_true.mp hall a ha
  rw [h a hmem] at htrue
  cases htrue

/-- An element that differs from the last one is a piece of its own. Source: none: infrastructure -/
theorem pieces_snoc_of_ne (h : ∀ a ∈ ls.getLast?, p a ≠ p b) :
    pieces p (ls ++ [b]) = pieces p ls ++ [[b]] := by
  have hcut : pieces p (ls ++ [b]) = pieces p ls ++ pieces p [b] := by
    apply List.splitBy_append_cons
    intro a ha
    simpa using h a ha
  rw [hcut]
  rfl

/-- The last piece ends with the last element. Source: none: infrastructure -/
theorem pieces_concat (p : α → Bool) (ls : List α) (a : α) :
    ∃ before piece, pieces p (ls ++ [a]) = before ++ [piece ++ [a]] := by
  rcases List.eq_nil_or_concat' (pieces p (ls ++ [a])) with hnil | ⟨before, last, hpieces⟩
  · simp at hnil
  · have hmem : last ∈ pieces p (ls ++ [a]) := by
      rw [hpieces]
      exact List.mem_append_right _ List.mem_cons_self
    have hflat : before.flatten ++ last = ls ++ [a] := by
      have hjoin : (pieces p (ls ++ [a])).flatten = ls ++ [a] := List.flatten_splitBy _ _
      rw [hpieces] at hjoin
      simpa using hjoin
    rcases List.eq_nil_or_concat' last with rfl | ⟨piece, c, rfl⟩
    · exact absurd hmem (List.nil_notMem_splitBy _ _)
    · rw [← List.append_assoc] at hflat
      obtain ⟨-, hc⟩ := List.append_inj' hflat rfl
      cases hc
      exact ⟨before, piece, hpieces⟩

/-- An element that does not differ from the last one belongs to its piece.
Source: none: infrastructure -/
theorem pieces_snoc_of_eq (h : p a = p b) {before : List (List α)} {piece : List α}
    (hpieces : pieces p (ls ++ [a]) = before ++ [piece ++ [a]]) :
    pieces p (ls ++ [a] ++ [b]) = before ++ [piece ++ [a] ++ [b]] := by
  obtain ⟨hflat, hnil, hchain, hcut⟩ := List.splitBy_eq_iff.mp hpieces
  apply List.splitBy_eq_iff.mpr
  refine ⟨?_, ?_, ?_, ?_⟩
  · rw [hflat]
    simp
  · simpa using hnil
  · intro q hq
    rcases List.mem_append.mp hq with hq | hq
    · exact hchain q (List.mem_append_left _ hq)
    · rw [List.mem_singleton.mp hq]
      have hold := hchain (piece ++ [a]) (List.mem_append_right _ List.mem_cons_self)
      apply List.isChain_append.mpr
      refine ⟨hold, List.isChain_singleton b, ?_⟩
      intro x hx y hy
      simp at hx hy
      simp [← hx, ← hy, h]
  · obtain ⟨hbefore, -, hlast⟩ := List.isChain_append.mp hcut
    apply List.isChain_append.mpr
    refine ⟨hbefore, List.isChain_singleton _, ?_⟩
    intro x hx y hy
    obtain ⟨hxne, hne, hdiff⟩ := hlast x hx (piece ++ [a]) rfl
    cases hy
    refine ⟨hxne, by simp, ?_⟩
    rw [List.head_append_left hne]
    exact hdiff

/-- **Runs grow at the end.** An element begins a new run if it satisfies `p` and the one before it does
not.
Source: none: infrastructure -/
theorem length_maximalRuns_snoc (p : α → Bool) (ls : List α) (b : α) :
    (maximalRuns p (ls ++ [b])).length =
      (maximalRuns p ls).length + if p b && !ls.getLast?.any p then 1 else 0 := by
  rcases List.eq_nil_or_concat' ls with rfl | ⟨init, a, rfl⟩
  · have hone : pieces p ([] ++ [b]) = [[b]] := pieces_snoc_of_ne (by simp)
    rw [maximalRuns, hone]
    cases hb : p b <;> simp [hb]
  · rw [List.getLast?_concat, Option.any_some]
    by_cases h : p a = p b
    · -- the last run, if it is one, grows
      obtain ⟨before, piece, hpieces⟩ := pieces_concat p init a
      rw [maximalRuns, pieces_snoc_of_eq h hpieces, maximalRuns, hpieces]
      cases hb : p b <;> simp [List.filter_cons, h, hb]
      split_ifs <;> rfl
    · have hne : ∀ c ∈ (init ++ [a]).getLast?, p c ≠ p b := by
        intro c hc
        rw [List.getLast?_concat] at hc
        cases hc
        exact h
      rw [maximalRuns, pieces_snoc_of_ne hne, List.filter_append, List.length_append, ← maximalRuns]
      cases ha : p a <;> cases hb : p b <;> simp_all

end runs

end Segments
