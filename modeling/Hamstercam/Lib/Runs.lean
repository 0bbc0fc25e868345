import Mathlib.Algebra.BigOperators.Group.List.Basic
import Mathlib.Algebra.GroupWithZero.Nat
import Mathlib.Data.List.Induction
import Mathlib.Logic.Basic

/-!
# Runs of a labelled step relation

* `Run step s ls t` — from `s` the relation `step` reaches `t` by the steps labelled `ls`, oldest
  first. A run grows at its end, so an induction on it sees the whole history before the last step.
* `Run.history_invariant` — the invariant rule for properties of the history together with the state
  reached; `Run.invariant` is the case that looks at the state only.
* `Run.total` — the accounting rule: what every step adds to a counter, summed over the run.
* `Run.length_le` — the ranking rule: how long a run can be when every step is paid for.
* `run_append`, `run_cons`, `Run.at_split`, `Run.at_mem` — a run seen from inside; `run_congr` — the
  runs of two relations that agree along them.
* `AtEach Q ls` — `Q` holds of every element of a list together with what stands before it.
-/

namespace Interaction

variable {σ ℓ : Type} {step : σ → ℓ → σ → Prop} {s t u : σ} {l : ℓ} {ls ks : List ℓ}

/-! ## Runs -/

/-- `Run step s ls t`: the steps labelled `ls` lead from `s` to `t`.
Source: none: infrastructure -/
inductive Run (step : σ → ℓ → σ → Prop) (s : σ) : List ℓ → σ → Prop
  /-- No step. -/
  | nil : Run step s [] s
  /-- One step more. -/
  | snoc {ls : List ℓ} {t u : σ} {l : ℓ} (init : Run step s ls t) (last : step t l u) :
      Run step s (ls ++ [l]) u

/-- No step, no change. Source: none: infrastructure -/
@[simp] theorem run_nil : Run step s [] t ↔ t = s := by
  constructor
  · intro h
    generalize hls : ([] : List ℓ) = ls at h
    cases h with
    | nil => rfl
    | snoc init last => simp at hls
  · rintro rfl
    exact .nil

/-- The last step comes last. Source: none: infrastructure -/
theorem run_snoc : Run step s (ls ++ [l]) u ↔ ∃ t, Run step s ls t ∧ step t l u := by
  constructor
  · intro h
    generalize hls : ls ++ [l] = ks at h
    cases h with
    | nil => simp at hls
    | snoc init last =>
        obtain ⟨rfl, hl⟩ := List.append_inj' hls rfl
        cases hl
        exact ⟨_, init, last⟩
  · rintro ⟨t, init, last⟩
    exact .snoc init last

/-- Runs compose. Source: none: infrastructure -/
theorem run_append : Run step s (ls ++ ks) u ↔ ∃ t, Run step s ls t ∧ Run step t ks u := by
  induction ks using List.reverseRecOn generalizing u with
  | nil => simp
  | append_singleton ks l ih =>
      rw [← List.append_assoc, run_snoc]
      simp only [ih, run_snoc]
      constructor
      · rintro ⟨v, ⟨t, h₁, h₂⟩, hl⟩
        exact ⟨t, h₁, v, h₂, hl⟩
      · rintro ⟨t, h₁, v, h₂, hl⟩
        exact ⟨v, ⟨t, h₁, h₂⟩, hl⟩

/-- The first step comes first. Source: none: infrastructure -/
theorem run_cons : Run step s (l :: ls) u ↔ ∃ t, step s l t ∧ Run step t ls u := by
  rw [← List.singleton_append, run_append]
  have hone : ∀ t, Run step s [l] t ↔ step s l t := by
    intro t
    rw [← List.nil_append [l], run_snoc]
    simp
  simp only [hone]

/-- Every step of a run starts where the steps before it lead.
Source: none: infrastructure -/
theorem Run.at_split (h : Run step s (ls ++ l :: ks) u) :
    ∃ v w, Run step s ls v ∧ step v l w ∧ Run step w ks u := by
  obtain ⟨v, h₁, h₂⟩ := run_append.mp h
  obtain ⟨w, hl, h₃⟩ := run_cons.mp h₂
  exact ⟨v, w, h₁, hl, h₃⟩

/-- A step of a run is taken from where the run had led by then.
Source: none: infrastructure -/
theorem Run.at_mem (h : Run step s ls t) (hl : l ∈ ls) :
    ∃ ks v w, ks ++ [l] <+: ls ∧ Run step s ks v ∧ step v l w := by
  obtain ⟨ks, rest, rfl⟩ := List.append_of_mem hl
  obtain ⟨v, w, hbefore, hstep, -⟩ := h.at_split
  exact ⟨ks, v, w, ⟨rest, List.append_assoc _ _ _⟩, hbefore, hstep⟩

/-- Two step relations have the same runs if they agree on every step of one of them.
Source: none: infrastructure -/
theorem run_congr {step' : σ → ℓ → σ → Prop}
    (agree : ∀ {ks t l u}, ks ++ [l] <+: ls → Run step s ks t → (step t l u ↔ step' t l u)) :
    Run step s ls t ↔ Run step' s ls t := by
  induction ls using List.reverseRecOn generalizing t with
  | nil => rw [run_nil, run_nil]
  | append_singleton ls l ih =>
      have hinit : ∀ {t}, Run step s ls t ↔ Run step' s ls t :=
        ih fun hks => agree (hks.trans (List.prefix_append ls [l]))
      rw [run_snoc, run_snoc]
      constructor
      · rintro ⟨v, hv, hl⟩
        exact ⟨v, hinit.mp hv, (agree List.prefix_rfl hv).mp hl⟩
      · rintro ⟨v, hv, hl⟩
        exact ⟨v, hinit.mpr hv, (agree List.prefix_rfl (hinit.mpr hv)).mpr hl⟩

/-! ## Invariants of runs -/

/-- **The invariant rule, with history.** What holds before the first step, and is kept by every step
of a run, holds of the history and the state reached.
Source: none: infrastructure -/
theorem Run.history_invariant (I : List ℓ → σ → Prop) (start : I [] s)
    (keep : ∀ {ls t l u}, Run step s ls t → I ls t → step t l u → I (ls ++ [l]) u)
    (h : Run step s ls t) : I ls t := by
  induction h with
  | nil => exact start
  | snoc init last ih => exact keep init ih last

/-- **The invariant rule.** What holds at the start and is kept by every step holds wherever a run
leads.
Source: none: infrastructure -/
theorem Run.invariant {I : σ → Prop} (start : I s)
    (keep : ∀ {t l u}, I t → step t l u → I u) (h : Run step s ls t) : I t :=
  h.history_invariant (fun _ => I) start fun _ ht hl => keep ht hl

/-- **The accounting rule.** A counter that every step of a run raises by `add` of its label holds, in
the end, what it held at the start and the sum of what the steps added.
Source: none: infrastructure -/
theorem Run.total {κ : Type} [AddMonoid κ] {counter : σ → κ} {add : ℓ → κ}
    (keep : ∀ {ls t l u}, Run step s ls t → step t l u → counter u = counter t + add l)
    (h : Run step s ls t) : counter t = counter s + (ls.map add).sum := by
  induction h with
  | nil => simp
  | snoc init last ih =>
      rw [keep init last, ih, List.map_append, List.sum_append, add_assoc]
      simp

/-- **The ranking rule.** When every step pays for itself, by a drop of `rank` or by the `cost` of its
label, a run is no longer than the rank it starts with and the costs of its labels.
Source: none: infrastructure -/
theorem Run.length_le {I : σ → Prop} (rank : σ → Nat) (cost : ℓ → Nat) (start : I s)
    (keep : ∀ {t l u}, I t → step t l u → I u)
    (pays : ∀ {t l u}, I t → l ∈ ls → step t l u → rank u + 1 ≤ rank t + cost l)
    (h : Run step s ls t) : rank t + ls.length ≤ rank s + (ls.map cost).sum := by
  revert pays
  induction h with
  | nil => simp
  | @snoc ls t u l init last ih =>
      intro pays
      have hbefore := ih fun ht hl => pays ht (List.mem_append_left _ hl)
      have hlast := pays (init.invariant start keep) (List.mem_append_right _ List.mem_cons_self) last
      simp only [List.length_append, List.length_singleton, List.map_append, List.sum_append,
        List.map_singleton, List.sum_singleton]
      omega

/-! ## Elements with what stands before them -/

/-- `AtEach Q ls`: `Q` holds of every element of `ls` together with the elements before it.
Source: none: infrastructure -/
def AtEach (Q : List ℓ → ℓ → Prop) (ls : List ℓ) : Prop :=
  ∀ before l after, ls = before ++ l :: after → Q before l

section atEach

variable {Q : List ℓ → ℓ → Prop}

/-- Source: none: infrastructure -/
@[simp] theorem atEach_nil : AtEach Q [] := by
  intro before l after h
  simp at h

/-- Source: none: infrastructure -/
theorem atEach_append :
    AtEach Q (ls ++ ks) ↔ AtEach Q ls ∧ AtEach (fun before l => Q (ls ++ before) l) ks := by
  constructor
  · intro h
    refine ⟨fun before l after hl => ?_, fun before l after hl => ?_⟩
    · exact h before l (after ++ ks) (by rw [hl]; simp)
    · exact h (ls ++ before) l after (by rw [hl]; simp)
  · rintro ⟨h₁, h₂⟩ before l after hl
    rcases List.append_eq_append_iff.mp hl with ⟨mid, rfl, hmid⟩ | ⟨mid, rfl, hmid⟩
    · exact h₂ mid l after hmid
    · cases mid with
      | nil =>
          rw [List.nil_append] at hmid
          simpa using h₂ [] l after hmid.symm
      | cons k mid =>
          obtain ⟨rfl, rfl⟩ := List.cons_eq_cons.mp hmid
          exact h₁ before l mid rfl

/-- Source: none: infrastructure -/
@[simp] theorem atEach_cons :
    AtEach Q (l :: ls) ↔ Q [] l ∧ AtEach (fun before k => Q (l :: before) k) ls := by
  constructor
  · intro h
    refine ⟨h [] l ls rfl, fun before k after hk => ?_⟩
    exact h (l :: before) k after (by rw [hk]; rfl)
  · rintro ⟨h₁, h₂⟩ before k after hk
    cases before with
    | nil =>
        obtain ⟨rfl, rfl⟩ := List.cons_eq_cons.mp hk
        exact h₁
    | cons b before =>
        obtain ⟨rfl, rfl⟩ := List.cons_eq_cons.mp hk
        exact h₂ before k after rfl

end atEach

/-- A property of every step and the run before it is a property of every step of a run.
Source: none: infrastructure -/
theorem Run.atEach {Q : List ℓ → ℓ → Prop}
    (each : ∀ {ls t l u}, Run step s ls t → step t l u → Q ls l)
    (h : Run step s ls t) : AtEach Q ls := by
  rintro before l after rfl
  obtain ⟨v, w, h₁, hl, -⟩ := h.at_split
  exact each h₁ hl

end Interaction
