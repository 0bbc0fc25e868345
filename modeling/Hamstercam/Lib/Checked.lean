import Hamstercam.Lib.Interaction

/-!
# Programs that check their arithmetic

* `Fits64 n` — the range of a signed 64-bit integer; `check`, `add`, `sub`, `mul` — the operations on such
  integers, without a result where it would overflow.
* `Checking σ ans α` — an interaction program with a local state that stops at the first overflow.
  `attempt` makes a computation part of such a program, `update` a state change with computations in it,
  and `lift` a program that computes nothing.
* `Exact ok x y s` — from the state `s`, and as long as the environment answers within `ok`, the checked
  program `x` never stops, and does what the program `y` does. There is one rule for each way to build a
  program, so that the proof follows the text of the two.
-/

namespace Checked

open Interaction

/-! ## Integers -/

/-- The range of a signed 64-bit integer. Source: none: infrastructure -/
def Fits64 (n : Int) : Prop := -9223372036854775808 ≤ n ∧ n < 9223372036854775808

instance (n : Int) : Decidable (Fits64 n) := inferInstanceAs (Decidable (_ ∧ _))

/-- The result of a computation, unless it overflows. Source: none: infrastructure -/
def check (n : Int) : Option Int := if Fits64 n then some n else none

/-- Source: none: infrastructure -/
def add (a b : Int) : Option Int := check (a + b)

/-- Source: none: infrastructure -/
def sub (a b : Int) : Option Int := check (a - b)

/-- Source: none: infrastructure -/
def mul (a b : Int) : Option Int := check (a * b)

/-- A computation that fits has its result. Source: none: infrastructure -/
theorem check_of_fits {n : Int} (h : Fits64 n) : check n = some n := if_pos h

/-- A sum that fits. Source: none: infrastructure -/
theorem add_of_fits {a b : Int} (h : Fits64 (a + b)) : add a b = some (a + b) := if_pos h

/-- A difference that fits. Source: none: infrastructure -/
theorem sub_of_fits {a b : Int} (h : Fits64 (a - b)) : sub a b = some (a - b) := if_pos h

/-- A product that fits. Source: none: infrastructure -/
theorem mul_of_fits {a b : Int} (h : Fits64 (a * b)) : mul a b = some (a * b) := if_pos h

/-- A difference is what it should be. Source: none: infrastructure -/
theorem eq_of_sub {a b c : Int} (h : sub a b = some c) : c = a - b := by
  unfold sub check at h
  split_ifs at h
  exact (Option.some.inj h).symm

/-! ## Programs -/

section programs

variable {ι : Type} {ans : ι → Type} {α β σ : Type}

/-- A program with a local state that may stop without a result. Source: none: infrastructure -/
abbrev Checking (σ : Type) (ans : ι → Type) (α : Type) : Type := OptionT (StateT σ (Prog ans)) α

/-- A program without computations. Source: none: infrastructure -/
def lift (y : StateT σ (Prog ans) α) : Checking σ ans α := OptionT.lift y

/-- A computation, at which the program may stop. Source: none: infrastructure -/
def attempt (r : Option α) : Checking σ ans α := OptionT.mk (pure r)

/-- A state change with computations, at which the program may stop. Source: none: infrastructure -/
def update (g : σ → Option σ) : Checking σ ans Unit := do
  let s ← lift get
  let s' ← attempt (g s)
  lift (set s')

/-! ## Exactness -/

/-- From `s`, when the environment answers within `ok`, the checked program `x` does exactly what `y`
does, and in particular never stops. Source: none: infrastructure -/
def Exact (ok : Obs ans → Prop) (x : Checking σ ans α) (y : StateT σ (Prog ans) α) (s : σ) : Prop :=
  ∀ tr r s', (∀ o ∈ tr, ok o) → (Does x.run s tr r s' ↔ ∃ a, r = some a ∧ Does y s tr a s')

variable {ok : Obs ans → Prop} {s : σ} {x : Checking σ ans α} {y : StateT σ (Prog ans) α}
  {f : α → Checking σ ans β} {g : α → StateT σ (Prog ans) β}

/-- **Sequences.** Source: none: infrastructure -/
theorem exact_bind (hx : Exact ok x y s)
    (hf : ∀ tr a s', (∀ o ∈ tr, ok o) → Does y s tr a s' → Exact ok (f a) (g a) s') :
    Exact ok (x >>= f) (y >>= g) s := by
  intro tr r s' hok
  change Does (x.run >>= fun r => match r with
    | some a => (f a).run
    | none => pure none) s tr r s' ↔ _
  rw [does_bind]
  simp only [does_bind]
  constructor
  · rintro ⟨tr₁, tr₂, r₁, s₁, rfl, h₁, h₂⟩
    obtain ⟨hok₁, hok₂⟩ := List.forall_mem_append.mp hok
    obtain ⟨a, rfl, hy⟩ := (hx tr₁ r₁ s₁ hok₁).mp h₁
    obtain ⟨b, rfl, hg⟩ := (hf tr₁ a s₁ hok₁ hy tr₂ r s' hok₂).mp h₂
    exact ⟨b, rfl, tr₁, tr₂, a, s₁, rfl, hy, hg⟩
  · rintro ⟨b, rfl, tr₁, tr₂, a, s₁, rfl, hy, hg⟩
    obtain ⟨hok₁, hok₂⟩ := List.forall_mem_append.mp hok
    refine ⟨tr₁, tr₂, some a, s₁, rfl, (hx tr₁ _ s₁ hok₁).mpr ⟨a, rfl, hy⟩, ?_⟩
    exact (hf tr₁ a s₁ hok₁ hy tr₂ _ s' hok₂).mpr ⟨b, rfl, hg⟩

/-- A program without computations. Source: none: infrastructure -/
theorem exact_lift (y : StateT σ (Prog ans) α) (s : σ) : Exact ok (lift y) y s := by
  intro tr r s' _
  change Does (y >>= fun a => pure (some a)) s tr r s' ↔ _
  rw [does_bind]
  simp only [does_pure]
  constructor
  · rintro ⟨tr₁, _, a, s₁, rfl, hy, rfl, rfl, rfl⟩
    exact ⟨a, rfl, by rwa [List.append_nil]⟩
  · rintro ⟨a, rfl, hy⟩
    exact ⟨tr, [], a, s', (List.append_nil tr).symm, hy, rfl, rfl, rfl⟩

/-- A program without computations, and then something that is exact wherever it leads.
Source: none: infrastructure -/
theorem exact_then (h : ∀ a s', Exact ok (f a) (g a) s') : Exact ok (lift y >>= f) (y >>= g) s :=
  exact_bind (exact_lift y s) fun _ a s' _ _ => h a s'

/-- Returning. Source: none: infrastructure -/
theorem exact_pure (a : α) (s : σ) : Exact ok (pure a : Checking σ ans α) (pure a) s := by
  intro tr r s' _
  change Does (pure (some a)) s tr r s' ↔ _
  simp only [does_pure]
  constructor
  · rintro ⟨rfl, rfl, rfl⟩
    exact ⟨a, rfl, rfl, rfl, rfl⟩
  · rintro ⟨_, rfl, rfl, rfl, rfl⟩
    exact ⟨rfl, rfl, rfl⟩

/-- Branches. Source: none: infrastructure -/
theorem exact_ite {c : Prop} [Decidable c] {x' : Checking σ ans α} {y' : StateT σ (Prog ans) α}
    (h : c → Exact ok x y s) (h' : ¬ c → Exact ok x' y' s) :
    Exact ok (if c then x else x') (if c then y else y') s := by
  by_cases hc : c
  · rw [if_pos hc, if_pos hc]
    exact h hc
  · rw [if_neg hc, if_neg hc]
    exact h' hc

/-- Reading the state. Source: none: infrastructure -/
theorem exact_get {f : σ → Checking σ ans β} {g : σ → StateT σ (Prog ans) β}
    (h : Exact ok (f s) (g s) s) : Exact ok (lift get >>= f) (get >>= g) s := h

/-- Changing the state. Source: none: infrastructure -/
theorem exact_modify {u : σ → σ} {f : PUnit → Checking σ ans β} {g : PUnit → StateT σ (Prog ans) β}
    (h : Exact ok (f ⟨⟩) (g ⟨⟩) (u s)) :
    Exact ok (lift (modify u) >>= f) (modify u >>= g) s := h

/-- A computation that fits. Source: none: infrastructure -/
theorem exact_attempt {r : Option α} {a : α} {z : StateT σ (Prog ans) β} (hr : r = some a)
    (h : Exact ok (f a) z s) : Exact ok (attempt r >>= f) z s := by
  subst hr
  exact h

/-- A computation that fits, at the end. Source: none: infrastructure -/
theorem exact_attempt_last {r : Option α} {a : α} (hr : r = some a) :
    Exact ok (attempt r : Checking σ ans α) (pure a) s := by
  subst hr
  exact exact_pure a s

/-- A state change whose computations fit, at the end. Source: none: infrastructure -/
theorem exact_update_last {v : σ → Option σ} {u : σ → σ} (hv : v s = some (u s)) :
    Exact ok (update v : Checking σ ans PUnit) (modify u) s := by
  intro tr r s' _
  change Does (attempt (v s) >>= fun s' => lift (set s')).run s tr r s' ↔ _
  rw [hv]
  change Prog.Exec (Prog.ret (some PUnit.unit, u s)) tr (r, s') ↔ _
  simp only [Prog.exec_ret, does_modify, Prod.mk.injEq]
  constructor
  · rintro ⟨rfl, rfl, rfl⟩
    exact ⟨⟨⟩, rfl, rfl, rfl⟩
  · rintro ⟨_, rfl, rfl, rfl⟩
    exact ⟨rfl, rfl, rfl⟩

/-- A state change whose computations fit. Source: none: infrastructure -/
theorem exact_update {v : σ → Option σ} {u : σ → σ} {f : PUnit → Checking σ ans β}
    {g : PUnit → StateT σ (Prog ans) β} (hv : v s = some (u s)) (h : Exact ok (f ⟨⟩) (g ⟨⟩) (u s)) :
    Exact ok (update v >>= f) (modify u >>= g) s := by
  apply exact_bind (exact_update_last hv)
  intro tr a s' _ hmodify
  obtain ⟨-, rfl⟩ := does_modify.mp hmodify
  exact h

/-- A call. Source: none: infrastructure -/
theorem exact_perform {c : ι} {f : ans c → Checking σ ans β} {g : ans c → StateT σ (Prog ans) β}
    (h : ∀ r, ok ⟨c, r⟩ → Exact ok (f r) (g r) s) :
    Exact ok (lift (perform c) >>= f) (perform c >>= g) s := by
  intro tr r s' hok
  change Does (perform c >>= fun a => (f a).run) s tr r s' ↔ _
  simp only [does_perform_bind]
  constructor
  · rintro ⟨a, tr', rfl, hf⟩
    obtain ⟨ha, hok'⟩ := List.forall_mem_cons.mp hok
    obtain ⟨b, rfl, hg⟩ := (h a ha tr' r s' hok').mp hf
    exact ⟨b, rfl, a, tr', rfl, hg⟩
  · rintro ⟨b, rfl, a, tr', rfl, hg⟩
    obtain ⟨ha, hok'⟩ := List.forall_mem_cons.mp hok
    exact ⟨a, tr', rfl, (h a ha tr' _ s' hok').mpr ⟨b, rfl, hg⟩⟩

end programs

end Checked
