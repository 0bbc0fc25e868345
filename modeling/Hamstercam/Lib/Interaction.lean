import Mathlib.Data.List.Basic
import Mathlib.Logic.Basic

/-!
# Interaction programs: a program, its environment, and the runs between them

* `Prog ans α` — a program that returns an `α` after making calls `c : ι`, each answered by an
  `ans c`. It is the free monad on the signature `ans`, so that the code that calls is written in
  `do`-notation and the environment is not part of it.
* `Prog.Exec p tr a` — `p` may return `a` after the exchange `tr`: the list of the calls made, each
  with the answer it got (`Obs`). Every answer of the right type is allowed, so a statement about
  all `tr` is a statement about every environment.
* `Does x s tr a s'` — the same for a program with a local state (`StateT`). The lemmas `does_*` turn
  a `do`-block into the list of its possible exchanges, one statement at a time.
* `SameAnswers tr tr'` — two exchanges in which equal calls get equal answers; `Does.deterministic` says
  that they lead a program to the same result.
* `Follows env s tr s'` — the environment `env`, a relation on its own states, gives the answers of
  `tr` and goes from `s` to `s'`. `Follows.invariant_of_accepts` is the rule for a client that keeps
  to a call protocol: what every legal call preserves, a whole exchange preserves.
* `Prog.eval` — a program against a functional environment; `Prog.eval_exec` and `eval_follows` say
  that its run is one of the program's and one of the environment's.
-/

namespace Interaction

variable {ι : Type} {ans : ι → Type} {α β σ : Type}

/-- One call together with the answer it got.
Source: none: infrastructure -/
abbrev Obs (ans : ι → Type) : Type := Σ c, ans c

/-! ## Programs -/

/-- A program over the call signature `ans`.
Source: none: infrastructure -/
inductive Prog (ans : ι → Type) (α : Type) : Type
  /-- Return a value. -/
  | ret (a : α)
  /-- Make the call `c` and go on with its answer. -/
  | call (c : ι) (next : ans c → Prog ans α)

namespace Prog

/-- Sequencing: the second program starts where the first returns.
Source: none: infrastructure -/
def bind : Prog ans α → (α → Prog ans β) → Prog ans β
  | ret a, f => f a
  | call c next, f => call c fun r => (next r).bind f

instance : Monad (Prog ans) where
  pure := ret
  bind := bind

/-- The program that makes one call and returns its answer.
Source: none: infrastructure -/
def request (c : ι) : Prog ans (ans c) := call c ret

/-- `Exec p tr a`: the program `p` may return `a` after the exchange `tr`.
Source: none: infrastructure -/
inductive Exec : Prog ans α → List (Obs ans) → α → Prop
  | ret (a : α) : Exec (ret a) [] a
  | call {c : ι} {next : ans c → Prog ans α} {r : ans c} {tr : List (Obs ans)} {a : α}
      (h : Exec (next r) tr a) : Exec (call c next) (⟨c, r⟩ :: tr) a

/-- `ret a` makes no call. Source: none: infrastructure -/
@[simp] theorem exec_ret {a b : α} {tr : List (Obs ans)} :
    Exec (ret a : Prog ans α) tr b ↔ tr = [] ∧ b = a := by
  constructor
  · intro h
    cases h
    exact ⟨rfl, rfl⟩
  · rintro ⟨rfl, rfl⟩
    exact .ret _

/-- `pure a` makes no call. Source: none: infrastructure -/
@[simp] theorem exec_pure {a b : α} {tr : List (Obs ans)} :
    Exec (pure a : Prog ans α) tr b ↔ tr = [] ∧ b = a := exec_ret

/-- The first exchange of `call c next` is the call `c`. Source: none: infrastructure -/
@[simp] theorem exec_call {c : ι} {next : ans c → Prog ans α} {tr : List (Obs ans)} {a : α} :
    Exec (call c next) tr a ↔ ∃ r tr', tr = ⟨c, r⟩ :: tr' ∧ Exec (next r) tr' a := by
  constructor
  · intro h
    cases h with
    | call h => exact ⟨_, _, rfl, h⟩
  · rintro ⟨r, tr', rfl, h⟩
    exact .call h

/-- The exchange of a sequence is the exchange of its parts, in order.
Source: none: infrastructure -/
theorem exec_bind {p : Prog ans α} {f : α → Prog ans β} {tr : List (Obs ans)} {b : β} :
    Exec (p >>= f) tr b ↔ ∃ tr₁ tr₂ a, tr = tr₁ ++ tr₂ ∧ Exec p tr₁ a ∧ Exec (f a) tr₂ b := by
  change Exec (p.bind f) tr b ↔ _
  induction p generalizing tr with
  | ret a => simp [Prog.bind]
  | call c next ih =>
      simp only [Prog.bind, exec_call, ih]
      constructor
      · rintro ⟨r, _, rfl, tr₁, tr₂, a, rfl, h₁, h₂⟩
        exact ⟨⟨c, r⟩ :: tr₁, tr₂, a, rfl, ⟨r, tr₁, rfl, h₁⟩, h₂⟩
      · rintro ⟨_, tr₂, a, rfl, ⟨r, tr₁, rfl, h₁⟩, h₂⟩
        exact ⟨r, tr₁ ++ tr₂, rfl, tr₁, tr₂, a, rfl, h₁, h₂⟩

/-- Exchanges compose along a sequence. Source: none: infrastructure -/
theorem Exec.bind {p : Prog ans α} {f : α → Prog ans β} {tr₁ tr₂ : List (Obs ans)} {a : α} {b : β}
    (h₁ : Exec p tr₁ a) (h₂ : Exec (f a) tr₂ b) : Exec (p >>= f) (tr₁ ++ tr₂) b :=
  exec_bind.mpr ⟨tr₁, tr₂, a, rfl, h₁, h₂⟩

end Prog

/-! ## Determinism -/

/-- Two exchanges with the same answers: where the calls agree, from the first one on, so do the
answers. Once the calls differ, nothing is said.
Source: none: infrastructure -/
def SameAnswers : List (Obs ans) → List (Obs ans) → Prop
  | o :: tr, o' :: tr' => o.1 = o'.1 → o = o' ∧ SameAnswers tr tr'
  | _, _ => True

/-- Source: none: infrastructure -/
theorem sameAnswers_refl (tr : List (Obs ans)) : SameAnswers tr tr := by
  induction tr with
  | nil => trivial
  | cons o tr ih => exact fun _ => ⟨rfl, ih⟩

/-- **A program is determined by the answers it gets.** Source: none: infrastructure -/
theorem Prog.Exec.deterministic {p : Prog ans α} {tr tr' : List (Obs ans)} {a b : α}
    (h : Prog.Exec p tr a) (h' : Prog.Exec p tr' b) (same : SameAnswers tr tr') :
    tr = tr' ∧ a = b := by
  induction h generalizing tr' with
  | ret a =>
      obtain ⟨rfl, rfl⟩ := Prog.exec_ret.mp h'
      exact ⟨rfl, rfl⟩
  | call h ih =>
      obtain ⟨r, rest, rfl, hnext⟩ := Prog.exec_call.mp h'
      obtain ⟨hobs, hrest⟩ := same rfl
      cases hobs
      obtain ⟨rfl, rfl⟩ := ih hnext hrest
      exact ⟨rfl, rfl⟩

/-! ## Programs with a local state -/

/-- `Does x s tr a s'`: from the local state `s` the program `x` may return `a` in the local state
`s'` after the exchange `tr`.
Source: none: infrastructure -/
def Does (x : StateT σ (Prog ans) α) (s : σ) (tr : List (Obs ans)) (a : α) (s' : σ) : Prop :=
  (x.run s).Exec tr (a, s')

/-- One call from a program with a local state. Source: none: infrastructure -/
def perform (c : ι) : StateT σ (Prog ans) (ans c) := StateT.lift (Prog.request c)

section does

variable {s s' : σ} {tr : List (Obs ans)} {b : β}

/-- A returning program keeps its state. Source: none: infrastructure -/
theorem does_pure {a a' : α} :
    Does (pure a : StateT σ (Prog ans) α) s tr a' s' ↔ tr = [] ∧ a' = a ∧ s' = s := by
  simp [Does]

/-- Sequencing with a local state. Source: none: infrastructure -/
theorem does_bind {x : StateT σ (Prog ans) α} {f : α → StateT σ (Prog ans) β} :
    Does (x >>= f) s tr b s' ↔
      ∃ tr₁ tr₂ a s₁, tr = tr₁ ++ tr₂ ∧ Does x s tr₁ a s₁ ∧ Does (f a) s₁ tr₂ b s' := by
  simp only [Does, StateT.run_bind, Prog.exec_bind, Prod.exists]

/-- Reading the state, then going on. Source: none: infrastructure -/
theorem does_get_bind {f : σ → StateT σ (Prog ans) β} :
    Does (get >>= f) s tr b s' ↔ Does (f s) s tr b s' := Iff.rfl

/-- Changing the state, then going on. Source: none: infrastructure -/
theorem does_modify_bind {g : σ → σ} {f : PUnit → StateT σ (Prog ans) β} :
    Does (modify g >>= f) s tr b s' ↔ Does (f ⟨⟩) (g s) tr b s' := Iff.rfl

/-- Changing the state as the last statement. Source: none: infrastructure -/
theorem does_modify {g : σ → σ} {u : PUnit} :
    Does (modify g : StateT σ (Prog ans) PUnit) s tr u s' ↔ tr = [] ∧ s' = g s := by
  change Prog.Exec (Prog.ret ((⟨⟩, g s) : PUnit × σ)) tr (u, s') ↔ _
  simp

/-- A call, then going on with its answer. Source: none: infrastructure -/
theorem does_perform_bind {c : ι} {f : ans c → StateT σ (Prog ans) β} :
    Does (perform c >>= f) s tr b s' ↔ ∃ r tr', tr = ⟨c, r⟩ :: tr' ∧ Does (f r) s tr' b s' :=
  Prog.exec_call

/-- A program with a local state is determined by that state and the answers it gets.
Source: none: infrastructure -/
theorem Does.deterministic {x : StateT σ (Prog ans) β} {tr' : List (Obs ans)} {b' : β} {t' : σ}
    (h : Does x s tr b s') (h' : Does x s tr' b' t') (same : SameAnswers tr tr') :
    tr = tr' ∧ b = b' ∧ s' = t' := by
  obtain ⟨htr, hresult⟩ := Prog.Exec.deterministic h h' same
  obtain ⟨rfl, rfl⟩ := Prod.mk.inj hresult
  exact ⟨htr, rfl, rfl⟩

end does

/-! ## Environments -/

section follows

variable {env : σ → Obs ans → σ → Prop}

/-- `Follows env s tr s'`: the environment answers the exchange `tr` and goes from `s` to `s'`.
Source: none: infrastructure -/
inductive Follows (env : σ → Obs ans → σ → Prop) : σ → List (Obs ans) → σ → Prop
  | nil (s : σ) : Follows env s [] s
  | cons {s t u : σ} {o : Obs ans} {tr : List (Obs ans)}
      (head : env s o t) (tail : Follows env t tr u) : Follows env s (o :: tr) u

/-- No call, no change. Source: none: infrastructure -/
@[simp] theorem follows_nil {s u : σ} : Follows env s [] u ↔ u = s := by
  constructor
  · intro h
    cases h
    rfl
  · rintro rfl
    exact .nil _

/-- The first call comes first. Source: none: infrastructure -/
@[simp] theorem follows_cons {s u : σ} {o : Obs ans} {tr : List (Obs ans)} :
    Follows env s (o :: tr) u ↔ ∃ t, env s o t ∧ Follows env t tr u := by
  constructor
  · intro h
    cases h with
    | cons head tail => exact ⟨_, head, tail⟩
  · rintro ⟨t, head, tail⟩
    exact .cons head tail

/-- An environment that allows more follows more. Source: none: infrastructure -/
theorem Follows.mono {env' : σ → Obs ans → σ → Prop} (sub : ∀ {s o t}, env s o t → env' s o t)
    {s u : σ} {tr : List (Obs ans)} (h : Follows env s tr u) : Follows env' s tr u := by
  induction h with
  | nil s => exact .nil s
  | cons head tail ih => exact .cons (sub head) ih

/-- **The protocol rule.** `legal` is a call protocol: from a protocol state it says which calls may
be made and where they lead (`none`: the call is illegal). When every legal call preserves a relation
between the protocol state and the state of the environment, every legal exchange does.
Source: none: infrastructure -/
theorem Follows.invariant_of_accepts {π : Type} {legal : π → Obs ans → Option π}
    {inv : π → σ → Prop}
    (step : ∀ {p q s t o}, inv p s → legal p o = some q → env s o t → inv q t)
    {p q : π} {s t : σ} {tr : List (Obs ans)} (hs : inv p s) (h : Follows env s tr t)
    (hp : tr.foldlM legal p = some q) : inv q t := by
  induction h generalizing p with
  | nil s =>
      simp only [List.foldlM_nil] at hp
      cases hp
      exact hs
  | cons head tail ih =>
      rw [List.foldlM_cons] at hp
      obtain ⟨p', hp', hq⟩ := Option.bind_eq_some_iff.mp hp
      exact ih (step hs hp' head) hq

end follows

/-! ## Functional environments -/

namespace Prog

/-- Run a program against a functional environment: the value returned, the exchange, and the
environment's last state.
Source: none: infrastructure -/
def eval (h : σ → (c : ι) → ans c × σ) (s : σ) : Prog ans α → α × List (Obs ans) × σ
  | ret a => (a, [], s)
  | call c next =>
      let r := h s c
      let out := eval h r.2 (next r.1)
      (out.1, ⟨c, r.1⟩ :: out.2.1, out.2.2)

/-- The run of `eval` is a run of the program. Source: none: infrastructure -/
theorem eval_exec (h : σ → (c : ι) → ans c × σ) (s : σ) (p : Prog ans α) :
    Exec p (eval h s p).2.1 (eval h s p).1 := by
  induction p generalizing s with
  | ret a => exact .ret a
  | call c next ih => exact .call (ih _ _)

/-- The run of `eval` is a run of the environment. Source: none: infrastructure -/
theorem eval_follows (h : σ → (c : ι) → ans c × σ) (s : σ) (p : Prog ans α) :
    Follows (fun s o t => h s o.1 = (o.2, t)) s (eval h s p).2.1 (eval h s p).2.2 := by
  induction p generalizing s with
  | ret a => exact .nil s
  | call c next ih => exact .cons rfl (ih _ _)

end Prog

end Interaction
