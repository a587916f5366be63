import Mathlib.Logic.Relation

/-!
# Labelled transition systems

A `System` is a set of initial states and a labelled step relation.  Everything
concurrent in this development is one: the threads' mutex-held stretches, a
signal, a timeout are the labels, and a claim about every interleaving is a claim
about every `Reachable` state.

* `Reachable.invariant`: an invariant holds in every reachable state once it holds
  initially and every step keeps it.
* `restrict`: the runs whose steps all meet a condition.
* `CanReach`: some sequence of steps leads to a goal; `not_canReach_of_trap`: a set
  closed under the steps that misses the goal keeps it out of reach.
* `recording`: the same runs, with a record that the steps add to.
* `Refinement.reachable`: a map that sends each step to a step or to no step sends
  reachable states to reachable states.
-/

namespace AIStreams.Transition

universe u v w x

/-- Initial states and labelled steps. -/
structure System (σ : Type u) (ℓ : Type v) where
  init : σ → Prop
  step : σ → ℓ → σ → Prop

namespace System

variable {σ : Type u} {ℓ : Type v} (M : System σ ℓ)

/-- The states of the runs that start in an initial state. -/
inductive Reachable : σ → Prop
  | init {s : σ} : M.init s → Reachable s
  | step {s s' : σ} {l : ℓ} : Reachable s → M.step s l s' → Reachable s'

variable {M}

/-- **An inductive invariant holds in every reachable state.**  The step case may use
that the state it starts from is reachable. -/
theorem Reachable.invariant {I : σ → Prop} (h0 : ∀ s, M.init s → I s)
    (hstep : ∀ s l s', M.Reachable s → I s → M.step s l s' → I s') {s : σ}
    (h : M.Reachable s) : I s := by
  induction h with
  | init hi => exact h0 _ hi
  | step hr hs ih => exact hstep _ _ _ hr ih hs

/-! ### Runs whose steps meet a condition -/

/-- The same system with only the steps that meet `C`. -/
def restrict (M : System σ ℓ) (C : σ → ℓ → σ → Prop) : System σ ℓ where
  init := M.init
  step s l s' := M.step s l s' ∧ C s l s'

theorem Reachable.of_restrict {C : σ → ℓ → σ → Prop} {s : σ} (h : (M.restrict C).Reachable s) :
    M.Reachable s := by
  induction h with
  | init hi => exact .init hi
  | step _ hs ih => exact .step ih hs.1

/-! ### What can still be reached -/

/-- From `s` some sequence of steps leads to a state of `G`. -/
inductive CanReach (M : System σ ℓ) (G : σ → Prop) : σ → Prop
  | here {s : σ} : G s → CanReach M G s
  | step {s s' : σ} {l : ℓ} : M.step s l s' → CanReach M G s' → CanReach M G s

theorem CanReach.mono {G H : σ → Prop} (h : ∀ s, G s → H s) {s : σ} (hs : M.CanReach G s) :
    M.CanReach H s := by
  induction hs with
  | here hg => exact .here (h _ hg)
  | step hst _ ih => exact .step hst ih

/-- If a goal can be reached, and from it a second one, the second one can be reached. -/
theorem CanReach.trans {G H : σ → Prop} {s : σ} (hs : M.CanReach G s)
    (hG : ∀ s, G s → M.CanReach H s) : M.CanReach H s := by
  induction hs with
  | here hg => exact hG _ hg
  | step hst _ ih => exact .step hst ih

/-- An invariant that holds now holds when the goal is reached. -/
theorem CanReach.and_invariant {G I : σ → Prop} (hstep : ∀ s l s', I s → M.step s l s' → I s')
    {s : σ} (h : M.CanReach G s) (hs : I s) : M.CanReach (fun s => G s ∧ I s) s := by
  induction h with
  | here hg => exact .here ⟨hg, hs⟩
  | step hst _ ih => exact .step hst (ih (hstep _ _ _ hs hst))

/-- More steps reach more. -/
theorem CanReach.restrict_mono {C D : σ → ℓ → σ → Prop} (hCD : ∀ s l s', C s l s' → D s l s')
    {G : σ → Prop} {s : σ} (h : (M.restrict C).CanReach G s) : (M.restrict D).CanReach G s := by
  induction h with
  | here hg => exact .here hg
  | step hst _ ih => exact .step ⟨hst.1, hCD _ _ _ hst.2⟩ ih

theorem CanReach.of_restrict {C : σ → ℓ → σ → Prop} {G : σ → Prop} {s : σ}
    (h : (M.restrict C).CanReach G s) : M.CanReach G s := by
  induction h with
  | here hg => exact .here hg
  | step hst _ ih => exact .step hst.1 ih

/-- Where the goal can be reached there is a state of it. -/
theorem CanReach.exists {G : σ → Prop} {s : σ} (h : M.CanReach G s) : ∃ t, G t := by
  induction h with
  | here hg => exact ⟨_, hg⟩
  | step _ _ ih => exact ih

/-- **A trap keeps the goal out of reach**: a set of states that no step leaves and
that contains no goal state. -/
theorem not_canReach_of_trap {G T : σ → Prop} (hclosed : ∀ s l s', T s → M.step s l s' → T s')
    (hmiss : ∀ s, T s → ¬ G s) {s : σ} (hs : T s) : ¬ M.CanReach G s := by
  intro h
  induction h with
  | here hg => exact hmiss _ hs hg
  | step hst _ ih => exact ih (hclosed _ _ _ hs hst)

/-! ### A record of the run -/

variable {γ : Type w}

/-- The same system with a record of its run, which no step depends on: it starts as `h₀`, and
`note` adds to it what a step shows. -/
def recording (M : System σ ℓ) (h₀ : γ) (note : σ → ℓ → γ → γ) : System (σ × γ) ℓ where
  init w := M.init w.1 ∧ w.2 = h₀
  step w l w' := M.step w.1 l w'.1 ∧ w'.2 = note w.1 l w.2

variable {h₀ : γ} {note : σ → ℓ → γ → γ}

theorem Reachable.of_recording {w : σ × γ} (h : (M.recording h₀ note).Reachable w) :
    M.Reachable w.1 := by
  induction h with
  | init hi => exact .init hi.1
  | step _ hs ih => exact .step ih hs.1

/-- What can be reached can be reached with any record. -/
theorem CanReach.recording {G : σ → Prop} {s : σ} (h : M.CanReach G s) (g : γ) :
    (M.recording h₀ note).CanReach (fun w => G w.1) (s, g) := by
  induction h generalizing g with
  | here hg => exact .here hg
  | @step s s' l hst _ ih =>
    have hstep : (M.recording h₀ note).step (s, g) l (s', note s l g) := ⟨hst, rfl⟩
    exact .step hstep (ih _)

theorem CanReach.of_recording {G : σ → Prop} {w : σ × γ}
    (h : (M.recording h₀ note).CanReach (fun w => G w.1) w) : M.CanReach G w.1 := by
  induction h with
  | here hg => exact .here hg
  | step hst _ ih => exact .step hst.1 ih

end System

/-! ### Refinement -/

variable {σ : Type u} {ℓ : Type v} {τ : Type w} {κ : Type x}

/-- A refinement map: each step of the concrete system is a step of the abstract one,
or leaves the abstract state alone. -/
structure Refinement (M : System σ ℓ) (N : System τ κ) where
  abs : σ → τ
  init : ∀ s, M.init s → N.init (abs s)
  step : ∀ s l s', M.Reachable s → M.step s l s' →
    abs s' = abs s ∨ ∃ k, N.step (abs s) k (abs s')

theorem Refinement.reachable {M : System σ ℓ} {N : System τ κ} (f : Refinement M N) {s : σ}
    (h : M.Reachable s) : N.Reachable (f.abs s) := by
  induction h with
  | init hi => exact .init (f.init _ hi)
  | @step s s' l hr hs ih =>
    rcases f.step s l s' hr hs with he | ⟨k, hk⟩
    · rw [he]
      exact ih
    · exact .step ih hk

end AIStreams.Transition
