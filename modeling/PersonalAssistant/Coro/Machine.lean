import Mathlib

/-!
# Machines

A component whose calls are atomic is a function from a state and an input to an output and
the next state. A run keeps the history of its inputs and outputs; the environment says, from
the history and the state, which input may come next. A run may start with a history, so that
the rest of a run is a run.
-/

namespace PersonalAssistant

variable {σ ι ο : Type}

/-- A function that answers an input and moves to the next state. -/
abbrev Machine (σ ι ο : Type) : Type := σ → ι → ο × σ

namespace Machine

/-- The runs from a history and a state, under an environment. -/
inductive Run (M : Machine σ ι ο) (E : List (ι × ο) → σ → ι → Prop) (tr₀ : List (ι × ο)) (s₀ : σ) :
    List (ι × ο) → σ → Prop where
  | start : Run M E tr₀ s₀ tr₀ s₀
  | step {tr : List (ι × ο)} {s : σ} (run : Run M E tr₀ s₀ tr s) (i : ι) (env : E tr s i) :
      Run M E tr₀ s₀ (tr ++ [(i, (M s i).1)]) (M s i).2

/-- The history and the state after a list of inputs. -/
def feed (M : Machine σ ι ο) : List (ι × ο) → σ → List ι → List (ι × ο) × σ
  | tr, s, [] => (tr, s)
  | tr, s, i :: inputs => feed M (tr ++ [(i, (M s i).1)]) (M s i).2 inputs

namespace Run

variable {M : Machine σ ι ο} {E : List (ι × ο) → σ → ι → Prop} {tr₀ tr tr' : List (ι × ο)} {s₀ s t : σ}

/-- What holds at the start and is kept by every step holds in every run. -/
theorem invariant {P : List (ι × ο) → σ → Prop} (run : Run M E tr₀ s₀ tr s) (start : P tr₀ s₀)
    (keep : ∀ tr s i, P tr s → E tr s i → P (tr ++ [(i, (M s i).1)]) (M s i).2) : P tr s := by
  induction run with
  | start => exact start
  | step _ i env ih => exact keep _ _ i ih env

theorem trans (run : Run M E tr₀ s₀ tr s) (rest : Run M E tr s tr' t) : Run M E tr₀ s₀ tr' t := by
  induction rest with
  | start => exact run
  | step _ i env ih => exact ih.step i env

/-- Inputs that the environment never refuses make a run. -/
theorem feed (inputs : List ι) (env : ∀ i ∈ inputs, ∀ tr s, E tr s i) :
    Run M E tr s (M.feed tr s inputs).1 (M.feed tr s inputs).2 := by
  induction inputs generalizing tr s with
  | nil => exact .start
  | cons i inputs ih =>
    have first : Run M E tr s (tr ++ [(i, (M s i).1)]) (M s i).2 := Run.start.step i (env i List.mem_cons_self tr s)
    exact first.trans (ih fun j later => env j (List.mem_cons_of_mem _ later))

end Run

end Machine

end PersonalAssistant
