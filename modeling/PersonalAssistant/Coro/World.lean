import PersonalAssistant.Coro.Pool

/-!
# Worlds

The two environments most components are run in, from one description of the state their
requests act on. A `World` says for each request whether the state answers it, and how; a
request it does not answer may be answered with anything, and moves the state as the world
drifts. In `reliable` the state's own requests do what they say; in `faulty` every request
may also raise, with its effect done or not.

`Runs` is the weakest precondition in the reliable environment with a ghost state folded over
the events, for a coroutine that runs alone.
-/

namespace Coro

/-- A state that answers requests. `κ` is what an effect depends on besides the state, such
as the clock of the store. -/
structure World (P : Port) (ε σ κ : Type) where
  effect : κ → σ → (op : P.Op) → Option (Except ε (P.Ans op) × σ)
  drift : κ → σ → P.Op → σ
  total : P.Op → Bool

variable {P : Port} {ε α σ κ γ : Type} (W : World P ε σ κ)

namespace World

/-- The state does what it says, and the rest answers anything; a total request does not
raise. -/
structure Reliable (W : World P ε σ κ) (s : σ) (op : P.Op) (a : Except ε (P.Ans op)) (s' : σ) : Prop where
  answered : W.total op → ∃ x, a = .ok x
  effect : ∃ k, match W.effect k s op with
    | some effect => (a, s') = effect
    | none => s' = W.drift k s op

/-- The environment in which the state's own requests do not fail. -/
def reliable : Handler P ε σ :=
  fun _ s op a s' => W.Reliable s op a s'

/-- The environment in which every request may also raise, with its effect done or not. -/
def faulty : Handler P ε σ :=
  fun _ s op a s' => W.Reliable s op a s' ∨ ∃ e, a = .error e ∧ (s' = s ∨ ∃ b, W.Reliable s op b s')

variable {W : World P ε σ κ} {s s' : σ} {op : P.Op} {a : Except ε (P.Ans op)} {sh : Bool}

theorem faulty_of_reliable (h : W.reliable sh s op a s') : W.faulty sh s op a s' := .inl h

/-- A faulty step is an effect, answered or lost, or nothing but an exception. -/
theorem faulty_cases (h : W.faulty sh s op a s') :
    (s' = s ∧ ∃ e, a = .error e) ∨ ∃ b, W.Reliable s op b s' ∧ (a = b ∨ ∃ e, a = .error e) := by
  rcases h with h | ⟨e, rfl, rfl | ⟨b, h⟩⟩
  · exact .inr ⟨a, h, .inl rfl⟩
  · exact .inl ⟨rfl, e, rfl⟩
  · exact .inr ⟨b, h, .inr ⟨e, rfl⟩⟩

/-- An environment as a function: the state with a fixed `k`, and the given answers for the
rest. -/
def answerWith (W : World P ε σ κ) (k : κ) (answers : (op : P.Op) → Except ε (P.Ans op)) (s : σ) (op : P.Op) :
    Except ε (P.Ans op) × σ :=
  match W.effect k s op with
  | some effect => effect
  | none => (answers op, W.drift k s op)

theorem answerWith_reliable {k : κ} {answers : (op : P.Op) → Except ε (P.Ans op)}
    (own : ∀ s op, W.total op → W.effect k s op = none) (total : ∀ op, W.total op → ∃ x, answers op = .ok x)
    (sh : Bool) (s : σ) (op : P.Op) :
    W.reliable sh s op (W.answerWith k answers s op).1 (W.answerWith k answers s op).2 where
  answered h := by
    obtain ⟨x, hx⟩ := total op h
    exact ⟨x, by simp [answerWith, own s op h, hx]⟩
  effect := by
    refine ⟨k, ?_⟩
    unfold answerWith
    cases W.effect k s op <;> rfl

end World

/-- Every run of the coroutine alone, from the state, ends in `Q`. -/
abbrev Runs (f : γ → Event P ε → γ) (c : Prog P ε α) (Q : Except ε α → σ × γ → Prop)
    (st : σ × γ) : Prop :=
  wp (ghost f W.reliable) (fun _ _ => True) c Q st

section Runs

variable {W : World P ε σ κ} {f : γ → Event P ε → γ} {s : σ} {n : γ} {Q : Except ε α → σ × γ → Prop} {op : P.Op}
  {A : Except ε (P.Ans op) → σ × γ → Prop} {k : P.Ans op → Prog P ε α}

theorem runs_shield {c : Prog P ε α} : Runs W f c.shield Q (s, n) ↔ Runs W f c Q (s, n) :=
  wp_shield ..

/-- A request the state does not answer: any answer, and the drift of the state. -/
theorem runs_drift (h : ∀ k, W.effect k s op = none)
    (hQ : ∀ a k, (W.total op → ∃ x, a = .ok x) → A a (W.drift k s op, f n ⟨op, a⟩)) :
    Runs W f (Prog.perform op) A (s, n) := by
  refine wp.perform ?_
  rintro a ⟨s', n'⟩ ⟨⟨answered, k, effect⟩, hn⟩
  rw [h k] at effect
  obtain rfl : s' = W.drift k s op := effect
  obtain rfl : n' = f n ⟨op, a⟩ := hn
  exact ⟨trivial, hQ a k answered⟩

theorem runs_effect {effect : κ → Except ε (P.Ans op) × σ} (h : ∀ k, W.effect k s op = some (effect k))
    (hQ : ∀ k, A (effect k).1 ((effect k).2, f n ⟨op, (effect k).1⟩)) : Runs W f (Prog.perform op) A (s, n) := by
  refine wp.perform ?_
  rintro a ⟨s', n'⟩ ⟨⟨-, k, heffect⟩, hn⟩
  rw [h k] at heffect
  obtain ⟨rfl, rfl⟩ := Prod.mk.inj heffect
  obtain rfl : n' = f n ⟨op, (effect k).1⟩ := hn
  exact ⟨trivial, hQ k⟩

/-- The state neither answers the request nor moves at it. -/
def World.Inert (W : World P ε σ κ) (op : P.Op) : Prop := ∀ k s, W.effect k s op = none ∧ W.drift k s op = s

theorem runs_inert (inert : W.Inert op)
    (hQ : ∀ a, (W.total op → ∃ x, a = .ok x) → A a (s, f n ⟨op, a⟩)) : Runs W f (Prog.perform op) A (s, n) := by
  refine runs_drift (fun k => (inert k s).1) fun a k answered => ?_
  rw [(inert k s).2]
  exact hQ a answered

theorem runs_inert_bind (inert : W.Inert op) (quiet : ∀ a, f n ⟨op, a⟩ = n)
    (hk : ∀ a, Runs W f (k a) Q (s, n)) (raised : ∀ e, Q (.error e) (s, n)) :
    Runs W f (Prog.perform op >>= k) Q (s, n) := by
  refine wp.bind (runs_inert inert fun a _ => ?_)
  rw [quiet]
  cases a with
  | ok x => exact hk x
  | error e => exact raised e

theorem runs_inert_total (inert : W.Inert op) (total : W.total op) (quiet : ∀ a, f n ⟨op, a⟩ = n)
    (hk : ∀ a, Runs W f (k a) Q (s, n)) :
    Runs W f (Prog.perform op >>= k) Q (s, n) := by
  refine wp.bind (runs_inert inert fun a answered => ?_)
  obtain ⟨x, rfl⟩ := answered total
  rw [quiet]
  exact hk x

end Runs

end Coro
