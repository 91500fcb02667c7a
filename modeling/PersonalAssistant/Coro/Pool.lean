import PersonalAssistant.Coro.Wp

/-!
# Pools of coroutines

Any number of coroutines run against one shared state. `Pool` is every interleaving of
their awaits, with steps of the environment in between; each await is one atomic step.

Its proof rule splits a concurrent argument in two. A `Monitor` is a small deterministic
machine that watches the events of one coroutine: it says which it allows, and what about the
answers it relies on. That a coroutine follows its monitor is a `wp` goal about that
coroutine alone. What remains is an invariant of the shared state together with the
monitors' states, kept by each single step (`Pool.monitored`).
-/

namespace Coro

open Function List

variable {P : Port} {ε α σ ι μ : Type}

/-- The interleavings of the coroutines `prog i`: the coroutines left, the shared state and
the events so far, each with the coroutine that met it. `E` is what the environment may do
to the shared state between two awaits. -/
inductive Pool [DecidableEq ι] (H : ι → Handler P ε σ) (E : σ → σ → Prop) (prog : ι → Prog P ε α) (s₀ : σ) :
    (ι → Prog P ε α) → σ → List (ι × Event P ε) → Prop where
  | start : Pool H E prog s₀ prog s₀ []
  | step {threads : ι → Prog P ε α} {s s' : σ} {tr : List (ι × Event P ε)} (i : ι) {sh : Bool}
      {op : P.Op} {k : Except ε (P.Ans op) → Prog P ε α} {a : Except ε (P.Ans op)} :
      Pool H E prog s₀ threads s tr → threads i = .await sh op k → H i sh s op a s' →
      Pool H E prog s₀ (update threads i (k a)) s' (tr ++ [(i, ⟨op, a⟩)])
  | env {threads : ι → Prog P ε α} {s s' : σ} {tr : List (ι × Event P ε)} :
      Pool H E prog s₀ threads s tr → E s s' → Pool H E prog s₀ threads s' tr

/-- A machine that watches the events of one coroutine: what it may rely on the environment
for, which events it allows the coroutine, and its state after one. -/
structure Monitor (P : Port) (ε μ : Type) where
  rely : μ → Event P ε → Prop
  ok : μ → Event P ε → Prop
  next : μ → Event P ε → μ

namespace Monitor

/-- The handler of a monitor: every answer it may be given is possible, and it moves on. -/
def handler (M : Monitor P ε μ) : Handler P ε μ :=
  fun _ m op a m' => M.rely m ⟨op, a⟩ ∧ m' = M.next m ⟨op, a⟩

/-- The coroutine meets only events its monitor allows, and ends in `Q`. -/
abbrev Follows (M : Monitor P ε μ) (c : Prog P ε α) (Q : Except ε α → μ → Prop) (m : μ) : Prop :=
  wp M.handler M.ok c Q m

variable {M : Monitor P ε μ} {op : P.Op} {m : μ}

theorem follows_await {sh : Bool} {k : Except ε (P.Ans op) → Prog P ε α} {Q : Except ε α → μ → Prop} :
    M.Follows (.await sh op k) Q m ↔
      ∀ a, M.rely m ⟨op, a⟩ → M.ok m ⟨op, a⟩ ∧ M.Follows (k a) Q (M.next m ⟨op, a⟩) := by
  simp only [Follows, wp_await, handler, and_imp, forall_eq_apply_imp_iff]

theorem follows_perform {Q : Except ε (P.Ans op) → μ → Prop} : M.Follows (Prog.perform op) Q m ↔
      ∀ a, M.rely m ⟨op, a⟩ → M.ok m ⟨op, a⟩ ∧ Q a (M.next m ⟨op, a⟩) := by
  simp only [Follows, wp_perform, handler, and_imp, forall_eq_apply_imp_iff]

end Monitor

variable {H : ι → Handler P ε σ} {E : σ → σ → Prop} {prog threads : ι → Prog P ε α} {s₀ s : σ}
  {tr : List (ι × Event P ε)}

/-- **The monitored pool rule.** When every coroutine follows its monitor, a property of the
shared state, the monitors' states and the events that holds at the start, gives the
monitors what they rely on and is kept by each allowed step holds throughout, and every
coroutine left still follows its monitor. -/
theorem Pool.monitored [DecidableEq ι]
    (M : ι → Monitor P ε μ) (m₀ : ι → μ) (Q : ι → Except ε α → μ → Prop)
    (Inv : σ → (ι → μ) → List (ι × Event P ε) → Prop)
    (follows : ∀ i, (M i).Follows (prog i) (Q i) (m₀ i)) (init : Inv s₀ m₀ [])
    (relies : ∀ s m tr i sh op a s', Inv s m tr → H i sh s op a s' → (M i).rely (m i) ⟨op, a⟩)
    (step : ∀ s m tr i sh op a s', Inv s m tr → H i sh s op a s' → (M i).ok (m i) ⟨op, a⟩ →
      Inv s' (update m i ((M i).next (m i) ⟨op, a⟩)) (tr ++ [(i, ⟨op, a⟩)]))
    (env : ∀ s m tr s', Inv s m tr → E s s' → Inv s' m tr)
    (pool : Pool H E prog s₀ threads s tr) :
    ∃ m, Inv s m tr ∧ ∀ i, (M i).Follows (threads i) (Q i) (m i) := by
  induction pool with
  | start => exact ⟨m₀, init, follows⟩
  | @step threads s s' tr i sh op k a _ hi ha ih =>
    obtain ⟨m, hInv, hm⟩ := ih
    have hwp := hm i
    rw [hi, Monitor.follows_await] at hwp
    have allowed := hwp a (relies s m tr i sh op a s' hInv ha)
    refine ⟨update m i ((M i).next (m i) ⟨op, a⟩),
      step s m tr i sh op a s' hInv ha allowed.1, fun j => ?_⟩
    by_cases hj : j = i
    · subst hj
      simpa using allowed.2
    · simpa [update_of_ne hj] using hm j
  | env _ hE ih =>
    obtain ⟨m, hInv, hm⟩ := ih
    exact ⟨m, env _ m _ _ hInv hE, hm⟩

theorem Pool.mono [DecidableEq ι] {H' : ι → Handler P ε σ}
    (less : ∀ i sh s op a s', H i sh s op a s' → H' i sh s op a s')
    (pool : Pool H E prog s₀ threads s tr) : Pool H' E prog s₀ threads s tr := by
  induction pool with
  | start => exact .start
  | step i _ hi ha ih => exact ih.step i hi (less _ _ _ _ _ _ ha)
  | env _ hE ih => exact ih.env hE

/-- What the environment says of every answer holds of every event. -/
theorem Pool.events [DecidableEq ι] (pool : Pool H E prog s₀ threads s tr) (good : Event P ε → Prop)
    (each : ∀ i sh s op a s', H i sh s op a s' → good ⟨op, a⟩) : ∀ entry ∈ tr, good entry.2 := by
  induction pool with
  | start => exact fun _ h => (by cases h)
  | step i _ _ ha ih =>
    intro entry mem
    rcases mem_append.mp mem with old | new
    · exact ih entry old
    · cases mem_singleton.mp new
      exact each _ _ _ _ _ _ ha
  | env _ _ ih => exact ih

/-- Where every request can be answered, every coroutine can be run to its end. -/
theorem Pool.finishes [DecidableEq ι]
    (answers : ∀ i sh s op, ∃ a s', H i sh s op a s') (pool : Pool H E prog s₀ threads s tr) (i : ι) :
    ∃ threads' s' more outcome, Pool H E prog s₀ threads' s' (tr ++ more) ∧ threads' i = .done outcome := by
  -- on what is left of the coroutine, which each of its awaits makes smaller
  induction left : threads i generalizing threads s tr with
  | done outcome => exact ⟨threads, s, [], outcome, (append_nil tr).symm ▸ pool, left⟩
  | await sh op k ih =>
    obtain ⟨a, s', answered⟩ := answers i sh s op
    obtain ⟨threads', s'', more, outcome, pool', ended⟩ :=
      ih a (pool.step i left answered) (update_self ..)
    exact ⟨threads', s'', (i, ⟨op, a⟩) :: more, outcome, by simpa using pool', ended⟩

/-- An event that comes after none of its kind is the only one of its kind. -/
theorem filter_snoc_le_one {β : Type} {p : β → Bool} {tr : List β} {x : β} (once : (tr.filter p).length ≤ 1)
    (first : p x → ∀ y ∈ tr, ¬ p y) : ((tr ++ [x]).filter p).length ≤ 1 := by
  rw [filter_append, length_append]
  by_cases hx : p x
  · rw [filter_eq_nil_iff.mpr (first hx), length_nil, Nat.zero_add]
    exact length_filter_le p [x]
  · simpa [hx] using once

section Play

/-- Run a pool along a schedule against an environment given as a function; a turn of a
finished coroutine, or of one whose request is not answered yet, changes nothing. -/
def playPool [DecidableEq ι] (h : ι → σ → (op : P.Op) → Option (Except ε (P.Ans op) × σ)) :
    List ι → (ι → Prog P ε α) → σ → List (ι × Event P ε) →
      (ι → Prog P ε α) × σ × List (ι × Event P ε)
  | [], threads, s, tr => (threads, s, tr)
  | i :: schedule, threads, s, tr =>
    match threads i with
    | .done _ => playPool h schedule threads s tr
    | .await _ op k =>
      match h i s op with
      | none => playPool h schedule threads s tr
      | some (a, s') => playPool h schedule (update threads i (k a)) s' (tr ++ [(i, ⟨op, a⟩)])

/-- What `playPool` computes is an interleaving of every pool that allows the function's
answers. -/
theorem playPool_pool [DecidableEq ι] {h : ι → σ → (op : P.Op) → Option (Except ε (P.Ans op) × σ)}
    (allowed : ∀ i sh s op a s', h i s op = some (a, s') → H i sh s op a s')
    (schedule : List ι)
    (pool : Pool H E prog s₀ threads s tr) :
    Pool H E prog s₀ (playPool h schedule threads s tr).1 (playPool h schedule threads s tr).2.1
      (playPool h schedule threads s tr).2.2 := by
  induction schedule generalizing threads s tr with
  | nil => exact pool
  | cons i schedule ih =>
    unfold playPool
    split
    · exact ih pool
    · rename_i hi
      split
      · exact ih pool
      · rename_i answered
        exact ih (.step i pool hi (allowed _ _ _ _ _ _ answered))

end Play

end Coro
