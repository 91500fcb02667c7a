import PersonalAssistant.Coro.Pool

/-!
# Coroutines that run one at a time

`Serial` is the part of a pool's interleavings in which a coroutine makes a request only
while no other one is under way: every other one has made none yet or has ended. What each
coroutine keeps when it runs alone is then kept by all of them.

The state a coroutine is reasoned about need not be the shared one. A view is a part of the
shared state that the environment leaves alone, with handlers of its own that allow every step
of the shared ones (`Views`); a `wp` goal over that part is enough.
-/

namespace Coro

open Function List

variable {P : Port} {ε α σ τ ι : Type}

/-- The steps of `H` and of the environment, seen through `view`: those of `L`, and none. -/
structure Views (H : ι → Handler P ε σ) (E : σ → σ → Prop) (view : σ → τ) (L : ι → Handler P ε τ) : Prop where
  step : ∀ i sh s op a s', H i sh s op a s' → L i sh (view s) op a (view s')
  env : ∀ s s', E s s' → view s' = view s

/-- A coroutine run to its end, with steps of the environment between its requests. -/
def Alone (H : Handler P ε σ) (E : σ → σ → Prop) (c : Prog P ε α) (s : σ) (tr : List (Event P ε)) (r : Except ε α)
    (s' : σ) : Prop :=
  ∃ threads events, Pool (fun _ : Unit => H) E (fun _ => c) s threads s' events ∧ threads () = .done r ∧
    tr = events.map Prod.snd

section View

variable {H : Handler P ε σ} {E : σ → σ → Prop} {view : σ → τ} {L : Handler P ε τ} {G : τ → Event P ε → Prop}
  {c : Prog P ε α} {s s' : σ}

variable {Q : Except ε α → τ → Prop} {tr : List (Event P ε)} {r : Except ε α}

section

variable (views : Views (fun _ : Unit => H) E view fun _ => L)

include views

/-- A `wp` goal over the view, at every point of a run. -/
theorem Views.pool {threads : Unit → Prog P ε α}
    {events : List (Unit × Event P ε)} (run : Pool (fun _ : Unit => H) E (fun _ => c) s threads s' events)
    (goal : wp L G c Q (view s)) : wp L G (threads ()) Q (view s') := by
  induction run with
  | start => exact goal
  | step i _ here answered ih =>
    rw [here] at ih
    rw [update_self]
    exact ((wp_await ..).mp ih _ _ (views.step () _ _ _ _ _ answered)).2
  | env _ moved ih =>
    rw [views.env _ _ moved]
    exact ih

theorem Alone.post
    (run : Alone H E c s tr r s') (goal : wp L G c Q (view s)) : Q r (view s') := by
  obtain ⟨threads, events, pool, ended, -⟩ := run
  have left := views.pool pool goal
  rw [ended] at left
  exact (wp_done ..).mp left

/-- What each event of a program meets, it meets in a run with others around it. -/
theorem Alone.guarantees {g : Event P ε → Prop}
    (run : Alone H E c s tr r s') (goal : wp L (fun _ => g) c Q (view s)) :
    ∀ event ∈ tr, g event := by
  obtain ⟨threads, events, pool, -, rfl⟩ := run
  have each : ∀ entry ∈ events, g entry.2 := by
    induction pool with
    | start => exact fun _ mem => absurd mem not_mem_nil
    | @step threads s s' tr i sh op k a pool here answered ih =>
      have left := views.pool pool goal
      rw [here] at left
      intro entry mem
      rcases mem_append.mp mem with old | new
      · exact ih entry old
      · rw [mem_singleton.mp new]
        exact ((wp_await ..).mp left _ _ (views.step () _ _ _ _ _ answered)).1
    | env _ _ ih => exact ih
  intro event mem
  obtain ⟨entry, there, rfl⟩ := mem_map.mp mem
  exact each entry there

end

/-- A run of its own is a run with nobody around it. -/
theorem Alone.of_exec (run : Exec H c s tr r s') : Alone H E c s tr r s' := by
  have extend : ∀ {c c' : Prog P ε α} {s₁ s' : σ} {tr : List (Event P ε)}, Steps H c s₁ tr c' s' →
      ∀ {c₀ : Prog P ε α} {events : List (Unit × Event P ε)},
      Pool (fun _ : Unit => H) E (fun _ => c₀) s (fun _ => c) s₁ events →
      Pool (fun _ : Unit => H) E (fun _ => c₀) s (fun _ => c') s' (events ++ tr.map fun event => ((), event)) := by
    intro c c' s₁ s' tr steps
    induction steps with
    | refl c s => exact fun pool => (append_nil _).symm ▸ pool
    | @step sh op k a s₁ s₂ s₃ tr c answered _ ih =>
      intro c₀ events pool
      have next := pool.step () rfl answered
      have alone : update (fun _ : Unit => Prog.await sh op k) () (k a) = fun _ => k a :=
        funext fun _ => update_self ..
      rw [alone] at next
      simpa using ih next
  refine ⟨_, _, extend run .start, rfl, ?_⟩
  simp [Function.comp_def]

end View

/-- A coroutine that has made no request yet, or has ended. -/
def Resting (threads : ι → Prog P ε α) (tr : List (ι × Event P ε)) (i : ι) : Prop :=
  (∀ event, (i, event) ∉ tr) ∨ ∃ r, threads i = .done r

/-- The interleavings of a pool in which a request is made only while all the others rest. -/
inductive Serial [DecidableEq ι] (H : ι → Handler P ε σ) (E : σ → σ → Prop) (prog : ι → Prog P ε α) (s₀ : σ) :
    (ι → Prog P ε α) → σ → List (ι × Event P ε) → Prop where
  | start : Serial H E prog s₀ prog s₀ []
  | step {threads : ι → Prog P ε α} {s s' : σ} {tr : List (ι × Event P ε)} (i : ι) {sh : Bool}
      {op : P.Op} {k : Except ε (P.Ans op) → Prog P ε α} {a : Except ε (P.Ans op)} :
      Serial H E prog s₀ threads s tr → (∀ j, j ≠ i → Resting threads tr j) → threads i = .await sh op k →
      H i sh s op a s' → Serial H E prog s₀ (update threads i (k a)) s' (tr ++ [(i, ⟨op, a⟩)])
  | env {threads : ι → Prog P ε α} {s s' : σ} {tr : List (ι × Event P ε)} :
      Serial H E prog s₀ threads s tr → E s s' → Serial H E prog s₀ threads s' tr

namespace Serial

variable [DecidableEq ι] {H : ι → Handler P ε σ} {E : σ → σ → Prop} {prog threads : ι → Prog P ε α} {s₀ s : σ}
  {tr : List (ι × Event P ε)} {i : ι}

theorem of_pool [Subsingleton ι] (run : Pool H E prog s₀ threads s tr) : Serial H E prog s₀ threads s tr := by
  induction run with
  | start => exact .start
  | step i _ here answered ih => exact ih.step i (fun j other => absurd (Subsingleton.elim j i) other) here answered
  | env _ moved ih => exact ih.env moved

/-- The coroutine rests, as a test. -/
def rests (threads : ι → Prog P ε α) (tr : List (ι × Event P ε)) (i : ι) : Bool :=
  decide (i ∉ tr.map Prod.fst) || match threads i with
    | .done _ => true
    | .await .. => false

theorem resting_of_rests (h : rests threads tr i = true) : Resting threads tr i := by
  rcases (Bool.or_eq_true _ _).mp h with quiet | ended
  · exact .inl fun event mem => of_decide_eq_true quiet (mem_map.mpr ⟨_, mem, rfl⟩)
  · cases here : threads i with
    | done r => exact .inr ⟨r, here⟩
    | await => simp [here] at ended

/-- Along a schedule of `playPool`, a request is made only while the others rest. -/
def inTurn [Fintype ι] (h : ι → σ → (op : P.Op) → Option (Except ε (P.Ans op) × σ)) :
    List ι → (ι → Prog P ε α) → σ → List (ι × Event P ε) → Bool
  | [], _, _, _ => true
  | i :: schedule, threads, s, tr => decide (∀ j, j ≠ i → rests threads tr j = true) &&
    match threads i with
    | .done _ => inTurn h schedule threads s tr
    | .await _ op k =>
      match h i s op with
      | none => inTurn h schedule threads s tr
      | some (a, s') => inTurn h schedule (update threads i (k a)) s' (tr ++ [(i, ⟨op, a⟩)])

/-- A run along a schedule in which each call rests before the next begins is serial. -/
theorem of_playPool [Fintype ι] {h : ι → σ → (op : P.Op) → Option (Except ε (P.Ans op) × σ)}
    (allowed : ∀ i sh s op a s', h i s op = some (a, s') → H i sh s op a s') (schedule : List ι)
    (run : Serial H E prog s₀ threads s tr) (turns : inTurn h schedule threads s tr = true) :
    Serial H E prog s₀ (playPool h schedule threads s tr).1 (playPool h schedule threads s tr).2.1
      (playPool h schedule threads s tr).2.2 := by
  induction schedule generalizing threads s tr with
  | nil => exact run
  | cons i schedule ih =>
    unfold inTurn at turns
    unfold playPool
    obtain ⟨rest, turns⟩ := (Bool.and_eq_true _ _).mp turns
    cases here : threads i with
    | done r =>
      rw [here] at turns
      exact ih run turns
    | await sh op k =>
      rw [here] at turns
      cases answer : h i s op with
      | none =>
        simp only [answer] at turns ⊢
        exact ih run turns
      | some found =>
        simp only [answer] at turns ⊢
        refine ih (run.step i (fun j other => resting_of_rests (of_decide_eq_true rest j other)) here ?_) turns
        exact allowed i sh s op _ _ answer

/-- One that has made no request yet is the whole of it. -/
theorem unstarted (run : Serial H E prog s₀ threads s tr) (none : ∀ event, (i, event) ∉ tr) : threads i = prog i := by
  induction run with
  | start => rfl
  | step j _ _ _ _ ih =>
    have other : i ≠ j := by
      rintro rfl
      exact none _ (mem_append_right _ mem_cons_self)
    rw [update_of_ne other]
    exact ih fun event mem => none event (mem_append_left _ mem)
  | env _ _ ih => exact ih none

variable {view : σ → τ} {L : ι → Handler P ε τ} {G : ι → τ → Event P ε → Prop} {I : τ → Prop}

/-- Where a serial run stands: nothing is under way and the invariant holds, or one coroutine
is, and will end in it. -/
def Stands (L : ι → Handler P ε τ) (G : ι → τ → Event P ε → Prop) (I : τ → Prop) (threads : ι → Prog P ε α)
    (tr : List (ι × Event P ε)) (t : τ) : Prop :=
  ((∀ i, Resting threads tr i) ∧ I t) ∨
  ∃ i, (∃ event, (i, event) ∈ tr) ∧ (∀ j, j ≠ i → Resting threads tr j) ∧
    wp (L i) (G i) (threads i) (fun _ => I) t

/-- At a request, what is left of its coroutine will end in the invariant. -/
theorem Stands.current {t : τ} (stands : Stands L G I threads tr t)
    (run : Serial H E prog s₀ threads s tr) (alone : ∀ j, j ≠ i → Resting threads tr j)
    (keeps : ∀ i t, I t → wp (L i) (G i) (prog i) (fun _ => I) t)
    (left : ∀ r, threads i ≠ .done r) : wp (L i) (G i) (threads i) (fun _ => I) t := by
  have fresh : Resting threads tr i → I t → wp (L i) (G i) (threads i) (fun _ => I) t := by
    rintro (none | ⟨r, ended⟩) inv
    · rw [run.unstarted none]
      exact keeps i t inv
    · exact absurd ended (left r)
  rcases stands with ⟨resting, inv⟩ | ⟨j, ⟨event, started⟩, others, goal⟩
  · exact fresh (resting i) inv
  · by_cases same : i = j
    · subst same
      exact goal
    · rcases alone j (Ne.symm same) with none | ⟨r, ended⟩
      · exact absurd started (none event)
      · rw [ended] at goal
        exact fresh (others i same) ((wp_done ..).mp goal)

/-- **The serial rule.** What every coroutine keeps when it runs alone holds whenever none is
under way. -/
theorem stands (views : Views H E view L)
    (keeps : ∀ i t, I t → wp (L i) (G i) (prog i) (fun _ => I) t) (init : I (view s₀))
    (run : Serial H E prog s₀ threads s tr) : Stands L G I threads tr (view s) := by
  induction run with
  | start => exact .inl ⟨fun i => .inl fun _ => not_mem_nil, init⟩
  | @step threads s s' tr i sh op k a run alone here answered ih =>
    have left : ∀ r, threads i ≠ .done r := fun r ended => by rw [ended] at here; cases here
    have goal := ih.current run alone keeps left
    rw [here] at goal
    refine .inr ⟨i, ⟨_, mem_append_right _ mem_cons_self⟩, fun j other => ?_, ?_⟩
    · rcases alone j other with none | ⟨r, ended⟩
      · refine .inl fun event mem => (mem_append.mp mem).elim (none event) fun new => ?_
        exact other (congrArg Prod.fst (mem_singleton.mp new))
      · exact .inr ⟨r, by rw [update_of_ne other, ended]⟩
    · rw [update_self]
      exact ((wp_await ..).mp goal _ _ (views.step _ _ _ _ _ _ answered)).2
  | env _ moved ih =>
    rw [views.env _ _ moved]
    exact ih

theorem ended (views : Views H E view L)
    (keeps : ∀ i t, I t → wp (L i) (G i) (prog i) (fun _ => I) t) (init : I (view s₀))
    (run : Serial H E prog s₀ threads s tr) (resting : ∀ i, Resting threads tr i) : I (view s) := by
  rcases run.stands views keeps init with ⟨_, inv⟩ | ⟨i, ⟨event, started⟩, _, goal⟩
  · exact inv
  · rcases resting i with none | ⟨r, ended⟩
    · exact absurd started (none event)
    · rw [ended] at goal
      exact (wp_done ..).mp goal

theorem guarantees (views : Views H E view L)
    (keeps : ∀ i t, I t → wp (L i) (G i) (prog i) (fun _ => I) t) (init : I (view s₀))
    (run : Serial H E prog s₀ threads s tr) {sh : Bool} {op : P.Op} {k : Except ε (P.Ans op) → Prog P ε α}
    {a : Except ε (P.Ans op)} {s' : σ} (alone : ∀ j, j ≠ i → Resting threads tr j) (here : threads i = .await sh op k)
    (answered : H i sh s op a s') : G i (view s) ⟨op, a⟩ := by
  have left : ∀ r, threads i ≠ .done r := fun r ended => by rw [ended] at here; cases here
  have goal := (run.stands views keeps init).current run alone keeps left
  rw [here] at goal
  exact ((wp_await ..).mp goal _ _ (views.step _ _ _ _ _ _ answered)).1

end Serial

end Coro
