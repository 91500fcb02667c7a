import PersonalAssistant.Coro.Program

/-!
# Runs of a coroutine and their weakest preconditions

A `Handler` says which answers the environment may give to a request and what the request
does to a state. `Steps` is a run against a handler, stopped anywhere, with the list of the
events it met; `Exec` is a run to the end. `wp` is the weakest precondition over all of
them, and it also demands a guarantee of every event met on the way, so that it speaks of
runs that never finish as well. Its rules follow the program text: one for each way a
coroutine is built.
-/

namespace Coro

/-- What the environment may do at an await, the shield's flag first: a relation between the
state, the request, its answer and the state after it. -/
abbrev Handler (P : Port) (ε σ : Type) : Type :=
  Bool → σ → (op : P.Op) → Except ε (P.Ans op) → σ → Prop

variable {P : Port} {ε α β σ γ : Type} {sh : Bool} {f : γ → Event P ε → γ} (r : Except ε α)

/-- A run of a coroutine against a handler, stopped after the listed events. -/
inductive Steps (H : Handler P ε σ) : Prog P ε α → σ → List (Event P ε) → Prog P ε α → σ → Prop where
  | refl (c : Prog P ε α) (s : σ) : Steps H c s [] c s
  | step {sh : Bool} {op : P.Op} {k : Except ε (P.Ans op) → Prog P ε α} {a : Except ε (P.Ans op)}
      {s s₁ s₂ : σ} {tr : List (Event P ε)} {c : Prog P ε α} :
      H sh s op a s₁ → Steps H (k a) s₁ tr c s₂ → Steps H (.await sh op k) s (⟨op, a⟩ :: tr) c s₂

/-- A run to the end. -/
abbrev Exec (H : Handler P ε σ) (c : Prog P ε α) (s : σ) (tr : List (Event P ε))
    (r : Except ε α) (s' : σ) : Prop :=
  Steps H c s tr (.done r) s'

/-- A postcondition by outcome: one predicate for a value, one for an exception. -/
def either (f : α → σ → Prop) (g : ε → σ → Prop) : Except ε α → σ → Prop
  | .ok a, s => f a s
  | .error e, s => g e s

@[simp] theorem either_ok (f : α → σ → Prop) (g : ε → σ → Prop) (a : α) (s : σ) : either f g (.ok a) s = f a s := rfl

@[simp] theorem either_error (f : α → σ → Prop) (g : ε → σ → Prop) (e : ε) (s : σ) :
    either f g (.error e) s = g e s := rfl

/-- The weakest precondition of `Q` over every run of a coroutine, with the guarantee `G` at
every event of the run. -/
def wp (H : Handler P ε σ) (G : σ → Event P ε → Prop) :
    Prog P ε α → (Except ε α → σ → Prop) → σ → Prop
  | .done r, Q, s => Q r s
  | .await sh op k, Q, s => ∀ a s', H sh s op a s' → G s ⟨op, a⟩ ∧ wp H G (k a) Q s'

section Rules

variable {H : Handler P ε σ} {G : σ → Event P ε → Prop} {s : σ}

@[simp] theorem wp_done (Q : Except ε α → σ → Prop) : wp H G (.done r) Q s ↔ Q r s := Iff.rfl

theorem wp_await (sh : Bool) (op : P.Op) (k : Except ε (P.Ans op) → Prog P ε α) (Q : Except ε α → σ → Prop) :
    wp H G (.await sh op k) Q s ↔ ∀ a s', H sh s op a s' → G s ⟨op, a⟩ ∧ wp H G (k a) Q s' := Iff.rfl

@[simp] theorem wp_perform (op : P.Op) (Q : Except ε (P.Ans op) → σ → Prop) :
    wp H G (Prog.perform op) Q s ↔ ∀ a s', H false s op a s' → G s ⟨op, a⟩ ∧ Q a s' := Iff.rfl

@[simp] theorem wp_pure (a : α) (Q : Except ε α → σ → Prop) : wp H G (pure a) Q s ↔ Q (.ok a) s := Iff.rfl

@[simp] theorem wp_raise (e : ε) (Q : Except ε α → σ → Prop) : wp H G (Prog.raise e) Q s ↔ Q (.error e) s := Iff.rfl

@[simp] theorem wp_ofExcept (Q : Except ε α → σ → Prop) :
    wp H G (Prog.ofExcept r) Q s ↔ Q r s := Iff.rfl

theorem wp_ite {p : Prop} [Decidable p] (c d : Prog P ε α) (Q : Except ε α → σ → Prop) :
    wp H G (if p then c else d) Q s ↔ (p → wp H G c Q s) ∧ (¬ p → wp H G d Q s) := by
  by_cases hp : p <;> simp [hp]

/-- **Sequencing.** -/
@[simp] theorem wp_bind (c : Prog P ε α) (f : α → Prog P ε β) (Q : Except ε β → σ → Prop) :
    wp H G (c >>= f) Q s ↔ wp H G c (either (fun a => wp H G (f a) Q) fun e => Q (.error e)) s := by
  induction c generalizing s with
  | done r => cases r <;> rfl
  | await sh op k ih =>
    simp only [Prog.await_bind, wp_await]
    exact forall₃_congr fun a s' _ => and_congr_right fun _ => ih a

variable {r : Except ε α} {f : α → Prog P ε β} {Q : Except ε α → σ → Prop} {T : Except ε β → σ → Prop}
  {c d : Prog P ε α} {p : Prop} [Decidable p] {a : α} {e : ε} {E : ε → σ → Prop} {op : P.Op}

theorem wp_ofExcept_bind (ok : ∀ a, r = .ok a → wp H G (f a) T s) (raised : ∀ e, r = .error e → T (.error e) s) :
    wp H G (Prog.ofExcept r >>= f) T s := by
  cases r with
  | ok a => exact ok a rfl
  | error e => exact raised e rfl

theorem wp_ok_bind (ok : r = .ok a) (rest : wp H G (f a) T s) : wp H G (Prog.ofExcept r >>= f) T s := by
  subst ok
  exact rest

/-- **Try.** The handlers see the outcome as a value. -/
@[simp] theorem wp_attempt (c : Prog P ε α) (Q : Except ε (Except ε α) → σ → Prop) :
    wp H G c.attempt Q s ↔ wp H G c (fun r => Q (.ok r)) s := by
  induction c generalizing s with
  | done r => rfl
  | await sh op k ih => exact forall₃_congr fun a s' _ => and_congr_right fun _ => ih a

/-- **Shield.** Every await is answered as a shielded one. -/
@[simp] theorem wp_shield (c : Prog P ε α) (Q : Except ε α → σ → Prop) :
    wp H G c.shield Q s ↔ wp (fun _ => H true) G c Q s := by
  induction c generalizing s with
  | done r => rfl
  | await sh op k ih => exact forall₃_congr fun a s' _ => and_congr_right fun _ => ih a

/-! The same rules in the direction in which a goal is followed along the program. -/

theorem wp.done (h : Q r s) : wp H G (.done r) Q s := h

theorem wp.await {k : Except ε (P.Ans op) → Prog P ε α}
    (h : ∀ a s', H sh s op a s' → G s ⟨op, a⟩ ∧ wp H G (k a) Q s') : wp H G (.await sh op k) Q s := h

theorem wp.perform {Q : Except ε (P.Ans op) → σ → Prop}
    (h : ∀ a s', H false s op a s' → G s ⟨op, a⟩ ∧ Q a s') : wp H G (Prog.perform op) Q s := h

theorem wp.pure (h : Q (.ok a) s) : wp H G (pure a) Q s := h

theorem wp.raise (h : Q (.error e) s) : wp H G (Prog.raise e) Q s := h

theorem wp.ofExcept (h : Q r s) : wp H G (Prog.ofExcept r) Q s := h

theorem wp.ite (h : (p → wp H G c Q s) ∧ (¬ p → wp H G d Q s)) : wp H G (if p then c else d) Q s := (wp_ite ..).mpr h

theorem wp.bind (h : wp H G c (either (fun a => wp H G (f a) T) fun e => T (.error e)) s) : wp H G (c >>= f) T s :=
      (wp_bind ..).mpr h

theorem wp.attempt {Q : Except ε (Except ε α) → σ → Prop} (h : wp H G c (fun r => Q (.ok r)) s) :
    wp H G c.attempt Q s := (wp_attempt ..).mpr h

theorem wp.shield (h : wp (fun _ => H true) G c Q s) : wp H G c.shield Q s := (wp_shield ..).mpr h

/-- **Consequence.** -/
theorem wp_mono {Q' : Except ε α → σ → Prop} (hQ : ∀ r s', Q r s' → Q' r s') (hc : wp H G c Q s) : wp H G c Q' s := by
  induction c generalizing s with
  | done r => exact hQ r s hc
  | await sh op k ih =>
    intro a s' ha
    exact ⟨(hc a s' ha).1, ih a (hc a s' ha).2⟩

theorem wp_weaken {G' : σ → Event P ε → Prop} (weaker : ∀ s e, G s e → G' s e)
    (hc : wp H G c Q s) : wp H G' c Q s := by
  induction c generalizing s with
  | done r => exact hc
  | await sh op k ih =>
    intro a s' ha
    exact ⟨weaker _ _ (hc a s' ha).1, ih a (hc a s' ha).2⟩

theorem wp_restrict {H' : Handler P ε σ}
    (fewer : ∀ sh s op a s', H' sh s op a s' → H sh s op a s') (hc : wp H G c Q s) : wp H' G c Q s := by
  induction c generalizing s with
  | done r => exact hc
  | await sh op k ih =>
    intro a s' ha
    have both := hc a s' (fewer _ _ _ _ _ ha)
    exact ⟨both.1, ih a both.2⟩

theorem wp_either_bind {S : α → σ → Prop} {R : β → σ → Prop}
    (first : wp H G c (either S E) s) (rest : ∀ a s', S a s' → wp H G (f a) (either R E) s') :
    wp H G (c >>= f) (either R E) s := by
  refine (wp_bind ..).mpr (wp_mono (fun r s' h => ?_) first)
  cases r with
  | ok a => exact rest a s' h
  | error e => exact h

theorem wp_either_mono {S S' : α → σ → Prop} (h : wp H G c (either S E) s)
    (weaker : ∀ a s', S a s' → S' a s') : wp H G c (either S' E) s := by
  refine wp_mono (fun r s' h => ?_) h
  cases r with
  | ok a => exact weaker a s' h
  | error e => exact h

/-- The rest goes on from what the first part comes to. -/
theorem wp.after (first : wp H G c Q s)
    (rest : ∀ r s', Q r s' → either (fun a => wp H G (f a) T) (fun e => T (.error e)) r s') : wp H G (c >>= f) T s :=
  wp.bind (wp_mono rest first)

theorem wp.tried {f : Except ε α → Prog P ε β} (body : wp H G c Q s)
    (rest : ∀ r s', Q r s' → wp H G (f r) T s') : wp H G (c.attempt >>= f) T s :=
  wp.bind (wp.attempt (wp_mono rest body))

/-- A property that the first part establishes however it ends, and the rest keeps. -/
theorem wp_bind_keep {I : σ → Prop} (hc : wp H G c (fun _ => I) s)
    (hf : ∀ a s', I s' → wp H G (f a) (fun _ => I) s') : wp H G (c >>= f) (fun _ => I) s := by
  rw [wp_bind]
  refine wp_mono (fun r s' hs => ?_) hc
  cases r with
  | ok a => exact hf a s' hs
  | error e => exact hs

section Keeps

/-- Every run of the coroutine, from any state, ends in a state related to the first. -/
def Keeps (H : Handler P ε σ) (G : σ → Event P ε → Prop) (R : σ → σ → Prop) (c : Prog P ε α) : Prop :=
  ∀ s, wp H G c (fun _ s' => R s s') s

variable {R : σ → σ → Prop}

theorem Keeps.done [Std.Refl R] (r : Except ε α) : Keeps H G R (.done r) :=
  fun s => (wp_done ..).mpr (refl_of R s)

theorem Keeps.bind [IsTrans σ R] (hc : Keeps H G R c) (hf : ∀ a, Keeps H G R (f a)) : Keeps H G R (c >>= f) := by
  intro s
  exact wp_bind_keep (hc s) fun a s' hs => wp_mono (fun _ _ => trans_of R hs) (hf a s')

theorem Keeps.attempt (hc : Keeps H G R c) : Keeps H G R c.attempt := by
  intro s
  rw [wp_attempt]
  exact hc s

theorem Keeps.shield (blind : (fun _ => H true) = H) (hc : Keeps H G R c) : Keeps H G R c.shield := by
  intro s
  rw [wp_shield, blind]
  exact hc s

theorem Keeps.ite (hc : p → Keeps H G R c) (hd : ¬ p → Keeps H G R d) : Keeps H G R (if p then c else d) := by
  by_cases hp : p
  · simpa [hp] using hc hp
  · simpa [hp] using hd hp

/-- A part that leaves the state as it is, then the rest. -/
theorem wp_still_bind (still : Keeps H G Eq c)
    (rest : ∀ a, wp H G (f a) T s) (raised : ∀ e, T (.error e) s) : wp H G (c >>= f) T s := by
  rw [wp_bind]
  refine wp_mono (fun r s' same => ?_) (still s)
  subst same
  cases r with
  | ok a => exact rest a
  | error e => exact raised e

end Keeps

section Ensures

variable {R : β → σ → Prop} {S : α → σ → Prop}

/-- Every run that ends with a value ends in `S`; nothing is said of one that raises. -/
abbrev Ensures (H : Handler P ε σ) (G : σ → Event P ε → Prop) (c : Prog P ε α) (S : α → σ → Prop) (s : σ) : Prop :=
  wp H G c (either S fun _ _ => True) s

theorem Ensures.pure (h : S a s) : Ensures H G (pure a) S s := (wp_pure ..).mpr h

theorem Ensures.raise : Ensures H G (Prog.raise e) S s := (wp_raise ..).mpr trivial

theorem Ensures.ofExcept (h : ∀ a, r = .ok a → S a s) : Ensures H G (Prog.ofExcept r) S s := by
  cases r with
  | ok a => exact (wp_ofExcept ..).mpr (h a rfl)
  | error e => exact (wp_ofExcept ..).mpr trivial

theorem Ensures.bind (first : Ensures H G c S s)
    (rest : ∀ a s', S a s' → Ensures H G (f a) R s') : Ensures H G (c >>= f) R s :=
  wp_either_bind first rest

theorem Ensures.ofExcept_bind (rest : ∀ a, r = .ok a → Ensures H G (f a) R s) :
    Ensures H G (Prog.ofExcept r >>= f) R s :=
  wp_ofExcept_bind rest fun _ _ => trivial

theorem Ensures.ite (hc : p → Ensures H G c S s)
    (hd : ¬ p → Ensures H G d S s) : Ensures H G (if p then c else d) S s :=
  (wp_ite ..).mpr ⟨hc, hd⟩

theorem Ensures.mono {S' : α → σ → Prop} (h : Ensures H G c S s) (weaker : ∀ a s', S a s' → S' a s') :
    Ensures H G c S' s :=
  wp_either_mono h weaker

/-- A coroutine that makes none of the requests a guarantee is about. -/
theorem wp_of_avoids {p : P.Op → Prop} (avoids : c.Avoids p) (free : ∀ s e, ¬ p e.op → G s e) :
    wp H G c (fun _ _ => True) s := by
  induction c generalizing s with
  | done r => trivial
  | await sh op k ih =>
    have both := Prog.avoids_await.mp avoids
    exact (wp_await ..).mpr fun a s' _ => ⟨free s _ both.1, ih a (both.2 a)⟩

end Ensures

-- The rules above are all that is used of `wp`: a goal about a coroutine is never computed.
attribute [irreducible] wp

end Rules

variable {Q : Except ε α → σ → Prop} {c c' : Prog P ε α} {s s' : σ} {tr : List (Event P ε)} {H : Handler P ε σ}
  {G : σ → Event P ε → Prop}

/-- What is left of a coroutine after a run meets the same postcondition. -/
theorem Steps.wp (run : Steps H c s tr c' s') (hc : wp H G c Q s) : Coro.wp H G c' Q s' := by
  induction run with
  | refl => exact hc
  | step ha _ ih => exact ih ((wp_await ..).mp hc _ _ ha).2

/-- Every event of a run meets the guarantee, in the state it happened in. -/
theorem Steps.guarantees {pre post : List (Event P ε)} {e : Event P ε} (run : Steps H c s tr c' s')
    (hc : Coro.wp H G c Q s) (split : tr = pre ++ e :: post) : ∃ c₁ s₁, Steps H c s pre c₁ s₁ ∧ G s₁ e := by
  induction run generalizing pre with
  | refl c s => cases pre <;> cases split
  | @step sh op k a s s₁ s₂ tr c ha _ ih =>
    have both := (wp_await ..).mp hc a s₁ ha
    cases pre with
    | nil =>
      obtain ⟨rfl, -⟩ := List.cons.inj split
      exact ⟨_, _, .refl _ _, both.1⟩
    | cons first pre =>
      obtain ⟨rfl, rest⟩ := List.cons.inj split
      obtain ⟨c₁, s', steps, guarantee⟩ := ih both.2 rest
      exact ⟨c₁, s', .step ha steps, guarantee⟩

/-- **Adequacy.** A run to the end meets the postcondition. -/
theorem Exec.post {r : Except ε α} (run : Exec H c s tr r s') (hc : wp H G c Q s) : Q r s' :=
  (wp_done ..).mp (Steps.wp run hc)

/-- A handler that also folds the events it answered into a ghost state. -/
def ghost {γ : Type} (f : γ → Event P ε → γ) (H : Handler P ε σ) : Handler P ε (σ × γ) :=
  fun sh s op a s' => H sh s.1 op a s'.1 ∧ s'.2 = f s.2 ⟨op, a⟩

/-- A run of the handler is a run with the ghost state, which ends as the fold of its events. -/
theorem Steps.ghost (run : Steps H c s tr c' s') (n : γ) :
    Steps (Coro.ghost f H) c (s, n) tr c' (s', tr.foldl f n) := by
  induction run generalizing n with
  | refl => exact .refl _ _
  | @step sh op _ a s s₁ _ tr _ ha _ ih =>
    have answered : Coro.ghost f H sh (s, n) op a (s₁, f n ⟨op, a⟩) := ⟨ha, rfl⟩
    exact .step answered (ih (f n ⟨op, a⟩))

/-- What every event keeps of the ghost state, every run keeps. -/
theorem wp_ghost_stable {I : γ → Prop} (stable : ∀ n e, I n → I (f n e)) (c : Prog P ε α) {n : γ} (h : I n) :
    wp (Coro.ghost f H) (fun _ _ => True) c (fun _ st => I st.2) (s, n) := by
  induction c generalizing s n with
  | done r => exact (wp_done ..).mpr h
  | await sh op k ih =>
    refine (wp_await ..).mpr ?_
    rintro a ⟨s', n'⟩ ⟨-, hn⟩
    obtain rfl : n' = f n ⟨op, a⟩ := hn
    exact ⟨trivial, ih a (stable n _ h)⟩

section Play

/-- Run a coroutine to its end against an environment given as a function. -/
def play (h : σ → (op : P.Op) → Except ε (P.Ans op) × σ) :
    Prog P ε α → σ → List (Event P ε) × Except ε α × σ
  | .done r, s => ([], r, s)
  | .await _ op k, s =>
    let answer := h s op
    let rest := play h (k answer.1) answer.2
    (⟨op, answer.1⟩ :: rest.1, rest.2)

/-- What `play` computes is a run of every handler that allows the function's answers. -/
theorem play_exec {h : σ → (op : P.Op) → Except ε (P.Ans op) × σ}
    (allowed : ∀ sh s op, H sh s op (h s op).1 (h s op).2) (c : Prog P ε α) (s : σ) :
    Exec H c s (play h c s).1 (play h c s).2.1 (play h c s).2.2 := by
  induction c generalizing s with
  | done r => exact .refl _ _
  | await sh op k ih => exact .step (allowed sh s op) (ih _ _)

/-- The outcome and the final state of such a run. -/
def evaluate (h : σ → (op : P.Op) → Except ε (P.Ans op) × σ) (c : Prog P ε α) (s : σ) : Except ε α × σ :=
  (play h c s).2

variable {h : σ → (op : P.Op) → Except ε (P.Ans op) × σ} {f : α → Prog P ε β}

theorem evaluate_bind (c : Prog P ε α) (f : α → Prog P ε β) (s : σ) :
    evaluate h (c >>= f) s = match evaluate h c s with
      | (.ok a, s') => evaluate h (f a) s'
      | (.error e, s') => (.error e, s') := by
  induction c generalizing s with
  | done r => cases r <;> rfl
  | await sh op k ih => exact ih _ _

theorem evaluate_bind_ok {a : α} (first : evaluate h c s = (.ok a, s')) : evaluate h (c >>= f) s = evaluate h
    (f a) s' := by
  rw [evaluate_bind, first]

theorem evaluate_bind_error {e : ε} (first : evaluate h c s = (.error e, s')) :
    evaluate h (c >>= f) s = (.error e, s') := by
  rw [evaluate_bind, first]

theorem evaluate_attempt (c : Prog P ε α) (s : σ) :
    evaluate h (Prog.attempt c) s = (.ok (evaluate h c s).1, (evaluate h c s).2) := by
  induction c generalizing s with
  | done r => rfl
  | await sh op k ih => exact ih _ _

end Play

end Coro
