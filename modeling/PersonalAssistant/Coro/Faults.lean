import PersonalAssistant.Coro.World

/-!
# Injected faults

`Answers` is an environment without faults: how each request is answered. Over it, `struck` is
the one in which a request may be struck by a fault: it raises an exception, with its effect
done or not. It keeps the list of the faults so far beside the state, and a condition on the
shield, that list and the new fault says which are permitted.

For at most one fault a run splits in two: the part before the fault, in which the world is
reliable, and the part after it, in which it is reliable again. `Struck` is the weakest
precondition of the runs with exactly one fault, by the fault; with `Clean`, the one of the
runs without any, it gives the weakest precondition of both (`wp_once`), and its rules follow
the program text as those of `wp` do.
-/

namespace Coro

variable {P : Port} {ε α β σ τ : Type} {r : Except ε α} {I : σ → Prop} {sh : Bool}

/-- How requests are answered where nothing fails, and what they do to the state. -/
abbrev Answers (P : Port) (ε σ : Type) : Type := σ → (op : P.Op) → Except ε (P.Ans op) → σ → Prop

/-- A fault at a request: what is raised there, and whether the request had its effect. -/
structure Fault (P : Port) (ε : Type) where
  op : P.Op
  exn : ε
  applied : Bool

/-- Which faults may come: by the shield, the faults before and the fault. -/
abbrev Permitted (P : Port) (ε : Type) : Type := Bool → List (Fault P ε) → Fault P ε → Prop

/-- What a fault does to the state. -/
def Strikes (R : Answers P ε σ) (s : σ) (fault : Fault P ε) (s' : σ) : Prop :=
  if fault.applied then ∃ b, R s fault.op b s' else s' = s

/-- The environment with permitted faults, and the faults so far. -/
def struck (R : Answers P ε σ) (permitted : Permitted P ε) : Handler P ε (σ × List (Fault P ε)) :=
  fun sh st op a st' =>
    (R st.1 op a st'.1 ∧ st'.2 = st.2) ∨
    ∃ e applied, a = .error e ∧ permitted sh st.2 ⟨op, e, applied⟩ ∧ Strikes R st.1 ⟨op, e, applied⟩ st'.1 ∧
      st'.2 = st.2 ++ [⟨op, e, applied⟩]

section Strikes

variable {R : Answers P ε σ} {s s' : σ} {op : P.Op} {e : ε}

@[simp] theorem strikes_lost :
    Strikes R s ⟨op, e, false⟩ s' ↔ s' = s := by
  simp [Strikes]

@[simp] theorem strikes_applied :
    Strikes R s ⟨op, e, true⟩ s' ↔ ∃ b, R s op b s' := by
  simp [Strikes]

/-- After a fault, the state is as before or as the request leaves it. -/
theorem Strikes.elim {applied : Bool}
    (strikes : Strikes R s ⟨op, e, applied⟩ s') (before : I s) (after : ∀ a, R s op a s' → I s') : I s' := by
  cases applied with
  | false =>
    rw [strikes_lost.mp strikes]
    exact before
  | true =>
    obtain ⟨a, answered⟩ := strikes_applied.mp strikes
    exact after a answered

/-- The answers seen through a view of the state. -/
def seen (view : σ → τ) (R : Answers P ε σ) : Answers P ε τ :=
  fun t op a t' => ∃ s s', view s = t ∧ view s' = t' ∧ R s op a s'

theorem struck_seen {permitted : Permitted P ε} {view : σ → τ} {st st' : σ × List (Fault P ε)} {a : Except ε (P.Ans op)}
    (h : struck R permitted sh st op a st') :
    struck (seen view R) permitted sh (view st.1, st.2) op a (view st'.1, st'.2) := by
  rcases h with ⟨answered, same⟩ | ⟨e, applied, rfl, may, strikes, grown⟩
  · exact .inl ⟨⟨st.1, st'.1, rfl, rfl, answered⟩, same⟩
  · refine .inr ⟨e, applied, rfl, may, ?_, grown⟩
    cases applied with
    | false =>
      rw [strikes_lost] at strikes ⊢
      exact congrArg view strikes
    | true =>
      rw [strikes_applied] at strikes ⊢
      obtain ⟨b, answered⟩ := strikes
      exact ⟨b, st.1, st'.1, rfl, rfl, answered⟩

end Strikes

/-- At most one fault in all, and that one permitted. -/
def once (permitted : Bool → Fault P ε → Prop) : Permitted P ε :=
  fun sh faults fault => faults = [] ∧ permitted sh fault

/-- Every run without a fault ends in `Q`. -/
abbrev Clean (R : Answers P ε σ) (c : Prog P ε α) (Q : Except ε α → σ → Prop) (s : σ) : Prop :=
  wp (fun _ => R) (fun _ _ => True) c Q s

/-- Every run with exactly one fault, a permitted one, ends in `S` of that fault. -/
def Struck (R : Answers P ε σ) (permitted : Bool → Fault P ε → Prop) :
    Prog P ε α → (Fault P ε → Except ε α → σ → Prop) → σ → Prop
  | .done _, _, _ => True
  | .await sh op k, S, s =>
    (∀ a s', R s op a s' → Struck R permitted (k a) S s') ∧
    ∀ e applied s', permitted sh ⟨op, e, applied⟩ → Strikes R s ⟨op, e, applied⟩ s' →
      Clean R (k (.error e)) (S ⟨op, e, applied⟩) s'

section Rules

variable {R : Answers P ε σ} {permitted : Bool → Fault P ε → Prop} {s : σ} {S T : Fault P ε → Except ε α → σ → Prop}
  {U : Fault P ε → Except ε β → σ → Prop} {Q M : Except ε α → σ → Prop} {N : Except ε β → σ → Prop}
  {c : Prog P ε α} {f : α → Prog P ε β} {g : Except ε α → Prog P ε β}

theorem Clean.done (h : Q r s) : Clean R (.done r) Q s := wp.done h

theorem Clean.any (c : Prog P ε α) : Clean R c (fun _ _ => True) s := by
  induction c generalizing s with
  | done r => exact .done trivial
  | await sh op k ih => exact wp.await fun a s' _ => ⟨trivial, ih a⟩

theorem Clean.bind (first : Clean R c M s) (rest : ∀ a s', M (.ok a) s' → Clean R (f a) N s')
    (raised : ∀ e s', M (.error e) s' → N (.error e) s') : Clean R (c >>= f) N s := by
  refine wp.after first fun r s' h => ?_
  cases r with
  | ok a => exact rest a s' h
  | error e => exact raised e s' h

/-- The body of a `try`, then its handlers. -/
theorem Clean.attempt_bind (body : Clean R c M s) (rest : ∀ r s', M r s' → Clean R (g r) N s') :
    Clean R (c.attempt >>= g) N s := wp.tried body rest

@[simp] theorem Struck.done (r : Except ε α) : Struck R permitted (.done r) S s := trivial

theorem struck_await {op : P.Op} {k : Except ε (P.Ans op) → Prog P ε α} :
    Struck R permitted (.await sh op k) S s ↔
      (∀ a s', R s op a s' → Struck R permitted (k a) S s') ∧
      ∀ e applied s', permitted sh ⟨op, e, applied⟩ → Strikes R s ⟨op, e, applied⟩ s' →
        Clean R (k (.error e)) (S ⟨op, e, applied⟩) s' := Iff.rfl

/-- **Consequence.** -/
theorem Struck.mono (weaker : ∀ fault r s', S fault r s' → T fault r s') (h : Struck R permitted c S s) :
    Struck R permitted c T s := by
  induction c generalizing s with
  | done r => trivial
  | await sh op k ih =>
    refine ⟨fun a s' answered => ih a (h.1 a s' answered), fun e applied s' may strikes => ?_⟩
    exact wp_mono (weaker _) (h.2 e applied s' may strikes)

/-- **Sequencing.** The fault is in the first part, and the rest runs without one, or the
first part runs without one. -/
theorem struck_bind :
    Struck R permitted (c >>= f) U s ↔
      Struck R permitted c (fun fault => either (fun a => Clean R (f a) (U fault)) fun e => U fault (.error e)) s ∧
      Clean R c (either (fun a => Struck R permitted (f a) U) fun _ _ => True) s := by
  induction c generalizing s with
  | done r =>
    cases r with
    | ok a => simp [Clean]
    | error e => simp [Clean]
  | await sh op k ih =>
    simp only [Prog.await_bind, struck_await, Clean, wp_await, true_and, wp_bind]
    constructor
    · rintro ⟨later, now⟩
      refine ⟨⟨fun a s' answered => ((ih a).mp (later a s' answered)).1, now⟩, ?_⟩
      exact fun a s' answered => ((ih a).mp (later a s' answered)).2
    · rintro ⟨⟨first, now⟩, rest⟩
      refine ⟨fun a s' answered => (ih a).mpr ⟨first a s' answered, rest a s' answered⟩, now⟩

/-- The same from a postcondition of the first part for each of the two cases. -/
theorem Struck.bind_of (clean : Clean R c M s)
    (hit : Struck R permitted c T s) (rest : ∀ a s', M (.ok a) s' → Struck R permitted (f a) U s')
    (after : ∀ fault a s', T fault (.ok a) s' → Clean R (f a) (U fault) s')
    (raised : ∀ fault e s', T fault (.error e) s' → U fault (.error e) s') : Struck R permitted (c >>= f) U s := by
  refine struck_bind.mpr ⟨.mono (fun fault r s' h => ?_) hit, wp_mono (fun r s' h => ?_) clean⟩
  · cases r with
    | ok a => exact after fault a s' h
    | error e => exact raised fault e s' h
  · cases r with
    | ok a => exact rest a s' h
    | error e => trivial

/-- **Try.** -/
theorem struck_attempt {S : Fault P ε → Except ε (Except ε α) → σ → Prop} :
    Struck R permitted c.attempt S s ↔ Struck R permitted c (fun fault r => S fault (.ok r)) s := by
  induction c generalizing s with
  | done r => exact Iff.rfl
  | await sh op k ih =>
    simp only [Prog.attempt, struck_await, Clean, wp_attempt, ih]

/-- The body of a `try`, then its handlers. -/
theorem Struck.attempt_bind (clean : Clean R c M s)
    (hit : Struck R permitted c T s) (rest : ∀ r s', M r s' → Struck R permitted (g r) U s')
    (after : ∀ fault r s', T fault r s' → Clean R (g r) (U fault) s') : Struck R permitted (c.attempt >>= g) U s :=
  struck_bind.mpr ⟨struck_attempt.mpr (.mono after hit), wp.attempt (wp_mono rest clean)⟩

/-- **Shield.** Only what a shielded request may be struck by. -/
theorem struck_shield :
    Struck R permitted c.shield S s ↔ Struck R (fun _ => permitted true) c S s := by
  induction c generalizing s with
  | done r => exact Iff.rfl
  | await sh op k ih =>
    have blind : ∀ {c : Prog P ε α} {Q : Except ε α → σ → Prop} {s : σ}, Clean R c.shield Q s ↔ Clean R c Q s :=
      wp_shield _ _
    simp only [Prog.shield, struck_await, blind, ih]

theorem Struck.allowed (h : Struck R permitted c S s) :
    Struck R permitted c (fun fault r s' => (∃ sh, permitted sh fault) ∧ S fault r s') s := by
  induction c generalizing s with
  | done r => trivial
  | await sh op k ih =>
    refine ⟨fun a s' answered => ih a (h.1 a s' answered), fun e applied s' may strikes => ?_⟩
    exact wp_mono (fun _ _ ended => ⟨⟨sh, may⟩, ended⟩) (h.2 e applied s' may strikes)

-- As with `wp`, only the rules are used.
attribute [irreducible] Struck

/-- Once the fault has come, the run is one without faults. -/
theorem wp_spent {faults : List (Fault P ε)} (spent : faults ≠ []) (clean : Clean R c Q s) :
    wp (struck R (once permitted)) (fun _ _ => True) c (fun r st => st.2 = faults ∧ Q r st.1) (s, faults) := by
  induction c generalizing s with
  | done r => exact wp.done ⟨rfl, (wp_done ..).mp clean⟩
  | await sh op k ih =>
    refine wp.await ?_
    rintro a ⟨s', faults'⟩ (⟨reliable, same⟩ | ⟨e, applied, _, may, _⟩)
    · obtain rfl : faults' = faults := same
      exact ⟨trivial, ih a ((wp_await ..).mp clean a s' reliable).2⟩
    · exact absurd may.1 spent

/-- **At most one fault.** A run ends as one without faults does, or with one fault, in `S`
of it. -/
theorem wp_once (clean : Clean R c Q s) (hit : Struck R permitted c S s) :
    wp (struck R (once permitted)) (fun _ _ => True) c
      (fun r st => (st.2 = [] ∧ Q r st.1) ∨ ∃ fault, st.2 = [fault] ∧ S fault r st.1) (s, []) := by
  induction c generalizing s with
  | done r => exact wp.done (.inl ⟨rfl, (wp_done ..).mp clean⟩)
  | await sh op k ih =>
    obtain ⟨later, now⟩ := struck_await.mp hit
    refine wp.await ?_
    rintro a ⟨s', faults⟩ (⟨reliable, same⟩ | ⟨e, applied, rfl, may, strikes, grown⟩)
    · obtain rfl : faults = [] := same
      exact ⟨trivial, ih a ((wp_await ..).mp clean a s' reliable).2 (later a s' reliable)⟩
    · obtain rfl : faults = [⟨op, e, applied⟩] := grown
      refine ⟨trivial, wp_mono ?_ (wp_spent (List.cons_ne_nil _ _) (now e applied s' may.2 strikes))⟩
      exact fun r st ended => .inr ⟨_, ended⟩

end Rules

/-! ## Any number of faults -/

/-- Every run under the permitted faults, however many, ends in `Q`, with the guarantee `G` of
the state at every event. -/
def Anyhow (R : Answers P ε σ) (permitted : Permitted P ε) (G : σ → Event P ε → Prop) (c : Prog P ε α)
    (Q : Except ε α → σ → Prop) (s : σ) : Prop :=
  ∀ faults, wp (struck R permitted) (fun st => G st.1) c (fun r st => Q r st.1) (s, faults)

section Anyhow

variable {R : Answers P ε σ} {permitted : Permitted P ε} {G : σ → Event P ε → Prop} {s : σ}
  {Q M : Except ε α → σ → Prop}
  {N : Except ε β → σ → Prop} {c : Prog P ε α} {sh : Bool} {op : P.Op} {k : Except ε (P.Ans op) → Prog P ε α}

theorem Anyhow.done (h : Q r s) : Anyhow R permitted G (.done r) Q s := fun _ => wp.done h

theorem Anyhow.await (answered : ∀ a s', R s op a s' → G s ⟨op, a⟩ ∧ Anyhow R permitted G (k a) Q s')
    (hit : ∀ e applied faults s', permitted sh faults ⟨op, e, applied⟩ → Strikes R s ⟨op, e, applied⟩ s' →
      G s ⟨op, .error e⟩ ∧ Anyhow R permitted G (k (.error e)) Q s') :
    Anyhow R permitted G (.await sh op k) Q s := by
  intro faults
  refine wp.await ?_
  rintro a ⟨s', faults'⟩ (⟨reliable, -⟩ | ⟨e, applied, rfl, may, strikes, -⟩)
  · exact ⟨(answered a s' reliable).1, (answered a s' reliable).2 faults'⟩
  · have both := hit e applied faults s' may strikes
    exact ⟨both.1, both.2 faults'⟩

/-- A request whose answer does not matter, only what holds before and after it. -/
theorem Anyhow.each (guard : ∀ a, G s ⟨op, a⟩) (before : I s) (after : ∀ a s', R s op a s' → I s')
    (rest : ∀ a s', I s' → Anyhow R permitted G (k a) Q s') : Anyhow R permitted G (.await sh op k) Q s :=
  .await (fun a s' answered => ⟨guard a, rest a s' (after a s' answered)⟩) fun _ _ _ s' _ strikes =>
    ⟨guard _, rest _ s' (strikes.elim before fun a => after a s')⟩

theorem Anyhow.fewer {permitted' : Permitted P ε}
    (fewer : ∀ sh faults fault, permitted' sh faults fault → permitted sh faults fault)
    (h : Anyhow R permitted G c Q s) :
    Anyhow R permitted' G c Q s := by
  intro faults
  refine wp_restrict (fun sh st op a st' answered => ?_) (h faults)
  rcases answered with reliable | ⟨e, applied, raised, may, strikes⟩
  · exact .inl reliable
  · exact .inr ⟨e, applied, raised, fewer _ _ _ may, strikes⟩

theorem Anyhow.mono (weaker : ∀ r s', Q r s' → M r s')
    (h : Anyhow R permitted G c Q s) : Anyhow R permitted G c M s :=
  fun faults => wp_mono (fun r st => weaker r st.1) (h faults)

theorem Anyhow.bind {f : α → Prog P ε β}
    (first : Anyhow R permitted G c M s) (rest : ∀ a s', M (.ok a) s' → Anyhow R permitted G (f a) N s')
    (raised : ∀ e s', M (.error e) s' → N (.error e) s') : Anyhow R permitted G (c >>= f) N s := by
  intro faults
  refine wp.after (first faults) fun r st h => ?_
  cases r with
  | ok a => exact rest a st.1 h st.2
  | error e => exact raised e st.1 h

/-- The body of a `try`, then its handlers. -/
theorem Anyhow.attempt_bind {f : Except ε α → Prog P ε β} (body : Anyhow R permitted G c M s)
    (rest : ∀ r s', M r s' → Anyhow R permitted G (f r) N s') : Anyhow R permitted G (c.attempt >>= f) N s :=
  fun faults => wp.tried (body faults) fun r st h => rest r st.1 h st.2

theorem Anyhow.shield (h : Anyhow R (fun _ => permitted true) G c Q s) :
    Anyhow R permitted G c.shield Q s :=
  fun faults => wp.shield (h faults)

end Anyhow

section Script

variable {κ : Type}

/-- An environment as a function: the world with the given answers, and the faults that
`strike` puts in, by the faults so far and the request. -/
def World.scripted (W : World P ε σ κ) (k : κ) (answers : (op : P.Op) → Except ε (P.Ans op))
    (strike : List (Fault P ε) → P.Op → Option (ε × Bool)) (st : σ × List (Fault P ε)) (op : P.Op) :
    Except ε (P.Ans op) × σ × List (Fault P ε) :=
  match strike st.2 op with
  | none => ((W.answerWith k answers st.1 op).1, (W.answerWith k answers st.1 op).2, st.2)
  | some (e, true) => (.error e, (W.answerWith k answers st.1 op).2, st.2 ++ [⟨op, e, true⟩])
  | some (e, false) => (.error e, st.1, st.2 ++ [⟨op, e, false⟩])

theorem World.scripted_struck {W : World P ε σ κ} {k : κ} {answers : (op : P.Op) → Except ε (P.Ans op)}
    {strike : List (Fault P ε) → P.Op → Option (ε × Bool)} {permitted : Permitted P ε}
    (own : ∀ s op, W.total op → W.effect k s op = none) (total : ∀ op, W.total op → ∃ x, answers op = .ok x)
    (may : ∀ sh faults op e applied, strike faults op = some (e, applied) → permitted sh faults ⟨op, e, applied⟩)
    (sh : Bool) (st : σ × List (Fault P ε)) (op : P.Op) :
    struck W.Reliable permitted sh st op (W.scripted k answers strike st op).1
      (W.scripted k answers strike st op).2 := by
  have reliable := answerWith_reliable own total sh st.1 op
  unfold scripted
  split
  · exact .inl ⟨reliable, rfl⟩
  · rename_i e struck
    exact .inr ⟨e, true, rfl, may _ _ _ _ _ struck, strikes_applied.mpr ⟨_, reliable⟩, rfl⟩
  · rename_i e struck
    exact .inr ⟨e, false, rfl, may _ _ _ _ _ struck, strikes_lost.mpr rfl, rfl⟩

end Script

end Coro
