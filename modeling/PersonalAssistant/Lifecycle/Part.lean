import PersonalAssistant.Coro.Serial
import PersonalAssistant.Lifecycle.Manager

/-!
# One extension

What the system holds of one extension: its stored record, its published record and its
plans. The operations on an extension read and write nothing else, so they are reasoned about
over this part alone, and the operations on the others are steps of the environment that
leave it as it is. The lemmas say for each request how it is answered and what it does, seen
through the part, and the rules put them at an await.
-/

namespace PersonalAssistant.Lifecycle

open Coro

/-- The part of the system that is about one extension. -/
@[ext] structure Part where
  stored : Option ExtensionRecord
  published : Option ExtensionRecord
  plans : String → Option PendingInstall

/-- The part of the extension `e`. -/
def part (e : String) (s : System) : Part where
  stored := s.store.get e
  published := s.registry.extensions.get e
  plans planId := (s.plans.lookup planId).filter fun plan => plan.manifest.id = e

/-- The environment of the calls on one extension: anything that leaves its part alone. -/
def Elsewhere (e : String) (st st' : System × List LifeFault) : Prop :=
  part e st'.1 = part e st.1 ∧ st'.2 = st.2

/-- The part with the faults so far. -/
def partWith (e : String) (st : System × List LifeFault) : Part × List LifeFault := (part e st.1, st.2)

/-- How requests are answered, seen through the part. -/
abbrev partAnswers (e : String) : Answers LifePort Exn Part := seen (part e) answers

/-- The runs without a fault, seen through the part. -/
abbrev CleanAt {α : Type} (e : String) (c : LifeM α) (Q : Except Exn α → Part → Prop) (t : Part) :
    Prop := Clean (partAnswers e) c Q t

/-- The runs with one fault, seen through the part. -/
abbrev StruckAt {α : Type} (e : String) (permitted : Bool → LifeFault → Prop) (c : LifeM α)
    (S : LifeFault → Except Exn α → Part → Prop)
    (t : Part) : Prop :=
  Struck (partAnswers e) permitted c S t

/-- The permitted faults are failures or cancellations of port calls. -/
abbrev Injecting (permitted : Bool → LifeFault → Prop) : Prop := ∀ sh fault, permitted sh fault → Injected sh fault

theorem views {ι : Type} (e : String) (permitted : ι → Permitted LifePort Exn) :
    Views (fun i => struck answers (permitted i)) (Elsewhere e) (partWith e)
      fun i => struck (partAnswers e) (permitted i) where
  step _ _ _ _ _ _ h := struck_seen h
  env _ _ moved := Prod.ext moved.1 moved.2

section Answers

variable {e : String} {t t' : Part} {record : ExtensionRecord}

variable {op : LifeOp} {a : Except Exn op.Ans}

/-- A request the state answers, seen through any view. -/
theorem seen_effect {τ : Type} {view : System → τ} {t t' : τ} {f : Reading → System → Except Exn op.Ans × System}
    (h : seen view answers t op a t') (inside : ∀ k s, LifeOp.effect k s op = some (f k s)) :
    ∃ k s, view s = t ∧ view (f k s).2 = t' ∧ (f k s).1 = a := by
  obtain ⟨s, s', rfl, rfl, -, k, effect⟩ := h
  have here : world.effect k s op = some (f k s) := inside k s
  rw [here] at effect
  obtain ⟨rfl, rfl⟩ := Prod.mk.inj effect
  exact ⟨k, s, rfl, rfl, rfl⟩

/-- A request to the outside is answered, and changes nothing. -/
theorem seen_outside (h : partAnswers e t op a t') (outside : op.outside) : (∃ x, a = .ok x) ∧ t' = t := by
  obtain ⟨s, s', rfl, rfl, answered, k, effect⟩ := h
  refine ⟨answered outside, congrArg (part e) ?_⟩
  have none : world.effect k s op = none := by
    cases op <;> first | rfl | cases outside
  rw [none] at effect
  exact effect

/-- The requests that neither read nor change any part: those to the outside, and the previews
of purges. -/
def LifeOp.aside : LifeOp → Bool
  | .pendingPurge _ | .rememberPurge _ _ | .forgetPurge _ => true
  | op => op.outside

theorem seen_aside (h : partAnswers e t op a t') (aside : op.aside) : (∃ x, a = .ok x) ∧ t' = t := by
  by_cases outside : op.outside
  · exact seen_outside h outside
  cases op <;> first
    | exact absurd aside outside
    | obtain ⟨k, s, rfl, rfl, rfl⟩ := seen_effect h fun _ _ => rfl
      exact ⟨⟨_, rfl⟩, rfl⟩

theorem part_stored_id {s : System} (found : (part e s).stored = some record) : record.id = e :=
  Keyed.key_of_get found

theorem seen_getRecord {a : Except Exn (Option ExtensionRecord)} (h : partAnswers e t (.getRecord e) a t') :
    a = .ok t.stored ∧ t' = t ∧ ∀ record, t.stored = some record → record.id = e := by
  obtain ⟨k, s, rfl, rfl, rfl⟩ := seen_effect h fun _ _ => rfl
  exact ⟨rfl, rfl, fun record => part_stored_id⟩

theorem seen_saveRecord {a : Except Exn Bool} (h : partAnswers e t (.saveRecord record none) a t')
    (id : record.id = e) : a = .ok true ∧ t' = { t with stored := some record } := by
  obtain ⟨k, s, rfl, rfl, rfl⟩ := seen_effect h fun _ _ => rfl
  subst id
  refine ⟨rfl, ?_⟩
  simp [part, System.save]

/-- What a compare-and-save shows of the stored record. -/
theorem seen_saveExpected {a : Except Exn Bool} {state : ExtensionState} {version : String}
    (h : partAnswers e t (.saveRecord record (some (state, version))) a t') (id : record.id = e) :
    (a = .ok true ∧ t' = { t with stored := some record } ∧
      ∃ current, t.stored = some current ∧ current.state = state ∧ current.manifest.version = version) ∨
    (a = .ok false ∧ t' = t ∧
      ∀ current, t.stored = some current → ¬ (current.state = state ∧ current.manifest.version = version)) := by
  obtain ⟨k, s, rfl, rfl, rfl⟩ := seen_effect h fun _ _ => rfl
  subst id
  cases found : s.store.get record.id with
  | none =>
    refine .inr ⟨by simp [System.save, found], by simp [System.save, found], ?_⟩
    intro current there
    rw [show (part record.id s).stored = none from found] at there
    cases there
  | some current =>
    by_cases same : current.state = state ∧ current.manifest.version = version
    · refine .inl ⟨by simp [System.save, found, same], ?_, current, found, same⟩
      simp [part, System.save, found, same]
    · refine .inr ⟨by simp [System.save, found, same], by simp [System.save, found, same], ?_⟩
      intro other there
      rw [show (part record.id s).stored = some current from found] at there
      cases there
      exact same

theorem seen_registryEnable {a : Except Exn Unit} (h : partAnswers e t (.registryEnable record) a t')
    (id : record.id = e) :
    (a = .ok () ∧ t' = { t with published := some record }) ∨ ((∃ exc, a = .error exc) ∧ t' = t) := by
  obtain ⟨k, s, rfl, rfl, rfl⟩ := seen_effect h fun _ _ => rfl
  subst id
  cases enabled : s.registry.enable record with
  | ok registry =>
    refine .inl ⟨rfl, ?_⟩
    simp [part, System.publish, (Registry.enable_eq_ok enabled).2]
  | error exc => exact .inr ⟨⟨exc, rfl⟩, rfl⟩

theorem seen_registryDisable {a : Except Exn Unit} (h : partAnswers e t (.registryDisable e) a t') :
    a = .ok () ∧ t' = { t with published := none } := by
  obtain ⟨k, s, rfl, rfl, rfl⟩ := seen_effect h fun _ _ => rfl
  obtain ⟨registry, disabled, extensions⟩ := Registry.disable_ok s.registry e
  rw [disabled]
  refine ⟨rfl, ?_⟩
  simp [part, System.publish, extensions]

end Answers

section Rules

variable {α : Type} {e : String} {t : Part} {sh : Bool} {permitted : Bool → LifeFault → Prop}
  {Q : Except Exn α → Part → Prop} {S : LifeFault → Except Exn α → Part → Prop} {record : ExtensionRecord}

theorem clean_get {k : Except Exn (Option ExtensionRecord) → LifeM α}
    (rest : (∀ record, t.stored = some record → record.id = e) → CleanAt e (k (.ok t.stored)) Q t) :
    CleanAt e (.await sh (.getRecord e) k) Q t := by
  refine wp.await fun a t' h => ⟨trivial, ?_⟩
  obtain ⟨rfl, rfl, own⟩ := seen_getRecord h
  exact rest own

theorem clean_save {k : Except Exn Bool → LifeM α} (id : record.id = e)
    (rest : CleanAt e (k (.ok true)) Q { t with stored := some record }) :
    CleanAt e (.await sh (.saveRecord record none) k) Q t := by
  refine wp.await fun a t' h => ⟨trivial, ?_⟩
  obtain ⟨rfl, rfl⟩ := seen_saveRecord h id
  exact rest

variable {k : Except Exn Unit → LifeM α} {op : LifeOp}

theorem clean_registryEnable (id : record.id = e)
    (published : CleanAt e (k (.ok ())) Q { t with published := some record })
    (refused : ∀ exc, CleanAt e (k (.error exc)) Q t) :
    CleanAt e (.await sh (.registryEnable record) k) Q t := by
  refine wp.await fun a t' h => ⟨trivial, ?_⟩
  rcases seen_registryEnable h id with ⟨rfl, rfl⟩ | ⟨⟨exc, rfl⟩, rfl⟩
  · exact published
  · exact refused exc

theorem clean_registryDisable (rest : CleanAt e (k (.ok ())) Q { t with published := none }) :
    CleanAt e (.await sh (.registryDisable e) k) Q t := by
  refine wp.await fun a t' h => ⟨trivial, ?_⟩
  obtain ⟨rfl, rfl⟩ := seen_registryDisable h
  exact rest

theorem clean_aside {k : Except Exn op.Ans → LifeM α} (aside : op.aside)
    (rest : ∀ x, CleanAt e (k (.ok x)) Q t) : CleanAt e (.await sh op k) Q t := by
  refine wp.await fun a t' h => ⟨trivial, ?_⟩
  obtain ⟨⟨x, rfl⟩, rfl⟩ := seen_aside h aside
  exact rest x

theorem struck_get {k : Except Exn (Option ExtensionRecord) → LifeM α}
    (hit : ∀ exc applied, permitted sh ⟨.getRecord e, exc, applied⟩ →
      CleanAt e (k (.error exc)) (S ⟨.getRecord e, exc, applied⟩) t)
    (rest : (∀ record, t.stored = some record → record.id = e) →
      StruckAt e permitted (k (.ok t.stored)) S t) :
    StruckAt e permitted (.await sh (.getRecord e) k) S t := by
  refine struck_await.mpr ⟨fun a t' h => ?_, fun exc applied t' may strikes => ?_⟩
  · obtain ⟨rfl, rfl, own⟩ := seen_getRecord h
    exact rest own
  · obtain rfl := strikes.elim (I := (· = t)) rfl fun _ h => (seen_getRecord h).2.1
    exact hit exc applied may

/-- One fault at a save. -/
theorem struck_save {k : Except Exn Bool → LifeM α} (id : record.id = e)
    (lost : ∀ exc, permitted sh ⟨.saveRecord record none, exc, false⟩ →
      CleanAt e (k (.error exc)) (S ⟨.saveRecord record none, exc, false⟩) t)
    (raised : ∀ exc, permitted sh ⟨.saveRecord record none, exc, true⟩ →
      CleanAt e (k (.error exc)) (S ⟨.saveRecord record none, exc, true⟩) { t with stored := some record })
    (rest : StruckAt e permitted (k (.ok true)) S { t with stored := some record }) :
    StruckAt e permitted (.await sh (.saveRecord record none) k) S t := by
  refine struck_await.mpr ⟨fun a t' h => ?_, fun exc applied t' may strikes => ?_⟩
  · obtain ⟨rfl, rfl⟩ := seen_saveRecord h id
    exact rest
  · cases applied with
    | false =>
      rw [strikes_lost.mp strikes]
      exact lost exc may
    | true =>
      obtain ⟨b, h⟩ := strikes_applied.mp strikes
      rw [(seen_saveRecord h id).2]
      exact raised exc may

theorem struck_registryEnable (id : record.id = e) (injected : Injecting permitted)
    (hit : ∀ exc, permitted sh ⟨.registryEnable record, exc, false⟩ →
      CleanAt e (k (.error exc)) (S ⟨.registryEnable record, exc, false⟩) t)
    (published : StruckAt e permitted (k (.ok ())) S { t with published := some record })
    (refused : ∀ exc, StruckAt e permitted (k (.error exc)) S t) :
    StruckAt e permitted (.await sh (.registryEnable record) k) S t := by
  refine struck_await.mpr ⟨fun a t' h => ?_, fun exc applied t' may strikes => ?_⟩
  · rcases seen_registryEnable h id with ⟨rfl, rfl⟩ | ⟨⟨exc, rfl⟩, rfl⟩
    · exact published
    · exact refused exc
  · obtain rfl : applied = false := ((injected _ _ may).registry rfl).2
    rw [strikes_lost.mp strikes]
    exact hit exc may

theorem struck_registryDisable (injected : Injecting permitted)
    (hit : ∀ exc, permitted sh ⟨.registryDisable e, exc, false⟩ →
      CleanAt e (k (.error exc)) (S ⟨.registryDisable e, exc, false⟩) t)
    (rest : StruckAt e permitted (k (.ok ())) S { t with published := none }) :
    StruckAt e permitted (.await sh (.registryDisable e) k) S t := by
  refine struck_await.mpr ⟨fun a t' h => ?_, fun exc applied t' may strikes => ?_⟩
  · obtain ⟨rfl, rfl⟩ := seen_registryDisable h
    exact rest
  · obtain rfl : applied = false := ((injected _ _ may).registry rfl).2
    rw [strikes_lost.mp strikes]
    exact hit exc may

theorem struck_aside {k : Except Exn op.Ans → LifeM α} (aside : op.aside)
    (hit : ∀ exc applied, permitted sh ⟨op, exc, applied⟩ →
      CleanAt e (k (.error exc)) (S ⟨op, exc, applied⟩) t)
    (rest : ∀ x, StruckAt e permitted (k (.ok x)) S t) :
    StruckAt e permitted (.await sh op k) S t := by
  refine struck_await.mpr ⟨fun a t' h => ?_, fun exc applied t' may strikes => ?_⟩
  · obtain ⟨⟨x, rfl⟩, rfl⟩ := seen_aside h aside
    exact rest x
  · obtain rfl := strikes.elim (I := (· = t)) rfl fun _ h => (seen_aside h aside).2
    exact hit exc applied may

end Rules

/-! ## Requests that are not made -/

/-- The coroutine makes none of the requests. -/
abbrev Shuns {α : Type} (bad : LifeOp → Bool) (c : LifeM α) : Prop := c.Avoids fun op : LifeOp => bad op = true

section Shuns

variable {α : Type} {bad : LifeOp → Bool} {op : LifeOp} {f : op.Ans → LifeM α}

theorem shuns_life (h : bad op = false) : Shuns bad (life op) :=
  .perform fun made => Bool.false_ne_true (h.symm.trans made)

theorem shuns_then (h : bad op = false) (rest : ∀ x, Shuns bad (f x)) : Shuns bad (life op >>= f) :=
  .bind (shuns_life h) rest

theorem shuns_shield_then (h : bad op = false) (rest : ∀ x, Shuns bad (f x)) : Shuns bad ((life op).shield >>= f) :=
  .bind (.shield (shuns_life h)) rest

theorem shuns_suppress {c : LifeM α} (h : Shuns bad c) : Shuns bad (suppress c) := by
  refine .bind (.attempt h) fun r => ?_
  split <;> exact .done _

theorem shuns_requireState {record : ExtensionRecord} {allowed : List ExtensionState} {operation : String} :
    Shuns bad (requireState record allowed operation) :=
  .ite (.done _) (.done _)

end Shuns

end PersonalAssistant.Lifecycle
