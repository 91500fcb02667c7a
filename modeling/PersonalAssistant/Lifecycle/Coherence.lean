import PersonalAssistant.Lifecycle.Coordinator
import PersonalAssistant.Lifecycle.Part

/-!
# The store and the registry together

What a restart finds is the store; what it must not find is two enabled records that declare
one capability, for the registry could not be built from them. While the process runs, the
registry itself keeps enabled records apart: it publishes no two records with a capability in
common, and every record that is stored as enabled is published. An operation leaves that
state for a while, on its own extension only, and every record it then stores as enabled is
one the registry has just accepted.

The functions are reasoned about over the two books alone. The requests to the outside may
fail and be cancelled as they please; the store does not.
-/

namespace PersonalAssistant.Lifecycle

open Coro Coro.Prog Keyed

/-- The identifiers a record declares. -/
def ExtensionRecord.capabilities (record : ExtensionRecord) : List String := (declared record.manifest).map Prod.fst

variable {expected : Option (ExtensionState × String)} {records : List ExtensionRecord}

/-- A snapshot can be built exactly where no id comes twice and no capability does. -/
theorem build_ok_iff_apart : (∃ built, build records = .ok built) ↔
      (records.map ExtensionRecord.id).Nodup ∧ (∀ record ∈ records, record.capabilities.Nodup) ∧
      records.Pairwise fun a b => List.Disjoint a.capabilities b.capabilities := by
  rw [build_ok_iff, List.map_flatMap, List.nodup_flatMap]
  rfl

namespace Registry

variable {registry : Registry} {id id' : String} {record record' : ExtensionRecord}

theorem published_nodup (found : registry.extensions.get id = some record) : record.capabilities.Nodup :=
  (build_ok_iff_apart.mp ⟨_, registry.built⟩).2.1 record (mem_values_of_get found)

theorem published_apart (found : registry.extensions.get id = some record)
    (found' : registry.extensions.get id' = some record') (apart : id ≠ id') :
    List.Disjoint record.capabilities record'.capabilities := by
  have pairwise := (build_ok_iff_apart.mp ⟨_, registry.built⟩).2.2
  have symmetric : Std.Symm fun a b : ExtensionRecord => List.Disjoint a.capabilities b.capabilities :=
    ⟨fun _ _ disjoint => List.Disjoint.symm disjoint⟩
  refine pairwise.forall (mem_values_of_get found) (mem_values_of_get found') ?_
  rintro rfl
  exact apart ((key_of_get found).symm.trans (key_of_get found'))

end Registry

/-- The store and the registry. -/
structure Books where
  store : Published
  registry : Registry

/-- The books of a system. -/
def books (s : System) : Books := ⟨s.store, s.registry⟩

/-- How requests are answered, seen through the books. -/
abbrev bookAnswers : Answers LifePort Exn Books := seen books answers

namespace Books

variable {b : Books} {e id : String} {record record' : ExtensionRecord} {registry : Registry}

/-- The extension is stored as enabled with the record. -/
def Enabled (b : Books) (id : String) (record : ExtensionRecord) : Prop :=
  b.store.get id = some record ∧ record.state = .enabled

/-- What is stored as enabled is published, in the same version. -/
def Listed (b : Books) (id : String) : Prop :=
  ∀ record, b.Enabled id record → ∃ listed, b.registry.extensions.get id = some listed ∧
    listed.manifest = record.manifest

/-- Everything that is stored as enabled is published. -/
def Coherent (b : Books) : Prop := ∀ id, b.Listed id

/-- No two records stored as enabled declare one capability. -/
structure Consistent (b : Books) : Prop where
  own : ∀ id record, b.Enabled id record → record.capabilities.Nodup
  apart : ∀ id id' record record', id ≠ id' → b.Enabled id record → b.Enabled id' record' →
    List.Disjoint record.capabilities record'.capabilities

/-- The registry would accept the record of the extension. -/
structure Accepts (b : Books) (e : String) (record : ExtensionRecord) : Prop where
  own : record.capabilities.Nodup
  apart : ∀ id listed, id ≠ e → b.registry.extensions.get id = some listed →
    List.Disjoint record.capabilities listed.capabilities

/-- Where an operation on the extension may be: the others are published, and the registry
would accept what is stored as enabled of its own. -/
structure Safe (b : Books) (e : String) : Prop where
  others : ∀ id, id ≠ e → b.Listed id
  accepts : ∀ record, b.Enabled e record → b.Accepts e record

/-- The others are published, and the extension is not stored as enabled. -/
structure Idle (b : Books) (e : String) : Prop where
  others : ∀ id, id ≠ e → b.Listed id
  idle : ∀ record, ¬ b.Enabled e record

theorem capabilities_congr (same : record.manifest = record'.manifest) :
    record.capabilities = record'.capabilities := by
  rw [ExtensionRecord.capabilities, same]
  rfl

theorem Idle.safe (idle : b.Idle e) : b.Safe e := ⟨idle.others, fun record enabled => absurd enabled (idle.idle record)⟩

theorem Idle.coherent (idle : b.Idle e) : b.Coherent := by
  intro id record enabled
  by_cases own : id = e
  · subst own
    exact absurd enabled (idle.idle record)
  · exact idle.others id own record enabled

theorem Coherent.safe (coherent : b.Coherent) (e : String) : b.Safe e where
  others id _ := coherent id
  accepts record enabled := by
    obtain ⟨listed, found, same⟩ := coherent e record enabled
    refine ⟨?_, fun id other apart there => ?_⟩
    · rw [← capabilities_congr same]
      exact Registry.published_nodup found
    · rw [← capabilities_congr same]
      exact Registry.published_apart found there apart.symm

/-- Safe books are consistent. -/
theorem Safe.consistent (safe : b.Safe e) : b.Consistent where
  own id record enabled := by
    by_cases own : id = e
    · subst own
      exact (safe.accepts record enabled).own
    · obtain ⟨listed, found, same⟩ := safe.others id own record enabled
      rw [← capabilities_congr same]
      exact Registry.published_nodup found
  apart id id' record record' ne enabled enabled' := by
    by_cases own : id = e
    · subst own
      obtain ⟨listed, found, same⟩ := safe.others id' ne.symm record' enabled'
      rw [← capabilities_congr same]
      exact (safe.accepts record enabled).apart id' listed ne.symm found
    · obtain ⟨listed, found, same⟩ := safe.others id own record enabled
      rw [← capabilities_congr same]
      by_cases own' : id' = e
      · subst own'
        exact List.Disjoint.symm ((safe.accepts record' enabled').apart id listed ne found)
      · obtain ⟨listed', found', same'⟩ := safe.others id' own' record' enabled'
        rw [← capabilities_congr same']
        exact Registry.published_apart found found' ne

theorem Coherent.consistent (coherent : b.Coherent) : b.Consistent := (coherent.safe "").consistent

/-! ## What the requests do -/

/-- The record of the extension is replaced. -/
def save (b : Books) (record : ExtensionRecord) : Books := { b with store := b.store.put record }

theorem enabled_save_of_ne (ne : id ≠ record.id) : (b.save record).Enabled id record' ↔ b.Enabled id record' := by
  rw [Enabled, Enabled, save, get_put_of_ne ne]

theorem enabled_save_self :
    (b.save record).Enabled record.id record' ↔ record = record' ∧ record.state = .enabled := by
  rw [Enabled, save, get_put_self, Option.some.injEq]
  constructor
  · rintro ⟨rfl, state⟩
    exact ⟨rfl, state⟩
  · rintro ⟨rfl, state⟩
    exact ⟨rfl, state⟩

theorem listed_save_of_ne (ne : id ≠ record.id) (listed : b.Listed id) : (b.save record).Listed id :=
  fun record' enabled => listed record' ((enabled_save_of_ne ne).mp enabled)

theorem Safe.save_idle (safe : b.Safe e) (own : record.id = e) (state : record.state ≠ .enabled) :
    (b.save record).Idle e where
  others id ne := listed_save_of_ne (own ▸ ne) (safe.others id ne)
  idle _ enabled := state (enabled_save_self.mp (own ▸ enabled)).2

theorem Coherent.save_lower (coherent : b.Coherent) (state : record.state ≠ .enabled) : (b.save record).Coherent :=
  ((coherent.safe record.id).save_idle rfl state).coherent

theorem Safe.revoke (safe : b.Safe e) (erased : registry.extensions = b.registry.extensions.erase e) :
    Safe { b with registry := registry } e where
  others id ne record enabled := by
    obtain ⟨listed, found, same⟩ := safe.others id ne record enabled
    refine ⟨listed, ?_, same⟩
    rw [erased, get_erase_of_ne ne]
    exact found
  accepts record enabled := by
    refine ⟨(safe.accepts record enabled).own, fun id listed ne found => ?_⟩
    rw [erased, get_erase_of_ne ne] at found
    exact (safe.accepts record enabled).apart id listed ne found

theorem Idle.revoke (idle : b.Idle e) (erased : registry.extensions = b.registry.extensions.erase e) :
    Idle { b with registry := registry } e :=
  ⟨(idle.safe.revoke erased).others, idle.idle⟩

theorem Idle.publish (record : ExtensionRecord) (idle : b.Idle record.id)
    (put : registry.extensions = b.registry.extensions.put record) :
    Idle { b with registry := registry } record.id where
  others id ne record' enabled := by
    obtain ⟨listed, found, same⟩ := idle.others id ne record' enabled
    refine ⟨listed, ?_, same⟩
    rw [put, get_put_of_ne ne]
    exact found
  idle := idle.idle

theorem Idle.save_published {listed : ExtensionRecord} (record : ExtensionRecord) (idle : b.Idle record.id)
    (found : b.registry.extensions.get record.id = some listed) (same : listed.manifest = record.manifest) :
    (b.save record).Coherent := by
  intro id record' enabled
  by_cases own : id = record.id
  · subst own
    obtain ⟨rfl, -⟩ := enabled_save_self.mp enabled
    exact ⟨listed, found, same⟩
  · exact listed_save_of_ne own (idle.others id own) record' enabled

end Books

section Answers

variable {b b' : Books} {record : ExtensionRecord} {id : String}

theorem book_get {a : Except Exn (Option ExtensionRecord)} (h : bookAnswers b (.getRecord id) a b') :
    a = .ok (b.store.get id) ∧ b' = b := by
  obtain ⟨k, s, rfl, rfl, rfl⟩ := seen_effect h fun _ _ => rfl
  exact ⟨rfl, rfl⟩

theorem book_all {a : Except Exn (List ExtensionRecord)} (h : bookAnswers b .allRecords a b') :
    b' = b ∧ ∃ records, a = .ok records ∧ records.Perm b.store.values := by
  obtain ⟨k, s, rfl, rfl, rfl⟩ := seen_effect h fun _ _ => rfl
  exact ⟨rfl, _, rfl, (List.mergeSort_perm _ _).map _⟩

theorem book_save {a : Except Exn Bool} (h : bookAnswers b (.saveRecord record none) a b') :
    a = .ok true ∧ b' = b.save record := by
  obtain ⟨k, s, rfl, rfl, rfl⟩ := seen_effect h fun _ _ => rfl
  exact ⟨rfl, rfl⟩

theorem book_saveAny {a : Except Exn Bool}
    (h : bookAnswers b (.saveRecord record expected) a b') : b' = b ∨ b' = b.save record := by
  obtain ⟨k, s, rfl, rfl, -⟩ := seen_effect h fun _ _ => rfl
  unfold System.save
  repeat' split
  all_goals first | exact .inl rfl | exact .inr rfl

/-- A conditional save over the state and version it expects. -/
theorem book_saveExpected {a : Except Exn Bool} {current : ExtensionRecord}
    (h : bookAnswers b (.saveRecord record (some (current.state, current.manifest.version))) a b')
    (stored : b.store.get record.id = some current) : a = .ok true ∧ b' = b.save record := by
  obtain ⟨k, s, rfl, rfl, rfl⟩ := seen_effect h fun _ _ => rfl
  have found : s.store.get record.id = some current := stored
  simp [System.save, found, books, Books.save]

theorem book_enable {a : Except Exn Unit} (h : bookAnswers b (.registryEnable record) a b') :
    (a = .ok () ∧ ∃ registry, registry.extensions = b.registry.extensions.put record ∧
      b' = { b with registry := registry }) ∨
    ((∃ exc, a = .error exc) ∧ b' = b) := by
  obtain ⟨k, s, rfl, rfl, rfl⟩ := seen_effect h fun _ _ => rfl
  cases enabled : s.registry.enable record with
  | ok registry => exact .inl ⟨rfl, registry, (Registry.enable_eq_ok enabled).2, rfl⟩
  | error exc => exact .inr ⟨⟨exc, rfl⟩, rfl⟩

theorem book_disable {a : Except Exn Unit} (h : bookAnswers b (.registryDisable id) a b') :
    a = .ok () ∧ ∃ registry, registry.extensions = b.registry.extensions.erase id ∧
    b' = { b with registry := registry } := by
  obtain ⟨k, s, rfl, rfl, rfl⟩ := seen_effect h fun _ _ => rfl
  obtain ⟨registry, disabled, extensions⟩ := Registry.disable_ok s.registry id
  rw [disabled]
  exact ⟨rfl, registry, extensions, rfl⟩

theorem book_replaceAll {a : Except Exn Unit} (h : bookAnswers b (.registryReplaceAll records) a b') :
    (∃ registry, b.registry.replaceAll records = .ok registry ∧ a = .ok () ∧ b' = { b with registry := registry }) ∨
    (∃ exc, b.registry.replaceAll records = .error exc ∧ a = .error exc ∧ b' = b) := by
  obtain ⟨k, s, rfl, rfl, rfl⟩ := seen_effect h fun _ _ => rfl
  cases replaced : s.registry.replaceAll records with
  | ok registry => exact .inl ⟨registry, replaced, rfl, rfl⟩
  | error exc => exact .inr ⟨exc, replaced, rfl, rfl⟩

/-- The requests that change neither book. -/
def LifeOp.steady : LifeOp → Bool
  | .saveRecord _ _ | .registryEnable _ | .registryDisable _ | .registryReplaceAll _ => false
  | _ => true

theorem book_steady {op : LifeOp} {a : Except Exn op.Ans} (h : bookAnswers b op a b') (steady : op.steady) :
    b' = b := by
  obtain ⟨s, s', rfl, rfl, -, k, effect⟩ := h
  cases op <;> first
    | exact congrArg (fun x : _ × System => books x.2) effect
    | exact congrArg books effect
    | cases steady

end Answers

/-- The faults of the outside: a request to it fails, or is cancelled where no shield keeps
that away. -/
def outage (shielded : Bool) : Permitted LifePort Exn :=
  fun sh _ fault => fault.op.outside = true ∧ (shielded || sh → fault.exn ≠ .cancelled)

/-- The enabled records are apart at every request, and the run ends in `Q`. -/
abbrev Holds {α : Type} (shielded : Bool) (c : LifeM α) (Q : Except Exn α → Books → Prop) (b : Books) : Prop :=
  Anyhow bookAnswers (outage shielded) (fun b _ => b.Consistent) c Q b

section Holds

variable {α : Type} {e : String} {b : Books} {sh shielded : Bool} {op : LifeOp} {Q : Except Exn α → Books → Prop}
  {record : ExtensionRecord} {id : String} {c : LifeM α} {k : Except Exn op.Ans → LifeM α} {exc : Exn}

section

variable (consistent : b.Consistent)

include consistent

theorem holds_inside (inside : op.outside = false)
    (rest : ∀ a b', bookAnswers b op a b' → Holds shielded (k a) Q b') : Holds shielded (.await sh op k) Q b := by
  refine .await (fun a b' answered => ⟨consistent, rest a b' answered⟩) fun exc _ _ _ may _ => ?_
  cases inside.symm.trans may.1

theorem holds_get {k : Except Exn (Option ExtensionRecord) → LifeM α}
    (rest : Holds shielded (k (.ok (b.store.get id))) Q b) : Holds shielded (.await sh (.getRecord id) k) Q b := by
  refine holds_inside consistent rfl fun a b' answered => ?_
  obtain ⟨rfl, rfl⟩ := book_get answered
  exact rest

theorem holds_save {k : Except Exn Bool → LifeM α}
    (rest : Holds shielded (k (.ok true)) Q (b.save record)) :
    Holds shielded (.await sh (.saveRecord record none) k) Q b := by
  refine holds_inside consistent rfl fun a b' answered => ?_
  obtain ⟨rfl, rfl⟩ := book_save answered
  exact rest

theorem holds_registryEnable {k : Except Exn Unit → LifeM α}
    (published : ∀ registry, registry.extensions = b.registry.extensions.put record →
      Holds shielded (k (.ok ())) Q { b with registry := registry })
    (refused : ∀ exc, Holds shielded (k (.error exc)) Q b) :
    Holds shielded (.await sh (.registryEnable record) k) Q b := by
  refine holds_inside consistent rfl fun a b' answered => ?_
  rcases book_enable answered with ⟨rfl, registry, put, rfl⟩ | ⟨⟨exc, rfl⟩, rfl⟩
  · exact published registry put
  · exact refused exc

theorem holds_registryDisable {k : Except Exn Unit → LifeM α}
    (rest : ∀ registry, registry.extensions = b.registry.extensions.erase id →
      Holds shielded (k (.ok ())) Q { b with registry := registry }) :
    Holds shielded (.await sh (.registryDisable id) k) Q b := by
  refine holds_inside consistent rfl fun a b' answered => ?_
  obtain ⟨rfl, registry, erased, rfl⟩ := book_disable answered
  exact rest registry erased

end

theorem holds_steady (steady : op.steady) (consistent : b.Consistent)
    (rest : ∀ a, Holds shielded (k a) Q b) : Holds shielded (.await sh op k) Q b :=
  .each (I := (· = b)) (fun _ => consistent) rfl (fun _ _ answered => book_steady answered steady) fun a _ same =>
    same ▸ rest a

/-- Such a request where its failure is not caught. -/
theorem holds_ask {f : op.Ans → LifeM α} (steady : op.steady) (consistent : b.Consistent)
    (raised : ∀ exc, Q (.error exc) b) (rest : ∀ x, Holds shielded (f x) Q b) : Holds shielded (life op >>= f) Q b := by
  refine holds_steady steady consistent fun a => ?_
  cases a with
  | ok x => exact rest x
  | error exc => exact .done (raised exc)

/-- A request to the outside under a shield. -/
theorem holds_outside (outside : op.outside) (consistent : b.Consistent)
    (answered : ∀ x, Holds true (k (.ok x)) Q b) (failed : ∀ exc, exc ≠ .cancelled → Holds true (k (.error exc)) Q b) :
    Holds true (.await sh op k) Q b := by
  have steady : op.steady := by cases op <;> first | rfl | cases outside
  refine .await (fun a b' seen => ⟨consistent, ?_⟩) fun exc _ _ b' may strikes => ⟨consistent, ?_⟩
  · obtain rfl := book_steady seen steady
    obtain ⟨s, s', -, -, reliable⟩ := seen
    obtain ⟨x, rfl⟩ := reliable.answered outside
    exact answered x
  · obtain rfl := strikes.elim (I := (· = b)) rfl fun _ seen => book_steady seen steady
    exact failed exc (may.2 rfl)

/-- Its failure is suppressed. -/
theorem holds_suppress {k : Unit → LifeM α} (outside : op.outside) (consistent : b.Consistent)
    (rest : Holds true (k ()) Q b) : Holds true (suppress (life op) >>= k) Q b := by
  refine holds_outside outside consistent (fun _ => rest) fun exc calm => ?_
  cases exc <;> first | exact absurd rfl calm | exact rest

theorem holds_shield (h : Holds true c Q b) : Holds shielded c.shield Q b := by
  have same : (fun _ => outage shielded true) = outage true := by
    funext sh faults fault
    simp [outage]
  refine .shield ?_
  rw [same]
  exact h

/-! ## Functions that enable nothing -/

/-- A coroutine keeps what its changes of the books keep. -/
theorem holds_avoids {bad : LifeOp → Prop} {I : Books → Prop} (h : c.Avoids bad) (sound : ∀ {b}, I b → b.Consistent)
    (step : ∀ {b b'} (op : LifeOp) {a}, ¬ bad op → ¬ op.steady → bookAnswers b op a b' → I b → I b') (inv : I b) :
    Holds shielded c (fun _ => I) b := by
  induction c generalizing b with
  | done r => exact .done inv
  | await sh op k ih =>
    obtain ⟨here, rest⟩ := avoids_await.mp h
    by_cases steady : op.steady
    · exact holds_steady steady (sound inv) fun a => ih a (rest a) inv
    · have inside : op.outside = false := by cases op <;> first | rfl | exact absurd rfl steady
      exact holds_inside (sound inv) inside fun a b' answered => ih a (rest a) (step op here steady answered inv)

/-- The requests that may take the extension out of the idle state, or reach another one. -/
def LifeOp.lifts (e : String) : LifeOp → Bool
  | .saveRecord record _ => record.id ≠ e || record.state = .enabled
  | .registryDisable id => id ≠ e
  | .registryEnable _ | .registryReplaceAll _ => true
  | _ => false

/-- The coroutine leaves an idle extension idle. -/
abbrev Lowers {α : Type} (e : String) (c : LifeM α) : Prop := c.Avoids fun op : LifeOp => op.lifts e = true

theorem holds_lowers (h : Lowers e c) (idle : b.Idle e) : Holds shielded c (fun _ b' => b'.Idle e) b := by
  refine holds_avoids h (fun idle => idle.safe.consistent) (fun op a here steady answered idle => ?_) idle
  cases op with
  | saveRecord record expected =>
    have own : record.id = e ∧ record.state ≠ .enabled := by simpa [LifeOp.lifts] using here
    rcases book_saveAny answered with rfl | rfl
    · exact idle
    · exact idle.safe.save_idle own.1 own.2
  | registryDisable id =>
    obtain rfl : id = e := by simpa [LifeOp.lifts] using here
    obtain ⟨-, registry, erased, rfl⟩ := book_disable answered
    exact idle.revoke erased
  | registryEnable record => exact absurd rfl here
  | registryReplaceAll records => exact absurd rfl here
  | _ => exact absurd rfl steady

/-- A save of the extension's record in a state that is not enabled. -/
theorem lifts_save (own : record.id = e) (state : record.state ≠ .enabled) :
    (LifeOp.saveRecord record expected).lifts e = false := by
  simp [LifeOp.lifts, own, state]

theorem lifts_disable : (LifeOp.registryDisable e).lifts e = false := by
  simp [LifeOp.lifts]

theorem lowers_giveUp (own : record.id = e) : Lowers e (giveUp record exc) :=
  shuns_shield_then rfl fun _ => shuns_shield_then (lifts_save own nofun) fun _ => .done _

variable {allowed : List ExtensionState} {operation : String}

theorem lowers_takeOut (own : record.id = e) : Lowers e (takeOut e record) :=
  .bind shuns_requireState fun _ => shuns_then lifts_disable fun _ => shuns_then (lifts_save own nofun) fun _ =>
    shuns_then rfl fun _ => shuns_then rfl fun _ => shuns_then (lifts_save own nofun) fun _ => .done _

/-! ## The operations -/

theorem holds_bringUp (own : record.id = e) (idle : b.Idle e) :
    Holds shielded (bringUp (record.as .starting))
      (either (fun _ b' => b'.Idle e ∧ b'.registry.extensions.get e = some (record.as .enabled)) fun _ b' =>
        b'.Idle e) b := by
  have consistent := idle.safe.consistent
  refine holds_ask rfl consistent (fun _ => idle) fun _ => holds_ask rfl consistent (fun _ => idle) fun healthy => ?_
  cases healthy with
  | false => exact .done idle
  | true =>
    refine holds_registryEnable consistent (fun registry put => .done ?_) fun exc => .done idle
    subst own
    exact ⟨idle.publish (record.as .enabled) put, by rw [put]; exact get_put_self ..⟩

theorem holds_startAndPublish (own : record.id = e) (safe : b.Safe e) :
    Holds shielded (startAndPublish record) (fun _ b' => b'.Coherent) b := by
  refine holds_save safe.consistent ?_
  have idle : (b.save (record.as .starting)).Idle e := safe.save_idle own nofun
  refine .attempt_bind (holds_bringUp own idle) fun r b₁ brought => ?_
  cases r with
  | error exc => exact .mono (fun _ _ idle => idle.coherent) (holds_lowers (lowers_giveUp own) brought)
  | ok _ =>
    obtain ⟨idle, published⟩ := brought
    refine holds_save idle.safe.consistent (.done ?_)
    subst own
    exact idle.save_published (record.as .enabled) published rfl

theorem holds_require {f : ExtensionRecord → LifeM α} (consistent : b.Consistent)
    (rest : ∀ record, b.store.get e = some record → record.id = e → Holds shielded (f record) Q b)
    (raised : ∀ exc, Q (.error exc) b) : Holds shielded (require e >>= f) Q b := by
  refine holds_get consistent ?_
  cases stored : b.store.get e with
  | none => exact .done (raised _)
  | some record => exact rest record stored (key_of_get stored)

theorem holds_requireState {f : Unit → LifeM α}
    (rest : record.state ∈ allowed → Holds shielded (f ()) Q b) (raised : ∀ exc, Q (.error exc) b) :
    Holds shielded (requireState record allowed operation >>= f) Q b := by
  unfold requireState
  split_ifs with state
  · exact rest state
  · exact .done (raised _)

/-- Of a function that ends with a record of the extension: it leaves it idle. -/
abbrev Rests (e : String) : Except Exn ExtensionRecord → Books → Prop :=
  either (fun record b => b.Idle e ∧ record.id = e) fun _ b => b.Idle e

/-- The same, of one that may refuse to begin. -/
abbrev RestsOrRefuses (e : String) : Except Exn ExtensionRecord → Books → Prop :=
  either (fun record b => b.Idle e ∧ record.id = e) fun _ b => b.Coherent

theorem Rests.refuses {r : Except Exn ExtensionRecord} (rests : Rests e r b) : RestsOrRefuses e r b := by
  cases r with
  | ok _ => exact rests
  | error _ => exact rests.coherent

theorem holds_finishDisable {report : Option (List (String × Value))} {drainError : Option Exn} (own : record.id = e)
    (idle : b.Idle e) : Holds shielded (finishDisable record report drainError) (Rests e) b := by
  refine holds_steady rfl idle.safe.consistent fun stopped => ?_
  cases stopped with
  | error exc => exact .done idle
  | ok _ =>
    refine holds_save idle.safe.consistent ?_
    have idle : (b.save (record.as .disabled)).Idle e := idle.safe.save_idle own nofun
    split_ifs
    · exact .done idle
    · cases drainError with
      | some exc => exact .done idle
      | none => exact .done ⟨idle, own⟩

theorem holds_orElse {body : LifeM ExtensionRecord} {compensation : LifeM Unit}
    (done : Holds shielded body (fun _ b' => b'.Coherent) b)
    (back : ∀ {b'}, b'.Coherent → Holds true compensation (fun _ b'' => b''.Coherent) b') :
    Holds shielded (orElse body compensation) (fun _ b' => b'.Coherent) b := by
  refine .attempt_bind done fun r b' coherent => ?_
  cases r with
  | ok record => exact .done coherent
  | error exc => exact .bind (holds_shield (back coherent)) (fun _ _ coherent => .done coherent) fun _ _ => id

section Coherent

variable (coherent : b.Coherent)

include coherent

/-- `enable` and `recover`, which differ in the states they allow. -/
theorem holds_enable :
    Holds shielded (do
      let record ← require e
      let _ ← requireState record allowed operation
      startAndPublish record) (fun _ b' => b'.Coherent) b := by
  refine holds_require coherent.consistent (fun record _ own => ?_) fun _ => coherent
  exact holds_requireState (fun _ => holds_startAndPublish own (coherent.safe e)) fun _ => coherent

/-- `disable` leaves the extension idle, unless it refuses. -/
theorem holds_disable {deadline : Rat} :
    Holds shielded (disable e deadline) (RestsOrRefuses e) b := by
  refine holds_require coherent.consistent (fun record _ own => ?_) fun _ => coherent
  refine holds_requireState (fun _ => ?_) fun _ => coherent
  refine holds_registryDisable coherent.consistent fun registry erased => ?_
  have safe := (coherent.safe e).revoke erased
  refine holds_save safe.consistent (.mono (fun _ _ => Rests.refuses) ?_)
  have idle : ({ b with registry := registry }.save (record.as .draining) : Books).Idle e := safe.save_idle own nofun
  have mine : (record.as .draining).id = e := own
  refine holds_steady rfl idle.safe.consistent fun drained => ?_
  cases drained with
  | ok report =>
    show Holds shielded (finishDisable (record.as .draining) report none) _ _
    exact holds_finishDisable mine idle
  | error exc =>
    show Holds shielded (if _ then _ else if _ then _ else _) _ _
    split_ifs
    · exact holds_finishDisable mine idle
    · exact holds_finishDisable mine idle
    · refine holds_steady rfl idle.safe.consistent fun stopped => ?_
      cases stopped <;> exact .done idle

theorem holds_standDown (stored : b.store.get e = some record) (own : record.id = e) :
    Holds shielded (standDown e record) (RestsOrRefuses e) b := by
  unfold standDown
  split_ifs with state
  · exact holds_ask rfl coherent.consistent (fun _ => coherent) fun _ => holds_disable coherent
  · refine .done ⟨⟨fun id _ => coherent id, fun other enabled => ?_⟩, own⟩
    cases stored.symm.trans enabled.1
    exact state enabled.2

theorem holds_uninstall : Holds shielded (uninstall e) (fun _ b' => b'.Coherent) b := by
  refine holds_require coherent.consistent (fun found stored own => ?_) fun _ => coherent
  refine .bind (holds_standDown coherent stored own) (fun record b₁ rests => ?_) fun _ _ => id
  exact .mono (fun _ _ idle => idle.coherent) (holds_lowers (lowers_takeOut rests.2) rests.1)

/-- A compensation: the original is put back, then started again. -/
theorem holds_compensate {original other : ExtensionRecord} {state : ExtensionState} (idleState : state ≠ .enabled) :
    Holds true (compensate original other state) (fun _ b' => b'.Coherent) b := by
  refine holds_registryDisable coherent.consistent fun registry erased => ?_
  have safe := (coherent.safe original.id).revoke erased
  refine holds_suppress rfl safe.consistent ?_
  refine holds_save safe.consistent ?_
  have coherent : ({ b with registry := registry }.save (original.as state) : Books).Coherent :=
    (safe.save_idle (by rfl) idleState).coherent
  unfold reopen
  split_ifs
  · refine .attempt_bind (holds_enable coherent) fun r b' coherent => ?_
    cases r with
    | ok _ => exact .done coherent
    | error exc => cases exc <;> exact .done coherent
  · exact .done coherent

/-- `upgrade` keeps the books coherent. -/
theorem holds_upgrade {candidate : ExtensionRecord} :
    Holds shielded (upgrade e candidate) (fun _ b' => b'.Coherent) b := by
  refine holds_require coherent.consistent (fun original stored own => ?_) fun _ => coherent
  refine holds_requireState (fun _ => ?_) fun _ => coherent
  split_ifs with other state
  · exact .done coherent
  · exact .done coherent
  · refine holds_orElse ?_ fun coherent => holds_compensate coherent nofun
    refine .bind (holds_standDown coherent stored own) (fun current b₁ rests => ?_) fun _ _ => id
    obtain ⟨idle, mine⟩ := rests
    refine holds_save idle.safe.consistent ?_
    replace idle : (b₁.save (current.as .upgrading)).Idle e := idle.safe.save_idle mine nofun
    refine holds_ask rfl idle.safe.consistent (fun _ => idle.coherent) fun _ => holds_save idle.safe.consistent ?_
    have coherent : ((b₁.save (current.as .upgrading)).save (candidate.as .disabled)).Coherent :=
      idle.coherent.save_lower nofun
    split_ifs
    · exact holds_enable coherent
    · exact .done coherent

theorem holds_rollback : Holds shielded (rollback e) (fun _ b' => b'.Coherent) b := by
  refine holds_require coherent.consistent (fun original stored own => ?_) fun _ => coherent
  refine holds_requireState (fun _ => ?_) fun _ => coherent
  refine holds_ask rfl coherent.consistent (fun _ => coherent) fun restored => ?_
  split_ifs with other
  · exact .done coherent
  · refine holds_orElse ?_ fun coherent => holds_compensate coherent nofun
    refine .bind (holds_standDown coherent stored own) (fun current b₁ rests => ?_) fun _ _ => id
    refine holds_save rests.1.safe.consistent ?_
    have coherent : (b₁.save (restored.as .rolledBack)).Coherent := rests.1.coherent.save_lower nofun
    split_ifs
    · exact holds_startAndPublish (not_not.mp other) (coherent.safe e)
    · exact .done coherent

theorem holds_preparePurge : Holds shielded (preparePurge e) (fun _ b' => b'.Coherent) b := by
  have consistent := coherent.consistent
  have raised : ∀ exc : Exn, b.Coherent := fun _ => coherent
  refine holds_require consistent (fun record _ _ => holds_requireState (fun _ => ?_) raised) raised
  refine holds_ask rfl consistent raised fun _ => holds_ask rfl consistent raised fun _ => ?_
  exact holds_ask rfl consistent raised fun _ => holds_ask rfl consistent raised fun _ => .done coherent

theorem holds_purge {confirmation : PurgeConfirmation} :
    Holds shielded (purge e confirmation) (fun _ b' => b'.Coherent) b := by
  have consistent := coherent.consistent
  have raised : ∀ exc : Exn, b.Coherent := fun _ => coherent
  refine holds_ask rfl consistent raised fun preview => ?_
  cases preview with
  | none => exact .done coherent
  | some preview =>
    show Holds shielded (if _ then _ else _) _ _
    split_ifs
    · exact .done coherent
    refine holds_require consistent (fun record _ _ => holds_requireState (fun state => ?_) raised) raised
    refine holds_ask rfl consistent raised fun _ => holds_ask rfl consistent raised fun _ => ?_
    refine holds_save consistent (.done (coherent.save_lower ?_))
    rw [List.mem_singleton.mp state]
    exact nofun

theorem holds_recordOperation {kind : String} {code : Option String} :
    Holds shielded (recordOperation e kind code) (fun _ b' => b'.Coherent) b := by
  refine holds_steady rfl coherent.consistent fun a => ?_
  cases a with
  | ok _ => exact .done coherent
  | error exc => cases exc <;> exact .done coherent

/-- A quarantine revokes the registration and stores the record as quarantined, for nothing
else happens to the extension in between. -/
theorem holds_quarantine {version : String} :
    Holds shielded (quarantine e version exc) (fun _ b' => b'.Coherent) b := by
  refine holds_get coherent.consistent ?_
  show Holds shielded (if _ then _ else _) _ _
  split_ifs with owned
  · refine holds_registryDisable coherent.consistent fun registry erased => ?_
    have safe := (coherent.safe e).revoke erased
    refine holds_get safe.consistent ?_
    cases stored : b.store.get e with
    | none =>
      rw [stored] at owned
      cases owned
    | some record =>
      have owns : ownsFailure version record := by simpa [stored] using owned
      have known : record.state = .enabled ∧ record.manifest.version = version := of_decide_eq_true owns
      show Holds shielded (if ownsFailure version record then demote e record exc else restore (some record)) _ _
      rw [if_pos owns]
      have own : record.id = e := key_of_get stored
      have idle : ({ b with registry := registry }.save (record.as .quarantined) : Books).Idle e :=
        safe.save_idle own nofun
      refine holds_inside safe.consistent rfl fun a b' answered => ?_
      rw [← known.1] at answered
      obtain ⟨rfl, rfl⟩ := book_saveExpected answered (by rw [← stored, ← own]; rfl)
      exact holds_recordOperation idle.coherent
  · exact .done coherent

end Coherent

end Holds

end PersonalAssistant.Lifecycle
