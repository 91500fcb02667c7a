import PersonalAssistant.Browser.Detection
import PersonalAssistant.Browser.Sessions

/-!
# An operation with no concurrent writer

`execute_navigation`, `execute_fill` and `execute_submit` while nobody else writes to the stores.
A page read in the middle of one of them saves the session if the page reports another URL or
another login state, and the operation goes on with its older copy: its next save fails the
version check. As long as the pages stay where the session says they are (the landing page of a
navigation apart, after which the session is read again), every save of the operation succeeds,
and what it detects is stored.
-/

namespace PersonalAssistant

open Coro Coro.Prog BrowserSessionBroker List

/-- What is kept of a run: the exceptions that requests raised, the path that a navigation
action opens, and whether the page was filled and a preview begun. -/
structure Log where
  raised : List Exn := []
  opening : Option String := none
  filled : Bool := false
  previewed : Bool := false

/-- The log after an event. A nonce is drawn only for the preview of values that were verified. -/
def Log.after (log : Log) (e : BrowserEvent) : Log :=
  match e with
  | ⟨_, .error raised⟩ => { log with raised := raised :: log.raised }
  | ⟨.activate _ _ expectedPath, .ok _⟩ => { log with opening := some expectedPath }
  | ⟨.fill _ _, .ok _⟩ => { log with filled := true }
  | ⟨.newNonce, .ok _⟩ => { log with previewed := true }
  | _ => log

/-- The page reports the URL and the login state of the session. -/
def Stays (host : BrowserHost) (record : BrowserSessionRecord) (answer : Value) : Prop :=
  (answer.get? "url").getD (.str "") = .str record.url ∧ host.originOf record.url = .ok record.origin ∧
    stateAfterRead record.state ((answer.get? "login_page").getD (.bool false)).truthy = record.state

/-- The page reports a URL with the path that was opened. -/
def Lands (host : BrowserHost) (path : String) (answer : Value) : Prop :=
  ∃ url, (answer.get? "url").getD (.str "") = .str url ∧ host.navigationPath url = .ok path

/-- The page is at the origin the plan expects and shows what the plan was made of, as the
adapter of the plan reads it. -/
def FitsPlan (broker : BrowserSessionBroker) (plan : FillPlan) (registered : BrowserAdapterRecord) (answer : Value) :
    Prop :=
  registered.adapterId = plan.adapterId → registered.adapterVersion = plan.adapterVersion →
    ∀ page fields, broker.readPage (some registered.descriptor) answer = .ok page →
      broker.pageFields (some registered.descriptor) page.controls = .ok fields →
      page.decision.origin = plan.expectedOrigin ∧ Fits plan registered.descriptor fields

/-- What the pages of a run are asked for. -/
def Meets (broker : BrowserSessionBroker) (plan : Option FillPlan) (store : BrowserStore) (log : Log) :
    BrowserEvent → Prop
  | ⟨.snapshot sessionId _ _ _, .ok answer⟩ =>
    (∀ record, store.get sessionId = some record →
      Stays broker.host record answer ∨ ∃ path, log.opening = some path ∧ Lands broker.host path answer) ∧
    (log.filled = false → ∀ expected, plan = some expected → ∀ registered ∈ store.adapters,
      FitsPlan broker expected registered answer)
  | ⟨.newNonce, .ok nonce⟩ => nonce ≠ ""
  | _ => True

/-- The stores answer for themselves, the companion answers as it is asked for. -/
def undisturbed (broker : BrowserSessionBroker) (plan : Option FillPlan) :
    Handler BrowserPort Exn (BrowserStore × Log) :=
  fun sh s op a s' => ghost Log.after browserWorld.reliable sh s op a s' ∧ Meets broker plan s.1 s.2 ⟨op, a⟩

/-- Every registered adapter was accepted. -/
def Accepted (host : BrowserHost) (store : BrowserStore) : Prop :=
  ∀ registered ∈ store.adapters, ∃ allowedOrigins mode,
    host.validateAdapterDescriptor allowedOrigins mode registered.descriptor = .ok ()

/-- A save that passes the version check. -/
def SaveOk : BrowserEvent → Prop
  | ⟨.saveSession _ _, a⟩ => ∃ stored, a = .ok stored
  | _ => True

/-- The stored session is SAFETY_PAUSED. -/
def Paused (store : BrowserStore) (sessionId : String) : Prop :=
  ∃ record, store.get sessionId = some record ∧ record.state = .safetyPaused

/-- An operation that raises has begun no preview, and what it detected itself is stored. -/
def EndsSafe (sessionId : String) (e : Exn) (s : BrowserStore × Log) : Prop :=
  s.2.previewed = false ∧ (e.detects → e ∈ s.2.raised ∨ Paused s.1 sessionId)

/-- A part of an operation: its saves succeed, and it ends with a value in `S` or safely. -/
abbrev Alone {α : Type} (broker : BrowserSessionBroker) (plan : Option FillPlan) (sessionId : String) (c : BrowserM α)
    (S : α → BrowserStore × Log → Prop) (s : BrowserStore × Log) : Prop :=
  wp (undisturbed broker plan) (fun _ e => SaveOk e) c (either S (EndsSafe sessionId)) s

namespace Alone

variable {α β : Type} {broker : BrowserSessionBroker} {plan : Option FillPlan} {sessionId : String}
  {s : BrowserStore × Log} {record : BrowserSessionRecord} {S : α → BrowserStore × Log → Prop}
  {R : β → BrowserStore × Log → Prop} {f : α → BrowserM β} {x : Except Exn α} {e : Exn} {action : AdapterActionSpec}
  {c : BrowserM α} {answer : Value} {page : RawPage} {a : α}

/-! ## Requests -/

/-- The part runs alone if no preview was begun before it. -/
abbrev Opens (broker : BrowserSessionBroker) (plan : Option FillPlan) (sessionId : String) (c : BrowserM α)
    (S : α → BrowserStore × Log → Prop) (s : BrowserStore × Log) : Prop :=
  s.2.previewed = false → Alone broker plan sessionId c S s

/-- And it begins none itself. -/
abbrev Early (broker : BrowserSessionBroker) (plan : Option FillPlan) (sessionId : String) (c : BrowserM α)
    (S : α → BrowserStore × Log → Prop) (s : BrowserStore × Log) : Prop :=
  Opens broker plan sessionId c (fun a s' => s'.2.previewed = false ∧ S a s') s

theorem endsSafe_harmless (unpreviewed : s.2.previewed = false) (h : e.detects = false) : EndsSafe sessionId e s := by
  refine ⟨unpreviewed, fun detects => ?_⟩
  rw [h] at detects
  cases detects

theorem unpreviewed_of_ends {r : Except Exn α}
    (ends : either (fun a s' => s'.2.previewed = false ∧ S a s') (EndsSafe sessionId) r s) : s.2.previewed = false := by
  cases r <;> exact ends.1

theorem pure_ (h : S a s) : Early broker plan sessionId (pure a) S s := fun unpreviewed => wp.pure ⟨unpreviewed, h⟩

theorem raise_ (h : e.detects = false) : Opens broker plan sessionId (raise e) S s :=
  fun unpreviewed => wp.raise (endsSafe_harmless unpreviewed h)

theorem bind_
    (first : Early broker plan sessionId c S s) (rest : ∀ a s', S a s' → Opens broker plan sessionId (f a) R s') :
    Opens broker plan sessionId (c >>= f) R s :=
  fun unpreviewed => wp_either_bind (first unpreviewed) fun a s' h => rest a s' h.2 h.1

theorem mono_ {R : α → BrowserStore × Log → Prop} (first : Early broker plan sessionId c S s)
    (h : ∀ a s', S a s' → R a s') : Early broker plan sessionId c R s :=
  fun unpreviewed => wp_either_mono (first unpreviewed) fun a s' ends => ⟨ends.1, h a s' ends.2⟩

theorem ofExcept_bind (harmless : Harmless x)
    (rest : ∀ a, x = .ok a → Opens broker plan sessionId (f a) R s) :
    Opens broker plan sessionId (ofExcept x >>= f) R s :=
  fun unpreviewed => wp_ofExcept_bind (fun a ok => rest a ok unpreviewed)
    fun e raised => endsSafe_harmless unpreviewed (harmless e raised)

theorem ok_bind (ok : x = .ok a)
    (rest : Opens broker plan sessionId (f a) R s) : Opens broker plan sessionId (ofExcept x >>= f) R s :=
  fun unpreviewed => wp_ok_bind ok (rest unpreviewed)

theorem ofExcept_ (harmless : Harmless x) (ok : ∀ a, x = .ok a → S a s) :
    Early broker plan sessionId (ofExcept x) S s := by
  refine fun unpreviewed => wp.ofExcept ?_
  cases x with
  | ok a => exact ⟨unpreviewed, ok a rfl⟩
  | error e => exact endsSafe_harmless unpreviewed (harmless e rfl)

theorem ite_ {p : Prop} [Decidable p] {d : BrowserM α} (hc : p → Opens broker plan sessionId c S s)
    (hd : ¬ p → Opens broker plan sessionId d S s) : Opens broker plan sessionId (if p then c else d) S s :=
  fun unpreviewed => wp.ite ⟨fun h => hc h unpreviewed, fun h => hd h unpreviewed⟩

/-- The requests that the stores do not answer; a nonce apart. -/
def outside : BrowserOp → Bool
  | .now | .newId | .interrupted | .expired | .openPage _ _ _ _ | .closePage _ | .cancelPage _ | .navigate _ _ _
  | .snapshot _ _ _ _ | .fill _ _ | .activate _ _ _ | .collectMatches _ _ _ _ | .click _ _ => true
  | _ => false

/-- A request to the companion or the clock; if it raises, that is in the log. -/
theorem outside_web {op : BrowserOp} (asked : outside op) {S : op.Ans → BrowserStore × Log → Prop}
    (ok : ∀ x, Meets broker plan s.1 s.2 ⟨op, .ok x⟩ → S x (s.1, s.2.after ⟨op, .ok x⟩)) :
    Early broker plan sessionId (web op) S s := by
  refine fun unpreviewed => wp.perform ?_
  rintro a ⟨store', log'⟩ ⟨⟨⟨-, k, effect⟩, logged⟩, meets⟩
  have saves : SaveOk (⟨op, a⟩ : BrowserEvent) := by cases op <;> trivial
  have still : store' = s.1 := by cases op <;> first | exact effect | cases asked
  subst still
  obtain rfl : log' = s.2.after ⟨op, a⟩ := logged
  refine ⟨saves, ?_⟩
  cases a with
  | ok x => exact ⟨by cases op <;> first | (exact unpreviewed) | (cases asked), ok x meets⟩
  | error e => exact ⟨unpreviewed, fun _ => .inl mem_cons_self⟩

theorem now_bind {f : Time → BrowserM β} {Q : Except Exn β → BrowserStore × Log → Prop}
    (rest : ∀ now, wp (undisturbed broker plan) (fun _ e => SaveOk e) (f now) Q s) :
    wp (undisturbed broker plan) (fun _ e => SaveOk e) (web .now >>= f) Q s := by
  refine wp.bind (wp.perform ?_)
  rintro a ⟨store', log'⟩ ⟨⟨⟨answered, k, effect⟩, logged⟩, -⟩
  obtain ⟨now, rfl⟩ := answered rfl
  obtain rfl : store' = s.1 := effect
  obtain rfl : log' = s.2 := logged
  exact ⟨trivial, rest now⟩

theorem now_ {f : Time → BrowserM α} (rest : ∀ now, Opens broker plan sessionId (f now) S s) :
    Opens broker plan sessionId (web .now >>= f) S s :=
  fun unpreviewed => now_bind fun now => rest now unpreviewed

/-- The copy in hand is the stored session. -/
structure Held (s : BrowserStore × Log) (sessionId : String) (record : BrowserSessionRecord) : Prop where
  session : record.sessionId = sessionId
  stored : s.1.get sessionId = some record

/-- What a part leaves as it was. -/
structure Kept (s s' : BrowserStore × Log) : Prop where
  adapters : s'.1.adapters = s.1.adapters
  opening : s'.2.opening = s.2.opening
  filled : s'.2.filled = s.2.filled
  previewed : s'.2.previewed = s.2.previewed

theorem Kept.refl (s : BrowserStore × Log) : Kept s s := ⟨rfl, rfl, rfl, rfl⟩

theorem Kept.trans {s' s'' : BrowserStore × Log} (h : Kept s s') (h' : Kept s' s'') : Kept s s'' :=
  ⟨h'.adapters.trans h.adapters, h'.opening.trans h.opening, h'.filled.trans h.filled, h'.previewed.trans h.previewed⟩

theorem get_put {store : BrowserStore} {current stored : BrowserSessionRecord}
    (found : store.get stored.sessionId = some current) : (store.put stored).get stored.sessionId = some stored :=
  find?_map_set found

/-- **A save of the current copy succeeds.** -/
theorem save_succeeds {copy updated : BrowserSessionRecord} (held : Held s sessionId copy)
    (same : updated.sessionId = copy.sessionId) (version : updated.version = copy.version) :
    wp (undisturbed broker plan) (fun _ e => SaveOk e) (save updated) (fun r s' => ∃ stored, r = .ok stored ∧
      Held s' sessionId stored ∧ Kept s s' ∧
      ∃ clock, stored = { updated with version := updated.version + 1, updatedAt := clock }) s := by
  have named : updated.sessionId = sessionId := same.trans held.session
  have found : s.1.get updated.sessionId = some copy := by
    rw [named]
    exact held.stored
  refine wp.perform ?_
  rintro a ⟨store', log'⟩ ⟨⟨⟨-, clock, effect⟩, logged⟩, -⟩
  have saved : (a, store') = s.1.save clock updated updated.version := effect
  rw [BrowserStore.save, found] at saved
  simp only [version, ne_eq, not_true_eq_false, if_false] at saved
  cases saved
  obtain rfl : log' = s.2 := logged
  refine ⟨⟨_, rfl⟩, _, rfl, ⟨named, ?_⟩, ⟨rfl, rfl, rfl, rfl⟩, clock, by rw [version]⟩
  rw [← named]
  exact get_put (show s.1.get { updated with version := copy.version + 1, updatedAt := clock }.sessionId =
    some copy from found)

/-- What a save that succeeds leaves. -/
theorem of_succeeds {c : BrowserM BrowserSessionRecord} {P : BrowserSessionRecord → Prop}
    (h : wp (undisturbed broker plan) (fun _ e => SaveOk e) c
      (fun r s' => ∃ stored, r = .ok stored ∧ Held s' sessionId stored ∧ Kept s s' ∧ P stored) s) :
    Early broker plan sessionId c (fun stored s' => Held s' sessionId stored ∧ Kept s s' ∧ P stored) s := by
  refine fun unpreviewed => wp_mono (fun r s' ends => ?_) h
  obtain ⟨stored, rfl, held, kept, rest⟩ := ends
  exact ⟨kept.previewed.trans unpreviewed, held, kept, rest⟩

/-- The next state is one that `_replace_state` accepts. -/
abbrev Enters (record : BrowserSessionRecord) (target : BrowserSessionState) : Prop :=
  target = record.state ∨ target ∈ record.state.allowedTransitions

/-- The session may still be paused. -/
abbrev Pausable (record : BrowserSessionRecord) : Prop := .safetyPaused ∈ record.state.allowedTransitions

variable {target : BrowserSessionState} {code extensionId adapterId transactionId : String}
  {descriptor : TransactionAdapterDescriptor} {snapshot : PageSnapshot} {expected : FillPlan}

theorem replaceState_enters (enters : Enters record target) (now : Time) :
    record.replaceState target now = .ok { record with state := target, updatedAt := now } := by
  unfold BrowserSessionRecord.replaceState ensureBrowserTransition
  by_cases same : target = record.state
  · rw [if_neg (not_not.mpr same)]
    rfl
  · rw [if_pos same, if_pos (enters.resolve_left same)]
    rfl

theorem saveState_succeeds {update : BrowserSessionRecord → BrowserSessionRecord}
    (held : Held s sessionId record) (enters : Enters record target)
    (keeps : ∀ r, (update r).sessionId = r.sessionId ∧ (update r).version = r.version) :
    wp (undisturbed broker plan) (fun _ e => SaveOk e) (saveState record target update)
      (fun r s' => ∃ stored, r = .ok stored ∧
      Held s' sessionId stored ∧ Kept s s' ∧
      ∃ now clock, stored = { update { record with state := target, updatedAt := now } with
        version := record.version + 1, updatedAt := clock }) s := by
  refine now_bind fun now => wp_ok_bind (replaceState_enters enters now) ?_
  have kept := keeps { record with state := target, updatedAt := now }
  refine wp_mono ?_ (save_succeeds held kept.1 kept.2)
  rintro r s' ⟨stored, rfl, held', kept', clock, rfl⟩
  exact ⟨_, rfl, held', kept', now, clock, by rw [kept.2]⟩

theorem pauseAndRaise_ (held : Held s sessionId record) (pausable : Pausable record) :
    Opens broker plan sessionId (pauseAndRaise record code e) S s := by
  refine bind_ (S := fun _ s' => Paused s'.1 sessionId) (ite_ (fun paused => ?_) fun _ => ?_) ?_
  · exact pure_ ⟨record, held.stored, paused⟩
  · refine bind_ (of_succeeds <| saveState_succeeds held (.inr pausable) fun _ => ⟨rfl, rfl⟩) ?_
    rintro stored s' ⟨held', -, now, clock, rfl⟩
    exact pure_ ⟨_, held'.stored, rfl⟩
  · rintro _ s' paused unpreviewed
    exact wp.raise ⟨unpreviewed, fun _ => .inr paused⟩

theorem failAndRaise_ (held : Held s sessionId record)
    (failable : .failed ∈ record.state.allowedTransitions) (harmless : e.detects = false) :
    Opens broker plan sessionId (failAndRaise record code e) S s := by
  refine ite_ (fun _ => raise_ harmless) fun _ => ?_
  exact bind_ (of_succeeds <| saveState_succeeds held (.inr failable) fun _ => ⟨rfl, rfl⟩) fun _ _ _ => raise_ harmless

/-! ## Reading the session and its adapter -/

theorem store_web (op : BrowserOp) {x : op.Ans} (own : ∀ k, browserWorld.effect k s.1 op = some (.ok x, s.1))
    (saves : SaveOk (⟨op, .ok x⟩ : BrowserEvent)) (quiet : s.2.after ⟨op, .ok x⟩ = s.2)
    {S : op.Ans → BrowserStore × Log → Prop}
    (h : S x s) : Early broker plan sessionId (web op) S s := by
  refine fun unpreviewed => wp.perform ?_
  rintro a ⟨store', log'⟩ ⟨⟨⟨-, k, effect⟩, logged⟩, -⟩
  rw [own k] at effect
  cases effect
  obtain rfl : log' = s.2 := (show log' = s.2.after ⟨op, .ok x⟩ from logged).trans quiet
  exact ⟨saves, unpreviewed, h⟩

/-- The cancellation of an expired session. -/
theorem expire_ (held : Held s sessionId record) (expirable : record.state.expirable) :
    Early broker plan sessionId (expire record code) (fun record' s' => Held s' sessionId record' ∧ Kept s s') s := by
  refine ite_ (fun _ => pure_ ⟨held, .refl s⟩) fun _ unpreviewed => ?_
  have cancellable : Enters record .cancelled := by
    revert expirable
    unfold Enters
    cases record.state <;> decide
  have closed : wp (undisturbed broker plan) (fun _ e => SaveOk e) (web (.closePage record.sessionId))
      (fun _ s' => s'.1 = s.1 ∧ Kept s s') s := by
    refine wp.perform ?_
    rintro a ⟨store', log'⟩ ⟨⟨⟨-, k, effect⟩, logged⟩, -⟩
    obtain rfl : store' = s.1 := effect
    obtain rfl : log' = s.2.after ⟨.closePage record.sessionId, a⟩ := logged
    cases a <;> exact ⟨trivial, rfl, rfl, rfl, rfl, rfl⟩
  refine wp.tried closed fun outcome s' after => ?_
  obtain ⟨same, kept⟩ := after
  have held' : Held s' sessionId record := ⟨held.session, same ▸ held.stored⟩
  split
  · exact raise_ rfl (kept.previewed.trans unpreviewed)
  · refine mono_ (of_succeeds <| saveState_succeeds held' cancellable fun _ => ⟨rfl, rfl⟩) ?_
      (kept.previewed.trans unpreviewed)
    rintro stored s'' ⟨held'', kept', -⟩
    exact ⟨held'', kept.trans kept'⟩

theorem getSession_ : Early broker plan sessionId (getSession sessionId extensionId)
      (fun record s' => Held s' sessionId record ∧ Kept s s') s := by
  have read : Early broker plan sessionId (web (.getSession sessionId))
      (fun found s' => s' = s ∧ found = s.1.get sessionId) s :=
    store_web (.getSession sessionId) (fun _ => rfl) trivial rfl ⟨rfl, rfl⟩
  refine bind_ read ?_
  rintro found s' ⟨rfl, stored⟩
  cases found with
  | none => exact raise_ rfl
  | some record =>
    have held : Held s' sessionId record := ⟨(BrowserStore.get_mem stored.symm).2, stored.symm⟩
    refine ite_ (fun _ => raise_ rfl) fun _ => ite_ (fun expirable => now_ fun now => ?_) fun _ => ?_
    · exact ite_ (fun _ => expire_ held expirable) fun _ => pure_ ⟨held, .refl s'⟩
    · exact pure_ ⟨held, .refl s'⟩

theorem requireActive_ : Early broker plan sessionId (requireActive record) (fun _ s' => s' = s) s := by
  refine ite_ (fun _ => raise_ rfl) fun _ => ite_ (fun _ => now_ fun now => ?_) fun _ => pure_ rfl
  exact ite_ (fun _ => raise_ rfl) fun _ => pure_ rfl

/-- The adapter that is looked up is one that was registered. -/
theorem requireAdapterFor_ {adapterVersion : String} :
    Early broker plan sessionId (requireAdapterFor record adapterId adapterVersion) (fun descriptor s' => s' = s ∧
      ∃ registered ∈ s.1.adapters, registered.descriptor = descriptor ∧
        (adapterVersion ≠ "" → registered.adapterId = adapterId ∧ registered.adapterVersion = adapterVersion)) s := by
  refine ite_ (fun _ => raise_ rfl) fun _ => ite_ (fun _ => raise_ rfl) fun _ => ?_
  refine bind_ (S := fun found s' => s' = s ∧ ∀ registered, found = some registered →
      registered ∈ s.1.adapters ∧
        (adapterVersion ≠ "" → registered.adapterId = adapterId ∧ registered.adapterVersion = adapterVersion))
    (ite_ (fun _ => ?_) fun unversioned => ?_) ?_
  · refine store_web (.getAdapter _ _ _) (fun _ => rfl) trivial rfl ⟨rfl, fun registered found => ?_⟩
    have mem := mem_of_find?_eq_some found
    have matched := List.find?_some found
    rw [decide_eq_true_eq] at matched
    refine ⟨mem, fun versioned => ⟨matched.2.1, ?_⟩⟩
    rw [matched.2.2, if_neg versioned]
  · have versionless : adapterVersion = "" := by
      by_contra versioned
      rw [if_neg versioned] at unversioned
      exact unversioned versioned
    refine bind_ (S := fun items s' => s' = s ∧ items = s.1.listAdapters record.extensionId)
      (store_web (.listAdapters _) (fun _ => rfl) trivial rfl ⟨rfl, rfl⟩) ?_
    rintro items s' ⟨rfl, rfl⟩
    refine pure_ ⟨rfl, fun registered found => ⟨?_, fun versioned => absurd versionless versioned⟩⟩
    have listed := mem_of_mem_filter (Custody.latestAdapter_mem found)
    exact mem_of_mem_filter ((mem_insertionSort _).mp listed)
  · rintro found s' ⟨rfl, resolved⟩
    cases found with
    | none => exact raise_ rfl
    | some registered =>
      obtain ⟨mem, matched⟩ := resolved registered rfl
      exact ite_ (fun _ => raise_ rfl) fun _ => pure_ ⟨rfl, registered, mem, rfl, matched⟩

/-! ## Reading the page -/

/-- What is read of an answer before the page is judged. -/
theorem readPage_ok {adapter : TransactionAdapterDescriptor} (ok : broker.readPage (some adapter) answer = .ok page) :
    page.raw = answer ∧ (answer.get? "url").getD (.str "") = .str page.url ∧
      broker.evaluate adapter.adapterPaths page.url = .ok page.decision := by
  obtain ⟨raw, mapped, ok⟩ := bind_eq_ok ok
  obtain rfl : answer = raw := by
    unfold requireMapping at mapped
    split at mapped
    · exact Except.ok.inj mapped
    · cases mapped
  obtain ⟨text, -, ok⟩ := bind_eq_ok ok
  split at ok
  · cases ok
  obtain ⟨url, located, ok⟩ := bind_eq_ok ok
  obtain ⟨title, -, ok⟩ := bind_eq_ok ok
  obtain ⟨structure_, -, ok⟩ := bind_eq_ok ok
  split at ok
  swap
  · cases ok
  split at ok
  swap
  · cases ok
  split at ok
  · cases ok
  obtain ⟨document, -, ok⟩ := bind_eq_ok ok
  obtain ⟨fingerprint, -, ok⟩ := bind_eq_ok ok
  obtain ⟨decision, evaluated, ok⟩ := bind_eq_ok ok
  split at ok
  · cases ok
  · cases ok
    refine ⟨rfl, ?_, evaluated⟩
    unfold Value.requireText requireStr at located
    split at located
    · split at located
      · rename_i reported _
        rw [reported, Except.ok.inj located]
      · cases located
    · cases located

/-- What a snapshot shows, and whether the session moved with the page. -/
structure Shown (broker : BrowserSessionBroker) (plan : Option FillPlan) (descriptor : TransactionAdapterDescriptor)
    (s : BrowserStore × Log) (snapshot : PageSnapshot) (s' : BrowserStore × Log) : Prop where
  page : ∃ page : RawPage, snapshot.url = page.url ∧ broker.evaluate descriptor.adapterPaths page.url =
    .ok page.decision ∧
    (s.2.filled = false → ∀ expected, plan = some expected → ∀ registered ∈ s.1.adapters,
      registered.descriptor = descriptor → registered.adapterId = expected.adapterId →
      registered.adapterVersion = expected.adapterVersion →
        page.decision.origin = expected.expectedOrigin ∧ Fits expected descriptor snapshot.fields)
  moved : s' = s ∨ (Kept s s' ∧ ∃ path, s.2.opening = some path ∧ broker.host.navigationPath snapshot.url = .ok path)

theorem stateAfterRead_enters (record : BrowserSessionRecord) (loginPage : Bool) :
    Enters record (stateAfterRead record.state loginPage) := by
  unfold Enters
  cases record.state <;> cases loginPage <;> decide

/-- The session follows the page: not at all if the page stays, with a save otherwise. -/
theorem followPage_ {origin : String} (held : Held s sessionId record)
    (raw : page.raw = answer) (url : (answer.get? "url").getD (.str "") = .str page.url)
    (located : broker.host.originOf page.url = .ok origin)
    (stays : Stays broker.host record answer ∨ ∃ path, s.2.opening = some path ∧ Lands broker.host path answer) :
    Early broker plan sessionId (followPage record page origin) (fun _ s' => s' = s ∨
      (Kept s s' ∧ ∃ path, s.2.opening = some path ∧ broker.host.navigationPath page.url = .ok path)) s := by
  rcases stays with ⟨same, from_, login⟩ | ⟨path, opening, target, reported, landed⟩
  · have here : page.url = record.url := by
      rw [url] at same
      exact Value.str.inj same
    rw [here, from_] at located
    refine ite_ (fun moved => absurd moved ?_) fun _ => pure_ (.inl rfl)
    rw [raw, login, here, Except.ok.inj located]
    simp
  · have there : page.url = target := by
      rw [url] at reported
      exact Value.str.inj reported
    refine ite_ (fun _ => ?_) fun _ => pure_ (.inl rfl)
    refine mono_ (of_succeeds <| saveState_succeeds held (stateAfterRead_enters record _) fun _ => ⟨rfl, rfl⟩) ?_
    rintro stored s' ⟨-, kept, -⟩
    exact .inr ⟨kept, path, opening, there ▸ landed⟩

/-- A snapshot is that of the page the session is on, or the operation ends safely. -/
theorem snapshotImpl_ (library : broker.host.LibraryInt) (held : Held s sessionId record)
    (pausable : Pausable record) :
    Early broker plan sessionId (broker.snapshotImpl record (some descriptor) transactionId)
      (fun snapshot s' => Shown broker plan descriptor s snapshot s') s := by
  refine bind_ (S := fun answer s' => s' = s ∧
    Meets broker plan s.1 s.2 ⟨.snapshot record.sessionId descriptor.forbiddenTerms true descriptor.loginPaths,
      .ok answer⟩)
    (outside_web rfl fun _ meets => ⟨rfl, meets⟩) ?_
  rintro answer s' ⟨rfl, stays, fits⟩
  refine ofExcept_bind (readPage_harmless library _ _) fun page read => ?_
  obtain ⟨raw, url, evaluated⟩ := readPage_ok read
  refine ite_ (fun _ => pauseAndRaise_ held pausable) fun _ => ?_
  refine ite_ (fun _ => pauseAndRaise_ held pausable) fun _ => ?_
  refine ofExcept_bind (pageFields_harmless library _ _) fun fields listed => now_ fun now => ?_
  refine ofExcept_bind (BrowserHost.originOf_harmless _) fun origin located => ?_
  have here := stays record (by rw [held.session]; exact held.stored)
  refine bind_ (followPage_ held raw url located here) fun followed s'' moved => ?_
  refine ofExcept_ (pageSnapshot_harmless library _ _ _ _ _ _) fun snapshot made => ?_
  obtain ⟨sameUrl, sameFields, -⟩ := pageSnapshot_ok made
  refine ⟨⟨page, sameUrl, evaluated, ?_⟩, ?_⟩
  · rintro unfilled expected planned registered mem rfl adapterId version
    rw [sameFields]
    exact fits unfilled expected planned registered mem adapterId version page fields read listed
  · rw [sameUrl]
    exact moved

/-- Where no navigation was opened, a snapshot leaves everything as it is. -/
theorem Shown.still {s' : BrowserStore × Log}
    (shown : Shown broker plan descriptor s snapshot s') (unopened : s.2.opening = none) : s' = s := by
  refine shown.moved.resolve_right ?_
  rintro ⟨-, path, opening, -⟩
  rw [unopened] at opening
  cases opening

/-! ## Navigation -/

theorem bindTransaction_ {landing : PageSnapshot} : Early broker plan sessionId
      (bindTransaction sessionId extensionId transactionId descriptor adapterId action landing)
        (fun _ _ => True) s := by
  refine bind_ getSession_ ?_
  rintro record s' ⟨held, -⟩
  refine now_ fun now => bind_ (of_succeeds <| save_succeeds held ?_ ?_) fun _ _ _ => pure_ trivial
  · rfl
  · rfl

/-- The activation of a transaction ends safely. -/
theorem activateTransaction_ (library : broker.host.LibraryInt) (held : Held s sessionId record)
    (pausable : Pausable record) :
    Early broker plan sessionId
      (broker.activateTransaction record sessionId extensionId transactionId descriptor adapterId action)
      (fun _ _ => True) s := by
  refine bind_ (S := fun _ s' => s' = (s.1, { s.2 with opening := some action.navigatesToPath }))
    (outside_web rfl fun _ _ => rfl) fun answer s₁ opened => ?_
  have held₁ : Held s₁ sessionId record := ⟨held.session, opened ▸ held.stored⟩
  refine ofExcept_bind (requireMapping_harmless _ _) fun raw _ => ?_
  refine ofExcept_bind (BrowserHost.getInt_harmless library _ _) fun blocked _ => ?_
  refine ite_ (fun _ => pauseAndRaise_ held₁ pausable) fun _ => ?_
  refine ofExcept_bind (requireStr_harmless _ _ _) fun landed _ => ?_
  refine ofExcept_bind (BrowserHost.navigationPath_harmless _) fun landingPath _ => ?_
  refine ite_ (fun _ => pauseAndRaise_ held₁ pausable) fun _ => ?_
  refine bind_ (snapshotImpl_ library held₁ pausable) fun landing s₂ shown => ?_
  -- the session moved with the page only if the page is where the action leads
  rcases shown.moved with same | ⟨kept, path, opening, there⟩
  · subst same
    refine ofExcept_bind (BrowserHost.navigationPath_harmless _) fun livePath _ => ?_
    exact ite_ (fun _ => pauseAndRaise_ held₁ pausable) fun _ => bindTransaction_
  · have expected : action.navigatesToPath = path := by
      rw [opened] at opening
      exact Option.some.inj opening
    refine ok_bind there (ite_ (fun elsewhere => absurd expected.symm elsewhere) fun _ => ?_)
    exact bindTransaction_

/-- `execute_navigation` with no other writer. -/
theorem executeNavigation_ (library : broker.host.LibraryInt) (unopened : s.2.opening = none) :
    Early broker plan sessionId (broker.executeNavigation sessionId extensionId adapterId transactionId)
      (fun _ _ => True) s := by
  refine bind_ getSession_ ?_
  rintro record s₁ ⟨held, kept⟩
  refine bind_ requireActive_ ?_
  rintro _ _ rfl
  refine ite_ (fun _ => raise_ rfl) fun open_ => ?_
  have pausable : Pausable record := by
    revert open_
    unfold Pausable
    cases record.state <;> decide
  refine bind_ requireAdapterFor_ ?_
  rintro descriptor _ ⟨rfl, -⟩
  refine ofExcept_bind (navigationActionFor_harmless _) fun action _ => ?_
  refine bind_ (snapshotImpl_ library held pausable) fun snapshot s₂ shown => ?_
  obtain rfl := shown.still (kept.opening.trans unopened)
  refine ite_ (fun _ => pauseAndRaise_ held pausable) fun _ => ?_
  exact activateTransaction_ library held pausable

/-! ## Fill -/

/-- Once a preview was begun, it is the one that is returned and stored. -/
def Previewed (sessionId : String) (preview : TransactionPreview) (s : BrowserStore × Log) : Prop :=
  s.2.previewed → ∃ record, s.1.get sessionId = some record ∧ record.state = .previewReady ∧
    record.preview = some preview

/-- The preview is stored, or the operation ends safely. -/
theorem storePreview_ (held : Held s sessionId record) (preparing : record.state = .preparing)
    (declared : descriptor.declaredRisk ≠ .prohibited) :
    Opens broker plan sessionId (broker.storePreview record descriptor expected snapshot) (Previewed sessionId) s := by
  have drawn : Alone broker plan sessionId (web .newNonce) (fun nonce s' => s'.1 = s.1 ∧ nonce ≠ "") s := by
    refine wp.perform ?_
    rintro a ⟨store', log'⟩ ⟨⟨⟨answered, k, effect⟩, -⟩, nonempty⟩
    obtain ⟨nonce, rfl⟩ := answered rfl
    exact ⟨trivial, effect, nonempty⟩
  refine fun _ => now_bind fun generated => wp_either_bind drawn ?_
  rintro nonce s₁ ⟨same, nonempty⟩
  have held₁ : Held s₁ sessionId record := ⟨held.session, same ▸ held.stored⟩
  have builds : ∃ preview, broker.buildPreview record descriptor expected snapshot generated nonce = .ok preview :=
    buildPreview_ok declared nonempty
  obtain ⟨preview, built⟩ := builds
  refine wp_ok_bind built (wp.after (saveState_succeeds held₁ ?_ fun _ => ⟨rfl, rfl⟩) ?_)
  · rw [Enters, preparing]
    decide
  · rintro _ s₂ ⟨stored, rfl, held₂, -, now, clock, rfl⟩
    exact wp.pure fun _ => ⟨_, held₂.stored, rfl, rfl⟩

theorem typeFields_ (library : broker.host.LibraryInt)
    (held : Held s sessionId record) (unopened : s.2.opening = none)
    (preparing : record.state = .preparing)
    (declared : descriptor.declaredRisk ≠ .prohibited) :
    Opens broker plan sessionId (broker.typeFields record descriptor expected snapshot) (Previewed sessionId) s := by
  refine ite_ (fun _ => storePreview_ held preparing declared) fun _ => ?_
  refine bind_ (S := fun _ s' => s' = (s.1, { s.2 with filled := true }))
    (outside_web rfl fun _ _ => rfl) fun _ s₁ filled => ?_
  have held₁ : Held s₁ sessionId record := ⟨held.session, filled ▸ held.stored⟩
  have pausable : Pausable record := by
    rw [Pausable, preparing]
    decide
  refine bind_ (snapshotImpl_ library held₁ pausable) fun after s₂ shown => ?_
  obtain rfl := shown.still (filled ▸ unopened)
  refine ite_ (fun _ => storePreview_ held₁ preparing declared) fun _ => failAndRaise_ held₁ ?_ rfl
  rw [preparing]
  decide

/-- A fill on the page that was read. -/
theorem fillPage_ (library : broker.host.LibraryInt) {decision : NavigationDecision} (held : Held s sessionId record)
    (unopened : s.2.opening = none) (preparing : record.state = .preparing)
    (declared : descriptor.declaredRisk ≠ .prohibited)
    (evaluated : broker.evaluate descriptor.adapterPaths snapshot.url = .ok decision)
    (origin : decision.origin = expected.expectedOrigin) (fits : Fits expected descriptor snapshot.fields) :
    Opens broker plan sessionId (broker.fillPage record descriptor expected snapshot) (Previewed sessionId) s := by
  have pausable : Pausable record := by
    rw [Pausable, preparing]
    decide
  refine ok_bind evaluated (ite_ (fun _ => raise_ rfl) fun _ => ?_)
  refine ite_ (fun elsewhere => absurd origin elsewhere) fun _ => ?_
  refine ite_ (fun _ => pauseAndRaise_ held pausable) fun _ => ?_
  refine ite_ (fun _ => pauseAndRaise_ held pausable) fun _ => ?_
  have raises : Raises OnlyUnknown (broker.verifyFields descriptor expected snapshot) := verifyFields_raises fits
  split
  · exact pauseAndRaise_ held pausable
  · rename_i e other raised
    refine raise_ ?_
    by_contra detects
    obtain ⟨message, rfl⟩ := raises e raised (by simpa using detects)
    exact other message rfl
  · exact typeFields_ library held unopened preparing declared

/-- `execute_fill` with no other writer ends with a stored preview or safely. -/
theorem executeFill_ (library : broker.host.LibraryInt) {taskId : String}
    (planned : plan = some expected) (accepted : Accepted broker.host s.1) (unopened : s.2.opening = none)
    (unfilled : s.2.filled = false) :
    Opens broker plan sessionId (broker.executeFill sessionId taskId extensionId expected) (Previewed sessionId) s := by
  refine bind_ getSession_ ?_
  rintro record s₁ ⟨held, kept⟩
  refine ite_ (fun _ => raise_ rfl) fun _ => ?_
  have repeated (pausable : Pausable record) : Opens broker plan sessionId (storedFill record expected)
    (Previewed sessionId) s₁ := by
    unfold storedFill
    split
    · refine ite_ (fun _ => raise_ rfl) fun _ => ite_ (fun _ unpreviewed => wp.pure fun begun => ?_) fun _ => ?_
      · rw [unpreviewed] at begun
        cases begun
      · exact pauseAndRaise_ held pausable
    · exact raise_ rfl
  split
  · rename_i ready
    exact repeated (by rw [Pausable, ready]; decide)
  · rename_i approved
    exact repeated (by rw [Pausable, approved]; decide)
  · rename_i preparing
    refine bind_ requireAdapterFor_ ?_
    rintro descriptor _ ⟨rfl, registered, mem, rfl, matched⟩
    obtain ⟨adapterId, version⟩ := matched expected.identified.2.1
    refine ite_ (fun _ => raise_ rfl) fun _ => ?_
    have pausable : Pausable record := by
      rw [Pausable, preparing]
      decide
    refine bind_ (snapshotImpl_ library held pausable) fun snapshot s₂ shown => ?_
    obtain rfl := shown.still (kept.opening.trans unopened)
    obtain ⟨page, url, evaluated, fits⟩ := shown.page
    obtain ⟨origin, fits⟩ := fits (kept.filled.trans unfilled) expected planned registered mem rfl adapterId version
    obtain ⟨_, _, valid⟩ := accepted registered (kept.adapters ▸ mem)
    rw [← url] at evaluated
    exact fillPage_ library held (kept.opening.trans unopened) preparing (accepted_risks valid).1 evaluated origin fits
  · exact raise_ rfl

/-! ## Submission -/

theorem trackingBaseline_ {id : String} :
    Early broker plan sessionId (broker.trackingBaseline id descriptor) (fun _ s' => s' = s) s := by
  refine ite_ (fun _ => pure_ rfl) fun _ => ofExcept_bind trackingUrl_harmless fun _ _ => ?_
  refine bind_ (S := fun _ s' => s' = s) (outside_web rfl fun _ _ => rfl) ?_
  rintro answer _ rfl
  refine ofExcept_bind (readTracking_harmless _ _ _) fun read _ => ?_
  exact ite_ (fun _ => pure_ rfl) fun _ => raise_ rfl

theorem saveJudgement_ {judgement : Judgement} (held : Held s sessionId record) (unknown : record.state = .unknown) :
    Early broker plan sessionId (broker.saveJudgement record descriptor judgement) (fun _ s' => Kept s s') s := by
  refine now_ fun now => ?_
  have stored {updated : BrowserSessionRecord} (same : updated.sessionId = record.sessionId)
      (version : updated.version = record.version) :
      Early broker plan sessionId (save updated) (fun _ s' => Kept s s') s :=
    mono_ (of_succeeds <| save_succeeds held same version) fun _ _ saved => saved.2.1
  cases judgement with
  | found reference =>
    have enters : Enters record .succeeded := by
      rw [Enters, unknown]
      decide
    exact ok_bind (replaceState_enters enters now) (stored rfl rfl)
  | _ => exact stored rfl rfl

theorem reconcile_ :
    Early broker plan sessionId (broker.reconcile sessionId extensionId) (fun _ s' => Kept s s') s := by
  refine bind_ getSession_ ?_
  rintro record s₁ ⟨held, kept⟩
  refine ite_ (fun _ => raise_ rfl) fun unknown => bind_ requireAdapterFor_ ?_
  rintro descriptor s₂ ⟨rfl, -⟩
  refine ite_ (fun _ => raise_ rfl) fun _ => ofExcept_bind trackingUrl_harmless fun _ _ => ?_
  refine bind_ (S := fun _ s' => s' = s₂) (outside_web rfl fun _ _ => rfl) ?_
  rintro answer _ rfl
  refine ofExcept_bind (readTracking_harmless _ _ _) fun read _ => ?_
  exact mono_ (saveJudgement_ held (not_not.mp unknown)) fun _ _ => kept.trans

section

variable (held : Held s sessionId record)

include held

section

variable (executing : record.state = .executing)

include executing

theorem markSubmitUnknownAndConverge_ :
    Early broker plan sessionId (broker.markSubmitUnknownAndConverge record sessionId extensionId code)
      (fun _ _ => True) s := by
  have enters : Enters record .unknown := by
    rw [Enters, executing]
    decide
  refine fun unpreviewed => wp.tried (saveState_succeeds held enters fun _ => ⟨rfl, rfl⟩) ?_
  rintro saved s₁ ⟨stored, rfl, -, kept, -⟩
  refine wp.tried (reconcile_ (kept.previewed.trans unpreviewed)) fun outcome s₂ after => ?_
  have unpreviewed₂ := unpreviewed_of_ends after
  split
  · exact raise_ rfl unpreviewed₂
  · exact pure_ trivial unpreviewed₂
  · split <;> exact pure_ trivial unpreviewed₂

theorem settleSubmitOutcome_ :
    Early broker plan sessionId (broker.settleSubmitOutcome record sessionId extensionId code)
      (fun _ _ => True) s := by
  refine fun unpreviewed => wp.bind (wp.attempt (wp.shield (wp_mono (fun outcome s₁ after => ?_)
    (markSubmitUnknownAndConverge_ held executing unpreviewed))))
  refine bind_ (S := fun _ s' => s' = s₁) (outside_web rfl fun _ _ => rfl) ?_ (unpreviewed_of_ends after)
  rintro interrupted _ rfl
  exact ite_ (fun _ => raise_ rfl) fun _ _ => wp.ofExcept after

/-- The click and what is made of its answer. -/
theorem submitClick_ {target : ClickTarget} :
    Early broker plan sessionId (broker.submitClick record sessionId extensionId target) (fun _ _ => True) s := by
  have enters : Enters record .failed := by
    rw [Enters, executing]
    decide
  -- unless it was rejected, the click leaves the copy in hand the stored one
  intro unpreviewed
  have clicked : wp (undisturbed broker plan) (fun _ e => SaveOk e) (clickFinal record sessionId target)
      (fun outcome s' => s'.2.previewed = false ∧
        ((∃ rejected, outcome = .ok (some rejected)) ∨ Held s' sessionId record)) s := by
    refine wp.bind (wp.perform ?_)
    rintro a ⟨store', log'⟩ ⟨⟨⟨-, k, effect⟩, logged⟩, -⟩
    obtain rfl : store' = s.1 := effect
    obtain rfl : log' = s.2.after ⟨.click sessionId target, a⟩ := logged
    refine ⟨trivial, ?_⟩
    cases a with
    | error e => exact ⟨unpreviewed, .inr ⟨held.session, held.stored⟩⟩
    | ok raw =>
      refine wp_ofExcept_bind (fun outcome _ => wp.ite ⟨fun _ => ?_, fun _ => ?_⟩) fun _ _ => ?_
      · refine wp.after (saveState_succeeds held enters fun _ => ⟨rfl, rfl⟩) ?_
        rintro saved s₁ ⟨stored, rfl, -, kept, -⟩
        exact wp.pure ⟨kept.previewed.trans unpreviewed, .inl ⟨_, rfl⟩⟩
      · exact wp.pure ⟨unpreviewed, .inr held⟩
      · exact ⟨unpreviewed, .inr held⟩
  refine wp.tried clicked fun outcome s₁ after => ?_
  obtain ⟨unpreviewed₁, ⟨rejected, rfl⟩ | held₁⟩ := after
  · exact pure_ trivial unpreviewed₁
  · split
    · exact pure_ trivial unpreviewed₁
    · exact settleSubmitOutcome_ held₁ executing unpreviewed₁
    · refine wp.bind (wp.attempt (wp.shield (wp_mono (fun outcome s₂ after => ?_)
        (markSubmitUnknownAndConverge_ held₁ executing unpreviewed₁))))
      exact raise_ rfl (unpreviewed_of_ends after)
    · exact settleSubmitOutcome_ held₁ executing unpreviewed₁

end

/-- A submission on the page that was read. -/
theorem submitPage_ {ownerId : String} {now : Time}
    {final : AdapterActionSpec} {preview : TransactionPreview} {baseline : ReceiptBaseline}
    (ready : record.state = .previewReady) :
    Early broker plan sessionId
      (broker.submitPage record extensionId ownerId now descriptor final preview baseline snapshot)
        (fun _ _ => True) s := by
  have pausable : Pausable record := by
    rw [Pausable, ready]
    decide
  have approves : Enters record .approved := by
    rw [Enters, ready]
    decide
  refine ite_ (fun _ => pauseAndRaise_ held pausable) fun _ => ?_
  refine ite_ (fun _ => pauseAndRaise_ held pausable) fun _ => ?_
  refine ite_ (fun _ => pauseAndRaise_ held pausable) fun _ => ?_
  refine ok_bind (replaceState_enters approves now) (bind_ (of_succeeds <| save_succeeds held rfl rfl) ?_)
  rintro approved s₁ ⟨held₁, kept₁, clock, saved⟩
  have executes : Enters approved .executing := by
    rw [Enters, saved]
    exact .inr mem_cons_self
  refine bind_ (of_succeeds <| saveState_succeeds held₁ executes fun _ => ⟨rfl, rfl⟩) ?_
  rintro executing s₂ ⟨held₂, kept₂, _, _, saved₂⟩
  have state : executing.state = .executing := by rw [saved₂]
  rw [held.session]
  exact submitClick_ held₂ state

end

/-- `execute_submit` with no other writer ends with an outcome or safely. -/
theorem executeSubmit_ (library : broker.host.LibraryInt) {taskId previewHash previewNonce actionId ownerId : String}
    (accepted : Accepted broker.host s.1) (unopened : s.2.opening = none) :
    Early broker plan sessionId
      (broker.executeSubmit sessionId taskId extensionId previewHash previewNonce actionId ownerId)
        (fun _ _ => True) s := by
  refine bind_ getSession_ ?_
  rintro record s₁ ⟨held, kept⟩
  refine ofExcept_bind (checkPreview_harmless _ _ _ _) fun preview checked => now_ fun now => ?_
  obtain ⟨ready, -⟩ := checkPreview_ok checked
  have pausable : Pausable record := by
    rw [Pausable, ready]
    decide
  refine ofExcept_bind (requireFresh_harmless _ _) fun _ _ => bind_ requireAdapterFor_ ?_
  rintro descriptor _ ⟨rfl, registered, mem, rfl, -⟩
  obtain ⟨_, _, valid⟩ := accepted registered (kept.adapters ▸ mem)
  refine ofExcept_bind (finalActionFor_harmless (accepted_risks valid).2 _) fun final _ => ?_
  refine ite_ (fun _ => pauseAndRaise_ held pausable) fun _ => ?_
  refine bind_ trackingBaseline_ ?_
  rintro baseline _ rfl
  refine bind_ (snapshotImpl_ library held pausable) fun snapshot s₂ shown => ?_
  obtain rfl := shown.still (kept.opening.trans unopened)
  exact submitPage_ held ready

end Alone

/-- A run in order: no save failed the version check, and if the operation ended by detecting
something itself, the stored session is SAFETY_PAUSED. -/
def Orderly {α : Type} (sessionId : String) (tr : List BrowserEvent) (c : BrowserM α) (s : BrowserStore × Log) : Prop :=
  (∀ e ∈ tr, SaveOk e) ∧ ∀ e, c = .done (.error e) → e.detects → e ∉ s.2.raised → Paused s.1 sessionId

variable {tr : List BrowserEvent}

theorem orderly_of_alone {α : Type} {broker : BrowserSessionBroker} {plan : Option FillPlan} {sessionId : String}
    {S : α → BrowserStore × Log → Prop} {c c' : BrowserM α} {s s' : BrowserStore × Log}
    (alone : Alone broker plan sessionId c S s) (run : Steps (undisturbed broker plan) c s tr c' s') :
    Orderly sessionId tr c' s' := by
  refine ⟨fun e mem => ?_, ?_⟩
  · obtain ⟨pre, post, split⟩ := append_of_mem mem
    obtain ⟨_, _, -, saves⟩ := run.guarantees alone split
    exact saves
  · rintro e rfl detects own
    have ends : EndsSafe sessionId e s' := Exec.post run alone
    exact (ends.2 detects).resolve_left own

/-- **Saves of an operation alone.** With no concurrent writer, and while the pages stay where the
session says they are: no save of a navigation, a fill or a submission fails the version check;
what the operation detects leaves the session SAFETY_PAUSED; and once a fill has verified its
values, it returns the preview and stores it with PREVIEW_READY. -/
theorem undisturbed_orderly (broker : BrowserSessionBroker) (library : broker.host.LibraryInt) (store : BrowserStore)
    (accepted : Accepted broker.host store) (sessionId extensionId : String) :
    (∀ adapterId transactionId tr c s,
      Steps (undisturbed broker none) (broker.executeNavigation sessionId extensionId adapterId transactionId)
        (store, {}) tr c s → Orderly sessionId tr c s) ∧
    (∀ taskId plan tr c s,
      Steps (undisturbed broker (some plan)) (broker.executeFill sessionId taskId extensionId plan) (store, {}) tr c s →
      Orderly sessionId tr c s ∧ ∀ outcome, c = .done outcome → s.2.previewed → ∃ preview record,
        outcome = .ok preview ∧ s.1.get sessionId = some record ∧ record.state = .previewReady ∧
        record.preview = some preview) ∧
    ∀ taskId previewHash previewNonce actionId ownerId tr c s,
      Steps (undisturbed broker none)
        (broker.executeSubmit sessionId taskId extensionId previewHash previewNonce actionId ownerId)
        (store, {}) tr c s → Orderly sessionId tr c s := by
  refine ⟨fun adapterId transactionId tr c s run => ?_, fun taskId plan tr c s run => ?_, ?_⟩
  · exact orderly_of_alone (Alone.executeNavigation_ library rfl rfl) run
  · have alone : Alone broker (some plan) sessionId (broker.executeFill sessionId taskId extensionId plan)
        (Alone.Previewed sessionId) (store, {}) :=
      Alone.executeFill_ library rfl accepted rfl rfl rfl
    refine ⟨orderly_of_alone alone run, ?_⟩
    rintro outcome rfl begun
    have ends := Exec.post run alone
    cases outcome with
    | error e =>
      have unbegun : s.2.previewed = false := ends.1
      rw [unbegun] at begun
      cases begun
    | ok preview =>
      obtain ⟨record, found, ready, stored⟩ := ends begun
      exact ⟨preview, record, rfl, found, ready, stored⟩
  · intro taskId previewHash previewNonce actionId ownerId tr c s run
    exact orderly_of_alone (Alone.executeSubmit_ library accepted rfl rfl) run

/-! ## Drift that is not stored -/

/-- A prepared session of the form at some URL. -/
def preparedStore (url : String) : BrowserStore where
  sessions := [{
    sessionId := "session", taskId := "task", extensionId := "site", extensionVersion := "1", purpose := "apply"
    state := .preparing, createdAt := 0, updatedAt := 0, expiresAt := 1, origin := "https://s", url, adapterId := "form"
    adapterVersion := "1", transactionId := "apply" }]
  adapters := [⟨"site", "1", "form", "1", sampleAdapter, 0, 0, 0⟩]

/-- A plan for another version of the form. -/
def otherVersionPlan : FillPlan :=
  { samplePlan with expectedPageFingerprint := "1111111111111111111111111111111111111111111111111111111111111111" }

/-- A plan for another origin. -/
def otherOriginPlan : FillPlan := { samplePlan with expectedOrigin := "https://t" }

/-- `execute_fill` of a plan, alone. -/
def aloneFill (plan : FillPlan) (store : BrowserStore) :
    List BrowserEvent × Except Exn TransactionPreview × BrowserStore :=
  play (browserWorld.answerWith 0 samplePages) (sampleBroker.executeFill "session" "task" "site" plan) store

theorem aloneFill_exec (plan : FillPlan) (store : BrowserStore) : Exec browserWorld.reliable
    (sampleBroker.executeFill "session" "task" "site" plan) store (aloneFill plan store).1 (aloneFill plan store).2.1
    (aloneFill plan store).2.2 := by
  refine play_exec (fun sh s op => World.answerWith_reliable (browserWorld_own 0) (fun op _ => ?_) sh s op) _ _
  cases op <;> exact ⟨_, rfl⟩

/-- A pause that could not be saved. -/
def refusedPause : BrowserEvent → Bool
  | ⟨.saveSession record _, .error _⟩ => record.state = .safetyPaused
  | _ => false

theorem refusedPause_event (h : tr.any refusedPause) :
    ∃ record version e, (⟨.saveSession record version, .error e⟩ : BrowserEvent) ∈ tr ∧
    record.state = .safetyPaused := by
  obtain ⟨event, mem, refused⟩ := any_eq_true.mp h
  unfold refusedPause at refused
  split at refused
  · exact ⟨_, _, _, mem, of_decide_eq_true refused⟩
  · cases refused

theorem aloneFill_moved : (aloneFill otherVersionPlan (preparedStore "https://s/list")).1.any refusedPause ∧
    raised? (aloneFill otherVersionPlan (preparedStore "https://s/list")).2.1 =
      some (.domain .concurrentModification "the browser session was modified by another writer") ∧
    ((aloneFill otherVersionPlan (preparedStore "https://s/list")).2.2.get "session").map
    (·.state) = some .preparing := by
  decide +kernel

theorem aloneFill_elsewhere : raised? (aloneFill otherOriginPlan (preparedStore "https://s/form")).2.1 =
      some (pageDriftError "the page origin changed since the preview was planned") ∧
    ((aloneFill otherOriginPlan (preparedStore "https://s/form")).2.2.get "session").map
    (·.state) = some .preparing := by
  decide +kernel

/-- With no other writer: the page is at another URL than the session, and the pause that a drift
asks for fails the version check; and a page at another origin than planned is a drift that no
pause is asked for. Both sessions stay PREPARING. -/
theorem drift_left_unpaused : (∃ tr store record version e, Exec browserWorld.reliable
      (sampleBroker.executeFill "session" "task" "site" otherVersionPlan) (preparedStore "https://s/list") tr
        (.error (.domain .concurrentModification "the browser session was modified by another writer")) store ∧
      (⟨.saveSession record version, .error e⟩ : BrowserEvent) ∈ tr ∧ record.state = .safetyPaused ∧
      (store.get "session").map (·.state) = some .preparing) ∧
    ∃ tr store, Exec browserWorld.reliable
      (sampleBroker.executeFill "session" "task" "site" otherOriginPlan) (preparedStore "https://s/form") tr
        (.error (pageDriftError "the page origin changed since the preview was planned")) store ∧
      (store.get "session").map (·.state) = some .preparing := by
  obtain ⟨refused, conflict, state⟩ := aloneFill_moved
  obtain ⟨record, version, e, mem, pauses⟩ := refusedPause_event refused
  obtain ⟨drift, state'⟩ := aloneFill_elsewhere
  have moved := aloneFill_exec otherVersionPlan (preparedStore "https://s/list")
  have elsewhere := aloneFill_exec otherOriginPlan (preparedStore "https://s/form")
  rw [eq_error_of_raised conflict] at moved
  rw [eq_error_of_raised drift] at elsewhere
  exact ⟨⟨_, _, record, version, e, moved, mem, pauses, state⟩, _, _, elsewhere, state'⟩

/-! ## Drift that is stored -/

/-- A session with a preview of other values than those of the plan. -/
def previewedStore : BrowserStore where
  sessions := [{
    sessionId := "session", taskId := "task", extensionId := "site", extensionVersion := "1", purpose := "apply"
    state := .previewReady, createdAt := 0, updatedAt := 0, expiresAt := 1, adapterId := "form", adapterVersion := "1"
    transactionId := "apply", previewHash := "digest", previewNonce := "nonce"
    preview := some ⟨"session", "https://s", "app", "other", "form", "1", "site", "1", "", .externalWrite,
      "", [], [], [],
      "digest", "nonce", 0, 1, "send", "POST", "https://s", "/form"⟩ }]
  adapters := [⟨"site", "1", "form", "1", sampleAdapter, 0, 0, 0⟩]

/-- A companion that reads no page. -/
def unreadPages : (op : BrowserOp) → Except Exn op.Ans
  | .snapshot _ _ _ _ => .error (.timeout "the page did not answer")
  | op => samplePages op

/-- `execute_fill` of a plan that does not match the preview. -/
def repeatedFill : List BrowserEvent × Except Exn TransactionPreview × BrowserStore × Log :=
  play (fun s op => ((browserWorld.answerWith 0 unreadPages s.1 op).1, (browserWorld.answerWith 0 unreadPages s.1 op).2,
      s.2.after ⟨op, (browserWorld.answerWith 0 unreadPages s.1 op).1⟩))
    (sampleBroker.executeFill "session" "task" "site" samplePlan) (previewedStore, {})

theorem unreadPages_meets (store : BrowserStore) (log : Log) (op : BrowserOp) :
    Meets sampleBroker (some samplePlan) store log ⟨op, (browserWorld.answerWith 0 unreadPages store op).1⟩ := by
  cases op <;> first | trivial | exact fun empty => absurd (congrArg String.length empty) (by decide)

theorem repeatedFill_exec : Exec (undisturbed sampleBroker (some samplePlan))
    (sampleBroker.executeFill "session" "task" "site" samplePlan) (previewedStore, {}) repeatedFill.1 repeatedFill.2.1
    repeatedFill.2.2 := by
  have total (op : BrowserOp) (h : browserWorld.total op) : ∃ x, unreadPages op = .ok x := by
    cases op <;> first | exact ⟨_, rfl⟩ | cases h
  refine play_exec (fun sh s op => ⟨⟨?_, rfl⟩, unreadPages_meets s.1 s.2 op⟩) _ _
  exact World.answerWith_reliable (browserWorld_own 0) total sh s.1 op

theorem repeatedFill_drifts : raised? repeatedFill.2.1 =
    some (pageDriftError "a repeated fill does not match the stored preview") ∧ repeatedFill.2.2.2.raised = [] := by
  decide +kernel

theorem previewedStore_accepted : Accepted sampleBroker.host previewedStore := by
  intro registered mem
  obtain rfl := mem_singleton.mp mem
  exact ⟨["https://s"], .allowlist, by decide +kernel⟩

theorem sampleBroker_library : sampleBroker.host.LibraryInt := by
  intro v e raised
  cases v <;> first | exact ⟨_, (Except.error.inj raised).symm⟩ | cases raised

/-- The session of the sample is paused. -/
theorem undisturbed_orderly_sample : Paused repeatedFill.2.2.1 "session" := by
  obtain ⟨drift, own⟩ := repeatedFill_drifts
  have run := repeatedFill_exec
  rw [eq_error_of_raised drift] at run
  obtain ⟨-, fill, -⟩ := undisturbed_orderly sampleBroker sampleBroker_library previewedStore previewedStore_accepted
    "session" "site"
  refine (fill "task" samplePlan _ _ _ run).1.2 _ rfl rfl ?_
  rw [own]
  exact not_mem_nil

end PersonalAssistant
