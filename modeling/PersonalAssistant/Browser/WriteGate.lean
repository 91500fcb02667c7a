import PersonalAssistant.Browser.Phases
import PersonalAssistant.Browser.Sessions
import PersonalAssistant.Domain.Canonical
import PersonalAssistant.Domain.JsonText

/-!
# Which writes leave the browser

`_route` continues a write because navigation posts are still open, because a click armed its
one-shot allowance, or because the login form did. While one client makes the calls of the
driver, each after the one before has returned, only the second is left once a field has been
filled: the write happens inside a click, is its only one, and carries what was recorded and
approved.

Two calls that overlap break this. `_observe_login` looks at the lock before it awaits the
target of the login form and arms the login allowance after it, so a `fill` in between is
overtaken.
-/

namespace PersonalAssistant

open Coro Function List

/-! ## What a payload digest fixes -/

/-- The text that `form_payload_sha256` hashes. -/
def payloadText (pairs : List (String × String)) : String :=
  "[" ++ ",".intercalate ((pairs.insertionSort fun a b => a.1 < b.1 ∨ (a.1 = b.1 ∧ a.2 ≤ b.2)).map fun (key, value) =>
    "[" ++ quoteJson key ++ "," ++ quoteJson value ++ "]") ++ "]"

/-- The pairs as the list of lists that is dumped. -/
def pairValues (pairs : List (String × String)) : List Value :=
  pairs.map fun pair => .list [.str pair.1, .str pair.2]

theorem pairValues_textual (pairs : List (String × String)) : (Value.list (pairValues pairs)).isTextual := by
  rw [Value.isTextual]
  induction pairs with
  | nil => rfl
  | cons pair pairs ih =>
    show (true && true && true) && Value.areTextual (pairValues pairs)
    simpa using ih

theorem pairValues_injective : Function.Injective pairValues := by
  apply map_injective_iff.mpr
  intro a b same
  simp only [Value.list.injEq, List.cons.injEq, Value.str.injEq, and_true] at same
  exact Prod.ext same.1 same.2

theorem dumpItems_pairValues (pairs : List (String × String)) : dumpItems (pairValues pairs) =
      .ok (pairs.map fun (key, value) => "[" ++ quoteJson key ++ "," ++ quoteJson value ++ "]") := by
  induction pairs with
  | nil => rfl
  | cons pair pairs ih =>
    have first : jsonDumps (.list [.str pair.1, .str pair.2]) =
        .ok ("[" ++ quoteJson pair.1 ++ "," ++ quoteJson pair.2 ++ "]") := by
      show Except.ok ("[" ++ ",".intercalate [quoteJson pair.1, quoteJson pair.2] ++ "]") = _
      rw [String.intercalate_cons_cons, String.intercalate_singleton, ← String.append_assoc, ← String.append_assoc]
    show dumpItems (.list [.str pair.1, .str pair.2] :: pairValues pairs) = _
    rw [dumpItems, first, ih]
    rfl

theorem payloadText_perm {a b : List (String × String)} (same : payloadText a = payloadText b) : a.Perm b := by
  have dumped (pairs : List (String × String)) :
      jsonDumps (.list (pairValues (pairs.insertionSort fun a b => a.1 < b.1 ∨ (a.1 = b.1 ∧ a.2 ≤ b.2)))) =
        .ok (payloadText pairs) := by
    rw [jsonDumps, dumpItems_pairValues]
    rfl
  have values := jsonDumps_injective (pairValues_textual _) (pairValues_textual _)
    ((dumped a).trans ((congrArg Except.ok same).trans (dumped b).symm))
  have sorted := pairValues_injective (Value.list.inj values)
  exact (perm_insertionSort _ a).symm.trans (sorted ▸ perm_insertionSort _ b)

/-- Two different texts with one digest. -/
def Host.Collide (host : Host) (a b : String) : Prop := a ≠ b ∧ host.sha256Hex a = host.sha256Hex b

/-- Equal digests are those of the same pairs, in any order, or a collision of SHA-256. -/
theorem formPayloadSha256_perm {host : Host} {a b : List (String × String)}
    (same : formPayloadSha256 host a = formPayloadSha256 host b) :
    a.Perm b ∨ host.Collide (payloadText a) (payloadText b) := by
  by_cases h : payloadText a = payloadText b
  · exact .inl (payloadText_perm h)
  · exact .inr ⟨h, same⟩

/-! ## What a request can do -/

namespace PlaywrightHeadedDriver

variable {driver : PlaywrightHeadedDriver} {s s' : DriverState} {request : Request}

/-- The five ways `_route` ends, with the state after it. -/
inductive Routed (driver : PlaywrightHeadedDriver) (s : DriverState) (request : Request) :
    Except Exn Verdict → DriverState → Prop where
  | refused (answer : Except Exn Verdict) (origins writes autosaves mismatches : Nat) (not : answer ≠ .ok .continue_) :
      Routed driver s request answer { s with
        blockedOriginRequests := origins, blockedMutatingRequests := writes
        autosaveAttempts := autosaves, payloadMismatches := mismatches }
  | read (get : getMethods.contains (driver.methodOf request)) : Routed driver s request (.ok .continue_) s
  | opened (unlocked : s.mutationsBlocked = false) (count : Nat) :
      Routed driver s request (.ok .continue_) { s with navigationWriteRequests := count }
  | submitted (allowance : Allowance) (held : s.submitAllowance = some allowance)
      (accepted : driver.allowanceMatches allowance (driver.methodOf request) request.url = .ok true)
      (document : request.isMainFrameDocument) (verified : driver.verifyBoundPayload s request) (count : Nat) :
      Routed driver s request (.ok .continue_)
        { s with submitAllowance := allowance.spend, allowedWriteRequests := count }
  | loggedIn (allowance : Allowance) (held : s.loginAllowance = some allowance) (count : Nat) :
      Routed driver s request (.ok .continue_)
        { s with loginAllowance := allowance.spend, loginArmedTarget := none, userAuthRequests := count }

theorem usable_some {accepts : Allowance → String → String → Except Exn Bool} {allowance? : Option Allowance}
    {method : String} {allowance : Allowance} (h : usable accepts allowance? method request = .ok (some allowance)) :
    allowance? = some allowance ∧ accepts allowance method request.url = .ok true ∧ request.isMainFrameDocument := by
  cases allowance? with
  | none => cases h
  | some held =>
    obtain ⟨matched, accepted, h⟩ := bind_eq_ok h
    by_cases both : (matched && request.isMainFrameDocument) = true
    · rw [if_pos both] at h
      cases Except.ok.inj h
      rw [Bool.and_eq_true] at both
      exact ⟨rfl, both.1 ▸ accepted, both.2⟩
    · rw [if_neg both] at h
      cases h

/-- What becomes of a write, and of the allowances. -/
theorem routeWrite_routed (driver : PlaywrightHeadedDriver) (s : DriverState) (request : Request) :
    Routed driver s request (driver.routeWrite s request).1 (driver.routeWrite s request).2 := by
  unfold routeWrite
  split
  · rename_i free
    have unlocked : s.mutationsBlocked = false := by
      rw [Bool.and_eq_true, Bool.not_eq_true'] at free
      exact free.2
    exact .opened unlocked _
  · split
    · exact .refused _ _ _ _ _ nofun
    · rename_i submits
      obtain ⟨held, accepted, document⟩ := usable_some submits
      split
      · rename_i verified
        exact .submitted _ held accepted document verified _
      · exact .refused _ _ _ _ _ nofun
    · split
      · exact .refused _ _ _ _ _ nofun
      · rename_i logsIn
        exact .loggedIn _ (usable_some logsIn).1 _
      · exact .refused _ _ _ _ _ nofun

theorem route_routed (driver : PlaywrightHeadedDriver) (s : DriverState) (request : Request) :
    Routed driver s request (driver.route s request).1 (driver.route s request).2 := by
  unfold route
  split
  · exact .refused _ _ _ _ _ nofun
  · split
    · exact .refused _ _ _ _ _ nofun
    · split
      · rename_i get
        exact .read get
      · exact routeWrite_routed driver s request

/-- Whatever is continued goes where `evaluate_navigation` allows. -/
theorem route_allowed (continued : (driver.route s request).1 = .ok .continue_) :
    ∃ decision, driver.host.evaluateNavigation driver.allowedOrigins driver.originMode [] request.url = .ok decision ∧
      decision.allowed := by
  unfold route at continued
  split at continued
  · cases continued
  · rename_i decision evaluated
    by_cases allowed : decision.allowed
    · exact ⟨decision, evaluated, allowed⟩
    · rw [if_pos (by simpa using allowed)] at continued
      cases continued

/-! ## The invariant of the runs of one client -/

section Invariant

variable {driver : PlaywrightHeadedDriver} {s s' : DriverState} {ι : Type} {phase : ι → Phase} {i : ι}
  {tr : List (ι × DriverEvent)} {e : DriverEvent} {target : ClickTarget} {allowance : Allowance}

/-- Some `fill` has begun. -/
def Filled (tr : List (ι × DriverEvent)) : Prop := ∃ entry ∈ tr, entry.2.op = .lock

/-- A request other than a GET was continued. -/
def ContinuedWrite (driver : PlaywrightHeadedDriver) (e : DriverEvent) : Prop :=
  ∃ request, e = ⟨.route request, .ok .continue_⟩ ∧ ¬ getMethods.contains (driver.methodOf request)

/-- The events end inside a call of `click`, after its allowance was armed and before its
`finally`, and it has continued no write yet. -/
def InsideClick (driver : PlaywrightHeadedDriver) (target : ClickTarget) (tr : List (ι × DriverEvent)) : Prop :=
  ∃ before i armed after, tr = before ++ (i, ⟨.arm target, .ok armed⟩) :: after ∧
    ∀ entry ∈ after, entry.2.op ≠ .disarm ∧ ¬ driver.ContinuedWrite entry.2

theorem filled_snoc : Filled (tr ++ [(i, e)]) ↔ Filled tr ∨ e.op = .lock := by
  simp [Filled, or_and_right, exists_or]

theorem filled_of_any (h : tr.any fun entry => entry.2.op = .lock) : Filled tr := by
  obtain ⟨entry, mem, lock⟩ := any_eq_true.mp h
  exact ⟨entry, mem, of_decide_eq_true lock⟩

theorem InsideClick.snoc (inside : driver.InsideClick target tr) (held : e.op ≠ .disarm)
    (refused : ¬ driver.ContinuedWrite e) : driver.InsideClick target (tr ++ [(i, e)]) := by
  obtain ⟨before, j, armed, after, rfl, none⟩ := inside
  refine ⟨before, j, armed, after ++ [(i, e)], by simp, ?_⟩
  exact forall_mem_append.mpr ⟨none, forall_mem_singleton.mpr ⟨held, refused⟩⟩

/-- The invariant after an event of a coroutine. -/
abbrev After (I : (ι → Phase) → List (ι × DriverEvent) → Prop) [DecidableEq ι] (phase : ι → Phase)
    (tr : List (ι × DriverEvent)) (i : ι) (e : DriverEvent) : Prop :=
  I (update phase i ((phase i).after e)) (tr ++ [(i, e)])

/-- What the first block of `click` leaves. -/
structure Armed (driver : PlaywrightHeadedDriver) (s : DriverState) (target : ClickTarget) : Prop where
  allowance : s.submitAllowance = some {
    method := driver.host.upper (strip target.expectedMethod)
    origin := target.expectedOrigin, path := target.expectedPath }
  payload : s.submitPayloadSha256 = target.expectedPayloadSha256
  body : s.submitBodySha256 = formPayloadSha256 driver.host.toHost (s.recordedPairs target.locator)
  locators : s.submitPayloadLocators = payloadLocators target.expectedPayloadLocators

theorem arm_armed {armed : Nat × Nat} (ok : driver.arm s target = (.ok armed, s')) :
    driver.Armed s' target ∧ s'.mutationsBlocked = s.mutationsBlocked ∧ s'.loginAllowance = s.loginAllowance := by
  unfold arm at ok
  split at ok
  · cases ok
  · obtain ⟨-, rfl⟩ := Prod.mk.inj ok
    exact ⟨⟨rfl, rfl, rfl, rfl⟩, rfl, rfl⟩

theorem arm_error {exc : Exn} (failed : driver.arm s target = (.error exc, s')) : s' = s := by
  unfold arm at failed
  split at failed
  · exact (Prod.mk.inj failed).2.symm
  · cases failed

/-- The state, the phases of the coroutines and the events so far. -/
structure Guarded (driver : PlaywrightHeadedDriver) (s : DriverState) (phase : ι → Phase)
    (tr : List (ι × DriverEvent)) :
    Prop where
  alone : ∀ i j, phase i ≠ .routing → phase j ≠ .routing → i = j
  locked : Filled tr → s.mutationsBlocked = true ∧ s.loginAllowance = none
  unblocked : ∀ i, phase i = .unblocked → s.mutationsBlocked = false
  armed : s.submitAllowance ≠ none → ∃ i target, phase i = .clicking ∧ driver.Armed s target ∧
    (Filled tr → driver.InsideClick target tr)

namespace Guarded

/-- While a client stands outside a click no allowance of a click is held. -/
theorem unarmed (guarded : driver.Guarded s phase tr) (free : (phase i).isFree) : s.submitAllowance = none := by
  by_contra held
  obtain ⟨j, target, clicking, -, -⟩ := guarded.armed held
  have same : i = j := guarded.alone i j (fun h => by rw [h] at free; cases free)
    (fun h => by rw [h] at clicking; cases clicking)
  rw [same, clicking] at free
  cases free

variable [DecidableEq ι] {op : DriverOp} {a : Except Exn op.Ans}

theorem alone_update {p : Phase} (alone : ∀ i j, phase i ≠ .routing → phase j ≠ .routing → i = j)
    (client : p ≠ .routing → phase i ≠ .routing) :
    ∀ j k, update phase i p j ≠ .routing → update phase i p k ≠ .routing → j = k := by
  have before (j : ι) (h : update phase i p j ≠ .routing) : phase j ≠ .routing := by
    by_cases same : j = i
    · subst same
      rw [update_self] at h
      exact client h
    · rwa [update_of_ne same] at h
  exact fun j k hj hk => alone j k (before j hj) (before k hk)

section

variable (guarded : driver.Guarded s phase tr)

include guarded

theorem plain (stays : (phase i).after e = phase i)
    (lock : s'.mutationsBlocked = s.mutationsBlocked) (login : s'.loginAllowance = s.loginAllowance)
    (submit : s'.submitAllowance = s.submitAllowance) (armed : ∀ target, driver.Armed s target → driver.Armed s' target)
    (opens : e.op ≠ .lock) (held : e.op ≠ .disarm) (refused : Filled tr → ¬ driver.ContinuedWrite e) :
    After (driver.Guarded s') phase tr i e := by
  rw [After, stays, update_eq_self]
  have filled : Filled (tr ++ [(i, e)]) → Filled tr := fun h => (filled_snoc.mp h).resolve_right opens
  refine ⟨guarded.alone, fun h => ?_, fun j h => lock ▸ guarded.unblocked j h, fun h => ?_⟩
  · rw [lock, login]
    exact guarded.locked (filled h)
  · obtain ⟨j, target, clicking, now, inside⟩ := guarded.armed (submit ▸ h)
    exact ⟨j, target, clicking, armed target now,
      fun h => (inside (filled h)).snoc held (refused (filled h))⟩

/-- A step of a client that leaves no allowance of a click. -/
theorem client (client : phase i ≠ .routing) (none : s'.submitAllowance = none)
    (locked : Filled (tr ++ [(i, e)]) → s'.mutationsBlocked = true ∧ s'.loginAllowance = Option.none)
    (unblocked : (phase i).after e = .unblocked → s'.mutationsBlocked = false) :
    After (driver.Guarded s') phase tr i e := by
  refine ⟨alone_update guarded.alone fun _ => client, locked, fun j h => ?_, fun h => absurd none h⟩
  by_cases same : j = i
  · subst same
    rw [update_self] at h
    exact unblocked h
  · rw [update_of_ne same] at h
    exact absurd (guarded.alone j i (fun r => by rw [r] at h; cases h) client) same

/-- `_route` of a request. -/
theorem routed {answer : Except Exn Verdict}
    (routing : phase i = .routing) (routed : Routed driver s request answer s') :
    After (driver.Guarded s') phase tr i ⟨.route request, answer⟩ := by
  have stays : (phase i).after ⟨.route request, answer⟩ = phase i := by rw [routing]; rfl
  cases routed with
  | refused _ _ _ _ _ not =>
    refine guarded.plain stays rfl rfl rfl (fun _ armed => ⟨armed.1, armed.2, armed.3, armed.4⟩) nofun nofun ?_
    rintro - ⟨other, same, -⟩
    cases same
    exact not rfl
  | read get =>
    refine guarded.plain stays rfl rfl rfl (fun _ armed => armed) nofun nofun ?_
    rintro - ⟨other, same, write⟩
    cases same
    exact write get
  | opened unlocked count =>
    refine guarded.plain stays rfl rfl rfl (fun _ armed => ⟨armed.1, armed.2, armed.3, armed.4⟩) nofun nofun ?_
    intro filled
    rw [(guarded.locked filled).1] at unlocked
    cases unlocked
  | submitted allowance holds accepted document verified count =>
    obtain ⟨j, target, -, armed, -⟩ := guarded.armed (by rw [holds]; nofun)
    have spent : allowance.spend = none := by
      rw [armed.allowance] at holds
      cases holds
      rfl
    rw [After, stays, update_eq_self]
    have filled : Filled (tr ++ [(i, ⟨.route request, .ok .continue_⟩)]) → Filled tr :=
      fun h => (filled_snoc.mp h).resolve_right nofun
    exact ⟨guarded.alone, fun h => guarded.locked (filled h), guarded.unblocked, fun h => absurd spent h⟩
  | loggedIn allowance holds count =>
    have never : ¬ Filled tr := fun filled => by
      rw [(guarded.locked filled).2] at holds
      cases holds
    rw [After, stays, update_eq_self]
    have filled : Filled (tr ++ [(i, ⟨.route request, .ok .continue_⟩)]) → False :=
      fun h => never ((filled_snoc.mp h).resolve_right nofun)
    refine ⟨guarded.alone, fun h => (filled h).elim, guarded.unblocked, fun h => ?_⟩
    obtain ⟨j, target, clicking, armed, -⟩ := guarded.armed h
    exact ⟨j, target, clicking, ⟨armed.1, armed.2, armed.3, armed.4⟩, fun h => (filled h).elim⟩

/-- A step of a client outside a click that is not the first block of `fill`, when the lock
stays and the login allowance stays or goes. -/
theorem free_plain (free : (phase i).isFree) (opens : e.op ≠ .lock)
    (lock : s'.mutationsBlocked = s.mutationsBlocked)
    (login : s'.loginAllowance = s.loginAllowance ∨ s'.loginAllowance = none)
    (submit : s'.submitAllowance = s.submitAllowance ∨ s'.submitAllowance = none)
    (unblocked : (phase i).after e = .unblocked → phase i = .unblocked ∨ s.mutationsBlocked = false) :
    After (driver.Guarded s') phase tr i e := by
  have none := guarded.unarmed free
  refine guarded.client (fun r => by rw [r] at free; cases free) (submit.elim (·.trans none) id) (fun h => ?_) fun h =>
    ?_
  · have before := guarded.locked ((filled_snoc.mp h).resolve_right opens)
    exact ⟨lock.trans before.1, login.elim (·.trans before.2) id⟩
  · rw [lock]
    exact (unblocked h).elim (guarded.unblocked i) id

end

theorem record_gate (entry : Recording) : (s.record entry).mutationsBlocked = s.mutationsBlocked ∧
    (s.record entry).loginAllowance = s.loginAllowance ∧ (s.record entry).submitAllowance = s.submitAllowance := by
  cases entry <;> exact ⟨rfl, rfl, rfl⟩

theorem observeLogin_gate (detected elsewhere : Bool) :
    (s.observeLogin detected elsewhere = (true, s) ∧ s.mutationsBlocked = false) ∨
      s.observeLogin detected elsewhere = (false, s.closeLogin) := by
  unfold DriverState.observeLogin
  split_ifs with first second
  · exact .inr rfl
  · rw [Bool.and_eq_true, Bool.not_eq_true'] at second
    exact .inl ⟨rfl, second.2⟩
  · exact .inr rfl

variable (guarded : driver.Guarded s phase tr)

include guarded

/-- A step outside a click keeps the driver guarded. -/
theorem free_step
    (free : (phase i).isFree) (permitted : (phase i).permits op) (h : driver.world.Reliable s op a s') :
    After (driver.Guarded s') phase tr i ⟨op, a⟩ := by
  have cases_ := free_cases free
  have client : phase i ≠ .routing := fun r => by rw [r] at free; cases free
  -- where the phase does not move on
  have still (stays : (phase i).after ⟨op, a⟩ = phase i) :
      (phase i).after ⟨op, a⟩ = .unblocked → phase i = .unblocked ∨ s.mutationsBlocked = false :=
    fun h => .inl (stays.symm.trans h)
  obtain ⟨⟨⟩, effect⟩ := h.effect
  cases op with
  | ask query =>
    obtain rfl : s' = s := effect
    exact guarded.free_plain free nofun rfl (.inl rfl) (.inl rfl) (still (after_quiet rfl a))
  | record entry =>
    cases effect
    have gate := record_gate (s := s) entry
    exact guarded.free_plain free nofun gate.1 (.inl gate.2.1) (.inl gate.2.2)
      (still (by rcases cases_ with h | h <;> rw [h] <;> rfl))
  | loginPaths | control | filled =>
    cases effect
    exact guarded.free_plain free nofun rfl (.inl rfl) (.inl rfl)
      (still (by rcases cases_ with h | h <;> rw [h] <;> rfl))
  | observeLogin detected elsewhere =>
    cases effect
    rcases observeLogin_gate (s := s) detected elsewhere with ⟨look, open_⟩ | close
    · rw [look]
      exact guarded.free_plain free nofun rfl (.inl rfl) (.inl rfl) fun _ => .inr open_
    · rw [close]
      refine guarded.free_plain free nofun rfl (.inr rfl) (.inl rfl) fun h => ?_
      rcases cases_ with at_ | at_ <;> rw [at_] at h <;> cases h
  | armLogin target =>
    have at_ : phase i = .unblocked := by
      rcases cases_ with h | h
      · rw [h] at permitted
        cases permitted
      · exact h
    cases effect
    have unlocked := guarded.unblocked i at_
    have gate : (s.armLogin target).mutationsBlocked = s.mutationsBlocked ∧
        (s.armLogin target).submitAllowance = s.submitAllowance := by
      unfold DriverState.armLogin
      split
      · split <;> exact ⟨rfl, rfl⟩
      · exact ⟨rfl, rfl⟩
    refine guarded.client client (gate.2.trans (guarded.unarmed free)) (fun h => ?_) fun _ => gate.1.trans unlocked
    have before := guarded.locked ((filled_snoc.mp h).resolve_right nofun)
    rw [before.1] at unlocked
    cases unlocked
  | lock =>
    cases effect
    refine guarded.client client (guarded.unarmed free) (fun _ => ⟨rfl, rfl⟩) fun h => ?_
    rcases cases_ with at_ | at_ <;> rw [at_] at h <;> cases h
  | arm target =>
    cases a with
    | error exc =>
      obtain rfl := arm_error (Eq.symm effect)
      exact guarded.free_plain free nofun rfl (.inl rfl) (.inl rfl)
        (still (by rcases cases_ with h | h <;> rw [h] <;> rfl))
    | ok armed =>
      obtain ⟨now, lock, login⟩ := arm_armed (Eq.symm effect)
      have clicking : (phase i).after ⟨.arm target, .ok armed⟩ = .clicking := by
        rcases cases_ with h | h <;> rw [h] <;> rfl
      rw [After, clicking]
      refine ⟨alone_update guarded.alone fun _ => client, fun h => ?_, fun j h => ?_, fun _ => ?_⟩
      · rw [lock, login]
        exact guarded.locked ((filled_snoc.mp h).resolve_right nofun)
      · rw [lock]
        by_cases same : j = i
        · rw [same, update_self] at h
          cases h
        · rw [update_of_ne same] at h
          exact guarded.unblocked j h
      · have inside : driver.InsideClick target (tr ++ [(i, ⟨.arm target, .ok armed⟩)]) :=
          ⟨tr, i, armed, [], rfl, fun _ mem => absurd mem not_mem_nil⟩
        exact ⟨i, target, update_self .., now, fun _ => inside⟩
  | disarm =>
    cases effect
    exact guarded.free_plain free nofun rfl (.inl rfl) (.inr rfl)
      (still (by rcases cases_ with h | h <;> rw [h] <;> rfl))
  | counters =>
    cases effect
    exact guarded.free_plain free nofun rfl (.inl rfl) (.inl rfl) (still (after_quiet rfl _))
  | route request =>
    rcases cases_ with h | h <;> rw [h] at permitted <;> cases permitted

/-- A step inside a click keeps the driver guarded. -/
theorem click_step
    (clicking : phase i = .clicking) (permitted : (phase i).permits op) (h : driver.world.Reliable s op a s') :
    After (driver.Guarded s') phase tr i ⟨op, a⟩ := by
  have client : phase i ≠ .routing := fun r => by rw [r] at clicking; cases clicking
  have quiet (same : s' = s) (asks : op.isQuiet) :
      After (driver.Guarded s') phase tr i ⟨op, a⟩ := by
    subst same
    have other : ∀ op', ¬ op'.isQuiet → op ≠ op' := fun op' loud same => loud (same ▸ asks)
    refine guarded.plain (after_quiet asks a) rfl rfl rfl (fun _ armed => armed) (other _ nofun) (other _ nofun) ?_
    rintro - ⟨request, same, -⟩
    exact other (.route request) nofun (congrArg Event.op same)
  rw [clicking] at permitted
  obtain ⟨⟨⟩, effect⟩ := h.effect
  cases op with
  | ask query => exact quiet effect rfl
  | counters => exact quiet (Prod.mk.inj effect).2 rfl
  | disarm =>
    cases effect
    refine guarded.client client rfl (fun h => ?_) fun h => ?_
    · exact guarded.locked ((filled_snoc.mp h).resolve_right nofun)
    · rw [clicking] at h
      cases h
  | _ => cases permitted

/-- **Every step keeps it.** -/
theorem step {sh : Bool} {op : DriverOp} {a : Except Exn op.Ans}
    (h : driver.world.reliable sh s op a s') (permitted : (phase i).permits op) :
    After (driver.Guarded s') phase tr i ⟨op, a⟩ := by
  match at_ : phase i with
  | .routing =>
    rw [at_] at permitted
    cases op with
    | route request =>
      obtain ⟨⟨⟩, effect⟩ := h.effect
      have ended := route_routed driver s request
      rw [← show (a, s') = driver.route s request from effect] at ended
      exact guarded.routed at_ ended
    | _ => cases permitted
  | .clicking => exact guarded.click_step at_ permitted h
  | .free | .unblocked => exact guarded.free_step (by rw [at_]; rfl) permitted h

end Guarded

theorem run_guarded [DecidableEq ι] {roles : ι → Role}
    (one : ∀ i j, (roles i).phase ≠ .routing → (roles j).phase ≠ .routing → i = j) {threads : ι → DriverM Unit}
    (run : driver.Run roles threads s tr) : ∃ phase, driver.Guarded s phase tr := by
  have start : driver.Guarded {} (fun i => (roles i).phase) ([] : List (ι × DriverEvent)) := by
    refine ⟨one, fun h => ?_, fun _ _ => rfl, fun h => absurd rfl h⟩
    obtain ⟨entry, mem, -⟩ := h
    cases mem
  obtain ⟨phase, guarded, -⟩ := Pool.monitored (fun _ => gateMonitor) (fun i => (roles i).phase) (fun _ _ _ => True)
    (driver.Guarded) (fun i => follows_start driver (roles i)) start (fun _ _ _ _ _ _ _ _ _ _ => trivial)
    (fun s phase tr i sh op a s' guarded h permitted => guarded.step h permitted) (fun _ _ _ _ _ h => h.elim) run
  exact ⟨phase, guarded⟩

/-! ## The writes that are continued -/

/-- What a continued write is bound to: a document of the main frame, the target of the click
without a query, a body of the recorded pairs, and the approved values in the approved fields.
Both are compared by digest, so each holds up to a collision of SHA-256. -/
structure BoundTo (driver : PlaywrightHeadedDriver) (s : DriverState) (target : ClickTarget) (request : Request) :
    Prop where
  document : request.isMainFrameDocument
  method : driver.methodOf request = driver.host.upper (strip target.expectedMethod)
  origin : driver.originOf request.url = .ok target.expectedOrigin
  path : ∃ parts, driver.host.urlsplit request.url = some parts ∧ parts.query = "" ∧
    (if parts.path = "" then "/" else parts.path) = target.expectedPath
  body : ∃ pairs, driver.host.parseQsl request.postData = some pairs ∧
    (pairs.Perm (s.recordedPairs target.locator) ∨
      driver.host.Collide (payloadText pairs) (payloadText (s.recordedPairs target.locator)))
  values : ∀ approved, formPayloadSha256 driver.host.toHost approved = target.expectedPayloadSha256 →
    (s.declared (payloadLocators target.expectedPayloadLocators)).Perm approved ∨
      driver.host.Collide (payloadText (s.declared (payloadLocators target.expectedPayloadLocators)))
        (payloadText approved)

/-- What a request that matches an allowance agrees with it in. -/
theorem allowanceMatches_true {method url : String} (h : driver.allowanceMatches allowance method url = .ok true) :
    method = allowance.method ∧ driver.originOf url = .ok allowance.origin ∧
      ∃ parts, driver.host.urlsplit url = some parts ∧ parts.query = "" ∧
        (if parts.path = "" then "/" else parts.path) = allowance.path := by
  unfold allowanceMatches targetMatches at h
  split at h
  · cases h
  · rename_i named
    rw [not_or, not_not] at named
    obtain ⟨origin, found, h⟩ := bind_eq_ok h
    split at h
    · cases h
    · rename_i same
      rw [not_not] at same
      refine ⟨named.2, same ▸ found, ?_⟩
      split at h
      · cases h
      · rename_i parts split_
        split at h
        · cases h
        · rename_i query
          refine ⟨parts, split_, by simpa using query, ?_⟩
          simpa using Except.ok.inj h

theorem verifyBoundPayload_true (h : driver.verifyBoundPayload s request) :
    formPayloadSha256 driver.host.toHost (s.declared s.submitPayloadLocators) = s.submitPayloadSha256 ∧
      ∃ pairs, driver.host.parseQsl request.postData = some pairs ∧
        formPayloadSha256 driver.host.toHost pairs = s.submitBodySha256 := by
  unfold verifyBoundPayload at h
  split_ifs at h
  split at h
  · cases h
  · rename_i pairs parsed
    rw [Bool.and_eq_true, decide_eq_true_eq, decide_eq_true_eq] at h
    exact ⟨h.1, pairs, parsed, h.2⟩

/-- A write that uses the allowance of a click is the one it was armed for. -/
theorem Armed.boundTo (armed : driver.Armed s target) (held : s.submitAllowance = some allowance)
    (accepted : driver.allowanceMatches allowance (driver.methodOf request) request.url = .ok true)
    (document : request.isMainFrameDocument) (verified : driver.verifyBoundPayload s request) :
    driver.BoundTo s target request := by
  obtain ⟨method, origin, path⟩ := allowanceMatches_true accepted
  obtain ⟨values, pairs, parsed, body⟩ := verifyBoundPayload_true verified
  cases armed.allowance.symm.trans held
  refine ⟨document, method, origin, path, ⟨pairs, parsed, ?_⟩, fun approved digest => ?_⟩
  · exact formPayloadSha256_perm (body.trans armed.body)
  · rw [armed.locators, armed.payload] at values
    exact formPayloadSha256_perm (values.trans digest.symm)

/-- **What leaves the browser.** With one client, whatever write `_route` continues goes to an
allowed origin, and once a field has been filled it is the one write of the click that is
under way. -/
theorem writes_bound_to_click [DecidableEq ι] (driver : PlaywrightHeadedDriver) (roles : ι → Role)
    (one : ∀ i j, (roles i).isClient → (roles j).isClient → i = j) {threads : ι → DriverM Unit} {s : DriverState}
    {tr : List (ι × DriverEvent)} (run : driver.Run roles threads s tr) (request : Request)
    (write : ¬ getMethods.contains (driver.methodOf request))
    (continued : (driver.route s request).1 = .ok .continue_) :
    (∃ decision, driver.host.evaluateNavigation driver.allowedOrigins driver.originMode [] request.url = .ok decision ∧
      decision.allowed) ∧
    (Filled tr → ∃ target, driver.InsideClick target tr ∧ driver.BoundTo s target request) := by
  refine ⟨route_allowed continued, fun filled => ?_⟩
  have client (i : ι) (h : (roles i).phase ≠ .routing) : (roles i).isClient := by
    cases role : roles i with
    | client calls => rfl
    | request request =>
      rw [role] at h
      exact absurd rfl h
  obtain ⟨phase, guarded⟩ := run_guarded (fun i j hi hj => one i j (client i hi) (client j hj)) run
  have ended := route_routed driver s request
  rw [continued] at ended
  generalize (driver.route s request).2 = after at ended
  cases ended with
  | refused _ _ _ _ _ not => exact absurd rfl not
  | read get => exact absurd get write
  | opened unlocked =>
    rw [(guarded.locked filled).1] at unlocked
    cases unlocked
  | loggedIn allowance held =>
    rw [(guarded.locked filled).2] at held
    cases held
  | submitted allowance held accepted document verified =>
    obtain ⟨i, target, -, armed, inside⟩ := guarded.armed (by rw [held]; nofun)
    exact ⟨target, inside filled, armed.boundTo held accepted document verified⟩

end Invariant

/-! ## Two runs on the small site -/

/-- `parse_qsl` without escapes. -/
def plainPairs (body : String) : Option (List (String × String)) :=
  some ((body.toList.splitOn '&').filterMap fun part => match part.splitOn '=' with
    | [key, value] => some (String.ofList key, String.ofList value)
    | _ => none)

/-- The driver on that site, which reads a form body and digests it. -/
def sampleDriver : PlaywrightHeadedDriver where
  host := { sampleBrowserHost with
    sha256Hex := checksum, sha256Hex_length := checksum_length, sha256Hex_hex := checksum_hex, parseQsl := plainPairs }
  urljoin _ action := .ok ("https://s" ++ action)
  allowedOrigins := ["https://s"]

/-- A page with one field, one button and a form with a password. -/
def samplePage (url : String) : (op : DriverOp) → Except Exn op.Ans
  | .ask .url => .ok url
  | .ask .title | .ask .bodyText | .ask (.inputValue _) | .ask (.innerText _) => .ok "x"
  | .ask .expired | .ask (.isDisabled _) | .ask (.isChecked _) => .ok false
  | .ask (.count [] selector) => .ok (if selector = "select" ∨ selector = "textarea" then 0 else 1)
  | .ask (.count (_ :: _) _) => .ok 1
  | .ask (.getAttribute _ name) => .ok (if name = "method" then some "POST" else some ("/" ++ name))
  | .ask .requirePage | .ask .sleep | .ask .loaded | .ask (.describe _) | .ask (.apply _ _) | .ask (.press _) => .ok ()
  | .loginPaths declared => .ok declared
  | .observeLogin _ _ => .ok false
  | .control _ => .ok none
  | .arm _ | .counters => .ok (0, 0)
  | .route _ => .ok .abort
  | .record _ | .armLogin _ | .lock | .filled | .disarm => .ok ()

/-- The roles along a schedule, on that page. -/
def samplePlay {ι : Type} [DecidableEq ι] (url : String) (roles : ι → Role) (schedule : List ι) :
    (ι → DriverM Unit) × DriverState × List (ι × DriverEvent) :=
  playPool (fun _ s op => some (sampleDriver.world.answerWith () (samplePage url) s op)) schedule
    (fun i => sampleDriver.start (roles i)) {} []

theorem samplePlay_run {ι : Type} [DecidableEq ι] (url : String) (roles : ι → Role) (schedule : List ι) :
    sampleDriver.Run roles (samplePlay url roles schedule).1 (samplePlay url roles schedule).2.1
      (samplePlay url roles schedule).2.2 := by
  refine playPool_pool (fun _ sh s op a s' answered => ?_) schedule .start
  have total (op : DriverOp) (h : sampleDriver.world.total op) : ∃ x, samplePage url op = .ok x :=
    absurd h Bool.false_ne_true
  have step := World.answerWith_reliable (k := ()) (fun _ _ h => absurd h Bool.false_ne_true) total sh s op
  rwa [Option.some.inj answered] at step

/-- A main-frame form submission to a path of the site. -/
def samplePost (path : String) : Request where
  url := "https://s" ++ path
  method := "POST"
  isNavigationRequest := true
  resourceType := "document"
  mainFrame := true
  contentType := "application/x-www-form-urlencoded"
  postData := "/name=x&/name=/value"

/-- One client reads the login page while another fills a field. -/
def overlapping : Bool → Role
  | true => .client [.snapshot false ["/login"]]
  | false => .client [.fill []]

/-- The lock is set between the look at it and the arming of the login allowance. -/
def overlappingPlay : (Bool → DriverM Unit) × DriverState × List (Bool × DriverEvent) :=
  samplePlay "https://s/login" overlapping
    (List.replicate 35 true ++ List.replicate 3 false ++ List.replicate 6 true)

/-- The login form is submitted after a fill, and no click was ever made. -/
theorem login_posted_after_fill :
    sampleDriver.Run overlapping overlappingPlay.1 overlappingPlay.2.1 overlappingPlay.2.2 ∧
    ¬ getMethods.contains (sampleDriver.methodOf (samplePost "/action")) ∧
    (sampleDriver.route overlappingPlay.2.1 (samplePost "/action")).1 = .ok .continue_ ∧
    Filled overlappingPlay.2.2 ∧ ∀ target, ¬ sampleDriver.InsideClick target overlappingPlay.2.2 := by
  have noClick : overlappingPlay.2.2.all (fun entry => match entry.2.op with | .arm _ => false | _ => true) := by
    decide +kernel
  have run : sampleDriver.Run overlapping overlappingPlay.1 overlappingPlay.2.1 overlappingPlay.2.2 :=
    samplePlay_run "https://s/login" overlapping _
  have continued : (sampleDriver.route overlappingPlay.2.1 (samplePost "/action")).1 = .ok .continue_ := by
    decide +kernel
  refine ⟨run, by decide, continued, filled_of_any (by decide +kernel), ?_⟩
  rintro target ⟨before, i, armed, after, split_, -⟩
  rw [split_] at noClick
  simp at noClick

/-- A client that reads the form, fills its field and clicks. -/
def sampleCalls : Bool → Role
  | true => .client [.snapshot false [], .fill [("ctl:0:0", "x")], .click {
      actionId := "send", locator := "act:0", receiptLocator := "", expectedMethod := "POST"
      expectedOrigin := "https://s", expectedPath := "/form"
      expectedPayloadSha256 := checksum (payloadText [("ctl:0:0", "x")])
      expectedPayloadLocators := "ctl:0:0" }]
  | false => .request (samplePost "/form")

/-- Those calls, up to the moment the button is pressed. -/
def sampleClick : (Bool → DriverM Unit) × DriverState × List (Bool × DriverEvent) :=
  samplePlay "https://s/form" sampleCalls (List.replicate 50 true)

theorem sampleClick_filled : Filled sampleClick.2.2 := filled_of_any (by decide +kernel)

/-- The submission of the form is continued, and it is that of the click. -/
theorem writes_bound_to_click_sample : ∃ target, sampleDriver.InsideClick target sampleClick.2.2 ∧
    sampleDriver.BoundTo sampleClick.2.1 target (samplePost "/form") :=
  (writes_bound_to_click sampleDriver sampleCalls (fun | true, true, _, _ => rfl) (samplePlay_run ..)
    (samplePost "/form") (by decide) (by decide +kernel)).2 sampleClick_filled

end PlaywrightHeadedDriver

end PersonalAssistant
