import PersonalAssistant.Lifecycle.Settling

/-!
# What the registry publishes

The registry and the store are changed in different steps of every operation. They agree
again at its end, with at most one failure or cancellation, where the calls on one extension
run one after the other and the fault is not one that separates the two: the lost save of
`DRAINING`, before which `disable` has already revoked the registration, and a failed read or
a lost write of a quarantine, which has done the same.
-/

namespace PersonalAssistant.Lifecycle

open Coro

/-- The calls that change the registry: the operations of the manager, and a quarantine after
a failure of the worker of some version. -/
inductive Call where
  | enable
  | disable (deadlineEpoch : Rat)
  | uninstall
  | upgrade (candidate : ExtensionRecord)
  | rollback
  | quarantine (version : String) (exc : Exn)

/-- What a call awaits. -/
def Call.program (extensionId : String) : Call → LifeM Unit
  | .enable => Operation.program extensionId .enable
  | .disable deadlineEpoch => Operation.program extensionId (.disable deadlineEpoch)
  | .uninstall => Operation.program extensionId .uninstall
  | .upgrade candidate => Operation.program extensionId (.upgrade candidate)
  | .rollback => Operation.program extensionId .rollback
  | .quarantine version exc => Lifecycle.quarantine extensionId version exc

/-- A request to the store that failed without an effect. -/
def losesStore (fault : LifeFault) : Bool :=
  match fault.op with
  | .getRecord _ => true
  | .saveRecord _ _ => !fault.applied
  | _ => false

/-- The faults after which a call still leaves the registry and the store in agreement. -/
def Call.Spared (fault : LifeFault) : Call → Prop
  | .disable _ | .uninstall => losesDraining fault = false
  | .quarantine _ _ => losesStore fault = false
  | .enable | .upgrade _ | .rollback => True

/-- A failure or a cancellation that spares the call. -/
def Call.Harmless (call : Call) (shielded : Bool) (fault : LifeFault) : Prop :=
  Injected shielded fault ∧ call.Spared fault

section Quarantine

variable {e version : String} {t : Part} {exc : Exn}

variable {record : ExtensionRecord}

theorem ownsFailure_iff :
    ownsFailure version record = true ↔ record.state = .enabled ∧ record.manifest.version = version := by
  simp [ownsFailure]

theorem seen_saveOwned {t' : Part} {a : Except Exn Bool}
    (h : partAnswers e t (.saveRecord (record.as .quarantined) (some (.enabled, record.manifest.version))) a t')
    (id : record.id = e) (stored : t.stored = some record) (enabled : record.state = .enabled) :
    a = .ok true ∧ t' = { t with stored := some (record.as .quarantined) } := by
  rcases seen_saveExpected h id with ⟨rfl, rfl, -⟩ | ⟨-, -, differs⟩
  · exact ⟨rfl, rfl⟩
  · exact absurd ⟨enabled, rfl⟩ (differs record stored)

/-- The save of a quarantine that runs alone goes through. -/
theorem clean_demote (id : record.id = e) (stored : t.stored = some record)
    (enabled : record.state = .enabled) (published : t.published = none) :
    CleanAt e (demote e record exc) (fun _ t' => Agrees t') t := by
  refine wp.await fun a t' h => ⟨trivial, ?_⟩
  obtain ⟨rfl, rfl⟩ := seen_saveOwned h id stored enabled
  exact clean_aside rfl fun _ => .done (agrees_saved published rfl nofun)

theorem struck_demote (id : record.id = e) (stored : t.stored = some record)
    (enabled : record.state = .enabled) (published : t.published = none) :
    StruckAt e (Call.Harmless (.quarantine version exc)) (demote e record exc)
      (fun _ _ t' => Agrees t') t := by
  have agrees : Agrees { t with stored := some (record.as .quarantined) } := agrees_saved published rfl nofun
  refine struck_await.mpr ⟨fun a t' h => ?_, fun exc applied t' may strikes => ?_⟩
  · obtain ⟨rfl, rfl⟩ := seen_saveOwned h id stored enabled
    refine struck_suppress (S := fun _ _ t' => Agrees t') (.any _) ?_ fun _ _ _ ended => ended
    exact struck_aside rfl (fun _ _ _ => .done agrees) fun _ => .done _
  · cases applied with
    | false => cases may.2
    | true =>
      obtain ⟨b, h⟩ := strikes_applied.mp strikes
      rw [(seen_saveOwned h id stored enabled).2]
      exact .done agrees

theorem clean_quarantine : CleanAt e (quarantine e version exc) (fun _ t' => Agrees t → Agrees t') t := by
  refine clean_get fun own => ?_
  show Clean _ (if _ then _ else _) _ _
  split_ifs with owned
  · obtain ⟨record, stored, owns⟩ := (Option.any_eq_true ..).mp owned
    refine clean_registryDisable (clean_get fun _ => ?_)
    rw [stored]
    show Clean _ (if _ then _ else _) _ _
    rw [if_pos owns]
    refine wp_mono (fun _ _ agrees _ => agrees) ?_
    exact clean_demote (own record stored) rfl (ownsFailure_iff.mp owns).1 rfl
  · exact .done id

theorem struck_quarantine : StruckAt e (Call.Harmless (.quarantine version exc)) (quarantine e version exc)
      (fun _ _ t' => Agrees t → Agrees t') t := by
  refine struck_get (fun _ _ may => nomatch may.2) fun own => ?_
  show Struck _ _ (if _ then _ else _) _ _
  split_ifs with owned
  · obtain ⟨record, stored, owns⟩ := (Option.any_eq_true ..).mp owned
    refine struck_registryDisable (fun _ _ may => may.1) (fun exc _ => .done id) ?_
    refine struck_get (fun _ _ may => nomatch may.2) fun _ => ?_
    rw [stored]
    show Struck _ _ (if _ then _ else _) _ _
    rw [if_pos owns]
    refine .mono (fun _ _ _ agrees _ => agrees) ?_
    exact struck_demote (own record stored) rfl (ownsFailure_iff.mp owns).1 rfl
  · exact .done _

end Quarantine

section Calls

variable {e : String} {t : Part}

theorem call_clean (call : Call) : CleanAt e (call.program e) (fun _ t' => Agrees t → Agrees t') t := by
  cases call with
  | enable => exact clean_discard (wp_mono (fun _ _ ended => ended.agrees) endsWell_enable)
  | disable deadline => exact clean_discard (wp_mono (fun _ _ ended => ended.agrees) (endsWell_disable deadline))
  | uninstall => exact clean_discard (wp_mono (fun _ _ ended => ended.agrees) endsWell_uninstall)
  | upgrade candidate => exact clean_discard (wp_mono (fun _ _ ended => ended.agrees) endsWell_upgrade)
  | rollback => exact clean_discard (wp_mono (fun _ _ ended => ended.agrees) endsWell_rollback)
  | quarantine version exc => exact clean_quarantine

theorem call_struck (call : Call) :
    StruckAt e call.Harmless (call.program e) (fun _ _ t' => Agrees t → Agrees t') t := by
  have injected : Injecting call.Harmless := fun _ _ may => may.1
  cases call with
  | enable => exact struck_discard (.mono (fun _ _ _ ended => ended.2) (fails_enable injected))
  | disable deadline =>
    refine struck_discard (.mono (fun fault r t' ended agrees => ?_) (.allowed (fails_disable injected deadline)))
    obtain ⟨⟨sh, may⟩, fails⟩ := ended
    exact fails.agrees agrees may.2
  | uninstall =>
    refine struck_discard (.mono (fun fault r t' ended agrees => ?_) (.allowed (fails_uninstall injected)))
    obtain ⟨⟨sh, may⟩, fails⟩ := ended
    exact fails.agrees agrees may.2
  | upgrade candidate => exact struck_discard (.mono (fun _ _ _ ended => ended.agrees) (fails_upgrade injected))
  | rollback => exact struck_discard (.mono (fun _ _ _ ended => ended.agrees) (fails_rollback injected))
  | quarantine version exc => exact struck_quarantine

end Calls

/-- **The registry publishes what is stored as enabled.** In every run in which the calls on an
extension are made one after the other, with at most one failure or cancellation and that one
harmless, the registry and the store agree on it once all of them have ended. The calls on
other extensions run as they please. -/
theorem registry_agrees {ι : Type} [DecidableEq ι] (e : String) (calls : ι → Call) {s₀ s : System}
    {faults : List LifeFault} {threads : ι → LifeM Unit} {tr : List (ι × LifeEvent)} (start : Agrees (part e s₀))
    (run : Serial (fun i => struck answers (once (calls i).Harmless)) (Elsewhere e) (fun i => (calls i).program e)
      (s₀, []) threads (s, faults) tr)
    (ended : ∀ i, Resting threads tr i) : Agrees (part e s) := by
  refine run.ended (I := fun st => Agrees st.1) (G := fun _ _ _ => True)
    (views e fun i => once (calls i).Harmless) (fun i st agrees => ?_) start ended
  obtain ⟨t, faults⟩ := st
  cases faults with
  | nil =>
    refine wp_mono (fun r st ended => ?_) (wp_once (call_clean (calls i)) (call_struck (calls i)))
    rcases ended with ⟨-, keeps⟩ | ⟨fault, -, keeps⟩ <;> exact keeps agrees
  | cons fault faults =>
    refine wp_mono (fun r st ended => ?_) (wp_spent (List.cons_ne_nil fault faults) (call_clean (calls i)))
    exact ended.2 agrees

/-! ## Sample runs -/

theorem agrees_sampleSystem : Agrees (part "demo.mail" sampleSystem) := agrees_up rfl rfl rfl

/-- A `disable` whose drain breaks leaves the extension in `DRAINING`, and revoked. -/
theorem registry_agrees_broken : Agrees (part "demo.mail" (brokenRun (.disable 30)).2.2.1) := by
  have harmless : ∀ sh record deadline, once (Call.Harmless (.disable 30)) sh [] ⟨.drain record deadline,
      .other "BrokenPipeError", false⟩ := fun _ _ _ => ⟨rfl, ⟨rfl, fun _ => nofun, nofun⟩, rfl⟩
  obtain ⟨threads, events, pool, ended, -⟩ := brokenRun_alone (.disable 30) harmless
  exact registry_agrees "demo.mail" (fun _ : Unit => .disable 30) agrees_sampleSystem (.of_pool pool)
    fun _ => .inr ⟨_, ended⟩

variable {record : ExtensionRecord} {ι : Type}

theorem not_agrees {t : Part} (stored : t.stored = some record)
    (enabled : record.state = .enabled) (published : t.published = none) : ¬ Agrees t := by
  intro agrees
  obtain ⟨other, found, -⟩ := (agrees record.manifest.version).mpr ⟨record, stored, enabled, rfl⟩
  rw [published] at found
  cases found

/-- The calls, all run to their end with these faults, separate the registry from the store. -/
def Separated {ι : Type} [DecidableEq ι] (calls : ι → Call) (faults : List LifeFault) : Prop :=
  ∃ (threads : ι → LifeM Unit) (s : System) (tr : List (ι × LifeEvent)),
    Pool (fun _ => struck answers (once Injected)) (Elsewhere "demo.mail") (fun i => (calls i).program "demo.mail")
      (sampleSystem, []) threads (s, faults) tr ∧
    (∀ i, ∃ r, threads i = .done r) ∧ ¬ Agrees (part "demo.mail" s)

/-- A sample run of several calls along a schedule. -/
def sampleCalls {ι : Type} [DecidableEq ι] (calls : ι → Call) (strike : List LifeFault → LifeOp → Option (Exn × Bool))
    (schedule : List ι) : (ι → LifeM Unit) × (System × List LifeFault) × List (ι × LifeEvent) :=
  playPool (fun _ st op => some (sampleEnvironment (fun _ => true) strike st op)) schedule
    (fun i => (calls i).program "demo.mail") (sampleSystem, []) []

theorem sampleCalls_pool [DecidableEq ι] (calls : ι → Call)
    {strike : List LifeFault → LifeOp → Option (Exn × Bool)} (schedule : List ι)
    (may : ∀ sh faults op exc applied, strike faults op = some (exc, applied) →
      once Injected sh faults ⟨op, exc, applied⟩) :
    Pool (fun _ => struck answers (once Injected)) (Elsewhere "demo.mail") (fun i => (calls i).program "demo.mail")
      (sampleSystem, []) (sampleCalls calls strike schedule).1 (sampleCalls calls strike schedule).2.1
      (sampleCalls calls strike schedule).2.2 := by
  refine playPool_pool (fun i sh st op a st' answered => ?_) schedule .start
  obtain ⟨rfl, rfl⟩ := Prod.mk.inj (Option.some.inj answered)
  exact sampleEnvironment_struck may sh st op

theorem separated_of_play [DecidableEq ι] (calls : ι → Call)
    (strike : List LifeFault → LifeOp → Option (Exn × Bool)) (schedule : List ι)
    (may : ∀ sh faults op exc applied, strike faults op = some (exc, applied) →
      once Injected sh faults ⟨op, exc, applied⟩)
    (ended : ∀ i, ∃ r, (sampleCalls calls strike schedule).1 i = .done r)
    (stored : (sampleCalls calls strike schedule).2.1.1.store.get "demo.mail" = some record)
    (enabled : record.state = .enabled)
    (published : (sampleCalls calls strike schedule).2.1.1.registry.extensions.get "demo.mail" = none) :
    Separated calls (sampleCalls calls strike schedule).2.1.2 :=
  ⟨_, _, _, sampleCalls_pool calls schedule may, ended, not_agrees stored enabled published⟩

/-- The first save that `which` picks is lost. -/
def saveLost (which : ExtensionRecord → Bool) : List LifeFault → LifeOp → Option (Exn × Bool)
  | [], .saveRecord record _ => if which record then some (.other "ConnectionError", false) else none
  | _, _ => none

theorem saveLost_injected (which : ExtensionRecord → Bool) (sh : Bool) (faults : List LifeFault)
    (op : LifeOp) (exc : Exn) (applied : Bool) (strike : saveLost which faults op = some (exc, applied)) :
    once Injected sh faults ⟨op, exc, applied⟩ := by
  cases faults with
  | cons fault faults => cases op <;> cases strike
  | nil =>
    cases op with
    | saveRecord record expected =>
      simp only [saveLost] at strike
      split_ifs at strike
      cases strike
      exact ⟨rfl, rfl, fun _ => nofun, nofun⟩
    | _ => cases strike

/-- A late failure of the old worker, while the extension is disabled and enabled again. -/
def raceCalls : Fin 3 → Call
  | 0 => .quarantine "1.0.0" (.timeout "RpcTimeoutError")
  | 1 => .disable 30
  | 2 => .enable

/-- The quarantine has read the record when the two operations run; it revokes the
registration just after `enable` published it. -/
def raceSchedule : List (Fin 3) :=
  ([0] ++ List.replicate 6 1 ++ List.replicate 5 2 ++ [0, 0, 2]).filterMap ((List.finRange 3)[·]?)

/-- **The registry is separated from the store** by the lost save of `DRAINING` in a `disable`,
by the lost save of a quarantine, and without any fault by a quarantine that overlaps a
`disable` and an `enable`. -/
theorem registry_separated : Agrees (part "demo.mail" sampleSystem) ∧
    (∃ fault, Separated (fun _ : Unit => .disable 30) [fault]) ∧
    (∃ fault, Separated (fun _ : Unit => .quarantine "1.0.0" (.timeout "RpcTimeoutError")) [fault]) ∧
    Separated raceCalls [] := by
  refine ⟨agrees_sampleSystem,
    ⟨⟨.saveRecord (sampleRecord "1.0.0" .draining) none, .other "ConnectionError", false⟩, ?_⟩,
    ⟨⟨.saveRecord (sampleRecord "1.0.0" .quarantined) (some (.enabled, "1.0.0")), .other "ConnectionError", false⟩, ?_⟩,
      ?_⟩
  · let draining : ExtensionRecord → Bool := fun record => record.state = .draining
    exact separated_of_play _ (saveLost draining) (List.replicate 3 ()) (saveLost_injected draining)
      (fun _ => ⟨_, rfl⟩) rfl rfl rfl
  · let quarantined : ExtensionRecord → Bool := fun record => record.state = .quarantined
    exact separated_of_play _ (saveLost quarantined) (List.replicate 4 ()) (saveLost_injected quarantined)
      (fun _ => ⟨_, rfl⟩) rfl rfl rfl
  · refine separated_of_play raceCalls (fun _ _ => none) raceSchedule
      (fun _ _ _ _ _ strike => absurd strike.symm (Option.some_ne_none _)) (fun i => ?_) rfl rfl rfl
    match i with
    | 0 => exact ⟨_, rfl⟩
    | 1 => exact ⟨_, rfl⟩
    | 2 => exact ⟨_, rfl⟩

end PersonalAssistant.Lifecycle
