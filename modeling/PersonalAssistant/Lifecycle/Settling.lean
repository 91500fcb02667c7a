import PersonalAssistant.Lifecycle.Switch

/-!
# Operations settle

An operation of the manager passes through a transient state. Without a fault it always
leaves it again. With one fault, an operation that has no compensation leaves it exactly when
the fault does not strand it; an upgrade or a rollback leaves it unless the fault strands the
new start of the version it brings back.
-/

namespace PersonalAssistant.Lifecycle

open Coro

/-- The fault leaves the operation, begun on the stored record, in a transient state. -/
def Operation.StrandedBy (stored : Option ExtensionRecord) (fault : LifeFault) : Operation → Prop
  | .enable | .recover | .disable _ | .uninstall => strands fault = true
  | .preparePurge | .purge _ => False
  | .upgrade _ | .rollback => ∃ original, stored = some original ∧ strands fault = true ∧ startsWith original fault

/-- The operations that undo what they did when they fail. -/
def Operation.compensates : Operation → Bool
  | .upgrade _ | .rollback => true
  | _ => false

section Settles

variable {e : String} {t : Part} {α : Type} {c : LifeM α}

theorem clean_discard {T : Part → Prop} (h : CleanAt e c (fun _ => T) t) : CleanAt e (do let _ ← c) (fun _ => T) t :=
  .bind h (fun _ _ ended => .done ended) fun _ _ ended => ended

theorem struck_discard {permitted : Bool → LifeFault → Prop} {T : LifeFault → Part → Prop}
    (h : StruckAt e permitted c (fun fault _ => T fault) t) :
    StruckAt e permitted (do let _ ← c) (fun fault _ => T fault) t := by
  exact .bind_of (.any c) h (fun _ _ _ => .done _) (fun _ _ _ ended => .done ended)
    fun _ _ _ ended => ended

theorem settled_preparePurge : CleanAt e (preparePurge e) (fun _ t' => t' = t) t := by
  refine clean_require (fun _ _ => rfl) fun record _ _ => clean_requireState (fun _ _ => rfl) fun _ => ?_
  refine clean_aside rfl fun _ => clean_aside rfl fun _ => clean_aside rfl fun _ => clean_aside rfl fun _ => ?_
  exact .done rfl

theorem fails_preparePurge : StruckAt e Injected (preparePurge e) (fun _ _ t' => t' = t) t := by
  refine struck_require (fun _ _ => rfl) fun record _ _ => struck_requireState fun _ => ?_
  refine struck_aside rfl (fun _ _ _ => .done rfl) fun _ => struck_aside rfl (fun _ _ _ => .done rfl) fun _ => ?_
  refine struck_aside rfl (fun _ _ _ => .done rfl) fun _ => struck_aside rfl (fun _ _ _ => .done rfl) fun _ => ?_
  exact .done _

/-- A purge writes no other state than the one it found. -/
theorem settled_purge (confirmation : PurgeConfirmation) :
    CleanAt e (purge e confirmation) (fun _ t' => Settled t → Settled t') t := by
  refine clean_aside rfl fun preview => ?_
  cases preview with
  | none => exact .done id
  | some preview =>
    show Clean _ (if _ then _ else _) _ _
    split_ifs
    · exact .done id
    · refine clean_require (fun _ _ => id) fun record stored own => clean_requireState (fun _ _ => id) fun _ => ?_
      refine clean_aside rfl fun _ => clean_aside rfl fun _ => clean_save own ?_
      refine .done fun settled purged found => ?_
      cases found
      exact settled record stored

theorem fails_purge (confirmation : PurgeConfirmation) :
    StruckAt e Injected (purge e confirmation) (fun _ _ t' => Settled t → Settled t') t := by
  refine struck_aside rfl (fun _ _ _ => .done id) fun preview => ?_
  cases preview with
  | none => exact .done _
  | some preview =>
    show Struck _ _ (if _ then _ else _) _ _
    split_ifs
    · exact .done _
    · refine struck_require (fun _ _ => id) fun record stored own => struck_requireState fun _ => ?_
      refine struck_aside rfl (fun _ _ _ => .done id) fun _ => ?_
      refine struck_aside rfl (fun _ _ _ => .done id) fun _ => ?_
      refine struck_save own (fun _ _ => .done id) (fun _ _ => .done fun settled purged found => ?_)
        (.done _)
      cases found
      exact settled record stored

variable (op : Operation)

theorem operation_clean : CleanAt e (op.program e) (fun _ t' => Settled t → Settled t') t := by
  cases op with
  | enable => exact clean_discard (wp_mono (fun _ _ ended => ended.settled) endsWell_enable)
  | recover => exact clean_discard settled_recover
  | disable deadline => exact clean_discard (wp_mono (fun _ _ ended => ended.settled) (endsWell_disable deadline))
  | uninstall => exact clean_discard (wp_mono (fun _ _ ended => ended.settled) endsWell_uninstall)
  | preparePurge =>
    refine clean_discard (wp_mono (fun _ t' same settled => ?_) settled_preparePurge)
    rw [same]
    exact settled
  | purge confirmation => exact clean_discard (settled_purge confirmation)
  | upgrade candidate => exact clean_discard (wp_mono (fun _ _ ended => ended.settled) endsWell_upgrade)
  | rollback => exact clean_discard (wp_mono (fun _ _ ended => ended.settled) endsWell_rollback)

/-- What one fault does to an operation, operation by operation. -/
theorem operation_struck : StruckAt e Injected (op.program e) (fun fault _ t' => Settled t →
        (¬ op.StrandedBy t.stored fault → Settled t') ∧
        (op.compensates = false → Settled t' → ¬ op.StrandedBy t.stored fault)) t := by
  have injected : Injecting Injected := fun _ _ may => may
  have exact_ : ∀ {fault : LifeFault} {t' : Part} {P : Prop}, (Settled t' ↔ strands fault = false) →
      (¬ strands fault = true → Settled t') ∧ (P → Settled t' → ¬ strands fault = true) := by
    intro fault t' P iff
    rw [Bool.not_eq_true]
    exact ⟨iff.mpr, fun _ => iff.mp⟩
  cases op with
  | enable =>
    refine struck_discard (.mono (fun fault r t' ended settled => ?_) (fails_enable injected))
    exact exact_ (ended.1 settled)
  | recover =>
    refine struck_discard (.mono (fun fault r t' ended settled => ?_) (fails_recover injected))
    exact exact_ (ended settled)
  | disable deadline =>
    refine struck_discard (.mono (fun fault r t' ended settled => ?_) (fails_disable injected deadline))
    exact exact_ (ended.settled settled)
  | uninstall =>
    refine struck_discard (.mono (fun fault r t' ended settled => ?_) (fails_uninstall injected))
    exact exact_ (ended.settled settled)
  | preparePurge =>
    refine struck_discard (.mono (fun fault r t' same settled => ?_) fails_preparePurge)
    exact ⟨fun _ => same ▸ settled, fun _ _ => id⟩
  | purge confirmation =>
    refine struck_discard (.mono (fun fault r t' ended settled => ?_) (fails_purge confirmation))
    exact ⟨fun _ => ended settled, fun _ _ => id⟩
  | upgrade candidate =>
    refine struck_discard (.mono (fun fault r t' ended settled => ?_) (fails_upgrade injected))
    exact ⟨ended.settled settled, nofun⟩
  | rollback =>
    refine struck_discard (.mono (fun fault r t' ended settled => ?_) (fails_rollback injected))
    exact ⟨ended.settled settled, nofun⟩

end Settles

/-- **An operation with at most one failure or cancellation settles unless the fault strands
it**, and one without a compensation only then. The extension's part is otherwise changed by
nobody while the operation runs; the operations on other extensions run as they please. -/
theorem operation_settles (e : String) (op : Operation) {s₀ s : System} {faults : List LifeFault} {tr : List LifeEvent}
    {outcome : Except Exn Unit} (start : Settled (part e s₀))
    (run : Coro.Alone (struck answers (once Injected)) (Elsewhere e) (op.program e) (s₀, []) tr outcome (s, faults)) :
    ((∀ fault ∈ faults, ¬ op.StrandedBy (s₀.store.get e) fault) → Settled (part e s)) ∧
    (op.compensates = false → Settled (part e s) → ∀ fault ∈ faults, ¬ op.StrandedBy (s₀.store.get e) fault) := by
  have ended := run.post (views e fun _ : Unit => once Injected) (wp_once (operation_clean op) (operation_struck op))
  rcases ended with ⟨none, settles⟩ | ⟨fault, one, settles⟩
  · obtain rfl : faults = [] := none
    exact ⟨fun _ => settles start, fun _ _ _ mem => absurd mem List.not_mem_nil⟩
  · obtain rfl : faults = [fault] := one
    obtain ⟨back, only⟩ := settles start
    refine ⟨fun unstranded => back (unstranded fault List.mem_cons_self), fun bare settled other mem => ?_⟩
    rw [List.mem_singleton.mp mem]
    exact only bare settled

/-! ## Sample runs -/

/-- A version of a small extension. -/
def sampleManifest (version : String) : ExtensionManifest :=
  { root := "/extensions/demo.mail", id := "demo.mail", version, stateSchemaVersion := 1
    slots := [("ToolProvider", ["demo.send"])] }

/-- Its record. -/
def sampleRecord (version : String) (state : ExtensionState) : ExtensionRecord :=
  { manifest := sampleManifest version, artifactHash := "sha256:demo", state := state, installPath := some "/opt/demo" }

/-- A host on which version 1.0.0 is enabled and published, and no other extension. -/
def sampleSystem : System where
  store := Keyed.ofValues ExtensionRecord.id [sampleRecord "1.0.0" .enabled]
  registry :=
    ⟨1, Keyed.ofValues ExtensionRecord.id [sampleRecord "1.0.0" .enabled],
      [("demo.send", ⟨"demo.mail", "1.0.0", "ToolProvider"⟩)], rfl⟩
  purges := []
  plans := []

/-- An outside that answers every request, with the given health of a record. -/
def canned (healthy : ExtensionRecord → Bool) : (op : LifeOp) → Except Exn op.Ans
  | .health record => .ok (healthy record)
  | .drain _ _ => .ok none
  | .rollbackVersion _ => .ok (sampleRecord "0.9.0" .disabled)
  | .stage source => .ok ⟨source, "/staged", "sha256:demo"⟩
  | .computeHash _ => .ok "sha256:demo"
  | .parse _ => .ok (sampleManifest "1.0.0")
  | .install _ _ => .ok ⟨"/opt/demo", "py", none⟩
  | .isDirectory _ => .ok true
  | .namespaces _ => .ok []
  | .hashPayload _ => .ok "sha256:payload"
  | .tokenUrlsafe => .ok "token"
  | .now => .ok 0
  | .timestamp => .ok 0
  | .start _ | .stop _ | .activate _ _ | .discard _ | .verify _ _ | .uninstallCode _ | .removeVersion _
  | .removeOrphanVersion _ _ | .cleanFailedInstall _ | .purgeData _ | .createOperation _ _ _ | .interruptRunning _ =>
    .ok ()
  | .getRecord _ | .allRecords | .saveRecord _ _ | .registryEnable _ | .registryDisable _ | .registryReplaceAll _
  | .pendingPurge _ | .rememberPurge _ _ | .forgetPurge _ | .stalePlans _ | .popPlan _ | .registerPlan _
  | .claimPlan _ _ _ | .consumePlan _ => .error (.other "NotImplementedError")

/-- The environment of a sample run: the world with the canned answers, and scripted faults. -/
abbrev sampleEnvironment (healthy : ExtensionRecord → Bool) (strike : List LifeFault → LifeOp → Option (Exn × Bool)) :
    System × List LifeFault → (op : LifeOp) → Except Exn op.Ans × System × List LifeFault :=
  world.scripted ⟨0, "sha256:demo"⟩ (canned healthy) strike

variable {permitted : Permitted LifePort Exn} (op : Operation)

theorem sampleEnvironment_struck {healthy : ExtensionRecord → Bool}
    {strike : List LifeFault → LifeOp → Option (Exn × Bool)}
    (may : ∀ sh faults op exc applied, strike faults op = some (exc, applied) → permitted sh faults ⟨op, exc, applied⟩)
    (sh : Bool) (st : System × List LifeFault) (op : LifeOp) :
    struck answers permitted sh st op (sampleEnvironment healthy strike st op).1
      (sampleEnvironment healthy strike st op).2 := by
  refine World.scripted_struck (fun s op outside => ?_) (fun op outside => ?_) may sh st op
  · cases op <;> first | rfl | cases outside
  · cases op <;> first | exact ⟨_, rfl⟩ | cases outside

/-- The worker's pipe breaks while it is drained. -/
def pipeBreaks : List LifeFault → LifeOp → Option (Exn × Bool)
  | [], .drain _ _ => some (.other "BrokenPipeError", false)
  | _, _ => none

/-- The sample run of an operation struck by a broken pipe. -/
def brokenRun (op : Operation) : List LifeEvent × Except Exn Unit × System × List LifeFault :=
  play (sampleEnvironment (fun _ => true) pipeBreaks) (op.program "demo.mail") (sampleSystem, [])

theorem brokenRun_alone
    (may : ∀ sh record deadline, permitted sh [] ⟨.drain record deadline, .other "BrokenPipeError", false⟩) :
    Coro.Alone (struck answers permitted) (Elsewhere "demo.mail") (op.program "demo.mail") (sampleSystem, [])
      (brokenRun op).1 (brokenRun op).2.1 (brokenRun op).2.2 := by
  refine Coro.Alone.of_exec (play_exec (sampleEnvironment_struck ?_) _ _)
  intro sh faults op exc applied strike
  cases faults with
  | cons fault faults => cases op <;> cases strike
  | nil =>
    cases op <;> cases strike
    exact may sh _ _

theorem pipeBreaks_injected (sh : Bool) (record : ExtensionRecord) (deadline : Rat) :
    once Injected sh [] ⟨.drain record deadline, .other "BrokenPipeError", false⟩ :=
  ⟨rfl, rfl, fun _ => nofun, nofun⟩

theorem settled_sampleSystem : Settled (part "demo.mail" sampleSystem) := by
  intro record found
  have known : (part "demo.mail" sampleSystem).stored = some (sampleRecord "1.0.0" .enabled) := rfl
  cases known.symm.trans found
  rfl

/-- An upgrade whose drain breaks: the original version is started again. -/
theorem operation_settles_upgrade :
    Settled (part "demo.mail" (brokenRun (.upgrade (sampleRecord "2.0.0" .installedDisabled))).2.2.1) := by
  refine (operation_settles "demo.mail" _ settled_sampleSystem (brokenRun_alone _ pipeBreaks_injected)).1
    fun fault mem stranded => ?_
  have one : (brokenRun (.upgrade (sampleRecord "2.0.0" .installedDisabled))).2.2.2 =
      [⟨.drain (sampleRecord "1.0.0" .draining) (0 + 30), .other "BrokenPipeError", false⟩] := rfl
  cases List.mem_singleton.mp mem
  obtain ⟨original, -, -, starts⟩ := stranded
  exact starts

/-- **A broken pipe strands a `disable`**: the extension is left in `DRAINING`. -/
theorem broken_drain_strands :
    ∃ (s : System) (faults : List LifeFault) (tr : List LifeEvent) (outcome : Except Exn Unit),
      Settled (part "demo.mail" sampleSystem) ∧
      Coro.Alone (struck answers (once Injected)) (Elsewhere "demo.mail") (Operation.program "demo.mail" (.disable 30))
        (sampleSystem, []) tr outcome (s, faults) ∧
      s.store.get "demo.mail" = some (sampleRecord "1.0.0" .draining) :=
  ⟨_, _, _, _, settled_sampleSystem, brokenRun_alone (.disable 30) pipeBreaks_injected, rfl⟩

end PersonalAssistant.Lifecycle
