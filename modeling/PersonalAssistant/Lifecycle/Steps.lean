import PersonalAssistant.Lifecycle.Part

/-!
# How an operation ends

For each function of the manager, how it ends without a fault (`clean_`) and with one fault
(`struck_`), over the part of its extension. A fault *strands* the operation it strikes when
nothing after it undoes the transient state the operation was in.
-/

namespace PersonalAssistant.Lifecycle

open Coro

/-- The states an operation passes through. -/
def isTransient : ExtensionState → Bool
  | .starting | .draining | .upgrading | .uninstalling => true
  | _ => false

/-- A fault after which an operation without a compensation leaves its transient state: the
save of the transient state went through although it raised, the save that ends it was lost,
or what stands between the two raised. -/
def strands (fault : LifeFault) : Bool :=
  match fault.op with
  | .saveRecord record _ =>
    if isTransient record.state then fault.applied
    else (record.state = .quarantined || record.state = .disabled || record.state = .uninstalled) && !fault.applied
  | .stop _ | .uninstallCode _ => true
  | .drain _ _ => !fault.exn.isExtensionError
  | _ => false

/-- The fault is at a request with which `_start_and_publish` starts this record or gives it
up. -/
def startsWith (record : ExtensionRecord) (fault : LifeFault) : Prop :=
  match fault.op with
  | .saveRecord saved _ => saved = record.as .starting ∨ saved = record.as .quarantined
  | .stop stopped => stopped = record.as .starting
  | _ => False

/-- How a start with a fault ends: given up in `STARTING`, quarantined, or not begun. -/
def StartFails (record : ExtensionRecord) (t : Part) (fault : LifeFault) (t' : Part) : Prop :=
  (t'.published = t.published ∨ t'.published = none) ∧
  ((strands fault = true ∧ startsWith record fault ∧ t'.stored = some (record.as .starting)) ∨
    (strands fault = false ∧ (t'.stored = t.stored ∨ t'.stored = some (record.as .quarantined))))

section Start

variable {e : String} {t : Part} {permitted : Bool → LifeFault → Prop} {record starting : ExtensionRecord}

theorem clean_bringUp (id : starting.id = e) : CleanAt e (bringUp starting)
      (fun r t' => (r = .ok () ∧ t' = { t with published := some (starting.as .enabled) }) ∨
        ((∃ exc, r = .error exc) ∧ t' = t)) t := by
  refine clean_aside rfl fun _ => clean_aside rfl fun healthy => ?_
  cases healthy with
  | false => exact .done (.inr ⟨⟨_, rfl⟩, rfl⟩)
  | true =>
    refine clean_registryEnable id ?_ fun exc => ?_
    · exact .done (.inl ⟨rfl, rfl⟩)
    · exact .done (.inr ⟨⟨exc, rfl⟩, rfl⟩)

theorem struck_bringUp (injected : Injecting permitted) (id : starting.id = e) :
    StruckAt e permitted (bringUp starting)
      (fun fault r t' => (∃ exc, r = .error exc) ∧ t' = t ∧ strands fault = false) t := by
  refine struck_aside rfl (fun exc _ _ => .done ⟨⟨exc, rfl⟩, rfl, rfl⟩) fun _ => ?_
  refine struck_aside rfl (fun exc _ _ => .done ⟨⟨exc, rfl⟩, rfl, rfl⟩) fun healthy => ?_
  cases healthy with
  | false => exact .done _
  | true =>
    refine struck_registryEnable id injected (fun exc _ => ?_) (.done _) fun exc => .done _
    exact .done ⟨⟨exc, rfl⟩, rfl, rfl⟩

theorem clean_giveUp (id : record.id = e) (exc : Exn) : CleanAt e (giveUp (record.as .starting) exc)
      (fun r t' => (∃ exc, r = .error exc) ∧ t' = { t with stored := some (record.as .quarantined) }) t := by
  refine clean_aside rfl fun _ => clean_save id ?_
  exact .done ⟨⟨exc, rfl⟩, rfl⟩

theorem struck_giveUp (id : record.id = e) (exc : Exn) : StruckAt e permitted (giveUp (record.as .starting) exc)
      (fun fault r t' => (∃ exc, r = .error exc) ∧
        ((strands fault = true ∧ startsWith record fault ∧ t' = t) ∨
          (strands fault = false ∧ t' = { t with stored := some (record.as .quarantined) }))) t := by
  refine struck_aside rfl (fun exc _ _ => .done ⟨⟨exc, rfl⟩, .inl ⟨rfl, rfl, rfl⟩⟩) fun _ => ?_
  refine struck_save id (fun exc _ => ?_) (fun exc _ => ?_) (.done _)
  · exact .done ⟨⟨exc, rfl⟩, .inl ⟨rfl, .inr rfl, rfl⟩⟩
  · exact .done ⟨⟨exc, rfl⟩, .inr ⟨rfl, rfl⟩⟩

/-- A start without a fault: published and enabled, or quarantined. -/
theorem clean_startAndPublish (id : record.id = e) : CleanAt e (startAndPublish record) (fun r t' =>
        (r = .ok (record.as .enabled) ∧
          t' = { t with stored := some (record.as .enabled), published := some (record.as .enabled) }) ∨
        ((∃ exc, r = .error exc) ∧ t' = { t with stored := some (record.as .quarantined) })) t := by
  refine clean_save id ?_
  refine .attempt_bind (clean_bringUp id) fun r t' ended => ?_
  rcases ended with ⟨rfl, rfl⟩ | ⟨⟨exc, rfl⟩, rfl⟩
  · refine clean_save id ?_
    exact .done (.inl ⟨rfl, rfl⟩)
  · refine wp_mono (fun r t' ended => .inr ?_) (clean_giveUp id exc)
    obtain ⟨raised, rfl⟩ := ended
    exact ⟨raised, rfl⟩

/-- One fault in `_start_and_publish`. -/
theorem struck_startAndPublish (injected : Injecting permitted) (id : record.id = e) :
    StruckAt e permitted (startAndPublish record)
      (fun fault r t' => (∃ exc, r = .error exc) ∧ StartFails record t fault t') t := by
  -- a start that is given up after a harmless fault, published or not
  have quarantined : ∀ (fault : LifeFault) (exc : Exn) (t₁ : Part), strands fault = false →
      (t₁.published = t.published ∨ t₁.published = none) →
      CleanAt e (giveUp (record.as .starting) exc)
        (fun r t' => (∃ exc, r = .error exc) ∧ StartFails record t fault t') t₁ := by
    intro fault exc t₁ harmless published
    refine wp_mono (fun r t' ended => ?_) (clean_giveUp id exc)
    obtain ⟨raised, rfl⟩ := ended
    exact ⟨raised, published, .inr ⟨harmless, .inr rfl⟩⟩
  have revoked : ∀ (fault : LifeFault) (exc : Exn) (t₁ : Part), strands fault = false →
      CleanAt e (do let _ ← life (.registryDisable record.id); giveUp (record.as .starting) exc)
        (fun r t' => (∃ exc, r = .error exc) ∧ StartFails record t fault t') t₁ := by
    intro fault exc t₁ harmless
    subst id
    exact clean_registryDisable (quarantined fault exc _ harmless (.inr rfl))
  refine struck_save id (fun exc _ => ?_) (fun exc _ => ?_) ?_
  · exact .done ⟨⟨exc, rfl⟩, .inl rfl, .inr ⟨rfl, .inl rfl⟩⟩
  · exact .done ⟨⟨exc, rfl⟩, .inl rfl, .inl ⟨rfl, .inl rfl, rfl⟩⟩
  refine .attempt_bind (clean_bringUp id) (struck_bringUp injected id) (fun r t' ended => ?_)
    fun fault r t' ended => ?_
  · rcases ended with ⟨rfl, rfl⟩ | ⟨⟨exc, rfl⟩, rfl⟩
    · refine struck_save id (fun exc _ => ?_) (fun exc _ => ?_) (.done _)
      · exact revoked _ exc _ rfl
      · exact revoked _ exc _ rfl
    · refine .mono (fun fault r t' ended => ?_) (struck_giveUp id exc)
      obtain ⟨raised, ⟨hit, starts, rfl⟩ | ⟨harmless, rfl⟩⟩ := ended
      · exact ⟨raised, .inl rfl, .inl ⟨hit, starts, rfl⟩⟩
      · exact ⟨raised, .inl rfl, .inr ⟨harmless, .inr rfl⟩⟩
  · obtain ⟨⟨exc, rfl⟩, rfl, harmless⟩ := ended
    exact quarantined fault exc _ harmless (.inl rfl)

end Start

section Checks

variable {α : Type} {e operation : String} {t : Part} {permitted : Bool → LifeFault → Prop} {record : ExtensionRecord}
  {Q : Except Exn α → Part → Prop} {S : LifeFault → Except Exn α → Part → Prop} {k : ExtensionRecord → LifeM α}
  {allowed : List ExtensionState}

theorem clean_require (missing : t.stored = none → ∀ exc, Q (.error exc) t)
    (found : ∀ record, t.stored = some record → record.id = e → CleanAt e (k record) Q t) :
    CleanAt e (require e >>= k) Q t := by
  refine clean_get fun own => ?_
  cases stored : t.stored with
  | none => exact .done (missing stored _)
  | some record => exact found record stored (own record stored)

theorem struck_require (hit : ∀ exc applied, S ⟨.getRecord e, exc, applied⟩ (.error exc) t)
    (found : ∀ record, t.stored = some record → record.id = e → StruckAt e permitted (k record) S t) :
    StruckAt e permitted (require e >>= k) S t := by
  refine struck_get (fun exc applied _ => .done (hit exc applied)) fun own => ?_
  cases stored : t.stored with
  | none => exact .done _
  | some record => exact found record stored (own record stored)

theorem clean_requireState {k : Unit → LifeM α} (refused : record.state ∉ allowed → ∀ exc, Q (.error exc) t)
    (passed : record.state ∈ allowed → CleanAt e (k ()) Q t) :
    CleanAt e (requireState record allowed operation >>= k) Q t := by
  unfold requireState
  split_ifs with state
  · exact passed state
  · exact .done (refused state _)

theorem struck_requireState {k : Unit → LifeM α} (passed : record.state ∈ allowed → StruckAt e permitted (k ()) S t) :
    StruckAt e permitted (requireState record allowed operation >>= k) S t := by
  unfold requireState
  split_ifs with state
  · exact passed state
  · exact .done _

end Checks

/-- The states `enable` starts from. -/
def startable : List ExtensionState := [.installedDisabled, .disabled, .rolledBack, .quarantined]

section Enable

variable {e : String} {t : Part} {permitted : Bool → LifeFault → Prop}

/-- `enable` without a fault: refused, or the end of a start. -/
theorem clean_enable : CleanAt e (enable e) (fun r t' => ((∃ exc, r = .error exc) ∧ t' = t) ∨
        ∃ record, t.stored = some record ∧ record.id = e ∧ record.state ∈ startable ∧
          ((r = .ok (record.as .enabled) ∧
            t' = { t with stored := some (record.as .enabled), published := some (record.as .enabled) }) ∨
          ((∃ exc, r = .error exc) ∧ t' = { t with stored := some (record.as .quarantined) }))) t := by
  refine clean_require (fun _ exc => .inl ⟨⟨exc, rfl⟩, rfl⟩) fun record stored id => ?_
  refine clean_requireState (fun _ exc => .inl ⟨⟨exc, rfl⟩, rfl⟩) fun state => ?_
  exact wp_mono (fun r t' ended => .inr ⟨record, stored, id, state, ended⟩) (clean_startAndPublish id)

/-- `enable` with a fault: nothing changed, or a start that failed. -/
theorem struck_enable (injected : Injecting permitted) : StruckAt e permitted (enable e)
      (fun fault r t' => (∃ exc, r = .error exc) ∧
        ((strands fault = false ∧ t' = t) ∨
          ∃ record, t.stored = some record ∧ record.state ∈ startable ∧ StartFails record t fault t')) t := by
  refine struck_require (fun exc _ => ⟨⟨exc, rfl⟩, .inl ⟨rfl, rfl⟩⟩) fun record stored id => ?_
  refine struck_requireState fun state => ?_
  refine .mono (fun fault r t' ended => ?_) (struck_startAndPublish injected id)
  exact ⟨ended.1, .inr ⟨record, stored, state, ended.2⟩⟩

end Enable

section Disable

variable {e : String} {t : Part} {permitted : Bool → LifeFault → Prop} {record : ExtensionRecord}

/-- The save of `DRAINING` is lost. -/
def losesDraining (fault : LifeFault) : Bool :=
  match fault.op with
  | .saveRecord record _ => record.state = .draining && !fault.applied
  | _ => false

/-- The part of a disabled extension. -/
def down (record : ExtensionRecord) (state : ExtensionState) (t : Part) : Part :=
  { t with stored := some (record.as state), published := none }

/-- How a `disable` with a fault ends: with nothing changed, with the registration revoked and
no more, left in `DRAINING`, or disabled. -/
def DisableFails (record : ExtensionRecord) (t : Part) (fault : LifeFault) (t' : Part) : Prop :=
  (strands fault = false ∧ t' = t) ∨
  (strands fault = false ∧ losesDraining fault = true ∧ t' = { t with published := none }) ∨
  (strands fault = true ∧ t' = down record .draining t) ∨
  (strands fault = false ∧ t' = down record .disabled t)

theorem clean_finishDisable (id : record.id = e) (report : Option (List (String × Value))) (drainError : Option Exn) :
    CleanAt e (finishDisable (record.as .draining) report drainError)
      (fun r t' => t' = { t with stored := some (record.as .disabled) } ∧
        ∀ x, r = .ok x → x = record.as .disabled ∧ drainError = none) t := by
  refine clean_aside rfl fun _ => clean_save id ?_
  split_ifs
  · exact .done ⟨rfl, nofun⟩
  · cases drainError with
    | some exc => exact .done ⟨rfl, nofun⟩
    | none => exact .done ⟨rfl, fun x ok => ⟨(Except.ok.inj ok).symm, rfl⟩⟩

theorem struck_finishDisable (id : record.id = e) (report : Option (List (String × Value))) (drainError : Option Exn) :
    StruckAt e permitted (finishDisable (record.as .draining) report drainError)
      (fun fault r t' => (∃ exc, r = .error exc) ∧
        ((strands fault = true ∧ t' = t) ∨
          (strands fault = false ∧ t' = { t with stored := some (record.as .disabled) }))) t := by
  refine struck_aside rfl (fun exc _ _ => .done ⟨⟨exc, rfl⟩, .inl ⟨rfl, rfl⟩⟩) fun _ => ?_
  refine struck_save id (fun exc _ => ?_) (fun exc _ => ?_) ?_
  · exact .done ⟨⟨exc, rfl⟩, .inl ⟨rfl, rfl⟩⟩
  · exact .done ⟨⟨exc, rfl⟩, .inr ⟨rfl, rfl⟩⟩
  · show Struck _ _ (if _ then _ else _) _ _
    split_ifs
    · exact .done _
    · cases drainError with
      | some exc => exact .done _
      | none => exact .done _

/-- `disable` of an enabled extension without a fault. -/
theorem clean_disable (stored : t.stored = some record) (enabled : record.state = .enabled) (deadline : Rat) :
    CleanAt e (disable e deadline)
      (fun r t' => t' = down record .disabled t ∧ ∀ x, r = .ok x → x = record.as .disabled) t := by
  refine clean_require (fun none => ?_) fun found here id => ?_
  · rw [stored] at none
    cases none
  obtain rfl : record = found := Option.some.inj (stored.symm.trans here)
  refine clean_requireState (fun refused => absurd (by simp [enabled]) refused) fun _ => ?_
  refine clean_registryDisable (clean_save id (clean_aside rfl fun report => ?_))
  refine wp_mono (fun r t' ended => ?_) (clean_finishDisable id report none)
  exact ⟨ended.1, fun x ok => (ended.2 x ok).1⟩

/-- `disable` of an enabled extension with a fault raises. -/
theorem struck_disable (injected : Injecting permitted) (stored : t.stored = some record) (deadline : Rat) :
    StruckAt e permitted (disable e deadline)
      (fun fault r t' => (∃ exc, r = .error exc) ∧ DisableFails record t fault t') t := by
  refine struck_require (fun exc _ => ⟨⟨exc, rfl⟩, .inl ⟨rfl, rfl⟩⟩) fun found here id => ?_
  obtain rfl : record = found := Option.some.inj (stored.symm.trans here)
  refine struck_requireState fun _ => ?_
  refine struck_registryDisable injected (fun exc _ => .done ⟨⟨exc, rfl⟩, .inl ⟨rfl, rfl⟩⟩) ?_
  refine struck_save id (fun exc _ => ?_) (fun exc _ => ?_) ?_
  · exact .done ⟨⟨exc, rfl⟩, .inr (.inl ⟨rfl, rfl, rfl⟩)⟩
  · exact .done ⟨⟨exc, rfl⟩, .inr (.inr (.inl ⟨rfl, rfl⟩))⟩
  -- a drain that raises an extension error is followed by the rest, any other only by the stop
  have finished : ∀ (fault : LifeFault) (exc : Exn) (t₁ : Part), strands fault = false → t₁ = down record .draining t →
      CleanAt e (finishDisable (record.as .draining) none (some exc))
        (fun r t' => (∃ exc, r = .error exc) ∧ DisableFails record t fault t') t₁ := by
    rintro fault exc t₁ harmless rfl
    refine wp_mono (fun r t' ended => ?_) (clean_finishDisable id none (some exc))
    obtain ⟨rfl, raises⟩ := ended
    cases r with
    | ok x => exact absurd (raises x rfl).2 nofun
    | error exc => exact ⟨⟨exc, rfl⟩, .inr (.inr (.inr ⟨harmless, rfl⟩))⟩
  refine struck_aside rfl (fun exc applied _ => ?_) fun report => ?_
  · show Clean _ (if _ then _ else if _ then _ else _) _ _
    split_ifs with timeout extension
    · have known : exc.isExtensionError = true := by
        cases exc <;> simp_all [Exn.isExtensionError, Exn.isRpcTimeout]
      exact finished _ _ _ (by simp [strands, known]) rfl
    · exact finished _ _ _ (by simp [strands, extension]) rfl
    · refine clean_aside rfl fun _ => .done ⟨⟨exc, rfl⟩, .inr (.inr (.inl ⟨?_, rfl⟩))⟩
      simp [strands, extension]
  · refine .mono (fun fault r t' ended => ?_) (struck_finishDisable id report none)
    obtain ⟨raised, ⟨hit, rfl⟩ | ⟨harmless, rfl⟩⟩ := ended
    · exact ⟨raised, .inr (.inr (.inl ⟨hit, rfl⟩))⟩
    · exact ⟨raised, .inr (.inr (.inr ⟨harmless, rfl⟩))⟩

theorem clean_standDown (stored : t.stored = some record) : CleanAt e (standDown e record)
      (fun r t' => (record.state ≠ .enabled ∧ r = .ok record ∧ t' = t) ∨
        (record.state = .enabled ∧ t' = down record .disabled t ∧ ∀ x, r = .ok x → x = record.as .disabled)) t := by
  unfold standDown
  split_ifs with enabled
  · refine clean_aside rfl fun time => ?_
    refine wp_mono (fun r t' ended => .inr ?_) (clean_disable stored enabled (time + 30))
    exact ⟨enabled, ended⟩
  · exact .done (.inl ⟨enabled, rfl, rfl⟩)

theorem struck_standDown (injected : Injecting permitted) (stored : t.stored = some record) :
    StruckAt e permitted (standDown e record)
      (fun fault r t' => (∃ exc, r = .error exc) ∧ record.state = .enabled ∧ DisableFails record t fault t') t := by
  unfold standDown
  split_ifs with enabled
  · refine struck_aside rfl (fun exc applied may => ?_) fun time => ?_
    · exact absurd (injected _ _ may).port Bool.false_ne_true
    · refine .mono (fun fault r t' ended => ?_) (struck_disable injected stored (time + 30))
      exact ⟨ended.1, enabled, ended.2⟩
  · exact .done _

end Disable

end PersonalAssistant.Lifecycle
