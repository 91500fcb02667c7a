import PersonalAssistant.Lifecycle.Operations

/-!
# Upgrade and rollback

Both change the version inside a `try` whose handler brings the original back. A fault in the
body is undone from any state the body may be in; a fault in the compensation comes after a
body that ended without one, with nothing published and a startable record stored.
-/

namespace PersonalAssistant.Lifecycle

open Coro

section Rules

variable {α β : Type} {e : String} {t : Part} {permitted : Bool → LifeFault → Prop}

variable {c : LifeM β} {M : Except Exn β → Part → Prop} {undo : LifeM Unit}

theorem clean_suppress {T : Part → Prop} (body : CleanAt e c M t) (ended : ∀ r t', M r t' → T t') :
    CleanAt e (suppress c) (fun _ t' => T t') t := by
  refine .attempt_bind body fun r t' h => ?_
  split <;> exact .done (ended _ t' h)

theorem struck_suppress
    {S : LifeFault → Except Exn β → Part → Prop} {T : LifeFault → Part → Prop} (clean : CleanAt e c M t)
    (hit : StruckAt e permitted c S t) (ended : ∀ fault r t', S fault r t' → T fault t') :
    StruckAt e permitted (suppress c) (fun fault _ t' => T fault t') t := by
  refine .attempt_bind clean hit (fun r t' _ => ?_) fun fault r t' h => ?_
  · split <;> exact .done _
  · split <;> exact .done (ended _ _ t' h)

/-- A suppressed part that was not cancelled, then the rest. -/
theorem struck_suppress_bind {k : Unit → LifeM α}
    {S : LifeFault → Except Exn β → Part → Prop} {S' : LifeFault → Except Exn α → Part → Prop}
    (clean : CleanAt e c M t) (hit : StruckAt e permitted c S t)
    (rest : ∀ r t', M r t' → StruckAt e permitted (k ()) S' t')
    (after : ∀ fault r t', S fault r t' → r ≠ .error .cancelled ∧ CleanAt e (k ()) (S' fault) t') :
    StruckAt e permitted (suppress c >>= k) S' t := by
  have body : StruckAt e permitted (suppress c) (fun fault r t' => r = .ok () ∧ ∃ r, S fault r t') t := by
    refine .attempt_bind clean hit (fun r t' _ => ?_) fun fault r t' h => ?_
    · split <;> exact .done _
    · split
      · exact .done ⟨rfl, _, h⟩
      · exact absurd rfl (after fault _ t' h).1
      · exact .done ⟨rfl, _, h⟩
  refine .bind_of (clean_suppress (T := fun t' => ∃ r, M r t') clean fun r t' h => ⟨r, h⟩) body
    (fun _ t' ended => ?_) (fun fault _ t' ended => ?_) fun fault exc t' ended => ?_
  · obtain ⟨r, h⟩ := ended
    exact rest r t' h
  · obtain ⟨-, r, h⟩ := ended
    exact (after fault r t' h).2
  · cases ended.1

theorem clean_orElse {c : LifeM ExtensionRecord} {M : Except Exn ExtensionRecord → Part → Prop}
    {T : Part → Prop} (body : CleanAt e c M t) (succeeded : ∀ x t', M (.ok x) t' → T t')
    (undone : ∀ exc t', M (.error exc) t' → CleanAt e undo (fun _ => T) t') :
    CleanAt e (orElse c undo) (fun _ => T) t := by
  refine .attempt_bind body fun r t' h => ?_
  cases r with
  | ok x => exact .done (succeeded x t' h)
  | error exc =>
    have shielded : CleanAt e undo.shield (fun _ => T) t' := wp.shield (undone exc t' h)
    exact .bind shielded (fun _ t'' done => .done done) fun _ t'' done => done

/-- A fault in the body is undone; one in the compensation comes after a body without one. -/
theorem struck_orElse {c : LifeM ExtensionRecord} {M : Except Exn ExtensionRecord → Part → Prop}
    {T : LifeFault → Part → Prop} (body : CleanAt e c M t)
    (hit : StruckAt e permitted c (fun _ r _ => ∃ exc, r = .error exc) t)
    (undone : ∀ fault t', CleanAt e undo (fun _ => T fault) t')
    (interrupted : ∀ exc t', M (.error exc) t' →
      StruckAt e (fun _ => permitted true) undo (fun fault _ => T fault) t') :
    StruckAt e permitted (orElse c undo) (fun fault _ => T fault) t := by
  have shielded : ∀ fault t', CleanAt e undo.shield (fun _ => T fault) t' :=
    fun fault t' => wp.shield (undone fault t')
  refine .attempt_bind body hit (fun r t' h => ?_) fun fault r t' raised => ?_
  · cases r with
    | ok x => exact .done _
    | error exc =>
      have under : StruckAt e permitted undo.shield (fun fault _ => T fault) t' :=
        struck_shield.mpr (interrupted exc t' h)
      refine .bind_of (wp_mono (fun _ _ _ => trivial) (shielded ⟨.now, exc, false⟩ t')) under
        (fun _ t'' _ => .done _) (fun fault _ t'' done => .done done) fun fault _ t'' done => done
  · obtain ⟨exc, rfl⟩ := raised
    exact .bind (shielded fault t') (fun _ t'' done => .done done) fun _ t'' done => done

end Rules

section Compensation

variable {e : String} {t : Part} {permitted : Bool → LifeFault → Prop} {original other : ExtensionRecord}
  {state : ExtensionState}

/-- Nothing is published, and the stored record can be started. -/
def Idle (t : Part) : Prop := t.published = none ∧ ∃ record, t.stored = some record ∧ record.state ∈ startable

/-- What a compensation with a fault leaves: an extension settled as well, unless the fault
stranded the new start of the original. -/
def Recovers (original : ExtensionRecord) (fault : LifeFault) (t : Part) : Prop :=
  Agrees t ∧ (¬ (strands fault = true ∧ startsWith original fault) → Settled t)

theorem Idle.settled (idle : Idle t) : Settled t := by
  obtain ⟨-, record, stored, mem⟩ := idle
  exact (settled_iff stored).mpr (startable_spec mem).1

theorem Idle.agrees (idle : Idle t) : Agrees t := by
  obtain ⟨published, record, stored, mem⟩ := idle
  exact agrees_saved published stored (startable_spec mem).2

theorem idle_down (original : ExtensionRecord) (mem : state ∈ startable) (t : Part) : Idle (down original state t) :=
  ⟨rfl, original.as state, rfl, mem⟩

theorem Idle.saved (idle : Idle t) (original : ExtensionRecord) (state : ExtensionState) :
    ({ t with stored := some (original.as state) } : Part) = down original state t :=
  Part.ext rfl idle.1 rfl

theorem clean_reopen (id : original.id = e) (idle : Idle t) :
    CleanAt e (reopen original) (fun _ t' => Settled t' ∧ Agrees t') t := by
  unfold reopen
  split_ifs
  · rw [id]
    refine clean_suppress endsWell_enable fun _ t' ended => ?_
    exact ⟨ended.settled idle.settled, ended.agrees idle.agrees⟩
  · exact .done ⟨idle.settled, idle.agrees⟩

/-- One fault while the original version is started again. -/
theorem struck_reopen (injected : Injecting permitted) (id : original.id = e) (mem : state ∈ startable) :
    StruckAt e permitted (reopen original) (fun fault _ t' => Recovers original fault t')
      (down original state t) := by
  have idle := idle_down original mem t
  unfold reopen
  split_ifs
  · rw [id]
    refine struck_suppress endsWell_enable (struck_enable injected) fun fault r t' ended => ?_
    obtain ⟨-, ⟨-, rfl⟩ | ⟨record, stored, -, published, ended⟩⟩ := ended
    · exact ⟨idle.agrees, fun _ => idle.settled⟩
    obtain rfl : original.as state = record := Option.some.inj stored
    have none : t'.published = none := by
      rcases published with same | none
      · exact same
      · exact none
    rcases ended with ⟨hit, starts, starting⟩ | ⟨-, same | quarantined⟩
    · exact ⟨agrees_saved none starting nofun, fun unstuck => absurd ⟨hit, starts⟩ unstuck⟩
    · have still : Idle t' := ⟨none, original.as state, same, mem⟩
      exact ⟨still.agrees, fun _ => still.settled⟩
    · have still : Idle t' := ⟨none, _, quarantined, by simp [startable]⟩
      exact ⟨still.agrees, fun _ => still.settled⟩
  · exact .done _

/-- Whatever state it is entered in, a compensation without a fault leaves the original
settled, and published where it is enabled. -/
theorem clean_compensate (id : original.id = e) (mem : state ∈ startable) :
    CleanAt e (compensate original other state) (fun _ t' => Settled t' ∧ Agrees t') t := by
  subst id
  refine clean_registryDisable (clean_aside rfl fun _ => clean_save rfl ?_)
  exact clean_reopen rfl (idle_down original mem t)

/-- A compensation with a fault, entered with nothing published. -/
theorem struck_compensate (injected : ∀ sh fault, permitted sh fault → Injected true fault) (id : original.id = e)
    (mem : state ∈ startable) (idle : Idle t) :
    StruckAt e permitted (compensate original other state)
      (fun fault _ t' => Recovers original fault t') t := by
  subst id
  have shielded : Injecting permitted := fun sh fault may =>
    ⟨(injected sh fault may).port, fun _ => (injected sh fault may).shield rfl, (injected sh fault may).registry⟩
  have uncancelled : ∀ {α : Type} sh fault, permitted sh fault →
      (.error fault.exn : Except Exn α) ≠ .error .cancelled := by
    intro α sh fault may same
    exact (injected sh fault may).shield rfl (Except.error.inj same)
  have recovers : ∀ {fault : LifeFault} {c : LifeM Unit} {t₁ : Part},
      CleanAt original.id c (fun _ t' => Settled t' ∧ Agrees t') t₁ →
      CleanAt original.id c (fun _ t' => Recovers original fault t') t₁ := by
    intro fault c t₁ good
    exact wp_mono (fun _ t' ended => ⟨ended.2, fun _ => ended.1⟩) good
  -- the save, then the end
  have saved : ∀ {t₁ : Part}, Idle t₁ →
      StruckAt original.id permitted
        (do let _ ← suppress (life (.saveRecord (original.as state) none)); reopen original)
        (fun fault _ t' => Recovers original fault t') t₁ := by
    intro t₁ idle
    have stored := idle.saved original state
    refine struck_suppress_bind (M := fun _ t' => t' = { t₁ with stored := some (original.as state) })
      (S := fun _ r t' => r ≠ .error .cancelled ∧ Idle t') (clean_save rfl (.done rfl))
      (struck_save rfl (fun exc may => .done ⟨uncancelled _ _ may, idle⟩)
        (fun exc may => .done ⟨uncancelled _ _ may, stored ▸ idle_down original mem t₁⟩) (.done _))
      (fun r t' same => ?_) fun fault r t' ended => ⟨ended.1, recovers (clean_reopen rfl ended.2)⟩
    rw [same, stored]
    exact struck_reopen shielded rfl mem
  have savedClean : ∀ {t₁ : Part}, Idle t₁ →
      CleanAt original.id
        (do let _ ← suppress (life (.saveRecord (original.as state) none)); reopen original)
        (fun _ t' => Settled t' ∧ Agrees t') t₁ := by
    intro t₁ idle
    refine clean_save rfl ?_
    rw [idle.saved original state]
    exact clean_reopen rfl (idle_down original mem t₁)
  have unchanged : ({ t with published := none } : Part) = t := Part.ext rfl idle.1.symm rfl
  refine struck_suppress_bind (M := fun _ t' => t' = t) (S := fun _ r t' => r ≠ .error .cancelled ∧ t' = t)
    (clean_registryDisable (.done unchanged))
    (struck_registryDisable shielded (fun exc may => .done ⟨uncancelled _ _ may, rfl⟩) (.done _))
    (fun r t' same => ?_) fun fault r t' ended => ⟨ended.1, ?_⟩
  · obtain rfl : t' = t := same
    refine struck_suppress_bind (M := fun _ t₁ => t₁ = t') (S := fun _ r t₁ => r ≠ .error .cancelled ∧ t₁ = t')
      (clean_aside rfl fun _ => .done rfl)
      (struck_aside rfl (fun exc _ may => .done ⟨uncancelled _ _ may, rfl⟩) fun _ => .done _)
      (fun r t₁ same => ?_) fun fault r t₁ ended => ⟨ended.1, ?_⟩
    · obtain rfl : t₁ = t' := same
      exact saved idle
    · obtain rfl : t₁ = t' := ended.2
      exact recovers (savedClean idle)
  · obtain rfl : t' = t := ended.2
    exact recovers (clean_aside rfl fun _ => savedClean idle)

end Compensation

section Switch

variable {e : String} {t t' : Part} {permitted : Bool → LifeFault → Prop}
  {original candidate restored other : ExtensionRecord}
  {body : LifeM ExtensionRecord} {state : ExtensionState}

/-- A body without a fault succeeds, or leaves the part idle. -/
def BodyEnds (t : Part) (r : Except Exn ExtensionRecord) (t' : Part) : Prop :=
  (∀ x, r = .ok x → EndsWell t t') ∧ ∀ exc, r = .error exc → Idle t'

theorem BodyEnds.error {exc : Exn} (idle : Idle t') : BodyEnds t (.error exc) t' := ⟨nofun, fun _ _ => idle⟩

theorem BodyEnds.ok {x : ExtensionRecord} (ends : EndsWell t t') : BodyEnds t (.ok x) t' :=
  ⟨fun _ _ => ends, nofun⟩

theorem endsWell_replaced (stored : t.stored = some original) (disabled : original.state ≠ .enabled)
    {record : ExtensionRecord} (mem : record.state ∈ startable) : EndsWell t { t with stored := some record } where
  settled _ := (settled_iff rfl).mpr (startable_spec mem).1
  agrees agrees := by
    have none : t.published = none := agrees.unpublished fun other found => by
      cases stored.symm.trans found
      exact disabled
    exact agrees_saved none rfl (startable_spec mem).2

/-- The body of `upgrade` without a fault. -/
theorem clean_tryUpgrade (stored : t.stored = some original) (id : original.id = e) (own : candidate.id = e) :
    CleanAt e (tryUpgrade e original candidate) (BodyEnds t) t := by
  refine .bind (clean_standDown stored) (fun current t₁ ended => ?_) fun exc t₁ ended => ?_
  · rcases ended with ⟨disabled, same, rfl⟩ | ⟨enabled, rfl, same⟩
    · obtain rfl : current = original := Except.ok.inj same
      refine clean_save id (clean_aside rfl fun _ => clean_save own ?_)
      rw [if_neg disabled]
      exact .done (.ok (endsWell_replaced stored disabled (by simp [startable])))
    · obtain rfl := same current rfl
      refine clean_save id (clean_aside rfl fun _ => clean_save own ?_)
      rw [if_pos enabled]
      refine wp_mono (fun r t' ended => ?_) clean_enable
      rcases ended with ⟨⟨exc, rfl⟩, rfl⟩ | ⟨record, -, -, -, ⟨rfl, rfl⟩ | ⟨⟨exc, rfl⟩, rfl⟩⟩
      · exact .error ⟨rfl, _, rfl, by simp [startable]⟩
      · exact .ok (.of_up rfl rfl rfl)
      · exact .error ⟨rfl, _, rfl, by simp [startable]⟩
  · rcases ended with ⟨-, same, -⟩ | ⟨-, rfl, -⟩
    · cases same
    · exact .error (idle_down original (by simp [startable]) t)

/-- One fault in the body of `upgrade`. -/
theorem struck_tryUpgrade (injected : Injecting permitted)
    (stored : t.stored = some original) (id : original.id = e) (own : candidate.id = e) :
    StruckAt e permitted (tryUpgrade e original candidate) (fun _ r _ => ∃ exc, r = .error exc) t := by
  refine .bind_of (clean_standDown stored) (struck_standDown injected stored) (fun current t₁ ended => ?_)
    (fun fault current t₁ ended => ?_) fun fault exc t₁ _ => ⟨exc, rfl⟩
  · have currentId : current.id = e := by
      rcases ended with ⟨-, same, -⟩ | ⟨-, -, same⟩
      · rw [Except.ok.inj same]
        exact id
      · rw [same current rfl]
        exact id
    refine struck_save currentId (fun exc _ => .done ⟨exc, rfl⟩) (fun exc _ => .done ⟨exc, rfl⟩) ?_
    refine struck_aside rfl (fun exc _ _ => .done ⟨exc, rfl⟩) fun _ => ?_
    refine struck_save own (fun exc _ => .done ⟨exc, rfl⟩) (fun exc _ => .done ⟨exc, rfl⟩) ?_
    split_ifs
    · exact .mono (fun fault r t' ended => ended.1) (struck_enable injected)
    · exact .done _
  · obtain ⟨⟨exc, raised⟩, -⟩ := ended
    cases raised

theorem clean_tryRollback (stored : t.stored = some original) (own : restored.id = e) :
    CleanAt e (tryRollback e original restored) (BodyEnds t) t := by
  refine .bind (clean_standDown stored) (fun current t₁ ended => ?_) fun exc t₁ ended => ?_
  · rcases ended with ⟨disabled, -, rfl⟩ | ⟨enabled, rfl, -⟩
    · refine clean_save own ?_
      rw [if_neg disabled]
      exact .done (.ok (endsWell_replaced stored disabled (by simp [startable])))
    · refine clean_save own ?_
      rw [if_pos enabled]
      refine wp_mono (fun r t' ended => ?_) (clean_startAndPublish own)
      rcases ended with ⟨rfl, rfl⟩ | ⟨⟨exc, rfl⟩, rfl⟩
      · exact .ok (.of_up rfl rfl rfl)
      · exact .error ⟨rfl, _, rfl, by simp [startable]⟩
  · rcases ended with ⟨-, same, -⟩ | ⟨-, rfl, -⟩
    · cases same
    · exact .error (idle_down original (by simp [startable]) t)

theorem struck_tryRollback (injected : Injecting permitted)
    (stored : t.stored = some original) (own : restored.id = e) :
    StruckAt e permitted (tryRollback e original restored) (fun _ r _ => ∃ exc, r = .error exc) t := by
  refine .bind_of (clean_standDown stored) (struck_standDown injected stored) (fun current t₁ ended => ?_)
    (fun fault current t₁ ended => ?_) fun fault exc t₁ _ => ⟨exc, rfl⟩
  · refine struck_save own (fun exc _ => .done ⟨exc, rfl⟩) (fun exc _ => .done ⟨exc, rfl⟩) ?_
    split_ifs
    · exact .mono (fun fault r t' ended => ended.1) (struck_startAndPublish injected own)
    · exact .done _
  · obtain ⟨⟨exc, raised⟩, -⟩ := ended
    cases raised

/-- What an upgrade or a rollback with a fault does: the registry agrees, and the extension is
settled unless the fault stranded the new start of the original. -/
structure SwitchFails (t : Part) (fault : LifeFault) (t' : Part) : Prop where
  agrees : Agrees t → Agrees t'
  settled : Settled t → (¬ ∃ original, t.stored = some original ∧ strands fault = true ∧ startsWith original fault) →
    Settled t'

theorem SwitchFails.same (t : Part) (fault : LifeFault) : SwitchFails t fault t := ⟨id, fun settled _ => settled⟩

theorem SwitchFails.of_recovers {fault : LifeFault} (stored : t.stored = some original)
    (recovers : Recovers original fault t') : SwitchFails t fault t' where
  agrees _ := recovers.1
  settled _ unstuck := recovers.2 fun stuck => unstuck ⟨original, stored, stuck⟩

/-- The `try` of a switch, by its body and the state its compensation saves. -/
theorem clean_switch (id : original.id = e) (mem : state ∈ startable) (clean : CleanAt e body (BodyEnds t) t) :
    CleanAt e (orElse body (compensate original other state)) (fun _ t' => EndsWell t t') t := by
  refine clean_orElse clean (fun x t' ended => ended.1 x rfl) fun exc t' _ => ?_
  exact wp_mono (fun _ t'' good => ⟨fun _ => good.1, fun _ => good.2⟩) (clean_compensate id mem)

theorem struck_switch (injected : Injecting permitted) (stored : t.stored = some original) (id : original.id = e)
    (mem : state ∈ startable) (clean : CleanAt e body (BodyEnds t) t)
    (hit : StruckAt e permitted body (fun _ r _ => ∃ exc, r = .error exc) t) :
    StruckAt e permitted (orElse body (compensate original other state))
      (fun fault _ t' => SwitchFails t fault t') t := by
  refine struck_orElse clean hit (fun fault t' => ?_) fun exc t' ended => ?_
  · refine wp_mono (fun _ t'' good => ?_) (clean_compensate id mem)
    exact ⟨fun _ => good.2, fun _ _ => good.1⟩
  · refine .mono (fun fault _ t'' recovers => .of_recovers stored recovers) ?_
    exact struck_compensate (fun _ fault may => injected true fault may) id mem (ended.2 exc rfl)

theorem endsWell_upgrade : CleanAt e (upgrade e candidate) (fun _ t' => EndsWell t t') t := by
  refine clean_require (fun _ _ => .refl t) fun original stored id => ?_
  refine clean_requireState (fun _ _ => .refl t) fun _ => ?_
  split_ifs with other state
  · exact .done (.refl t)
  · exact .done (.refl t)
  · exact clean_switch id (by simp [startable]) (clean_tryUpgrade stored id (not_not.mp other))

theorem fails_upgrade (injected : Injecting permitted) :
    StruckAt e permitted (upgrade e candidate) (fun fault _ t' => SwitchFails t fault t') t := by
  refine struck_require (fun exc _ => .same t _) fun original stored id => ?_
  refine struck_requireState fun _ => ?_
  split_ifs with other state
  · exact .done _
  · exact .done _
  · exact struck_switch injected stored id (by simp [startable]) (clean_tryUpgrade stored id (not_not.mp other))
      (struck_tryUpgrade injected stored id (not_not.mp other))

theorem endsWell_rollback : CleanAt e (rollback e) (fun _ t' => EndsWell t t') t := by
  refine clean_require (fun _ _ => .refl t) fun original stored id => ?_
  refine clean_requireState (fun _ _ => .refl t) fun _ => clean_aside rfl fun restored => ?_
  show Clean _ (if _ then _ else _) _ _
  split_ifs with other
  · exact .done (.refl t)
  · exact clean_switch id (by simp [startable]) (clean_tryRollback stored (not_not.mp other))

theorem fails_rollback (injected : Injecting permitted) :
    StruckAt e permitted (rollback e) (fun fault _ t' => SwitchFails t fault t') t := by
  refine struck_require (fun exc _ => .same t _) fun original stored id => ?_
  refine struck_requireState fun _ => struck_aside rfl (fun exc _ _ => .done (.same t _)) fun restored => ?_
  show Struck _ _ (if _ then _ else _) _ _
  split_ifs with other
  · exact .done _
  · exact struck_switch injected stored id (by simp [startable]) (clean_tryRollback stored (not_not.mp other))
      (struck_tryRollback injected stored (not_not.mp other))

end Switch

end PersonalAssistant.Lifecycle
