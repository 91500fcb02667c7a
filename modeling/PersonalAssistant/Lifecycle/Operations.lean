import PersonalAssistant.Lifecycle.Steps

/-!
# What an operation leaves behind

Two properties of the part of an extension, followed through every operation at once: the
stored state is not a transient one (`Settled`), and the registry publishes the version that
is stored as enabled (`Agrees`). `EndsWell` is what an operation without a fault keeps of
them, and `Fails` what one with a fault does.
-/

namespace PersonalAssistant.Lifecycle

open Coro

/-- The stored state is none that an operation only passes through. -/
def Settled (t : Part) : Prop := ∀ record, t.stored = some record → isTransient record.state = false

/-- The registry publishes a version exactly where it is stored as enabled. -/
def Agrees (t : Part) : Prop :=
  ∀ version, (∃ record, t.published = some record ∧ record.manifest.version = version) ↔
    ∃ record, t.stored = some record ∧ record.state = .enabled ∧ record.manifest.version = version

section Properties

variable {t t' : Part} {record : ExtensionRecord} {fault : LifeFault}

theorem settled_iff (stored : t.stored = some record) : Settled t ↔ isTransient record.state = false := by
  constructor
  · intro settled
    exact settled record stored
  · intro state other found
    cases stored.symm.trans found
    exact state

/-- Nothing is published and nothing is stored as enabled. -/
theorem agrees_down (published : t.published = none)
    (stored : ∀ record, t.stored = some record → record.state ≠ .enabled) :
    Agrees t := by
  intro version
  constructor
  · rintro ⟨record, found, -⟩
    rw [published] at found
    cases found
  · rintro ⟨record, found, enabled, -⟩
    exact absurd enabled (stored record found)

theorem agrees_saved (published : t.published = none) (stored : t.stored = some record)
    (disabled : record.state ≠ .enabled) :
    Agrees t := by
  refine agrees_down published fun other found => ?_
  cases stored.symm.trans found
  exact disabled

theorem agrees_up (stored : t.stored = some record) (enabled : record.state = .enabled)
    (published : t.published = some record) : Agrees t := by
  intro version
  simp [stored, enabled, published]

theorem Agrees.unpublished (agrees : Agrees t) (stored : ∀ record, t.stored = some record → record.state ≠ .enabled) :
    t.published = none := by
  cases published : t.published with
  | none => rfl
  | some record =>
    obtain ⟨other, found, enabled, -⟩ := (agrees record.manifest.version).mp ⟨record, published, rfl⟩
    exact absurd enabled (stored other found)

/-- What an operation without a fault keeps. -/
structure EndsWell (t t' : Part) : Prop where
  settled : Settled t → Settled t'
  agrees : Agrees t → Agrees t'

/-- What an operation with a fault does: whether it strands the extension depends on the
fault, and the registry agrees unless the save of `DRAINING` was lost. -/
structure Fails (t : Part) (fault : LifeFault) (t' : Part) : Prop where
  settled : Settled t → (Settled t' ↔ strands fault = false)
  agrees : Agrees t → losesDraining fault = false → Agrees t'

theorem EndsWell.refl (t : Part) : EndsWell t t := ⟨id, id⟩

theorem EndsWell.of_down (published : t'.published = none) (stored : t'.stored = some record)
    (still : isTransient record.state = false) (disabled : record.state ≠ .enabled) : EndsWell t t' where
  settled _ := (settled_iff stored).mpr still
  agrees _ := agrees_saved published stored disabled

theorem endsWell_disabled (record : ExtensionRecord) (t : Part) : EndsWell t (down record .disabled t) :=
  .of_down rfl rfl rfl nofun

theorem EndsWell.of_up (stored : t'.stored = some record) (enabled : record.state = .enabled)
    (published : t'.published = some record) : EndsWell t t' where
  settled _ := (settled_iff stored).mpr (by rw [enabled]; rfl)
  agrees _ := agrees_up stored enabled published

/-- A fault that strands nothing is an end like any other. -/
theorem Fails.of_endsWell (harmless : strands fault = false) (ends : EndsWell t t') : Fails t fault t' where
  settled settled := ⟨fun _ => harmless, fun _ => ends.settled settled⟩
  agrees agrees _ := ends.agrees agrees

/-- The operation is left in a transient state, with nothing published. -/
theorem Fails.stuck (hit : strands fault = true) (published : t'.published = none) (stored : t'.stored = some record)
    (passing : isTransient record.state = true) : Fails t fault t' where
  settled _ := by
    rw [settled_iff stored, passing, hit]
  agrees _ _ := agrees_saved published stored fun enabled => by
    rw [enabled] at passing
    cases passing

theorem DisableFails.fails (ended : DisableFails record t fault t') : Fails t fault t' := by
  rcases ended with ⟨harmless, rfl⟩ | ⟨harmless, loses, rfl⟩ | ⟨hit, rfl⟩ | ⟨harmless, rfl⟩
  · exact .of_endsWell harmless (.refl t')
  · refine ⟨fun settled => ⟨fun _ => harmless, fun _ => settled⟩, fun _ kept => ?_⟩
    rw [loses] at kept
    cases kept
  · exact .stuck hit rfl rfl rfl
  · exact .of_endsWell harmless (endsWell_disabled record t)

end Properties

section Bare

variable {e : String} {t : Part} {permitted : Bool → LifeFault → Prop} {record : ExtensionRecord}

/-- A startable state is settled, and not the enabled one. -/
theorem startable_spec {state : ExtensionState} (mem : state ∈ startable) :
    isTransient state = false ∧ state ≠ .enabled := by
  simp only [startable, List.mem_cons, List.not_mem_nil, or_false] at mem
  rcases mem with rfl | rfl | rfl | rfl <;> exact ⟨rfl, nofun⟩

theorem endsWell_enable : CleanAt e (enable e) (fun _ t' => EndsWell t t') t := by
  refine wp_mono (fun r t' ended => ?_) clean_enable
  rcases ended with ⟨-, rfl⟩ | ⟨record, stored, id, state, ⟨-, rfl⟩ | ⟨-, rfl⟩⟩
  · exact .refl t'
  · exact .of_up rfl rfl rfl
  · have disabled : ∀ other, t.stored = some other → other.state ≠ .enabled := by
      intro other found
      cases stored.symm.trans found
      exact (startable_spec state).2
    exact ⟨fun _ => (settled_iff rfl).mpr rfl, fun agrees =>
      agrees_saved (agrees.unpublished disabled) rfl nofun⟩

/-- One fault in `enable`. -/
theorem fails_enable (injected : Injecting permitted) : StruckAt e permitted (enable e)
      (fun fault _ t' => (Settled t → (Settled t' ↔ strands fault = false)) ∧ (Agrees t → Agrees t')) t := by
  refine .mono (fun fault r t' ended => ?_) (struck_enable injected)
  obtain ⟨-, ⟨harmless, rfl⟩ | ⟨record, stored, state, published, ended⟩⟩ := ended
  · exact ⟨fun settled => ⟨fun _ => harmless, fun _ => settled⟩, id⟩
  have disabled : ∀ other, t.stored = some other → other.state ≠ .enabled := by
    intro other found
    cases stored.symm.trans found
    exact (startable_spec state).2
  have unpublished : Agrees t → t'.published = none := by
    intro agrees
    rcases published with same | none
    · rw [same, agrees.unpublished disabled]
    · exact none
  rcases ended with ⟨hit, -, starting⟩ | ⟨harmless, same | quarantined⟩
  · refine ⟨fun _ => by rw [settled_iff starting, hit]; exact Iff.rfl, fun agrees => ?_⟩
    exact agrees_saved (unpublished agrees) starting nofun
  · refine ⟨fun settled => ⟨fun _ => harmless, fun _ other found => settled other (same ▸ found)⟩, fun agrees => ?_⟩
    exact agrees_down (unpublished agrees) fun other found => disabled other (same ▸ found)
  · refine ⟨fun _ => by rw [settled_iff quarantined, harmless]; exact Iff.rfl, fun agrees => ?_⟩
    exact agrees_saved (unpublished agrees) quarantined nofun

/-- `recover` keeps the stored state settled; what it publishes is another matter. -/
theorem settled_recover : CleanAt e (recover e) (fun _ t' => Settled t → Settled t') t := by
  refine clean_require (fun _ _ => id) fun record stored own => clean_requireState (fun _ _ => id) fun _ => ?_
  refine wp_mono (fun r t' ended _ => ?_) (clean_startAndPublish own)
  rcases ended with ⟨-, rfl⟩ | ⟨-, rfl⟩ <;> exact (settled_iff rfl).mpr rfl

theorem fails_recover (injected : Injecting permitted) : StruckAt e permitted (recover e)
      (fun fault _ t' => Settled t → (Settled t' ↔ strands fault = false)) t := by
  refine struck_require (fun exc _ settled => ⟨fun _ => rfl, fun _ => settled⟩) fun record stored id => ?_
  refine struck_requireState fun _ => ?_
  refine .mono (fun fault r t' ended settled => ?_) (struck_startAndPublish injected id)
  obtain ⟨-, -, ⟨hit, -, starting⟩ | ⟨harmless, same | quarantined⟩⟩ := ended
  · rw [settled_iff starting, hit]
    exact Iff.rfl
  · exact ⟨fun _ => harmless, fun _ other found => settled other (same ▸ found)⟩
  · rw [settled_iff quarantined, harmless]
    exact Iff.rfl

theorem endsWell_disable (deadline : Rat) : CleanAt e (disable e deadline) (fun _ t' => EndsWell t t') t := by
  by_cases enabled : ∃ record, t.stored = some record ∧ record.state = .enabled
  · obtain ⟨record, stored, enabled⟩ := enabled
    refine wp_mono (fun r t' ended => ?_) (clean_disable stored enabled deadline)
    rw [ended.1]
    exact endsWell_disabled record t
  · refine clean_require (fun _ _ => .refl t) fun record stored id => ?_
    refine clean_requireState (fun _ _ => .refl t) fun state => ?_
    exact absurd ⟨record, stored, List.mem_singleton.mp state⟩ enabled

theorem fails_disable (injected : Injecting permitted) (deadline : Rat) :
    StruckAt e permitted (disable e deadline) (fun fault _ t' => Fails t fault t') t := by
  cases stored : t.stored with
  | none =>
    refine struck_require (fun exc _ => .of_endsWell rfl (.refl t)) fun record found id => ?_
    rw [stored] at found
    cases found
  | some record =>
    refine .mono (fun fault r t' ended => ?_) (struck_disable injected stored deadline)
    exact ended.2.fails

theorem endsWell_takeOut (id : record.id = e) : CleanAt e (takeOut e record) (fun _ t' => EndsWell t t') t := by
  refine clean_requireState (fun _ _ => .refl t) fun _ => ?_
  refine clean_registryDisable (clean_save id (clean_aside rfl fun _ => clean_aside rfl fun _ => clean_save id ?_))
  exact .done (.of_down rfl rfl rfl nofun)

theorem fails_takeOut (injected : Injecting permitted) (id : record.id = e)
    (stored : t.stored = some record) (disabled : record.state ≠ .enabled) :
    StruckAt e permitted (takeOut e record) (fun fault _ t' => Fails t fault t') t := by
  refine struck_requireState fun _ => ?_
  refine struck_registryDisable injected (fun exc _ => .done (.of_endsWell rfl (.refl t))) ?_
  have stuck : ∀ (fault : LifeFault) (t' : Part), strands fault = true → t' = down record .uninstalling t →
      Fails t fault t' := by
    rintro fault t' hit rfl
    exact .stuck hit rfl rfl rfl
  refine struck_save id (fun exc _ => .done ?_) (fun exc _ => .done (stuck _ _ rfl rfl)) ?_
  · exact .of_endsWell rfl ⟨fun settled => settled, fun _ => agrees_saved rfl stored disabled⟩
  refine struck_aside rfl (fun exc _ _ => .done (stuck _ _ rfl rfl)) fun _ => ?_
  refine struck_aside rfl (fun exc _ _ => .done (stuck _ _ rfl rfl)) fun _ => ?_
  refine struck_save id (fun exc _ => .done (stuck _ _ rfl rfl)) (fun exc _ => .done ?_) (.done _)
  exact .of_endsWell rfl (.of_down rfl rfl rfl nofun)

theorem EndsWell.trans {t₁ t₂ t₃ : Part} (first : EndsWell t₁ t₂) (second : EndsWell t₂ t₃) : EndsWell t₁ t₃ :=
  ⟨fun settled => second.settled (first.settled settled), fun agrees => second.agrees (first.agrees agrees)⟩

theorem Fails.after {t₁ t₂ t₃ : Part} {fault : LifeFault} (second : Fails t₂ fault t₃) (first : EndsWell t₁ t₂) :
    Fails t₁ fault t₃ :=
  ⟨fun settled => second.settled (first.settled settled), fun agrees => second.agrees (first.agrees agrees)⟩

theorem endsWell_uninstall : CleanAt e (uninstall e) (fun _ t' => EndsWell t t') t := by
  refine clean_require (fun _ _ => .refl t) fun record stored id => ?_
  refine .bind (clean_standDown stored) (fun current t' ended => ?_) fun exc t' ended => ?_
  · rcases ended with ⟨-, same, rfl⟩ | ⟨-, rfl, same⟩
    · obtain rfl : current = record := Except.ok.inj same
      exact endsWell_takeOut id
    · obtain rfl := same current rfl
      refine wp_mono (fun r t' ended => ?_) (endsWell_takeOut id)
      exact (endsWell_disabled record t).trans ended
  · rcases ended with ⟨-, same, -⟩ | ⟨-, rfl, -⟩
    · cases same
    · exact endsWell_disabled record t

theorem fails_uninstall (injected : Injecting permitted) :
    StruckAt e permitted (uninstall e) (fun fault _ t' => Fails t fault t') t := by
  refine struck_require (fun exc _ => .of_endsWell rfl (.refl t)) fun record stored id => ?_
  refine .bind_of (clean_standDown stored) (struck_standDown injected stored) (fun current t' ended => ?_)
    (fun fault current t' ended => ?_) fun fault exc t' ended => ended.2.2.fails
  · rcases ended with ⟨disabled, same, rfl⟩ | ⟨-, rfl, same⟩
    · obtain rfl : current = record := Except.ok.inj same
      exact fails_takeOut injected id stored disabled
    · obtain rfl := same current rfl
      refine .mono (fun fault r t' ended => ?_) (fails_takeOut injected id rfl nofun)
      exact ended.after (endsWell_disabled record t)
  · obtain ⟨⟨exc, raised⟩, -⟩ := ended
    cases raised

end Bare

end PersonalAssistant.Lifecycle
