import PersonalAssistant.Extensions.Rpc

/-!
# `ExtensionRegistry`

The registry of `core/extensions/registry.py` publishes the capabilities of the enabled
extensions. Every change builds the next snapshot from the records it is to hold, and raises
without a change where two records declare one capability. A `Registry` carries the proof
that its own snapshot was built, so that a revocation, which only takes records away, cannot
fail.
-/

namespace PersonalAssistant.Lifecycle

open List

/-- What the lifecycle reads of an `ExtensionManifest`. `slots` is the property of that name:
each slot with the identifiers declared in it. -/
structure ExtensionManifest where
  root : String
  id : String
  version : String
  stateSchemaVersion : Nat
  slots : List (String × List String)
  name : String := ""
  entrypoint : String := ""
  toolRisks : List (String × String) := []
  requiredCapabilities : List String := []
  optionalCapabilities : List String := []
  deriving DecidableEq, Repr

/-- `ExtensionRecord`. -/
structure ExtensionRecord where
  manifest : ExtensionManifest
  artifactHash : String
  state : ExtensionState
  installPath : Option String := none
  dataRetained : Bool := true
  tombstone : Bool := false
  deriving DecidableEq, Repr

/-- The extension a record is of. -/
abbrev ExtensionRecord.id (record : ExtensionRecord) : String := record.manifest.id

/-- `replace(record, state=state)`. -/
def ExtensionRecord.as (record : ExtensionRecord) (state : ExtensionState) : ExtensionRecord :=
  { record with state := state }

variable (record : ExtensionRecord) (state : ExtensionState)

@[simp] theorem as_manifest : (record.as state).manifest = record.manifest := rfl

@[simp] theorem as_state : (record.as state).state = state := rfl

@[simp] theorem as_as (state' : ExtensionState) :
    (record.as state).as state' = record.as state' := rfl

/-- `CapabilityOwner`. -/
structure CapabilityOwner where
  extensionId : String
  extensionVersion : String
  slot : String
  deriving DecidableEq, Repr

/-- `ExtensionError(message)`. -/
abbrev extensionError (message : String) : Exn := .runtime (.extension .base) message

/-- `DuplicateCapabilityError(message)`. -/
abbrev duplicateCapabilityError (message : String) : Exn := .runtime (.extension .duplicateCapability) message

/-- The capabilities a manifest declares, in the order its slots list them. -/
def declared (manifest : ExtensionManifest) : List (String × CapabilityOwner) :=
  manifest.slots.flatMap fun slot =>
    slot.2.map fun identifier => (identifier, ⟨manifest.id, manifest.version, slot.1⟩)

/-- The two inner loops of `_build`. -/
def register (capabilities : List (String × CapabilityOwner)) :
    List (String × CapabilityOwner) → Except Exn (List (String × CapabilityOwner))
  | [] => .ok capabilities
  | (identifier, owner) :: rest =>
    match capabilities.lookup identifier with
    | some previous =>
      .error (duplicateCapabilityError ("capability '" ++ identifier ++ "' is declared by both '" ++
        previous.extensionId ++ "' and '" ++ owner.extensionId ++ "'"))
    | none => register (capabilities ++ [(identifier, owner)]) rest

/-- `_build`, after the records with the ids `seen`. -/
def buildFrom (seen : List String) (capabilities : List (String × CapabilityOwner)) :
    List ExtensionRecord → Except Exn (List (String × CapabilityOwner))
  | [] => .ok capabilities
  | record :: records =>
    if record.id ∈ seen then .error (duplicateCapabilityError ("extension id already registered: " ++ record.id))
    else
      match register capabilities (declared record.manifest) with
      | .ok capabilities => buildFrom (seen ++ [record.id]) capabilities records
      | .error e => .error e

/-- `_build`: the capabilities of a snapshot of the records. -/
def build (records : List ExtensionRecord) : Except Exn (List (String × CapabilityOwner)) := buildFrom [] [] records

section Build

variable {capabilities capabilities' entries : List (String × CapabilityOwner)}

/-- Registration goes through exactly where no identifier comes twice. -/
theorem register_eq_ok (unique : (capabilities.map Prod.fst).Nodup) :
    register capabilities entries = .ok capabilities' ↔
      capabilities' = capabilities ++ entries ∧ ((capabilities ++ entries).map Prod.fst).Nodup := by
  induction entries generalizing capabilities with
  | nil => simp [register, unique, eq_comm]
  | cons entry entries ih =>
    obtain ⟨identifier, owner⟩ := entry
    unfold register
    cases found : capabilities.lookup identifier with
    | some previous =>
      have taken : identifier ∈ capabilities.map Prod.fst :=
        mem_map.mpr ⟨_, mem_of_lookup_eq_some found, rfl⟩
      simp only [reduceCtorEq, false_iff, not_and]
      intro _ nodup
      rw [map_append, nodup_append] at nodup
      exact nodup.2.2 identifier taken identifier (by simp) rfl
    | none =>
      have fresh : identifier ∉ capabilities.map Prod.fst := lookup_eq_none_iff_keys.mp found
      rw [append_cons capabilities (identifier, owner) entries]
      exact ih (nodup_map_snoc unique fresh)

/-- A snapshot can be built exactly where no id and no identifier comes twice. -/
theorem buildFrom_ok_iff {seen : List String} {records : List ExtensionRecord}
    (unique : (capabilities.map Prod.fst).Nodup) (ids : seen.Nodup) :
    (∃ built, buildFrom seen capabilities records = .ok built) ↔
      (seen ++ records.map ExtensionRecord.id).Nodup ∧
      ((capabilities ++ records.flatMap fun record => declared record.manifest).map Prod.fst).Nodup := by
  induction records generalizing seen capabilities with
  | nil => simp [buildFrom, unique, ids]
  | cons record records ih =>
    rw [flatMap_cons, ← append_assoc, map_cons, append_cons seen]
    unfold buildFrom
    by_cases known : record.id ∈ seen
    · rw [if_pos known]
      refine ⟨fun ⟨_, ok⟩ => (by cases ok), fun ⟨nodup, _⟩ => ?_⟩
      have both := nodup_append.mp (nodup_append.mp nodup).1
      exact absurd rfl (both.2.2 _ known _ mem_cons_self)
    · rw [if_neg known]
      have ids' : (seen ++ [record.id]).Nodup := by
        rw [← concat_eq_append]
        exact List.Nodup.concat known ids
      cases registered : register capabilities (declared record.manifest) with
      | ok grown =>
        obtain ⟨rfl, unique'⟩ := (register_eq_ok unique).mp registered
        exact ih unique' ids'
      | error e =>
        refine ⟨fun ⟨_, ok⟩ => (by cases ok), fun ⟨_, nodup⟩ => ?_⟩
        rw [map_append] at nodup
        have ok := (register_eq_ok unique).mpr ⟨rfl, (nodup_append.mp nodup).1⟩
        rw [registered] at ok
        cases ok

theorem build_ok_iff {records : List ExtensionRecord} : (∃ built, build records = .ok built) ↔
      (records.map ExtensionRecord.id).Nodup ∧
      ((records.flatMap fun record => declared record.manifest).map Prod.fst).Nodup := by
  have general := @buildFrom_ok_iff [] [] records nodup_nil nodup_nil
  simpa [build] using general

theorem build_of_sublist {records fewer : List ExtensionRecord} (sublist : fewer.Sublist records)
    (ok : ∃ built, build records = .ok built) : ∃ built, build fewer = .ok built := by
  obtain ⟨ids, identifiers⟩ := build_ok_iff.mp ok
  refine build_ok_iff.mpr ⟨ids.sublist (sublist.map _), identifiers.sublist ?_⟩
  exact (sublist.flatMap _).map _

end Build

/-- The published records, by their extension. -/
abbrev Published : Type := Keyed ExtensionRecord.id

/-- `ExtensionRegistry`: its snapshot, with the proof that it was built from its records. -/
structure Registry where
  generation : Nat
  extensions : Published
  capabilities : List (String × CapabilityOwner)
  built : build extensions.values = .ok capabilities

namespace Registry

/-- A snapshot of the records. -/
def snapshot (generation : Nat) (records : List ExtensionRecord) : Except Exn Registry :=
  match ok : build records with
  | .ok capabilities =>
    .ok ⟨generation, Keyed.ofValues ExtensionRecord.id records, capabilities,
      (Keyed.values_ofValues (build_ok_iff.mp ⟨_, ok⟩).1).symm ▸ ok⟩
  | .error e => .error e

variable (registry : Registry)

/-- The next snapshot. -/
def rebuild (extensions : Published) : Except Exn Registry :=
  match built : build extensions.values with
  | .ok capabilities => .ok ⟨registry.generation + 1, extensions, capabilities, built⟩
  | .error e => .error e

/-- `enable`. -/
def enable (record : ExtensionRecord) : Except Exn Registry :=
  if record.state ≠ .enabled then .error (extensionError "only a healthy ENABLED record can enter the registry")
  else registry.rebuild (registry.extensions.put record)

/-- `disable`. -/
def disable (extensionId : String) : Except Exn Registry :=
  registry.rebuild (registry.extensions.erase extensionId)

/-- `replace_all`. -/
def replaceAll (records : List ExtensionRecord) : Except Exn Registry :=
  match records.filter fun record => record.state ≠ .enabled with
  | [] => snapshot (registry.generation + 1) records
  | invalid => .error (extensionError ("registry records are not enabled: [" ++
      String.intercalate ", " (invalid.map fun record => "'" ++ record.id ++ "'") ++ "]"))

variable {registry next : Registry} {record : ExtensionRecord}

theorem rebuild_eq_ok {extensions : Published} (ok : registry.rebuild extensions = .ok next) :
    next.extensions = extensions := by
  unfold rebuild at ok
  split at ok
  · cases ok
    rfl
  · cases ok

variable {records : List ExtensionRecord} {generation : Nat}

theorem snapshot_eq_ok (ok : snapshot generation records = .ok next) :
    next.extensions = Keyed.ofValues ExtensionRecord.id records ∧ ∃ capabilities, build records = .ok capabilities := by
  unfold snapshot at ok
  split at ok
  · cases ok
    exact ⟨rfl, _, ‹_›⟩
  · cases ok

theorem snapshot_ok (ok : ∃ capabilities, build records = .ok capabilities) :
    ∃ next, snapshot generation records = .ok next := by
  obtain ⟨capabilities, built⟩ := ok
  unfold snapshot
  split
  · exact ⟨_, rfl⟩
  · rename_i raised
    rw [built] at raised
    cases raised

theorem enable_eq_ok (ok : registry.enable record = .ok next) :
    record.state = .enabled ∧ next.extensions = registry.extensions.put record := by
  unfold enable at ok
  split_ifs at ok with state
  exact ⟨not_not.mp state, rebuild_eq_ok ok⟩

theorem disable_ok (registry : Registry) (extensionId : String) :
    ∃ next, registry.disable extensionId = .ok next ∧ next.extensions = registry.extensions.erase extensionId := by
  obtain ⟨capabilities, built⟩ :=
    build_of_sublist (registry.extensions.values_erase_sublist extensionId) ⟨_, registry.built⟩
  unfold disable rebuild
  split
  · exact ⟨_, rfl, rfl⟩
  · rename_i raised
    rw [built] at raised
    cases raised

/-- A replacement goes through exactly where every record is enabled and the snapshot can be
built. -/
theorem replaceAll_ok_iff : (∃ next, registry.replaceAll records = .ok next) ↔
      (∀ record ∈ records, record.state = .enabled) ∧ ∃ capabilities, build records = .ok capabilities := by
  have none : (records.filter fun record => record.state ≠ .enabled) = [] ↔
    ∀ record ∈ records, record.state = .enabled := by
    simp [filter_eq_nil_iff]
  unfold replaceAll
  split
  · rename_i invalid
    refine ⟨fun ⟨next, ok⟩ => ⟨none.mp invalid, (snapshot_eq_ok ok).2⟩, fun both => snapshot_ok both.2⟩
  · rename_i invalid
    refine ⟨fun ⟨next, ok⟩ => (by cases ok), fun both => absurd (none.mpr both.1) invalid⟩

theorem replaceAll_eq_ok (ok : registry.replaceAll records = .ok next) :
    next.extensions = Keyed.ofValues ExtensionRecord.id records ∧ next.extensions.values = records := by
  unfold replaceAll at ok
  split at ok
  · obtain ⟨published, built⟩ := snapshot_eq_ok ok
    refine ⟨published, ?_⟩
    rw [published]
    exact Keyed.values_ofValues (build_ok_iff.mp built).1
  · cases ok

/-- A registry with nothing published. -/
def empty : Registry := ⟨0, Keyed.ofValues ExtensionRecord.id [], [], rfl⟩

end Registry

end PersonalAssistant.Lifecycle
