import PersonalAssistant.Approvals.Service
import PersonalAssistant.Domain.Canonical

/-!
# Prepared records

`prepare` stores the canonical JSON of a binding's envelope and its digest. The in-memory
outbox reads the binding back from that text: it gets a binding with the same digest.
-/

namespace PersonalAssistant

open Coro InMemorySideEffectOutbox

/-- The document of an attachment in an envelope. -/
def AttachmentDigest.document (item : AttachmentDigest) : Value :=
  .dict [("name", .str item.name), ("sha256", .str item.sha256), ("size_bytes", .int item.sizeBytes)]

theorem normalizeJson_attachment (path : String) (item : AttachmentDigest) :
    normalizeJson path item.document = .ok item.document := by
  simp [AttachmentDigest.document, normalizeJson, normalizeEntries, List.insertionSort, keyLe, sequenceEntries]
  rfl

theorem normalizeItems_attachments (path : String) (index : Nat) (items : List AttachmentDigest) :
    normalizeItems path index (items.map AttachmentDigest.document) = .ok (items.map AttachmentDigest.document) := by
  induction items generalizing index with
  | nil => rw [List.map_nil, normalizeItems]
  | cons item items ih =>
    rw [List.map_cons, normalizeItems, normalizeJson_attachment, ih]
    rfl

variable {binding : ApprovalBinding}

namespace ApprovalBinding

/-- The canonical envelope of a binding, with the normal forms of its three free fields. -/
def canonical (binding : ApprovalBinding) (target payload formVersion : Value) : Value :=
  .dict [("action_type", .str binding.actionType),
    ("attachments", .list (binding.attachments.map AttachmentDigest.document)),
    ("extension_id", .str binding.extensionId), ("extension_version", .str binding.extensionVersion),
    ("form_version", formVersion), ("payload", payload), ("target", target), ("task_id", .str binding.taskId),
    ("tool_id", .str binding.toolId), ("tool_version", .str binding.toolVersion)]

/-- Only the three free fields of an envelope can be refused. -/
theorem normalizeJson_envelope (binding : ApprovalBinding) : normalizeJson "$" binding.envelope = (do
      let formVersion ← normalizeJson "$.form_version" binding.formVersion
      let payload ← normalizeJson "$.payload" binding.payload
      let target ← normalizeJson "$.target" binding.target
      return binding.canonical target payload formVersion) := by
  have attachments := normalizeItems_attachments "$.attachments" 0 binding.attachments
  rw [envelope, normalizeJson]
  simp only [normalizeEntries, normalizeJson]
  rw [show normalizeItems ("$" ++ "." ++ "attachments") 0 (binding.attachments.map fun item =>
    .dict [("name", .str item.name), ("sha256", .str item.sha256), ("size_bytes", .int item.sizeBytes)]) =
      _ from attachments]
  simp [List.insertionSort, List.orderedInsert, keyLe, sequenceEntries]
  cases normalizeJson "$.form_version" binding.formVersion <;> cases normalizeJson "$.payload" binding.payload <;>
    cases normalizeJson "$.target" binding.target <;> rfl

/-- A binding with the normal forms of its free fields has the same canonical envelope. -/
theorem normalizeJson_rebuilt {action : Value} (normalized : normalizeJson "$" binding.envelope = .ok action) :
    ∃ target payload formVersion, action = binding.canonical target payload formVersion ∧
      normalizeJson "$" { binding with target, payload, formVersion }.envelope = .ok action := by
  rw [normalizeJson_envelope] at normalized
  obtain ⟨formVersion, form, rest⟩ := bind_eq_ok normalized
  obtain ⟨payload, pay, rest⟩ := bind_eq_ok rest
  obtain ⟨target, goal, returned⟩ := bind_eq_ok rest
  obtain rfl : action = binding.canonical target payload formVersion := (Except.ok.inj returned).symm
  refine ⟨target, payload, formVersion, rfl, ?_⟩
  rw [normalizeJson_envelope, normalizeJson_fixed form, normalizeJson_fixed pay, normalizeJson_fixed goal]
  rfl

end ApprovalBinding

theorem toLower_hex {c : Char} (hex : c ∈ "0123456789abcdef".toList) : c.toLower = c := by
  have all : "0123456789abcdef".toList.all fun c => c.toLower == c := by decide
  exact beq_iff_eq.mp (List.all_eq_true.mp all c hex)

theorem AttachmentDigest.make_self (item : AttachmentDigest) :
    AttachmentDigest.make item.name item.sha256 item.sizeBytes = .ok item := by
  have same : item.sha256.toList.map Char.toLower = item.sha256.toList := by
    conv_rhs => rw [← List.map_id item.sha256.toList]
    exact List.map_congr_left fun c mem => toLower_hex (item.sha256_hex.2 c mem)
  have lower : String.ofList (item.sha256.toList.map Char.toLower) = item.sha256 := by
    rw [same, String.ofList_toList]
  unfold make
  simp only [lower]
  rw [dif_neg item.name_ne, dif_pos item.sha256_hex, if_neg (Int.not_lt.mpr (Int.natCast_nonneg _))]
  rfl

namespace InMemorySideEffectOutbox

theorem mapM_attachmentOf (items : List AttachmentDigest) :
    (items.map AttachmentDigest.document).mapM attachmentOf = .ok items := by
  induction items with
  | nil => rfl
  | cons item items ih =>
    have head : attachmentOf item.document = .ok item := AttachmentDigest.make_self item
    rw [List.map_cons, List.mapM_cons, head, ih]
    rfl

end InMemorySideEffectOutbox

/-- A record as `prepare` writes it and every later change keeps it: its text is the canonical
JSON of a binding, which `json.loads` reads back, its fingerprint is the digest, and while it
is open it has no result. -/
structure ApprovalRecord.Prepared (host : Host) (record : ApprovalRecord) : Prop where
  action : ∃ binding action, ApprovalBinding.check binding = .ok binding ∧
    normalizeJson "$" binding.envelope = .ok action ∧ canonicalJson action = .ok record.canonicalAction ∧
    canonicalSha256 host action = .ok record.actionFingerprint ∧ host.jsonLoads record.canonicalAction = .ok action
  pending : record.isExpirable → record.resultReference = none

namespace ApprovalRecord.Prepared

variable {host : Host} {record : ApprovalRecord}

theorem digest (prepared : record.Prepared host) : ∃ text, record.actionFingerprint = host.sha256Hex text := by
  obtain ⟨_, action, _, _, encoded, hashed, _⟩ := prepared.action
  rw [canonicalSha256, encoded] at hashed
  exact ⟨_, (Except.ok.inj hashed).symm⟩

/-- **The binding read back from a prepared record has the digest of the record.** -/
theorem rebuilds (prepared : record.Prepared host) : ∃ binding, bindingFromRecord host record = .ok binding ∧
      canonicalSha256 host binding.envelope = .ok record.actionFingerprint := by
  obtain ⟨binding, action, checked, normalized, encoded, hashed, loaded⟩ := prepared.action
  obtain ⟨target, payload, formVersion, rfl, again⟩ := ApprovalBinding.normalizeJson_rebuilt normalized
  refine ⟨{ binding with target, payload, formVersion }, ?_, ?_⟩
  · have attachments := mapM_attachmentOf binding.attachments
    have named : ¬ [binding.actionType, binding.taskId, binding.toolId, binding.toolVersion, binding.extensionId,
        binding.extensionVersion].any isBlank := by
      intro blank
      rw [ApprovalBinding.check, if_pos blank] at checked
      cases checked
    unfold bindingFromRecord
    rw [loaded]
    show ((binding.attachments.map AttachmentDigest.document).mapM attachmentOf >>= fun items =>
      ApprovalBinding.check { binding with target, payload, formVersion, attachments := items }) = _
    rw [attachments]
    exact if_neg named
  · have fixed := normalizeJson_fixed normalized "$"
    rw [canonicalSha256, canonicalJson, fixed] at hashed
    rw [canonicalSha256, canonicalJson, again]
    exact hashed

end ApprovalRecord.Prepared

/-- A created approval is a prepared one. -/
def CreatesPrepared (host : Host) : GatewayEvent → Prop
  | ⟨.createApproval record, _⟩ => record.Prepared host
  | _ => True

/-- `prepare` creates prepared records, where `json.loads` reads back the action that
`json.dumps` wrote. -/
theorem prepare_prepared {host : Host} {σ : Type} {H : Handler GatewayPort Exn σ} {s : σ}
    {now : Option Time} {ttl : Int} (checked : binding.check = .ok binding)
    (reads : ∀ action text, normalizeJson "$" binding.envelope = .ok action → jsonDumps action = .ok text →
      host.jsonLoads text = .ok action) :
    wp H (fun _ => CreatesPrepared host) (ApprovalService.prepare host binding now ttl) (fun _ _ => True) s := by
  refine wp_bind_keep (I := fun _ => True) ?_ fun currentTime s₁ _ => ?_
  · cases now with
    | some now => exact wp.pure trivial
    | none => exact wp.perform fun _ _ _ => ⟨trivial, trivial⟩
  refine wp.ite ⟨fun _ => wp.raise trivial, fun _ => ?_⟩
  refine wp_ofExcept_bind (fun action normalized => ?_) fun _ _ => trivial
  refine wp_ofExcept_bind (fun text encoded => ?_) fun _ _ => trivial
  refine wp_bind_keep (I := fun _ => True) (wp.perform fun _ _ _ => ⟨trivial, trivial⟩) fun id s₂ _ => ?_
  refine wp_ofExcept_bind (fun fingerprint hashed => ?_) fun _ _ => trivial
  refine wp_bind_keep (I := fun _ => True) (wp.perform fun _ _ _ => ⟨trivial, trivial⟩) fun nonce s₃ _ => ?_
  refine wp_bind_keep (I := fun _ => True) (wp.perform fun _ _ _ => ⟨?_, trivial⟩) fun _ _ _ => wp.pure trivial
  have dumped : jsonDumps action = .ok text := by
    rw [canonicalJson, normalizeJson_fixed normalized] at encoded
    exact encoded
  exact ⟨⟨binding, action, checked, normalized, encoded, hashed, reads _ _ normalized dumped⟩, fun _ => rfl⟩

end PersonalAssistant
