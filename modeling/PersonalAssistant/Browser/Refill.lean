import PersonalAssistant.Browser.Detection
import PersonalAssistant.Browser.Sessions

/-!
# A fill that is asked for again

A session that has a preview answers `execute_fill` with it if `_plan_matches_preview` holds, which
compares the transaction, the page and the values of the fields. The digest of a preview is taken of
more: of the application, the consequences, the attachments and all that is known of a field.
-/

namespace PersonalAssistant.Refill

open Coro BrowserSessionBroker List

/-- Two plans agree in what a digest is taken of: the application, the consequences, and, in the order
of the digest, the documents of the fields and of the attachments. -/
structure Agrees (broker : BrowserSessionBroker) (descriptor : TransactionAdapterDescriptor)
    (plan original : FillPlan) : Prop where
  app : plan.appId = original.appId
  consequences : plannedConsequences descriptor plan = plannedConsequences descriptor original
  fields : fieldDocuments broker.host (plannedChanges descriptor plan) =
    fieldDocuments broker.host (plannedChanges descriptor original)
  attachments : attachmentDocuments (broker.plannedAttachments plan) =
    attachmentDocuments (broker.plannedAttachments original)

section Fill

variable {broker : BrowserSessionBroker} {record record' session : BrowserSessionRecord}
  {descriptor : TransactionAdapterDescriptor}
  {plan original : FillPlan} {snapshot : PageSnapshot} {now now' : Time} {nonce nonce' : String}
  {preview stored : TransactionPreview}

theorem pauseAndRaise_ne {code : String} {e : Exn} :
    pauseAndRaise record code e ≠ (pure stored : BrowserM TransactionPreview) := by
  unfold pauseAndRaise pause
  split_ifs <;> intro same <;> cases same

theorem check_ok (ok : preview.check = .ok stored) : stored = preview := by
  unfold TransactionPreview.check at ok
  split_ifs at ok
  exact (Except.ok.inj ok).symm

/-- The digests of two plans for one transaction, on one page, are taken of one document exactly if
the plans agree. -/
theorem previewPayload_eq_iff (transaction : plan.transactionId = original.transactionId)
    (built : broker.buildPreview record descriptor original snapshot now nonce = .ok stored)
    (planned : broker.buildPreview record' descriptor plan snapshot now' nonce' = .ok preview) :
    previewPayload broker.host preview = previewPayload broker.host stored ↔
    Agrees broker descriptor plan original := by
  obtain ⟨_, -, checked⟩ := bind_eq_ok built
  obtain ⟨_, -, checked'⟩ := bind_eq_ok planned
  obtain rfl := check_ok checked
  obtain rfl := check_ok checked'
  simp only [previewPayload, transaction, Value.dict.injEq, cons.injEq, Prod.mk.injEq, Value.str.injEq,
    Value.list.injEq, true_and, and_true]
  constructor
  · rintro ⟨app, consequences, fields, attachments⟩
    exact ⟨app, consequences, fields, attachments⟩
  · intro same
    exact ⟨same.app, same.consequences, same.fields, same.attachments⟩

theorem buildPreview_spec (built : broker.buildPreview record descriptor plan snapshot now nonce = .ok preview) :
    canonicalSha256 broker.host.toHost (previewPayload broker.host preview) = .ok preview.canonicalPayloadHash ∧
      preview.transactionId = plan.transactionId := by
  obtain ⟨digest, digested, checked⟩ := bind_eq_ok built
  obtain rfl := check_ok checked
  exact ⟨digested, rfl⟩

end Fill

/-- The broker with a digest that tells texts of odd and of even length apart. -/
def parityBroker : BrowserSessionBroker :=
  { sampleBroker with host := { sampleBrowserHost with
      sha256Hex := fun text => String.ofList (if text.length % 2 = 0 then replicate 64 '0' else replicate 64 '1')
      sha256Hex_length := fun text => by split_ifs <;> decide
      sha256Hex_hex := fun text => by split_ifs <;> decide } }

/-- The adapter of the form, with the consequences of a submission. -/
def formAdapter : TransactionAdapterDescriptor := { sampleAdapter with consequences := "An application is sent." }

/-- The preview of a plan on the page of the form. -/
def formPreview (plan : FillPlan) : Except Exn TransactionPreview :=
  let record : BrowserSessionRecord := {
    sessionId := "session", taskId := "task", extensionId := "site", extensionVersion := "1", purpose := "apply"
    state := .preparing, createdAt := 0, updatedAt := 0, expiresAt := 1 }
  parityBroker.buildPreview record formAdapter plan ⟨"session", "https://s/form", "https://s", "/form", "",
    samplePlan.expectedPageFingerprint, 0, [], [], [], [], "", 0, false, false, true⟩ 0 "nonce"

/-- The plan, with the consequences written out that the adapter declares. -/
def explicitPlan : FillPlan := { samplePlan with consequences := formAdapter.consequences }

end PersonalAssistant.Refill
