import PersonalAssistant.Mail.Executor

/-!
# What the checks before the ledger turn down

`execute` raises `DefinitiveToolFailure` from a dozen checks before it opens the ledger. Each
of them looks at the arguments or at one answer from outside: the account registry, the
extension, the artifact store, the parser, the switch of the broker. `Refused` says on which
answers a request is turned down, and `verify_runs` that the checks turn down exactly those.
-/

namespace PersonalAssistant

open Coro

/-- What the checks before the ledger were answered, in their order. -/
structure Checks where
  account : Option (Except Exn MailAccountRecord) := none
  material : Option (Except Exn Value) := none
  bytes : Option (Except Exn Bytes) := none
  envelope : Option (Except Exn ParsedEnvelope) := none
  again : Option (Except Exn MailAccountRecord) := none
  available : Option (Except Exn Bool) := none

/-- The answers of a whole run: those of the checks, the registry's after the claim, and the
broker's. -/
structure Replies where
  checks : Checks := {}
  recheck : Option (Except Exn MailAccountRecord) := none
  broker : Option (Except Exn MailDeliveryReceipt) := none

/-- Note an answered request. -/
def Replies.note (r : Replies) : MailEvent → Replies
  | ⟨.resolveAccount _, a⟩ =>
    if r.checks.account.isNone then { r with checks.account := some a }
    else if r.checks.again.isNone then { r with checks.again := some a }
    else { r with recheck := some a }
  | ⟨.invokeTool _ _ _ _ _ _ _, a⟩ => { r with checks.material := some a }
  | ⟨.readAsHost _, a⟩ => { r with checks.bytes := some a }
  | ⟨.parseEnvelope _, a⟩ => { r with checks.envelope := some a }
  | ⟨.sendAvailable, a⟩ => { r with checks.available := some a }
  | ⟨.send _ _, a⟩ => { r with broker := some a }
  | _ => r

variable (x : MailSendExecutor) (expectations : Expectations)

/-- The registry does not have the account under the approved fingerprint. -/
def accountRefused : Except Exn MailAccountRecord → Prop
  | .error (.runtime .mailAccountNotFound _) => True
  | .error e => e.isDefinitive
  | .ok account => ∃ found, account.fingerprint x.host.toHost = .ok found ∧ found ≠ expectations.accountFingerprint

/-- The account is the approved one. -/
def accountBound (account : MailAccountRecord) : Prop :=
  account.fingerprint x.host.toHost = .ok expectations.accountFingerprint

/-- The account is the approved one, but not the sender's, or a recipient is not allowed. -/
def senderRefused (a : Except Exn MailAccountRecord) : Prop :=
  ∃ account, a = .ok account ∧ accountBound x expectations account ∧
    (x.host.lower account.address ≠ x.host.lower expectations.fromAddress ∨ x.deniedRecipients expectations ≠ [])

/-- The account is the approved one, and may not send. -/
def sendingRefused (a : Except Exn MailAccountRecord) : Prop :=
  ∃ account, a = .ok account ∧ accountBound x expectations account ∧ account.sendEnabled = false

/-- The output of the extension names an artifact of the approved digest. -/
def Usable (output : Value) : Prop :=
  (∃ artifact, output.get? "mime_artifact_id" = some (.str artifact) ∧ artifact ≠ "") ∧
    output.get? "mime_sha256" = some (.str expectations.mimeSha256)

/-- The output of an extension that succeeded. -/
def materialOutput (result : List (String × Value)) : Option (List (String × Value)) :=
  match Value.get? (.dict result) "outcome", Value.get? (.dict result) "output" with
  | some (.str "SUCCEEDED"), some (.dict output) => some output
  | _, _ => none

/-- The extension fails, or refuses to materialize the approved draft. -/
def materialRefused : Except Exn Value → Prop
  | .error e => e ≠ .cancelled
  | .ok (.dict result) => Value.get? (.dict result) "outcome" ≠ some (.str "NEEDS_USER_ACTION") ∧
      ∀ output, materialOutput result = some output → ¬ Usable expectations (.dict output)
  | .ok _ => False

/-- The artifact cannot be read, or is not the approved message. -/
def bytesRefused : Except Exn Bytes → Prop
  | .error e => e ≠ .cancelled
  | .ok data => x.host.sha256Bytes data ≠ expectations.mimeSha256

/-- The message and the output of the extension are what was approved. -/
structure Matches (host : MailHost) (actual : ParsedEnvelope) (materialized : Value) (expectations : Expectations) :
    Prop where
  messageId : actual.messageId = some expectations.messageId
  subject : actual.subject = expectations.subject
  sender : host.lower (actual.fromAddress.getD "") = host.lower expectations.fromAddress
  to_ : sameSet (normalizedSet host actual.toAddresses) (normalizedSet host expectations.to_)
  cc : sameSet (normalizedSet host actual.ccAddresses) (normalizedSet host expectations.cc)
  bcc : ∃ addresses, addressesOf host (materialized.get? "bcc") = .ok addresses ∧
    sameSet (normalizedSet host addresses) (normalizedSet host expectations.bcc)
  hashes : ∃ hashes, digestsOf ((materialized.get? "attachment_hashes").getD (.list [])) = .ok hashes ∧
    sameSet hashes expectations.attachmentHashes
  attachments : sameSet (normalizedSet host actual.attachmentHashes) expectations.attachmentHashes

/-- The message is not the approved one. -/
def envelopeRefused (material : Option (Except Exn Value)) : Except Exn ParsedEnvelope → Prop
  | .error e => e.isDefinitive
  | .ok actual => ∃ result output, material = some (.ok (.dict result)) ∧ materialOutput result = some output ∧
      ¬ Matches x.host actual (.dict output) expectations

/-- An answer to a check turns the request down. -/
def Checks.Refused (c : Checks) : Prop :=
  (∃ a ∈ c.account, accountRefused x expectations a ∨ senderRefused x expectations a) ∨
  (∃ a ∈ c.material, materialRefused expectations a) ∨
  (∃ a ∈ c.bytes, bytesRefused x expectations a) ∨
  (∃ a ∈ c.envelope, envelopeRefused x expectations c.material a) ∨
  (∃ a ∈ c.again, accountRefused x expectations a ∨ sendingRefused x expectations a) ∨
  c.available = some (.ok false)

/-- The request is turned down before the ledger: by its tool, by its arguments or by an
answer. -/
def Refused (x : MailSendExecutor) (descriptor : ToolDescriptor) (arguments : List (String × Value))
    (context : ToolExecutionContext) (c : Checks) : Prop :=
  "mail.send" ∉ descriptor.requiredCapabilities ∨
    (∀ expectations, expectationsOf x.host arguments context ≠ .ok expectations) ∨
    ∃ expectations, expectationsOf x.host arguments context = .ok expectations ∧ c.Refused x expectations

variable {expectations : Expectations} {host : MailHost} {arguments : List (String × Value)}
  {context : ToolExecutionContext} {descriptor : ToolDescriptor} {actual : ParsedEnvelope} {materialized : Value}
  {e : Exn}

theorem refused_iff {x : MailSendExecutor} {c : Checks} (capable : "mail.send" ∈ descriptor.requiredCapabilities)
    (read : expectationsOf x.host arguments context = .ok expectations) :
    Refused x descriptor arguments context c ↔ c.Refused x expectations := by
  simp [Refused, capable, read]

/-- `_verify_envelope` passes exactly the approved message. -/
theorem compareEnvelope_ok :
    compareEnvelope host actual materialized expectations = .ok () ↔ Matches host actual materialized expectations := by
  constructor
  · intro h
    unfold compareEnvelope at h
    split at h; · cases h
    split at h; · cases h
    split at h; · cases h
    split at h; · cases h
    split at h; · cases h
    split at h; · cases h
    split at h; · cases h
    split at h; · cases h
    split at h; · cases h
    rename_i bcc hbcc sameBcc _ hashes hhashes attached
    simp only [not_or, Bool.not_eq_false] at *
    refine ⟨?_, ?_, ?_, ?_, ?_, ⟨_, hbcc, ?_⟩, ⟨_, hhashes, ?_⟩, ?_⟩ <;> simp_all
  · rintro ⟨messageId, subject, sender, hto, hcc, ⟨bcc, hbcc, sameBcc⟩, ⟨hashes, hhashes, sameHashes⟩, attachments⟩
    simp [compareEnvelope, messageId, subject, sender, hto, hcc, hbcc, sameBcc, hhashes, sameHashes, attachments]

theorem compareEnvelope_error (h : compareEnvelope host actual materialized expectations = .error e) :
    e.isDefinitive ∧ ¬ Matches host actual materialized expectations := by
  refine ⟨?_, fun all => by rw [compareEnvelope_ok.mpr all] at h; cases h⟩
  unfold compareEnvelope at h
  split at h; · cases h; rfl
  split at h; · cases h; rfl
  split at h; · cases h; rfl
  split at h; · cases h; rfl
  split at h; · cases h; rfl
  split at h; · cases h; rfl
  split at h; · cases h; rfl
  split at h; · cases h; rfl
  split at h
  · cases h; rfl
  · cases h

theorem expectationsOf_error (h : expectationsOf host arguments context = .error e) : e.isDefinitive := by
  unfold expectationsOf at h
  split at h
  · cases h; rfl
  split at h
  · cases h; rfl
  split at h
  · cases h; rfl
  · cases h

section Runs

variable {x : MailSendExecutor} {expectations : Expectations} {p : Post} {r : Replies}

/-- What a lookup of the account that refuses has seen. -/
theorem lookupAccount_runs {missing changed : String} :
    Runs mailWorld Replies.note (x.lookupAccount expectations missing changed)
      (fun outcome st => ∃ a, st = (p, r.note ⟨.resolveAccount expectations.accountId, a⟩) ∧
        match outcome with
        | .ok account => a = .ok account ∧ accountBound x expectations account
        | .error e => (e.isDefinitive ↔ accountRefused x expectations a) ∧
            ∀ account, a = .ok account → ¬ accountBound x expectations account) (p, r) := by
  refine wp.bind (wp.attempt (runs_inert (MailOp.inert_ofHost rfl) fun a _ => ?_))
  dsimp only [either]
  split
  · exact wp.raise ⟨_, rfl, by simp [accountRefused, Exn.isDefinitive], nofun⟩
  · rename_i exc other _
    refine wp.raise ⟨_, rfl, ?_, nofun⟩
    rw [accountRefused]
    exact other
  · rename_i account _
    refine wp_ofExcept_bind (fun found hfound => ?_) fun e he => ?_
    · refine wp.ite ⟨fun changed => wp.raise ⟨_, rfl, ?_, ?_⟩, fun same => wp.pure ⟨_, rfl, rfl, ?_⟩⟩
      · simp [accountRefused, hfound, changed, Exn.isDefinitive]
      · rintro account ⟨⟩ bound
        exact changed (Except.ok.inj (hfound.symm.trans bound))
      · rw [accountBound, hfound, not_not.mp same]
    · refine ⟨_, rfl, ?_, ?_⟩
      · simp [accountRefused, he, canonicalSha256_error he]
      · rintro account ⟨⟩ bound
        rw [accountBound, he] at bound
        cases bound

variable (expectations) in
theorem materialRefused_iff {result output : List (String × Value)} (h : materialOutput result = some output) :
    materialRefused expectations (.ok (.dict result)) ↔ ¬ Usable expectations (.dict output) := by
  have succeeded : Value.get? (.dict result) "outcome" = some (.str "SUCCEEDED") := by
    unfold materialOutput at h
    split at h
    · assumption
    · cases h
  simp [materialRefused, succeeded, h]

variable (expectations) in
/-- What a materialization that refuses has seen. -/
theorem materialize_runs : Runs mailWorld Replies.note (x.materialize descriptor arguments context)
      (fun outcome st => ∃ a, st = (p, { r with checks.material := some a }) ∧
        match outcome with
        | .ok output =>
          ∃ result fields, a = .ok (.dict result) ∧ materialOutput result = some fields ∧ output = .dict fields
        | .error e => e.isDefinitive ↔ materialRefused expectations a) (p, r) := by
  refine wp.bind (wp.attempt (runs_inert (MailOp.inert_ofHost rfl) fun a _ => ?_))
  dsimp only [either]
  split
  · exact wp.raise ⟨_, rfl, by simp [materialRefused, Exn.isDefinitive]⟩
  · rename_i cancelled _
    exact wp.raise ⟨_, rfl, by simpa [materialRefused, Exn.isDefinitive] using cancelled⟩
  · rename_i result _
    split
    · rename_i asked
      exact wp.raise ⟨_, rfl, by simp [materialRefused, asked, Exn.isDefinitive]⟩
    · rename_i succeeded
      split
      · rename_i output found
        exact wp.pure ⟨_, rfl, result, output, rfl, by simp [materialOutput, succeeded, found], rfl⟩
      · rename_i missing
        refine wp.raise ⟨_, rfl, iff_of_true rfl ⟨by simp [succeeded], fun output found => ?_⟩⟩
        unfold materialOutput at found
        split at found
        · exact absurd (by assumption) (missing _)
        · cases found
    · rename_i unasked failed
      refine wp.raise ⟨_, rfl, iff_of_true rfl ⟨unasked, fun output found => ?_⟩⟩
      unfold materialOutput at found
      split at found
      · exact absurd (by assumption) failed
      · cases found
  · rename_i other _
    refine wp.raise ⟨_, rfl, iff_of_false nofun fun refused => ?_⟩
    unfold materialRefused at refused
    split at refused
    · rename_i heq
      cases heq
    · rename_i heq
      exact other _ (Except.ok.inj heq)
    · exact refused

/-- `_verify_bytes` asks for the artifact only when the output is usable. -/
theorem verifyBytes_runs {output : Value} : Runs mailWorld Replies.note (x.verifyBytes output expectations)
      (fun outcome st =>
        (st = (p, r) ∧ ¬ Usable expectations output ∧ ∃ e, outcome = .error e ∧ e.isDefinitive) ∨
        Usable expectations output ∧ ∃ a, st = (p, { r with checks.bytes := some a }) ∧
          match outcome with
          | .ok data => a = .ok data ∧ ¬ bytesRefused x expectations a
          | .error e => e.isDefinitive ↔ bytesRefused x expectations a) (p, r) := by
  have unusable {message : String} {Q : Prop} (h : ¬ Usable expectations output) :
      ((p, r) = (p, r) ∧ ¬ Usable expectations output ∧
        ∃ e, (Except.error (definitive message) : Except Exn Bytes) = .error e ∧ e.isDefinitive) ∨ Q :=
    .inl ⟨rfl, h, _, rfl, rfl⟩
  unfold MailSendExecutor.verifyBytes
  split
  · rename_i artifact named
    refine wp.ite ⟨fun blank => wp.raise (unusable ?_), fun given => ?_⟩
    · rintro ⟨⟨_, found, nonempty⟩, -⟩
      rw [named] at found
      cases found
      exact nonempty blank
    split
    · rename_i sha hsha
      refine wp.ite ⟨fun other => wp.raise (unusable ?_), fun same => ?_⟩
      · rintro ⟨-, found⟩
        rw [hsha] at found
        cases found
        exact other rfl
      have usable : Usable expectations output := ⟨⟨artifact, named, given⟩, by rw [hsha, not_not.mp same]⟩
      refine wp.bind (wp.attempt (runs_inert (MailOp.inert_ofHost rfl) fun a _ => ?_))
      dsimp only [either]
      split
      · exact wp.raise (.inr ⟨usable, _, rfl, by simp [bytesRefused, Exn.isDefinitive]⟩)
      · rename_i cancelled _
        exact wp.raise (.inr ⟨usable, _, rfl, iff_of_true rfl cancelled⟩)
      · rename_i data _
        exact wp.ite ⟨fun broken => wp.raise (.inr ⟨usable, _, rfl, iff_of_true rfl broken⟩),
          fun sound => wp.pure (.inr ⟨usable, _, rfl, rfl, sound⟩)⟩
    · rename_i unnamed
      exact wp.raise (unusable fun ⟨_, found⟩ => unnamed _ found)
  · rename_i unnamed
    exact wp.raise (unusable fun ⟨⟨_, found, _⟩, _⟩ => unnamed _ found)

end Runs

section Verify

variable (x : MailSendExecutor) (descriptor : ToolDescriptor) (arguments : List (String × Value))
  (context : ToolExecutionContext)

/-- The checks let a request through to the ledger. -/
structure Passed (checked : MailSendExecutor.Checked) (r : Replies) : Prop where
  read : expectationsOf x.host arguments context = .ok checked.expectations
  digest : canonicalSha256 x.host.toHost (.dict arguments) = .ok checked.envelopeDigest
  unrefused : ¬ Refused x descriptor arguments context r.checks
  resolved : r.checks.account.isSome ∧ r.checks.again.isSome
  available : r.checks.available = some (.ok true)
  fresh : r.recheck = none ∧ r.broker = none

/-- The checks stop a request with an exception, a definitive failure exactly on a refusal. -/
structure Stopped (e : Exn) (r : Replies) : Prop where
  definitive_iff : e.isDefinitive ↔ Refused x descriptor arguments context r.checks
  undigested : r.checks.available = some (.ok true) →
    ∀ digest, canonicalSha256 x.host.toHost (.dict arguments) ≠ .ok digest
  fresh : r.recheck = none ∧ r.broker = none

variable {x descriptor arguments context} {p : Post}

variable {account : MailAccountRecord}

section

variable (bound : accountBound x expectations account)

include bound

theorem accountRefused_bound
    : ¬ accountRefused x expectations (.ok account) := by
  rintro ⟨found, hfound, changed⟩
  rw [accountBound, hfound] at bound
  exact changed (Except.ok.inj bound)

theorem senderRefused_bound :
    senderRefused x expectations (.ok account) ↔
      x.host.lower account.address ≠ x.host.lower expectations.fromAddress ∨ x.deniedRecipients expectations ≠ [] := by
  simp [senderRefused, bound]

theorem sendingRefused_bound :
    sendingRefused x expectations (.ok account) ↔ account.sendEnabled = false := by
  simp [sendingRefused, bound]

end

attribute [local simp] Checks.Refused Replies.note

/-- **The checks refuse what `Refused` says.** -/
theorem verify_runs : Runs mailWorld Replies.note (x.verify descriptor arguments context)
      (fun outcome st => st.1 = p ∧
        match outcome with
        | .ok checked => Passed x descriptor arguments context checked st.2
        | .error e => Stopped x descriptor arguments context e st.2) (p, {}) := by
  refine wp.ite ⟨fun incapable => wp.raise ⟨rfl, iff_of_true rfl (.inl incapable), nofun, rfl, rfl⟩,
    fun capable => ?_⟩
  refine wp_ofExcept_bind (fun expectations read => ?_) fun e invalid =>
    ⟨rfl, iff_of_true (expectationsOf_error invalid) (.inr (.inl (by simp [invalid]))), nofun, rfl, rfl⟩
  have refused {c : Checks} := refused_iff (c := c) (not_not.mp capable) read
  -- the registry
  refine wp.after lookupAccount_runs fun outcome st h => ?_
  obtain ⟨a, rfl, h⟩ := h
  cases outcome with
  | error e =>
    refine ⟨rfl, ?_, nofun, rfl, rfl⟩
    have unsent : ¬ senderRefused x expectations a := fun ⟨account, ha, bound, _⟩ => h.2 account ha bound
    rw [refused, h.1]
    simp [unsent]
  | ok account =>
  obtain ⟨rfl, bound⟩ := h
  have trusted := accountRefused_bound bound
  have sender := senderRefused_bound bound
  refine wp.ite ⟨fun foreign => wp.raise ⟨rfl, ?_, nofun, rfl, rfl⟩, fun own => ?_⟩
  · rw [refused]
    simp [sender, foreign, Exn.isDefinitive]
  refine wp.ite ⟨fun denied => wp.raise ⟨rfl, ?_, nofun, rfl, rfl⟩, fun allowed => ?_⟩
  · rw [refused]
    simp [sender, denied, Exn.isDefinitive]
  rw [not_not] at own allowed
  replace sender : ¬ senderRefused x expectations (.ok account) := by simp [sender, own, allowed]
  -- the extension
  refine wp.after (materialize_runs expectations) fun outcome st h => ?_
  obtain ⟨a, rfl, h⟩ := h
  cases outcome with
  | error e =>
    refine ⟨rfl, ?_, nofun, rfl, rfl⟩
    rw [refused, show e.isDefinitive ↔ _ from h]
    simp [trusted, sender]
  | ok output =>
  obtain ⟨result, fields, rfl, produced, rfl⟩ := h
  have material := materialRefused_iff expectations produced
  refine wp.after verifyBytes_runs fun outcome st h => ?_
  rcases h with ⟨rfl, unusable, e, rfl, definitive⟩ | ⟨usable, a, rfl, h⟩
  · refine ⟨rfl, ?_, nofun, rfl, rfl⟩
    rw [refused]
    simp [material, unusable, definitive]
  replace material : ¬ materialRefused expectations (.ok (.dict result)) := by simp [material, usable]
  -- the message
  cases outcome with
  | error e =>
    refine ⟨rfl, ?_, nofun, rfl, rfl⟩
    rw [refused, show e.isDefinitive ↔ _ from h]
    simp [trusted, sender, material]
  | ok mimeBytes =>
  obtain ⟨rfl, sound⟩ := h
  refine wp.bind (runs_inert (MailOp.inert_ofHost rfl) fun a _ => ?_)
  cases a with
  | error e =>
    refine ⟨rfl, ?_, nofun, rfl, rfl⟩
    rw [refused]
    simp [trusted, sender, material, sound, envelopeRefused]
  | ok actual =>
  have envelope : envelopeRefused x expectations (some (.ok (.dict result))) (.ok actual) ↔
      ¬ Matches x.host actual (.dict fields) expectations := by
    simp [envelopeRefused, produced]
  refine wp_ofExcept_bind (fun _ same => ?_) fun e differs => ⟨rfl, ?_, nofun, rfl, rfl⟩
  rotate_left
  · obtain ⟨definitive, other⟩ := compareEnvelope_error differs
    rw [refused]
    simp [envelope, other, definitive]
  replace envelope : ¬ envelopeRefused x expectations (some (.ok (.dict result))) (.ok actual) := by
    simp [envelope, compareEnvelope_ok.mp same]
  -- the registry again
  refine wp.after lookupAccount_runs fun outcome st h => ?_
  obtain ⟨a, rfl, h⟩ := h
  cases outcome with
  | error e =>
    refine ⟨rfl, ?_, nofun, rfl, rfl⟩
    have enabled : ¬ sendingRefused x expectations a := fun ⟨account, ha, bound, _⟩ => h.2 account ha bound
    rw [refused, h.1]
    simp [trusted, sender, material, sound, envelope, enabled]
  | ok account' =>
  obtain ⟨rfl, bound'⟩ := h
  have trusted' := accountRefused_bound bound'
  have sending := sendingRefused_bound bound'
  refine wp.ite ⟨fun disabled => wp.raise ⟨rfl, ?_, nofun, rfl, rfl⟩, fun enabled => ?_⟩
  · rw [refused]
    simp [sending, disabled, Exn.isDefinitive]
  replace sending : ¬ sendingRefused x expectations (.ok account') := by simp [sending, enabled]
  -- the switch of the broker
  refine wp.bind (runs_inert (MailOp.inert_ofHost rfl) fun a answered => ?_)
  obtain ⟨available, rfl⟩ := answered rfl
  refine wp.ite ⟨fun off => wp.raise ⟨rfl, ?_, ?_, rfl, rfl⟩, fun on => ?_⟩
  · rw [refused]
    simp [off, Exn.isDefinitive]
  · simp [off]
  have unrefused : ¬ Refused x descriptor arguments context
      ⟨some (.ok account), some (.ok (.dict result)), some (.ok mimeBytes), some (.ok actual), some (.ok account'),
        some (.ok available)⟩ := by
    rw [refused]
    simp [trusted, sender, material, sound, envelope, trusted', sending, on]
  refine wp_ofExcept_bind (fun digest hdigest => wp.pure ⟨rfl, ?_⟩) fun e undigested => ⟨rfl, ?_, ?_, rfl, rfl⟩
  · exact ⟨read, hdigest, unrefused, ⟨rfl, rfl⟩, by simp [on], rfl, rfl⟩
  · exact iff_of_false (by simp [canonicalSha256_error undigested]) unrefused
  · intro _ digest found
    rw [undigested] at found
    cases found

end Verify

end PersonalAssistant
