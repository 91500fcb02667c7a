import PersonalAssistant.Domain.Dict

/-!
# Exceptions

The exceptions the modelled functions raise and tell apart, as one type. The hierarchy of
the source (`domain/errors.py` and the modules that extend it) is the predicates that its
`except` clauses test: `Exn.isDomainError`, `Exn.isTimeout` and so on.
-/

namespace PersonalAssistant

/-- The classes under `DomainError`, each with its `code`. -/
inductive DomainKind where
  | domainError
  | validation
  | notFound
  | alreadyExists
  | concurrentModification
  | invalidStateTransition
  | canonicalization
  | schemaValidation
  | approvalExpired
  | approvalState
  | approvalBindingMismatch
  | invalidApprovalNonce
  | toolPolicyDenied
  | prohibitedTool
  deriving DecidableEq, Repr

/-- The class attribute `code`. -/
def DomainKind.code : DomainKind → String
  | .domainError => "domain_error"
  | .validation => "validation_error"
  | .notFound => "not_found"
  | .alreadyExists => "already_exists"
  | .concurrentModification => "concurrent_modification"
  | .invalidStateTransition => "invalid_state_transition"
  | .canonicalization => "canonicalization_error"
  | .schemaValidation => "schema_validation_error"
  | .approvalExpired => "approval_expired"
  | .approvalState => "approval_state_error"
  | .approvalBindingMismatch => "approval_binding_mismatch"
  | .invalidApprovalNonce => "invalid_approval_nonce"
  | .toolPolicyDenied => "tool_policy_denied"
  | .prohibitedTool => "prohibited_tool"

/-- The class of a domain error. -/
def DomainKind.typeName : DomainKind → String
  | .domainError => "DomainError"
  | .validation => "ValidationError"
  | .notFound => "NotFoundError"
  | .alreadyExists => "AlreadyExistsError"
  | .concurrentModification => "ConcurrentModificationError"
  | .invalidStateTransition => "InvalidStateTransitionError"
  | .canonicalization => "CanonicalizationError"
  | .schemaValidation => "SchemaValidationError"
  | .approvalExpired => "ApprovalExpiredError"
  | .approvalState => "ApprovalStateError"
  | .approvalBindingMismatch => "ApprovalBindingMismatchError"
  | .invalidApprovalNonce => "InvalidApprovalNonceError"
  | .toolPolicyDenied => "ToolPolicyError"
  | .prohibitedTool => "ProhibitedToolError"

/-- `MailErrorCode`. -/
inductive MailErrorCode where
  | tlsFailed
  | authFailed
  | authUnsupported
  | unavailable
  | timeout
  | rateLimited
  | protocolError
  | accountDisabled
  | accountUnknown
  | accountChanged
  | sendDisabled
  | recipientNotAllowed
  | messageTooLarge
  | folderUnavailable
  | credentialUnavailable
  deriving DecidableEq, Repr

/-- The persisted value of a mail error code. -/
def MailErrorCode.value : MailErrorCode → String
  | .tlsFailed => "MAIL_TLS_FAILED"
  | .authFailed => "MAIL_AUTH_FAILED"
  | .authUnsupported => "MAIL_AUTH_UNSUPPORTED"
  | .unavailable => "MAIL_UNAVAILABLE"
  | .timeout => "MAIL_TIMEOUT"
  | .rateLimited => "MAIL_RATE_LIMITED"
  | .protocolError => "MAIL_PROTOCOL_ERROR"
  | .accountDisabled => "MAIL_ACCOUNT_DISABLED"
  | .accountUnknown => "MAIL_ACCOUNT_UNKNOWN"
  | .accountChanged => "MAIL_ACCOUNT_CHANGED"
  | .sendDisabled => "MAIL_SEND_DISABLED"
  | .recipientNotAllowed => "MAIL_RECIPIENT_NOT_ALLOWED"
  | .messageTooLarge => "MAIL_MESSAGE_TOO_LARGE"
  | .folderUnavailable => "MAIL_FOLDER_UNAVAILABLE"
  | .credentialUnavailable => "MAIL_CREDENTIAL_UNAVAILABLE"

/-- `MailError.needs_user_action`. -/
def MailErrorCode.needsUserAction : MailErrorCode → Bool
  | .authFailed | .authUnsupported | .credentialUnavailable => true
  | _ => false

/-- The classes under `BrowserError`. -/
inductive BrowserErrorKind where
  | policy
  | navigationDenied
  | prohibitedTransaction
  | unavailable
  | sessionState
  | pageDrift
  | previewExpired
  | limit
  | unknownOutcome
  deriving DecidableEq, Repr

/-- The class of a browser error. -/
def BrowserErrorKind.typeName : BrowserErrorKind → String
  | .policy => "BrowserPolicyError"
  | .navigationDenied => "NavigationDeniedError"
  | .prohibitedTransaction => "ProhibitedTransactionError"
  | .unavailable => "BrowserUnavailableError"
  | .sessionState => "BrowserSessionStateError"
  | .pageDrift => "PageDriftError"
  | .previewExpired => "PreviewExpiredError"
  | .limit => "BrowserLimitError"
  | .unknownOutcome => "UnknownBrowserOutcomeError"

/-- The class attribute `code` of a browser error. -/
def BrowserErrorKind.code : BrowserErrorKind → String
  | .policy => "BROWSER_POLICY_DENIED"
  | .navigationDenied => "BROWSER_NAVIGATION_DENIED"
  | .prohibitedTransaction => "BROWSER_PROHIBITED"
  | .unavailable => "BROWSER_UNAVAILABLE"
  | .sessionState => "BROWSER_SESSION_STATE"
  | .pageDrift => "BROWSER_PAGE_DRIFT"
  | .previewExpired => "BROWSER_PREVIEW_EXPIRED"
  | .limit => "BROWSER_LIMIT_EXCEEDED"
  | .unknownOutcome => "BROWSER_OUTCOME_UNKNOWN"

/-- The classes under `ExtensionError` that carry a message alone. -/
inductive ExtensionErrorKind where
  | base
  | duplicateCapability
  | invalidLifecycleTransition
  | confirmationRequired
  deriving DecidableEq, Repr

/-- The class of such an extension error. -/
def ExtensionErrorKind.typeName : ExtensionErrorKind → String
  | .base => "ExtensionError"
  | .duplicateCapability => "DuplicateCapabilityError"
  | .invalidLifecycleTransition => "InvalidLifecycleTransition"
  | .confirmationRequired => "ConfirmationRequiredError"

/-- The classes outside `DomainError` that some handler tells apart. `reason` is the
attribute of a `BrowserPolicyError`, empty for the other browser errors. -/
inductive RuntimeKind where
  | mailError (code : MailErrorCode)
  | mailAccountNotFound
  | mailLedgerConflict
  | mailLedgerState
  | rpcCall (code : Int)
  | extensionOperation (code : String)
  | extension (kind : ExtensionErrorKind)
  | browser (kind : BrowserErrorKind) (reason : String)
  | browserDriver (code : String)
  | leaseConflict
  | leaseLost
  | valueError
  | keyError
  deriving DecidableEq, Repr

/-- The class of such an error. -/
def RuntimeKind.typeName : RuntimeKind → String
  | .mailError _ => "MailError"
  | .mailAccountNotFound => "MailAccountNotFoundError"
  | .mailLedgerConflict => "MailLedgerConflictError"
  | .mailLedgerState => "MailLedgerStateError"
  | .rpcCall _ => "RpcCallError"
  | .extensionOperation _ => "ExtensionOperationError"
  | .extension kind => kind.typeName
  | .browser kind _ => kind.typeName
  | .browserDriver _ => "BrowserDriverError"
  | .leaseConflict => "LeaseConflict"
  | .leaseLost => "LeaseLost"
  | .valueError => "ValueError"
  | .keyError => "KeyError"

/-- The code of a `MailError`, a missing account included. -/
def RuntimeKind.mailCode? : RuntimeKind → Option MailErrorCode
  | .mailError code => some code
  | .mailAccountNotFound => some .accountUnknown
  | _ => none

/-- A raised exception. `cancelled` is `asyncio.CancelledError`, which is a `BaseException`
and so passes every `except Exception`; `timeout` is `TimeoutError` and its subclasses, by
name and message; `other` is any class no handler names. -/
inductive Exn where
  | domain (kind : DomainKind) (message : String)
  | definitiveToolFailure (message : String) (retryable : Bool)
  | outcomeUnknown (referenceId message : String)
  | userActionRequired (message : String)
  | extensionUnavailable (extensionId message : String)
  | runtime (kind : RuntimeKind) (message : String)
  | timeout (typeName : String) (message : String := "")
  | cancelled
  | other (typeName : String)
  deriving DecidableEq, Repr

namespace Exn

/-- `isinstance(exc, DomainError)`. -/
def isDomainError : Exn → Bool
  | domain _ _ => true
  | _ => false

/-- `isinstance(exc, DefinitiveToolFailure)`. -/
def isDefinitive : Exn → Bool
  | definitiveToolFailure _ _ => true
  | _ => false

/-- `isinstance(exc, RpcTimeoutError)`. -/
def isRpcTimeout : Exn → Bool
  | timeout name _ => name = "RpcTimeoutError"
  | _ => false

/-- `isinstance(exc, ExtensionError)`. -/
def isExtensionError : Exn → Bool
  | runtime (.rpcCall _) _ | runtime (.extensionOperation _) _ | runtime (.extension _) _ => true
  | exc => exc.isRpcTimeout

/-- `type(exc).__name__`, where a handler shows it. -/
def typeName : Exn → String
  | domain kind _ => kind.typeName
  | definitiveToolFailure _ _ => "DefinitiveToolFailure"
  | outcomeUnknown _ _ => "OutcomeUnknownError"
  | userActionRequired _ => "UserActionRequiredError"
  | extensionUnavailable _ _ => "ExtensionUnavailableError"
  | runtime kind _ => kind.typeName
  | timeout name _ => name
  | cancelled => "CancelledError"
  | other name => name

/-- The text `f"{exc.code}: {exc}"` of a domain error. -/
def codeAndText : Exn → String
  | domain kind message => kind.code ++ ": " ++ message
  | exc => exc.typeName

end Exn

/-- `raise ValidationError(message)`. -/
abbrev validationError (message : String) : Exn := .domain .validation message

/-- `raise NotFoundError(message)`. -/
abbrev notFoundError (message : String) : Exn := .domain .notFound message

/-- The exception of a computation, if it raised one. -/
def raised? {ε α : Type} : Except ε α → Option ε
  | .ok _ => none
  | .error e => some e

theorem eq_error_of_raised {ε α : Type} {x : Except ε α} {e : ε} (h : raised? x = some e) : x = .error e := by
  cases x with
  | ok a => cases h
  | error e' => exact congrArg Except.error (Option.some.inj h)

/-- A computation that succeeds has a first part that succeeds. -/
theorem bind_eq_ok {ε α β : Type} {x : Except ε α} {f : α → Except ε β} {b : β} (h : (x >>= f) = .ok b) :
    ∃ a, x = .ok a ∧ f a = .ok b := by
  cases x with
  | error e => cases h
  | ok a => exact ⟨a, rfl, h⟩

/-- A computation that fails does so in its first part or after it. -/
theorem bind_eq_error {ε α β : Type} {x : Except ε α} {f : α → Except ε β} {e : ε} (h : (x >>= f) = .error e) :
    x = .error e ∨ ∃ a, x = .ok a ∧ f a = .error e := by
  cases x with
  | error e' => exact .inl (congrArg Except.error (Except.error.inj h))
  | ok a => exact .inr ⟨a, rfl, h⟩

/-- Whatever the computation raises is in `P`. -/
def Raises {α : Type} (P : Exn → Prop) (x : Except Exn α) : Prop := ∀ e, x = .error e → P e

section Rules

variable {α β γ : Type} {P : Exn → Prop} {x y : Except Exn α} {f : α → Except Exn β} {p : Prop} {items : List γ}
  {e : Exn}

theorem Raises.mono {Q : Exn → Prop} (imp : ∀ e, P e → Q e) (h : Raises P x) : Raises Q x :=
  fun e raised => imp e (h e raised)

theorem Raises.ok (a : α) : Raises P (.ok a) := fun _ h => by cases h

theorem Raises.error (h : P e) : Raises P (.error e : Except Exn α) := by
  intro e' raised
  cases raised
  exact h

theorem Raises.bind (first : Raises P x) (rest : ∀ a, x = .ok a → Raises P (f a)) : Raises P (x >>= f) := by
  intro e raised
  rcases bind_eq_error raised with raised | ⟨a, ok, raised⟩
  · exact first e raised
  · exact rest a ok e raised

theorem Raises.map {g : α → β} (h : Raises P x) : Raises P (x.map g) := by
  cases x with
  | ok a => exact .ok (g a)
  | error e => exact .error (h e rfl)

theorem Raises.ite [Decidable p] (hx : p → Raises P x) (hy : ¬ p → Raises P y) : Raises P (if p then x else y) := by
  by_cases hp : p
  · simpa [hp] using hx hp
  · simpa [hp] using hy hp

theorem Raises.guard [Decidable p] (refused : P e) (hy : ¬ p → Raises P y) : Raises P (if p then .error e else y) :=
  .ite (fun _ => .error refused) hy

theorem Raises.returned [Decidable p] {a : α} (hy : ¬ p → Raises P y) : Raises P (if p then .ok a else y) :=
  .ite (fun _ => .ok a) hy

theorem Raises.mapM {g : γ → Except Exn α} (h : ∀ item ∈ items, Raises P (g item)) : Raises P (items.mapM g) := by
  induction items with
  | nil => exact .ok []
  | cons item items ih =>
    rw [List.mapM_cons]
    refine .bind (h item List.mem_cons_self) fun _ _ => .bind ?_ fun _ _ => .ok _
    exact ih fun other mem => h other (List.mem_cons_of_mem _ mem)

theorem Raises.forM {g : γ → Except Exn PUnit} (h : ∀ item ∈ items, Raises P (g item)) : Raises P (items.forM g) := by
  induction items with
  | nil => exact .ok PUnit.unit
  | cons item items ih =>
    refine .bind (h item List.mem_cons_self) fun _ _ => ?_
    exact ih fun other mem => h other (List.mem_cons_of_mem _ mem)

end Rules

end PersonalAssistant
