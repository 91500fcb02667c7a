import PersonalAssistant.Browser.Policy

/-!
# Reading a page

What the broker makes of the mapping a companion answers a snapshot with: the structure
fingerprint of `core/browser/fingerprint.py`, and the parts of
`BrowserSessionBroker._snapshot_impl` that await nothing. The companion is not trusted, so
every entry is looked at before it is used.
-/

namespace PersonalAssistant

/-- `value or default`. -/
def Value.orElse (v : Option Value) (default : Value) : Value :=
  match v with
  | some value => if value.truthy then value else default
  | .none => default

/-- The items of an `isinstance(value, Sequence)`; a string is a sequence of characters. -/
def Value.sequence? : Value → Option (List Value)
  | .list items | .tuple items => some items
  | .str s => some (s.toList.map fun c => .str (String.ofList [c]))
  | _ => Option.none

/-- `for item in value`; a mapping yields its keys. -/
def Value.iterate (v : Value) : Except Exn (List Value) :=
  match v with
  | .dict entries => .ok (entries.map fun entry => .str entry.1)
  | _ => match v.sequence? with
    | some items => .ok items
    | .none => .error (.other "TypeError")

/-- `isinstance(value, Mapping)`. -/
def Value.isMapping : Value → Bool
  | .dict _ => true
  | _ => false

/-- The mappings among the first items of a sequence; what is no sequence has none. -/
def Value.mappings (count : Nat) (v : Value) : List Value :=
  ((v.sequence?.getD []).take count).filter Value.isMapping

/-- `_require_mapping`. -/
def requireMapping (v : Value) (what : String) : Except Exn Value :=
  if v.isMapping then .ok v
  else .error (browserPolicyError "COMPANION_MALFORMED" ("companion " ++ what ++ " is malformed"))

/-- `_require_str`. -/
def requireStr (v : Value) (what : String) (maxLength : Nat) : Except Exn String :=
  match v with
  | .str s => if s.length ≤ maxLength then .ok s
    else .error (browserPolicyError "COMPANION_MALFORMED" ("companion " ++ what ++ " is malformed"))
  | _ => .error (browserPolicyError "COMPANION_MALFORMED" ("companion " ++ what ++ " is malformed"))

/-- `_require_str(mapping.get(key, ""), what)`. -/
def Value.requireText (v : Value) (key what : String) (maxLength : Nat) : Except Exn String :=
  requireStr ((v.get? key).getD (.str "")) what maxLength

/-! ## The fingerprint -/

namespace BrowserHost

variable (host : BrowserHost)

/-- `_bounded_text`. -/
def boundedText (v : Option Value) : String :=
  takeChars 256 <| strip <| match v with
    | none | some .none => ""
    | some (.str s) => s
    | some value => host.pyStr value

/-- `int(mapping.get(key, 0) or 0)`. -/
def getInt (v : Value) (key : String) : Except Exn Int := host.pyInt (Value.orElse (v.get? key) (.int 0))

/-- `str(mapping.get(key, default))`. -/
def getStr (v : Value) (key default : String) : String := host.pyStr ((v.get? key).getD (.str default))

/-- `_normalize_control`. -/
def normalizeControl (raw : Value) (index : Nat) : Value :=
  let texts := ["tag", "type", "name", "element_id", "locator", "role", "aria_label", "placeholder", "inputmode",
    "autocomplete"].map fun key => (key, Value.str (host.boundedText (raw.get? key)))
  let flags := ["required", "readonly", "disabled", "multiple"].map fun key =>
    (key, Value.bool (match raw.get? key with | some (.bool b) => b | _ => false))
  let options := match raw.get? "options" with
    | some (.list items) | some (.tuple items) =>
      (items.take 64).map fun item => Value.str (host.boundedText (some item))
    | _ => []
  let maxLength := match raw.get? "max_length" with
    | some (.int n) => n
    | some (.bool true) => 1
    | _ => 0
  .dict ([("order", .int index)] ++ texts ++ flags ++ [("options", .list options), ("max_length", .int maxLength)])

/-- An entry of the structure document: its place and the bounded texts of some keys. -/
def normalizeEntry (keys : List String) (raw : Value) (index : Nat) : Value :=
  .dict (("order", .int index) :: keys.map fun key => (key, .str (host.boundedText (raw.get? key))))

/-- A heading of the structure document. -/
def normalizeHeading (raw : Value) (index : Nat) : Except Exn Value := do
  return .dict [("order", .int index), ("level", .int (← host.getInt raw "level")),
    ("text", .str (host.boundedText (raw.get? "text")))]

/-- A form of the structure document. -/
def normalizeForm (raw : Value) (index : Nat) : Value :=
  .dict [("order", .int index), ("action", .str (host.boundedText (raw.get? "action"))),
    ("method", .str (host.lower (host.boundedText (raw.get? "method")))),
    ("element_id", .str (host.boundedText (raw.get? "element_id"))),
      ("name", .str (host.boundedText (raw.get? "name")))]

/-- A hidden input of the structure document, pinned by type and name. -/
def normalizeHidden (raw : Value) (index : Nat) : Value :=
  let type := host.boundedText (raw.get? "type")
  .dict [("order", .int index), ("type", .str (if type = "" then "hidden" else type)),
    ("name", .str (host.boundedText (raw.get? "name"))),
      ("element_id", .str (host.boundedText (raw.get? "element_id")))]

/-- `page_structure_document`. -/
def pageStructureDocument (controls headings links forms hidden : List Value) : Except Exn Value := do
  if controls.length > 512 then .error (browserLimitError "page structure exceeds the control limit")
  if headings.length > 128 then .error (browserLimitError "page structure exceeds the heading limit")
  if links.length > 128 then .error (browserLimitError "page structure exceeds the link limit")
  if forms.length > 32 then .error (browserLimitError "page structure exceeds the form limit")
  let headingItems ← headings.zipIdx.mapM fun (item, index) => host.normalizeHeading item index
  let hiddenItems := (hidden.take 512).zipIdx.map fun (item, index) => host.normalizeHidden item index
  let document : Value := .dict ([
    ("controls", .list (controls.zipIdx.map fun (item, index) => host.normalizeControl item index)),
    ("headings", .list headingItems),
    ("links", .list (links.zipIdx.map fun (item, index) => host.normalizeEntry ["text", "path"] item index)),
    ("forms", .list (forms.zipIdx.map fun (item, index) => host.normalizeForm item index))] ++
    if hiddenItems = [] then [] else [("hidden_fields", .list hiddenItems)])
  if (← canonicalJson document).utf8ByteSize > 256 * 1024 then
    .error (browserLimitError "page structure exceeds the byte limit")
  return document

end BrowserHost

/-- `BrowserSessionBroker`: its configuration. -/
structure BrowserSessionBroker where
  host : BrowserHost
  allowedOrigins : List String
  originMode : OriginMode
  limits : BrowserLimits
  submitEnabled : Bool

/-- The parts of a snapshot that are read before the page is judged. -/
structure RawPage where
  raw : Value
  url : String
  title : String
  controls : List Value
  links : List Value
  fingerprint : String
  decision : NavigationDecision

namespace BrowserSessionBroker

variable (broker : BrowserSessionBroker) (descriptor : Option TransactionAdapterDescriptor)

/-- `evaluate_navigation` with the configuration of the broker. -/
def evaluate (paths : List String) (url : String) : Except Exn NavigationDecision :=
  broker.host.evaluateNavigation broker.allowedOrigins broker.originMode paths url

/-- `_snapshot_impl` up to the decision about the URL. -/
def readPage (answer : Value) : Except Exn RawPage := do
  let raw ← requireMapping answer "snapshot"
  if (← canonicalJson raw).utf8ByteSize > broker.limits.maxSnapshotBytes then
    .error (browserLimitError "the page snapshot exceeds the byte limit")
  let url ← raw.requireText "url" "snapshot url" 2048
  let title ← raw.requireText "title" "snapshot title" 500
  let structure_ ← requireMapping ((raw.get? "structure").getD (.dict [])) "snapshot structure"
  let some controls := ((structure_.get? "controls").getD (.list [])).sequence?
    | .error (browserPolicyError "COMPANION_MALFORMED" "snapshot structure is malformed")
  let some headings := ((structure_.get? "headings").getD (.list [])).sequence?
    | .error (browserPolicyError "COMPANION_MALFORMED" "snapshot structure is malformed")
  if controls.length > broker.limits.maxFields * 8 then .error (browserLimitError "the page has too many controls")
  let rawControls := controls.filter Value.isMapping
  let rawLinks := ((raw.get? "links").getD (.tuple [])).mappings 128
  let document ← broker.host.pageStructureDocument rawControls (headings.filter Value.isMapping) rawLinks
    (((structure_.get? "forms").getD (.tuple [])).mappings 32)
    (((structure_.get? "hidden_fields").getD (.tuple [])).mappings 512)
  let fingerprint ← canonicalSha256 broker.host.toHost document
  let decision ← broker.evaluate ((descriptor.map (·.adapterPaths)).getD []) url
  if !decision.allowed then .error (navigationDeniedError decision.reason)
  return { raw, url, title, controls := rawControls, links := rawLinks, fingerprint, decision }

/-- The controls under their locators; a locator stands once. -/
def liveByLocator : List (String × Value) → List Value → Except Exn (List (String × Value))
  | seen, [] => .ok seen
  | seen, item :: rest =>
    let locator := broker.host.getStr item "locator" ""
    if locator = "" then liveByLocator seen rest
    else if (seen.map (·.1)).contains locator then .error (browserLimitError "the page has ambiguous field locators")
    else liveByLocator (seen ++ [(locator, item)]) rest

/-- One `PageField`; hidden and password values are never exported. -/
def pageField (locator : String) (item : Value) : Except Exn PageField := do
  let spec := descriptor.bind (·.fieldSpecByLocator locator)
  let type := broker.host.lower
    (broker.host.pyStr (Value.orElse (item.get? "type") (Value.orElse (item.get? "tag") (.str ""))))
  let options ← ((item.get? "options").getD (.tuple [])).iterate
  let maxLength ← broker.host.getInt item "max_length"
  return {
    fieldId := (spec.map (·.fieldId)).getD ""
    locator
    kind := broker.host.pyStr (Value.orElse (item.get? "type") (Value.orElse (item.get? "tag") (.str "unknown")))
    value := if type = "hidden" ∨ type = "password" then "" else broker.host.getStr item "value" ""
    name := broker.host.getStr item "name" ""
    required := ((item.get? "required").getD (.bool false)).truthy
    readonly := ((item.get? "readonly").getD (.bool false)).truthy
    options := options.map broker.host.pyStr
    maxLength
    known := spec.isSome }

/-- The fields of the page. -/
def pageFields (controls : List Value) : Except Exn (List PageField) := do
  let live ← broker.liveByLocator [] controls
  live.mapM fun (locator, item) => broker.pageField descriptor locator item

/-- `_parse_actions`. -/
def parseActions (raw : Value) (descriptor : Option TransactionAdapterDescriptor) : List PageAction :=
  (raw.mappings 32).filterMap fun item =>
    let locator := broker.host.getStr item "locator" ""
    if locator = "" then none
    else
      let spec := descriptor.bind (·.actionByLocator locator)
      some {
        actionId := (spec.map (·.actionId)).getD ""
        locator
        label := takeChars 200 (broker.host.getStr item "label" "")
        kind := takeChars 32 (broker.host.getStr item "kind" "other")
        risk := (spec.map (·.risk)).getD .externalWrite
        known := spec.isSome }

/-- `RiskLevel(text)`, an unknown one being prohibited. -/
def parseRisk (text : String) : RiskLevel :=
  match [RiskLevel.read, .internalWrite, .externalWrite].find? (·.value = text) with
  | some risk => risk
  | none => .prohibited

/-- `_parse_signals`. -/
def parseSignals (raw : Value) : List RiskSignal :=
  (raw.mappings 64).filterMap fun item =>
    let code := takeChars 64 (broker.host.getStr item "code" "")
    if code = "" then none
    else some ⟨code, takeChars 200 (broker.host.getStr item "detail" ""),
      parseRisk (broker.host.getStr item "risk" "EXTERNAL_WRITE")⟩

/-- The links of the page. -/
def parseLinks (links : List Value) : Except Exn (List PageLink) :=
  links.mapM fun item => do
    return { text := ← item.requireText "text" "link text" 200, path := ← item.requireText "path" "link path" 2048 }

/-- The state of a session after a page was read: a login page waits for the user. -/
def stateAfterRead (state : BrowserSessionState) (loginPage : Bool) : BrowserSessionState :=
  if loginPage then
    match state with
    | .requested | .authenticated | .discovered | .preparing | .previewReady => .waitingUser
    | _ => state
  else
    match state with
    | .requested | .waitingUser => .authenticated
    | _ => state

/-- `_verify_fields` of one planned change. -/
def verifyChange (descriptor : TransactionAdapterDescriptor) (snapshot : PageSnapshot) (change : FieldChange) :
    Except Exn Unit :=
  match descriptor.fieldSpec change.fieldId with
  | none => .error (browserPolicyError "UNKNOWN_FIELD" "the plan contains an unknown field")
  | some spec =>
    if spec.locator ≠ change.locator then
      .error (pageDriftError "the planned locator no longer matches the adapter")
    else match snapshot.fieldById change.fieldId with
    | none => .error (pageDriftError "a planned field is missing from the live page")
    | some live =>
      if live.value ≠ change.oldValue then .error (pageDriftError "a field changed since the preview was planned")
      else if change.newValue ≠ "" then
        if spec.maxLength ≠ 0 ∧ spec.maxLength < change.newValue.length then
          .error (browserPolicyError "INVALID_FIELD_VALUE" "a value exceeds its limit")
        else if spec.pattern ≠ "" ∧ ¬ broker.host.reFullmatch spec.pattern change.newValue then
          .error (browserPolicyError "INVALID_FIELD_VALUE" "a value fails validation")
        else if live.options ≠ [] ∧ change.newValue ∉ live.options then
          .error (browserPolicyError "INVALID_FIELD_VALUE" "a select value is not an option")
        else .ok ()
      else if spec.required then
        .error (browserPolicyError "MISSING_REQUIRED_FIELD" "a required field is empty")
      else .ok ()

/-- `_verify_fields`. -/
def verifyFields (descriptor : TransactionAdapterDescriptor) (plan : FillPlan) (snapshot : PageSnapshot) :
    Except Exn Unit := do
  if plan.fields.length > broker.limits.maxFields then
    .error (browserLimitError "the fill plan exceeds the field limit")
  if plan.attachments.length > broker.limits.maxAttachments then
    .error (browserLimitError "the fill plan exceeds the attachment limit")
  if plan.attachments.any (·.sizeBytes > broker.limits.maxAttachmentBytes) then
    .error (browserLimitError "an attachment exceeds the size limit")
  plan.fields.forM (broker.verifyChange descriptor snapshot)
  if descriptor.fields.any fun spec => spec.required && !(plan.fields.map (·.fieldId)).contains spec.fieldId then
    .error (browserPolicyError "MISSING_REQUIRED_FIELD" "a required field is missing")
  if snapshot.fields.any fun field => !field.known && !(["hidden", "button", "submit"].contains field.kind) then
    .error (browserPolicyError "UNKNOWN_FIELD" "the live page contains fields the adapter does not know")

/-- `_receipt_hash`. -/
def receiptHash (reference : String) : String := broker.host.sha256Hex reference

end BrowserSessionBroker

/-- `_baseline_document`; the digests are a set. -/
def baselineDocument (hashes : List String) (truncated : Bool) : ReceiptBaseline :=
  ⟨hashes.dedup.insertionSort (· ≤ ·), truncated⟩

/-- `_plan_matches_preview`; the changes are compared as mappings from their field. -/
def planMatchesPreview (plan : FillPlan) (preview : TransactionPreview) : Bool :=
  let values (fields : List FieldChange) (fieldId : String) : Option (String × String) :=
    (fields.reverse.find? (·.fieldId = fieldId)).map fun change => (change.oldValue, change.newValue)
  plan.transactionId = preview.transactionId && plan.expectedPageFingerprint = preview.pageFingerprint &&
    (plan.fields ++ preview.fields).all fun change => values plan.fields change.fieldId =
      values preview.fields change.fieldId

end PersonalAssistant
