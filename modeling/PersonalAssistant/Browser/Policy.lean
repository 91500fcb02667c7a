import PersonalAssistant.Browser.Models

/-!
# Origin policy, risk and adapter validation

`core/browser/policy.py` (`evaluate_navigation`, `normalize_origin`, `assess_risk`) and
`validate_adapter_descriptor` of `core/browser/ports.py`. The URL parser, `fnmatchcase`, the
regular expressions of an adapter and the conversions of Python values belong to the Python
library and are fields of `BrowserHost`; nothing is assumed of them.
-/

namespace PersonalAssistant

/-- `urllib.parse.SplitResult`; `port` is `none` when reading it raises `ValueError`. -/
structure SplitResult where
  scheme : String
  netloc : String
  path : String
  query : String
  fragment : String
  hostname : Option String
  port : Option (Option Nat)
  deriving DecidableEq, Repr

/-- What the browser modules take from the Python library. -/
structure BrowserHost extends Host where
  /-- `urlsplit`, `none` for a `ValueError`. -/
  urlsplit : String → Option SplitResult
  /-- `unquote`. -/
  unquote : String → String
  /-- `parse_qsl(query, keep_blank_values=True)`, `none` for a `ValueError`. -/
  parseQsl : String → Option (List (String × String))
  /-- `fnmatchcase(name, pattern)`. -/
  fnmatchcase : String → String → Bool
  /-- Whether `re.compile` accepts a pattern. -/
  reCompiles : String → Bool
  /-- `bool(re.fullmatch(pattern, text))`. -/
  reFullmatch : String → String → Bool
  /-- A decimal digit, as `\d` matches it. -/
  isDigit : Char → Bool
  /-- `str.lower`. -/
  lower : String → String
  /-- `str.upper`. -/
  upper : String → String
  /-- `str(value)`. -/
  pyStr : Value → String
  /-- `int(value)`. -/
  pyInt : Value → Except Exn Int
  /-- `datetime.isoformat`. -/
  isoformat : Time → String
  /-- `round(x, 6)`. -/
  roundSix : PyFloat → PyFloat
  roundSix_finite : ∀ x, x.isFinite → (roundSix x).isFinite

/-- `origin_mode`. -/
inductive OriginMode where
  | allowlist
  | open_
  deriving DecidableEq, Repr

/-- `NavigationDecision`. -/
structure NavigationDecision where
  allowed : Bool
  origin : String := ""
  path : String := ""
  reason : String := "ALLOWED"
  deriving DecidableEq, Repr

variable (host : BrowserHost) (s : String)

/-- Whether a text has a character. -/
def hasChar (c : Char) : Bool := s.toList.contains c

namespace BrowserHost

variable (host : BrowserHost) (allowedOrigins : List String)

/-- `_canonical_host`. -/
def canonicalHost (name : String) : Except Exn String :=
  let value := String.ofList ((host.lower name).toList.reverse.dropWhile (· = '.')).reverse
  if value = "" then .error (browserPolicyError "MISSING_HOST" "origin requires a host")
  else if hasChar value '%' || hasChar value '\\' || hasChar value '/' then
    .error (browserPolicyError "MALFORMED_HOST" "origin host is malformed")
  else .ok value

/-- `normalize_origin`. -/
def normalizeOrigin (raw : String) : Except Exn String :=
  if isBlank raw then .error (browserPolicyError "EMPTY_ORIGIN" "origin is required")
  else if strip raw ≠ raw then .error (browserPolicyError "MALFORMED_ORIGIN" "origin must not contain padding")
  else if raw.toList.any (·.toNat < 0x21) then
    .error (browserPolicyError "CONTROL_CHARACTERS" "origin contains control characters")
  else match host.urlsplit raw with
  | none => .error (.other "ValueError")
  | some parts =>
    if host.lower parts.scheme ≠ "https" then
      .error (browserPolicyError "SCHEME_NOT_ALLOWED" "only https origins are allowed")
    else if ¬ (parts.path = "" ∨ parts.path = "/") ∨ parts.query ≠ "" ∨ parts.fragment ≠ "" then
      .error (browserPolicyError "MALFORMED_ORIGIN" "origin must not carry path/query/fragment")
    else if hasChar parts.netloc '@' then
      .error (browserPolicyError "USERINFO_NOT_ALLOWED" "origin must not carry userinfo")
    else match parts.hostname, parts.port with
    | none, _ | some "", _ => .error (browserPolicyError "MISSING_HOST" "origin requires a host")
    | some _, none => .error (browserPolicyError "MALFORMED_ORIGIN" "origin has an invalid port")
    | some _, some (some 0) => .error (browserPolicyError "MALFORMED_ORIGIN" "port zero is not a valid origin")
    | some name, some none | some name, some (some 443) => do
      return "https://" ++ (← host.canonicalHost name)
    | some name, some (some port) => do
      return "https://" ++ (← host.canonicalHost name) ++ ":" ++ toString port

/-- Unquote at most so many times, until nothing changes. -/
def unquoteTimes : Nat → String → String
  | 0, text => text
  | count + 1, text =>
    if host.unquote text = text then text else unquoteTimes count (host.unquote text)

/-- `_decoded_path`. -/
def decodedPath (path : String) : String := host.unquoteTimes 3 path

/-- `_REDIRECT_QUERY_KEYS`. -/
def redirectQueryKeys : List String :=
  ["url", "uri", "redirect", "redirect_uri", "redirect_url", "redirect_to", "next", "target", "continue", "callback",
    "return", "return_url", "returnurl", "goto", "dest", "destination", "forward", "service"]

/-- `_redirect_target_allowed`. -/
def redirectTargetAllowed (mode : OriginMode) (candidate : String) : Bool :=
  if hasChar candidate '\\' || hasChar candidate '@' then false
  else
    let target := if candidate.startsWith "//" then "https:" ++ candidate else candidate
    match host.urlsplit target with
    | none => false
    | some nested =>
      if nested.scheme = "" then true
      else if nested.scheme ≠ "https" || nested.hostname = none || nested.hostname = some "" then false
      else match host.normalizeOrigin (nested.scheme ++ "://" ++ nested.netloc) with
      | .error _ => false
      | .ok origin => mode = .open_ || allowedOrigins.contains origin

/-- `_has_open_redirect`. -/
def hasOpenRedirect (mode : OriginMode) (query : String) : Bool :=
  if query = "" then false
  else match host.parseQsl query with
  | none => true
  | some items => items.any fun (key, value) =>
    redirectQueryKeys.contains (host.lower key) && strip value ≠ "" &&
      !host.redirectTargetAllowed allowedOrigins mode (host.unquoteTimes 3 (strip value))

/-- `evaluate_navigation`. -/
def evaluateNavigation (mode : OriginMode) (allowedPaths : List String) (url : String) :
    Except Exn NavigationDecision :=
  if url = "" then .ok { allowed := false, reason := "EMPTY_URL" }
  else if url.length > 2048 then .ok { allowed := false, reason := "URL_TOO_LONG" }
  else if url.toList.any fun c => c.toNat < 0x20 || c.toNat = 0x7F then
    .ok { allowed := false, reason := "CONTROL_CHARACTERS" }
  else if strip url ≠ url then .ok { allowed := false, reason := "MALFORMED_URL" }
  else if hasChar url '\\' then .ok { allowed := false, reason := "BACKSLASH" }
  else match host.urlsplit url with
  | none => .ok { allowed := false, reason := "MALFORMED_URL" }
  | some parts =>
    if host.lower parts.scheme ≠ "https" then .ok { allowed := false, reason := "SCHEME_NOT_ALLOWED" }
    else if hasChar parts.netloc '@' then .ok { allowed := false, reason := "USERINFO_NOT_ALLOWED" }
    else match parts.hostname, parts.port with
    | none, _ | some "", _ => .ok { allowed := false, reason := "MISSING_HOST" }
    | some _, none => .ok { allowed := false, reason := "MALFORMED_URL" }
    | some name, some port =>
      -- port zero is falsy, so it is left out of the origin that is normalized
      let raw := match port with
        | none | some 0 => "https://" ++ name
        | some number => "https://" ++ name ++ ":" ++ toString number
      match host.normalizeOrigin raw with
      | .error (.runtime (.browser .policy _) _) => .ok { allowed := false, reason := "MALFORMED_URL" }
      | .error e => .error e
      | .ok origin =>
        let path := if parts.path = "" then "/" else parts.path
        let decoded := host.decodedPath path
        if port = some 0 then .ok { allowed := false, reason := "PORT_NOT_ALLOWED" }
        else if mode = .allowlist ∧ origin ∉ allowedOrigins then .ok ⟨false, origin, "", "HOST_NOT_ALLOWED"⟩
        else if hasChar decoded '\\' then .ok ⟨false, origin, path, "ENCODED_SEPARATOR"⟩
        else if hasChar decoded (Char.ofNat 0) then .ok ⟨false, origin, path, "ENCODED_SEPARATOR"⟩
        else if (decoded.toList.splitOn '/').any fun segment => segment = ['.'] ∨ segment = ['.', '.'] then
          .ok ⟨false, origin, path, "ENCODED_TRAVERSAL"⟩
        else if host.hasOpenRedirect allowedOrigins mode parts.query then .ok ⟨false, origin, path, "OPEN_REDIRECT"⟩
        else if allowedPaths ≠ [] ∧ ¬ allowedPaths.any (host.fnmatchcase path) then
          .ok ⟨false, origin, path, "PATH_NOT_ALLOWED"⟩
        else .ok ⟨true, origin, path, "ALLOWED"⟩

/-- `_navigation_path`: path plus optional hash route. -/
def navigationPath (url : String) : Except Exn String :=
  match host.urlsplit url with
  | none => .error (.other "ValueError")
  | some parts =>
    let path := if parts.path = "" then "/" else parts.path
    .ok (if parts.fragment = "" then path else path ++ "#" ++ parts.fragment)

/-- `_origin`. -/
def originOf (url : String) : Except Exn String :=
  match host.urlsplit url with
  | none => .error (.other "ValueError")
  | some parts =>
    match parts.port with
    | none => .error (.other "ValueError")
    | some none | some (some 443) => .ok ("https://" ++ host.lower (parts.hostname.getD ""))
    | some (some port) => .ok ("https://" ++ host.lower (parts.hostname.getD "") ++ ":" ++ toString port)

/-- `_path_only`. -/
def pathOnly (url : String) : Except Exn String :=
  match host.urlsplit url with
  | none => .error (.other "ValueError")
  | some parts => .ok (if parts.path = "" then "/" else parts.path)

/-- `_tracking_url_matches`: the live URL is exactly the declared target. -/
def trackingUrlMatches (url origin tracking : String) : Except Exn Bool :=
  match host.urlsplit url with
  | none => .ok false
  | some parts => do
    if parts.query ≠ "" then return false
    if (← host.navigationPath url) ≠ tracking then return false
    return (← host.originOf url) = origin

end BrowserHost

/-- `risk_rank`. -/
def riskRank : RiskLevel → Nat
  | .read => 0
  | .internalWrite => 1
  | .externalWrite => 2
  | .prohibited => 3

/-- `escalate_risk`. -/
def escalateRisk (base observed : RiskLevel) : RiskLevel :=
  if riskRank observed ≤ riskRank base then base else observed

/-- `ProhibitedCategory`. -/
inductive ProhibitedCategory where
  | courseWithdrawal
  | revocation
  | payment
  | courseChange
  | legalDeclaration
  | highConsequence
  | unknownTransaction
  | unknownPageVersion
  deriving DecidableEq, Repr

/-- The categories in the order of the enumeration, each with its value. -/
def ProhibitedCategory.values : List (ProhibitedCategory × String) :=
  [(courseWithdrawal, "COURSE_WITHDRAWAL"), (revocation, "REVOCATION"), (payment, "PAYMENT"),
    (courseChange, "COURSE_CHANGE"), (legalDeclaration, "LEGAL_DECLARATION"), (highConsequence, "HIGH_CONSEQUENCE"),
    (unknownTransaction, "UNKNOWN_TRANSACTION"), (unknownPageVersion, "UNKNOWN_PAGE_VERSION")]

/-- `_split_signals`: the prohibited categories named, and the other signals. A term of no
known category is neither. -/
def splitSignals (signals : List RiskSignal) : List ProhibitedCategory × List RiskSignal :=
  ((signals.filter (·.code = "PROHIBITED_TERM")).flatMap fun signal =>
      (ProhibitedCategory.values.filter (·.2 = signal.detail)).map (·.1),
    signals.filter (·.code ≠ "PROHIBITED_TERM"))

/-- `RiskAssessment`. -/
structure RiskAssessment where
  risk : RiskLevel
  categories : List ProhibitedCategory
  deriving DecidableEq, Repr

/-- `assess_risk` of a known transaction on a known page version. -/
def assessRisk (declared : RiskLevel) (categories : List ProhibitedCategory) (others : List RiskSignal) :
    RiskAssessment where
  risk := others.foldl (fun risk signal => escalateRisk risk signal.risk)
    (if categories = [] then declared else .prohibited)
  categories := categories.dedup

/-- The risk of a page is above what its adapter declares. -/
def RiskAssessment.aboveDeclared (assessment : RiskAssessment) (declared : RiskLevel) : Bool :=
  assessment.risk = .prohibited || riskRank declared < riskRank assessment.risk

/-! ## Adapter descriptors -/

/-- A lower-case letter or a digit. -/
def isIdChar (c : Char) : Bool := c.isLower || ('0' ≤ c && c ≤ '9')

/-- The rest of an id after a character of it. `$` also stands before a last newline. -/
def idRest : List Char → Bool
  | [] => true
  | ['\n'] => true
  | c :: d :: rest =>
    if isIdChar c then idRest (d :: rest)
    else (c = '.' || c = '_' || c = '-') && isIdChar d && idRest rest
  | [c] => isIdChar c

/-- `_ID_PATTERN`. -/
def matchesIdPattern : Bool :=
  match s.toList with
  | c :: rest => c.isLower && idRest rest
  | [] => false

/-- A text without the newline that `$` allows at its end. -/
def dropLastNewline (chars : List Char) : List Char :=
  if chars.getLast? = some '\n' then chars.dropLast else chars

/-- `_SHA256_HEX`. -/
def matchesSha256 : Bool :=
  let chars := dropLastNewline s.toList
  chars.length = 64 && chars.all fun c => "0123456789abcdef".toList.contains c

/-- One to four digits. -/
def BrowserHost.isIndex (chars : List Char) : Bool :=
  1 ≤ chars.length && chars.length ≤ 4 && chars.all host.isDigit

/-- `_FIELD_LOCATOR_PATTERN`. -/
def BrowserHost.isFieldLocator : Bool :=
  match dropLastNewline s.toList with
  | 'c' :: 't' :: 'l' :: ':' :: group :: ':' :: index =>
    (group = '0' || group = '1' || group = '2') && host.isIndex index
  | _ => false

/-- `_ACTION_LOCATOR_PATTERN`. -/
def BrowserHost.isActionLocator : Bool :=
  match dropLastNewline s.toList with
  | 'a' :: 'c' :: 't' :: ':' :: index => host.isIndex index
  | _ => false

/-- `_RECEIPT_LOCATOR_PATTERN`. -/
def BrowserHost.isReceiptLocator : Bool :=
  host.isFieldLocator s || host.isActionLocator s ||
    match dropLastNewline s.toList with
    | 't' :: 'e' :: 'x' :: 't' :: ':' :: text => 1 ≤ text.length && text.length ≤ 200 && text.all (· ≠ '\n')
    | _ => false

/-- `raise BrowserPolicyError("ADAPTER_INVALID", message)` unless the condition holds. -/
def requireAdapter (condition : Bool) (message : String) : Except Exn Unit :=
  if condition then .ok () else .error (browserPolicyError "ADAPTER_INVALID" message)

/-- `_require_id`. -/
def requireId (value fieldName : String) : Except Exn Unit := do
  requireAdapter (value ≠ "") (fieldName ++ " is required")
  requireAdapter (value.length ≤ 128 && matchesIdPattern value) (fieldName ++ " is malformed")

/-- Two dots in a row. -/
def hasDotDot : List Char → Bool
  | '.' :: '.' :: _ => true
  | _ :: rest => hasDotDot rest
  | [] => false

/-- `_validate_navigation_path`. -/
def validateNavigationPath (path : String) : Except Exn Unit := do
  requireAdapter (path.startsWith "/" && path.length ≤ 256) "a navigation target must start with '/'"
  requireAdapter (!(hasDotDot path.toList || hasChar path '\\' ||
    hasChar path '?')) "a navigation target must be static"

/-- `_validate_path`. -/
def validatePath (path : String) : Except Exn Unit := do
  requireAdapter (path.startsWith "/" && path.length ≤ 256) "adapter paths must start with '/'"
  requireAdapter (!(hasDotDot path.toList || hasChar path '\\' || hasChar path '?' || hasChar path '#'))
    "adapter paths must be static"

namespace BrowserHost

variable (host : BrowserHost) (allowedOrigins : List String) (mode : OriginMode)

/-- One origin of an adapter. -/
def validateAdapterOrigin (origin : String) : Except Exn Unit := do
  let canonical ← host.normalizeOrigin origin
  requireAdapter (canonical = origin) "adapter origins must be normalized"
  if mode = .allowlist ∧ canonical ∉ allowedOrigins then
    .error (browserPolicyError "ORIGIN_NOT_ALLOWED" "an adapter origin is not in the user allowlist")

/-- A regular expression of an adapter. -/
def validatePattern (pattern : String) (limit : Nat) (what : String) : Except Exn Unit :=
  if pattern = "" then .ok ()
  else do
    requireAdapter (pattern.length ≤ limit) (what ++ " pattern is too long")
    requireAdapter (host.reCompiles pattern) (what ++ " pattern is not a valid regex")

/-- `_FIELD_KINDS`. -/
def fieldKinds : List String :=
  ["text", "textarea", "select", "checkbox", "radio", "date", "number", "email", "tel", "file", "unknown"]

/-- The fields of an adapter, after those seen. -/
def validateFields : List String → List AdapterFieldSpec → Except Exn Unit
  | _, [] => .ok ()
  | seen, spec :: rest => do
    requireAdapter (!seen.contains spec.fieldId) "duplicate adapter field id"
    requireId spec.fieldId "field_id"
    requireAdapter (fieldKinds.contains spec.kind) ("unknown field kind '" ++ spec.kind ++ "'")
    requireAdapter (host.isFieldLocator spec.locator) "a field locator must be a ctl:<index> reference"
    requireAdapter (0 ≤ spec.maxLength && spec.maxLength ≤ 10000) "field length limit is out of range"
    host.validatePattern spec.pattern 512 "field"
    validateFields (spec.fieldId :: seen) rest

/-- What a `navigate` action must and must not declare. -/
def validateNavigationAction (transactionIds : List String) (action : AdapterActionSpec) : Except Exn Unit := do
  requireAdapter (!action.final) "a navigation action can never be final"
  requireAdapter (action.method = "" && action.targetOrigin = "" && action.targetPath = "")
    "a navigation action must not declare a submit target"
  requireAdapter (action.transactionId ≠ "" && transactionIds.contains action.transactionId)
    "a navigation action must open a declared transaction"
  validateNavigationPath action.navigatesToPath

/-- The network target of a final action. -/
def validateFinalAction (action : AdapterActionSpec) : Except Exn Unit := do
  requireAdapter (["POST", "PUT", "PATCH", "DELETE"].contains (host.upper action.method))
    "a final action must declare a non-GET submit method"
  let canonical ← host.normalizeOrigin action.targetOrigin
  requireAdapter (canonical = action.targetOrigin) "a final action origin must be normalized"
  if mode = .allowlist ∧ canonical ∉ allowedOrigins then
    .error (browserPolicyError "ORIGIN_NOT_ALLOWED" "a final action target origin is not in the user allowlist")
  else validatePath action.targetPath

/-- The actions of an adapter, after those seen. -/
def validateActions (transactionIds : List String) : List String → List AdapterActionSpec → Except Exn Unit
  | _, [] => .ok ()
  | seen, action :: rest => do
    requireAdapter (!seen.contains action.actionId) "duplicate adapter action id"
    requireId action.actionId "action_id"
    requireAdapter (["submit", "next", "save", "other", "navigate"].contains action.kind)
      ("unknown action kind '" ++ action.kind ++ "'")
    if action.risk = .prohibited then
      .error (browserPolicyError "ADAPTER_RISK_PROHIBITED" "a prohibited action can never be declared")
    requireAdapter (host.isActionLocator action.locator) "an action locator must be an act:<index> reference"
    if action.kind = "navigate" then validateNavigationAction transactionIds action
    else
      requireAdapter (action.transactionId = "" && action.navigatesToPath = "")
        "only a navigation action may declare an entry target"
    if action.final then host.validateFinalAction allowedOrigins mode action
    validateActions transactionIds (action.actionId :: seen) rest

/-- `validate_adapter_descriptor`. -/
def validateAdapterDescriptor (descriptor : TransactionAdapterDescriptor) : Except Exn Unit := do
  requireId descriptor.extensionId "extension_id"
  requireId descriptor.adapterId "adapter_id"
  requireAdapter (descriptor.extensionVersion ≠ "" && descriptor.extensionVersion.length ≤ 64)
    "extension_version is required"
  requireAdapter (descriptor.adapterVersion ≠ "" && descriptor.adapterVersion.length ≤ 64) "adapter_version is required"
  requireAdapter (descriptor.displayName ≠ "" && descriptor.displayName.length ≤ 200) "display_name is required"
  requireAdapter (descriptor.allowedOrigins ≠ [] && descriptor.allowedOrigins.length ≤ 8)
    "one to eight adapter origins are required"
  requireAdapter (descriptor.allowedPaths.length ≤ 64) "too many allowed paths"
  requireAdapter (descriptor.transactionIds ≠ [] && descriptor.transactionIds.length ≤ 64)
    "transaction ids are required"
  if descriptor.declaredRisk = .prohibited then
    .error (browserPolicyError "ADAPTER_RISK_PROHIBITED" "a prohibited transaction can never be declared")
  descriptor.allowedOrigins.forM (host.validateAdapterOrigin allowedOrigins mode)
  (descriptor.allowedPaths ++ descriptor.loginPaths).forM validatePath
  if descriptor.discoveryPath ≠ "" then validatePath descriptor.discoveryPath
  if descriptor.trackingPath ≠ "" then validatePath descriptor.trackingPath
  requireAdapter (descriptor.receiptLocator = "" || host.isReceiptLocator descriptor.receiptLocator)
    "receipt locator must be a bounded text/ctl/act reference"
  host.validatePattern descriptor.receiptPattern 256 "receipt"
  requireAdapter (descriptor.allowedPageFingerprints ≠ [])
    "an adapter must carry at least one human-verified page fingerprint"
  requireAdapter (descriptor.allowedPageFingerprints.length ≤ 8) "too many allowed page fingerprints"
  descriptor.allowedPageFingerprints.forM fun fingerprint =>
    requireAdapter (matchesSha256 fingerprint) "allowed page fingerprints must be 64 lowercase hex"
  requireAdapter (descriptor.consequences.length ≤ 2000) "consequences text is too long"
  requireAdapter (descriptor.fields.length ≤ 128) "too many adapter fields"
  host.validateFields [] descriptor.fields
  requireAdapter (descriptor.actions.length ≤ 32) "too many adapter actions"
  host.validateActions allowedOrigins mode descriptor.transactionIds [] descriptor.actions
  requireAdapter ((descriptor.actions.filter (·.final)).length ≤ 1) "only one final action may be declared"

end BrowserHost

end PersonalAssistant
