import PersonalAssistant.Browser.Submit

/-!
# The headed driver

`PlaywrightHeadedDriver` of `infrastructure/browser/driver.py`, which runs in the companion
process: `_route`, which decides every request of the browser, and the calls `fill`, `click`
and `snapshot` whose blocks between two awaits change what `_route` reads. Everything the
page answers is a request to the environment, so a run of the driver is any interleaving of
its calls with the requests of the page.

Left out is what only the document returned by `snapshot` shows: links, forms, headings,
signals and the attributes of a control that no decision reads.
-/

namespace PersonalAssistant

open Coro Coro.Prog

/-- `raise BrowserDriverError(code, message)`. -/
abbrev driverError (code message : String) : Exn := .runtime (.browserDriver code) message

/-- `ACTION_SELECTOR`. -/
def actionSelector : String := "button, input[type=submit], input[type=button]"

/-- `MAX_FIELD_VALUE_CHARS`. -/
def maxFieldValueChars : Nat := 10000

/-- `GET_METHODS`. -/
def getMethods : List String := ["GET", "HEAD", "OPTIONS"]

/-- A request of the browser as `_route` reads it. `mainFrame` says whether its frame is the
main frame of the page of the driver. -/
structure Request where
  url : String
  method : String
  isNavigationRequest : Bool
  resourceType : String
  mainFrame : Bool
  contentType : String
  postData : String
  deriving DecidableEq, Repr

/-- `_is_main_frame_document`. -/
def Request.isMainFrameDocument (request : Request) : Bool :=
  request.isNavigationRequest && request.resourceType = "document" && request.mainFrame

/-- A one-shot allowance: the target of a write and how many are left. -/
structure Allowance where
  method : String
  origin : String
  path : String
  remaining : Nat := 1
  deriving DecidableEq, Repr

/-- The allowance after one write. -/
def Allowance.spend (allowance : Allowance) : Option Allowance :=
  if allowance.remaining - 1 > 0 then some { allowance with remaining := allowance.remaining - 1 } else none

/-- What `_route` does with a request. -/
inductive Verdict where
  | abort
  | continue_
  deriving DecidableEq, Repr

/-- `ControlMeta`: the fields that a decision reads. -/
structure ControlMeta where
  locator : String
  index : Nat
  tag : String
  type : String
  disabled : Bool
  deriving DecidableEq, Repr

/-- The attributes of the driver. A mapping is the list of its entries in order, and a set of
locators the sorted list of its members. -/
structure DriverState where
  mutationsBlocked : Bool := false
  loginWindow : Bool := false
  loginPaths : List String := []
  loginAllowance : Option Allowance := none
  loginArmedTarget : Option (String × String × String) := none
  submitAllowance : Option Allowance := none
  submitPayloadSha256 : String := ""
  submitBodySha256 : String := ""
  submitPayloadLocators : List String := []
  allowedWriteRequests : Nat := 0
  navigationWriteRequests : Nat := 0
  lastFillLocator : String := ""
  userAuthRequests : Nat := 0
  payloadMismatches : Nat := 0
  controlMeta : List ControlMeta := []
  controlValues : List (String × String) := []
  controlSubmissionPairs : List (String × List (String × String)) := []
  hiddenSubmissionPairs : List (String × String) := []
  actionLocators : List (String × Nat) := []
  actionSubmissionPairs : List (String × List (String × String)) := []
  blockedOriginRequests : Nat := 0
  blockedMutatingRequests : Nat := 0
  autosaveAttempts : Nat := 0
  fillOperations : Nat := 0
  clickOperations : Nat := 0
  deriving DecidableEq, Repr

/-- `entries[key] = value` on a mapping. -/
def assign {α : Type} (key : String) (value : α) : List (String × α) → List (String × α)
  | [] => [(key, value)]
  | entry :: entries => if entry.1 = key then (key, value) :: entries else entry :: assign key value entries

/-- What a page read stores, one assignment each. -/
inductive Recording where
  | clearControls
  | hiddenPair (pair : String × String)
  | controlValue (locator value : String)
  | controlPairs (locator : String) (pairs : List (String × String))
  | controlMeta (controls : List ControlMeta)
  | clearActions
  | actionLocator (locator : String) (index : Nat)
  | actionPairs (locator : String) (pairs : List (String × String))
  deriving DecidableEq, Repr

namespace DriverState

/-- One assignment of `_read_controls` or `_read_actions`. -/
def record (s : DriverState) : Recording → DriverState
  | .clearControls => { s with hiddenSubmissionPairs := [], controlValues := [], controlSubmissionPairs := [] }
  | .hiddenPair pair => { s with hiddenSubmissionPairs := s.hiddenSubmissionPairs ++ [pair] }
  | .controlValue locator value => { s with controlValues := assign locator value s.controlValues }
  | .controlPairs locator pairs => { s with controlSubmissionPairs := assign locator pairs s.controlSubmissionPairs }
  | .controlMeta controls => { s with controlMeta := controls }
  | .clearActions => { s with actionLocators := [], actionSubmissionPairs := [] }
  | .actionLocator locator index => { s with actionLocators := assign locator index s.actionLocators }
  | .actionPairs locator pairs => { s with actionSubmissionPairs := assign locator pairs s.actionSubmissionPairs }

/-- The recorded values of the locators. -/
def declared (s : DriverState) (locators : List String) : List (String × String) :=
  locators.map fun locator => (locator, (s.controlValues.lookup locator).getD "")

/-- The pairs that the successful controls, the hidden inputs and the clicked button were
recorded with. -/
def recordedPairs (s : DriverState) (locator : String) : List (String × String) :=
  s.controlSubmissionPairs.flatMap (·.2) ++ s.hiddenSubmissionPairs ++ (s.actionSubmissionPairs.lookup locator).getD []

/-- The counters of a write that is aborted. -/
def blockWrite (s : DriverState) : DriverState :=
  { s with blockedMutatingRequests := s.blockedMutatingRequests + 1, autosaveAttempts := s.autosaveAttempts + 1 }

/-- No login window. -/
def closeLogin (s : DriverState) : DriverState :=
  { s with loginAllowance := none, loginArmedTarget := none, loginWindow := false }

/-- The first block of `fill`. -/
def lock (s : DriverState) : DriverState := { s.closeLogin with mutationsBlocked := true }

/-- `_observe_login` up to its await: whether the target of the login form is to be read.
`elsewhere` says that login paths are declared and the page is on none of them. -/
def observeLogin (s : DriverState) (detected elsewhere : Bool) : Bool × DriverState :=
  if detected && elsewhere then (false, s.closeLogin)
  else if detected && !s.mutationsBlocked then (true, s)
  else (false, s.closeLogin)

/-- `_observe_login` after its await. -/
def armLogin (s : DriverState) (target : Option (String × String × String)) : DriverState :=
  match target with
  | some (method, origin, path) =>
    if target ≠ s.loginArmedTarget then
      { s with loginAllowance := some { method, origin, path }, loginArmedTarget := target, loginWindow := true }
    else { s with loginWindow := true }
  | none => { s with loginWindow := true }

/-- The `finally` of `click`. -/
def disarm (s : DriverState) : DriverState :=
  { s with submitAllowance := none, submitPayloadSha256 := "", submitBodySha256 := "", submitPayloadLocators := [] }

end DriverState

/-- What the driver is constructed with, and `urljoin` of the Python library. -/
structure PlaywrightHeadedDriver where
  host : BrowserHost
  urljoin : String → String → Except Exn String
  allowedOrigins : List String
  originMode : OriginMode := .allowlist
  allowNavigationPosts : Bool := false

/-- Sixty-four lower-case hexadecimal digits and nothing else. -/
def isPayloadSha256 (s : String) : Bool :=
  s.toList.length = 64 && s.toList.all fun c => "0123456789abcdef".toList.contains c

/-- `re.fullmatch(r"ctl:\d+:\d+", s)`. -/
def BrowserHost.isControlLocator (host : BrowserHost) (s : String) : Bool :=
  match s.toList with
  | 'c' :: 't' :: 'l' :: ':' :: rest =>
    match rest.span host.isDigit with
    | (_ :: _, ':' :: index) => index ≠ [] && index.all host.isDigit
    | _ => false
  | _ => false

/-- The members of `expected_payload_locators`, sorted. -/
def payloadLocators (text : String) : List String :=
  ((((text.toList.splitOn ',').map fun item => strip (String.ofList item)).filter (· ≠ "")).dedup).insertionSort (· ≤ ·)

namespace PlaywrightHeadedDriver

variable (driver : PlaywrightHeadedDriver)

/-! ## `_route` -/

/-- `_origin_of`. -/
def originOf (url : String) : Except Exn String :=
  match driver.host.urlsplit url with
  | none => .ok ""
  | some parts =>
    let name := driver.host.lower (parts.hostname.getD "")
    if name = "" then .ok ""
    else match parts.port with
    | none => .error (.other "ValueError")
    | some none | some (some 443) => .ok ("https://" ++ name)
    | some (some port) => .ok ("https://" ++ name ++ ":" ++ toString port)

/-- What `_allowance_matches` and `_navigation_target_matches` compare; only the first refuses
a query. -/
def targetMatches (anyQuery : Bool) (allowance : Allowance) (method url : String) : Except Exn Bool :=
  if allowance.remaining = 0 ∨ method ≠ allowance.method then .ok false
  else do
    if (← driver.originOf url) ≠ allowance.origin then return false
    match driver.host.urlsplit url with
    | none => return false
    | some parts =>
      if !anyQuery && parts.query ≠ "" then return false
      return (if parts.path = "" then "/" else parts.path) = allowance.path

/-- `_allowance_matches`. -/
def allowanceMatches : Allowance → String → String → Except Exn Bool := driver.targetMatches false

/-- `_navigation_target_matches`. -/
def navigationTargetMatches : Allowance → String → String → Except Exn Bool := driver.targetMatches true

/-- The allowance, if it is there and the request is a main-frame document that matches it. -/
def usable (accepts : Allowance → String → String → Except Exn Bool) (allowance? : Option Allowance) (method : String)
    (request : Request) : Except Exn (Option Allowance) :=
  match allowance? with
  | none => .ok none
  | some allowance => do
    let matched ← accepts allowance method request.url
    return if matched && request.isMainFrameDocument then some allowance else none

/-- `_verify_bound_payload`. -/
def verifyBoundPayload (s : DriverState) (request : Request) : Bool :=
  if s.submitPayloadSha256 = "" || s.submitBodySha256 = "" then false
  else if ¬ "application/x-www-form-urlencoded".toList <:+: (driver.host.lower request.contentType).toList then false
  else match driver.host.parseQsl request.postData with
  | none => false
  | some bodyPairs =>
    formPayloadSha256 driver.host.toHost (s.declared s.submitPayloadLocators) = s.submitPayloadSha256 &&
      formPayloadSha256 driver.host.toHost bodyPairs = s.submitBodySha256

/-- The method of a request as `_route` compares it. -/
def methodOf (request : Request) : String := driver.host.upper request.method

/-- `_route` of a request that is not a GET, after its origin was allowed. -/
def routeWrite (s : DriverState) (request : Request) : Except Exn Verdict × DriverState :=
  if driver.allowNavigationPosts && !s.mutationsBlocked then
    (.ok .continue_, { s with navigationWriteRequests := s.navigationWriteRequests + 1 })
  else match usable driver.allowanceMatches s.submitAllowance (driver.methodOf request) request with
  | .error e => (.error e, s)
  | .ok (some allowance) =>
    if driver.verifyBoundPayload s request then
      (.ok .continue_,
        { s with submitAllowance := allowance.spend, allowedWriteRequests := s.allowedWriteRequests + 1 })
    else (.ok .abort, { s.blockWrite with payloadMismatches := s.payloadMismatches + 1 })
  | .ok none =>
    match usable driver.navigationTargetMatches s.loginAllowance (driver.methodOf request) request with
    | .error e => (.error e, s)
    | .ok (some allowance) =>
      (.ok .continue_, { s with
        loginAllowance := allowance.spend
        loginArmedTarget := none
        userAuthRequests := s.userAuthRequests + 1 })
    | .ok none => (.ok .abort, s.blockWrite)

/-- `_route` up to the await of `abort` or `continue_`. -/
def route (s : DriverState) (request : Request) : Except Exn Verdict × DriverState :=
  match driver.host.evaluateNavigation driver.allowedOrigins driver.originMode [] request.url with
  | .error e => (.error e, s)
  | .ok decision =>
    if !decision.allowed then (.ok .abort, { s with blockedOriginRequests := s.blockedOriginRequests + 1 })
    else if getMethods.contains (driver.methodOf request) then (.ok .continue_, s)
    else driver.routeWrite s request

/-! ## The first block of `click` -/

/-- An approved field cannot be submitted. -/
def notSubmittable (s : DriverState) (locator : String) : Bool :=
  match s.controlMeta.find? (·.locator = locator) with
  | none => true
  | some control => control.disabled || ["password", "file", "submit", "button", "reset"].contains control.type

/-- The checks of `click`: the index of the button. -/
def checkClick (s : DriverState) (target : ClickTarget) : Except Exn Nat :=
  let method := driver.host.upper (strip target.expectedMethod)
  let locators := payloadLocators target.expectedPayloadLocators
  match s.actionLocators.lookup target.locator with
  | none => .error (driverError "BROWSER_UNKNOWN_ACTION" "unknown action locator")
  | some index =>
    if getMethods.contains method || target.expectedPath.toList.head? ≠ some '/' then
      .error (driverError "BROWSER_SUBMIT_TARGET_INVALID" "the submit target is not bound")
    else if !isPayloadSha256 target.expectedPayloadSha256 then
      .error (driverError "BROWSER_SUBMIT_TARGET_INVALID" "the approved payload is not bound")
    else if locators = [] || locators.any fun item => !driver.host.isControlLocator item then
      .error (driverError "BROWSER_SUBMIT_TARGET_INVALID" "the approved fields are not bound")
    else if locators.any (notSubmittable s) then
      .error (driverError "BROWSER_SUBMIT_PAYLOAD_MISMATCH" "an approved field is not a submit-capable form control")
    else if formPayloadSha256 driver.host.toHost (s.declared locators) ≠ target.expectedPayloadSha256 then
      .error (driverError "BROWSER_SUBMIT_PAYLOAD_MISMATCH" "the live field values differ from the approved payload")
    else .ok index

/-- `click` up to its first await: the index of the button and the writes allowed so far, with
the allowance armed. -/
def arm (s : DriverState) (target : ClickTarget) : Except Exn (Nat × Nat) × DriverState :=
  match driver.checkClick s target with
  | .error e => (.error e, s)
  | .ok index =>
    (.ok (index, s.allowedWriteRequests), { s with
      submitPayloadLocators := payloadLocators target.expectedPayloadLocators
      submitPayloadSha256 := target.expectedPayloadSha256
      submitBodySha256 := formPayloadSha256 driver.host.toHost (s.recordedPairs target.locator)
      submitAllowance := some {
        method := driver.host.upper (strip target.expectedMethod)
        origin := target.expectedOrigin, path := target.expectedPath }
      clickOperations := s.clickOperations + 1 })

end PlaywrightHeadedDriver

/-! ## The port -/

/-- An element of the page: the selectors that lead to it, each with its position. -/
abbrev Handle : Type := List (String × Int)

/-- What the driver awaits of the page. `describe` stands for the attributes that only the
returned document shows, `apply` for `_apply_value`, and `expired` asks whether a cancellation
is that of the deadline. -/
inductive PageQuery where
  | requirePage
  | url
  | title
  | bodyText
  | expired
  | sleep
  | loaded
  | count (within : Handle) (selector : String)
  | getAttribute (handle : Handle) (name : String)
  | isDisabled (handle : Handle)
  | isChecked (handle : Handle)
  | inputValue (handle : Handle)
  | innerText (handle : Handle)
  | describe (handle : Handle)
  | apply (control : ControlMeta) (value : String)
  | press (handle : Handle)
  deriving DecidableEq, Repr

@[reducible] def PageQuery.Ans : PageQuery → Type
  | url | title | bodyText | inputValue _ | innerText _ => String
  | expired | isDisabled _ | isChecked _ => Bool
  | count _ _ => Nat
  | getAttribute _ _ => Option String
  | requirePage | sleep | loaded | describe _ | apply _ _ | press _ => Unit

/-- The requests of the driver: to the page, and its own blocks between two awaits. -/
inductive DriverOp where
  | ask (query : PageQuery)
  | record (entry : Recording)
  | loginPaths (declared : List String)
  | observeLogin (detected elsewhere : Bool)
  | armLogin (target : Option (String × String × String))
  | lock
  | control (locator : String)
  | filled
  | arm (target : ClickTarget)
  | disarm
  | counters
  | route (request : Request)
  deriving DecidableEq, Repr

@[reducible] def DriverOp.Ans : DriverOp → Type
  | ask query => query.Ans
  | loginPaths _ => List String
  | observeLogin _ _ => Bool
  | control _ => Option ControlMeta
  | arm _ => Nat × Nat
  | counters => Nat × Nat
  | route _ => Verdict
  | record _ | armLogin _ | lock | filled | disarm => Unit

abbrev DriverPort : Port := ⟨DriverOp, DriverOp.Ans⟩

abbrev DriverM (α : Type) : Type := Prog DriverPort Exn α

abbrev DriverEvent : Type := Event DriverPort Exn

/-- Await the page. -/
abbrev ask (query : PageQuery) : DriverM query.Ans := Prog.perform (P := DriverPort) (.ask query)

/-- Run one block of the driver. -/
abbrev block (op : DriverOp) : DriverM op.Ans := Prog.perform (P := DriverPort) op

/-- The attributes of the driver as the world of its coroutines. -/
def PlaywrightHeadedDriver.world (driver : PlaywrightHeadedDriver) : World DriverPort Exn DriverState Unit where
  effect _ s
    | .ask _ => none
    | .record entry => some (.ok (), s.record entry)
    | .loginPaths declared =>
      let paths := if declared = [] then s.loginPaths else declared
      some (.ok paths, { s with loginPaths := paths })
    | .observeLogin detected elsewhere =>
      let result := s.observeLogin detected elsewhere
      some (.ok result.1, result.2)
    | .armLogin target => some (.ok (), s.armLogin target)
    | .lock => some (.ok (), s.lock)
    | .control locator =>
      some (.ok (s.controlMeta.find? (·.locator = locator)), { s with lastFillLocator := locator })
    | .filled => some (.ok (), { s with fillOperations := s.fillOperations + 1 })
    | .arm target => some (driver.arm s target)
    | .disarm => some (.ok (), s.disarm)
    | .counters => some (.ok (s.allowedWriteRequests, s.blockedMutatingRequests), s)
    | .route request => some (driver.route s request)
  drift _ s _ := s
  total _ := false

/-! ## The calls -/

/-- `with contextlib.suppress(Exception)`. -/
def suppress {α : Type} (body : DriverM α) : DriverM (Option α) := do
  match ← attempt body with
  | .ok a => return some a
  | .error .cancelled => raise .cancelled
  | .error _ => return none

/-- `async with asyncio.timeout(self._deadline)`. -/
def withinDeadline {α : Type} (body : DriverM α) : DriverM α := do
  match ← attempt body with
  | .error .cancelled => do
    let expired : Bool ← ask .expired
    raise (if expired then .timeout "TimeoutError" else .cancelled)
  | outcome => ofExcept outcome

/-- `str(await handle.get_attribute(name) or "")`. -/
def attributeText (handle : Handle) (name : String) : DriverM String := do
  let value : Option String ← ask (.getAttribute handle name)
  return value.getD ""

namespace PlaywrightHeadedDriver

variable (driver : PlaywrightHeadedDriver)

/-! ### `fill` -/

/-- The loop of `fill`. -/
def fillFields : List (String × String) → DriverM Unit
  | [] => return ()
  | (locator, value) :: fields => do
    let found : Option ControlMeta ← block (.control locator)
    match found with
    | none => raise (driverError "BROWSER_UNKNOWN_FIELD" "unknown field locator")
    | some control =>
      if control.type = "password" then
        raise (driverError "BROWSER_PASSWORD_FIELD" "password fields are never filled")
      else if control.disabled then raise (driverError "BROWSER_FIELD_DISABLED" "the field is disabled")
      else if control.type = "file" then raise (driverError "BROWSER_UPLOAD_FORBIDDEN" "file upload is not allowed")
      else do
        let _ ← ask (.apply control value)
        fillFields fields

/-- `fill`: how many fields were applied. -/
def fill (fields : List (String × String)) : DriverM Nat := do
  let _ ← ask .requirePage
  let _ ← block .lock
  let outcome ← attempt (withinDeadline do
    fillFields fields
    ask .sleep)
  match outcome with
  | .error (.timeout _ _) => raise (driverError "BROWSER_TIMEOUT" "field fill timed out")
  | .error e => raise e
  | .ok _ => do
    let _ ← block .filled
    return fields.length

/-! ### `click` -/

/-- The element that a receipt locator names; `none` for a locator of another kind. -/
def receiptHandle (receiptLocator : String) : Except Exn (Option Handle) :=
  match (receiptLocator.toList.splitOn ':').map String.ofList with
  | "text" :: _ => .ok (some [(receiptLocator, 0)])
  | ["ctl", group, index] => do
    let group ← driver.host.pyInt (.str group)
    let selector ← if group = 0 ∨ group = -3 then .ok "input:not([type='hidden'])"
      else if group = 1 ∨ group = -2 then .ok "select"
      else if group = 2 ∨ group = -1 then .ok "textarea"
      else .error (.other "IndexError")
    return some [(selector, ← driver.host.pyInt (.str index))]
  | "ctl" :: _ => .error (.other "ValueError")
  | "act" :: reference => do
    return some [(actionSelector, ← driver.host.pyInt (.str (":".intercalate reference)))]
  | _ => .ok none

/-- `_bounded`: runs of white space as one blank, cut to a limit. -/
def bounded (text : String) (limit : Nat) : String :=
  let words := (text.toList.splitOnP isPySpace).filter (· ≠ [])
  takeChars limit (" ".intercalate (words.map String.ofList))

/-- `_receipt`. -/
def receipt (receiptLocator : String) : DriverM (Option String) :=
  if receiptLocator = "" then return none
  else do
    let found ← suppress do
      match ← ofExcept (driver.receiptHandle receiptLocator) with
      | none => return none
      | some handle => withinDeadline do
        let count : Nat ← ask (.count handle "")
        if count = 0 then return none
        else do
          let text : String ← ask (.innerText handle)
          return some (bounded text 500)
    return found.join

/-- The document that `click` returns. -/
structure ClickResult where
  outcome : String
  url : String
  receiptFound : Bool
  receiptText : String
  actionId : String
  writeRequestsAllowed : Int
  allowedWriteRequests : Nat
  blockedDuringSubmit : Nat

/-- The click itself: the button is pressed and the page loads. -/
def press (index : Nat) : DriverM Unit := do
  let outcome ← attempt (withinDeadline do
    let _ ← ask (.press [(actionSelector, index)])
    let _ ← suppress (ask .loaded)
    return ())
  match outcome with
  | .ok _ => return ()
  | .error (.timeout _ _) => raise (driverError "BROWSER_TIMEOUT" "click timed out")
  | .error (.runtime (.browserDriver code) message) => raise (driverError code message)
  | .error .cancelled => raise .cancelled
  | .error _ => raise (driverError "BROWSER_CLICK_FAILED" "the click failed")

/-- The `try` of `click`. -/
def clickArmed (target : ClickTarget) (index writesBefore : Nat) : DriverM ClickResult := do
  let preReceipt ← driver.receipt target.receiptLocator
  press index
  let url : String ← ask .url
  let postReceipt ← driver.receipt target.receiptLocator
  let (allowed, blocked) ← block .counters
  let fresh : Bool := postReceipt ≠ none ∧ postReceipt ≠ preReceipt
  let writesAllowed : Int := allowed - writesBefore
  let confirmed : Bool := fresh && writesAllowed = 1
  return {
    outcome := if confirmed then "RECEIPT" else "UNKNOWN"
    url
    receiptFound := confirmed
    receiptText := postReceipt.getD ""
    actionId := target.actionId
    writeRequestsAllowed := writesAllowed
    allowedWriteRequests := allowed
    blockedDuringSubmit := blocked }

/-- `click`. -/
def click (target : ClickTarget) : DriverM ClickResult := do
  let _ ← ask .requirePage
  let (index, writesBefore) ← block (.arm target)
  let outcome ← attempt (driver.clickArmed target index writesBefore)
  let _ ← block .disarm
  ofExcept outcome

/-! ### `snapshot` -/

/-- The hidden inputs of `_read_controls`. -/
def readHidden : List Nat → DriverM Unit
  | [] => return ()
  | index :: rest => do
    let handle : Handle := [("input[type=hidden]", index)]
    let name := strip (← attributeText handle "name")
    if name = "" then readHidden rest
    else do
      let disabled : Bool ← ask (.isDisabled handle)
      let _ ← ask (.describe handle)
      let value := takeChars maxFieldValueChars (← attributeText handle "value")
      if disabled then readHidden rest
      else do
        let _ ← block (.record (.hiddenPair (name, value)))
        readHidden rest

/-- `_read_value`. -/
def readValue (handle : Handle) (tag type : String) : DriverM String :=
  if type = "password" then return ""
  else do
    let found ← suppress do
      if tag ≠ "select" ∧ (type = "checkbox" ∨ type = "radio") then do
        let checked : Bool ← ask (.isChecked handle)
        return if checked then "true" else "false"
      else if tag ≠ "select" ∧ type = "file" then return ""
      else do
        let value : String ← ask (.inputValue handle)
        return takeChars maxFieldValueChars value
    return found.getD ""

/-- `_successful_control_pairs`. -/
def successfulControlPairs (name type value : String) (valueAttribute : Option String) (disabled : Bool) :
    List (String × String) :=
  if name = "" || disabled ||
      ["button", "reset", "submit", "image", "file", "password"].contains (driver.host.lower type) then []
  else if ["checkbox", "radio"].contains (driver.host.lower type) then
    if value ≠ "true" then [] else [(name, valueAttribute.getD "on")]
  else [(name, value)]

/-- The controls of one group of `_read_controls`. -/
def readGroup (group : Nat) (tag selector : String) : List Nat → List ControlMeta → DriverM (List ControlMeta)
  | [], controls => return controls
  | index :: rest, controls => do
    let handle : Handle := [(selector, index)]
    let type := driver.host.lower (← attributeText handle "type")
    let name ← attributeText handle "name"
    let disabled : Bool ← ask (.isDisabled handle)
    let _ ← ask (.describe handle)
    let current ← readValue handle tag type
    let locator := "ctl:" ++ toString group ++ ":" ++ toString index
    let _ ← block (.record (.controlValue locator current))
    let valueAttribute : Option String ← ask (.getAttribute handle "value")
    let _ ← block (.record (.controlPairs locator
      (driver.successfulControlPairs name type current valueAttribute disabled)))
    readGroup group tag selector rest
      (controls ++ [{ locator, index, tag, type := if type = "" then tag else type, disabled }])

/-- The groups of `_read_controls`, each with its position. -/
def readGroups : List (Nat × String × String) → List ControlMeta → DriverM (List ControlMeta)
  | [], controls => return controls
  | (group, tag, selector) :: rest, controls => do
    let count : Nat ← ask (.count [] selector)
    if controls.length + count > 512 then raise (driverError "BROWSER_LIMIT_EXCEEDED" "too many page controls")
    else do
      let controls ← driver.readGroup group tag selector (List.range count) controls
      readGroups rest controls

/-- `_read_controls`. -/
def readControls : DriverM (List ControlMeta) := do
  let _ ← block (.record .clearControls)
  let hiddenCount : Nat ← ask (.count [] "input[type=hidden]")
  readHidden (List.range (min hiddenCount 512))
  let controls ← driver.readGroups
    [(0, "input", "input:not([type='hidden'])"), (1, "select", "select"), (2, "textarea", "textarea")] []
  let _ ← block (.record (.controlMeta controls))
  return controls

/-- The buttons of `_read_actions`. -/
def readButtons : List Nat → DriverM Unit
  | [] => return ()
  | index :: rest => do
    let handle : Handle := [(actionSelector, index)]
    let _ ← ask (.describe handle)
    let itemType := driver.host.lower (← attributeText handle "type")
    let locator := "act:" ++ toString index
    let _ ← block (.record (.actionLocator locator index))
    let name ← attributeText handle "name"
    let disabled : Bool ← ask (.isDisabled handle)
    if (itemType = "" ∨ itemType = "submit") ∧ name ≠ "" ∧ ¬ disabled then do
      let value ← attributeText handle "value"
      let _ ← block (.record (.actionPairs locator [(name, value)]))
      readButtons rest
    else do
      let _ ← block (.record (.actionPairs locator []))
      readButtons rest

/-- `_read_actions`. -/
def readActions : DriverM Unit := do
  let count : Nat ← ask (.count [] actionSelector)
  if count > 32 then raise (driverError "BROWSER_LIMIT_EXCEEDED" "too many page actions")
  else do
    let _ ← block (.record .clearActions)
    driver.readButtons (List.range count)

/-- `_login_path_matches`. -/
def loginPathMatches (path pattern : String) : Bool :=
  if pattern = "" then false
  else if !hasChar pattern '*' then path = pattern
  else driver.host.fnmatchcase path pattern

/-- `_matches_login_path` of the URL of the page. -/
def matchesLoginPath (url : String) (loginPaths : List String) : Except Exn Bool := do
  let path ← driver.host.pathOnly url
  return loginPaths.any (driver.loginPathMatches path)

/-- `_detect_login`. -/
def detectLogin (loginPaths : List String) : DriverM Bool := do
  let url : String ← ask .url
  let declared ← ofExcept (driver.matchesLoginPath url loginPaths)
  if declared then return true
  else do
    let passwords : Option Nat ← suppress (ask (.count [] "input[type=password]"))
    return passwords.getD 0 > 0

/-- The forms of `_login_form_target`. -/
def loginTargetIn : List Nat → DriverM (Option (String × String × String))
  | [] => return none
  | index :: rest => do
    let handle : Handle := [("form", index)]
    let passwords : Nat ← ask (.count handle "input[type=password]")
    if passwords = 0 then loginTargetIn rest
    else do
      let declared ← attributeText handle "method"
      let method := driver.host.upper (if declared = "" then "get" else declared)
      if getMethods.contains method then return none
      else do
        let action ← attributeText handle "action"
        let base : String ← ask .url
        ofExcept do
          let target ← if action = "" then .ok base else driver.urljoin base action
          let path ← driver.host.pathOnly target
          let decision ← driver.host.evaluateNavigation driver.allowedOrigins driver.originMode [] target
          if !decision.allowed then return none
          return some (method, ← driver.originOf target, path)

/-- `_login_form_target`. -/
def loginFormTarget : DriverM (Option (String × String × String)) := do
  let found ← suppress do
    let count : Nat ← ask (.count [] "form")
    driver.loginTargetIn (List.range (min count 8))
  return found.join

/-- Whether `_observe_login` takes a detected login page for the challenge. -/
def isChallenge (url : String) (loginPaths : List String) (detected : Bool) : Except Exn Bool :=
  if detected ∧ loginPaths ≠ [] then driver.matchesLoginPath url loginPaths else .ok true

/-- `_observe_login` of a page already read. -/
def observeLogin (loginPaths : List String) (detected : Bool) : DriverM Bool := do
  let url : String ← ask .url
  let declared ← ofExcept (driver.isChallenge url loginPaths detected)
  let look : Bool ← block (.observeLogin detected !declared)
  if look then do
    let target ← driver.loginFormTarget
    let _ ← block (.armLogin target)
    return true
  else return detected && declared

/-- What `_read_page` returns, without the controls. -/
structure PageRead where
  url : String
  title : String
  loginPage : Bool

/-- `_read_page`. -/
def readPage (loginPaths : List String) : DriverM PageRead := do
  let _ ← driver.readControls
  driver.readActions
  let title : String ← ask .title
  let url : String ← ask .url
  let loginPage ← driver.detectLogin loginPaths
  return { url, title := bounded title 200, loginPage }

/-- `_page_text`, when the text is to be scanned. -/
def scannedText (scanText : Bool) : DriverM (Option String) :=
  if scanText then suppress (withinDeadline (ask .bodyText)) else return none

/-- `snapshot`, up to the read of links and forms. -/
def snapshot (scanText : Bool) (loginPaths : List String) : DriverM PageRead := do
  let _ ← ask .requirePage
  let _ ← scannedText scanText
  let paths : List String ← block (.loginPaths loginPaths)
  let read ← driver.readPage paths
  -- the paths are read again: another snapshot may have declared its own in between
  let paths : List String ← block (.loginPaths [])
  let _ ← driver.observeLogin paths read.loginPage
  return read

/-! ## Clients and requests -/

/-- A call of a client. -/
inductive Call where
  | fill (fields : List (String × String))
  | click (target : ClickTarget)
  | snapshot (scanText : Bool) (loginPaths : List String)

/-- The call, without what it returns. -/
def call : Call → DriverM Unit
  | .fill fields => do
    let _ ← fill fields
  | .click target => do
    let _ ← driver.click target
  | .snapshot scanText loginPaths => do
    let _ ← driver.snapshot scanText loginPaths

/-- A client that makes its calls one after the other, whether or not one raises. -/
def client : List Call → DriverM Unit
  | [] => return ()
  | first :: rest => do
    let _ ← attempt (driver.call first)
    client rest

/-- What runs beside the page: a client, or `_route` of one request. -/
inductive Role where
  | client (calls : List Call)
  | request (request : Request)

/-- The coroutine of a role. -/
def start : Role → DriverM Unit
  | .client calls => driver.client calls
  | .request request => do
    let _ ← block (.route request)

/-- The runs of the driver: every interleaving of the roles, with the state and the events so
far. -/
abbrev Run {ι : Type} [DecidableEq ι] (roles : ι → Role) :
    (ι → DriverM Unit) → DriverState → List (ι × DriverEvent) → Prop :=
  Pool (fun _ => driver.world.reliable) (fun _ _ => False) (fun i => driver.start (roles i)) {}

end PlaywrightHeadedDriver

end PersonalAssistant
