import PersonalAssistant.Extensions.Rpc

/-!
# From the router to the worker

The chain an extension tool is called through: `CapabilityRoutingExecutor.execute`,
`ExtensionSupervisorService.invoke_tool`, the process runtime, `ExtensionWorker.invoke_tool`
and the client. Each of them gives a failure another name.
-/

namespace PersonalAssistant

open Coro.Prog

variable (router : CapabilityRoutingExecutor) (worker : ExtensionWorker) (protocolVersion : Value)

namespace ExtensionWorker

/-- `_base_params`, as the first entries of the parameters. -/
def baseParams : List (String × Value) :=
  [("protocol_version", protocolVersion), ("extension_id", .str worker.extensionId),
   ("extension_version", .str worker.version)]

/-- `ExtensionWorker._call`. -/
def call_ (method : String) (params : List (String × Value))
    (timeoutSeconds : Rat) : RpcM Value :=
  if worker.handshaken = false then raise (rpcCallError (-32001) "extension worker has not completed handshake")
  else JsonRpcProcessClient.call method (.dict (worker.baseParams protocolVersion ++ params)) timeoutSeconds

/-- `ExtensionWorker.invoke_tool`. -/
def invokeTool (toolId : String)
    (arguments context : List (String × Value)) (timeoutSeconds : Rat) : RpcM Value := do
  if toolId ∉ worker.tools then raise (rpcCallError (-32601) ("tool not declared by manifest: " ++ toolId))
  else
    let result ← worker.call_ protocolVersion "tool.invoke"
      [("tool_id", .str toolId), ("arguments", .dict arguments), ("context", .dict context)] timeoutSeconds
    match result with
    | .dict _ => return result
    | _ => raise (rpcCallError (-32094) "tool result must be an object")

end ExtensionWorker

/-- What a call names besides the tool. -/
structure ToolRun where
  taskId : String
  runId : String
  idempotencyKey : String
  deadlineSeconds : Rat

/-- `invoke_tool` of the process runtime. -/
def runtimeInvokeTool (extensionId toolId : String) (arguments : List (String × Value))
    (run : ToolRun) : RpcM Value := do
  let found : Option ExtensionWorker ← rpc (.worker extensionId)
  match found with
  | some worker =>
    if worker.running = false then raise (rpcCallError (-32090) "extension worker is not running")
    else
      let deadline : String ← rpc (.deadlineText run.deadlineSeconds)
      worker.invokeTool protocolVersion toolId arguments
        [("task_id", .str run.taskId), ("run_id", .str run.runId), ("deadline", .str deadline),
         ("idempotency_key", .str run.idempotencyKey), ("context_handles", .list []),
         ("artifact_handles", .list []), ("capability_handles", .list [])] run.deadlineSeconds
  | none => raise (rpcCallError (-32090) "extension worker is not running")

/-- `_STREAM_ERROR_CODES`. -/
def streamErrorCodes : List Int := [-32090, -32091, -32092, -32093, -32700]

/-- The failures after which the supervisor quarantines the extension. -/
def breaksStream : Exn → Bool
  | .timeout "RpcTimeoutError" _ => true
  | .runtime (.rpcCall code) _ => code ∈ streamErrorCodes
  | _ => false

/-- `ExtensionSupervisorService.invoke_tool`. -/
def supervisorInvokeTool (extensionId toolId : String) (arguments : List (String × Value))
    (run : ToolRun) : RpcM Value := do
  let record : Option ExtensionRecord ← rpc (.getExtension extensionId)
  match record with
  | some record =>
    if record.state ≠ .enabled then
      raise (.runtime (.extensionOperation "EXTENSION_NOT_ENABLED") ("extension is not enabled: " ++ extensionId))
    else
      let owner : Option CapabilityOwner ← rpc (.ownerOf toolId)
      if owner ≠ some ⟨extensionId, record.version⟩ then
        raise (.runtime (.extensionOperation "CAPABILITY_NOT_PUBLISHED") ("capability is not published: " ++ toolId))
      else
        match ← attempt (runtimeInvokeTool protocolVersion extensionId toolId arguments run) with
        | .error exc =>
          (if breaksStream exc then rpc (.quarantine extensionId exc) else pure () : RpcM Unit)
          raise exc
        | .ok result => return result
  | none =>
    raise (.runtime (.extensionOperation "EXTENSION_NOT_ENABLED") ("extension is not enabled: " ++ extensionId))

/-- `CapabilityRoutingExecutor`: which executors of the host are configured. `pyStr` is Python's
`str` of a value that is not a string. -/
structure CapabilityRoutingExecutor where
  protocolVersion : Value
  pyStr : Value → String
  mailSend : Bool
  browserActions : Bool

namespace CapabilityRoutingExecutor

/-- `str(message or "the extension requires user action")`. -/
def messageOf (message : Option Value) : String :=
  match message with
  | some (.str text) => if text = "" then "the extension requires user action" else text
  | some value => if value.truthy then router.pyStr value else "the extension requires user action"
  | none => "the extension requires user action"

/-- `CapabilityRoutingExecutor._invoke_extension`. -/
def invokeExtension (descriptor : ToolDescriptor)
    (arguments : List (String × Value)) (context : ToolExecutionContext) : RpcM Value := do
  match ← attempt (supervisorInvokeTool router.protocolVersion descriptor.extensionId descriptor.id arguments
      ⟨context.taskId, context.attemptId, context.idempotencyKey, descriptor.timeoutSeconds⟩) with
  | .error .cancelled => raise .cancelled
  | .error _ =>
    raise (.definitiveToolFailure "the extension worker is unavailable or failed to execute" false)
  | .ok result =>
    match result.get? "outcome" with
    | some (.str "SUCCEEDED") =>
      match result.get? "output" with
      | some (.dict output) => return .dict output
      | _ => return .dict []
    | some (.str "NEEDS_USER_ACTION") =>
      raise (.userActionRequired (router.messageOf (result.get? "message")))
    | some (.str "UNKNOWN") =>
      raise (.outcomeUnknown context.attemptId "the extension reported an unknown outcome")
    | _ => raise (.definitiveToolFailure "the extension rejected the tool call" false)

/-- `BROWSER_ACTION_CAPABILITIES`. -/
def browserActionCapabilities : List String := ["browser.fill", "browser.submit", "browser.navigate"]

/-- `CapabilityRoutingExecutor.execute`. -/
def execute (descriptor : ToolDescriptor) (arguments : List (String × Value))
    (context : ToolExecutionContext) : RpcM Value :=
  if "mail.send" ∈ descriptor.requiredCapabilities then
    if router.mailSend then rpc (.delegate .mailSend descriptor arguments context)
    else raise (.definitiveToolFailure "the mail send capability is not configured on this host" false)
  else if descriptor.requiredCapabilities.any (· ∈ browserActionCapabilities) then
    if router.browserActions then rpc (.delegate .browserActions descriptor arguments context)
    else raise (.definitiveToolFailure "the supervised browser capability is not configured on this host" false)
  else router.invokeExtension descriptor arguments context

end CapabilityRoutingExecutor

end PersonalAssistant
