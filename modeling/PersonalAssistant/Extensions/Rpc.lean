import PersonalAssistant.Coro.World
import PersonalAssistant.Domain.Models

/-!
# `JsonRpcProcessClient`

The client of `core/extensions/rpc.py`, which sends one request at a time over the pipes of
an extension worker. A request of the port is a stretch of the source between two awaits, or
an await; what the worker, the reader task and the other callers do in between is up to the
environment. `post` is the first stretch of `_exchange`: the test that the stream is whole,
the new id, the frame and the write belong together, as nothing runs between them.
-/

namespace PersonalAssistant

open Coro Coro.Prog

/-- A response frame of the worker: a result, or an error with its code. -/
inductive RpcReply where
  | result (value : Value)
  | error (code : Int) (message : String)

/-- `RpcCallError(code, message)`. -/
abbrev rpcCallError (code : Int) (message : String) : Exn := .runtime (.rpcCall code) message

/-- `RpcTimeoutError(message)`. -/
abbrev rpcTimeoutError (message : String) : Exn := .timeout "RpcTimeoutError" message

/-- What the first stretch of `_exchange` ends with: the id of the request, and what the write
raised, if it did. -/
structure Posted where
  id : String
  write : Except Exn Unit

/-- `ExtensionState`. -/
inductive ExtensionState where
  | discovered
  | staged
  | rejected
  | installedDisabled
  | starting
  | enabled
  | quarantined
  | draining
  | disabled
  | uninstalling
  | uninstalled
  | upgrading
  | rolledBack
  deriving DecidableEq, Repr

/-- What `invoke_tool` reads of an `ExtensionRecord`: its state and the version of its
manifest. -/
structure ExtensionRecord where
  state : ExtensionState
  version : String
  deriving DecidableEq, Repr

/-- What `invoke_tool` reads of a `CapabilityOwner`. -/
structure CapabilityOwner where
  extensionId : String
  extensionVersion : String
  deriving DecidableEq, Repr

/-- What `invoke_tool` reads of an `ExtensionWorker`: its manifest, whether its client runs
and whether it has shaken hands. -/
structure ExtensionWorker where
  extensionId : String
  version : String
  tools : List String
  running : Bool
  handshaken : Bool
  deriving DecidableEq, Repr

/-- The executors of the host a tool may be routed to. -/
inductive HostExecutor where
  | mailSend
  | browserActions
  deriving DecidableEq, Repr

/-- The requests. The first group is that of the router, the supervisor and the runtime, the
second that of the client. -/
inductive RpcOp where
  | delegate (executor : HostExecutor) (descriptor : ToolDescriptor) (arguments : List (String × Value))
      (context : ToolExecutionContext)
  | getExtension (extensionId : String)
  | ownerOf (toolId : String)
  | quarantine (extensionId : String) (exc : Exn)
  | worker (extensionId : String)
  | deadlineText (deadlineSeconds : Rat)
  | loopTime
  | wallTime
  | acquire
  | release
  | expired
  | post (method : String) (params : Value)
  | flush (id : String)
  | response (id : String) (timeoutSeconds : Rat)
  | forget (id : String)
  | breakStream
  | terminate

/-- The type of each answer. -/
@[reducible] def RpcOp.Ans : RpcOp → Type
  | delegate _ _ _ _ => Value
  | getExtension _ => Option ExtensionRecord
  | ownerOf _ => Option CapabilityOwner
  | quarantine _ _ => Unit
  | worker _ => Option ExtensionWorker
  | deadlineText _ => String
  | loopTime => Rat
  | wallTime => Rat
  | acquire => Unit
  | release => Unit
  | expired => Bool
  | post _ _ => Posted
  | flush _ => Unit
  | response _ _ => RpcReply
  | forget _ => Unit
  | breakStream => Unit
  | terminate => Unit

/-- The requests that are no awaits and raise nothing. -/
def RpcOp.total : RpcOp → Bool
  | ownerOf _ | worker _ | deadlineText _ | loopTime | wallTime | release | expired | forget _ | breakStream => true
  | _ => false

/-- The port of the extension host. -/
abbrev RpcPort : Port := ⟨RpcOp, RpcOp.Ans⟩

/-- A coroutine of the extension host. -/
abbrev RpcM (α : Type) : Type := Prog RpcPort Exn α

/-- Await one request of the extension host. -/
abbrev rpc (op : RpcOp) : RpcM op.Ans := Prog.perform (P := RpcPort) op

/-- An answered request of the extension host. -/
abbrev RpcEvent : Type := Event RpcPort Exn

/-- `isinstance(exc, (OSError, ValueError))`, for the classes a stream raises; `TimeoutError`
is an `OSError`. -/
def Exn.isStreamError : Exn → Bool
  | .timeout _ _ => true
  | .other name => name ∈ ["OSError", "ConnectionError", "BrokenPipeError", "ConnectionAbortedError",
      "ConnectionResetError", "ProcessLookupError", "ValueError"]
  | _ => false

namespace JsonRpcProcessClient

/-- `JsonRpcProcessClient._break`: the stream is given up and its waiters fail; then the process
is waited for. -/
def break_ : RpcM Unit := do
  rpc .breakStream
  rpc .terminate

/-- `async with asyncio.timeout_at(deadline)`: the deadline cancels the body, and that
cancellation leaves as `TimeoutError`. -/
def timeoutAt {α : Type} (body : RpcM α) : RpcM α := do
  match ← attempt body with
  | .error .cancelled =>
    let expired : Bool ← rpc .expired
    if expired then raise (.timeout "TimeoutError") else raise .cancelled
  | outcome => ofExcept outcome

/-- The second `try` of `_exchange`, without its `finally`. -/
def awaitResponse (method id : String) (timeoutSeconds : Rat) : RpcM Value := do
  match ← attempt (rpc (.response id timeoutSeconds)) with
  | .ok (.result value) => return value
  | .ok (.error code message) => raise (rpcCallError code message)
  | .error (.timeout _ _) =>
    break_
    raise (rpcTimeoutError ("extension RPC timed out: " ++ method))
  | .error .cancelled =>
    -- the correlation with the request is lost
    shield break_
    raise .cancelled
  | .error exc => raise exc

/-- `JsonRpcProcessClient._exchange`. -/
def exchange (method : String) (params : Value) (timeoutSeconds : Rat) : RpcM Value := do
  let posted ← rpc (.post method params)
  match ← attempt (do ofExcept posted.write; rpc (.flush posted.id) : RpcM Unit) with
  | .error .cancelled =>
    rpc (.forget posted.id)
    shield break_
    raise .cancelled
  | .error exc =>
    if exc.isStreamError then
      rpc (.forget posted.id)
      break_
      raise (rpcCallError (-32091) "extension worker closed its input stream")
    else raise exc
  | .ok _ =>
    let outcome ← attempt (awaitResponse method posted.id timeoutSeconds)
    rpc (.forget posted.id)
    ofExcept outcome

/-- The body of the `timeout_at` of `call` and `drain`: the exchange under the lock. -/
def locked (deadline : Rat) (method : String) (params : Value) : RpcM Value := do
  rpc .acquire
  let outcome ← attempt (do
    let now : Rat ← rpc .loopTime
    if deadline - now ≤ 0 then raise (.timeout "TimeoutError") else exchange method params (deadline - now) :
      RpcM Value)
  rpc .release
  ofExcept outcome

/-- The handlers around it: a timeout and a cancellation both break the stream, wherever they
strike. -/
def guarded (deadline : Rat) (method : String) (params : Value) (message : String) : RpcM Value := do
  match ← attempt (timeoutAt (locked deadline method params)) with
  | .error (.timeout _ _) =>
    break_
    raise (rpcTimeoutError message)
  | .error .cancelled =>
    shield break_
    raise .cancelled
  | outcome => ofExcept outcome

/-- `JsonRpcProcessClient.call`. -/
def call (method : String) (params : Value) (timeoutSeconds : Rat) : RpcM Value := do
  if timeoutSeconds ≤ 0 then raise (.other "ValueError")
  else
    let now : Rat ← rpc .loopTime
    guarded (now + timeoutSeconds) method params ("extension RPC timed out: " ++ method)

/-- Whether a drain report is clean. `False` is an `int` that equals 0. -/
def cleanReport (result : Value) : Bool :=
  match result.get? "drained", result.get? "active_calls" with
  | some (.bool true), some (.int 0) | some (.bool true), some (.bool false) => true
  | _, _ => false

/-- `JsonRpcProcessClient.drain`; `deadlineText` is the deadline as it is sent. -/
def drain (deadlineEpoch timeoutSeconds : Rat) (deadlineText : Value) : RpcM Value := do
  let now : Rat ← rpc .wallTime
  let remaining := min timeoutSeconds (max 0 (deadlineEpoch - now))
  if remaining ≤ 0 then
    break_
    raise (rpcTimeoutError "extension drain deadline already expired")
  else
    let start : Rat ← rpc .loopTime
    let result ← guarded (start + remaining) "system.drain" (.dict [("deadline", deadlineText)])
      "extension drain deadline exceeded with a call in flight"
    match result with
    | .dict _ =>
      if cleanReport result then return result
      else raise (.runtime (.extensionOperation "DRAIN_TIMEOUT")
        "extension drain report is not clean (drained must be true and active_calls must be zero)")
    | _ => raise (rpcCallError (-32094) "drain result must be an object")

end JsonRpcProcessClient

end PersonalAssistant
