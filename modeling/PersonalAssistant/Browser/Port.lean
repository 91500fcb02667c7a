import PersonalAssistant.Browser.Page
import PersonalAssistant.Coro.World

/-!
# What the broker awaits

The stores of `infrastructure/memory/browser.py`, which keep the sessions under a version
check and at most one open session for a task, the requests of `BrowserSessionBroker`, and
the world that answers them. The companion answers anything.
-/

namespace PersonalAssistant

open Coro

/-- `InMemoryBrowserSessionStore` and `InMemoryBrowserAdapterStore`. -/
structure BrowserStore where
  sessions : List BrowserSessionRecord := []
  adapters : List BrowserAdapterRecord := []
  deriving DecidableEq, Repr

namespace BrowserStore

variable (store : BrowserStore)

/-- `get`. -/
def get (sessionId : String) : Option BrowserSessionRecord := store.sessions.find? (·.sessionId = sessionId)

/-- The open sessions of a task. -/
def openFor (taskId : String) : List BrowserSessionRecord :=
  store.sessions.filter fun item => item.taskId = taskId ∧ item.state.terminal = false

/-- `create`. -/
def create (record : BrowserSessionRecord) : Except Exn BrowserSessionRecord × BrowserStore :=
  if (store.get record.sessionId).isSome then
    (.error (.domain .alreadyExists ("browser session " ++ record.sessionId ++ " already exists")), store)
  else if record.state.terminal = false ∧ store.openFor record.taskId ≠ [] then
    (.error (.domain .alreadyExists ("an open browser session already exists for task " ++ record.taskId)), store)
  else
    let stored := { record with version := 0 }
    (.ok stored, { store with sessions := store.sessions ++ [stored] })

/-- The record of a session replaced. -/
def put (record : BrowserSessionRecord) : BrowserStore :=
  { store with sessions := store.sessions.map fun item => if item.sessionId = record.sessionId then record else item }

/-- `save`. -/
def save (clock : Time) (record : BrowserSessionRecord) (expectedVersion : Nat) :
    Except Exn BrowserSessionRecord × BrowserStore :=
  match store.get record.sessionId with
  | none => (.error (notFoundError ("browser session " ++ record.sessionId ++ " not found")), store)
  | some current =>
    if current.version ≠ expectedVersion then
      (.error (.domain .concurrentModification "the browser session was modified by another writer"), store)
    else
      let stored := { record with version := expectedVersion + 1, updatedAt := clock }
      (.ok stored, store.put stored)

/-- `find_active_for_task`: every session of the task, the oldest first. -/
def findActiveForTask (taskId : String) : List BrowserSessionRecord :=
  (store.sessions.filter (·.taskId = taskId)).insertionSort fun a b => a.createdAt ≤ b.createdAt

/-- Whether a session is EXECUTING for nobody that is still there. -/
def isStale (activeOwners : List String) (record : BrowserSessionRecord) : Bool :=
  record.state = .executing && !(record.ownerId ≠ "" && activeOwners.contains record.ownerId)

/-- `recover_stale_executions`. -/
def recoverStaleExecutions (clock : Time) (activeOwners : List String) : List String × BrowserStore :=
  ((store.sessions.filter (isStale activeOwners)).map (·.sessionId),
    { store with sessions := store.sessions.map fun record =>
        if isStale activeOwners record then
          { record with state := .unknown, outcome := "UNKNOWN", diagnosticCode := "EXECUTION_INTERRUPTED"
                        updatedAt := clock, version := record.version + 1 }
        else record })

/-- `InMemoryBrowserAdapterStore.get`. -/
def getAdapter (extensionId adapterId adapterVersion : String) : Option BrowserAdapterRecord :=
  store.adapters.find? fun item =>
    item.extensionId = extensionId ∧ item.adapterId = adapterId ∧ item.adapterVersion = adapterVersion

/-- `list_for_extension`. -/
def listAdapters (extensionId : String) : List BrowserAdapterRecord :=
  (store.adapters.filter (·.extensionId = extensionId)).insertionSort fun a b =>
    a.adapterId < b.adapterId ∨ (a.adapterId = b.adapterId ∧ a.adapterVersion ≤ b.adapterVersion)

/-- `upsert`. -/
def upsertAdapter (clock : Time) (record : BrowserAdapterRecord) : BrowserAdapterRecord × BrowserStore :=
  let current := store.getAdapter record.extensionId record.adapterId record.adapterVersion
  let stored := { record with version := (current.map (·.version + 1)).getD 0, updatedAt := clock }
  let others := store.adapters.filter fun item => ¬ (item.extensionId = record.extensionId ∧
    item.adapterId = record.adapterId ∧ item.adapterVersion = record.adapterVersion)
  (stored, { store with adapters := others ++ [stored] })

end BrowserStore

/-- What `companion.click` is bound to. -/
structure ClickTarget where
  actionId : String
  locator : String
  receiptLocator : String
  expectedMethod : String
  expectedOrigin : String
  expectedPath : String
  expectedPayloadSha256 : String
  expectedPayloadLocators : String
  deriving DecidableEq, Repr

/-- The requests: the clock and the random ids, the two stores, and the companion. `interrupted`
asks whether the caller was cancelled while a shielded part ran, `expired` whether a
cancellation is that of the deadline. -/
inductive BrowserOp where
  | now
  | newId
  | newNonce
  | interrupted
  | expired
  | getSession (sessionId : String)
  | createSession (record : BrowserSessionRecord)
  | saveSession (record : BrowserSessionRecord) (expectedVersion : Nat)
  | findActiveForTask (taskId : String)
  | recoverStaleExecutions (activeOwners : List String)
  | getAdapter (extensionId adapterId adapterVersion : String)
  | listAdapters (extensionId : String)
  | upsertAdapter (record : BrowserAdapterRecord)
  | openPage (sessionId purpose taskId extensionId : String)
  | closePage (sessionId : String)
  | cancelPage (sessionId : String)
  | navigate (sessionId url : String) (loginPaths : List String)
  | snapshot (sessionId : String) (prohibitedTerms : List String) (scanText : Bool) (loginPaths : List String)
  | fill (sessionId : String) (fields : List (String × String))
  | activate (sessionId locator expectedPath : String)
  | collectMatches (sessionId pattern : String) (limit : Nat) (url : String)
  | click (sessionId : String) (target : ClickTarget)

/-- The type of each answer. -/
@[reducible] def BrowserOp.Ans : BrowserOp → Type
  | now => Time
  | newId => String
  | newNonce => String
  | interrupted => Bool
  | expired => Bool
  | getSession _ => Option BrowserSessionRecord
  | createSession _ => BrowserSessionRecord
  | saveSession _ _ => BrowserSessionRecord
  | findActiveForTask _ => List BrowserSessionRecord
  | recoverStaleExecutions _ => List String
  | getAdapter _ _ _ => Option BrowserAdapterRecord
  | listAdapters _ => List BrowserAdapterRecord
  | upsertAdapter _ => BrowserAdapterRecord
  | openPage _ _ _ _ => Value
  | closePage _ => Unit
  | cancelPage _ => Unit
  | navigate _ _ _ => Value
  | snapshot _ _ _ _ => Value
  | fill _ _ => Value
  | activate _ _ _ => Value
  | collectMatches _ _ _ _ => Value
  | click _ _ => Value

/-- The port of the broker. -/
abbrev BrowserPort : Port := ⟨BrowserOp, BrowserOp.Ans⟩

/-- A coroutine of the broker. -/
abbrev BrowserM (α : Type) : Type := Prog BrowserPort Exn α

/-- Await one request of the broker. -/
abbrev web (op : BrowserOp) : BrowserM op.Ans := Prog.perform (P := BrowserPort) op

/-- An answered request of the broker. -/
abbrev BrowserEvent : Type := Event BrowserPort Exn

/-- The stores as the world of the broker; an effect depends on the clock of the store. -/
def browserWorld : World BrowserPort Exn BrowserStore Time where
  effect clock store
    | .getSession sessionId => some (.ok (store.get sessionId), store)
    | .createSession record => some (store.create record)
    | .saveSession record expectedVersion => some (store.save clock record expectedVersion)
    | .findActiveForTask taskId => some (.ok (store.findActiveForTask taskId), store)
    | .recoverStaleExecutions activeOwners =>
      let result := store.recoverStaleExecutions clock activeOwners
      some (.ok result.1, result.2)
    | .getAdapter extensionId adapterId adapterVersion =>
      some (.ok (store.getAdapter extensionId adapterId adapterVersion), store)
    | .listAdapters extensionId => some (.ok (store.listAdapters extensionId), store)
    | .upsertAdapter record =>
      let result := store.upsertAdapter clock record
      some (.ok result.1, result.2)
    | _ => none
  drift _ store _ := store
  total
    | .now | .newId | .newNonce | .interrupted | .expired => true
    | _ => false

theorem browserWorld_own (clock : Time) (store : BrowserStore) (op : BrowserOp) (h : browserWorld.total op) :
    browserWorld.effect clock store op = none := by
  cases op <;> first | rfl | cases h

end PersonalAssistant
