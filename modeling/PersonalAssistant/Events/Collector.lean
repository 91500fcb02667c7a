import PersonalAssistant.Domain.Value
import PersonalAssistant.Records.Contract

/-!
# The event collector

`EventCollector.collect`: poll a source from its cursor, check the batch, store and deliver
each event that is not stored yet, move the cursor, all as the action of one command. The
program of a task is a list of such calls. The deadline of the poll request is left out.
-/

namespace PersonalAssistant

/-- What the collector takes from the library and from its caller. -/
structure EventCollector where
  /-- `fingerprint` of the records. -/
  fingerprint : Value → Except Exn String
  /-- `==` of two documents. -/
  equal : Value → Value → Bool
  /-- `datetime.fromisoformat` gives a time with a zone. -/
  isAwareTime : String → Bool

/-- What the collector calls outside the store: the source and the sink. -/
inductive CollectOp where
  | poll (extensionId extensionVersion : String) (request : Value)
  | sink (event : Value) (identity : String)

/-- What the tasks of collectors do. -/
abbrev CollectAction : Type := Action Value CollectOp Value

/-- The source that a payload names. -/
structure Binding where
  extensionId : String
  extensionVersion : String
  sourceId : String
  entries : List (String × Value)

/-- An event of a checked batch. -/
structure PolledEvent where
  entries : List (String × Value)
  dedupe : String

/-- A checked batch. -/
structure Batch where
  events : List PolledEvent
  nextCursor : Value

/-- `set(a) == set(b)`. -/
def sameMembers (a b : List String) : Bool := a.all (b.contains ·) && b.all (a.contains ·)

/-- A string of bounded length. -/
def boundedStr? (low high : Nat) : Value → Option String
  | .str s => if low ≤ s.length ∧ s.length ≤ high then some s else none
  | _ => none

namespace Binding

variable (b : Binding)

/-- The source of the cursor and of the events. -/
def source : String := b.extensionId ++ ":" ++ b.sourceId

/-- The check of the payload. -/
def parse (payload : Value) : Except Exn Binding :=
  match payload with
  | .dict entries =>
    match (payload.get? "extension_id").bind (boundedStr? 1 128), (payload.get? "extension_version").bind
      (boundedStr? 1 128),
      (payload.get? "source_id").bind (boundedStr? 1 128) with
    | some extensionId, some extensionVersion, some sourceId =>
      if sameMembers (entries.map Prod.fst) ["extension_id", "extension_version", "source_id"] then
        .ok ⟨extensionId, extensionVersion, sourceId, entries⟩
      else .error (validationError "invalid event source binding")
    | _, _, _ => .error (validationError "invalid event source binding")
  | _ => .error (validationError "invalid event source binding")

/-- The poll request. -/
def request (cursor : Value) : Value :=
  .dict [("source_id", .str b.sourceId), ("cursor", cursor), ("limit", .int 100)]

/-- The record of an event. -/
def eventRecord (event : PolledEvent) : Value :=
  .dict [("source", .str b.source), ("extension_version", .str b.extensionVersion), ("event", .dict event.entries)]

/-- The record of the cursor. -/
def cursorRecord (batch : Batch) : Value :=
  .dict [("cursor", batch.nextCursor), ("extension_version", .str b.extensionVersion)]

/-- What the sink gets: the event with the payload written over it. -/
def sinkEvent (event : PolledEvent) : Value :=
  .dict (dictUpdate event.entries b.entries)

/-- What identifies an event. -/
def identityDoc (event : PolledEvent) : Value := .dict [("source", .str b.source), ("dedupe", .str event.dedupe)]

end Binding

namespace EventCollector

variable (c : EventCollector) (b : Binding) (old : Option (Rec Value))

/-- The check of one event. -/
def checkEvent (event : Value) : Except Exn PolledEvent := do
  match event with
  | .dict entries =>
    match (event.get? "type").bind (boundedStr? 1 128), event.get? "source_dedupe_key", event.get? "occurred_at",
      event.get? "payload" with
    | some _, some (.str dedupe), some (.str occurredAt), some (.dict _) =>
      if sameMembers (entries.map Prod.fst) ["type", "source_dedupe_key", "occurred_at", "payload"] then
        if c.isAwareTime occurredAt then
          let _ ← c.fingerprint event
          return ⟨entries, dedupe⟩
        else .error (validationError "event time must be an aware ISO timestamp")
      else .error (validationError "domain event is incomplete")
    | _, _, _, _ => .error (validationError "domain event is incomplete")
  | _ => .error (validationError "domain event is incomplete")

/-- `next_cursor`: missing, none or a string of bounded length. -/
def checkCursor : Option Value → Option Value
  | none => some .none
  | some .none => some .none
  | some (.str s) => if s.length ≤ 10000 then some (.str s) else none
  | some _ => none

/-- The check of a batch. -/
def checkBatch (batch : Value) : Except Exn Batch :=
  match batch.get? "events", batch.get? "source_dedupe_keys", checkCursor (batch.get? "next_cursor") with
  | some (.list events), some (.list keys), some nextCursor =>
    match keys.mapM (boundedStr? 1 256) with
    | some keys =>
      if events.length ≤ 100 ∧ keys.Nodup then do
        let events ← events.mapM c.checkEvent
        if (events.map PolledEvent.dedupe).Nodup ∧ sameMembers (events.map PolledEvent.dedupe) keys then
          return ⟨events, nextCursor⟩
        else .error (validationError "event dedupe keys do not match the batch")
      else .error (validationError "event batch is incomplete")
    | none => .error (validationError "event batch is incomplete")
  | _, _, _ => .error (validationError "event batch is incomplete")

/-- The key under which an event is stored. -/
def identity (event : PolledEvent) : Except Exn String := c.fingerprint (b.identityDoc event)

/-- Go on from an answer, or let its exception out. -/
def orRaise {α : Type} (next : α → CollectAction) : Except Exn α → CollectAction
  | .error e => .raise e
  | .ok a => next a

/-- The record of the cursor is written and the action returns. -/
def close (batch : Batch) (added : Nat) : CollectAction :=
  .put "event-cursors" b.source (b.cursorRecord batch) ((old.map Rec.version).getD 0)
    (orRaise fun _ => .done (.dict [("added", .int added), ("source", .str b.source)]))

/-- The loop over the events. -/
def deliver (b : Binding) (old : Option (Rec Value)) (batch : Batch) : List PolledEvent → Nat → CollectAction
  | [], added => close b old batch added
  | event :: events, added =>
    match c.identity b event with
    | .error e => .raise e
    | .ok identity => .get "domain-events" identity (orRaise fun existing => match existing with
      | some existing =>
        match existing.value.get? "event" with
        | some stored =>
          if c.equal stored (.dict event.entries) then deliver b old batch events added
          else .raise (validationError "immutable domain event changed")
        | none => .raise (.runtime .keyError "event")
      | none => .put "domain-events" identity (b.eventRecord event) 0 (orRaise fun _ =>
          .call (.sink (b.sinkEvent event) identity) (orRaise fun _ => deliver b old batch events (added + 1))))

/-- The batch is checked and delivered. -/
def receive (batch : Value) : CollectAction :=
  match c.checkBatch batch with
  | .error e => .raise e
  | .ok batch => c.deliver b old batch batch.events 0

/-- The source is polled from a cursor. -/
def pollFrom (cursor : Value) : CollectAction :=
  .call (.poll b.extensionId b.extensionVersion (b.request cursor)) (orRaise (c.receive b old))

/-- `apply`, the action of the command. -/
def apply : CollectAction :=
  .get "event-cursors" b.source (orRaise fun old => match old with
    | none => c.pollFrom b old .none
    | some record =>
      match record.value.get? "cursor" with
      | some cursor => c.pollFrom b old cursor
      | none => .raise (.runtime .keyError "cursor"))

/-- `collect`, and what the caller does afterwards. -/
def collect (payload : Value) (jobId : String) (next : Except Exn Value → CollectAction) : CollectAction :=
  match Binding.parse payload with
  | .error e => next (.error e)
  | .ok b => .command ("poll-job:" ++ jobId) payload (c.apply b) next

/-- A task that collects one job after the other, whatever comes of each. -/
def collectAll : List (Value × String) → CollectAction
  | [] => .done .none
  | job :: jobs => c.collect job.1 job.2 fun _ => collectAll jobs

end EventCollector

end PersonalAssistant
