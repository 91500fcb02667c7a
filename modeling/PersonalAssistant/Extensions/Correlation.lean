import PersonalAssistant.Extensions.Rpc

/-!
# Whose response a call gets

Any number of callers share one client in any interleaving, while the reader task routes the
frames of the worker. A call ends with the response that carries its own id or with an
exception, nothing is written once the stream was given up, and a caller that is turned away
while it waits for the lock has written nothing; it gives the stream up all the same, so the
worker is stopped under the call in flight.
-/

namespace PersonalAssistant

open Coro Coro.Prog Function List

/-- What happened on the stream: a request was written, a response was read for a waiting
call, the stream was given up. -/
inductive StreamEvent where
  | wrote (id : String)
  | read (id : String) (reply : RpcReply)
  | broke

/-- The client as its callers share it: the lock, the process, `_broken`, `_failure`,
`_pending`, the outcome of each future that is done, the ids handed out, and what happened on
the stream. -/
structure Client where
  locked : Bool := false
  running : Bool := true
  broken : Bool := false
  failure : Option Exn := none
  pending : List String := []
  futures : String → Option (Except Exn RpcReply) := fun _ => none
  issued : List String := []
  log : List StreamEvent := []

namespace Client

/-- `_fail_pending`: the futures that wait get an exception. -/
def failPending (s : Client) (e : Exn) : Client :=
  { s with
    futures := fun id => if id ∈ s.pending ∧ (s.futures id).isNone then some (.error e) else s.futures id
    pending := [] }

/-- The stretch of `_break` before its await: the process is swapped out. -/
def break_ (s : Client) : Client :=
  { s.failPending (s.failure.getD (rpcCallError (-32090) "extension worker is not running")) with
    broken := true, running := false, log := s.log ++ [.broke] }

/-- The stretch of `_fail` before its await. -/
def fail (s : Client) (e : Exn) : Client :=
  { s.failPending e with broken := true, failure := some e, running := false, log := s.log ++ [.broke] }

/-- A future that waits is done. -/
def settle (s : Client) (id : String) (outcome : Except Exn RpcReply) : Client :=
  { s with futures := if (s.futures id).isNone then update s.futures id (some outcome) else s.futures }

/-- A response frame, in `_read_loop`. -/
def read (s : Client) (id : String) (reply : RpcReply) : Client :=
  if id ∈ s.pending then
    { s.settle id (.ok reply) with pending := s.pending.erase id, log := s.log ++ [.read id reply] }
  else s.fail (rpcCallError (-32093) "extension response id mismatch")

/-- The first stretch of `_exchange`, once its tests are passed. -/
def post (s : Client) (posted : Posted) : Client :=
  { s with
    pending := s.pending ++ [posted.id]
    issued := s.issued ++ [posted.id]
    log := s.log ++ if posted.write.isOk then [.wrote posted.id] else [] }

end Client

/-- The requests that do not touch the client. -/
def RpcOp.elsewhere : RpcOp → Bool
  | acquire | release | post _ _ | response _ _ | forget _ | breakStream => false
  | _ => true

/-- What a request does to the client. A new id was not handed out before; a caller may be
cancelled at each await. -/
inductive ClientStep : Client → (op : RpcOp) → Except Exn op.Ans → Client → Prop where
  | acquired (s : Client) : s.locked = false → ClientStep s .acquire (.ok ()) { s with locked := true }
  | turnedAway (s : Client) : ClientStep s .acquire (.error .cancelled) s
  | released (s : Client) : ClientStep s .release (.ok ()) { s with locked := false }
  | posted (s : Client) (method : String) (params : Value) (posted : Posted) :
      s.running → s.broken = false → posted.id ∉ s.issued →
      ClientStep s (.post method params) (.ok posted) (s.post posted)
  | unposted (s : Client) (method : String) (params : Value) (e : Exn) :
      ClientStep s (.post method params) (.error e) s
  | settled (s : Client) (id : String) (timeoutSeconds : Rat) (outcome : Except Exn RpcReply) :
      s.futures id = some outcome → ClientStep s (.response id timeoutSeconds) outcome s
  | interrupted (s : Client) (id : String) (timeoutSeconds : Rat) (e : Exn) :
      e = .cancelled ∨ e = .timeout "TimeoutError" →
      ClientStep s (.response id timeoutSeconds) (.error e) (s.settle id (.error .cancelled))
  | forgot (s : Client) (id : String) : ClientStep s (.forget id) (.ok ()) { s with pending := s.pending.erase id }
  | broke (s : Client) : ClientStep s .breakStream (.ok ()) s.break_
  | elsewhere (s : Client) (op : RpcOp) (a : Except Exn op.Ans) :
      op.elsewhere → (op.total → ∃ x, a = .ok x) → ClientStep s op a s

/-- What the worker and the reader task do: a response is read, the stream fails, the process
exits. -/
inductive WorkerStep : Client → Client → Prop where
  | read (s : Client) (id : String) (reply : RpcReply) : WorkerStep s (s.read id reply)
  | fail (s : Client) (code : Int) (message : String) : WorkerStep s (s.fail (rpcCallError code message))
  | exit (s : Client) : WorkerStep s { s with running := false }

/-- How far a call got; one that was turned away at the lock gives the stream up. -/
inductive Talk where
  | fresh
  | admitted
  | turnedAway (gaveUp : Bool)
  | posted (id : String)
  | answered (id : String) (reply : RpcReply)

namespace Talk

/-- The id of the request that was posted. -/
def id? : Talk → Option String
  | posted id | answered id _ => some id
  | _ => none

/-- The lock is asked for once, one request is posted under it, and only its own response is
awaited. -/
def Allows (m : Talk) : RpcEvent → Prop
  | ⟨.acquire, _⟩ => m = fresh
  | ⟨.post _ _, _⟩ => m = admitted
  | ⟨.response id _, _⟩ => m = posted id
  | _ => True

/-- The call when it has given the stream up. -/
def gaveUp : Talk → Talk
  | turnedAway _ => turnedAway true
  | m => m

theorem gaveUp_ne (m : Talk) : m.gaveUp ≠ turnedAway false := by
  cases m <;> nofun

/-- The call after an event. -/
def after (m : Talk) : RpcEvent → Talk
  | ⟨.breakStream, _⟩ => m.gaveUp
  | ⟨.acquire, .ok _⟩ => admitted
  | ⟨.acquire, .error _⟩ => turnedAway false
  | ⟨.post _ _, .ok p⟩ => posted p.id
  | ⟨.response id _, .ok reply⟩ => answered id reply
  | _ => m

end Talk

/-- Waiting for the lock ends only with the lock or a cancellation, and asking a timeout
whether it expired does not fail. -/
def LockSpoken : RpcEvent → Prop
  | ⟨.acquire, .error e⟩ => e = .cancelled
  | ⟨.expired, .error _⟩ => False
  | _ => True

/-- The monitor of a call. -/
def talkWatch : Monitor RpcPort Exn Talk where
  rely _ := LockSpoken
  ok := Talk.Allows
  next := Talk.after

/-- The requests a monitor passes over. -/
def RpcOp.plain : RpcOp → Bool
  | acquire | post _ _ | response _ _ | breakStream => false
  | _ => true

variable {id : String} {op : RpcOp} {a : Except Exn op.Ans}

section Follows

open JsonRpcProcessClient

variable {m : Talk}

theorem plain_still (op : RpcOp) (h : op.plain) : Keeps talkWatch.handler talkWatch.ok Eq (rpc op) := by
  intro m
  refine Monitor.follows_perform.mpr fun a _ => ?_
  cases op <;> first | exact ⟨trivial, rfl⟩ | cases h

/-- A call ends with a value only when it was answered with it, and it does not end before it
gave up a stream whose lock it did not get. -/
structure Settles (outcome : Except Exn Value) (m : Talk) : Prop where
  value : ∀ value, outcome = .ok value → ∃ id, m = .answered id (.result value)
  gaveUp : m ≠ .turnedAway false

variable {e : Exn} {method : String} {timeoutSeconds deadline : Rat} {params : Value} {outcome : Except Exn Value}

theorem settles_error (h : m ≠ .turnedAway false) : Settles (.error e) m := ⟨nofun, h⟩

theorem Settles.raise (h : Settles outcome m) : Settles (.error e) m :=
  settles_error h.gaveUp

/-- Whoever breaks the stream and raises has given it up. -/
theorem break_raise : talkWatch.Follows (break_ >>= fun _ => raise e) Settles m := by
  refine wp.bind (wp.bind (Monitor.follows_perform.mpr fun a _ => ⟨trivial, ?_⟩))
  have gone {e : Exn} : Settles (.error e) m.gaveUp := settles_error m.gaveUp_ne
  cases a with
  | error e => exact gone
  | ok _ =>
  refine Monitor.follows_perform.mpr fun a _ => ⟨trivial, ?_⟩
  cases a with
  | error e => exact gone
  | ok _ => exact wp.raise gone

theorem shield_break_raise : talkWatch.Follows (shield break_ >>= fun _ => raise e) Settles m :=
  wp.bind (wp.shield ((wp_bind ..).mp break_raise))

theorem awaitResponse_follows : talkWatch.Follows (awaitResponse method id timeoutSeconds) Settles (.posted id) := by
  refine wp.bind (wp.attempt (Monitor.follows_perform.mpr fun a _ => ⟨rfl, ?_⟩))
  dsimp only [either]
  split
  · refine wp.pure ⟨?_, nofun⟩
    rintro _ ⟨⟩
    exact ⟨id, rfl⟩
  · exact wp.raise (settles_error nofun)
  · exact break_raise
  · exact shield_break_raise
  · exact wp.raise (settles_error nofun)

theorem exchange_follows : talkWatch.Follows (exchange method params timeoutSeconds) Settles .admitted := by
  refine wp.bind (Monitor.follows_perform.mpr fun a _ => ⟨rfl, ?_⟩)
  cases a with
  | error e => exact settles_error nofun
  | ok posted =>
  have failed {e : Exn} : Settles (.error e) (.posted posted.id) := settles_error nofun
  have flushed : Keeps talkWatch.handler talkWatch.ok Eq
    (do ofExcept posted.write; rpc (.flush posted.id) : RpcM Unit) :=
    .bind (.done _) fun _ => plain_still _ rfl
  refine wp_still_bind (.attempt flushed) (fun outcome => ?_) fun _ => failed
  split
  · exact wp_still_bind (plain_still _ rfl) (fun _ => shield_break_raise) fun _ => failed
  · refine wp.ite ⟨fun _ => ?_, fun _ => wp.raise failed⟩
    exact wp_still_bind (plain_still _ rfl) (fun _ => break_raise) fun _ => failed
  · refine wp.tried awaitResponse_follows fun outcome m settles => ?_
    exact wp_still_bind (plain_still _ rfl) (fun _ => wp.ofExcept settles) fun _ => settles.raise

/-- Inside the handlers that break the stream: whoever was turned away leaves with the timeout
or the cancellation they look for. -/
structure Leaves (outcome : Except Exn Value) (m : Talk) : Prop where
  value : ∀ value, outcome = .ok value → ∃ id, m = .answered id (.result value)
  away : m = .turnedAway false → outcome = .error .cancelled ∨ ∃ name text, outcome = .error (.timeout name text)

theorem Settles.leaves (h : Settles outcome m) : Leaves outcome m :=
  ⟨h.value, fun away => absurd away h.gaveUp⟩

theorem locked_follows : talkWatch.Follows (locked deadline method params) Leaves .fresh := by
  refine wp.bind (Monitor.follows_perform.mpr fun a spoken => ⟨rfl, ?_⟩)
  cases a with
  | error e => exact ⟨nofun, fun _ => .inl (congrArg _ spoken)⟩
  | ok _ =>
  refine wp.bind (wp.attempt (wp_mono (fun outcome m settles => ?_) (Q := Settles) ?_))
  · exact wp_still_bind (plain_still _ rfl) (fun _ => wp.ofExcept settles.leaves) fun _ => settles.raise.leaves
  have failed {e : Exn} : Settles (.error e) .admitted := settles_error nofun
  refine wp_still_bind (plain_still _ rfl) (fun now => ?_) fun _ => failed
  exact wp.ite ⟨fun _ => wp.raise failed, fun _ => exchange_follows⟩

theorem timeoutAt_follows {c : RpcM Value} (h : talkWatch.Follows c Leaves m) :
    talkWatch.Follows (timeoutAt c) Leaves m := by
  refine wp.tried h fun outcome m leaves => ?_
  split
  · refine wp.bind (Monitor.follows_perform.mpr fun a spoken => ⟨trivial, ?_⟩)
    cases a with
    | error e => exact spoken.elim
    | ok expired =>
    exact wp.ite ⟨fun _ => wp.raise ⟨nofun, fun _ => .inr ⟨_, _, rfl⟩⟩,
      fun _ => wp.raise ⟨nofun, fun _ => .inl rfl⟩⟩
  · exact wp.ofExcept leaves

theorem guarded_follows {message : String} :
    talkWatch.Follows (guarded deadline method params message) Settles .fresh := by
  refine wp.bind (wp.attempt
    (wp_mono (fun outcome m leaves => ?_) (timeoutAt_follows locked_follows)))
  dsimp only [either]
  split
  · exact break_raise
  · exact shield_break_raise
  · rename_i timedOut cancelled
    refine wp.ofExcept ⟨leaves.value, fun away => ?_⟩
    rcases leaves.away away with h | ⟨name, text, h⟩
    · exact cancelled h
    · exact timedOut name text h

theorem call_follows : talkWatch.Follows (call method params timeoutSeconds) Settles .fresh := by
  have failed {e : Exn} : Settles (.error e) .fresh := settles_error nofun
  refine wp.ite ⟨fun _ => wp.raise failed, fun _ => ?_⟩
  exact wp_still_bind (plain_still _ rfl) (fun _ => guarded_follows) fun _ => failed

theorem drain_follows {deadlineEpoch : Rat} {deadlineText : Value} :
    talkWatch.Follows (drain deadlineEpoch timeoutSeconds deadlineText) Settles .fresh := by
  have failed {e : Exn} : Settles (.error e) .fresh := settles_error nofun
  refine wp_still_bind (plain_still _ rfl) (fun now => ?_) fun _ => failed
  refine wp.ite ⟨fun _ => break_raise, fun _ => ?_⟩
  refine wp_still_bind (plain_still _ rfl) (fun start => ?_) fun _ => failed
  refine wp.after guarded_follows fun outcome m settles => ?_
  cases outcome with
  | error e => exact settles.raise
  | ok result =>
    cases result with
    | dict entries =>
      exact wp.ite ⟨fun _ => wp.pure settles, fun _ => wp.raise settles.raise⟩
    | _ => exact wp.raise settles.raise

end Follows

/-- A caller of the client. -/
inductive RpcCaller where
  | call (method : String) (params : Value) (timeoutSeconds : Rat)
  | drain (deadlineEpoch timeoutSeconds : Rat) (deadlineText : Value)

/-- Its run. -/
def RpcCaller.run : RpcCaller → RpcM Value
  | call method params timeoutSeconds => JsonRpcProcessClient.call method params timeoutSeconds
  | drain deadlineEpoch timeoutSeconds deadlineText =>
    JsonRpcProcessClient.drain deadlineEpoch timeoutSeconds deadlineText

theorem RpcCaller.run_follows (caller : RpcCaller) : talkWatch.Follows caller.run Settles .fresh := by
  cases caller with
  | call method params timeoutSeconds => exact call_follows
  | drain deadlineEpoch timeoutSeconds deadlineText => exact drain_follows

/-! ## The client over a whole run -/

/-- What is true of the client alone: a future holds only a response that was read under its
id, and the stream was whole at each write. -/
structure Client.Sound (s : Client) : Prop where
  settled : ∀ id reply, s.futures id = some (.ok reply) → .read id reply ∈ s.log
  whole : .broke ∈ s.log → s.broken ∧ s.running = false
  silent : ∀ pre id post, s.log = pre ++ .wrote id :: post → .broke ∉ pre

namespace Client.Sound

variable {s s' : Client} {reply : RpcReply}

/-- A change that settles no future with a response and logs no write. -/
theorem quiet (sound : s.Sound)
    (futures : ∀ id reply, s'.futures id = some (.ok reply) → s.futures id = some (.ok reply))
    (log : s'.log = s.log) (stopped : s.broken ∧ s.running = false → s'.broken ∧ s'.running = false) : s'.Sound where
  settled id reply h := log ▸ sound.settled id reply (futures id reply h)
  whole h := stopped (sound.whole (log ▸ h))
  silent pre id post h := sound.silent pre id post (log ▸ h)

theorem silent_snoc (sound : s.Sound) {entry : StreamEvent} (h : ∀ id, entry = .wrote id → .broke ∉ s.log)
    (pre : List StreamEvent) (id : String) (post : List StreamEvent)
    (log : s.log ++ [entry] = pre ++ .wrote id :: post) :
    .broke ∉ pre := by
  rcases eq_nil_or_concat post with rfl | ⟨init, last, rfl⟩
  · obtain ⟨rfl, same⟩ := append_inj' log rfl
    exact h id (head_eq_of_cons_eq same)
  · rw [concat_eq_append, ← cons_append, ← append_assoc] at log
    exact sound.silent pre id init (append_inj' log rfl).1

theorem failPending_ok {e : Exn} (h : (s.failPending e).futures id = some (.ok reply)) :
    s.futures id = some (.ok reply) := by
  unfold Client.failPending at h
  dsimp only at h
  split at h
  · cases h
  · exact h

theorem gaveUp (sound : s.Sound) {failed : Client} (futures : ∀ id reply, failed.futures id = some (.ok reply) →
    s.futures id = some (.ok reply)) (log : failed.log = s.log ++ [.broke])
    (stopped : failed.broken ∧ failed.running = false) : failed.Sound where
  settled id reply h := log ▸ mem_append_left _ (sound.settled id reply (futures id reply h))
  whole _ := stopped
  silent pre id post h := sound.silent_snoc (by simp) pre id post (log ▸ h)

theorem break_ (sound : s.Sound) : s.break_.Sound :=
  sound.gaveUp (fun _ _ => failPending_ok) rfl ⟨rfl, rfl⟩

theorem fail (sound : s.Sound) (e : Exn) : (s.fail e).Sound :=
  sound.gaveUp (fun _ _ => failPending_ok) rfl ⟨rfl, rfl⟩

theorem post (sound : s.Sound) (posted : Posted) (whole : s.broken = false) : (s.post posted).Sound := by
  have unbroken : .broke ∉ s.log := fun h => by
    rw [(sound.whole h).1] at whole
    cases whole
  unfold Client.post
  cases posted.write.isOk with
  | false => exact sound.quiet (fun _ _ h => h) (append_nil _) fun h => h
  | true =>
    refine ⟨fun id reply h => mem_append_left _ (sound.settled id reply h), fun h => ?_, ?_⟩
    · rcases mem_append.mp h with h | h
      · exact sound.whole h
      · simp at h
    · exact sound.silent_snoc fun _ _ => unbroken

theorem settle_ok {id' : String} {outcome : Except Exn RpcReply}
    (h : (s.settle id outcome).futures id' = some (.ok reply)) :
    s.futures id' = some (.ok reply) ∨ id' = id ∧ outcome = .ok reply := by
  unfold Client.settle at h
  dsimp only at h
  split at h
  · by_cases same : id' = id
    · rw [same, update_self] at h
      exact .inr ⟨same, Option.some.inj h⟩
    · exact .inl (by rwa [update_of_ne same] at h)
  · exact .inl h

theorem settle (sound : s.Sound) (id : String) (e : Exn) : (s.settle id (.error e)).Sound := by
  refine sound.quiet (fun id' reply h => ?_) rfl fun h => h
  rcases settle_ok h with h | ⟨-, ⟨⟩⟩
  exact h

theorem read (sound : s.Sound) (id : String) (reply : RpcReply) : (s.read id reply).Sound := by
  unfold Client.read
  split
  · refine ⟨fun id' reply' h => ?_, fun h => ?_, fun pre id' post h => sound.silent_snoc (by simp) pre id' post h⟩
    · rcases settle_ok h with h | ⟨rfl, ⟨⟩⟩
      · exact mem_append_left _ (sound.settled id' reply' h)
      · exact mem_append_right _ (mem_singleton_self _)
    · rcases mem_append.mp h with h | h
      · exact sound.whole h
      · simp at h
  · exact sound.fail _

theorem step {op : RpcOp} {a : Except Exn op.Ans} (sound : s.Sound) (step : ClientStep s op a s') : s'.Sound := by
  cases step with
  | acquired | released | forgot => exact sound.quiet (fun _ _ h => h) rfl fun h => h
  | turnedAway | unposted | settled | elsewhere => exact sound
  | posted method params posted _ whole => exact sound.post posted whole
  | interrupted id => exact sound.settle id _
  | broke => exact sound.break_

theorem worker (sound : s.Sound) (step : WorkerStep s s') : s'.Sound := by
  cases step with
  | read id reply => exact sound.read id reply
  | fail code message => exact sound.fail _
  | exit => exact sound.quiet (fun _ _ h => h) rfl fun h => ⟨h.1, rfl⟩

end Client.Sound

/-- The log and the ids handed out only grow. -/
structure Client.Grows (s s' : Client) : Prop where
  log : s.log ⊆ s'.log
  issued : s.issued ⊆ s'.issued

theorem ClientStep.grows {s s' : Client} (step : ClientStep s op a s') : s.Grows s' := by
  cases step <;> constructor <;> simp [Client.post, Client.settle, Client.break_, Client.failPending]

theorem WorkerStep.grows {s s' : Client} (step : WorkerStep s s') : s.Grows s' := by
  cases step with
  | read id reply =>
    constructor <;> unfold Client.read <;> split <;> simp [Client.settle, Client.fail, Client.failPending]
  | fail code message => constructor <;> simp [Client.fail, Client.failPending]
  | exit => constructor <;> simp

namespace Talk

variable {m : Talk} {e e' : RpcEvent} {id : String} {reply : RpcReply}

/-- The monitor has not forgotten an event. -/
def Remembers (m : Talk) : RpcEvent → Prop
  | ⟨.acquire, .error _⟩ => ∃ gaveUp, m = turnedAway gaveUp
  | ⟨.post _ _, .ok p⟩ => m.id? = some p.id
  | ⟨.response id _, .ok reply⟩ => m = answered id reply
  | _ => True

theorem after_remembers : (m.after e).Remembers e := by
  obtain ⟨op, a⟩ := e
  cases op <;> cases a <;> first | rfl | trivial | exact ⟨false, rfl⟩

/-- A call that has met nothing to remember remembers everything. -/
theorem Remembers.of_idle (h : m.Remembers e) (idle : m = fresh ∨ m = admitted) (m' : Talk) : m'.Remembers e := by
  obtain ⟨op, a⟩ := e
  rcases idle with rfl | rfl <;> cases op <;> cases a <;> first | trivial | obtain ⟨_, ⟨⟩⟩ := h

theorem Remembers.gaveUp (h : m.Remembers e) : m.gaveUp.Remembers e := by
  cases m with
  | turnedAway gaveUp =>
    obtain ⟨op, a⟩ := e
    cases op <;> cases a <;> first | exact ⟨true, rfl⟩ | trivial
  | _ => exact h

theorem Remembers.after (h : m.Remembers e) (ok : m.Allows e') : (m.after e').Remembers e := by
  obtain ⟨op', a'⟩ := e'
  cases op' with
  | acquire => exact h.of_idle (.inl ok) _
  | post method params => exact h.of_idle (.inr ok) _
  | breakStream => exact h.gaveUp
  | response id timeoutSeconds =>
    cases a' with
    | error exc => exact h
    | ok reply =>
      obtain rfl : m = posted id := ok
      obtain ⟨op, a⟩ := e
      cases op <;> cases a <;> first | trivial | obtain ⟨_, ⟨⟩⟩ := h
  | _ => exact h

theorem gaveUp_id? (m : Talk) : m.gaveUp.id? = m.id? := by
  cases m <;> rfl

theorem gaveUp_answered (h : m.gaveUp = answered id reply) : m = answered id reply := by
  cases m <;> first | exact h | cases h

/-- The id of a call is the one it was sent with. -/
theorem after_id? (ok : m.Allows e) (h : (m.after e).id? = some id) :
    m.id? = some id ∨ ∃ method params p, e = ⟨.post method params, .ok p⟩ ∧ p.id = id := by
  obtain ⟨op, a⟩ := e
  cases op with
  | acquire => cases a <;> cases h
  | breakStream => exact .inl ((gaveUp_id? m).symm.trans h)
  | post method params =>
    cases a with
    | error exc => exact .inl h
    | ok p => exact .inr ⟨method, params, p, rfl, Option.some.inj h⟩
  | response id' timeoutSeconds =>
    cases a with
    | error exc => exact .inl h
    | ok reply =>
      obtain rfl : m = posted id' := ok
      exact .inl h
  | _ => exact .inl h

/-- An answer is that of the response that was read. -/
theorem after_answered (h : m.after e = answered id reply) :
    m = answered id reply ∨ ∃ timeoutSeconds, e = ⟨.response id timeoutSeconds, .ok reply⟩ := by
  obtain ⟨op, a⟩ := e
  cases op with
  | response id' timeoutSeconds =>
    cases a with
    | error exc => exact .inl h
    | ok reply' =>
      cases h
      exact .inr ⟨timeoutSeconds, rfl⟩
  | acquire => cases a <;> cases h
  | breakStream => exact .inl (gaveUp_answered h)
  | post method params =>
    cases a with
    | error exc => exact .inl h
    | ok p => cases h
  | _ => exact .inl h

/-- A call that gave the stream up did so before or now. -/
theorem after_gaveUp (h : m.after e = turnedAway true) : m = turnedAway true ∨ ∃ a, e = ⟨.breakStream, a⟩ := by
  obtain ⟨op, a⟩ := e
  cases op with
  | breakStream => exact .inr ⟨a, rfl⟩
  | acquire => cases a <;> cases h
  | post method params =>
    cases a with
    | error exc => exact .inl h
    | ok p => cases h
  | response id timeoutSeconds =>
    cases a with
    | error exc => exact .inl h
    | ok reply => cases h
  | _ => exact .inl h

end Talk

section Pool

variable {ι : Type} {s s' : Client} {m : ι → Talk} {tr : List (ι × RpcEvent)} {i : ι} {op : RpcOp}
  {a : Except Exn op.Ans}

/-- The client, the monitors and the events so far belong together. -/
structure Correlated (s : Client) (m : ι → Talk) (tr : List (ι × RpcEvent)) : Prop where
  sound : s.Sound
  issued : ∀ i id, (m i).id? = some id → id ∈ s.issued
  own : ∀ i j id, (m i).id? = some id → (m j).id? = some id → i = j
  read : ∀ i id reply, m i = .answered id reply → .read id reply ∈ s.log
  gaveUp : ∀ i, m i = .turnedAway true → .broke ∈ s.log
  events : ∀ i e, (i, e) ∈ tr → (m i).Remembers e
  posted : ∀ i id, (m i).id? = some id →
    ∃ method params posted, (i, ⟨.post method params, .ok posted⟩) ∈ tr ∧ posted.id = id

theorem Correlated.new_id {method : String} {params : Value} {p : Posted} (inv : Correlated s m tr)
    (step : ClientStep s (.post method params) (.ok p) s') (h : p.id = id) :
    id ∈ s'.issued ∧ ∀ j, (m j).id? ≠ some id := by
  subst h
  cases step with
  | posted _ _ _ _ _ new => exact ⟨by simp [Client.post], fun j old => new (inv.issued j p.id old)⟩
  | elsewhere _ _ h => cases h

variable [DecidableEq ι]

/-- After a step, a call has an id it had before, or the one it posted now. -/
theorem id_step (ok : (m i).Allows ⟨op, a⟩) {j : ι} (h : (update m i ((m i).after ⟨op, a⟩) j).id? = some id) :
    (m j).id? = some id ∨ j = i ∧ ∃ method params p, (⟨op, a⟩ : RpcEvent) = ⟨.post method params, .ok p⟩ ∧
    p.id = id := by
  by_cases hj : j = i
  · subst hj
    rw [update_self] at h
    exact (Talk.after_id? ok h).imp_right fun posted => ⟨rfl, posted⟩
  · rw [update_of_ne hj] at h
    exact .inl h

section

variable (inv : Correlated s m tr) (taken : ClientStep s op a s')

include inv taken

theorem Correlated.issued_step (ok : (m i).Allows ⟨op, a⟩)
    (j : ι) (id : String) (h : (update m i ((m i).after ⟨op, a⟩) j).id? = some id) : id ∈ s'.issued := by
  rcases id_step ok h with old | ⟨-, method, params, p, ⟨⟩, hp⟩
  · exact taken.grows.issued (inv.issued j id old)
  · exact (inv.new_id taken hp).1

theorem Correlated.own_step (ok : (m i).Allows ⟨op, a⟩)
    (j k : ι) (id : String) (hj : (update m i ((m i).after ⟨op, a⟩) j).id? = some id)
    (hk : (update m i ((m i).after ⟨op, a⟩) k).id? = some id) : j = k := by
  -- an id posted in this taken was nobody's before
  rcases id_step ok hj with oldj | ⟨rfl, method, params, p, new, hp⟩ <;>
    rcases id_step ok hk with oldk | ⟨rfl, method', params', p', new', hp'⟩
  · exact inv.own j k id oldj oldk
  · cases new'
    exact absurd oldj ((inv.new_id taken hp').2 j)
  · cases new
    exact absurd oldk ((inv.new_id taken hp).2 k)
  · rfl

theorem Correlated.read_step (j : ι) (id : String)
    (reply : RpcReply) (h : update m i ((m i).after ⟨op, a⟩) j = .answered id reply) :
    .read id reply ∈ s'.log := by
  by_cases hj : j = i
  · subst hj
    rw [update_self] at h
    rcases Talk.after_answered h with old | ⟨timeoutSeconds, new⟩
    · exact taken.grows.log (inv.read j id reply old)
    · cases new
      cases taken with
      | settled _ _ _ done => exact inv.sound.settled id reply done
      | elsewhere _ _ h => cases h
  · rw [update_of_ne hj] at h
    exact taken.grows.log (inv.read j id reply h)

theorem Correlated.gaveUp_step (j : ι)
    (h : update m i ((m i).after ⟨op, a⟩) j = .turnedAway true) : .broke ∈ s'.log := by
  by_cases hj : j = i
  · subst hj
    rw [update_self] at h
    rcases Talk.after_gaveUp h with old | ⟨answer, new⟩
    · exact taken.grows.log (inv.gaveUp j old)
    · cases new
      cases taken with
      | broke => simp [Client.break_]
      | elsewhere _ _ h => cases h
  · rw [update_of_ne hj] at h
    exact taken.grows.log (inv.gaveUp j h)

/-- A step keeps the answers with the calls they belong to. -/
theorem Correlated.step (ok : (m i).Allows ⟨op, a⟩) :
    Correlated s' (update m i ((m i).after ⟨op, a⟩)) (tr ++ [(i, ⟨op, a⟩)]) where
  sound := inv.sound.step taken
  issued := inv.issued_step taken ok
  own := inv.own_step taken ok
  read := inv.read_step taken
  gaveUp := inv.gaveUp_step taken
  events j e mem := by
    by_cases hj : j = i
    · subst hj
      rw [update_self]
      rcases mem_append.mp mem with old | new
      · exact (inv.events j e old).after ok
      · cases mem_singleton.mp new
        exact Talk.after_remembers
    · rw [update_of_ne hj]
      rcases mem_append.mp mem with old | new
      · exact inv.events j e old
      · cases mem_singleton.mp new
        exact absurd rfl hj
  posted j id h := by
    rcases id_step ok h with old | ⟨rfl, method, params, p, new, hp⟩
    · obtain ⟨method, params, p, mem, hp⟩ := inv.posted j id old
      exact ⟨method, params, p, mem_append_left _ mem, hp⟩
    · exact ⟨method, params, p, mem_append_right _ (by rw [new]; exact mem_singleton_self _), hp⟩

end

omit [DecidableEq ι] in
theorem Correlated.worker (inv : Correlated s m tr) (step : WorkerStep s s') : Correlated s' m tr :=
  { inv with
    sound := inv.sound.worker step
    issued := fun i id h => step.grows.issued (inv.issued i id h)
    read := fun i id reply h => step.grows.log (inv.read i id reply h)
    gaveUp := fun i h => step.grows.log (inv.gaveUp i h) }

omit [DecidableEq ι] in
theorem Correlated.init : Correlated {} (fun _ : ι => .fresh) [] where
  sound := ⟨fun _ _ h => (by cases h), fun h => (by cases h), fun pre _ _ h => (by cases pre <;> cases h)⟩
  issued _ _ h := by cases h
  own _ _ _ h := by cases h
  read _ _ _ h := by cases h
  gaveUp _ h := by cases h
  events _ _ h := by cases h
  posted _ _ h := by cases h

end Pool

/-- Every request can be answered: what waits may be cancelled. -/
theorem ClientStep.answers (s : Client) (op : RpcOp) : ∃ a s', ClientStep s op a s' := by
  cases op with
  | acquire => exact ⟨_, _, .turnedAway s⟩
  | release => exact ⟨_, _, .released s⟩
  | post method params => exact ⟨_, _, .unposted s method params .cancelled⟩
  | response id timeoutSeconds => exact ⟨_, _, .interrupted s id timeoutSeconds _ (.inl rfl)⟩
  | forget id => exact ⟨_, _, .forgot s id⟩
  | breakStream => exact ⟨_, _, .broke s⟩
  | ownerOf toolId => exact ⟨.ok none, s, .elsewhere _ _ _ rfl fun _ => ⟨_, rfl⟩⟩
  | worker extensionId => exact ⟨.ok none, s, .elsewhere _ _ _ rfl fun _ => ⟨_, rfl⟩⟩
  | deadlineText deadlineSeconds => exact ⟨.ok "", s, .elsewhere _ _ _ rfl fun _ => ⟨_, rfl⟩⟩
  | loopTime | wallTime => exact ⟨.ok 0, s, .elsewhere _ _ _ rfl fun _ => ⟨_, rfl⟩⟩
  | expired => exact ⟨.ok true, s, .elsewhere _ _ _ rfl fun _ => ⟨_, rfl⟩⟩
  | _ => exact ⟨.error .cancelled, s, .elsewhere _ _ _ rfl nofun⟩

theorem ClientStep.lockSpoken {s s' : Client} (step : ClientStep s op a s') : LockSpoken ⟨op, a⟩ := by
  cases step with
  | turnedAway => exact rfl
  | elsewhere op a elsewhere total =>
    cases op with
    | acquire => cases elsewhere
    | expired =>
      obtain ⟨x, rfl⟩ := total rfl
      trivial
    | _ => trivial
  | _ => trivial

/-- The interleavings of any number of callers of one client. -/
abbrev RpcPool {ι : Type} [DecidableEq ι] (callers : ι → RpcCaller) (threads : ι → RpcM Value) (s : Client)
    (tr : List (ι × RpcEvent)) : Prop :=
  Pool (fun _ _ => ClientStep) WorkerStep (fun i => (callers i).run) {} threads s tr

/-- A caller wrote the request with the id. -/
def Wrote {ι : Type} (tr : List (ι × RpcEvent)) (i : ι) (id : String) : Prop :=
  ∃ method params posted, (i, ⟨.post method params, .ok posted⟩) ∈ tr ∧ posted.id = id

/-- Two callers with the same request. -/
def sampleRpcCallers : Fin 2 → RpcCaller := fun _ => .call "tool.invoke" (.dict []) 5

/-- A client whose lock turns away whoever has to wait, and whose responses are waited for. -/
def sampleClientAnswer (s : Client) : (op : RpcOp) → Option (Except Exn op.Ans × Client)
  | .acquire => some (if s.locked then (.error .cancelled, s) else (.ok (), { s with locked := true }))
  | .release => some (.ok (), { s with locked := false })
  | .post _ _ =>
    if s.running ∧ s.broken = false ∧ "call" ∉ s.issued then some (.ok ⟨"call", .ok ()⟩, s.post ⟨"call", .ok ()⟩)
    else some (.error (rpcCallError (-32090) "extension worker is not running"), s)
  | .response id _ => (s.futures id).map fun outcome => (outcome, s)
  | .forget id => some (.ok (), { s with pending := s.pending.erase id })
  | .breakStream => some (.ok (), s.break_)
  | .expired => some (.ok true, s)
  | .loopTime | .wallTime => some (.ok (0 : Rat), s)
  | .flush _ | .terminate => some (.ok (), s)
  | _ => none

/-- The answers of the sample are answers of the client. -/
theorem sampleClientAnswer_step {s s' : Client}
    (h : sampleClientAnswer s op = some (a, s')) : ClientStep s op a s' := by
  cases op with
  | acquire =>
    dsimp only [sampleClientAnswer] at h
    split at h
    · cases h
      exact .turnedAway s
    · rename_i free
      cases h
      exact .acquired s (by simpa using free)
  | post method params =>
    dsimp only [sampleClientAnswer] at h
    split at h
    · rename_i fresh
      cases h
      exact .posted s method params _ fresh.1 fresh.2.1 fresh.2.2
    · cases h
      exact .unposted s method params _
  | response id timeoutSeconds =>
    obtain ⟨outcome, done, same⟩ := Option.map_eq_some_iff.mp h
    cases same
    exact .settled s id timeoutSeconds _ done
  | release => cases h; exact .released s
  | forget id => cases h; exact .forgot s id
  | breakStream => cases h; exact .broke s
  | expired => cases h; exact .elsewhere s _ _ rfl fun _ => ⟨_, rfl⟩
  | loopTime => cases h; exact .elsewhere s _ _ rfl fun _ => ⟨_, rfl⟩
  | wallTime => cases h; exact .elsewhere s _ _ rfl fun _ => ⟨_, rfl⟩
  | flush id => cases h; exact .elsewhere s _ _ rfl nofun
  | terminate => cases h; exact .elsewhere s _ _ rfl nofun
  | _ => cases h

/-- The first caller writes its request and waits for the response. -/
def sampleWaiting : (Fin 2 → RpcM Value) × Client × List (Fin 2 × RpcEvent) :=
  playPool (fun _ => sampleClientAnswer) [0, 0, 0, 0, 0] (fun i => (sampleRpcCallers i).run) {} []

/-- The worker answers it. -/
def sampleAnswered : (Fin 2 → RpcM Value) × Client × List (Fin 2 × RpcEvent) :=
  playPool (fun _ => sampleClientAnswer) [0, 0, 0] sampleWaiting.1
    (sampleWaiting.2.1.read "call" (.result (.str "done"))) sampleWaiting.2.2

/-- Whether a request is a write to the stream. -/
def RpcOp.isPost : RpcOp → Bool
  | post _ _ => true
  | _ => false

/-- Another caller's deadline passes while it waits for the lock. -/
def sampleTurnedAway : (Fin 2 → RpcM Value) × Client × List (Fin 2 × RpcEvent) :=
  playPool (fun _ => sampleClientAnswer)
    ([1, 1, 1, 1, 1] ++ [0, 0, 0]) sampleWaiting.1 sampleWaiting.2.1 sampleWaiting.2.2

end PersonalAssistant
