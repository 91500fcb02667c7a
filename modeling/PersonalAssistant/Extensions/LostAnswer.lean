import PersonalAssistant.Extensions.Invoke
import PersonalAssistant.Gateway.Finality

/-!
# What becomes of a request whose answer is lost

A `tool.invoke` request that was written to the worker and not answered may have had its
effect. The client says so by `RpcTimeoutError` or `RpcCallError`, but the router turns every
`Exception` into `DefinitiveToolFailure`; only a cancellation passes it as it is. The wire is
what is kept of a run: whether the request was written, whether an answer to it was read, and
whether the last exception an await raised was a cancellation from outside.
-/

namespace PersonalAssistant

open Coro Coro.Prog

/-- The worker, its stream and the clock answer anything. -/
def rpcWorld : World RpcPort Exn Unit Unit where
  effect _ _ _ := none
  drift _ s _ := s
  total := RpcOp.total

theorem rpcWorld_inert (op : RpcOp) : rpcWorld.Inert op := fun _ _ => ⟨rfl, rfl⟩

/-- What is kept of the events of a call. -/
structure Wire where
  written : Bool := false
  answered : Bool := false
  interrupted : Bool := false
  deriving DecidableEq, Repr

/-- One more event. The deadline of the client cancels its call too, but `expired` tells it from
a cancellation from outside. -/
def Wire.note (w : Wire) : RpcEvent → Wire
  | ⟨.post _ _, .ok posted⟩ => { w with written := w.written || posted.write.isOk }
  | ⟨.response _ _, .ok _⟩ => { w with answered := true }
  | ⟨.expired, .ok expired⟩ => { w with interrupted := w.interrupted && !expired }
  | ⟨_, .error e⟩ => { w with interrupted := e = .cancelled }
  | _ => w

/-- As long as a written request is unanswered, a cancellation is on its way exactly when the
wire was interrupted. -/
def Tracked {α : Type} (outcome : Except Exn α) (w : Wire) : Prop :=
  w.written → w.answered = false → (w.interrupted ↔ outcome = .error .cancelled)

variable {router : CapabilityRoutingExecutor} {context : ToolExecutionContext} {descriptor : ToolDescriptor}

section Client

variable {α : Type} {s : Unit} {w : Wire}

/-- A part of the client that neither writes nor reads: it raises what the wire notes. -/
def Aside (c : RpcM α) : Prop :=
  ∀ s w, Runs rpcWorld Wire.note c
    (fun outcome st => st.2 = match outcome with
      | .ok _ => w
      | .error e => { w with interrupted := e = .cancelled }) (s, w)

/-- The requests that leave the wire as it is when they succeed. -/
def RpcOp.aside : RpcOp → Bool
  | post _ _ | response _ _ | expired => false
  | _ => true

theorem Aside.perform {op : RpcOp} (h : op.aside) : Aside (rpc op) := by
  intro s w
  refine runs_inert (rpcWorld_inert op) fun a _ => ?_
  cases a with
  | error e => cases op <;> rfl
  | ok x => cases op <;> first | rfl | cases h

variable {c : RpcM α} {method toolId : String} {timeoutSeconds : Rat} {params protocolVersion : Value}
  {arguments : List (String × Value)} {outcome : Except Exn α} {β : Type} {e : Exn}

theorem Aside.bind {f : α → RpcM β} (hc : Aside c) (hf : ∀ a, Aside (f a)) : Aside (c >>= f) := by
  intro s w
  refine wp.after (hc s w) fun outcome st h => ?_
  obtain ⟨s', w'⟩ := st
  cases outcome with
  | error e => exact h
  | ok a =>
    obtain rfl : w' = w := h
    exact hf a s' w'

theorem aside_break : Aside JsonRpcProcessClient.break_ :=
  .bind (.perform rfl) fun _ => .perform rfl

theorem Aside.shield (hc : Aside c) : Aside c.shield := fun s w => runs_shield.mpr (hc s w)

/-- What is known of the end of a call: it is tracked, and it has a value only of an answer. -/
structure Reached (outcome : Except Exn α) (w : Wire) : Prop where
  tracked : Tracked outcome w
  answered : ∀ value, outcome = .ok value → w.answered

theorem reached_answered (h : w.answered) : Reached outcome w := by
  refine ⟨fun _ unanswered => ?_, fun _ _ => h⟩
  rw [h] at unanswered
  cases unanswered

theorem reached_unwritten (h : w.written = false) : Reached (.error e : Except Exn α) w := by
  refine ⟨fun written => ?_, nofun⟩
  rw [h] at written
  cases written

theorem reached_raised (e : Exn) : Reached (.error e : Except Exn α) { w with interrupted := e = .cancelled } :=
  ⟨fun _ _ => by simp, nofun⟩

/-- Another exception, but not a cancellation in the place of something else. -/
theorem Reached.rename {e' : Exn} (h : Reached (.error e : Except Exn α) w)
    (same : e = .cancelled ↔ e' = .cancelled) : Reached (.error e' : Except Exn β) w := by
  refine ⟨fun written unanswered => (h.tracked written unanswered).trans ?_, nofun⟩
  simpa using same

/-- The coroutine ends with what became of the request tracked. -/
abbrev Reaches (c : RpcM α) (s : Unit) (w : Wire) : Prop :=
  Runs rpcWorld Wire.note c (fun outcome st => Reached outcome st.2) (s, w)

theorem reached_bind {c : RpcM β} {f : β → RpcM α} (hc : Aside c) (hf : ∀ b s, Reaches (f b) s w) :
    Reaches (c >>= f) s w := by
  refine wp.after (hc s w) fun outcome st hst => ?_
  obtain ⟨s', w'⟩ := st
  cases outcome with
  | error e =>
    obtain rfl : w' = _ := hst
    exact reached_raised e
  | ok b =>
    obtain rfl : w' = w := hst
    exact hf b s'

theorem reached_after {c : RpcM Unit} (hc : Aside c) (h : Reached outcome w) :
    Reaches (c >>= fun _ => ofExcept outcome) s w :=
  reached_bind hc fun _ _ => wp.ofExcept h

open JsonRpcProcessClient

theorem awaitResponse_reached {id : String} : Reaches (awaitResponse method id timeoutSeconds) s w := by
  refine wp.bind (wp.attempt (runs_inert (rpcWorld_inert _) fun a _ => ?_))
  dsimp only [either]
  split
  · exact wp.pure (reached_answered rfl)
  · exact wp.raise (reached_answered rfl)
  · exact reached_after aside_break ((reached_raised (α := Value) _).rename (by simp))
  · exact reached_after (.shield aside_break) (reached_raised _)
  · exact wp.raise (reached_raised _)

theorem timeoutAt_reached (h : Reaches c s w) : Reaches (timeoutAt c) s w := by
  refine wp.tried h fun outcome st h => ?_
  split
  · refine wp.bind (runs_inert (rpcWorld_inert _) fun a answered => ?_)
    obtain ⟨expired, rfl⟩ := answered rfl
    refine wp.ite ⟨fun own => wp.raise ⟨fun _ _ => ?_, nofun⟩, fun outside => wp.raise ⟨?_, nofun⟩⟩
    · simp [Wire.note, own]
    · intro written unanswered
      simpa [Wire.note, outside] using h.tracked written unanswered
  · exact wp.ofExcept h

theorem reached_then {c : RpcM Value} {f : Value → RpcM Value} (h : Reaches c s w)
    (quiet : ∀ v, ∃ outcome, f v = .done outcome) :
    Reaches (c >>= f) s w := by
  refine wp.after h fun outcome st h => ?_
  cases outcome with
  | error e => exact h
  | ok v =>
    obtain ⟨outcome, hv⟩ := quiet v
    show wp _ _ (f v) _ st
    rw [hv]
    exact wp.done (reached_answered (h.answered v rfl))

section Unwritten

variable (unwritten : w.written = false) {extensionId : String} {run : ToolRun}

include unwritten

theorem guard_reached {p : Prop} [Decidable p] (rest : Reaches c s w) : Reaches (if p then raise e else c) s w :=
  wp.ite ⟨fun _ => wp.raise (reached_unwritten unwritten), fun _ => rest⟩

/-- What an exchange with the worker has done by its end. -/
theorem exchange_reached : Reaches (exchange method params timeoutSeconds) s w := by
  refine wp.bind (runs_inert (rpcWorld_inert _) fun a _ => ?_)
  cases a with
  | error e => exact reached_unwritten unwritten
  | ok posted =>
  refine wp.tried (Q := fun outcome st => ∀ e, outcome = .error e → Reached (.error e : Except Exn Value) st.2) ?_
    fun outcome st h => ?_
  · refine wp_ofExcept_bind (fun _ _ => runs_inert (rpcWorld_inert _) fun a _ => ?_) fun e raised => ?_
    · rintro e rfl
      exact reached_raised e
    · rintro _ ⟨⟩
      exact reached_unwritten (by simp [Wire.note, unwritten, raised, Except.isOk, Except.toBool])
  split
  · exact reached_bind (.perform rfl) fun _ _ => reached_after (.shield aside_break) (h _ rfl)
  · rename_i exc raised
    refine wp.ite ⟨fun closed => ?_, fun _ => wp.raise (h _ rfl)⟩
    refine reached_bind (.perform rfl) fun _ _ => reached_after aside_break ((h _ rfl).rename ?_)
    simpa using raised
  · refine wp.tried awaitResponse_reached fun outcome st h => ?_
    exact reached_after (.perform rfl) h

theorem locked_reached {deadline : Rat} : Reaches (locked deadline method params) s w := by
  refine reached_bind (.perform rfl) fun _ s => ?_
  refine wp.bind (wp.attempt (wp_mono (fun outcome st h => ?_) (Q := fun outcome st => Reached outcome st.2) ?_))
  · exact reached_after (.perform rfl) h
  refine reached_bind (.perform rfl) fun now s => ?_
  exact guard_reached unwritten (exchange_reached unwritten)

theorem call_reached : Reaches (call method params timeoutSeconds) s w := by
  refine guard_reached unwritten ?_
  refine reached_bind (.perform rfl) fun now s => ?_
  refine wp.tried (timeoutAt_reached (locked_reached unwritten)) fun outcome st h => ?_
  split
  · exact reached_after aside_break (h.rename (by simp))
  · exact reached_after (.shield aside_break) h
  · exact wp.ofExcept h

theorem invokeTool_reached {worker : ExtensionWorker} {context : List (String × Value)} :
    Reaches (worker.invokeTool protocolVersion toolId arguments context timeoutSeconds) s w := by
  refine guard_reached unwritten ?_
  refine reached_then ?_ fun v => by cases v <;> exact ⟨_, rfl⟩
  exact guard_reached unwritten (call_reached unwritten)

theorem runtimeInvokeTool_reached :
    Reaches (runtimeInvokeTool protocolVersion extensionId toolId arguments run) s w := by
  refine reached_bind (.perform rfl) fun found s => ?_
  cases found with
  | none => exact wp.raise (reached_unwritten unwritten)
  | some worker =>
    refine guard_reached unwritten ?_
    exact reached_bind (.perform rfl) fun _ _ => invokeTool_reached unwritten

/-- What a call of a tool through the supervisor has done by its end. -/
theorem supervisorInvokeTool_reached :
    Reaches (supervisorInvokeTool protocolVersion extensionId toolId arguments run) s w := by
  refine reached_bind (.perform rfl) fun record s => ?_
  cases record with
  | none => exact wp.raise (reached_unwritten unwritten)
  | some record =>
  refine guard_reached unwritten ?_
  refine reached_bind (.perform rfl) fun owner s => ?_
  refine guard_reached unwritten ?_
  refine wp.tried (runtimeInvokeTool_reached unwritten) fun outcome st h => ?_
  cases outcome with
  | ok result => exact wp.pure h
  | error exc =>
    refine reached_after ?_ h
    cases breaksStream exc
    · exact fun _ _ => wp.pure rfl
    · exact .perform rfl

/-- The router ends without an answer in a cancellation or a definitive failure. -/
structure Routed (outcome : Except Exn Value) (w : Wire) : Prop where
  tracked : Tracked outcome w
  renamed : w.answered = false → outcome = .error .cancelled ∨ ∃ e, outcome = .error e ∧ e.isDefinitive

theorem invokeExtension_routed : Runs rpcWorld Wire.note (router.invokeExtension descriptor arguments context)
      (fun outcome st => Routed outcome st.2) (s, w) := by
  refine wp.tried (supervisorInvokeTool_reached unwritten) fun outcome st h => ?_
  split
  · exact wp.raise ⟨h.tracked, fun _ => .inl rfl⟩
  · rename_i exc raised
    exact wp.raise ⟨(h.rename (β := Value) (by simpa using raised)).tracked, fun _ => .inr ⟨_, rfl, rfl⟩⟩
  · rename_i result
    have answered := h.answered result rfl
    have routed {outcome : Except Exn Value} : Routed outcome st.2 :=
      ⟨(reached_answered answered).tracked, fun unanswered => by rw [answered] at unanswered; cases unanswered⟩
    split
    · split <;> exact wp.pure routed
    · exact wp.raise routed
    · exact wp.raise routed
    · exact wp.raise routed

end Unwritten

end Client

/-- The router hands the tool to its extension worker. -/
def ForWorker (descriptor : ToolDescriptor) : Prop :=
  "mail.send" ∉ descriptor.requiredCapabilities ∧
    descriptor.requiredCapabilities.any (· ∈ CapabilityRoutingExecutor.browserActionCapabilities) = false

theorem execute_routed {arguments : List (String × Value)} {s : Unit} (extension : ForWorker descriptor) :
    Runs rpcWorld Wire.note (router.execute descriptor arguments context) (fun outcome st => Routed outcome st.2)
      (s, {}) := by
  unfold CapabilityRoutingExecutor.execute
  rw [if_neg extension.1, if_neg (by simp [extension.2])]
  exact invokeExtension_routed rfl

/-- What `asyncio.wait_for` of the gateway makes of the end of the executor: its own deadline
cancels the executor, and a cancellation it caused leaves as `TimeoutError`. -/
def WaitedFor (outcome answer : Except Exn Value) : Prop :=
  answer = outcome ∨ outcome = .error .cancelled ∧ ∃ message, answer = .error (.timeout "TimeoutError" message)

/-- The loss of an answer is recorded as such: the executor calls a failure definitive only of
a request that was not written or was answered, and an unanswered one ends the approval and
the intent as UNKNOWN. -/
structure LossRecorded (call : ToolCall) (tr : List GatewayEvent) (s' : Store) (outcome : Except Exn Value)
    (w : Wire) : Prop where
  definitive : ∀ e, outcome = .error e → e.isDefinitive → w.written → w.answered
  unknown : w.written → w.answered = false → ∃ id intent, call.approvalId = some id ∧
    tr.filterMap recordedIntent = intent.toList ∧ Ended s' id intent .unknown

/-- **Lost answers.** For every call of an external tool that the router hands to its worker,
every behaviour of the worker, its stream and the clock, the loss of the answer is recorded
exactly when a written request is answered or the call is cancelled from outside. -/
theorem lost_answer_recorded_iff (g : ToolGateway) (router : CapabilityRoutingExecutor) (call : ToolCall)
    {s s' : Store} {tr : List GatewayEvent} {r : Except Exn ToolOutcome} {descriptor : ToolDescriptor}
    {arguments : List (String × Value)} {context : ToolExecutionContext} {answer outcome : Except Exn Value}
    {wire : List RpcEvent} (run : Exec (gatewayWorld g.host).reliable (g.invoke call) s tr r s')
    (consumed : tr.any consumes) (executed : ⟨.execute descriptor arguments context, answer⟩ ∈ tr)
    (extension : ForWorker descriptor)
    (worker : Exec rpcWorld.reliable (router.execute descriptor arguments context) () wire outcome ())
    (waited : WaitedFor outcome answer) :
    LossRecorded call tr s' outcome (wire.foldl Wire.note {}) ↔
      ((wire.foldl Wire.note {}).written →
        (wire.foldl Wire.note {}).answered ∨ (wire.foldl Wire.note {}).interrupted) := by
  have routed := Exec.post (Steps.ghost (f := Wire.note) worker {}) (execute_routed extension)
  generalize wire.foldl Wire.note {} = w at routed ⊢
  constructor
  · rintro ⟨definitive, -⟩ written
    cases unanswered : w.answered with
    | true => exact .inl rfl
    | false =>
      refine .inr ?_
      rcases routed.renamed unanswered with cancelled | ⟨e, raised, he⟩
      · exact (routed.tracked written unanswered).mpr cancelled
      · rw [definitive e raised he written] at unanswered
        cases unanswered
  · intro recorded
    have cancelled (written : w.written) (unanswered : w.answered = false) : outcome = .error .cancelled :=
      (routed.tracked written unanswered).mp ((recorded written).resolve_left (by simp [unanswered]))
    refine ⟨fun e raised he written => ?_, fun written unanswered => ?_⟩
    · cases unanswered : w.answered with
      | true => rfl
      | false =>
        rw [cancelled written unanswered] at raised
        cases raised
        cases he
    · obtain ⟨id, intent, callEnd⟩ := invoke_callEnd run consumed
      have raised : ∃ e, answer = .error e ∧ e.recordedAs = .unknown := by
        rcases waited with rfl | ⟨-, message, rfl⟩
        · exact ⟨_, cancelled written unanswered, rfl⟩
        · exact ⟨_, rfl, rfl⟩
      obtain ⟨e, rfl, unknown⟩ := raised
      refine ⟨id, intent, callEnd.own, callEnd.intents, ?_⟩
      rw [← unknown]
      exact callEnd.raised e (List.mem_filterMap.mpr ⟨_, executed, rfl⟩)

/-- A router of a host without executors of its own. -/
def sampleRouter : CapabilityRoutingExecutor where
  protocolVersion := .str "1.0"
  pyStr _ := ""
  mailSend := false
  browserActions := false

/-- Answers of the extension host: the wait for the response ends as given, everything else is
fine. -/
def sampleWorkerAnswers (response : Except Exn RpcReply) : (op : RpcOp) → Except Exn op.Ans
  | .delegate _ _ _ _ => .ok .none
  | .getExtension _ => .ok (some ⟨.enabled, "1"⟩)
  | .ownerOf _ => .ok (some ⟨"mail", "1"⟩)
  | .worker _ => .ok (some ⟨"mail", "1", ["mail.send"], true, true⟩)
  | .deadlineText _ => .ok "deadline"
  | .loopTime | .wallTime => .ok (0 : Rat)
  | .expired => .ok false
  | .post _ _ => .ok ⟨"call", .ok ()⟩
  | .response _ _ => response
  | .quarantine _ _ | .acquire | .release | .flush _ | .forget _ | .breakStream | .terminate => .ok ()

/-- The sample tool at its worker. -/
def sampleWorkerCall (response : Except Exn RpcReply) : List RpcEvent × Except Exn Value × Unit :=
  play (rpcWorld.answerWith () (sampleWorkerAnswers response))
    (sampleRouter.execute (sampleTool .externalWrite) [("to", .str "recipient")] ⟨"a", "task", "a", some "a"⟩) ()

theorem sampleWorkerCall_exec (response : Except Exn RpcReply) : Exec rpcWorld.reliable
      (sampleRouter.execute (sampleTool .externalWrite) [("to", .str "recipient")] ⟨"a", "task", "a", some "a"⟩) ()
      (sampleWorkerCall response).1 (sampleWorkerCall response).2.1 () :=
  play_exec (fun sh s op => World.answerWith_reliable (fun _ _ _ => rfl)
    (fun op h => by cases op <;> first | exact ⟨_, rfl⟩ | cases h) sh s op) _ _

/-- The deadline of the gateway strikes while the worker is silent. -/
theorem lost_answer_recorded_timedOut :
    ((sampleWorkerCall (.error .cancelled)).1.foldl Wire.note {} = ⟨true, false, true⟩) ∧
    (LossRecorded (sampleCall (some "a")) timedOutInvocation.1 timedOutInvocation.2.2
        (sampleWorkerCall (.error .cancelled)).2.1 ((sampleWorkerCall (.error .cancelled)).1.foldl Wire.note {}) ↔
      (((sampleWorkerCall (.error .cancelled)).1.foldl Wire.note {}).written →
        ((sampleWorkerCall (.error .cancelled)).1.foldl Wire.note {}).answered ∨
        ((sampleWorkerCall (.error .cancelled)).1.foldl Wire.note {}).interrupted)) :=
  ⟨by decide +kernel, lost_answer_recorded_iff (sampleGateway .postgres) sampleRouter (sampleCall (some "a"))
    (sampleInvocation_exec _ _) (by decide +kernel)
    (List.mem_of_getElem? (i := 9) rfl) ⟨by decide, by decide⟩ (sampleWorkerCall_exec _)
    (.inr ⟨eq_error_of_raised (by decide +kernel), _, rfl⟩)⟩

/-- The worker exits after the request was written to it. -/
def exitedWorkerCall : List RpcEvent × Except Exn Value × Unit :=
  sampleWorkerCall (.error (rpcCallError (-32091) "extension worker exited unexpectedly (1)"))

/-- What the router raises then. -/
def exitedFailure : Exn :=
  .definitiveToolFailure "the extension worker is unavailable or failed to execute" false

/-- The gateway records FAILED, although the request was written and not answered. -/
theorem exited_worker_recorded_failed : Exec rpcWorld.reliable
      (sampleRouter.execute (sampleTool .externalWrite) [("to", .str "recipient")] ⟨"a", "task", "a", some "a"⟩) ()
      exitedWorkerCall.1 (.error exitedFailure) () ∧
    Exec (gatewayWorld sampleHost).reliable ((sampleGateway .postgres).invoke (sampleCall (some "a")))
      (Store.empty.putApproval sampleApproval) (sampleInvocation (.error exitedFailure) fun _ => .ok ()).1
      (sampleInvocation (.error exitedFailure) fun _ => .ok ()).2.1
      (sampleInvocation (.error exitedFailure) fun _ => .ok ()).2.2 ∧
    exitedWorkerCall.1.foldl Wire.note {} = ⟨true, false, false⟩ ∧
    ((sampleInvocation (.error exitedFailure) fun _ => .ok ()).2.2.approvals "a").map (·.state) = some .failed ∧
    ¬ LossRecorded (sampleCall (some "a")) (sampleInvocation (.error exitedFailure) fun _ => .ok ()).1
      (sampleInvocation (.error exitedFailure) fun _ => .ok ()).2.2 (.error exitedFailure)
      (exitedWorkerCall.1.foldl Wire.note {}) := by
  have raised : exitedWorkerCall.2.1 = .error exitedFailure := eq_error_of_raised (by decide +kernel)
  have wire : exitedWorkerCall.1.foldl Wire.note {} = ⟨true, false, false⟩ := by decide +kernel
  refine ⟨raised ▸ sampleWorkerCall_exec _, sampleInvocation_exec _ _, wire, by decide +kernel, fun recorded => ?_⟩
  rw [wire] at recorded
  cases recorded.definitive exitedFailure rfl rfl rfl

end PersonalAssistant
