import PersonalAssistant.Browser.Driver

/-!
# The phases of a call of the driver

What a client of the driver may do at each moment, as a monitor: it holds the allowance of a
click only between the first block of `click` and its `finally`, and it arms the login
allowance only after it has seen the lock open. Each call follows it, whatever the page
answers and wherever it raises.
-/

namespace PersonalAssistant

open Coro Coro.Prog

namespace PlaywrightHeadedDriver

/-! ## The phases of a call -/

/-- Where a coroutine stands: `_route` of a request, or a client between two armings. In
`unblocked` it saw the lock open and may arm the login allowance, in `clicking` it holds the
allowance of a click. -/
inductive Phase where
  | routing
  | free
  | unblocked
  | clicking
  deriving DecidableEq

/-- A client outside the part of a click that holds the allowance. -/
def Phase.isFree : Phase → Bool
  | .free | .unblocked => true
  | .routing | .clicking => false

end PlaywrightHeadedDriver

/-- A request that changes nothing `_route` reads. -/
def DriverOp.isQuiet : DriverOp → Bool
  | ask _ | counters => true
  | _ => false

/-- A request that arms an allowance, or is made by `_route`. -/
def DriverOp.opens : DriverOp → Bool
  | arm _ | armLogin _ | route _ => true
  | _ => false

namespace PlaywrightHeadedDriver

/-- The requests each phase allows. -/
def Phase.permits : Phase → DriverOp → Bool
  | .routing, .route _ => true
  | .routing, _ => false
  | .clicking, .disarm => true
  | .clicking, op => op.isQuiet
  | _, .route _ => false
  | .free, .armLogin _ => false
  | _, _ => true

/-- The phase after an event. -/
def Phase.after : Phase → DriverEvent → Phase
  | .routing, _ => .routing
  | .clicking, ⟨.disarm, _⟩ => .free
  | .clicking, _ => .clicking
  | _, ⟨.arm _, .ok _⟩ => .clicking
  | _, ⟨.observeLogin _ _, .ok true⟩ => .unblocked
  | _, ⟨.observeLogin _ _, _⟩ => .free
  | _, ⟨.lock, _⟩ => .free
  | phase, _ => phase

/-- The monitor of the phases. -/
def gateMonitor : Monitor DriverPort Exn Phase where
  rely _ _ := True
  ok phase e := phase.permits e.op
  next := Phase.after

/-- The role makes calls. -/
def Role.isClient : Role → Bool
  | .client _ => true
  | .request _ => false

/-- The phase a role starts in. -/
def Role.phase : Role → Phase
  | .client _ => .free
  | .request _ => .routing

section Follows

variable {α : Type} {phase : Phase}

/-- A coroutine that only asks the page. -/
abbrev Quiet (c : DriverM α) : Prop := c.Avoids fun op => ¬ DriverOp.isQuiet op

/-- A coroutine that arms nothing. -/
abbrev Shut (c : DriverM α) : Prop := c.Avoids fun op => DriverOp.opens op

variable {op : DriverOp} {c : DriverM α}

theorem after_quiet (quiet : op.isQuiet) (a : Except Exn op.Ans) : phase.after ⟨op, a⟩ = phase := by
  cases op with
  | ask query => cases phase <;> rfl
  | counters => cases phase <;> rfl
  | _ => cases quiet

theorem permits_quiet (quiet : op.isQuiet) (client : phase ≠ .routing) : phase.permits op := by
  cases op with
  | ask query => cases phase <;> first | rfl | exact absurd rfl client
  | counters => cases phase <;> first | rfl | exact absurd rfl client
  | _ => cases quiet

theorem follows_quiet (quiet : Quiet c) (client : phase ≠ .routing) :
    gateMonitor.Follows c (fun _ p => p = phase) phase := by
  induction c with
  | done r => exact wp.done rfl
  | await sh op k ih =>
    obtain ⟨here, rest⟩ := avoids_await.mp quiet
    rw [not_not] at here
    refine Monitor.follows_await.mpr fun a _ => ⟨permits_quiet here client, ?_⟩
    show gateMonitor.Follows (k a) _ (phase.after ⟨op, a⟩)
    rw [after_quiet here]
    exact ih a (rest a)

theorem free_cases (free : phase.isFree) : phase = .free ∨ phase = .unblocked := by
  cases phase with
  | routing => cases free
  | clicking => cases free
  | free => exact .inl rfl
  | unblocked => exact .inr rfl

theorem free_after (shut : ¬ op.opens) (free : phase.isFree) (a : Except Exn op.Ans) :
    (phase.after ⟨op, a⟩).isFree := by
  obtain rfl | rfl := free_cases free <;>
    cases op with
    | arm | armLogin | route => exact absurd rfl shut
    | observeLogin detected elsewhere => rcases a with e | _ | _ <;> rfl
    | _ => rfl

theorem free_permits (shut : ¬ op.opens) (free : phase.isFree) : phase.permits op := by
  obtain rfl | rfl := free_cases free <;>
    cases op with
    | arm | armLogin | route => exact absurd rfl shut
    | _ => rfl

theorem follows_free (shut : Shut c) (free : phase.isFree) :
    gateMonitor.Follows c (fun _ p => p.isFree) phase := by
  induction c generalizing phase with
  | done r => exact wp.done free
  | await sh op k ih =>
    obtain ⟨here, rest⟩ := avoids_await.mp shut
    exact Monitor.follows_await.mpr fun a _ => ⟨free_permits here free, ih a (rest a) (free_after here free a)⟩

/-! ### The calls only ask the page, or record what it answers -/

theorem quiet_ask (query : PageQuery) : Quiet (ask query) := .perform (by simp [DriverOp.isQuiet])

theorem Quiet.shut (quiet : Quiet c) : Shut c := by
  induction c with
  | done r => exact .done r
  | await sh op k ih =>
    obtain ⟨here, rest⟩ := avoids_await.mp quiet
    refine avoids_await.mpr ⟨?_, fun a => ih a (rest a)⟩
    cases op <;> first | exact Bool.false_ne_true | exact absurd Bool.false_ne_true here

theorem quiet_suppress (quiet : Quiet c) : Quiet (suppress c) := by
  refine .bind (.attempt quiet) fun outcome => ?_
  split <;> exact .done _

theorem quiet_withinDeadline (quiet : Quiet c) : Quiet (withinDeadline c) := by
  refine .bind (.attempt quiet) fun outcome => ?_
  split
  · exact .bind (quiet_ask _) fun _ => .done _
  · exact .done _

theorem quiet_attributeText (handle : Handle) (name : String) : Quiet (attributeText handle name) :=
  .bind (quiet_ask _) fun _ => .done _

theorem shut_ask (query : PageQuery) : Shut (ask query) := (quiet_ask query).shut

theorem shut_record (entry : Recording) : Shut (block (.record entry)) := .perform Bool.false_ne_true

theorem quiet_receipt (driver : PlaywrightHeadedDriver) (locator : String) : Quiet (driver.receipt locator) := by
  refine .ite (.done _) (.bind (quiet_suppress ?_) fun _ => .done _)
  refine .bind (.done _) fun handle => ?_
  split
  · exact .done _
  · refine quiet_withinDeadline (.bind (quiet_ask _) fun count => ?_)
    exact .ite (.done _) (.bind (quiet_ask _) fun _ => .done _)

theorem quiet_press (index : Nat) : Quiet (press index) := by
  refine .bind (.attempt (quiet_withinDeadline (.bind (quiet_ask _) fun _ => ?_))) fun outcome => ?_
  · exact .bind (quiet_suppress (quiet_ask _)) fun _ => .done _
  · split <;> exact .done _

theorem quiet_clickArmed (driver : PlaywrightHeadedDriver) (target : ClickTarget) (index writesBefore : Nat) :
    Quiet (driver.clickArmed target index writesBefore) := by
  refine .bind (quiet_receipt driver _) fun pre => ?_
  refine .bind (quiet_press index) fun _ => ?_
  refine .bind (quiet_ask _) fun url => ?_
  refine .bind (quiet_receipt driver _) fun post => ?_
  exact .bind (.perform (by simp [DriverOp.isQuiet])) fun _ => .done _

theorem shut_fillFields (fields : List (String × String)) : Shut (fillFields fields) := by
  induction fields with
  | nil => exact .done _
  | cons field fields ih =>
    refine .bind (.perform Bool.false_ne_true) fun found => ?_
    split
    · exact .done _
    · refine .ite (.done _) (.ite (.done _) (.ite (.done _) ?_))
      exact .bind (shut_ask _) fun _ => ih

theorem shut_withinDeadline (shut : Shut c) : Shut (withinDeadline c) := by
  refine .bind (.attempt shut) fun outcome => ?_
  split
  · exact .bind (shut_ask _) fun _ => .done _
  · exact .done _

theorem shut_fill (fields : List (String × String)) : Shut (fill fields) := by
  refine .bind (shut_ask _) fun _ => .bind (.perform Bool.false_ne_true) fun _ => ?_
  refine .bind (.attempt (shut_withinDeadline ?_)) fun outcome => ?_
  · exact .bind (shut_fillFields fields) fun _ => shut_ask _
  · split
    · exact .done _
    · exact .done _
    · exact .bind (.perform Bool.false_ne_true) fun _ => .done _

theorem shut_readHidden (indices : List Nat) : Shut (readHidden indices) := by
  induction indices with
  | nil => exact .done _
  | cons index rest ih =>
    refine .bind (quiet_attributeText _ _).shut fun name => .ite ih ?_
    refine .bind (shut_ask _) fun disabled => .bind (shut_ask _) fun _ => ?_
    refine .bind (quiet_attributeText _ _).shut fun value => .ite ih ?_
    exact .bind (shut_record _) fun _ => ih

theorem quiet_readValue (handle : Handle) (tag type : String) : Quiet (readValue handle tag type) := by
  refine .ite (.done _) (.bind (quiet_suppress ?_) fun _ => .done _)
  refine .ite (.bind (quiet_ask _) fun _ => .done _) (.ite (.done _) ?_)
  exact .bind (quiet_ask _) fun _ => .done _

variable (driver : PlaywrightHeadedDriver) (loginPaths : List String)

theorem shut_readGroup (group : Nat) (tag selector : String) (indices : List Nat) (controls : List ControlMeta) :
    Shut (driver.readGroup group tag selector indices controls) := by
  induction indices generalizing controls with
  | nil => exact .done _
  | cons index rest ih =>
    refine .bind (quiet_attributeText _ _).shut fun type => ?_
    refine .bind (quiet_attributeText _ _).shut fun name => ?_
    refine .bind (shut_ask _) fun disabled => .bind (shut_ask _) fun _ => ?_
    refine .bind (quiet_readValue _ _ _).shut fun current => .bind (shut_record _) fun _ => ?_
    exact .bind (shut_ask _) fun value => .bind (shut_record _) fun _ => ih _

theorem shut_readGroups (groups : List (Nat × String × String)) (controls : List ControlMeta) :
    Shut (driver.readGroups groups controls) := by
  induction groups generalizing controls with
  | nil => exact .done _
  | cons group rest ih =>
    refine .bind (shut_ask _) fun count => .ite (.done _) ?_
    exact .bind (shut_readGroup driver _ _ _ _ _) fun controls => ih controls

theorem shut_readButtons (indices : List Nat) : Shut (driver.readButtons indices) := by
  induction indices with
  | nil => exact .done _
  | cons index rest ih =>
    refine .bind (shut_ask _) fun _ => .bind (quiet_attributeText _ _).shut fun type => ?_
    refine .bind (shut_record _) fun _ => .bind (quiet_attributeText _ _).shut fun name => ?_
    refine .bind (shut_ask _) fun disabled => .ite ?_ (.bind (shut_record _) fun _ => ih)
    exact .bind (quiet_attributeText _ _).shut fun value => .bind (shut_record _) fun _ => ih

theorem quiet_detectLogin : Quiet (driver.detectLogin loginPaths) := by
  refine .bind (quiet_ask _) fun url => .bind (.done _) fun declared => ?_
  exact .ite (.done _) (.bind (quiet_suppress (quiet_ask _)) fun _ => .done _)

theorem shut_readPage : Shut (driver.readPage loginPaths) := by
  have controls : Shut driver.readControls := by
    refine .bind (shut_record _) fun _ => .bind (shut_ask _) fun count => ?_
    refine .bind (shut_readHidden _) fun _ => .bind (shut_readGroups driver _ _) fun controls => ?_
    exact .bind (shut_record _) fun _ => .done _
  have actions : Shut driver.readActions := by
    refine .bind (shut_ask _) fun count => .ite (.done _) ?_
    exact .bind (shut_record _) fun _ => shut_readButtons driver _
  refine .bind controls fun _ => .bind actions fun _ => .bind (shut_ask _) fun title => ?_
  exact .bind (shut_ask _) fun url => .bind (quiet_detectLogin driver _).shut fun _ => .done _

theorem quiet_loginFormTarget : Quiet driver.loginFormTarget := by
  have within (indices : List Nat) : Quiet (driver.loginTargetIn indices) := by
    induction indices with
    | nil => exact .done _
    | cons index rest ih =>
      refine .bind (quiet_ask _) fun passwords => .ite ih ?_
      refine .bind (quiet_attributeText _ _) fun method => .ite (.done _) ?_
      refine .bind (quiet_attributeText _ _) fun action => .bind (quiet_ask _) fun base => .done _
  exact .bind (quiet_suppress (.bind (quiet_ask _) fun count => within _)) fun _ => .done _

/-! ### The calls follow the monitor -/

/-- `_observe_login` arms the login allowance only while it knows the lock to be open. -/
theorem follows_observeLogin (detected : Bool) (free : phase.isFree) :
    gateMonitor.Follows (driver.observeLogin loginPaths detected) (fun _ p => p.isFree) phase := by
  refine wp_bind_keep (follows_free (shut_ask _) free) fun url phase free => ?_
  refine wp_bind_keep (follows_free (.done _) free) fun declared phase free => ?_
  refine wp.bind (Monitor.follows_perform.mpr fun look _ => ⟨free_permits Bool.false_ne_true free, ?_⟩)
  have shut : ¬ (DriverOp.observeLogin detected !declared).opens := Bool.false_ne_true
  have after := free_after shut free look
  rcases look with e | _ | _
  · exact after
  · exact wp.pure after
  · have unblocked : gateMonitor.next phase ⟨.observeLogin detected !declared, .ok true⟩ = .unblocked := by
      obtain rfl | rfl := free_cases free <;> rfl
    rw [unblocked]
    refine wp.after (follows_quiet (quiet_loginFormTarget driver) nofun) fun r p at_ => ?_
    subst at_
    cases r with
    | error e => rfl
    | ok target =>
      refine wp.bind (Monitor.follows_perform.mpr fun armed _ => ⟨rfl, ?_⟩)
      cases armed with
      | error e => rfl
      | ok _ => exact wp.pure rfl

theorem follows_snapshot (scanText : Bool) (loginPaths : List String) (free : phase.isFree) :
    gateMonitor.Follows (driver.snapshot scanText loginPaths) (fun _ p => p.isFree) phase := by
  refine wp_bind_keep (follows_free (shut_ask _) free) fun _ phase free => ?_
  have text : Shut (scannedText scanText) := .ite
    (quiet_suppress (quiet_withinDeadline (quiet_ask _))).shut (.done _)
  refine wp_bind_keep (follows_free text free) fun _ phase free => ?_
  refine wp_bind_keep (follows_free (.perform Bool.false_ne_true) free) fun paths phase free => ?_
  refine wp_bind_keep (follows_free (shut_readPage driver paths) free) fun read phase free => ?_
  refine wp_bind_keep (follows_free (.perform Bool.false_ne_true) free) fun paths phase free => ?_
  exact wp_bind_keep (follows_observeLogin driver paths _ free) fun _ phase free => wp.pure free

/-- A click holds its allowance only until it returns, however it ends. -/
theorem follows_click (target : ClickTarget) (free : phase.isFree) :
    gateMonitor.Follows (driver.click target) (fun _ p => p.isFree) phase := by
  refine wp_bind_keep (follows_free (shut_ask _) free) fun _ phase free => ?_
  have permitted : phase.permits (.arm target) := by
    obtain rfl | rfl := free_cases free <;> rfl
  refine wp.bind (Monitor.follows_perform.mpr fun armed _ => ⟨permitted, ?_⟩)
  cases armed with
  | error e => obtain rfl | rfl := free_cases free <;> rfl
  | ok armed =>
    have clicking : gateMonitor.next phase ⟨.arm target, .ok armed⟩ = .clicking := by
      obtain rfl | rfl := free_cases free <;> rfl
    rw [clicking]
    have body := quiet_clickArmed driver target armed.1 armed.2
    refine wp.tried (follows_quiet body nofun) fun outcome p at_ => ?_
    subst at_
    refine wp.bind (Monitor.follows_perform.mpr fun disarmed _ => ⟨rfl, ?_⟩)
    cases disarmed with
    | error e => rfl
    | ok _ => exact wp.ofExcept rfl

theorem follows_client (calls : List Call) (free : phase.isFree) :
    gateMonitor.Follows (driver.client calls) (fun _ p => p.isFree) phase := by
  induction calls generalizing phase with
  | nil => exact wp.pure free
  | cons first rest ih =>
    have one : gateMonitor.Follows (driver.call first) (fun _ p => p.isFree) phase := by
      cases first with
      | fill fields => exact follows_free (.bind (shut_fill fields) fun _ => .done _) free
      | click target =>
        exact wp_bind_keep (follows_click driver target free) fun _ phase free => wp.pure free
      | snapshot scanText loginPaths =>
        exact wp_bind_keep (follows_snapshot driver scanText loginPaths free) fun _ phase free => wp.pure free
    exact wp_bind_keep (wp.attempt one) fun _ phase free => ih free

theorem follows_start (role : Role) : gateMonitor.Follows (driver.start role) (fun _ _ => True) role.phase := by
  cases role with
  | client calls => exact wp_mono (fun _ _ _ => trivial) (follows_client driver calls rfl)
  | request request =>
    refine wp.bind (Monitor.follows_perform.mpr fun answer _ => ⟨rfl, ?_⟩)
    cases answer with
    | error e => trivial
    | ok _ => exact wp.pure trivial

end Follows

end PlaywrightHeadedDriver

end PersonalAssistant
