import PersonalAssistant.Domain.Exceptions

/-!
# Which host requests reach a capability

`ProcessRuntimeSupervisor._host_handler` makes the handler of a worker's host requests from what
the manifest declares. Methods are routed in groups. Either artifact capability opens the group of
all three artifact methods, and neither artifact access asks which of them was declared.
-/

namespace PersonalAssistant.HostRoutes

/-- `manifest.capabilities`. -/
structure ManifestCapabilities where
  required : List String
  optional : List String

/-- The artifact accesses: `FileExtensionArtifactAccess` and `InMemoryExtensionArtifactAccess`. -/
inductive ArtifactAccess where
  | file
  | memory
  deriving DecidableEq

/-- Which capability objects the supervisor has and finds available. -/
structure HostCapabilities where
  data : Bool
  mail : Bool
  artifacts : Option ArtifactAccess
  browser : Bool

/-- `HOST_DATA_METHODS`. -/
def hostDataMethods : List String := ["host.data.execute", "host.data.transaction", "host.data.migrate"]

/-- `HOST_MAIL_METHODS`. -/
def hostMailMethods : List String :=
  ["host.mail.account", "host.mail.delivery_status", "host.mail.probe", "host.mail.folders", "host.mail.fetch",
    "host.mail.reconcile_sent"]

/-- `HOST_ARTIFACT_METHODS`. -/
def hostArtifactMethods : List String := ["host.artifact.put", "host.artifact.read", "host.artifact.delete"]

/-- `HOST_BROWSER_METHODS`. -/
def hostBrowserMethods : List String :=
  ["host.browser.session", "host.browser.status", "host.browser.register_adapter", "host.browser.adapters",
    "host.browser.snapshot", "host.browser.find_text", "host.browser.navigate", "host.browser.classify_labels",
    "host.browser.record_discovery", "host.browser.record_preparation", "host.browser.reconcile", "host.browser.close",
    "host.browser.cancel"]

/-- The capability object behind a route. -/
inductive Route where
  | data
  | mail
  | artifacts
  | browser
  deriving DecidableEq

/-- The capability is among the declared ones, required or optional. -/
def ManifestCapabilities.declares (manifest : ManifestCapabilities) (capability : String) : Bool :=
  manifest.required.contains capability || manifest.optional.contains capability

/-- The `routes` of `_host_handler`, in order. -/
def routes (host : HostCapabilities) (manifest : ManifestCapabilities) : List (List String × Route) :=
  (if host.data && manifest.declares "extension.data.sql" then [(hostDataMethods, .data)] else []) ++
  (if host.mail && manifest.declares "mail.read" then [(hostMailMethods, .mail)] else []) ++
  (if host.artifacts.isSome && (manifest.declares "artifact.read" || manifest.declares "artifact.write") then
    [(hostArtifactMethods, .artifacts)] else []) ++
  (if host.browser && manifest.declares "browser.read" then [(hostBrowserMethods, .browser)] else [])

/-- `handler`: the first route that lists the method. -/
def handler (routes : List (List String × Route)) (method : String) : Except Exn Route :=
  match routes.find? (·.1.contains method) with
  | some route => .ok route.2
  | none => .error (.runtime (.extensionOperation "DATA_PROTOCOL_ERROR") s!"host capability is not available: {method}")

/-- `_host_handler`: a worker without a route gets no handler. -/
def hostHandler (host : HostCapabilities) (manifest : ManifestCapabilities) : Option (String → Except Exn Route) :=
  if (routes host manifest).isEmpty then none else some (handler (routes host manifest))

/-- `handle` of an artifact access: whether the operation runs. The file access returns the coroutine
of a delete as it is, and nothing after it awaits it; the one in memory deletes at once. -/
def runsArtifact (access : ArtifactAccess) (method : String) : Except Exn Bool :=
  if method ∉ hostArtifactMethods then
    .error (.runtime (.extensionOperation "ARTIFACT_PROTOCOL_ERROR") s!"unknown artifact method: {method}")
  else if method = "host.artifact.put" then .ok true
  else if method = "host.artifact.read" then .ok true
  else .ok (access = .memory)

/-- The request runs an operation of a capability object. -/
def HasEffect (host : HostCapabilities) (manifest : ManifestCapabilities) (method : String) : Prop :=
  ∃ handle, hostHandler host manifest = some handle ∧
    ∃ route, handle method = .ok route ∧
      (route = .artifacts → ∃ access, host.artifacts = some access ∧ runsArtifact access method = .ok true)

/-- The capability for a method. -/
def capabilityFor (method : String) : Option String :=
  if method ∈ hostDataMethods then some "extension.data.sql"
  else if method ∈ hostMailMethods then some "mail.read"
  else if method ∈ hostBrowserMethods then some "browser.read"
  else if method = "host.artifact.read" then some "artifact.read"
  else if method ∈ hostArtifactMethods then some "artifact.write"
  else none

variable {host : HostCapabilities} {manifest : ManifestCapabilities} {method : String} {route : Route}

/-- The capability object is there, and a capability that opens its route is declared. -/
def Open (host : HostCapabilities) (manifest : ManifestCapabilities) : Route → Prop
  | .data => host.data ∧ manifest.declares "extension.data.sql"
  | .mail => host.mail ∧ manifest.declares "mail.read"
  | .artifacts => host.artifacts.isSome ∧ (manifest.declares "artifact.read" ∨ manifest.declares "artifact.write")
  | .browser => host.browser ∧ manifest.declares "browser.read"

/-- The methods of a route. -/
def Route.methods : Route → List String
  | .data => hostDataMethods
  | .mail => hostMailMethods
  | .artifacts => hostArtifactMethods
  | .browser => hostBrowserMethods

theorem mem_opened {c : Bool} {entry opened : List String × Route} :
    entry ∈ (if c then [opened] else []) ↔ c ∧ entry = opened := by
  cases c <;> simp

theorem mem_routes {methods : List String} :
    (methods, route) ∈ routes host manifest ↔ Open host manifest route ∧ methods = route.methods := by
  simp only [routes, List.mem_append, mem_opened]
  cases route <;> simp [Open, Route.methods]

theorem handled {handle : String → Except Exn Route} (made : hostHandler host manifest = some handle)
    (found : handle method = .ok route) : Open host manifest route ∧ method ∈ route.methods := by
  unfold hostHandler at made
  split at made <;> cases made
  unfold handler at found
  cases first : (routes host manifest).find? (·.1.contains method) with
  | none =>
    rw [first] at found
    cases found
  | some entry =>
    obtain ⟨methods, other⟩ := entry
    simp only [first, Except.ok.injEq] at found
    subst found
    obtain ⟨opened, rfl⟩ := mem_routes.mp (List.mem_of_find?_eq_some first)
    exact ⟨opened, by simpa using List.find?_some first⟩

theorem exists_handled (opened : Open host manifest route) (mem : method ∈ route.methods) :
    ∃ handle, hostHandler host manifest = some handle ∧ ∃ route', handle method = .ok route' := by
  have listed : (route.methods, route) ∈ routes host manifest := mem_routes.mpr ⟨opened, rfl⟩
  have some_ : (routes host manifest).isEmpty = false := by
    rw [List.isEmpty_eq_false_iff]
    exact List.ne_nil_of_mem listed
  refine ⟨handler (routes host manifest), by simp [hostHandler, some_], ?_⟩
  unfold handler
  cases first : (routes host manifest).find? (·.1.contains method) with
  | some entry => exact ⟨entry.2, rfl⟩
  | none =>
    have misses := List.find?_eq_none.mp first _ listed
    simp [mem] at misses

theorem runsArtifact_iff {access : ArtifactAccess} (mem : method ∈ hostArtifactMethods) :
    runsArtifact access method = .ok true ↔ (method = "host.artifact.delete" → access = .memory) := by
  obtain rfl | rfl | rfl : method = "host.artifact.put" ∨ method = "host.artifact.read" ∨
    method = "host.artifact.delete" := by
    simpa [hostArtifactMethods] using mem
  all_goals simp [runsArtifact, hostArtifactMethods]

/-- A request has an effect where its route is open, unless it is a delete for the file access. -/
theorem hasEffect_iff : HasEffect host manifest method ↔ ∃ route, Open host manifest route ∧ method ∈ route.methods ∧
    (method = "host.artifact.delete" → host.artifacts = some .memory) := by
  constructor
  · rintro ⟨handle, made, route, found, runs⟩
    obtain ⟨opened, mem⟩ := handled made found
    refine ⟨route, opened, mem, ?_⟩
    cases route with
    | artifacts =>
      obtain ⟨access, here, runs⟩ := runs rfl
      exact fun delete => (runsArtifact_iff mem).mp runs delete ▸ here
    | _ =>
      rintro rfl
      exact absurd mem (by decide)
  · rintro ⟨route, opened, mem, kept⟩
    obtain ⟨handle, made, other, found⟩ := exists_handled opened mem
    refine ⟨handle, made, other, found, ?_⟩
    rintro rfl
    obtain ⟨⟨available, _⟩, listed⟩ := handled made found
    obtain ⟨access, here⟩ := Option.isSome_iff_exists.mp available
    exact ⟨access, here, (runsArtifact_iff listed).mpr fun delete => Option.some.inj (here.symm.trans (kept delete))⟩

/-- **Declared capabilities.** In a sequence of requests every one with an effect has its capability
declared, exactly if a `put` is not sent on the capability to read alone, nor a `delete` to the access
in memory, and a `read` not on the one to write alone. -/
theorem declared_iff (host : HostCapabilities) (manifest : ManifestCapabilities) (requests : List String) :
    (∀ method ∈ requests, HasEffect host manifest method →
        ∃ capability, capabilityFor method = some capability ∧ manifest.declares capability) ↔
      ∀ method ∈ requests, host.artifacts.isSome →
        (method = "host.artifact.put" → manifest.declares "artifact.read" → manifest.declares "artifact.write") ∧
        (method = "host.artifact.delete" → host.artifacts = some .memory →
          manifest.declares "artifact.read" → manifest.declares "artifact.write") ∧
        (method = "host.artifact.read" → manifest.declares "artifact.write" → manifest.declares "artifact.read") := by
  have data : ∀ method ∈ hostDataMethods, capabilityFor method = some "extension.data.sql" := by decide
  have mail : ∀ method ∈ hostMailMethods, capabilityFor method = some "mail.read" := by decide
  have browser : ∀ method ∈ hostBrowserMethods, capabilityFor method = some "browser.read" := by decide
  have put : capabilityFor "host.artifact.put" = some "artifact.write" := by decide
  have delete : capabilityFor "host.artifact.delete" = some "artifact.write" := by decide
  have read : capabilityFor "host.artifact.read" = some "artifact.read" := by decide
  refine forall₂_congr fun method _ => ?_
  rw [hasEffect_iff]
  constructor
  · intro covered available
    refine ⟨?_, ?_, ?_⟩
    · rintro rfl declared
      obtain ⟨_, eq, holds⟩ :=
        covered ⟨.artifacts, ⟨available, .inl declared⟩, by decide, fun other => absurd other (by decide)⟩
      cases put.symm.trans eq
      exact holds
    · rintro rfl memory declared
      obtain ⟨_, eq, holds⟩ := covered ⟨.artifacts, ⟨available, .inl declared⟩, by decide, fun _ => memory⟩
      cases delete.symm.trans eq
      exact holds
    · rintro rfl declared
      obtain ⟨_, eq, holds⟩ :=
        covered ⟨.artifacts, ⟨available, .inr declared⟩, by decide, fun other => absurd other (by decide)⟩
      cases read.symm.trans eq
      exact holds
  · rintro covered ⟨route, opened, mem, kept⟩
    cases route with
    | data => exact ⟨_, data method mem, opened.2⟩
    | mail => exact ⟨_, mail method mem, opened.2⟩
    | browser => exact ⟨_, browser method mem, opened.2⟩
    | artifacts =>
      obtain ⟨puts, deletes, reads⟩ := covered opened.1
      obtain rfl | rfl | rfl : method = "host.artifact.put" ∨ method = "host.artifact.read" ∨
        method = "host.artifact.delete" := by
        simpa [Route.methods, hostArtifactMethods] using mem
      · exact ⟨_, put, opened.2.elim (puts rfl) id⟩
      · exact ⟨_, read, opened.2.elim id (reads rfl)⟩
      · exact ⟨_, delete, opened.2.elim (deletes rfl (kept rfl)) id⟩

/-- An extension that may only read artifacts stores one. -/
theorem undeclared_put :
    HasEffect ⟨false, false, some .file, false⟩ ⟨["artifact.read"], []⟩ "host.artifact.put" ∧
      capabilityFor "host.artifact.put" = some "artifact.write" ∧
      ManifestCapabilities.declares ⟨["artifact.read"], []⟩ "artifact.write" = false := by
  refine ⟨hasEffect_iff.mpr ⟨.artifacts, ⟨rfl, .inl (by decide)⟩, by decide, fun other => absurd other (by decide)⟩,
    by decide, by decide⟩

end PersonalAssistant.HostRoutes
