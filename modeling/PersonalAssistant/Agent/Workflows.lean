import PersonalAssistant.Domain.Value

/-!
# Declarative workflows

`validate_workflow` and `resolve` of `core/workflows.py`. A step id or an input field may have
a dot in it, and `resolve` splits a reference at every dot: what was recorded under such a name
is not found.
-/

namespace PersonalAssistant.Workflow

open List

/-- `_ID.fullmatch`. -/
def isId (s : String) : Bool :=
  s.toList.all (fun c => c.isAlphanum || c == '_' || c == '.' || c == '-') && 1 ≤ s.length && s.length ≤ 128

/-- `isinstance(value.get(key), str)`, with a check of the string. -/
def hasText (value : Value) (key : String) (check : String → Bool) : Bool :=
  match value.get? key with
  | some (.str s) => check s
  | _ => false

/-- `isinstance(value.get(key), dict)`. -/
def hasDict (value : Value) (key : String) : Bool :=
  match value.get? key with
  | some (.dict _) => true
  | _ => false

/-- `set(value) - allowed` is empty. -/
def onlyFields (value : Value) (allowed : List String) : Bool :=
  match value with
  | .dict entries => entries.all fun entry => allowed.contains entry.1
  | _ => false

/-- The fields of a step besides its id and its type, if it is complete. -/
def stepFields (step : Value) : Except Exn (List String) :=
  match step.get? "type" with
  | some (.str "ask") =>
    if hasText step "field" isId && hasText step "question" (!isBlank ·) && hasDict step "schema" then
      .ok ["field", "question", "schema"]
    else .error (validationError "question step is incomplete")
  | some (.str "tool") =>
    if hasText step "tool_id" (fun _ => true) && hasText step "tool_version" (fun _ => true) &&
      hasDict step "arguments" then
      .ok ["tool_id", "tool_version", "arguments"]
    else .error (validationError "tool step is incomplete")
  | some (.str "archive") => .ok []
  | _ => .error (validationError "unsupported workflow step type")

/-- The steps in turn, with the ids of the earlier ones. -/
def validateSteps (names : List String) : List Value → Except Exn Unit
  | [] => .ok ()
  | step :: steps =>
    match step.get? "id" with
    | some (.str id) =>
      if !isId id || names.contains id then .error (validationError "workflow step ids must be unique")
      else do
        let fields ← stepFields step
        if onlyFields step ("id" :: "type" :: fields) then validateSteps (id :: names) steps
        else .error (validationError "workflow cannot supply grants, scripts or approval ids")
    | _ => .error (validationError "workflow step identity is required")

/-- `workflow["steps"]`. -/
def stepsOf (workflow : Value) : List Value :=
  match workflow.get? "steps" with
  | some (.list steps) => steps
  | _ => []

/-- `validate_workflow`. -/
def validateWorkflow (fingerprint : Value → Except Exn String) (value : Value) : Except Exn Value := do
  if !onlyFields value ["id", "version", "steps", "extension_id", "extension_version", "name", "description",
      "input_schema", "policy_snapshot"] then
    .error (validationError "unsupported workflow fields; executable code is not accepted")
  else if !(hasText value "id" isId && hasText value "version" isId) then
    .error (validationError "workflow id/version is invalid")
  else if stepsOf value = [] ∨ 128 < (stepsOf value).length then
    .error (validationError "workflow requires one to 128 declarative steps")
  else
    validateSteps [] (stepsOf value)
    let _ ← fingerprint value
    return value

/-- The loop over the parts of a reference. -/
def follow (current : Value) : List String → Except Exn Value
  | [] => .ok current
  | part :: parts =>
    match current.get? part with
    | some next => follow next parts
    | none => .error (validationError "required workflow material is not available")

/-- Where a reference begins. -/
inductive Source where
  | inputs
  | outputs

def Source.text : Source → String
  | inputs => "inputs"
  | outputs => "outputs"

/-- The inputs and the recorded outputs of a run. -/
abbrev Material := Source → List (String × Value)

/-- `value["$value"].split(".")`. -/
def parts (path : String) : List String := (path.toList.splitOn '.').map String.ofList

/-- A mapping with the key `$value`. -/
def dereference (material : Material) (entries : List (String × Value)) (reference : Value) : Except Exn Value :=
  match reference with
  | .str path =>
    if entries.any fun entry => entry.1 ≠ "$value" then .error (validationError "invalid workflow reference")
    else match parts path with
    | "inputs" :: names => follow (.dict (material .inputs)) names
    | "outputs" :: names => follow (.dict (material .outputs)) names
    | _ => .error (validationError "reference must address this run's inputs or outputs")
  | _ => .error (validationError "invalid workflow reference")

/-- The check that `resolve` begins with. -/
def shallow {α : Type} (depth : Nat) (rest : Except Exn α) : Except Exn α :=
  if 32 < depth then .error (validationError "workflow references are too deep") else rest

mutual

/-- `resolve`. -/
def resolve (material : Material) (depth : Nat) : Value → Except Exn Value
  | .dict entries => shallow depth <|
    match (Value.dict entries).get? "$value" with
    | some reference => dereference material entries reference
    | none => return .dict (← resolveEntries material (depth + 1) entries)
  | .list items => shallow depth do return .list (← resolveItems material (depth + 1) items)
  | value => shallow depth (.ok value)

def resolveItems (material : Material) (depth : Nat) : List Value → Except Exn (List Value)
  | [] => .ok []
  | item :: items => return (← resolve material depth item) :: (← resolveItems material depth items)

def resolveEntries (material : Material) (depth : Nat) : List (String × Value) → Except Exn (List (String × Value))
  | [] => .ok []
  | (key, item) :: entries => return (key, ← resolve material depth item) :: (← resolveEntries material depth entries)

end

/-! ## What arguments stand for -/

/-- The arguments of a step as their author means them. A reference has the names to follow: the
id of a step or an input field, and then the fields of what is recorded there. -/
inductive Argument where
  | scalar (value : Value)
  | reference (source : Source) (names : List String)
  | list (items : List Argument)
  | dict (entries : List (String × Argument))

/-- The names after each other with dots between them. -/
def pathText (first : String) : List String → String
  | [] => first
  | name :: names => first ++ "." ++ pathText name names

/-- What the inputs or the recorded outputs have under the names. -/
def recorded (material : Material) (source : Source) (names : List String) : Option Value :=
  names.foldlM Value.get? (.dict (material source))

/-- A value that is no mapping and no list. -/
def isScalar : Value → Bool
  | .dict _ | .list _ => false
  | _ => true

namespace Argument

mutual

/-- The arguments as a workflow has them. -/
def value : Argument → Value
  | scalar value => value
  | reference source names => .dict [("$value", .str (pathText source.text names))]
  | list items => .list (valueItems items)
  | dict entries => .dict (valueEntries entries)

def valueItems : List Argument → List Value
  | [] => []
  | item :: items => item.value :: valueItems items

def valueEntries : List (String × Argument) → List (String × Value)
  | [] => []
  | (key, item) :: entries => (key, item.value) :: valueEntries entries

end

mutual

/-- The arguments with what is recorded in the place of each reference. -/
def meaning (material : Material) : Argument → Value
  | scalar value => value
  | reference source names => (recorded material source names).getD .none
  | list items => .list (meaningItems material items)
  | dict entries => .dict (meaningEntries material entries)

def meaningItems (material : Material) : List Argument → List Value
  | [] => []
  | item :: items => item.meaning material :: meaningItems material items

def meaningEntries (material : Material) : List (String × Argument) → List (String × Value)
  | [] => []
  | (key, item) :: entries => (key, item.meaning material) :: meaningEntries material entries

end

mutual

/-- What the references name is recorded and no name has a dot; no other mapping has the key
`$value`, and nothing is more than 32 levels deep. -/
def Ready (material : Material) (depth : Nat) : Argument → Prop
  | scalar value => depth ≤ 32 ∧ isScalar value
  | reference source names =>
    depth ≤ 32 ∧ (∀ name ∈ names, '.' ∉ name.toList) ∧ (recorded material source names).isSome
  | list items => depth ≤ 32 ∧ ReadyItems material (depth + 1) items
  | dict entries => depth ≤ 32 ∧ ReadyEntries material (depth + 1) entries

def ReadyItems (material : Material) (depth : Nat) : List Argument → Prop
  | [] => True
  | item :: items => item.Ready material depth ∧ ReadyItems material depth items

def ReadyEntries (material : Material) (depth : Nat) : List (String × Argument) → Prop
  | [] => True
  | (key, item) :: entries => key ≠ "$value" ∧ item.Ready material depth ∧ ReadyEntries material depth entries

end

end Argument

theorem follow_eq (current : Value) (names : List String) : follow current names =
    (names.foldlM Value.get? current).elim
      (.error (validationError "required workflow material is not available")) .ok := by
  induction names generalizing current with
  | nil => rfl
  | cons name names ih =>
    rw [follow, foldlM_cons]
    cases current.get? name with
    | none => rfl
    | some next => exact ih next

theorem parts_pathText {first : String} (undotted : '.' ∉ first.toList) {names : List String}
    (all : ∀ name ∈ names, '.' ∉ name.toList) : parts (pathText first names) = first :: names := by
  induction names generalizing first with
  | nil => rw [pathText, parts, splitOn_eq_singleton undotted, map_singleton, String.ofList_toList]
  | cons name names ih =>
    have split : (first ++ "." ++ pathText name names).toList =
        first.toList ++ '.' :: (pathText name names).toList := by simp
    rw [pathText, parts, split, splitOn_append_cons_self_of_not_mem undotted, map_cons, String.ofList_toList]
    exact congrArg _ (ih (all name mem_cons_self) fun name later => all name (mem_cons_of_mem _ later))

theorem text_undotted (source : Source) : '.' ∉ source.text.toList := by
  cases source <;> decide

theorem shallow_of_le {α : Type} {depth : Nat} (low : depth ≤ 32) (rest : Except Exn α) : shallow depth rest = rest :=
  if_neg (Nat.not_lt.mpr low)

/-- A mapping that is a reference alone follows the parts of its text. -/
theorem resolve_path (material : Material) {depth : Nat} (low : depth ≤ 32) (source : Source) {path : String}
    {names : List String} (split : parts path = source.text :: names) :
    resolve material depth (.dict [("$value", .str path)]) = follow (.dict (material source)) names := by
  have found : (Value.dict [("$value", .str path)]).get? "$value" = some (.str path) := rfl
  rw [resolve, shallow_of_le low, found]
  simp only [dereference, split]
  cases source <;> rfl

theorem get?_valueEntries {material : Material} {depth : Nat} {entries : List (String × Argument)}
    (ready : Argument.ReadyEntries material depth entries) :
    (Value.dict (Argument.valueEntries entries)).get? "$value" = none := by
  induction entries with
  | nil => rfl
  | cons entry entries ih =>
    obtain ⟨other, _, rest⟩ := ready
    simp only [Value.get?, Argument.valueEntries, find?_cons, decide_eq_false other]
    exact ih rest

mutual

/-- The induction is on the arguments as they are meant, which decides the branch of `resolve`. -/
theorem resolve_value (material : Material) {depth : Nat} (argument : Argument)
    (ready : argument.Ready material depth) :
    resolve material depth argument.value = .ok (argument.meaning material) := by
  match argument, ready with
  | .scalar value, ⟨low, scalar⟩ =>
    cases value with
    | dict | list => cases scalar
    | _ => exact shallow_of_le low _
  | .reference source names, ⟨low, undotted, some_⟩ =>
    obtain ⟨found, there⟩ := Option.isSome_iff_exists.mp some_
    rw [Argument.value, resolve_path material low source (parts_pathText (text_undotted source) undotted), follow_eq,
      ← recorded, there, Argument.meaning, there]
    rfl
  | .list items, ⟨low, ready⟩ =>
    rw [Argument.value, resolve, shallow_of_le low, resolveItems_value material items ready]
    rfl
  | .dict entries, ⟨low, ready⟩ =>
    rw [Argument.value, resolve, shallow_of_le low, get?_valueEntries ready]
    simp only [resolveEntries_value material entries ready]
    rfl

theorem resolveItems_value (material : Material) {depth : Nat} (items : List Argument)
    (ready : Argument.ReadyItems material depth items) :
    resolveItems material depth (Argument.valueItems items) = .ok (Argument.meaningItems material items) := by
  match items, ready with
  | [], _ => rfl
  | item :: items, ⟨first, rest⟩ =>
    rw [Argument.valueItems, resolveItems, resolve_value material item first, resolveItems_value material items rest]
    rfl

theorem resolveEntries_value (material : Material) {depth : Nat} (entries : List (String × Argument))
    (ready : Argument.ReadyEntries material depth entries) :
    resolveEntries material depth (Argument.valueEntries entries) = .ok (Argument.meaningEntries material entries) := by
  match entries, ready with
  | [], _ => rfl
  | (key, item) :: entries, ⟨_, first, rest⟩ =>
    rw [Argument.valueEntries, resolveEntries, resolve_value material item first,
      resolveEntries_value material entries rest]
    rfl

end

/-- A workflow that asks for a topic, reads, and writes what it read; the first tool step has the
id given. -/
def digestWorkflow (id : String) (arguments : List (String × Argument)) : Value :=
  .dict [("id", .str "digest"), ("version", .str "1"), ("steps", .list [
    .dict [("id", .str "ask"), ("type", .str "ask"), ("field", .str "topic"), ("question", .str "topic?"),
      ("schema", .dict [])],
    .dict [("id", .str id), ("type", .str "tool"), ("tool_id", .str "mail.read"), ("tool_version", .str "1"),
      ("arguments", .dict [])],
    .dict [("id", .str "write"), ("type", .str "tool"), ("tool_id", .str "notes.write"), ("tool_version", .str "1"),
      ("arguments", (Argument.dict arguments).value)]])]

/-- The output of the reading step as a whole, a field of it in a list, and the input. -/
def digestArguments : List (String × Argument) := [("mail", .reference .outputs ["read"]),
  ("note", .dict [("lines", .list [.reference .outputs ["read", "subject"], .scalar (.str "--")]),
    ("topic", .reference .inputs ["topic"])])]

/-- What was asked for and what was read. -/
def digestMaterial : Material
  | .inputs => [("topic", .str "exams")]
  | .outputs => [("read", .dict [("subject", .str "hello")])]

end PersonalAssistant.Workflow
