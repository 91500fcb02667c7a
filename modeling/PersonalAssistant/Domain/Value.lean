import PersonalAssistant.Domain.Exceptions

/-!
# JSON values and their canonical form

The Python values that pass through tool calls, and `core/approvals/canonicalize.py`:
`normalizeJson`, `canonicalJson` and `canonicalSha256`. SHA-256 and the parser `json.loads`
belong to the Python library and are fields of `Host`.
-/

namespace PersonalAssistant

open List

/-- A Python float; a finite one is named by its shortest `repr`. -/
inductive PyFloat where
  | finite (repr : String)
  | nan
  | inf (negative : Bool)
  deriving DecidableEq, Repr

/-- `math.isfinite`. -/
def PyFloat.isFinite : PyFloat → Bool
  | .finite _ => true
  | _ => false

/-- A Python value. `other` is an object of a class that is not JSON. -/
inductive Value where
  | none
  | bool (b : Bool)
  | int (n : Int)
  | float (x : PyFloat)
  | str (s : String)
  | list (items : List Value)
  | tuple (items : List Value)
  | dict (entries : List (String × Value))
  | other (typeName : String)
  deriving Repr

/-- `mapping.get(key)`, `none` for a missing key or a value that is not a mapping. -/
def Value.get? (v : Value) (key : String) : Option Value :=
  match v with
  | .dict entries => (entries.find? (·.1 = key)).map (·.2)
  | _ => .none

/-- `bool(value)`; an object of another class is true. -/
def Value.truthy : Value → Bool
  | .none => false
  | .bool b => b
  | .int n => n ≠ 0
  | .float (.finite repr) => repr ≠ "0.0" && repr ≠ "-0.0"
  | .str s => s ≠ ""
  | .list items | .tuple items => !items.isEmpty
  | .dict entries => !entries.isEmpty
  | _ => true

/-- The text of an optional string as a JSON value. -/
def Value.ofOption : Option String → Value
  | some s => .str s
  | .none => .none

/-- What the modelled code takes from the Python library. The digest is 64 lower-case
hexadecimal characters; nothing else is assumed of it. -/
structure Host where
  /-- `hashlib.sha256(text.encode("utf-8")).hexdigest()`. -/
  sha256Hex : String → String
  /-- `json.loads`. -/
  jsonLoads : String → Except Exn Value
  /-- `format(seconds, "g")`. -/
  formatG : Rat → String
  sha256Hex_length : ∀ text, (sha256Hex text).length = 64
  sha256Hex_hex : ∀ text, (sha256Hex text).toList.all fun c => "0123456789abcdef".toList.contains c

/-- The order of `sorted` on the keys of a mapping. -/
def keyLe {α : Type} (a b : String × α) : Prop := a.1 ≤ b.1

instance {α : Type} : DecidableRel (keyLe (α := α)) :=
  fun a b => inferInstanceAs (Decidable (a.1 ≤ b.1))

/-- The value of every entry, or the first error in the order of the entries. -/
def sequenceEntries : List (String × Except Exn Value) → Except Exn (List (String × Value))
  | [] => .ok []
  | (key, v) :: entries => do
    let item ← v
    return (key, item) :: (← sequenceEntries entries)

mutual

/-- `normalize_json`: only JSON values pass, keys sorted, tuples as lists. -/
def normalizeJson (path : String) : Value → Except Exn Value
  | .none => .ok .none
  | .bool b => .ok (.bool b)
  | .int n => .ok (.int n)
  | .str s => .ok (.str s)
  | .float (.finite x) => .ok (.float (.finite x))
  | .float _ => .error (.domain .canonicalization (path ++ ": NaN and Infinity are not allowed"))
  | .dict entries => do
    let normalized := (normalizeEntries path entries).insertionSort keyLe
    return .dict (← sequenceEntries normalized)
  | .list items => return .list (← normalizeItems path 0 items)
  | .tuple items => return .list (← normalizeItems path 0 items)
  | .other typeName => .error (.domain .canonicalization
      (path ++ ": unsupported value type " ++ typeName ++ "; use JSON values"))

/-- The items of a sequence, each under its index. -/
def normalizeItems (path : String) (index : Nat) : List Value → Except Exn (List Value)
  | [] => .ok []
  | item :: items => do
    let normalized ← normalizeJson (path ++ "[" ++ toString index ++ "]") item
    return normalized :: (← normalizeItems path (index + 1) items)

/-- The entries of a mapping, each under its key. -/
def normalizeEntries (path : String) : List (String × Value) → List (String × Except Exn Value)
  | [] => []
  | (key, item) :: entries =>
    (key, normalizeJson (path ++ "." ++ key) item) :: normalizeEntries path entries

end

/-- A character inside a JSON string, as `json.dumps(ensure_ascii=False)` writes it. -/
def escapeChar (c : Char) : String :=
  if c = '"' then "\\\""
  else if c = '\\' then "\\\\"
  else if c = '\n' then "\\n"
  else if c = '\r' then "\\r"
  else if c = '\t' then "\\t"
  else if c.toNat = 8 then "\\b"
  else if c.toNat = 12 then "\\f"
  else if c.toNat < 16 then "\\u000" ++ String.ofList [Nat.digitChar c.toNat]
  else if c.toNat < 32 then "\\u001" ++ String.ofList [Nat.digitChar (c.toNat - 16)]
  else String.ofList [c]

/-- A JSON string literal. -/
def quoteJson (s : String) : String :=
  "\"" ++ String.join (s.toList.map escapeChar) ++ "\""

mutual

/-- `json.dumps(value, ensure_ascii=False, allow_nan=False, separators=(",", ":"))`. -/
def jsonDumps : Value → Except Exn String
  | .none => .ok "null"
  | .bool b => .ok (if b then "true" else "false")
  | .int n => .ok (toString n)
  | .float (.finite x) => .ok x
  | .float _ => .error (.other "ValueError")
  | .str s => .ok (quoteJson s)
  | .list items => return "[" ++ ",".intercalate (← dumpItems items) ++ "]"
  | .tuple items => return "[" ++ ",".intercalate (← dumpItems items) ++ "]"
  | .dict entries => return "\x7b" ++ ",".intercalate (← dumpEntries entries) ++ "\x7d"
  | .other _ => .error (.other "TypeError")

/-- The texts of the items of a sequence. -/
def dumpItems : List Value → Except Exn (List String)
  | [] => .ok []
  | item :: items => return (← jsonDumps item) :: (← dumpItems items)

/-- The texts of the entries of a mapping. -/
def dumpEntries : List (String × Value) → Except Exn (List String)
  | [] => .ok []
  | (key, item) :: entries =>
    return (quoteJson key ++ ":" ++ (← jsonDumps item)) :: (← dumpEntries entries)

end

variable {entries : List (String × Except Exn Value)} {host : Host} {v : Value}

/-- An error of `normalize_json` or of `json.dumps`. -/
def Exn.IsEncoding (e : Exn) : Prop := (∃ message, e = .domain .canonicalization message) ∨ ∃ name, e = .other name

theorem sequenceEntries_raises {P : Exn → Prop} (h : ∀ entry ∈ entries, Raises P entry.2) :
    Raises P (sequenceEntries entries) := by
  induction entries with
  | nil => exact .ok []
  | cons entry entries ih =>
    obtain ⟨head, tail⟩ := forall_mem_cons.mp h
    exact .bind head fun _ _ => .bind (ih tail) fun _ _ => .ok _

mutual

/-- `normalize_json` raises only its own error. -/
theorem normalizeJson_raises (path : String) : (v : Value) → Raises Exn.IsEncoding (normalizeJson path v)
  | .none | .bool _ | .int _ | .str _ | .float (.finite _) => by
    rw [normalizeJson]
    exact .ok _
  | .float .nan | .float (.inf _) | .other _ => by
    simp only [normalizeJson]
    exact .error (.inl ⟨_, rfl⟩)
  | .dict entries => by
    rw [normalizeJson]
    refine .bind (sequenceEntries_raises fun entry mem => ?_) fun _ _ => .ok _
    exact normalizeEntries_raises path entries entry ((mem_insertionSort _).mp mem)
  | .list items | .tuple items => by
    rw [normalizeJson]
    exact .bind (normalizeItems_raises path 0 items) fun _ _ => .ok _

theorem normalizeItems_raises (path : String) (index : Nat) :
    (items : List Value) → Raises Exn.IsEncoding (normalizeItems path index items)
  | [] => .ok []
  | item :: items =>
    .bind (normalizeJson_raises _ item) fun _ _ => .bind (normalizeItems_raises path (index + 1) items) fun _ _ => .ok _

theorem normalizeEntries_raises (path : String) : (entries : List (String × Value)) →
    ∀ entry ∈ normalizeEntries path entries, Raises Exn.IsEncoding entry.2
  | [] => nofun
  | (_, item) :: entries =>
    forall_mem_cons.mpr ⟨normalizeJson_raises _ item, normalizeEntries_raises path entries⟩

end

mutual

/-- A value that JSON has a text for. -/
def Value.isJson : Value → Bool
  | .float x => x.isFinite
  | .other _ => false
  | .list items => Value.areJson items
  | .tuple items => Value.areJson items
  | .dict entries => Value.entriesJson entries
  | _ => true

/-- Every item of a sequence is one. -/
def Value.areJson : List Value → Bool
  | [] => true
  | item :: items => item.isJson && Value.areJson items

/-- Every entry of a mapping is one. -/
def Value.entriesJson : List (String × Value) → Bool
  | [] => true
  | (_, item) :: entries => item.isJson && Value.entriesJson entries

end

mutual

/-- `json.dumps` fails with an error of the Python library, and not for a JSON value. -/
theorem jsonDumps_raises : (v : Value) → Raises (fun e => e.IsEncoding ∧ ¬ v.isJson) (jsonDumps v)
  | .none | .bool _ | .int _ | .str _ | .float (.finite _) => by
    rw [jsonDumps]
    exact .ok _
  | .float .nan | .float (.inf _) | .other _ => by
    simp only [jsonDumps]
    exact .error ⟨.inr ⟨_, rfl⟩, Bool.false_ne_true⟩
  | .dict entries => by
    rw [jsonDumps]
    exact .bind (dumpEntries_raises entries) fun _ _ => .ok _
  | .list items | .tuple items => by
    rw [jsonDumps]
    exact .bind (dumpItems_raises items) fun _ _ => .ok _

theorem dumpItems_raises : (items : List Value) → Raises (fun e => e.IsEncoding ∧ ¬ Value.areJson items)
    (dumpItems items)
  | [] => .ok []
  | item :: items => by
    refine .bind ((jsonDumps_raises item).mono fun _ h => ⟨h.1, fun all => h.2 ?_⟩) fun _ _ =>
      .bind ((dumpItems_raises items).mono fun _ h => ⟨h.1, fun all => h.2 ?_⟩) fun _ _ => .ok _
    · exact (Bool.and_eq_true_iff.mp all).1
    · exact (Bool.and_eq_true_iff.mp all).2

theorem dumpEntries_raises : (entries : List (String × Value)) →
    Raises (fun e => e.IsEncoding ∧ ¬ Value.entriesJson entries) (dumpEntries entries)
  | [] => .ok []
  | (_, item) :: entries => by
    refine .bind ((jsonDumps_raises item).mono fun _ h => ⟨h.1, fun all => h.2 ?_⟩) fun _ _ =>
      .bind ((dumpEntries_raises entries).mono fun _ h => ⟨h.1, fun all => h.2 ?_⟩) fun _ _ => .ok _
    · exact (Bool.and_eq_true_iff.mp all).1
    · exact (Bool.and_eq_true_iff.mp all).2

end

/-- `canonical_json`. -/
def canonicalJson (v : Value) : Except Exn String := do
  jsonDumps (← normalizeJson "$" v)

/-- `canonical_sha256`. -/
def canonicalSha256 (host : Host) (v : Value) : Except Exn String :=
  (canonicalJson v).map host.sha256Hex

theorem canonicalJson_raises (v : Value) : Raises Exn.IsEncoding (canonicalJson v) :=
  .bind (normalizeJson_raises "$" v) fun w _ => (jsonDumps_raises w).mono fun _ h => h.1

/-- A value that has no digest raises no `DefinitiveToolFailure`. -/
theorem canonicalSha256_error {e : Exn} (h : canonicalSha256 host v = .error e) : e.isDefinitive = false := by
  rcases (canonicalJson_raises v).map e h with ⟨_, rfl⟩ | ⟨_, rfl⟩ <;> rfl

section Json

theorem areJson_map {α : Type} {f : α → Value} (h : ∀ a, (f a).isJson) (items : List α) :
    Value.areJson (items.map f) := by
  induction items with
  | nil => rfl
  | cons item items ih =>
    rw [map_cons, Value.areJson, h item, ih]
    rfl

theorem sequenceEntries_ok (h : ∀ entry ∈ entries, ∃ v, entry.2 = .ok v ∧ v.isJson) :
    ∃ values, sequenceEntries entries = .ok values ∧ Value.entriesJson values := by
  induction entries with
  | nil => exact ⟨[], rfl, rfl⟩
  | cons entry entries ih =>
    obtain ⟨key, item⟩ := entry
    obtain ⟨v, rfl, json⟩ := h _ mem_cons_self
    obtain ⟨values, ok, jsons⟩ := ih fun other mem => h other (mem_cons_of_mem _ mem)
    refine ⟨(key, v) :: values, ?_, ?_⟩
    · rw [sequenceEntries, ok]
      rfl
    · rw [Value.entriesJson, json, jsons]
      rfl

mutual

/-- `normalize_json` of such a value succeeds. -/
theorem normalizeJson_ok (path : String) : (v : Value) → v.isJson → ∃ w, normalizeJson path v = .ok w ∧ w.isJson
  | .none, _ | .bool _, _ | .int _, _ | .str _, _ | .float (.finite _), _ => ⟨_, by rw [normalizeJson], rfl⟩
  | .float .nan, h | .float (.inf _), h | .other _, h => by cases h
  | .dict entries, h => by
    have each : ∀ entry ∈ (normalizeEntries path entries).insertionSort keyLe, ∃ v, entry.2 = .ok v ∧ v.isJson :=
      fun entry mem => normalizeEntries_ok path entries h entry ((mem_insertionSort _).mp mem)
    obtain ⟨values, ok, json⟩ := sequenceEntries_ok each
    refine ⟨.dict values, ?_, json⟩
    rw [normalizeJson, ok]
    rfl
  | .list items, h | .tuple items, h => by
    obtain ⟨values, ok, json⟩ := normalizeItems_ok path 0 items h
    refine ⟨.list values, ?_, json⟩
    rw [normalizeJson, ok]
    rfl

theorem normalizeItems_ok (path : String) (index : Nat) : (items : List Value) → Value.areJson items →
    ∃ values, normalizeItems path index items = .ok values ∧ Value.areJson values
  | [], _ => ⟨[], by rw [normalizeItems], rfl⟩
  | item :: items, h => by
    rw [Value.areJson, Bool.and_eq_true] at h
    obtain ⟨v, ok, json⟩ := normalizeJson_ok (path ++ "[" ++ toString index ++ "]") item h.1
    obtain ⟨values, oks, jsons⟩ := normalizeItems_ok path (index + 1) items h.2
    refine ⟨v :: values, ?_, ?_⟩
    · rw [normalizeItems, ok, oks]
      rfl
    · rw [Value.areJson, json, jsons]
      rfl

theorem normalizeEntries_ok (path : String) : (entries : List (String × Value)) → Value.entriesJson entries →
    ∀ entry ∈ normalizeEntries path entries, ∃ v, entry.2 = .ok v ∧ v.isJson
  | [], _, entry, mem => by simp [normalizeEntries] at mem
  | (key, item) :: entries, h, entry, mem => by
    rw [Value.entriesJson, Bool.and_eq_true] at h
    rw [normalizeEntries, mem_cons] at mem
    rcases mem with rfl | mem
    · exact normalizeJson_ok _ item h.1
    · exact normalizeEntries_ok path entries h.2 entry mem

end

/-- `json.dumps` of such a value succeeds. -/
theorem jsonDumps_ok (v : Value) (json : v.isJson) : ∃ text, jsonDumps v = .ok text := by
  cases dumped : jsonDumps v with
  | ok text => exact ⟨text, rfl⟩
  | error e => exact absurd json (jsonDumps_raises v e dumped).2

theorem canonicalSha256_ok (json : v.isJson) : ∃ digest, canonicalSha256 host v = .ok digest := by
  obtain ⟨w, normalized, json'⟩ := normalizeJson_ok "$" v json
  obtain ⟨text, dumped⟩ := jsonDumps_ok w json'
  refine ⟨host.sha256Hex text, ?_⟩
  have encoded : canonicalJson v = .ok text := by
    rw [canonicalJson, normalized]
    exact dumped
  rw [canonicalSha256, encoded]
  rfl

end Json

/-- Python's `str.isspace` of one character: the Unicode white space of `str.strip`. -/
def isPySpace (c : Char) : Bool :=
  let n := c.toNat
  (9 ≤ n && n ≤ 13) || (28 ≤ n && n ≤ 32) || n == 0x85 || n == 0xA0 || n == 0x1680 ||
    (0x2000 ≤ n && n ≤ 0x200A) || n == 0x2028 || n == 0x2029 || n == 0x202F || n == 0x205F || n == 0x3000

/-- `not s.strip()`. -/
def isBlank (s : String) : Bool := s.toList.all isPySpace

/-- `line.split()`. -/
def words (line : List Char) : List (List Char) := (line.splitOnP isPySpace).filter (· ≠ [])

/-- `s.strip()`. -/
def strip (s : String) : String :=
  String.ofList ((s.toList.dropWhile isPySpace).reverse.dropWhile isPySpace).reverse

/-- Python's `a or b` on optional strings: the empty string counts as missing. -/
def pyOr (a b : Option String) : Option String :=
  match a with
  | some s => if s = "" then b else some s
  | .none => b

/-- `s[:count]`. -/
def takeChars (count : Nat) (s : String) : String := String.ofList (s.toList.take count)

end PersonalAssistant
