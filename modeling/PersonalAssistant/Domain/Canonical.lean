import PersonalAssistant.Domain.Value

/-!
# The canonical form is a fixed point

What `normalize_json` returns it returns again, under every path: a document that was stored
in its canonical form and read back has the digest it was stored under.
-/

namespace PersonalAssistant

open List

instance {α : Type} : Std.Total (keyLe (α := α)) := ⟨fun a b => String.le_total a.1 b.1⟩

instance {α : Type} : IsTrans (String × α) keyLe := ⟨fun _ _ _ => String.le_trans⟩

variable {values : List (String × Value)}

/-- The normalized entries of a mapping are those of the values. -/
theorem eq_map_of_sequenceEntries {entries : List (String × Except Exn Value)}
    (h : sequenceEntries entries = .ok values) : entries = values.map fun entry => (entry.1, .ok entry.2) := by
  induction entries generalizing values with
  | nil =>
    cases h
    rfl
  | cons entry entries ih =>
    obtain ⟨key, item⟩ := entry
    obtain ⟨v, rfl, rest⟩ := bind_eq_ok h
    obtain ⟨tail, tails, returned⟩ := bind_eq_ok rest
    cases returned
    rw [map_cons, ← ih tails]

theorem sequenceEntries_map (values : List (String × Value)) :
    sequenceEntries (values.map fun entry => (entry.1, .ok entry.2)) = .ok values := by
  induction values with
  | nil => rfl
  | cons entry values ih =>
    rw [map_cons, sequenceEntries, ih]
    rfl

theorem normalizeEntries_eq_map {path : String}
    (fixed : ∀ entry ∈ values, ∀ q, normalizeJson q entry.2 = .ok entry.2) :
    normalizeEntries path values = values.map fun entry => (entry.1, .ok entry.2) := by
  induction values with
  | nil => rw [normalizeEntries, map_nil]
  | cons entry values ih =>
    rw [normalizeEntries, map_cons, fixed entry mem_cons_self,
      ih fun other mem => fixed other (mem_cons_of_mem _ mem)]

mutual

/-- **A normalized value is its own normal form.** -/
theorem normalizeJson_fixed {path : String} : {v w : Value} → normalizeJson path v = .ok w →
    ∀ q, normalizeJson q w = .ok w
  | .none, w, h, q | .bool _, w, h, q | .int _, w, h, q | .str _, w, h, q | .float (.finite _), w, h, q => by
    rw [normalizeJson] at h
    cases h
    rw [normalizeJson]
  | .float .nan, w, h, q | .float (.inf _), w, h, q | .other _, w, h, q => by
    rw [normalizeJson] at h <;> cases h
  | .dict entries, w, h, q => by
    rw [normalizeJson] at h
    obtain ⟨values, sequenced, returned⟩ := bind_eq_ok h
    cases returned
    have shape := eq_map_of_sequenceEntries sequenced
    -- the order of the entries is that of their keys, which the second pass finds as they are
    have sorted : (values.map fun entry => (entry.1, (.ok entry.2 : Except Exn Value))).Pairwise keyLe := by
      rw [← shape]
      exact pairwise_insertionSort _ _
    have fixed : ∀ entry ∈ values, ∀ q, normalizeJson q entry.2 = .ok entry.2 := by
      intro entry mem
      have source : (entry.1, .ok entry.2) ∈ normalizeEntries path entries := by
        rw [← mem_insertionSort keyLe, shape]
        exact mem_map_of_mem mem
      exact normalizeEntries_fixed source
    rw [normalizeJson, normalizeEntries_eq_map fixed, sorted.insertionSort_eq, sequenceEntries_map]
    rfl
  | .list items, w, h, q | .tuple items, w, h, q => by
    obtain ⟨values, normalized, returned⟩ := bind_eq_ok h
    cases returned
    rw [normalizeJson, normalizeItems_fixed normalized]
    rfl

theorem normalizeItems_fixed {path : String} {index : Nat} : {items values : List Value} →
    normalizeItems path index items = .ok values → ∀ {q : String} {j : Nat}, normalizeItems q j values = .ok values
  | [], values, h, q, j => by
    rw [normalizeItems] at h
    cases h
    rw [normalizeItems]
  | item :: items, values, h, q, j => by
    rw [normalizeItems] at h
    obtain ⟨v, head, rest⟩ := bind_eq_ok h
    obtain ⟨tail, tails, returned⟩ := bind_eq_ok rest
    cases returned
    rw [normalizeItems, normalizeJson_fixed head, normalizeItems_fixed tails]
    rfl

theorem normalizeEntries_fixed {path : String} : {entries : List (String × Value)} → {key : String} → {w : Value} →
    (key, .ok w) ∈ normalizeEntries path entries → ∀ q, normalizeJson q w = .ok w
  | [], _, _, mem, _ => by simp [normalizeEntries] at mem
  | (_, item) :: entries, key, w, mem, q => by
    rw [normalizeEntries, mem_cons] at mem
    rcases mem with same | mem
    · have head : normalizeJson _ item = .ok w := (congrArg Prod.snd same).symm
      exact normalizeJson_fixed head q
    · exact normalizeEntries_fixed mem q

end

/-! ## A small host -/

/-- A digest that tells texts of different lengths apart, up to sixteen. -/
def checksum (text : String) : String := String.ofList (replicate 64 (Nat.digitChar (text.length % 16)))

theorem checksum_length (text : String) : (checksum text).length = 64 := by
  simp [checksum]

theorem checksum_hex (text : String) : (checksum text).toList.all fun c => "0123456789abcdef".toList.contains c := by
  have digits : ∀ n < 16, "0123456789abcdef".toList.contains (Nat.digitChar n) := by decide
  simp only [checksum, String.toList_ofList, all_replicate]
  exact digits _ (Nat.mod_lt _ (by decide))

/-- The host of the samples, which reads the canonical text of one document. -/
def Host.reading (document : Value) : Host where
  sha256Hex := checksum
  jsonLoads text := if (canonicalJson document).toOption = some text then .ok document else .error
    (.other "JSONDecodeError")
  formatG _ := "60"
  sha256Hex_length := checksum_length
  sha256Hex_hex := checksum_hex

theorem Host.reading_jsonLoads {document : Value} {text : String} (encoded : canonicalJson document = .ok text) :
    (Host.reading document).jsonLoads text = .ok document := by
  refine if_pos ?_
  rw [encoded]
  rfl

end PersonalAssistant
