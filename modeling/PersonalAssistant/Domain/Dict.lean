import Mathlib

/-!
# Dictionaries

A dictionary as the list of its items in the order of insertion: an assignment replaces the
item of its key in place, or adds one at the end.
-/

namespace PersonalAssistant

open List

/-- A row with a new key keeps the keys apart. -/
theorem nodup_map_snoc {ρ κ : Type} {key : ρ → κ} {rows : List ρ} {row : ρ} (unique : (rows.map key).Nodup)
    (fresh : key row ∉ rows.map key) : ((rows ++ [row]).map key).Nodup := by
  rw [map_append, map_singleton, ← concat_eq_append]
  exact Nodup.concat fresh unique

variable {κ α : Type} [DecidableEq κ] {key other : κ} {value : α} {items entries : List (κ × α)} {item : κ × α}

/-- `items[key] = value`. -/
def dictSet (key : κ) (value : α) : List (κ × α) → List (κ × α)
  | [] => [(key, value)]
  | (k, v) :: items => if k = key then (key, value) :: items else (k, v) :: dictSet key value items

/-- What is stored after an assignment was there or is the new item. -/
theorem mem_dictSet (mem : item ∈ dictSet key value items) :
    item = (key, value) ∨ item ∈ items := by
  induction items with
  | nil => exact .inl (mem_singleton.mp mem)
  | cons first items ih =>
    simp only [dictSet] at mem
    split_ifs at mem with same
    · rcases mem_cons.mp mem with eq | later
      · exact .inl eq
      · exact .inr (mem_cons_of_mem _ later)
    · rcases mem_cons.mp mem with eq | later
      · exact .inr (eq ▸ mem_cons_self)
      · rcases ih later with eq | old
        · exact .inl eq
        · exact .inr (mem_cons_of_mem _ old)

/-- An assignment adds its key at the end, unless it was there. -/
theorem keys_dictSet (key : κ) (value : α) (items : List (κ × α)) : (dictSet key value items).map Prod.fst =
    if key ∈ items.map Prod.fst then items.map Prod.fst else items.map Prod.fst ++ [key] := by
  induction items with
  | nil => rfl
  | cons item items ih =>
    by_cases same : item.1 = key
    · simp [dictSet, same]
    · simp only [dictSet, if_neg same, map_cons, ih, mem_cons, Ne.symm same, false_or]
      split_ifs <;> rfl

theorem mem_keys_dictSet (mem : other ∈ items.map Prod.fst) (value : α) :
    other ∈ (dictSet key value items).map Prod.fst := by
  rw [keys_dictSet]
  split_ifs
  · exact mem
  · exact mem_append_left _ mem

theorem nodup_keys_dictSet (unique : (items.map Prod.fst).Nodup) (key : κ) (value : α) :
    ((dictSet key value items).map Prod.fst).Nodup := by
  rw [keys_dictSet]
  split_ifs with old
  · exact unique
  · exact concat_eq_append ▸ unique.concat old

/-- `items.update(entries)`. -/
def dictUpdate (items entries : List (κ × α)) : List (κ × α) :=
  entries.foldl (fun items entry => dictSet entry.1 entry.2 items) items

theorem mem_dictUpdate (mem : item ∈ dictUpdate items entries) :
    item ∈ items ∨ item ∈ entries := by
  induction entries generalizing items with
  | nil => exact .inl mem
  | cons entry entries ih =>
    rcases ih mem with old | later
    · rcases mem_dictSet old with new | older
      · exact .inr (new ▸ mem_cons_self)
      · exact .inl older
    · exact .inr (mem_cons_of_mem _ later)

theorem mem_keys_dictUpdate (mem : key ∈ items.map Prod.fst) :
    key ∈ (dictUpdate items entries).map Prod.fst := by
  induction entries generalizing items with
  | nil => exact mem
  | cons entry entries ih => exact ih (mem_keys_dictSet mem _)

section Rows

variable {ρ : Type} {key : ρ → κ} {rows : List ρ} {row new : ρ}

/-- Where the keys are apart, a row is the one of its key. -/
theorem find?_of_mem (unique : (rows.map key).Nodup) (mem : row ∈ rows) :
    rows.find? (fun other => key other = key row) = some row := by
  cases found : rows.find? (fun other => key other = key row) with
  | none => exact absurd (find?_eq_none.mp found row mem) (by simp)
  | some other =>
    have same : key other = key row := by simpa using find?_some found
    rw [inj_on_of_nodup_map unique (mem_of_find?_eq_some found) mem same]

/-- A row that replaces the one of its key is found there. -/
theorem find?_map_set (found : rows.find? (fun other => key other = key new) = some row) :
    (rows.map fun other => if key other = key new then new else other).find? (fun other => key other = key new) =
      some new := by
  induction rows with
  | nil => cases found
  | cons head rows ih =>
    by_cases same : key head = key new
    · simp [same]
    · simp only [find?_cons, same, decide_false] at found
      simpa [same] using ih found

end Rows

variable [BEq κ] [LawfulBEq κ]

theorem lookup_cons_ite (item : κ × α) (items : List (κ × α)) :
    (item :: items).lookup other = if other = item.1 then some item.2 else items.lookup other := by
  rw [lookup_cons]
  by_cases same : other = item.1
  · rw [if_pos same, beq_iff_eq.mpr same]
  · rw [if_neg same, beq_eq_false_iff_ne.mpr same]

theorem lookup_dictSet (key other : κ) (value : α) (items : List (κ × α)) :
    (dictSet key value items).lookup other = if other = key then some value else items.lookup other := by
  induction items with
  | nil => rw [dictSet, lookup_cons_ite]
  | cons item items ih =>
    rw [dictSet]
    by_cases here : item.1 = key
    · rw [if_pos here, lookup_cons_ite, lookup_cons_ite, here]
      split_ifs <;> rfl
    · rw [if_neg here, lookup_cons_ite, lookup_cons_ite, ih]
      grind

theorem lookup_dictSet_self (key : κ) (value : α) (items : List (κ × α)) :
    (dictSet key value items).lookup key = some value := by
  rw [lookup_dictSet, if_pos rfl]

theorem lookup_dictSet_of_ne (ne : other ≠ key) (value : α) (items : List (κ × α)) :
    (dictSet key value items).lookup other = items.lookup other := by
  rw [lookup_dictSet, if_neg ne]

/-- A deletion leaves the other keys as they are. -/
theorem lookup_filter_ne (key other : κ) (items : List (κ × α)) :
    (items.filter (·.1 ≠ key)).lookup other = if other = key then none else items.lookup other := by
  induction items with
  | nil => simp
  | cons item items ih =>
    by_cases gone : item.1 = key
    · rw [filter_cons_of_neg (by simpa using gone), ih, lookup_cons_ite, gone]
      split_ifs <;> rfl
    · rw [filter_cons_of_pos (by simpa using gone), lookup_cons_ite, lookup_cons_ite, ih]
      grind

theorem lookup_dictUpdate_of_ne (apart : ∀ entry ∈ entries, key ≠ entry.1) :
    (dictUpdate items entries).lookup key = items.lookup key := by
  induction entries generalizing items with
  | nil => rfl
  | cons entry entries ih =>
    refine Eq.trans (ih fun other later => apart other (mem_cons_of_mem _ later)) ?_
    exact lookup_dictSet_of_ne (apart entry mem_cons_self) _ _

theorem dictSet_of_absent (absent : items.lookup key = none) (value : α) :
    dictSet key value items = items ++ [(key, value)] := by
  induction items with
  | nil => rfl
  | cons item items ih =>
    rw [lookup_cons_ite] at absent
    split_ifs at absent with same
    rw [dictSet, if_neg (Ne.symm same), ih absent, cons_append]

omit [DecidableEq κ] in
theorem mem_of_lookup_eq_some (h : items.lookup key = some value) : (key, value) ∈ items := by
  obtain ⟨before, after, rfl, _⟩ := lookup_eq_some_iff.mp h
  exact mem_append_right _ mem_cons_self

omit [DecidableEq κ] in
theorem lookup_eq_none_iff_keys :
    items.lookup key = none ↔ key ∉ items.map Prod.fst := by
  rw [lookup_eq_none_iff]
  constructor
  · intro absent mem
    obtain ⟨item, there, same⟩ := mem_map.mp mem
    exact (bne_iff_ne.mp (absent item there)) same.symm
  · intro absent item mem
    rw [bne_iff_ne]
    rintro rfl
    exact absent (mem_map_of_mem mem)

omit [DecidableEq κ] in
theorem lookup_of_mem (unique : (items.map Prod.fst).Nodup) (mem : item ∈ items) :
    items.lookup item.1 = some item.2 := by
  obtain ⟨before, after, rfl⟩ := append_of_mem mem
  refine lookup_eq_some_iff.mpr ⟨before, after, rfl, fun other earlier => ?_⟩
  rw [map_append, nodup_append] at unique
  exact bne_iff_ne.mpr fun eq => unique.2.2 _ (mem_map_of_mem earlier) item.1 (by simp) eq.symm

/-- A dictionary of values stored under a key of their own. -/
structure Keyed (key : α → κ) where
  items : List (κ × α)
  keyed : ∀ item ∈ items, key item.2 = item.1
  unique : (items.map Prod.fst).Nodup

namespace Keyed

variable {key : α → κ} {dict : Keyed key} {k : κ}

/-- `items.get(k)`. -/
def get (dict : Keyed key) (k : κ) : Option α := dict.items.lookup k

/-- `items.values()`. -/
def values (dict : Keyed key) : List α := dict.items.map Prod.snd

/-- `items[key(value)] = value`. -/
def put (dict : Keyed key) (value : α) : Keyed key where
  items := dictSet (key value) value dict.items
  keyed item mem := by
    rcases mem_dictSet mem with new | old
    · rw [new]
    · exact dict.keyed item old
  unique := nodup_keys_dictSet dict.unique _ _

/-- `items.pop(k, None)`. -/
def erase (dict : Keyed key) (k : κ) : Keyed key where
  items := dict.items.filter fun item => item.1 ≠ k
  keyed item mem := dict.keyed item (mem_of_mem_filter mem)
  unique := dict.unique.sublist (filter_sublist.map _)

/-- `{key(value): value for value in values}`. -/
def ofValues (key : α → κ) (values : List α) : Keyed key := values.foldl put ⟨[], nofun, nodup_nil⟩

omit [DecidableEq κ] in
theorem key_of_get (found : dict.get k = some value) : key value = k :=
  dict.keyed _ (mem_of_lookup_eq_some found)

omit [DecidableEq κ] in
theorem mem_values_of_get (found : dict.get k = some value) :
    value ∈ dict.values :=
  mem_map.mpr ⟨_, mem_of_lookup_eq_some found, rfl⟩

omit [DecidableEq κ] in
theorem get_of_mem_values (mem : value ∈ dict.values) : dict.get (key value) = some value := by
  obtain ⟨items, keyed, unique⟩ := dict
  obtain ⟨⟨k, value⟩, there, rfl⟩ := mem_map.mp mem
  rw [show key value = k from keyed _ there]
  exact lookup_of_mem unique there

@[simp] theorem get_put_self (dict : Keyed key) (value : α) : (dict.put value).get (key value) = some value :=
  lookup_dictSet_self ..

theorem get_put_of_ne (ne : k ≠ key value) : (dict.put value).get k = dict.get k :=
  lookup_dictSet_of_ne ne ..

@[simp] theorem get_erase_self (dict : Keyed key) (k : κ) : (dict.erase k).get k = none := by
  rw [get, erase, lookup_filter_ne, if_pos rfl]

theorem get_erase_of_ne (ne : other ≠ k) : (dict.erase k).get other = dict.get other := by
  rw [get, erase, lookup_filter_ne, if_neg ne, get]

/-- Values with new keys are added one after the other. -/
theorem items_foldl_put {values : List α} (apart : (dict.items.map Prod.fst ++ values.map key).Nodup) :
    (values.foldl put dict).items = dict.items ++ values.map fun value => (key value, value) := by
  induction values generalizing dict with
  | nil => simp
  | cons value values ih =>
    have absent : dict.items.lookup (key value) = none := by
      rw [lookup_eq_none_iff_keys]
      exact fun mem => (nodup_append.mp apart).2.2 _ mem _ (by simp) rfl
    have added : (dict.put value).items = dict.items ++ [(key value, value)] := dictSet_of_absent absent value
    rw [foldl_cons, ih (by simpa [added] using apart), added]
    simp

theorem values_ofValues {values : List α} (unique : (values.map key).Nodup) :
    (ofValues key values).values = values := by
  rw [Keyed.values, ofValues, items_foldl_put (by simpa using unique)]
  simp [Function.comp_def]

omit [BEq κ] [LawfulBEq κ] in
theorem values_erase_sublist (dict : Keyed key) (k : κ) : (dict.erase k).values.Sublist dict.values :=
  filter_sublist.map _

end Keyed

end PersonalAssistant
