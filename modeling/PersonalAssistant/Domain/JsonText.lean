import PersonalAssistant.Domain.Value

/-!
# The JSON text of nested strings

Digests are taken of JSON texts, so what a digest fixes is what its text fixes. The text of a
value built from strings, sequences and mappings can be cancelled from the front of any longer
text: it determines the value and where it ends.
-/

namespace PersonalAssistant

open List

/-! ## Strings -/

/-- The value of a hexadecimal digit. -/
def hexValue (c : Char) : Nat :=
  if c.isDigit then c.toNat - 48 else c.toNat - 87

theorem hexValue_digitChar {n : Nat} (h : n < 16) : hexValue (Nat.digitChar n) = n := by
  have all : ∀ n : Fin 16, hexValue (Nat.digitChar n) = n := by decide
  exact all ⟨n, h⟩

/-- Read the rest of an escape after its backslash. -/
def unescapeRest : List Char → Option (Char × List Char)
  | 'u' :: '0' :: '0' :: high :: low :: rest => some (Char.ofNat (hexValue high * 16 + hexValue low), rest)
  | 'n' :: rest => some ('\n', rest)
  | 'r' :: rest => some ('\r', rest)
  | 't' :: rest => some ('\t', rest)
  | 'b' :: rest => some (Char.ofNat 8, rest)
  | 'f' :: rest => some (Char.ofNat 12, rest)
  | c :: rest => some (c, rest)
  | [] => none

/-- Read one character of a JSON string; there is none before the closing quote. -/
def unescapeChar : List Char → Option (Char × List Char)
  | [] => none
  | c :: rest => if c = '\\' then unescapeRest rest else if c = '"' then none else some (c, rest)

/-- An escaped character is read back. -/
theorem unescapeChar_escape (c : Char) (rest : List Char) :
    unescapeChar ((escapeChar c).toList ++ rest) = some (c, rest) := by
  have here : Char.ofNat c.toNat = c := Char.ofNat_toNat c
  unfold escapeChar
  split_ifs with h₁ h₂ h₃ h₄ h₅ h₆ h₇ h₈ h₉
  · subst h₁; rfl
  · subst h₂; rfl
  · subst h₃; rfl
  · subst h₄; rfl
  · subst h₅; rfl
  · rw [← here, h₆]; rfl
  · rw [← here, h₇]; rfl
  · rw [String.toList_append, String.toList_ofList, String.toList_ofList]
    show some (Char.ofNat (hexValue '0' * 16 + hexValue (Nat.digitChar c.toNat)), rest) = some (c, rest)
    rw [hexValue_digitChar h₈, show hexValue '0' * 16 + c.toNat = c.toNat from Nat.zero_add _, here]
  · rw [String.toList_append, String.toList_ofList, String.toList_ofList]
    show some (Char.ofNat (hexValue '1' * 16 + hexValue (Nat.digitChar (c.toNat - 16))), rest) = some (c, rest)
    rw [hexValue_digitChar (by omega), show hexValue '1' * 16 + (c.toNat - 16) = c.toNat by
      show 16 + (c.toNat - 16) = c.toNat
      omega, here]
  · rw [String.toList_ofList]
    show unescapeChar (c :: rest) = some (c, rest)
    rw [unescapeChar, if_neg h₂, if_neg h₁]

theorem escapeChar_cancel {c d : Char} {x y : List Char} (h : (escapeChar c).toList ++ x = (escapeChar d).toList ++ y) :
    c = d ∧ x = y := by
  have both := congrArg unescapeChar h
  rw [unescapeChar_escape, unescapeChar_escape] at both
  exact Prod.mk.inj (Option.some.inj both)

/-- The characters of a JSON string, without the opening quote. -/
def stringTail (chars : List Char) (rest : List Char) : List Char :=
  chars.flatMap (fun c => (escapeChar c).toList) ++ '"' :: rest

/-- A quoted text ends where it ends: what follows can be cancelled. -/
theorem stringTail_cancel {s t x y : List Char} (h : stringTail s x = stringTail t y) : s = t ∧ x = y := by
  have closes (z : List Char) (c : Char) (u : List Char) : '"' :: z ≠ (escapeChar c).toList ++ u := by
    intro same
    have both := congrArg unescapeChar same
    rw [unescapeChar_escape] at both
    cases both
  unfold stringTail at h
  induction s generalizing t with
  | nil =>
    cases t with
    | nil => exact ⟨rfl, (List.cons.inj h).2⟩
    | cons d t =>
      rw [flatMap_nil, nil_append, flatMap_cons, append_assoc] at h
      exact absurd h (closes x d _)
  | cons c s ih =>
    cases t with
    | nil =>
      rw [flatMap_nil, nil_append, flatMap_cons, append_assoc] at h
      exact absurd h.symm (closes y c _)
    | cons d t =>
      rw [flatMap_cons, flatMap_cons, append_assoc, append_assoc] at h
      obtain ⟨rfl, rest⟩ := escapeChar_cancel h
      obtain ⟨rfl, ends⟩ := ih rest
      exact ⟨rfl, ends⟩

theorem quoteJson_toList (s : String) (rest : List Char) :
    (quoteJson s).toList ++ rest = '"' :: stringTail s.toList rest := by
  rw [quoteJson, String.toList_append, String.toList_append, String.toList_join, flatMap_map, append_assoc,
    append_assoc]
  rfl

/-! ## Sequences and mappings -/

mutual

/-- The value is built from strings, lists and mappings alone. -/
def Value.isTextual : Value → Bool
  | .str _ => true
  | .list items => Value.areTextual items
  | .dict entries => Value.entriesTextual entries
  | _ => false

def Value.areTextual : List Value → Bool
  | [] => true
  | item :: items => item.isTextual && Value.areTextual items

def Value.entriesTextual : List (String × Value) → Bool
  | [] => true
  | (_, item) :: entries => item.isTextual && Value.entriesTextual entries

end

mutual

/-- The characters of the text of such a value, before a rest. -/
def textBefore (rest : List Char) : Value → List Char
  | .str s => '"' :: stringTail s.toList rest
  | .list items => '[' :: itemsBefore rest items
  | .dict entries => '\x7b' :: entriesBefore rest entries
  | _ => rest

/-- Those of the items and the closing bracket. -/
def itemsBefore (rest : List Char) : List Value → List Char
  | [] => ']' :: rest
  | item :: items => textBefore (moreItemsBefore rest items) item

/-- Those of further items. -/
def moreItemsBefore (rest : List Char) : List Value → List Char
  | [] => ']' :: rest
  | item :: items => ',' :: textBefore (moreItemsBefore rest items) item

def entriesBefore (rest : List Char) : List (String × Value) → List Char
  | [] => '\x7d' :: rest
  | (key, item) :: entries => '"' :: stringTail key.toList (':' :: textBefore (moreEntriesBefore rest entries) item)

def moreEntriesBefore (rest : List Char) : List (String × Value) → List Char
  | [] => '\x7d' :: rest
  | (key, item) :: entries =>
    ',' :: '"' :: stringTail key.toList (':' :: textBefore (moreEntriesBefore rest entries) item)

end

theorem intercalate_comma (text : String) (texts : List String) :
    (",".intercalate (text :: texts)).toList = text.toList ++ texts.flatMap fun t => ',' :: t.toList := by
  induction texts generalizing text with
  | nil => simp
  | cons next texts ih =>
    rw [String.intercalate_cons_cons, String.toList_append, String.toList_append, ih, flatMap_cons,
      append_assoc]
    rfl

mutual

/-- `json.dumps` writes that text. -/
theorem jsonDumps_text : (v : Value) → v.isTextual →
    ∃ text, jsonDumps v = .ok text ∧ ∀ rest, text.toList ++ rest = textBefore rest v
  | .str s, _ => ⟨quoteJson s, by rw [jsonDumps], fun rest => by rw [quoteJson_toList, textBefore]⟩
  | .list items, h => by
    rw [Value.isTextual] at h
    obtain ⟨texts, ok, all⟩ := dumpItems_text items h
    refine ⟨"[" ++ ",".intercalate texts ++ "]", by rw [jsonDumps, ok]; rfl, fun rest => ?_⟩
    rw [textBefore, ← (all rest).1, String.toList_append, String.toList_append, append_assoc, append_assoc]
    rfl
  | .dict entries, h => by
    rw [Value.isTextual] at h
    obtain ⟨texts, ok, all⟩ := dumpEntries_text entries h
    refine ⟨"\x7b" ++ ",".intercalate texts ++ "\x7d", by rw [jsonDumps, ok]; rfl, fun rest => ?_⟩
    rw [textBefore, ← (all rest).1, String.toList_append, String.toList_append, append_assoc, append_assoc]
    rfl
  | .none, h | .bool _, h | .int _, h | .float _, h | .tuple _, h | .other _, h => by
    cases h

theorem dumpItems_text : (items : List Value) → Value.areTextual items → ∃ texts, dumpItems items = .ok texts ∧
    ∀ rest, (",".intercalate texts).toList ++ ']' :: rest = itemsBefore rest items ∧
      (texts.flatMap fun t => ',' :: t.toList) ++ ']' :: rest = moreItemsBefore rest items
  | [], _ => ⟨[], by rw [dumpItems], fun rest =>
      ⟨by rw [itemsBefore, String.intercalate_nil]; rfl, by rw [moreItemsBefore]; rfl⟩⟩
  | item :: items, h => by
    rw [Value.areTextual, Bool.and_eq_true] at h
    obtain ⟨text, ok, each⟩ := jsonDumps_text item h.1
    obtain ⟨texts, oks, all⟩ := dumpItems_text items h.2
    refine ⟨text :: texts, by rw [dumpItems, ok, oks]; rfl, fun rest => ?_⟩
    have first : text.toList ++ ((texts.flatMap fun t => ',' :: t.toList) ++ ']' :: rest) =
        textBefore (moreItemsBefore rest items) item := by
      rw [(all rest).2, each]
    constructor
    · rw [intercalate_comma, append_assoc, first, itemsBefore]
    · rw [flatMap_cons, cons_append, cons_append, append_assoc, first, moreItemsBefore]

theorem dumpEntries_text : (entries : List (String × Value)) → Value.entriesTextual entries →
    ∃ texts, dumpEntries entries = .ok texts ∧
    ∀ rest, (",".intercalate texts).toList ++ '\x7d' :: rest = entriesBefore rest entries ∧
      (texts.flatMap fun t => ',' :: t.toList) ++ '\x7d' :: rest = moreEntriesBefore rest entries
  | [], _ => ⟨[], by rw [dumpEntries], fun rest =>
      ⟨by rw [entriesBefore, String.intercalate_nil]; rfl, by rw [moreEntriesBefore]; rfl⟩⟩
  | (key, item) :: entries, h => by
    rw [Value.entriesTextual, Bool.and_eq_true] at h
    obtain ⟨text, ok, each⟩ := jsonDumps_text item h.1
    obtain ⟨texts, oks, all⟩ := dumpEntries_text entries h.2
    refine ⟨(quoteJson key ++ ":" ++ text) :: texts, by rw [dumpEntries, ok, oks]; rfl, fun rest => ?_⟩
    have first : (quoteJson key ++ ":" ++ text).toList ++ ((texts.flatMap fun t => ',' :: t.toList) ++ '\x7d' :: rest) =
        '"' :: stringTail key.toList (':' :: textBefore (moreEntriesBefore rest entries) item) := by
      rw [(all rest).2, String.toList_append, String.toList_append, append_assoc, append_assoc, each,
        quoteJson_toList]
      rfl
    constructor
    · rw [intercalate_comma, append_assoc, first, entriesBefore]
    · rw [flatMap_cons, cons_append, cons_append, append_assoc, first, moreEntriesBefore]

end

variable {x y : List Char}

theorem textBefore_ne_bracket (v : Value) (h : v.isTextual) : textBefore x v ≠ ']' :: y := by
  intro same
  have heads := congrArg List.head? same
  cases v with
  | str s => exact absurd (Option.some.inj heads) (by decide)
  | list items => exact absurd (Option.some.inj heads) (by decide)
  | dict entries => exact absurd (Option.some.inj heads) (by decide)
  | _ => cases h

/-- Items that are alike are alike after a comma, since no text begins with a bracket. -/
theorem moreItemsBefore_eq {vs ws : List Value} (hv : Value.areTextual vs) (hw : Value.areTextual ws)
    (h : itemsBefore x vs = itemsBefore y ws) : moreItemsBefore x vs = moreItemsBefore y ws := by
  cases vs <;> cases ws <;> rw [itemsBefore, itemsBefore] at h <;> rw [moreItemsBefore, moreItemsBefore]
  case nil.nil => exact h
  case cons.cons => rw [h]
  case nil.cons w ws =>
    rw [Value.areTextual, Bool.and_eq_true] at hw
    exact absurd h.symm (textBefore_ne_bracket w hw.1)
  case cons.nil v vs =>
    rw [Value.areTextual, Bool.and_eq_true] at hv
    exact absurd h (textBefore_ne_bracket v hv.1)

theorem moreEntriesBefore_eq {es fs : List (String × Value)} (h : entriesBefore x es = entriesBefore y fs) :
    moreEntriesBefore x es = moreEntriesBefore y fs := by
  cases es <;> cases fs <;> rw [entriesBefore, entriesBefore] at h <;> rw [moreEntriesBefore, moreEntriesBefore]
  case nil.nil => exact h
  case cons.cons => rw [h]
  all_goals exact absurd (List.cons.inj h).1 (by decide)

mutual

/-- **Cancellation.** A text determines its value and where it ends. -/
theorem textBefore_cancel {x y : List Char} : (v w : Value) → v.isTextual → w.isTextual →
    textBefore x v = textBefore y w → v = w ∧ x = y
  | .str s, .str t, _, _, h => by
    rw [textBefore, textBefore] at h
    obtain ⟨same, rest⟩ := stringTail_cancel (List.cons.inj h).2
    exact ⟨congrArg Value.str (String.toList_injective same), rest⟩
  | .list items, .list others, hv, hw, h => by
    rw [textBefore, textBefore] at h
    rw [Value.isTextual] at hv hw
    obtain ⟨same, rest⟩ := moreItemsBefore_cancel items others hv hw (moreItemsBefore_eq hv hw (List.cons.inj h).2)
    exact ⟨congrArg Value.list same, rest⟩
  | .dict entries, .dict others, hv, hw, h => by
    rw [textBefore, textBefore] at h
    rw [Value.isTextual] at hv hw
    obtain ⟨same, rest⟩ := moreEntriesBefore_cancel entries others hv hw (moreEntriesBefore_eq (List.cons.inj h).2)
    exact ⟨congrArg Value.dict same, rest⟩
  | .str _, .list _, _, _, h | .str _, .dict _, _, _, h | .list _, .str _, _, _, h | .list _, .dict _, _, _, h
  | .dict _, .str _, _, _, h | .dict _, .list _, _, _, h => by
    rw [textBefore, textBefore] at h
    exact absurd (List.cons.inj h).1 (by decide)
  | .none, _, hv, _, _ | .bool _, _, hv, _, _ | .int _, _, hv, _, _ | .float _, _, hv, _, _ | .tuple _, _, hv, _, _
  | .other _, _, hv, _, _ => by cases hv
  | _, .none, _, hw, _ | _, .bool _, _, hw, _ | _, .int _, _, hw, _ | _, .float _, _, hw, _ | _, .tuple _, _, hw, _
  | _, .other _, _, hw, _ => by cases hw

theorem moreItemsBefore_cancel {x y : List Char} : (vs ws : List Value) → Value.areTextual vs → Value.areTextual ws →
    moreItemsBefore x vs = moreItemsBefore y ws → vs = ws ∧ x = y
  | [], [], _, _, h => by
    rw [moreItemsBefore, moreItemsBefore] at h
    exact ⟨rfl, (List.cons.inj h).2⟩
  | [], _ :: _, _, _, h | _ :: _, [], _, _, h => by
    rw [moreItemsBefore, moreItemsBefore] at h
    exact absurd (List.cons.inj h).1 (by decide)
  | v :: vs, w :: ws, hv, hw, h => by
    rw [moreItemsBefore, moreItemsBefore] at h
    rw [Value.areTextual, Bool.and_eq_true] at hv hw
    obtain ⟨rfl, rest⟩ := textBefore_cancel v w hv.1 hw.1 (List.cons.inj h).2
    obtain ⟨rfl, ends⟩ := moreItemsBefore_cancel vs ws hv.2 hw.2 rest
    exact ⟨rfl, ends⟩

theorem moreEntriesBefore_cancel {x y : List Char} : (es fs : List (String × Value)) → Value.entriesTextual es →
    Value.entriesTextual fs → moreEntriesBefore x es = moreEntriesBefore y fs → es = fs ∧ x = y
  | [], [], _, _, h => by
    rw [moreEntriesBefore, moreEntriesBefore] at h
    exact ⟨rfl, (List.cons.inj h).2⟩
  | [], (_, _) :: _, _, _, h | (_, _) :: _, [], _, _, h => by
    rw [moreEntriesBefore, moreEntriesBefore] at h
    exact absurd (List.cons.inj h).1 (by decide)
  | (key, v) :: es, (other, w) :: fs, he, hf, h => by
    rw [moreEntriesBefore, moreEntriesBefore] at h
    rw [Value.entriesTextual, Bool.and_eq_true] at he hf
    obtain ⟨same, rest⟩ := stringTail_cancel (List.cons.inj (List.cons.inj h).2).2
    obtain ⟨rfl, more⟩ := textBefore_cancel v w he.1 hf.1 (List.cons.inj rest).2
    obtain ⟨rfl, ends⟩ := moreEntriesBefore_cancel es fs he.2 hf.2 more
    exact ⟨by rw [String.toList_injective same], ends⟩

end

theorem jsonDumps_injective {v w : Value} (hv : v.isTextual) (hw : w.isTextual) (same : jsonDumps v = jsonDumps w) :
    v = w := by
  obtain ⟨text, ok, all⟩ := jsonDumps_text v hv
  obtain ⟨other, ok', all'⟩ := jsonDumps_text w hw
  have eq : text = other := Except.ok.inj (ok.symm.trans (same.trans ok'))
  have both : textBefore [] v = textBefore [] w := by rw [← all, ← all', eq]
  exact (textBefore_cancel v w hv hw both).1

end PersonalAssistant
