import PersonalAssistant.Browser.Sessions

/-!
# The risk of a page and the signals it was made of

The companion answers a snapshot with a list of signals. `_parse_signals` looks at the first 64 of
them and drops those without a code, and `_split_signals` drops a prohibited term whose detail names
no category. What is dropped does not count, and a signal put in front pushes the last one out.
-/

namespace PersonalAssistant.Signals

open BrowserSessionBroker List

variable {broker : BrowserSessionBroker} {declared : RiskLevel} {items : List Value} {n : Nat}

/-- The risk that the broker computes from the signals of a page. -/
def computedRisk (broker : BrowserSessionBroker) (declared : RiskLevel) (items : List Value) : RiskLevel :=
  let signals := splitSignals (broker.parseSignals (.list items))
  (assessRisk declared signals.1 signals.2).risk

/-- The risk of a raw signal, as `_parse_signals` reads it. -/
def rawRisk (broker : BrowserSessionBroker) (item : Value) : RiskLevel :=
  parseRisk (broker.host.getStr item "risk" "EXTERNAL_WRITE")

/-- The rank that a signal raises the risk to. -/
def level (signal : RiskSignal) : Nat :=
  if signal.code ≠ "PROHIBITED_TERM" then riskRank signal.risk
  else if signal.detail ∈ ProhibitedCategory.values.map (·.2) then 3 else 0

/-- What an entry counts for: nothing without a code or as a prohibited term of no known category. -/
def heard (broker : BrowserSessionBroker) (item : Value) : Nat :=
  let code := takeChars 64 (broker.host.getStr item "code" "")
  if item.isMapping = false ∨ code = "" then 0
  else if code ≠ "PROHIBITED_TERM" then riskRank (rawRisk broker item)
  else if takeChars 200 (broker.host.getStr item "detail" "") ∈ ProhibitedCategory.values.map (·.2) then 3 else 0

/-- One of the first 63 entries counts for a rank; the lowest needs none. -/
def Outranked (broker : BrowserSessionBroker) (items : List Value) (n : Nat) : Prop :=
  n = 0 ∨ ∃ item ∈ items.take 63, n ≤ heard broker item

/-- An entry is passed over: it comes after the first 63, or counts for less than it says. -/
def PassedOver (broker : BrowserSessionBroker) (index : Nat) (item : Value) : Prop :=
  63 ≤ index ∨ heard broker item < riskRank (rawRisk broker item)

theorem riskRank_le (risk : RiskLevel) : riskRank risk ≤ 3 := by
  cases risk <;> decide

theorem le_escalateRisk {base observed : RiskLevel} :
    n ≤ riskRank (escalateRisk base observed) ↔ n ≤ riskRank base ∨ n ≤ riskRank observed := by
  unfold escalateRisk
  split_ifs <;> omega

theorem le_foldl_escalateRisk {others : List RiskSignal} {base : RiskLevel} :
    n ≤ riskRank (others.foldl (fun risk signal => escalateRisk risk signal.risk) base) ↔
      n ≤ riskRank base ∨ ∃ signal ∈ others, n ≤ riskRank signal.risk := by
  induction others generalizing base with
  | nil => simp
  | cons signal others ih => rw [foldl_cons, ih, le_escalateRisk, or_assoc, exists_mem_cons_iff]

/-- A prohibited term counts if it names a category. -/
theorem categories_eq_nil {signals : List RiskSignal} : (splitSignals signals).1 = [] ↔
    ∀ signal ∈ signals, signal.code = "PROHIBITED_TERM" → signal.detail ∉ ProhibitedCategory.values.map (·.2) := by
  simp only [splitSignals, flatMap_eq_nil_iff, mem_filter, decide_eq_true_eq, map_eq_nil_iff,
    filter_eq_nil_iff, mem_map, not_exists, not_and, and_imp]

/-- The computed risk is the highest of the declared one and of what the signals raise it to. -/
theorem le_computedRisk_signals : n ≤ riskRank (computedRisk broker declared items) ↔
    n ≤ riskRank declared ∨ ∃ signal ∈ broker.parseSignals (.list items), n ≤ level signal := by
  have highest := riskRank_le declared
  simp only [computedRisk, assessRisk, le_foldl_escalateRisk]
  generalize broker.parseSignals (.list items) = signals
  constructor
  · rintro (base | ⟨signal, mem, le⟩)
    · split_ifs at base with none_
      · exact .inl base
      · simp only [categories_eq_nil, not_forall, not_not] at none_
        obtain ⟨signal, mem, term, known⟩ := none_
        exact .inr ⟨signal, mem, by simpa [level, term, known, riskRank] using base⟩
    · simp only [splitSignals, mem_filter, decide_eq_true_eq] at mem
      exact .inr ⟨signal, mem.1, by rwa [level, if_pos mem.2]⟩
  · rintro (base | ⟨signal, mem, le⟩)
    · refine .inl ?_
      split_ifs
      · exact base
      · exact base.trans highest
    · rw [level] at le
      split_ifs at le with other known
      · exact .inr ⟨signal, by simp [splitSignals, mem, other], le⟩
      · have some_ : (splitSignals signals).1 ≠ [] :=
          fun none_ => categories_eq_nil.mp none_ signal mem (not_not.mp other) known
        exact .inl (by rwa [if_neg some_])
      · exact .inl (by omega)

theorem mem_parseSignals {signal : RiskSignal} : signal ∈ broker.parseSignals (.list items) ↔
    ∃ item ∈ items.take 64, signal ∈ broker.parseSignals (.list [item]) := by
  simp only [parseSignals, Value.mappings, Value.sequence?, Option.getD_some, mem_filterMap, mem_filter, and_assoc]
  refine exists_congr fun item => and_congr_right fun _ => ?_
  cases mapping : item.isMapping <;> simp [mapping]

theorem le_heard {item : Value} (pos : 0 < n) :
    (∃ signal ∈ broker.parseSignals (.list [item]), n ≤ level signal) ↔ n ≤ heard broker item := by
  unfold heard
  by_cases quiet : item.isMapping = false ∨ takeChars 64 (broker.host.getStr item "code" "") = ""
  · rw [if_pos quiet]
    rcases quiet with plain | codeless
    · simp [parseSignals, Value.mappings, Value.sequence?, plain]
      omega
    · cases mapping : item.isMapping <;> simp
        [parseSignals, Value.mappings, Value.sequence?, mapping, codeless] <;> omega
  · rw [if_neg quiet]
    obtain ⟨mapping, coded⟩ := not_or.mp quiet
    simp [parseSignals, Value.mappings, Value.sequence?, Bool.eq_true_of_not_eq_false mapping, coded, level, rawRisk]

/-- The computed risk in terms of the entries. -/
theorem le_computedRisk : n ≤ riskRank (computedRisk broker declared items) ↔
    n ≤ riskRank declared ∨ ∃ item ∈ items.take 64, n ≤ heard broker item := by
  rcases Nat.eq_zero_or_pos n with rfl | pos
  · simp
  · rw [le_computedRisk_signals]
    refine or_congr_right ⟨?_, ?_⟩
    · rintro ⟨signal, mem, le⟩
      obtain ⟨item, first, parsed⟩ := mem_parseSignals.mp mem
      exact ⟨item, first, (le_heard pos).mp ⟨signal, parsed, le⟩⟩
    · rintro ⟨item, first, le⟩
      obtain ⟨signal, parsed, le⟩ := (le_heard pos).mpr le
      exact ⟨signal, mem_parseSignals.mpr ⟨item, first, parsed⟩, le⟩

/-- One signal more pushes out one at most. -/
theorem mem_take_insert {before after : List Value} {item added : Value} (mem : item ∈ (before ++ after).take 63) :
    item ∈ (before ++ added :: after).take 64 := by
  rw [take_append, mem_append] at mem ⊢
  rcases mem with first | second
  · exact .inl ((take_sublist_take_left (by omega)).subset first)
  · rcases Nat.lt_or_ge before.length 64 with short | long
    · rw [show 64 - before.length = 63 - before.length + 1 by omega, take_succ_cons]
      exact .inr (mem_cons_of_mem _ second)
    · rw [show 63 - before.length = 0 by omega] at second
      simp at second

theorem mem_take_of_index {count index : Nat} {item : Value} (less : index < count)
    (found : items[index]? = some item) :
    item ∈ items.take count :=
  mem_of_getElem? (by rwa [getElem?_take_of_lt less])

/-- **Risk of signals.** The computed risk is at least that of every signal and is never lowered by
one more, exactly if one of the first 63 entries counts for the risk of each signal that is passed
over, and for what the 64th entry counts for. -/
theorem computedRisk_bounds_iff (broker : BrowserSessionBroker) (strings : ∀ s, broker.host.pyStr (.str s) = s)
    (items : List Value) :
    ((∀ declared, ∀ item ∈ items, item.isMapping →
        riskRank (rawRisk broker item) ≤ riskRank (computedRisk broker declared items)) ∧
      ∀ declared before after added, items = before ++ after → added.isMapping →
        riskRank (computedRisk broker declared items) ≤ riskRank
          (computedRisk broker declared (before ++ added :: after))) ↔
      ∀ (index : Nat) (item : Value), items[index]? = some item → item.isMapping → PassedOver broker index item →
        Outranked broker items (riskRank (rawRisk broker item)) ∧
          (index = 63 → Outranked broker items (heard broker item)) := by
  constructor
  · rintro ⟨bounds, never⟩
    -- an entry without a code in front: the 64th entry is not looked at any more
    have early {n : Nat} (le : n ≤ riskRank (computedRisk broker .read items)) : Outranked broker items n := by
      have pushed := le.trans (never .read [] items (.dict []) rfl rfl)
      rcases le_computedRisk.mp pushed with zero | ⟨item, mem, reached⟩
      · exact .inl (Nat.le_zero.mp zero)
      · rcases mem_cons.mp mem with rfl | first
        · have codeless : broker.host.getStr (.dict []) "code" "" = "" := strings ""
          simp only [heard, codeless] at reached
          exact .inl (Nat.le_zero.mp reached)
        · exact .inr ⟨item, first, reached⟩
    intro index item found mapping _
    refine ⟨early (bounds .read item (mem_of_getElem? found) mapping), fun last => early ?_⟩
    exact le_computedRisk.mpr (.inr ⟨item, mem_take_of_index (by omega) found, Nat.le_refl _⟩)
  · intro covered
    have more {item : Value} (mem : item ∈ items.take 63) : item ∈ items.take 64 :=
      (take_sublist_take_left (by decide)).subset mem
    refine ⟨fun declared item mem mapping => ?_, ?_⟩
    · obtain ⟨index, found⟩ := mem_iff_getElem?.mp mem
      by_cases passed : PassedOver broker index item
      · rcases (covered index item found mapping passed).1 with zero | ⟨other, early, le⟩
        · exact zero ▸ Nat.zero_le _
        · exact le_computedRisk.mpr (.inr ⟨other, more early, le⟩)
      · obtain ⟨first, counts⟩ := not_or.mp passed
        exact le_computedRisk.mpr (.inr ⟨item, mem_take_of_index (by omega) found, not_lt.mp counts⟩)
    · rintro declared before after added rfl -
      rcases le_computedRisk.mp (Nat.le_refl (riskRank (computedRisk broker declared (before ++ after)))) with base |
        ⟨item, mem, le⟩
      · exact le_computedRisk.mpr (.inl base)
      · obtain ⟨index, found⟩ := mem_iff_getElem?.mp mem
        rw [getElem?_take] at found
        split_ifs at found with less
        have kept {other : Value} (early : other ∈ (before ++ after).take 63)
            (le : riskRank (computedRisk broker declared (before ++ after)) ≤ heard broker other) :
            riskRank (computedRisk broker declared (before ++ after)) ≤
              riskRank (computedRisk broker declared (before ++ added :: after)) :=
          le_computedRisk.mpr (.inr ⟨other, mem_take_insert early, le⟩)
        rcases Nat.lt_or_ge index 63 with first | last
        · exact kept (mem_take_of_index first found) le
        · cases mapping : item.isMapping with
          | false =>
            rw [heard, if_pos (.inl mapping)] at le
            omega
          | true =>
            rcases (covered index item found mapping (.inl last)).2 (by omega) with zero | ⟨other, early, reached⟩
            · omega
            · exact kept early (le.trans reached)

/-- A signal of the companion. -/
def rawSignal (code detail risk : String) : Value :=
  .dict [("code", .str code), ("detail", .str detail), ("risk", .str risk)]

/-- A prohibited term of an unknown category does no harm after a prohibited signal. -/
theorem computedRisk_bounds_sample : 3 ≤ riskRank (computedRisk sampleBroker .read
    [rawSignal "B" "" "PROHIBITED", rawSignal "PROHIBITED_TERM" "LOTTERY" "PROHIBITED"]) := by
  refine ((computedRisk_bounds_iff sampleBroker (fun _ => rfl) _).mpr ?_).1 .read
    (rawSignal "B" "" "PROHIBITED") mem_cons_self rfl
  intro index item found _ _
  refine ⟨.inr ⟨_, mem_cons_self, ?_⟩, ?_⟩
  · exact (riskRank_le _).trans (by decide +kernel)
  · rintro rfl
    cases found

/-- A prohibited term of an unknown category is dropped, and so is what comes after 64 entries. -/
theorem signals_dropped :
    computedRisk sampleBroker .read [rawSignal "PROHIBITED_TERM" "LOTTERY" "PROHIBITED"] = .read ∧
      computedRisk sampleBroker .read (List.replicate 63 (rawSignal "A" "" "READ") ++ [rawSignal "B" "" "PROHIBITED"]) =
        .prohibited ∧
      computedRisk sampleBroker .read (List.replicate 64 (rawSignal "A" "" "READ") ++ [rawSignal "B" "" "PROHIBITED"]) =
        .read := by
  decide +kernel

end PersonalAssistant.Signals
