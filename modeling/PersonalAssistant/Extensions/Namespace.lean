import PersonalAssistant.Domain.Value

/-!
# Data namespaces

`data_namespace` of `core/extensions/models.py` names the database schema of an extension
after its id. A short id is escaped character by character and can be read back. A long one
keeps forty characters of that text, an underscore and a digest. The cut can fall right
before the closing underscore of an escape; the underscore in front of the digest then closes
it, and the name is also the one of a short id that ends in the digest.
-/

namespace PersonalAssistant.Namespace

open List

/-- `[a-z0-9]`, in `_ID_RE` and in `safe_characters` alike. -/
def isSafe (c : Char) : Bool := "abcdefghijklmnopqrstuvwxyz0123456789".toList.contains c

/-- `[._-]`. -/
def isSeparator (c : Char) : Bool := c = '.' || c = '_' || c = '-'

/-- The rest of an id inside a segment: whether `_ID_RE` accepts, given that a separator has
been read or not. -/
def endsAsId : Bool → List Char → Bool
  | parted, [] => parted
  | parted, [c] => isSafe c && parted
  | parted, c :: d :: rest =>
    if isSafe c then endsAsId parted (d :: rest) else isSeparator c && isSafe d && endsAsId true rest

/-- `_ID_RE.fullmatch(id)`. -/
def isId : List Char → Bool
  | [] => false
  | c :: rest => c.isLower && isSafe c && endsAsId false rest

/-- The text of one character: itself, or `f"_{ord(character):x}_"`. -/
def encodeChar (c : Char) : List Char :=
  if isSafe c then [c] else '_' :: (Nat.toDigits 16 c.toNat ++ ['_'])

/-- `encoded`. -/
def encoded (id : List Char) : List Char := id.flatMap encodeChar

/-- `hashlib.sha256(extension_id.encode("utf-8")).hexdigest()[:16]`. -/
def digest (host : Host) (id : List Char) : List Char := (host.sha256Hex (String.ofList id)).toList.take 16

/-- `data_namespace`. -/
def dataNamespace (host : Host) (id : List Char) : List Char :=
  if ("ext_".toList ++ encoded id).length ≤ 63 then "ext_".toList ++ encoded id
  else "ext_".toList ++ ((encoded id).take 40 ++ '_' :: digest host id)

/-! ## Escapes -/

/-- A character that occurs in ids. -/
abbrev IdChar (c : Char) : Prop := isSafe c ∨ isSeparator c

variable {id text : List Char} {host : Host} {c e : Char} {n : Nat}

theorem ne_bar (safe : isSafe c) : c ≠ '_' := by
  rintro rfl
  exact absurd safe (by decide)

theorem encodeChar_safe (safe : isSafe c) : encodeChar c = [c] := if_pos safe

theorem encodeChar_separator (separator : isSeparator c) :
    ∃ x y, encodeChar c = ['_', x, y, '_'] ∧ isSafe x ∧ isSafe y ∧
      (c = '.' ∧ y = 'e' ∨ c = '_' ∧ y = 'f' ∨ c = '-' ∧ y = 'd') := by
  obtain (rfl | rfl) | rfl : (c = '.' ∨ c = '_') ∨ c = '-' := by simpa [isSeparator] using separator
  · exact ⟨'2', 'e', by decide⟩
  · exact ⟨'5', 'f', by decide⟩
  · exact ⟨'2', 'd', by decide⟩

@[simp] theorem encoded_cons (c : Char) (id : List Char) : encoded (c :: id) = encodeChar c ++ encoded id := rfl

@[simp] theorem encoded_append (id id' : List Char) : encoded (id ++ id') = encoded id ++ encoded id' :=
  flatMap_append

theorem encoded_safe (safe : ∀ c ∈ text, isSafe c) : encoded text = text := by
  induction text with
  | nil => rfl
  | cons c text ih =>
    rw [encoded_cons, encodeChar_safe (safe c mem_cons_self), ih fun d mem => safe d (mem_cons_of_mem _ mem)]
    rfl

/-- The text of a character is read off the front of a longer text in one way. -/
theorem encodeChar_append_inj {x y : List Char} (idChar : IdChar c) (idChar' : IdChar e)
    (same : encodeChar c ++ x = encodeChar e ++ y) : c = e ∧ x = y := by
  obtain safe | separator := idChar <;> obtain safe' | separator' := idChar'
  · simpa [encodeChar_safe, safe, safe'] using same
  · obtain ⟨_, _, eq, _⟩ := encodeChar_separator separator'
    simp [encodeChar_safe safe, eq, ne_bar safe] at same
  · obtain ⟨_, _, eq, _⟩ := encodeChar_separator separator
    simp [encodeChar_safe safe', eq, (ne_bar safe').symm] at same
  · obtain ⟨_, _, eq, _, _, which⟩ := encodeChar_separator separator
    obtain ⟨_, _, eq', _, _, which'⟩ := encodeChar_separator separator'
    grind

/-- The encoding of ids is injective. -/
theorem encoded_inj {a b : List Char} (ids : ∀ c ∈ a, IdChar c) (ids' : ∀ c ∈ b, IdChar c)
    (same : encoded a = encoded b) : a = b := by
  have nonempty : ∀ c, IdChar c → encodeChar c ≠ [] := by
    intro c idChar
    obtain safe | separator := idChar
    · simp [encodeChar_safe safe]
    · obtain ⟨_, _, eq, _⟩ := encodeChar_separator separator
      simp [eq]
  induction a generalizing b with
  | nil =>
    cases b with
    | nil => rfl
    | cons e b => simp [encoded, nonempty e (ids' e mem_cons_self)] at same
  | cons c a ih =>
    cases b with
    | nil => simp [encoded, nonempty c (ids c mem_cons_self)] at same
    | cons e b =>
      obtain ⟨rfl, rest⟩ := encodeChar_append_inj (ids c mem_cons_self) (ids' e mem_cons_self) same
      rw [ih (fun d mem => ids d (mem_cons_of_mem _ mem)) (fun d mem => ids' d (mem_cons_of_mem _ mem)) rest]

/-! ## Where the cut falls -/

/-- The first `n` characters of the text of `a` end right before the closing underscore of a
separator's escape, and `b` goes on with `tail` after that separator. -/
def CutAt (n : Nat) (tail a b : List Char) : Prop :=
  ∃ head separator rest, a = head ++ separator :: rest ∧ isSeparator separator ∧
    (encoded head).length + 3 = n ∧ b = head ++ separator :: tail

theorem CutAt.cons {n : Nat} {tail a b : List Char} (c : Char) (cut : CutAt n tail a b) :
    CutAt ((encodeChar c).length + n) tail (c :: a) (c :: b) := by
  obtain ⟨head, separator, rest, rfl, isSep, size, rfl⟩ := cut
  refine ⟨c :: head, separator, rest, rfl, isSep, ?_, rfl⟩
  simp only [encoded_cons, length_append]
  omega

/-- Only the text of a separator, cut right before its end, is completed by an underscore. -/
theorem cut_inside {tail rest : List Char} (idChar : IdChar c) (idChar' : IdChar e)
    (noBar : '_' ∉ tail) (inside : n < (encodeChar c).length)
    (same : encodeChar e ++ rest = (encodeChar c).take n ++ '_' :: tail) :
    n = 3 ∧ isSeparator c ∧ e = c ∧ rest = tail := by
  -- the text of `e` opens with an underscore and has the next one as its fourth character
  have opens : ∀ text, encodeChar e ++ rest = '_' :: text → ∃ x y, text = x :: y :: '_' :: rest ∧ x ≠ '_' ∧
    y ≠ '_' := by
    intro text eq
    obtain safe | separator := idChar'
    · simp [encodeChar_safe safe, ne_bar safe] at eq
    · obtain ⟨x, y, escape, safeX, safeY, _⟩ := encodeChar_separator separator
      exact ⟨x, y, by simpa [escape] using eq.symm, ne_bar safeX, ne_bar safeY⟩
  obtain safe | separator := idChar
  · simp only [encodeChar_safe safe, length_singleton, Nat.lt_one_iff] at inside
    subst inside
    obtain ⟨_, _, rfl, _⟩ := opens _ same
    simp at noBar
  · obtain ⟨x, y, escape, _⟩ := encodeChar_separator separator
    simp only [escape, length_cons, length_nil] at inside
    obtain rfl | rfl | rfl | rfl : n = 0 ∨ n = 1 ∨ n = 2 ∨ n = 3 := by omega
    · obtain ⟨_, _, rfl, _⟩ := opens _ same
      simp at noBar
    · rw [escape] at same
      simp_all
    · rw [escape] at same
      simp_all
    · have whole : encodeChar e ++ rest = encodeChar c ++ tail := by simpa [escape] using same
      exact ⟨rfl, separator, encodeChar_append_inj idChar' (.inr separator) whole⟩

/-- A cut text closed by an underscore and followed by plain characters is the text of an id
only if the underscore closes an escape. -/
theorem cutAt_of_encoded {tail a b : List Char} (ids : ∀ c ∈ a, IdChar c) (ids' : ∀ c ∈ b, IdChar c)
    (plain : ∀ c ∈ tail, isSafe c) (inside : n < (encoded a).length)
    (same : encoded b = (encoded a).take n ++ '_' :: tail) : CutAt n tail a b := by
  have noBar : '_' ∉ tail := fun mem => absurd (plain _ mem) (by decide)
  induction a generalizing n b with
  | nil => simp [encoded] at inside
  | cons c a ih =>
    cases b with
    | nil => simp [encoded] at same
    | cons e b =>
      simp only [forall_mem_cons] at ids ids'
      rw [encoded_cons, encoded_cons] at same
      by_cases whole : (encodeChar c).length ≤ n
      · obtain ⟨m, rfl⟩ := Nat.exists_eq_add_of_le whole
        rw [take_length_add_append, append_assoc] at same
        obtain ⟨rfl, rest⟩ := encodeChar_append_inj ids'.1 ids.1 same
        simp only [encoded_cons, length_append] at inside
        exact (ih ids.2 ids'.2 (by omega) rest).cons e
      · rw [take_append_of_le_length (by omega)] at same
        obtain ⟨rfl, separator, rfl, rest⟩ := cut_inside ids.1 ids'.1 noBar (by omega) same
        rw [← encoded_safe plain] at rest
        rw [encoded_inj ids'.2 (fun d mem => .inl (plain d mem)) rest]
        exact ⟨[], e, a, rfl, separator, rfl, rfl⟩

/-! ## Names -/

theorem idChar_of_isId (accepted : isId id) : ∀ c ∈ id, IdChar c := by
  have inside : ∀ parted rest, endsAsId parted rest → ∀ c ∈ rest, IdChar c := by
    intro parted rest
    fun_induction endsAsId parted rest <;> grind
  cases id with
  | nil => simp
  | cons c rest => simp only [isId, Bool.and_eq_true] at accepted; grind

theorem digest_safe (host : Host) (id : List Char) : ∀ c ∈ digest host id, isSafe c := by
  have inside : ∀ c ∈ "0123456789abcdef".toList, isSafe c := all_eq_true.mp (by decide)
  intro c mem
  have hex := all_eq_true.mp (host.sha256Hex_hex (String.ofList id)) c (mem_of_mem_take mem)
  exact inside c (by simpa using hex)

theorem digest_length (host : Host) (id : List Char) : (digest host id).length = 16 := by
  have full := host.sha256Hex_length (String.ofList id)
  rw [← String.length_toList] at full
  simp [digest, full]

/-- A character of lower-case identifiers. -/
abbrev NameChar (c : Char) : Prop := isSafe c ∨ c = '_'

/-- A lower-case identifier of the database of at most 63 bytes that starts with `ext_`. -/
structure IsNamespace (name : List Char) : Prop where
  starts : "ext_".toList <+: name
  fits : (name.map Char.utf8Size).sum ≤ 63
  lower : ∀ c ∈ name, NameChar c

theorem nameChar_encoded (ids : ∀ c ∈ id, IdChar c) : ∀ d ∈ encoded id, NameChar d := by
  intro d mem
  obtain ⟨c, own, there⟩ := mem_flatMap.mp mem
  obtain safe | separator := ids c own
  · rw [encodeChar_safe safe, mem_singleton] at there
    exact .inl (there ▸ safe)
  · obtain ⟨x, y, eq, safeX, safeY, _⟩ := encodeChar_separator separator
    grind

theorem ext_length (text : List Char) : ("ext_".toList ++ text).length = 4 + text.length := length_append

theorem isNamespace_of (chars : ∀ c ∈ text, NameChar c) (size : text.length ≤ 59) :
    IsNamespace ("ext_".toList ++ text) := by
  have lower : ∀ c ∈ "ext_".toList ++ text, NameChar c := by
    have start : ∀ c ∈ "ext_".toList, NameChar c := all_iff_forall_prop.mp (by decide)
    intro c mem
    exact (mem_append.mp mem).elim (start c) (chars c)
  refine ⟨prefix_append _ _, ?_, lower⟩
  have narrow : ∀ c ∈ '_' :: "abcdefghijklmnopqrstuvwxyz0123456789".toList, c.utf8Size = 1 :=
    all_iff_forall_prop.mp (by decide)
  have ones : ("ext_".toList ++ text).map Char.utf8Size = ("ext_".toList ++ text).map fun _ => 1 :=
    map_congr_left fun c mem => narrow c (by have := lower c mem; simp_all [NameChar, isSafe, or_comm])
  rw [ones, map_const', sum_replicate_nat, ext_length]
  omega

theorem dataNamespace_short (short : (encoded id).length ≤ 59) :
    dataNamespace host id = "ext_".toList ++ encoded id :=
  if_pos (by rw [ext_length]; omega)

theorem dataNamespace_long (long : 59 < (encoded id).length) :
    dataNamespace host id = "ext_".toList ++ ((encoded id).take 40 ++ '_' :: digest host id) :=
  if_neg (by rw [ext_length]; omega)

/-- Every name is a lower-case identifier that the database does not cut. -/
theorem isNamespace_dataNamespace (host : Host) (ids : ∀ c ∈ id, IdChar c) : IsNamespace (dataNamespace host id) := by
  have chars := nameChar_encoded ids
  obtain short | long := (Nat.lt_or_ge 59 (encoded id).length).symm
  · rw [dataNamespace_short short]
    exact isNamespace_of chars short
  · rw [dataNamespace_long long]
    refine isNamespace_of (fun c mem => ?_) ?_
    · obtain kept | rfl | tail : c ∈ (encoded id).take 40 ∨ c = '_' ∨ c ∈ digest host id := by simpa using mem
      · exact chars c (mem_of_mem_take kept)
      · exact .inr rfl
      · exact .inl (digest_safe host id c tail)
    · simp only [length_append, length_take, length_cons, digest_length]
      omega

/-- The long id `a` and the short id `b` share a name: `b` has the characters of `a` up to the
separator in whose escape the cut falls, and then the digest of `a`. -/
def Continues (host : Host) (a b : List Char) : Prop :=
  59 < (encoded a).length ∧ CutAt 40 (digest host a) a b

theorem Continues.same {a b : List Char} (continues : Continues host a b) :
    dataNamespace host a = dataNamespace host b := by
  obtain ⟨long, head, separator, rest, rfl, isSep, size, rfl⟩ := continues
  obtain ⟨x, y, escape, _⟩ := encodeChar_separator isSep
  have plain := encoded_safe (digest_safe host (head ++ separator :: rest))
  rw [dataNamespace_long long, dataNamespace_short]
  · have cut : 40 = (encoded head).length + 3 := size.symm
    simp [plain, escape, cut, take_length_add_append]
  · simp [plain, escape, digest_length]
    omega

/-- A long and a short id with one name. -/
theorem continues_of_same {a b : List Char} (ids : ∀ c ∈ a, IdChar c) (ids' : ∀ c ∈ b, IdChar c)
    (long : 59 < (encoded a).length) (short : (encoded b).length ≤ 59)
    (same : dataNamespace host a = dataNamespace host b) : Continues host a b := by
  rw [dataNamespace_long long, dataNamespace_short short] at same
  exact ⟨long, cutAt_of_encoded ids ids' (digest_safe host a) (by omega) (append_cancel_left same).symm⟩

/-- Two accepted ids whose digests differ have different names, each a lower-case identifier of
at most 63 bytes, exactly if neither is the other one cut at a separator with the digest put
after it. -/
theorem dataNamespace_apart_iff (host : Host) {a b : List Char} (accepted : isId a) (accepted' : isId b) (ne : a ≠ b)
    (digests : digest host a ≠ digest host b) :
    (dataNamespace host a ≠ dataNamespace host b ∧
        IsNamespace (dataNamespace host a) ∧ IsNamespace (dataNamespace host b)) ↔
      ¬Continues host a b ∧ ¬Continues host b a := by
  have ids := idChar_of_isId accepted
  have ids' := idChar_of_isId accepted'
  constructor
  · rintro ⟨apart, _⟩
    exact ⟨fun continues => apart continues.same, fun continues => apart continues.same.symm⟩
  · rintro ⟨forth, back⟩
    refine ⟨fun same => ?_, isNamespace_dataNamespace host ids, isNamespace_dataNamespace host ids'⟩
    obtain short | long := (Nat.lt_or_ge 59 (encoded a).length).symm <;>
      obtain short' | long' := (Nat.lt_or_ge 59 (encoded b).length).symm
    · rw [dataNamespace_short short, dataNamespace_short short'] at same
      exact ne (encoded_inj ids ids' (append_cancel_left same))
    · exact back (continues_of_same ids' ids long' short same.symm)
    · exact forth (continues_of_same ids ids' long short' same)
    · rw [dataNamespace_long long, dataNamespace_long long'] at same
      have tails := (append_inj (append_cancel_left same) (by simp only [length_take]; omega)).2
      exact digests (List.cons.inj tails).2

/-- An id whose text is cut in the escape of its separator. -/
def longId : List Char := "aaaaaaaaaaaaaaaaaaaaaaaaaaaaaaaaaaaaa.bbbbbbbbbbbbbbbbbbbb".toList

/-- The id that ends in the digest of `longId`. -/
def digestId : List Char := "aaaaaaaaaaaaaaaaaaaaaaaaaaaaaaaaaaaaa.61c78ff06a89fc05".toList

/-- A host with the SHA-256 digests of the two ids. -/
def digestHost : Host where
  sha256Hex text := if text =
    String.ofList longId then "61c78ff06a89fc05779e0249fb5b0c00bb7232aac3a07c7fea4a2111154e63c9"
    else "6161ee470f90038afa15ead500d800bd7fa269af3db5f3acc12bcff99c9ef6c2"
  jsonLoads _ := .error (.other "JSONDecodeError")
  formatG _ := ""
  sha256Hex_length text := by split <;> decide
  sha256Hex_hex text := by split <;> decide

/-- Two extensions of the sample have namespaces of their own. -/
theorem dataNamespace_apart_sample :
    dataNamespace digestHost longId ≠ dataNamespace digestHost "nju.smail".toList := by
  refine ((dataNamespace_apart_iff digestHost (by decide) (by decide) (by decide) (by decide +kernel)).mpr ⟨?_, ?_⟩).1
  · rintro ⟨_, head, separator, rest, -, -, -, eq⟩
    have sizes := congrArg List.length eq
    rw [length_append, length_cons, digest_length, show "nju.smail".toList.length = 9 by decide] at sizes
    omega
  · exact fun continues => absurd continues.1 (by decide)

/-- Two extensions that share one. -/
theorem dataNamespace_shared :
    isId longId ∧ isId digestId ∧ longId ≠ digestId ∧ digest digestHost longId ≠ digest digestHost digestId ∧
      dataNamespace digestHost longId = dataNamespace digestHost digestId := by
  decide +kernel

end PersonalAssistant.Namespace
