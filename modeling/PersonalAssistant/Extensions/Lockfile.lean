import PersonalAssistant.Domain.Value

/-!
# Dependency lockfiles

`_validate_lockfile` of `core/extensions/manifest.py` joins the lines of a lockfile that end
in a backslash and checks each joined line. What pip reads from the lines is a parameter with the
few properties that are used. The two part where a comment line ends in a backslash: the validator
joins it to the next line and skips both, while for pip a comment line is never continued.
-/

namespace PersonalAssistant

open List

namespace Lockfile

/-! ## Lines -/

/-- The characters at which `str.splitlines` breaks. -/
def isLineBreak (c : Char) : Bool :=
  let n := c.toNat
  (10 ≤ n && n ≤ 13) || (28 ≤ n && n ≤ 30) || n == 0x85 || n == 0x2028 || n == 0x2029

/-- The lines of a text, after the characters already read of the first, last one first. -/
def linesFrom : List Char → List Char → List (List Char)
  | read, [] => if read = [] then [] else [read.reverse]
  | read, '\r' :: '\n' :: rest => read.reverse :: linesFrom [] rest
  | read, c :: rest => if isLineBreak c then read.reverse :: linesFrom [] rest else linesFrom (c :: read) rest

/-- `text.splitlines()`. -/
def splitlines (text : List Char) : List (List Char) := linesFrom [] text

/-- `line.strip()`. -/
def stripped (line : List Char) : List Char :=
  ((line.dropWhile isPySpace).reverse.dropWhile isPySpace).reverse

/-- The line ends in a backslash. -/
def continues (line : List Char) : Bool := (stripped line).getLast? = some '\\'

/-- The first character of the line is a number sign. -/
def isComment (line : List Char) : Bool := (stripped line).head? = some '#'

/-! ## The validator -/

/-- The logical lines of `_validate_lockfile`, each with the number of its first line. -/
def logicalLines : Nat → Nat → List Char → List (List Char) → List (Nat × List Char)
  | _, start, buffer, [] => if buffer = [] then [] else [(start, buffer)]
  | number, start, buffer, raw :: rest =>
    let start := if buffer = [] then number else start
    if continues raw then logicalLines (number + 1) start (buffer ++ (stripped raw).dropLast ++ [' ']) rest
    else (start, buffer ++ stripped raw) :: logicalLines (number + 1) start [] rest

/-- The states of `_EXACT_VERSION_RE`. -/
inductive VersionState where
  | start
  | digits
  | dot
  | suffix
  | plus
  | local_
  | dead
  deriving DecidableEq

/-- One character of a version. -/
def VersionState.next (c : Char) : VersionState → VersionState
  | start => if c.isDigit then digits else dead
  | digits => if c.isDigit then digits else if c = '.' then dot else if c.isAlpha then suffix
    else if c = '+' then plus else dead
  | dot => if c.isDigit then digits else dead
  | suffix => if c.isAlphanum || c = '.' then suffix else if c = '+' then plus else dead
  | plus | local_ => if c.isAlphanum || c = '.' then local_ else dead
  | dead => dead

/-- `_EXACT_VERSION_RE.fullmatch(version)`. -/
def isExactVersion (version : List Char) : Bool :=
  match version.foldl (fun state c => state.next c) VersionState.start with
  | .digits | .suffix | .local_ => true
  | _ => false

/-- A character of a name. -/
def isNameChar (c : Char) : Bool := c.isAlphanum || c = '.' || c = '_' || c = '-'

/-- A character of the version in `_PINNED_REQUIREMENT_RE`. -/
def isVersionChar (c : Char) : Bool := !(['=', ';', ',', '<', '>', '!', '~', '*'].contains c || isPySpace c)

/-- What follows the name and its extras in `_PINNED_REQUIREMENT_RE`: the third group. -/
def afterName : List Char → Option (List Char)
  | '=' :: '=' :: version => if version ≠ [] ∧ version.all isVersionChar then some version else none
  | _ => none

/-- The third group of `_PINNED_REQUIREMENT_RE.fullmatch(requirement)`. -/
def pinnedVersion (requirement : List Char) : Option (List Char) :=
  match requirement with
  | [] => none
  | c :: rest =>
    if !c.isAlphanum then none
    else match rest.dropWhile isNameChar with
    | '[' :: more =>
      match more.span fun c => isNameChar c || c = ',' with
      | (_ :: _, ']' :: tail) => afterName tail
      | _ => none
    | tail => afterName tail

/-- The requirement pins one exact version. -/
def isPinned (requirement : List Char) : Bool := (pinnedVersion requirement).any isExactVersion

/-- `_SHA256_HASH_RE.fullmatch(token)`. -/
def isHash (token : List Char) : Bool :=
  token.take 14 = "--hash=sha256:".toList && (token.drop 14).length = 64 &&
    (token.drop 14).all fun c => "0123456789abcdef".toList.contains c

/-- What `_validate_lockfile` raises for a logical line, with its number. -/
inductive LockfileError where
  | notPlain (number : Nat)
  | notPinned (number : Nat)
  | noHash (number : Nat)
  | badHash (number : Nat)
  | indexError
  deriving DecidableEq, Repr

/-- The text of the error. -/
def LockfileError.message : LockfileError → String
  | notPlain number => "dependency_lock line " ++ toString number ++ " is not a plain pinned requirement"
  | notPinned number => "dependency_lock line " ++ toString number ++ " must pin one exact version with '=='"
  | noHash number => "dependency_lock line " ++ toString number ++ " must declare --hash=sha256:..."
  | badHash number => "dependency_lock line " ++ toString number ++ " has an unsupported hash token"
  | indexError => "list index out of range"

/-- The body of the second loop of `_validate_lockfile`. -/
def checkLine (number : Nat) (line : List Char) : Except LockfileError Unit :=
  if line = [] ∨ line.head? = some '#' then .ok ()
  else if line.contains ';' ∨ "://".toList <:+: line ∨ line.head? = some '-' then .error (.notPlain number)
  else match words line with
  | [] => .error .indexError
  | requirement :: hashes =>
    if !isPinned requirement then .error (.notPinned number)
    else if hashes = [] then .error (.noHash number)
    else if hashes.all isHash then .ok ()
    else .error (.badHash number)

/-- The second loop of `_validate_lockfile`. -/
def checkLines : List (Nat × List Char) → Except LockfileError Unit
  | [] => .ok ()
  | (number, line) :: rest => do
    checkLine number line
    checkLines rest

/-- `_validate_lockfile` of the text of the file. -/
def validateLockfile (text : List Char) : Except LockfileError Unit :=
  checkLines (logicalLines 1 0 [] (splitlines text))

/-- The requirement is pinned to one exact version and carries a SHA-256 hash. -/
def IsLocked : List (List Char) → Prop
  | [] => False
  | requirement :: options => isPinned requirement ∧ ∃ option ∈ options, isHash option

instance : DecidablePred IsLocked
  | [] => inferInstanceAs (Decidable False)
  | requirement :: options => inferInstanceAs (Decidable (isPinned requirement ∧ ∃ option ∈ options, isHash option))

/-! ## The blocks of a lockfile -/

/-- The lines in blocks: each ends with a line that is not continued, or with the text. -/
def blocks : List (List Char) → List (List (List Char))
  | [] => []
  | line :: lines =>
    if continues line then
      match blocks lines with
      | [] => [[line]]
      | block :: rest => (line :: block) :: rest
    else [line] :: blocks lines

/-- The logical line of a block. -/
def joined : List (List Char) → List Char
  | [] => []
  | line :: lines =>
    if continues line then (stripped line).dropLast ++ ' ' :: joined lines else stripped line ++ joined lines

/-- The joined line asks for nothing, or for one requirement with its hashes. -/
def IsPlain (line : List Char) : Prop :=
  line = [] ∨ line.head? = some '#' ∨ ∃ requirement options, words line = requirement :: options ∧
    isPinned requirement ∧
    options ≠ [] ∧ ∀ option ∈ options, isHash option

/-- White space is blanks only, and a continued line is no comment and ends in a blank and a backslash. -/
def isTidy (line : List Char) : Bool :=
  line.all (fun c => !isPySpace c || c = ' ') && (!continues line || (!isComment line && decide ([' ', '\\'] <:+ line)))

/-- What pip reads from the lines of a file, each requirement as its words. -/
structure Pip where
  requirements : List (List Char) → List (List (List Char))
  /-- Of tidy lines that are plain when they are joined, it reads nothing but what is written. -/
  written : ∀ lines, (∀ line ∈ lines, isTidy line) → (∀ block ∈ blocks lines, IsPlain (joined block)) →
    ∀ requirement ∈ requirements lines, requirement ≠ [] ∧
      ∃ block ∈ blocks lines, (joined block).head? ≠ some '#' ∧ words (joined block) = requirement
  /-- A comment line is dropped before lines are joined. -/
  comment : ∀ line lines, isComment line → requirements (line :: lines) = requirements lines
  /-- A bare name is a requirement of any version. -/
  bare : ∀ name, name ≠ [] → name.all Char.isAlphanum → [name] ∈ requirements [name]

/-- The validator checks one logical line for each block. -/
theorem logicalLines_blocks (number start : Nat) (buffer : List Char) (lines : List (List Char)) :
    (logicalLines number start buffer lines).map Prod.snd = match blocks lines with
      | [] => if buffer = [] then [] else [buffer]
      | block :: rest => (buffer ++ joined block) :: rest.map joined := by
  induction lines generalizing number start buffer with
  | nil =>
    unfold logicalLines blocks
    split <;> rfl
  | cons line lines ih =>
    unfold logicalLines blocks
    by_cases continued : continues line
    · simp only [continued, if_true, ih]
      cases found : blocks lines with
      | nil =>
        simp [joined, continued]
      | cons block rest => simp [joined, continued]
    · simp only [continued, Bool.false_eq_true, if_false, map_cons, ih]
      cases blocks lines <;> simp [joined, continued]

variable {number : Nat} {line : List Char}

/-- A line that passes the check is plain. -/
theorem checkLine_plain (ok : checkLine number line = .ok ()) : IsPlain line := by
  unfold checkLine at ok
  split at ok
  · rename_i skipped
    exact skipped.imp_right .inl
  · split at ok
    · cases ok
    · split at ok
      · cases ok
      · rename_i requirement options found
        split_ifs at ok with unpinned unhashed hashed
        exact .inr (.inr ⟨requirement, options, found, by simpa using unpinned, unhashed, all_eq_true.mp hashed⟩)

/-! ## What an accepted lockfile pins -/

theorem checkLines_each {lines : List (Nat × List Char)} (ok : checkLines lines = .ok ()) :
    ∀ line ∈ lines, checkLine line.1 line.2 = .ok () := by
  induction lines with
  | nil => intro line mem; cases mem
  | cons first rest ih =>
    obtain ⟨⟨⟩, here, later⟩ := bind_eq_ok ok
    exact forall_mem_cons.mpr ⟨here, ih later⟩

theorem accepted_blocks {text : List Char} (ok : validateLockfile text = .ok ()) :
    ∀ block ∈ blocks (splitlines text), ∃ number, checkLine number (joined block) = .ok () := by
  intro block mem
  have lines := logicalLines_blocks 1 0 [] (splitlines text)
  have found : joined block ∈ (logicalLines 1 0 [] (splitlines text)).map Prod.snd := by
    rw [lines]
    cases all : blocks (splitlines text) with
    | nil =>
      rw [all] at mem
      cases mem
    | cons first rest =>
      rw [all] at mem
      exact mem_map_of_mem mem
  obtain ⟨⟨number, line⟩, mem, same⟩ := mem_map.mp found
  obtain rfl : line = joined block := same
  exact ⟨number, checkLines_each ok _ mem⟩

/-- The line is one word, which is neither a comment nor continued. -/
def isWord (line : List Char) : Bool :=
  stripped line = line && words line = [line] && !continues line && !isComment line

/-- Letters and digits are one word, and no comment. -/
theorem isWord_of_letters {name : List Char} (some_ : name ≠ []) (letters : name.all Char.isAlphanum) :
    isWord name := by
  have plain : ∀ c ∈ name, isPySpace c = false ∧ c ≠ '#' ∧ c ≠ '\\' := by
    intro c mem
    have letter := all_eq_true.mp letters c mem
    simp only [Char.isAlphanum, Char.isAlpha, Char.isUpper, Char.isLower, Char.isDigit, Bool.or_eq_true,
      Bool.and_eq_true, decide_eq_true_eq, UInt32.le_iff_toNat_le, ge_iff_le] at letter
    have bounds : 48 ≤ c.toNat ∧ c.toNat ≤ 122 ∧ c.toNat ≠ 92 := by
      have code : c.toNat = c.val.toNat := rfl
      have upper : 'A'.val.toNat = 65 ∧ 'Z'.val.toNat = 90 := ⟨rfl, rfl⟩
      have lower : 'a'.val.toNat = 97 ∧ 'z'.val.toNat = 122 := ⟨rfl, rfl⟩
      have digit : '0'.val.toNat = 48 ∧ '9'.val.toNat = 57 := ⟨rfl, rfl⟩
      omega
    refine ⟨?_, ?_, ?_⟩
    · simp [isPySpace]
      omega
    · rintro rfl
      exact absurd bounds.1 (by decide)
    · rintro rfl
      exact absurd rfl bounds.2.2
  have start (line : List Char) (spaceless : ∀ c ∈ line, isPySpace c = false) : line.dropWhile isPySpace = line := by
    cases line with
    | nil => rfl
    | cons c rest => rw [dropWhile_cons_of_neg (by simp [spaceless c mem_cons_self])]
  have whole : stripped name = name := by
    rw [stripped, start name fun c mem => (plain c mem).1, start _ fun c mem => (plain c (mem_reverse.mp mem)).1,
      reverse_reverse]
  have one : words name = [name] := by
    simp [words, splitOnP_eq_singleton fun c mem => (plain c mem).1, some_]
  have last : continues name = false := by
    simp only [continues, whole, decide_eq_false_iff_not]
    exact fun last => (plain _ (mem_of_getLast? last)).2.2 rfl
  have first : isComment name = false := by
    simp only [isComment, whole, decide_eq_false_iff_not]
    exact fun first => (plain _ (mem_of_head? first)).2.1 rfl
  simp [isWord, whole, one, last, first]

/-- The one word behind comment lines, if that is all there is. -/
def readWord (lines : List (List Char)) : List (List (List Char)) :=
  match lines.dropWhile isComment with
  | [line] => if isWord line then [[line]] else []
  | _ => []

theorem mem_readWord {lines requirement} (read : requirement ∈ readWord lines) :
    ∃ line, lines.dropWhile isComment = [line] ∧ isWord line ∧ requirement = [line] := by
  unfold readWord at read
  split at read
  · rename_i line left
    split_ifs at read with word
    · exact ⟨line, left, word, mem_singleton.mp read⟩
    · cases read
  · cases read

/-- A tidy comment line is a block of its own, so the word behind the comments is one too. -/
theorem word_mem_blocks {lines : List (List Char)} {line : List Char} (tidy : ∀ line ∈ lines, isTidy line)
    (left : lines.dropWhile isComment = [line]) (word : isWord line) : [line] ∈ blocks lines := by
  induction lines with
  | nil => cases left
  | cons head lines ih =>
    obtain ⟨here, later⟩ := forall_mem_cons.mp tidy
    cases comment : isComment head with
    | true =>
      rw [dropWhile_cons_of_pos comment] at left
      have ends : continues head = false := by simp_all [isTidy]
      simpa [blocks, ends] using .inr (ih later left)
    | false =>
      rw [dropWhile_cons_of_neg (by simp [comment])] at left
      cases left
      simp_all [isWord, blocks]

theorem readWord_written {lines requirement} (tidy : ∀ line ∈ lines, isTidy line)
    (read : requirement ∈ readWord lines) : requirement ≠ [] ∧
      ∃ block ∈ blocks lines, (joined block).head? ≠ some '#' ∧ words (joined block) = requirement := by
  obtain ⟨line, left, word, rfl⟩ := mem_readWord read
  have here := word_mem_blocks tidy left word
  simp only [isWord, isComment, Bool.and_eq_true, decide_eq_true_eq, Bool.not_eq_true',
    decide_eq_false_iff_not] at word
  obtain ⟨⟨⟨whole, one⟩, last⟩, first⟩ := word
  have text : joined [line] = line := by simp [joined, last, whole]
  rw [whole] at first
  exact ⟨cons_ne_nil _ _, [line], here, text.symm ▸ first, text.symm ▸ one⟩

theorem readWord_comment (line : List Char) (lines : List (List Char)) (comment : isComment line) :
    readWord (line :: lines) = readWord lines := by
  simp [readWord, comment]

theorem readWord_bare (name : List Char) (some_ : name ≠ []) (letters : name.all Char.isAlphanum) :
    [name] ∈ readWord [name] := by
  have word := isWord_of_letters some_ letters
  simp_all [readWord, isWord]

/-- A reader that knows comments and single words only: the assumptions can be met. -/
def wordReader : Pip where
  requirements := readWord
  written _ tidy _ _ read := readWord_written tidy read
  comment := readWord_comment
  bare := readWord_bare

/-- A lockfile of one requirement, over two lines, below a comment. -/
def sampleLock : List Char :=
  "# pinned\nname==1.0 \\\n  --hash=sha256:0000000000000000000000000000000000000000000000000000000000000000\n".toList

end Lockfile

end PersonalAssistant
