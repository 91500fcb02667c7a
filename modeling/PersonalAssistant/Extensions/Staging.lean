import Mathlib

/-!
# Where an archive is unpacked

`LocalArtifactStager._extract_archive` joins the components of each entry's name to the new staging
directory. It looks for a drive at the start of the whole name and for `..` among the components.
Under Windows rules every component may name a drive: another one than the directory's replaces the
path joined so far, and what follows the drive may be `..`.
-/

namespace PersonalAssistant.Staging

open List

abbrev Name : Type := List Char

/-- `zipfile.ZipInfo`, with the number of bytes that reading the entry yields. -/
structure ZipInfo where
  filename : Name
  fileSize : Nat
  isDir : Bool
  yields : Nat
deriving DecidableEq

/-- `IGNORED_ARTIFACT_PARTS`. -/
def ignoredArtifactParts : List Name := [".git".toList, ".venv".toList, "__pycache__".toList, ".pytest_cache".toList]

/-- `info.filename.replace("\\", "/")`. -/
def ZipInfo.name (info : ZipInfo) : Name := info.filename.map fun c => if c = '\\' then '/' else c

/-- The components of the name. -/
def ZipInfo.parts (info : ZipInfo) : List Name := (info.name.splitOn '/').filter fun part => part ≠ [] ∧ part ≠ ['.']

/-- `_WINDOWS_ABSOLUTE.match`. -/
def windowsAbsolute : Name → Bool
  | c :: ':' :: _ => c.isAlpha
  | _ => false

/-- The names that are refused. -/
def ZipInfo.unsafePath (info : ZipInfo) : Bool :=
  info.parts.isEmpty || info.name.head? = some '/' || windowsAbsolute info.name || info.parts.contains ['.', '.']

/-- The loop over the entries: those that are unpacked. `ManifestValidationError` is its message, and
`repr` the one of Python. -/
def extractEach (repr : Name → String) (maxExtractBytes total : Nat) : List ZipInfo → Except String (List ZipInfo)
  | [] => .ok []
  | info :: infos =>
    if info.unsafePath then .error s!"archive contains an unsafe path: {repr info.filename}"
    else if info.parts.any (ignoredArtifactParts.contains ·) then extractEach repr maxExtractBytes total infos
    else if maxExtractBytes < total + info.fileSize then .error "archive exceeds the extraction size limit"
    else do
      let rest ← extractEach repr maxExtractBytes (total + info.fileSize) infos
      .ok (info :: rest)

/-- `_extract_archive`. -/
def extractArchive (repr : Name → String) (maxExtractBytes : Nat) (infos : List ZipInfo) :
    Except String (List ZipInfo) :=
  if 100000 < infos.length then .error "archive contains too many entries"
  else extractEach repr maxExtractBytes 0 infos

/-- The bytes that are written. -/
def written (infos : List ZipInfo) : Nat := ((infos.filter (!·.isDir)).map (·.yields)).sum

/-! ## Paths -/

/-- A path of `pathlib`: under POSIX rules the drive is empty. -/
structure Path where
  drive : Name
  root : Bool
  parts : List Name

/-- The drive of a component without separators, and the rest: `ntpath.splitroot`. -/
def splitDrive : Name → Name × Name
  | c :: ':' :: rest => ([c, ':'], rest)
  | part => ([], part)

/-- What a joined text adds to the components of a path. -/
def component (text : Name) : List Name := if text = [] ∨ text = ['.'] then [] else [text]

variable (lower : Name → Name)

/-- The component names another drive than the path's. -/
abbrev Away (p : Path) (part : Name) : Prop :=
  (splitDrive part).1 ≠ [] ∧ lower (splitDrive part).1 ≠ lower p.drive

/-- One step of `ntpath.join`. -/
def Path.joinWindows (p : Path) (part : Name) : Path :=
  let drive := (splitDrive part).1
  if Away lower p part then ⟨drive, false, component (splitDrive part).2⟩
  else ⟨if drive = [] then p.drive else drive, p.root, p.parts ++ component (splitDrive part).2⟩

/-- `joinpath` under Windows rules. -/
def Path.joinpathWindows (p : Path) (parts : List Name) : Path := parts.foldl (Path.joinWindows lower) p

/-- `joinpath` under POSIX rules. -/
def Path.joinpathPosix (p : Path) (parts : List Name) : Path := { p with parts := p.parts ++ parts }

/-- Where further components lead from a directory. -/
def walk (stack rest : List Name) : List Name :=
  rest.foldl (fun stack name => if name = ['.', '.'] then stack.dropLast else stack ++ [name]) stack

/-- The path adds the components to the target. -/
structure Extends (lower : Name → Name) (target p : Path) (rest : List Name) : Prop where
  drive : lower p.drive = lower target.drive
  root : p.root = target.root
  parts : p.parts = target.parts ++ rest

/-- The path leads to the directory or below it. -/
def Inside (target p : Path) : Prop :=
  ∃ rest, Extends lower target p rest ∧ target.parts <+: walk target.parts rest

/-- What the extraction opens or makes for the destinations: they themselves (a file is opened, and
`mkdir` is called for a directory whether it exists or not), and those directories on the way that
were missing, which the ones above the target are not. -/
structure Makes (target : Path) (destinations : List Path) (made : Path → Prop) : Prop where
  ends : ∀ p ∈ destinations, made p
  way : ∀ q, made q → ∃ p ∈ destinations, ∃ n,
    (target.parts <+: p.parts → target.parts.length ≤ n) ∧ q = { p with parts := p.parts.take n }

/-- More `..` than names come somewhere, from the given depth. -/
def climbs (depth : Nat) : List Name → Bool
  | [] => false
  | name :: rest =>
    if name = ['.', '.'] then depth = 0 || climbs (depth - 1) rest else climbs (depth + 1) rest

/-- What the components are after their drives. -/
def added (parts : List Name) : List Name := parts.flatMap fun part => component (splitDrive part).2

/-- The components name no drive but the directory's, and what follows the drives does not climb out. -/
abbrev Stays (target : Path) (parts : List Name) : Prop :=
  (∀ part ∈ parts, ¬Away lower target part) ∧ climbs 0 (added parts) = false

/-! ## What is accepted -/

section Accepted

variable {repr : Name → String} {maxExtractBytes total : Nat} {infos kept : List ZipInfo}

/-- What the checks let through: entries of the archive, without `..`, within the limit. -/
theorem extractEach_safe (accepted : extractEach repr maxExtractBytes total infos = .ok kept) :
    (∀ info ∈ kept, info ∈ infos ∧ ['.', '.'] ∉ info.parts) ∧
    total + (kept.map (·.fileSize)).sum ≤ max total maxExtractBytes := by
  induction infos generalizing total kept with
  | nil =>
    cases accepted
    exact ⟨nofun, Nat.le_max_left ..⟩
  | cons info infos ih =>
    simp only [extractEach] at accepted
    split_ifs at accepted with safe ignored fits
    · obtain ⟨each, sum⟩ := ih accepted
      exact ⟨fun other mem => ⟨mem_cons_of_mem _ (each other mem).1, (each other mem).2⟩, sum⟩
    · cases rest : extractEach repr maxExtractBytes (total + info.fileSize) infos with
      | error message => simp [rest, bind, Except.bind] at accepted
      | ok later =>
        obtain rfl : info :: later = kept := by simpa [rest, bind, Except.bind] using accepted
        obtain ⟨each, sum⟩ := ih rest
        constructor
        · refine forall_mem_cons.mpr ⟨⟨mem_cons_self, ?_⟩, ?_⟩
          · simp only [ZipInfo.unsafePath, Bool.or_eq_true, not_or, contains_iff_mem] at safe
            exact safe.2
          · exact fun other mem => ⟨mem_cons_of_mem _ (each other mem).1, (each other mem).2⟩
        · simp only [map_cons, sum_cons]
          omega

theorem written_le (bounded : ∀ info ∈ kept, info.yields ≤ info.fileSize) :
    written kept ≤ (kept.map (·.fileSize)).sum := by
  unfold written
  induction kept with
  | nil => simp
  | cons info kept ih =>
    obtain ⟨first, rest⟩ := forall_mem_cons.mp bounded
    have later := ih rest
    cases dir : info.isDir <;> simp [dir] <;> omega

end Accepted

/-! ## Where it is put -/

section Placed

variable {lower : Name → Name} {target p : Path} {stack above rest parts dirs : List Name} {name part : Name}

theorem walk_cons (first : Name) :
    walk stack (first :: rest) = walk (if first = ['.', '.'] then stack.dropLast else stack ++ [first]) rest := rfl

theorem walk_plain (plain : ['.', '.'] ∉ rest) : walk stack rest = stack ++ rest := by
  induction rest generalizing stack with
  | nil => exact (append_nil stack).symm
  | cons first rest ih =>
    rw [mem_cons, not_or] at plain
    rw [walk_cons, if_neg (Ne.symm plain.1), ih plain.2, append_assoc]
    rfl

/-- Once the directory is left, it is not entered again under a name that does not occur. -/
theorem walk_outside (fresh : name ∉ rest) (outside : ¬dirs ++ [name] <+: stack) :
    ¬dirs ++ [name] <+: walk stack rest := by
  induction rest generalizing stack with
  | nil => exact outside
  | cons first rest ih =>
    rw [mem_cons, not_or] at fresh
    refine ih fresh.2 fun inside => outside ?_
    simp only at inside
    split_ifs at inside
    · have shorter := dropLast_prefix stack
      exact inside.trans shorter
    · rcases prefix_concat_iff.mp inside with same | within
      · exact absurd (append_inj' same rfl).2 (by simpa using fresh.1)
      · exact within

theorem walk_inside_iff (above : List Name) (fresh : name ∉ rest) :
    dirs ++ [name] <+: walk (dirs ++ [name] ++ above) rest ↔ climbs above.length rest = false := by
  induction rest generalizing above with
  | nil => simp [walk, climbs]
  | cons first rest ih =>
    rw [mem_cons, not_or] at fresh
    rw [walk_cons, climbs]
    split_ifs with up
    · rcases eq_nil_or_concat above with rfl | ⟨above, last, rfl⟩
      · have left : ¬dirs ++ [name] <+: walk dirs rest :=
          walk_outside fresh.2 fun inside => by simpa [Nat.not_succ_le_self] using inside.length_le
        simpa using left
      · simpa [← append_assoc, dropLast_concat] using ih above fresh.2
    · simpa using ih (above ++ [first]) fresh.2

theorem walk_target_iff (named : target.parts = dirs ++ [name]) (fresh : name ∉ rest) :
    target.parts <+: walk target.parts rest ↔ climbs 0 rest = false := by
  simpa [named] using walk_inside_iff [] fresh

theorem climbs_take {depth : Nat} (stays : climbs depth rest = false) (n : Nat) :
    climbs depth (rest.take n) = false := by
  induction rest generalizing depth n with
  | nil => simpa using stays
  | cons first rest ih =>
    cases n with
    | zero => rfl
    | succ n =>
      rw [climbs] at stays
      rw [take_succ_cons, climbs]
      split_ifs at stays ⊢
      · rw [Bool.or_eq_false_iff] at stays ⊢
        exact ⟨stays.1, ih stays.2 n⟩
      · exact ih stays n

theorem joinWindows_extends (same : ¬Away lower p part) :
    Extends lower p (p.joinWindows lower part) (component (splitDrive part).2) := by
  rw [Path.joinWindows, if_neg same]
  refine ⟨?_, rfl, rfl⟩
  split_ifs with none_
  · rfl
  · exact not_not.mp fun ne => same ⟨none_, ne⟩

theorem joinpathWindows_extends (same : ∀ part ∈ parts, ¬Away lower p part) :
    Extends lower p (p.joinpathWindows lower parts) (added parts) := by
  induction parts generalizing p with
  | nil => exact ⟨rfl, rfl, (append_nil p.parts).symm⟩
  | cons part parts ih =>
    obtain ⟨first, rest⟩ := forall_mem_cons.mp same
    have step := joinWindows_extends first
    have later := ih (p := p.joinWindows lower part) (by simpa only [Away, step.drive] using rest)
    refine ⟨later.drive.trans step.drive, later.root.trans step.root, later.parts.trans ?_⟩
    rw [step.parts, append_assoc]
    rfl

/-- Of the path before another drive was named nothing is left. -/
theorem mem_joinpathWindows (fresh : name ∉ added parts) (mem : name ∈ (p.joinpathWindows lower parts).parts) :
    name ∈ p.parts ∧ ∀ part ∈ parts, ¬Away lower p part := by
  induction parts generalizing p with
  | nil => exact ⟨mem, nofun⟩
  | cons part parts ih =>
    obtain ⟨first, rest⟩ := not_or.mp (fresh ∘ mem_append.mpr)
    obtain ⟨held, later⟩ := ih rest mem
    by_cases away : Away lower p part
    · rw [Path.joinWindows, if_pos away] at held
      exact absurd held first
    · have step := joinWindows_extends away
      rw [step.parts] at held
      refine ⟨(mem_append.mp held).resolve_right first, forall_mem_cons.mpr ⟨away, ?_⟩⟩
      simpa only [Away, step.drive] using later

/-- An entry is put inside the directory exactly if its components stay there. -/
theorem inside_joinpathWindows_iff (named : target.parts = dirs ++ [name]) (fresh : name ∉ added parts) :
    Inside lower target (target.joinpathWindows lower parts) ↔ Stays lower target parts := by
  constructor
  · rintro ⟨rest, joined, inside⟩
    have held : name ∈ (target.joinpathWindows lower parts).parts := by simp [joined.parts, named]
    have same := (mem_joinpathWindows fresh held).2
    obtain rfl := append_cancel_left (joined.parts.symm.trans (joinpathWindows_extends same).parts)
    exact ⟨same, (walk_target_iff named fresh).mp inside⟩
  · rintro ⟨same, stays⟩
    exact ⟨_, joinpathWindows_extends same, (walk_target_iff named fresh).mpr stays⟩

theorem Extends.inside_take {n : Nat} (joined : Extends lower target p rest)
    (long : target.parts <+: p.parts → target.parts.length ≤ n)
    (walks : ∀ k, target.parts <+: walk target.parts (rest.take k)) :
    Inside lower target { p with parts := p.parts.take n } := by
  refine ⟨rest.take (n - target.parts.length), ⟨joined.drive, joined.root, ?_⟩, walks _⟩
  have above : target.parts <+: p.parts := joined.parts ▸ prefix_append ..
  simp only [joined.parts, take_append, take_of_length_le (long above)]

theorem Makes.exactly (target : Path) (destinations : List Path) : Makes target destinations (· ∈ destinations) where
  ends _ mem := mem
  way q mem := ⟨q, mem, q.parts.length, List.IsPrefix.length_le, by rw [take_length]⟩

end Placed

/-- Everything is put inside the staging directory, under both rules, and no more bytes are written
than allowed, exactly if the components of every entry stay there under Windows rules. The name of the
directory is a new one. -/
theorem extracted_inside_iff {repr : Name → String} {lower : Name → Name} {maxExtractBytes : Nat}
    {infos kept : List ZipInfo}
    {posix windows : Path} {dirs : List Name} {name : Name} {posixMade windowsMade : Path → Prop}
    (accepted : extractArchive repr maxExtractBytes infos = .ok kept)
    (bounded : ∀ info ∈ infos, info.yields ≤ info.fileSize)
    (named : windows.parts = dirs ++ [name]) (fresh : ∀ info ∈ kept, name ∉ added info.parts)
    (onPosix : Makes posix (kept.map fun info => posix.joinpathPosix info.parts) posixMade)
    (onWindows : Makes windows (kept.map fun info => windows.joinpathWindows lower info.parts) windowsMade) :
    ((∀ q, posixMade q → Inside lower posix q) ∧ (∀ q, windowsMade q → Inside lower windows q) ∧
      written kept ≤ maxExtractBytes) ↔
      ∀ info ∈ kept, Stays lower windows info.parts := by
  unfold extractArchive at accepted
  split_ifs at accepted
  obtain ⟨each, sum⟩ := extractEach_safe accepted
  have size := written_le fun info mem => bounded info (each info mem).1
  constructor
  · rintro ⟨-, inside, -⟩ info mem
    exact (inside_joinpathWindows_iff named (fresh info mem)).mp (inside _ (onWindows.ends _ (mem_map_of_mem mem)))
  · intro stays
    refine ⟨fun q made => ?_, fun q made => ?_, by omega⟩
    · obtain ⟨p, mem, n, long, rfl⟩ := onPosix.way q made
      obtain ⟨info, there, rfl⟩ := mem_map.mp mem
      refine Extends.inside_take ⟨rfl, rfl, rfl⟩ long fun k => ?_
      rw [walk_plain fun up => (each info there).2 (mem_of_mem_take up)]
      exact prefix_append ..
    · obtain ⟨p, mem, n, long, rfl⟩ := onWindows.way q made
      obtain ⟨info, there, rfl⟩ := mem_map.mp mem
      obtain ⟨same, below⟩ := stays info there
      refine (joinpathWindows_extends same).inside_take long fun k => ?_
      exact (walk_target_iff named fun mem => fresh info there (mem_of_mem_take mem)).mpr (climbs_take below k)

/-- Three entries, one with components that name the drive of the directory. -/
theorem extracted_inside_sample :
    let archive : List ZipInfo :=
      [⟨"a/b".toList, 1, false, 1⟩, ⟨"d/".toList, 0, true, 0⟩, ⟨"a/C:../C:f".toList, 2, false, 2⟩]
    let windows : Path := ⟨"C:".toList, true, ["s".toList]⟩
    extractArchive String.ofList 3 archive = .ok archive ∧ written archive ≤ 3 ∧
      ∀ info ∈ archive, Inside id windows (windows.joinpathWindows id info.parts) := by
  intro archive windows
  have accepted : extractArchive String.ofList 3 archive = .ok archive := by decide +kernel
  have named : windows.parts = [] ++ ["s".toList] := rfl
  obtain ⟨-, inside, small⟩ := (extracted_inside_iff accepted (by decide) named (by decide +kernel)
    (.exactly ⟨[], true, []⟩ _) (.exactly _ _)).mpr
      (show ∀ info ∈ archive, Stays id windows info.parts by decide +kernel)
  exact ⟨accepted, small, fun info mem => inside _ (mem_map_of_mem mem)⟩

/-- The entry `./D:x` is accepted and goes to another drive, and `a/C:../C:..` above the directory. -/
theorem extracted_outside :
    let archive : List ZipInfo := [⟨"./D:x".toList, 1, false, 1⟩, ⟨"a/C:../C:..".toList, 0, true, 0⟩]
    let windows : Path := ⟨"C:".toList, true, ["s".toList]⟩
    extractArchive String.ofList 1 archive = .ok archive ∧
      ∀ info ∈ archive, ¬Inside id windows (windows.joinpathWindows id info.parts) := by
  intro archive windows
  have named : windows.parts = [] ++ ["s".toList] := rfl
  have away : ∀ info ∈ archive, "s".toList ∉ added info.parts ∧ ¬Stays id windows info.parts := by decide +kernel
  refine ⟨by decide +kernel, fun info mem inside => (away info mem).2 ?_⟩
  exact (inside_joinpathWindows_iff named (away info mem).1).mp inside

end PersonalAssistant.Staging
