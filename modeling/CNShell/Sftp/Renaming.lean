import CNShell.Sftp.Paths
import Mathlib.Data.List.Perm.Subperm

/-! The numbered names that a transfer tries beside a remote target that is taken. -/

namespace CNShell

namespace Sftp

open Client (AppError AppResult)

/-- The places at which a server has something. -/
abbrev Existing := List (List (List Char))

/-- Whether a server finds something at a path. -/
def stat (existing : Existing) (path : Path) : AppResult Bool :=
  (remotePath rawPath path).map fun decoded => existing.contains (place decoded)

/-- The loop that counts up until a name is free, as far as so many turns of it lead. -/
def renameLoop (existing : Existing) (original : Path) : Nat → UInt32 → Path → AppResult (Option Path)
  | 0, _, _ => .ok none
  | turns + 1, index, destination => do
    let taken ← stat existing destination
    if taken = true then
      renameLoop existing original turns (index + 1) (renamedRemotePath original index.toNat)
    else return some destination

/-- Where a transfer to a remote path goes, unless it is skipped. -/
def resolveRemoteDestination (existing : Existing) (turns : Nat) (conflictPolicy : String) (destination : Path) :
    AppResult (Option (Path × Bool)) := do
  let taken ← stat existing destination
  if taken = false then return some (destination, true)
  else if conflictPolicy = "skip" then return some (destination, false)
  else if conflictPolicy = "rename" then
    (renameLoop existing destination turns 1 destination).map fun found => found.map fun path => (path, true)
  else if conflictPolicy = "overwrite" then return some (destination, true)
  else .error (.validation "远端目标已存在，请选择覆盖、跳过或重命名")

def numbered (path : Path) (index : UInt32) : Path := renamedRemotePath path index.toNat

def SameParent (path other : Path) : Prop :=
  ∃ here there, remoteParentPath rawPath path = .ok here ∧ remoteParentPath rawPath other = .ok there ∧
    components there = components here

/-- A path that a client may name and where nothing is. -/
def Fresh (existing : Existing) (path : Path) : Prop := stat existing path = .ok false

/-- The numbered names of a path are as they should be, and the loop finds one that is free. -/
structure RenamesWell (existing : Existing) (path : Path) : Prop where
  accepted : ∀ index, ∃ target, remotePath rawPath (numbered path index) = .ok target
  parent : ∀ index, SameParent path (numbered path index)
  distinct : ∀ index other, numbered path index = numbered path other → index = other
  ends : ∃ turns target, resolveRemoteDestination existing turns "rename" path = .ok (some (target, true)) ∧
    Fresh existing target ∧ SameParent path target

/-- A path is no token, does not end with a slash after a name, and leaves room and a free name for a number. -/
structure Renamable (existing : Existing) (path : Path) : Prop where
  text : ¬rawPathPrefix <+: path
  named : path.getLast? = some '/' → components (fileName (path.rdropWhile fun char => char = '/')) = []
  room : byteLength path + 13 ≤ 16 * 1024
  free : place path ∉ existing ∨ ∃ index, place (numbered path index) ∉ existing

section Names

variable {filename : List Char} {path : Path}

theorem byteLength_append (first second : List Char) :
    byteLength (first ++ second) = byteLength first + byteLength second := by
  rw [byteLength, String.ofList_append, String.utf8ByteSize_append]
  rfl

theorem renamedFilename_split (filename : List Char) : ∃ name extension, name ++ extension = filename ∧
    ∀ index, renamedFilename filename index =
      name ++ ([' ', '('] ++ Nat.toDigits 10 index ++ [')']) ++ extension := by
  unfold renamedFilename
  cases found : compoundExtensions.find? fun extension => decide (extension <:+ filename) with
  | some extension =>
    have ends : extension <:+ filename := by simpa using List.find?_some found
    exact ⟨_, extension, List.suffix_iff_eq_append.mp ends, fun index => by simp⟩
  | none =>
    by_cases long : 1 < (filename.rdropWhile fun char => decide (char ≠ '.')).length
    · -- What is up to the last dot begins the file name, and so does what precedes it.
      obtain ⟨rest, whole⟩ := List.rdropWhile_prefix (fun char : Char => decide (char ≠ '.')) filename
      set stem := filename.rdropWhile fun char => decide (char ≠ '.')
      refine ⟨stem.dropLast, filename.drop (stem.length - 1), ?_, fun index => ?_⟩
      · rw [List.dropLast_eq_take]
        conv_rhs => rw [← List.take_append_drop (stem.length - 1) filename]
        rw [← whole, List.take_append_of_le_length (by omega)]
      · simp only [if_pos long]
        simp
    · exact ⟨filename, [], List.append_nil _, fun index => by simp only [if_neg long]; simp⟩

theorem byteLength_renamedFilename (filename : List Char) (index : Nat) :
    byteLength (renamedFilename filename index) = byteLength filename + 3 + (Nat.toDigits 10 index).length := by
  obtain ⟨name, extension, same, parts⟩ := renamedFilename_split filename
  have digits : byteLength (Nat.toDigits 10 index) = (Nat.toDigits 10 index).length :=
    utf8ByteSize_ofList fun char member => by
      have digit := Char.isDigit_iff_toNat.mp (Nat.isDigit_of_mem_toDigits (by omega) (by omega) member)
      have small : char.toNat ≤ 57 := digit.2
      exact Char.utf8Size_eq_one_iff.mpr (by rw [UInt32.le_iff_toNat_le]; exact small.trans (by decide))
  have opens : byteLength [' ', '('] = 2 := by decide
  have closes : byteLength [')'] = 1 := by decide
  rw [parts, ← same]
  simp only [byteLength_append, digits, opens, closes]
  omega

theorem renamedFilename_inj {index other : Nat}
    (same : renamedFilename filename index = renamedFilename filename other) : index = other := by
  -- What stands between the name and the extension can be read back as a number.
  obtain ⟨name, extension, -, parts⟩ := renamedFilename_split filename
  rw [parts, parts] at same
  have digits := List.append_cancel_left (List.append_cancel_right
    (List.append_cancel_left (List.append_cancel_right same)))
  rw [← @Nat.ofDigitChars_ten_toDigits index, digits, Nat.ofDigitChars_ten_toDigits]

theorem slash_not_mem_renamedFilename (whole : '/' ∉ filename) (index : Nat) :
    '/' ∉ renamedFilename filename index := by
  obtain ⟨name, extension, rfl, parts⟩ := renamedFilename_split filename
  have digits : '/' ∉ Nat.toDigits 10 index := fun member =>
    absurd (Nat.isDigit_of_mem_toDigits (by omega) (by omega) member) (by decide)
  rw [List.mem_append, not_or] at whole
  rw [parts]
  simp [whole, digits]

theorem plain_renamedFilename (whole : '/' ∉ filename) (index : Nat) : Plain (renamedFilename filename index) := by
  obtain ⟨name, extension, -, parts⟩ := renamedFilename_split filename
  exact @Plain.of_mem _ ' ' (slash_not_mem_renamedFilename whole index) (by rw [parts]; simp) (by decide)

variable {raw : Path → AppResult Path}

theorem remotePath_text {decoded : Path} (text : ¬rawPathPrefix <+: path) :
    remotePath raw path = .ok decoded ↔
      decoded = path ∧ byteLength path ≤ 16 * 1024 ∧ Char.ofNat 0 ∉ path ∧ path.head? = some '/' := by
  rw [remotePath, if_neg text]
  split
  · next refused =>
    refine iff_of_false (by simp) ?_
    rintro ⟨-, small, text, head⟩
    obtain rfl | large | null | other := refused
    · cases head
    · omega
    · exact text null
    · exact other head
  · next fits =>
    simp only [not_or, not_not, not_lt] at fits
    constructor
    · intro same
      exact ⟨(Except.ok.inj same).symm, fits.2⟩
    · rintro ⟨rfl, -⟩
      rfl

theorem remoteParentPath_slash {before name : List Char} (whole : '/' ∉ name)
    (filled : name ≠ []) (head : (before ++ '/' :: name).head? = some '/')
    (valid : validateRemotePath raw (before ++ '/' :: name) = .ok ()) :
    remoteParentPath raw (before ++ '/' :: name) = .ok (if before = [] then ['/'] else before) := by
  -- There is no slash at the end to take away.
  have kept : (before ++ '/' :: name).rdropWhile (fun char => decide (char = '/')) = before ++ '/' :: name := by
    rw [List.rdropWhile_eq_self_iff]
    intro some_path last
    have ends : (before ++ '/' :: name).getLast some_path = name.getLast filled := by
      rw [List.getLast_append_of_ne_nil _ (List.cons_ne_nil _ _), List.getLast_cons filled]
    rw [ends] at last
    have slash : name.getLast filled = '/' := by simpa using last
    exact whole (slash ▸ List.getLast_mem filled)
  have directory : directoryPart (before ++ '/' :: name) = before ++ ['/'] := by
    have whole_path := directoryPart_append_fileName (before ++ '/' :: name)
    rw [fileName_slash whole] at whole_path
    refine List.append_cancel_right (whole_path.trans ?_)
    rw [List.append_assoc, List.singleton_append]
  rw [remoteParentPath, if_neg (not_raw_of_head head), valid]
  simp only [kept, ite_self, directory, List.dropLast_concat]
  rfl

theorem numbered_parts (head : path.head? = some '/') : ∃ before, directoryPart path = before ++ ['/'] ∧
    (before ++ ['/']).head? = some '/' ∧
    ∀ index, numbered path index = before ++ '/' :: renamedFilename (fileName path) index.toNat := by
  have slash : '/' ∈ path := List.mem_of_mem_head? (by rw [head]; rfl)
  obtain ⟨before, ends⟩ := exists_directoryPart slash
  refine ⟨before, ends, ?_, fun index => ?_⟩
  · rw [← directoryPart_append_fileName path, ends, List.head?_append_of_ne_nil _ (by simp)] at head
    exact head
  · rw [numbered, renamedRemotePath, ends, List.append_assoc, List.singleton_append]

theorem numbered_inj {index other : UInt32} (same : numbered path index = numbered path other) : index = other :=
  UInt32.toNat_inj.mp (renamedFilename_inj (List.append_cancel_left same))

theorem byteLength_numbered (path : Path) (index : UInt32) :
    byteLength (numbered path index) = byteLength path + 3 + (Nat.toDigits 10 index.toNat).length := by
  rw [numbered, renamedRemotePath, byteLength_append, byteLength_renamedFilename]
  conv_rhs => rw [← directoryPart_append_fileName path, byteLength_append]
  omega

theorem null_not_mem_numbered (text : Char.ofNat 0 ∉ path) (index : UInt32) : Char.ofNat 0 ∉ numbered path index := by
  obtain ⟨name, extension, same, parts⟩ := renamedFilename_split (fileName path)
  have digits : Char.ofNat 0 ∉ Nat.toDigits 10 index.toNat := fun member =>
    absurd (Nat.isDigit_of_mem_toDigits (by omega) (by omega) member) (by decide)
  rw [← directoryPart_append_fileName path, ← same] at text
  rw [numbered, renamedRemotePath, parts]
  simp only [List.mem_append, not_or] at text ⊢
  exact ⟨text.1, ⟨text.2.1, ⟨by decide, digits⟩, by decide⟩, text.2.2⟩

theorem remotePath_numbered (head : path.head? = some '/') (text : Char.ofNat 0 ∉ path) (index : UInt32) :
    (∃ target, remotePath rawPath (numbered path index) = .ok target) ↔
      byteLength path + 3 + (Nat.toDigits 10 index.toNat).length ≤ 16 * 1024 := by
  obtain ⟨before, -, first, parts⟩ := numbered_parts head
  have also : (numbered path index).head? = some '/' := by
    rw [parts, ← List.singleton_append, ← List.append_assoc, List.head?_append_of_ne_nil _ (by simp)]
    exact first
  constructor
  · rintro ⟨target, found⟩
    rw [← byteLength_numbered]
    exact ((remotePath_text (not_raw_of_head also)).mp found).2.1
  · intro short
    rw [← byteLength_numbered] at short
    exact ⟨_, (remotePath_text (not_raw_of_head also)).mpr ⟨rfl, short, null_not_mem_numbered text index, also⟩⟩

theorem remotePath_numbered_all (head : path.head? = some '/') (text : Char.ofNat 0 ∉ path) :
    (∀ index, ∃ target, remotePath rawPath (numbered path index) = .ok target) ↔
      byteLength path + 13 ≤ 16 * 1024 := by
  simp only [remotePath_numbered head text]
  constructor
  · -- The greatest number has ten digits.
    intro short
    have longest : (Nat.toDigits 10 (4294967295 : UInt32).toNat).length = 10 := by decide
    have bound := short 4294967295
    omega
  · intro room index
    have digits : (Nat.toDigits 10 index.toNat).length ≤ 10 :=
      (Nat.length_toDigits_le_iff (by omega) (by omega)).mpr (index.toNat_lt.trans (by decide))
    omega

end Names

section Parents

variable {path : Path}

theorem exists_remoteParentPath {decoded : Path} (text : ¬rawPathPrefix <+: path)
    (found : remotePath rawPath path = .ok decoded) : ∃ here, remoteParentPath rawPath path = .ok here := by
  rw [remoteParentPath, if_neg text, validateRemotePath, found]
  exact ⟨_, rfl⟩

theorem sameParent_numbered {decoded target : Path} {index : UInt32} (text : ¬rawPathPrefix <+: path)
    (found : remotePath rawPath path = .ok decoded) (also : remotePath rawPath (numbered path index) = .ok target) :
    SameParent path (numbered path index) ↔
      (path.getLast? = some '/' → components (fileName (path.rdropWhile fun char => char = '/')) = []) := by
  have head := ((remotePath_text text).mp found).2.2.2
  have slash : '/' ∈ path := List.mem_of_mem_head? (by rw [head]; rfl)
  obtain ⟨before, ends, first, parts⟩ := numbered_parts head
  obtain ⟨here, parent_here⟩ := exists_remoteParentPath text found
  have names := (components_of_remoteParentPath text parent_here).2
  have plain := plain_renamedFilename (slash_not_mem_fileName path) index.toNat
  have parent_there : remoteParentPath rawPath (numbered path index) =
      .ok (if before = [] then ['/'] else before) := by
    rw [parts] at also ⊢
    refine remoteParentPath_slash plain.whole plain.filled ?_ (by rw [validateRemotePath, also]; rfl)
    rw [← List.singleton_append, ← List.append_assoc, List.head?_append_of_ne_nil _ (by simp)]
    exact first
  have there : components (if before = [] then ['/'] else before) = components before := by
    split
    · next empty => rw [empty]; rfl
    · rfl
  have split := components_split slash
  rw [ends, components_append_slash] at split
  -- Both directories are compared with the names of the path.
  have same : SameParent path (numbered path index) ↔ components before = components here := by
    constructor
    · rintro ⟨one, other, found_one, found_other, same⟩
      rw [parent_here] at found_one
      rw [parent_there] at found_other
      cases found_one
      cases found_other
      rwa [there] at same
    · exact fun same => ⟨_, _, parent_here, parent_there, there.trans same⟩
  rw [same]
  by_cases last : path.getLast? = some '/'
  · have nothing : fileName path = [] := by
      obtain ⟨front, rfl⟩ := List.getLast?_eq_some_iff.mp last
      exact List.rtakeWhile_concat_neg _ _ _ (by simp)
    rw [nothing, components_nil, List.append_nil] at split
    rw [← split, names]
    simp [last]
  · have kept : path.rdropWhile (fun char => decide (char = '/')) = path := by
      rw [List.rdropWhile_eq_self_iff]
      intro some_path slash
      exact last ((List.getLast?_eq_some_getLast some_path).trans (by simpa using slash))
    rw [kept] at names
    exact iff_of_true (List.append_cancel_right (split.symm.trans names)) (fun ends => absurd ends last)

end Parents

section Loop

variable {existing : Existing} {path target : Path}

theorem numbered_of_raw (raw : rawPathPrefix <+: path) (index : UInt32) :
    ¬∃ target, remotePath rawPath (numbered path index) = .ok target := by
  rintro ⟨target, found⟩
  have plain := plain_renamedFilename (slash_not_mem_fileName path) index.toNat
  by_cases text : rawPathPrefix <+: numbered path index
  · obtain ⟨rest, whole⟩ := text
    -- The blank before the number is no character of a token.
    have blank : ' ' ∈ rest := by
      obtain ⟨name, extension, -, parts⟩ := renamedFilename_split (fileName path)
      have member : ' ' ∈ rawPathPrefix ++ rest := by
        rw [whole, numbered, renamedRemotePath, parts]
        simp
      exact (List.mem_append.mp member).resolve_left (by decide)
    rw [remotePath, if_pos ⟨rest, whole⟩, ← whole, List.drop_left] at found
    unfold rawPath at found
    cases decoded : Base64.decode rest with
    | none =>
      rw [decoded] at found
      cases found
    | some bytes => exact absurd (Base64.value?_of_decode decoded ' ' blank) (by decide)
  · have head := ((remotePath_text text).mp found).2.2.2
    obtain ⟨rest, rfl⟩ := raw
    by_cases front : directoryPart (rawPathPrefix ++ rest) = []
    · rw [numbered, renamedRemotePath, front, List.nil_append] at head
      exact plain.whole (List.mem_of_mem_head? (by rw [head]; rfl))
    · have leads : (directoryPart (rawPathPrefix ++ rest)).head? = some 'c' := by
        have whole := congrArg List.head? (directoryPart_append_fileName (rawPathPrefix ++ rest))
        rwa [List.head?_append_of_ne_nil _ front] at whole
      rw [numbered, renamedRemotePath, List.head?_append_of_ne_nil _ front, leads] at head
      exact absurd head (by decide)

variable {decoded : Path}

theorem stat_eq_ok (found : remotePath rawPath path = .ok decoded) :
    stat existing path = .ok (decide (place decoded ∈ existing)) := by
  rw [stat, found, ← List.contains_eq_mem]
  rfl

variable {index : UInt32} {turns : Nat}

variable {taken : Bool}

theorem renameLoop_succ {destination : Path} (asked : stat existing destination = .ok taken) :
    renameLoop existing path (turns + 1) index destination =
      if taken = true then renameLoop existing path turns (index + 1) (numbered path index)
      else .ok (some destination) := by
  rw [renameLoop, asked]
  rfl

theorem renameLoop_found {destination : Path}
    (found : renameLoop existing path turns index destination = .ok (some target)) :
    Fresh existing target ∧ (target = destination ∨ ∃ index, target = numbered path index) := by
  induction turns generalizing index destination with
  | zero => cases found
  | succ turns ih =>
    cases asked : stat existing destination with
    | error error =>
      rw [renameLoop, asked] at found
      cases found
    | ok taken =>
      rw [renameLoop_succ asked] at found
      cases taken with
      | false =>
        cases found
        exact ⟨asked, .inl rfl⟩
      | true =>
        obtain ⟨fresh, which⟩ := ih found
        exact ⟨fresh, .inr (which.elim (fun same => ⟨index, same⟩) id)⟩

theorem renameLoop_ends (accepted : ∀ index, ∃ target, remotePath rawPath (numbered path index) = .ok target)
    {free : UInt32} (fresh : Fresh existing (numbered path free)) (steps : Nat) (index : UInt32)
    (reaches : index + UInt32.ofNat steps = free) :
    ∃ turns target, renameLoop existing path turns (index + 1) (numbered path index) = .ok (some target) := by
  -- The induction is on the numbers that are still to be tried before the free one.
  induction steps generalizing index with
  | zero =>
    obtain rfl : index = free := by simpa using reaches
    exact ⟨1, _, renameLoop_succ fresh⟩
  | succ steps ih =>
    obtain ⟨decoded, found⟩ := accepted index
    by_cases taken : place decoded ∈ existing
    · obtain ⟨turns, target, ends⟩ := ih (index + 1) (by
        rw [← reaches, UInt32.ofNat_add, UInt32.add_assoc, UInt32.add_comm 1]
        rfl)
      refine ⟨turns + 1, target, ?_⟩
      rw [renameLoop_succ (stat_eq_ok found), if_pos (decide_eq_true taken)]
      exact ends
    · exact ⟨1, _, by rw [renameLoop_succ (stat_eq_ok found), if_neg (by simpa using taken)]⟩

theorem resolve_rename (asked : stat existing path = .ok taken) :
    resolveRemoteDestination existing turns "rename" path =
      if taken = true then
        (renameLoop existing path turns 1 path).map fun found => found.map fun path => (path, true)
      else .ok (some (path, true)) := by
  have other : "rename" ≠ "skip" := by decide
  rw [resolveRemoteDestination, asked]
  cases taken with
  | false => rfl
  | true =>
    simp only [bind, Except.bind, if_neg other, if_true]
    rfl

theorem fresh_iff (text : ¬rawPathPrefix <+: path) (found : remotePath rawPath path = .ok decoded) :
    Fresh existing path ↔ place path ∉ existing := by
  obtain rfl := ((remotePath_text text).mp found).1
  rw [Fresh, stat_eq_ok found]
  simp

theorem sameParent_self (text : ¬rawPathPrefix <+: path) (found : remotePath rawPath path = .ok decoded) :
    SameParent path path :=
  let ⟨here, parent⟩ := exists_remoteParentPath text found
  ⟨here, here, parent, parent, rfl⟩

/--
All numbered names of a path may be named, lie in its directory and differ, and the loop ends with a free one, exactly
when the path is no token, ends with no slash after a name, leaves room for ten digits and has a free name at all.
-/
theorem renames_well_iff {decoded : Path} (found : remotePath rawPath path = .ok decoded) :
    RenamesWell existing path ↔ Renamable existing path := by
  by_cases raw : rawPathPrefix <+: path
  · exact iff_of_false (fun well => numbered_of_raw raw 0 (well.accepted 0)) (fun renamable => renamable.text raw)
  obtain ⟨-, -, null, head⟩ := (remotePath_text raw).mp found
  have all := remotePath_numbered_all head null
  have text : ∀ index, ¬rawPathPrefix <+: numbered path index := fun index => by
    obtain ⟨before, -, first, parts⟩ := numbered_parts head
    refine not_raw_of_head ?_
    rw [parts, ← List.singleton_append, ← List.append_assoc, List.head?_append_of_ne_nil _ (by simp)]
    exact first
  constructor
  · rintro ⟨accepted, parent, -, turns, target, ends, fresh, -⟩
    refine ⟨raw, (sameParent_numbered raw found (accepted 0).choose_spec).mp (parent 0), all.mp accepted, ?_⟩
    rw [resolve_rename (stat_eq_ok found)] at ends
    have which : target = path ∨ ∃ index, target = numbered path index := by
      split_ifs at ends
      · cases looped : renameLoop existing path turns 1 path with
        | error error =>
          rw [looped] at ends
          cases ends
        | ok result =>
          rw [looped] at ends
          cases result with
          | none => cases ends
          | some other =>
            cases ends
            exact (renameLoop_found looped).2
      · cases ends
        exact .inl rfl
    obtain rfl | ⟨index, rfl⟩ := which
    · exact .inl ((fresh_iff raw found).mp fresh)
    · exact .inr ⟨index, (fresh_iff (text index) (accepted index).choose_spec).mp fresh⟩
  · rintro ⟨-, named, room, free⟩
    have accepted := all.mpr room
    have parent : ∀ index, SameParent path (numbered path index) := fun index =>
      (sameParent_numbered raw found (accepted index).choose_spec).mpr named
    refine ⟨accepted, parent, fun _ _ => numbered_inj, ?_⟩
    have same := ((remotePath_text raw).mp found).1
    by_cases taken : place decoded ∈ existing
    · obtain ⟨index, unused⟩ := free.resolve_left fun unused => unused (same ▸ taken)
      have fresh := (fresh_iff (text index) (accepted index).choose_spec).mpr unused
      obtain ⟨turns, target, ends⟩ := renameLoop_ends accepted fresh (index - 1).toNat 1 (by
        rw [UInt32.ofNat_toNat, UInt32.add_comm, UInt32.sub_add_cancel])
      have looped : renameLoop existing path (turns + 1) 1 path = .ok (some target) := by
        rw [renameLoop_succ (stat_eq_ok found), if_pos (decide_eq_true taken)]
        exact ends
      obtain ⟨fresh, which⟩ := renameLoop_found looped
      refine ⟨turns + 1, target, ?_, fresh, ?_⟩
      · rw [resolve_rename (stat_eq_ok found), if_pos (decide_eq_true taken), looped]
        rfl
      · obtain rfl | ⟨index, rfl⟩ := which
        · exact sameParent_self raw found
        · exact parent index
    · refine ⟨0, path, ?_, ?_, sameParent_self raw found⟩
      · rw [resolve_rename (stat_eq_ok found), if_neg (by simpa using taken)]
      · rw [Fresh, stat_eq_ok found, decide_eq_false taken]

theorem free_of_length (head : path.head? = some '/') (short : existing.length < 2 ^ 32) :
    ∃ index, place (numbered path index) ∉ existing := by
  by_contra none
  simp only [not_exists, not_not] at none
  -- The places of all numbered names are different, so they would be too many.
  have distinct : ((List.range (2 ^ 32)).map fun index => place (numbered path (UInt32.ofNat index))).Nodup := by
    refine List.Nodup.map_on ?_ List.nodup_range
    intro one first other second same
    obtain ⟨before, -, -, parts⟩ := numbered_parts head
    have plain := fun index => plain_renamedFilename (slash_not_mem_fileName path) index
    rw [parts, parts, place_slash (plain _), place_slash (plain _)] at same
    have names := renamedFilename_inj (List.singleton_inj.mp (List.append_cancel_left same))
    rw [List.mem_range] at first second
    rwa [UInt32.toNat_ofNat', UInt32.toNat_ofNat', Nat.mod_eq_of_lt first, Nat.mod_eq_of_lt second] at names
  have inside : ((List.range (2 ^ 32)).map fun index => place (numbered path (UInt32.ofNat index))) ⊆ existing := by
    intro place member
    obtain ⟨index, -, rfl⟩ := List.mem_map.mp member
    exact none _
  have many := (distinct.subperm inside).length_le
  rw [List.length_map, List.length_range] at many
  omega

end Loop

namespace Demo

/-- A directory named with a slash at its end. -/
def slashed : Path := ['/', 'a', '/']

/-- Its numbered names lie in the directory itself. -/
theorem renamed_inside : ¬∀ (existing : Existing) (path decoded : Path), remotePath rawPath path = .ok decoded →
    RenamesWell existing path := by
  intro always
  have well := always [] slashed slashed (by decide)
  obtain ⟨here, there, parent_here, parent_there, same⟩ := well.parent 1
  have first : remoteParentPath rawPath slashed = .ok ['/'] := by decide
  have second : remoteParentPath rawPath (numbered slashed 1) = .ok ['/', 'a'] := by decide
  rw [first] at parent_here
  rw [second] at parent_there
  cases parent_here
  cases parent_there
  exact absurd same (by decide)

/-- A path with a name at its end. -/
def unslashed : Path := ['/', 'a']

/-- Its numbered names lie beside it, and the second of them is free. -/
theorem renamed_beside : RenamesWell [[['a']], [['a', ' ', '(', '1', ')']]] unslashed :=
  (renames_well_iff (by decide : remotePath rawPath unslashed = .ok unslashed)).mpr
    ⟨by decide, by decide, by decide, .inr ⟨2, by decide⟩⟩

end Demo

end Sftp

end CNShell
