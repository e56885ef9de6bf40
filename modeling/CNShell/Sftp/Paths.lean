import CNShell.Client.Models
import CNShell.Library.Base64
import CNShell.Library.Paths
import CNShell.Library.Text

/-! The paths that file transfers work on, and the names they make beside a target. -/

namespace CNShell

namespace Sftp

open Client (AppError AppResult)

/-- A path of either file system, as its text. -/
abbrev Path := List Char

/-- A random identifier in the form of a UUID, which has no slash. -/
structure Uuid where
  text : List Char
  whole : '/' ∉ text

def byteLength (path : Path) : Nat := (String.ofList path).utf8ByteSize

/-- What a token for a path that is no text begins with. -/
def rawPathPrefix : Path := ['c', 'n', 's', 'h', 'e', 'l', 'l', '-', 'r', 'a', 'w', '-', 'p', 'a', 't', 'h', ':']

/-- The path that a token stands for, a character for each byte. -/
def rawPath (token : Path) : AppResult Path :=
  match Base64.decode token with
  | none => .error (.validation "远端原始路径令牌无效")
  | some bytes =>
    if bytes = [] ∨ 16 * 1024 < bytes.length ∨ 0 ∈ bytes ∨ bytes.head? ≠ some 0x2f then
      .error (.validation "远端原始路径令牌无效")
    else .ok (bytes.map fun byte => Char.ofNat byte.toNat)

section Remote

-- What a token stands for; every token that a transfer of directories is given is refused.
variable (raw : Path → AppResult Path)

def remotePath (path : Path) : AppResult Path :=
  if rawPathPrefix <+: path then raw (path.drop rawPathPrefix.length)
  else if path = [] ∨ 16 * 1024 < byteLength path ∨ Char.ofNat 0 ∈ path ∨ path.head? ≠ some '/' then
    .error (.validation "远端路径必须是 16 KB 以内的绝对路径")
  else .ok path

def validateRemotePath (path : Path) : AppResult Unit := (remotePath raw path).map fun _ => ()

def parent (path : Path) : Option Path :=
  match components path with
  | [] => none
  | names => some (absolute names.dropLast)

def join (directory : Path) (name : List Char) : Path :=
  if directory = [] ∨ directory.getLast? = some '/' then directory ++ name else directory ++ '/' :: name

def remoteParentPath (path : Path) : AppResult Path := do
  if rawPathPrefix <+: path then
    let decoded ← remotePath raw path
    return (parent decoded).getD ['/']
  validateRemotePath raw path
  let trimmed := if 1 < byteLength path then path.rdropWhile fun char => char = '/' else path
  let directory := (directoryPart trimmed).dropLast
  return if directory = [] then ['/'] else directory

def remoteChildPath (directory : Path) (name : List Char) : AppResult Path := do
  if rawPathPrefix <+: directory then
    let decoded ← remotePath raw directory
    return join decoded name
  validateRemotePath raw directory
  return if directory = ['/'] then '/' :: name
    else directory.rdropWhile (fun char => char = '/') ++ '/' :: name

end Remote

/-- Whether a client may name a path of its own computer. -/
def validateLocalPath (path : Path) : AppResult Unit :=
  ensure (¬(path = [] ∨ 32 * 1024 < byteLength path ∨ Char.ofNat 0 ∈ path ∨ path.head? ≠ some '/'))
    (.validation "本地路径必须是 32 KB 以内的绝对路径")

/-- The extensions of two parts that stay together. -/
def compoundExtensions : List (List Char) :=
  [['.', 't', 'a', 'r', '.', 'g', 'z'], ['.', 't', 'a', 'r', '.', 'b', 'z', '2'], ['.', 't', 'a', 'r', '.', 'x', 'z']]

/-- A file name with a number before its extension. -/
def renamedFilename (filename : List Char) (index : Nat) : List Char :=
  let (name, extension) :=
    match compoundExtensions.find? fun extension => extension <:+ filename with
    | some extension => (filename.take (filename.length - extension.length), extension)
    | none =>
      let stem := filename.rdropWhile fun char => char ≠ '.'
      -- A dot at the start does not begin an extension.
      if 1 < stem.length then (stem.dropLast, filename.drop (stem.length - 1)) else (filename, [])
  name ++ [' ', '('] ++ Nat.toDigits 10 index ++ ')' :: extension

/-- A remote path beside another one, with a number in its name. -/
def renamedRemotePath (path : Path) (index : Nat) : Path :=
  directoryPart path ++ renamedFilename (fileName path) index

def lastName (path : Path) : Option (List Char) := (components path).getLast?.filter fun name => name ≠ ['.', '.']

/-- A local path beside another one, with a number in its name. -/
def renamedPath (path : Path) (index : Nat) : Path :=
  join ((parent path).getD []) (renamedFilename ((lastName path).getD ['f', 'i', 'l', 'e']) index)

def directoryName : List Char :=
  ['.', 'c', 'n', 's', 'h', 'e', 'l', 'l', '-', 'd', 'i', 'r', 'e', 'c', 't', 'o', 'r', 'y', '-']

/-- The name of the archive that a transfer makes beside its remote path. -/
def archiveName (identifier : Uuid) : List Char :=
  directoryName ++ identifier.text ++ ['.', 't', 'a', 'r', '.', 'g', 'z']

/-- The name of the directory that a transfer fills beside its target. -/
def stagingName (identifier : Uuid) : List Char := directoryName ++ identifier.text

/-- The name under which a transfer sets its target aside. -/
def backupName (identifier : Uuid) : List Char :=
  directoryName ++ ['b', 'a', 'c', 'k', 'u', 'p', '-'] ++ identifier.text

section Names

variable {raw : Path → AppResult Path} {identifier : Uuid} {path directory child : Path} {name : List Char}

theorem plain_directoryName {rest : List Char} (whole : '/' ∉ rest) : Plain (directoryName ++ rest) :=
  @Plain.of_mem _ 'c' (by simp [directoryName, whole]) (by simp [directoryName]) (by decide)

theorem plain_archiveName : Plain (archiveName identifier) := by
  rw [archiveName, List.append_assoc]
  exact plain_directoryName (by simp [identifier.whole])

theorem plain_stagingName : Plain (stagingName identifier) := plain_directoryName identifier.whole

theorem plain_backupName : Plain (backupName identifier) := by
  rw [backupName, List.append_assoc]
  exact plain_directoryName (by simp [identifier.whole])

theorem names_differ : archiveName identifier ≠ stagingName identifier ∧
    archiveName identifier ≠ backupName identifier ∧ stagingName identifier ≠ backupName identifier := by
  refine ⟨fun same => ?_, fun same => ?_, fun same => ?_⟩
  · simpa [archiveName, stagingName] using congrArg List.length same
  · -- Only the extension has dots of its own.
    have dots := congrArg (List.count '.') same
    simp [archiveName, backupName, directoryName] at dots
  · have longer := congrArg List.length same
    simp [stagingName, backupName] at longer
    omega

theorem head_of_validateRemotePath (text : ¬rawPathPrefix <+: path)
    (valid : validateRemotePath raw path = .ok ()) : path.head? = some '/' := by
  rw [validateRemotePath, remotePath, if_neg text] at valid
  split at valid
  · cases valid
  · next fits => simpa using (not_or.mp (not_or.mp (not_or.mp fits).2).2).2

theorem not_raw_of_head (head : path.head? = some '/') : ¬rawPathPrefix <+: path := by
  rintro ⟨rest, rfl⟩
  simp [rawPathPrefix] at head

theorem eq_root_of_byteLength (head : path.head? = some '/') (short : byteLength path ≤ 1) : path = ['/'] := by
  cases path with
  | nil => cases head
  | cons first rest =>
    obtain rfl : first = '/' := by simpa using head
    cases rest with
    | nil => rfl
    | cons second others =>
      -- Two characters take two bytes at least.
      have split : String.ofList ('/' :: second :: others) =
          String.singleton '/' ++ (String.singleton second ++ String.ofList others) := by
        rw [String.singleton_eq_ofList, String.singleton_eq_ofList, ← String.ofList_append, ← String.ofList_append]
        rfl
      rw [byteLength, split, String.utf8ByteSize_append, String.utf8ByteSize_append,
        String.utf8ByteSize_singleton, String.utf8ByteSize_singleton] at short
      have one := Char.utf8Size_pos '/'
      have two := Char.utf8Size_pos second
      omega

theorem directory_of_trimmed {trimmed : Path} (leads : trimmed <+: path) (head : path.head? = some '/') :
    let directory := if (directoryPart trimmed).dropLast = [] then ['/'] else (directoryPart trimmed).dropLast
    directory.head? = some '/' ∧ components trimmed = components directory ++ components (fileName trimmed) := by
  intro directory
  by_cases slash : '/' ∈ trimmed
  · obtain ⟨before, ends⟩ := exists_directoryPart slash
    have front : before <+: path :=
      (List.prefix_append before ['/']).trans (ends ▸ (List.rdropWhile_prefix _ trimmed).trans leads)
    have names : components directory = components before := by
      simp only [directory, ends, List.dropLast_concat]
      split
      · next empty => rw [empty]; rfl
      · rfl
    constructor
    · simp only [directory, ends, List.dropLast_concat]
      split
      · rfl
      · next filled =>
        obtain ⟨rest, rfl⟩ := front
        rwa [List.head?_append_of_ne_nil _ filled] at head
    · rw [names, components_split slash, ends, components_append_slash]
  · -- A path that begins with a slash has one unless nothing is left of it.
    have empty : trimmed = [] := by
      cases trimmed with
      | nil => rfl
      | cons first rest =>
        obtain ⟨more, rfl⟩ := leads
        obtain rfl : first = '/' := by simpa using head
        simp at slash
    subst empty
    exact ⟨rfl, rfl⟩

theorem components_of_remoteParentPath (text : ¬rawPathPrefix <+: path)
    (found : remoteParentPath raw path = .ok directory) :
    directory.head? = some '/' ∧ components path = components directory ++
      components (fileName (path.rdropWhile fun char => char = '/')) := by
  rw [remoteParentPath, if_neg text] at found
  obtain ⟨_, valid, found⟩ := bind_eq_ok.mp found
  have head := head_of_validateRemotePath text valid
  have same := pure_eq_ok.mp found
  have trimmed : (if 1 < byteLength path then path.rdropWhile (fun char => char = '/') else path) <+: path ∧
      components (if 1 < byteLength path then path.rdropWhile (fun char => char = '/') else path) =
        components path := by
    split
    · exact ⟨List.rdropWhile_prefix _ _, components_rdropWhile_slash _⟩
    · exact ⟨List.prefix_rfl, rfl⟩
  obtain ⟨first, names⟩ := directory_of_trimmed trimmed.1 head
  rw [same] at first names
  refine ⟨first, ?_⟩
  rw [← trimmed.2, names]
  split
  · rfl
  · next short =>
    obtain rfl := eq_root_of_byteLength head (by omega)
    rfl

theorem components_of_remoteChildPath (head : directory.head? = some '/') (plain : Plain name)
    (found : remoteChildPath raw directory name = .ok child) : place child = place directory ++ [name] := by
  rw [remoteChildPath, if_neg (not_raw_of_head head)] at found
  obtain ⟨_, -, found⟩ := bind_eq_ok.mp found
  have same := pure_eq_ok.mp found
  split at same
  · next root =>
    subst same root
    exact @place_slash [] name plain
  · subst same
    rw [place_slash plain, place_congr (components_rdropWhile_slash directory)]

theorem components_of_parent (found : parent path = some directory) :
    ∃ file, (components path).getLast? = some file ∧ '/' ∉ file ∧
      components path = components directory ++ components file := by
  rw [parent] at found
  cases names : components path with
  | nil => simp [names] at found
  | cons first rest =>
    simp only [names, Option.some.injEq] at found
    subst found
    have filled : components path ≠ [] := by simp [names]
    have last := List.getLast_mem filled
    have whole := whole_of_mem_components last
    refine ⟨(components path).getLast filled, by rw [← names]; exact List.getLast?_eq_some_getLast filled, whole.1, ?_⟩
    rw [← names, components_absolute_of_whole fun name member =>
      whole_of_mem_components (List.mem_of_mem_dropLast member), components_of_whole whole.1, if_pos whole.2]
    exact (List.dropLast_append_getLast filled).symm

theorem place_join (head : directory.head? = some '/') (plain : Plain name) :
    place (join directory name) = place directory ++ [name] := by
  rw [join]
  split
  · next ends =>
    have filled : directory ≠ [] := by
      rintro rfl
      cases head
    obtain ⟨before, rfl⟩ : ∃ before, directory = before ++ ['/'] := by
      have last := ends.resolve_left filled
      exact ⟨directory.dropLast, (List.dropLast_append_getLast? _ last).symm⟩
    rw [List.append_assoc, List.singleton_append, place_slash plain, place_congr (components_append_slash before)]
  · exact place_slash plain

end Names

end Sftp

end CNShell
