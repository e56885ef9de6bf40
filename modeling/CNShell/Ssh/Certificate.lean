import CNShell.Client.Models
import CNShell.Library.Words
import Mathlib.Data.List.Infix

/-! What is read of an OpenSSH certificate out of what `ssh-keygen -L` prints of it. -/

namespace CNShell

namespace Ssh

open Client (AppError AppResult)

structure SshCertificateInfo (τ : Type) where
  path : List Char
  certificateType : List Char
  keyId : List Char
  serial : List Char
  signingCa : List Char
  validFrom : List Char
  validTo : List Char
  principals : List (List Char)
  validNow : Bool
  status : List Char

/-- What the loop over the lines has read. -/
structure CertificateLines where
  certificateType : List Char
  keyId : List Char
  serial : List Char
  signingCa : List Char
  validFrom : List Char
  validTo : List Char
  principals : List (List Char)
  readingPrincipals : Bool

/-- How times are printed by `ssh-keygen` and read by `parse_from_str`. -/
structure CertificateTimes (τ : Type) where
  format : τ → List Char
  parseFromStr : List Char → Option τ
  /-- A printed time has digits, and marks between them. -/
  solid : ∀ time, format time ≠ [] ∧ ∀ char ∈ format time, char.isDigit = true ∨ char ∈ ['-', ':', 'T']
  /-- What is read of a printed time is that time. -/
  faithful : ∀ time other, parseFromStr (format time) = some other → other = time

def trimmed (text : List Char) : List Char := trimMatches isWhitespace text

/-- A text parted where a marker stands for the first time. -/
def splitOnceAt (marker : List Char) : List Char → Option (List Char × List Char)
  | [] => (marker.isPrefixOf? []).map ([], ·)
  | char :: rest =>
    match marker.isPrefixOf? (char :: rest) with
    | some behind => some ([], behind)
    | none => (splitOnceAt marker rest).map fun (front, back) => (char :: front, back)

def always : List Char := ['a', 'l', 'w', 'a', 'y', 's']

def forever : List Char := ['f', 'o', 'r', 'e', 'v', 'e', 'r']

def typeMark : List Char := ['T', 'y', 'p', 'e', ':']

def keyIdMark : List Char := ['K', 'e', 'y', ' ', 'I', 'D', ':']

def serialMark : List Char := ['S', 'e', 'r', 'i', 'a', 'l', ':']

def signingCaMark : List Char := ['S', 'i', 'g', 'n', 'i', 'n', 'g', ' ', 'C', 'A', ':']

def validMark : List Char := ['V', 'a', 'l', 'i', 'd', ':']

def principalsMark : List Char := ['P', 'r', 'i', 'n', 'c', 'i', 'p', 'a', 'l', 's', ':']

def criticalMark : List Char := ['C', 'r', 'i', 't', 'i', 'c', 'a', 'l', ' ', 'O', 'p', 't', 'i', 'o', 'n', 's', ':']

def extensionsMark : List Char := ['E', 'x', 't', 'e', 'n', 's', 'i', 'o', 'n', 's', ':']

def noneMark : List Char := ['(', 'n', 'o', 'n', 'e', ')']

def fromMark : List Char := ['f', 'r', 'o', 'm', ' ']

def toMark : List Char := [' ', 't', 'o', ' ']

def userMark : List Char := ['u', 's', 'e', 'r', ' ', 'c', 'e', 'r', 't', 'i', 'f', 'i', 'c', 'a', 't', 'e']

/-- What a `Valid:` line says, if it has a form that is known. -/
def readInterval (value : List Char) : Option (List Char × List Char) :=
  if value = forever then some (always, forever)
  else (fromMark.isPrefixOf? value).bind (splitOnceAt toMark)

def endsPrincipals (line : List Char) : Bool :=
  line.getLast? == some ':' || line == noneMark || criticalMark.isPrefixOf line || extensionsMark.isPrefixOf line

def CertificateLines.step (state : CertificateLines) (raw : List Char) : CertificateLines :=
  let line := trimmed raw
  if let some value := typeMark.isPrefixOf? line then { state with certificateType := trimmed value }
  else if let some value := keyIdMark.isPrefixOf? line then
    { state with keyId := trimMatches (· == '"') (trimmed value) }
  else if let some value := serialMark.isPrefixOf? line then { state with serial := trimmed value }
  else if let some value := signingCaMark.isPrefixOf? line then { state with signingCa := trimmed value }
  else if let some value := validMark.isPrefixOf? line then
    match readInterval (trimmed value) with
    | some (after, before) => { state with validFrom := after, validTo := before }
    | none => state
  else if line = principalsMark then { state with readingPrincipals := true }
  else if state.readingPrincipals then
    if endsPrincipals line then { state with readingPrincipals := false }
    else if line ≠ [] then { state with principals := state.principals ++ [line] }
    else state
  else state

section

variable {τ : Type} [LinearOrder τ] (times : CertificateTimes τ)

def parseTime (value : List Char) : AppResult (Option τ) :=
  if value = forever ∨ value = always then .ok none
  else
    match times.parseFromStr value with
    | some time => .ok (some time)
    | none => .error (.validation "OpenSSH 证书有效期格式无效")

/-- Whether a certificate is valid, by its two times. -/
def certificateStatus (after before : Option τ) (now : τ) : List Char :=
  if after.any (now < ·) then ['n', 'o', 't', 'Y', 'e', 't', 'V', 'a', 'l', 'i', 'd']
  else if before.any (· ≤ now) then ['e', 'x', 'p', 'i', 'r', 'e', 'd']
  else ['v', 'a', 'l', 'i', 'd']

/-- What is made of the lines that were read. -/
def finishCertificate (path : List Char) (now : τ) (state : CertificateLines) : AppResult (SshCertificateInfo τ) :=
  if ¬ userMark <:+: state.certificateType ∨ state.serial = [] ∨ state.signingCa = [] ∨ state.validFrom = [] ∨
      state.validTo = [] then
    .error (.validation "OpenSSH 证书缺少用户类型、签发者或有效期信息")
  else do
    let after ← parseTime times state.validFrom
    let before ← parseTime times state.validTo
    return {
      path
      certificateType := state.certificateType
      keyId := state.keyId
      serial := state.serial
      signingCa := state.signingCa
      validFrom := state.validFrom
      validTo := state.validTo
      principals := state.principals
      validNow := after.all (· ≤ now) && before.all (now < ·)
      status := certificateStatus after before now
    }

def noLines : CertificateLines := ⟨[], [], [], [], [], [], [], false⟩

def parse (path text : List Char) (now : τ) : AppResult (SshCertificateInfo τ) :=
  finishCertificate times path now ((lines text).foldl CertificateLines.step noLines)

end

/-! What is printed of a certificate. -/

/-- A line that means nothing to the parser, unless it reads principals. -/
def Inert (line : List Char) : Prop :=
  '\n' ∉ line ∧ (∀ mark ∈ [typeMark, keyIdMark, serialMark, signingCaMark, validMark], ¬ mark <+: trimmed line) ∧
    trimmed line ≠ principalsMark

instance (line : List Char) : Decidable (Inert line) := inferInstanceAs (Decidable (_ ∧ _ ∧ _))

/-- The time from which a certificate is valid, and the one up to which it is. -/
structure Validity (τ : Type) where
  after : Option τ
  before : Option τ

/-- A user certificate; what the platform names in it has one line, and an option begins with its name. -/
structure Certificate (τ : Type) where
  algorithm : List Char
  publicKey : List Char
  signingCa : List Char
  keyId : List Char
  serial : Nat
  validity : Validity τ
  principals : List (List Char)
  critical : List (List Char)
  extensions : List (List Char)
  oneLine : '\n' ∉ algorithm ∧ '\n' ∉ publicKey ∧ '\n' ∉ signingCa
  signed : trimmed signingCa ≠ []
  options : ∀ option ∈ critical ++ extensions, Inert option

def indent (width : Nat) : List Char := List.replicate width ' '

def publicKeyMark : List Char := ['P', 'u', 'b', 'l', 'i', 'c', ' ', 'k', 'e', 'y', ':']

def field (mark value : List Char) : List Char := indent 8 ++ (mark ++ ' ' :: value)

/-- A field of several lines. -/
def fieldOf (mark : List Char) (items : List (List Char)) : List (List Char) :=
  if items = [] then [field mark noneMark] else field mark [] :: items.map (indent 16 ++ ·)

section

variable {τ : Type} (times : CertificateTimes τ)

def showInterval (validity : Validity τ) : List Char :=
  match validity.after, validity.before with
  | none, none => forever
  | some after, none => ['a', 'f', 't', 'e', 'r', ' '] ++ times.format after
  | none, some before => ['b', 'e', 'f', 'o', 'r', 'e', ' '] ++ times.format before
  | some after, some before => fromMark ++ (times.format after ++ (toMark ++ times.format before))

/-- The fields up to the key identifier, behind the name of the file. -/
def preamble (name : List Char) (certificate : Certificate τ) : List (List Char) :=
  [name ++ [':'], field typeMark (certificate.algorithm ++ ' ' :: userMark), field publicKeyMark certificate.publicKey,
    field signingCaMark certificate.signingCa, field keyIdMark ('"' :: certificate.keyId ++ ['"'])]

/-- The options, which come last. -/
def optionFields (certificate : Certificate τ) : List (List Char) :=
  fieldOf criticalMark certificate.critical ++ fieldOf extensionsMark certificate.extensions

def printed (name : List Char) (certificate : Certificate τ) : List Char :=
  (preamble name certificate ++ field serialMark (Nat.toDigits 10 certificate.serial) ::
    field validMark (showInterval times certificate.validity) :: (fieldOf principalsMark certificate.principals ++
      optionFields certificate)).flatMap (· ++ ['\n'])

/-- A time of the interval as it is returned. -/
def endText (default : List Char) (time : Option τ) : List Char := time.elim default times.format

end

/-- A principal that the parser takes for one. -/
structure PlainPrincipal (principal : List Char) : Prop where
  solid : trimmed principal = principal
  nonempty : principal ≠ []
  oneLine : '\n' ∉ principal
  field : ∀ mark ∈ [typeMark, keyIdMark, serialMark, signingCaMark, validMark], ¬ mark <+: principal
  goesOn : endsPrincipals principal = false

/-! How the lines are read. -/

/-- What is read of a printed field, which has more lines if its value has. -/
def CertificateLines.read (state : CertificateLines) (segment : List Char) : CertificateLines :=
  ((segment.splitOn '\n').map stripReturn).foldl CertificateLines.step state

theorem foldl_lines (segments : List (List Char)) (state : CertificateLines) :
    (lines (segments.flatMap (· ++ ['\n']))).foldl CertificateLines.step state =
      segments.foldl CertificateLines.read state := by
  rw [lines_flatMap, List.foldl_flatMap]
  rfl

theorem trimmed_stripReturn (line : List Char) : trimmed (stripReturn line) = trimmed line := by
  unfold stripReturn
  split
  · rename_i returns
    conv_rhs => rw [← List.dropLast_append_getLast? _ returns]
    exact (trimMatches_concat (by decide)).symm
  · rfl

variable {raw : List Char}

theorem step_congr {other : List Char} (same : trimmed raw = trimmed other) (state : CertificateLines) :
    state.step raw = state.step other := by
  unfold CertificateLines.step
  rw [same]

theorem read_of_line {segment : List Char} (single : '\n' ∉ segment) (state : CertificateLines) :
    state.read segment = state.step segment := by
  rw [CertificateLines.read, List.splitOn_eq_singleton single, List.map_singleton, List.foldl_cons, List.foldl_nil,
    step_congr (trimmed_stripReturn segment)]

theorem trimmed_indent (width : Nat) (line : List Char) : trimmed (indent width ++ line) = trimmed line :=
  trimMatches_append_left fun char member => by
    rw [List.eq_of_mem_replicate member]
    decide

theorem not_mem_indent (width : Nat) : '\n' ∉ indent width := fun member =>
  absurd (List.eq_of_mem_replicate member) (by decide)

/-- A marker that begins and ends with something else than a blank. -/
def Solid (mark : List Char) : Prop :=
  (∃ char, mark.head? = some char ∧ isWhitespace char = false) ∧
    ∃ char, mark.getLast? = some char ∧ isWhitespace char = false

variable {mark : List Char}

theorem trimmed_field (solid : Solid mark) (value : List Char) :
    ∃ rest, trimmed (field mark value) = mark ++ rest ∧ trimmed rest = trimmed value := by
  obtain ⟨⟨front, first, frontSolid⟩, back, last, backSolid⟩ := solid
  -- The blanks behind the value are parted from the rest of it.
  have split := @List.rdropWhile_append_rtakeWhile _ isWhitespace (' ' :: value)
  have blank : ∀ char ∈ (' ' :: value).rtakeWhile isWhitespace, isWhitespace char = true :=
    fun char member => List.mem_rtakeWhile_imp member
  have ended : ∀ char, ((' ' :: value).rdropWhile isWhitespace).getLast? = some char → isWhitespace char = false := by
    intro char ends
    have nonempty : (' ' :: value).rdropWhile isWhitespace ≠ [] := by
      rintro empty
      rw [empty] at ends
      cases ends
    rw [List.getLast?_eq_some_getLast nonempty] at ends
    exact Option.some.inj ends ▸ Bool.eq_false_iff.mpr (List.rdropWhile_last_not _ _ nonempty)
  generalize (' ' :: value).rdropWhile isWhitespace = kept at *
  refine ⟨kept, ?_, ?_⟩
  · rw [field, trimmed_indent, ← split, ← List.append_assoc, trimmed, trimMatches_append_right blank]
    refine trimMatches_eq_self (fun char head => ?_) fun char ends => ?_
    · rw [List.head?_append, first] at head
      exact Option.some.inj head ▸ frontSolid
    · rw [List.getLast?_append, last] at ends
      cases known : kept.getLast? with
      | none =>
        rw [known] at ends
        exact Option.some.inj ends ▸ backSolid
      | some other =>
        rw [known] at ends
        exact ended char (known.trans ends)
  · calc trimmed kept = trimmed (' ' :: value) := by rw [← split, trimmed, trimmed, trimMatches_append_right blank]
      _ = trimmed value := @trimMatches_append_left isWhitespace value [' '] fun char member =>
        List.mem_singleton.mp member ▸ rfl

theorem solid_marks : ∀ mark ∈ [typeMark, keyIdMark, serialMark, signingCaMark, validMark, criticalMark,
    extensionsMark, publicKeyMark], Solid mark := by
  intro mark member
  simp only [List.mem_cons, List.not_mem_nil, or_false] at member
  rcases member with rfl | rfl | rfl | rfl | rfl | rfl | rfl | rfl <;>
    exact ⟨⟨_, rfl, by decide⟩, _, rfl, by decide⟩

theorem step_type (state : CertificateLines) (value : List Char) :
    state.step (field typeMark value) = { state with certificateType := trimmed value } := by
  obtain ⟨rest, line, same⟩ := trimmed_field (solid_marks typeMark (by simp)) value
  have found : typeMark.isPrefixOf? (typeMark ++ rest) = some rest := List.isPrefixOf?_eq_some_iff_append_eq.mpr rfl
  unfold CertificateLines.step
  rw [line]
  simp only [found, same]

theorem step_serial (state : CertificateLines) (value : List Char) :
    state.step (field serialMark value) = { state with serial := trimmed value } := by
  obtain ⟨rest, line, same⟩ := trimmed_field (solid_marks serialMark (by simp)) value
  have found : serialMark.isPrefixOf? (serialMark ++ rest) = some rest :=
    List.isPrefixOf?_eq_some_iff_append_eq.mpr rfl
  have first : typeMark.isPrefixOf? (serialMark ++ rest) = none := rfl
  have second : keyIdMark.isPrefixOf? (serialMark ++ rest) = none := rfl
  unfold CertificateLines.step
  rw [line]
  simp only [found, first, second, same]

theorem step_signingCa (state : CertificateLines) (value : List Char) :
    state.step (field signingCaMark value) = { state with signingCa := trimmed value } := by
  obtain ⟨rest, line, same⟩ := trimmed_field (solid_marks signingCaMark (by simp)) value
  have found : signingCaMark.isPrefixOf? (signingCaMark ++ rest) = some rest :=
    List.isPrefixOf?_eq_some_iff_append_eq.mpr rfl
  have first : typeMark.isPrefixOf? (signingCaMark ++ rest) = none := rfl
  have second : keyIdMark.isPrefixOf? (signingCaMark ++ rest) = none := rfl
  have third : serialMark.isPrefixOf? (signingCaMark ++ rest) = none := rfl
  unfold CertificateLines.step
  rw [line]
  simp only [found, first, second, third, same]

theorem step_keyId (state : CertificateLines) (value : List Char) :
    state.step (field keyIdMark value) = { state with keyId := trimMatches (· == '"') (trimmed value) } := by
  obtain ⟨rest, line, same⟩ := trimmed_field (solid_marks keyIdMark (by simp)) value
  have found : keyIdMark.isPrefixOf? (keyIdMark ++ rest) = some rest :=
    List.isPrefixOf?_eq_some_iff_append_eq.mpr rfl
  have first : typeMark.isPrefixOf? (keyIdMark ++ rest) = none := rfl
  unfold CertificateLines.step
  rw [line]
  simp only [found, first, same]

theorem step_valid (state : CertificateLines) (value : List Char) :
    state.step (field validMark value) =
      match readInterval (trimmed value) with
      | some (after, before) => { state with validFrom := after, validTo := before }
      | none => state := by
  obtain ⟨rest, line, same⟩ := trimmed_field (solid_marks validMark (by simp)) value
  have found : validMark.isPrefixOf? (validMark ++ rest) = some rest :=
    List.isPrefixOf?_eq_some_iff_append_eq.mpr rfl
  have first : typeMark.isPrefixOf? (validMark ++ rest) = none := rfl
  have second : keyIdMark.isPrefixOf? (validMark ++ rest) = none := rfl
  have third : serialMark.isPrefixOf? (validMark ++ rest) = none := rfl
  have fourth : signingCaMark.isPrefixOf? (validMark ++ rest) = none := rfl
  unfold CertificateLines.step
  rw [line]
  simp only [found, first, second, third, fourth, same]

theorem step_other
    (none_of : ∀ mark ∈ [typeMark, keyIdMark, serialMark, signingCaMark, validMark], ¬ mark <+: trimmed raw)
    (state : CertificateLines) :
    state.step raw =
      if trimmed raw = principalsMark then { state with readingPrincipals := true }
      else if state.readingPrincipals then
        if endsPrincipals (trimmed raw) then { state with readingPrincipals := false }
        else if trimmed raw ≠ [] then { state with principals := state.principals ++ [trimmed raw] }
        else state
      else state := by
  have misses : ∀ mark ∈ [typeMark, keyIdMark, serialMark, signingCaMark, validMark],
      mark.isPrefixOf? (trimmed raw) = none := fun mark member => isPrefixOf?_eq_none_iff.mpr (none_of mark member)
  unfold CertificateLines.step
  simp only [misses typeMark (by simp), misses keyIdMark (by simp), misses serialMark (by simp),
    misses signingCaMark (by simp), misses validMark (by simp)]

variable {state : CertificateLines}

theorem step_inert (inert : Inert raw) (idle : state.readingPrincipals = false) : state.step raw = state := by
  rw [step_other inert.2.1, if_neg inert.2.2, idle]
  rfl

theorem step_plain {principal : List Char} (plain : PlainPrincipal principal)
    (reading : state.readingPrincipals = true) :
    state.step (indent 16 ++ principal) = { state with principals := state.principals ++ [principal] } := by
  have line : trimmed (indent 16 ++ principal) = principal := (trimmed_indent 16 principal).trans plain.solid
  have other : principal ≠ principalsMark := by
    rintro rfl
    cases plain.goesOn
  rw [step_other (line.symm ▸ plain.field), line, if_neg other, reading, plain.goesOn]
  simp [plain.nonempty]

theorem trimmed_trimmed (line : List Char) : trimmed (trimmed line) = trimmed line := by
  have again := congrArg String.toList (trim_trim (String.ofList line))
  simpa only [trim, trimmed, trimMatches, String.toList_ofList] using again

theorem not_mem_trimmed {char : Char} {line : List Char} (absent : char ∉ line) : char ∉ trimmed line := fun member =>
  absent ((List.dropWhile_suffix _).subset ((List.rdropWhile_prefix _ _).subset member))

/-- What is taken for a principal is plain. -/
theorem step_principals (state : CertificateLines) (single : '\n' ∉ raw) :
    (state.step raw).principals = state.principals ∨
      ∃ principal, PlainPrincipal principal ∧ (state.step raw).principals = state.principals ++ [principal] := by
  by_cases none_of : ∀ mark ∈ [typeMark, keyIdMark, serialMark, signingCaMark, validMark], ¬ mark <+: trimmed raw
  · rw [step_other none_of]
    split_ifs with heading reading ends empty
    · exact .inl rfl
    · exact .inl rfl
    · refine .inr ⟨trimmed raw, ?_, rfl⟩
      exact {
        solid := trimmed_trimmed raw
        nonempty := empty
        oneLine := not_mem_trimmed single
        field := none_of
        goesOn := Bool.eq_false_iff.mpr ends
      }
    · exact .inl rfl
    · exact .inl rfl
  · -- A field leaves the principals as they are.
    left
    unfold CertificateLines.step
    dsimp only
    split
    · rfl
    rename_i first
    split
    · rfl
    rename_i second
    split
    · rfl
    rename_i third
    split
    · rfl
    rename_i fourth
    split
    · split <;> rfl
    rename_i fifth
    refine absurd (fun mark member => ?_) none_of
    rw [← isPrefixOf?_eq_none_iff]
    simp only [List.mem_cons, List.not_mem_nil, or_false] at member
    rw [Option.eq_none_iff_forall_ne_some]
    rcases member with rfl | rfl | rfl | rfl | rfl
    · exact first
    · exact second
    · exact third
    · exact fourth
    · exact fifth

theorem foldl_step_plain {raws : List (List Char)} (single : ∀ raw ∈ raws, '\n' ∉ raw)
    (plain : ∀ principal ∈ state.principals, PlainPrincipal principal) :
    ∀ principal ∈ (raws.foldl CertificateLines.step state).principals, PlainPrincipal principal := by
  induction raws generalizing state with
  | nil => exact plain
  | cons raw raws ih =>
    refine ih (fun other member => single other (List.mem_cons_of_mem _ member)) ?_
    rcases step_principals state (single raw List.mem_cons_self) with same | ⟨principal, good, taken⟩
    · exact same ▸ plain
    · rw [taken]
      intro other member
      rcases List.mem_append.mp member with old | new
      · exact plain other old
      · exact List.mem_singleton.mp new ▸ good

theorem not_mem_lines (text : List Char) : ∀ line ∈ lines text, '\n' ∉ line := by
  intro line member
  rcases List.mem_append.mp member with ended | last
  · obtain ⟨piece, there, rfl⟩ := List.mem_map.mp ended
    have whole := not_mem_of_mem_splitOn (List.dropLast_subset _ there)
    unfold stripReturn
    split
    · exact fun inside => whole (List.dropLast_subset _ inside)
    · exact whole
  · have there := List.mem_of_getLast? (Option.mem_toList.mp (List.mem_filter.mp last).1)
    exact not_mem_of_mem_splitOn there

/-! The fields behind the preamble. -/

variable {value : List Char}

theorem not_mem_field (name : '\n' ∉ mark) (single : '\n' ∉ value) : '\n' ∉ field mark value := by
  simp [field, not_mem_indent, name, single]

theorem read_heading (heading : mark ∈ [criticalMark, extensionsMark])
    (single : '\n' ∉ value) (state : CertificateLines) :
    state.read (field mark value) = { state with readingPrincipals := false } := by
  have name : mark ∈ [typeMark, keyIdMark, serialMark, signingCaMark, validMark, criticalMark, extensionsMark,
      publicKeyMark] ∧ '\n' ∉ mark := by
    simp only [List.mem_cons, List.not_mem_nil, or_false] at heading
    rcases heading with rfl | rfl <;> exact ⟨by simp, by decide⟩
  obtain ⟨rest, line, -⟩ := trimmed_field (solid_marks mark name.1) value
  have other : (∀ field ∈ [typeMark, keyIdMark, serialMark, signingCaMark, validMark], ¬ field <+: mark ++ rest) ∧
      mark ++ rest ≠ principalsMark ∧ endsPrincipals (mark ++ rest) = true := by
    have ends : endsPrincipals (mark ++ rest) = true := by
      simp only [List.mem_cons, List.not_mem_nil, or_false] at heading
      rcases heading with rfl | rfl <;> simp [endsPrincipals, List.isPrefixOf_iff_prefix]
    simp only [List.mem_cons, List.not_mem_nil, or_false] at heading
    refine ⟨fun field member => isPrefixOf?_eq_none_iff.mp ?_, fun same => ?_, ends⟩
    · simp only [List.mem_cons, List.not_mem_nil, or_false] at member
      rcases heading with rfl | rfl <;> rcases member with rfl | rfl | rfl | rfl | rfl <;> rfl
    · rcases heading with rfl | rfl <;> exact absurd (List.cons.inj same).1 (by decide)
  rw [read_of_line (not_mem_field name.2 single), step_other (line.symm ▸ other.1), line, if_neg other.2.1, other.2.2]
  cases reading : state.readingPrincipals with
  | true => rfl
  | false => rw [if_neg Bool.false_ne_true, ← reading]

theorem read_options {τ : Type} (certificate : Certificate τ) (state : CertificateLines) :
    (optionFields certificate).foldl CertificateLines.read state = { state with readingPrincipals := false } := by
  have fields : ∀ mark ∈ [criticalMark, extensionsMark], ∀ items : List (List Char), (∀ item ∈ items, Inert item) →
      ∀ state : CertificateLines,
        (fieldOf mark items).foldl CertificateLines.read state = { state with readingPrincipals := false } := by
    intro mark heading items inert state
    unfold fieldOf
    split_ifs with empty
    · exact read_heading heading (by decide) state
    · rw [List.foldl_cons, read_heading heading List.not_mem_nil]
      -- Every option is passed over.
      clear empty
      induction items with
      | nil => rfl
      | cons item items ih =>
        have first := inert item List.mem_cons_self
        have line : Inert (indent 16 ++ item) := by
          refine ⟨by simp [not_mem_indent, first.1], ?_, ?_⟩ <;> rw [trimmed_indent]
          · exact first.2.1
          · exact first.2.2
        rw [List.map_cons, List.foldl_cons, read_of_line line.1, step_inert line rfl]
        exact ih fun other member => inert other (List.mem_cons_of_mem _ member)
  have inert := certificate.options
  rw [optionFields, List.foldl_append,
    fields _ (by simp) _ fun item member => inert item (List.mem_append_left _ member),
    fields _ (by simp) _ fun item member => inert item (List.mem_append_right _ member)]

variable {principals : List (List Char)}

theorem read_plain (plain : ∀ principal ∈ principals, PlainPrincipal principal)
    (reading : state.readingPrincipals = true) :
    (principals.map (indent 16 ++ ·)).foldl CertificateLines.read state =
      { state with principals := state.principals ++ principals } := by
  induction principals generalizing state with
  | nil => simp
  | cons principal principals ih =>
    have first := plain principal List.mem_cons_self
    have single : '\n' ∉ indent 16 ++ principal := by simp [not_mem_indent, first.oneLine]
    rw [List.map_cons, List.foldl_cons, read_of_line single, step_plain first reading]
    refine (ih (fun other member => plain other (List.mem_cons_of_mem _ member)) ?_).trans ?_
    · exact reading
    · simp

/-- The heading of the principals as it stands where there are none, which is taken for one while they are read. -/
def nonePrincipals : List Char := principalsMark ++ ' ' :: noneMark

theorem read_principals (plain : ∀ principal ∈ principals, PlainPrincipal principal) (state : CertificateLines) :
    (fieldOf principalsMark principals).foldl CertificateLines.read state =
      if principals = [] then
        if state.readingPrincipals then { state with principals := state.principals ++ [nonePrincipals] } else state
      else { state with readingPrincipals := true, principals := state.principals ++ principals } := by
  have fields : ∀ line ∈ [nonePrincipals, principalsMark],
      ∀ mark ∈ [typeMark, keyIdMark, serialMark, signingCaMark, validMark], ¬ mark <+: line := by decide
  unfold fieldOf
  by_cases empty : principals = []
  · have line : trimmed (field principalsMark noneMark) = nonePrincipals := by decide
    rw [if_pos empty, if_pos empty, List.foldl_cons, List.foldl_nil, read_of_line (by decide),
      step_other (line.symm ▸ fields _ (by simp)), line, if_neg (by decide)]
    split_ifs with reading ends none
    · exact absurd ends (by decide)
    · rfl
    · exact absurd none (by decide)
    · rfl
  · have line : trimmed (field principalsMark []) = principalsMark := by decide
    rw [if_neg empty, if_neg empty, List.foldl_cons, read_of_line (by decide),
      step_other (line.symm ▸ fields _ (by simp)), line, if_pos rfl]
    exact read_plain plain rfl

/-! The interval. -/

theorem isWhitespace_of_isDigit {char : Char} (digit : char.isDigit = true) : isWhitespace char = false := by
  have range : 48 ≤ char.toNat ∧ char.toNat ≤ 57 := by
    simpa [Char.isDigit, UInt32.le_iff_toNat_le] using digit
  simp only [isWhitespace, Bool.or_eq_false_iff, Bool.and_eq_false_iff, decide_eq_false_iff_not, beq_eq_false_iff_ne]
  omega

section

variable {τ : Type} (times : CertificateTimes τ)

theorem format_solid (time : τ) : ∀ char ∈ times.format time, isWhitespace char = false := by
  intro char member
  rcases (times.solid time).2 char member with digit | mark
  · exact isWhitespace_of_isDigit digit
  · simp only [List.mem_cons, List.not_mem_nil, or_false] at mark
    rcases mark with rfl | rfl | rfl <;> decide

theorem splitOnceAt_append {front : List Char} (solid : ' ' ∉ front) (back : List Char) :
    splitOnceAt toMark (front ++ (toMark ++ back)) = some (front, back) := by
  induction front with
  | nil => rfl
  | cons char front ih =>
    rw [List.mem_cons, not_or] at solid
    have misses : toMark.isPrefixOf? (char :: (front ++ (toMark ++ back))) = none := by
      rw [isPrefixOf?_eq_none_iff]
      rintro ⟨rest, same⟩
      exact solid.1 (List.cons.inj same).1
    rw [List.cons_append, splitOnceAt, misses, ih solid.2]
    rfl

theorem trimmed_showInterval (validity : Validity τ) :
    trimmed (showInterval times validity) = showInterval times validity := by
  -- What ends with a time has no blank behind it.
  have ended : ∀ (front : List Char) (time : τ), (∃ char, front.head? = some char ∧ isWhitespace char = false) →
      trimmed (front ++ times.format time) = front ++ times.format time := by
    rintro front time ⟨first, head, solid⟩
    refine trimMatches_eq_self (fun char found => ?_) fun char last => ?_
    · rw [List.head?_append, head] at found
      exact Option.some.inj found ▸ solid
    · rw [List.getLast?_append_of_ne_nil _ (times.solid time).1] at last
      exact format_solid times time char (List.mem_of_getLast? last)
  obtain ⟨after, before⟩ := validity
  cases after with
  | none =>
    cases before with
    | none => exact (by decide : trimmed forever = forever)
    | some before => exact ended _ _ ⟨_, rfl, by decide⟩
  | some after =>
    cases before with
    | none => exact ended _ _ ⟨_, rfl, by decide⟩
    | some before =>
      have parts : showInterval times ⟨some after, some before⟩ =
          (fromMark ++ (times.format after ++ toMark)) ++ times.format before := by simp [showInterval]
      rw [parts]
      exact ended _ _ ⟨_, rfl, by decide⟩

theorem readInterval_showInterval (validity : Validity τ) :
    readInterval (showInterval times validity) =
      if validity.after.isSome = validity.before.isSome then
        some (endText times always validity.after, endText times forever validity.before)
      else none := by
  obtain ⟨after, before⟩ := validity
  cases after with
  | none =>
    cases before with
    | none => rfl
    | some before => rfl
  | some after =>
    cases before with
    | none => rfl
    | some before =>
      have blank : ' ' ∉ times.format after := fun member =>
        absurd (format_solid times after ' ' member) (by decide)
      have other : showInterval times ⟨some after, some before⟩ ≠ forever := fun same =>
        absurd (List.cons.inj (List.cons.inj same).2).1 (by decide)
      have found : fromMark.isPrefixOf? (showInterval times ⟨some after, some before⟩) =
          some (times.format after ++ (toMark ++ times.format before)) :=
        List.isPrefixOf?_eq_some_iff_append_eq.mpr rfl
      rw [readInterval, if_neg other, found, Option.bind_some, splitOnceAt_append blank]
      rfl

/-- The fields of the interval are set, if the interval has a form that is known. -/
def CertificateLines.withInterval (state : CertificateLines) (validity : Validity τ) : CertificateLines :=
  if validity.after.isSome = validity.before.isSome then
    { state with
      validFrom := endText times always validity.after
      validTo := endText times forever validity.before }
  else state

theorem withInterval_rest (state : CertificateLines) (validity : Validity τ) :
    (state.withInterval times validity).certificateType = state.certificateType ∧
      (state.withInterval times validity).signingCa = state.signingCa ∧
      (state.withInterval times validity).principals = state.principals ∧
      (state.withInterval times validity).readingPrincipals = state.readingPrincipals := by
  unfold CertificateLines.withInterval
  split_ifs <;> exact ⟨rfl, rfl, rfl, rfl⟩

/-- What has been read in front of the serial number. -/
def preambleLines (path : List Char) (certificate : Certificate τ) : CertificateLines :=
  (preamble path certificate).foldl CertificateLines.read noLines

theorem serial_solid (serial : Nat) : trimmed (Nat.toDigits 10 serial) = Nat.toDigits 10 serial := by
  have digits : ∀ char ∈ Nat.toDigits 10 serial, isWhitespace char = false := fun char member =>
    isWhitespace_of_isDigit (Nat.isDigit_of_mem_toDigits (by decide) (by decide) member)
  exact trimMatches_eq_self (fun char head => digits char (List.mem_of_head? head))
    fun char last => digits char (List.mem_of_getLast? last)

theorem not_mem_showInterval (validity : Validity τ) : '\n' ∉ showInterval times validity := by
  have format : ∀ time, '\n' ∉ times.format time := fun time member =>
    absurd (format_solid times time _ member) (by decide)
  obtain ⟨after, before⟩ := validity
  cases after <;> cases before <;> simp [showInterval, format, forever, fromMark, toMark]

theorem foldl_printed (path : List Char) (certificate : Certificate τ)
    (plain : ∀ principal ∈ certificate.principals, PlainPrincipal principal) :
    (lines (printed times path certificate)).foldl CertificateLines.step noLines =
      let state := (preambleLines path certificate).withInterval times certificate.validity
      { state with
        serial := Nat.toDigits 10 certificate.serial
        principals := state.principals ++
          if certificate.principals = [] then if state.readingPrincipals then [nonePrincipals] else []
          else certificate.principals
        readingPrincipals := false } := by
  have serial : '\n' ∉ field serialMark (Nat.toDigits 10 certificate.serial) :=
    not_mem_field (by decide) fun member =>
      absurd (Nat.isDigit_of_mem_toDigits (by decide) (by decide) member) (by decide)
  have interval : '\n' ∉ field validMark (showInterval times certificate.validity) :=
    not_mem_field (by decide) (not_mem_showInterval times certificate.validity)
  rw [printed, foldl_lines, List.foldl_append, List.foldl_cons, List.foldl_cons, List.foldl_append,
    read_of_line serial, read_of_line interval, step_serial, serial_solid, step_valid, trimmed_showInterval,
    readInterval_showInterval, read_principals plain, read_options, ← preambleLines]
  unfold CertificateLines.withInterval
  split_ifs <;> simp_all

end

section

variable {τ : Type} [LinearOrder τ] (times : CertificateTimes τ)

variable {default : List Char}

theorem parseTime_endText (known : default = always ∨ default = forever) (time result : Option τ) :
    parseTime times (endText times default time) = .ok result ↔
      result = time ∧ ∀ value ∈ time, times.parseFromStr (times.format value) = some value := by
  cases time with
  | none =>
    have word : endText times default none = forever ∨ endText times default none = always := known.symm
    rw [parseTime, if_pos word, Except.ok.injEq]
    simp [eq_comm]
  | some time =>
    have digit : ∀ char ∈ times.format time, char ≠ 'e' ∧ char ≠ 'l' := by
      intro char member
      constructor <;> rintro rfl <;> exact absurd ((times.solid time).2 _ member) (by decide)
    have other : ¬ (times.format time = forever ∨ times.format time = always) := by
      rintro (same | same)
      · exact (digit 'e' (by rw [same]; decide)).1 rfl
      · exact (digit 'l' (by rw [same]; decide)).2 rfl
    change parseTime times (times.format time) = _ ↔ _
    rw [parseTime, if_neg other]
    cases found : times.parseFromStr (times.format time) with
    | none => simp [found]
    | some read =>
      obtain rfl := times.faithful time read found
      simp [found, eq_comm]

theorem finishCertificate_ok_iff (path : List Char) (now : τ) (state : CertificateLines) (info : SshCertificateInfo τ) :
    finishCertificate times path now state = .ok info ↔
      (userMark <:+: state.certificateType ∧ state.serial ≠ [] ∧ state.signingCa ≠ [] ∧ state.validFrom ≠ [] ∧
        state.validTo ≠ []) ∧
      ∃ after before, parseTime times state.validFrom = .ok after ∧ parseTime times state.validTo = .ok before ∧
        info = ⟨path, state.certificateType, state.keyId, state.serial, state.signingCa, state.validFrom,
          state.validTo, state.principals, after.all (· ≤ now) && before.all (now < ·),
          certificateStatus after before now⟩ := by
  unfold finishCertificate
  split_ifs with missing
  · refine iff_of_false (fun same => by cases same) ?_
    rintro ⟨⟨user, serial, signed, after, before⟩, -⟩
    rcases missing with other | other | other | other | other
    · exact other user
    · exact serial other
    · exact signed other
    · exact after other
    · exact before other
  · simp only [not_or, not_not] at missing
    rw [and_iff_right missing]
    cases parseTime times state.validFrom with
    | error error => simp [Bind.bind, Except.bind]
    | ok after =>
      cases parseTime times state.validTo with
      | error error => simp [Bind.bind, Except.bind]
      | ok before => simp [Bind.bind, Except.bind, Pure.pure, Except.pure, eq_comm]

/-- What is read of a certificate is its interval, its principals and its status at the time. -/
def Faithful (path : List Char) (certificate : Certificate τ) (now : τ) : Prop :=
  ∃ info, parse times path (printed times path certificate) now = .ok info ∧
    info.validFrom = endText times always certificate.validity.after ∧
    info.validTo = endText times forever certificate.validity.before ∧
    info.principals = certificate.principals ∧
    info.status = certificateStatus certificate.validity.after certificate.validity.before now

/-- The times of an interval are read as they are printed. -/
def Readable (validity : Validity τ) : Prop :=
  (∀ time ∈ validity.after, times.parseFromStr (times.format time) = some time) ∧
    ∀ time ∈ validity.before, times.parseFromStr (times.format time) = some time

/-- What has been read in front of the serial number spoils nothing, and makes up for an interval with one end. -/
def Unspoiled (certificate : Certificate τ) (state : CertificateLines) : Prop :=
  userMark <:+: state.certificateType ∧ state.signingCa ≠ [] ∧ state.principals = [] ∧
    (certificate.principals = [] → state.readingPrincipals = false) ∧
    (certificate.validity.after.isSome = certificate.validity.before.isSome ∨
      state.validFrom = endText times always certificate.validity.after ∧
        state.validTo = endText times forever certificate.validity.before)

theorem suffix_trimmed (front : List Char) {word : List Char} (solid : Solid word) :
    word <:+ trimmed (front ++ word) := by
  obtain ⟨⟨first, head, firstSolid⟩, last, ends, lastSolid⟩ := solid
  have nonempty : word ≠ [] := by
    rintro rfl
    cases head
  have kept : (front ++ word).dropWhile isWhitespace = front.dropWhile isWhitespace ++ word := by
    rw [List.dropWhile_append]
    split
    · rename_i blank
      rw [List.isEmpty_iff.mp blank, List.nil_append]
      cases word with
      | nil => rfl
      | cons char rest => simp [Option.some.inj head, firstSolid]
    · rfl
  rw [trimmed, trimMatches, kept, List.rdropWhile_eq_self_iff.mpr]
  · exact List.suffix_append _ _
  · intro whole
    rw [List.getLast_append_of_ne_nil _ nonempty]
    rw [List.getLast?_eq_some_getLast nonempty] at ends
    rw [Option.some.inj ends, lastSolid]
    exact Bool.false_ne_true

theorem endText_ne_nil (known : default = always ∨ default = forever) (time : Option τ) :
    endText times default time ≠ [] := by
  cases time with
  | none => rcases known with rfl | rfl <;> exact List.cons_ne_nil _ _
  | some time => exact (times.solid time).1

theorem faithful_iff (path : List Char) (certificate : Certificate τ) (now : τ) :
    Faithful times path certificate now ↔
      (∀ principal ∈ certificate.principals, PlainPrincipal principal) ∧ Readable times certificate.validity ∧
        Unspoiled times certificate (preambleLines path certificate) := by
  unfold Faithful parse Unspoiled
  constructor
  · rintro ⟨info, done, after, before, principals, status⟩
    obtain ⟨⟨user, -, signed, -⟩, since, until', readSince, readUntil, rfl⟩ := (finishCertificate_ok_iff ..).mp done
    -- Whatever is returned as a principal is plain.
    have plain : ∀ principal ∈ certificate.principals, PlainPrincipal principal := by
      rw [← principals]
      exact foldl_step_plain (not_mem_lines _) (fun _ member => by cases member)
    have final := foldl_printed times path certificate plain
    simp only [final, withInterval_rest] at user signed readSince readUntil after before principals
    rw [after, parseTime_endText times (.inl rfl)] at readSince
    rw [before, parseTime_endText times (.inr rfl)] at readUntil
    refine ⟨plain, ⟨readSince.2, readUntil.2⟩, user, signed, ?_, fun none => ?_, ?_⟩
    · by_cases none : certificate.principals = []
      · rw [none, if_pos rfl] at principals
        exact (List.append_eq_nil_iff.mp principals).1
      · rw [if_neg none] at principals
        exact List.append_left_eq_self.mp principals
    · rw [none, if_pos rfl] at principals
      have added := (List.append_eq_nil_iff.mp principals).2
      by_contra reading
      rw [if_pos (by simpa using reading)] at added
      cases added
    · by_cases both : certificate.validity.after.isSome = certificate.validity.before.isSome
      · exact .inl both
      · rw [CertificateLines.withInterval, if_neg both] at after before
        exact .inr ⟨after, before⟩
  · rintro ⟨plain, readable, user, signed, empty, idle, interval⟩
    have final := foldl_printed times path certificate plain
    have ends : ((preambleLines path certificate).withInterval times certificate.validity).validFrom =
          endText times always certificate.validity.after ∧
        ((preambleLines path certificate).withInterval times certificate.validity).validTo =
          endText times forever certificate.validity.before := by
      unfold CertificateLines.withInterval
      split_ifs with both
      · exact ⟨rfl, rfl⟩
      · exact interval.resolve_left both
    have digits : Nat.toDigits 10 certificate.serial ≠ [] := Nat.toDigits_ne_nil
    have rest := withInterval_rest times (preambleLines path certificate) certificate.validity
    rw [final]
    refine ⟨_, (finishCertificate_ok_iff ..).mpr ⟨⟨rest.1.symm ▸ user, digits, rest.2.1.symm ▸ signed, ?_, ?_⟩,
      certificate.validity.after, certificate.validity.before, ?_, ?_, rfl⟩, ends.1, ends.2, ?_, rfl⟩
    · exact ends.1.symm ▸ endText_ne_nil times (.inl rfl) _
    · exact ends.2.symm ▸ endText_ne_nil times (.inr rfl) _
    · exact ends.1.symm ▸ (parseTime_endText times (.inl rfl) ..).mpr ⟨rfl, readable.1⟩
    · exact ends.2.symm ▸ (parseTime_endText times (.inr rfl) ..).mpr ⟨rfl, readable.2⟩
    · change _ ++ _ = _
      rw [rest.2.2.1, empty, List.nil_append, rest.2.2.2]
      split_ifs with none reading
      · exact absurd (idle none) (by simpa using reading)
      · exact none.symm
      · rfl

theorem preambleLines_of_line {path : List Char} (certificate : Certificate τ) (name : Inert (path ++ [':']))
    (single : '\n' ∉ certificate.keyId) :
    Unspoiled times certificate (preambleLines path certificate) ↔
      certificate.validity.after.isSome = certificate.validity.before.isSome := by
  have mark : publicKeyMark ∈ [typeMark, keyIdMark, serialMark, signingCaMark, validMark, criticalMark,
      extensionsMark, publicKeyMark] := by simp
  have publicKey : Inert (field publicKeyMark certificate.publicKey) := by
    obtain ⟨rest, line, -⟩ := trimmed_field (solid_marks publicKeyMark mark) certificate.publicKey
    refine ⟨not_mem_field (by decide) certificate.oneLine.2.1, fun field member => ?_, fun same => ?_⟩
    · rw [line, ← isPrefixOf?_eq_none_iff]
      simp only [List.mem_cons, List.not_mem_nil, or_false] at member
      rcases member with rfl | rfl | rfl | rfl | rfl <;> rfl
    · rw [line] at same
      exact absurd (List.cons.inj (List.cons.inj same).2).1 (by decide)
  have user : '\n' ∉ certificate.algorithm ++ ' ' :: userMark := by
    have word : '\n' ∉ ' ' :: userMark := by decide
    exact fun member => (List.mem_append.mp member).elim certificate.oneLine.1 word
  have quoted : '\n' ∉ '"' :: certificate.keyId ++ ['"'] := by simp [single]
  have lines : preambleLines path certificate =
      { noLines with
        certificateType := trimmed (certificate.algorithm ++ ' ' :: userMark)
        signingCa := trimmed certificate.signingCa
        keyId := trimMatches (· == '"') (trimmed ('"' :: certificate.keyId ++ ['"'])) } := by
    unfold preambleLines preamble
    rw [List.foldl_cons, List.foldl_cons, List.foldl_cons, List.foldl_cons, List.foldl_cons, List.foldl_nil,
      read_of_line name.1, read_of_line (not_mem_field (by decide) user), read_of_line publicKey.1,
      read_of_line (not_mem_field (by decide) certificate.oneLine.2.2), read_of_line (not_mem_field (by decide) quoted),
      step_inert name rfl, step_type, step_inert publicKey rfl, step_signingCa, step_keyId]
  have type : userMark <:+: trimmed (certificate.algorithm ++ ' ' :: userMark) :=
    List.append_cons .. ▸ (suffix_trimmed (certificate.algorithm ++ [' '])
      ⟨⟨_, rfl, by decide⟩, _, rfl, by decide⟩).isInfix
  rw [lines]
  unfold Unspoiled
  refine ⟨?_, fun both => ⟨type, certificate.signed, rfl, fun _ => rfl, .inl both⟩⟩
  rintro ⟨-, -, -, -, both | ⟨missing, -⟩⟩
  · exact both
  · exact absurd missing.symm (endText_ne_nil times (.inl rfl) _)

/--
A certificate is read as it is just if its principals are plain, its times are read, and what is printed in front of
the serial number spoils nothing; with a file name and a key identifier of one line, if its interval has both ends or
none, its times are read, and its principals are plain.
-/
theorem parse_faithful_iff (path : List Char) (certificate : Certificate τ) (now : τ) :
    (Faithful times path certificate now ↔
      (∀ principal ∈ certificate.principals, PlainPrincipal principal) ∧ Readable times certificate.validity ∧
        Unspoiled times certificate (preambleLines path certificate)) ∧
    (Inert (path ++ [':']) → '\n' ∉ certificate.keyId →
      (Faithful times path certificate now ↔
        (∀ principal ∈ certificate.principals, PlainPrincipal principal) ∧ Readable times certificate.validity ∧
          certificate.validity.after.isSome = certificate.validity.before.isSome)) := by
  refine ⟨faithful_iff times path certificate now, fun name single => ?_⟩
  rw [faithful_iff, preambleLines_of_line times certificate name single]

end

/-- The beginning of a day of a summer. -/
def dayText (month : Char) : List Char :=
  ['2', '0', '2', '6', '-', '0', month, '-', '0', '1', 'T', '0', '0', ':', '0', '0', ':', '0', '0']

/-- Two days of a summer, the first of July and that of August. -/
def summerTimes : CertificateTimes Bool where
  format august := dayText (if august then '8' else '7')
  parseFromStr text := if text = dayText '7' then some false else if text = dayText '8' then some true else none
  solid august := by
    have marks : (dayText (if august then '8' else '7')).all (fun char => char.isDigit || ['-', ':', 'T'].contains char) =
        true := by cases august <;> rfl
    refine ⟨List.cons_ne_nil _ _, fun char member => ?_⟩
    simpa using List.all_eq_true.mp marks char member
  faithful time other := by cases time <;> cases other <;> decide

def sinceJuly : Certificate Bool where
  algorithm := ['s', 's', 'h', '-', 'e', 'd', '2', '5', '5', '1', '9', '-', 'c', 'e', 'r', 't']
  publicKey := ['E', 'D', '2', '5', '5', '1', '9', '-', 'C', 'E', 'R', 'T']
  signingCa := ['E', 'D', '2', '5', '5', '1', '9']
  keyId := ['d', 'e', 'p', 'l', 'o', 'y']
  serial := 42
  validity := ⟨some false, none⟩
  principals := []
  critical := []
  extensions := []
  oneLine := by decide
  signed := by decide
  options := by simp

/-- The interval without an end is not read, and the certificate with it. -/
theorem parse_sinceJuly : ¬ Faithful summerTimes ['/', 'k'] sinceJuly true := by
  rw [faithful_iff, preambleLines_of_line summerTimes sinceJuly (by decide) (by decide)]
  rintro ⟨-, -, same⟩
  exact absurd same (by decide)

end Ssh

end CNShell
