import CNShell.Ssh.Includes

/-! The sections of a configuration file, and which directives the import takes for a host. -/

namespace CNShell

namespace Ssh

open Client (AppError)

/-- What a line of a configuration file says. -/
inductive Item
  | host (aliases : List (List Char))
  | matchSection
  | setting (key value : List Char)
  | other
  deriving DecidableEq, Repr

def Item.value? (key : List Char) : Item → Option (List Char)
  | .setting own value => if own = key then some value else none
  | _ => none

/-- A line without its comment and the blanks around it. -/
def content (raw : List Char) : List Char := trimMatches isWhitespace (stripComment false raw)

/-- A part of a key: neither a blank nor `=`. -/
def inKey (char : Char) : Bool := !isWhitespace char && char != '='

/-- The key and the value of a line, which blanks, one `=` or both separate. -/
def sshDirective (line : List Char) : Option (List Char × List Char) :=
  let rest := line.dropWhile inKey
  if rest = [] then none
  else
    let value := rest.dropWhile isWhitespace
    some (line.takeWhile inKey, trimMatches isWhitespace (if value.head? = some '=' then value.tail else value))

def directiveItem (key value : List Char) : Item :=
  if key = "host".toList then .host (shellWords value)
  else if key = "match".toList then .matchSection
  else if key ∈ importedKeys then .setting key value
  else .other

/-- What a line says. -/
def configItem (raw : List Char) : Item :=
  if content raw = [] then .other
  else (sshDirective (content raw)).elim .other fun (key, value) => directiveItem (key.map Char.toLower) value

/-- No blank is inside of what stands in front of the first `=`, if there is one. -/
def readable (raw : List Char) : Bool :=
  !(content raw).contains '=' ||
    (trimMatches isWhitespace ((content raw).takeWhile (· ≠ '='))).all fun char => !isWhitespace char

/-- What the import sees of a line: no Match sections, and nothing where a blank is in front of a later `=`. -/
def Item.seen (readable : Bool) : Item → Item
  | .host aliases => if readable = true then .host aliases else .other
  | .setting key value => if readable = true then .setting key value else .other
  | .matchSection => .other
  | .other => .other

structure HostSection where
  aliases : List (List Char)
  settings : List (List Char × List Char)
  deriving DecidableEq, Repr

/-- The directives up to the next section. -/
def settings : List Item → List (List Char × List Char)
  | .setting key value :: rest => (key, value) :: settings rest
  | .other :: rest => settings rest
  | _ => []

def hostSections : List Item → List HostSection
  | [] => []
  | .host aliases :: rest => ⟨aliases, settings rest⟩ :: hostSections rest
  | _ :: rest => hostSections rest

def importable (aliases : List (List Char)) : Bool :=
  aliases.any fun name => !name.any fun char => ['*', '?', '!'].contains char

/-- A block has the names of a section, and for each imported key the value of the first directive in it. -/
def Same (home : Option (List Char)) (block : Block) (own : HostSection) : Prop :=
  block.aliases = own.aliases ∧
    ∀ key ∈ importedKeys, block.values.lookup key = (own.settings.lookup key).map (expandHome home)

section Keeping

/-- The first directive with a key up to the next section, and whether it is seen. -/
def firstOwn (key : List Char) : List (Item × Bool) → Option (List Char × Bool)
  | [] => none
  | (.host _, _) :: _ => none
  | (.matchSection, _) :: _ => none
  | (item, readable) :: rest => ((item.value? key).map (·, readable)).or (firstOwn key rest)

def firstSeen (key : List Char) : List (Item × Bool) → Option (List Char)
  | [] => none
  | (.host _, true) :: _ => none
  | (item, readable) :: rest => (if readable = true then item.value? key else none).or (firstSeen key rest)

/--
The lines after a Host line keep its value for a key.

Without a directive in the section none is seen before the next Host line that is seen; and in the place of one that
is not seen, the next one that is has the same value.
-/
def KeepsKey (home : Option (List Char)) (key : List Char) (after : List (Item × Bool)) : Prop :=
  match firstOwn key after with
  | none => firstSeen key after = none
  | some (_, true) => True
  | some (value, false) => ∃ other, firstSeen key after = some other ∧ expandHome home other = expandHome home value

/-- Every Host line that is imported is seen, and the lines after it keep its values. -/
def Keeps (home : Option (List Char)) (entries : List (Item × Bool)) : Prop :=
  ∀ aliases readable after, (.host aliases, readable) :: after <:+ entries → importable aliases = true →
    readable = true ∧ ∀ key ∈ importedKeys, KeepsKey home key after

end Keeping

section Reading

variable {line key value : List Char}

/-- What a line says to the import. -/
def lineItem (raw : List Char) : Item :=
  (lineDirective raw).elim .other fun (lower, value) =>
    if lower = "host".toList then .host (shellWords value)
    else if lower ∈ importedKeys then .setting lower value
    else .other

@[simp] theorem seen_false (item : Item) : item.seen false = .other := by
  cases item <;> rfl

theorem seen_directiveItem (key value : List Char) : (directiveItem key value).seen true =
    if key = "host".toList then .host (shellWords value)
    else if key ∈ importedKeys then .setting key value
    else .other := by
  have not_imported : "match".toList ∉ importedKeys := by decide
  unfold directiveItem
  split_ifs with host matches' imported imported'
  · rfl
  · subst matches'
    exact absurd imported not_imported
  · rfl
  · rfl
  · rfl

theorem lineItem_blank {lower : List Char} (inside : ∃ char ∈ lower, isWhitespace char = true) :
    lower ≠ "host".toList ∧ lower ∉ importedKeys := by
  obtain ⟨char, member, blank⟩ := inside
  have solid : (("host".toList :: importedKeys).all fun known => known.all fun char => !isWhitespace char) = true := by
    decide
  have unknown : lower ∉ "host".toList :: importedKeys := fun known => by
    have letter := List.all_eq_true.mp (List.all_eq_true.mp solid lower known) char member
    rw [blank] at letter
    cases letter
  exact not_or.mp (List.mem_cons.not.mp unknown)

theorem takeWhile_inKey (none : '=' ∉ line) :
    line.takeWhile inKey = line.takeWhile (fun char => !isWhitespace char) ∧
      line.dropWhile inKey = line.dropWhile (fun char => !isWhitespace char) := by
  induction line with
  | nil => exact ⟨rfl, rfl⟩
  | cons first rest ih =>
    obtain ⟨differs, none⟩ := not_or.mp (List.mem_cons.not.mp none)
    have same : inKey first = !isWhitespace first := by simp [inKey, Ne.symm differs]
    cases blank : isWhitespace first with
    | false => simp [same, blank, ih none]
    | true => simp [same, blank]

theorem splitDirective_blank (none : '=' ∉ line) : splitDirective line = sshDirective line := by
  obtain ⟨front, behind⟩ := takeWhile_inKey none
  have solid : line.any isWhitespace = true ↔ line.dropWhile inKey ≠ [] := by
    rw [behind, ne_eq, List.dropWhile_eq_nil_iff, List.any_eq_true]
    simp
  have no_equals : ((line.dropWhile inKey).dropWhile isWhitespace).head? ≠ some '=' := by
    intro first
    have member := List.mem_of_mem_head? first
    exact none ((List.dropWhile_sublist _).subset ((List.dropWhile_sublist _).subset member))
  rw [splitDirective, if_neg none, sshDirective]
  by_cases rest : line.dropWhile inKey = []
  · rw [if_neg (fun blank => solid.mp blank rest), if_pos rest]
  · rw [if_pos (solid.mpr rest), if_neg rest]
    rw [front, ← behind]
    simp only [if_neg no_equals, trimMatches_dropWhile]

/-- With blanks only behind the key, a line is split at its first `=` either way. -/
theorem splitDirective_equals (first : ∀ char, line.head? = some char → isWhitespace char = false) (equals : '=' ∈ line)
    (solid : ∀ char ∈ trimMatches isWhitespace (line.takeWhile (· ≠ '=')), isWhitespace char = false) :
    splitDirective line = sshDirective line := by
  -- The line is the key, blanks, `=` and the value.
  obtain ⟨tail, behind⟩ : ∃ tail, line.dropWhile (· ≠ '=') = '=' :: tail := by
    have not_other := List.head?_dropWhile_not (fun char => decide (char ≠ '=')) line
    cases rest : line.dropWhile (· ≠ '=') with
    | nil => exact absurd (List.dropWhile_eq_nil_iff.mp rest '=' equals) (by simp)
    | cons head tail =>
      rw [rest] at not_other
      obtain rfl : head = '=' := by simpa using not_other
      exact ⟨tail, rfl⟩
  obtain ⟨blanks, front, blank⟩ : ∃ blanks, line.takeWhile (· ≠ '=') =
      trimMatches isWhitespace (line.takeWhile (· ≠ '=')) ++ blanks ∧ ∀ char ∈ blanks, isWhitespace char = true := by
    refine trimMatches_append fun char there => first char ?_
    obtain ⟨rest, parts⟩ := List.takeWhile_prefix (fun char => decide (char ≠ '=')) (l := line)
    rw [← parts, List.head?_append, there]
    rfl
  have key_in : ∀ char ∈ trimMatches isWhitespace (line.takeWhile (· ≠ '=')), inKey char = true := by
    intro char member
    have before : char ∈ line.takeWhile (· ≠ '=') := front ▸ List.mem_append_left blanks member
    have differs : char ≠ '=' := by simpa using List.mem_takeWhile_imp before
    simp [inKey, solid char member, differs]
  have ends : (blanks ++ '=' :: tail).takeWhile inKey = [] ∧
      (blanks ++ '=' :: tail).dropWhile inKey = blanks ++ '=' :: tail := by
    have outside : ∀ char, (blanks ++ '=' :: tail).head? = some char → inKey char = false := by
      intro char there
      cases blanks with
      | nil =>
        obtain rfl := Option.some.inj there
        rfl
      | cons space _ =>
        obtain rfl := Option.some.inj there
        simp [inKey, blank _ List.mem_cons_self]
    cases rest : blanks ++ '=' :: tail with
    | nil => simp at rest
    | cons head _ =>
      have out := outside head (by rw [rest]; rfl)
      simp [out]
  have whole : line = trimMatches isWhitespace (line.takeWhile (· ≠ '=')) ++ (blanks ++ '=' :: tail) := by
    rw [← List.append_assoc, ← front, ← behind, List.takeWhile_append_dropWhile]
  have key_end : line.takeWhile inKey = trimMatches isWhitespace (line.takeWhile (· ≠ '=')) := by
    conv_lhs => rw [whole]
    rw [List.takeWhile_append_of_pos key_in, ends.1, List.append_nil]
  have value_start : line.dropWhile inKey = blanks ++ '=' :: tail := by
    conv_lhs => rw [whole]
    rw [List.dropWhile_append_of_pos key_in, ends.2]
  have separator : (blanks ++ '=' :: tail).dropWhile isWhitespace = '=' :: tail := by
    rw [List.dropWhile_append_of_pos blank]
    rfl
  rw [splitDirective, if_pos equals, sshDirective, value_start, if_neg (by simp), behind]
  simp only [separator, key_end]
  rfl

theorem lineItem_eq (raw : List Char) : lineItem raw = (configItem raw).seen (readable raw) := by
  have first : ∀ char, (content raw).head? = some char → isWhitespace char = false := fun char => head?_trimMatches
  have line : lineDirective raw = if content raw = [] then none
      else (splitDirective (content raw)).map fun (key, value) => (key.map Char.toLower, value) := rfl
  rw [lineItem, line, configItem]
  by_cases empty : content raw = []
  · rw [if_pos empty, if_pos empty]
    cases readable raw <;> rfl
  rw [if_neg empty, if_neg empty]
  have alike : readable raw = true → splitDirective (content raw) = sshDirective (content raw) := by
    intro plain
    by_cases equals : '=' ∈ content raw
    · refine splitDirective_equals first equals fun char member => ?_
      rw [readable, List.contains_iff_mem.mpr equals] at plain
      simpa using List.all_eq_true.mp plain char member
    · exact splitDirective_blank equals
  cases plain : readable raw with
  | true =>
    rw [alike plain]
    cases sshDirective (content raw) with
    | none => rfl
    | some directive => exact (seen_directiveItem _ _).symm
  | false =>
    -- The key of the line has a blank inside, which is the key of nothing that is imported.
    rw [seen_false]
    simp only [readable, Bool.or_eq_false_iff, Bool.not_eq_false', List.contains_iff_mem, List.all_eq_false,
      Bool.not_eq_true', Bool.not_eq_false] at plain
    obtain ⟨equals, char, member, blank⟩ := plain
    rw [splitDirective, if_pos equals]
    obtain ⟨not_host, not_imported⟩ := lineItem_blank ⟨char.toLower, List.mem_map_of_mem member, by simpa using blank⟩
    simp only [Option.map_some, Option.elim_some, if_neg not_host, if_neg not_imported]

end Reading

section Blocks

variable {home : Option (List Char)} {path key : List Char}

/-- A block with the directives of a section, of which the first one with each key counts. -/
def extend (home : Option (List Char)) (block : Block) (settings : List (List Char × List Char)) : Block :=
  settings.foldl (fun block (key, value) => insertValue home key value block) block

def toBlock (home : Option (List Char)) (path : List Char) (own : HostSection) : Block :=
  extend home ⟨own.aliases, [], path, []⟩ own.settings

theorem extend_fields (block : Block) (settings : List (List Char × List Char)) :
    (extend home block settings).aliases = block.aliases ∧ (extend home block settings).source = block.source ∧
      (extend home block settings).warnings = block.warnings := by
  induction settings generalizing block with
  | nil => exact ⟨rfl, rfl, rfl⟩
  | cons setting settings ih =>
    obtain ⟨aliases, source, warnings⟩ := ih (insertValue home setting.1 setting.2 block)
    have same : (insertValue home setting.1 setting.2 block).aliases = block.aliases ∧
        (insertValue home setting.1 setting.2 block).source = block.source ∧
        (insertValue home setting.1 setting.2 block).warnings = block.warnings := by
      unfold insertValue
      split_ifs <;> exact ⟨rfl, rfl, rfl⟩
    exact ⟨aliases.trans same.1, source.trans same.2.1, warnings.trans same.2.2⟩

theorem lookup_extend (block : Block) (settings : List (List Char × List Char)) :
    (extend home block settings).values.lookup key =
      (block.values.lookup key).or ((settings.lookup key).map (expandHome home)) := by
  induction settings generalizing block with
  | nil => simp [extend]
  | cons setting settings ih =>
    obtain ⟨own, value⟩ := setting
    show (extend home (insertValue home own value block) settings).values.lookup key = _
    rw [ih, insertValue]
    by_cases same : key = own
    · subst same
      cases known : block.values.lookup key with
      | some value' => simp [known]
      | none => simp [known, List.lookup_append]
    · have skipped : ((own, value) :: settings).lookup key = settings.lookup key := by
        rw [List.lookup_cons, beq_false_of_ne same]
      rw [skipped]
      split_ifs with known
      · rfl
      · rw [List.lookup_append]
        simp [List.lookup_cons, beq_false_of_ne same]

theorem aliases_toBlock (own : HostSection) : (toBlock home path own).aliases = own.aliases := (extend_fields _ _).1

theorem lookup_toBlock (own : HostSection) :
    (toBlock home path own).values.lookup key = (own.settings.lookup key).map (expandHome home) := by
  rw [toBlock, lookup_extend]
  rfl

theorem own_includeParts (files : ConfigFiles) (root path : List Char) (patterns : List (List Char)) :
    (patterns.flatMap (includeParts files root path)).filterMap Traversal.Part.own? = [] := by
  refine List.filterMap_eq_nil_iff.mpr fun part member => ?_
  obtain ⟨pattern, -, among⟩ := List.mem_flatMap.mp member
  unfold includeParts at among
  cases expanded : expandInclude files path root pattern with
  | error error =>
    rw [expanded] at among
    cases List.mem_singleton.mp among
    rfl
  | ok includes =>
    rw [expanded] at among
    obtain ⟨included, -, rfl⟩ := List.mem_map.mp among
    rfl

theorem own_textParts (files : ConfigFiles) (root path : List Char) (current : Option Block)
    (texts : List (List Char)) : (textParts files root path current texts).filterMap Traversal.Part.own? =
      (current.map fun block => extend files.home block (settings (texts.map lineItem))).toList ++
        (hostSections (texts.map lineItem)).map (toBlock files.home path) := by
  have own : ∀ block : Option Block,
      (block.toList.map (@Traversal.Part.own (List Char) Block AppError)).filterMap Traversal.Part.own? = block.toList := by
    intro block
    cases block <;> rfl
  have not_include : "include".toList ≠ "host".toList ∧ "include".toList ∉ importedKeys := by decide
  induction texts generalizing current with
  | nil =>
    rw [textParts, own]
    cases current <;> rfl
  | cons raw texts ih =>
    rw [textParts, List.map_cons]
    cases directive : lineDirective raw with
    | none =>
      have item : lineItem raw = .other := by rw [lineItem, directive]; rfl
      rw [item]
      exact ih current
    | some entry =>
      obtain ⟨lower, value⟩ := entry
      have item : lineItem raw = if lower = "host".toList then .host (shellWords value)
          else if lower ∈ importedKeys then .setting lower value else .other := by rw [lineItem, directive]; rfl
      dsimp only
      split_ifs with included host imported
      · rw [item, included, if_neg not_include.1, if_neg not_include.2, List.filterMap_append, own_includeParts,
          List.nil_append]
        exact ih current
      · rw [item, if_pos host, List.filterMap_append, own, ih]
        cases current <;> rfl
      · rw [item, if_neg host, if_pos imported, ih]
        cases current <;> rfl
      · rw [item, if_neg host, if_neg imported]
        exact ih current

end Blocks

section Entries

variable {home : Option (List Char)} {path key : List Char} {entries after : List (Item × Bool)}

/-- What the import sees of the lines. -/
def seenItems (entries : List (Item × Bool)) : List Item := entries.map fun entry => entry.1.seen entry.2

theorem lookup_settings (key : List Char) (after : List (Item × Bool)) :
    (settings (after.map Prod.fst)).lookup key = (firstOwn key after).map Prod.fst := by
  induction after with
  | nil => rfl
  | cons entry after ih =>
    obtain ⟨item, readable⟩ := entry
    cases item with
    | host | matchSection => rfl
    | other => exact ih
    | setting own value =>
      show ((own, value) :: settings (after.map Prod.fst)).lookup key = _
      rw [List.lookup_cons, firstOwn, Item.value?]
      · by_cases same : key = own
        · subst same
          simp
        · rw [beq_false_of_ne same, if_neg (Ne.symm same)]
          exact ih
      · simp
      · simp

theorem lookup_seenItems (key : List Char) (after : List (Item × Bool)) :
    (settings (seenItems after)).lookup key = firstSeen key after := by
  induction after with
  | nil => rfl
  | cons entry after ih =>
    obtain ⟨item, readable⟩ := entry
    cases item with
    | host =>
      cases readable with
      | true => rfl
      | false => exact ih
    | matchSection | other => cases readable <;> exact ih
    | setting own value =>
      cases readable with
      | false => exact ih
      | true =>
        show ((own, value) :: settings (seenItems after)).lookup key =
          (if own = key then some value else none).or (firstSeen key after)
        rw [List.lookup_cons]
        by_cases same : key = own
        · subst same
          simp
        · rw [beq_false_of_ne same, if_neg (Ne.symm same)]
          exact ih

theorem firstSeen_of_firstOwn {value : List Char} (first : firstOwn key after = some (value, true)) :
    firstSeen key after = some value := by
  induction after with
  | nil => cases first
  | cons entry after ih =>
    obtain ⟨item, readable⟩ := entry
    cases item with
    | host | matchSection => cases first
    | other => cases readable <;> exact ih first
    | setting own value' =>
      have parts : ((if own = key then some value' else none).map (·, readable)).or (firstOwn key after) =
          some (value, true) := first
      show (if readable = true then if own = key then some value' else none else none).or (firstSeen key after) = _
      by_cases same : own = key
      · rw [if_pos same] at parts ⊢
        cases parts
        rfl
      · rw [if_neg same] at parts ⊢
        rw [ite_self]
        exact ih parts

theorem keepsKey_iff : KeepsKey home key after ↔
    ((settings (seenItems after)).lookup key).map (expandHome home) =
      ((settings (after.map Prod.fst)).lookup key).map (expandHome home) := by
  rw [lookup_seenItems, lookup_settings, KeepsKey]
  rcases first : firstOwn key after with _ | ⟨value, _ | _⟩
  · cases firstSeen key after <;> simp
  · cases firstSeen key after <;> simp
  · simp [firstSeen_of_firstOwn first]

theorem keeps_cons {item : Item} {readable : Bool} : Keeps home ((item, readable) :: entries) ↔
    (∀ aliases, item = .host aliases → importable aliases = true →
      readable = true ∧ ∀ key ∈ importedKeys, KeepsKey home key entries) ∧ Keeps home entries := by
  constructor
  · intro keeps
    refine ⟨fun aliases same => ?_, fun aliases readable after suffix => ?_⟩
    · subst same
      exact keeps aliases readable entries List.suffix_rfl
    · exact keeps aliases readable after (suffix.trans (List.suffix_cons _ _))
  · rintro ⟨here, later⟩ aliases readable' after suffix
    rcases List.suffix_cons_iff.mp suffix with same | inside
    · obtain ⟨⟨rfl, rfl⟩, rfl⟩ : (.host aliases = item ∧ readable' = readable) ∧ after = entries := by
        simpa using same
      exact here aliases rfl
    · exact later aliases readable' after inside

theorem length_seen_le (entries : List (Item × Bool)) :
    ((hostSections (seenItems entries)).filter fun own => importable own.aliases).length ≤
      ((hostSections (entries.map Prod.fst)).filter fun own => importable own.aliases).length := by
  induction entries with
  | nil => exact le_refl _
  | cons entry entries ih =>
    obtain ⟨item, readable⟩ := entry
    cases item with
    | matchSection | other | setting => cases readable <;> exact ih
    | host aliases =>
      have more : ((hostSections (entries.map Prod.fst)).filter fun own => importable own.aliases).length ≤
          ((hostSections (((.host aliases, readable) :: entries).map Prod.fst)).filter fun own =>
            importable own.aliases).length :=
        ((List.sublist_cons_self _ _).filter _).length_le
      cases readable with
      | false => exact ih.trans more
      | true =>
        show ((⟨aliases, _⟩ :: hostSections (seenItems entries) : List HostSection).filter _).length ≤
          ((⟨aliases, _⟩ :: hostSections (entries.map Prod.fst) : List HostSection).filter _).length
        simp only [List.filter_cons]
        split_ifs
        · simpa using ih
        · exact ih

theorem filter_toBlock (sections : List HostSection) :
    (sections.map (toBlock home path)).filter (fun block => importable block.aliases) =
      (sections.filter fun own => importable own.aliases).map (toBlock home path) := by
  rw [List.filter_map]
  refine congrArg _ (List.filter_congr fun own _ => ?_)
  rw [Function.comp_apply, aliases_toBlock]

/-- The imported blocks are those of the sections exactly if every value is kept. -/
theorem forall₂_sections_iff (home : Option (List Char)) (path : List Char) (entries : List (Item × Bool)) :
    List.Forall₂ (Same home)
      (((hostSections (seenItems entries)).map (toBlock home path)).filter fun block => importable block.aliases)
      ((hostSections (entries.map Prod.fst)).filter fun own => importable own.aliases) ↔ Keeps home entries := by
  induction entries with
  | nil =>
    refine iff_of_true .nil fun aliases readable after suffix => ?_
    simp at suffix
  | cons entry entries ih =>
    obtain ⟨item, readable⟩ := entry
    rw [keeps_cons, ← ih]
    cases item with
    | matchSection | other | setting =>
      cases readable <;> exact (and_iff_right fun _ same => by cases same).symm
    | host aliases =>
      have sections : hostSections (((.host aliases, readable) :: entries).map Prod.fst) =
          ⟨aliases, settings (entries.map Prod.fst)⟩ :: hostSections (entries.map Prod.fst) := rfl
      rw [sections, List.filter_cons]
      by_cases named : importable aliases = true
      · rw [if_pos named]
        cases readable with
        | false =>
          -- A section is missing.
          refine iff_of_false (fun all => ?_) fun keeps => ?_
          · have fewer := length_seen_le entries
            have same := all.length_eq
            rw [filter_toBlock, List.length_map, List.length_cons] at same
            have less : ((hostSections (seenItems entries)).filter fun own => importable own.aliases).length =
              ((hostSections (entries.map Prod.fst)).filter fun own => importable own.aliases).length + 1 := same
            omega
          · cases (keeps.1 aliases rfl named).1
        | true =>
          have seen : hostSections (seenItems ((.host aliases, true) :: entries)) =
              ⟨aliases, settings (seenItems entries)⟩ :: hostSections (seenItems entries) := rfl
          have kept : importable (toBlock home path ⟨aliases, settings (seenItems entries)⟩).aliases = true := by
            rw [aliases_toBlock]
            exact named
          rw [seen, List.map_cons, List.filter_cons, if_pos kept, List.forall₂_cons]
          refine and_congr_left fun _ => ⟨?_, fun keeps => ⟨aliases_toBlock _, fun key member => ?_⟩⟩
          · rintro ⟨-, values⟩ aliases' same _
            cases same
            refine ⟨rfl, fun key member => keepsKey_iff.mpr ?_⟩
            rw [← values key member, lookup_toBlock]
          · rw [lookup_toBlock]
            exact keepsKey_iff.mp ((keeps aliases rfl named).2 key member)
      · rw [if_neg named]
        have vacuous : ∀ aliases', Item.host aliases = .host aliases' → importable aliases' = true →
            readable = true ∧ ∀ key ∈ importedKeys, KeepsKey home key entries := by
          intro aliases' same other
          cases same
          exact absurd other named
        rw [and_iff_right vacuous]
        cases readable with
        | false => exact Iff.rfl
        | true =>
          have seen : hostSections (seenItems ((.host aliases, true) :: entries)) =
              ⟨aliases, settings (seenItems entries)⟩ :: hostSections (seenItems entries) := rfl
          have dropped : ¬importable (toBlock home path ⟨aliases, settings (seenItems entries)⟩).aliases = true := by
            rw [aliases_toBlock]
            exact named
          rw [seen, List.map_cons, List.filter_cons, if_neg dropped]

end Entries

section Imports

variable {files : ConfigFiles} {root path canonical text : List Char} {depth : Nat} {state next : ParseState}

/-- The lines of a file, and whether the import reads them. -/
def configEntries (text : List Char) : List (Item × Bool) := (lines text).map fun raw => (configItem raw, readable raw)

theorem seenItems_configEntries (text : List Char) : seenItems (configEntries text) = (lines text).map lineItem := by
  rw [seenItems, configEntries, List.map_map]
  exact List.map_congr_left fun raw _ => (lineItem_eq raw).symm

theorem owned_configSource (files : ConfigFiles) (root : List Char) :
    Traversal.Owned (configSource files root) Block.source := by
  intro node parts block loaded member
  simp only [configSource, bind_eq_ok, ensure_eq_ok, pure_eq_ok] at loaded
  obtain ⟨text, -, -, -, rfl⟩ := loaded
  have own : block ∈ (textParts files root node none (lines text)).filterMap Traversal.Part.own? :=
    List.mem_filterMap.mpr ⟨_, member, rfl⟩
  rw [own_textParts] at own
  obtain ⟨section', -, rfl⟩ := List.mem_map.mp own
  exact (extend_fields _ _).2.1

theorem own_blocks (parsed : parseFile files root depth path state = .ok next)
    (named : files.canonicalize path = .ok canonical) (read : files.readToString canonical = .ok text) :
    ∃ added, next.blocks = state.blocks ++ added ∧ added.filter (fun block => block.source = canonical) =
      (hostSections (seenItems (configEntries text))).map (toBlock files.home canonical) := by
  rw [parseFile_canonicalRoot, parseFile_eq files (canonicalRoot_canonicalRoot files root)] at parsed
  cases visited : Traversal.visit (configSource files (canonicalRoot files root)) depth state.visited path with
  | error failure =>
    rw [visited] at parsed
    cases failure <;> cases parsed
  | ok events =>
    rw [visited] at parsed
    obtain rfl := Except.ok.inj parsed
    refine ⟨Traversal.items events, rfl, ?_⟩
    cases depth with
    | zero => cases visited
    | succ depth =>
      obtain ⟨node, parts, resolved, loaded, items⟩ :=
        Traversal.items_visit_filter (owned_configSource files (canonicalRoot files root)) visited
      simp only [configSource, bind_eq_ok, mapError_eq_ok, ensure_eq_ok, pure_eq_ok] at resolved loaded
      obtain ⟨canonical', named', -, -, rfl⟩ := resolved
      obtain rfl := Except.ok.inj (named.symm.trans named')
      obtain ⟨text', read', -, -, rfl⟩ := loaded
      obtain rfl := Except.ok.inj (read.symm.trans read')
      rw [items, own_textParts, seenItems_configEntries]
      rfl

end Imports

namespace Demo

def configured (text : String) : ConfigFiles := included [("/r/a".toList, text.toList)]

def plain : String := "Host a *\nUser=x=y # x\nPort 2222\nUser z"

def matching : String := "Host a\nMatch user x\nUser root"

def equals : String := "Host b\nIdentityFile /keys/a=b"

end Demo

end Ssh

end CNShell
