import CNShell.Library.Utf16
import Mathlib.Data.List.Induction

/-! The word of a command line that is completed, and the path that takes its place. -/

namespace CNShell

namespace Frontend

/-- The white space of regular expressions. -/
def isSpace (unit : UInt16) : Bool :=
  (0x09 ≤ unit && unit ≤ 0x0d) || unit ∈ [0x20, 0xa0, 0x1680, 0x2028, 0x2029, 0x202f, 0x205f, 0x3000, 0xfeff] ||
    (0x2000 ≤ unit && unit ≤ 0x200a)

/-- The scan for the last word: where it starts, the open quote, and whether the next unit is escaped. -/
structure Scan where
  start : Nat
  quote : Option UInt16
  escaped : Bool
  index : Nat
deriving DecidableEq

def Scan.step (scan : Scan) (character : UInt16) : Scan :=
  if scan.escaped then { scan with escaped := false, index := scan.index + 1 }
  else if character = backslash ∧ scan.quote ≠ some apostrophe then
    { scan with escaped := true, index := scan.index + 1 }
  else if character = apostrophe ∨ character = quotationMark then
    if scan.quote = some character then { scan with quote := none, index := scan.index + 1 }
    else if scan.quote = none then { scan with quote := some character, index := scan.index + 1 }
    else { scan with index := scan.index + 1 }
  else if isSpace character ∧ scan.quote = none then
    { scan with start := scan.index + 1, index := scan.index + 1 }
  else { scan with index := scan.index + 1 }

structure CompletionToken where
  start : Nat
  value : Units
deriving DecidableEq

def scan (command : Units) : Scan := command.foldl Scan.step ⟨0, none, false, 0⟩

def completionToken (command : Units) : CompletionToken := ⟨(scan command).start, command.drop (scan command).start⟩

def replaceCompletionToken (command replacement : Units) : Units :=
  command.take (completionToken command).start ++ replacement

/-- A unit inside single quotes: they are left for an apostrophe. -/
def quotedUnit (unit : UInt16) : Units :=
  if unit = apostrophe then [apostrophe, backslash, apostrophe, apostrophe] else [unit]

def shellQuote (value : Units) : Units := apostrophe :: value.flatMap quotedUnit ++ [apostrophe]

structure Decoding where
  result : Units
  quote : Option UInt16
  escaped : Bool

def Decoding.step (decoding : Decoding) (character : Units) : Decoding :=
  if decoding.escaped then { decoding with result := decoding.result ++ character, escaped := false }
  else if character = [backslash] ∧ decoding.quote ≠ some apostrophe then { decoding with escaped := true }
  else if character = [apostrophe] ∨ character = [quotationMark] then
    if decoding.quote.map ([·]) = some character then { decoding with quote := none }
    else if decoding.quote = none then { decoding with quote := character.head? }
    else { decoding with result := decoding.result ++ character }
  else { decoding with result := decoding.result ++ character }

def decodeShellToken (value : Units) : Units :=
  let decoding := value.characters.foldl Decoding.step ⟨[], none, false⟩
  if decoding.escaped then decoding.result ++ [backslash] else decoding.result

def lastIndexOf (text : Units) (unit : UInt16) : Option Nat := (text.reverse.idxOf? unit).map (text.length - 1 - ·)

structure PathLookup where
  parent : Units
  namePrefix : Units
deriving DecidableEq

def pathLookup (command cwd : Units) : Option PathLookup :=
  let unquoted := decodeShellToken (completionToken command).value
  if unquoted = [] ∨ slash ∉ unquoted ∧ unquoted.head? ≠ some 0x2e then none
  else
    let absolute :=
      if unquoted.head? = some slash then unquoted
      else (if cwd.getLast? = some slash then cwd.dropLast else cwd) ++ slash :: unquoted
    match lastIndexOf absolute slash with
    | some index =>
      some ⟨if absolute.take index = [] then [slash] else absolute.take index, absolute.drop (index + 1)⟩
    | none => some ⟨if absolute.dropLast = [] then [slash] else absolute.dropLast, absolute⟩

/-! The scan of a line up to its last word, and of a quoted one behind it. -/

theorem scan_index (command : Units) (state : Scan) :
    (command.foldl Scan.step state).index = state.index + command.length := by
  induction command generalizing state with
  | nil => rfl
  | cons character command ih =>
    have one : (state.step character).index = state.index + 1 := by
      unfold Scan.step
      split_ifs <;> rfl
    rw [List.foldl_cons, ih, one, List.length_cons]
    omega

theorem Scan.step_start (state : Scan) (character : UInt16) :
    (state.step character).start = state.start ∨
      state.step character = ⟨state.index + 1, none, false, state.index + 1⟩ := by
  unfold step
  split_ifs with escaped _ _ _ _ blank
  all_goals first | exact .inl rfl | skip
  right
  rw [blank.2, Bool.eq_false_iff.mpr escaped]

theorem scan_take (command : Units) :
    (scan command).start ≤ command.length ∧
      scan (command.take (scan command).start) = ⟨(scan command).start, none, false, (scan command).start⟩ := by
  induction command using List.reverseRecOn with
  | nil => exact ⟨Nat.le_refl 0, rfl⟩
  | append_singleton command character ih =>
    have index : (scan command).index = command.length := (scan_index command _).trans (Nat.zero_add _)
    have split : scan (command ++ [character]) = (scan command).step character := List.foldl_append ..
    rcases (scan command).step_start character with same | fresh
    · rw [split, same, List.take_append_of_le_length ih.1, List.length_append]
      exact ⟨Nat.le_add_right_of_le ih.1, ih.2⟩
    · have whole : command.length + 1 = (command ++ [character]).length := by simp
      rw [split, fresh, index]
      refine ⟨Nat.le_of_eq whole, ?_⟩
      simp only [whole, List.take_length]
      rw [split, fresh, index, whole]

theorem scan_quoted (value : Units) (start index : Nat) :
    (value.flatMap quotedUnit).foldl Scan.step ⟨start, some apostrophe, false, index⟩ =
      ⟨start, some apostrophe, false, index + (value.flatMap quotedUnit).length⟩ := by
  induction value generalizing index with
  | nil => rfl
  | cons unit value ih =>
    have one : (quotedUnit unit).foldl Scan.step ⟨start, some apostrophe, false, index⟩ =
        ⟨start, some apostrophe, false, index + (quotedUnit unit).length⟩ := by
      unfold quotedUnit
      split_ifs with same
      · rfl
      · have other : apostrophe ≠ unit := Ne.symm same
        simp [Scan.step, other]
    rw [List.flatMap_cons, List.foldl_append, one, ih, List.length_append, Nat.add_assoc]

theorem scan_replaced (command value : Units) :
    (scan (replaceCompletionToken command (shellQuote value))).start = (completionToken command).start := by
  rw [replaceCompletionToken, completionToken, scan, List.foldl_append]
  change ((shellQuote value).foldl Scan.step (scan (command.take (scan command).start))).start = _
  rw [(scan_take command).2, shellQuote, List.foldl_append, List.foldl_cons]
  change ([apostrophe].foldl Scan.step ((value.flatMap quotedUnit).foldl Scan.step
    ⟨(scan command).start, some apostrophe, false, _⟩)).start = _
  rw [scan_quoted]
  rfl

theorem completionToken_replaced (command value : Units) :
    completionToken (replaceCompletionToken command (shellQuote value)) =
      ⟨(completionToken command).start, shellQuote value⟩ := by
  have start := scan_replaced command value
  have front : (command.take (completionToken command).start).length = (completionToken command).start :=
    List.length_take_of_le (scan_take command).1
  rw [completionToken, start, replaceCompletionToken]
  simp [front]

/-! What is decoded of a quoted text. -/

theorem Decoding.step_halves (state : Decoding) (unit next : UInt16) (front : Units.high unit = true)
    (back : Units.low next = true) : state.step [unit, next] = (state.step [unit]).step [next] := by
  have plain : ∀ mark ∈ [apostrophe, quotationMark, backslash], unit ≠ mark ∧ next ≠ mark := by
    intro mark member
    have neither : ∀ mark ∈ [apostrophe, quotationMark, backslash],
        Units.high mark = false ∧ Units.low mark = false := by
      intro mark member
      simp only [List.mem_cons, List.not_mem_nil, or_false] at member
      rcases member with rfl | rfl | rfl <;> decide
    constructor <;> rintro rfl
    · exact Bool.false_ne_true ((neither _ member).1.symm.trans front)
    · exact Bool.false_ne_true ((neither _ member).2.symm.trans back)
  obtain ⟨one, two⟩ := plain apostrophe (by decide)
  obtain ⟨three, four⟩ := plain quotationMark (by decide)
  obtain ⟨five, six⟩ := plain backslash (by decide)
  cases escaped : state.escaped <;> simp [Decoding.step, escaped, one, two, three, four, five, six]

theorem decode_quoted (value result : Units) :
    (value.flatMap quotedUnit).foldl (fun state unit => Decoding.step state [unit])
      ⟨result, some apostrophe, false⟩ = ⟨result ++ value, some apostrophe, false⟩ := by
  induction value generalizing result with
  | nil => simp
  | cons unit value ih =>
    have one : (quotedUnit unit).foldl (fun state unit => Decoding.step state [unit])
        ⟨result, some apostrophe, false⟩ = ⟨result ++ [unit], some apostrophe, false⟩ := by
      unfold quotedUnit
      split_ifs with same
      · subst same
        rfl
      · have other : apostrophe ≠ unit := Ne.symm same
        simp [Decoding.step, other]
    rw [List.flatMap_cons, List.foldl_append, one, ih, List.append_assoc, List.singleton_append]

theorem decodeShellToken_shellQuote (value : Units) : decodeShellToken (shellQuote value) = value := by
  have decoded : (shellQuote value).characters.foldl Decoding.step ⟨[], none, false⟩ = ⟨value, none, false⟩ := by
    rw [Units.foldl_characters _ Decoding.step_halves, shellQuote, List.foldl_append]
    have opened : Decoding.step ⟨[], none, false⟩ [apostrophe] = ⟨[], some apostrophe, false⟩ := rfl
    simp only [List.foldl_cons, opened, decode_quoted]
    rfl
  rw [decodeShellToken, decoded]
  rfl

/-! The path of a lookup. -/

theorem lastIndexOf_append {front back : Units} {unit : UInt16} (last : unit ∉ back) :
    lastIndexOf (front ++ unit :: back) unit = some front.length := by
  have found : (front ++ unit :: back).reverse.idxOf? unit = some back.length := by
    rw [List.idxOf?_eq_some_iff]
    refine ⟨by simp, by simp, fun index below => ?_⟩
    have inside : index < back.reverse.length := by simpa using below
    simp only [List.reverse_append, List.reverse_cons, List.append_assoc, List.singleton_append]
    rw [List.getElem_append_left inside]
    exact fun same => last (List.mem_reverse.mp (same ▸ List.getElem_mem inside))
  rw [lastIndexOf, found]
  simp

theorem pathLookup_replaced (command cwd front back : Units) (last : slash ∉ back)
    (absolute : (front ++ slash :: back).head? = some slash) :
    pathLookup (replaceCompletionToken command (shellQuote (front ++ slash :: back))) cwd =
      some ⟨if front = [] then [slash] else front, back⟩ := by
  rw [pathLookup, completionToken_replaced, decodeShellToken_shellQuote]
  simp [absolute, lastIndexOf_append last]

/-- The path of a directory and a name in it. -/
def recombine (lookup : PathLookup) : Units :=
  if lookup.parent = [slash] then slash :: lookup.namePrefix else lookup.parent ++ slash :: lookup.namePrefix

theorem exists_last_slash {path : Units} (there : slash ∈ path) :
    ∃ front back, path = front ++ slash :: back ∧ slash ∉ back := by
  obtain ⟨back, front, split, last⟩ := List.eq_append_cons_of_mem (List.mem_reverse.mpr there)
  refine ⟨front.reverse, back.reverse, ?_, fun member => last (List.mem_reverse.mp member)⟩
  have whole := congrArg List.reverse split
  simpa using whole

/--
A chosen path takes the place of the last word and is read back from there; an absolute one is recombined from its
parent and the rest, but for two slashes and a name, where the lookup is the one of the path with one slash.
-/
theorem completion_exact (command value cwd : Units) :
    (replaceCompletionToken command (shellQuote value)).take (completionToken command).start =
      command.take (completionToken command).start ∧
    completionToken (replaceCompletionToken command (shellQuote value)) =
      ⟨(completionToken command).start, shellQuote value⟩ ∧
    decodeShellToken (completionToken (replaceCompletionToken command (shellQuote value))).value = value ∧
    (value.head? = some slash → ∃ lookup,
      pathLookup (replaceCompletionToken command (shellQuote value)) cwd = some lookup ∧
      (recombine lookup = value ∨ ∃ name, slash ∉ name ∧ value = slash :: slash :: name ∧ lookup = ⟨[slash], name⟩)) := by
  refine ⟨?_, completionToken_replaced command value, ?_, fun absolute => ?_⟩
  · have front : (command.take (completionToken command).start).length = (completionToken command).start :=
      List.length_take_of_le (scan_take command).1
    rw [replaceCompletionToken, List.take_append_of_le_length (Nat.le_of_eq front.symm), List.take_take, Nat.min_self]
  · rw [completionToken_replaced, decodeShellToken_shellQuote]
  · obtain ⟨front, back, rfl, last⟩ := exists_last_slash (List.mem_of_head? absolute)
    refine ⟨_, pathLookup_replaced command cwd front back last absolute, ?_⟩
    by_cases root : front = []
    · subst root
      exact .inl rfl
    · by_cases double : front = [slash]
      · subst double
        exact .inr ⟨back, last, rfl, rfl⟩
      · exact .inl (by simp [recombine, root, double])

/-- Nothing recombines the path of two slashes and a name, as its lookup is that of another path. -/
theorem pathLookup_double_slash :
    ¬ ∃ join : PathLookup → Units, ∀ command value cwd : Units, value.head? = some slash →
      ∃ lookup, pathLookup (replaceCompletionToken command (shellQuote value)) cwd = some lookup ∧
        join lookup = value := by
  rintro ⟨join, joins⟩
  obtain ⟨lookup, found, joined⟩ := joins [] [slash, 0x61] [] rfl
  obtain ⟨other, found', joined'⟩ := joins [] [slash, slash, 0x61] [] rfl
  have same : pathLookup (replaceCompletionToken [] (shellQuote [slash, 0x61])) [] =
      pathLookup (replaceCompletionToken [] (shellQuote [slash, slash, 0x61])) [] := by decide
  rw [found, found', Option.some.injEq] at same
  rw [same, joined'] at joined
  exact absurd joined (by decide)

end Frontend

end CNShell
