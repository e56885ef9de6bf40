import CNShell.Library.Utf16
import Mathlib.Order.Basic
import Mathlib.Order.Lattice

/-! The matches of trigger rules in a line of a terminal, and the loop that looks for them. -/

namespace CNShell

namespace Frontend

/--
A global Unicode expression: where the match that begins at a character ends, if there is one.
A match ends inside the text and not between the halves of a character.
-/
structure Matcher where
  matchAt : Units → Nat → Option Nat
  sound : ∀ text index, text.inside index = false → ∀ finish ∈ matchAt text index,
    index ≤ finish ∧ finish ≤ text.length ∧ text.inside finish = false

/-- The regular expressions of the platform. -/
structure RegExpEngine where
  /-- Whether a fixed expression, by its source, is found in a text. -/
  test : String → Units → Bool
  /-- The error that a pattern with the Unicode flag gives, as text. -/
  construct : Units → Option String
  /-- The expression of a pattern, case sensitive or not. -/
  expression : Units → Bool → Matcher

structure TriggerRule where
  pattern : Units
  enabled : Bool
  caseSensitive : Bool
deriving DecidableEq

structure TriggerMatch where
  rule : TriggerRule
  index : Nat
  length : Nat
  text : Units
deriving DecidableEq

def validateTriggerPattern (engine : RegExpEngine) (pattern : Units) : Option String :=
  if pattern = [] then some "正则表达式不能为空"
  else if pattern.length > 256 then some "正则表达式不能超过 256 个字符"
  else if engine.test "\\(\\?[=!<:>]" pattern || engine.test "\\\\[1-9]|\\\\k<" pattern then
    some "为保证终端性能，不支持环视、非捕获组或反向引用"
  else if engine.test
        "\\([^)]*(?:[+*]|\\\x7b\\d+(?:,\\d*)?\\\x7d)[^)]*\\)(?:[+*]|\\\x7b\\d+(?:,\\d*)?\\\x7d)" pattern ||
      engine.test "\\([^)]*\\|[^)]*\\)(?:[+*]|\\\x7b\\d+(?:,\\d*)?\\\x7d)" pattern ||
      engine.test "(?:[+*]|\\\x7b\\d+(?:,\\d*)?\\\x7d)\x7b2\x7d" pattern then
    some "正则包含可能造成性能问题的嵌套或重复量词"
  else (engine.construct pattern).map fun error => "正则表达式无效：" ++ error

namespace Matcher

variable (expression : Matcher) (text : Units)

/-- The leftmost match from a character on, by where it begins and ends. -/
def search (index : Nat) : Option (Nat × Nat) :=
  match expression.matchAt text index with
  | some finish => some (index, finish)
  | none => if index < text.length then search (index + text.width index) else none
termination_by text.length - index
decreasing_by
  have := @Units.width_pos text index
  omega

/-- The match from the character that contains `lastIndex` on. -/
def exec (lastIndex : Nat) : Option (Nat × Nat) :=
  if lastIndex ≤ text.length then search expression text (text.start lastIndex) else none

end Matcher

/--
The loop of a rule from a `lastIndex` on, with the matches so far and how often the clock was read; `late` tells
whether a reading is past the budget. Within the fuel it ends with the budget used up, or with the matches.
-/
def ruleLoop (expression : Matcher) (late : Nat → Bool) (rule : TriggerRule) (input : Units) :
    Nat → Nat → List TriggerMatch → Nat → Option (Except (List TriggerMatch) (List TriggerMatch × Nat))
  | 0, _, _, _ => none
  | fuel + 1, lastIndex, found, readings =>
    match expression.exec input lastIndex with
    | none => some (.ok (found, readings))
    | some (index, finish) =>
      if found.length < 100 then
        let found' :=
          if index < finish then
            found ++ [⟨rule, index, finish - index, (input.drop index).take (finish - index)⟩]
          else found
        let next := if index < finish then finish else finish + 1
        if late readings then some (.error found')
        else ruleLoop expression late rule input fuel next found' (readings + 1)
      else some (.ok (found, readings))

def TriggerRule.active (engine : RegExpEngine) (rule : TriggerRule) : Bool :=
  rule.enabled && (validateTriggerPattern engine rule.pattern).isNone

def rulesLoop (engine : RegExpEngine) (late : Nat → Bool) (fuel : Nat) (input : Units) :
    List TriggerRule → List TriggerMatch → Nat → Option (List TriggerMatch)
  | [], found, _ => some found
  | rule :: rules, found, readings =>
    if rule.active engine then
      match ruleLoop (engine.expression rule.pattern rule.caseSensitive) late rule input fuel 0 found readings with
      | none => none
      | some (.error found) => some found
      | some (.ok (found, readings)) => rulesLoop engine late fuel input rules found readings
    else rulesLoop engine late fuel input rules found readings

def findTriggerMatches (engine : RegExpEngine) (late : Nat → Bool) (fuel : Nat) (line : Units)
    (rules : List TriggerRule) : Option (List TriggerMatch) :=
  rulesLoop engine late fuel (line.take 4096) rules [] 0

/-- A place at which a rule is tried. -/
structure Visit where
  rule : TriggerRule
  index : Nat
  finish : Option Nat

namespace Visit

variable (text : Units) (visit : Visit)

/-- The match found there, unless it is empty. -/
def matched : Option TriggerMatch :=
  (visit.finish.filter (visit.index < ·)).map fun finish =>
    ⟨visit.rule, visit.index, finish - visit.index, (text.drop visit.index).take (finish - visit.index)⟩

/-- An empty match in front of a character of two units. -/
def Trap : Prop := visit.finish = some visit.index ∧ text.width visit.index = 2

end Visit

/-- Where a rule is tried next: behind a match that is not empty, and else at the next character. -/
def Matcher.next (expression : Matcher) (text : Units) (index : Nat) : Nat :=
  ((expression.matchAt text index).filter (index < ·)).getD (index + text.width index)

theorem Matcher.lt_next (expression : Matcher) (text : Units) (index : Nat) : index < expression.next text index := by
  unfold next
  cases known : (expression.matchAt text index).filter (index < ·) with
  | none => exact Nat.lt_add_of_pos_right Units.width_pos
  | some finish => exact of_decide_eq_true (Option.filter_eq_some_iff.mp known).2

/-- The places a rule is tried at, from a character on. -/
def visits (expression : Matcher) (rule : TriggerRule) (text : Units) (index : Nat) : List Visit :=
  if index < text.length then
    ⟨rule, index, expression.matchAt text index⟩ :: visits expression rule text (expression.next text index)
  else []
termination_by text.length - index
decreasing_by
  have := expression.lt_next text index
  omega

def scanned (engine : RegExpEngine) (text : Units) (rules : List TriggerRule) : List Visit :=
  (rules.filter (·.active engine)).flatMap fun rule =>
    visits (engine.expression rule.pattern rule.caseSensitive) rule text 0

/-- The matches of the active rules that are not empty, one behind the other. -/
def successive (engine : RegExpEngine) (text : Units) (rules : List TriggerRule) : List TriggerMatch :=
  (scanned engine text rules).filterMap (·.matched text)

/-- After so many matches, an empty match in front of a character of two units is met before there are 100. -/
def Stuck (text : Units) (count : Nat) (places : List Visit) : Prop :=
  ∃ front visit back, places = front ++ visit :: back ∧
    count + (front.filterMap (·.matched text)).length < 100 ∧ visit.Trap text

section

variable {text : Units}

theorem not_stuck_nil (count : Nat) : ¬ Stuck text count [] := by
  rintro ⟨front, visit, back, split, -⟩
  exact List.cons_ne_nil _ _ (List.append_eq_nil_iff.mp split.symm).2

theorem not_stuck_full {count : Nat} (full : 100 ≤ count) (places : List Visit) : ¬ Stuck text count places := by
  rintro ⟨front, visit, back, -, room, -⟩
  omega

theorem stuck_cons (count : Nat) (visit : Visit) (places : List Visit) :
    Stuck text count (visit :: places) ↔
      count < 100 ∧ visit.Trap text ∨ Stuck text (count + (visit.matched text).toList.length) places := by
  constructor
  · rintro ⟨front, other, back, split, room, trap⟩
    cases front with
    | nil =>
      obtain ⟨rfl, -⟩ := List.cons.inj split
      exact .inl ⟨by simpa using room, trap⟩
    | cons first front =>
      obtain ⟨rfl, rest⟩ := List.cons.inj split
      refine .inr ⟨front, other, back, rest, ?_, trap⟩
      cases known : visit.matched text <;> simp [known] at room ⊢ <;> omega
  · rintro (⟨room, trap⟩ | ⟨front, other, back, rfl, room, trap⟩)
    · exact ⟨[], visit, places, rfl, room, trap⟩
    · refine ⟨visit :: front, other, back, rfl, ?_, trap⟩
      cases known : visit.matched text <;> simp [known] at room ⊢ <;> omega

theorem stuck_append (count : Nat) (front back : List Visit) :
    Stuck text count (front ++ back) ↔
      Stuck text count front ∨ Stuck text (count + (front.filterMap (·.matched text)).length) back := by
  induction front generalizing count with
  | nil => simp [not_stuck_nil]
  | cons visit front ih =>
    rw [List.cons_append, stuck_cons, stuck_cons, ih, or_assoc]
    cases known : visit.matched text <;> simp [known, Nat.add_assoc, Nat.add_comm 1]

theorem stuck_min (count : Nat) (places : List Visit) :
    Stuck text (min 100 count) places ↔ Stuck text count places := by
  rcases Nat.le_total 100 count with full | few
  · exact iff_of_false (not_stuck_full (by omega) places) (not_stuck_full full places)
  · rw [Nat.min_eq_right few]

end

theorem take_take_append {α : Type u} (front back : List α) (size : Nat) :
    (front.take size ++ back).take size = (front ++ back).take size := by
  simp only [List.take_append, List.take_take, Nat.min_self, List.length_take]
  congr 2
  omega

section

variable (expression : Matcher) (rule : TriggerRule) (text : Units)

variable {index : Nat}

theorem exec_of_whole (whole : text.inside index = false) (within : index ≤ text.length) :
    expression.exec text index = expression.search text index := by
  rw [Matcher.exec, if_pos within, Units.start_of_not_inside whole]

theorem search_some {finish : Nat} (found : expression.matchAt text index = some finish) :
    expression.search text index = some (index, finish) := by
  rw [Matcher.search, found]

theorem search_none (nothing : expression.matchAt text index = none) (below : index < text.length) :
    expression.search text index = expression.search text (index + text.width index) := by
  rw [Matcher.search, nothing, if_pos below]

variable {found : List TriggerMatch}

theorem ruleLoop_full (full : found.length = 100) (fuel lastIndex readings : Nat) :
    ruleLoop expression (fun _ => false) rule text (fuel + 1) lastIndex found readings =
    some (.ok (found, readings)) := by
  rw [ruleLoop]
  cases expression.exec text lastIndex with
  | none => rfl
  | some place => exact if_neg (by omega)

theorem ruleLoop_congr {lastIndex other : Nat} (same : expression.exec text lastIndex = expression.exec text other)
    (fuel : Nat) (found : List TriggerMatch) (readings : Nat) :
    ruleLoop expression (fun _ => false) rule text fuel lastIndex found readings =
      ruleLoop expression (fun _ => false) rule text fuel other found readings := by
  cases fuel with
  | zero => rfl
  | succ fuel => rw [ruleLoop, ruleLoop, same]

theorem ruleLoop_trapped
    (trap : expression.matchAt text index = some index) (wide : text.width index = 2) (room : found.length < 100)
    (fuel readings : Nat) : ruleLoop expression (fun _ => false) rule text fuel (index + 1) found readings = none := by
  have between : text.inside (index + 1) = true := by
    by_contra single
    simp [Units.width, single] at wide
  have within : index + 1 ≤ text.length := by
    by_contra behind
    simp [Units.inside, show text.length ≤ index + 1 by omega] at between
  have again : expression.exec text (index + 1) = some (index, index) := by
    rw [Matcher.exec, if_pos within, Units.start, if_pos between, Nat.add_sub_cancel, search_some _ _ trap]
  induction fuel generalizing readings with
  | zero => rfl
  | succ fuel ih =>
    rw [ruleLoop, again]
    simp only [room, Nat.lt_irrefl, if_true, if_false, Bool.false_eq_true]
    exact ih (readings + 1)

theorem visits_below (below : index < text.length) :
    visits expression rule text index =
      ⟨rule, index, expression.matchAt text index⟩ :: visits expression rule text (expression.next text index) := by
  rw [visits, if_pos below]

/-- The loop of one rule: stuck at a trap, or done with what the visited places give. -/
def RuleLoopSpec (index : Nat) (found : List TriggerMatch) (readings : Nat) : Prop :=
  (Stuck text found.length (visits expression rule text index) →
    ∀ fuel, ruleLoop expression (fun _ => false) rule text fuel index found readings = none) ∧
  (¬ Stuck text found.length (visits expression rule text index) → ∃ enough readings', ∀ more,
    ruleLoop expression (fun _ => false) rule text (enough + more) index found readings =
      some (.ok ((found ++ (visits expression rule text index).filterMap (·.matched text)).take 100, readings')))

theorem RuleLoopSpec.full (full : found.length = 100) (index readings : Nat) :
    RuleLoopSpec expression rule text index found readings := by
  refine ⟨fun stuck => absurd stuck (not_stuck_full full.ge _), fun _ => ⟨1, readings, fun more => ?_⟩⟩
  rw [Nat.add_comm, ruleLoop_full _ _ _ full, List.take_append_of_le_length full.ge, List.take_of_length_le full.le]

theorem RuleLoopSpec.turn {next readings readings' : Nat} {found' : List TriggerMatch} {visit : Visit}
    (places : visits expression rule text index = visit :: visits expression rule text next)
    (calm : ¬ visit.Trap text) (more : found' = found ++ (visit.matched text).toList) (turns : Nat)
    (step : ∀ fuel, ruleLoop expression (fun _ => false) rule text (fuel + turns) index found readings =
      ruleLoop expression (fun _ => false) rule text fuel next found' readings')
    (short : ∀ fuel < turns, ruleLoop expression (fun _ => false) rule text fuel index found readings = none)
    (rest : RuleLoopSpec expression rule text next found' readings') :
    RuleLoopSpec expression rule text index found readings := by
  have stuck : Stuck text found.length (visits expression rule text index) ↔
      Stuck text found'.length (visits expression rule text next) := by
    rw [places, stuck_cons, more, List.length_append]
    exact or_iff_right fun trapped => calm trapped.2
  refine ⟨fun trapped fuel => ?_, fun free => ?_⟩
  · rcases Nat.lt_or_ge fuel turns with few | many
    · exact short fuel few
    · rw [← Nat.sub_add_cancel many, step]
      exact rest.1 (stuck.mp trapped) _
  · obtain ⟨enough, last, done⟩ := rest.2 fun trapped => free (stuck.mpr trapped)
    refine ⟨enough + turns, last, fun extra => ?_⟩
    rw [Nat.add_right_comm, step, done, places, more]
    cases known : visit.matched text <;> simp [known]

theorem ruleLoop_turn {finish : Nat} (whole : text.inside index = false)
    (within : index ≤ text.length) (known : expression.matchAt text index = some finish) (room : found.length < 100)
    (fuel readings : Nat) :
    ruleLoop expression (fun _ => false) rule text (fuel + 1) index found readings =
      ruleLoop expression (fun _ => false) rule text fuel (if index < finish then finish else finish + 1)
        (found ++ (Visit.matched text ⟨rule, index, some finish⟩).toList) (readings + 1) := by
  rw [ruleLoop, exec_of_whole _ _ whole within, search_some _ _ known]
  by_cases longer : index < finish <;> simp [room, longer, Visit.matched, Option.filter_some]

/-- What the loop of a rule does from the beginning of a character on. -/
theorem ruleLoop_spec {index : Nat} (whole : text.inside index = false) (within : index ≤ text.length)
    {found : List TriggerMatch} (few : found.length ≤ 100) (readings : Nat) :
    RuleLoopSpec expression rule text index found readings := by
  induction rest : text.length - index using Nat.strong_induction_on generalizing index found readings with
  | _ size ih =>
    rcases few.lt_or_eq with room | full
    swap
    · exact .full expression rule text full index readings
    have none_at_zero : ∀ fuel < 1,
        ruleLoop expression (fun _ => false) rule text fuel index found readings = none := by
      intro fuel zero
      obtain rfl : fuel = 0 := by omega
      rfl
    have sound := expression.sound text index whole
    rcases within.lt_or_eq with below | rfl
    · have places := visits_below expression rule text below
      have ahead := expression.lt_next text index
      cases known : expression.matchAt text index with
      | none =>
        -- The engine goes on to the next character by itself.
        have next : expression.next text index = index + text.width index := by simp [Matcher.next, known]
        have further := Units.not_inside_next whole
        have inside := Units.next_le_length below
        rw [known, next] at places
        refine .turn expression rule text places (fun trap => by cases trap.1)
          (by simp [Visit.matched]) 0 (fun fuel => ruleLoop_congr expression rule text ?_ fuel found readings)
          (fun fuel less => absurd less (Nat.not_lt_zero fuel)) (ih _ ?_ further inside few readings rfl)
        · rw [exec_of_whole _ _ whole within, exec_of_whole _ _ further inside, search_none _ _ known below]
        · have := @Units.width_pos text index
          omega
      | some finish =>
        have step := ruleLoop_turn expression rule text whole within known room
        obtain ⟨low, high, ends⟩ := sound finish known
        rcases low.lt_or_eq with longer | rfl
        · have next : expression.next text index = finish := by
            simp [Matcher.next, known, longer, Option.filter_some]
          rw [known, next] at places
          simp only [longer, if_true] at step
          have one : (Visit.matched text ⟨rule, index, some finish⟩).toList.length ≤ 1 := by
            cases Visit.matched text ⟨rule, index, some finish⟩ <;> simp
          refine .turn expression rule text places (fun trap => ?_) rfl 1 (fun fuel => step fuel readings)
            none_at_zero (ih _ (by omega) ends high ?_ (readings + 1) rfl)
          · exact absurd (Option.some.inj trap.1) longer.ne'
          · rw [List.length_append]
            omega
        · have next : expression.next text index = index + text.width index := by
            simp [Matcher.next, known, Option.filter_some]
          have nothing : Visit.matched text ⟨rule, index, some index⟩ = none := by
            simp [Visit.matched, Option.filter_some]
          rw [known, next] at places
          simp only [Nat.lt_irrefl, if_false, nothing, Option.toList_none, List.append_nil] at step
          by_cases wide : text.width index = 2
          · -- The next turn begins inside the character, which is where this one began.
            refine ⟨fun _ fuel => ?_, fun free => absurd ?_ free⟩
            · cases fuel with
              | zero => rfl
              | succ fuel =>
                rw [step]
                exact ruleLoop_trapped expression rule text known wide room fuel _
            · rw [places, stuck_cons]
              exact .inl ⟨room, rfl, wide⟩
          · have single : text.width index = 1 := by
              unfold Units.width at wide ⊢
              split_ifs at wide ⊢ <;> simp_all
            have further := Units.not_inside_next whole
            have inside := Units.next_le_length below
            rw [single] at places further inside
            exact .turn expression rule text places (fun trap => wide trap.2) (by simp [nothing]) 1
              (fun fuel => step fuel readings) none_at_zero (ih _ (by omega) further inside few (readings + 1) rfl)
    · -- Behind the last character only an empty match is left.
      have none_left : visits expression rule text text.length = [] := by
        rw [visits, if_neg (Nat.lt_irrefl _)]
      have beyond : ∀ fuel readings,
          ruleLoop expression (fun _ => false) rule text (fuel + 1) (text.length + 1) found readings =
            some (.ok (found, readings)) := by
        intro fuel readings
        rw [ruleLoop, Matcher.exec, if_neg (by omega)]
      refine ⟨fun stuck => absurd (none_left ▸ stuck) (not_stuck_nil _), fun _ => ?_⟩
      rw [none_left, List.filterMap_nil, List.append_nil, List.take_of_length_le few]
      cases known : expression.matchAt text text.length with
      | none =>
        refine ⟨1, readings, fun more => ?_⟩
        rw [Nat.add_comm, ruleLoop, exec_of_whole _ _ whole within, Matcher.search, known, if_neg (Nat.lt_irrefl _)]
      | some finish =>
        obtain ⟨low, high, -⟩ := sound finish known
        obtain rfl : finish = text.length := Nat.le_antisymm high low
        refine ⟨2, readings + 1, fun more => ?_⟩
        rw [Nat.add_comm, ruleLoop_turn expression rule text whole within known room]
        simpa [Visit.matched, Option.filter_some] using beyond more (readings + 1)

end

variable {found : List TriggerMatch}

theorem ruleLoop_more (expression : Matcher) (late : Nat → Bool) (rule : TriggerRule) (text : Units) (more : Nat)
    {fuel lastIndex readings : Nat} {result : Except (List TriggerMatch) (List TriggerMatch × Nat)}
    (done : ruleLoop expression late rule text fuel lastIndex found readings = some result) :
    ruleLoop expression late rule text (more + fuel) lastIndex found readings = some result := by
  induction fuel generalizing lastIndex found readings with
  | zero => cases done
  | succ fuel ih =>
    rw [← Nat.add_assoc, ruleLoop]
    rw [ruleLoop] at done
    cases known : expression.exec text lastIndex with
    | none => simpa only [known] using done
    | some place =>
      simp only [known] at done ⊢
      by_cases room : found.length < 100
      · simp only [room, if_true] at done ⊢
        by_cases tired : late readings = true
        · simpa only [tired, if_true] using done
        · simp only [tired, Bool.false_eq_true, if_false] at done ⊢
          exact ih done
      · simpa only [room, if_false] using done

theorem rulesLoop_more (engine : RegExpEngine) (late : Nat → Bool) (text : Units) (more : Nat) {fuel : Nat}
    {rules : List TriggerRule} {readings : Nat} {result : List TriggerMatch}
    (done : rulesLoop engine late fuel text rules found readings = some result) :
    rulesLoop engine late (more + fuel) text rules found readings = some result := by
  induction rules generalizing found readings with
  | nil => exact done
  | cons rule rules ih =>
    rw [rulesLoop] at done ⊢
    split_ifs at done ⊢ with active
    · cases known : ruleLoop (engine.expression rule.pattern rule.caseSensitive) late rule text fuel 0 found readings with
      | none => simp [known] at done
      | some ended =>
        rw [ruleLoop_more _ _ _ _ more known]
        rw [known] at done
        cases ended with
        | error last => exact done
        | ok last => exact ih done
    · exact ih done

theorem scanned_cons (engine : RegExpEngine) (text : Units) (rule : TriggerRule) (rules : List TriggerRule) :
    scanned engine text (rule :: rules) =
      (if rule.active engine then visits (engine.expression rule.pattern rule.caseSensitive) rule text 0 else []) ++
        scanned engine text rules := by
  by_cases active : rule.active engine = true <;> simp [scanned, active]

theorem rulesLoop_spec (engine : RegExpEngine) (text : Units) (rules : List TriggerRule) {found : List TriggerMatch}
    (few : found.length ≤ 100) (readings : Nat) :
    (Stuck text found.length (scanned engine text rules) →
      ∀ fuel, rulesLoop engine (fun _ => false) fuel text rules found readings = none) ∧
    (¬ Stuck text found.length (scanned engine text rules) → ∃ enough, ∀ more,
      rulesLoop engine (fun _ => false) (enough + more) text rules found readings =
        some ((found ++ successive engine text rules).take 100)) := by
  induction rules generalizing found readings with
  | nil =>
    refine ⟨fun stuck => absurd stuck (not_stuck_nil _), fun _ => ⟨0, fun more => ?_⟩⟩
    simp [rulesLoop, successive, scanned, List.take_of_length_le few]
  | cons rule rules ih =>
    rw [successive, scanned_cons]
    by_cases active : rule.active engine = true
    swap
    · simp only [active, Bool.false_eq_true, if_false, List.nil_append, rulesLoop]
      exact ih few readings
    simp only [active, if_true, rulesLoop, stuck_append, List.filterMap_append]
    obtain ⟨stays, ends⟩ := @ruleLoop_spec (engine.expression rule.pattern rule.caseSensitive) rule text 0 rfl
      (Nat.zero_le _) found few readings
    generalize visits (engine.expression rule.pattern rule.caseSensitive) rule text 0 = places at stays ends
    by_cases stuck : Stuck text found.length places
    · refine ⟨fun _ fuel => ?_, fun free => absurd (.inl stuck) free⟩
      rw [stays stuck fuel]
    · -- The next rules go on with what this one found.
      obtain ⟨enough, readings', done⟩ := ends stuck
      have kept : ((found ++ places.filterMap (·.matched text)).take 100).length ≤ 100 := List.length_take_le _ _
      obtain ⟨rest, ends⟩ := ih kept readings'
      rw [List.length_take, stuck_min, List.length_append] at rest ends
      rw [or_iff_right stuck]
      refine ⟨fun trapped fuel => ?_, fun free => ?_⟩
      · cases known : ruleLoop (engine.expression rule.pattern rule.caseSensitive) (fun _ => false) rule text fuel 0
            found readings with
        | none => rfl
        | some result =>
          have same := ruleLoop_more _ _ _ _ enough known
          rw [done] at same
          obtain rfl := Option.some.inj same
          exact rest trapped fuel
      · obtain ⟨enough', done'⟩ := ends free
        refine ⟨enough + enough', fun more => ?_⟩
        rw [Nat.add_assoc, done]
        have turned := done' (enough + more)
        rw [Nat.add_left_comm] at turned
        simp only [turned, take_take_append, List.append_assoc, successive]

theorem findTriggerMatches_iff (engine : RegExpEngine) (line : Units) (rules : List TriggerRule) :
    (∃ fuel, findTriggerMatches engine (fun _ => false) fuel line rules =
        some ((successive engine line rules).take 100)) ↔
      ¬ Stuck (line.take 4096) 0 (scanned engine (line.take 4096) rules) ∧
        (successive engine (line.take 4096) rules).take 100 = (successive engine line rules).take 100 := by
  obtain ⟨stays, ends⟩ := @rulesLoop_spec engine (line.take 4096) rules [] (Nat.zero_le _) 0
  constructor
  · rintro ⟨fuel, found⟩
    have free : ¬ Stuck (line.take 4096) 0 (scanned engine (line.take 4096) rules) := by
      intro stuck
      cases (stays stuck fuel).symm.trans found
    obtain ⟨enough, done⟩ := ends free
    have same := rulesLoop_more engine _ _ enough found
    exact ⟨free, Option.some.inj ((done fuel).symm.trans same)⟩
  · rintro ⟨free, same⟩
    obtain ⟨enough, done⟩ := ends free
    exact ⟨enough, (done 0).trans (congrArg some same)⟩

/--
The matches are the right ones just if no rule is stuck, and the part of the line that is read has them all;
of a line that is read to its end only the first is needed.
-/
theorem findTriggerMatches_right_iff (engine : RegExpEngine) (line : Units) (rules : List TriggerRule) :
    ((∃ fuel, findTriggerMatches engine (fun _ => false) fuel line rules =
        some ((successive engine line rules).take 100)) ↔
      ¬ Stuck (line.take 4096) 0 (scanned engine (line.take 4096) rules) ∧
        (successive engine (line.take 4096) rules).take 100 = (successive engine line rules).take 100) ∧
    (line.length ≤ 4096 →
      ((∃ fuel, findTriggerMatches engine (fun _ => false) fuel line rules =
          some ((successive engine line rules).take 100)) ↔ ¬ Stuck line 0 (scanned engine line rules))) := by
  refine ⟨findTriggerMatches_iff engine line rules, fun short => ?_⟩
  rw [findTriggerMatches_iff, List.take_of_length_le short]
  exact and_iff_left rfl

/-- The expression that is empty everywhere, as `()` is. -/
def emptyMatcher : Matcher where
  matchAt text index := if index ≤ text.length then some index else none
  sound text index whole finish member := by
    obtain ⟨within, same⟩ := Option.ite_none_right_eq_some.mp member
    obtain rfl := Option.some.inj same
    exact ⟨Nat.le_refl _, within, whole⟩

/-- The platform, with a pattern of two brackets and nothing between them. -/
def bracketEngine : RegExpEngine := ⟨fun _ _ => false, fun _ => none, fun _ _ => emptyMatcher⟩

/-- Two brackets and nothing between them. -/
def bracketRule : TriggerRule := ⟨[0x28, 0x29], true, true⟩

/-- On a character of two units the rule is never done. -/
theorem findTriggerMatches_bracket :
    (∀ fuel, findTriggerMatches bracketEngine (fun _ => false) fuel [0xd83d, 0xde00] [bracketRule] = none) ∧
      (successive bracketEngine [0xd83d, 0xde00] [bracketRule]).take 100 = [] := by
  have places : scanned bracketEngine [0xd83d, 0xde00] [bracketRule] = [⟨bracketRule, 0, some 0⟩] := by
    have active : bracketRule.active bracketEngine = true := by decide
    have next : emptyMatcher.next [0xd83d, 0xde00] 0 = 2 := by decide
    have behind : visits emptyMatcher bracketRule [0xd83d, 0xde00] 2 = [] := by
      rw [visits, if_neg (by decide)]
    calc scanned bracketEngine [0xd83d, 0xde00] [bracketRule]
        = visits emptyMatcher bracketRule [0xd83d, 0xde00] 0 := by
          rw [scanned_cons, if_pos active]
          exact List.append_nil _
      _ = [⟨bracketRule, 0, some 0⟩] := by
          rw [visits_below emptyMatcher bracketRule _ (by decide), next, behind]
          rfl
  constructor
  · exact (@rulesLoop_spec bracketEngine [0xd83d, 0xde00] [bracketRule] [] (Nat.zero_le _) 0).1
      (places ▸ ⟨[], _, [], rfl, by decide, rfl, by decide⟩)
  · rw [successive, places]
    rfl

end Frontend

end CNShell
