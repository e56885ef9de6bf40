import CNShell.Library.Checked
import Mathlib.Data.List.Nodup
import Mathlib.Data.List.Perm.Subperm

/-! Traversals in depth of nodes that include each other, with the nodes on the way as the guard against cycles. -/

namespace CNShell

namespace Traversal

/-- A part of a node: an item of its own, or an occurrence of another node, which may be missing. -/
inductive Part (ν β ε : Type)
  | own (item : β)
  | child (occurrence : Except ε ν)

/-- An item of a node's own. -/
def Part.own? {ν β ε : Type} : Part ν β ε → Option β
  | .own item => some item
  | .child _ => none

/-- Nodes that are found through their occurrences and consist of parts. -/
structure Source (ν κ β ε : Type) where
  resolve : ν → Except ε κ
  load : κ → Except ε (List (Part ν β ε))

/-- What ends a traversal early: a node that it is in, another fault, or its own bound. -/
inductive Failure (κ ε : Type)
  | again (node : κ)
  | fault (error : ε)
  | tooDeep
  deriving DecidableEq

/-- What a traversal meets. -/
inductive Event (κ β : Type)
  | enter (node : κ)
  | item (item : β)
  deriving DecidableEq

/-- An item that was met. -/
def Event.item? {κ β : Type} : Event κ β → Option β
  | .enter _ => none
  | .item value => some value

variable {ν κ β ε : Type}

/-- The parts of a node one after the other. -/
def follow (descend : ν → Except (Failure κ ε) (List (Event κ β))) :
    List (Part ν β ε) → Except (Failure κ ε) (List (Event κ β))
  | [] => .ok []
  | .own item :: rest => do
    let others ← follow descend rest
    return .item item :: others
  | .child occurrence :: rest => do
    let occurrence ← occurrence.mapError .fault
    let events ← descend occurrence
    let others ← follow descend rest
    return events ++ others

/-- The traversal from an occurrence on, inside some nodes and at most so deep. -/
def visit [DecidableEq κ] (source : Source ν κ β ε) :
    Nat → List κ → ν → Except (Failure κ ε) (List (Event κ β))
  | 0, _, _ => .error .tooDeep
  | depth + 1, stack, occurrence => do
    let node ← (source.resolve occurrence).mapError .fault
    ensure (node ∉ stack) (.again node)
    let parts ← (source.load node).mapError .fault
    let events ← follow (visit source depth (node :: stack)) parts
    return .enter node :: events

/--
The traversal as a machine: some parts, each inside some nodes, are worked off from the front.

It ends with nothing left, or at the first part that cannot be worked off.
-/
inductive Traverses (source : Source ν κ β ε) :
    List (List κ × Part ν β ε) → List (Event κ β) → Option (Failure κ ε) → Prop
  | nil : Traverses source [] [] none
  | own {stack item rest events ending} (later : Traverses source rest events ending) :
      Traverses source ((stack, .own item) :: rest) (.item item :: events) ending
  | enter {stack occurrence node parts rest events ending} (resolved : source.resolve occurrence = .ok node)
      (new : node ∉ stack) (loaded : source.load node = .ok parts)
      (later : Traverses source (parts.map (fun part => (node :: stack, part)) ++ rest) events ending) :
      Traverses source ((stack, .child (.ok occurrence)) :: rest) (.enter node :: events) ending
  | missing {stack error rest} : Traverses source ((stack, .child (.error error)) :: rest) [] (some (.fault error))
  | unresolved {stack occurrence error rest} (failed : source.resolve occurrence = .error error) :
      Traverses source ((stack, .child (.ok occurrence)) :: rest) [] (some (.fault error))
  | again {stack occurrence node rest} (resolved : source.resolve occurrence = .ok node) (on : node ∈ stack) :
      Traverses source ((stack, .child (.ok occurrence)) :: rest) [] (some (.again node))
  | unloaded {stack occurrence node error rest} (resolved : source.resolve occurrence = .ok node)
      (new : node ∉ stack) (failed : source.load node = .error error) :
      Traverses source ((stack, .child (.ok occurrence)) :: rest) [] (some (.fault error))

/-- From an occurrence inside some nodes a chain of occurrences leads to a node that it is in. -/
inductive Reenters (source : Source ν κ β ε) : List κ → ν → κ → Prop
  | here {stack occurrence node} (resolved : source.resolve occurrence = .ok node) (on : node ∈ stack) :
      Reenters source stack occurrence node
  | deeper {stack occurrence node parts next again} (resolved : source.resolve occurrence = .ok node)
      (new : node ∉ stack) (loaded : source.load node = .ok parts) (among : .child (.ok next) ∈ parts)
      (later : Reenters source (node :: stack) next again) : Reenters source stack occurrence again

section Machine

variable {source : Source ν κ β ε} {work : List (List κ × Part ν β ε)} {events : List (Event κ β)}
variable {ending : Option (Failure κ ε)}

/-- There is one way to work parts off. -/
theorem Traverses.unique {events' : List (Event κ β)} {ending' : Option (Failure κ ε)}
    (one : Traverses source work events ending) (other : Traverses source work events' ending') :
    events = events' ∧ ending = ending' := by
  induction one generalizing events' with
  | nil =>
    cases other
    exact ⟨rfl, rfl⟩
  | own _ ih =>
    cases other with
    | own later =>
      obtain ⟨rfl, rfl⟩ := ih later
      exact ⟨rfl, rfl⟩
  | enter resolved new loaded _ ih =>
    cases other with
    | enter resolved' _ loaded' later =>
      obtain rfl := Except.ok.inj (resolved.symm.trans resolved')
      obtain rfl := Except.ok.inj (loaded.symm.trans loaded')
      obtain ⟨rfl, rfl⟩ := ih later
      exact ⟨rfl, rfl⟩
    | unresolved failed => cases resolved.symm.trans failed
    | again resolved' on =>
      obtain rfl := Except.ok.inj (resolved.symm.trans resolved')
      exact absurd on new
    | unloaded resolved' _ failed =>
      obtain rfl := Except.ok.inj (resolved.symm.trans resolved')
      cases loaded.symm.trans failed
  | missing =>
    cases other
    exact ⟨rfl, rfl⟩
  | unresolved failed =>
    cases other with
    | unresolved failed' =>
      obtain rfl := Except.error.inj (failed.symm.trans failed')
      exact ⟨rfl, rfl⟩
    | enter resolved | again resolved | unloaded resolved => cases resolved.symm.trans failed
  | again resolved on =>
    cases other with
    | again resolved' =>
      obtain rfl := Except.ok.inj (resolved.symm.trans resolved')
      exact ⟨rfl, rfl⟩
    | unresolved failed => cases resolved.symm.trans failed
    | enter resolved' new | unloaded resolved' new =>
      obtain rfl := Except.ok.inj (resolved.symm.trans resolved')
      exact absurd on new
  | unloaded resolved new failed =>
    cases other with
    | unloaded resolved' _ failed' =>
      obtain rfl := Except.ok.inj (resolved.symm.trans resolved')
      obtain rfl := Except.error.inj (failed.symm.trans failed')
      exact ⟨rfl, rfl⟩
    | unresolved failed' => cases resolved.symm.trans failed'
    | enter resolved' _ loaded =>
      obtain rfl := Except.ok.inj (resolved.symm.trans resolved')
      cases loaded.symm.trans failed
    | again resolved' on =>
      obtain rfl := Except.ok.inj (resolved.symm.trans resolved')
      exact absurd on new

theorem Traverses.not_reenters (traverses : Traverses source work events ending) (whole : ending = none)
    {stack : List κ} {occurrence : ν} (member : (stack, .child (.ok occurrence)) ∈ work) (node : κ) :
    ¬Reenters source stack occurrence node := by
  induction traverses generalizing stack occurrence with
  | nil => cases member
  | own _ ih =>
    rcases List.mem_cons.mp member with same | later
    · cases same
    · exact ih whole later
  | enter resolved new loaded _ ih =>
    rcases List.mem_cons.mp member with same | later
    · cases same
      rintro (⟨resolved', on⟩ | ⟨resolved', _, loaded', among, later⟩)
      · obtain rfl := Except.ok.inj (resolved.symm.trans resolved')
        exact new on
      · obtain rfl := Except.ok.inj (resolved.symm.trans resolved')
        obtain rfl := Except.ok.inj (loaded.symm.trans loaded')
        exact ih whole (List.mem_append_left _ (List.mem_map_of_mem among)) later
    · exact ih whole (List.mem_append_right _ later)
  | missing | unresolved | again | unloaded => cases whole

theorem Traverses.reenters (traverses : Traverses source work events ending) {node : κ}
    (comes : ending = some (.again node)) :
    ∃ stack occurrence, (stack, .child (.ok occurrence)) ∈ work ∧ Reenters source stack occurrence node := by
  induction traverses with
  | nil | missing | unresolved | unloaded => cases comes
  | own _ ih =>
    obtain ⟨stack, occurrence, member, chain⟩ := ih comes
    exact ⟨stack, occurrence, List.mem_cons_of_mem _ member, chain⟩
  | @enter stack occurrence entered parts rest _ _ resolved new loaded _ ih =>
    obtain ⟨inner, next, member, chain⟩ := ih comes
    rcases List.mem_append.mp member with inside | later
    · obtain ⟨part, among, same⟩ := List.mem_map.mp inside
      cases same
      exact ⟨stack, occurrence, List.mem_cons_self, .deeper resolved new loaded among chain⟩
    · exact ⟨inner, next, List.mem_cons_of_mem _ later, chain⟩
  | @again stack occurrence _ _ resolved on =>
    cases comes
    exact ⟨stack, occurrence, List.mem_cons_self, .here resolved on⟩

theorem Traverses.fault {known : ε → Prop}
    (resolves : ∀ occurrence error, source.resolve occurrence = .error error → known error)
    (loads : ∀ node error, source.load node = .error error → known error)
    (misses : ∀ node parts error, source.load node = .ok parts → .child (.error error) ∈ parts → known error)
    (missing : ∀ stack error, (stack, .child (.error error)) ∈ work → known error)
    (traverses : Traverses source work events ending) {error : ε} (stops : ending = some (.fault error)) :
    known error := by
  induction traverses with
  | nil | again => cases stops
  | own _ ih => exact ih (fun stack error member => missing stack error (List.mem_cons_of_mem _ member)) stops
  | @enter stack occurrence node parts rest _ _ resolved new loaded _ ih =>
    refine ih (fun inner error member => ?_) stops
    rcases List.mem_append.mp member with inside | later
    · obtain ⟨part, among, same⟩ := List.mem_map.mp inside
      cases same
      exact misses node parts error loaded among
    · exact missing inner error (List.mem_cons_of_mem _ later)
  | missing =>
    cases stops
    exact missing _ _ List.mem_cons_self
  | unresolved failed =>
    cases stops
    exact resolves _ _ failed
  | unloaded _ _ failed =>
    cases stops
    exact loads _ _ failed

end Machine

section Visits

variable [DecidableEq κ] {source : Source ν κ β ε} {descend : ν → Except (Failure κ ε) (List (Event κ β))}
variable {parts : List (Part ν β ε)} {stack : List κ} {occurrence : ν} {node : κ} {depth : Nat}
variable {events : List (Event κ β)} {failure : Failure κ ε}

theorem visit_ok : visit source (depth + 1) stack occurrence = .ok events ↔
    ∃ node parts inside, source.resolve occurrence = .ok node ∧ node ∉ stack ∧ source.load node = .ok parts ∧
      follow (visit source depth (node :: stack)) parts = .ok inside ∧ events = .enter node :: inside := by
  simp only [visit, bind_eq_ok, mapError_eq_ok, ensure_eq_ok, pure_eq_ok, exists_const]
  constructor
  · rintro ⟨node, resolved, new, parts, loaded, inside, followed, rfl⟩
    exact ⟨node, parts, inside, resolved, new, loaded, followed, rfl⟩
  · rintro ⟨node, parts, inside, resolved, new, loaded, followed, rfl⟩
    exact ⟨node, resolved, new, parts, loaded, inside, followed, rfl⟩

theorem visit_unresolved {error : ε} (failed : source.resolve occurrence = .error error) :
    visit source (depth + 1) stack occurrence = .error (.fault error) := by
  rw [visit, failed]
  rfl

theorem visit_again (resolved : source.resolve occurrence = .ok node) (on : node ∈ stack) :
    visit source (depth + 1) stack occurrence = .error (.again node) := by
  rw [visit, resolved]
  simp only [Except.mapError, ok_bind, ensure_of_not (not_not.mpr on)]
  rfl

theorem visit_unloaded {error : ε} (resolved : source.resolve occurrence = .ok node) (new : node ∉ stack)
    (failed : source.load node = .error error) :
    visit source (depth + 1) stack occurrence = .error (.fault error) := by
  rw [visit, resolved]
  simp only [Except.mapError, ok_bind, ensure_of new, failed]
  rfl

theorem visit_enter (resolved : source.resolve occurrence = .ok node) (new : node ∉ stack)
    (loaded : source.load node = .ok parts) : visit source (depth + 1) stack occurrence = (do
      let events ← follow (visit source depth (node :: stack)) parts
      return .enter node :: events) := by
  rw [visit, resolved]
  simp only [Except.mapError, ok_bind, ensure_of new, loaded]

omit [DecidableEq κ] in
theorem follow_append (first second : List (Part ν β ε)) : follow descend (first ++ second) = (do
    let events ← follow descend first
    let others ← follow descend second
    return events ++ others) := by
  induction first with
  | nil =>
    show follow descend second = follow descend second >>= fun others => pure ([] ++ others)
    cases follow descend second <;> rfl
  | cons part parts ih =>
    cases part with
    | own item =>
      simp only [List.cons_append, follow, ih, bind_assoc, pure_bind]
    | child occurrence =>
      simp only [List.cons_append, follow, ih, bind_assoc, pure_bind, List.append_assoc]

omit [DecidableEq κ] in
theorem follow_own_error {item : β} (followed : follow descend (.own item :: parts) = .error failure) :
    follow descend parts = .error failure := by
  rw [follow] at followed
  cases others : follow descend parts with
  | ok _ =>
    rw [others] at followed
    cases followed
  | error failed =>
    rw [others] at followed
    exact followed

omit [DecidableEq κ] in
theorem follow_child_error {occurrence : Except ε ν}
    (followed : follow descend (.child occurrence :: parts) = .error failure) :
    (∃ error, occurrence = .error error ∧ failure = .fault error) ∨
      ∃ known, occurrence = .ok known ∧ (descend known = .error failure ∨
        ∃ first, descend known = .ok first ∧ follow descend parts = .error failure) := by
  rw [follow] at followed
  cases occurrence with
  | error error => exact .inl ⟨error, rfl, (Except.error.inj followed).symm⟩
  | ok known =>
    refine .inr ⟨known, rfl, ?_⟩
    simp only [Except.mapError, ok_bind] at followed
    cases descended : descend known with
    | error failed =>
      rw [descended] at followed
      exact .inl followed
    | ok first =>
      refine .inr ⟨first, rfl, ?_⟩
      rw [descended, ok_bind] at followed
      cases others : follow descend parts with
      | ok _ =>
        rw [others] at followed
        cases followed
      | error failed =>
        rw [others] at followed
        exact followed

theorem visit_error (failed : visit source (depth + 1) stack occurrence = .error failure) :
    (∃ error, source.resolve occurrence = .error error ∧ failure = .fault error) ∨
      ∃ node, source.resolve occurrence = .ok node ∧ ((node ∈ stack ∧ failure = .again node) ∨
        (node ∉ stack ∧ ((∃ error, source.load node = .error error ∧ failure = .fault error) ∨
          ∃ parts, source.load node = .ok parts ∧
            follow (visit source depth (node :: stack)) parts = .error failure))) := by
  rw [visit] at failed
  cases resolved : source.resolve occurrence with
  | error error =>
    rw [resolved] at failed
    exact .inl ⟨error, rfl, (Except.error.inj failed).symm⟩
  | ok node =>
    refine .inr ⟨node, rfl, ?_⟩
    simp only [resolved, Except.mapError, ok_bind] at failed
    by_cases on : node ∈ stack
    · rw [ensure_of_not (not_not.mpr on)] at failed
      exact .inl ⟨on, (Except.error.inj failed).symm⟩
    · refine .inr ⟨on, ?_⟩
      rw [ensure_of on, ok_bind] at failed
      cases loaded : source.load node with
      | error error =>
        rw [loaded] at failed
        exact .inl ⟨error, rfl, (Except.error.inj failed).symm⟩
      | ok parts =>
        refine .inr ⟨parts, rfl, ?_⟩
        simp only [loaded, ok_bind] at failed
        cases followed : follow (visit source depth (node :: stack)) parts with
        | ok inside =>
          rw [followed] at failed
          cases failed
        | error failed' =>
          rw [followed] at failed
          exact failed

omit [DecidableEq κ] in
theorem traverses_follow {rest : List (List κ × Part ν β ε)} (stack : List κ)
    (succeeds : ∀ occurrence events, descend occurrence = .ok events → ∀ rest more ending,
      Traverses source rest more ending →
        Traverses source ((stack, .child (.ok occurrence)) :: rest) (events ++ more) ending)
    {more : List (Event κ β)} {ending : Option (Failure κ ε)} (later : Traverses source rest more ending)
    (followed : follow descend parts = .ok events) :
    Traverses source (parts.map (fun part => (stack, part)) ++ rest) (events ++ more) ending := by
  induction parts generalizing events with
  | nil =>
    obtain rfl := Except.ok.inj followed
    exact later
  | cons part parts ih =>
    cases part with
    | own item =>
      obtain ⟨others, after, done⟩ := bind_eq_ok.mp followed
      obtain rfl := pure_eq_ok.mp done
      exact .own (ih after)
    | child occurrence =>
      obtain ⟨known, there, onward⟩ := bind_eq_ok.mp followed
      obtain ⟨first, descended, onward⟩ := bind_eq_ok.mp onward
      obtain ⟨others, after, done⟩ := bind_eq_ok.mp onward
      obtain rfl := pure_eq_ok.mp done
      obtain rfl := mapError_eq_ok.mp there
      rw [List.append_assoc]
      exact succeeds known first descended _ _ _ (ih after)

theorem traverses_visit (visited : visit source depth stack occurrence = .ok events)
    {rest : List (List κ × Part ν β ε)} {more : List (Event κ β)} {ending : Option (Failure κ ε)}
    (later : Traverses source rest more ending) :
    Traverses source ((stack, .child (.ok occurrence)) :: rest) (events ++ more) ending := by
  induction depth generalizing stack occurrence events rest more ending with
  | zero => cases visited
  | succ depth ih =>
    obtain ⟨node, parts, inside, resolved, new, loaded, followed, rfl⟩ := visit_ok.mp visited
    refine .enter resolved new loaded ?_
    exact traverses_follow (node :: stack) (fun _ _ descended _ _ _ later => ih descended later) later followed

omit [DecidableEq κ] in
theorem traverses_follow_error (stack : List κ)
    (succeeds : ∀ occurrence events, descend occurrence = .ok events → ∀ rest more ending,
      Traverses source rest more ending →
        Traverses source ((stack, .child (.ok occurrence)) :: rest) (events ++ more) ending)
    (fails : ∀ occurrence, descend occurrence = .error failure → ∀ rest,
      ∃ events, Traverses source ((stack, .child (.ok occurrence)) :: rest) events (some failure))
    (known : failure ≠ .tooDeep) (followed : follow descend parts = .error failure)
    (rest : List (List κ × Part ν β ε)) :
    ∃ events, Traverses source (parts.map (fun part => (stack, part)) ++ rest) events (some failure) := by
  induction parts with
  | nil => cases followed
  | cons part parts ih =>
    cases part with
    | own item =>
      obtain ⟨events, traverses⟩ := ih (follow_own_error followed)
      exact ⟨_, .own traverses⟩
    | child occurrence =>
      obtain ⟨error, rfl, rfl⟩ | ⟨known, rfl, descended | ⟨first, descended, others⟩⟩ := follow_child_error followed
      · exact ⟨[], .missing⟩
      · exact fails known descended _
      · obtain ⟨events, traverses⟩ := ih others
        exact ⟨_, succeeds known first descended _ _ _ traverses⟩

theorem traverses_visit_error (failed : visit source depth stack occurrence = .error failure)
    (known : failure ≠ .tooDeep) (rest : List (List κ × Part ν β ε)) :
    ∃ events, Traverses source ((stack, .child (.ok occurrence)) :: rest) events (some failure) := by
  induction depth generalizing stack occurrence rest with
  | zero => exact absurd (Except.error.inj failed).symm known
  | succ depth ih =>
    obtain ⟨error, resolved, rfl⟩ | ⟨node, resolved, ⟨on, rfl⟩ | ⟨new, ⟨error, loaded, rfl⟩ | ⟨parts, loaded,
      followed⟩⟩⟩ := visit_error failed
    · exact ⟨[], .unresolved resolved⟩
    · exact ⟨[], .again resolved on⟩
    · exact ⟨[], .unloaded resolved new loaded⟩
    · obtain ⟨events, traverses⟩ := traverses_follow_error (node :: stack)
        (fun _ _ descended _ _ _ later => traverses_visit descended later)
        (fun _ descended rest => ih descended rest) known followed rest
      exact ⟨_, .enter resolved new loaded traverses⟩

omit [DecidableEq κ] in
theorem follow_tooDeep (followed : follow descend parts = .error .tooDeep) :
    ∃ occurrence, descend occurrence = .error .tooDeep := by
  induction parts with
  | nil => cases followed
  | cons part parts ih =>
    cases part with
    | own item => exact ih (follow_own_error followed)
    | child occurrence =>
      obtain ⟨error, rfl, other⟩ | ⟨known, rfl, descended | ⟨first, descended, others⟩⟩ := follow_child_error followed
      · cases other
      · exact ⟨known, descended⟩
      · exact ih others

theorem visit_ne_tooDeep {all : List κ} (finite : ∀ occurrence node, source.resolve occurrence = .ok node → node ∈ all)
    (distinct : stack.Nodup) (among : stack ⊆ all) (enough : all.length < depth + stack.length) :
    visit source depth stack occurrence ≠ .error .tooDeep := by
  -- The nodes on the way are different ones, so they are no more than there are.
  induction depth generalizing stack occurrence with
  | zero =>
    have fewer := (List.subperm_of_subset distinct among).length_le
    omega
  | succ depth ih =>
    intro failed
    obtain ⟨error, resolved, other⟩ | ⟨node, resolved, ⟨on, other⟩ | ⟨new, ⟨error, loaded, other⟩ | ⟨parts, loaded,
      followed⟩⟩⟩ := visit_error failed
    · cases other
    · cases other
    · cases other
    · obtain ⟨next, deep⟩ := follow_tooDeep followed
      refine ih (List.nodup_cons.mpr ⟨new, distinct⟩) ?_ ?_ deep
      · exact List.cons_subset.mpr ⟨finite occurrence node resolved, among⟩
      · rw [List.length_cons]
        omega

theorem visit_ok_iff (bounded : visit source depth stack occurrence ≠ .error .tooDeep) :
    visit source depth stack occurrence = .ok events ↔
      Traverses source [(stack, .child (.ok occurrence))] events none := by
  constructor
  · intro visited
    have traverses := traverses_visit visited .nil
    rwa [List.append_nil] at traverses
  · intro traverses
    cases visited : visit source depth stack occurrence with
    | ok met =>
      obtain ⟨rfl, -⟩ := traverses.unique (traverses_visit visited .nil)
      rw [List.append_nil]
    | error failure =>
      -- A failure would be how the working off ends, and there is one way to work off.
      have known : failure ≠ .tooDeep := fun same => bounded (by rw [visited, same])
      obtain ⟨_, others⟩ := traverses_visit_error visited known []
      cases (traverses.unique others).2

theorem visit_error_iff (bounded : visit source depth stack occurrence ≠ .error .tooDeep) :
    visit source depth stack occurrence = .error failure ↔
      ∃ events, Traverses source [(stack, .child (.ok occurrence))] events (some failure) := by
  constructor
  · intro visited
    exact traverses_visit_error visited (fun same => bounded (by rw [visited, same])) []
  · rintro ⟨events, traverses⟩
    cases visited : visit source depth stack occurrence with
    | ok met => cases (traverses.unique (traverses_visit visited .nil)).2
    | error other =>
      have known : other ≠ .tooDeep := fun same => bounded (by rw [visited, same])
      obtain ⟨_, others⟩ := traverses_visit_error visited known []
      obtain rfl := Option.some.inj (traverses.unique others).2
      rfl

theorem visit_unique {deeper : Nat} (bounded : visit source depth stack occurrence ≠ .error .tooDeep)
    (bounded' : visit source deeper stack occurrence ≠ .error .tooDeep) :
    visit source deeper stack occurrence = visit source depth stack occurrence := by
  cases visited : visit source depth stack occurrence with
  | ok events => exact (visit_ok_iff bounded').mpr ((visit_ok_iff bounded).mp visited)
  | error failure => exact (visit_error_iff bounded').mpr ((visit_error_iff bounded).mp visited)

/-- The items that were met, in order. -/
def items (events : List (Event κ β)) : List β := events.filterMap Event.item?

/-- Every item says which node it is of. -/
def Owned (source : Source ν κ β ε) (owner : β → κ) : Prop :=
  ∀ node parts item, source.load node = .ok parts → .own item ∈ parts → owner item = node

variable {owner : β → κ}

omit [DecidableEq κ] in
theorem items_follow (followed : follow descend parts = .ok events) {item : β} (member : item ∈ items events) :
    .own item ∈ parts ∨ ∃ occurrence inside, descend occurrence = .ok inside ∧ item ∈ items inside := by
  induction parts generalizing events with
  | nil =>
    obtain rfl := Except.ok.inj followed
    cases member
  | cons part parts ih =>
    cases part with
    | own first =>
      obtain ⟨others, after, done⟩ := bind_eq_ok.mp followed
      obtain rfl := pure_eq_ok.mp done
      rcases List.mem_cons.mp member with rfl | later
      · exact .inl List.mem_cons_self
      · exact (ih after later).imp_left (List.mem_cons_of_mem _)
    | child occurrence =>
      obtain ⟨known, -, onward⟩ := bind_eq_ok.mp followed
      obtain ⟨first, descended, onward⟩ := bind_eq_ok.mp onward
      obtain ⟨others, after, done⟩ := bind_eq_ok.mp onward
      obtain rfl := pure_eq_ok.mp done
      rw [items, List.filterMap_append] at member
      rcases List.mem_append.mp member with inside | later
      · exact .inr ⟨known, first, descended, inside⟩
      · exact (ih after later).imp_left (List.mem_cons_of_mem _)

theorem owner_not_mem (owned : Owned source owner) (visited : visit source depth stack occurrence = .ok events)
    {item : β} (member : item ∈ items events) : owner item ∉ stack := by
  induction depth generalizing stack occurrence events with
  | zero => cases visited
  | succ depth ih =>
    obtain ⟨node, parts, inside, resolved, new, loaded, followed, rfl⟩ := visit_ok.mp visited
    rcases items_follow followed member with own | ⟨next, further, descended, among⟩
    · rwa [owned node parts item loaded own]
    · exact fun on => ih descended among (List.mem_cons_of_mem _ on)

theorem items_visit_filter (owned : Owned source owner)
    (visited : visit source (depth + 1) stack occurrence = .ok events) :
    ∃ node parts, source.resolve occurrence = .ok node ∧ source.load node = .ok parts ∧
      (items events).filter (fun item => owner item = node) = parts.filterMap Part.own? := by
  obtain ⟨node, parts, inside, resolved, new, loaded, followed, rfl⟩ := visit_ok.mp visited
  refine ⟨node, parts, resolved, loaded, ?_⟩
  have mine : ∀ item, .own item ∈ parts → owner item = node := fun item => owned node parts item loaded
  show (items inside).filter _ = _
  clear visited loaded
  -- The items of the children are of other nodes, as they are visited inside this one.
  induction parts generalizing inside with
  | nil =>
    obtain rfl := Except.ok.inj followed
    rfl
  | cons part parts ih =>
    have others_mine : ∀ item, .own item ∈ parts → owner item = node := fun item member =>
      mine item (List.mem_cons_of_mem _ member)
    cases part with
    | own first =>
      obtain ⟨others, after, done⟩ := bind_eq_ok.mp followed
      obtain rfl := pure_eq_ok.mp done
      have rest := ih others after others_mine
      have here : owner first = node := mine first List.mem_cons_self
      simp only [items, List.filterMap_cons, Event.item?, List.filter_cons, here, Part.own?, decide_true, if_true]
      rw [← rest]
      rfl
    | child occurrence =>
      obtain ⟨known, -, onward⟩ := bind_eq_ok.mp followed
      obtain ⟨first, descended, onward⟩ := bind_eq_ok.mp onward
      obtain ⟨others, after, done⟩ := bind_eq_ok.mp onward
      obtain rfl := pure_eq_ok.mp done
      have rest := ih others after others_mine
      have none_mine : (items first).filter (fun item => owner item = node) = [] := by
        refine List.filter_eq_nil_iff.mpr fun item member same => ?_
        exact owner_not_mem owned descended member (by simp [of_decide_eq_true same])
      rw [items, List.filterMap_append, List.filter_append]
      change (items first).filter _ ++ (items others).filter _ = _
      rw [none_mine, rest]
      rfl

end Visits

end Traversal

end CNShell
