import CNShell.Mcp.Approvals

/-! What the requests of one connection of the MCP broker do to those of another. -/

namespace CNShell

namespace Mcp

/-- The connection that an event comes from. -/
def Event.stream? : Event → Option Nat
  | connect stream _ _ _ _ => some stream
  | act stream _ => some stream
  | disconnect stream => some stream
  | _ => none

namespace Broker

variable {broker next : Broker} {event : Event}

/-- The requests of all other connections stay, with their flags, their approvals and their entries. -/
structure Untouched (stream : Nat) (broker next : Broker) : Prop where
  executions : ∀ other ∈ broker.executions.rows, other.stream ≠ stream → other ∈ next.executions.rows
  entries : ∀ other ∈ broker.executions.rows, other.stream ≠ stream →
    ∀ active ∈ broker.runtime.activeRequests.rows, active.cancelled = other.stream →
      active ∈ next.runtime.activeRequests.rows
  approvals : ∀ other ∈ broker.executions.rows, other.stream ≠ stream →
    ∀ pending ∈ broker.runtime.approvals.rows, other.stage.asks pending.id = true →
      pending ∈ next.runtime.approvals.rows

/-- An event of one connection leaves the requests of all others alone. -/
def Isolated (broker : Broker) (event : Event) : Prop :=
  ∀ stream next, event.stream? = some stream → broker.step event = some next → Untouched stream broker next

/--
The request id that an event works with belongs to no other connection.

A closed connection finds no uncancelled entry and no approval of another one under its id.
A request that ends does not find the entry of another one in the place of its own.
-/
def OwnId (broker : Broker) : Event → Prop
  | .disconnect stream => ∀ execution ∈ broker.executions.rows, execution.stream = stream →
      ∀ other ∈ broker.executions.rows, other.stream ≠ stream →
        (∀ active ∈ broker.runtime.activeRequests.rows, active.cancelled = other.stream →
          active.requestId = execution.requestId → other.cancelled = true) ∧
        ∀ pending ∈ broker.runtime.approvals.rows, other.stage.asks pending.id = true →
          pending.view.requestId ≠ execution.requestId
  | .act stream .dropRequest => ∀ execution ∈ broker.executions.rows, execution.stream = stream →
      ∀ other ∈ broker.executions.rows, other.stream ≠ stream →
        ∀ active ∈ broker.runtime.activeRequests.rows, active.cancelled = other.stream →
          active.requestId ≠ execution.requestId
  | _ => True

theorem connect_untouched {stream : Nat} {requestId clientId tool : String}
    {operation : Operation}
    (taken : broker.connect stream requestId clientId tool operation = some next) :
    Untouched stream broker next := by
  obtain ⟨inserted, done, rfl⟩ := connect_eq_some taken
  exact ⟨fun other held _ => (Table.mem_insert done).mpr (.inl held), fun _ _ _ _ known _ => known,
    fun _ _ _ _ known _ => known⟩

section Steps

variable {runtime changed : McpRuntime} {execution : Execution} {action : Action} {stage : Stage}

theorem mem_activeRequests (taken : Advanced runtime execution action changed stage)
    {active : ActiveRequest} (known : active ∈ runtime.activeRequests.rows) :
    active ∈ changed.activeRequests.rows ↔ ¬(action = .dropRequest ∧ active.requestId = execution.requestId) := by
  cases taken with
  | unregistered =>
    show active ∈ (runtime.activeRequests.delete _).rows ↔ _
    simp [known]
  | registered now fresh => simp [(Table.mem_insert fresh).mpr (.inl known)]
  | @remembered connectionId policy decision now =>
    simp [(remember_same connectionId policy decision).2.2, known]
  | unlocked | released =>
    show active ∈ runtime.activeRequests.rows ↔ _
    simp [known]
  | _ => simp [known]

theorem mem_approvals (consistent : Consistent broker) (held : execution ∈ broker.executions.rows)
    (waited : Waited broker.runtime execution action changed stage) {other : Execution}
    (member : other ∈ broker.executions.rows) (differs : other.stream ≠ execution.stream)
    {pending : PendingApproval} (known : pending ∈ broker.runtime.approvals.rows)
    (asks : other.stage.asks pending.id = true) : pending ∈ changed.approvals.rows := by
  cases waited with
  | same approvals => rwa [approvals]
  | asked now fresh => exact (Table.mem_insert fresh).mpr (.inl known)
  | @resumed id connectionId policy decision now =>
    refine Table.mem_delete.mpr ⟨known, decide_eq_false fun same => differs ?_⟩
    -- No other request asked with the id that was answered.
    have asked : execution.stage.asks id = true := by simp [now, Stage.asks]
    exact consistent.alone id other member execution held (same ▸ asks) asked

end Steps

variable {stream : Nat}

theorem act_untouched {action : Action} (consistent : Consistent broker)
    (taken : broker.act stream action = some next) :
    Untouched stream broker next ↔ OwnId broker (.act stream action) := by
  obtain ⟨-, execution, held, rfl, changed, stage, advanced, rfl⟩ := act_advanced taken
  have others : ∀ other ∈ broker.executions.rows, other.stream ≠ execution.stream →
      other ∈ (broker.after execution changed stage).executions.rows :=
    fun other member differs => mem_after.mpr (.inr ⟨member, differs⟩)
  have approvals : ∀ other ∈ broker.executions.rows, other.stream ≠ execution.stream →
      ∀ pending ∈ broker.runtime.approvals.rows, other.stage.asks pending.id = true →
        pending ∈ changed.approvals.rows :=
    fun other member differs pending known asks =>
      mem_approvals consistent held advanced.waited member differs known asks
  by_cases drops : action = .dropRequest
  · subst drops
    constructor
    · intro untouched own member same other stored differs active known shares
      obtain rfl := Table.eq_of_key member held same
      have stays := untouched.entries other stored differs active known shares
      simpa using (mem_activeRequests advanced known).mp stays
    · intro ownId
      refine ⟨others, fun other stored differs active known shares => ?_, approvals⟩
      refine (mem_activeRequests advanced known).mpr fun both => ?_
      exact ownId execution held rfl other stored differs active known shares both.2
  · have free : OwnId broker (.act execution.stream action) := by
      unfold OwnId
      split
      · contradiction
      · rename_i same
        cases same
        exact absurd rfl drops
      · trivial
    refine iff_of_true ⟨others, fun other _ _ active known _ => ?_, approvals⟩ free
    exact (mem_activeRequests advanced known).mpr fun both => drops both.1

theorem hear_eq_self {id : String} {decision : ApprovalDecision} {stage : Stage}
    (awaits : stage.awaits id = true) : stage.hear decision ≠ stage := by
  obtain ⟨connectionId, policy, rfl⟩ := Stage.awaits_iff.mp awaits
  simp [Stage.hear]

/--
An execution stays in a cancellation by id under two conditions.

The flag of an entry under the id is set already, and no approval under the id is still awaited.
-/
theorem mem_cancelRequest {requestId : String} {other : Execution}
    (member : other ∈ broker.executions.rows) :
    other ∈ (broker.cancelRequest requestId).executions.rows ↔
      (∀ active ∈ broker.runtime.activeRequests.rows, active.requestId = requestId →
        active.cancelled = other.stream → other.cancelled = true) ∧
      ∀ pending ∈ broker.runtime.approvals.rows, pending.view.requestId = requestId →
        pending.decision = some other.stream → other.stage.awaits pending.id = false := by
  let flagged := fun execution : Execution => broker.runtime.activeRequests.rows.any fun active =>
    active.requestId = requestId && active.cancelled = execution.stream
  let waits := fun execution : Execution => broker.runtime.approvals.rows.any fun pending =>
    pending.view.requestId = requestId && pending.decision = some execution.stream &&
      execution.stage.awaits pending.id
  have found : (broker.cancelRequest requestId).executions.find? other.stream =
      ((broker.executions.find? other.stream).map fun execution =>
        if flagged execution = true then cancelling.apply execution else execution).map
          fun execution => if waits execution = true then (hearing .reject).apply execution
            else execution := by
    rw [← Table.find?_update, ← Table.find?_update]
    rfl
  have listed : other ∈ (broker.cancelRequest requestId).executions.rows ↔
      (broker.cancelRequest requestId).executions.find? other.stream = some other := by
    simp [Table.find?_eq_some]
  rw [listed, found, Table.find?_of_mem member, Option.map_some, Option.map_some, Option.some.injEq]
  have flag : (flagged other = true → other.cancelled = true) ↔
      ∀ active ∈ broker.runtime.activeRequests.rows, active.requestId = requestId →
        active.cancelled = other.stream → other.cancelled = true := by
    simp [flagged]
  have wait : waits other = false ↔
      ∀ pending ∈ broker.runtime.approvals.rows, pending.view.requestId = requestId →
        pending.decision = some other.stream → other.stage.awaits pending.id = false := by
    simp [waits]
  rw [← flag, ← wait]
  -- A flag changes neither the connection nor the stage, by which the second change selects.
  have blind : waits (cancelling.apply other) = waits other := rfl
  have heard : waits other = true → ∀ execution : Execution, execution.stage = other.stage →
      (hearing .reject).apply execution ≠ other := by
    intro waiting execution stage same
    obtain ⟨pending, -, rest⟩ := List.any_eq_true.mp waiting
    simp only [Bool.and_eq_true] at rest
    have unheard : execution.stage.hear .reject = other.stage := congrArg Execution.stage same
    rw [stage] at unheard
    exact hear_eq_self rest.2 unheard
  cases waiting : waits other with
  | true =>
    refine iff_of_false ?_ (by simp)
    by_cases flags : flagged other = true
    · rw [if_pos flags, blind, waiting, if_pos rfl]
      exact heard waiting _ rfl
    · rw [if_neg flags, waiting, if_pos rfl]
      exact heard waiting _ rfl
  | false =>
    by_cases flags : flagged other = true
    · rw [if_pos flags, blind, waiting, if_neg (by simp)]
      obtain ⟨stream, request, client, tool, operation, cancelled, connected, stage⟩ := other
      simp [flags, cancelling, eq_comm]
    · simp [flags, waiting]

theorem disconnect_untouched (taken : broker.disconnect stream = some next) :
    Untouched stream broker next ↔ OwnId broker (.disconnect stream) := by
  obtain ⟨execution, found, went⟩ := Option.bind_eq_some_iff.mp taken
  obtain ⟨held, rfl⟩ := Table.find?_some found
  split at went
  · cases went
    have others : ∀ other ∈ broker.executions.rows, other.stream ≠ execution.stream →
        other ∈ (broker.executions.put
          { execution with cancelled := true, connected := false }).rows :=
      fun other stored differs => Table.mem_put.mpr (.inr ⟨stored, differs⟩)
    constructor
    · intro untouched own member same other stored differs
      obtain rfl := Table.eq_of_key member held same
      have stays := (mem_cancelRequest (others other stored differs)).mp
        (untouched.executions other stored differs)
      refine ⟨fun active known shares request => stays.1 active known request shares,
        fun pending known asks request => ?_⟩
      -- An approval that is left does not carry the id.
      have left := untouched.approvals other stored differs pending known asks
      exact absurd (Table.mem_delete.mp left).2 (by simp [request])
    · intro ownId
      constructor
      · intro other stored differs
        obtain ⟨entries, approvals⟩ := ownId execution held rfl other stored differs
        refine (mem_cancelRequest (others other stored differs)).mpr
          ⟨fun active known request shares => entries active known shares request, fun pending known request _ => ?_⟩
        cases awaits : other.stage.awaits pending.id with
        | false => rfl
        | true => exact absurd request (approvals pending known (Stage.asks_of_awaits awaits))
      · exact fun _ _ _ active known _ => known
      · intro other stored differs pending known asks
        obtain ⟨-, approvals⟩ := ownId execution held rfl other stored differs
        exact Table.mem_delete.mpr ⟨known, decide_eq_false (approvals pending known asks)⟩
  · cases went

theorem isolated_iff (consistent : Consistent broker) (taken : broker.step event = some next) :
    Isolated broker event ↔ OwnId broker event := by
  -- The step leads to the one state it was taken to.
  have determined : ∀ stream, event.stream? = some stream →
      (Isolated broker event ↔ Untouched stream broker next) := by
    intro stream from_stream
    constructor
    · exact fun isolated => isolated stream next from_stream taken
    · intro untouched other reached same went
      cases from_stream.symm.trans same
      cases taken.symm.trans went
      exact untouched
  cases event with
  | connect stream requestId clientId tool operation =>
    rw [determined stream rfl]
    exact iff_of_true (connect_untouched taken) trivial
  | act stream action =>
    rw [determined stream rfl]
    exact act_untouched consistent taken
  | disconnect stream =>
    rw [determined stream rfl]
    exact disconnect_untouched taken
  | start | stop | decide | invalidate | revoke | cancelClient | sessionExpired =>
    exact iff_of_true (fun _ _ from_stream => by cases from_stream) trivial

/-- The connections do not touch each other in exactly the runs whose request ids are their own. -/
theorem connections_isolated {trace : List (Broker × Event)} (run : system.Run trace broker) :
    (∀ entry ∈ trace, Isolated entry.1 entry.2) ↔ ∀ entry ∈ trace, OwnId entry.1 entry.2 := by
  refine forall₂_congr fun entry member => ?_
  obtain ⟨before, next, reached, taken⟩ := run.taken entry member
  exact isolated_iff (consistent_of_reachable ⟨before, reached⟩) taken

/-- A new connection has a request id that no unfinished request has. -/
def NewId (broker : Broker) : Event → Prop
  | .connect _ requestId _ _ _ => ∀ other ∈ broker.executions.rows, other.stage ≠ .done → other.requestId ≠ requestId
  | _ => True

instance (broker : Broker) : (event : Event) → Decidable (NewId broker event)
  | .connect _ _ _ _ _ => inferInstanceAs (Decidable (∀ other ∈ broker.executions.rows, _ → _))
  | .start | .stop | .act _ _ | .disconnect _ | .decide _ _ | .invalidate _ | .revoke _ _
    | .cancelClient _ | .sessionExpired _ => isTrue trivial

/-- No two unfinished requests have one id. -/
def Distinct (broker : Broker) : Prop :=
  ∀ first ∈ broker.executions.rows, ∀ second ∈ broker.executions.rows, first.stage ≠ .done →
    second.stage ≠ .done → first.requestId = second.requestId → first.stream = second.stream

/-- The same request later on, unfinished only if it was before. -/
structure Follows (old execution : Execution) : Prop where
  stream : execution.stream = old.stream
  requestId : execution.requestId = old.requestId
  unfinished : execution.stage ≠ .done → old.stage ≠ .done

protected theorem Follows.refl (execution : Execution) : Follows execution execution :=
  ⟨rfl, rfl, id⟩

/-- The requests of a broker are those of another one, later on. -/
def Continues (broker next : Broker) : Prop :=
  ∀ execution ∈ next.executions.rows, ∃ old ∈ broker.executions.rows, Follows old execution

theorem Continues.trans {middle : Broker} (one : Continues broker middle)
    (two : Continues middle next) : Continues broker next := by
  intro execution member
  obtain ⟨between, held, later⟩ := two execution member
  obtain ⟨old, stored, first⟩ := one between held
  exact ⟨old, stored, later.stream.trans first.stream, later.requestId.trans first.requestId,
    first.unfinished ∘ later.unfinished⟩

theorem Continues.distinct (continues : Continues broker next) (distinct : Distinct broker) : Distinct next := by
  intro first one second two unfinished also same
  obtain ⟨old, held, follows⟩ := continues first one
  obtain ⟨other, stored, later⟩ := continues second two
  rw [follows.stream, later.stream]
  rw [follows.requestId, later.requestId] at same
  exact distinct old held other stored (follows.unfinished unfinished) (later.unfinished also) same

theorem cancel_continues (broker : Broker) (chosen : ActiveRequest → Bool) :
    Continues broker (broker.cancel chosen) := by
  intro execution member
  exact Table.origin_update Follows .refl (fun _ _ _ => ⟨rfl, rfl, id⟩) member

theorem hearing_follows (decision : ApprovalDecision) (execution : Execution) :
    Follows execution ((hearing decision).apply execution) := by
  refine ⟨rfl, rfl, fun unfinished done => unfinished ?_⟩
  show execution.stage.hear decision = .done
  rw [done]
  rfl

theorem reject_continues (broker : Broker) (chosen : PendingApproval → Bool) :
    Continues broker (broker.reject chosen) := by
  intro execution member
  exact Table.origin_update Follows .refl (fun old _ _ => hearing_follows .reject old) member

theorem decide_continues (id decision : String) : Continues broker (broker.decide id decision).2 := by
  intro execution member
  unfold decide at member
  split at member
  · exact ⟨execution, member, .refl execution⟩
  · split at member
    · exact ⟨execution, member, .refl execution⟩
    · exact ⟨execution, member, .refl execution⟩
    · rename_i selected _ _ _
      exact Table.origin_update Follows .refl (fun old _ _ => hearing_follows selected old) member

theorem stage_ne_done {runtime changed : McpRuntime} {execution : Execution} {action : Action}
    {stage : Stage} (taken : Advanced runtime execution action changed stage) :
    execution.stage ≠ .done := by
  intro done
  cases taken with
  | returned _ returns => simp [done, Stage.mayReturn] at returns
  | _ => simp_all

/-- Every step but that of a new connection only carries the requests on. -/
theorem step_continues (taken : broker.step event = some next)
    (old : ∀ stream requestId clientId tool operation,
      event ≠ .connect stream requestId clientId tool operation) : Continues broker next := by
  have stays : ∀ {other : Broker}, other.executions = broker.executions → Continues broker other :=
    fun same execution member => ⟨execution, same ▸ member, .refl execution⟩
  cases event with
  | start | sessionExpired =>
    cases taken
    exact stays rfl
  | stop =>
    cases taken
    exact (cancel_continues broker _).trans (reject_continues _ fun _ => true)
  | connect stream requestId clientId tool operation =>
    exact absurd rfl (old stream requestId clientId tool operation)
  | act stream action =>
    obtain ⟨-, execution, held, -, changed, stage, advanced, rfl⟩ := act_advanced taken
    intro other member
    rcases mem_after.mp member with rfl | ⟨kept, -⟩
    · exact ⟨execution, held, rfl, rfl, fun _ => stage_ne_done advanced⟩
    · exact ⟨other, kept, .refl other⟩
  | disconnect stream =>
    obtain ⟨execution, found, went⟩ := Option.bind_eq_some_iff.mp taken
    split at went
    · cases went
      have marked : Continues broker { broker with
          executions := broker.executions.put
            { execution with cancelled := true, connected := false } } := by
        intro other member
        rcases Table.mem_put.mp member with rfl | ⟨kept, -⟩
        · exact ⟨execution, (Table.find?_some found).1, rfl, rfl, id⟩
        · exact ⟨other, kept, .refl other⟩
      exact (marked.trans (cancel_continues _ _)).trans (reject_continues _ _)
    · cases went
  | decide id decision =>
    cases taken
    exact decide_continues id decision
  | invalidate clientId =>
    cases taken
    have removed : Continues broker (broker.removeSessions fun session =>
      session.clientId = clientId) := stays rfl
    exact (removed.trans (reject_continues _ _)).trans (cancel_continues _ _)
  | revoke clientId listed =>
    cases taken
    have removed : Continues broker (broker.removeSessions fun session =>
      session.clientId = clientId && listed.contains session.id) := stays rfl
    exact removed.trans (reject_continues _ _)
  | cancelClient clientId =>
    cases taken
    exact cancel_continues broker _

theorem step_distinct (distinct : Distinct broker) (fresh : NewId broker event)
    (taken : broker.step event = some next) : Distinct next := by
  by_cases connects : ∃ stream requestId clientId tool operation,
      event = .connect stream requestId clientId tool operation
  · obtain ⟨stream, requestId, clientId, tool, operation, rfl⟩ := connects
    obtain ⟨inserted, done, rfl⟩ := connect_eq_some taken
    intro first one second two unfinished also same
    rcases (Table.mem_insert done).mp one with old | rfl <;>
      rcases (Table.mem_insert done).mp two with kept | rfl
    · exact distinct first old second kept unfinished also same
    · exact absurd same (fresh first old unfinished)
    · exact absurd same.symm (fresh second kept also)
    · rfl
  · exact (step_continues taken fun stream requestId clientId tool operation same =>
      connects ⟨stream, requestId, clientId, tool, operation, same⟩).distinct distinct

theorem ownId_of_distinct (consistent : Consistent broker) (entered : Entered broker)
    (distinct : Distinct broker) (taken : broker.step event = some next) : OwnId broker event := by
  -- Entries and approvals carry the ids of unfinished requests.
  have entry : ∀ other ∈ broker.executions.rows, ∀ active ∈ broker.runtime.activeRequests.rows,
      active.cancelled = other.stream → active.requestId = other.requestId ∧ other.stage ≠ .done := by
    intro other stored active known shares
    obtain ⟨holder, held, stream, request, -, registers⟩ := entered active known
    obtain rfl := Table.eq_of_key held stored (stream.trans shares)
    exact ⟨request.symm, fun done => by simp [done, Stage.registers] at registers⟩
  cases event with
  | disconnect stream =>
    intro execution held same other stored differs
    have unfinished : execution.stage ≠ .done := by
      obtain ⟨found, looked, went⟩ := Option.bind_eq_some_iff.mp taken
      obtain ⟨member, keyed⟩ := Table.find?_some looked
      obtain rfl := Table.eq_of_key held member (same.trans keyed.symm)
      split at went
      · rename_i guard
        exact guard.2
      · cases went
    have apart : other.stage ≠ .done → other.requestId ≠ execution.requestId := by
      intro also equal
      exact differs ((distinct other stored execution held also unfinished equal).trans same)
    refine ⟨fun active known shares request => ?_, fun pending known asks request => ?_⟩
    · obtain ⟨own, also⟩ := entry other stored active known shares
      exact absurd (own.symm.trans request) (apart also)
    · have owned := (consistent.owned pending known other stored asks).1
      refine apart (fun done => ?_) (owned.symm.trans request)
      simp [done, Stage.asks] at asks
  | act stream action =>
    by_cases drops : action = .dropRequest
    · subst drops
      intro execution held same other stored differs active known shares request
      obtain ⟨-, found, member, keyed, changed, stage, advanced, -⟩ := act_advanced taken
      obtain rfl := Table.eq_of_key held member (same.trans keyed.symm)
      obtain ⟨own, also⟩ := entry other stored active known shares
      have equal := own.symm.trans request
      exact differs ((distinct other stored execution held also (stage_ne_done advanced)
        equal).trans same)
    · cases action <;> first | trivial | exact absurd rfl drops
  | _ => trivial

theorem isolated_of_newIds {trace : List (Broker × Event)} (run : system.Run trace broker)
    (fresh : ∀ entry ∈ trace, NewId entry.1 entry.2) :
    ∀ entry ∈ trace, Isolated entry.1 entry.2 := by
  refine (connections_isolated run).mpr fun entry member => ?_
  obtain ⟨before, after, rfl, reached⟩ := run.visited entry member
  obtain ⟨-, next, -, taken⟩ := run.taken entry member
  have both : Entered entry.1 ∧ Distinct entry.1 := by
    refine reached.invariant NewId (fun state => Entered state ∧ Distinct state) ?_ ?_
      fun earlier early => fresh earlier (List.mem_append.mpr (.inl early))
    · rintro state rfl
      refine ⟨fun active listed => ?_, fun execution listed => ?_⟩ <;> cases listed
    · exact fun state event next holds new taken =>
        ⟨step_entered holds.1 taken, step_distinct holds.2 new taken⟩
  exact ownId_of_distinct (consistent_of_reachable ⟨before, reached⟩) both.1 both.2 taken

end Broker

namespace Demo

open Broker

/-- A client's request executes, and another client sends one with the same id. -/
def stolen : List Event :=
  .start :: executing 0 "same" ++ [.act 0 .register, .connect 1 "same" "other" "cnshell_system_info" .read]

/-- When the other client closes its connection, the request that executes is cancelled. -/
theorem connections_interfere :
    ¬∀ trace broker, system.Run trace broker → ∀ entry ∈ trace, Isolated entry.1 entry.2 := by
  have checked : ((System.trail step new stolen).elim false fun reached =>
      (step reached.2 (.disconnect 1)).elim false fun next =>
        (reached.2.executions.find? 0).elim false fun other =>
          !next.executions.rows.contains other) = true := by decide
  intro always
  obtain ⟨reached, goes, checked⟩ := exists_of_checked checked
  cases taken : step reached.2 (.disconnect 1) with
  | none => simp [goes, taken] at checked
  | some next =>
    cases found : reached.2.executions.find? 0 with
    | none => simp [goes, taken, found] at checked
    | some other =>
      have run := System.Run.trail (.start rfl : system.Run [] new) goes
      have untouched := always _ _ (run.snoc taken) (reached.2, .disconnect 1) (by simp) 1 next
        rfl taken
      obtain ⟨member, keyed⟩ := Table.find?_some found
      -- The request of the first connection is not what it was.
      have stays := untouched.executions other member (by simp [keyed])
      simp [goes, taken, found, stays] at checked

/-- Two clients with requests of distinct ids close their connections without harm to each other. -/
theorem connections_isolated_apart : ∃ trace broker, system.Run trace broker ∧
    (broker.executions.find? 0).any (fun execution => !execution.cancelled) = true ∧
      ∀ entry ∈ trace, OwnId entry.1 entry.2 := by
  let events : List Event :=
    .start :: executing 0 "first" ++ [.act 0 .register,
      .connect 1 "second" "other" "cnshell_system_info" .read, .disconnect 1]
  have checked : ((System.trail step new events).elim false fun reached =>
      (reached.2.executions.find? 0).any (fun execution => !execution.cancelled) &&
        reached.1.all fun entry => decide (NewId entry.1 entry.2)) = true := by decide
  obtain ⟨reached, goes, checked⟩ := exists_of_checked checked
  simp only [Bool.and_eq_true, List.all_eq_true, decide_eq_true_eq]
    at checked
  have run := System.Run.trail (.start rfl : system.Run [] new) goes
  exact ⟨_, _, run, checked.1, (connections_isolated run).mp (isolated_of_newIds run checked.2)⟩

end Demo

end Mcp

end CNShell
