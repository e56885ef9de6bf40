import CNShell.Mcp.Steps

/-! The permits of the MCP broker against what its maps say about them. -/

namespace CNShell

namespace Mcp

/-- What an execution holds, with the names under which the broker keeps account of it. -/
structure Holding where
  stream : Nat
  requestId : String
  clientId : String
  executes : Bool
  registers : Bool
  target : Option String

def Execution.holding (execution : Execution) : Holding :=
  ⟨execution.stream, execution.requestId, execution.clientId, execution.stage.executes,
    execution.stage.registers, execution.stage.target?⟩

namespace Broker

/-- How many `ExecutionPermit`s of a client are alive. -/
def livePermits (broker : Broker) (clientId : String) : Nat :=
  broker.executions.count fun execution =>
    execution.clientId = clientId && execution.stage.executes

/-- Every active request is the entry of a request that is still registered. -/
def Entered (broker : Broker) : Prop :=
  ∀ active ∈ broker.runtime.activeRequests.rows,
    ∃ execution ∈ broker.executions.rows, execution.stream = active.cancelled ∧
      execution.requestId = active.requestId ∧ execution.clientId = active.clientId ∧
      execution.stage.registers = true

/-- The maps of the broker say what its live permits are. -/
structure Accounted (broker : Broker) : Prop where
  /-- The requests in flight are the ones with a live permit. -/
  counted : ∀ clientId, broker.runtime.inFlight clientId = broker.livePermits clientId
  /-- A client has two of them at most. -/
  bounded : ∀ clientId, broker.runtime.inFlight clientId ≤ 2
  /-- The targets in use are those of the live `TransferTargetPermit`s. -/
  targets : ∀ key, key ∈ broker.runtime.transferTargets ↔
    ∃ execution ∈ broker.executions.rows, execution.stage.target? = some key
  /-- Every active request is the entry of a request that is alive. -/
  entries : Entered broker

/-- No two requests transfer to one target. -/
def Exclusive (broker : Broker) : Prop :=
  ∀ key, ∀ first ∈ broker.executions.rows, ∀ second ∈ broker.executions.rows,
    first.stage.target? = some key → second.stage.target? = some key → first.stream = second.stream

/-- Neither the permits nor the maps that count them were touched. -/
structure SamePermits (broker next : Broker) : Prop where
  inFlight : next.runtime.inFlight = broker.runtime.inFlight
  targets : next.runtime.transferTargets = broker.runtime.transferTargets
  entries : next.runtime.activeRequests = broker.runtime.activeRequests
  holdings : next.executions.rows.map Execution.holding = broker.executions.rows.map Execution.holding

variable {broker middle next : Broker}

namespace SamePermits

protected theorem refl (broker : Broker) : SamePermits broker broker := ⟨rfl, rfl, rfl, rfl⟩

protected theorem trans (one : SamePermits broker middle) (two : SamePermits middle next) :
    SamePermits broker next :=
  ⟨two.inFlight.trans one.inFlight, two.targets.trans one.targets, two.entries.trans one.entries,
    two.holdings.trans one.holdings⟩

theorem origin (same : SamePermits broker next) {execution : Execution}
    (member : execution ∈ next.executions.rows) :
    ∃ old ∈ broker.executions.rows, old.holding = execution.holding := by
  have listed := List.mem_map_of_mem (f := Execution.holding) member
  rw [same.holdings] at listed
  exact List.mem_map.mp listed

protected theorem symm (same : SamePermits broker next) : SamePermits next broker :=
  ⟨same.inFlight.symm, same.targets.symm, same.entries.symm, same.holdings.symm⟩

theorem livePermits (same : SamePermits broker next) (clientId : String) :
    next.livePermits clientId = broker.livePermits clientId := by
  have counts : ∀ broker : Broker, broker.livePermits clientId =
      (broker.executions.rows.map Execution.holding).countP
        fun holding => holding.clientId = clientId && holding.executes := by
    intro broker
    rw [List.countP_map]
    rfl
  rw [counts, counts, same.holdings]

theorem entered (same : SamePermits broker next) (entered : Entered broker) : Entered next := by
  intro active member
  rw [same.entries] at member
  obtain ⟨execution, held, stream, request, client, registers⟩ := entered active member
  obtain ⟨kept, listed, alike⟩ := same.symm.origin held
  simp only [Execution.holding, Holding.mk.injEq] at alike
  obtain ⟨one, two, three, -, five, -⟩ := alike
  exact ⟨kept, listed, one.trans stream, two.trans request, three.trans client, five.trans registers⟩

theorem accounted (same : SamePermits broker next) (accounted : Accounted broker) :
    Accounted next where
  counted clientId := by rw [same.inFlight, same.livePermits, accounted.counted]
  bounded clientId := by
    rw [same.inFlight]
    exact accounted.bounded clientId
  targets key := by
    rw [same.targets, accounted.targets]
    constructor
    · rintro ⟨execution, member, holds⟩
      obtain ⟨kept, listed, alike⟩ := same.symm.origin member
      exact ⟨kept, listed, (congrArg Holding.target alike).trans holds⟩
    · rintro ⟨execution, member, holds⟩
      obtain ⟨kept, listed, alike⟩ := same.origin member
      exact ⟨kept, listed, (congrArg Holding.target alike).trans holds⟩
  entries := same.entered accounted.entries

theorem exclusive (same : SamePermits broker next) (exclusive : Exclusive broker) : Exclusive next := by
  intro key first one second two holds also
  obtain ⟨old, held, alike⟩ := same.origin one
  obtain ⟨other, stored, likewise⟩ := same.origin two
  have apart := exclusive key old held other stored
    ((congrArg Holding.target alike).trans holds) ((congrArg Holding.target likewise).trans also)
  exact (congrArg Holding.stream alike).symm.trans (apart.trans (congrArg Holding.stream likewise))

theorem of_update (broker : Broker) (selected : Execution → Bool) {change : Change Execution.stream}
    (silent : ∀ execution, (change.apply execution).holding = execution.holding) :
    SamePermits broker { broker with executions := broker.executions.update selected change } where
  inFlight := rfl
  targets := rfl
  entries := rfl
  holdings := by
    show (broker.executions.rows.map fun _ => _).map Execution.holding = _
    rw [List.map_map]
    refine List.map_congr_left fun execution _ => ?_
    simp only [Function.comp_apply]
    split
    · exact silent execution
    · rfl

end SamePermits

theorem cancelling_holding (execution : Execution) : (cancelling.apply execution).holding = execution.holding := rfl

theorem hearing_holding (decision : ApprovalDecision) (execution : Execution) :
    ((hearing decision).apply execution).holding = execution.holding := by
  obtain ⟨stream, requestId, clientId, tool, operation, cancelled, connected, stage⟩ := execution
  cases stage with
  | asking id connectionId policy answer => cases answer <;> rfl
  | _ => rfl

theorem cancel_same (broker : Broker) (chosen : ActiveRequest → Bool) : SamePermits broker (broker.cancel chosen) :=
  .of_update broker _ cancelling_holding

theorem reject_same (broker : Broker) (chosen : PendingApproval → Bool) : SamePermits broker (broker.reject chosen) :=
  ⟨rfl, rfl, rfl, (SamePermits.of_update broker _ (hearing_holding .reject)).holdings⟩

theorem decide_same (id decision : String) : SamePermits broker (broker.decide id decision).2 := by
  unfold decide
  split
  · exact .refl broker
  · split
    · exact .refl broker
    · exact .refl broker
    · rename_i selected _ _ _
      exact ⟨rfl, rfl, rfl, (SamePermits.of_update broker _ (hearing_holding selected)).holdings⟩

theorem invalidate_same (clientId : String) :
    SamePermits broker (broker.invalidateClientAuthorizations clientId) := by
  have rejected := reject_same (broker.removeSessions fun session => session.clientId = clientId)
    fun pending => pending.view.clientId = clientId
  have cancelled := rejected.trans (cancel_same _ fun active => active.clientId = clientId)
  exact ⟨cancelled.inFlight, cancelled.targets, cancelled.entries, cancelled.holdings⟩

theorem revoke_same (clientId : String) (listed : List String) :
    SamePermits broker (broker.revokeRuntimeAccess clientId listed) := by
  have rejected := reject_same (broker.removeSessions fun session =>
    session.clientId = clientId && listed.contains session.id)
    fun pending => pending.view.clientId = clientId
  exact ⟨rejected.inFlight, rejected.targets, rejected.entries, rejected.holdings⟩

end Broker

section Steps

variable {runtime changed : McpRuntime} {execution : Execution} {action : Action} {stage : Stage}

/-- What a step of a request does to the permits it holds and to the maps they are counted in. -/
inductive Handled (runtime : McpRuntime) (execution : Execution) : McpRuntime → Stage → Prop
  /-- The request takes no permit and drops none. -/
  | quiet {changed : McpRuntime} {stage : Stage}
      (inFlight : changed.inFlight = runtime.inFlight)
      (targets : changed.transferTargets = runtime.transferTargets)
      (entries : changed.activeRequests = runtime.activeRequests)
      (holding : (execution.reach stage).holding = execution.holding) :
      Handled runtime execution changed stage
  /-- It takes an `ExecutionPermit`. -/
  | acquired (stage : execution.stage = .authenticated)
      (room : runtime.inFlight execution.clientId < 2) :
      Handled runtime execution { runtime with
        inFlight := Function.update runtime.inFlight execution.clientId
          (runtime.inFlight execution.clientId + 1) } .executing
  /-- It takes a `RequestPermit`. -/
  | registered {inserted : Table ActiveRequest.requestId} (stage : execution.stage = .executing)
      (fresh : runtime.activeRequests.insert
        ⟨execution.requestId, execution.clientId, execution.stream⟩ = some inserted) :
      Handled runtime execution { runtime with activeRequests := inserted } .registered
  /-- It takes a `TransferTargetPermit`. -/
  | locked {connectionId key : String} (stage : execution.stage = .uncancelled connectionId)
      (free : key ∉ runtime.transferTargets) :
      Handled runtime execution
        { runtime with transferTargets := insert key runtime.transferTargets } (.transferring key)
  /-- It drops its `TransferTargetPermit`. -/
  | unlocked {key : String} (stage : execution.stage = .transferring key) :
      Handled runtime execution (runtime.dropTarget key) .leaving
  /-- It drops its `RequestPermit`. -/
  | unregistered (stage : execution.stage = .leaving) :
      Handled runtime execution (runtime.dropRequest execution.requestId) .releasing
  /-- It drops its `ExecutionPermit`. -/
  | released (stage : execution.stage = .releasing) :
      Handled runtime execution (runtime.dropExecution execution.clientId) .done

theorem remember_same (connectionId : String) (policy : ApprovalPolicy)
    (decision : ApprovalDecision) :
    (runtime.remember execution connectionId policy decision).inFlight = runtime.inFlight ∧
      (runtime.remember execution connectionId policy decision).transferTargets = runtime.transferTargets ∧
      (runtime.remember execution connectionId policy decision).activeRequests = runtime.activeRequests := by
  unfold McpRuntime.remember
  split
  · split <;> simp
  · simp

theorem mayReturn_holding (other : ∀ key, execution.stage ≠ .transferring key)
    (returns : execution.stage.mayReturn = true) :
    (execution.reach .leaving).holding = execution.holding := by
  simp only [Execution.holding, Execution.reach]
  cases now : execution.stage with
  | transferring key => exact absurd now (other key)
  | working | requesting | unruled | answered | approved | uncancelled => rfl
  | received | authenticated | executing | registered | asking | opening | leaving | releasing
    | done => simp [now, Stage.mayReturn] at returns

theorem Advanced.handled (taken : Advanced runtime execution action changed stage) :
    Handled runtime execution changed stage := by
  -- Most steps go from one stage to another that holds the same permits.
  have quiet : ∀ {changed : McpRuntime} {before after : Stage}, execution.stage = before →
      changed.inFlight = runtime.inFlight → changed.transferTargets = runtime.transferTargets →
      changed.activeRequests = runtime.activeRequests →
      after.executes = before.executes → after.registers = before.registers →
      after.target? = before.target? → Handled runtime execution changed after := by
    intro changed before after now inFlight targets entries executes registers target
    refine .quiet inFlight targets entries ?_
    simp only [Execution.holding, Execution.reach, now, executes, registers, target]
  cases taken with
  | acquired now room => exact .acquired now room
  | registered now fresh => exact .registered now fresh
  | locked now free => exact .locked now free
  | unlocked now => exact .unlocked now
  | unregistered now => exact .unregistered now
  | released now => exact .released now
  | returned other returns => exact .quiet rfl rfl rfl (mayReturn_holding other returns)
  | @remembered connectionId policy decision now =>
    obtain ⟨inFlight, targets, entries⟩ := remember_same connectionId policy decision
    refine quiet now inFlight targets entries ?_ ?_ ?_ <;> split <;> rfl
  | authenticated now | refused now | busy now | duplicate now | rated now | limited now
    | confirmed now | unconfirmed now | closed now | unavailable now | written now | allowed now
    | unruled now | persisted now | asked now | crowded now | expired now | resumed now
    | confirm now | opened now | full now | cancelled now | uncancelled now | occupied now =>
    exact quiet now rfl rfl rfl rfl rfl rfl

variable {broker next : Broker}

def Broker.after (broker : Broker) (execution : Execution) (changed : McpRuntime) (stage : Stage) : Broker :=
  { broker with runtime := changed, executions := broker.executions.put (execution.reach stage) }

theorem act_advanced {stream : Nat} (taken : broker.act stream action = some next) :
    broker.redraws action = false ∧
      ∃ execution ∈ broker.executions.rows, execution.stream = stream ∧ ∃ changed stage,
        Advanced broker.runtime execution action changed stage ∧ next = broker.after execution changed stage := by
  unfold Broker.act at taken
  split at taken
  · cases taken
  · rename_i fresh
    obtain ⟨execution, found, went⟩ := Option.bind_eq_some_iff.mp taken
    obtain ⟨⟨changed, stage⟩, advanced, rfl⟩ := Option.map_eq_some_iff.mp went
    obtain ⟨held, same⟩ := Table.find?_some found
    exact ⟨by simpa using fresh, execution, held, same, changed, stage, advance_advanced advanced, rfl⟩

namespace Broker

variable (held : execution ∈ broker.executions.rows)

include held

theorem livePermits_after (clientId : String) :
    (broker.after execution changed stage).livePermits clientId +
        (if execution.clientId = clientId ∧ execution.stage.executes = true then 1 else 0) =
      broker.livePermits clientId +
        (if execution.clientId = clientId ∧ stage.executes = true then 1 else 0) := by
  have found : broker.executions.find? (execution.reach stage).stream = some execution :=
    Table.find?_of_mem held
  have counts := Table.count_put found fun other =>
    other.clientId = clientId && other.stage.executes
  simp only [Bool.and_eq_true, decide_eq_true_eq] at counts
  exact counts

omit held in
theorem mem_after {other : Execution} :
    other ∈ (broker.after execution changed stage).executions.rows ↔
      other = execution.reach stage ∨ other ∈ broker.executions.rows ∧ other.stream ≠ execution.stream :=
  Table.mem_put

theorem counted_after (accounted : Accounted broker) (inFlight : changed.inFlight = broker.runtime.inFlight)
    (same : stage.executes = execution.stage.executes) (clientId : String) :
    (broker.after execution changed stage).runtime.inFlight clientId =
      (broker.after execution changed stage).livePermits clientId := by
  have counts : (broker.after execution changed stage).livePermits clientId + _ = _ :=
    livePermits_after held clientId
  rw [same] at counts
  have before := accounted.counted clientId
  show changed.inFlight clientId = _
  rw [inFlight]
  omega

theorem targets_after (accounted : Accounted broker)
    (targets : changed.transferTargets = broker.runtime.transferTargets)
    (same : stage.target? = execution.stage.target?) (key : String) :
    key ∈ (broker.after execution changed stage).runtime.transferTargets ↔
      ∃ other ∈ (broker.after execution changed stage).executions.rows, other.stage.target? = some key := by
  show key ∈ changed.transferTargets ↔ _
  rw [targets, accounted.targets]
  constructor
  · rintro ⟨other, member, holds⟩
    by_cases this : other.stream = execution.stream
    · obtain rfl := Table.eq_of_key member held this
      exact ⟨_, mem_after.mpr (.inl rfl), same.trans holds⟩
    · exact ⟨other, mem_after.mpr (.inr ⟨member, this⟩), holds⟩
  · rintro ⟨other, member, holds⟩
    rcases mem_after.mp member with rfl | ⟨kept, -⟩
    · exact ⟨execution, held, same.symm.trans holds⟩
    · exact ⟨other, kept, holds⟩

theorem exclusive_after (exclusive : Exclusive broker)
    (same : ∀ key, stage.target? = some key → execution.stage.target? = some key) :
    Exclusive (broker.after execution changed stage) := by
  have origin : ∀ key, ∀ other ∈ (broker.after execution changed stage).executions.rows,
      other.stage.target? = some key → ∃ old ∈ broker.executions.rows,
        old.stage.target? = some key ∧ old.stream = other.stream := by
    intro key other member holds
    rcases mem_after.mp member with rfl | ⟨kept, -⟩
    · exact ⟨execution, held, same key holds, rfl⟩
    · exact ⟨other, kept, holds, rfl⟩
  intro key first one second two holds also
  obtain ⟨old, listed, holding, stream⟩ := origin key first one holds
  obtain ⟨last, stored, keeping, name⟩ := origin key second two also
  exact stream.symm.trans ((exclusive key old listed last stored holding keeping).trans name)

theorem entries_after (entered : Entered broker)
    (entries : ∀ active ∈ changed.activeRequests.rows, active ∈ broker.runtime.activeRequests.rows)
    (same : stage.registers = true ∨ execution.stage.registers = false ∨
      ∀ active ∈ changed.activeRequests.rows, active.requestId ≠ execution.requestId) :
    Entered (broker.after execution changed stage) := by
  intro active member
  obtain ⟨other, listed, stream, request, client, registers⟩ :=
    entered active (entries active member)
  by_cases this : other.stream = execution.stream
  · obtain rfl := Table.eq_of_key listed held this
    -- The entry is the one of the request that went on.
    rcases same with stays | free | gone
    · exact ⟨_, mem_after.mpr (.inl rfl), stream, request, client, stays⟩
    · exact absurd registers (by simp [free])
    · exact absurd request.symm (gone active member)
  · exact ⟨other, mem_after.mpr (.inr ⟨listed, this⟩), stream, request, client, registers⟩

theorem handled_entered (entered : Entered broker)
    (handled : Handled broker.runtime execution changed stage) :
    Entered (broker.after execution changed stage) := by
  cases handled with
  | quiet _ _ entries holding =>
    have registers : stage.registers = execution.stage.registers :=
      congrArg Holding.registers holding
    refine entries_after held entered (fun active member => entries ▸ member) ?_
    cases now : execution.stage.registers with
    | true => exact .inl (registers.trans now)
    | false => exact .inr (.inl rfl)
  | acquired now => exact entries_after held entered (fun _ => id) (.inr (.inl (by rw [now]; rfl)))
  | registered now fresh =>
    intro active member
    rcases (Table.mem_insert fresh).mp member with old | rfl
    · -- An older entry is another request's, since this one was not registered.
      obtain ⟨other, listed, stream, request, client, registers⟩ := entered active old
      refine ⟨other, mem_after.mpr (.inr ⟨listed, fun same => ?_⟩), stream, request, client, registers⟩
      obtain rfl := Table.eq_of_key listed held same
      simp [now, Stage.registers] at registers
    · exact ⟨_, mem_after.mpr (.inl rfl), rfl, rfl, rfl, rfl⟩
  | locked | unlocked => exact entries_after held entered (fun _ => id) (.inl rfl)
  | unregistered =>
    -- What is left carries another id.
    exact entries_after held entered (fun active member => (Table.mem_delete.mp member).1)
      (.inr (.inr fun active member => by simpa using (Table.mem_delete.mp member).2))
  | released now => exact entries_after held entered (fun _ => id) (.inr (.inl (by rw [now]; rfl)))

/-- A step of a request keeps the account. -/
theorem handled_accounted (accounted : Accounted broker) (exclusive : Exclusive broker)
    (handled : Handled broker.runtime execution changed stage) :
    Accounted (broker.after execution changed stage) ∧ Exclusive (broker.after execution changed stage) := by
  have entered := handled_entered held accounted.entries handled
  cases handled with
  | quiet inFlight targets entries holding =>
    have found : broker.executions.find? (execution.reach stage).stream = some execution :=
      Table.find?_of_mem held
    have same : SamePermits broker (broker.after execution changed stage) :=
      ⟨inFlight, targets, entries, Table.map_put found holding⟩
    exact ⟨same.accounted accounted, same.exclusive exclusive⟩
  | acquired now room =>
    refine ⟨⟨fun clientId => ?_, fun clientId => ?_, ?_, entered⟩, ?_⟩
    · -- One more in flight, and one more permit.
      have counts : (broker.after execution broker.runtime .executing).livePermits clientId + _ = _ :=
        livePermits_after held clientId
      have before := accounted.counted clientId
      show Function.update broker.runtime.inFlight _ _ clientId =
        (broker.after execution broker.runtime .executing).livePermits clientId
      by_cases own : clientId = execution.clientId
      · subst own
        simp [now, Stage.executes] at counts ⊢
        omega
      · simp [own, Ne.symm own] at counts ⊢
        omega
    · show Function.update broker.runtime.inFlight _ _ clientId ≤ 2
      by_cases own : clientId = execution.clientId
      · subst own
        simp
        omega
      · simpa [own] using accounted.bounded clientId
    · exact targets_after held accounted rfl (by simp [now, Stage.target?])
    · exact exclusive_after held exclusive (by simp [Stage.target?])
  | registered now fresh =>
    have executes : Stage.registered.executes = execution.stage.executes := by
      simp [now, Stage.executes]
    have target : Stage.registered.target? = execution.stage.target? := by simp [now, Stage.target?]
    exact ⟨⟨counted_after held accounted rfl executes, accounted.bounded,
      targets_after held accounted rfl target, entered⟩,
      exclusive_after held exclusive (by simp [Stage.target?])⟩
  | @locked connectionId key now free =>
    have executes : (Stage.transferring key).executes = execution.stage.executes := by
      simp [now, Stage.executes]
    have unused : ∀ other ∈ broker.executions.rows, other.stage.target? ≠ some key :=
      fun other member holds => free ((accounted.targets key).mpr ⟨other, member, holds⟩)
    refine ⟨⟨counted_after held accounted rfl executes, accounted.bounded, fun sought => ?_, entered⟩, ?_⟩
    · show sought ∈ insert key broker.runtime.transferTargets ↔ _
      rw [Finset.mem_insert, accounted.targets]
      constructor
      · rintro (rfl | ⟨other, member, holds⟩)
        · exact ⟨_, mem_after.mpr (.inl rfl), rfl⟩
        · refine ⟨other, mem_after.mpr (.inr ⟨member, fun same => ?_⟩), holds⟩
          obtain rfl := Table.eq_of_key member held same
          simp [now, Stage.target?] at holds
      · rintro ⟨other, member, holds⟩
        rcases mem_after.mp member with rfl | ⟨kept, -⟩
        · exact .inl (Option.some.inj holds).symm
        · exact .inr ⟨other, kept, holds⟩
    · -- No other request had the target, so the new holder is alone with it.
      intro sought first one second two holds also
      rcases mem_after.mp one with rfl | ⟨kept, -⟩ <;> rcases mem_after.mp two with rfl | ⟨stays, -⟩
      · rfl
      · obtain rfl : key = sought := Option.some.inj holds
        exact absurd also (unused second stays)
      · obtain rfl : key = sought := Option.some.inj also
        exact absurd holds (unused first kept)
      · exact exclusive sought first kept second stays holds also
  | @unlocked key now =>
    have executes : Stage.leaving.executes = execution.stage.executes := by
      simp [now, Stage.executes]
    refine ⟨⟨counted_after held accounted rfl executes, accounted.bounded, fun sought => ?_,
      entered⟩,
      exclusive_after held exclusive (by simp [Stage.target?])⟩
    show sought ∈ broker.runtime.transferTargets.erase key ↔ _
    rw [Finset.mem_erase, accounted.targets]
    constructor
    · rintro ⟨differs, other, member, holds⟩
      refine ⟨other, mem_after.mpr (.inr ⟨member, fun same => ?_⟩), holds⟩
      obtain rfl := Table.eq_of_key member held same
      simp [now, Stage.target?] at holds
      exact differs holds.symm
    · rintro ⟨other, member, holds⟩
      rcases mem_after.mp member with rfl | ⟨kept, apart⟩
      · cases holds
      · -- Another request with the same target would be the one that dropped it.
        refine ⟨?_, other, kept, holds⟩
        rintro rfl
        exact apart (exclusive sought other kept execution held holds (by simp [now, Stage.target?]))
  | unregistered now =>
    have executes : Stage.releasing.executes = execution.stage.executes := by
      simp [now, Stage.executes]
    have target : Stage.releasing.target? = execution.stage.target? := by simp [now, Stage.target?]
    exact ⟨⟨counted_after held accounted rfl executes, accounted.bounded,
      targets_after held accounted rfl target, entered⟩,
      exclusive_after held exclusive (by simp [Stage.target?])⟩
  | released now =>
    have target : Stage.done.target? = execution.stage.target? := by simp [now, Stage.target?]
    refine ⟨⟨fun clientId => ?_, fun clientId => ?_, targets_after held accounted rfl target,
      entered⟩,
      exclusive_after held exclusive (by simp [Stage.target?])⟩
    · -- One less in flight, and one permit less.
      have counts : (broker.after execution broker.runtime .done).livePermits clientId + _ = _ :=
        livePermits_after held clientId
      have before := accounted.counted clientId
      show Function.update broker.runtime.inFlight _ _ clientId =
        (broker.after execution broker.runtime .done).livePermits clientId
      by_cases own : clientId = execution.clientId
      · subst own
        simp [now, Stage.executes] at counts ⊢
        omega
      · simp [own, Ne.symm own] at counts ⊢
        omega
    · show Function.update broker.runtime.inFlight _ _ clientId ≤ 2
      have bound := accounted.bounded clientId
      by_cases own : clientId = execution.clientId
      · subst own
        simp
        omega
      · simpa [own] using bound

end Broker

end Steps

namespace Broker

variable {broker next : Broker} {event : Event}

/-- No request holds an `ExecutionPermit`. -/
def Idle (broker : Broker) : Prop := ∀ execution ∈ broker.executions.rows, execution.stage.executes = false

instance (broker : Broker) : Decidable broker.Idle :=
  inferInstanceAs (Decidable (∀ execution ∈ broker.executions.rows, _))

theorem idle_iff : broker.Idle ↔ ∀ clientId, broker.livePermits clientId = 0 := by
  constructor
  · intro idle clientId
    refine List.countP_eq_zero.mpr fun execution member => ?_
    simp [idle execution member]
  · intro none execution member
    have absent := List.countP_eq_zero.mp (none execution.clientId) execution member
    simpa using absent

theorem livePermits_stop (clientId : String) : broker.stop.livePermits clientId = broker.livePermits clientId :=
  ((cancel_same broker _).trans (reject_same _ fun _ => true)).livePermits clientId

theorem stop_accounted : broker.stop.Accounted ↔ broker.Idle := by
  rw [idle_iff]
  constructor
  · intro accounted clientId
    rw [← livePermits_stop, ← accounted.counted]
    rfl
  · intro none
    refine ⟨fun clientId => ?_, fun _ => Nat.zero_le 2, fun key => ?_, fun active member => ?_⟩
    · rw [livePermits_stop, none]
      rfl
    · -- A target is held by a request that executes, and there is none.
      constructor
      · intro listed
        cases listed
      · rintro ⟨execution, member, holds⟩
        have idle : broker.stop.Idle := idle_iff.mpr fun clientId => by rw [livePermits_stop, none]
        have stopped := idle execution member
        cases now : execution.stage <;> simp [now, Stage.target?, Stage.executes] at holds stopped
    · cases member

theorem Idle.exclusive (idle : broker.Idle) : Exclusive broker := by
  intro key first one second two holds also
  have stopped := idle first one
  cases now : first.stage <;> simp [now, Stage.target?, Stage.executes] at holds stopped

variable {operation : Operation} {clientId tool : String} {stream : Nat}

variable {requestId : String}

theorem connect_eq_some (taken : broker.connect stream requestId clientId tool operation = some next) :
    ∃ inserted, broker.executions.insert
        ⟨stream, requestId, clientId, tool, operation, false, true, .received⟩ = some inserted ∧
      next = { broker with executions := inserted } := by
  unfold connect at taken
  split at taken
  · obtain ⟨inserted, done, rfl⟩ := Option.map_eq_some_iff.mp taken
    exact ⟨inserted, done, rfl⟩
  · cases taken

theorem connect_entered (entered : Entered broker)
    (taken : broker.connect stream requestId clientId tool operation = some next) : Entered next := by
  obtain ⟨inserted, done, rfl⟩ := connect_eq_some taken
  intro active listed
  obtain ⟨execution, held, rest⟩ := entered active listed
  exact ⟨execution, (Table.mem_insert done).mpr (.inl held), rest⟩

theorem connect_accounted (accounted : Accounted broker) (exclusive : Exclusive broker)
    (taken : broker.connect stream requestId clientId tool operation = some next) :
    Accounted next ∧ Exclusive next := by
  have entered := connect_entered accounted.entries taken
  obtain ⟨inserted, done, rfl⟩ := connect_eq_some taken
  have member : ∀ {execution : Execution}, execution ∈ inserted.rows ↔ _ :=
    Table.mem_insert done
  refine ⟨⟨fun client => ?_, accounted.bounded, fun key => ?_, entered⟩, ?_⟩
  · have counts := Table.count_insert done fun execution =>
      execution.clientId = client && execution.stage.executes
    simp only [Stage.executes, Bool.and_false, Bool.false_eq_true, if_false, Nat.add_zero] at counts
    exact (accounted.counted client).trans counts.symm
  · rw [accounted.targets]
    constructor
    · rintro ⟨execution, held, holds⟩
      exact ⟨execution, member.mpr (.inl held), holds⟩
    · rintro ⟨execution, held, holds⟩
      rcases member.mp held with old | rfl
      · exact ⟨execution, old, holds⟩
      · cases holds
  · -- The new request holds no target.
    intro key first one second two holds also
    rcases member.mp one with old | rfl
    · rcases member.mp two with kept | rfl
      · exact exclusive key first old second kept holds also
      · cases also
    · cases holds

theorem disconnect_same (taken : broker.disconnect stream = some next) : SamePermits broker next := by
  obtain ⟨execution, found, went⟩ := Option.bind_eq_some_iff.mp taken
  split at went
  · cases went
    have held : broker.executions.find? execution.stream = some execution :=
      Table.find?_of_mem (Table.find?_some found).1
    have alike : Execution.holding { execution with cancelled := true, connected := false } = execution.holding := rfl
    have put : (broker.executions.put
        { execution with cancelled := true, connected := false }).rows.map Execution.holding =
          broker.executions.rows.map Execution.holding := Table.map_put held alike
    have marked : SamePermits broker { broker with
        executions := broker.executions.put
          { execution with cancelled := true, connected := false } } := ⟨rfl, rfl, rfl, put⟩
    exact (marked.trans (cancel_same _ _)).trans (reject_same _ _)
  · cases went

theorem same_or (taken : broker.step event = some next) :
    SamePermits broker next ∨ event = .stop ∨
      (∃ stream requestId clientId tool operation, event = .connect stream requestId clientId tool operation) ∨
      ∃ stream action, event = .act stream action := by
  cases event with
  | stop => exact .inr (.inl rfl)
  | connect stream requestId clientId tool operation =>
    exact .inr (.inr (.inl ⟨stream, requestId, clientId, tool, operation, rfl⟩))
  | act stream action => exact .inr (.inr (.inr ⟨stream, action, rfl⟩))
  | start =>
    cases taken
    exact .inl ⟨rfl, rfl, rfl, rfl⟩
  | disconnect stream => exact .inl (disconnect_same taken)
  | decide id decision =>
    cases taken
    exact .inl (decide_same id decision)
  | invalidate clientId =>
    cases taken
    exact .inl (invalidate_same clientId)
  | revoke clientId listed =>
    cases taken
    exact .inl (revoke_same clientId listed)
  | cancelClient clientId =>
    cases taken
    exact .inl (cancel_same broker _)
  | sessionExpired id =>
    cases taken
    exact .inl ⟨rfl, rfl, rfl, rfl⟩

theorem step_entered (entered : Entered broker) (taken : broker.step event = some next) : Entered next := by
  rcases same_or taken with same | rfl | ⟨stream, requestId, clientId, tool, operation, rfl⟩ |
    ⟨stream, action, rfl⟩
  · exact same.entered entered
  · -- A stop leaves no entry.
    cases taken
    intro active member
    cases member
  · exact connect_entered entered taken
  · obtain ⟨-, execution, held, -, changed, stage, advanced, rfl⟩ := act_advanced taken
    exact handled_entered held entered advanced.handled

theorem step_accounted (accounted : Accounted broker) (exclusive : Exclusive broker)
    (idle : event = .stop → broker.Idle) (taken : broker.step event = some next) :
    Accounted next ∧ Exclusive next := by
  rcases same_or taken with same | rfl | ⟨stream, requestId, clientId, tool, operation, rfl⟩ |
    ⟨stream, action, rfl⟩
  · exact ⟨same.accounted accounted, same.exclusive exclusive⟩
  · cases taken
    have stopped := stop_accounted.mpr (idle rfl)
    refine ⟨stopped, Idle.exclusive (idle_iff.mpr fun clientId => ?_)⟩
    rw [livePermits_stop, idle_iff.mp (idle rfl)]
  · exact connect_accounted accounted exclusive taken
  · obtain ⟨-, execution, held, -, changed, stage, advanced, rfl⟩ := act_advanced taken
    exact handled_accounted held accounted exclusive advanced.handled

/-- The states a run was in. -/
def visited (trace : List (Broker × Event)) (broker : Broker) : List Broker := trace.map Prod.fst ++ [broker]

theorem accounted_of_idle {trace : List (Broker × Event)} (run : system.Run trace broker)
    (idle : ∀ entry ∈ trace, entry.2 = .stop → entry.1.Idle) : Accounted broker := by
  refine (run.invariant (fun state event => event = .stop → state.Idle)
    (fun state => Accounted state ∧ Exclusive state) ?_ ?_ idle).1
  · rintro state rfl
    refine ⟨⟨fun _ => rfl, fun _ => Nat.zero_le 2, fun key => ?_, fun active member => ?_⟩, ?_⟩
    · constructor
      · intro listed
        cases listed
      · rintro ⟨execution, member, -⟩
        cases member
    · cases member
    · intro key first member
      cases member
  · exact fun state event next both => step_accounted both.1 both.2

/-- The maps say what the live permits are in every state of exactly the runs that stop no request. -/
theorem permits_accounted {trace : List (Broker × Event)} (run : system.Run trace broker) :
    (∀ state ∈ visited trace broker, Accounted state) ↔ ∀ entry ∈ trace, entry.2 = .stop → entry.1.Idle := by
  constructor
  · intro accounted
    -- The state after each stop is one that the run was in.
    induction run with
    | start begins => simp
    | @snoc trace state next event earlier taken ih =>
      intro entry member
      rcases List.mem_append.mp member with old | last
      · refine ih (fun seen listed => accounted seen ?_) entry old
        rw [visited, List.map_append, List.map_singleton]
        exact List.mem_append.mpr (.inl listed)
      · obtain rfl : entry = (state, event) := by simpa using last
        rintro rfl
        cases taken
        exact stop_accounted.mp (accounted _ (by simp [visited]))
  · intro idle state member
    rcases List.mem_append.mp member with left | last
    · -- A state that the run left was reached by the steps before.
      obtain ⟨entry, listed, rfl⟩ := List.mem_map.mp left
      obtain ⟨before, after, rfl, reached⟩ := run.visited entry listed
      exact accounted_of_idle reached fun earlier early =>
        idle earlier (List.mem_append.mpr (.inl early))
    · obtain rfl : state = broker := by simpa using last
      exact accounted_of_idle run idle

end Broker

namespace Demo

open Broker

def executing (stream : Nat) (requestId : String) : List Event :=
  [.connect stream requestId "client" "cnshell_system_info" .read,
    .act stream (.authenticate true), .act stream .acquire]

/-- A request that executes while the broker is stopped and started again, and drops its permit. -/
def restarted : List Event :=
  .start :: executing 0 "first" ++ [.act 0 .register, .stop, .start] ++ executing 1 "second" ++
    executing 2 "third" ++ [.act 0 (.authorizeRate true), .act 0 .finish, .act 0 .dropRequest,
      .act 0 .dropExecution] ++ executing 3 "fourth"

/-- After that three requests of one client execute, and two are accounted for. -/
theorem permits_miscounted : ¬∀ broker, system.Reachable broker → Accounted broker := by
  have checked : ((System.trail step new restarted).elim false fun reached =>
      decide (reached.2.runtime.inFlight "client" = 2 ∧ reached.2.livePermits "client" = 3)) =
      true := by decide
  intro always
  obtain ⟨reached, goes, checked⟩ := exists_of_checked checked
  have run := System.Run.trail (.start rfl : system.Run [] new) goes
  have counted := (always reached.2 ⟨_, run⟩).counted "client"
  simp only [goes, Option.elim_some, decide_eq_true_eq] at checked
  omega

/-- A request is accounted for to its end, after which the broker is stopped. -/
theorem permits_accounted_ended :
    ∃ trace broker, system.Run trace broker ∧ broker.runtime.running = false ∧
      ∀ state ∈ visited trace broker, Accounted state := by
  let events : List Event :=
    .start :: executing 0 "first" ++ [.act 0 .register, .act 0 (.authorizeRate true),
      .act 0 .finish, .act 0 .dropRequest, .act 0 .dropExecution, .stop]
  have checked : ((System.trail step new events).elim false fun reached =>
      decide (reached.2.runtime.running = false ∧
        ∀ entry ∈ reached.1, entry.2 = .stop → entry.1.Idle)) = true := by decide
  obtain ⟨reached, goes, checked⟩ := exists_of_checked checked
  simp only [decide_eq_true_eq] at checked
  have run := System.Run.trail (.start rfl : system.Run [] new) goes
  exact ⟨_, _, run, checked.1, (permits_accounted run).mpr checked.2⟩

end Demo

end Mcp

end CNShell
