import CNShell.Mcp.Permits

/-! The pending approvals of the MCP broker and the requests that wait for them. -/

namespace CNShell

namespace Mcp

namespace Stage

variable {id : String}

theorem asks_of_awaits {stage : Stage} (awaits : stage.awaits id = true) : stage.asks id = true := by
  cases stage with
  | asking other connectionId policy answer => cases answer <;> simp_all [Stage.awaits, asks]
  | _ => cases awaits

theorem awaits_iff {stage : Stage} :
    stage.awaits id = true ↔ ∃ connectionId policy, stage = .asking id connectionId policy none := by
  cases stage with
  | asking other connectionId policy answer => cases answer <;> simp [awaits]
  | _ => simp [awaits]

variable {decision : ApprovalDecision}

@[simp] theorem asks_hear {stage : Stage} : (stage.hear decision).asks id = stage.asks id := by
  cases stage with
  | asking other connectionId policy answer => cases answer <;> rfl
  | _ => rfl

@[simp] theorem awaits_hear {stage : Stage} : (stage.hear decision).awaits id = false := by
  cases stage with
  | asking other connectionId policy answer => cases answer <;> rfl
  | _ => rfl

end Stage

namespace Broker

/-- The pending approvals are those of the requests that wait. -/
structure Consistent (broker : Broker) : Prop where
  /-- No two requests asked with one id. -/
  alone : ∀ id, ∀ first ∈ broker.executions.rows, ∀ second ∈ broker.executions.rows,
    first.stage.asks id = true → second.stage.asks id = true → first.stream = second.stream
  /-- An approval carries the ids of the request that asked for it. -/
  owned : ∀ pending ∈ broker.runtime.approvals.rows, ∀ execution ∈ broker.executions.rows,
    execution.stage.asks pending.id = true →
      pending.view.requestId = execution.requestId ∧ pending.view.clientId = execution.clientId
  /-- A request without an answer has an approval whose sender was not used. -/
  waited : ∀ id, ∀ execution ∈ broker.executions.rows, execution.stage.awaits id = true →
    ∃ pending ∈ broker.runtime.approvals.rows, pending.id = id ∧ pending.decision = some execution.stream

/-- The same executions, but for flags and for stages that ask for the same. -/
structure Akin (execution next : Execution) : Prop where
  stream : next.stream = execution.stream
  requestId : next.requestId = execution.requestId
  clientId : next.clientId = execution.clientId
  asks : ∀ id, next.stage.asks id = execution.stage.asks id

protected theorem Akin.refl (execution : Execution) : Akin execution execution :=
  ⟨rfl, rfl, rfl, fun _ => rfl⟩

variable {broker next : Broker} {event : Event}

theorem Consistent.of_akin (consistent : Consistent broker)
    (origin : ∀ execution ∈ next.executions.rows, ∃ old ∈ broker.executions.rows,
      Akin old execution ∧ ∀ id, execution.stage.awaits id = true → old.stage.awaits id = true)
    (views : ∀ pending ∈ next.runtime.approvals.rows, ∃ old ∈ broker.runtime.approvals.rows,
      old.id = pending.id ∧ old.view = pending.view)
    (stays : ∀ execution ∈ next.executions.rows, ∀ pending ∈ broker.runtime.approvals.rows,
      execution.stage.awaits pending.id = true → pending.decision = some execution.stream →
        pending ∈ next.runtime.approvals.rows) :
    Consistent next where
  alone id first one second two asks also := by
    obtain ⟨old, held, akin, -⟩ := origin first one
    obtain ⟨other, stored, alike, -⟩ := origin second two
    rw [akin.asks] at asks
    rw [alike.asks] at also
    rw [akin.stream, alike.stream, consistent.alone id old held other stored asks also]
  owned pending listed execution member asks := by
    obtain ⟨approval, known, same, view⟩ := views pending listed
    obtain ⟨old, held, akin, -⟩ := origin execution member
    rw [akin.asks, ← same] at asks
    rw [akin.requestId, akin.clientId, ← view]
    exact consistent.owned approval known old held asks
  waited id execution member awaits := by
    obtain ⟨old, held, akin, awaited⟩ := origin execution member
    obtain ⟨pending, known, rfl, sender⟩ := consistent.waited id old held (awaited id awaits)
    rw [← akin.stream] at sender
    exact ⟨pending, stays execution member pending known awaits sender, rfl, sender⟩

theorem Consistent.of_eq (consistent : Consistent broker)
    (executions : next.executions = broker.executions)
    (approvals : next.runtime.approvals = broker.runtime.approvals) : Consistent next := by
  refine consistent.of_akin (fun execution member => ?_) (fun pending listed => ?_)
    (fun _ _ pending known _ _ => approvals ▸ known)
  · rw [executions] at member
    exact ⟨execution, member, .refl execution, fun _ => id⟩
  · rw [approvals] at listed
    exact ⟨pending, listed, rfl, rfl⟩

theorem mem_cancel {chosen : ActiveRequest → Bool} {execution : Execution}
    (member : execution ∈ (broker.cancel chosen).executions.rows) :
    ∃ old ∈ broker.executions.rows, Akin old execution ∧ execution.stage = old.stage :=
  Table.origin_update (fun old execution => Akin old execution ∧ execution.stage = old.stage)
    (fun old => ⟨.refl old, rfl⟩) (fun _ _ _ => ⟨⟨rfl, rfl, rfl, fun _ => rfl⟩, rfl⟩) member

theorem cancel_consistent (consistent : Consistent broker) (chosen : ActiveRequest → Bool) :
    Consistent (broker.cancel chosen) := by
  refine consistent.of_akin (fun execution member => ?_)
    (fun pending listed => ⟨pending, listed, rfl, rfl⟩) (fun _ _ pending known _ _ => known)
  obtain ⟨old, held, akin, stage⟩ := mem_cancel member
  exact ⟨old, held, akin, fun id awaits => stage ▸ awaits⟩

theorem mem_hearing {executions : Table Execution.stream} {selected : Execution → Bool}
    {decision : ApprovalDecision} {execution : Execution}
    (member : execution ∈ (executions.update selected (hearing decision)).rows) :
    ∃ old ∈ executions.rows, Akin old execution ∧
      ∀ id, execution.stage.awaits id = true → execution = old ∧ selected old = false := by
  obtain ⟨old, held, rfl⟩ := Table.mem_update.mp member
  refine ⟨old, held, ?_⟩
  by_cases chosen : selected old = true
  · rw [if_pos chosen]
    refine ⟨⟨rfl, rfl, rfl, fun _ => Stage.asks_hear⟩, fun id awaits => ?_⟩
    exact absurd awaits (by simp [hearing, Execution.reach])
  · rw [if_neg chosen]
    exact ⟨.refl old, fun _ _ => ⟨rfl, by simpa using chosen⟩⟩

theorem reject_consistent (consistent : Consistent broker) (chosen : PendingApproval → Bool) :
    Consistent (broker.reject chosen) := by
  refine consistent.of_akin (fun execution member => ?_) (fun pending listed => ?_) ?_
  · obtain ⟨old, held, akin, waits⟩ := mem_hearing member
    exact ⟨old, held, akin, fun id awaits => (waits id awaits).1 ▸ awaits⟩
  · exact ⟨pending, (Table.mem_delete.mp listed).1, rfl, rfl⟩
  · intro execution member pending known awaits sender
    obtain ⟨old, held, -, waits⟩ := mem_hearing member
    obtain ⟨rfl, spared⟩ := waits _ awaits
    refine Table.mem_delete.mpr ⟨known, ?_⟩
    -- Were it chosen, the request would have been sent the rejection.
    have all := List.any_eq_false.mp spared pending known
    simpa [awaits, sender] using all

theorem decide_consistent (consistent : Consistent broker) (id decision : String) :
    Consistent (broker.decide id decision).2 := by
  unfold decide
  split
  · exact consistent
  · rename_i asked found
    split
    · exact consistent
    · exact consistent
    · rename_i selected stream _ used
      obtain ⟨stored, keyed⟩ := Table.find?_some found
      refine consistent.of_akin (fun execution member => ?_) (fun pending listed => ?_) ?_
      · obtain ⟨old, held, akin, waits⟩ := mem_hearing member
        exact ⟨old, held, akin, fun other awaits => (waits other awaits).1 ▸ awaits⟩
      · exact Table.origin_update
          (fun old pending => old.id = pending.id ∧ old.view = pending.view)
          (fun _ => ⟨rfl, rfl⟩) (fun _ _ _ => ⟨rfl, rfl⟩) listed
      · intro execution member pending known awaits sender
        obtain ⟨old, held, -, waits⟩ := mem_hearing member
        obtain ⟨rfl, spared⟩ := waits _ awaits
        refine Table.mem_update.mpr ⟨pending, known, if_neg ?_⟩
        -- The sender of the decided approval was used for the request that held its receiver.
        intro decided
        have same : pending.id = id := of_decide_eq_true decided
        obtain rfl := Table.eq_of_key known stored (same.trans keyed.symm)
        rw [used] at sender
        cases sender
        rw [same] at awaits
        simp [awaits] at spared

variable {stream : Nat}

theorem disconnect_consistent (consistent : Consistent broker)
    (taken : broker.disconnect stream = some next) : Consistent next := by
  obtain ⟨execution, found, went⟩ := Option.bind_eq_some_iff.mp taken
  have held := (Table.find?_some found).1
  split at went
  · cases went
    -- The execution is marked first, and asks for what it asked for.
    have marked : Consistent { broker with
        executions := broker.executions.put
          { execution with cancelled := true, connected := false } } := by
      refine consistent.of_akin (fun other member => ?_)
        (fun pending listed => ⟨pending, listed, rfl, rfl⟩) (fun _ _ pending known _ _ => known)
      rcases Table.mem_put.mp member with rfl | ⟨kept, -⟩
      · exact ⟨execution, held, ⟨rfl, rfl, rfl, fun _ => rfl⟩, fun _ => id⟩
      · exact ⟨other, kept, .refl other, fun _ => id⟩
    exact reject_consistent (cancel_consistent marked _) _
  · cases went

theorem connect_consistent {requestId clientId tool : String} {operation : Operation} (consistent : Consistent broker)
    (taken : broker.connect stream requestId clientId tool operation = some next) : Consistent next := by
  obtain ⟨inserted, done, rfl⟩ := connect_eq_some taken
  have asked : ∀ id, ∀ execution ∈ inserted.rows, execution.stage.asks id = true →
      execution ∈ broker.executions.rows := by
    intro id execution member asks
    rcases (Table.mem_insert done).mp member with old | rfl
    · exact old
    · cases asks
  constructor
  · intro id first one second two asks also
    exact consistent.alone id first (asked id first one asks) second (asked id second two also)
      asks also
  · intro pending listed execution member asks
    exact consistent.owned pending listed execution (asked _ execution member asks) asks
  · intro id execution member awaits
    exact consistent.waited id execution
      (asked id execution member (Stage.asks_of_awaits awaits)) awaits

end Broker

section Steps

variable {runtime changed : McpRuntime} {execution : Execution} {action : Action} {stage : Stage}

/-- What a step of a request does to the approvals. -/
inductive Waited (runtime : McpRuntime) (execution : Execution) :
    Action → McpRuntime → Stage → Prop
  /-- The approvals stay, and the request waits for nothing new. -/
  | same {action : Action} {changed : McpRuntime} {stage : Stage}
      (approvals : changed.approvals = runtime.approvals)
      (asks : ∀ id, stage.asks id = execution.stage.asks id)
      (awaits : ∀ id, stage.awaits id = true → execution.stage.awaits id = true) :
      Waited runtime execution action changed stage
  /-- It adds an approval and waits for it. -/
  | asked {id connectionId : String} {policy : ApprovalPolicy}
      {inserted : Table PendingApproval.id} (stage : execution.stage = .unruled connectionId policy)
      (fresh : runtime.approvals.insert (pendingApproval execution id connectionId policy) = some inserted) :
      Waited runtime execution (.ask id) { runtime with approvals := inserted }
        (.asking id connectionId policy none)
  /-- It removes its approval and waits no longer. -/
  | resumed {id connectionId : String} {policy : ApprovalPolicy} {decision : ApprovalDecision}
      (stage : execution.stage = .asking id connectionId policy (some decision)) :
      Waited runtime execution .resume
        { runtime with approvals := runtime.approvals.delete fun pending => pending.id = id }
        (.answered connectionId policy decision)

@[simp] theorem remember_approvals (connectionId : String) (policy : ApprovalPolicy)
    (decision : ApprovalDecision) :
    (runtime.remember execution connectionId policy decision).approvals = runtime.approvals := by
  unfold McpRuntime.remember
  split
  · split <;> rfl
  · rfl

theorem mayReturn_asks (returns : stage.mayReturn = true) (id : String) : stage.asks id = false := by
  cases stage <;> simp_all [Stage.mayReturn, Stage.asks]

theorem Advanced.waited (taken : Advanced runtime execution action changed stage) :
    Waited runtime execution action changed stage := by
  -- Most steps lead from a stage that waits for nothing to another one.
  have quiet : ∀ {action : Action} {changed : McpRuntime} {after : Stage},
      (∀ id, execution.stage.asks id = false) → (∀ id, after.asks id = false) →
      changed.approvals = runtime.approvals → Waited runtime execution action changed after := by
    intro action changed after before silent approvals
    refine .same approvals (fun id => (silent id).trans (before id).symm) fun id awaits => ?_
    exact absurd (Stage.asks_of_awaits awaits) (by simp [silent id])
  cases taken with
  | asked now fresh => exact .asked now fresh
  | resumed now => exact .resumed now
  | expired now =>
    exact .same rfl (fun id => by rw [now]; rfl) (fun id awaits => by cases awaits)
  | returned _ returns => exact quiet (mayReturn_asks returns) (fun _ => rfl) rfl
  | remembered now =>
    refine quiet (fun id => by rw [now]; rfl) (fun id => ?_) (remember_approvals _ _ _)
    split <;> rfl
  | authenticated now | refused now | acquired now | busy now | registered now | duplicate now
    | rated now | limited now | confirmed now | unconfirmed now | closed now | unavailable now
    | written now | allowed now | unruled now | persisted now | crowded now | confirm now
    | opened now | full now | cancelled now | uncancelled now | locked now | occupied now
    | unlocked now | unregistered now | released now =>
    exact quiet (fun id => by rw [now]; rfl) (fun _ => rfl) rfl

namespace Broker

variable {broker : Broker}

/-- A step of a request keeps the approvals consistent. -/
theorem waited_consistent (held : execution ∈ broker.executions.rows)
    (consistent : Consistent broker) (fresh : broker.redraws action = false)
    (waited : Waited broker.runtime execution action changed stage) :
    Consistent (broker.after execution changed stage) := by
  cases waited with
  | same approvals asks awaits =>
    refine consistent.of_akin (fun other member => ?_)
      (fun pending listed => ⟨pending, approvals ▸ listed, rfl, rfl⟩)
      (fun _ _ pending known _ _ => by rwa [← approvals] at known)
    rcases mem_after.mp member with rfl | ⟨kept, -⟩
    · exact ⟨execution, held, ⟨rfl, rfl, rfl, asks⟩, awaits⟩
    · exact ⟨other, kept, .refl other, fun _ => id⟩
  | @asked id connectionId policy inserted now done =>
    -- No request that waits has the new id, and no approval had it.
    have unused : ∀ other ∈ broker.executions.rows, other.stage.asks id = false := by
      simpa [redraws] using fresh
    have approvals : ∀ {pending : PendingApproval}, pending ∈ inserted.rows ↔ _ :=
      Table.mem_insert done
    have only : ∀ {sought : String}, (Stage.asking id connectionId policy none).asks sought = true →
        sought = id := fun asks => (of_decide_eq_true asks).symm
    constructor
    · intro sought first one second two asks also
      rcases mem_after.mp one with rfl | ⟨kept, -⟩ <;> rcases mem_after.mp two with rfl | ⟨stays, -⟩
      · rfl
      · obtain rfl := only asks
        simp [unused second stays] at also
      · obtain rfl := only also
        simp [unused first kept] at asks
      · exact consistent.alone sought first kept second stays asks also
    · intro pending listed other member asks
      rcases approvals.mp listed with old | rfl
      · rcases mem_after.mp member with rfl | ⟨kept, -⟩
        · exact absurd (only asks) ((Table.insert_eq_some.mp done).1 pending old)
        · exact consistent.owned pending old other kept asks
      · rcases mem_after.mp member with rfl | ⟨kept, -⟩
        · exact ⟨rfl, rfl⟩
        · exact absurd asks (by
            show ¬other.stage.asks id = true
            simp [unused other kept])
    · intro sought other member awaits
      rcases mem_after.mp member with rfl | ⟨kept, -⟩
      · obtain rfl := only (Stage.asks_of_awaits awaits)
        exact ⟨_, approvals.mpr (.inr rfl), rfl, rfl⟩
      · obtain ⟨pending, known, rest⟩ := consistent.waited sought other kept awaits
        exact ⟨pending, approvals.mpr (.inl known), rest⟩
  | @resumed id connectionId policy decision now =>
    have asked : execution.stage.asks id = true := by simp [now, Stage.asks]
    have others : ∀ sought, ∀ other ∈ (broker.after execution
        { broker.runtime with
          approvals := broker.runtime.approvals.delete fun pending => pending.id = id }
        (.answered connectionId policy decision)).executions.rows,
        other.stage.asks sought = true → other ∈ broker.executions.rows ∧ other.stream ≠ execution.stream := by
      intro sought other member asks
      rcases mem_after.mp member with rfl | kept
      · cases asks
      · exact kept
    constructor
    · intro sought first one second two asks also
      exact consistent.alone sought first (others sought first one asks).1 second
        (others sought second two also).1 asks also
    · intro pending listed other member asks
      exact consistent.owned pending (Table.mem_delete.mp listed).1 other
        (others _ other member asks).1 asks
    · intro sought other member awaits
      obtain ⟨kept, differs⟩ := others sought other member (Stage.asks_of_awaits awaits)
      obtain ⟨pending, known, rfl, sender⟩ := consistent.waited sought other kept awaits
      refine ⟨pending, Table.mem_delete.mpr ⟨known, ?_⟩, rfl, sender⟩
      -- An approval of another request has another id.
      refine decide_eq_false fun same => differs ?_
      exact consistent.alone id other kept execution held
        (same ▸ Stage.asks_of_awaits awaits) asked

end Broker

end Steps

namespace Broker

variable {broker next : Broker} {event : Event}

theorem step_consistent (consistent : Consistent broker) (taken : broker.step event = some next) :
    Consistent next := by
  cases event with
  | start =>
    cases taken
    exact consistent.of_eq rfl rfl
  | stop =>
    cases taken
    have rejected := reject_consistent (cancel_consistent consistent fun _ => true) fun _ => true
    refine rejected.of_akin (fun execution member => ⟨execution, member, .refl _, fun _ => id⟩)
      (fun pending listed => by cases listed) (fun _ _ pending known _ _ => ?_)
    -- Every approval was rejected before the runtime was cleared.
    exact absurd (Table.mem_delete.mp known).2 (by simp)
  | connect => exact connect_consistent consistent taken
  | act stream action =>
    obtain ⟨fresh, execution, held, -, changed, stage, advanced, rfl⟩ := act_advanced taken
    exact waited_consistent held consistent fresh advanced.waited
  | disconnect stream => exact disconnect_consistent consistent taken
  | decide id decision =>
    cases taken
    exact decide_consistent consistent id decision
  | invalidate clientId =>
    cases taken
    have removed : Consistent (broker.removeSessions fun session => session.clientId = clientId) :=
      consistent.of_eq rfl rfl
    exact (cancel_consistent (reject_consistent removed _) _).of_eq rfl rfl
  | revoke clientId listed =>
    cases taken
    have removed : Consistent (broker.removeSessions fun session =>
        session.clientId = clientId && listed.contains session.id) := consistent.of_eq rfl rfl
    exact (reject_consistent removed _).of_eq rfl rfl
  | cancelClient clientId =>
    cases taken
    exact cancel_consistent consistent _
  | sessionExpired id =>
    cases taken
    exact consistent.of_eq rfl rfl

theorem new_consistent : Consistent new := by
  constructor
  · intro id first member
    cases member
  · intro pending listed
    cases listed
  · intro id execution member
    cases member

theorem consistent_of_reachable (reached : system.Reachable broker) : Consistent broker := by
  refine reached.invariant Consistent ?_ fun _ _ _ => step_consistent
  rintro state rfl
  exact new_consistent

end Broker

end Mcp

end CNShell
