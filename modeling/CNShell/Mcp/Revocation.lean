import CNShell.Mcp.Approvals
import Mathlib.Data.Fintype.EquivFin

/-! What is left of a client's authorizations after the MCP broker invalidated them. -/

namespace CNShell

namespace Mcp

def Operation.opens : Operation → Bool
  | openSession _ => true
  | _ => false

/-- Whether an answer is one on which the broker keeps something for the client. -/
def Operation.keeps (operation : Operation) (policy : ApprovalPolicy) (decision : ApprovalDecision) : Bool :=
  if operation.opens = true then decision.approved
  else decision = .session && policy.canAllowSession && policy.targetKey.isSome

/--
Whether a request goes on to a rule, a confirmed connection or a session without being asked again.

It was given an answer on which it keeps one of them, or it saw its connection as confirmed.
-/
def Execution.armed (execution : Execution) : Bool :=
  match execution.stage with
  | .asking _ _ policy (some decision) => execution.operation.keeps policy decision
  | .answered _ policy decision => execution.operation.keeps policy decision
  | .approved _ => execution.operation.opens
  | .opening _ => true
  | _ => false

/-- A request to open a session asks without a rule that could answer for the user. -/
def Execution.Plain (execution : Execution) : Prop :=
  ∀ sought connectionId policy, execution.operation = .openSession sought →
    execution.stage = .requesting connectionId policy ∨ execution.stage = .unruled connectionId policy → policy = {}

namespace Broker

variable {broker next : Broker} {event : Event} {clientId : String}

/-- The broker keeps a rule, a confirmed connection or a session of the client. -/
def Authorized (broker : Broker) (clientId : String) : Prop :=
  (∃ key ∈ broker.runtime.sessionRules, key.clientId = clientId) ∨
    (∃ confirmed ∈ broker.runtime.confirmedConnections, confirmed.1 = clientId) ∨
      ∃ session ∈ broker.runtime.sessions.rows, session.clientId = clientId

def Approves (broker : Broker) (clientId : String) : Event → Prop
  | .decide id decision => ∃ pending ∈ broker.runtime.approvals.rows, pending.id = id ∧
      pending.view.clientId = clientId ∧ ∃ selected, select pending decision = some selected ∧ selected ≠ .reject
  | _ => False

/-- No request of the client is armed. -/
def Unarmed (broker : Broker) (clientId : String) : Prop :=
  ∀ execution ∈ broker.executions.rows, execution.clientId = clientId → execution.armed = false

section Executions

variable {holds : Execution → Prop}

theorem cancel_all (silent : ∀ execution, holds execution → holds (cancelling.apply execution))
    (all : ∀ execution ∈ broker.executions.rows, holds execution)
    (chosen : ActiveRequest → Bool) :
    ∀ execution ∈ (broker.cancel chosen).executions.rows, holds execution := by
  intro execution member
  obtain ⟨old, held, kept⟩ := Table.origin_update (fun old new => holds old → holds new)
    (fun _ => id) (fun old _ _ => silent old) member
  exact kept (all old held)

theorem reject_all
    (silent : ∀ execution, holds execution → holds ((hearing .reject).apply execution))
    (all : ∀ execution ∈ broker.executions.rows, holds execution)
    (chosen : PendingApproval → Bool) :
    ∀ execution ∈ (broker.reject chosen).executions.rows, holds execution := by
  intro execution member
  obtain ⟨old, held, kept⟩ := Table.origin_update (fun old new => holds old → holds new)
    (fun _ => id) (fun old _ _ => silent old) member
  exact kept (all old held)

theorem disconnect_all {stream : Nat}
    (marks : ∀ execution, holds execution → holds { execution with cancelled := true, connected := false })
    (flags : ∀ execution, holds execution → holds (cancelling.apply execution))
    (rejects : ∀ execution, holds execution → holds ((hearing .reject).apply execution))
    (all : ∀ execution ∈ broker.executions.rows, holds execution)
    (taken : broker.disconnect stream = some next) :
    ∀ execution ∈ next.executions.rows, holds execution := by
  obtain ⟨own, found, went⟩ := Option.bind_eq_some_iff.mp taken
  split at went
  · cases went
    have marked : ∀ execution ∈ (broker.executions.put
        { own with cancelled := true, connected := false }).rows, holds execution := by
      intro execution member
      rcases Table.mem_put.mp member with rfl | ⟨kept, -⟩
      · exact marks own (all own (Table.find?_some found).1)
      · exact all execution kept
    exact reject_all rejects (cancel_all flags marked _) _
  · cases went

end Executions

@[simp] theorem keeps_reject (operation : Operation) (policy : ApprovalPolicy) :
    operation.keeps policy .reject = false := by
  unfold Operation.keeps
  split <;> rfl

theorem armed_reject (execution : Execution) : ((hearing .reject).apply execution).armed = execution.armed := by
  obtain ⟨stream, requestId, clientId, tool, operation, cancelled, connected, stage⟩ := execution
  cases stage with
  | asking id connectionId policy answer =>
    cases answer with
    | none => exact keeps_reject operation policy
    | some decision => rfl
  | _ => rfl

theorem plain_hear {execution : Execution} (plain : execution.Plain) (decision : ApprovalDecision) :
    ((hearing decision).apply execution).Plain := by
  intro sought connectionId policy opens stage
  have asks : execution.stage = .requesting connectionId policy ∨ execution.stage = .unruled connectionId policy := by
    simp only [hearing, Execution.reach] at stage
    cases now : execution.stage with
    | asking id connection policy answer => cases answer <;> simp [now, Stage.hear] at stage
    | _ => simpa [now, Stage.hear] using stage
  exact plain sought connectionId policy opens asks

section Steps

variable {runtime changed : McpRuntime} {execution : Execution} {action : Action} {stage : Stage}

theorem plain_reach (plain : execution.Plain)
    (taken : Advanced runtime execution action changed stage) : (execution.reach stage).Plain := by
  intro sought connectionId policy opens asks
  have none : ∀ {after : Stage}, stage = after → (∀ connectionId policy,
      after ≠ .requesting connectionId policy ∧ after ≠ .unruled connectionId policy) → policy = {} := by
    rintro after rfl silent
    rcases asks with same | same
    · exact absurd same (silent connectionId policy).1
    · exact absurd same (silent connectionId policy).2
  cases taken with
  | unconfirmed now =>
    rcases asks with same | same <;> cases same
    rfl
  | written now writes =>
    have opened : execution.operation = .openSession sought := opens
    rw [writes] at opened
    cases opened
  | unruled now =>
    rcases asks with same | same <;> cases same
    exact plain sought connectionId policy opens (.inl now)
  | remembered now =>
    rcases asks with same | same <;> simp [Execution.reach] at same <;> split at same <;> cases same
  | _ => exact none rfl (by simp)

theorem allows_eq_false (revoked : ¬Authorized broker execution.clientId) (connectionId : String)
    (policy : ApprovalPolicy) :
    broker.runtime.allows execution connectionId policy = false := by
  unfold McpRuntime.allows ruleKey
  cases policy.targetKey with
  | none => simp
  | some target =>
    have absent : (⟨execution.clientId, connectionId, execution.tool, target⟩ : ApprovalRuleKey) ∉
        broker.runtime.sessionRules := fun known => revoked (.inl ⟨_, known, rfl⟩)
    simp [absent]

theorem mem_remember {connectionId : String} {policy : ApprovalPolicy}
    {decision : ApprovalDecision} {key : ApprovalRuleKey}
    (member : key ∈ (runtime.remember execution connectionId policy decision).sessionRules) :
    key ∈ runtime.sessionRules ∨ key.clientId = execution.clientId ∧ decision = .session ∧
      policy.canAllowSession = true ∧ policy.targetKey.isSome = true := by
  unfold McpRuntime.remember ruleKey at member
  split at member
  · rename_i rule same
    obtain ⟨target, named, rfl⟩ := Option.map_eq_some_iff.mp same
    split at member
    · rename_i allowed
      rcases Finset.mem_insert.mp member with rfl | old
      · exact .inr ⟨rfl, rfl, allowed, by simp [named]⟩
      · exact .inl old
    · exact .inl member
  · exact .inl member

theorem authorized_after (taken : Advanced broker.runtime execution action changed stage)
    (authorized : Authorized (broker.after execution changed stage) clientId) :
    Authorized broker clientId ∨ execution.clientId = clientId ∧ execution.armed = true := by
  cases taken with
  | @remembered connectionId policy decision now =>
    have others : (broker.runtime.remember execution connectionId policy
        decision).confirmedConnections = broker.runtime.confirmedConnections ∧
        (broker.runtime.remember execution connectionId policy decision).sessions = broker.runtime.sessions := by
      unfold McpRuntime.remember
      split
      · split <;> simp
      · simp
    rcases authorized with ⟨key, member, own⟩ | ⟨confirmed, member, own⟩ | ⟨session, member, own⟩
    · rcases mem_remember member with old | ⟨same, rfl, allowed, target⟩
      · exact .inl (.inl ⟨key, old, own⟩)
      · refine .inr ⟨same.symm.trans own, ?_⟩
        simp only [Execution.armed, now, Operation.keeps]
        split
        · rfl
        · simp [allowed, target]
    · exact .inl (.inr (.inl ⟨confirmed, others.1 ▸ member, own⟩))
    · exact .inl (.inr (.inr ⟨session, others.2 ▸ member, own⟩))
  | @confirm connectionId sought now opens =>
    rcases authorized with rule | ⟨confirmed, member, own⟩ | session
    · exact .inl (.inl rule)
    · rcases Finset.mem_insert.mp member with rfl | old
      · exact .inr ⟨own, by simp [Execution.armed, now, opens, Operation.opens]⟩
      · exact .inl (.inr (.inl ⟨confirmed, old, own⟩))
    · exact .inl (.inr (.inr session))
  | opened now fresh =>
    rcases authorized with rule | confirmed | ⟨session, member, own⟩
    · exact .inl (.inl rule)
    · exact .inl (.inr (.inl confirmed))
    · rcases (Table.mem_insert fresh).mp member with old | rfl
      · exact .inl (.inr (.inr ⟨session, old, own⟩))
      · exact .inr ⟨own, by simp [Execution.armed, now]⟩
  | closed =>
    rcases authorized with rule | confirmed | ⟨session, member, own⟩
    · exact .inl (.inl rule)
    · exact .inl (.inr (.inl confirmed))
    · exact .inl (.inr (.inr ⟨session, (Table.mem_delete.mp member).1, own⟩))
  | _ => exact .inl authorized

theorem armed_reach (plain : execution.Plain)
    (taken : Advanced broker.runtime execution action changed stage)
    (armed : (execution.reach stage).armed = true) :
    Authorized broker execution.clientId ∨ execution.armed = true := by
  cases taken with
  | @confirmed connectionId now opens known =>
    exact .inl (.inr (.inl ⟨_, known, rfl⟩))
  | @allowed connectionId policy now rule =>
    by_cases authorized : Authorized broker execution.clientId
    · exact .inl authorized
    · exact absurd rule (by simp [allows_eq_false authorized])
  | @persisted connectionId policy now command rule =>
    -- A request to open a session has no command to save.
    have opens : execution.operation.opens = true := armed
    cases operates : execution.operation with
    | openSession sought =>
      rw [plain sought connectionId policy operates (.inr now)] at command
      cases command
    | read | closeSession | write => simp [operates, Operation.opens] at opens
  | resumed now =>
    right
    simpa [Execution.armed, Execution.reach, now] using armed
  | @remembered connectionId policy decision now =>
    right
    cases given : decision.approved with
    | true =>
      have opens : execution.operation.opens = true := by
        simpa [Execution.armed, Execution.reach, given] using armed
      simp [Execution.armed, now, Operation.keeps, opens, given]
    | false => simp [Execution.armed, Execution.reach, given] at armed
  | @confirm connectionId sought now opens =>
    right
    simp [Execution.armed, now, opens, Operation.opens]
  | expired now =>
    have kept : execution.operation.keeps _ .reject = true := armed
    simp at kept
  | _ => cases armed

end Steps

/-- Every step lets the requests ask as they should. -/
theorem step_plain (plain : ∀ execution ∈ broker.executions.rows, execution.Plain)
    (taken : broker.step event = some next) :
    ∀ execution ∈ next.executions.rows, execution.Plain := by
  have cancels := fun (broker : Broker) (all : ∀ execution ∈ broker.executions.rows, _) =>
    cancel_all (fun (execution : Execution) (plain : execution.Plain) => plain) all
  have rejects := fun (broker : Broker) (all : ∀ execution ∈ broker.executions.rows, _) =>
    reject_all (fun (execution : Execution) (plain : execution.Plain) => plain_hear plain .reject) all
  cases event with
  | start | sessionExpired =>
    cases taken
    exact plain
  | stop =>
    cases taken
    exact rejects _ (cancels _ plain _) _
  | connect =>
    obtain ⟨inserted, done, rfl⟩ := connect_eq_some taken
    intro execution member
    rcases (Table.mem_insert done).mp member with old | rfl
    · exact plain execution old
    · rintro sought connectionId policy - (same | same) <;> cases same
  | act stream action =>
    obtain ⟨-, execution, held, -, changed, stage, advanced, rfl⟩ := act_advanced taken
    intro other member
    rcases mem_after.mp member with rfl | ⟨kept, -⟩
    · exact plain_reach (plain execution held) advanced
    · exact plain other kept
  | disconnect =>
    exact disconnect_all (fun _ plain => plain) (fun _ plain => plain)
      (fun _ plain => plain_hear plain .reject) plain taken
  | decide id decision =>
    cases taken
    show ∀ execution ∈ (broker.decide id decision).2.executions.rows, _
    unfold decide
    split
    · exact plain
    · split
      · exact plain
      · exact plain
      · rename_i selected _ _ _
        intro execution member
        obtain ⟨old, held, kept⟩ := Table.origin_update
          (fun old new : Execution => old.Plain → new.Plain) (fun _ plain => plain)
          (fun _ _ _ plain => plain_hear plain selected) member
        exact kept (plain old held)
  | invalidate clientId =>
    cases taken
    exact cancels _ (rejects (broker.removeSessions _) plain _) _
  | revoke clientId listed =>
    cases taken
    exact rejects (broker.removeSessions _) plain _
  | cancelClient clientId =>
    cases taken
    exact cancels _ plain _

theorem plain_of_reachable (reached : system.Reachable broker) :
    ∀ execution ∈ broker.executions.rows, execution.Plain := by
  refine reached.invariant (fun broker => ∀ execution ∈ broker.executions.rows, execution.Plain)
    ?_ fun _ _ _ => step_plain
  rintro state rfl execution member
  cases member

theorem cancel_unarmed (unarmed : Unarmed broker clientId) (chosen : ActiveRequest → Bool) :
    Unarmed (broker.cancel chosen) clientId :=
  cancel_all (fun _ unarmed => unarmed) unarmed chosen

theorem reject_unarmed (unarmed : Unarmed broker clientId) (chosen : PendingApproval → Bool) :
    Unarmed (broker.reject chosen) clientId :=
  reject_all (fun execution unarmed own => (armed_reject execution).trans (unarmed own)) unarmed chosen

theorem decide_unarmed {id decision : String} (consistent : Consistent broker)
    (unarmed : Unarmed broker clientId)
    (refused : ¬Approves broker clientId (.decide id decision)) :
    Unarmed (broker.decide id decision).2 clientId := by
  unfold decide
  split
  · exact unarmed
  · rename_i pending found
    obtain ⟨known, keyed⟩ := Table.find?_some found
    split
    · exact unarmed
    · exact unarmed
    · rename_i selected stream word used
      intro execution member own
      obtain ⟨old, held, rfl⟩ := Table.mem_update.mp member
      split at own
      · rename_i waits
        rw [if_pos waits]
        -- The request asked for the approval, so what the user answered is a rejection.
        have asks : old.stage.asks pending.id = true := by
          simp only [Bool.and_eq_true] at waits
          exact keyed ▸ Stage.asks_of_awaits waits.2
        have client := (consistent.owned pending known old held asks).2
        obtain rfl : selected = .reject := by
          by_contra given
          exact refused ⟨pending, known, keyed, client.trans own, selected, word, given⟩
        exact (armed_reject old).trans (unarmed old held own)
      · rename_i waits
        rw [if_neg waits]
        exact unarmed old held own

/-- The client has nothing, and no request of it is about to get anything. -/
structure Revoked (clientId : String) (broker : Broker) : Prop where
  consistent : Consistent broker
  plain : ∀ execution ∈ broker.executions.rows, execution.Plain
  nothing : ¬Authorized broker clientId
  unarmed : Unarmed broker clientId

theorem Authorized.mono {other : Broker} (authorized : Authorized other clientId)
    (rules : other.runtime.sessionRules ⊆ broker.runtime.sessionRules)
    (confirmed : other.runtime.confirmedConnections ⊆ broker.runtime.confirmedConnections)
    (sessions : ∀ session ∈ other.runtime.sessions.rows,
      session ∈ broker.runtime.sessions.rows) : Authorized broker clientId := by
  rcases authorized with ⟨key, member, own⟩ | ⟨pair, member, own⟩ | ⟨session, member, own⟩
  · exact .inl ⟨key, rules member, own⟩
  · exact .inr (.inl ⟨pair, confirmed member, own⟩)
  · exact .inr (.inr ⟨session, sessions session member, own⟩)

/-- Only a new approval of the user ends a revocation. -/
theorem step_revoked (revoked : Revoked clientId broker)
    (refused : ¬Approves broker clientId event) (taken : broker.step event = some next) :
    Revoked clientId next := by
  refine ⟨step_consistent revoked.consistent taken, step_plain revoked.plain taken, ?_, ?_⟩
  · intro authorized
    refine revoked.nothing ?_
    cases event with
    | start | cancelClient =>
      cases taken
      exact authorized
    | stop =>
      cases taken
      exact authorized.mono (fun _ listed => by cases listed) (fun _ listed => by cases listed)
        (fun _ listed => by cases listed)
    | connect =>
      obtain ⟨inserted, done, rfl⟩ := connect_eq_some taken
      exact authorized
    | act stream action =>
      obtain ⟨-, execution, held, -, changed, stage, advanced, rfl⟩ := act_advanced taken
      rcases authorized_after advanced authorized with old | ⟨own, armed⟩
      · exact old
      · exact absurd armed (by simp [revoked.unarmed execution held own])
    | disconnect stream =>
      obtain ⟨execution, found, went⟩ := Option.bind_eq_some_iff.mp taken
      split at went
      · cases went
        exact authorized
      · cases went
    | decide id decision =>
      cases taken
      have same : (broker.decide id decision).2.runtime.sessionRules = broker.runtime.sessionRules ∧
          (broker.decide id decision).2.runtime.confirmedConnections = broker.runtime.confirmedConnections ∧
          (broker.decide id decision).2.runtime.sessions = broker.runtime.sessions := by
        unfold decide
        split
        · exact ⟨rfl, rfl, rfl⟩
        · split <;> exact ⟨rfl, rfl, rfl⟩
      exact authorized.mono same.1.subset same.2.1.subset fun _ listed => same.2.2 ▸ listed
    | invalidate other =>
      cases taken
      exact authorized.mono (Finset.filter_subset _ _) (Finset.filter_subset _ _)
        fun _ listed => (Table.mem_delete.mp listed).1
    | revoke other listed =>
      cases taken
      exact authorized.mono (Finset.filter_subset _ _) (Finset.filter_subset _ _)
        fun _ listed => (Table.mem_delete.mp listed).1
    | sessionExpired id =>
      cases taken
      exact authorized.mono subset_rfl subset_rfl fun _ listed => (Table.mem_delete.mp listed).1
  · have unarmed := revoked.unarmed
    cases event with
    | start | sessionExpired =>
      cases taken
      exact unarmed
    | stop =>
      cases taken
      exact reject_unarmed (cancel_unarmed unarmed fun _ => true) fun _ => true
    | connect =>
      obtain ⟨inserted, done, rfl⟩ := connect_eq_some taken
      intro execution member own
      rcases (Table.mem_insert done).mp member with old | rfl
      · exact unarmed execution old own
      · rfl
    | act stream action =>
      obtain ⟨-, execution, held, -, changed, stage, advanced, rfl⟩ := act_advanced taken
      intro other member own
      rcases mem_after.mp member with rfl | ⟨kept, -⟩
      · refine Bool.eq_false_iff.mpr fun armed => ?_
        obtain rfl : execution.clientId = clientId := own
        rcases armed_reach (revoked.plain execution held) advanced armed with old | before
        · exact revoked.nothing old
        · exact absurd before (by simp [unarmed execution held rfl])
      · exact unarmed other kept own
    | disconnect =>
      exact disconnect_all (fun _ unarmed => unarmed) (fun _ unarmed => unarmed)
        (fun execution unarmed own => (armed_reject execution).trans (unarmed own)) unarmed taken
    | decide id decision =>
      cases taken
      exact decide_unarmed revoked.consistent unarmed refused
    | invalidate other =>
      cases taken
      have removed : Unarmed (broker.removeSessions fun session => session.clientId = other)
        clientId := unarmed
      exact cancel_unarmed (reject_unarmed removed _) _
    | revoke other listed =>
      cases taken
      have removed : Unarmed (broker.removeSessions fun session =>
        session.clientId = other && listed.contains session.id) clientId := unarmed
      exact reject_unarmed removed _
    | cancelClient other =>
      cases taken
      exact cancel_unarmed unarmed _

theorem invalidate_nothing : ¬Authorized (broker.invalidateClientAuthorizations clientId) clientId := by
  rintro (⟨key, member, own⟩ | ⟨pair, member, own⟩ | ⟨session, member, own⟩)
  · exact (Finset.mem_filter.mp member).2 own
  · exact (Finset.mem_filter.mp member).2 own
  · exact absurd (Table.mem_delete.mp member).2 (by simp [own])

/-- The client stays without authorizations, in every run from here without a new approval. -/
def StaysRevoked (broker : Broker) (clientId : String) : Prop :=
  ∀ further final, (system.onward broker).Run further final →
    (∀ entry ∈ further, ¬Approves entry.1 clientId entry.2) → ¬Authorized final clientId

theorem staysRevoked_of_unarmed (reached : system.Reachable broker)
    (unarmed : Unarmed broker clientId) :
    StaysRevoked (broker.invalidateClientAuthorizations clientId) clientId := by
  intro further final run refused
  have taken : system.step broker (.invalidate clientId)
    (broker.invalidateClientAuthorizations clientId) := rfl
  have after := reached.step taken
  have removed : Unarmed (broker.removeSessions fun session => session.clientId = clientId)
    clientId := unarmed
  have begins : Revoked clientId (broker.invalidateClientAuthorizations clientId) :=
    ⟨consistent_of_reachable after, plain_of_reachable after, invalidate_nothing,
      cancel_unarmed (reject_unarmed removed _) _⟩
  refine (run.invariant (fun state event => ¬Approves state clientId event) (Revoked clientId)
    ?_ (fun state event next => step_revoked) refused).nothing
  rintro state rfl
  exact begins

section Escape

variable {start : Broker} {further : List (Broker × Event)} {execution : Execution}

theorem refused_snoc {stream : Nat} {action : Action}
    (refused : ∀ entry ∈ further, ¬Approves entry.1 clientId entry.2) :
    ∀ entry ∈ further ++ [(broker, Event.act stream action)], ¬Approves entry.1 clientId entry.2 := by
  intro entry member approves
  rcases List.mem_append.mp member with old | last
  · exact refused entry old approves
  · obtain rfl : entry = (broker, .act stream action) := by simpa using last
    exact approves

theorem step_act {action : Action} {changed : McpRuntime} {stage : Stage}
    (held : execution ∈ broker.executions.rows) (fresh : broker.redraws action = false)
    (goes : advance broker.runtime execution action = some (changed, stage)) :
    broker.step (.act execution.stream action) = some (broker.after execution changed stage) := by
  show broker.act execution.stream action = _
  rw [act, if_neg (by simp [fresh]), Table.find?_of_mem held, Option.bind_some, goes]
  rfl

theorem reach_mem {changed : McpRuntime} {stage : Stage} :
    execution.reach stage ∈ (broker.after execution changed stage).executions.rows :=
  mem_after.mpr (.inl rfl)

variable {connectionId : String}

theorem escape_approved (run : (system.onward start).Run further broker)
    (refused : ∀ entry ∈ further, ¬Approves entry.1 execution.clientId entry.2)
    (held : execution ∈ broker.executions.rows) (now : execution.stage = .approved connectionId)
    (opens : execution.operation.opens = true) : ¬StaysRevoked start execution.clientId := by
  intro stays
  have goes : advance broker.runtime execution .confirm = some ({ broker.runtime with
      confirmedConnections :=
        insert (execution.clientId, connectionId) broker.runtime.confirmedConnections },
      .opening connectionId) := by
    cases operates : execution.operation <;> simp [operates, Operation.opens] at opens
    simp [advance, now, operates]
  refine stays _ _ (run.snoc (step_act held rfl goes)) (refused_snoc refused) (.inr (.inl ?_))
  exact ⟨_, Finset.mem_insert_self _ _, rfl⟩

variable {decision : ApprovalDecision} {policy : ApprovalPolicy}

theorem escape_answered (run : (system.onward start).Run further broker)
    (refused : ∀ entry ∈ further, ¬Approves entry.1 execution.clientId entry.2)
    (held : execution ∈ broker.executions.rows) (now : execution.stage = .answered connectionId policy decision)
    (keeps : execution.operation.keeps policy decision = true) : ¬StaysRevoked start execution.clientId := by
  have goes : advance broker.runtime execution .remember =
      some (broker.runtime.remember execution connectionId policy decision,
        if decision.approved = true then .approved connectionId else .leaving) := by
    simp [advance, now]
  have taken := step_act held rfl goes
  unfold Operation.keeps at keeps
  split at keeps
  · -- The session was approved, and its connection is confirmed next.
    rename_i opens
    rw [if_pos keeps] at taken
    show ¬StaysRevoked start (execution.reach (.approved connectionId)).clientId
    exact escape_approved (run.snoc taken) (refused_snoc refused) reach_mem rfl opens
  · -- The run was allowed, and the rule is kept at once.
    simp only [Bool.and_eq_true, decide_eq_true_eq] at keeps
    obtain ⟨⟨rfl, allowed⟩, target⟩ := keeps
    obtain ⟨key, named⟩ := Option.isSome_iff_exists.mp target
    intro stays
    refine stays _ _ (run.snoc taken) (refused_snoc refused) (.inl ?_)
    refine ⟨⟨execution.clientId, connectionId, execution.tool, key⟩, ?_, rfl⟩
    simp [after, McpRuntime.remember, ruleKey, named, allowed]

theorem escape_asking (run : (system.onward start).Run further broker)
    (refused : ∀ entry ∈ further, ¬Approves entry.1 execution.clientId entry.2)
    (held : execution ∈ broker.executions.rows) {id : String}
    (now : execution.stage = .asking id connectionId policy (some decision))
    (keeps : execution.operation.keeps policy decision = true) : ¬StaysRevoked start execution.clientId := by
  have goes : advance broker.runtime execution .resume = some ({ broker.runtime with
      approvals := broker.runtime.approvals.delete fun pending => pending.id = id },
      .answered connectionId policy decision) := by simp [advance, now]
  show ¬StaysRevoked start (execution.reach (.answered connectionId policy decision)).clientId
  exact escape_answered (run.snoc (step_act held rfl goes)) (refused_snoc refused) reach_mem rfl keeps

theorem escape_opening (run : (system.onward start).Run further broker)
    (refused : ∀ entry ∈ further, ¬Approves entry.1 execution.clientId entry.2)
    (nothing : ¬Authorized broker execution.clientId) (held : execution ∈ broker.executions.rows)
    (now : execution.stage = .opening connectionId) : ¬StaysRevoked start execution.clientId := by
  -- The new id is one that no session has, and the client has no session that counts.
  obtain ⟨id, fresh⟩ := Infinite.exists_notMem_finset
    (broker.runtime.sessions.rows.map McpSession.id).toFinset
  simp only [List.mem_toFinset, List.mem_map, not_exists, not_and] at fresh
  have room : broker.runtime.sessions.count
      (fun session => session.clientId = execution.clientId) = 0 := by
    refine List.countP_eq_zero.mpr fun session member own => ?_
    exact nothing (.inr (.inr ⟨session, member, of_decide_eq_true own⟩))
  cases done : broker.runtime.sessions.insert ⟨id, execution.clientId, connectionId⟩ with
  | none =>
    obtain ⟨session, member, same⟩ := Table.insert_eq_none.mp done
    exact absurd same (fresh session member)
  | some inserted =>
    have goes : advance broker.runtime execution (.openSession id) =
        some ({ broker.runtime with sessions := inserted }, .leaving) := by
      simp [advance, now, McpRuntime.openSession, room, done, McpRuntime.outcome]
    intro stays
    refine stays _ _ (run.snoc (step_act held rfl goes)) (refused_snoc refused) (.inr (.inr ?_))
    exact ⟨_, (Table.mem_insert done).mpr (.inr rfl), rfl⟩

theorem mem_invalidate (held : execution ∈ broker.executions.rows)
    (decided : ∀ id, execution.stage.awaits id = false) :
    ∃ later ∈ (broker.invalidateClientAuthorizations clientId).executions.rows,
      later.clientId = execution.clientId ∧ later.operation = execution.operation ∧
        later.stage = execution.stage := by
  have waits : ∀ {chosen : PendingApproval → Bool}, execution ∈ (broker.reject chosen).executions.rows := by
    intro chosen
    refine Table.mem_update.mpr ⟨execution, held, if_neg ?_⟩
    simp [decided]
  refine ⟨_, Table.mem_update.mpr ⟨execution, waits, rfl⟩, ?_⟩
  split <;> exact ⟨rfl, rfl, rfl⟩

theorem not_staysRevoked_of_armed (held : execution ∈ broker.executions.rows)
    (armed : execution.armed = true) :
    ¬StaysRevoked (broker.invalidateClientAuthorizations execution.clientId)
      execution.clientId := by
  have decided : ∀ id, execution.stage.awaits id = false := by
    intro id
    refine Bool.eq_false_iff.mpr fun waits => ?_
    obtain ⟨connectionId, policy, now⟩ := Stage.awaits_iff.mp waits
    simp [Execution.armed, now] at armed
  obtain ⟨later, member, client, operation, stage⟩ := mem_invalidate held decided
  have run : (system.onward (broker.invalidateClientAuthorizations execution.clientId)).Run []
    (broker.invalidateClientAuthorizations execution.clientId) := .start rfl
  have nothing : ¬Authorized (broker.invalidateClientAuthorizations execution.clientId)
    execution.clientId := invalidate_nothing
  generalize broker.invalidateClientAuthorizations execution.clientId = start at *
  rw [← client] at nothing ⊢
  have none : ∀ entry ∈ ([] : List (Broker × Event)), ¬Approves entry.1 later.clientId entry.2 := by
    simp
  cases now : execution.stage with
  | asking id connectionId policy answer =>
    cases answer with
    | none => simp [Execution.armed, now] at armed
    | some decision =>
      simp only [Execution.armed, now, ← operation] at armed
      exact escape_asking run none member (stage.trans now) armed
  | answered connectionId policy decision =>
    simp only [Execution.armed, now, ← operation] at armed
    exact escape_answered run none member (stage.trans now) armed
  | approved connectionId =>
    simp only [Execution.armed, now, ← operation] at armed
    exact escape_approved run none member (stage.trans now) armed
  | opening connectionId => exact escape_opening run none nothing member (stage.trans now)
  | _ => simp [Execution.armed, now] at armed

end Escape

/-- An invalidation is final for exactly the clients of which no request is armed. -/
theorem invalidation_final {trace : List (Broker × Event)} (run : system.Run trace broker)
    (clientId : String) :
    StaysRevoked (broker.invalidateClientAuthorizations clientId) clientId ↔ Unarmed broker clientId := by
  constructor
  · intro stays execution held own
    refine Bool.eq_false_iff.mpr fun armed => ?_
    subst own
    exact not_staysRevoked_of_armed held armed stays
  · exact staysRevoked_of_unarmed ⟨trace, run⟩

end Broker

namespace Demo

open Broker

/-- A client requests a session, and the user is asked for the approval. -/
def requesting : List Event :=
  [.start, .connect 0 "request" "client" "cnshell_open_session" (.openSession "connection"),
    .act 0 (.authenticate true), .act 0 .acquire, .act 0 .register, .act 0 (.authorizeRate true),
    .act 0 .check, .act 0 .consult, .act 0 (.ask "approval")]

/-- A session is opened on an approval that was given before the invalidation. -/
theorem invalidation_outlived :
    ¬∀ trace broker, system.Run trace broker → ∀ clientId,
      StaysRevoked (broker.invalidateClientAuthorizations clientId) clientId := by
  let approved := requesting ++ [.decide "approval" "once"]
  let later : List Event :=
    [.act 0 .resume, .act 0 .remember, .act 0 .confirm, .act 0 (.openSession "session")]
  have checked : ((System.trail step new approved).elim false fun reached =>
      (System.trail step (reached.2.invalidateClientAuthorizations "client") later).elim false
        fun final => final.1.all (fun entry => entry.2 matches .act _ _) &&
          final.2.runtime.sessions.rows.any fun session => session.clientId = "client") = true := by
    decide
  intro always
  obtain ⟨reached, goes, checked⟩ := exists_of_checked checked
  cases went : System.trail step (reached.2.invalidateClientAuthorizations "client") later with
  | none => simp [goes, went] at checked
  | some final =>
    simp only [goes, went, Option.elim_some, Bool.and_eq_true, List.all_eq_true,
      List.any_eq_true, decide_eq_true_eq] at checked
    obtain ⟨acts, session, opened, own⟩ := checked
    have run := System.Run.trail (.start rfl : system.Run [] new) goes
    have further := System.Run.trail (.start rfl : (system.onward
      (reached.2.invalidateClientAuthorizations "client")).Run [] _) went
    refine always _ _ run "client" _ _ further (fun entry member approves => ?_)
      (.inr (.inr ⟨session, opened, own⟩))
    -- None of the later events is one of the user.
    have act := acts entry member
    split at act
    · rename_i same
      rw [same] at approves
      exact approves
    · cases act

/-- The invalidation is final while the user has not answered yet. -/
theorem invalidation_final_unanswered : ∃ trace broker, system.Run trace broker ∧
    broker.runtime.approvals.rows.length = 1 ∧
      StaysRevoked (broker.invalidateClientAuthorizations "client") "client" := by
  have checked : ((System.trail step new requesting).elim false fun reached =>
      decide (reached.2.runtime.approvals.rows.length = 1 ∧ ∀ execution ∈
        reached.2.executions.rows, execution.clientId = "client" → execution.armed = false)) =
      true := by decide
  obtain ⟨reached, goes, checked⟩ := exists_of_checked checked
  simp only [decide_eq_true_eq] at checked
  have run := System.Run.trail (.start rfl : system.Run [] new) goes
  exact ⟨_, _, run, checked.1, (invalidation_final run "client").mpr checked.2⟩

end Demo

end Mcp

end CNShell
