import CNShell.Library.Transition
import CNShell.Mcp.Models
import Mathlib.Logic.Function.Basic

/-! What the MCP broker does with its permits, approvals and authorizations, one lock at a time. -/

namespace CNShell

namespace Mcp

open Client (AppError AppResult)

namespace McpRuntime

/-- A request of a client begins to execute, of two at most. -/
def acquireExecution (runtime : McpRuntime) (clientId : String) : AppResult McpRuntime :=
  if 2 ≤ runtime.inFlight clientId then
    .error (.unavailable "该 MCP 客户端已有 2 个请求正在执行，请稍后重试")
  else .ok { runtime with
    inFlight := Function.update runtime.inFlight clientId (runtime.inFlight clientId + 1) }

/-- An `ExecutionPermit` is dropped. -/
def dropExecution (runtime : McpRuntime) (clientId : String) : McpRuntime :=
  { runtime with
    inFlight := Function.update runtime.inFlight clientId (runtime.inFlight clientId - 1) }

def registerRequest (runtime : McpRuntime) (requestId clientId : String) (cancelled : Nat) : AppResult McpRuntime :=
  match runtime.activeRequests.insert ⟨requestId, clientId, cancelled⟩ with
  | none => .error (.validation "MCP requestId 不能重复")
  | some inserted => .ok { runtime with activeRequests := inserted }

/-- A `RequestPermit` is dropped. -/
def dropRequest (runtime : McpRuntime) (requestId : String) : McpRuntime :=
  { runtime with
    activeRequests := runtime.activeRequests.delete fun active => active.requestId = requestId }

def acquireTransferTarget (runtime : McpRuntime) (key : String) : AppResult McpRuntime :=
  if key ∈ runtime.transferTargets then .error (.unavailable "同一本地 MCP 目标已有传输正在执行")
  else .ok { runtime with transferTargets := insert key runtime.transferTargets }

/-- A `TransferTargetPermit` is dropped. -/
def dropTarget (runtime : McpRuntime) (key : String) : McpRuntime :=
  { runtime with transferTargets := runtime.transferTargets.erase key }

def openSession (runtime : McpRuntime) (clientId connectionId id : String) : Option (AppResult McpRuntime) :=
  if 4 ≤ runtime.sessions.count fun session => session.clientId = clientId then
    some (.error (.unavailable "每个 MCP 客户端最多打开 4 个会话"))
  else (runtime.sessions.insert ⟨id, clientId, connectionId⟩).map fun inserted =>
    .ok { runtime with sessions := inserted }

def session (runtime : McpRuntime) (clientId sessionId : String) : AppResult String :=
  match runtime.sessions.find? sessionId with
  | none => .error (.notFound s!"MCP 会话 {sessionId}")
  | some session =>
    if session.clientId = clientId then .ok session.connectionId
    else .error (.permissionDenied "MCP 会话不属于当前客户端")

def closeSession (runtime : McpRuntime) (clientId sessionId : String) : AppResult McpRuntime :=
  match runtime.session clientId sessionId with
  | .error error => .error error
  | .ok _ => .ok { runtime with
      sessions := runtime.sessions.delete fun session => session.id = sessionId }

/-- An approval is added to the pending ones under a new id, within the two limits. -/
def addApproval (runtime : McpRuntime) (pending : PendingApproval) : Option (AppResult McpRuntime) :=
  if maxPendingGlobal ≤ runtime.approvals.rows.length ∨
      maxPendingPerClient ≤
        runtime.approvals.count fun other => other.view.clientId = pending.view.clientId then
    some (.error (.unavailable "MCP 待审批请求已达到上限"))
  else (runtime.approvals.insert pending).map fun inserted =>
    .ok { runtime with approvals := inserted }

end McpRuntime

/-- What the broker does next for one request. -/
inductive Action
  /-- The request is checked and its client authenticated, or one of these fails. -/
  | authenticate (accepted : Bool)
  | acquire
  | register
  | authorizeRate (allowed : Bool)
  /-- The operation looks at what the broker keeps for its client. -/
  | check
  /-- The approval request looks for a rule of the run. -/
  | consult
  /-- It finds a rule in the database. -/
  | persisted
  /-- It adds an approval under a new id. -/
  | ask (id : String)
  /-- The approval is not answered in time. -/
  | expire
  /-- The request wakes up with its answer. -/
  | resume
  /-- It keeps the rule that the answer may be. -/
  | remember
  /-- It keeps that the connection is confirmed. -/
  | confirm
  /-- It opens the session under a new id. -/
  | openSession (id : String)
  /-- It looks at its cancelled flag. -/
  | ensureNotCancelled
  | acquireTarget
  /-- The operation returns, with a result or an error of its own work. -/
  | finish
  | dropRequest
  | dropExecution
  deriving DecidableEq, Repr

def ruleKey (execution : Execution) (connectionId : String) (policy : ApprovalPolicy) : Option ApprovalRuleKey :=
  policy.targetKey.map fun targetKey =>
    ⟨execution.clientId, connectionId, execution.tool, targetKey⟩

/-- The approval that a request adds. -/
def pendingApproval (execution : Execution) (id connectionId : String) (policy : ApprovalPolicy) :
    PendingApproval where
  view :=
    { id := id
      requestId := execution.requestId
      clientId := execution.clientId
      connectionId := connectionId
      tool := execution.tool
      canAllowSession := policy.canAllowSession
      canSaveRule := policy.persistentCommand.isSome }
  ruleKey := ruleKey execution connectionId policy
  decision := some execution.stream

/-- The state after a call, and the stage it led to, where a failed call changed nothing. -/
def McpRuntime.outcome (runtime : McpRuntime) (called : AppResult McpRuntime)
    (succeeded failed : Stage) : McpRuntime × Stage :=
  match called with
  | .ok changed => (changed, succeeded)
  | .error _ => (runtime, failed)

/-- The operation looks at what the broker keeps for its client. -/
def checkOperation (runtime : McpRuntime) (execution : Execution) : Option (McpRuntime × Stage) :=
  match execution.operation with
  | .read => none
  | .openSession connectionId =>
    if (execution.clientId, connectionId) ∈ runtime.confirmedConnections then
      some (runtime, .opening connectionId)
    else some (runtime, .requesting connectionId {})
  | .closeSession sessionId =>
    some (runtime.outcome (runtime.closeSession execution.clientId sessionId) .leaving .leaving)
  | .write sessionId policy _ =>
    match runtime.session execution.clientId sessionId with
    | .ok connectionId => some (runtime, .requesting connectionId policy)
    | .error _ => some (runtime, .leaving)

/-- Whether a rule of the run allows what is requested. -/
def McpRuntime.allows (runtime : McpRuntime) (execution : Execution) (connectionId : String)
    (policy : ApprovalPolicy) : Bool :=
  policy.canAllowSession &&
    (ruleKey execution connectionId policy).any fun key => key ∈ runtime.sessionRules

/-- What a request keeps of its answer. -/
def McpRuntime.remember (runtime : McpRuntime) (execution : Execution) (connectionId : String)
    (policy : ApprovalPolicy) (decision : ApprovalDecision) : McpRuntime :=
  match ruleKey execution connectionId policy, decision with
  | some key, .session =>
    if policy.canAllowSession = true then
      { runtime with sessionRules := insert key runtime.sessionRules }
    else runtime
  | _, _ => runtime

def Stage.mayReturn : Stage → Bool
  | working => true
  | requesting _ _ => true
  | unruled _ _ => true
  | answered _ _ decision => decision = .persistent
  | approved _ => true
  | uncancelled _ => true
  | transferring _ => true
  | _ => false

/-- What an action does for a request, with the stage it leads to, if it can happen now. -/
def advance (runtime : McpRuntime) (execution : Execution) (action : Action) : Option (McpRuntime × Stage) :=
  match action, execution.stage with
  | .authenticate accepted, .received =>
    some (runtime, if accepted = true then .authenticated else .done)
  | .acquire, .authenticated =>
    some (runtime.outcome (runtime.acquireExecution execution.clientId) .executing .done)
  | .register, .executing =>
    some (runtime.outcome
      (runtime.registerRequest execution.requestId execution.clientId execution.stream)
      .registered .releasing)
  | .authorizeRate allowed, .registered =>
    some (runtime, if allowed = true then .working else .leaving)
  | .check, .working => checkOperation runtime execution
  | .consult, .requesting connectionId policy =>
    if runtime.allows execution connectionId policy = true then
      some (runtime, .approved connectionId)
    else some (runtime, .unruled connectionId policy)
  | .persisted, .unruled connectionId policy =>
    if policy.persistentCommand.isSome = true ∧
        (ruleKey execution connectionId policy).isSome = true then
      some (runtime, .approved connectionId)
    else none
  | .ask id, .unruled connectionId policy =>
    (runtime.addApproval (pendingApproval execution id connectionId policy)).map fun called =>
      runtime.outcome called (.asking id connectionId policy none) .leaving
  | .expire, .asking id connectionId policy none =>
    some (runtime, .asking id connectionId policy (some .reject))
  | .resume, .asking id connectionId policy (some decision) =>
    some ({ runtime with approvals := runtime.approvals.delete fun pending => pending.id = id },
      .answered connectionId policy decision)
  | .remember, .answered connectionId policy decision =>
    some (runtime.remember execution connectionId policy decision,
      if decision.approved = true then .approved connectionId else .leaving)
  | .confirm, .approved connectionId =>
    match execution.operation with
    | .openSession _ =>
      some ({ runtime with
          confirmedConnections :=
            insert (execution.clientId, connectionId) runtime.confirmedConnections },
        .opening connectionId)
    | _ => none
  | .openSession id, .opening connectionId =>
    (runtime.openSession execution.clientId connectionId id).map fun called =>
      runtime.outcome called .leaving .leaving
  | .ensureNotCancelled, .approved connectionId =>
    match execution.operation with
    | .write _ _ (some _) =>
      some (runtime, if execution.cancelled = true then .leaving else .uncancelled connectionId)
    | _ => none
  | .acquireTarget, .uncancelled _ =>
    match execution.operation with
    | .write _ _ (some key) =>
      some (runtime.outcome (runtime.acquireTransferTarget key) (.transferring key) .leaving)
    | _ => none
  | .finish, .transferring key => some (runtime.dropTarget key, .leaving)
  | .finish, stage =>
    if stage.mayReturn = true then some (runtime, .leaving) else none
  | .dropRequest, .leaving => some (runtime.dropRequest execution.requestId, .releasing)
  | .dropExecution, .releasing => some (runtime.dropExecution execution.clientId, .done)
  | _, _ => none

namespace Broker

/-- The flags that some active requests share with their executions are set. -/
def cancel (broker : Broker) (chosen : ActiveRequest → Bool) : Broker :=
  { broker with
    executions := broker.executions.update
      (fun execution => broker.runtime.activeRequests.rows.any fun active =>
        chosen active && active.cancelled = execution.stream) cancelling }

/-- Some approvals are removed, and rejected where they were not decided. -/
def reject (broker : Broker) (chosen : PendingApproval → Bool) : Broker :=
  { broker with
    runtime.approvals := broker.runtime.approvals.delete chosen
    executions := broker.executions.update
      (fun execution => broker.runtime.approvals.rows.any fun pending =>
        chosen pending && pending.decision = some execution.stream &&
          execution.stage.awaits pending.id) (hearing .reject) }

def start (broker : Broker) : Broker := { broker with runtime.running := true, listening := true }

/-- The broker is stopped: everything it keeps is cleared, while its requests go on. -/
def stop (broker : Broker) : Broker := { (broker.cancel fun _ => true).reject fun _ => true with runtime := .default }

def cancelRequest (broker : Broker) (requestId : String) : Broker :=
  (broker.cancel fun active => active.requestId = requestId).reject
    fun pending => pending.view.requestId = requestId

def cancelClientRequests (broker : Broker) (clientId : String) : Broker :=
  broker.cancel fun active => active.clientId = clientId

/-- The rules and confirmed connections of a client are dropped. -/
def forget (broker : Broker) (clientId : String) : Broker :=
  { broker with
    runtime.sessionRules := broker.runtime.sessionRules.filter fun key => key.clientId ≠ clientId
    runtime.confirmedConnections :=
      broker.runtime.confirmedConnections.filter fun confirmed => confirmed.1 ≠ clientId }

def removeSessions (broker : Broker) (chosen : McpSession → Bool) : Broker :=
  { broker with runtime.sessions := broker.runtime.sessions.delete chosen }

/-- Nothing that was allowed to a client is kept. -/
def invalidateClientAuthorizations (broker : Broker) (clientId : String) : Broker :=
  (((broker.removeSessions fun session => session.clientId = clientId).reject
    fun pending => pending.view.clientId = clientId).cancelClientRequests clientId).forget clientId

/--
A revocation drops what it finds of the client, with the sessions it had listed before.

The active requests are cancelled after that, under a lock of their own.
-/
def revokeRuntimeAccess (broker : Broker) (clientId : String) (listed : List String) : Broker :=
  ((broker.removeSessions fun session => session.clientId = clientId && listed.contains session.id).reject
    fun pending => pending.view.clientId = clientId).forget clientId

/-- The decision a word stands for, if the approval offers it. -/
def select (pending : PendingApproval) (decision : String) : Option ApprovalDecision :=
  if decision = "reject" then some .reject
  else if decision = "once" then some .once
  else if decision = "session" ∧ pending.view.canAllowSession = true ∧
      pending.ruleKey.isSome = true then some .session
  else if decision = "persistent" ∧ pending.view.canSaveRule = true ∧
      pending.ruleKey.isSome = true then some .persistent
  else none

/-- A sender was used. -/
def deciding : Change PendingApproval.id := ⟨fun pending => { pending with decision := none }, fun _ => rfl⟩

/-- The user answers an approval; the answer is sent when the request still waits for it. -/
def decide (broker : Broker) (id decision : String) : AppResult Unit × Broker :=
  match broker.runtime.approvals.find? id with
  | none => (.error (.notFound s!"MCP 审批 {id}"), broker)
  | some pending =>
    match select pending decision, pending.decision with
    | none, _ => (.error (.validation "MCP 审批决定无效"), broker)
    | some _, none => (.error (.unavailable "MCP 审批已经处理"), broker)
    | some selected, some stream =>
      let waits := fun execution : Execution =>
        execution.stream = stream && execution.stage.awaits id
      (if broker.executions.rows.any waits then .ok ()
        else .error (.unavailable "MCP 请求已经断开或过期"),
      { broker with
        runtime.approvals := broker.runtime.approvals.update (fun other => other.id = id) deciding
        executions := broker.executions.update waits (hearing selected) })

end Broker

/-- What happens to the broker. -/
inductive Event
  | start
  | stop
  /-- A connection is accepted, and a request is read from it. -/
  | connect (stream : Nat) (requestId clientId tool : String) (operation : Operation)
  | act (stream : Nat) (action : Action)
  /-- A connection is closed by the other side before its request is done. -/
  | disconnect (stream : Nat)
  | decide (id decision : String)
  | invalidate (clientId : String)
  | revoke (clientId : String) (listed : List String)
  | cancelClient (clientId : String)
  /-- A session has been open or idle for too long. -/
  | sessionExpired (id : String)
  deriving DecidableEq, Repr

namespace Broker

def connect (broker : Broker) (stream : Nat) (requestId clientId tool : String)
    (operation : Operation) : Option Broker :=
  if broker.listening = true then
    (broker.executions.insert
      ⟨stream, requestId, clientId, tool, operation, false, true, .received⟩).map fun inserted =>
        { broker with executions := inserted }
  else none

/-- Whether an action draws the approval id of a request that still waits, as no random id does. -/
def redraws (broker : Broker) : Action → Bool
  | .ask id => broker.executions.rows.any fun execution => execution.stage.asks id
  | _ => false

/-- A request takes its next step. -/
def act (broker : Broker) (stream : Nat) (action : Action) : Option Broker :=
  if broker.redraws action = true then none
  else (broker.executions.find? stream).bind fun execution =>
    (advance broker.runtime execution action).map fun (runtime, stage) =>
      { broker with runtime := runtime, executions := broker.executions.put (execution.reach stage) }

/-- A request is cancelled because its connection was closed, and goes on to its end. -/
def disconnect (broker : Broker) (stream : Nat) : Option Broker :=
  (broker.executions.find? stream).bind fun execution =>
    if execution.connected = true ∧ execution.stage ≠ .done then
      some (Broker.cancelRequest { broker with
        executions := broker.executions.put
          { execution with cancelled := true, connected := false } } execution.requestId)
    else none

/-- What an event does, if it can happen. -/
def step (broker : Broker) : Event → Option Broker
  | .start => some broker.start
  | .stop => some broker.stop
  | .connect stream requestId clientId tool operation =>
    broker.connect stream requestId clientId tool operation
  | .act stream action => broker.act stream action
  | .disconnect stream => broker.disconnect stream
  | .decide id decision => some (broker.decide id decision).2
  | .invalidate clientId => some (broker.invalidateClientAuthorizations clientId)
  | .revoke clientId listed => some (broker.revokeRuntimeAccess clientId listed)
  | .cancelClient clientId => some (broker.cancelClientRequests clientId)
  | .sessionExpired id => some (broker.removeSessions fun session => session.id = id)

/-- A broker that was not started. -/
def new : Broker := ⟨.default, false, .empty⟩

def system : System Broker Event := System.ofStep (fun broker => broker = new) step

end Broker

end Mcp

end CNShell
