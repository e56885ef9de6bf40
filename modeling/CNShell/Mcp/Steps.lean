import CNShell.Mcp.Broker
import Mathlib.Data.Finset.Insert
import Mathlib.Data.Finset.Filter

/-! Everything that a step of the MCP broker can do. -/

namespace CNShell

namespace Mcp

open Client (AppError AppResult)

/-- What each action of a request comes to. -/
inductive Advanced (runtime : McpRuntime) (execution : Execution) :
    Action → McpRuntime → Stage → Prop
  | authenticated (stage : execution.stage = .received) :
      Advanced runtime execution (.authenticate true) runtime .authenticated
  | refused (stage : execution.stage = .received) :
      Advanced runtime execution (.authenticate false) runtime .done
  | acquired (stage : execution.stage = .authenticated)
      (room : runtime.inFlight execution.clientId < 2) :
      Advanced runtime execution .acquire { runtime with
        inFlight := Function.update runtime.inFlight execution.clientId
          (runtime.inFlight execution.clientId + 1) } .executing
  | busy (stage : execution.stage = .authenticated) :
      Advanced runtime execution .acquire runtime .done
  | registered {inserted : Table ActiveRequest.requestId} (stage : execution.stage = .executing)
      (fresh : runtime.activeRequests.insert
        ⟨execution.requestId, execution.clientId, execution.stream⟩ = some inserted) :
      Advanced runtime execution .register
        { runtime with activeRequests := inserted } .registered
  | duplicate (stage : execution.stage = .executing) :
      Advanced runtime execution .register runtime .releasing
  | rated (stage : execution.stage = .registered) :
      Advanced runtime execution (.authorizeRate true) runtime .working
  | limited (stage : execution.stage = .registered) :
      Advanced runtime execution (.authorizeRate false) runtime .leaving
  | confirmed {connectionId : String} (stage : execution.stage = .working)
      (opens : execution.operation = .openSession connectionId)
      (known : (execution.clientId, connectionId) ∈ runtime.confirmedConnections) :
      Advanced runtime execution .check runtime (.opening connectionId)
  | unconfirmed {connectionId : String} (stage : execution.stage = .working)
      (opens : execution.operation = .openSession connectionId) :
      Advanced runtime execution .check runtime (.requesting connectionId {})
  | closed {sessionId : String} (stage : execution.stage = .working) :
      Advanced runtime execution .check { runtime with
        sessions := runtime.sessions.delete fun session => session.id = sessionId } .leaving
  | unavailable (stage : execution.stage = .working) :
      Advanced runtime execution .check runtime .leaving
  | written {connectionId sessionId : String} {policy : ApprovalPolicy} {target : Option String}
      (stage : execution.stage = .working)
      (writes : execution.operation = .write sessionId policy target) :
      Advanced runtime execution .check runtime (.requesting connectionId policy)
  | allowed {connectionId : String} {policy : ApprovalPolicy}
      (stage : execution.stage = .requesting connectionId policy)
      (rule : runtime.allows execution connectionId policy = true) :
      Advanced runtime execution .consult runtime (.approved connectionId)
  | unruled {connectionId : String} {policy : ApprovalPolicy}
      (stage : execution.stage = .requesting connectionId policy) :
      Advanced runtime execution .consult runtime (.unruled connectionId policy)
  | persisted {connectionId : String} {policy : ApprovalPolicy}
      (stage : execution.stage = .unruled connectionId policy)
      (command : policy.persistentCommand.isSome = true)
      (rule : (ruleKey execution connectionId policy).isSome = true) :
      Advanced runtime execution .persisted runtime (.approved connectionId)
  | asked {id connectionId : String} {policy : ApprovalPolicy}
      {inserted : Table PendingApproval.id} (stage : execution.stage = .unruled connectionId policy)
      (fresh : runtime.approvals.insert (pendingApproval execution id connectionId policy) = some inserted) :
      Advanced runtime execution (.ask id) { runtime with approvals := inserted }
        (.asking id connectionId policy none)
  | crowded {id connectionId : String} {policy : ApprovalPolicy}
      (stage : execution.stage = .unruled connectionId policy) :
      Advanced runtime execution (.ask id) runtime .leaving
  | expired {id connectionId : String} {policy : ApprovalPolicy}
      (stage : execution.stage = .asking id connectionId policy none) :
      Advanced runtime execution .expire runtime (.asking id connectionId policy (some .reject))
  | resumed {id connectionId : String} {policy : ApprovalPolicy} {decision : ApprovalDecision}
      (stage : execution.stage = .asking id connectionId policy (some decision)) :
      Advanced runtime execution .resume
        { runtime with approvals := runtime.approvals.delete fun pending => pending.id = id }
        (.answered connectionId policy decision)
  | remembered {connectionId : String} {policy : ApprovalPolicy} {decision : ApprovalDecision}
      (stage : execution.stage = .answered connectionId policy decision) :
      Advanced runtime execution .remember
        (runtime.remember execution connectionId policy decision)
        (if decision.approved = true then .approved connectionId else .leaving)
  | confirm {connectionId sought : String} (stage : execution.stage = .approved connectionId)
      (opens : execution.operation = .openSession sought) :
      Advanced runtime execution .confirm { runtime with
        confirmedConnections :=
          insert (execution.clientId, connectionId) runtime.confirmedConnections }
        (.opening connectionId)
  | opened {id connectionId : String} {inserted : Table McpSession.id}
      (stage : execution.stage = .opening connectionId)
      (fresh : runtime.sessions.insert ⟨id, execution.clientId, connectionId⟩ = some inserted) :
      Advanced runtime execution (.openSession id) { runtime with sessions := inserted } .leaving
  | full {id connectionId : String} (stage : execution.stage = .opening connectionId) :
      Advanced runtime execution (.openSession id) runtime .leaving
  | cancelled {connectionId : String} (stage : execution.stage = .approved connectionId) :
      Advanced runtime execution .ensureNotCancelled runtime .leaving
  | uncancelled {connectionId : String} (stage : execution.stage = .approved connectionId)
      (goes : execution.cancelled = false) :
      Advanced runtime execution .ensureNotCancelled runtime (.uncancelled connectionId)
  | locked {connectionId key : String} (stage : execution.stage = .uncancelled connectionId)
      (free : key ∉ runtime.transferTargets) :
      Advanced runtime execution .acquireTarget
        { runtime with transferTargets := insert key runtime.transferTargets } (.transferring key)
  | occupied {connectionId : String} (stage : execution.stage = .uncancelled connectionId) :
      Advanced runtime execution .acquireTarget runtime .leaving
  | unlocked {key : String} (stage : execution.stage = .transferring key) :
      Advanced runtime execution .finish (runtime.dropTarget key) .leaving
  | returned (other : ∀ key, execution.stage ≠ .transferring key)
      (stage : execution.stage.mayReturn = true) :
      Advanced runtime execution .finish runtime .leaving
  | unregistered (stage : execution.stage = .leaving) :
      Advanced runtime execution .dropRequest (runtime.dropRequest execution.requestId) .releasing
  | released (stage : execution.stage = .releasing) :
      Advanced runtime execution .dropExecution (runtime.dropExecution execution.clientId) .done

variable {broker next : Broker} {runtime changed : McpRuntime} {execution : Execution}
  {action : Action} {stage : Stage}

theorem checkOperation_advanced (working : execution.stage = .working)
    (taken : checkOperation runtime execution = some (changed, stage)) :
    Advanced runtime execution .check changed stage := by
  unfold checkOperation at taken
  split at taken
  · cases taken
  · rename_i connectionId opens
    split at taken <;> cases taken
    · rename_i known
      exact .confirmed working opens known
    · exact .unconfirmed working opens
  · -- A session is closed or not, and the operation returns either way.
    unfold McpRuntime.outcome McpRuntime.closeSession at taken
    split at taken <;> rename_i called <;> cases taken
    · split at called <;> cases called
      exact .closed working
    · exact .unavailable working
  · rename_i writes
    split at taken <;> cases taken
    · exact .written working writes
    · exact .unavailable working

/-- Every action of a request comes to one of these. -/
theorem advance_advanced (taken : advance runtime execution action = some (changed, stage)) :
    Advanced runtime execution action changed stage := by
  unfold advance at taken
  split at taken <;> rename_i now
  · rename_i accepted
    cases taken
    cases accepted
    · exact .refused now
    · exact .authenticated now
  · unfold McpRuntime.outcome McpRuntime.acquireExecution at taken
    split at taken <;> rename_i called <;> split at called <;> cases called <;> cases taken
    · rename_i room
      exact .acquired now (by omega)
    · exact .busy now
  · unfold McpRuntime.outcome McpRuntime.registerRequest at taken
    split at taken <;> rename_i called <;> split at called <;> cases called <;> cases taken
    · rename_i fresh
      exact .registered now fresh
    · exact .duplicate now
  · rename_i allowed
    cases taken
    cases allowed
    · exact .limited now
    · exact .rated now
  · exact checkOperation_advanced now taken
  · split at taken <;> cases taken
    · rename_i rule
      exact .allowed now rule
    · exact .unruled now
  · split at taken <;> cases taken
    rename_i both
    exact .persisted now both.1 both.2
  · -- An approval is refused by the limits, or its id is a new one.
    rename_i connectionId policy
    unfold McpRuntime.addApproval at taken
    split at taken
    · cases taken
      exact .crowded now
    · obtain ⟨_, added, result⟩ := Option.map_eq_some_iff.mp taken
      obtain ⟨inserted, fresh, rfl⟩ := Option.map_eq_some_iff.mp added
      cases result
      exact .asked now fresh
  · cases taken
    exact .expired now
  · cases taken
    exact .resumed now
  · cases taken
    exact .remembered now
  · split at taken <;> cases taken
    rename_i opens
    exact .confirm now opens
  · rename_i connectionId
    unfold McpRuntime.openSession at taken
    split at taken
    · cases taken
      exact .full now
    · obtain ⟨_, added, result⟩ := Option.map_eq_some_iff.mp taken
      obtain ⟨inserted, fresh, rfl⟩ := Option.map_eq_some_iff.mp added
      cases result
      exact .opened now fresh
  · split at taken <;> cases taken
    split
    · exact .cancelled now
    · rename_i goes
      exact .uncancelled now (by simpa using goes)
  · split at taken
    · unfold McpRuntime.outcome McpRuntime.acquireTransferTarget at taken
      split at taken <;> rename_i called <;> split at called <;> cases called <;> cases taken
      · rename_i free
        exact .locked now free
      · exact .occupied now
    · cases taken
  · cases taken
    exact .unlocked now
  · -- No earlier pattern took the stage, so no target is held.
    split at taken <;> cases taken
    rename_i returns
    exact .returned now returns
  · cases taken
    exact .unregistered now
  · cases taken
    exact .released now
  · cases taken

end Mcp

end CNShell
