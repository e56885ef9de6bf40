import CNShell.Client.Models
import CNShell.Library.Table
import Mathlib.Data.Finset.Basic

/-! What the MCP broker keeps in memory, and the requests that it executes. -/

namespace CNShell

namespace Mcp

open Client (AppError AppResult)

def maxPendingPerClient : Nat := 10

/-- How many approvals may be pending for all clients. -/
def maxPendingGlobal : Nat := 50

/-- A session that a client opened. -/
structure McpSession where
  id : String
  clientId : String
  connectionId : String
  deriving DecidableEq, Repr

/-- What the user allowed for the rest of the broker's run. -/
structure ApprovalRuleKey where
  clientId : String
  connectionId : String
  tool : String
  targetKey : String
  deriving DecidableEq, Repr

inductive ApprovalDecision
  | reject
  | once
  | session
  | persistent
  deriving DecidableEq, Repr

/-- Whether the request may go on. -/
def ApprovalDecision.approved (decision : ApprovalDecision) : Bool := decision ≠ .reject

/-- What a tool lets the user allow beyond the one request. -/
structure ApprovalPolicy where
  targetKey : Option String := none
  canAllowSession : Bool := false
  persistentCommand : Option String := none
  deriving DecidableEq, Repr

/-- The part of an approval's view that the broker itself reads. -/
structure McpApproval where
  id : String
  requestId : String
  clientId : String
  connectionId : String
  tool : String
  canAllowSession : Bool
  canSaveRule : Bool
  deriving DecidableEq, Repr

/-- An approval the user has not been asked for to the end. -/
structure PendingApproval where
  view : McpApproval
  ruleKey : Option ApprovalRuleKey
  /-- The sender that was not used yet, as the connection whose request holds the receiver. -/
  decision : Option Nat
  deriving DecidableEq, Repr

def PendingApproval.id (pending : PendingApproval) : String := pending.view.id

/-- The entry of a registered request. -/
structure ActiveRequest where
  requestId : String
  clientId : String
  /-- The flag it shares with the request, as the connection that the flag was made for. -/
  cancelled : Nat
  deriving DecidableEq, Repr

/-- The operations, by what they do to the broker. -/
inductive Operation
  /-- A tool or a resource that only reads. -/
  | read
  | openSession (connectionId : String)
  | closeSession (sessionId : String)
  /-- A tool that asks for an approval, and a transfer when it has a target. -/
  | write (sessionId : String) (policy : ApprovalPolicy) (target : Option String)
  deriving DecidableEq, Repr

/-- How far the execution of a request has come. -/
inductive Stage
  /-- The request was read and is not authenticated. -/
  | received
  | authenticated
  /-- It holds an `ExecutionPermit`. -/
  | executing
  /-- It holds a `RequestPermit` as well. -/
  | registered
  /-- The operation runs. -/
  | working
  /-- The operation is about to request an approval. -/
  | requesting (connectionId : String) (policy : ApprovalPolicy)
  /-- No rule of the run allows it. -/
  | unruled (connectionId : String) (policy : ApprovalPolicy)
  /-- It waits for the answer to an approval, or has got it and was not resumed. -/
  | asking (id connectionId : String) (policy : ApprovalPolicy) (answer : Option ApprovalDecision)
  /-- It was resumed with an answer. -/
  | answered (connectionId : String) (policy : ApprovalPolicy) (decision : ApprovalDecision)
  /-- The approval was given. -/
  | approved (connectionId : String)
  /-- It saw after the approval that it was not cancelled. -/
  | uncancelled (connectionId : String)
  /-- The connection is confirmed and the session not opened yet. -/
  | opening (connectionId : String)
  /-- It holds a `TransferTargetPermit`. -/
  | transferring (key : String)
  /-- The operation has returned. -/
  | leaving
  /-- The `RequestPermit` is dropped. -/
  | releasing
  /-- The `ExecutionPermit` is dropped, if there was one. -/
  | done
  deriving DecidableEq, Repr

namespace Stage

/-- Whether a request at this stage holds an `ExecutionPermit`. -/
def executes : Stage → Bool
  | received | authenticated | done => false
  | _ => true

/-- Whether a request at this stage holds a `RequestPermit`. -/
def registers : Stage → Bool
  | received | authenticated | executing | releasing | done => false
  | _ => true

/-- The target of the `TransferTargetPermit` a request at this stage holds. -/
def target? : Stage → Option String
  | transferring key => some key
  | _ => none

/-- Whether a request at this stage waits for the answer to an approval. -/
def awaits (id : String) : Stage → Bool
  | asking other _ _ none => other = id
  | _ => false

/-- Whether a request at this stage has an approval of its own, answered or not. -/
def asks (id : String) : Stage → Bool
  | asking other _ _ _ => other = id
  | _ => false

/-- An answer reaches a request that waits for one. -/
def hear (decision : ApprovalDecision) : Stage → Stage
  | asking id connectionId policy none => asking id connectionId policy (some decision)
  | stage => stage

end Stage

/-- A request that a connection sent, as far as it was executed. -/
structure Execution where
  /-- The connection it came on. -/
  stream : Nat
  requestId : String
  clientId : String
  tool : String
  operation : Operation
  cancelled : Bool
  connected : Bool
  stage : Stage
  deriving DecidableEq, Repr

def Execution.reach (stage : Stage) (execution : Execution) : Execution := { execution with stage := stage }

/-- A cancelled flag is set. -/
def cancelling : Change Execution.stream := ⟨fun execution => { execution with cancelled := true }, fun _ => rfl⟩

/-- A decision is sent to a request. -/
def hearing (decision : ApprovalDecision) : Change Execution.stream :=
  ⟨fun execution => execution.reach (execution.stage.hear decision), fun _ => rfl⟩

/-- The state the broker keeps under its lock. -/
structure McpRuntime where
  running : Bool
  sessions : Table McpSession.id
  approvals : Table PendingApproval.id
  inFlight : String → Nat
  activeRequests : Table ActiveRequest.requestId
  transferTargets : Finset String
  sessionRules : Finset ApprovalRuleKey
  confirmedConnections : Finset (String × String)

/-- A broker that was not started. -/
def McpRuntime.default : McpRuntime where
  running := false
  sessions := .empty
  approvals := .empty
  inFlight := fun _ => 0
  activeRequests := .empty
  transferTargets := ∅
  sessionRules := ∅
  confirmedConnections := ∅

/-- The broker and the requests its connections sent. -/
structure Broker where
  runtime : McpRuntime
  /-- Whether a listener was spawned; its last connection may come after the stop. -/
  listening : Bool
  executions : Table Execution.stream

end Mcp

end CNShell
