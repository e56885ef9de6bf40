import CNShell.Library.Log
import CNShell.Library.Table
import CNShell.Library.Transition
import Mathlib.Algebra.Ring.Nat

/-! The local paths granted to MCP clients, used by transfers while others revoke them. -/

namespace CNShell

namespace Mcp

/-- The tool that a local grant is for. -/
inductive Direction
  | upload
  | download
  deriving DecidableEq, Repr

/-- A row of `mcp_local_grants`. -/
structure McpLocalGrant where
  id : String
  clientId : String
  direction : Direction
  persistent : Bool
  /-- In nanoseconds, as all times here. -/
  expiresAt : Option Nat
  revokedAt : Option Nat
  deriving DecidableEq, Repr

/-- How long a grant for one use can be used. -/
def oneTimeLifetime : Nat := 24 * 60 * 60 * 10 ^ 9

/-- A time at which a grant cannot be used any more. -/
def McpLocalGrant.expired (now : Nat) (grant : McpLocalGrant) : Bool := grant.expiresAt.any (· ≤ now)

def revoking (now : Nat) : Change McpLocalGrant.id :=
  ⟨fun grant => { grant with revokedAt := some now }, fun _ => rfl⟩

/-- How far `file_upload` or `file_download` has come. -/
inductive TransferStage
  /-- The request is not among the active ones yet. -/
  | received
  | registered
  /-- It has read its grant and waits for an approval. -/
  | granted (grant : McpLocalGrant)
  | approved (grant : McpLocalGrant)
  /-- It saw after the approval that it was not cancelled. -/
  | checked (grant : McpLocalGrant)
  /-- It has consumed its grant for one use. -/
  | consumed (grant : McpLocalGrant)
  | started (grant : McpLocalGrant)
  /-- It has failed. -/
  | ended
  deriving DecidableEq, Repr

/-- The grant with which a request is about to start a transfer, as it has read it. -/
def TransferStage.grant? : TransferStage → Option McpLocalGrant
  | granted grant | approved grant | checked grant | consumed grant => some grant
  | received | registered | started _ | ended => none

/-- A request that has seen that it was not cancelled does not look again. -/
def TransferStage.settled : TransferStage → Bool
  | checked _ | consumed _ => true
  | _ => false

structure TransferRequest where
  clientId : String
  direction : Direction
  localGrantId : String
  cancelled : Bool
  stage : TransferStage
  deriving DecidableEq, Repr

def TransferRequest.goes (request : TransferRequest) : Bool := !request.cancelled || request.stage.settled

/-- What a request does next. -/
inductive TransferAction
  | register
  | readGrant
  | approve
  | ensureNotCancelled
  | consume
  | start
  /-- Whatever else can go wrong before the transfer starts, a refusal by the user as well. -/
  | fail
  deriving DecidableEq, Repr

/-- How far a revocation has come. -/
inductive Revocation
  /-- `revoke_local_grant` has found the grant. -/
  | localGrant (id : String)
  /-- `revoke_client` has changed the status of the client. -/
  | runtimeAccess (clientId : String)
  /-- It has cancelled the requests of the client. -/
  | clientGrants (clientId : String)
  | done
  deriving DecidableEq, Repr

/-- The granted local paths, the requests that may use them and the revocations under way. -/
structure LocalGrants where
  now : Nat
  grants : Table McpLocalGrant.id
  /-- The ids that were made for grants; no id is made twice. -/
  issued : List String
  revokedClients : List String
  requests : List TransferRequest
  revocations : List Revocation

/-- What can happen. -/
inductive GrantEvent
  | tick (now : Nat)
  | createLocalGrant (id clientId : String) (direction : Direction) (persistent : Bool)
  | request (clientId : String) (direction : Direction) (localGrantId : String)
  | act (n : Nat) (action : TransferAction)
  | revokeLocalGrant (id : String)
  | revokeClient (clientId : String)
  /-- A revocation goes on; its update of the database may fail. -/
  | proceed (n : Nat) (works : Bool)
  /-- What `revoke_client`, or the clean-up after a failure of it, deletes. -/
  | deleteLocalGrant (id : String)
  deriving DecidableEq, Repr

namespace LocalGrants

/-- The grant was not revoked, consumed or deleted. -/
def live (state : LocalGrants) (id : String) : Bool := (state.grants.find? id).any fun grant => grant.revokedAt.isNone

/-- The grant that a request may use. -/
def activeLocalGrant (state : LocalGrants) (clientId id : String) (direction : Direction) : Option McpLocalGrant :=
  if id.isEmpty = true ∨ 128 < id.utf8ByteSize then none
  else (state.grants.find? id).filter fun grant =>
    grant.clientId = clientId && grant.direction = direction && grant.revokedAt.isNone && !grant.expired state.now

def revoke (state : LocalGrants) (selected : McpLocalGrant → Bool) : LocalGrants :=
  { state with grants :=
      state.grants.update (fun grant => selected grant && grant.revokedAt.isNone) (revoking state.now) }

/-- A grant for one use is used up, unless it was revoked or used before. -/
def consumeLocalGrant (state : LocalGrants) (grant : McpLocalGrant) : Option LocalGrants :=
  if grant.persistent = true then some state
  else if state.live grant.id = true then some (state.revoke fun held => held.id = grant.id)
  else none

def reach (state : LocalGrants) (n : Nat) (request : TransferRequest) (stage : TransferStage) : LocalGrants :=
  { state with requests := state.requests.set n { request with stage := stage } }

def act (state : LocalGrants) (n : Nat) (request : TransferRequest) (action : TransferAction) : Option LocalGrants :=
  match action, request.stage with
  | .register, .received => some (state.reach n request .registered)
  | .readGrant, .registered =>
    match state.activeLocalGrant request.clientId request.localGrantId request.direction with
    | some grant => some (state.reach n request (.granted grant))
    | none => some (state.reach n request .ended)
  | .approve, .granted grant => some (state.reach n request (.approved grant))
  | .ensureNotCancelled, .approved grant =>
    some (state.reach n request (if request.cancelled = true then .ended else .checked grant))
  | .consume, .checked grant =>
    match state.consumeLocalGrant grant with
    | some next => some (next.reach n request (if grant.persistent = true then .started grant else .consumed grant))
    | none => some (state.reach n request .ended)
  | .start, .consumed grant => some (state.reach n request (.started grant))
  | .fail, .started _ | .fail, .ended => none
  | .fail, _ => some (state.reach n request .ended)
  | _, _ => none

def cancelClientRequests (state : LocalGrants) (clientId : String) : LocalGrants :=
  { state with requests := state.requests.map fun request =>
      if request.clientId = clientId ∧ request.stage ≠ .received then { request with cancelled := true }
      else request }

def proceed (state : LocalGrants) (n : Nat) (works : Bool) : Revocation → Option LocalGrants
  | .localGrant id =>
    let next := if works = true then state.revoke fun grant => grant.id = id else state
    some { next with revocations := state.revocations.set n .done }
  | .runtimeAccess clientId =>
    some { state.cancelClientRequests clientId with
      revocations := state.revocations.set n (.clientGrants clientId) }
  | .clientGrants clientId =>
    let next := if works = true then state.revoke fun grant => grant.clientId = clientId else state
    some { next with revocations := state.revocations.set n .done }
  | .done => none

def step (state : LocalGrants) : GrantEvent → Option LocalGrants
  | .tick now => some { state with now := now }
  | .createLocalGrant id clientId direction persistent =>
    if clientId ∈ state.revokedClients ∨ id ∈ state.issued then none
    else
      (state.grants.insert ⟨id, clientId, direction, persistent,
        if persistent = true then none else some (state.now + oneTimeLifetime), none⟩).map fun grants =>
          { state with grants := grants, issued := id :: state.issued }
  | .request clientId direction localGrantId =>
    some { state with requests := state.requests ++ [⟨clientId, direction, localGrantId, false, .received⟩] }
  | .act n action => state.requests[n]?.bind fun request => state.act n request action
  | .revokeLocalGrant id =>
    if state.live id = true then some { state with revocations := state.revocations ++ [.localGrant id] }
    else none
  | .revokeClient clientId =>
    if clientId ∈ state.revokedClients then none
    else some { state with
      revokedClients := clientId :: state.revokedClients
      revocations := state.revocations ++ [.runtimeAccess clientId] }
  | .proceed n works => state.revocations[n]?.bind fun revocation => state.proceed n works revocation
  | .deleteLocalGrant id =>
    some { state with grants :=
      state.grants.delete fun grant => grant.id = id && decide (grant.clientId ∈ state.revokedClients) }

/-- The runs from a broker without grants and requests. -/
def system : System LocalGrants GrantEvent := .ofStep (fun state => ∃ now, state = ⟨now, .empty, [], [], [], []⟩) step

def starts (state : LocalGrants) : GrantEvent → Option McpLocalGrant
  | .act n .consume =>
    match state.requests[n]?.map TransferRequest.stage with
    | some (.checked grant) => if grant.persistent = true then some grant else none
    | _ => none
  | .act n .start =>
    match state.requests[n]?.map TransferRequest.stage with
    | some (.consumed grant) => some grant
    | _ => none
  | _ => none

def revokes (state : LocalGrants) (event : GrantEvent) (id : String) : Bool :=
  match event with
  | .act _ _ => false
  | event => state.live id && !((state.step event).getD state).live id

def Revoked (trace : List (LocalGrants × GrantEvent)) (id : String) : Prop :=
  ∃ entry ∈ trace, entry.1.revokes entry.2 id = true

/-- Some step started a transfer with the grant. -/
def Used (trace : List (LocalGrants × GrantEvent)) (grant : McpLocalGrant) : Prop :=
  ∃ entry ∈ trace, entry.1.starts entry.2 = some grant

/-- What a transfer may start with after some steps: a grant that holds and, for one use, is unused. -/
structure Usable (before : List (LocalGrants × GrantEvent)) (state : LocalGrants) (grant : McpLocalGrant) :
    Prop where
  current : grant.expired state.now = false
  standing : ¬Revoked before grant.id
  unused : grant.persistent = false → ∀ other, Used before other → other.id ≠ grant.id

/-- Every transfer of a run starts with a grant that it may use then. -/
def Honoured (trace : List (LocalGrants × GrantEvent)) : Prop :=
  Log.Everywhere (fun before entry =>
    ∀ grant, entry.1.starts entry.2 = some grant → Usable before entry.1 grant) trace

/--
An event takes away a grant from a request that may still start a transfer with it.

A grant for one use is looked at again when it is consumed, and only its expiry is not.
-/
def disturbs (state : LocalGrants) (event : GrantEvent) : Bool :=
  state.requests.any fun request =>
    request.goes && request.stage.grant?.any fun grant =>
      (grant.persistent && state.revokes event grant.id) ||
        match event with
        | .tick now => grant.expired now
        | _ => false

section Steps

variable {state next : LocalGrants} {event : GrantEvent} {n : Nat} {request : TransferRequest}
variable {action : TransferAction} {id : String}

theorem live_eq_true : state.live id = true ↔ ∃ grant, state.grants.find? id = some grant ∧
    grant.revokedAt = none := by
  simp [live, Option.any_eq_true]

variable {selected : McpLocalGrant → Bool}

theorem live_revoke : (state.revoke selected).live id = true ↔
    ∃ grant, state.grants.find? id = some grant ∧ grant.revokedAt = none ∧ selected grant = false := by
  rw [live_eq_true, revoke, Table.find?_update]
  constructor
  · rintro ⟨grant, found, standing⟩
    obtain ⟨old, held, rfl⟩ := Option.map_eq_some_iff.mp found
    refine ⟨old, held, ?_⟩
    -- A grant that was revoked just now is not live.
    split at standing
    · cases standing
    · next spared => simpa [standing] using spared
  · rintro ⟨grant, found, standing, spared⟩
    exact ⟨grant, by simp [found, spared], standing⟩

theorem live_of_revoke (after : (state.revoke selected).live id = true) : state.live id = true := by
  obtain ⟨grant, found, standing, -⟩ := live_revoke.mp after
  exact live_eq_true.mpr ⟨grant, found, standing⟩

inductive Acted (state : LocalGrants) (n : Nat) (request : TransferRequest) : TransferAction → LocalGrants → Prop
  | registered : Acted state n request .register (state.reach n request .registered)
  | read {grant : McpLocalGrant} (found : state.grants.find? grant.id = some grant)
      (standing : grant.revokedAt = none) (current : grant.expired state.now = false) :
      Acted state n request .readGrant (state.reach n request (.granted grant))
  | approved {grant : McpLocalGrant} (stage : request.stage = .granted grant) :
      Acted state n request .approve (state.reach n request (.approved grant))
  | checked {grant : McpLocalGrant} (stage : request.stage = .approved grant)
      (goes : request.cancelled = false) :
      Acted state n request .ensureNotCancelled (state.reach n request (.checked grant))
  | used {grant : McpLocalGrant} (stage : request.stage = .checked grant)
      (persistent : grant.persistent = true) :
      Acted state n request .consume (state.reach n request (.started grant))
  | consumed {grant : McpLocalGrant} (stage : request.stage = .checked grant)
      (once : grant.persistent = false) (standing : state.live grant.id = true) :
      Acted state n request .consume
        ((state.revoke fun held => held.id = grant.id).reach n request (.consumed grant))
  | started {grant : McpLocalGrant} (stage : request.stage = .consumed grant) :
      Acted state n request .start (state.reach n request (.started grant))
  | ended {action : TransferAction} (idle : state.starts (.act n action) = none) :
      Acted state n request action (state.reach n request .ended)

theorem activeLocalGrant_some {clientId : String} {direction : Direction} {grant : McpLocalGrant}
    (active : state.activeLocalGrant clientId id direction = some grant) :
    state.grants.find? grant.id = some grant ∧ grant.revokedAt = none ∧ grant.expired state.now = false := by
  unfold activeLocalGrant at active
  split at active
  · cases active
  · obtain ⟨found, matched⟩ := Option.filter_eq_some_iff.mp active
    simp only [Bool.and_eq_true, Option.isNone_iff_eq_none, Bool.not_eq_true'] at matched
    exact ⟨Table.find?_of_mem (Table.find?_some found).1, matched.1.2, matched.2⟩

theorem act_acted (there : state.requests[n]? = some request) (taken : state.act n request action = some next) :
    Acted state n request action next := by
  unfold act at taken
  split at taken
  · cases taken
    exact .registered
  · split at taken
    · next grant active =>
      obtain ⟨found, standing, current⟩ := activeLocalGrant_some active
      cases taken
      exact .read found standing current
    · cases taken
      exact .ended rfl
  · next stage =>
    cases taken
    exact .approved stage
  · next stage =>
    cases taken
    split
    · exact .ended rfl
    · next goes => exact .checked stage (by simpa using goes)
  · next grant stage =>
    unfold consumeLocalGrant at taken
    by_cases persistent : grant.persistent = true
    · simp only [persistent, if_true, Option.some.injEq] at taken
      subst taken
      exact .used stage persistent
    · simp only [persistent, Bool.false_eq_true, if_false] at taken
      split at taken
      · next after consumes =>
        split at consumes
        · next standing =>
          cases consumes
          cases taken
          exact .consumed stage (by simpa using persistent) standing
        · cases consumes
      · cases taken
        exact .ended (by simp [starts, there, stage, persistent])
  · next stage =>
    cases taken
    exact .started stage
  · cases taken
  · cases taken
  · cases taken
    exact .ended rfl
  · cases taken

/-- What a step other than a request's own does to the grants and to the requests that hold one. -/
structure Onward (state : LocalGrants) (event : GrantEvent) (next : LocalGrants) : Prop where
  issued : ∀ id ∈ state.issued, id ∈ next.issued
  rows : ∀ row ∈ next.grants.rows,
    (∃ old ∈ state.grants.rows, old.id = row.id ∧ old.persistent = row.persistent ∧ old.expiresAt = row.expiresAt) ∨
    (row.id ∉ state.issued ∧ row.id ∈ next.issued ∧ (row.persistent = true → row.expiresAt = none))
  live : ∀ id ∈ state.issued, next.live id = true → state.live id = true
  clock : event = .tick next.now ∨ next.now = state.now
  requests : ∀ (m : Nat) (after : TransferRequest), next.requests[m]? = some after →
    after.stage.grant? = none ∨ ∃ before, state.requests[m]? = some before ∧
      after.stage = before.stage ∧ (after.goes = true → before.goes = true)

theorem origin_revoke {row : McpLocalGrant} (member : row ∈ (state.revoke selected).grants.rows) :
    ∃ old ∈ state.grants.rows, old.id = row.id ∧ old.persistent = row.persistent ∧ old.expiresAt = row.expiresAt :=
  Table.origin_update (fun old new => old.id = new.id ∧ old.persistent = new.persistent ∧
    old.expiresAt = new.expiresAt) (fun _ => ⟨rfl, rfl, rfl⟩) (fun _ _ _ => ⟨rfl, rfl, rfl⟩) member

namespace Onward

theorem of_grants (requests : next.requests = state.requests) (issued : next.issued = state.issued)
    (now : event = .tick next.now ∨ next.now = state.now)
    (rows : ∀ row ∈ next.grants.rows, ∃ old ∈ state.grants.rows, old.id = row.id ∧
      old.persistent = row.persistent ∧ old.expiresAt = row.expiresAt)
    (live : ∀ id, next.live id = true → state.live id = true) : Onward state event next where
  issued id made := issued ▸ made
  rows row member := .inl (rows row member)
  live id _ := live id
  clock := now
  requests m after there := .inr ⟨after, requests ▸ there, rfl, id⟩

theorem of_same (requests : next.requests = state.requests) (issued : next.issued = state.issued)
    (now : event = .tick next.now ∨ next.now = state.now) (grants : next.grants = state.grants) :
    Onward state event next :=
  of_grants requests issued now (fun row member => ⟨row, grants ▸ member, rfl, rfl, rfl⟩)
    (fun id live => by simpa [LocalGrants.live, grants] using live)

end Onward

/-- Every step other than a request's own goes onward. -/
theorem step_onward (known : ∀ row ∈ state.grants.rows, row.id ∈ state.issued)
    (other : ∀ n action, event ≠ .act n action) (taken : state.step event = some next) :
    Onward state event next := by
  cases event with
  | act n action => exact absurd rfl (other n action)
  | tick now =>
    cases taken
    exact .of_same rfl rfl (.inl rfl) rfl
  | createLocalGrant id clientId direction persistent =>
    simp only [step] at taken
    split at taken
    · cases taken
    · next free =>
      have fresh : id ∉ state.issued := fun made => free (.inr made)
      obtain ⟨grants, inserted, rfl⟩ := Option.map_eq_some_iff.mp taken
      refine ⟨fun id made => List.mem_cons_of_mem _ made, fun row member => ?_, fun wanted made live => ?_,
        .inr rfl, fun m after there => .inr ⟨after, there, rfl, fun goes => goes⟩⟩
      · rcases (Table.mem_insert inserted).mp member with old | rfl
        · exact .inl ⟨row, old, rfl, rfl, rfl⟩
        · exact .inr ⟨fresh, List.mem_cons_self, fun persists => by simp [show persistent = true from persists]⟩
      · -- The new grant has an id that was not made before.
        obtain ⟨grant, found, standing⟩ := live_eq_true.mp live
        have apart : wanted ≠ id := fun same => fresh (same ▸ made)
        rw [Table.find?_insert inserted, if_neg apart] at found
        exact live_eq_true.mpr ⟨grant, found, standing⟩
  | request clientId direction localGrantId =>
    cases taken
    refine ⟨fun id made => made, fun row member => .inl ⟨row, member, rfl, rfl, rfl⟩, fun id made live => live,
      .inr rfl, fun m after there => ?_⟩
    -- The new request is the last one, and it holds no grant.
    by_cases within : m < state.requests.length
    · rw [List.getElem?_append_left within] at there
      exact .inr ⟨after, there, rfl, fun goes => goes⟩
    · rw [List.getElem?_append_right (by omega)] at there
      obtain rfl := List.mem_singleton.mp (List.mem_of_getElem? there)
      exact .inl rfl
  | revokeLocalGrant id =>
    simp only [step] at taken
    split at taken
    · cases taken
      exact .of_same rfl rfl (.inr rfl) rfl
    · cases taken
  | revokeClient clientId =>
    simp only [step] at taken
    split at taken
    · cases taken
    · cases taken
      exact .of_same rfl rfl (.inr rfl) rfl
  | proceed n works =>
    obtain ⟨revocation, there, goes⟩ := Option.bind_eq_some_iff.mp taken
    cases revocation with
    | localGrant id =>
      cases goes
      cases works with
      | true => exact .of_grants rfl rfl (.inr rfl) (fun row member => origin_revoke member) fun id => live_of_revoke
      | false => exact .of_same rfl rfl (.inr rfl) rfl
    | clientGrants clientId =>
      cases goes
      cases works with
      | true => exact .of_grants rfl rfl (.inr rfl) (fun row member => origin_revoke member) fun id => live_of_revoke
      | false => exact .of_same rfl rfl (.inr rfl) rfl
    | runtimeAccess clientId =>
      cases goes
      refine ⟨fun id made => made, fun row member => .inl ⟨row, member, rfl, rfl, rfl⟩, fun id made live => live,
        .inr rfl, fun m after reached => ?_⟩
      obtain ⟨before, held, rfl⟩ := Option.map_eq_some_iff.mp ((List.getElem?_map ..).symm.trans reached)
      refine .inr ⟨before, held, ?_⟩
      -- A cancelled request goes on only where it does not look at its flag any more.
      split
      · exact ⟨rfl, fun goes => by simpa [TransferRequest.goes] using .inr (by simpa [TransferRequest.goes] using goes)⟩
      · exact ⟨rfl, fun goes => goes⟩
    | done => cases goes
  | deleteLocalGrant id =>
    cases taken
    refine .of_grants rfl rfl (.inr rfl) (fun row member => ⟨row, (Table.mem_delete.mp member).1, rfl, rfl, rfl⟩)
      fun wanted live => ?_
    obtain ⟨grant, found, standing⟩ := live_eq_true.mp live
    rw [Table.find?_delete] at found
    exact live_eq_true.mpr ⟨grant, (Option.filter_eq_some_iff.mp found).1, standing⟩

end Steps

section Runs

variable {state next : LocalGrants} {event : GrantEvent} {trace : List (LocalGrants × GrantEvent)}
variable {kind : String → Bool}

theorem revoked_concat {id : String} :
    Revoked (trace ++ [(state, event)]) id ↔ Revoked trace id ∨ state.revokes event id = true := by
  simp [Revoked, or_and_right, exists_or]

variable {grant : McpLocalGrant}

theorem used_concat : Used (trace ++ [(state, event)]) grant ↔ Used trace grant ∨ state.starts event = some grant := by
  simp [Used, or_and_right, exists_or]

/-- What is known about a grant that a request is about to use. -/
structure Held (kind : String → Bool) (trace : List (LocalGrants × GrantEvent)) (state : LocalGrants)
    (request : TransferRequest) (grant : McpLocalGrant) : Prop where
  issued : grant.id ∈ state.issued
  kind : kind grant.id = grant.persistent
  forever : grant.persistent = true → grant.expiresAt = none
  current : request.goes = true → grant.expired state.now = false
  standing : request.goes = true → grant.persistent = true → state.live grant.id = true
  consumed : request.stage = .consumed grant → grant.persistent = false ∧ state.live grant.id = false ∧
    ¬Revoked trace grant.id ∧ ∀ other, Used trace other → other.id ≠ grant.id

/-- What holds along a run that takes no grant away from a request that uses it. -/
structure Kept (kind : String → Bool) (trace : List (LocalGrants × GrantEvent)) (state : LocalGrants) : Prop where
  rows : ∀ row ∈ state.grants.rows, row.id ∈ state.issued ∧ kind row.id = row.persistent ∧
    (row.persistent = true → row.expiresAt = none)
  requests : ∀ (n : Nat) (request : TransferRequest), state.requests[n]? = some request →
    ∀ grant, request.stage.grant? = some grant → Held kind trace state request grant
  apart : ∀ (n m : Nat) (one two : TransferRequest) (first second : McpLocalGrant),
    state.requests[n]? = some one → state.requests[m]? = some two → one.stage = .consumed first →
      two.stage = .consumed second → first.id = second.id → n = m
  revoked : ∀ id, Revoked trace id → id ∈ state.issued ∧ state.live id = false
  used : ∀ grant, Used trace grant → grant.id ∈ state.issued ∧ kind grant.id = grant.persistent ∧
    (grant.persistent = false → state.live grant.id = false)
  honoured : Honoured trace

theorem starts_other (other : ∀ n action, event ≠ .act n action) : state.starts event = none := by
  cases event with
  | act n action => exact absurd rfl (other n action)
  | _ => rfl

@[simp] theorem revokes_act (n : Nat) (action : TransferAction) (id : String) :
    state.revokes (.act n action) id = false := rfl

theorem revokes_other (other : ∀ n action, event ≠ .act n action) (taken : state.step event = some next)
    (id : String) : state.revokes event id = (state.live id && !next.live id) := by
  cases event with
  | act n action => exact absurd rfl (other n action)
  | _ => simp only [revokes, taken, Option.getD_some]

theorem Kept.issued_of_live (kept : Kept kind trace state) {id : String} (live : state.live id = true) :
    id ∈ state.issued := by
  obtain ⟨grant, found, -⟩ := live_eq_true.mp live
  obtain ⟨member, rfl⟩ := Table.find?_some found
  exact (kept.rows grant member).1

/-- A step that takes no grant from a request that uses it keeps what is known. -/
theorem Kept.onward (kept : Kept kind trace state) (other : ∀ n action, event ≠ .act n action)
    (calm : state.disturbs event = false) (taken : state.step event = some next) :
    ∃ kind, Kept kind (trace ++ [(state, event)]) next := by
  have onward := step_onward (fun row member => (kept.rows row member).1) other taken
  have idle : state.starts event = none := starts_other other
  have revokes : ∀ id, state.revokes event id = (state.live id && !next.live id) := revokes_other other taken
  have usedBefore : ∀ grant, Used (trace ++ [(state, event)]) grant → Used trace grant := by
    intro grant used
    exact (used_concat.mp used).resolve_right (by simp [idle])
  -- The kind of a grant that was just made is the kind of its row.
  let kind' : String → Bool := fun id =>
    if id ∈ state.issued then kind id else ((next.grants.find? id).map McpLocalGrant.persistent).getD false
  have known : ∀ id ∈ state.issued, kind' id = kind id := fun id made => if_pos made
  have calmed : ∀ request ∈ state.requests, request.goes = true → ∀ grant, request.stage.grant? = some grant →
      (grant.persistent = true → state.revokes event grant.id = false) ∧
        ∀ now, event = .tick now → grant.expired now = false := by
    intro request member goes grant holds
    have quiet := List.any_eq_false.mp calm request member
    simp only [goes, holds, Option.any_some, Bool.true_and, Bool.not_eq_true, Bool.or_eq_false_iff] at quiet
    refine ⟨fun persistent => by simpa [persistent] using quiet.1, ?_⟩
    rintro now rfl
    exact quiet.2
  have consumedBefore : ∀ (m : Nat) (after : TransferRequest) (grant : McpLocalGrant),
      next.requests[m]? = some after → after.stage = .consumed grant →
        ∃ before, state.requests[m]? = some before ∧ before.stage = .consumed grant := by
    intro m after grant there stage
    rcases onward.requests m after there with none | ⟨before, held, same, -⟩
    · simp [stage, TransferStage.grant?] at none
    · exact ⟨before, held, same ▸ stage⟩
  refine ⟨kind', ?_, ?_, ?_, ?_, ?_, kept.honoured.snoc (by simp [idle])⟩
  · intro row member
    rcases onward.rows row member with ⟨old, held, same, persistent, expires⟩ | ⟨fresh, made, forever⟩
    · obtain ⟨made, kinds, forever⟩ := kept.rows old held
      rw [same] at made kinds
      exact ⟨onward.issued _ made, (known _ made).trans (kinds.trans persistent),
        fun persists => expires ▸ forever (persistent.trans persists)⟩
    · refine ⟨made, ?_, forever⟩
      simp [kind', fresh, Table.find?_of_mem member]
  · intro m after there grant holds
    rcases onward.requests m after there with none | ⟨before, held, same, goesBefore⟩
    · rw [none] at holds
      cases holds
    · rw [same] at holds
      have old := kept.requests m before held grant holds
      obtain ⟨stays, lasts⟩ : (after.goes = true → grant.persistent = true → state.revokes event grant.id = false) ∧
          (after.goes = true → ∀ now, event = .tick now → grant.expired now = false) :=
        ⟨fun goes => (calmed before (List.mem_of_getElem? held) (goesBefore goes) grant holds).1,
          fun goes => (calmed before (List.mem_of_getElem? held) (goesBefore goes) grant holds).2⟩
      refine ⟨onward.issued _ old.issued, (known _ old.issued).trans old.kind, old.forever, fun goes => ?_,
        fun goes persistent => ?_, fun stage => ?_⟩
      · rcases onward.clock with ticks | still
        · exact lasts goes _ ticks
        · rw [still]
          exact old.current (goesBefore goes)
      · have standing := old.standing (goesBefore goes) persistent
        simpa [revokes, standing] using stays goes persistent
      · obtain ⟨once, gone, apart, unused⟩ := old.consumed (same ▸ stage)
        have stays : next.live grant.id = false :=
          Bool.eq_false_iff.mpr fun live => by simp [onward.live _ old.issued live] at gone
        refine ⟨once, stays, fun was => ?_, fun second used => unused second (usedBefore second used)⟩
        -- What is not live is not revoked.
        rcases revoked_concat.mp was with was | now
        · exact apart was
        · simp [revokes, gone] at now
  · intro n m one two first second there also stage stage' same
    obtain ⟨before, held, consumed⟩ := consumedBefore n one first there stage
    obtain ⟨before', held', consumed'⟩ := consumedBefore m two second also stage'
    exact kept.apart n m before before' first second held held' consumed consumed' same
  · intro id was
    rcases revoked_concat.mp was with was | now
    · obtain ⟨made, gone⟩ := kept.revoked id was
      exact ⟨onward.issued _ made, Bool.eq_false_iff.mpr fun live => by simp [onward.live _ made live] at gone⟩
    · rw [revokes, Bool.and_eq_true, Bool.not_eq_true'] at now
      exact ⟨onward.issued _ (kept.issued_of_live now.1), now.2⟩
  · intro grant used
    obtain ⟨made, kinds, gone⟩ := kept.used grant (usedBefore grant used)
    refine ⟨onward.issued _ made, (known _ made).trans kinds, fun once => Bool.eq_false_iff.mpr fun live => ?_⟩
    simpa [gone once] using onward.live _ made live

/-- A request that comes to another stage by an action of its own keeps what is known. -/
theorem Kept.reach {n : Nat} {request : TransferRequest} {action : TransferAction} {stage : TransferStage}
    (kept : Kept kind trace next) (there : next.requests[n]? = some request)
    (held : ∀ grant, stage.grant? = some grant → Held kind trace next { request with stage := stage } grant)
    (alone : ∀ grant, stage = .consumed grant → ∀ (m : Nat) (two : TransferRequest) (second : McpLocalGrant),
      next.requests[m]? = some two → two.stage = .consumed second → second.id ≠ grant.id)
    (idle : stage.grant? = none ∨ state.starts (.act n action) = none)
    (last : ∀ grant, state.starts (.act n action) = some grant → Usable trace state grant ∧
      grant.id ∈ next.issued ∧ kind grant.id = grant.persistent ∧
        (grant.persistent = false → next.live grant.id = false) ∧
          ∀ (m : Nat) (two : TransferRequest) (second : McpLocalGrant), m ≠ n →
            next.requests[m]? = some two → two.stage = .consumed second → second.id ≠ grant.id) :
    Kept kind (trace ++ [(state, .act n action)]) (next.reach n request stage) := by
  have within : n < next.requests.length := (List.getElem?_eq_some_iff.mp there).1
  have set : ∀ m, (next.reach n request stage).requests[m]? =
      if n = m then some { request with stage := stage } else next.requests[m]? := by
    intro m
    rw [LocalGrants.reach, List.getElem?_set]
    split
    · next same => simp [← same, within]
    · rfl
  have revokedBefore : ∀ id, Revoked (trace ++ [(state, .act n action)]) id → Revoked trace id :=
    fun id was => (revoked_concat.mp was).resolve_right (by simp)
  refine ⟨kept.rows, fun m after reached grant holds => ?_, fun m k one two first second here also consumed
    consumed' same => ?_, fun id was => kept.revoked id (revokedBefore id was), fun grant used => ?_,
    kept.honoured.snoc fun grant starts => (last grant starts).1⟩
  · rw [set] at reached
    split at reached
    · next same =>
      cases reached
      have quiet : state.starts (.act n action) = none := idle.resolve_left (by simp [holds])
      have known := held grant holds
      refine { known with consumed := fun consumed => ?_ }
      obtain ⟨once, gone, apart, unused⟩ := known.consumed consumed
      exact ⟨once, gone, fun was => apart (revokedBefore _ was), fun other used =>
        unused other ((used_concat.mp used).resolve_right (by simp [quiet]))⟩
    · next apart =>
      have known := kept.requests m after reached grant holds
      refine { known with consumed := fun consumed => ?_ }
      obtain ⟨once, gone, standing, unused⟩ := known.consumed consumed
      refine ⟨once, gone, fun was => standing (revokedBefore _ was), fun other used => ?_⟩
      -- The transfer that starts now has another grant than any other request has consumed.
      rcases used_concat.mp used with used | starts
      · exact unused other used
      · exact ((last other starts).2.2.2.2 m after grant (Ne.symm apart) reached consumed).symm
  · rw [set] at here also
    split at here
    · next mine =>
      cases here
      split at also
      · next mine' => exact mine.symm.trans mine'
      · exact absurd same.symm (alone first consumed k two second also consumed')
    · split at also
      · cases also
        exact absurd same (alone second consumed' m one first here consumed)
      · exact kept.apart m k one two first second here also consumed consumed' same
  · rcases used_concat.mp used with used | starts
    · exact kept.used grant used
    · obtain ⟨-, made, kinds, gone, -⟩ := last grant starts
      exact ⟨made, kinds, gone⟩

theorem Kept.consume (kept : Kept kind trace state) (once : kind grant.id = false) :
    Kept kind trace (state.revoke fun held => held.id = grant.id) := by
  refine ⟨fun row member => ?_, fun n request there held holds => ?_, kept.apart, fun id was => ?_,
    fun other used => ?_, kept.honoured⟩
  · obtain ⟨old, held, same, persistent, expires⟩ := origin_revoke member
    rw [← same, ← persistent, ← expires]
    exact kept.rows old held
  · have known := kept.requests n request there held holds
    refine { known with standing := fun goes persistent => ?_, consumed := fun consumed => ?_ }
    · -- The grant that is consumed is for one use, so it is another one.
      obtain ⟨row, found, standing⟩ := live_eq_true.mp (known.standing goes persistent)
      refine live_revoke.mpr ⟨row, found, standing, decide_eq_false fun same => ?_⟩
      have kinds := known.kind
      rw [← (Table.find?_some found).2, same, once, persistent] at kinds
      cases kinds
    · obtain ⟨single, gone, rest⟩ := known.consumed consumed
      exact ⟨single, Bool.eq_false_iff.mpr fun live => by simpa [gone] using live_of_revoke live, rest⟩
  · obtain ⟨made, gone⟩ := kept.revoked id was
    exact ⟨made, Bool.eq_false_iff.mpr fun live => by simpa [gone] using live_of_revoke live⟩
  · obtain ⟨made, kinds, gone⟩ := kept.used other used
    exact ⟨made, kinds, fun single =>
      Bool.eq_false_iff.mpr fun live => by simpa [gone single] using live_of_revoke live⟩

/-- A request's own action keeps what is known. -/
theorem Kept.acted {n : Nat} {request : TransferRequest} {action : TransferAction} (kept : Kept kind trace state)
    (there : state.requests[n]? = some request) (acted : Acted state n request action next) :
    Kept kind (trace ++ [(state, .act n action)]) next := by
  have stageAt : state.requests[n]?.map TransferRequest.stage = some request.stage := by rw [there]; rfl
  cases acted with
  | registered => exact kept.reach there (by simp [TransferStage.grant?]) (by simp) (.inl rfl) (by simp [starts])
  | @read grant found standing current =>
    obtain ⟨member, -⟩ := Table.find?_some found
    obtain ⟨made, kinds, forever⟩ := kept.rows grant member
    refine kept.reach there (fun other holds => ?_) (by simp) (.inr rfl) (by simp [starts])
    cases holds
    exact ⟨made, kinds, forever, fun _ => current, fun _ _ => live_eq_true.mpr ⟨grant, found, standing⟩, by simp⟩
  | @approved grant stage =>
    have known := kept.requests n request there grant (by rw [stage]; rfl)
    refine kept.reach there (fun other holds => ?_) (by simp) (.inr rfl) (by simp [starts])
    cases holds
    have before : TransferRequest.goes { request with stage := .approved grant } = true → request.goes = true := by
      simp [TransferRequest.goes, TransferStage.settled, stage]
    exact ⟨known.issued, known.kind, known.forever, fun goes => known.current (before goes),
      fun goes => known.standing (before goes), by simp⟩
  | @checked grant stage going =>
    have known := kept.requests n request there grant (by rw [stage]; rfl)
    have goes : request.goes = true := by simp [TransferRequest.goes, going]
    refine kept.reach there (fun other holds => ?_) (by simp) (.inr rfl) (by simp [starts])
    cases holds
    exact ⟨known.issued, known.kind, known.forever, fun _ => known.current goes, fun _ => known.standing goes, by simp⟩
  | @used grant stage persistent =>
    have known := kept.requests n request there grant (by rw [stage]; rfl)
    have goes : request.goes = true := by simp [TransferRequest.goes, stage, TransferStage.settled]
    have standing := known.standing goes persistent
    refine kept.reach there (by simp [TransferStage.grant?]) (by simp) (.inl rfl) fun other starts => ?_
    obtain rfl : grant = other := by simpa [LocalGrants.starts, stageAt, stage, persistent] using starts
    refine ⟨⟨known.current goes, fun was => ?_, by simp [persistent]⟩, known.issued, known.kind,
      by simp [persistent], fun m two second apart held consumed same => ?_⟩
    · simpa [standing] using (kept.revoked _ was).2
    · -- A grant that was consumed is for one use.
      have other := kept.requests m two held second (by rw [consumed]; rfl)
      have kinds := other.kind
      rw [same, known.kind, persistent, (other.consumed consumed).1] at kinds
      cases kinds
  | @consumed grant stage once standing =>
    have known := kept.requests n request there grant (by rw [stage]; rfl)
    have goes : request.goes = true := by simp [TransferRequest.goes, stage, TransferStage.settled]
    have idle : state.starts (.act n .consume) = none := by
      simp [LocalGrants.starts, stageAt, stage, once]
    have gone : (state.revoke fun held => held.id = grant.id).live grant.id = false :=
      Bool.eq_false_iff.mpr fun live => by
        obtain ⟨row, found, -, spared⟩ := live_revoke.mp live
        simp [(Table.find?_some found).2] at spared
    refine (kept.consume (known.kind.trans once)).reach there (fun other holds => ?_) (fun other stages => ?_)
      (.inr idle) (by simp [idle])
    · cases holds
      refine ⟨known.issued, known.kind, known.forever, fun _ => known.current goes, by simp [once], fun _ =>
        ⟨once, gone, fun was => ?_, fun other used same => ?_⟩⟩
      · simpa [standing] using (kept.revoked _ was).2
      · obtain ⟨-, kinds, dead⟩ := kept.used other used
        rw [same, known.kind, once] at kinds
        simpa [same, standing] using dead kinds.symm
    · -- What another request consumed is not live any more.
      cases stages
      intro m two second held consumed same
      have dead := ((kept.requests m two held second (by rw [consumed]; rfl)).consumed consumed).2.1
      simp [same, standing] at dead
  | @started grant stage =>
    have known := kept.requests n request there grant (by rw [stage]; rfl)
    have goes : request.goes = true := by simp [TransferRequest.goes, stage, TransferStage.settled]
    obtain ⟨once, gone, apart, unused⟩ := known.consumed stage
    refine kept.reach there (by simp [TransferStage.grant?]) (by simp) (.inl rfl) fun other starts => ?_
    obtain rfl : grant = other := by simpa [LocalGrants.starts, stageAt, stage] using starts
    exact ⟨⟨known.current goes, apart, fun _ => unused⟩, known.issued, known.kind, fun _ => gone,
      fun m two second other held consumed same =>
        other (kept.apart m n two request second grant held there consumed stage same)⟩
  | ended idle => exact kept.reach there (by simp [TransferStage.grant?]) (by simp) (.inl rfl) (by simp [idle])

theorem kept_start (begins : system.initial state) : Kept kind [] state := by
  obtain ⟨now, rfl⟩ := begins
  exact ⟨by simp [Table.empty], by simp, by simp, by simp [Revoked], by simp [Used], .nil _⟩

/-- A run that takes no grant from a request that uses it honours the grants. -/
theorem honoured_of_undisturbed (run : system.Run trace state)
    (undisturbed : ∀ entry ∈ trace, entry.1.disturbs entry.2 = false) : Honoured trace := by
  have kept := run.history (fun state event => state.disturbs event = false)
    (fun trace state => ∃ kind, Kept kind trace state) (fun state begins => ⟨fun _ => false, kept_start begins⟩) ?_
    undisturbed
  · obtain ⟨kind, kept⟩ := kept
    exact kept.honoured
  · rintro trace state event next ⟨kind, kept⟩ calm taken
    by_cases own : ∃ n action, event = .act n action
    · obtain ⟨n, action, rfl⟩ := own
      obtain ⟨request, there, went⟩ := Option.bind_eq_some_iff.mp taken
      exact ⟨kind, kept.acted there (act_acted there went)⟩
    · exact kept.onward (fun n action same => own ⟨n, action, same⟩) calm taken

end Runs

end LocalGrants

namespace Demo

open LocalGrants

def ungranted : LocalGrants := ⟨0, .empty, [], [], [], []⟩

def revokedWhileWaiting : List GrantEvent :=
  [.createLocalGrant "folder" "client" .download true, .request "client" .download "folder",
    .act 0 .register, .act 0 .readGrant, .revokeLocalGrant "folder", .proceed 0 true, .act 0 .approve,
    .act 0 .ensureNotCancelled]

/-- The download starts all the same. -/
theorem revoked_grant_starts : ¬∀ trace state, system.Run trace state → Honoured trace := by
  have checked : ((System.trail step ungranted revokedWhileWaiting).elim false fun reached =>
      (reached.2.starts (.act 0 .consume)).any fun grant =>
        (reached.2.step (.act 0 .consume)).isSome &&
          reached.1.any fun entry => entry.1.revokes entry.2 grant.id) = true := by decide
  intro always
  obtain ⟨reached, goes, checked⟩ := exists_of_checked checked
  simp only [Option.any_eq_true, Bool.and_eq_true, List.any_eq_true] at checked
  obtain ⟨grant, starts, taken, entry, member, revokes⟩ := checked
  have run := System.Run.trail (.start ⟨0, rfl⟩ : system.Run [] ungranted) goes
  obtain ⟨next, taken⟩ := Option.isSome_iff_exists.mp taken
  have honoured := always _ _ (run.snoc taken)
  exact (honoured reached.1 _ [] rfl grant starts).standing ⟨entry, member, revokes⟩

/-- A folder is used before it is revoked, a file once, and a client is revoked while it waits. -/
def undisturbed : List GrantEvent :=
  [.createLocalGrant "folder" "client" .download true, .createLocalGrant "file" "client" .upload false,
    .request "client" .download "folder", .act 0 .register, .act 0 .readGrant, .act 0 .approve,
    .act 0 .ensureNotCancelled, .act 0 .consume, .request "client" .upload "file",
    .request "client" .upload "file", .act 1 .register, .act 2 .register, .act 1 .readGrant,
    .act 2 .readGrant, .tick 1, .act 1 .approve, .act 2 .approve, .act 1 .ensureNotCancelled,
    .act 2 .ensureNotCancelled, .act 2 .consume, .act 1 .consume, .act 2 .start,
    .request "client" .download "folder", .act 3 .register, .act 3 .readGrant, .revokeClient "client",
    .proceed 0 true, .proceed 0 true, .act 3 .fail, .deleteLocalGrant "folder"]

/-- Both grants are honoured then, and each of them started a transfer. -/
theorem undisturbed_honoured : ∃ trace state, system.Run trace state ∧
    (trace.filterMap fun entry => (entry.1.starts entry.2).map McpLocalGrant.id) = ["folder", "file"] ∧
      Honoured trace := by
  have checked : ((System.trail step ungranted undisturbed).elim false fun reached =>
      decide ((reached.1.filterMap fun entry => (entry.1.starts entry.2).map McpLocalGrant.id) =
        ["folder", "file"] ∧ ∀ entry ∈ reached.1, entry.1.disturbs entry.2 = false)) = true := by decide
  obtain ⟨reached, goes, checked⟩ := exists_of_checked checked
  simp only [decide_eq_true_eq] at checked
  have run := System.Run.trail (.start ⟨0, rfl⟩ : system.Run [] ungranted) goes
  exact ⟨_, _, run, checked.1, honoured_of_undisturbed run checked.2⟩

end Demo

end Mcp

end CNShell
