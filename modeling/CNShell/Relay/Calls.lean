import CNShell.Relay.Effects

/-! How a request runs that is alone on the database and succeeds at every step. -/

namespace CNShell

namespace Relay

variable {platform : Platform} {db next final : Db} {draws : Draws}

def Returns (platform : Platform) {β : Type} (request : Request β) (db : Db) (value : β)
    (next : Db) : Prop :=
  request.exec (semantics platform) db = (.ok value, next)

namespace Returns

variable {β γ : Type} {following : β → Request γ} {value : β} {result : γ}

theorem done (value : β) : Returns platform (pure value) db value db := rfl

variable {request : Request β}

theorem bind (first : Returns platform request db value next)
    (rest : Returns platform (following value) next result final) :
    Returns platform (request >>= following) db result final :=
  (Program.exec_bind_ok first).trans rest

theorem check {checked : RelayResult β} (passed : checked = .ok value)
    (rest : Returns platform (following value) db result final) :
    Returns platform (Relay.check checked >>= following) db result final :=
  .bind (congrArg (·, db) passed) rest

theorem last {action : Action β} (ran : action.run platform db = .ok (value, next)) :
    Returns platform (Relay.perform action) db value next :=
  outcome_ok ran

theorem perform {action : Action β} (ran : action.run platform db = .ok (value, next))
    (rest : Returns platform (following value) next result final) :
    Returns platform (Relay.perform action >>= following) db result final :=
  .bind (.last ran) rest

variable {query : Db → RelayResult β}

theorem select (found : query db = .ok value) (rest : Returns platform (following value) db result final) :
    Returns platform (Relay.select query >>= following) db result final :=
  .perform (by simp [Action.run, found]) rest

theorem discard (whole : Returns platform request db value next) : Returns platform request.discard db () next :=
  .bind whole (.done ())

theorem ignore_select : Returns platform (Relay.select query).ignore db () db := by
  refine Prod.ext rfl ?_
  show ((semantics platform).outcome (.read query) db).2 = db
  cases found : query db with
  | ok | error => simp [Semantics.outcome, semantics, Action.run, found]

theorem device {token : String} {auth : DeviceAuth} {call : DeviceCall}
    (checked : call.precheck = .ok ())
    (known : authenticateDevice platform token draws.authenticatedAt db = .ok auth)
    (serves : Returns platform (call.serve platform draws auth) db () next) :
    Returns platform (Call.serve platform draws (.device token call)) db () next :=
  .check checked (.select known serves)

end Returns

/-- The relay reaches a database with some calls waiting, by allowed actions only. -/
def Reached (platform : Platform) (allowed : (β : Type) → Action β → Prop) (db : Db)
    (waiting : List (Request Unit)) : Prop :=
  Pool.ReachedBy (semantics platform)
    (fun program => ∃ call draws, program = Call.serve platform draws call)
    (fun db => db = Db.empty) allowed ⟨db, waiting⟩

namespace Reached

variable {allowed : (β : Type) → Action β → Prop} {waiting : List (Request Unit)}

theorem empty : Reached platform allowed Db.empty [] := ⟨[], .start ⟨rfl, rfl⟩, by simp⟩

theorem reachable (reached : Reached platform allowed db waiting) : ReachableDb platform db :=
  ⟨waiting, Pool.ReachedBy.reachable reached⟩

theorem weaken {more : (β : Type) → Action β → Prop}
    (reached : Reached platform allowed db waiting)
    (implies : ∀ (β : Type) (action : Action β), allowed β action → more β action) :
    Reached platform more db waiting :=
  Pool.ReachedBy.weaken reached implies

theorem call {call : Call} (reached : Reached platform allowed db waiting)
    (only : (call.serve platform draws).Only allowed)
    (returns : Returns platform (call.serve platform draws) db () next) :
    Reached platform allowed next waiting := by
  have served := Pool.ReachedBy.call reached ⟨call, draws, rfl⟩ only
  rw [returns] at served
  exact served

theorem authenticate {token : String} {auth : DeviceAuth} {call : DeviceCall}
    (reached : Reached platform allowed db waiting) (checked : call.precheck = .ok ())
    (known : authenticateDevice platform token draws.authenticatedAt db = .ok auth)
    (reads : allowed DeviceAuth (.read (authenticateDevice platform token draws.authenticatedAt))) :
    Reached platform allowed db (waiting ++ [call.serve platform draws auth]) := by
  have begun := Pool.ReachedBy.start reached ⟨.device token call, draws, rfl⟩
  have paused : Call.serve platform draws (.device token call) =
      .step (.read (authenticateDevice platform token draws.authenticatedAt)) fun outcome =>
        (Program.done outcome).bind fun auth => call.serve platform draws auth := by
    show (Relay.check call.precheck >>= _) = _
    rw [checked]
    rfl
  have ran : (Action.read (authenticateDevice platform token draws.authenticatedAt)).run platform db =
      .ok (auth, db) := by
    simp [Action.run, known]
  rw [paused] at begun
  have read := begun.act reads
  rw [outcome_ok ran] at read
  exact read

theorem resume {request : Request Unit}
    (reached : Reached platform allowed db (waiting ++ [request])) (only : request.Only allowed)
    (returns : Returns platform request db () next) : Reached platform allowed next waiting := by
  have finished := Pool.ReachedBy.finish reached only
  rw [returns, List.append_nil] at finished
  exact finished

end Reached

/-! ### Actions of some calls -/

/-- The actions that register accounts and open workspaces. -/
def Founding : (β : Type) → Action β → Prop
  | _, .read _ => True
  | _, .insertAccount _ => True
  | _, .insertAccountSession _ => True
  | _, .pruneAccountSessions _ _ => True
  | _, .insertEmailVerification _ => True
  | _, .pruneEmailVerifications _ _ => True
  | _, .bootstrapWorkspace _ _ _ _ _ _ _ => True
  | _, _ => False

/-- The actions that have no room as their subject. -/
def Roomless : (β : Type) → Action β → Prop
  | _, .createRoom _ _ _ => False
  | _, .upsertRoomInvitation _ _ _ => False
  | _, .joinRoom _ _ _ _ => False
  | _, .leaveRoom _ _ _ => False
  | _, .grantControl _ _ _ _ _ _ => False
  | _, .revokeControl _ _ => False
  | _, .closeRoom _ _ _ => False
  | _, .commitFrame _ _ _ _ _ => False
  | _, _ => True

theorem Founding.roomless {β : Type} {action : Action β} (founding : Founding β action) : Roomless β action := by
  cases action <;> trivial

theorem registerAccount_founding (input : RegisterAccountInput) (requireEmailVerification : Bool) :
    (Call.serve platform draws (.registerAccount input requireEmailVerification)).Only Founding := by
  refine .discard (.lift_bind fun _ _ => .lift_bind fun _ _ => .lift_bind fun _ _ =>
    .lift_bind fun _ _ => .perform_bind trivial fun _ => ?_)
  split
  · exact .bind (.perform_bind trivial fun _ => .perform_bind trivial fun _ => .pure _)
      fun _ => .pure _
  · exact .bind (.perform_bind trivial fun _ => .perform_bind trivial fun _ =>
      .perform_bind trivial fun _ => .pure _) fun _ => .pure _

theorem bootstrapWorkspace_founding (token : String) (input : BootstrapWorkspaceInput) :
    (Call.serve platform draws (.bootstrapWorkspace token input)).Only Founding :=
  .perform_bind trivial fun _ => .discard (.lift_bind fun _ _ => .lift_bind fun _ _ =>
    .lift_bind fun _ _ => .lift_bind fun _ _ => .perform trivial)

theorem createWorkspaceInvitation_roomless (token workspaceId : String)
    (input : CreateWorkspaceInvitationInput) :
    (Call.serve platform draws
      (.device token (.createWorkspaceInvitation workspaceId input))).Only Roomless :=
  .lift_bind fun _ _ => .perform_bind trivial fun _ => .discard (.lift_bind fun _ _ =>
    .lift_bind fun _ _ => .lift_bind fun _ _ => .lift_bind fun _ _ => .lift_bind fun _ _ =>
    .perform_bind trivial fun _ => .perform_bind trivial fun _ => .lift_bind fun _ _ =>
    .perform_bind trivial fun _ => .pure _)

theorem acceptWorkspaceInvitation_roomless (token : String) (input : AcceptWorkspaceInvitationInput) :
    (Call.serve platform draws (.acceptWorkspaceInvitation token input)).Only Roomless :=
  .perform_bind trivial fun _ => .discard (.lift_bind fun _ _ => .lift_bind fun _ _ =>
    .perform trivial)

theorem updateMember_roomless (token workspaceId memberId : String) (input : UpdateMemberInput) :
    (Call.serve platform draws (.device token (.updateMember workspaceId memberId input))).Only
      Roomless :=
  .lift_bind fun _ _ => .perform_bind trivial fun _ => .discard (.lift_bind fun _ _ =>
    .lift_bind fun _ _ => .lift_bind fun _ _ => .perform trivial)

end Relay

end CNShell
