import CNShell.Relay.Service

/-! What a successful action found and what it leaves, read off each statement and transaction. -/

namespace CNShell

namespace Relay

variable {platform : Platform} {db next : Db}

/-! ### Accounts -/

variable {u : Unit}

theorem insertAccount_eq_ok {account : Account} :
    insertAccount account db = .ok (u, next) ↔
      (∀ held ∈ db.accounts.rows, held.email ≠ account.email) ∧
        ∃ accounts, db.accounts.insert account = some accounts ∧ next = { db with accounts } := by
  simp only [insertAccount, bind_eq_ok, ensure_eq_ok, required_eq_ok, pure_eq_ok, exists_const,
    Prod.mk.injEq, true_and, not_exists, not_and, eq_comm (b := next), ne_eq]

theorem insertAccountSession_eq_ok {session : AccountSession} :
    insertAccountSession session db = .ok (u, next) ↔
      (∀ held ∈ db.accountSessions.rows, held.tokenHash ≠ session.tokenHash) ∧
        ∃ accountSessions, db.accountSessions.insert session = some accountSessions ∧
          (db.accounts.find? session.accountId).isSome = true ∧
          next = { db with accountSessions } := by
  simp only [insertAccountSession, bind_eq_ok, ensure_eq_ok, required_eq_ok, pure_eq_ok,
    exists_const, Prod.mk.injEq, true_and, not_exists, not_and, eq_comm (b := next), ne_eq]

theorem insertEmailVerification_eq_ok {verification : EmailVerification} :
    insertEmailVerification verification db = .ok (u, next) ↔
      (∀ held ∈ db.emailVerifications.rows, held.tokenHash ≠ verification.tokenHash) ∧
        ∃ emailVerifications,
          db.emailVerifications.insert verification = some emailVerifications ∧
          (db.accounts.find? verification.accountId).isSome = true ∧
          next = { db with emailVerifications } := by
  simp only [insertEmailVerification, bind_eq_ok, ensure_eq_ok, required_eq_ok, pure_eq_ok,
    exists_const, Prod.mk.injEq, true_and, not_exists, not_and, eq_comm (b := next), ne_eq]

variable {now : Instant} {hash : String}

variable {accountId : String}

theorem verifyEmail_ok (done : verifyEmail hash now db = .ok (accountId, next)) :
    ∃ accounts, accounts = db.accounts.update
        (fun account => account.id = accountId ∧ account.emailVerifiedAt = none)
        ⟨fun account => { account with emailVerifiedAt := some now }, fun _ => rfl⟩ ∧
      next = useEmailVerifications accountId now { db with accounts } := by
  simp only [verifyEmail, bind_eq_ok, required_eq_ok, pure_eq_ok, Prod.mk.injEq] at done
  obtain ⟨verification, -, account, -, rfl, rfl⟩ := done
  exact ⟨_, rfl, rfl⟩

/-- The accounts that another verification email may be sent for. -/
def resendDue (email : String) (now : Instant) (account : Account) : Bool :=
  account.email = email ∧ account.status = .active ∧ account.emailVerifiedAt = none ∧
    (account.emailVerificationSentAt.all fun sentAt => sentAt ≤ now - seconds emailResendSeconds)

theorem verifyEmail_found (done : verifyEmail hash now db = .ok (accountId, next)) :
    ∃ verification ∈ db.emailVerifications.rows, verification.tokenHash = hash ∧
      verification.accountId = accountId ∧ verification.usedAt = none := by
  simp only [verifyEmail, bind_eq_ok, required_eq_ok, pure_eq_ok, Prod.mk.injEq] at done
  obtain ⟨verification, found, account, -, rfl, -⟩ := done
  obtain ⟨same, unused, -⟩ : _ ∧ _ ∧ _ := by simpa using List.find?_some found
  exact ⟨verification, List.mem_of_find?_eq_some found, same, rfl, unused⟩

variable {email : String}

theorem resendVerificationEmail_sent {verificationId : String}
    {sent : Bool} (done : resendVerificationEmail email verificationId hash now db =
      .ok (sent, next)) : (sent = false ∧ next = db) ∨ sent = true ∧ ∃ account,
      db.accounts.rows.find? (resendDue email now) = some account ∧
      (∃ verifications, next = { db with
        accounts := db.accounts.update (resendDue email now)
          ⟨fun account => { account with emailVerificationSentAt := some now }, fun _ => rfl⟩
        emailVerifications := verifications }) ∧
      ∀ row ∈ next.emailVerifications.rows,
        (∃ held ∈ db.emailVerifications.rows, row.accountId = held.accountId ∧
          row.tokenHash = held.tokenHash ∧
          (row.usedAt = none → held.usedAt = none ∧ held.accountId ≠ account.id)) ∨
        (row.accountId = account.id ∧ row.tokenHash = hash) := by
  unfold resendVerificationEmail at done
  simp only at done
  split at done
  · simp only [pure_eq_ok, Prod.mk.injEq] at done
    exact .inl ⟨done.1.symm, done.2.symm⟩
  · right
    rename_i account found
    simp only [bind_eq_ok, Prod.exists, pruneEmailVerifications, pure_eq_ok, Prod.mk.injEq] at done
    obtain ⟨_, inserted, placed, _, pruned, ⟨-, rfl⟩, rfl, rfl⟩ := done
    obtain ⟨-, verifications, grown, -, rfl⟩ := insertEmailVerification_eq_ok.mp placed
    refine ⟨rfl, account, found, ⟨_, rfl⟩, fun row member => ?_⟩
    rcases (Table.mem_insert grown).mp (Table.mem_delete.mp member).1 with old | rfl
    · -- The verifications that were stored before are used up when they are the account's.
      left
      simp only [useEmailVerifications] at old
      obtain ⟨held, stored, rfl⟩ := Table.mem_update.mp old
      refine ⟨held, stored, ?_⟩
      split
      · refine ⟨rfl, rfl, fun unused => ?_⟩
        cases kept : held.usedAt <;> simp [kept] at unused
      · rename_i other
        exact ⟨rfl, rfl, fun unused => ⟨unused, by simpa using other⟩⟩
    · exact .inr ⟨rfl, rfl⟩

theorem resendVerificationEmail_ok {verificationId : String}
    {sent : Bool} (done : resendVerificationEmail email verificationId hash now db = .ok (sent, next)) :
    next = db ∨ ∃ selected : Account → Bool, ∃ verifications,
      next = { db with
        accounts := db.accounts.update selected
          ⟨fun account => { account with emailVerificationSentAt := some now }, fun _ => rfl⟩
        emailVerifications := verifications } ∧
      ∀ row ∈ verifications.rows, (∃ held ∈ db.emailVerifications.rows, row.accountId = held.accountId) ∨
        ∃ account ∈ db.accounts.rows, account.id = row.accountId := by
  rcases resendVerificationEmail_sent done with ⟨-, same⟩ | ⟨-, account, found, ⟨_, rfl⟩, rows⟩
  · exact .inl same
  · refine .inr ⟨_, _, rfl, fun row member => ?_⟩
    rcases rows row member with ⟨held, stored, same, -⟩ | ⟨same, -⟩
    · exact .inl ⟨held, stored, same⟩
    · exact .inr ⟨account, List.mem_of_find?_eq_some found, same.symm⟩

/-! ### Devices and their sessions -/

def registeredDevice (workspaceId memberId name : String) (device : DeviceRegistration)
    (now : Instant) : Device where
  id := device.id
  workspaceId
  memberId
  name
  encryptionPublicKey := device.encryptionPublicKey
  signingPublicKey := device.signingPublicKey
  fingerprint := device.fingerprint
  status := .active
  createdAt := now

variable {workspaceId memberId : String}

theorem insertDevice_eq_ok {device : DeviceRegistration} :
    insertDevice workspaceId memberId device now db = .ok next ↔
      ∃ name devices, cleanName device.name "设备名称" = .ok name ∧
        db.devices.insert (registeredDevice workspaceId memberId name device now) = some devices ∧
        db.hasWorkspace workspaceId = true ∧ db.hasMember memberId = true ∧
        next = { db with devices } := by
  simp only [insertDevice, bind_eq_ok, ensure_eq_ok, required_eq_ok, pure_eq_ok, exists_const,
    eq_comm (b := next), registeredDevice, and_assoc, exists_and_left]

def issuedSession (platform : Platform) (request : SessionRequest) : DeviceSession where
  id := request.sessionId
  deviceId := request.deviceId
  tokenHash := (newToken platform "device-session" request.random).2
  expiresAt := request.now + minutes deviceSessionMinutes
  revokedAt := none
  createdAt := request.now

/-- The sessions that outlive the issue of a new one. -/
def keptSessions (request : SessionRequest) (sessions : Table DeviceSession.id) : Table DeviceSession.id :=
  let kept := (newest DeviceSession.createdAt maxDeviceSessions
    (sessions.rows.filter fun session => session.deviceId = request.deviceId)).map DeviceSession.id
  sessions.delete fun session =>
    session.expiresAt ≤ request.now ∨ session.deviceId = request.deviceId ∧ session.id ∉ kept

theorem issueDeviceSession_eq_ok {request : SessionRequest} {output : DeviceSessionOutput} :
    issueDeviceSession platform request db = .ok (output, next) ↔
      (∀ held ∈ db.deviceSessions.rows, held.tokenHash ≠ (issuedSession platform request).tokenHash) ∧
        ∃ sessions, db.deviceSessions.insert (issuedSession platform request) = some sessions ∧
          db.hasDevice request.deviceId = true ∧
          output =
            { workspaceId := request.workspaceId
              memberId := request.memberId
              deviceId := request.deviceId
              role := request.role
              keyEpoch := request.keyEpoch
              token := (newToken platform "device-session" request.random).1
              expiresAt := request.now + minutes deviceSessionMinutes } ∧
          next = { db with deviceSessions := keptSessions request sessions } := by
  simp only [issueDeviceSession, bind_eq_ok, ensure_eq_ok, required_eq_ok, pure_eq_ok,
    exists_const, Prod.mk.injEq, not_exists, not_and, eq_comm (b := next), eq_comm (b := output),
    issuedSession, keptSessions, ne_eq]

/-- The request that opens the owner's first session. -/
def bootstrapSession (input : BootstrapWorkspaceInput) (sessionId : String) (random : List UInt8)
    (issuedAt : Instant) : SessionRequest where
  workspaceId := input.workspaceId
  memberId := input.memberId
  deviceId := input.device.id
  role := .owner
  keyEpoch := 1
  sessionId
  random
  now := issuedAt

def firstOwner (account : AccountAuth) (input : BootstrapWorkspaceInput) (now : Instant) : Member where
  id := input.memberId
  workspaceId := input.workspaceId
  accountId := account.accountId
  displayName := account.displayName
  role := .owner
  status := .active
  joinedAt := now

variable {sessionId : String}

variable {output : DeviceSessionOutput} {account : AccountAuth}

theorem bootstrapWorkspace_eq_ok {input : BootstrapWorkspaceInput}
    {workspaceName : String} {random : List UInt8} {issuedAt : Instant} :
    bootstrapWorkspace platform account input workspaceName sessionId random now issuedAt db = .ok (output, next) ↔
      (db.members.count fun member =>
          member.accountId = account.accountId ∧ member.role = .owner ∧ member.status = .active ∧
            (db.workspaces.find? member.workspaceId).any fun workspace =>
              workspace.status = .active) < maxAccountWorkspaces ∧
        ∃ workspaces members opened,
          db.workspaces.insert ⟨input.workspaceId, workspaceName, 1, .active⟩ = some workspaces ∧
          (∀ held ∈ db.members.rows, held.workspaceId = input.workspaceId → held.accountId ≠ account.accountId) ∧
          db.members.insert (firstOwner account input now) = some members ∧
          (db.accounts.find? account.accountId).isSome = true ∧
          insertDevice input.workspaceId input.memberId input.device now
            { db with workspaces, members } = .ok opened ∧
          issueDeviceSession platform (bootstrapSession input sessionId random issuedAt) opened =
            .ok (output, next) := by
  simp only [bootstrapWorkspace, audit, bind_eq_ok, ensure_eq_ok, required_eq_ok, exists_const,
    not_exists, not_and, firstOwner, bootstrapSession, ne_eq]
  constructor
  · rintro ⟨few, workspaces, opened, alone, members, joined, known, withDevice, device, -, issued⟩
    exact ⟨few, workspaces, members, withDevice, opened, alone, joined, known, device, issued⟩
  · rintro ⟨few, workspaces, members, withDevice, opened, alone, joined, known, device, issued⟩
    -- The audit event's references were checked when the device was inserted.
    obtain ⟨_, devices, -, -, workspace, member, rfl⟩ := insertDevice_eq_ok.mp device
    exact ⟨few, workspaces, opened, alone, members, joined, known, _, device, ⟨workspace, member⟩, issued⟩

/-! ### Workspaces -/

variable {invitation : WorkspaceInvitation}

theorem insertWorkspaceInvitation_eq_ok :
    insertWorkspaceInvitation invitation db = .ok (u, next) ↔
      (∀ held ∈ db.workspaceInvitations.rows, held.tokenHash ≠ invitation.tokenHash) ∧
        ∃ workspaceInvitations,
          db.workspaceInvitations.insert invitation = some workspaceInvitations ∧
          db.hasWorkspace invitation.workspaceId = true ∧
          db.hasMember invitation.invitedByMemberId = true ∧
          next = { db with workspaceInvitations } := by
  simp only [insertWorkspaceInvitation, bind_eq_ok, ensure_eq_ok, required_eq_ok, pure_eq_ok,
    exists_const, Prod.mk.injEq, true_and, not_exists, not_and, eq_comm (b := next), ne_eq, and_assoc]

variable {epoch : Int}

theorem advanceEpoch_eq_ok :
    advanceEpoch workspaceId db = .ok (epoch, next) ↔
      ∃ workspace, db.workspaces.find? workspaceId = some workspace ∧ workspace.status = .active ∧
        InI64 (workspace.keyEpoch + 1) ∧ epoch = workspace.keyEpoch + 1 ∧
        next = raiseEpoch workspaceId db := by
  simp only [advanceEpoch, bind_eq_ok, required_eq_ok, Option.filter_eq_some_iff,
    decide_eq_true_eq, decodeI64_eq_ok, pure_eq_ok, Prod.mk.injEq, and_assoc,
    eq_comm (b := next)]
  constructor
  · rintro ⟨workspace, found, active, read, fits, rfl, rfl, same⟩
    exact ⟨workspace, found, active, fits, rfl, same⟩
  · rintro ⟨workspace, found, active, fits, rfl, same⟩
    exact ⟨workspace, found, active, _, fits, rfl, rfl, same⟩

/-- The session request of an acceptance, for the key epoch it leaves. -/
def acceptSession (device : DeviceRegistration) (draws : AcceptDraws)
    (invitation : WorkspaceInvitation) (keyEpoch : Int) : SessionRequest where
  workspaceId := invitation.workspaceId
  memberId := invitation.memberId
  deviceId := device.id
  role := invitation.role
  keyEpoch
  sessionId := draws.sessionId
  random := draws.random
  now := draws.issuedAt

/-- What a first acceptance leaves apart from the session it issues. -/
def joinedWorkspace (invitation : WorkspaceInvitation) (now : Instant) (db : Db) : Db :=
  closeWorkspaceRooms invitation.workspaceId now
    (raiseEpoch invitation.workspaceId (markAccepted invitation.id now db))

variable {draws : AcceptDraws} {device : DeviceRegistration}

theorem acceptFresh_eq_ok :
    acceptFresh platform account device draws invitation db = .ok (output, next) ↔
      (db.members.count fun member =>
          member.workspaceId = invitation.workspaceId ∧ member.status = .active) <
          maxWorkspaceMembers ∧
        (∀ held ∈ db.members.rows, held.workspaceId = invitation.workspaceId → held.accountId ≠ account.accountId) ∧
        ∃ members admitted workspace,
          db.members.insert (invitedMember invitation account draws.now) = some members ∧
          (db.accounts.find? account.accountId).isSome = true ∧
          insertDevice invitation.workspaceId invitation.memberId device draws.now
            { db with members } = .ok admitted ∧
          db.workspaces.find? invitation.workspaceId = some workspace ∧
          workspace.status = .active ∧ InI64 (workspace.keyEpoch + 1) ∧
          issueDeviceSession platform
              (acceptSession device draws invitation (workspace.keyEpoch + 1))
              (joinedWorkspace invitation draws.now admitted) =
            .ok (output, next) := by
  simp only [acceptFresh, audit, bind_eq_ok, ensure_eq_ok, required_eq_ok, exists_const,
    not_exists, not_and, Prod.exists, acceptSession, joinedWorkspace, ne_eq]
  constructor
  · rintro ⟨few, alone, members, joined, ⟨-, known⟩, admitted, device, epoch, raised, advanced, -, issued⟩
    obtain ⟨_, devices, -, -, -, -, rfl⟩ := insertDevice_eq_ok.mp device
    obtain ⟨workspace, found, active, fits, rfl, rfl⟩ := advanceEpoch_eq_ok.mp advanced
    exact ⟨few, alone, members, _, workspace, joined, known, device, found, active, fits, issued⟩
  · rintro ⟨few, alone, members, admitted, workspace, joined, known, device, found, active, fits, issued⟩
    -- The inserted device's references are those of the member and of the audit event.
    obtain ⟨_, devices, -, -, stored, owned, rfl⟩ := insertDevice_eq_ok.mp device
    have raised : (raiseEpoch invitation.workspaceId
        (markAccepted invitation.id draws.now { db with members, devices })).hasWorkspace
          invitation.workspaceId = true := by
      simp only [raiseEpoch, markAccepted, Db.hasWorkspace, Table.find?_update, Option.isSome_map]
      exact stored
    exact ⟨few, alone, members, joined, ⟨stored, known⟩, _, device, _, _,
      advanceEpoch_eq_ok.mpr ⟨workspace, found, active, fits, rfl, rfl⟩, ⟨raised, owned⟩, issued⟩

theorem acceptAgain_eq_ok :
    acceptAgain platform account device draws invitation db = .ok (output, next) ↔
      ∃ member row workspace,
        db.members.find? invitation.memberId = some member ∧
        member.workspaceId = invitation.workspaceId ∧ member.accountId = account.accountId ∧
        member.status = .active ∧
        db.devices.find? device.id = some row ∧ row.memberId = invitation.memberId ∧
        row.workspaceId = invitation.workspaceId ∧ row.name = device.name ∧
        row.encryptionPublicKey = device.encryptionPublicKey ∧
        row.signingPublicKey = device.signingPublicKey ∧ row.fingerprint = device.fingerprint ∧
        row.status = .active ∧
        db.workspaces.find? invitation.workspaceId = some workspace ∧ workspace.status = .active ∧
        issueDeviceSession platform (acceptSession device draws invitation workspace.keyEpoch) db =
          .ok (output, next) := by
  simp only [acceptAgain, bind_eq_ok, required_eq_ok, Option.filter_eq_some_iff, decide_eq_true_eq, acceptSession]
  constructor
  · intro given
    obtain ⟨member, ⟨found, own, account, active⟩, row, ⟨held, owner, place, name, encryption,
      signing, fingerprint, usable⟩, workspace, ⟨stored, live⟩, issued⟩ := given
    exact ⟨member, row, workspace, found, own, account, active, held, owner, place, name, encryption,
      signing, fingerprint, usable, stored, live, issued⟩
  · intro given
    obtain ⟨member, row, workspace, found, own, account, active, held, owner, place, name,
      encryption, signing, fingerprint, usable, stored, live, issued⟩ := given
    exact ⟨member, ⟨found, own, account, active⟩, row, ⟨held, owner, place, name, encryption, signing,
      fingerprint, usable⟩, workspace, ⟨stored, live⟩, issued⟩

theorem acceptAgain_ok (done : acceptAgain platform account device draws invitation db = .ok (output, next)) :
    ∃ keyEpoch, issueDeviceSession platform (acceptSession device draws invitation keyEpoch) db =
      .ok (output, next) := by
  obtain ⟨_, _, workspace, -, -, -, -, -, -, -, -, -, -, -, -, -, -, issued⟩ :=
    acceptAgain_eq_ok.mp done
  exact ⟨workspace.keyEpoch, issued⟩

theorem acceptWorkspaceInvitation_eq_ok {input : AcceptWorkspaceInvitationInput} :
    acceptWorkspaceInvitation platform account input draws db = .ok (output, next) ↔
      ∃ invitation,
        (db.workspaceInvitations.rows.find? fun row =>
          row.tokenHash = tokenHash platform "workspace-invitation" input.token ∧
            row.revokedAt = none ∧ draws.checkedAt < row.expiresAt) = some invitation ∧
        invitation.email = account.email ∧
        if invitation.acceptedAt ≠ none then
          acceptAgain platform account input.device draws invitation db = .ok (output, next)
        else acceptFresh platform account input.device draws invitation db = .ok (output, next) := by
  simp only [acceptWorkspaceInvitation, bind_eq_ok, required_eq_ok, ensure_eq_ok, exists_const]
  refine exists_congr fun invitation => and_congr_right fun _ => and_congr_right fun _ => ?_
  split <;> rfl

theorem acceptWorkspaceInvitation_ok {input : AcceptWorkspaceInvitationInput}
    (done : acceptWorkspaceInvitation platform account input draws db = .ok (output, next)) :
    ∃ invitation,
      (db.workspaceInvitations.rows.find? fun row =>
        row.tokenHash = tokenHash platform "workspace-invitation" input.token ∧
          row.revokedAt = none ∧ draws.checkedAt < row.expiresAt) = some invitation ∧
      ((∃ sessions, next = { db with deviceSessions := sessions }) ∨
        invitation.acceptedAt = none ∧ ∃ members name devices workspace sessions,
          db.members.insert (invitedMember invitation account draws.now) = some members ∧
          cleanName input.device.name "设备名称" = .ok name ∧
          db.devices.insert (registeredDevice invitation.workspaceId invitation.memberId name input.device draws.now) =
            some devices ∧
          db.workspaces.find? invitation.workspaceId = some workspace ∧
          next = { joinedWorkspace invitation draws.now { db with members, devices } with deviceSessions := sessions }) := by
  obtain ⟨invitation, found, -, accepted⟩ := acceptWorkspaceInvitation_eq_ok.mp done
  refine ⟨invitation, found, ?_⟩
  split at accepted
  · obtain ⟨_, issued⟩ := acceptAgain_ok accepted
    obtain ⟨-, sessions, -, -, -, rfl⟩ := issueDeviceSession_eq_ok.mp issued
    exact .inl ⟨_, rfl⟩
  · rename_i first
    obtain ⟨-, -, members, _, workspace, joined, -, device, there, -, -, issued⟩ := acceptFresh_eq_ok.mp accepted
    obtain ⟨name, devices, clean, registered, -, -, rfl⟩ := insertDevice_eq_ok.mp device
    obtain ⟨-, sessions, -, -, -, rfl⟩ := issueDeviceSession_eq_ok.mp issued
    exact .inr ⟨not_not.mp first, members, name, devices, workspace, _, joined, clean, registered, there, rfl⟩

variable {auth : DeviceAuth}

theorem updateMember_eq_ok {role : Role} {status : MemberStatus} :
    updateMember auth workspaceId memberId role status now db = .ok (epoch, next) ↔
      ∃ current workspace,
        db.members.find? memberId = some current ∧ current.workspaceId = workspaceId ∧
        checkMemberUpdate auth workspaceId role status current db = .ok () ∧
        db.workspaces.find? workspaceId = some workspace ∧ workspace.status = .active ∧
        InI64 (workspace.keyEpoch + 1) ∧ db.hasMember auth.memberId = true ∧
        epoch = workspace.keyEpoch + 1 ∧
        next = closeWorkspaceRooms workspaceId now (raiseEpoch workspaceId
          (applyMemberUpdate workspaceId memberId role status now db)) := by
  have workspaces : (applyMemberUpdate workspaceId memberId role status now db).workspaces = db.workspaces := by
    unfold applyMemberUpdate
    split <;> rfl
  have members : (applyMemberUpdate workspaceId memberId role status now db).members =
      (changeMember workspaceId memberId role status db).members := by
    unfold applyMemberUpdate
    split <;> rfl
  simp only [updateMember, audit, bind_eq_ok, ensure_eq_ok, required_eq_ok, pure_eq_ok,
    Option.filter_eq_some_iff, decide_eq_true_eq, Prod.exists, Prod.mk.injEq, exists_const,
    advanceEpoch_eq_ok, workspaces]
  constructor
  · rintro ⟨current, ⟨found, own⟩, _, allowed, _, _, ⟨workspace, stored, active, fits, rfl, rfl⟩,
      ⟨-, acting⟩, rfl, rfl⟩
    refine ⟨current, workspace, found, own, allowed, stored, active, fits, ?_, rfl, rfl⟩
    simpa [Db.hasMember, closeWorkspaceRooms, raiseEpoch, members, changeMember, Table.find?_update] using acting
  · rintro ⟨current, workspace, found, own, allowed, stored, active, fits, acting, rfl, rfl⟩
    refine ⟨current, ⟨found, own⟩, _, allowed, _, _, ⟨workspace, stored, active, fits, rfl, rfl⟩, ⟨?_, ?_⟩, rfl, rfl⟩
    · simp [Db.hasWorkspace, closeWorkspaceRooms, raiseEpoch, workspaces, Table.find?_update, stored]
    · simpa [Db.hasMember, closeWorkspaceRooms, raiseEpoch, members, changeMember, Table.find?_update] using acting

theorem revokeDevice_eq_ok {deviceId : String} :
    revokeDevice auth workspaceId deviceId now db = .ok (epoch, next) ↔
      ∃ device workspace,
        db.devices.find? deviceId = some device ∧ device.workspaceId = workspaceId ∧
        device.status = .active ∧
        db.workspaces.find? workspaceId = some workspace ∧ workspace.status = .active ∧
        InI64 (workspace.keyEpoch + 1) ∧ db.hasMember auth.memberId = true ∧
        epoch = workspace.keyEpoch + 1 ∧
        next = closeWorkspaceRooms workspaceId now (raiseEpoch workspaceId
          (applyRevocation workspaceId deviceId now db)) := by
  have counted : db.devices.count (revocable workspaceId deviceId) = 1 ↔
      ∃ device, db.devices.find? deviceId = some device ∧ revocable workspaceId deviceId device = true :=
    Table.count_eq_one fun device chosen => by
      simp only [revocable, decide_eq_true_eq] at chosen
      exact chosen.1
  simp only [revokeDevice, audit, bind_eq_ok, ensure_eq_ok, pure_eq_ok, Prod.exists,
    Prod.mk.injEq, exists_const, advanceEpoch_eq_ok, counted]
  constructor
  · rintro ⟨⟨device, found, chosen⟩, _, _, ⟨workspace, stored, active, fits, rfl, rfl⟩, ⟨-, acting⟩, rfl, rfl⟩
    simp only [revocable, decide_eq_true_eq] at chosen
    exact ⟨device, workspace, found, chosen.2.1, chosen.2.2, stored, active, fits, acting, rfl, rfl⟩
  · rintro ⟨device, workspace, found, own, usable, stored, active, fits, acting, rfl, rfl⟩
    refine ⟨⟨device, found, ?_⟩, _, _, ⟨workspace, stored, active, fits, rfl, rfl⟩, ⟨?_, acting⟩, rfl, rfl⟩
    · simp [revocable, own, usable, (Table.find?_some found).2]
    · simp [Db.hasWorkspace, closeWorkspaceRooms, raiseEpoch, applyRevocation, Table.find?_update, stored]

theorem deleteWorkspace_eq_ok :
    deleteWorkspace workspaceId db = .ok (u, next) ↔
      db.hasWorkspace workspaceId = true ∧ (db.dropWorkspace workspaceId).References ∧
        next = db.dropWorkspace workspaceId := by
  simp only [deleteWorkspace, bind_eq_ok, ensure_eq_ok, pure_eq_ok, exists_const, Prod.mk.injEq,
    true_and, eq_comm (b := next)]

theorem insertDeviceChallenge_eq_ok {challenge : DeviceChallenge} :
    insertDeviceChallenge challenge db = .ok (u, next) ↔
      ∃ deviceChallenges, db.deviceChallenges.insert challenge = some deviceChallenges ∧
        db.hasDevice challenge.deviceId = true ∧ next = { db with deviceChallenges } := by
  simp only [insertDeviceChallenge, bind_eq_ok, ensure_eq_ok, required_eq_ok, pure_eq_ok,
    exists_const, Prod.mk.injEq, true_and, eq_comm (b := next)]

def challengedSession (device : Device) (member : Member) (workspace : Workspace)
    (sessionId : String) (random : List UInt8) (issuedAt : Instant) : SessionRequest where
  workspaceId := device.workspaceId
  memberId := device.memberId
  deviceId := device.id
  role := member.role
  keyEpoch := workspace.keyEpoch
  sessionId
  random
  now := issuedAt

variable {input : CreateDeviceSessionInput}

variable {output : DeviceSessionOutput} {random : List UInt8}

theorem createDeviceSession_eq_ok {checkedAt issuedAt : Instant} :
    createDeviceSession platform input checkedAt now issuedAt sessionId random db = .ok (output, next) ↔
      ∃ challenge device member workspace,
        db.deviceChallenges.find? input.challengeId = some challenge ∧ challenge.usedAt = none ∧
        checkedAt < challenge.expiresAt ∧
        db.devices.find? challenge.deviceId = some device ∧ device.status = .active ∧
        db.members.find? device.memberId = some member ∧
        member.workspaceId = device.workspaceId ∧ member.status = .active ∧
        db.workspaces.find? device.workspaceId = some workspace ∧ workspace.status = .active ∧
        tokenHash platform "device-challenge" input.challenge = challenge.challengeHash ∧
        verifyDeviceSessionSignature platform device.signingPublicKey input = .ok () ∧
        issueDeviceSession platform
            (challengedSession device member workspace sessionId random issuedAt)
            (useChallenge input.challengeId now db) =
          .ok (output, next) := by
  simp only [createDeviceSession, bind_eq_ok, required_eq_ok, ensure_eq_ok, exists_const,
    Option.filter_eq_some_iff, decide_eq_true_eq, challengedSession, useChallenge]
  constructor
  · intro given
    obtain ⟨challenge, ⟨asked, unused, fresh⟩, device, ⟨found, usable⟩, member, ⟨held, own,
      active⟩, workspace, ⟨stored, live⟩, hashed, _, signed, issued⟩ := given
    exact ⟨challenge, device, member, workspace, asked, unused, fresh, found, usable, held, own, active,
      stored, live, hashed, signed, issued⟩
  · intro given
    obtain ⟨challenge, device, member, workspace, asked, unused, fresh, found, usable, held, own,
      active, stored, live, hashed, signed, issued⟩ := given
    exact ⟨challenge, ⟨asked, unused, fresh⟩, device, ⟨found, usable⟩, member, ⟨held, own, active⟩,
      workspace, ⟨stored, live⟩, hashed, (), signed, issued⟩

theorem createDeviceSession_ok {checkedAt issuedAt : Instant}
    (done : createDeviceSession platform input checkedAt now issuedAt sessionId random db = .ok (output, next)) :
    ∃ request, issueDeviceSession platform request (useChallenge input.challengeId now db) = .ok (output, next) := by
  obtain ⟨_, device, member, workspace, -, -, -, -, -, -, -, -, -, -, -, -, issued⟩ :=
    createDeviceSession_eq_ok.mp done
  exact ⟨_, issued⟩

/-! ### Rooms -/

def trimRooms (workspaceId : String) (db : Db) : Db := db.dropRooms (surplusRooms workspaceId db)

theorem createRoom_eq_ok {auth : DeviceAuth} {input : CreateRoomInput} {view : RoomView} :
    createRoom auth input now db = .ok (view, next) ↔
      ((trimRooms auth.workspaceId db).terminalRooms.count fun room =>
          room.workspaceId = auth.workspaceId ∧ room.status = .active) < maxActiveRooms ∧
        ∃ terminalRooms roomParticipants,
          (trimRooms auth.workspaceId db).terminalRooms.insert (openedRoom auth input) = some terminalRooms ∧
          (trimRooms auth.workspaceId db).roomParticipants.insert
            (hostParticipant auth input.roomId now) = some roomParticipants ∧
          db.hasWorkspace auth.workspaceId = true ∧ db.hasMember auth.memberId = true ∧
          db.hasDevice auth.deviceId = true ∧
          view = TerminalRoom.view (openedRoom auth input) ∧
          next = { trimRooms auth.workspaceId db with terminalRooms, roomParticipants } := by
  simp only [createRoom, audit, bind_eq_ok, ensure_eq_ok, required_eq_ok, pure_eq_ok,
    exists_const, Prod.mk.injEq, trimRooms]
  constructor
  · rintro ⟨few, rooms, opened, ⟨workspace, member, device⟩, participants, hosted, -, rfl, rfl⟩
    exact ⟨few, rooms, participants, opened, hosted, workspace, member, device, rfl, rfl⟩
  · rintro ⟨few, rooms, participants, opened, hosted, workspace, member, device, rfl, rfl⟩
    exact ⟨few, rooms, opened, ⟨workspace, member, device⟩, participants, hosted, ⟨workspace, member⟩, rfl, rfl⟩

@[simp] theorem Role.allows_terminalView (role : Role) : role.allows .terminalView = true := by
  cases role <;> rfl

variable {roomId : String}

variable {view : RoomView} {auth : DeviceAuth}

theorem authorizeRoom_eq_ok :
    authorizeRoom auth roomId db = .ok view ↔
      ∃ room participant,
        db.terminalRooms.find? roomId = some room ∧
        db.roomParticipants.find? (roomId, auth.deviceId) = some participant ∧
        participant.memberId = auth.memberId ∧ participant.removedAt = none ∧
        room.workspaceId = auth.workspaceId ∧ room.keyEpoch = auth.keyEpoch ∧
        room.status = .active ∧ view = TerminalRoom.view room := by
  simp only [authorizeRoom, requireDevicePermission, requirePermission, Role.allows_terminalView,
    bind_eq_ok, ensure_eq_ok, required_eq_ok, pure_eq_ok, exists_const, true_and,
    Option.filter_eq_some_iff, decide_eq_true_eq, TerminalRoom.view, eq_comm (b := view)]
  constructor
  · rintro ⟨room, found, participant, ⟨taking, own, present⟩, _, valid, rfl⟩
    obtain ⟨workspace, epoch, active⟩ := ensure_eq_ok.mp valid
    exact ⟨room, participant, found, taking, own, present, workspace, epoch, active, rfl⟩
  · rintro ⟨room, participant, found, taking, own, present, workspace, epoch, active, rfl⟩
    exact ⟨room, found, participant, ⟨taking, own, present⟩, (), ensure_eq_ok.mpr ⟨workspace, epoch, active⟩, rfl⟩

theorem hostRoom_eq_ok :
    hostRoom auth roomId db = .ok view ↔
      auth.role.allows .shareManage = true ∧ authorizeRoom auth roomId db = .ok view ∧
        view.hostMemberId = auth.memberId ∧ view.hostDeviceId = auth.deviceId := by
  simp only [hostRoom, requireDevicePermission, requirePermission, bind_eq_ok, ensure_eq_ok, pure_eq_ok, exists_const]
  constructor
  · rintro ⟨permitted, _, authorized, hosts, rfl⟩
    exact ⟨permitted, authorized, hosts⟩
  · rintro ⟨permitted, authorized, hosts⟩
    exact ⟨permitted, view, authorized, hosts, rfl⟩

theorem upsertRoomInvitation_eq_ok {invitation : TeamTerminalInvitation} :
    upsertRoomInvitation roomId invitation now db = .ok (u, next) ↔
      db.hasRoom roomId = true ∧ db.hasDevice invitation.recipientDeviceId = true ∧
        next = storeInvitation roomId invitation now db := by
  simp only [upsertRoomInvitation, bind_eq_ok, ensure_eq_ok, pure_eq_ok, exists_const,
    Prod.mk.injEq, true_and, and_assoc, eq_comm (b := next), storeInvitation, routedInvitation]

theorem joinRoom_eq_ok {checkedAt : Instant} :
    joinRoom platform auth roomId checkedAt now db = .ok (view, next) ↔
      ∃ room invitation,
        db.terminalRooms.find? roomId = some room ∧
        db.roomInvitations.find? (roomId, auth.deviceId) = some invitation ∧
        invitation.acceptedAt = none ∧ platform.rfc3339 checkedAt < invitation.expiresAt ∧
        room.workspaceId = auth.workspaceId ∧ room.keyEpoch = auth.keyEpoch ∧
        room.status = .active ∧ invitation.envelope.recipientMemberId = auth.memberId ∧
        invitation.envelope.recipientDeviceId = auth.deviceId ∧
        db.hasWorkspace auth.workspaceId = true ∧ db.hasMember auth.memberId = true ∧
        db.hasDevice auth.deviceId = true ∧
        view = TerminalRoom.view room ∧
        next = admitParticipant auth roomId invitation.envelope now db := by
  simp only [joinRoom, audit, bind_eq_ok, ensure_eq_ok, required_eq_ok, pure_eq_ok, exists_const,
    Prod.mk.injEq, Option.filter_eq_some_iff, decide_eq_true_eq]
  constructor
  · rintro ⟨room, found, invitation, ⟨invited, unused, fresh⟩, ⟨own, epoch, active⟩,
      ⟨member, device⟩, ⟨hasMember, hasDevice⟩, ⟨hasWorkspace, -⟩, rfl, rfl⟩
    exact ⟨room, invitation, found, invited, unused, fresh, own, epoch, active, member, device,
      hasWorkspace, hasMember, hasDevice, rfl, rfl⟩
  · rintro ⟨room, invitation, found, invited, unused, fresh, own, epoch, active, member, device,
      hasWorkspace, hasMember, hasDevice, rfl, rfl⟩
    exact ⟨room, found, invitation, ⟨invited, unused, fresh⟩, ⟨own, epoch, active⟩,
      ⟨member, device⟩, ⟨hasMember, hasDevice⟩, ⟨hasWorkspace, hasMember⟩, rfl, rfl⟩

theorem leaveRoom_eq_ok {revoked : Bool} :
    leaveRoom auth roomId now db = .ok (revoked, next) ↔
      ∃ participant,
        db.roomParticipants.find? (roomId, auth.deviceId) = some participant ∧
        participant.memberId = auth.memberId ∧ participant.removedAt = none ∧
        db.hasWorkspace auth.workspaceId = true ∧ db.hasMember auth.memberId = true ∧
        revoked = decide (0 < db.controlLeases.count fun lease =>
          lease.roomId = roomId ∧ lease.deviceId = auth.deviceId) ∧
        next = dismissParticipant auth roomId now db := by
  have counted : db.roomParticipants.count (leaving auth roomId) = 1 ↔
      ∃ row, db.roomParticipants.find? (roomId, auth.deviceId) = some row ∧ leaving auth roomId row = true :=
    Table.count_eq_one fun row chosen => by
      simp only [leaving, decide_eq_true_eq] at chosen
      simp [RoomParticipant.key, chosen]
  have unfolded : leaveRoom auth roomId now db = .ok (revoked, next) ↔
      db.roomParticipants.count (leaving auth roomId) = 1 ∧
        (db.hasWorkspace auth.workspaceId = true ∧ db.hasMember auth.memberId = true) ∧
        revoked = decide (0 < db.controlLeases.count fun lease =>
          lease.roomId = roomId ∧ lease.deviceId = auth.deviceId) ∧
        next = dismissParticipant auth roomId now db := by
    simp only [leaveRoom, audit, bind_eq_ok, ensure_eq_ok, pure_eq_ok, exists_const,
      Prod.mk.injEq, eq_comm (b := next), eq_comm (b := revoked)]
  rw [unfolded, counted]
  constructor
  · rintro ⟨⟨row, found, chosen⟩, ⟨workspace, member⟩, same, rfl⟩
    simp only [leaving, decide_eq_true_eq] at chosen
    exact ⟨row, found, chosen.2.2.1, chosen.2.2.2, workspace, member, same, rfl⟩
  · rintro ⟨row, found, own, present, workspace, member, same, rfl⟩
    have keyed := (Table.find?_some found).2
    simp only [RoomParticipant.key, Prod.mk.injEq] at keyed
    exact ⟨⟨row, found, by simp [leaving, keyed, own, present]⟩, ⟨workspace, member⟩, same, rfl⟩

theorem grantControl_eq_ok {input : GrantControlInput} {leaseId : String} {output : ControlLeaseOutput} :
    grantControl auth roomId memberId input leaseId now db = .ok (output, next) ↔
      ∃ room,
        db.terminalRooms.find? roomId = some room ∧ room.status = .active ∧
        InI64 (room.leaseGeneration + 1) ∧
        (∀ held ∈ db.controlLeases.rows, held.roomId ≠ roomId → held.leaseId ≠ leaseId) ∧
        db.hasMember memberId = true ∧ db.hasDevice input.deviceId = true ∧
        db.hasWorkspace auth.workspaceId = true ∧ db.hasMember auth.memberId = true ∧
        output =
          { leaseId
            memberId
            deviceId := input.deviceId
            generation := asU64 (room.leaseGeneration + 1)
            expiresAt := now + seconds input.durationSeconds.toNat } ∧
        next = storeLease
          (grantedLease roomId memberId input leaseId now (room.leaseGeneration + 1)) db := by
  simp only [grantControl, audit, bind_eq_ok, ensure_eq_ok, required_eq_ok, pure_eq_ok,
    exists_const, Prod.mk.injEq, Option.filter_eq_some_iff, decide_eq_true_eq, decodeI64_eq_ok,
    not_exists, not_and, ne_eq, grantedLease]
  constructor
  · rintro ⟨room, ⟨found, active⟩, _, ⟨fits, rfl⟩, fresh, ⟨member, device⟩, _, audited, rfl, rfl⟩
    obtain ⟨workspace, acting⟩ := ensure_eq_ok.mp audited
    exact ⟨room, found, active, fits, fresh, member, device, workspace, acting, rfl, rfl⟩
  · rintro ⟨room, found, active, fits, fresh, member, device, workspace, acting, rfl, rfl⟩
    exact ⟨room, ⟨found, active⟩, _, ⟨fits, rfl⟩, fresh, ⟨member, device⟩, (),
      ensure_eq_ok.mpr ⟨workspace, acting⟩, rfl, rfl⟩

theorem revokeControl_eq_ok :
    revokeControl auth roomId db = .ok (u, next) ↔
      db.hasWorkspace auth.workspaceId = true ∧ db.hasMember auth.memberId = true ∧
        next = { db with
          controlLeases := db.controlLeases.delete fun lease => lease.roomId = roomId } := by
  simp only [revokeControl, audit, bind_eq_ok, ensure_eq_ok, pure_eq_ok, exists_const,
    Prod.mk.injEq, true_and, and_assoc, eq_comm (b := next)]

theorem closeRoom_eq_ok :
    closeRoom auth roomId now db = .ok (u, next) ↔
      db.hasWorkspace auth.workspaceId = true ∧ db.hasMember auth.memberId = true ∧
        next = shutRoom roomId now db := by
  simp only [closeRoom, audit, bind_eq_ok, ensure_eq_ok, pure_eq_ok, exists_const,
    Prod.mk.injEq, true_and, and_assoc, eq_comm (b := next), shutRoom]

/-! ### Frames -/

variable {frame : TeamTerminalEncryptedFrame}

variable {prunedAt : Instant} {room : RoomView} {auth : DeviceAuth}

theorem acceptOutput_eq_ok :
    acceptOutput platform auth room frame now prunedAt db = .ok (u, next) ↔
      room.hostDeviceId = auth.deviceId ∧ frame.kind = "terminal" ∧ frame.leaseId = none ∧
        frame.leaseGeneration = 0 ∧
        ∃ stored relayFrames,
          db.terminalRooms.find? frame.roomId = some stored ∧ stored.status = .active ∧
          InI64 stored.nextOutputSequence ∧ frame.sequence = asU64 stored.nextOutputSequence ∧
          db.relayFrames.insert (storedFrame platform frame now) = some relayFrames ∧
          next = pruneReplay frame.roomId prunedAt
            { raiseOutput frame.roomId stored.nextOutputSequence db with relayFrames } := by
  simp only [acceptOutput, bind_eq_ok, ensure_eq_ok, required_eq_ok, pure_eq_ok, exists_const,
    Prod.mk.injEq, true_and, Option.filter_eq_some_iff, decide_eq_true_eq, decodeI64_eq_ok,
    and_assoc, storedFrame, raiseOutput]
  refine and_congr_right fun _ => and_congr_right fun _ => and_congr_right fun _ =>
    and_congr_right fun _ => ?_
  constructor
  · rintro ⟨stored, found, active, _, fits, rfl, expected, frames, inserted, rfl⟩
    exact ⟨stored, frames, found, active, fits, expected, inserted, rfl⟩
  · rintro ⟨stored, frames, found, active, fits, expected, inserted, rfl⟩
    exact ⟨stored, found, active, _, fits, rfl, expected, frames, inserted, rfl⟩

/-- The lease an input frame names is the one stored for its room, for its sender, unexpired. -/
def leaseCovers (auth : DeviceAuth) (frame : TeamTerminalEncryptedFrame) (now : Instant)
    (lease : ControlLease) : Prop :=
  lease.leaseId = frame.leaseId.getD "" ∧ lease.memberId = auth.memberId ∧
    lease.deviceId = auth.deviceId ∧ lease.generation = asI64 frame.leaseGeneration ∧
    now < lease.expiresAt

theorem acceptInput_eq_ok :
    acceptInput platform auth frame now db = .ok (u, next) ↔
      auth.role.allows .terminalControl = true ∧ frame.kind = "terminal" ∧
        frame.leaseGeneration ≠ 0 ∧ frame.leaseId.any platform.parsesUuid = true ∧
        ∃ participant lease,
          db.roomParticipants.find? (frame.roomId, auth.deviceId) = some participant ∧
          participant.memberId = auth.memberId ∧ participant.removedAt = none ∧
          InI64 participant.nextInputSequence ∧
          frame.sequence = asU64 participant.nextInputSequence ∧
          db.controlLeases.find? frame.roomId = some lease ∧ leaseCovers auth frame now lease ∧
          next = raiseInput frame.roomId auth.deviceId participant.nextInputSequence db := by
  simp only [acceptInput, requireDevicePermission, requirePermission, bind_eq_ok, ensure_eq_ok,
    required_eq_ok, pure_eq_ok, exists_const, Prod.mk.injEq, true_and,
    Option.filter_eq_some_iff, Option.any_eq_true, decide_eq_true_eq, decodeI64_eq_ok, and_assoc,
    raiseInput, leaseCovers]
  refine and_congr_right fun _ => and_congr_right fun _ => and_congr_right fun _ =>
    and_congr_right fun _ => ?_
  constructor
  · rintro ⟨participant, found, own, present, _, fits, rfl, expected, ⟨lease, held, covers⟩, rfl⟩
    exact ⟨participant, lease, found, own, present, fits, expected, held, covers.1, covers.2.1,
      covers.2.2.1, covers.2.2.2.1, covers.2.2.2.2, rfl⟩
  · rintro ⟨participant, lease, found, own, present, fits, expected, held, id, member, device,
      generation, unexpired, rfl⟩
    exact ⟨participant, found, own, present, _, fits, rfl, expected,
      ⟨lease, held, id, member, device, generation, unexpired⟩, rfl⟩

theorem commitFrame_ok
    (done : commitFrame platform auth room frame now prunedAt db = .ok (u, next)) : (frame.direction = "output" ∧
        acceptOutput platform auth room frame now prunedAt db = .ok (u, next)) ∨
      (frame.direction = "input" ∧ acceptInput platform auth frame now db = .ok (u, next)) := by
  unfold commitFrame at done
  split at done
  · rename_i output
    exact .inl ⟨output, done⟩
  · rename_i input
    exact .inr ⟨input, done⟩
  · cases done

end Relay

end CNShell
