import CNShell.Library.Log
import CNShell.Relay.Staffing
import CNShell.Relay.Writes

/-! Device challenges and email tokens: what accepting one of them goes back to. -/

namespace CNShell

namespace Relay

variable {platform : Platform} {db next : Db}

/-- The challenge that an action made. -/
def Entry.asks : Entry → Option String
  | (_, ⟨.insertDeviceChallenge challenge, .ok _⟩) => some challenge.id
  | _ => none

/-- The challenge that an action accepted and opened a device session for. -/
def Entry.answers : Entry → Option String
  | (_, ⟨.createDeviceSession input _ _ _ _ _, .ok _⟩) => some input.challengeId
  | _ => none

/-- The account an action resent a verification to, with the hash of the new token. -/
def Entry.resends : Entry → Option (String × String)
  | (db, ⟨.resendVerificationEmail email _ hash now, .ok true⟩) =>
      (db.accounts.rows.find? (resendDue email now)).map fun account => (account.id, hash)
  | _ => none

/-- The account an action issued a verification to, with the hash of its token. -/
def Entry.issues : Entry → Option (String × String)
  | (_, ⟨.insertEmailVerification verification, .ok _⟩) =>
      some (verification.accountId, verification.tokenHash)
  | entry => entry.resends

/-- The account whose email an action verified, with the hash of the token it accepted. -/
def Entry.verifies : Entry → Option (String × String)
  | (_, ⟨.verifyEmail hash _, .ok accountId⟩) => some (accountId, hash)
  | _ => none

/-- An action after which no earlier token of an account may be accepted. -/
def Entry.supersedes (accountId : String) (entry : Entry) : Prop :=
  ∃ hash, entry.resends = some (accountId, hash) ∨ entry.verifies = some (accountId, hash)

theorem Entry.not_supersedes {entry : Entry} (resends : entry.resends = none)
    (verifies : entry.verifies = none) (accountId : String) : ¬entry.supersedes accountId := by
  intro stopped
  obtain ⟨hash, stopped⟩ := stopped
  simp [resends, verifies] at stopped

/-- A challenge was made and not accepted since. -/
def ChallengeWaits (id : String) : List Entry → Prop :=
  Log.Since (fun entry => entry.asks = some id) fun entry => entry.answers = some id

/-- A token was issued to an account and neither superseded nor used since. -/
def TokenWaits (accountId hash : String) : List Entry → Prop :=
  Log.Since (fun entry => entry.issues = some (accountId, hash)) fun entry =>
    entry.supersedes accountId

/-- What an action accepts was waiting, and a challenge belongs to an active device and member. -/
structure AcceptsWaiting (log : List Entry) (entry : Entry) : Prop where
  challenge : ∀ id, entry.answers = some id → ChallengeWaits id log ∧
    ∃ challenge device member, entry.1.deviceChallenges.find? id = some challenge ∧
      entry.1.devices.find? challenge.deviceId = some device ∧ device.status = .active ∧
      entry.1.members.find? device.memberId = some member ∧ member.status = .active
  token : ∀ accountId hash, entry.verifies = some (accountId, hash) → TokenWaits accountId hash log

/-- Every unused challenge and verification that is stored is waiting. -/
structure Spendable (log : List Entry) (db : Db) : Prop where
  challenges : ∀ row ∈ db.deviceChallenges.rows, row.usedAt = none → ChallengeWaits row.id log
  verifications : ∀ row ∈ db.emailVerifications.rows, row.usedAt = none → TokenWaits row.accountId row.tokenHash log

namespace Spendable

variable {log : List Entry} {entry : Entry}

theorem snoc (spendable : Spendable log db)
    (challenges : ∀ row ∈ next.deviceChallenges.rows, row.usedAt = none →
      entry.asks = some row.id ∨ entry.answers ≠ some row.id ∧
        ∃ held ∈ db.deviceChallenges.rows, held.id = row.id ∧ held.usedAt = none)
    (verifications : ∀ row ∈ next.emailVerifications.rows, row.usedAt = none →
      entry.issues = some (row.accountId, row.tokenHash) ∨ ¬entry.supersedes row.accountId ∧
        ∃ held ∈ db.emailVerifications.rows, held.accountId = row.accountId ∧
          held.tokenHash = row.tokenHash ∧ held.usedAt = none) :
    Spendable (log ++ [entry]) next := by
  constructor
  · intro row held unused
    rcases challenges row held unused with new | ⟨going, old, stored, same, waiting⟩
    · exact .start log new
    · exact (same ▸ spendable.challenges old stored waiting).snoc going
  · intro row held unused
    rcases verifications row held unused with new | ⟨going, old, stored, account, hash, waiting⟩
    · exact .start log new
    · exact (account ▸ hash ▸ spendable.verifications old stored waiting).snoc going

theorem quiet (spendable : Spendable log db) (answers : entry.answers = none)
    (resends : entry.resends = none) (verifies : entry.verifies = none)
    (challenges : ∀ row ∈ next.deviceChallenges.rows, row ∈ db.deviceChallenges.rows)
    (verifications : ∀ row ∈ next.emailVerifications.rows, row ∈ db.emailVerifications.rows) :
    Spendable (log ++ [entry]) next := by
  refine spendable.snoc (fun row held unused => .inr ⟨?_, row, challenges row held, rfl, unused⟩)
    fun row held unused => .inr ⟨?_, row, verifications row held, rfl, rfl, unused⟩
  · simp [answers]
  · exact Entry.not_supersedes resends verifies _

theorem failed (spendable : Spendable log db) {β : Type} (action : Action β) (error : RelayError) :
    Spendable (log ++ [(db, ⟨action, .error error⟩)]) db :=
  spendable.quiet (by cases action <;> rfl) (by cases action <;> rfl) (by cases action <;> rfl)
    (fun _ held => held) fun _ held => held

/-- A successful action keeps what is stored waiting. -/
theorem run (spendable : Spendable log db) {β : Type} {action : Action β} {value : β}
    (ran : action.run platform db = .ok (value, next)) :
    Spendable (log ++ [(db, ⟨action, .ok value⟩)]) next := by
  have agree := Action.run_agree ran
  by_cases written : .deviceChallenges ∈ action.writes ∨ .emailVerifications ∈ action.writes
  case neg =>
    -- An action that writes neither table accepts and supersedes nothing.
    obtain ⟨challenges, verifications⟩ := not_or.mp written
    have same := agree.deviceChallenges challenges
    have kept := agree.emailVerifications verifications
    refine spendable.quiet ?_ ?_ ?_ (fun _ held => same ▸ held) fun _ held => kept ▸ held
    all_goals
      cases action <;> simp [Action.writes] at challenges verifications <;> rfl
  cases action <;> simp [Action.writes] at written
  case insertEmailVerification verification =>
    obtain ⟨-, verifications, inserted, -, rfl⟩ := insertEmailVerification_eq_ok.mp ran
    refine spendable.snoc (fun row held unused => .inr ⟨by simp [Entry.answers], row, held, rfl, unused⟩)
      fun row held unused => ?_
    rcases (Table.mem_insert inserted).mp held with old | rfl
    · exact .inr ⟨Entry.not_supersedes rfl rfl _, row, old, rfl, rfl, unused⟩
    · exact .inl rfl
  case pruneEmailVerifications accountId now =>
    simp only [Action.run, Relay.pruneEmailVerifications, pure_eq_ok, Prod.mk.injEq] at ran
    obtain ⟨-, rfl⟩ := ran
    exact spendable.quiet rfl rfl rfl (fun _ held => held) fun _ held => (Table.mem_delete.mp held).1
  case verifyEmail hash now =>
    obtain ⟨accounts, -, rfl⟩ := verifyEmail_ok ran
    refine spendable.snoc (fun row held unused => .inr ⟨by simp [Entry.answers], row, held, rfl, unused⟩)
      fun row held unused => .inr ?_
    simp only [useEmailVerifications] at held
    obtain ⟨old, stored, rfl⟩ := Table.mem_update.mp held
    split at unused
    · -- The verifications of the account are used up.
      cases before : old.usedAt <;> simp [before] at unused
    · rename_i other
      rw [if_neg other]
      refine ⟨fun superseded => other ?_, old, stored, rfl, rfl, unused⟩
      obtain ⟨hash, stopped⟩ := superseded
      simp only [Entry.resends, Entry.verifies, reduceCtorEq, false_or, Option.some.injEq, Prod.mk.injEq] at stopped
      simp [stopped.1]
  case resendVerificationEmail email verificationId hash now =>
    rcases resendVerificationEmail_sent ran with ⟨rfl, rfl⟩ | ⟨rfl, account, found, ⟨_, same⟩, rows⟩
    · exact spendable.quiet rfl rfl rfl (fun _ held => held) fun _ held => held
    · have sends : Entry.resends (db, ⟨.resendVerificationEmail email verificationId hash now,
          .ok true⟩) = some (account.id, hash) := by
        simp [Entry.resends, found]
      have challenges : next.deviceChallenges = db.deviceChallenges := by rw [same]
      refine spendable.snoc
        (fun row held unused => .inr ⟨by simp [Entry.answers], row, challenges ▸ held, rfl, unused⟩)
        fun row held unused => ?_
      rcases rows row held with ⟨old, stored, owner, token, kept⟩ | ⟨owner, token⟩
      · -- What is left unused belongs to another account.
        obtain ⟨waiting, other⟩ := kept unused
        refine .inr ⟨fun superseded => other ?_, old, stored, owner.symm, token.symm, waiting⟩
        obtain ⟨hash, stopped⟩ := superseded
        rw [sends] at stopped
        simp only [Entry.verifies, reduceCtorEq, or_false, Option.some.injEq, Prod.mk.injEq] at stopped
        exact owner.symm.trans stopped.1.symm
      · rw [owner, token]
        exact .inl sends
  case deleteWorkspace workspaceId =>
    obtain ⟨-, -, rfl⟩ := deleteWorkspace_eq_ok.mp ran
    exact spendable.quiet rfl rfl rfl (fun _ held => (Table.mem_delete.mp held).1) fun _ held => held
  case deleteStaleChallenges now =>
    simp only [Action.run, Relay.deleteStaleChallenges, pure_eq_ok, Prod.mk.injEq] at ran
    obtain ⟨-, rfl⟩ := ran
    exact spendable.quiet rfl rfl rfl (fun _ held => (Table.mem_delete.mp held).1) fun _ held => held
  case insertDeviceChallenge challenge =>
    obtain ⟨challenges, inserted, -, rfl⟩ := insertDeviceChallenge_eq_ok.mp ran
    refine spendable.snoc (fun row held unused => ?_) fun row held unused =>
      .inr ⟨Entry.not_supersedes rfl rfl _, row, held, rfl, rfl, unused⟩
    rcases (Table.mem_insert inserted).mp held with old | rfl
    · exact .inr ⟨by simp [Entry.answers], row, old, rfl, unused⟩
    · exact .inl rfl
  case createDeviceSession input checkedAt now issuedAt sessionId random =>
    obtain ⟨_, issued⟩ := createDeviceSession_ok ran
    obtain ⟨-, sessions, -, -, -, rfl⟩ := issueDeviceSession_eq_ok.mp issued
    refine spendable.snoc (fun row held unused => .inr ?_) fun row held unused =>
      .inr ⟨Entry.not_supersedes rfl rfl _, row, held, rfl, rfl, unused⟩
    simp only [useChallenge] at held
    obtain ⟨old, stored, rfl⟩ := Table.mem_update.mp held
    split at unused
    · cases unused
    · -- An unused challenge is not the one that was accepted.
      rename_i other
      rw [if_neg other]
      refine ⟨fun answered => other ?_, old, stored, rfl, unused⟩
      simp only [Entry.answers, Option.some.injEq] at answered
      simp [answered, unused]

end Spendable

theorem AcceptsWaiting.run {log : List Entry} (spendable : Spendable log db) {β : Type}
    {action : Action β} {value : β} (ran : action.run platform db = .ok (value, next)) :
    AcceptsWaiting log (db, ⟨action, .ok value⟩) := by
  constructor
  case challenge =>
    intro id answered
    cases action <;> simp [Entry.answers] at answered
    case createDeviceSession input checkedAt now issuedAt sessionId random =>
      subst answered
      obtain ⟨challenge, device, member, _, asked, unused, -, found, usable, owned, -, active, -⟩ :=
        createDeviceSession_eq_ok.mp ran
      obtain ⟨stored, same⟩ := Table.find?_some asked
      exact ⟨same ▸ spendable.challenges challenge stored unused, challenge, device, member, asked,
        found, usable, owned, active⟩
  case token =>
    intro accountId hash verified
    cases action <;> simp [Entry.verifies] at verified
    case verifyEmail token now =>
      obtain ⟨rfl, rfl⟩ := verified
      obtain ⟨verification, stored, rfl, rfl, unused⟩ := verifyEmail_found ran
      exact spendable.verifications verification stored unused

theorem AcceptsWaiting.failed (log : List Entry) (db : Db) {β : Type} (action : Action β)
    (error : RelayError) : AcceptsWaiting log (db, ⟨action, .error error⟩) := by
  constructor
  · intro id answered
    cases action <;> cases answered
  · intro accountId hash verified
    cases action <;> cases verified

/-! ### Runs -/

def IssuesSession : (β : Type) → Action β → Prop
  | _, .insertAccountSession _ => True
  | _, .bootstrapWorkspace _ _ _ _ _ _ _ => True
  | _, .acceptWorkspaceInvitation _ _ _ => True
  | _, .createDeviceSession _ _ _ _ _ _ => True
  | _, _ => False

section Sessions

variable {draws : Draws}

theorem issueAccountSession_atMost (accountId : String) :
    (issueAccountSession platform draws accountId).AtMost IssuesSession 1 :=
  .after (.perform id) fun _ => .before (.perform _) fun _ =>
    .perform_bind id fun _ => .pure _

theorem DeviceCall.issues_none (auth : DeviceAuth) (call : DeviceCall) :
    (call.serve platform draws auth).Only fun β action => ¬IssuesSession β action := by
  cases call with
  | createWorkspaceInvitation workspaceId input =>
    exact .discard (.lift_bind fun _ _ => .lift_bind fun _ _ => .lift_bind fun _ _ =>
      .lift_bind fun _ _ => .lift_bind fun _ _ => .perform_bind id fun _ =>
      .perform_bind id fun _ => .lift_bind fun _ _ => .perform_bind id fun _ => .pure _)
  | workspaceSnapshot workspaceId =>
    exact .discard (.lift_bind fun _ _ => .lift_bind fun _ _ => .perform_bind id fun _ =>
      .perform_bind id fun _ => .perform_bind id fun _ => .pure _)
  | deleteWorkspace workspaceId confirmation => exact .lift_bind fun _ _ => .perform id
  | updateMember | revokeDevice | createRoom =>
    exact .discard (.lift_bind fun _ _ => .lift_bind fun _ _ => .lift_bind fun _ _ => .perform id)
  | routeInvitation roomId invitation =>
    exact .lift_bind fun _ _ => .perform_bind id fun _ => .lift_bind fun _ _ =>
      .perform_bind id fun _ => .lift_bind fun _ _ => .perform_bind id fun _ =>
      .lift_bind fun _ _ => .perform_bind id fun _ => .perform_bind id fun _ =>
      .lift_bind fun _ _ => .perform id
  | listInvitations => exact .discard (.lift_bind fun _ _ => .perform id)
  | joinRoom roomId =>
    exact .discard (.lift_bind fun _ _ => .perform_bind id fun _ =>
      .bind (.ignore (.perform id)) fun _ => .pure _)
  | leaveRoom roomId =>
    exact .lift_bind fun _ _ => .perform_bind id fun _ => .lift_bind fun _ _ =>
      .perform_bind id fun _ => .ignore (.perform id)
  | grantControl roomId input =>
    exact .discard (.lift_bind fun _ _ => .perform_bind id fun _ => .perform_bind id fun _ =>
      .lift_bind fun _ _ => .perform id)
  | revokeControl | closeRoom => exact .perform_bind id fun _ => .perform id
  | processFrame frame =>
    exact .lift_bind fun _ _ => .lift_bind fun _ _ => .perform_bind id fun _ =>
      .perform_bind id fun _ => .lift_bind fun _ _ => .perform id

theorem Call.issues_one (call : Call) : (call.serve platform draws).AtMost IssuesSession 1 := by
  cases call with
  | registerAccount input requireEmailVerification =>
    refine .discard (.after (.lift _) fun _ => .after (.lift _) fun _ => .after (.lift _) fun _ =>
      .after (.lift _) fun _ => .after (.perform id) fun _ => ?_)
    cases requireEmailVerification with
    | true =>
      exact .of_only (.bind (.perform_bind id fun _ => .perform_bind id fun _ => .pure _)
        fun _ => .pure _)
    | false => exact .before (issueAccountSession_atMost _) fun _ => .pure _
  | login input =>
    exact .discard (.after (.lift _) fun _ => .after (.perform id) fun _ => .after (.lift _)
      fun _ => .after (.lift _) fun _ => .after (.lift _) fun _ => issueAccountSession_atMost _)
  | verifyEmail token =>
    exact .discard (.after (.lift _) fun _ => .after (.perform id) fun _ =>
      issueAccountSession_atMost _)
  | resendVerificationEmail email => exact .of_only (.discard (.lift_bind fun _ _ => .perform id))
  | bootstrapWorkspace token input =>
    exact .after (.perform id) fun _ => .discard (.after (.lift _) fun _ => .after (.lift _)
      fun _ => .after (.lift _) fun _ => .after (.lift _) fun _ => .perform _)
  | acceptWorkspaceInvitation token input =>
    exact .after (.perform id) fun _ => .discard (.after (.lift _) fun _ => .after (.lift _)
      fun _ => .perform _)
  | createDeviceChallenge workspaceId deviceId =>
    exact .of_only (.discard (.lift_bind fun _ _ => .lift_bind fun _ _ => .perform_bind id
      fun _ => .lift_bind fun _ _ => .perform_bind id fun _ => .perform_bind id fun _ =>
      .lift_bind fun _ _ => .perform_bind id fun _ => .pure _))
  | createDeviceSession input =>
    exact .discard (.after (.lift _) fun _ => .after (.lift _) fun _ => .perform _)
  | device token call =>
    exact .after (.lift _) fun _ => .after (.perform id) fun auth =>
      .of_only (call.issues_none auth)

end Sessions

end Relay

end CNShell
