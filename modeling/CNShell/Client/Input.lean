import CNShell.Client.Demo
import CNShell.Library.Log

/-! Input of a hosted room: no frame is accepted twice while the room lasts. -/

namespace CNShell

namespace Client

variable {vault : Vault} {room after : RoomState} {roomId : String}

/-- The device, the lease and the sequence under which input is accepted. -/
structure Acceptance where
  deviceId : String
  leaseId : String
  sequence : UInt64

def acceptanceOf (frame : TeamTerminalEncryptedFrame) : Acceptance where
  deviceId := frame.senderDeviceId
  leaseId := frame.leaseId.getD ""
  sequence := frame.sequence

def acceptedInput (roomId : String) : HostEntry → Option Acceptance
  | (_, ⟨.visit visited (.acceptInput _ _ deviceId leaseId sequence _), .ok (.ok _)⟩) =>
      if visited = roomId then some ⟨deviceId, leaseId, sequence⟩ else none
  | _ => none

/-- The identifier and the generation of the lease that an action put into force in a room. -/
def installedLease (roomId : String) : HostEntry → Option (String × UInt64)
  | (desktop, ⟨.visit visited (.grant _ _ _ leaseId _ _ _), .ok (.ok _)⟩) =>
      if visited = roomId then
        ((desktop.rooms.find? roomId).bind fun room => checkedSucc room.leaseGeneration).map
          fun generation => (leaseId, generation)
      else none
  | (_, ⟨.visit visited (.applyLease _ lease _ _), .ok (.ok _)⟩) =>
      if visited = roomId then some (lease.id, lease.generation) else none
  | _ => none

def acceptedInputs (roomId : String) (log : List HostEntry) : List Acceptance :=
  Log.readSince startedRoom roomId (acceptedInput roomId) log

/-- The leases that were put into force in a room since it was started. -/
def installedLeases (roomId : String) (log : List HostEntry) : List (String × UInt64) :=
  Log.readSince startedRoom roomId (installedLease roomId) log

/--
Each lease has an identifier of its own.

The relay and the host draw one with `Uuid::new_v4` for each lease they grant, so a room never sees
two leases, which differ in their generation, under one identifier.
-/
def LeasesDrawnOnce (log : List HostEntry) : Prop :=
  ∀ roomId, ∀ first ∈ log, ∀ second ∈ log, ∀ leaseId generation other,
    installedLease roomId first = some (leaseId, generation) →
    installedLease roomId second = some (leaseId, other) → generation = other

/-! ### What the log says of an action -/

section Reads

variable {desktop : Desktop}

theorem reads_elsewhere {event : Event HostAction AppError} (elsewhere : roomOf event ≠ some roomId) :
    acceptedInput roomId (desktop, event) = none ∧ installedLease roomId (desktop, event) = none := by
  obtain ⟨action, outcome⟩ := event
  cases action with
  | visit visited body =>
    rcases outcome with _ | _ | _
    · cases body <;> exact ⟨rfl, rfl⟩
    · cases body <;> exact ⟨rfl, rfl⟩
    · have apart : ¬visited = roomId := fun same => elsewhere (congrArg some same)
      cases body with
      | acceptInput | grant | applyLease => simp [acceptedInput, installedLease, apart]
      | _ => exact ⟨rfl, rfl⟩
  | _ => exact ⟨rfl, rfl⟩

theorem reads_failed {β : Type} (body : Visit β) (error : AppError) (visited : String) :
    acceptedInput roomId (desktop, ⟨.visit visited body, .ok (.error error)⟩) = none ∧
      installedLease roomId (desktop, ⟨.visit visited body, .ok (.error error)⟩) = none := by
  cases body <;> exact ⟨rfl, rfl⟩

theorem Visit.Quiet.reads {β : Type} {body : Visit β} (quiet : body.Quiet) (result : AppResult β)
    (visited : String) :
    acceptedInput roomId (desktop, ⟨.visit visited body, .ok result⟩) = none ∧
      installedLease roomId (desktop, ⟨.visit visited body, .ok result⟩) = none := by
  cases body with
  | acceptInput | grant | applyLease => exact quiet.elim
  | _ => exact ⟨rfl, rfl⟩

end Reads

/-! ### Spent sequences -/

/-- While a lease is in force, the sequences that were accepted under it are behind its device. -/
def Spent (inputs : List Acceptance) (room : RoomState) : Prop :=
  ∀ input ∈ inputs, ∀ held, room.controlLease = some held → held.lease.id = input.leaseId →
    held.lease.deviceId = input.deviceId ∧
      ∃ seated, room.participants.find? input.deviceId = some seated ∧ input.sequence < seated.nextInputSequence

variable {inputs : List Acceptance}

theorem Spent.unleased (none' : after.controlLease = none) : Spent inputs after := by
  intro input _ held leased
  rw [none'] at leased
  cases leased

theorem Spent.congr (spent : Spent inputs room) (lease : after.controlLease = room.controlLease)
    (participants : after.participants = room.participants) : Spent inputs after := by
  rw [Spent, lease, participants]
  exact spent

theorem expireLease_cases (now : Tick) (room : RoomState) :
    (room.expireLease now).participants = room.participants ∧
      (room.expireLease now).leaseGeneration = room.leaseGeneration ∧
      ((room.expireLease now).controlLease = none ∨ (room.expireLease now).controlLease = room.controlLease) := by
  unfold RoomState.expireLease
  split
  · exact ⟨rfl, rfl, .inl rfl⟩
  · exact ⟨rfl, rfl, .inr rfl⟩

theorem Spent.expire (spent : Spent inputs room) (now : Tick) : Spent inputs (room.expireLease now) := by
  obtain ⟨participants, -, ended | same⟩ := expireLease_cases now room
  · exact .unleased ended
  · exact spent.congr same participants

theorem RoomMove.lease (move : RoomMove vault room after) :
    after.leaseGeneration = room.leaseGeneration ∧
      (after.controlLease = none ∨ after.controlLease = room.controlLease) := by
  cases move with
  | expired now => exact (expireLease_cases now room).2
  | dismissed deviceId =>
    refine ⟨rfl, ?_⟩
    show (if _ then none else room.controlLease) = none ∨ (if _ then none else _) = room.controlLease
    split
    · exact .inl rfl
    · exact .inr rfl
  | cleared | closed => exact ⟨rfl, .inl rfl⟩
  | _ => exact ⟨rfl, .inr rfl⟩

theorem Spent.move (spent : Spent inputs room) (move : RoomMove vault room after) : Spent inputs after := by
  cases move with
  | expired now => exact spent.expire now
  | pruned | enabled | unsized | advanced => exact spent.congr rfl rfl
  | @seated participant active absent =>
    intro input member held leased named
    obtain ⟨placed, seat, found, behind⟩ := spent input member held leased named
    refine ⟨placed, seat, ?_, behind⟩
    -- The device with the lease has a seat, so it is another one that is seated anew.
    rw [RoomState.seat, Table.find?_put, if_neg, found]
    intro same
    rw [same] at found
    exact absurd (found.symm.trans absent) (Option.some_ne_none seat)
  | roleSet deviceId role =>
    intro input member held leased named
    obtain ⟨placed, seat, found, behind⟩ := spent input member held leased named
    rw [RoomState.setRole, Table.find?_update, found, Option.map_some]
    refine ⟨placed, _, rfl, ?_⟩
    split
    · exact behind
    · exact behind
  | dismissed deviceId =>
    intro input member held leased named
    have leased : (if room.controlLease.any (fun held => held.lease.deviceId = deviceId) = true then none
        else room.controlLease) = some held := leased
    split at leased
    · cases leased
    · rename_i other
      obtain ⟨placed, seat, found, behind⟩ := spent input member held leased named
      refine ⟨placed, seat, ?_, behind⟩
      -- The lease stays, so it is another device that goes.
      have stays : ¬held.lease.deviceId = deviceId := by simpa [leased] using other
      have keyed : seat.deviceId = input.deviceId := (Table.find?_some found).2
      rw [RoomState.dismiss, Table.find?_delete, found, Option.filter_some, if_pos]
      simpa [keyed, ← placed] using stays
  | cleared | closed => exact .unleased rfl

/-! ### Runs -/

/-- What the accepted inputs and the leases of a room say about it. -/
structure InputGuarded (roomId : String) (log : List HostEntry) (room : RoomState) : Prop where
  issued : ∀ lease ∈ installedLeases roomId log, lease.2 ≤ room.leaseGeneration
  covered : ∀ held, room.controlLease = some held →
    (held.lease.id, held.lease.generation) ∈ installedLeases roomId log
  known : ∀ input ∈ acceptedInputs roomId log, ∃ generation, (input.leaseId, generation) ∈ installedLeases roomId log
  spent : Spent (acceptedInputs roomId log) room

variable {log : List HostEntry} {entry : HostEntry}

theorem InputGuarded.quiet (guarded : InputGuarded roomId log room)
    (goes : startedRoom entry ≠ some roomId) (accepts : acceptedInput roomId entry = none)
    (installs : installedLease roomId entry = none) :
    InputGuarded roomId (log ++ [entry]) room := by
  have inputs : acceptedInputs roomId (log ++ [entry]) = acceptedInputs roomId log :=
    Log.readSince_quiet goes accepts
  have leases : installedLeases roomId (log ++ [entry]) = installedLeases roomId log :=
    Log.readSince_quiet goes installs
  exact ⟨leases ▸ guarded.issued, leases ▸ guarded.covered, by
    rw [inputs, leases]
    exact guarded.known, inputs ▸ guarded.spent⟩

theorem InputGuarded.congr (guarded : InputGuarded roomId log room)
    (generation : after.leaseGeneration = room.leaseGeneration)
    (lease : after.controlLease = none ∨ after.controlLease = room.controlLease)
    (spent : Spent (acceptedInputs roomId log) after) : InputGuarded roomId log after := by
  refine ⟨generation ▸ guarded.issued, fun held leased => ?_, guarded.known, spent⟩
  rcases lease with ended | same
  · rw [ended] at leased
    cases leased
  · exact guarded.covered held (same ▸ leased)

theorem InputGuarded.moves (guarded : InputGuarded roomId log room)
    (led : Relation.ReflTransGen (RoomMove vault) room after) : InputGuarded roomId log after := by
  -- Each move puts no other lease into force and resets no sequence under the one that is.
  induction led with
  | refl => exact guarded
  | tail _ move ih => exact ih.congr move.lease.1 move.lease.2 (ih.spent.move move)

theorem InputGuarded.expire (guarded : InputGuarded roomId log room) (now : Tick) :
    InputGuarded roomId log (room.expireLease now) := by
  obtain ⟨-, generation, lease⟩ := expireLease_cases now room
  exact guarded.congr generation lease (guarded.spent.expire now)

theorem InputGuarded.again (guarded : InputGuarded roomId log room) {lease : String × UInt64}
    (goes : startedRoom entry ≠ some roomId) (accepts : acceptedInput roomId entry = none)
    (installs : installedLease roomId entry = some lease)
    (before : lease ∈ installedLeases roomId log) : InputGuarded roomId (log ++ [entry]) room := by
  have inputs : acceptedInputs roomId (log ++ [entry]) = acceptedInputs roomId log :=
    Log.readSince_quiet goes accepts
  have leases : ∀ other, other ∈ installedLeases roomId (log ++ [entry]) ↔ other ∈ installedLeases roomId log := by
    intro other
    rw [show installedLeases roomId (log ++ [entry]) = installedLeases roomId log ++ [lease] from
      Log.readSince_read goes installs, List.mem_append, List.mem_singleton]
    exact ⟨fun either => either.elim id fun same => same ▸ before, .inl⟩
  refine ⟨fun other member => guarded.issued other ((leases other).mp member),
    fun held leased => (leases _).mpr (guarded.covered held leased), ?_, inputs ▸ guarded.spent⟩
  rw [inputs]
  intro input member
  obtain ⟨generation, issued⟩ := guarded.known input member
  exact ⟨generation, (leases _).mpr issued⟩

theorem InputGuarded.install (guarded : InputGuarded roomId log room) {lease : TeamControlLease}
    {endsAt : Tick} (newer : room.leaseGeneration < lease.generation)
    (goes : startedRoom entry ≠ some roomId) (accepts : acceptedInput roomId entry = none)
    (installs : installedLease roomId entry = some (lease.id, lease.generation))
    (drawn : LeasesDrawnOnce (log ++ [entry])) :
    InputGuarded roomId (log ++ [entry]) (room.install lease endsAt) := by
  have inputs : acceptedInputs roomId (log ++ [entry]) = acceptedInputs roomId log :=
    Log.readSince_quiet goes accepts
  have leases : installedLeases roomId (log ++ [entry]) =
      installedLeases roomId log ++ [(lease.id, lease.generation)] := Log.readSince_read goes installs
  have old : ∀ other ∈ installedLeases roomId log, other.2 < lease.generation :=
    fun other member => UInt64.lt_of_le_of_lt (guarded.issued other member) newer
  refine ⟨?_, ?_, ?_, ?_⟩
  · rw [leases]
    intro other member
    rcases List.mem_append.mp member with before | last
    · exact UInt64.le_of_lt (old other before)
    · rw [List.mem_singleton.mp last]
      exact UInt64.le_refl _
  · intro held leased
    obtain rfl := Option.some.inj leased
    rw [leases]
    exact List.mem_append_right _ (List.mem_singleton.mpr rfl)
  · rw [inputs, leases]
    intro input member
    obtain ⟨generation, issued⟩ := guarded.known input member
    exact ⟨generation, List.mem_append_left _ issued⟩
  · rw [inputs]
    intro input member held leased named
    obtain rfl := Option.some.inj leased
    -- Input under this identifier was accepted under an older generation, which it cannot have had.
    obtain ⟨generation, issued⟩ := guarded.known input member
    obtain ⟨earlier, inLog, read⟩ := Log.mem_readSince issued
    rw [← named] at read
    have same := drawn roomId earlier (List.mem_append_left _ inLog) entry
      (List.mem_append_right _ (List.mem_singleton.mpr rfl)) _ _ _ read installs
    have below := old _ issued
    rw [same] at below
    exact absurd below (UInt64.lt_irrefl _)

/-- Accepted input carries a sequence that was not spent under the lease in force. -/
theorem InputGuarded.accept (guarded : InputGuarded roomId log room) {held : LeaseState}
    {seated : ParticipantState} {next : UInt64} (leased : room.controlLease = some held)
    (found : room.participants.find? held.lease.deviceId = some seated)
    (counts : checkedSucc seated.nextInputSequence = some next)
    (goes : startedRoom entry ≠ some roomId)
    (accepts : acceptedInput roomId entry = some ⟨held.lease.deviceId, held.lease.id, seated.nextInputSequence⟩)
    (installs : installedLease roomId entry = none) :
    InputGuarded roomId (log ++ [entry]) (room.setNextInput held.lease.deviceId next) ∧
      ⟨held.lease.deviceId, held.lease.id, seated.nextInputSequence⟩ ∉ acceptedInputs roomId log := by
  have inputs : acceptedInputs roomId (log ++ [entry]) = acceptedInputs roomId log ++
      [⟨held.lease.deviceId, held.lease.id, seated.nextInputSequence⟩] :=
    Log.readSince_read goes accepts
  have leases : installedLeases roomId (log ++ [entry]) = installedLeases roomId log :=
    Log.readSince_quiet goes installs
  have keyed : seated.deviceId = held.lease.deviceId := (Table.find?_some found).2
  have rises : seated.nextInputSequence < next := by
    rw [UInt64.lt_iff_toNat_lt, toNat_checkedSucc counts]
    omega
  -- The seat of the lease's device moves on by one.
  have moved : (room.setNextInput held.lease.deviceId next).participants.find? held.lease.deviceId =
      some { seated with nextInputSequence := next } := by
    rw [RoomState.setNextInput, Table.find?_update, found, Option.map_some, if_pos (by simp [keyed])]
  refine ⟨⟨?_, ?_, ?_, ?_⟩, fun member => ?_⟩
  · rw [leases]
    exact guarded.issued
  · rw [leases]
    exact guarded.covered
  · rw [inputs, leases]
    intro input member
    rcases List.mem_append.mp member with before | last
    · exact guarded.known input before
    · rw [List.mem_singleton.mp last]
      exact ⟨_, guarded.covered held leased⟩
  · rw [inputs]
    intro input member other leased' named
    obtain rfl := Option.some.inj (leased.symm.trans leased')
    rcases List.mem_append.mp member with before | last
    · -- What was accepted before came from the same device, and stays behind it.
      obtain ⟨placed, seat, found', behind⟩ := guarded.spent input before held leased named
      rw [← placed] at found'
      obtain rfl := Option.some.inj (found.symm.trans found')
      rw [← placed]
      exact ⟨rfl, _, moved, UInt64.lt_trans behind rises⟩
    · rw [List.mem_singleton.mp last]
      exact ⟨rfl, _, moved, rises⟩
  · obtain ⟨-, seat, found', behind⟩ := guarded.spent _ member held leased rfl
    obtain rfl := Option.some.inj (found.symm.trans found')
    exact absurd behind (UInt64.lt_irrefl _)

/-- Every section keeps a room guarded, and accepts no input twice. -/
theorem InputGuarded.visit (guarded : InputGuarded roomId log room) {desktop : Desktop}
    (stored : desktop.rooms.find? roomId = some room) {β : Type} (body : Visit β)
    (drawn : LeasesDrawnOnce
      (log ++ [(desktop, ⟨.visit roomId body, .ok (body.section vault room).1⟩)])) :
    InputGuarded roomId (log ++ [(desktop, ⟨.visit roomId body, .ok (body.section vault room).1⟩)])
        (body.section vault room).2 ∧
      ∀ input, acceptedInput roomId (desktop, ⟨.visit roomId body, .ok (body.section vault room).1⟩) =
        some input → input ∉ acceptedInputs roomId log := by
  have goes : ∀ result, startedRoom (desktop, ⟨.visit roomId body, .ok result⟩) ≠ some roomId :=
    fun _ => (Option.some_ne_none roomId).symm
  have unread : ∀ input, none = some input → input ∉ acceptedInputs roomId log :=
    fun input read => absurd read (Option.some_ne_none input).symm
  by_cases quiet : body.Quiet
  · obtain ⟨accepts, installs⟩ := @Visit.Quiet.reads roomId desktop β body quiet
      (body.section vault room).1 roomId
    refine ⟨(guarded.moves (quiet.leads room)).quiet (goes _) accepts installs, fun input read => ?_⟩
    rw [accepts] at read
    cases read
  cases ran : body.section vault room with
  | mk result final =>
    rw [ran] at drawn
    cases result with
    | error error =>
      obtain ⟨accepts, installs⟩ := @reads_failed roomId desktop β body error roomId
      have led := body.failsBy room error final ran
      refine ⟨(guarded.moves led).quiet (goes _) accepts installs, fun input read => ?_⟩
      rw [accepts] at read
      cases read
    | ok value =>
      -- What is left are the sections that accept input, grant a lease or apply one.
      cases body with
      | acceptInput authorization memberId deviceId leaseId sequence now =>
        obtain ⟨held, seated, next, leased, rfl, rfl, found, rfl, counts, rfl⟩ :=
          acceptInputSection_ok ran
        have read : acceptedInput roomId (desktop, ⟨.visit roomId (.acceptInput authorization memberId
            held.lease.deviceId held.lease.id seated.nextInputSequence now), .ok (.ok value)⟩) =
            some ⟨held.lease.deviceId, held.lease.id, seated.nextInputSequence⟩ := if_pos rfl
        obtain ⟨kept, unspent⟩ := (guarded.expire now).accept leased found counts (goes _) read rfl
        refine ⟨kept, fun input again => ?_⟩
        obtain rfl := Option.some.inj (read.symm.trans again)
        exact unspent
      | grant authorization memberId deviceId leaseId expiresAt endsAt now =>
        obtain ⟨generation, joined, counts, rfl⟩ := grantSection_ok ran
        have rises : room.leaseGeneration < generation := by
          rw [UInt64.lt_iff_toNat_lt, toNat_checkedSucc counts]
          omega
        have lease : installedLease roomId (desktop, ⟨.visit roomId (.grant authorization memberId
            deviceId leaseId expiresAt endsAt now), .ok (.ok value)⟩) = some (leaseId, generation) := by
          simp [installedLease, stored, counts]
        have kept := @InputGuarded.install room roomId log _ guarded
          ⟨leaseId, memberId, deviceId, expiresAt, generation⟩ endsAt rises (goes _) rfl lease drawn
        exact ⟨kept.expire now, unread⟩
      | applyLease authorization lease endsAt now =>
        have read : installedLease roomId (desktop, ⟨.visit roomId (.applyLease authorization lease
            endsAt now), .ok (.ok value)⟩) = some (lease.id, lease.generation) := if_pos rfl
        rcases applyLeaseSection_ok ran with ⟨same, rfl⟩ | ⟨-, newer, rfl⟩
        · -- The lease is in force already, and was put into force before.
          obtain ⟨held, leased, rfl⟩ := Option.map_eq_some_iff.mp same
          have kept := guarded.again (goes _) rfl read (guarded.covered held leased)
          exact ⟨kept.expire now, unread⟩
        · exact ⟨(guarded.install newer (goes _) rfl read drawn).expire now, unread⟩
      | publish draws authorization bytes =>
        obtain ⟨next, encoded, -, -, -, -, rfl⟩ := publishSection_ok ran
        have spent : Spent (acceptedInputs roomId log)
            (room.publish next ⟨value, encoded.length, draws.createdAt⟩ draws.clock) :=
          guarded.spent.congr rfl rfl
        have kept : InputGuarded roomId log
            (room.publish next ⟨value, encoded.length, draws.createdAt⟩ draws.clock) :=
          guarded.congr rfl (.inr rfl) spent
        exact ⟨kept.quiet (goes _) rfl rfl, unread⟩
      | _ => exact absurd trivial quiet

theorem InputGuarded.opened (fresh : room.Fresh) (opens : startedRoom entry = some roomId) :
    InputGuarded roomId (log ++ [entry]) room := by
  have inputs : acceptedInputs roomId (log ++ [entry]) = [] := Log.readSince_opens opens
  have leases : installedLeases roomId (log ++ [entry]) = [] := Log.readSince_opens opens
  refine ⟨?_, fun held leased => ?_, ?_, .unleased fresh.unleased⟩
  · rw [leases]
    exact fun lease member => nomatch member
  · rw [fresh.unleased] at leased
    cases leased
  · rw [inputs]
    exact fun input member => nomatch member

theorem InputGuarded.step {desktop : Desktop} {event : Event HostAction AppError}
    {before next : Option RoomState} (guarded : ∀ room, before = some room → InputGuarded roomId log room)
    (stored : before = desktop.rooms.find? roomId) (change : RoomChange vault roomId event before next)
    (drawn : LeasesDrawnOnce (log ++ [(desktop, event)])) :
    (∀ room, next = some room → InputGuarded roomId (log ++ [(desktop, event)]) room) ∧
      ∀ input, acceptedInput roomId (desktop, event) = some input → input ∉ acceptedInputs roomId log := by
  have quiet : roomOf event ≠ some roomId →
      (∀ room, InputGuarded roomId log room → InputGuarded roomId (log ++ [(desktop, event)]) room) ∧
        ∀ input, acceptedInput roomId (desktop, event) = some input → input ∉ acceptedInputs roomId log := by
    intro elsewhere
    obtain ⟨accepts, installs⟩ := @reads_elsewhere roomId desktop event elsewhere
    refine ⟨fun room kept => kept.quiet (startedRoom_elsewhere elsewhere) accepts installs, fun input read => ?_⟩
    rw [accepts] at read
    cases read
  cases change with
  | kept elsewhere =>
    exact ⟨fun room held => (quiet elsewhere).1 room (guarded room held), (quiet elsewhere).2⟩
  | forgotten elsewhere ended => exact ⟨fun room held => (nomatch held), (quiet elsewhere).2⟩
  | @shut event old elsewhere =>
    refine ⟨fun room held => ?_, (quiet elsewhere).2⟩
    obtain rfl := Option.some.inj held
    exact (quiet elsewhere).1 _ ((guarded old rfl).congr rfl (.inl rfl) (.unleased rfl))
  | @opened _ opened fresh shown same =>
    refine ⟨fun room held => ?_, fun input read => nomatch read⟩
    obtain rfl := Option.some.inj held
    exact .opened fresh (congrArg some same)
  | @visited β body old =>
    obtain ⟨kept, unspent⟩ := (guarded old rfl).visit stored.symm body drawn
    refine ⟨fun room held => ?_, unspent⟩
    obtain rfl := Option.some.inj held
    exact kept

theorem receiveEncryptedInput_accepts (draws : HostDraws) (frame : TeamTerminalEncryptedFrame) :
    (receiveEncryptedInput vault draws frame).SucceedsBy fun event =>
      ∀ desktop, acceptedInput frame.roomId (desktop, event) = some (acceptanceOf frame) := by
  -- Whatever was checked and decrypted before, the success hangs on the last section.
  refine .after fun workspaceId => .after fun _ => .after fun found => .after fun _ =>
    .after fun _ => .after fun sender => .after fun _ => .after fun authorization =>
    .after fun plaintext => .after fun data => ?_
  refine .after fun data => .after fun workspaceId => .after fun found => .after fun _ =>
    .after fun authorization => .before ?_
  refine .step fun outcome undecided => ?_
  rcases outcome with error | error | session
  · exact .failed error
  · exact .failed error
  · exact absurd (fun desktop => if_pos rfl) undecided

/-- The lease of the demonstration's host for itself. -/
def demoLease : TeamControlLease :=
  ⟨Relay.Demo.uuid 9, Relay.Demo.uuid 1, Relay.Demo.uuid 2, "1970-01-01T00:05:00+00:00", 1⟩

/-- The actions that put at most one lease into force. -/
def Steady : (β : Type) → HostAction β → Prop
  | _, .visit _ (.grant _ _ _ _ _ _ _) => False
  | _, .visit _ (.applyLease _ lease _ _) => lease = demoLease
  | _, _ => True

theorem leasesDrawnOnce_steady {log : List HostEntry}
    (steady : ∀ entry ∈ log, Steady entry.2.β entry.2.action) : LeasesDrawnOnce log := by
  have only : ∀ entry ∈ log, ∀ roomId lease, installedLease roomId entry = some lease →
      lease = (demoLease.id, demoLease.generation) := by
    intro entry member roomId lease read
    have allowed := steady entry member
    obtain ⟨desktop, ⟨action, outcome⟩⟩ := entry
    cases action with
    | visit visited body =>
      rcases outcome with _ | _ | _
      · cases body <;> cases read
      · cases body <;> cases read
      · cases body with
        | grant => exact allowed.elim
        | applyLease authorization applied endsAt now =>
          have same : applied = demoLease := allowed
          simp only [installedLease, Option.ite_none_right_eq_some, Option.some.injEq, same] at read
          exact read.2.symm
        | _ => cases read
    | _ => cases read
  intro roomId first one second two leaseId generation other read again
  have left := only first one roomId _ read
  have right := only second two roomId _ again
  exact congrArg Prod.snd (left.trans right.symm)

theorem steady_start : (HostCall.serve Demo.vault (Demo.draws 5)
    (.start (Relay.Demo.uuid 0) "session")).Only Steady :=
  .discard (.bind (.lift _) fun _ => .bind (.perform trivial) fun _ => .bind (.lift _) fun _ =>
    .bind (.perform trivial) fun _ => .bind (.lift _) fun _ => .bind (.perform trivial) fun _ =>
    .lift _)

theorem steady_apply : (HostCall.serve Demo.vault (Demo.draws 0)
    (.applyControlLease (Relay.Demo.uuid 5) demoLease)).Only Steady :=
  .discard (.bind (.lift _) fun _ => .bind (.bind (.perform trivial) fun _ => .pure _) fun _ =>
    .bind (.perform trivial) fun _ => .bind (.perform trivial) fun _ => .bind (.lift _) fun _ =>
    .bind (.lift _) fun _ => .bind (.perform rfl) fun _ => .lift _)

theorem steady_type : (HostCall.serve Demo.vault (Demo.draws 0) (.receiveInput (Relay.Demo.uuid 5)
    (Relay.Demo.uuid 2) (Relay.Demo.uuid 9) 1 "YQ")).Only Steady :=
  .discard (.bind (.lift _) fun _ => .bind (.bind (.perform trivial) fun _ => .pure _) fun _ =>
    .bind (.perform trivial) fun _ => .bind (.lift _) fun _ => .bind (.perform trivial) fun _ =>
    .bind (.bind (.perform trivial) fun _ => .lift _) fun _ => .pure _)

theorem exec_apply {room : RoomState} (desktop : Desktop) (db : desktop.db = Demo.team .operator 1)
    (found : desktop.rooms.find? (Relay.Demo.uuid 5) = some room)
    (placed : room.workspaceId = Relay.Demo.uuid 0) :
    (applyControlLease Demo.vault (Demo.draws 0) (Relay.Demo.uuid 5) demoLease).exec
        (hostSemantics Demo.vault) desktop =
      (enter (Relay.Demo.uuid 5) (.applyLease (Demo.owner 1) demoLease (0 + minutes 5) 0)).exec
        (hostSemantics Demo.vault) desktop := by
  have authorization : authorize Demo.vault.toPlatform room.workspaceId .shareManage desktop.db =
      .ok (Demo.owner 1) := by
    rw [placed, db]
    exact Demo.authorize_team .shareManage
  have holder : deviceMemberRole Demo.vault room.workspaceId demoLease.deviceId desktop.db =
      .ok (Relay.Demo.uuid 1, .owner) := by
    rw [placed, db]
    exact Demo.deviceMemberRole_owner
  have remaining : remainingLease Demo.vault demoLease 0 = .ok (minutes 5) := by rfl
  rw [applyControlLease, verify,
    Program.exec_bind_ok (show (Program.lift _).exec _ desktop = (.ok (minutes 5), desktop) by
      rw [Program.exec_lift]; exact congrArg (·, desktop) remaining),
    Program.exec_bind_ok (exec_workspaceOf found), Program.exec_bind_ok (exec_authorized authorization),
    Program.exec_bind_ok (exec_query holder)]
  rfl

theorem exec_type {room : RoomState} (desktop : Desktop) (db : desktop.db = Demo.team .operator 1)
    (found : desktop.rooms.find? (Relay.Demo.uuid 5) = some room)
    (placed : room.workspaceId = Relay.Demo.uuid 0) :
    ((receiveInput Demo.vault (Demo.draws 0) (Relay.Demo.uuid 5) (Relay.Demo.uuid 2)
        (Relay.Demo.uuid 9) 1 "YQ").exec (hostSemantics Demo.vault) desktop).2 =
      ((enter (Relay.Demo.uuid 5) (.acceptInput (Demo.owner 1) (Relay.Demo.uuid 1)
        (Relay.Demo.uuid 2) (Relay.Demo.uuid 9) 1 0)).exec (hostSemantics Demo.vault) desktop).2 := by
  have authorization : authorize Demo.vault.toPlatform room.workspaceId .shareManage desktop.db =
      .ok (Demo.owner 1) := by
    rw [placed, db]
    exact Demo.authorize_team .shareManage
  have holder : deviceMemberRole Demo.vault room.workspaceId (Relay.Demo.uuid 2) desktop.db =
      .ok (Relay.Demo.uuid 1, .owner) := by
    rw [placed, db]
    exact Demo.deviceMemberRole_owner
  have text : inputText Demo.vault "YQ" = .ok "a" := by rfl
  rw [receiveInput, verify,
    Program.exec_bind_ok (show (Program.lift _).exec _ desktop = (.ok "a", desktop) by
      rw [Program.exec_lift]; exact congrArg (·, desktop) text),
    Program.exec_bind_ok (exec_workspaceOf found), Program.exec_bind_ok (exec_query holder)]
  show ((authorized Demo.vault room.workspaceId .shareManage >>= _).exec _ desktop).2 = _
  rw [Program.exec_bind_ok (exec_authorized authorization)]
  exact Program.exec_map _ _

end Client

end CNShell
