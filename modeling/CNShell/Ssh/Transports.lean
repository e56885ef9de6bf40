import CNShell.Library.Transition
import CNShell.Ssh.Models
import Mathlib.Data.List.Infix
import Mathlib.Order.MinMax

/-! The pool of authenticated SSH transports: idle lists, the permits in front of them, and leases. -/

namespace CNShell

namespace Ssh

def maxIdleTransportsPerProfile : Nat := 2

def maxIdleTransportAge : Int := 20000

/-- An authenticated transport, known by the moment at which its creation began. -/
structure Transport where
  began : Nat
  deriving DecidableEq, Repr

/-- A transport that waits to be used again. -/
structure IdleTransport where
  connected : Transport
  idleSince : Int
  deriving DecidableEq, Repr

/-- How far an `acquire` has come. -/
inductive AcquireStage
  /-- It waits for the permit of a gate. -/
  | waiting (gate : Nat)
  /-- It has its permit and will look for an idle transport. -/
  | ready
  /-- It has taken an idle transport and probes it. -/
  | checking (candidate : Transport)
  /-- It creates a transport. -/
  | creating (transport : Transport)
  deriving DecidableEq, Repr

/-- The transport an `acquire` may hand out. -/
def AcquireStage.transport? : AcquireStage → Option Transport
  | waiting _ => none
  | ready => none
  | checking candidate => some candidate
  | creating transport => some transport

/-- An `acquire` that has not returned. -/
structure Acquire where
  connectionId : String
  key : String
  reusable : Bool
  permit : Option Nat
  stage : AcquireStage
  deriving DecidableEq, Repr

/-- A transport that is handed out. -/
structure TransportLease where
  connectionId : String
  key : String
  connected : Transport
  reusable : Bool
  permit : Option Nat
  deriving DecidableEq, Repr

/-- The pool, its users, and what is remembered of its invalidations. -/
structure TransportPool where
  idle : String → List IdleTransport
  operationGates : String → Option Nat
  /-- The gates whose one permit is taken. -/
  taken : List Nat
  nextGate : Nat
  created : Nat
  acquires : List Acquire
  leases : List TransportLease
  /-- The invalidations that have cleared the idle lists and not returned, with that moment. -/
  clearing : List (String × Nat)
  /-- The number of the next step. -/
  clock : Nat
  /-- When the idle lists of a connection were last cleared. -/
  cleared : String → Nat
  /-- When the last invalidation that returned had cleared the idle lists of a connection. -/
  invalidated : String → Nat

/-- The pool right after it was made. -/
def TransportPool.fresh : TransportPool where
  idle _ := []
  operationGates _ := none
  taken := []
  nextGate := 0
  created := 0
  acquires := []
  leases := []
  clearing := []
  clock := 1
  cleared _ := 0
  invalidated _ := 0

/-- What the pool and its users do. -/
inductive TransportEvent
  | acquire (profile : ConnectionProfile) (lane : Option String)
  | permit (i : Nat)
  | timeout (i : Nat)
  | reuse (i : Nat) (now : Int)
  | probe (i : Nat) (alive : Bool)
  | connected (i : Nat)
  /-- An `acquire` fails or is cancelled. -/
  | fail (i : Nat)
  | discard (j : Nat)
  | drop (j : Nat) (authenticated : Bool) (now : Int)
  /-- The first half of `invalidate`, under the lock of the idle lists. -/
  | invalidate (connectionId : String)
  /-- Its second half, under the lock of the gates, after which it returns. -/
  | invalidateGates (k : Nat)
  deriving DecidableEq, Repr

def transportPoolKeyForLane (profile : ConnectionProfile) (lane : String) : String :=
  profile.id ++ ":" ++ profile.updatedAt ++ ":" ++ lane

def Covers (connectionId key : String) : Prop := (connectionId ++ ":").toList <+: key.toList

instance (connectionId key : String) : Decidable (Covers connectionId key) := inferInstanceAs (Decidable (_ <+: _))

def replaced {β : Type} (values : String → β) (key : String) (value : β) : String → β :=
  fun other => if other = key then value else values other

/-- The transports of a key that are not too old at some moment. -/
def retained (now : Int) (transports : List IdleTransport) : List IdleTransport :=
  transports.filter fun transport => now - transport.idleSince ≤ maxIdleTransportAge

/-- One step, if it can happen; every step has its own number. -/
def transportStep (pool : TransportPool) (event : TransportEvent) : Option TransportPool :=
  let pool' := { pool with clock := pool.clock + 1 }
  match event with
  | .acquire profile lane =>
    let key := transportPoolKeyForLane profile (lane.getD "exclusive")
    match lane with
    | none =>
      -- A transport for exclusive use is created without a permit.
      some { pool' with
        created := pool.created + 1
        acquires := pool.acquires ++ [⟨profile.id, key, false, none, .creating ⟨pool.clock⟩⟩] }
    | some _ =>
      match pool.operationGates key with
      | some gate =>
        some { pool' with
          acquires := pool.acquires ++ [⟨profile.id, key, true, none, .waiting gate⟩] }
      | none =>
        some { pool' with
          operationGates := replaced pool.operationGates key (some pool.nextGate)
          nextGate := pool.nextGate + 1
          acquires := pool.acquires ++ [⟨profile.id, key, true, none, .waiting pool.nextGate⟩] }
  | .permit i =>
    match pool.acquires[i]? with
    | some ⟨connectionId, key, reusable, _, .waiting gate⟩ =>
      if gate ∉ pool.taken then
        some { pool' with
          taken := gate :: pool.taken
          acquires := pool.acquires.set i ⟨connectionId, key, reusable, some gate, .ready⟩ }
      else none
    | _ => none
  | .timeout i =>
    match pool.acquires[i]? with
    | some ⟨_, key, _, _, .waiting gate⟩ =>
      some { pool' with
        operationGates :=
          if pool.operationGates key = some gate then replaced pool.operationGates key none
          else pool.operationGates
        acquires := pool.acquires.eraseIdx i }
    | _ => none
  | .reuse i now =>
    match pool.acquires[i]? with
    | some ⟨connectionId, key, reusable, permit, .ready⟩ =>
      let transports := retained now (pool.idle key)
      match transports.getLast? with
      | some last =>
        some { pool' with
          idle := replaced pool.idle key transports.dropLast
          acquires := pool.acquires.set i
            ⟨connectionId, key, reusable, permit, .checking last.connected⟩ }
      | none =>
        some { pool' with
          idle := replaced pool.idle key transports
          created := pool.created + 1
          acquires := pool.acquires.set i
            ⟨connectionId, key, reusable, permit, .creating ⟨pool.clock⟩⟩ }
    | _ => none
  | .probe i alive =>
    match pool.acquires[i]? with
    | some ⟨connectionId, key, reusable, permit, .checking candidate⟩ =>
      if alive = true then
        some { pool' with
          acquires := pool.acquires.eraseIdx i
          leases := pool.leases ++ [⟨connectionId, key, candidate, reusable, permit⟩] }
      else
        some { pool' with
          created := pool.created + 1
          acquires := pool.acquires.set i
            ⟨connectionId, key, reusable, permit, .creating ⟨pool.clock⟩⟩ }
    | _ => none
  | .connected i =>
    match pool.acquires[i]? with
    | some ⟨connectionId, key, reusable, permit, .creating transport⟩ =>
      some { pool' with
        acquires := pool.acquires.eraseIdx i
        leases := pool.leases ++ [⟨connectionId, key, transport, reusable, permit⟩] }
    | _ => none
  | .fail i =>
    match pool.acquires[i]? with
    | some acquire =>
      some { pool' with
        taken := pool.taken.filter fun gate => acquire.permit ≠ some gate
        acquires := pool.acquires.eraseIdx i }
    | none => none
  | .discard j =>
    match pool.leases[j]? with
    | some lease => some { pool' with leases := pool.leases.set j { lease with reusable := false } }
    | none => none
  | .drop j authenticated now =>
    match pool.leases[j]? with
    | some lease =>
      -- The transport goes back before the permit is released.
      some { pool' with
        idle :=
          if lease.reusable = true ∧ authenticated = true ∧
              (pool.idle lease.key).length < maxIdleTransportsPerProfile then
            replaced pool.idle lease.key (pool.idle lease.key ++ [⟨lease.connected, now⟩])
          else pool.idle
        taken := pool.taken.filter fun gate => lease.permit ≠ some gate
        leases := pool.leases.eraseIdx j }
    | none => none
  | .invalidate connectionId =>
    some { pool' with
      idle := fun key => if Covers connectionId key then [] else pool.idle key
      clearing := pool.clearing ++ [(connectionId, pool.clock)]
      cleared := replaced pool.cleared connectionId pool.clock }
  | .invalidateGates k =>
    match pool.clearing[k]? with
    | some (connectionId, moment) =>
      some { pool' with
        operationGates := fun key => if Covers connectionId key then none else pool.operationGates key
        clearing := pool.clearing.eraseIdx k
        invalidated := replaced pool.invalidated connectionId
          (max (pool.invalidated connectionId) moment) }
    | none => none

/-- The pool with any number of users. -/
def transportSystem : System TransportPool TransportEvent :=
  .ofStep (fun pool => pool = TransportPool.fresh) transportStep

/-- The connection and the transport of a lease that a step hands out. -/
def handedOut (pool : TransportPool) (event : TransportEvent) : Option (String × Transport) :=
  match event with
  | .probe i true =>
    (pool.acquires[i]?).bind fun acquire =>
      match acquire.stage with
      | .checking candidate => some (acquire.connectionId, candidate)
      | _ => none
  | .connected i =>
    (pool.acquires[i]?).bind fun acquire =>
      match acquire.stage with
      | .creating transport => some (acquire.connectionId, transport)
      | _ => none
  | _ => none

/-- A transport that was created, or whose creation had begun, before some moment. -/
def Transport.Before (transport : Transport) (moment : Nat) : Prop := transport.began < moment

instance (transport : Transport) (moment : Nat) : Decidable (transport.Before moment) :=
  inferInstanceAs (Decidable (_ < _))

/--
No transport from before an invalidation is put back, and none is being handed out when it returns.
-/
def Current (pool : TransportPool) (event : TransportEvent) : Prop :=
  match event with
  | .drop j authenticated _ => ∀ lease, pool.leases[j]? = some lease → lease.reusable = true →
      authenticated = true → (pool.idle lease.key).length < maxIdleTransportsPerProfile →
      ∀ connectionId, Covers connectionId lease.key → ¬lease.connected.Before (pool.cleared connectionId)
  | .invalidateGates k => ∀ connectionId moment, pool.clearing[k]? = some (connectionId, moment) →
      ∀ acquire ∈ pool.acquires, Covers connectionId acquire.key →
        ∀ transport ∈ acquire.stage.transport?, ¬transport.Before moment
  | _ => True

/-- What the freshness of every transport rests on, as long as the condition is met. -/
structure TransportPool.Sound (pool : TransportPool) : Prop where
  idle : ∀ key, ∀ transport ∈ pool.idle key, ∀ connectionId, Covers connectionId key →
    ¬transport.connected.Before (pool.cleared connectionId)
  acquires : ∀ acquire ∈ pool.acquires, ∀ transport ∈ acquire.stage.transport?, ∀ connectionId,
    Covers connectionId acquire.key → ¬transport.Before (pool.invalidated connectionId)
  keyed : ∀ acquire ∈ pool.acquires, Covers acquire.connectionId acquire.key
  clearing : ∀ entry ∈ pool.clearing, entry.2 ≤ pool.cleared entry.1
  returned : ∀ connectionId, pool.invalidated connectionId ≤ pool.cleared connectionId
  past : ∀ connectionId, pool.cleared connectionId < pool.clock

theorem covers_transportPoolKeyForLane (profile : ConnectionProfile) (lane : String) :
    Covers profile.id (transportPoolKeyForLane profile lane) := by
  refine ⟨(profile.updatedAt ++ ":" ++ lane).toList, ?_⟩
  simp [transportPoolKeyForLane, String.toList_append]

theorem mem_of_mem_retained {now : Int} {transports : List IdleTransport}
    {transport : IdleTransport} (kept : transport ∈ retained now transports) :
    transport ∈ transports :=
  (List.mem_filter.mp kept).1

theorem replaced_apply {β : Type} (values : String → β) (key : String) (value : β)
    (other : String) : replaced values key value other = if other = key then value else values other :=
  rfl

section Steps

variable {pool next : TransportPool} {event : TransportEvent}

theorem clock_of_step (taken : transportStep pool event = some next) : next.clock = pool.clock + 1 := by
  cases event <;> simp only [transportStep] at taken <;> (repeat' split at taken) <;>
    first | cases taken; rfl | cases taken

/-- An idle transport was idle and is not cleared, or goes back to the pool in this step. -/
theorem idle_of_step (taken : transportStep pool event = some next) {key : String}
    {transport : IdleTransport} (member : transport ∈ next.idle key) :
    (transport ∈ pool.idle key ∧ ∀ connectionId, event = .invalidate connectionId → ¬Covers connectionId key) ∨
      ∃ j authenticated now lease, event = .drop j authenticated now ∧
        pool.leases[j]? = some lease ∧ lease.reusable = true ∧ authenticated = true ∧
        (pool.idle lease.key).length < maxIdleTransportsPerProfile ∧ key = lease.key ∧
        transport = ⟨lease.connected, now⟩ := by
  cases event with
  | reuse i now =>
    -- Only transports that were idle under this key stay in its list.
    have old : transport ∈ pool.idle key := by
      simp only [transportStep] at taken
      split at taken
      · split at taken <;> cases taken <;> simp only [replaced_apply] at member <;> split at member
        · next same => exact same ▸ mem_of_mem_retained (List.mem_of_mem_dropLast member)
        · exact member
        · next same => exact same ▸ mem_of_mem_retained member
        · exact member
      · cases taken
    exact .inl ⟨old, by simp⟩
  | drop j authenticated now =>
    simp only [transportStep] at taken
    split at taken
    case h_2 => cases taken
    case h_1 lease found =>
      cases taken
      simp only at member
      split at member
      · next returns =>
        simp only [replaced_apply] at member
        split at member
        · next same =>
          rcases List.mem_append.mp member with old | new
          · exact .inl ⟨same ▸ old, by simp⟩
          · exact .inr ⟨j, authenticated, now, lease, rfl, found, returns.1, returns.2.1, returns.2.2,
              same, by simpa using new⟩
        · exact .inl ⟨member, by simp⟩
      · exact .inl ⟨member, by simp⟩
  | invalidate connectionId =>
    simp only [transportStep] at taken
    cases taken
    simp only at member
    split at member
    · simp at member
    · next uncovered =>
      refine .inl ⟨member, ?_⟩
      rintro _ ⟨⟩
      exact uncovered
  | _ =>
    -- All other steps leave the idle lists alone.
    simp only [transportStep] at taken
    (repeat' split at taken) <;> first | cases taken; exact .inl ⟨member, by simp⟩ | cases taken

variable {transport : Transport} {acquire : Acquire}

/-- A transport an `acquire` may hand out was so before, was idle, or is created in this step. -/
theorem transport_of_step (taken : transportStep pool event = some next) (member : acquire ∈ next.acquires)
    (held : transport ∈ acquire.stage.transport?) : (∃ earlier ∈ pool.acquires, earlier.key = acquire.key ∧
        transport ∈ earlier.stage.transport?) ∨
      (∃ idle ∈ pool.idle acquire.key, idle.connected = transport) ∨
      transport = ⟨pool.clock⟩ := by
  -- An untouched `acquire` holds what it held.
  have untouched : acquire ∈ pool.acquires → ∃ earlier ∈ pool.acquires,
      earlier.key = acquire.key ∧ transport ∈ earlier.stage.transport? :=
    fun old => ⟨acquire, old, rfl, held⟩
  cases event with
  | acquire profile lane =>
    simp only [transportStep] at taken
    (repeat' split at taken) <;> cases taken <;>
      rcases List.mem_append.mp member with old | new
    · exact .inl (untouched old)
    · obtain rfl := List.mem_singleton.mp new
      exact .inr (.inr (by simpa [AcquireStage.transport?] using held.symm))
    · exact .inl (untouched old)
    · obtain rfl := List.mem_singleton.mp new
      simp [AcquireStage.transport?] at held
    · exact .inl (untouched old)
    · obtain rfl := List.mem_singleton.mp new
      simp [AcquireStage.transport?] at held
  | permit i =>
    simp only [transportStep] at taken
    (repeat' split at taken) <;> try cases taken
    rcases List.mem_or_eq_of_mem_set member with old | rfl
    · exact .inl (untouched old)
    · simp [AcquireStage.transport?] at held
  | reuse i now =>
    simp only [transportStep] at taken
    (repeat' split at taken) <;> try cases taken
    · next last popped =>
      rcases List.mem_or_eq_of_mem_set member with old | rfl
      · exact .inl (untouched old)
      · obtain rfl : last.connected = transport := by simpa [AcquireStage.transport?] using held
        exact .inr (.inl ⟨last, mem_of_mem_retained (List.mem_of_getLast? popped), rfl⟩)
    · rcases List.mem_or_eq_of_mem_set member with old | rfl
      · exact .inl (untouched old)
      · exact .inr (.inr (by simpa [AcquireStage.transport?] using held.symm))
  | probe i alive =>
    simp only [transportStep] at taken
    (repeat' split at taken) <;> try cases taken
    · exact .inl (untouched (List.mem_of_mem_eraseIdx member))
    · rcases List.mem_or_eq_of_mem_set member with old | rfl
      · exact .inl (untouched old)
      · exact .inr (.inr (by simpa [AcquireStage.transport?] using held.symm))
  | _ =>
    -- All other steps at most take an `acquire` away.
    simp only [transportStep] at taken
    (repeat' split at taken) <;>
      first
        | cases taken; exact .inl (untouched member)
        | cases taken; exact .inl (untouched (List.mem_of_mem_eraseIdx member))
        | cases taken

theorem goes_on_of_set {acquires : List Acquire} {i : Nat} {before after : Acquire}
    (member : acquire ∈ acquires.set i after) (found : acquires[i]? = some before)
    (connection : before.connectionId = after.connectionId) (key : before.key = after.key) :
    ∃ earlier ∈ acquires, earlier.connectionId = acquire.connectionId ∧ earlier.key = acquire.key := by
  rcases List.mem_or_eq_of_mem_set member with old | rfl
  · exact ⟨acquire, old, rfl, rfl⟩
  · exact ⟨before, List.mem_of_getElem? found, connection, key⟩

theorem acquire_of_step (taken : transportStep pool event = some next) (member : acquire ∈ next.acquires) :
    (∃ earlier ∈ pool.acquires, earlier.connectionId = acquire.connectionId ∧
        earlier.key = acquire.key) ∨ Covers acquire.connectionId acquire.key := by
  have untouched : acquire ∈ pool.acquires → ∃ earlier ∈ pool.acquires,
      earlier.connectionId = acquire.connectionId ∧ earlier.key = acquire.key :=
    fun old => ⟨acquire, old, rfl, rfl⟩
  cases event with
  | acquire profile lane =>
    simp only [transportStep] at taken
    (repeat' split at taken) <;> cases taken <;>
      rcases List.mem_append.mp member with old | new <;>
      first
        | exact .inl (untouched old)
        | obtain rfl := List.mem_singleton.mp new
          exact .inr (covers_transportPoolKeyForLane profile _)
  | _ =>
    -- The stage of an `acquire` changes where it is, and its key does not.
    simp only [transportStep] at taken
    (repeat' split at taken) <;> try cases taken
    all_goals first
      | exact .inl (untouched member)
      | exact .inl (untouched (List.mem_of_mem_eraseIdx member))
      | refine .inl (goes_on_of_set member (by assumption) ?_ ?_) <;> rfl

theorem record_of_step (taken : transportStep pool event = some next) :
    (next.cleared = pool.cleared ∧ next.invalidated = pool.invalidated ∧ next.clearing = pool.clearing) ∨
      (∃ connectionId, event = .invalidate connectionId ∧
        next.cleared = replaced pool.cleared connectionId pool.clock ∧
        next.invalidated = pool.invalidated ∧
        next.clearing = pool.clearing ++ [(connectionId, pool.clock)]) ∨
      ∃ k connectionId moment, event = .invalidateGates k ∧
        pool.clearing[k]? = some (connectionId, moment) ∧ next.acquires = pool.acquires ∧
        next.cleared = pool.cleared ∧ next.clearing = pool.clearing.eraseIdx k ∧
        next.invalidated = replaced pool.invalidated connectionId
          (max (pool.invalidated connectionId) moment) := by
  cases event with
  | invalidate connectionId =>
    simp only [transportStep] at taken
    cases taken
    exact .inr (.inl ⟨connectionId, rfl, rfl, rfl, rfl⟩)
  | invalidateGates k =>
    simp only [transportStep] at taken
    split at taken
    · next connectionId moment found =>
      cases taken
      exact .inr (.inr ⟨k, connectionId, moment, rfl, found, rfl, rfl, rfl, rfl⟩)
    · cases taken
  | _ =>
    simp only [transportStep] at taken
    (repeat' split at taken) <;> first | cases taken; exact .inl ⟨rfl, rfl, rfl⟩ | cases taken

theorem idle_length_of_step (taken : transportStep pool event = some next)
    (bounded : ∀ key, (pool.idle key).length ≤ maxIdleTransportsPerProfile) (key : String) :
    (next.idle key).length ≤ maxIdleTransportsPerProfile := by
  cases event with
  | reuse i now =>
    have shorter : ∀ key, (retained now (pool.idle key)).length ≤ maxIdleTransportsPerProfile :=
      fun key => (List.length_filter_le _ _).trans (bounded key)
    simp only [transportStep] at taken
    (repeat' split at taken) <;> try cases taken
    · -- The last transport is popped from what is retained.
      simp only [replaced_apply]
      split
      · next stage _ _ =>
        rw [List.length_dropLast]
        exact (Nat.sub_le _ _).trans (shorter _)
      · exact bounded key
    · simp only [replaced_apply]
      split
      · exact shorter _
      · exact bounded key
  | drop j authenticated now =>
    simp only [transportStep] at taken
    split at taken
    case h_2 => cases taken
    case h_1 lease found =>
      cases taken
      simp only
      split
      · -- A transport goes back only where the list is not full.
        next returns =>
        simp only [replaced_apply]
        split
        · rw [List.length_append, List.length_singleton]
          exact returns.2.2
        · exact bounded key
      · exact bounded key
  | invalidate connectionId =>
    simp only [transportStep] at taken
    cases taken
    simp only
    split
    · exact Nat.zero_le _
    · exact bounded key
  | _ =>
    simp only [transportStep] at taken
    (repeat' split at taken) <;> first | cases taken; exact bounded key | cases taken

/-- A step that meets the condition keeps every transport fresh. -/
theorem sound_of_step (taken : transportStep pool event = some next) (sound : pool.Sound)
    (current : Current pool event) : next.Sound := by
  have clock := clock_of_step taken
  have record := record_of_step taken
  -- No connection is cleared or invalidated again except by the step itself.
  have begins : ∀ connectionId, ¬(Transport.Before ⟨pool.clock⟩ (pool.cleared connectionId)) :=
    fun connectionId => (sound.past connectionId).le.not_gt
  constructor
  case idle =>
    intro key transport member connectionId covers
    rcases idle_of_step taken member with ⟨old, uncovered⟩ | dropped
    · rcases record with ⟨cleared, -, -⟩ | ⟨other, rfl, cleared, -, -⟩ | ⟨_, _, _, -, -, -, cleared, -⟩
      · exact cleared ▸ sound.idle key transport old connectionId covers
      · -- What is idle after an invalidation belongs to another connection.
        have differs : connectionId ≠ other := fun same => uncovered other rfl (same ▸ covers)
        rw [cleared, replaced_apply, if_neg differs]
        exact sound.idle key transport old connectionId covers
      · exact cleared ▸ sound.idle key transport old connectionId covers
    · obtain ⟨j, authenticated, now, lease, rfl, found, reusable, alive, room, rfl, rfl⟩ := dropped
      obtain ⟨cleared, -, -⟩ | ⟨_, none, -⟩ | ⟨_, _, _, none, -⟩ := record
      · exact cleared ▸ current lease found reusable alive room connectionId covers
      · cases none
      · cases none
  case acquires =>
    intro acquire member transport held connectionId covers
    -- Whatever is held was not begun before the last invalidation that had returned by now.
    have fresh : ¬transport.Before (pool.invalidated connectionId) := by
      rcases transport_of_step taken member held with
        ⟨earlier, old, same, before⟩ | ⟨idle, there, rfl⟩ | rfl
      · exact sound.acquires earlier old transport before connectionId (same ▸ covers)
      · exact fun early => sound.idle _ idle there connectionId covers
          (early.trans_le (sound.returned connectionId))
      · exact fun early => begins connectionId (early.trans_le (sound.returned connectionId))
    rcases record with ⟨-, invalidated, -⟩ | ⟨_, -, -, invalidated, -⟩ |
        ⟨k, other, moment, rfl, found, acquires, -, -, invalidated⟩
    · exact invalidated ▸ fresh
    · exact invalidated ▸ fresh
    · rw [invalidated, replaced_apply]
      split
      · next same =>
        -- The condition says that nothing from before this moment is being handed out.
        have late := current other moment found acquire (acquires ▸ member) (same ▸ covers)
          transport held
        subst same
        exact fun early => (lt_max_iff.mp early).elim fresh late
      · exact fresh
  case keyed =>
    intro acquire member
    rcases acquire_of_step taken member with ⟨earlier, old, connection, key⟩ | covers
    · exact connection ▸ key ▸ sound.keyed earlier old
    · exact covers
  case clearing =>
    intro entry member
    rcases record with ⟨cleared, -, clearing⟩ | ⟨other, -, cleared, -, clearing⟩ |
        ⟨k, _, _, -, -, -, cleared, clearing, -⟩
    · rw [clearing] at member
      exact cleared ▸ sound.clearing entry member
    · rw [clearing] at member
      rw [cleared, replaced_apply]
      rcases List.mem_append.mp member with old | new
      · split
        · next same => exact (sound.clearing entry old).trans (sound.past entry.1).le
        · exact sound.clearing entry old
      · obtain rfl := List.mem_singleton.mp new
        simp
    · rw [clearing] at member
      exact cleared ▸ sound.clearing entry (List.mem_of_mem_eraseIdx member)
  case returned =>
    intro connectionId
    rcases record with ⟨cleared, invalidated, -⟩ | ⟨other, -, cleared, invalidated, -⟩ |
        ⟨k, other, moment, -, found, -, cleared, -, invalidated⟩
    · rw [cleared, invalidated]
      exact sound.returned connectionId
    · rw [cleared, invalidated, replaced_apply]
      split
      · next same => exact (sound.returned connectionId).trans (sound.past connectionId).le
      · exact sound.returned connectionId
    · rw [cleared, invalidated, replaced_apply]
      split
      · next same =>
        have pending := sound.clearing _ (List.mem_of_getElem? found)
        subst same
        exact max_le (sound.returned connectionId) pending
      · exact sound.returned connectionId
  case past =>
    intro connectionId
    have before := sound.past connectionId
    rcases record with ⟨cleared, -⟩ | ⟨other, -, cleared, -⟩ | ⟨k, _, _, -, -, -, cleared, -⟩
    · rw [cleared, clock]
      omega
    · rw [cleared, clock, replaced_apply]
      split <;> omega
    · rw [cleared, clock]
      omega

theorem acquire_of_handedOut {connectionId : String} (out : handedOut pool event = some (connectionId, transport)) :
    ∃ acquire ∈ pool.acquires, acquire.connectionId = connectionId ∧ transport ∈ acquire.stage.transport? := by
  unfold handedOut at out
  split at out
  · obtain ⟨acquire, found, held⟩ := Option.bind_eq_some_iff.mp out
    refine ⟨acquire, List.mem_of_getElem? found, ?_⟩
    split at held <;> cases held
    next staged => exact ⟨rfl, by simp [staged, AcquireStage.transport?]⟩
  · obtain ⟨acquire, found, held⟩ := Option.bind_eq_some_iff.mp out
    refine ⟨acquire, List.mem_of_getElem? found, ?_⟩
    split at held <;> cases held
    next staged => exact ⟨rfl, by simp [staged, AcquireStage.transport?]⟩
  · cases out

end Steps

theorem TransportPool.Sound.fresh : TransportPool.fresh.Sound := by
  constructor <;> simp [TransportPool.fresh]

/--
No idle list holds more than two transports, in any order of steps.
Where every step meets the condition, no lease is backed by a transport from before an invalidation
of its connection that had returned when the lease was handed out.
-/
theorem invalidationFinal_of_run {trace : List (TransportPool × TransportEvent)}
    {pool : TransportPool} (run : transportSystem.Run trace pool) :
    (∀ key, (pool.idle key).length ≤ maxIdleTransportsPerProfile) ∧
      ((∀ entry ∈ trace, Current entry.1 entry.2) → ∀ entry ∈ trace, ∀ connectionId transport,
        handedOut entry.1 entry.2 = some (connectionId, transport) →
          ¬transport.Before (entry.1.invalidated connectionId)) := by
  constructor
  · exact System.Reachable.invariant
      (fun pool => ∀ key, (pool.idle key).length ≤ maxIdleTransportsPerProfile)
      (fun pool (begins : pool = .fresh) key => begins ▸ Nat.zero_le _)
      (fun _ _ _ bounded taken => idle_length_of_step taken bounded) ⟨trace, run⟩
  · intro meets entry member connectionId transport out
    -- The state the step left was reached by earlier steps, which met the condition too.
    obtain ⟨before, after, rfl, earlier⟩ := run.visited entry member
    have sound : entry.1.Sound := earlier.invariant Current TransportPool.Sound
      (fun pool (begins : pool = .fresh) => begins ▸ .fresh)
      (fun _ _ _ sound current taken => sound_of_step taken sound current)
      fun earlier old => meets earlier (List.mem_append_left _ old)
    obtain ⟨acquire, there, rfl, held⟩ := acquire_of_handedOut out
    exact sound.acquires acquire there transport held _ (sound.keyed acquire there)

def pooledProfile : ConnectionProfile := ⟨"host", "host.example", 22, .strict, none, "2026-01-01T00:00:00Z"⟩

/--
A lease outlives an invalidation of its connection, returns its transport to the pool, and the next
lease takes it from there.
-/
theorem staleTransport_handedOut :
    ∃ trace pool, transportSystem.Run trace pool ∧ ∃ entry ∈ trace, ∃ transport,
      handedOut entry.1 entry.2 = some ("host", transport) ∧ transport.Before (entry.1.invalidated "host") := by
  have goes : System.trail transportStep .fresh [.acquire pooledProfile (some "default"), .permit 0,
      .reuse 0 0, .connected 0, .invalidate "host", .invalidateGates 0, .drop 0 true 0,
      .acquire pooledProfile (some "default"), .permit 0, .reuse 0 0, .probe 0 true] =
      some (_, _) := rfl
  have run := System.Run.trail (.start rfl : transportSystem.Run [] .fresh) goes
  -- The eleventh step hands out the transport whose creation was the third.
  refine ⟨_, _, run, _, List.mem_of_getElem? (i := 10) rfl, ⟨3⟩, rfl, ?_⟩
  decide

/-- A transport that returns before an invalidation is not handed out after it. -/
theorem invalidationFinal_of_run_fresh :
    ∃ trace pool, transportSystem.Run trace pool ∧
      (trace.filterMap fun entry => handedOut entry.1 entry.2) = [("host", ⟨3⟩), ("host", ⟨10⟩)] ∧
      ∀ entry ∈ trace, ∀ connectionId transport,
        handedOut entry.1 entry.2 = some (connectionId, transport) →
          ¬transport.Before (entry.1.invalidated connectionId) := by
  have goes : System.trail transportStep .fresh [.acquire pooledProfile (some "default"), .permit 0,
      .reuse 0 0, .connected 0, .drop 0 true 0, .invalidate "host", .invalidateGates 0,
      .acquire pooledProfile (some "default"), .permit 0, .reuse 0 0, .connected 0] =
      some (_, _) := rfl
  have run := System.Run.trail (.start rfl : transportSystem.Run [] .fresh) goes
  refine ⟨_, _, run, rfl, (invalidationFinal_of_run run).2 ?_⟩
  simp [Current, TransportPool.fresh, Transport.Before]

end Ssh

end CNShell
