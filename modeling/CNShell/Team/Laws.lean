import CNShell.Client.Roster
import CNShell.Relay.Retired
import CNShell.Relay.Roster
import CNShell.Relay.Staffing

/-! Who owns a workspace, how its key epoch moves and how many members it has, in both stores. -/

namespace CNShell

namespace Relay

/-- Every workspace has an active owner, and what a removed member had is out of use. -/
structure Governed (db : Db) : Prop where
  owner : ∀ workspace ∈ db.workspaces.rows, ∃ member ∈ db.members.rows,
    member.workspaceId = workspace.id ∧ member.role = .owner ∧ member.status = .active
  devices : ∀ member ∈ db.members.rows, member.status = .removed →
    ∀ device ∈ db.devices.rows, device.memberId = member.id → device.status ≠ .active
  sessions : ∀ member ∈ db.members.rows, member.status = .removed →
    ∀ device ∈ db.devices.rows, device.memberId = member.id →
      ∀ session ∈ db.deviceSessions.rows, session.deviceId = device.id → session.revokedAt ≠ none

/-- No workspace's key epoch falls, and it rises when a member's role or status changes. -/
structure EpochsRise (db next : Db) : Prop where
  grows : ∀ workspace ∈ db.workspaces.rows, ∀ later ∈ next.workspaces.rows,
    later.id = workspace.id → workspace.keyEpoch ≤ later.keyEpoch
  rises : ∀ member ∈ db.members.rows, ∀ later ∈ next.members.rows, later.id = member.id →
    (later.role ≠ member.role ∨ later.status ≠ member.status) →
    ∃ workspace ∈ db.workspaces.rows, ∃ raised ∈ next.workspaces.rows,
      workspace.id = member.workspaceId ∧ raised.id = member.workspaceId ∧ workspace.keyEpoch < raised.keyEpoch

variable {platform : Platform} {db next : Db}

theorem Governed.of_roster (owned : (Db.roster db).Owned) (tenured : Tenured db) : Governed db := by
  constructor
  case owner =>
    intro workspace stored
    obtain ⟨name, owns⟩ := owned workspace.id (by simp [Table.find?_of_mem stored])
    simp only [Team.Roster.IsOwner, post_roster, Option.map_eq_some_iff, Member.post, Team.Post.mk.injEq] at owns
    obtain ⟨member, found, own, role, status⟩ := owns
    exact ⟨member, (Table.find?_some found).1, own, role, status⟩
  case devices =>
    intro member held removed device stored owner active
    obtain ⟨owning, found, -, usable⟩ := tenured.manned device stored
    rw [owner, Table.find?_of_mem held] at found
    obtain rfl := Option.some.inj found
    rw [usable active] at removed
    cases removed
  case sessions =>
    intro member held removed device stored owner session listed same valid
    obtain ⟨used, owning, found, owned', usable⟩ := tenured.sessions session listed
    rw [same, Table.find?_of_mem stored] at found
    obtain rfl := Option.some.inj found
    rw [owner, Table.find?_of_mem held] at owned'
    obtain rfl := Option.some.inj owned'
    rw [usable valid] at removed
    cases removed

theorem EpochsRise.of_roster (rising : (Db.roster db).EpochRises (Db.roster next)) : EpochsRise db next := by
  constructor
  case grows =>
    intro workspace stored later kept same
    exact rising.grows workspace.id _ _ (by simp [Table.find?_of_mem stored])
      (by simp [← same, Table.find?_of_mem kept])
  case rises =>
    intro member held later kept same differs
    obtain ⟨old, new, before, after, less⟩ := rising.rises member.id (Member.post member)
      (Member.post later) (by simp [Table.find?_of_mem held])
      (by simp [← same, Table.find?_of_mem kept]) (by simpa [Member.post, eq_comm] using differs)
    simp only [epoch_roster, Option.map_eq_some_iff] at before after
    obtain ⟨workspace, stored, rfl⟩ := before
    obtain ⟨raised, found, rfl⟩ := after
    obtain ⟨listed, named⟩ := Table.find?_some stored
    obtain ⟨also, called⟩ := Table.find?_some found
    exact ⟨workspace, listed, raised, also, named, called, less⟩

theorem owned_of_reachable (reached : ReachableDb platform db) : (Db.roster db).Owned := by
  obtain ⟨threads, trace, run⟩ := reached
  refine Pool.invariant (fun _ _ => True) (fun _ _ => True) (fun db => (Db.roster db).Owned)
    (fun program _ => .any program) ?_ ?_ run fun _ _ => trivial
  · intro _ opened
    subst opened
    exact fun workspace named => absurd rfl named
  · intro db next β action value _ owned _ ran
    exact owned.step (action.roster_step ran)

theorem epochRises_of_step {pool after : Pool Action RelayError Db}
    {label : Pool.Label Action RelayError} (taken : (service platform).step pool label after) :
    (Db.roster pool.store).EpochRises (Db.roster after.store) := by
  cases taken with
  | start permitted => exact .refl _
  | drop => exact .refl _
  | @act store _ _ _ action _ =>
    -- Only a successful action moves the store.
    let rises (next : Db) : Prop := (Db.roster store).EpochRises (Db.roster next)
    exact @Semantics.outcome_keeps _ _ _ (semantics platform) rises _ action store (.refl _)
      fun _ _ ran => .of_step (Action.roster_step ran)

end Relay

namespace Client

def HasOwners (db : LocalDb) : Prop :=
  ∀ workspace ∈ db.teamWorkspaces.rows, ∃ member ∈ db.teamMembers.rows,
    member.workspaceId = workspace.id ∧ member.role = .owner ∧ member.status = .active

/-- No local key epoch falls, and it rises when a member's role or status changes. -/
structure EpochsRise (db next : LocalDb) : Prop where
  grows : ∀ workspace ∈ db.teamWorkspaces.rows, ∀ later ∈ next.teamWorkspaces.rows,
    later.id = workspace.id → workspace.keyEpoch ≤ later.keyEpoch
  rises : ∀ member ∈ db.teamMembers.rows, ∀ later ∈ next.teamMembers.rows, later.id = member.id →
    (later.role ≠ member.role ∨ later.status ≠ member.status) →
    ∃ workspace ∈ db.teamWorkspaces.rows, ∃ raised ∈ next.teamWorkspaces.rows,
      workspace.id = member.workspaceId ∧ raised.id = member.workspaceId ∧ workspace.keyEpoch < raised.keyEpoch

variable {platform : Platform} {db next start : LocalDb}

theorem hasOwners_iff : HasOwners db ↔ (LocalDb.roster db).Owned := by
  constructor
  · intro owners name named
    obtain ⟨workspace, found⟩ : ∃ workspace, db.teamWorkspaces.find? name = some workspace := by
      simpa [Option.ne_none_iff_exists'] using named
    obtain ⟨stored, keyed⟩ := Table.find?_some found
    obtain ⟨member, held, own, role, status⟩ := owners workspace stored
    exact ⟨member.id, by
      simp [Team.Roster.IsOwner, Table.find?_of_mem held, TeamMember.post, own, keyed, role, status]⟩
  · intro owned workspace stored
    obtain ⟨name, owns⟩ := owned workspace.id (by simp [Table.find?_of_mem stored])
    simp only [Team.Roster.IsOwner, post_roster, Option.map_eq_some_iff, TeamMember.post, Team.Post.mk.injEq] at owns
    obtain ⟨member, found, own, role, status⟩ := owns
    exact ⟨member, (Table.find?_some found).1, own, role, status⟩

theorem EpochsRise.of_roster (rising : (LocalDb.roster db).EpochRises (LocalDb.roster next)) :
    EpochsRise db next := by
  constructor
  case grows =>
    intro workspace stored later kept same
    exact rising.grows workspace.id _ _ (by simp [Table.find?_of_mem stored])
      (by simp [← same, Table.find?_of_mem kept])
  case rises =>
    intro member held later kept same differs
    obtain ⟨old, new, before, after, less⟩ := rising.rises member.id (TeamMember.post member)
      (TeamMember.post later) (by simp [Table.find?_of_mem held])
      (by simp [← same, Table.find?_of_mem kept]) (by simpa [TeamMember.post, eq_comm] using differs)
    simp only [epoch_roster, Option.map_eq_some_iff] at before after
    obtain ⟨workspace, stored, rfl⟩ := before
    obtain ⟨raised, found, rfl⟩ := after
    obtain ⟨listed, named⟩ := Table.find?_some stored
    obtain ⟨also, called⟩ := Table.find?_some found
    exact ⟨workspace, listed, raised, also, named, called, less⟩

theorem owned_of_calls (owned : (LocalDb.roster start).Owned) {trace : List (LocalDb × TeamCall)}
    (run : (teamCalls platform start).Run trace db) : (LocalDb.roster db).Owned := by
  refine run.invariant (fun _ _ => True) (fun db => (LocalDb.roster db).Owned) ?_ ?_
    fun _ _ => trivial
  · intro _ opened
    subst opened
    exact owned
  · intro db call next owned _ ran
    exact owned.step (TeamCall.roster_step ran)

end Client

namespace Team

variable {platform : Platform}

def activeMembers (workspaceId : String) (db : Db) : Nat :=
  db.members.count fun member => member.workspaceId = workspaceId ∧ member.status = .active

end Team

namespace Relay.Demo

end Relay.Demo

end CNShell
