import CNShell.Library.Interference
import CNShell.Ssh.Models

/-! First contacts with a host: the lookup of its key, the decision and the storing, each on its own. -/

namespace CNShell

namespace Ssh

open Client (AppError AppResult)

/-- The moments at which a connection touches the known hosts, and the one where it logs in. -/
inductive HostAction : Type → Type
  | knownHost (host : String) (port : Int) : HostAction (Option HostKey)
  | trustHost (host : String) (port : Int) (key : HostKey) : HostAction Unit
  | authenticate (profile : ConnectionProfile) (key : HostKey) : HostAction Unit

/-- What each of them returns and leaves; storing overwrites the entry there is. -/
def HostAction.run {β : Type} : HostAction β → KnownHosts → AppResult (β × KnownHosts)
  | .knownHost host port => fun hosts => .ok ((hosts.find? (host, port)).map KnownHost.key, hosts)
  | .trustHost host port key => fun hosts => .ok ((), hosts.put ⟨host, port, key⟩)
  | .authenticate _ _ => fun hosts => .ok ((), hosts)

def hostSemantics : Semantics HostAction AppError KnownHosts where
  run action := action.run

/-- One hop of `verified_connection`, whose handshake failed or presented a key. -/
def verifiedConnection (profile : ConnectionProfile) (permitUnknown : Bool)
    (handshake : AppResult HostKey) : Program HostAction AppError Unit := do
  let presented ← Program.lift handshake
  let known ← Program.perform (.knownHost profile.host profile.port)
  let acceptNew := profile.hostKeyPolicy == .acceptNew
  Program.lift (verifyHostIdentity known presented (permitUnknown || acceptNew))
  if known.isNone && acceptNew then
    Program.perform (.trustHost profile.host profile.port presented)
    Program.perform (.authenticate profile presented)
  else Program.perform (.authenticate profile presented)

/-- Connections of any number, none of which permits an unknown key by itself, as all callers ask. -/
def hostSystem : System (Pool HostAction AppError KnownHosts) (Pool.Label HostAction AppError) :=
  Pool.system hostSemantics
    (fun program => ∃ profile handshake, program = verifiedConnection profile false handshake)
    fun _ => True

def loggedIn (event : Event HostAction AppError) : Option ((String × Int) × HostKey) :=
  match event with
  | ⟨.authenticate profile key, _⟩ => some ((profile.host, profile.port), key)
  | _ => none

/-- A connection stores its key where none is known still, or the very same one. -/
def StoresFirst (hosts : KnownHosts) (event : Event HostAction AppError) : Prop :=
  match event with
  | ⟨.trustHost host port key, _⟩ =>
      ∀ known ∈ hosts.find? (host, port), known.key = key
  | _ => True

instance (hosts : KnownHosts) : (event : Event HostAction AppError) → Decidable (StoresFirst hosts event)
  | ⟨.trustHost host port key, _⟩ =>
      inferInstanceAs (Decidable (∀ known ∈ hosts.find? (host, port), known.key = key))
  | ⟨.knownHost _ _, _⟩ | ⟨.authenticate _ _, _⟩ => isTrue trivial

def Pinned (before after : KnownHosts) : Prop :=
  ∀ place key, (before.find? place).map KnownHost.key = some key → (after.find? place).map KnownHost.key = some key

def LogsInKnown : (β : Type) → HostAction β → KnownHosts → Prop
  | _, .authenticate profile key, hosts =>
      (hosts.find? (profile.host, profile.port)).map KnownHost.key = some key
  | _, _, _ => True

theorem verifiedConnection_along (profile : ConnectionProfile) (handshake : AppResult HostKey)
    (hosts : KnownHosts) :
    (verifiedConnection profile false handshake).Along hostSemantics Pinned LogsInKnown hosts := by
  refine .lift_bind fun presented _ => .perform_bind (fun _ _ => trivial) ?_
  intro moved known next _ looked
  obtain ⟨rfl, rfl⟩ := Prod.mk.inj (Except.ok.inj looked)
  refine .lift_bind fun _ verified => ?_
  rw [verifyHostIdentity_eq_ok] at verified
  rcases verified with known | ⟨unknown, accepts⟩
  · -- A known host is logged in to right away, with the key it is known by.
    rw [if_neg (by simp [known])]
    exact .perform fun later pinned => pinned _ _ known
  · have accepts : (profile.hostKeyPolicy == .acceptNew) = true := by simpa using accepts
    rw [if_pos (by simp [unknown, accepts])]
    refine .perform_bind (fun _ _ => trivial) fun moved u next _ stored => ?_
    obtain ⟨-, rfl⟩ := Prod.mk.inj (Except.ok.inj stored)
    refine .perform fun later pinned => pinned _ _ ?_
    simp [Table.find?_put, KnownHost.place]

theorem pinned_trustHost {hosts : KnownHosts} {host : String} {port : Int} {key : HostKey}
    (first : ∀ known ∈ hosts.find? (host, port), known.key = key) :
    Pinned hosts (hosts.put ⟨host, port, key⟩) := by
  intro place old known
  rw [Table.find?_put]
  split
  · rename_i same
    subst same
    obtain ⟨row, found, rfl⟩ := Option.map_eq_some_iff.mp known
    exact congrArg some (first row found).symm
  · exact known

def acceptingProfile : ConnectionProfile where
  id := "connection"
  host := "host"
  port := 22
  hostKeyPolicy := .acceptNew
  proxyId := none
  updatedAt := "2026-01-01T00:00:00Z"

def serverKey : HostKey := ⟨"ssh-ed25519", "SHA256:server"⟩

/-- The key of somebody in the middle. -/
def strangerKey : HostKey := ⟨"ssh-ed25519", "SHA256:stranger"⟩

end Ssh

end CNShell
