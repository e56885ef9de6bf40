import CNShell.Client.Models

/-! The connections, proxies and known hosts behind the client's SSH transports. -/

namespace CNShell

namespace Ssh

open Client (AppError AppResult)

/-- What a connection does with a host whose key is not known. -/
inductive HostKeyPolicy
  | strict
  | acceptNew
  deriving DecidableEq, Repr

/-- What the SSH transports read of a row of `connections`. -/
structure ConnectionProfile where
  id : String
  host : String
  port : Int
  hostKeyPolicy : HostKeyPolicy
  proxyId : Option String
  updatedAt : String
  deriving DecidableEq, Repr

/-- The kinds of proxies. -/
inductive ProxyType
  | socks5
  | http
  | sshJump
  deriving DecidableEq, Repr

/-- What the SSH transports read of a row of `proxies`. -/
structure ProxyProfile where
  id : String
  name : String
  proxyType : ProxyType
  host : String
  port : Int
  jumpConnectionId : Option String
  deriving DecidableEq, Repr

/-- The key a server presents in the handshake. -/
structure HostKey where
  algorithm : String
  fingerprint : String
  deriving DecidableEq, Repr

/-- A row of `known_hosts`. -/
structure KnownHost where
  host : String
  port : Int
  key : HostKey
  deriving DecidableEq, Repr

def KnownHost.place (known : KnownHost) : String × Int := (known.host, known.port)

abbrev KnownHosts := Table KnownHost.place

def verifyHostIdentity (known : Option HostKey) (presented : HostKey) (permitUnknown : Bool) : AppResult Unit :=
  match known with
  | some expected =>
    if expected ≠ presented then
      .error (.hostKeyChanged (expected.algorithm ++ " " ++ expected.fingerprint)
        (presented.algorithm ++ " " ++ presented.fingerprint))
    else .ok ()
  | none =>
    if permitUnknown = true then .ok ()
    else .error (.hostKeyUnknown presented.fingerprint presented.algorithm)

@[simp] theorem verifyHostIdentity_eq_ok {known : Option HostKey} {presented : HostKey}
    {permitUnknown : Bool} {u : Unit} :
    verifyHostIdentity known presented permitUnknown = .ok u ↔
      known = some presented ∨ known = none ∧ permitUnknown = true := by
  cases known with
  | none => cases permitUnknown <;> simp [verifyHostIdentity]
  | some expected => by_cases same : expected = presented <;> simp [verifyHostIdentity, same]

end Ssh

end CNShell
