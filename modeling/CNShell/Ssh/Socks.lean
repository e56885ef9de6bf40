import CNShell.Client.Models
import CNShell.Library.Addresses
import CNShell.Library.Wire
import CNShell.Sftp.TextPages

/-! The client of a SOCKS5 proxy, and the part of the dynamic tunnels that reads what such a client asks for. -/

namespace CNShell

namespace Ssh

open Client (AppError AppResult)
open Talk (readExact writeAll check fail)

/-- The failure of a read that the proxy does not satisfy. -/
def unexpectedEof : AppError := .storage "failed to fill whole buffer"

def portNumber (port : Int) : UInt16 := UInt16.ofNat (port % 65536).toNat

def addressBytes (host : String) : Option IpAddr → AppResult (List UInt8)
  | some (.v4 address) => .ok (1 :: address.octets)
  | some (.v6 address) => .ok (4 :: address.octets)
  | none =>
    if 255 < (utf8 host).length then .error (.validation "目标主机名过长")
    else .ok (3 :: UInt8.ofNat (utf8 host).length :: utf8 host)

/-- The request to connect to a host, whose name may be the text of an address. -/
def connectRequest (parse : String → Option IpAddr) (host : String) (port : Int) : AppResult (List UInt8) := do
  let address ← addressBytes host (parse host)
  return [5, 1, 0] ++ address ++ bigEndian (portNumber port)

/-- The name and the password of a proxy, where it has them. -/
structure ProxyLogin where
  username : Option String
  secret : Option String

/-- Whether the client can authenticate. -/
def ProxyLogin.auth (login : ProxyLogin) : Bool := login.secret.isSome && login.username.isSome

/-- The method that the client offers: authentication by name and password, or none. -/
def ProxyLogin.offered (login : ProxyLogin) : UInt8 := if login.auth then 2 else 0

/-- What is sent to authenticate. -/
def ProxyLogin.request (login : ProxyLogin) : List UInt8 :=
  let username := utf8 (login.username.getD "")
  let password := utf8 (login.secret.getD "")
  [1, UInt8.ofNat username.length] ++ username ++ UInt8.ofNat password.length :: password

def authenticate (login : ProxyLogin) : Talk AppError Unit := do
  check (login.auth = true) (.authentication "SOCKS5 代理要求用户名和密码")
  check (¬(255 < (utf8 (login.username.getD "")).length ∨ 255 < (utf8 (login.secret.getD "")).length))
    (.validation "代理用户名或密码过长")
  writeAll login.request
  let response ← readExact unexpectedEof 2
  check (¬(response.getD 0 0 ≠ 1 ∨ response.getD 1 0 ≠ 0)) (.authentication "SOCKS5 代理认证失败")

/-- How much is left of the answer to the request after its head. -/
def tailLength (kind : UInt8) : Talk AppError Nat :=
  if kind = 1 then return 6
  else if kind = 4 then return 18
  else if kind = 3 then do
    let length ← readExact unexpectedEof 1
    return (length.getD 0 0).toNat + 2
  else fail (.remote "SOCKS5 响应地址类型无效")

/-- The answer to the request. -/
def readReply : Talk AppError Unit := do
  let head ← readExact unexpectedEof 4
  check (¬(head.getD 0 0 ≠ 5 ∨ head.getD 1 0 ≠ 0))
    (.remote ("SOCKS5 CONNECT 失败，代码 " ++ toString (head.getD 1 0).toNat))
  let tail ← tailLength (head.getD 3 0)
  let _discard ← readExact unexpectedEof tail
  return ()

def socks5Tcp (parse : String → Option IpAddr) (host : String) (port : Int) (login : ProxyLogin) :
    Talk AppError Unit := do
  writeAll (if login.auth then [5, 1, 2] else [5, 1, 0])
  let response ← readExact unexpectedEof 2
  check (¬(response.getD 0 0 ≠ 5 ∨ response.getD 1 0 = 0xff)) (.remote "SOCKS5 代理拒绝协商")
  let _ ← (if response.getD 1 0 = 2 then authenticate login else pure ())
  let request ← liftM (connectRequest parse host port)
  writeAll request
  readReply

/-- The host of a request, an address as its text. -/
def readHost (display : IpAddr → String) (kind : UInt8) : Talk AppError String :=
  if kind = 1 then do
    let bytes ← readExact unexpectedEof 4
    return display (.v4 (.ofOctets bytes))
  else if kind = 4 then do
    let bytes ← readExact unexpectedEof 16
    return display (.v6 (.ofOctets bytes))
  else if kind = 3 then do
    let length ← readExact unexpectedEof 1
    let bytes ← readExact unexpectedEof (length.getD 0 0).toNat
    match Sftp.fromUtf8 bytes with
    | some name => return name
    | none => fail (.remote "SOCKS5 域名编码无效")
  else fail (.remote "SOCKS5 地址类型无效")

/-- What a client of a dynamic tunnel asks for. -/
def readSocksTarget (display : IpAddr → String) : Talk AppError (String × UInt16) := do
  let greeting ← readExact unexpectedEof 2
  check (greeting.getD 0 0 = 5) (.remote "动态转发仅支持 SOCKS5")
  let _methods ← readExact unexpectedEof (greeting.getD 1 0).toNat
  writeAll [5, 0]
  let head ← readExact unexpectedEof 4
  check (¬(head.getD 0 0 ≠ 5 ∨ head.getD 1 0 ≠ 1)) (.remote "SOCKS5 仅支持 CONNECT")
  let host ← readHost display (head.getD 3 0)
  let port ← readExact unexpectedEof 2
  return (host, segment (port.getD 0 0) (port.getD 1 0))

/-- The answer to a request that succeeded: its head, and the address that the proxy is bound to with its port. -/
inductive ConnectReply : List UInt8 → Prop
  | v4 (reserved : UInt8) {rest : List UInt8} (whole : rest.length = 6) : ConnectReply (5 :: 0 :: reserved :: 1 :: rest)
  | v6 (reserved : UInt8) {rest : List UInt8} (whole : rest.length = 18) :
      ConnectReply (5 :: 0 :: reserved :: 4 :: rest)
  | name (reserved length : UInt8) {rest : List UInt8} (whole : rest.length = length.toNat + 2) :
      ConnectReply (5 :: 0 :: reserved :: 3 :: length :: rest)

/-- The replies of a proxy that selects the method it was offered, lets the client in and connects it. -/
def Replies (login : ProxyLogin) (replies : List UInt8) : Prop :=
  ∃ reply, ConnectReply reply ∧ replies = [5, login.offered] ++ (if login.offered = 2 then [1, 0] else []) ++ reply

/-- The host that a request names: the text of its address, or its name. -/
def hostText (parse : String → Option IpAddr) (display : IpAddr → String) (host : String) : String :=
  ((parse host).map display).getD host

/-- A connection that was made as the protocol wants it. -/
structure Conforms (parse : String → Option IpAddr) (display : IpAddr → String) (host : String) (port : Int)
    (login : ProxyLogin) (incoming : List UInt8) (last : Wire) : Prop where
  /-- The proxy's replies were read, and what comes through the tunnel was not. -/
  consumed : ∃ replies, Replies login replies ∧ incoming = replies ++ last.incoming
  /-- The request was sent that a dynamic tunnel reads as the same host and port. -/
  requested : ∃ request number, last.written = [5, 1, login.offered] ++
      (if login.offered = 2 then login.request else []) ++ request ∧ (UInt16.toNat number : Int) = port ∧
    readSocksTarget display ⟨[5, 1, login.offered] ++ request, []⟩ =
      .ok ((hostText parse display host, number), ⟨[], [5, 0]⟩)

/-- A proxy that selects a method that was not offered, and then connects the client without further ado. -/
def Slips (login : ProxyLogin) (incoming : List UInt8) : Prop :=
  ∃ method reply rest, incoming = [5, method] ++ reply ++ rest ∧ method ≠ login.offered ∧ method ≠ 2 ∧
    method ≠ 0xff ∧ ConnectReply reply

section Laws

variable {parse : String → Option IpAddr} {display : IpAddr → String} {host : String} {port : Int}
  {login : ProxyLogin} {wire last : Wire}

theorem tailLength_ok {kind : UInt8} {count : Nat} : tailLength kind wire = .ok (count, last) ↔
    (kind = 1 ∧ count = 6 ∧ last = wire) ∨ (kind = 4 ∧ count = 18 ∧ last = wire) ∨
      (kind = 3 ∧ ∃ length, count = length.toNat + 2 ∧ wire = { last with incoming := length :: last.incoming }) := by
  unfold tailLength
  split
  · next v4 => simp [v4, Talk.pure_ok]
  · split
    · next v6 => simp [v6, Talk.pure_ok]
    · split
      · next named =>
        simp only [named, Talk.bind_ok, Talk.readExact_one, Talk.pure_ok]
        constructor
        · rintro ⟨_, _, ⟨length, rfl, rfl⟩, rfl, rfl⟩
          exact .inr (.inr ⟨trivial, length, rfl, rfl⟩)
        · rintro (⟨differ, -⟩ | ⟨differ, -⟩ | ⟨-, length, rfl, rfl⟩)
          · exact absurd differ (by decide)
          · exact absurd differ (by decide)
          · exact ⟨_, _, ⟨length, rfl, rfl⟩, rfl, rfl⟩
      · next others => simp [*]

variable {u : Unit}

theorem readReply_ok : readReply wire = .ok (u, last) ↔
    ∃ reply, ConnectReply reply ∧ wire = { last with incoming := reply ++ last.incoming } := by
  simp only [readReply, Talk.bind_ok, Talk.readExact_four, Talk.check_ok, tailLength_ok, Talk.pure_ok, not_or,
    not_not]
  constructor
  · rintro ⟨_, _, ⟨version, code, reserved, kind, rfl, rfl⟩, _, _, ⟨⟨rfl, rfl⟩, rfl⟩, count, after, tail, rest, _,
      discarded, -, rfl⟩
    obtain ⟨length, read⟩ := Talk.readExact_ok.mp discarded
    -- The kind of the address says how long the rest is.
    rcases tail with ⟨rfl, rfl, same⟩ | ⟨rfl, rfl, same⟩ | ⟨rfl, size, rfl, same⟩
    · rw [same] at read
      exact ⟨_, .v4 reserved length, by simp [read]⟩
    · rw [same] at read
      exact ⟨_, .v6 reserved length, by simp [read]⟩
    · rw [read] at same
      exact ⟨_, .name reserved size length, by simp [same]⟩
  · rintro ⟨reply, whole, rfl⟩
    cases whole with
    | v4 reserved length =>
      exact ⟨_, _, ⟨5, 0, reserved, 1, rfl, rfl⟩, (), _, ⟨⟨rfl, rfl⟩, rfl⟩, 6, _, .inl ⟨rfl, rfl, rfl⟩, _, _,
        Talk.readExact_ok.mpr ⟨length, rfl⟩, trivial, rfl⟩
    | v6 reserved length =>
      exact ⟨_, _, ⟨5, 0, reserved, 4, rfl, rfl⟩, (), _, ⟨⟨rfl, rfl⟩, rfl⟩, 18, _, .inr (.inl ⟨rfl, rfl, rfl⟩), _, _,
        Talk.readExact_ok.mpr ⟨length, rfl⟩, trivial, rfl⟩
    | name reserved size length =>
      exact ⟨_, _, ⟨5, 0, reserved, 3, rfl, rfl⟩, (), _, ⟨⟨rfl, rfl⟩, rfl⟩, _, _,
        .inr (.inr ⟨rfl, size, rfl, rfl⟩), _, _, Talk.readExact_ok.mpr ⟨length, rfl⟩, trivial, rfl⟩

theorem authenticate_ok : authenticate login wire = .ok (u, last) ↔
    login.auth = true ∧ ¬(255 < (utf8 (login.username.getD "")).length ∨ 255 < (utf8 (login.secret.getD "")).length) ∧
      wire.incoming = 1 :: 0 :: last.incoming ∧ last.written = wire.written ++ login.request := by
  simp only [authenticate, Talk.bind_ok, Talk.check_ok, Talk.writeAll_ok, Talk.readExact_two]
  constructor
  · rintro ⟨_, _, ⟨auth, rfl⟩, _, _, ⟨short, rfl⟩, _, _, rfl, _, _, ⟨version, status, rfl, same⟩, granted, rfl⟩
    simp only [List.getD_cons_zero, List.getD_cons_succ, not_or, not_not] at granted
    obtain ⟨rfl, rfl⟩ := granted
    obtain ⟨incoming, written⟩ := Wire.mk.inj same
    exact ⟨auth, short, incoming, written.symm⟩
  · rintro ⟨auth, short, incoming, written⟩
    refine ⟨(), _, ⟨auth, rfl⟩, (), _, ⟨short, rfl⟩, (), _, rfl, _, last, ⟨1, 0, rfl, ?_⟩, by simp, rfl⟩
    rw [incoming, ← written]

/-- The first two bytes that the proxy sends select a method. -/
theorem socks5Tcp_ok {incoming : List UInt8} :
    socks5Tcp parse host port login ⟨incoming, []⟩ = .ok (u, last) ↔
      ∃ method request reply, connectRequest parse host port = .ok request ∧ ConnectReply reply ∧ method ≠ 0xff ∧
        ((method ≠ 2 ∧ incoming = [5, method] ++ reply ++ last.incoming ∧
            last.written = [5, 1, login.offered] ++ request) ∨
          (method = 2 ∧ login.auth = true ∧
            ¬(255 < (utf8 (login.username.getD "")).length ∨ 255 < (utf8 (login.secret.getD "")).length) ∧
            incoming = [5, 2, 1, 0] ++ reply ++ last.incoming ∧
            last.written = [5, 1, login.offered] ++ login.request ++ request)) := by
  have greeting : (if login.auth then [5, 1, 2] else [5, 1, 0] : List UInt8) = [5, 1, login.offered] := by
    unfold ProxyLogin.offered
    split <;> rfl
  simp only [socks5Tcp, greeting, Talk.bind_ok, Talk.check_ok, Talk.writeAll_ok, Talk.readExact_two, Talk.liftM_ok,
    readReply_ok]
  constructor
  · rintro ⟨_, _, rfl, _, middle, ⟨version, method, rfl, same⟩, _, _, ⟨accepted, rfl⟩, _, after, asked, request, _,
      ⟨made, rfl⟩, _, _, rfl, reply, whole, answered⟩
    simp only [List.getD_cons_zero, List.getD_cons_succ, not_or, not_not] at accepted asked
    obtain ⟨rfl, accepted⟩ := accepted
    obtain ⟨arrived, sent⟩ := Wire.mk.inj same
    obtain ⟨followed, wrote⟩ := Wire.mk.inj answered
    refine ⟨method, request, reply, made, whole, accepted, ?_⟩
    split at asked
    · next authenticates =>
      obtain ⟨auth, short, granted, credentials⟩ := authenticate_ok.mp asked
      refine .inr ⟨authenticates, auth, short, ?_, ?_⟩
      · simp [arrived, authenticates, granted, followed]
      · simp [← wrote, credentials, ← sent]
    · next plain =>
      obtain ⟨-, rfl⟩ := Talk.pure_ok.mp asked
      refine .inl ⟨plain, ?_, ?_⟩
      · simp [arrived, followed]
      · simp [← wrote, ← sent]
  · rintro ⟨method, request, reply, made, whole, accepted, ⟨plain, arrived, sent⟩ |
      ⟨rfl, auth, short, arrived, sent⟩⟩
    · refine ⟨(), _, rfl, [5, method], ⟨reply ++ last.incoming, [5, 1, login.offered]⟩, ⟨5, method, rfl, ?_⟩, (), _,
        ⟨by simpa using accepted, rfl⟩, (), ⟨reply ++ last.incoming, [5, 1, login.offered]⟩, ?_, request, _,
        ⟨made, rfl⟩, (), _, rfl, reply, whole, ?_⟩
      · simp [arrived]
      · rw [if_neg (by simpa using plain)]
        exact Talk.pure_ok.mpr ⟨rfl, rfl⟩
      · simp [sent]
    · refine ⟨(), _, rfl, [5, 2], ⟨1 :: 0 :: (reply ++ last.incoming), [5, 1, login.offered]⟩, ⟨5, 2, rfl, ?_⟩, (), _,
        ⟨by simp, rfl⟩, (), ⟨reply ++ last.incoming, [5, 1, login.offered] ++ login.request⟩, ?_, request, _,
        ⟨made, rfl⟩, (), _, rfl, reply, whole, ?_⟩
      · simp [arrived]
      · rw [if_pos (by simp)]
        exact authenticate_ok.mpr ⟨auth, short, rfl, rfl⟩
      · simp [sent]

theorem readHost_ok {kind : UInt8} {bytes rest written : List UInt8}
    (made : addressBytes host (parse host) = .ok (kind :: bytes)) :
    readHost display kind ⟨bytes ++ rest, written⟩ = .ok (hostText parse display host, ⟨rest, written⟩) := by
  unfold addressBytes at made
  unfold readHost hostText
  split at made
  · next address parsed =>
    cases made
    rw [if_pos rfl, parsed]
    exact Talk.bind_ok.mpr ⟨_, _, Talk.readExact_ok.mpr ⟨rfl, rfl⟩, Talk.pure_ok.mpr ⟨rfl, rfl⟩⟩
  · next address parsed =>
    cases made
    rw [if_neg (by decide), if_pos rfl, parsed]
    exact Talk.bind_ok.mpr ⟨_, _, Talk.readExact_ok.mpr ⟨rfl, rfl⟩, Talk.pure_ok.mpr ⟨by simp, rfl⟩⟩
  · next parsed =>
    split at made
    · cases made
    · next short =>
      cases made
      have size : (UInt8.ofNat (utf8 host).length).toNat = (utf8 host).length := by
        rw [UInt8.toNat_ofNat']
        omega
      rw [if_neg (by decide), if_neg (by decide), if_pos rfl, parsed]
      refine Talk.bind_ok.mpr ⟨_, ⟨utf8 host ++ rest, written⟩, Talk.readExact_one.mpr ⟨_, rfl, rfl⟩,
        Talk.bind_ok.mpr ⟨utf8 host, ⟨rest, written⟩, Talk.readExact_ok.mpr ⟨size.symm, rfl⟩, ?_⟩⟩
      rw [Sftp.fromUtf8_utf8]
      exact Talk.pure_ok.mpr ⟨rfl, rfl⟩

theorem portNumber_toNat (first : 1 ≤ port) (last : port ≤ 65535) : ((portNumber port).toNat : Int) = port := by
  rw [portNumber, UInt16.toNat_ofNat']
  omega

theorem readSocksTarget_connectRequest {request : List UInt8} (method : UInt8)
    (made : connectRequest parse host port = .ok request) :
    readSocksTarget display ⟨[5, 1, method] ++ request, []⟩ =
      .ok ((hostText parse display host, portNumber port), ⟨[], [5, 0]⟩) := by
  obtain ⟨address, encoded, same⟩ := bind_eq_ok.mp made
  obtain rfl := pure_eq_ok.mp same
  obtain ⟨kind, bytes, rfl⟩ : ∃ kind bytes, address = kind :: bytes := by
    unfold addressBytes at encoded
    split at encoded
    · exact ⟨_, _, (Except.ok.inj encoded).symm⟩
    · exact ⟨_, _, (Except.ok.inj encoded).symm⟩
    · split at encoded
      · cases encoded
      · exact ⟨_, _, (Except.ok.inj encoded).symm⟩
  have host_read := @readHost_ok _ display _ _ _ (bigEndian (portNumber port)) [5, 0] encoded
  simp only [readSocksTarget, Talk.bind_ok]
  refine ⟨[5, 1], ⟨method :: 5 :: 1 :: 0 :: kind :: (bytes ++ bigEndian (portNumber port)), []⟩,
    Talk.readExact_two.mpr ⟨5, 1, rfl, by simp⟩, (), _, Talk.check_ok.mpr ⟨rfl, rfl⟩, [method],
    ⟨5 :: 1 :: 0 :: kind :: (bytes ++ bigEndian (portNumber port)), []⟩, Talk.readExact_ok.mpr ⟨rfl, rfl⟩, (), _,
    Talk.writeAll_ok.mpr rfl, [5, 1, 0, kind], ⟨bytes ++ bigEndian (portNumber port), [5, 0]⟩,
    Talk.readExact_four.mpr ⟨5, 1, 0, kind, rfl, rfl⟩, (), _, Talk.check_ok.mpr ⟨by simp, rfl⟩, _, _, host_read,
    bigEndian (portNumber port), ⟨[], [5, 0]⟩, Talk.readExact_ok.mpr ⟨rfl, by simp⟩, Talk.pure_ok.mpr ⟨?_, rfl⟩⟩
  simp [bigEndian]

theorem offered_eq_two : login.offered = 2 ↔ login.auth = true := by
  unfold ProxyLogin.offered
  split
  · next auth => simp [auth]
  · next none => simp [none]

theorem exists_connectRequest (short : parse host = none → (utf8 host).length ≤ 255) :
    ∃ request, connectRequest parse host port = .ok request := by
  obtain ⟨address, encoded⟩ : ∃ address, addressBytes host (parse host) = .ok address := by
    cases parsed : parse host with
    | none => exact ⟨_, if_neg (by have := short parsed; omega)⟩
    | some address => cases address <;> exact ⟨_, rfl⟩
  exact ⟨_, bind_eq_ok.mpr ⟨address, encoded, rfl⟩⟩

theorem slips_connects {incoming : List UInt8} (short : parse host = none → (utf8 host).length ≤ 255)
    (slips : Slips login incoming) : ∃ last, socks5Tcp parse host port login ⟨incoming, []⟩ = .ok ((), last) ∧
      ¬Conforms parse display host port login incoming last := by
  obtain ⟨method, reply, rest, arrived, other, plain, accepted, whole⟩ := slips
  obtain ⟨request, made⟩ := @exists_connectRequest parse host port short
  refine ⟨⟨rest, [5, 1, login.offered] ++ request⟩, socks5Tcp_ok.mpr ⟨method, request, reply, made, whole, accepted,
    .inl ⟨plain, arrived, rfl⟩⟩, fun conforms => ?_⟩
  -- The replies begin with the method that was offered, and the stream with another one.
  obtain ⟨replies, ⟨_, -, same⟩, begins⟩ := conforms.consumed
  rw [arrived, same] at begins
  simp at begins
  exact other begins.1

/-- The client of a SOCKS5 proxy conforms to the protocol exactly when the proxy does not get away with a method. -/
theorem socks5Tcp_conforms_iff {incoming : List UInt8} (short : parse host = none → (utf8 host).length ≤ 255)
    (low : 1 ≤ port) (high : port ≤ 65535) :
    (∀ last, socks5Tcp parse host port login ⟨incoming, []⟩ = .ok ((), last) →
        Conforms parse display host port login incoming last) ↔ ¬Slips login incoming := by
  constructor
  · intro conforms slips
    obtain ⟨last, ran, fails⟩ := slips_connects short slips
    exact fails (conforms last ran)
  · intro honest last ran
    obtain ⟨method, request, reply, made, whole, accepted, ⟨plain, arrived, sent⟩ | ⟨rfl, auth, -, arrived, sent⟩⟩ :=
      socks5Tcp_ok.mp ran
    · have same : method = login.offered := by
        by_contra other
        exact honest ⟨method, reply, last.incoming, arrived, other, plain, accepted, whole⟩
      subst same
      exact ⟨⟨_, ⟨reply, whole, rfl⟩, by simp [arrived, plain]⟩,
        request, _, by simp [sent, plain], portNumber_toNat low high, readSocksTarget_connectRequest _ made⟩
    · have same := offered_eq_two.mpr auth
      exact ⟨⟨_, ⟨reply, whole, rfl⟩, by simp [arrived, same]⟩,
        request, _, by simp [sent, same], portNumber_toNat low high, readSocksTarget_connectRequest _ made⟩

end Laws

namespace Demo

def parseName (_ : String) : Option IpAddr := none

def displayNothing (_ : IpAddr) : String := ""

def connected : List UInt8 := [5, 0, 0, 1, 0, 0, 0, 0, 0, 0]

theorem connected_whole : ConnectReply connected := .v4 0 rfl

/-- The proxy selects no authentication, which was not offered, and the client goes on. -/
theorem unoffered_method_accepted : ¬∀ (parse : String → Option IpAddr) (display : IpAddr → String) (host : String)
    (port : Int) (login : ProxyLogin) (incoming : List UInt8) (last : Wire),
    (parse host = none → (utf8 host).length ≤ 255) → 1 ≤ port → port ≤ 65535 →
      socks5Tcp parse host port login ⟨incoming, []⟩ = .ok ((), last) →
        Conforms parse display host port login incoming last := by
  intro always
  have slips : Slips ⟨some "user", some "secret"⟩ ([5, 0] ++ connected) :=
    ⟨0, connected, [], rfl, by decide, by decide, by decide, connected_whole⟩
  have short : parseName "h" = none → (utf8 "h").length ≤ 255 := fun _ => by decide
  obtain ⟨last, ran, fails⟩ := @slips_connects parseName displayNothing "h" 22 _ _ short slips
  exact fails (always parseName displayNothing "h" 22 _ _ last short (by decide) (by decide) ran)

/-- A proxy that selects no authentication where none was offered leaves what comes through the tunnel. -/
theorem tunnel_untouched : ¬Slips ⟨none, none⟩ ([5, 0] ++ connected ++ [83]) ∧
    ∀ last, socks5Tcp parseName "h" 22 ⟨none, none⟩ ⟨[5, 0] ++ connected ++ [83], []⟩ = .ok ((), last) →
      Conforms parseName displayNothing "h" 22 ⟨none, none⟩ ([5, 0] ++ connected ++ [83]) last := by
  have honest : ¬Slips ⟨none, none⟩ ([5, 0] ++ connected ++ [83]) := by
    rintro ⟨method, reply, rest, arrived, other, -⟩
    have same : (0 : UInt8) = method := by simpa using congrArg (fun bytes => bytes.getD 1 0) arrived
    exact other same.symm
  exact ⟨honest, (socks5Tcp_conforms_iff (fun _ => by decide) (by decide) (by decide)).mpr honest⟩

end Demo

end Ssh

end CNShell
