import CNShell.Library.Addresses
import CNShell.Library.Paths
import CNShell.Library.Words
import CNShell.Plugin.Models
import Mathlib.Data.List.Dedup
import Mathlib.Data.List.Sort

/-! The network domains that a plugin declares, and the requests that it makes to them. -/

namespace CNShell

namespace Plugin

open Client (AppError AppResult)

/-- How many bytes the URL of a request may take. -/
def maxNetworkUrlBytes : Nat := 2048

/-- How many bytes the body of a response may take. -/
def maxNetworkResponseBytes : Nat := 64 * 1024

def knownPermissions : List String :=
  ["ui", "network", "directory", "terminalRead", "terminalInput", "connectionMetadata", "credentialProxy"]

/-- A manifest with what only its validation reads. -/
structure ManifestFile extends PluginManifest where
  apiVersion : Nat
  entrypoint : String
  deriving DecidableEq, Repr

/-- What the user is told about a manifest that is in order. -/
structure PluginPermissionReport where
  manifest : ManifestFile
  valid : Bool
  signatureStatus : String
  requestedPermissions : List String
  defaultGrantedPermissions : List String
  deniedPermissions : List String
  warnings : List String
  deriving DecidableEq, Repr

/-- The path of a WASM module beside the manifest. -/
def validEntrypoint (value : String) : Bool :=
  value != "" && value.utf8ByteSize ≤ 256 && ".wasm".toList.isSuffixOf value.toList &&
    value.toList.head? != some '/' && !value.toList.any (fun char => char == '\\' || char == ':') &&
    !(components value.toList).contains ['.', '.']

def domainKey (domain : String) : String := toAsciiLowercase (trim domain)

def pushDomain (seen : List String) (domain : String) : AppResult (List String) := do
  let domain := domainKey domain
  ensure (¬(domain = "" ∨ 253 < domain.utf8ByteSize ∨
      domain.toList.any (fun char => ['/', ':', '*', '?', '#', '@'].contains char) = true ∨ domain ∈ seen))
    (.validation "插件网络域名必须是唯一的主机名，不能使用通配符")
  return domain :: seen

def pushPermission (seen : List String) (permission : String) : AppResult (List String) := do
  ensure (¬(permission ∉ knownPermissions ∨ permission ∈ seen))
    (.validation ("插件权限未知或重复：" ++ permission))
  return permission :: seen

section Manifests

-- Whether a signature has the right format.
variable (decodeSignature : String → Bool)

/-- The state of the signature of a manifest, and what the user is told about it. -/
def signatureReport : Option String → String × String
  | none => ("unsigned", "manifest 未提供签名，不能安装或执行插件")
  | some value =>
    if decodeSignature value = true then
      ("present-unverified", "签名存在但当前没有受信任发布者密钥，不能安装或执行插件")
    else ("invalid", "manifest 签名格式无效，必须为 ed25519:<base64url>")

def validate (manifest : ManifestFile) : AppResult PluginPermissionReport := do
  ensure (¬(validId manifest.id = false ∨ trim manifest.name = "" ∨ 256 < manifest.name.utf8ByteSize ∨
      trim manifest.version = "" ∨ 128 < manifest.version.utf8ByteSize ∨ manifest.apiVersion ≠ 1 ∨
      validEntrypoint manifest.entrypoint = false))
    (.validation "插件 manifest 的 ID、名称、版本、API 版本或 WASM 入口无效")
  ensure (manifest.permissions.length ≤ maxPermissions) (.validation "插件请求权限数量超限")
  let seen ← manifest.permissions.foldlM pushPermission []
  let _ ← manifest.networkDomains.foldlM pushDomain []
  ensure (¬(manifest.networkDomains ≠ [] ∧ "network" ∉ seen))
    (.validation "声明网络域名前必须请求 network 权限")
  let proxy := if "credentialProxy" ∈ manifest.permissions then
    ["credentialProxy 默认拒绝，只有短期凭据代理且每次调用需确认"] else []
  let terminal := if "terminalInput" ∈ manifest.permissions then
    ["terminalInput 不会直接写入终端；每次请求都必须展示完整内容并由用户确认"] else []
  let (signatureStatus, warning) := signatureReport decodeSignature manifest.signature
  let granted := manifest.permissions.filter (· = "ui")
  return {
    manifest := manifest
    valid := true
    signatureStatus := signatureStatus
    requestedPermissions := manifest.permissions
    defaultGrantedPermissions := granted
    deniedPermissions := manifest.permissions.filter (· ∉ granted)
    warnings := proxy ++ terminal ++ [warning] }

end Manifests

structure Url where
  text : String
  scheme : String
  username : String
  password : Option String
  host : Option String
  fragment : Option String
  /-- The port, or the one that the scheme stands for. -/
  portOrKnownDefault : Option Nat
  deriving DecidableEq, Repr

/-- What a web server answers. -/
structure HttpResponse where
  url : String
  status : Nat
  contentLength : Option Nat
  contentType : Option String
  chunks : List (Except String (List UInt8))

/--
The URL parser, the resolver and the HTTP client.

A client that was given the addresses of a host connects to no others, and to none where it follows no
redirects and uses no proxy.
-/
structure Web where
  parse : String → Option Url
  lookupHost : String → Except String (List IpAddr)
  build : Except String Unit
  /-- The addresses that a request connects to, and its response. -/
  get : Url → List IpAddr → List IpAddr × Except String HttpResponse
  confined : ∀ url addresses, ∀ address ∈ (get url addresses).1, address ∈ addresses

/-- What a request leaves for the plugin. -/
structure NetworkResource where
  metadata : List UInt8
  response : List UInt8
  status : Nat
  deriving DecidableEq, Repr

def isPublicPluginAddress : IpAddr → Bool
  | .v4 address =>
    !address.isPrivate && !address.isLoopback && !address.isLinkLocal && !address.isUnspecified &&
      !address.isMulticast && !address.isBroadcast &&
      !(address.first == 100 && (64 ≤ address.second && address.second ≤ 127)) &&
      !(address.first == 198 && (address.second == 18 || address.second == 19))
  | .v6 address =>
    !address.isLoopback && !address.isUnspecified && !address.isMulticast && !address.isUniqueLocal &&
      !address.isUnicastLinkLocal

def addressNumber : IpAddr → Nat
  | .v4 ⟨a, b, c, d⟩ => [a, b, c, d].foldl (fun number octet => number * 256 + octet.toNat) 0
  | .v6 ⟨a, b, c, d, e, f, g, h⟩ =>
    2 ^ 32 + [a, b, c, d, e, f, g, h].foldl (fun number part => number * 65536 + part.toNat) 0

section Requests

variable (web : Web)

def validateNetworkUrl (value : String) (domains : List String) : AppResult Url := do
  ensure (¬(value = "" ∨ maxNetworkUrlBytes < value.utf8ByteSize))
    (.validation "插件网络 URL 不能为空且不能超过 2 KB")
  let url ← required (web.parse value) (.validation "插件网络 URL 格式无效")
  let host ← required url.host (.validation "插件网络 URL 缺少主机名")
  ensure (¬(url.scheme ≠ "https" ∨ url.username ≠ "" ∨ url.password.isSome = true ∨
      url.fragment.isSome = true ∨ url.portOrKnownDefault ≠ some 443))
    (.validation "插件网络请求必须是无内嵌凭据、无片段且使用 443 端口的 HTTPS URL")
  ensure (host ∈ domains) (.validation ("插件未在 manifest 中声明网络域名 " ++ host))
  return url

/-- The URL and the addresses that a request is made to. -/
def networkTarget (value : String) (domains : List String) : AppResult (Url × List IpAddr) := do
  let url ← validateNetworkUrl web value domains
  let host ← required url.host (.validation "插件网络 URL 缺少主机名")
  let addresses ← (web.lookupHost host).mapError fun error => AppError.unavailable ("插件网络域名解析失败：" ++ error)
  let addresses := (addresses.mergeSort fun a b => addressNumber a ≤ addressNumber b).dedup
  ensure (¬(addresses = [] ∨ addresses.any (fun address => !isPublicPluginAddress address) = true))
    (.validation "插件网络域名解析到了本机、私网、链路本地或其他非公网地址")
  web.build.mapError fun error => AppError.unavailable ("插件网络客户端初始化失败：" ++ error)
  return (url, addresses)

/-- The body of a response after the next part of it. -/
def pushChunk (body : List UInt8) (chunk : Except String (List UInt8)) : AppResult (List UInt8) := do
  let chunk ← chunk.mapError fun error => AppError.unavailable ("读取插件网络响应失败：" ++ error)
  ensure (body.length + chunk.length ≤ maxNetworkResponseBytes) (.validation "插件网络响应超过 64 KB")
  return body ++ chunk

def readResponse (response : Except String HttpResponse) : AppResult NetworkResource := do
  let response ← response.mapError fun error => AppError.unavailable ("插件 HTTPS GET 失败：" ++ error)
  ensure (response.contentLength.getD 0 ≤ maxNetworkResponseBytes) (.validation "插件网络响应超过 64 KB")
  let contentType := String.ofList ((response.contentType.getD "").toList.take 256)
  let body ← response.chunks.foldlM pushChunk []
  let metadata := Json.object [("contentType", Json.string contentType), ("length", Json.number body.length),
    ("status", Json.number response.status), ("url", Json.string response.url)]
  return ⟨metadata, body, response.status⟩

/-- A request of a plugin: the addresses that it connects to, and what it leaves. -/
def fetchNetworkResource (value : String) (domains : List String) : List IpAddr × AppResult NetworkResource :=
  match networkTarget web value domains with
  | .error error => ([], .error error)
  | .ok (url, addresses) =>
    let (connected, response) := web.get url addresses
    (connected, readResponse response)

end Requests

section Addresses

variable {outer : Ipv6Addr} {inner : Ipv4Addr} {address : IpAddr}

theorem public_of_embeds (embeds : Embeds outer inner) : isPublicPluginAddress (.v6 outer) = true ↔
    outer.isLoopback = false ∧ outer.isUnspecified = false := by
  have first : outer.s0 = 0 := by rcases embeds with rfl | rfl <;> rfl
  have others : outer.isMulticast = false ∧ outer.isUniqueLocal = false ∧ outer.isUnicastLinkLocal = false := by
    simp only [Ipv6Addr.isMulticast, Ipv6Addr.isUniqueLocal, Ipv6Addr.isUnicastLinkLocal, first]
    decide
  simp [isPublicPluginAddress, others]

theorem public_of_loopback (embeds : Embeds outer inner) (loopback : outer.isLoopback = true) :
    isPublicPluginAddress (.v4 inner) = true := by
  have one : outer = (Ipv4Addr.mk 0 0 0 1).toIpv6Compatible := beq_iff_eq.mp loopback
  rcases embeds with rfl | rfl
  · -- The other notation has a segment that `::1` does not have.
    have marker := congrArg Ipv6Addr.s5 one
    exact absurd marker (by simp [Ipv4Addr.toIpv6Mapped, Ipv4Addr.toIpv6Compatible])
  · rw [toIpv6Compatible_inj one]
    decide

theorem not_public_of_isLocal (isLocal : address.isLocal = true) : isPublicPluginAddress address = false := by
  cases address <;> simp only [IpAddr.isLocal, Bool.or_eq_true] at isLocal <;>
    rcases isLocal with (((kind | kind) | kind) | kind) | kind <;> simp [isPublicPluginAddress, kind]

structure PublicInEveryNotation (address : IpAddr) : Prop where
  embedded : ∀ outer inner, address = .v6 outer → Embeds outer inner →
    isPublicPluginAddress address = true → isPublicPluginAddress (.v4 inner) = true
  never : address.LocalInAnyNotation → isPublicPluginAddress address = false

/-- An IPv6 address other than `::` that embeds an IPv4 address which is refused. -/
def Disguised (address : IpAddr) : Prop :=
  ∃ outer inner, address = .v6 outer ∧ Embeds outer inner ∧ outer.isUnspecified = false ∧
    isPublicPluginAddress (.v4 inner) = false

theorem publicInEveryNotation_iff : PublicInEveryNotation address ↔ ¬Disguised address := by
  constructor
  · rintro ⟨embedded, -⟩ ⟨outer, inner, rfl, embeds, specified, refused⟩
    have remote : outer.isLoopback = false := by
      by_contra loopback
      have accepted := public_of_loopback embeds (by simpa using loopback)
      rw [refused] at accepted
      cases accepted
    have accepted := embedded outer inner rfl embeds ((public_of_embeds embeds).mpr ⟨remote, specified⟩)
    rw [refused] at accepted
    cases accepted
  · intro plain
    have embedded : ∀ outer inner, address = .v6 outer → Embeds outer inner →
        isPublicPluginAddress address = true → isPublicPluginAddress (.v4 inner) = true := by
      rintro outer inner rfl embeds accepted
      by_contra refused
      exact plain ⟨outer, inner, rfl, embeds, ((public_of_embeds embeds).mp accepted).2, by simpa using refused⟩
    refine ⟨embedded, ?_⟩
    rintro (isLocal | ⟨outer, inner, rfl, embeds, isLocal⟩)
    · exact not_public_of_isLocal isLocal
    · by_contra accepted
      have inside := embedded outer inner rfl embeds (by simpa using accepted)
      rw [not_public_of_isLocal isLocal] at inside
      cases inside

end Addresses

section Connections

variable {web : Web} {value : String} {domains : List String} {address : IpAddr}

theorem validateNetworkUrl_ok {url : Url} : validateNetworkUrl web value domains = .ok url ↔
    (value ≠ "" ∧ value.utf8ByteSize ≤ maxNetworkUrlBytes) ∧ web.parse value = some url ∧
      (url.scheme = "https" ∧ url.username = "" ∧ url.password = none ∧ url.fragment = none ∧
        url.portOrKnownDefault = some 443) ∧
      ∃ host ∈ domains, url.host = some host := by
  rw [validateNetworkUrl]
  simp only [bind_eq_ok, ensure_eq_ok, required_eq_ok, pure_eq_ok, exists_const, not_or, not_lt, not_not,
    Option.not_isSome_iff_eq_none]
  constructor
  · rintro ⟨size, parsed, read, host, named, parts, declared, rfl⟩
    exact ⟨size, read, parts, host, declared, named⟩
  · rintro ⟨size, read, parts, host, declared, named⟩
    exact ⟨size, url, read, host, named, parts, declared, rfl⟩

theorem public_of_connected (connected : address ∈ (fetchNetworkResource web value domains).1) :
    isPublicPluginAddress address = true ∧ ∃ url host answer, web.parse value = some url ∧
      url.host = some host ∧ web.lookupHost host = .ok answer ∧ address ∈ answer := by
  unfold fetchNetworkResource at connected
  split at connected
  · cases connected
  · next url addresses target =>
    have given : address ∈ addresses := web.confined url addresses address connected
    obtain ⟨parsed, valid, target⟩ := bind_eq_ok.mp target
    obtain ⟨host, named, target⟩ := bind_eq_ok.mp target
    obtain ⟨answer, looked, target⟩ := bind_eq_ok.mp target
    obtain ⟨_, checked, target⟩ := bind_eq_ok.mp target
    obtain ⟨_, -, target⟩ := bind_eq_ok.mp target
    obtain ⟨-, rfl⟩ := Prod.mk.inj (pure_eq_ok.mp target)
    have every := ensure_eq_ok.mp checked
    simp only [not_or, List.any_eq_true, not_exists, not_and] at every
    refine ⟨by simpa using every.2 address given, parsed, host, answer, (validateNetworkUrl_ok.mp valid).2.1,
      required_eq_ok.mp named, mapError_eq_ok.mp looked, ?_⟩
    exact List.mem_mergeSort.mp (List.mem_dedup.mp given)

end Connections

/--
Addresses are refused in every notation just where they are not disguised, and where the resolver gives no
disguised address for the host of a request, the request connects to no local one.
-/
theorem public_in_every_notation (web : Web) :
    (∀ address, PublicInEveryNotation address ↔ ¬Disguised address) ∧
      ∀ value domains, (∀ url host answer, web.parse value = some url → url.host = some host →
          web.lookupHost host = .ok answer → ∀ address ∈ answer, ¬Disguised address) →
        ∀ address ∈ (fetchNetworkResource web value domains).1, ¬address.LocalInAnyNotation := by
  refine ⟨fun address => publicInEveryNotation_iff, fun value domains plain address connected isLocal => ?_⟩
  obtain ⟨accepted, url, host, answer, read, named, looked, member⟩ := public_of_connected connected
  have refused := (publicInEveryNotation_iff.mpr (plain url host answer read named looked address member)).never
    isLocal
  rw [accepted] at refused
  cases refused

section Domains

variable {web : Web} {decodeSignature : String → Bool} {manifest : ManifestFile} {domain value : String}

theorem domains_of_validate {report : PluginPermissionReport}
    (accepted : validate decodeSignature manifest = .ok report) :
    (∀ domain ∈ manifest.networkDomains, domainKey domain ≠ "" ∧ (domainKey domain).utf8ByteSize ≤ 253) ∧
      (manifest.networkDomains.map domainKey).Nodup := by
  obtain ⟨_, -, accepted⟩ := bind_eq_ok.mp accepted
  obtain ⟨_, -, accepted⟩ := bind_eq_ok.mp accepted
  obtain ⟨_, -, accepted⟩ := bind_eq_ok.mp accepted
  obtain ⟨seen, pushed, -⟩ := bind_eq_ok.mp accepted
  have spec : ∀ seen domain seen', pushDomain seen domain = .ok seen' ↔
      (¬(domainKey domain = "" ∨ 253 < (domainKey domain).utf8ByteSize ∨ (domainKey domain).toList.any
        (fun char => ['/', ':', '*', '?', '#', '@'].contains char) = true)) ∧
        domainKey domain ∉ seen ∧ seen' = domainKey domain :: seen := by
    intro seen domain seen'
    rw [pushDomain, bind_eq_ok]
    simp only [ensure_eq_ok, pure_eq_ok, exists_const, not_or, and_assoc]
    simp only [eq_comm]
  obtain ⟨good, distinct, -⟩ := (foldlM_distinct spec).mp pushed
  refine ⟨fun domain member => ?_, distinct⟩
  have fine := good domain member
  simp only [not_or, not_lt] at fine
  exact ⟨fine.1, fine.2.1⟩

@[simp] theorem domainKey_domainKey (domain : String) : domainKey (domainKey domain) = domainKey domain := by
  simp only [domainKey, trim_toAsciiLowercase, trim_trim, toAsciiLowercase_toAsciiLowercase]

def httpsUrl (domain : String) (url : Url) : Prop :=
  url.scheme = "https" ∧ url.username = "" ∧ url.password = none ∧ url.fragment = none ∧
    url.portOrKnownDefault = some 443 ∧ url.host = some (domainKey domain)

def httpsText (domain : String) : String := "https://" ++ trim domain ++ "/"

/-- The declared domains are the hosts that a plugin can make requests to. -/
structure Usable (web : Web) (domains : List String) : Prop where
  accepts : ∀ domain ∈ domains, ∃ url, validateNetworkUrl web (httpsText domain) domains = .ok url
  rejects : ∀ value url host, web.parse value = some url → url.host = some host →
    host ∉ domains.map domainKey → validateNetworkUrl web value domains ≠ .ok url

/--
The domains of a manifest are usable just where they are declared in lower case and without blanks.

The URL of each domain is read with its host in lower case.
-/
theorem usable_iff {report : PluginPermissionReport} (accepted : validate decodeSignature manifest = .ok report)
    (reads : ∀ domain ∈ manifest.networkDomains, ∃ url, web.parse (httpsText domain) = some url ∧ httpsUrl domain url) :
    Usable web manifest.networkDomains ↔ ∀ domain ∈ manifest.networkDomains, domainKey domain = domain := by
  obtain ⟨named, distinct⟩ := domains_of_validate accepted
  constructor
  · rintro ⟨accepts, -⟩ domain member
    obtain ⟨url, done⟩ := accepts domain member
    obtain ⟨-, read, -, host, declared, same⟩ := validateNetworkUrl_ok.mp done
    obtain ⟨other, read', -, -, -, -, -, lowered⟩ := reads domain member
    obtain rfl := Option.some.inj (read.symm.trans read')
    obtain rfl : domainKey domain = host := Option.some.inj (lowered.symm.trans same)
    -- The host is declared, and no other domain has its key.
    exact List.inj_on_of_nodup_map distinct declared member (domainKey_domainKey domain)
  · intro plain
    refine ⟨fun domain member => ?_, fun value url host _ same undeclared done => ?_⟩
    · obtain ⟨url, read, scheme, username, password, fragment, port, lowered⟩ := reads domain member
      have short : (trim domain).utf8ByteSize ≤ 253 := by
        rw [← utf8ByteSize_toAsciiLowercase]
        exact (named domain member).2
      refine ⟨url, validateNetworkUrl_ok.mpr ⟨⟨fun empty => ?_, ?_⟩, read, ⟨scheme, username, password, fragment,
        port⟩, domainKey domain, by rwa [plain domain member], lowered⟩⟩
      · simpa [httpsText] using congrArg String.utf8ByteSize empty
      · have start : "https://".utf8ByteSize = 8 ∧ "/".utf8ByteSize = 1 := by decide
        rw [httpsText, String.utf8ByteSize_append, String.utf8ByteSize_append, start.1, start.2, maxNetworkUrlBytes]
        omega
    · obtain ⟨-, -, -, other, declared, same'⟩ := validateNetworkUrl_ok.mp done
      obtain rfl := Option.some.inj (same.symm.trans same')
      exact undeclared (List.mem_map.mpr ⟨host, declared, plain host declared⟩)

end Domains

namespace Demo

/-- A web of one host with one address, whose URL is read in both cases. -/
def oneHost (address : IpAddr) : Web where
  parse value :=
    if value = "https://api.example.com/" ∨ value = "https://API.example.com/" then
      some ⟨"https://api.example.com/", "https", "", none, some "api.example.com", none, some 443⟩
    else none
  lookupHost _ := .ok [address]
  build := .ok ()
  get _ addresses := (addresses, .error "connection reset")
  confined _ _ _ member := member

def mappedLoopback : IpAddr := .v6 (Ipv4Addr.mk 127 0 0 1).toIpv6Mapped

/-- The loopback address is refused, and a request connects to it where the resolver gives it as an IPv6 address. -/
theorem mapped_loopback_connected : ¬∀ web : Web, (∀ address, PublicInEveryNotation address) ∧
    ∀ value domains, ∀ address ∈ (fetchNetworkResource web value domains).1, ¬address.LocalInAnyNotation := by
  intro always
  have connected : mappedLoopback ∈
      (fetchNetworkResource (oneHost mappedLoopback) "https://api.example.com/" ["api.example.com"]).1 := by
    have valid : validateNetworkUrl (oneHost mappedLoopback) "https://api.example.com/" ["api.example.com"] =
        .ok ⟨"https://api.example.com/", "https", "", none, some "api.example.com", none, some 443⟩ := by decide
    have looked : (oneHost mappedLoopback).lookupHost "api.example.com" = .ok [mappedLoopback] := rfl
    have built : (oneHost mappedLoopback).build = .ok () := rfl
    have accepted : isPublicPluginAddress mappedLoopback = true := by decide
    have target : ∃ url, networkTarget (oneHost mappedLoopback) "https://api.example.com/" ["api.example.com"] =
        .ok (url, [mappedLoopback]) := by
      refine ⟨⟨"https://api.example.com/", "https", "", none, some "api.example.com", none, some 443⟩, ?_⟩
      simp only [networkTarget, valid, ok_bind, required_some, looked, built, Except.mapError,
        List.mergeSort_singleton]
      have one : [mappedLoopback].dedup = [mappedLoopback] := by decide
      simp only [one, List.any_cons, List.any_nil, accepted]
      rfl
    obtain ⟨url, target⟩ := target
    rw [fetchNetworkResource, target]
    exact List.mem_singleton_self _
  refine (always (oneHost mappedLoopback)).2 _ _ mappedLoopback connected (.inr ⟨_, ⟨127, 0, 0, 1⟩, rfl, ?_⟩)
  exact ⟨.inl rfl, by decide⟩

/-- A public address is refused in no notation, and it is the only one connected to. -/
theorem public_in_every_notation_one : PublicInEveryNotation (.v4 ⟨1, 1, 1, 1⟩) ∧
    ∀ address ∈ (fetchNetworkResource (oneHost (.v4 ⟨1, 1, 1, 1⟩)) "https://api.example.com/"
      ["api.example.com"]).1, ¬address.LocalInAnyNotation := by
  have plain : ¬Disguised (.v4 ⟨1, 1, 1, 1⟩) := by
    rintro ⟨_, _, other, -⟩
    cases other
  obtain ⟨same, never⟩ := public_in_every_notation (oneHost (.v4 ⟨1, 1, 1, 1⟩))
  refine ⟨(same _).mpr plain, never _ _ fun _ _ answer _ _ looked address member => ?_⟩
  obtain rfl := Except.ok.inj looked
  rwa [List.mem_singleton.mp member]

def declaring (domain : String) : ManifestFile where
  id := "com.example.status"
  name := "Status"
  version := "1.0.0"
  publisher := none
  permissions := ["network"]
  networkDomains := [domain]
  signature := none
  apiVersion := 1
  entrypoint := "status.wasm"

theorem exists_of_isOk {ε α : Type} {result : Except ε α} (succeeds : result.isOk = true) :
    ∃ value, result = .ok value := by
  cases result with
  | ok value => exact ⟨value, rfl⟩
  | error error => cases succeeds

/-- A domain that is declared with capital letters is accepted, and no request can be made to it. -/
theorem capital_letters_unusable : ¬∀ (web : Web) (decodeSignature : String → Bool) (manifest : ManifestFile)
    (report : PluginPermissionReport), validate decodeSignature manifest = .ok report →
      (∀ domain ∈ manifest.networkDomains, ∃ url, web.parse (httpsText domain) = some url ∧ httpsUrl domain url) →
        Usable web manifest.networkDomains := by
  intro always
  obtain ⟨report, accepted⟩ : ∃ report, validate (fun _ => false) (declaring " API.example.com") = .ok report :=
    exists_of_isOk (by decide)
  have usable := always (oneHost (.v4 ⟨1, 1, 1, 1⟩)) _ _ report accepted fun domain member => by
    obtain rfl := List.mem_singleton.mp member
    exact ⟨_, rfl, by unfold httpsUrl; decide⟩
  obtain ⟨url, done⟩ := usable.accepts " API.example.com" (List.mem_singleton_self _)
  have refused : (validateNetworkUrl (oneHost (.v4 ⟨1, 1, 1, 1⟩)) (httpsText " API.example.com")
      [" API.example.com"]).isOk = false := by decide
  have contrary := congrArg Except.isOk done
  cases refused.symm.trans contrary

/-- A domain that is declared in lower case can be used. -/
theorem usable_lower_case : Usable (oneHost (.v4 ⟨1, 1, 1, 1⟩)) ["api.example.com"] := by
  obtain ⟨report, accepted⟩ : ∃ report, validate (fun _ => false) (declaring "api.example.com") = .ok report :=
    exists_of_isOk (by decide)
  refine (usable_iff accepted fun domain member => ?_).mpr (by decide)
  obtain rfl := List.mem_singleton.mp member
  exact ⟨_, rfl, by unfold httpsUrl; decide⟩

end Demo

end Plugin

end CNShell
