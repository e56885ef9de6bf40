import CNShell.Library.Walk
import CNShell.Ssh.Models
import Mathlib.Data.List.Perm.Subperm

/-! The hops of a connection: the chain of jumps a transport is built over, and its diagnosis. -/

namespace CNShell

namespace Ssh

open Client (AppError AppResult)

/-- The stored connections and proxies. -/
structure Profiles where
  connections : Table ConnectionProfile.id
  proxies : Table ProxyProfile.id

/-- Looks a stored connection up. -/
def getConnection (db : Profiles) (id : String) : AppResult ConnectionProfile :=
  match db.connections.find? id with
  | some profile => .ok profile
  | none => .error (.notFound id)

/-- Looks a stored proxy up. -/
def getProxy (db : Profiles) (id : String) : AppResult ProxyProfile :=
  match db.proxies.find? id with
  | some proxy => .ok proxy
  | none => .error (.notFound ("代理 " ++ id))

/-- The ways in which a host is reached. -/
inductive Dial
  /-- A TCP connection from this machine. -/
  | tcp (host : String) (port : Int)
  /-- A channel of the transport to the jump host. -/
  | bridge (host : String) (port : Int)
  deriving DecidableEq, Repr

/-- What the handshakes and logins with the hosts out there come to. -/
structure Network where
  handshake : ConnectionProfile → Option ProxyProfile → Option HostKey → AppResult HostKey
  authenticate : ConnectionProfile → HostKey → AppResult Unit

/-- What a resolution has passed through: the chain, the known hosts, and the hosts it has dialed. -/
structure Resolution where
  chain : List String
  knownHosts : KnownHosts
  dialed : List Dial

def dialOf (profile : ConnectionProfile) (proxy : Option ProxyProfile) (jump : Option HostKey) : Dial :=
  match proxy, jump with
  | none, _ => .tcp profile.host profile.port
  | some proxy, jump =>
    match proxy.proxyType, jump with
    | .socks5, _ => .tcp proxy.host proxy.port
    | .http, _ => .tcp proxy.host proxy.port
    | .sshJump, some _ => .bridge profile.host profile.port
    | .sshJump, none => .tcp profile.host profile.port

/-- Reaches a host and shakes hands with it. -/
def handshake (network : Network) (profile : ConnectionProfile) (proxy : Option ProxyProfile)
    (jump : Option HostKey) (resolution : Resolution) : AppResult HostKey × Resolution :=
  (network.handshake profile proxy jump,
    { resolution with dialed := resolution.dialed ++ [dialOf profile proxy jump] })

/-- The text for a chain that comes back to one of its connections. -/
def cycleMessage (chain : List String) (id : String) : String :=
  "SSH 跳板连接形成循环：" ++ String.intercalate " → " chain ++ " → " ++ id

/-- The keys of the stored connections. -/
def Profiles.ids (db : Profiles) : List String := db.connections.rows.map ConnectionProfile.id

theorem mem_ids_of_getConnection {db : Profiles} {id : String} {profile : ConnectionProfile}
    (found : getConnection db id = .ok profile) : profile.id ∈ db.ids := by
  unfold getConnection at found
  split at found
  · next stored =>
    cases found
    exact List.mem_map_of_mem (Table.find?_some stored).1
  · cases found

mutual

/-- Builds the transport of a connection over those of its jump hosts. -/
def transportConnectionWithChain (db : Profiles) (network : Network) (profile : ConnectionProfile)
    (resolution : Resolution) : AppResult HostKey × Resolution :=
  if _ : profile.id ∈ resolution.chain then
    (.error (.validation (cycleMessage resolution.chain profile.id)), resolution)
  else
    let entered := { resolution with chain := resolution.chain ++ [profile.id] }
    match profile.proxyId with
    | none => handshake network profile none none entered
    | some id =>
      match getProxy db id with
      | .error error => (.error error, entered)
      | .ok proxy =>
        if proxy.proxyType = .sshJump then
          match proxy.jumpConnectionId with
          | none => (.error (.validation "跳板机代理未选择连接"), entered)
          | some jumpId =>
            match _ : getConnection db jumpId with
            | .error error => (.error error, entered)
            | .ok jumpProfile =>
              match verifiedConnectionWithChain db network jumpProfile false entered with
              | (.error error, resolution) => (.error error, resolution)
              | (.ok jump, resolution) => handshake network profile (some proxy) (some jump) resolution
        else handshake network profile (some proxy) none entered
termination_by (Walk.unvisited ConnectionProfile.id db.ids resolution.chain profile, 0)
decreasing_by
  exact Prod.Lex.left _ _ (Walk.unvisited_lt ‹_› (mem_ids_of_getConnection ‹_›))

/-- Builds the transport of a connection, checks the host's key and logs in. -/
def verifiedConnectionWithChain (db : Profiles) (network : Network) (profile : ConnectionProfile)
    (permitUnknown : Bool) (resolution : Resolution) : AppResult HostKey × Resolution :=
  match transportConnectionWithChain db network profile resolution with
  | (.error error, resolution) => (.error error, resolution)
  | (.ok connected, resolution) =>
    let known := (resolution.knownHosts.find? (profile.host, profile.port)).map KnownHost.key
    let acceptNew := profile.hostKeyPolicy == .acceptNew
    match verifyHostIdentity known connected (permitUnknown || acceptNew) with
    | .error error => (.error error, resolution)
    | .ok () =>
      let resolution :=
        if known.isNone && acceptNew then
          { resolution with
            knownHosts := resolution.knownHosts.put ⟨profile.host, profile.port, connected⟩ }
        else resolution
      ((network.authenticate profile connected).map fun _ => connected, resolution)
termination_by (Walk.unvisited ConnectionProfile.id db.ids resolution.chain profile, 1)

end

/-- The walk of `diagnostic_first_hop` from a connection, with what it has visited and its labels. -/
def firstHopFrom (db : Profiles) (current : ConnectionProfile) (visited labels : List String) :
    AppResult (String × Int × Option String) :=
  if _ : current.id ∈ visited then .error (.validation "SSH 跳板连接形成循环")
  else
    match current.proxyId with
    | none =>
      .ok (current.host, current.port, if labels.isEmpty then none else some (String.intercalate " → " labels))
    | some proxyId =>
      match getProxy db proxyId with
      | .error error => .error error
      | .ok proxy =>
        if proxy.proxyType = .sshJump then
          match proxy.jumpConnectionId with
          | none => .error (.validation "跳板机代理未选择连接")
          | some jumpId =>
            match _ : getConnection db jumpId with
            | .error error => .error error
            | .ok next => firstHopFrom db next (visited ++ [current.id]) (labels ++ [proxy.name])
        else
          .ok (proxy.host, proxy.port, some (String.intercalate " → " (labels ++ [proxy.name])))
termination_by Walk.unvisited ConnectionProfile.id db.ids visited current
decreasing_by exact Walk.unvisited_lt ‹_› (mem_ids_of_getConnection ‹_›)

def diagnosticFirstHop (db : Profiles) (profile : ConnectionProfile) : AppResult (String × Int × Option String) :=
  firstHopFrom db profile [] []

/-- The jump host that a connection's references lead to. -/
def jumpOf (db : Profiles) (profile : ConnectionProfile) : Option ConnectionProfile :=
  (profile.proxyId.bind db.proxies.find?).bind fun proxy =>
    if proxy.proxyType = .sshJump then proxy.jumpConnectionId.bind db.connections.find? else none

/-- A connection whose jump references come back to a connection they have been at. -/
def Cyclic (db : Profiles) (profile : ConnectionProfile) : Prop :=
  Walk.Cyclic (jumpOf db) ConnectionProfile.id profile

/-- A resolution reports that its chain comes back to one of its connections. -/
def ReportsCycle (outcome : AppResult HostKey × Resolution) : Prop :=
  outcome.2.dialed = [] ∧ ∃ id ∈ outcome.2.chain, outcome.1 = .error (.validation (cycleMessage outcome.2.chain id))

section References

variable {db : Profiles} {id : String}

theorem getProxy_eq_ok {proxy : ProxyProfile} : getProxy db id = .ok proxy ↔ db.proxies.find? id = some proxy := by
  unfold getProxy
  split <;> simp_all

theorem getConnection_eq_ok {profile : ConnectionProfile} :
    getConnection db id = .ok profile ↔ db.connections.find? id = some profile := by
  unfold getConnection
  split <;> simp_all

variable {error : AppError}

theorem getProxy_eq_error :
    getProxy db id = .error error ↔ db.proxies.find? id = none ∧ error = .notFound ("代理 " ++ id) := by
  unfold getProxy
  split <;> next found => simp [found, eq_comm]

theorem getConnection_eq_error :
    getConnection db id = .error error ↔ db.connections.find? id = none ∧ error = .notFound id := by
  unfold getConnection
  split <;> next found => simp [found, eq_comm]

end References

/-- What a resolution and a diagnosis that have been at the same connections come to. -/
inductive Agreement (db : Profiles) (profile : ConnectionProfile) (visited : List String) :
    AppResult (String × Int × Option String) → AppResult HostKey × Resolution → Prop
  | cycle {outcome : AppResult HostKey × Resolution}
      (returns : Walk.Returns (jumpOf db) ConnectionProfile.id visited profile)
      (reports : ReportsCycle outcome) :
      Agreement db profile visited (.error (.validation "SSH 跳板连接形成循环")) outcome
  | refused {outcome : AppResult HostKey × Resolution} {error : AppError}
      (ends : ¬Walk.Returns (jumpOf db) ConnectionProfile.id visited profile)
      (reference : error = .validation "跳板机代理未选择连接" ∨ ∃ missing, error = .notFound missing)
      (undialed : outcome.2.dialed = []) (failed : outcome.1 = .error error) :
      Agreement db profile visited (.error error) outcome
  | dials {outcome : AppResult HostKey × Resolution} {host : String} {port : Int}
      {label : Option String}
      (ends : ¬Walk.Returns (jumpOf db) ConnectionProfile.id visited profile)
      (first : outcome.2.dialed.head? = some (.tcp host port)) :
      Agreement db profile visited (.ok (host, port, label)) outcome

section Resolutions

variable {db : Profiles} {network : Network} {profile : ConnectionProfile} {visited : List String}
  {diagnosis : AppResult (String × Int × Option String)}

theorem Agreement.verified {permitUnknown : Bool} {resolution : Resolution}
    (agreement : Agreement db profile visited diagnosis
      (transportConnectionWithChain db network profile resolution)) :
    Agreement db profile visited diagnosis
      (verifiedConnectionWithChain db network profile permitUnknown resolution) := by
  unfold verifiedConnectionWithChain
  cases built : transportConnectionWithChain db network profile resolution with
  | mk outcome later =>
    rw [built] at agreement
    cases outcome with
    | error error =>
      exact agreement
    | ok connected =>
      -- The transport was built, so it was dialed, and the login does not dial.
      cases agreement with
      | cycle _ reports =>
        obtain ⟨-, id, -, failed⟩ := reports
        cases failed
      | refused _ _ _ failed => cases failed
      | dials ends first =>
        refine .dials ends ?_
        simp only
        split
        · exact first
        · split <;> exact first

theorem Agreement.jump {next : ConnectionProfile} {proxy : Option ProxyProfile}
    {outcome : AppResult HostKey × Resolution} (new : profile.id ∉ visited)
    (leads : jumpOf db profile = some next) :
    Agreement db next (visited ++ [profile.id]) diagnosis outcome →
      Agreement db profile visited diagnosis
        (match outcome with
        | (.error error, resolution) => (.error error, resolution)
        | (.ok jump, resolution) => handshake network profile proxy (some jump) resolution) := by
  intro agreement
  have onward : Walk.Returns (jumpOf db) ConnectionProfile.id visited profile ↔
      Walk.Returns (jumpOf db) ConnectionProfile.id (visited ++ [profile.id]) next :=
    Walk.returns_onward_iff new leads
  obtain ⟨result, resolution⟩ := outcome
  cases agreement with
  | cycle returns reports =>
    obtain ⟨undialed, id, member, failed⟩ := reports
    have failed : result = .error (.validation (cycleMessage resolution.chain id)) := failed
    subst failed
    exact .cycle (onward.mpr returns) ⟨undialed, id, member, rfl⟩
  | @refused _ error ends reference undialed failed =>
    have failed : result = .error error := failed
    subst failed
    exact .refused (mt onward.mp ends) reference undialed rfl
  | dials ends first =>
    refine .dials (mt onward.mp ends) ?_
    cases result with
    | error error => exact first
    | ok jump =>
      obtain ⟨rest, dialed⟩ := List.head?_eq_some_iff.mp first
      have dialed : resolution.dialed = _ := dialed
      simp [handshake, dialed]

theorem not_returns_of_jumpOf (new : profile.id ∉ visited) (ends : jumpOf db profile = none) :
    ¬Walk.Returns (jumpOf db) ConnectionProfile.id visited profile :=
  Walk.not_returns new ends

section Jump

variable {proxyId jumpId : String} {proxy : ProxyProfile} (new : profile.id ∉ visited)
  (proxied : profile.proxyId = some proxyId) (stored : getProxy db proxyId = .ok proxy)
  (jumps : proxy.proxyType = .sshJump) (set : proxy.jumpConnectionId = some jumpId)

include new proxied stored jumps set

theorem firstHopFrom_jump (labels : List String) :
    firstHopFrom db profile visited labels =
      match getConnection db jumpId with
      | .error error => .error error
      | .ok next => firstHopFrom db next (visited ++ [profile.id]) (labels ++ [proxy.name]) := by
  rw [firstHopFrom, dif_neg new]
  simp only [proxied, stored, jumps, set, if_true]
  split <;> next found => simp only [found]

theorem transportConnectionWithChain_jump (resolution : Resolution)
    (same : resolution.chain = visited) :
    transportConnectionWithChain db network profile resolution =
      match getConnection db jumpId with
      | .error error => (.error error, { resolution with chain := visited ++ [profile.id] })
      | .ok next =>
        match verifiedConnectionWithChain db network next false
          { resolution with chain := visited ++ [profile.id] } with
        | (.error error, resolution) => (.error error, resolution)
        | (.ok jump, resolution) => handshake network profile (some proxy) (some jump) resolution := by
  subst same
  rw [transportConnectionWithChain, dif_neg new]
  simp only [proxied, stored, jumps, set, if_true]
  split <;> next found => simp only [found]

end Jump

/-- The diagnosis agrees with every resolution that has been at the same connections. -/
theorem agreement (labels : List String) (resolution : Resolution)
    (same : resolution.chain = visited) (undialed : resolution.dialed = []) :
    Agreement db profile visited (firstHopFrom db profile visited labels)
      (transportConnectionWithChain db network profile resolution) := by
  -- The cases are those of the diagnosis, which is at the same connection as the resolution.
  induction profile, visited, labels using firstHopFrom.induct db generalizing resolution with
  | case1 current visited labels again =>
    rw [firstHopFrom, dif_pos again, transportConnectionWithChain, dif_pos (same ▸ again)]
    exact .cycle (.here again) ⟨undialed, current.id, same ▸ again, rfl⟩
  | case2 current visited labels new direct =>
    rw [firstHopFrom, dif_neg new, transportConnectionWithChain, dif_neg (same ▸ new)]
    simp only [direct]
    exact .dials (not_returns_of_jumpOf new (by simp [jumpOf, direct])) (by simp [handshake, dialOf, undialed])
  | case3 current visited labels new proxyId proxied error missing =>
    rw [firstHopFrom, dif_neg new, transportConnectionWithChain, dif_neg (same ▸ new)]
    simp only [proxied, missing]
    obtain ⟨absent, rfl⟩ := getProxy_eq_error.mp missing
    exact .refused (not_returns_of_jumpOf new (by simp [jumpOf, proxied, absent])) (.inr ⟨_, rfl⟩)
      undialed rfl
  | case4 current visited labels new proxyId proxied proxy stored jumps unset =>
    rw [firstHopFrom, dif_neg new, transportConnectionWithChain, dif_neg (same ▸ new)]
    simp only [proxied, stored, jumps, unset, if_true]
    have found := getProxy_eq_ok.mp stored
    exact .refused (not_returns_of_jumpOf new (by simp [jumpOf, proxied, found, unset])) (.inl rfl)
      undialed rfl
  | case5 current visited labels new proxyId proxied proxy stored jumps jumpId set error missing =>
    rw [firstHopFrom_jump new proxied stored jumps set,
      transportConnectionWithChain_jump new proxied stored jumps set resolution same]
    simp only [missing]
    have found := getProxy_eq_ok.mp stored
    obtain ⟨absent, rfl⟩ := getConnection_eq_error.mp missing
    have ends : jumpOf db current = none := by simp [jumpOf, proxied, found, set, absent]
    exact .refused (not_returns_of_jumpOf new ends) (.inr ⟨_, rfl⟩) undialed rfl
  | case6 current visited labels new proxyId proxied proxy stored jumps jumpId set next there ih =>
    rw [firstHopFrom_jump new proxied stored jumps set,
      transportConnectionWithChain_jump new proxied stored jumps set resolution same]
    simp only [there]
    have found := getProxy_eq_ok.mp stored
    have known := getConnection_eq_ok.mp there
    have leads : jumpOf db current = some next := by
      simp [jumpOf, proxied, found, jumps, set, known]
    -- The jump host is verified with a chain that now ends in this connection.
    have later := ih { resolution with chain := visited ++ [current.id] } rfl undialed
    exact later.verified.jump new leads
  | case7 current visited labels new proxyId proxied proxy stored other =>
    rw [firstHopFrom, dif_neg new, transportConnectionWithChain, dif_neg (same ▸ new)]
    simp only [proxied, stored, if_neg other]
    have found := getProxy_eq_ok.mp stored
    refine .dials (not_returns_of_jumpOf new (by simp [jumpOf, proxied, found, other])) ?_
    cases kind : proxy.proxyType with
    | sshJump => exact absurd kind other
    | socks5 | http => simp [handshake, dialOf, undialed, kind]

structure Continues (db : Profiles) (profile : ConnectionProfile) (visited chain : List String)
    (path : List ConnectionProfile) : Prop where
  continued : chain = visited ++ path.map ConnectionProfile.id
  new : visited.Nodup → chain.Nodup
  follows : ∀ i < path.length, Walk.hop (jumpOf db) i profile = path[i]?

theorem Continues.stop : Continues db profile visited visited [] := ⟨by simp, id, by simp⟩

theorem Continues.enter (new : profile.id ∉ visited) :
    Continues db profile visited (visited ++ [profile.id]) [profile] := by
  refine ⟨rfl, fun distinct => distinct.append (List.nodup_singleton _) ?_, ?_⟩
  · simpa using new
  · intro i below
    obtain rfl : i = 0 := by simpa using below
    rfl

variable {path : List ConnectionProfile} {chain : List String}

theorem Continues.jump {next : ConnectionProfile} (new : profile.id ∉ visited) (leads : jumpOf db profile = some next)
    (continues : Continues db next (visited ++ [profile.id]) chain path) :
    Continues db profile visited chain (profile :: path) := by
  obtain ⟨continued, distinct, follows⟩ := continues
  have entered : Continues db profile visited (visited ++ [profile.id]) [profile] := .enter new
  refine ⟨by simp [continued], fun before => distinct (entered.new before), ?_⟩
  intro i below
  cases i with
  | zero => rfl
  | succ i =>
    have further := follows i (Nat.lt_of_succ_lt_succ below)
    simpa [Walk.hop, leads] using further

theorem chain_of_verified {permitUnknown : Bool} {resolution : Resolution} :
    (verifiedConnectionWithChain db network profile permitUnknown resolution).2.chain =
      (transportConnectionWithChain db network profile resolution).2.chain := by
  unfold verifiedConnectionWithChain
  split
  · next failed => rw [failed]
  · next built =>
    simp only [built]
    split
    · rfl
    · split <;> rfl

theorem continues (resolution : Resolution) (same : resolution.chain = visited) :
    ∃ path, Continues db profile visited
      (transportConnectionWithChain db network profile resolution).2.chain path := by
  induction profile, visited, ([] : List String) using firstHopFrom.induct db
    generalizing resolution with
  | case1 current visited labels again =>
    rw [transportConnectionWithChain, dif_pos (same ▸ again)]
    exact ⟨[], same ▸ .stop⟩
  | case2 current visited labels new direct =>
    rw [transportConnectionWithChain, dif_neg (same ▸ new)]
    simp only [direct, handshake, same]
    exact ⟨_, .enter new⟩
  | case3 current visited labels new proxyId proxied error missing =>
    rw [transportConnectionWithChain, dif_neg (same ▸ new)]
    simp only [proxied, missing, same]
    exact ⟨_, .enter new⟩
  | case4 current visited labels new proxyId proxied proxy stored jumps unset =>
    rw [transportConnectionWithChain, dif_neg (same ▸ new)]
    simp only [proxied, stored, jumps, unset, if_true, same]
    exact ⟨_, .enter new⟩
  | case5 current visited labels new proxyId proxied proxy stored jumps jumpId set error missing =>
    rw [transportConnectionWithChain_jump new proxied stored jumps set resolution same]
    simp only [missing]
    exact ⟨_, .enter new⟩
  | case6 current visited labels new proxyId proxied proxy stored jumps jumpId set next there ih =>
    rw [transportConnectionWithChain_jump new proxied stored jumps set resolution same]
    simp only [there]
    have found := getProxy_eq_ok.mp stored
    have known := getConnection_eq_ok.mp there
    have leads : jumpOf db current = some next := by
      simp [jumpOf, proxied, found, jumps, set, known]
    obtain ⟨path, further⟩ := ih { resolution with chain := visited ++ [current.id] } rfl
    rw [← chain_of_verified] at further
    refine ⟨current :: path, ?_⟩
    split
    · next failed =>
      rw [failed] at further
      exact further.jump new leads
    · next verified =>
      rw [verified] at further
      exact further.jump new leads
  | case7 current visited labels new proxyId proxied proxy stored other =>
    rw [transportConnectionWithChain, dif_neg (same ▸ new)]
    simp only [proxied, stored, if_neg other, handshake, same]
    exact ⟨_, .enter new⟩

theorem mem_of_hop {i : Nat} {reached : ConnectionProfile}
    (leads : Walk.hop (jumpOf db) (i + 1) profile = some reached) : reached.id ∈ db.ids := by
  induction i generalizing profile with
  | zero =>
    obtain ⟨next, jump, rest⟩ := Option.bind_eq_some_iff.mp leads
    obtain rfl : next = reached := Option.some.inj rest
    obtain ⟨proxy, -, jumps⟩ := Option.bind_eq_some_iff.mp jump
    split at jumps
    · obtain ⟨jumpId, -, found⟩ := Option.bind_eq_some_iff.mp jumps
      exact List.mem_map_of_mem (Table.find?_some found).1
    · cases jumps
  | succ i ih =>
    obtain ⟨next, -, rest⟩ := Option.bind_eq_some_iff.mp leads
    exact ih rest

theorem Continues.length_le (continues : Continues db profile [] chain path) : chain.length ≤ db.ids.length + 1 := by
  obtain ⟨rfl, distinct, follows⟩ := continues
  cases path with
  | nil => simp
  | cons first rest =>
    have distinct : (rest.map ConnectionProfile.id).Nodup :=
      (List.nodup_cons.mp (distinct List.nodup_nil)).2
    have known : rest.map ConnectionProfile.id ⊆ db.ids := by
      intro id member
      obtain ⟨reached, held, rfl⟩ := List.mem_map.mp member
      obtain ⟨i, below, rfl⟩ := List.mem_iff_getElem.mp held
      exact mem_of_hop (i := i) ((follows (i + 1) (by simpa using below)).trans (by simp [below]))
    simpa using (List.subperm_of_subset distinct known).length_le

theorem ne_cycleMessage {id : String} {error : AppError}
    (reference : error = .validation "跳板机代理未选择连接" ∨ ∃ missing, error = .notFound missing) :
    error ≠ .validation (cycleMessage chain id) := by
  rcases reference with rfl | ⟨missing, rfl⟩
  · -- The two texts differ in their first letter.
    intro same
    have first : "SSH 跳板连接形成循环：".toList.head? = some 'S' := by decide
    have text : cycleMessage chain id = "SSH 跳板连接形成循环：" ++ (String.intercalate " → " chain ++ " → " ++ id) := by
      unfold cycleMessage
      simp only [String.append_assoc]
    have starts : (cycleMessage chain id).toList.head? = some 'S' := by
      rw [text, String.toList_append, List.head?_append, first, Option.some_or]
    rw [← AppError.validation.inj same] at starts
    exact absurd starts (by decide)
  · simp

end Resolutions

/--
Every resolution ends, having visited connections along the jump references, each at most once.
It reports a cycle exactly where these references come back to a connection of the chain.
The diagnosis reports one for the same connections, fails as the resolution does where that dials
nothing, and otherwise names the first host that the resolution dials.
-/
theorem jumpChains (db : Profiles) (network : Network) (profile : ConnectionProfile)
    (permitUnknown : Bool) (knownHosts : KnownHosts) (outcome : AppResult HostKey × Resolution)
    (resolved : outcome = transportConnectionWithChain db network profile ⟨[], knownHosts, []⟩ ∨
      outcome = verifiedConnectionWithChain db network profile permitUnknown ⟨[], knownHosts, []⟩) :
    (outcome.2.chain.Nodup ∧ outcome.2.chain.length ≤ db.ids.length + 1 ∧
      ∃ path : List ConnectionProfile, outcome.2.chain = path.map ConnectionProfile.id ∧
        ∀ i < path.length, Walk.hop (jumpOf db) i profile = path[i]?) ∧
    (ReportsCycle outcome ↔ Cyclic db profile) ∧
    (diagnosticFirstHop db profile = .error (.validation "SSH 跳板连接形成循环") ↔ Cyclic db profile) ∧
    (¬Cyclic db profile →
      (∃ host port label, diagnosticFirstHop db profile = .ok (host, port, label) ∧
        outcome.2.dialed.head? = some (.tcp host port)) ∨
      ∃ error, diagnosticFirstHop db profile = .error error ∧ outcome.1 = .error error ∧ outcome.2.dialed = []) := by
  have visits : ∃ path, Continues db profile [] outcome.2.chain path := by
    obtain ⟨path, along⟩ : ∃ path, Continues db profile []
        (transportConnectionWithChain db network profile ⟨[], knownHosts, []⟩).2.chain path :=
      continues ⟨[], knownHosts, []⟩ rfl
    rcases resolved with rfl | rfl
    · exact ⟨path, along⟩
    · exact ⟨path, chain_of_verified ▸ along⟩
  have agrees : Agreement db profile [] (diagnosticFirstHop db profile) outcome := by
    have along : Agreement db profile [] (diagnosticFirstHop db profile)
        (transportConnectionWithChain db network profile ⟨[], knownHosts, []⟩) :=
      agreement [] ⟨[], knownHosts, []⟩ rfl rfl
    rcases resolved with rfl | rfl
    · exact along
    · exact along.verified
  obtain ⟨path, along⟩ := visits
  refine ⟨⟨along.new List.nodup_nil, along.length_le, path, along.continued, along.follows⟩, ?_⟩
  have cyclic : Walk.Returns (jumpOf db) ConnectionProfile.id [] profile ↔ Cyclic db profile :=
    Walk.returns_nil_iff
  generalize diagnosis : diagnosticFirstHop db profile = found at agrees
  cases agrees with
  | cycle returns reports =>
    have comes := cyclic.mp returns
    exact ⟨iff_of_true reports comes, iff_of_true rfl comes, fun ends => absurd comes ends⟩
  | refused ends reference undialed failed =>
    have stays := mt cyclic.mpr ends
    refine ⟨iff_of_false ?_ stays, iff_of_false ?_ stays, fun _ => .inr ⟨_, rfl, failed, undialed⟩⟩
    · rintro ⟨-, id, -, reported⟩
      exact ne_cycleMessage reference (Except.error.inj (failed.symm.trans reported))
    · rintro ⟨⟩
      rcases reference with reference | ⟨missing, reference⟩ <;> simp at reference
  | dials ends first =>
    have stays := mt cyclic.mpr ends
    refine ⟨iff_of_false ?_ stays, iff_of_false (by simp) stays, fun _ => .inl ⟨_, _, _, rfl, first⟩⟩
    rintro ⟨undialed, -⟩
    simp [undialed] at first

/-- Two connections that are each other's jump host, over one proxy each. -/
def mutualJumps : Profiles where
  connections := ⟨[⟨"east", "east.example", 22, .strict, some "over-west", ""⟩,
    ⟨"west", "west.example", 22, .strict, some "over-east", ""⟩], by decide⟩
  proxies := ⟨[⟨"over-west", "West", .sshJump, "", 0, some "west"⟩,
    ⟨"over-east", "East", .sshJump, "", 0, some "east"⟩], by decide⟩

/-- A network in which every handshake and login succeeds. -/
def openNetwork : Network where
  handshake _ _ _ := .ok ⟨"ssh-ed25519", "SHA256:key"⟩
  authenticate _ _ := .ok ()

/-- A resolution of one of them reports a cycle without dialing, and so does the diagnosis. -/
theorem jumpChains_mutual :
    ∃ profile ∈ mutualJumps.connections.rows,
      ReportsCycle (transportConnectionWithChain mutualJumps openNetwork profile ⟨[], .empty, []⟩) ∧
        diagnosticFirstHop mutualJumps profile = .error (.validation "SSH 跳板连接形成循环") := by
  have chains := jumpChains mutualJumps openNetwork
    ⟨"east", "east.example", 22, .strict, some "over-west", ""⟩ false .empty _ (.inl rfl)
  have cyclic : Cyclic mutualJumps ⟨"east", "east.example", 22, .strict, some "over-west", ""⟩ :=
    ⟨0, 2, _, _, by decide, rfl, rfl, rfl⟩
  exact ⟨_, List.mem_cons_self, chains.2.1.mpr cyclic, chains.2.2.1.mpr cyclic⟩

end Ssh

end CNShell
