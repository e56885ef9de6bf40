import CNShell.Plugin.Revocation
import Mathlib.Algebra.Order.Group.Nat

/-! When a plugin can still be disabled, invalidated or removed, and a publisher be revoked. -/

namespace CNShell

namespace Plugin

open Client (AppError AppResult)

/-- How many bytes the fields take that a decision replaces. -/
def stateBytes (signatureStatus : String) (granted : List String) (enabled executable : Bool)
    (updatedAt : String) : Nat :=
  (Json.string signatureStatus).length + (jsonTexts granted).length + (Json.bool enabled).length +
    (Json.bool executable).length + (Json.string updatedAt).length

def PluginInstallRecord.stateBytes (record : PluginInstallRecord) : Nat :=
  Plugin.stateBytes record.signatureStatus record.grantedPermissions record.enabled record.executable
    record.updatedAt

/-- The log has room for an entry, next to those that stay. -/
def AuditRoom (store : PluginStore) (event : PluginAuditEvent) : Prop :=
  Json.listed ((keptAudit store.audit).map PluginAuditEvent.json) + event.json.length + 2 ≤ maxStateBytes

instance (store : PluginStore) (event : PluginAuditEvent) : Decidable (AuditRoom store event) :=
  inferInstanceAs (Decidable (_ ≤ _))

/-- What the user, or a failed check, takes back. -/
inductive SafetyAction
  | disable (id : String)
  | revokePublisher (id : String)
  | invalidateRecord (id detail : String)
  | remove (id : String)

namespace SafetyAction

/-- The operation. -/
def program (stamp : Stamp) : SafetyAction → Transaction Unit
  | disable id => Plugin.disable id stamp
  | revokePublisher id => Plugin.revokePublisher id stamp
  | invalidateRecord id detail => Plugin.invalidateRecord id detail stamp
  | remove id => Plugin.remove id stamp

/-- There is what the operation is about. -/
def Existing (store : PluginStore) : SafetyAction → Prop
  | disable id | invalidateRecord id _ | remove id => ∃ record ∈ store.registry, record.id = id
  | revokePublisher id => ∃ root ∈ store.roots, root.id = id

/-- The log, the registry and the publishers have room for what the operation saves. -/
def HasRoom (store : PluginStore) (stamp : Stamp) : SafetyAction → Prop
  | disable id => ∀ record, store.registry.find? (·.id = id) = some record →
    AuditRoom store ⟨stamp.uuid, .plugin id, .disabled, "插件已禁用，运行权限立即失效", record.digest, stamp.createdAt⟩ ∧
    (registryJson store.registry).length +
      stateBytes record.signatureStatus [] false record.executable stamp.updatedAt ≤
        maxStateBytes + record.stateBytes
  | invalidateRecord id detail => ∀ record, store.registry.find? (·.id = id) = some record →
    AuditRoom store ⟨stamp.uuid, .plugin id, .invalidated, detail, record.digest, stamp.createdAt⟩ ∧
    (registryJson store.registry).length + stateBytes "invalidated" [] false false stamp.updatedAt ≤
      maxStateBytes + record.stateBytes
  | remove id => ∀ record, store.registry.find? (·.id = id) = some record →
    AuditRoom store ⟨stamp.uuid, .plugin id, .removed, "插件登记已移除；manifest 文件不会被 CNshell 删除",
      record.digest, stamp.createdAt⟩
  | revokePublisher id => ∀ root, store.roots.find? (·.id = id) = some root →
    let own := store.registry.filter fun record => record.publisherId = some id
    AuditRoom store ⟨stamp.uuid, .publisher id, .publisherRevoked, "发布者信任已撤销，其全部插件已立即禁用",
      root.fingerprint, stamp.createdAt⟩ ∧
    (rootsJson store.roots).length + (Json.bool false).length + (Json.string stamp.updatedAt).length ≤
      maxStateBytes + (Json.bool root.enabled).length + (Json.string root.updatedAt).length ∧
    (registryJson store.registry).length +
      own.length * stateBytes "publisher-revoked" [] false false stamp.updatedAt ≤
        maxStateBytes + (own.map PluginInstallRecord.stateBytes).sum

end SafetyAction

/-- A part of an operation succeeds when it runs alone on a store. -/
def Succeeds (program : Transaction α) (store : PluginStore) : Prop := (program.exec database store).1.isOk = true

section Sizes

variable {store : PluginStore} {event : PluginAuditEvent} {records : List PluginInstallRecord}

theorem length_json_state (record : PluginInstallRecord) (status : String) (granted : List String)
    (enabled executable : Bool) (now : String) :
    (PluginInstallRecord.json { record with
      signatureStatus := status
      grantedPermissions := granted
      enabled := enabled
      executable := executable
      updatedAt := now }).length + record.stateBytes =
      record.json.length + stateBytes status granted enabled executable now := by
  simp only [PluginInstallRecord.json, PluginInstallRecord.stateBytes, stateBytes, Json.object, Json.commas,
    List.map_cons, List.map_nil, List.length_cons, List.length_append, List.length_nil]
  omega

theorem length_registryJson (filled : records ≠ []) :
    (registryJson records).length = Json.listed (records.map PluginInstallRecord.json) + 1 :=
  Json.length_array (by simpa using filled)

theorem length_registryJson_changeRecord {id : String} {record : PluginInstallRecord}
    {change : PluginInstallRecord → PluginInstallRecord}
    (found : records.find? (·.id = id) = some record) :
    (registryJson (changeRecord id change records)).length + record.json.length =
      (registryJson records).length + (change record).json.length := by
  have listed : Json.listed ((changeRecord id change records).map PluginInstallRecord.json) + record.json.length =
      Json.listed (records.map PluginInstallRecord.json) + (change record).json.length := by
    induction records with
    | nil => cases found
    | cons first rest ih =>
      unfold changeRecord
      by_cases same : first.id = id
      · rw [List.find?_cons_of_pos (by simpa using same)] at found
        cases found
        simp only [if_pos same, List.map_cons, Json.listed_cons]
        omega
      · rw [List.find?_cons_of_neg (by simpa using same)] at found
        simp only [if_neg same, List.map_cons, Json.listed_cons]
        have rest := ih found
        omega
  have filled : records ≠ [] := by
    rintro rfl
    cases found
  have filled' : changeRecord id change records ≠ [] := by
    cases records with
    | nil => exact absurd rfl filled
    | cons first rest =>
      unfold changeRecord
      split <;> simp
  rw [length_registryJson filled, length_registryJson filled']
  omega

theorem length_registryJson_revokeRecords (id now : String) :
    (registryJson (revokeRecords id now records)).length +
        ((records.filter fun record => record.publisherId = some id).map PluginInstallRecord.stateBytes).sum =
      (registryJson records).length +
        (records.filter fun record => record.publisherId = some id).length *
          stateBytes "publisher-revoked" [] false false now := by
  have listed : Json.listed ((revokeRecords id now records).map PluginInstallRecord.json) +
        ((records.filter fun record => record.publisherId = some id).map PluginInstallRecord.stateBytes).sum =
      Json.listed (records.map PluginInstallRecord.json) +
        (records.filter fun record => record.publisherId = some id).length *
          stateBytes "publisher-revoked" [] false false now := by
    induction records with
    | nil => simp [revokeRecords]
    | cons first rest ih =>
      by_cases own : first.publisherId = some id
      · have state := length_json_state first "publisher-revoked" [] false false now
        rw [List.filter_cons_of_pos (by simpa using own)]
        simp only [revokeRecords, List.map_cons, if_pos own, Json.listed_cons, List.sum_cons, List.length_cons,
          PluginInstallRecord.revoke] at ih ⊢
        rw [Nat.succ_mul]
        omega
      · rw [List.filter_cons_of_neg (by simpa using own)]
        simp only [revokeRecords, List.map_cons, if_neg own, Json.listed_cons] at ih ⊢
        omega
  cases records with
  | nil => simp [revokeRecords]
  | cons first rest =>
    rw [length_registryJson (by simp [revokeRecords]), length_registryJson (by simp)]
    omega

theorem length_rootsJson_revokeRoot {id : String} {roots : List PluginPublisherRoot} {root : PluginPublisherRoot}
    (found : roots.find? (·.id = id) = some root) (now : String) :
    (rootsJson (revokeRoot id now roots)).length + (Json.bool root.enabled).length +
        (Json.string root.updatedAt).length =
      (rootsJson roots).length + (Json.bool false).length + (Json.string now).length := by
  have state : ∀ held : PluginPublisherRoot,
      (PluginPublisherRoot.json { held with enabled := false, updatedAt := now }).length +
          (Json.bool held.enabled).length + (Json.string held.updatedAt).length =
        held.json.length + (Json.bool false).length + (Json.string now).length := by
    intro held
    simp only [PluginPublisherRoot.json, Json.object, Json.commas, List.map_cons, List.map_nil, List.length_cons,
      List.length_append, List.length_nil]
    omega
  have listed : Json.listed ((revokeRoot id now roots).map PluginPublisherRoot.json) +
        (Json.bool root.enabled).length + (Json.string root.updatedAt).length =
      Json.listed (roots.map PluginPublisherRoot.json) + (Json.bool false).length + (Json.string now).length := by
    induction roots with
    | nil => cases found
    | cons first rest ih =>
      unfold revokeRoot
      by_cases same : first.id = id
      · rw [List.find?_cons_of_pos (by simpa using same)] at found
        obtain rfl : first = root := Option.some.inj found
        have one := state first
        simp only [if_pos same, List.map_cons, Json.listed_cons]
        omega
      · rw [List.find?_cons_of_neg (by simpa using same)] at found
        simp only [if_neg same, List.map_cons, Json.listed_cons]
        have rest := ih found
        omega
  have filled : roots ≠ [] := by
    rintro rfl
    cases found
  have filled' : revokeRoot id now roots ≠ [] := by
    cases roots with
    | nil => exact absurd rfl filled
    | cons first rest =>
      unfold revokeRoot
      split <;> simp
  have before : (rootsJson roots).length = Json.listed (roots.map PluginPublisherRoot.json) + 1 :=
    Json.length_array (by simpa using filled)
  have after : (rootsJson (revokeRoot id now roots)).length =
      Json.listed ((revokeRoot id now roots).map PluginPublisherRoot.json) + 1 :=
    Json.length_array (by simpa using filled')
  omega

theorem length_registryJson_filter (keeps : PluginInstallRecord → Bool) :
    (registryJson (records.filter keeps)).length ≤ (registryJson records).length := by
  have listed : Json.listed ((records.filter keeps).map PluginInstallRecord.json) ≤
      Json.listed (records.map PluginInstallRecord.json) :=
    (List.Sublist.map _ (List.Sublist.map _ List.filter_sublist)).sum_le_sum fun _ _ => Nat.zero_le _
  by_cases filled : records = []
  · rw [filled]
    rfl
  · rw [length_registryJson filled]
    by_cases left : records.filter keeps = []
    · rw [left]
      have some : 0 < Json.listed (records.map PluginInstallRecord.json) := by
        cases records with
        | nil => exact absurd rfl filled
        | cons first rest =>
          simp only [List.map_cons, Json.listed_cons]
          omega
      show 2 ≤ _
      omega
    · rw [length_registryJson left]
      omega

theorem length_auditJson : (auditJson (keptAudit store.audit ++ [event])).length =
    Json.listed ((keptAudit store.audit).map PluginAuditEvent.json) + event.json.length + 2 := by
  rw [auditJson, Json.length_array (by simp)]
  simp [Nat.add_assoc]

theorem boundedAudit_eq : boundedAudit store.audit event =
    if AuditRoom store event then .ok (keptAudit store.audit ++ [event])
    else .error (.validation "插件审计记录超过 1 MB") := by
  unfold boundedAudit AuditRoom ensure
  simp only [length_auditJson]
  by_cases room : Json.listed ((keptAudit store.audit).map PluginAuditEvent.json) + event.json.length + 2 ≤
      maxStateBytes
  · simp [room, Bind.bind, Except.bind, pure, Except.pure]
  · simp [room, Bind.bind, Except.bind]

end Sizes

section Successes

variable {store : PluginStore} {event : PluginAuditEvent} {records : List PluginInstallRecord} {basis : Basis}
variable {id : String} {stamp : Stamp}

@[simp] theorem outcome_listInstalled : database.outcome .listInstalled store = (.ok store.registry, store) := rfl

@[simp] theorem outcome_listPublishers : database.outcome .listPublishers store = (.ok store.roots, store) := rfl

@[simp] theorem outcome_listAudit : database.outcome .listAudit store = (.ok store.audit, store) := rfl

theorem succeeds_saveRegistryAndAudit : Succeeds (saveRegistryAndAudit basis records event) store ↔
    AuditRoom store event ∧ (registryJson records).length ≤ maxStateBytes := by
  unfold Succeeds saveRegistryAndAudit
  rw [Program.exec_bind, Program.exec_perform, outcome_listAudit]
  simp only
  rw [Program.exec_bind, Program.exec_lift, boundedAudit_eq]
  by_cases room : AuditRoom store event
  · have size : (auditJson (keptAudit store.audit ++ [event])).length ≤ maxStateBytes := by
      rw [length_auditJson]
      exact room
    simp only [if_pos room]
    rw [Program.exec_bind, Program.exec_lift]
    by_cases fits : (registryJson records).length ≤ maxStateBytes
    · simp [ensure, fits, size, room, Except.isOk, Except.toBool, Semantics.outcome, database]
    · simp [ensure, fits, Except.isOk, Except.toBool]
  · simp [room, Except.isOk, Except.toBool]

theorem succeeds_saveRootsRegistryAndAudit {roots : List PluginPublisherRoot} :
    Succeeds (saveRootsRegistryAndAudit basis roots records event) store ↔ AuditRoom store event ∧
      (rootsJson roots).length ≤ maxStateBytes ∧ (registryJson records).length ≤ maxStateBytes := by
  unfold Succeeds saveRootsRegistryAndAudit
  rw [Program.exec_bind, Program.exec_perform, outcome_listAudit]
  simp only
  rw [Program.exec_bind, Program.exec_lift, boundedAudit_eq]
  by_cases room : AuditRoom store event
  · simp only [if_pos room]
    rw [Program.exec_bind, Program.exec_lift]
    by_cases fits : (rootsJson roots).length ≤ maxStateBytes ∧ (registryJson records).length ≤ maxStateBytes
    · simp [ensure, fits, room, Except.isOk, Except.toBool, Semantics.outcome, database]
    · simp [ensure, fits, Except.isOk, Except.toBool]
  · simp [room, Except.isOk, Except.toBool]

theorem succeeds_findRecord {following : List PluginInstallRecord → PluginInstallRecord → Transaction Unit}
    {record : PluginInstallRecord} (found : store.registry.find? (·.id = id) = some record) :
    Succeeds (do
      let records ← .perform .listInstalled
      let record ← .lift (findRecord records id)
      following records record) store ↔ Succeeds (following store.registry record) store := by
  have known : findRecord store.registry id = .ok record := by simp [findRecord, found]
  unfold Succeeds
  rw [Program.exec_bind, Program.exec_perform, outcome_listInstalled]
  simp only
  rw [Program.exec_bind, Program.exec_lift, known]

theorem succeeds_ensure {following : Transaction Unit} {error : AppError} (valid : validId id = true) :
    Succeeds (do
      .lift (ensure (validId id) error)
      following) store ↔ Succeeds following store := by
  unfold Succeeds
  rw [Program.exec_bind, Program.exec_lift]
  simp [ensure, valid]

theorem exec_appendAudit (room : AuditRoom store event) : (appendAudit event).exec database store =
    (.ok (), { store with audit := keptAudit store.audit ++ [event] }) := by
  unfold appendAudit
  rw [Program.exec_bind, Program.exec_perform, outcome_listAudit]
  simp only
  rw [Program.exec_bind, Program.exec_lift, boundedAudit_eq, if_pos room]
  rfl

end Successes

section Invariant

variable {packages : PluginPackage → Prop}

/-- All ids are valid, and the registry is not too long. -/
structure Sound (store : PluginStore) : Prop where
  plugins : ∀ record ∈ store.registry, validId record.id = true
  publishers : ∀ root ∈ store.roots, validId root.id = true
  fits : (registryJson store.registry).length ≤ maxStateBytes

def SavesSound : (β : Type) → PluginAct β → Prop
  | _, .saveRootsAndAudit _ roots _ => ∀ root ∈ roots, validId root.id = true
  | _, .saveRootsRegistryAndAudit _ roots records audit => Sound ⟨roots, records, audit⟩
  | _, .saveRegistryAndAudit _ records audit => Sound ⟨[], records, audit⟩
  | _, .saveAudit _ | _, .listInstalled | _, .listPublishers | _, .listAudit => True

abbrev KeepsSound (program : Transaction α) : Prop := Program.Within database Sound SavesSound program

theorem of_ensure {condition : Bool} {error : AppError} {value : Unit}
    (passed : ensure condition error = .ok value) : condition = true := by
  unfold ensure at passed
  split at passed
  · assumption
  · cases passed

theorem keepsSound_listInstalled {following : List PluginInstallRecord → Transaction α}
    (rest : ∀ records, (∀ record ∈ records, validId record.id = true) → KeepsSound (following records)) :
    KeepsSound (.perform .listInstalled >>= following) := by
  refine .perform_bind trivial fun store value next sound ran => ?_
  cases ran
  exact rest _ sound.plugins

theorem keepsSound_listPublishers {following : List PluginPublisherRoot → Transaction α}
    (rest : ∀ roots, (∀ root ∈ roots, validId root.id = true) → KeepsSound (following roots)) :
    KeepsSound (.perform .listPublishers >>= following) := by
  refine .perform_bind trivial fun store value next sound ran => ?_
  cases ran
  exact rest _ sound.publishers

theorem keepsSound_saveRegistryAndAudit {basis : Basis} {records : List PluginInstallRecord}
    {event : PluginAuditEvent} (valid : ∀ record ∈ records, validId record.id = true) :
    KeepsSound (saveRegistryAndAudit basis records event) := by
  refine .perform_bind trivial fun _ _ _ _ _ => .lift_bind fun audit _ => .lift_bind fun _ passed => ?_
  have sizes := of_decide_eq_true (of_ensure passed)
  exact .of_only (.perform ⟨valid, by simp, sizes.1⟩)

theorem keepsSound_appendAudit (event : PluginAuditEvent) : KeepsSound (appendAudit event) :=
  .perform_bind trivial fun _ _ _ _ _ => .lift_bind fun _ _ => .of_only (.perform trivial)

theorem keepsSound_verifyPackage (package : PluginPackage) : KeepsSound (verifyPackage package) := by
  unfold verifyPackage
  split
  · exact .of_only (.pure _)
  · split
    · exact .of_only (.perform_bind trivial fun _ => .pure _)
    · exact .of_only (.pure _)

theorem keepsSound_verifiedRecordPackage (files : String → AppResult PluginPackage) (record : PluginInstallRecord) :
    KeepsSound (verifiedRecordPackage files record) := by
  unfold verifiedRecordPackage
  split
  · exact .of_only (.pure _)
  · exact (keepsSound_verifyPackage _).bind fun _ => .of_only (.pure _)

theorem valid_changeRecord {records : List PluginInstallRecord} {id : String}
    {change : PluginInstallRecord → PluginInstallRecord} (same : ∀ record, (change record).id = record.id)
    (valid : ∀ record ∈ records, validId record.id = true) :
    ∀ record ∈ changeRecord id change records, validId record.id = true := by
  intro record member
  have ids : (changeRecord id change records).map PluginInstallRecord.id = records.map PluginInstallRecord.id :=
    map_changeRecord same
  have known : record.id ∈ records.map PluginInstallRecord.id := ids ▸ List.mem_map_of_mem member
  obtain ⟨old, held, equal⟩ := List.mem_map.mp known
  rw [← equal]
  exact valid old held

theorem keepsSound_invalidateRecord (id detail : String) (stamp : Stamp) :
    KeepsSound (invalidateRecord id detail stamp) :=
  keepsSound_listInstalled fun _ valid => .lift_bind fun _ _ =>
    keepsSound_saveRegistryAndAudit (valid_changeRecord (fun _ => rfl) valid)

theorem keepsSound_auditRequest (request : Option (AppResult Unit)) (event : PluginAuditEvent) :
    KeepsSound (auditRequest request event) := by
  cases request with
  | none => exact .of_only (.pure ())
  | some kept => exact .lift_bind fun _ _ => keepsSound_appendAudit event

/-- Every operation only saves what is sound. -/
theorem keepsSound_starts {program : Transaction Unit} (starts : Starts packages program) : KeepsSound program := by
  cases starts with
  | importPublisher keyFile stamp =>
    refine Program.Within.discard (.lift_bind fun key _ => keepsSound_listPublishers fun roots valid =>
      .lift_bind fun _ _ => .lift_bind fun _ _ => .bind (.lift_bind fun _ _ => .perform_bind trivial
        fun _ _ _ _ _ => .lift_bind fun audit _ => .of_only (.perform ?_)) fun _ => .of_only (.pure _))
    intro root member
    rcases List.mem_append.mp member with old | new
    · exact valid root (List.mem_of_mem_filter old)
    · obtain rfl := List.mem_singleton.mp new
      exact key.valid
  | register stamp _ =>
    refine Program.Within.discard (.lift_bind fun package _ => (keepsSound_verifyPackage package).bind fun _ =>
      keepsSound_listInstalled fun records valid => .lift_bind fun _ _ => .bind
        (keepsSound_saveRegistryAndAudit fun record member => ?_) fun _ => .of_only (.pure _))
    rcases List.mem_append.mp member with old | new
    · exact valid record (List.mem_of_mem_filter old)
    · obtain rfl := List.mem_singleton.mp new
      exact package.valid
  | disable id stamp =>
    exact .lift_bind fun _ _ => keepsSound_listInstalled fun _ valid => .lift_bind fun _ _ =>
      keepsSound_saveRegistryAndAudit (valid_changeRecord (fun _ => rfl) valid)
  | revokePublisher id stamp =>
    refine .lift_bind fun _ _ => keepsSound_listPublishers fun roots publishers => .lift_bind fun root _ =>
      keepsSound_listInstalled fun records plugins => .perform_bind trivial fun _ _ _ _ _ =>
        .lift_bind fun audit _ => .lift_bind fun _ passed => .of_only (.perform ⟨?_, ?_, ?_⟩)
    · intro record member
      obtain ⟨old, held, rfl⟩ := List.mem_map.mp member
      split
      · exact plugins old held
      · exact plugins old held
    · intro held member
      have ids : (revokeRoot id stamp.updatedAt roots).map PluginPublisherRoot.id =
          roots.map PluginPublisherRoot.id := map_revokeRoot stamp.updatedAt roots
      have known : held.id ∈ roots.map PluginPublisherRoot.id := ids ▸ List.mem_map_of_mem member
      obtain ⟨old, among, equal⟩ := List.mem_map.mp known
      rw [← equal]
      exact publishers old among
    · exact (of_decide_eq_true (of_ensure passed)).2
  | invalidateRecord id detail stamp => exact keepsSound_invalidateRecord id detail stamp
  | enable id permissions stamp _ =>
    refine Program.Within.discard (.lift_bind fun _ _ => keepsSound_listInstalled fun _ _ => .lift_bind fun _ _ =>
      (keepsSound_verifiedRecordPackage _ _).bind fun verified => ?_)
    split
    · exact (keepsSound_invalidateRecord _ _ _).bind fun _ => .of_only (.lift _)
    · exact .lift_bind fun _ _ => .lift_bind fun _ _ => keepsSound_listInstalled fun _ valid =>
        .lift_bind fun _ _ => .bind (keepsSound_saveRegistryAndAudit (valid_changeRecord (fun _ => rfl) valid))
          fun _ => .of_only (.pure _)
  | remove id stamp =>
    exact .lift_bind fun _ _ => keepsSound_listInstalled fun _ valid => .lift_bind fun _ _ =>
      keepsSound_saveRegistryAndAudit fun record member => valid record (List.mem_of_mem_filter member)
  | run id stamp _ =>
    refine .lift_bind fun _ _ => keepsSound_listInstalled fun _ _ => .lift_bind fun _ _ => .lift_bind fun _ _ =>
      (keepsSound_verifiedRecordPackage _ _).bind fun verified => ?_
    split
    · exact (keepsSound_invalidateRecord _ _ _).bind fun _ => .of_only (.lift _)
    · refine .lift_bind fun _ _ => ?_
      split
      · exact (keepsSound_invalidateRecord _ _ _).bind fun _ => .of_only (.lift _)
      · refine .lift_bind fun _ _ => ?_
        split
        · exact (keepsSound_appendAudit _).bind fun _ => .of_only (.lift _)
        · exact (keepsSound_appendAudit _).bind fun _ => (keepsSound_auditRequest _ _).bind fun _ =>
            keepsSound_auditRequest _ _

theorem sound_of_reachable {pool : Pool PluginAct AppError PluginStore} (reached : (system packages).Reachable pool) :
    Sound pool.store := by
  refine Pool.invariant_within SavesSound Sound (fun _ => keepsSound_starts) ?_ ?_ reached
  · rintro store rfl
    exact ⟨by simp [PluginStore.fresh], by simp [PluginStore.fresh], by decide⟩
  · intro store next β action value saves sound ran
    cases action with
    | listInstalled | listPublishers | listAudit =>
      cases ran
      exact sound
    | saveAudit audit =>
      cases ran
      exact ⟨sound.plugins, sound.publishers, sound.fits⟩
    | saveRootsAndAudit basis roots audit =>
      cases ran
      exact ⟨sound.plugins, saves, sound.fits⟩
    | saveRootsRegistryAndAudit basis roots records audit =>
      cases ran
      exact saves
    | saveRegistryAndAudit basis records audit =>
      cases ran
      exact ⟨saves.plugins, sound.publishers, saves.fits⟩

theorem find?_of_existing {store : PluginStore} (sound : Sound store) {id : String}
    (existing : ∃ record ∈ store.registry, record.id = id) :
    validId id = true ∧ ∃ record, store.registry.find? (·.id = id) = some record := by
  obtain ⟨record, member, rfl⟩ := existing
  refine ⟨sound.plugins record member, Option.isSome_iff_exists.mp ?_⟩
  rw [List.find?_isSome]
  exact ⟨record, member, by simp⟩

theorem fits_changeRecord {records : List PluginInstallRecord} {record : PluginInstallRecord} {id : String}
    {change : PluginInstallRecord → PluginInstallRecord} {size : Nat}
    (found : records.find? (·.id = id) = some record)
    (changed : (change record).json.length + record.stateBytes = record.json.length + size) :
    (registryJson (changeRecord id change records)).length ≤ maxStateBytes ↔
      (registryJson records).length + size ≤ maxStateBytes + record.stateBytes := by
  have sizes : (registryJson (changeRecord id change records)).length + record.json.length =
      (registryJson records).length + (change record).json.length := length_registryJson_changeRecord found
  omega

end Invariant

namespace Demo

def record : PluginInstallRecord :=
  (registeredRecord package true none "2025-01-01T00:00:00+00:00").enable ["ui"] "2025-01-01T00:00:00+00:00"

def enabledStore (audit : List PluginAuditEvent) : PluginStore where
  roots := [⟨"acme.notes", "Acme", "ed25519:cHVibGljIGtleQ", "sha256:90ab", true, "2025-01-01T00:00:00+00:00",
    "2025-01-01T00:00:00+00:00"⟩]
  registry := [record]
  audit := audit

def firstEntries : List PluginAuditEvent :=
  [⟨"0", .publisher "acme.notes", .publisherTrusted, "用户明确导入并信任 Ed25519 发布者根", "sha256:90ab",
      "2025-01-01T00:00:00+00:00"⟩,
    ⟨"1", .plugin "acme.notes", .registeredVerified, "插件签名和 WASM 摘要验证通过；仍需用户明确启用", "sha256:5f1d",
      "2025-01-01T00:00:00+00:00"⟩,
    ⟨"2", .plugin "acme.notes", .enabled, "签名与摘要已重新验证，插件已在无 WASI 沙箱中启用", "sha256:5f1d", "2025-01-01T00:00:00+00:00"⟩]

theorem only_package (found : PluginPackage) (same : (Except.ok package : AppResult PluginPackage) = .ok found) :
    only found :=
  (Except.ok.inj same).symm

theorem reachable_enabled : ∃ left, (system only).Reachable ⟨enabledStore firstEntries, left⟩ := by
  have started : (system only).Reachable ⟨.fresh, []⟩ := .start ⟨rfl, rfl⟩
  obtain ⟨left, imported⟩ := Pool.reachable_exec started (.importPublisher (.ok key) (stamp "0"))
  obtain ⟨left, registered⟩ := Pool.reachable_exec imported (.register (stamp "1") only_package)
  obtain ⟨left, enabled⟩ := Pool.reachable_exec registered
    (.enable "acme.notes" ["ui"] (stamp "2") fun _ => only_package)
  have same : ((enable "acme.notes" ["ui"] (fun _ => .ok package) (stamp "2")).discard.exec database
      ((register (.ok package) (stamp "1")).discard.exec database
        ((importPublisher (.ok key) (stamp "0")).discard.exec database .fresh).2).2).2 =
      enabledStore firstEntries := by decide +kernel
  exact ⟨left, same ▸ enabled⟩

def source (n : Nat) : String := String.ofList (List.replicate n 'x')

theorem size_source (n : Nat) : (source n).utf8ByteSize = n := by
  rw [source, utf8ByteSize_ofList, List.length_replicate]
  intro char member
  rw [List.eq_of_mem_replicate member]
  decide

def wasm (n : Nat) (short : n ≤ maxWasmNameBytes) : WasmModule where
  imports := [(source n, "")]
  outcome := .ok (0, 0)
  short := by
    simp only [List.mem_singleton, forall_eq, size_source]
    exact ⟨short, by decide⟩

/-- Everything is in order when the plugin is run, but for its imports. -/
def context (n : Nat) (short : n ≤ maxWasmNameBytes) : RunContext where
  files _ := .ok package
  bytesDigest := .ok package.entrypointDigest
  prepared := .ok ()
  wasm := .ok (wasm n short)
  credentialProxy := none
  terminalInput := none

def refusal (n : Nat) : AppError := .validation ("插件导入了未知宿主能力：" ++ source n ++ "." ++ "")

def refused (n : Nat) : PluginAuditEvent :=
  ⟨"5", .plugin "acme.notes", .runFailed, "WASM 沙箱拒绝或终止运行：" ++ errorText (refusal n), "sha256:5f1d",
    "2025-01-01T00:00:00+00:00"⟩

theorem length_escaped_source (n : Nat) : (Json.escaped (source n)).length = n := by
  have plain : (List.replicate n (0x78 : UInt8)).flatMap Json.escape = List.replicate n 0x78 := by
    have single : Json.escape 0x78 = [0x78] := by decide
    induction n with
    | zero => rfl
    | succ n ih => rw [List.replicate_succ, List.flatMap_cons, ih, single, List.singleton_append]
  rw [Json.escaped, source, @utf8_replicate 'x' 0x78 (by decide), plain, List.length_replicate]

theorem length_refused (n : Nat) : (refused n).json.length = (refused 0).json.length + n := by
  have parts : ∀ first second third name fourth last : String,
      (Json.escaped (first ++ (second ++ (third ++ name ++ fourth ++ last)))).length =
        (Json.escaped first).length + (Json.escaped second).length + (Json.escaped third).length +
          (Json.escaped fourth).length + (Json.escaped last).length + (Json.escaped name).length := by
    intro first second third name fourth last
    simp only [Json.escaped_append, List.length_append]
    omega
  have detail : (Json.escaped (refused n).detail).length = (Json.escaped (refused 0).detail).length + n := by
    have long := parts "WASM 沙箱拒绝或终止运行：" "连接参数无效：" "插件导入了未知宿主能力：" (source n) "." ""
    have none := parts "WASM 沙箱拒绝或终止运行：" "连接参数无效：" "插件导入了未知宿主能力：" (source 0) "." ""
    rw [length_escaped_source] at long none
    exact long.trans (congrArg (· + n) none.symm)
  have rest : ∀ event : PluginAuditEvent, event.json.length = (Json.escaped event.detail).length +
      (PluginAuditEvent.json ⟨event.id, event.subject, event.action, "", event.digest, event.createdAt⟩).length := by
    intro event
    have empty : (Json.escaped "").length = 0 := by decide
    simp only [PluginAuditEvent.json, Json.object, Json.commas, List.map_cons, List.map_nil, List.length_cons,
      List.length_append, List.length_nil, Json.length_string, empty]
    omega
  rw [rest (refused n), rest (refused 0), detail, Nat.add_right_comm]
  rfl

theorem exec_verifiedRecordPackage (audit : List PluginAuditEvent) :
    (verifiedRecordPackage (fun _ => .ok package) record).exec database (enabledStore audit) =
      (.ok ⟨[(enabledStore audit).roots], .ok package⟩, enabledStore audit) := by
  have named : package.manifest.publisher = some "acme.notes" := rfl
  have spaces : namespaced "acme.notes" package.manifest.id = true := by decide
  have matched : package.matching record = true := by decide
  have signed : verifyWith package "acme.notes" (enabledStore audit).roots = .ok () := by
    simp [verifyWith, enabledStore, package]
  have verified : (verifyPackage package).exec database (enabledStore audit) =
      (.ok ⟨[(enabledStore audit).roots], .ok ()⟩, enabledStore audit) := by
    unfold verifyPackage
    simp only [named, spaces, if_true]
    rw [Program.exec_bind, Program.exec_perform, outcome_listPublishers]
    simp [signed]
  unfold verifiedRecordPackage
  simp only
  rw [Program.exec_bind, verified]
  simp [ensure, matched, Bind.bind, Except.bind, pure, Except.pure]

theorem exec_run (n : Nat) (short : n ≤ maxWasmNameBytes) (audit : List PluginAuditEvent)
    (room : AuditRoom (enabledStore audit) (refused n)) :
    ((run "acme.notes" (context n short) (stamp "5")).exec database (enabledStore audit)).2 =
      enabledStore (keptAudit audit ++ [refused n]) := by
  have valid : validId "acme.notes" = true := by decide
  have found : findRecord (enabledStore audit).registry "acme.notes" = .ok record := by
    simp [findRecord, enabledStore, record, registeredRecord, PluginInstallRecord.enable, package]
  have refuses : runWasm record.grantedPermissions (context n short).wasm = .error (refusal n) := by
    have unknown : (if source n = "cnshell_v1" then requiredPermissionForImport "" else none) = none := by
      split <;> decide
    show checkImports record.grantedPermissions [(source n, "")] >>= _ = _
    simp only [checkImports, unknown]
    rfl
  have logged : (appendAudit (refused n)).exec database (enabledStore audit) =
      (.ok (), enabledStore (keptAudit audit ++ [refused n])) := exec_appendAudit room
  have same : (context n short).bytesDigest = .ok package.entrypointDigest := rfl
  unfold run
  rw [Program.exec_bind, Program.exec_lift]
  simp only [ensure, valid, if_true]
  rw [Program.exec_bind, Program.exec_perform, outcome_listInstalled]
  simp only
  rw [Program.exec_bind, Program.exec_lift, found]
  simp only
  rw [Program.exec_bind, Program.exec_lift]
  simp only [show (record.enabled && record.executable) = true from rfl, if_true]
  rw [Program.exec_bind, show (context n short).files = fun _ => .ok package from rfl, exec_verifiedRecordPackage]
  simp only
  rw [Program.exec_bind, Program.exec_lift, same]
  simp only [ne_eq, not_true_eq_false, if_false]
  rw [Program.exec_bind, Program.exec_lift]
  simp only [show (context n short).prepared = .ok () from rfl, refuses]
  show ((appendAudit (refused n) >>= _).exec database _).2 = _
  rw [Program.exec_bind, logged]
  rfl

theorem listed_firstEntries : Json.listed (firstEntries.map PluginAuditEvent.json) = 602 := by decide +kernel

theorem listed_refused (runs : Nat) :
    Json.listed ((firstEntries ++ List.replicate runs (refused 95045)).map PluginAuditEvent.json) =
      602 + runs * 95270 := by
  have alone : (refused 0).json.length = 224 := by decide +kernel
  have listed : Json.listed ((List.replicate runs (refused 95045)).map PluginAuditEvent.json) = runs * 95270 := by
    induction runs with
    | zero => rfl
    | succ runs ih =>
      rw [List.replicate_succ, List.map_cons, Json.listed_cons, ih, length_refused, alone]
      omega
  rw [List.map_append, Json.listed_append, listed_firstEntries, listed]

theorem keptAudit_refused {runs : Nat} (few : runs ≤ 11) :
    keptAudit (firstEntries ++ List.replicate runs (refused 95045)) =
      firstEntries ++ List.replicate runs (refused 95045) := by
  have entries : (firstEntries ++ List.replicate runs (refused 95045)).length = 3 + runs := by
    rw [List.length_append, List.length_replicate]
    rfl
  have none : 3 + runs + 1 - maxAuditEvents = 0 := by
    unfold maxAuditEvents
    omega
  rw [keptAudit, entries, none, List.drop_zero]

theorem reachable_refused (runs : Nat) (few : runs ≤ 11) :
    ∃ left, (system only).Reachable ⟨enabledStore (firstEntries ++ List.replicate runs (refused 95045)), left⟩ := by
  have short : 95045 ≤ maxWasmNameBytes := by decide
  induction runs with
  | zero => simpa using reachable_enabled
  | succ runs ih =>
    obtain ⟨left, reached⟩ := ih (by omega)
    have kept := @keptAudit_refused runs (by omega)
    have room : AuditRoom (enabledStore (firstEntries ++ List.replicate runs (refused 95045))) (refused 95045) := by
      have alone : (refused 0).json.length = 224 := by decide +kernel
      show Json.listed ((keptAudit (firstEntries ++ List.replicate runs (refused 95045))).map _) + _ + 2 ≤ _
      rw [kept, listed_refused, length_refused, alone]
      unfold maxStateBytes
      omega
    obtain ⟨left', next⟩ := Pool.reachable_exec reached
      (@Starts.run _ "acme.notes" (context 95045 short) (stamp "5") fun _ => only_package)
    rw [exec_run 95045 short _ room, kept, List.append_assoc, ← List.replicate_succ'] at next
    exact ⟨left', next⟩

theorem find?_enabledStore (audit : List PluginAuditEvent) :
    (enabledStore audit).registry.find? (·.id = "acme.notes") = some record := by
  simp [enabledStore, record, registeredRecord, PluginInstallRecord.enable, package]

theorem not_succeeds_disable {audit : List PluginAuditEvent}
    (full : maxStateBytes < Json.listed ((keptAudit audit).map PluginAuditEvent.json) + 171 + 2) :
    ¬Succeeds (disable "acme.notes" (stamp "6")) (enabledStore audit) := by
  have valid : validId "acme.notes" = true := by decide
  have entry : (PluginAuditEvent.json ⟨"6", .plugin "acme.notes", .disabled, "插件已禁用，运行权限立即失效",
      "sha256:5f1d", "2025-01-01T00:00:00+00:00"⟩).length = 171 := by decide +kernel
  rw [disable, succeeds_ensure valid, succeeds_findRecord (find?_enabledStore audit), succeeds_saveRegistryAndAudit]
  rintro ⟨room, -⟩
  have size : Json.listed ((keptAudit audit).map PluginAuditEvent.json) + 171 + 2 ≤ maxStateBytes := entry ▸ room
  omega

end Demo

end Plugin

end CNShell
