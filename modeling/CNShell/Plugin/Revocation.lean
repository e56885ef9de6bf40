import CNShell.Library.Log
import CNShell.Plugin.Operations

/-! What the decisions about plugins and publishers come to while operations overlap. -/

namespace CNShell

namespace Plugin

open Client (AppError AppResult)

/-- The entry that an action adds to the log. -/
def PluginAct.added? : PluginAct β → Option PluginAuditEvent
  | .saveRootsAndAudit _ _ audit | .saveRootsRegistryAndAudit _ _ _ audit | .saveRegistryAndAudit _ _ audit
  | .saveAudit audit => audit.getLast?
  | .listInstalled | .listPublishers | .listAudit => none

/-- What an operation that saves had loaded. -/
def PluginAct.basis : PluginAct β → Basis
  | .saveRootsAndAudit basis _ _ | .saveRootsRegistryAndAudit basis _ _ _ | .saveRegistryAndAudit basis _ _ => basis
  | .saveAudit _ | .listInstalled | .listPublishers | .listAudit => ⟨[], []⟩

abbrev Performed := PluginStore × Event PluginAct AppError

/-- An operation logged one of some actions on a plugin or a publisher. -/
def Logged (subject : AuditSubject) (actions : AuditAction → Bool) (entry : Performed) : Prop :=
  ∃ event, entry.2.action.added? = some event ∧ event.subject = subject ∧ actions event.action = true

instance (subject : AuditSubject) (actions : AuditAction → Bool) (entry : Performed) :
    Decidable (Logged subject actions entry) :=
  match added : entry.2.action.added? with
  | none => isFalse fun ⟨event, present, _⟩ => by simp [added] at present
  | some event => decidable_of_iff (event.subject = subject ∧ actions event.action = true) (by simp [Logged, added])

/-- What was decided about publishers and plugins stands. -/
structure Final (log : List Performed) (store : PluginStore) : Prop where
  /-- No plugin of a publisher that was revoked, and not imported again, is enabled or executable. -/
  revoked : ∀ publisherId, Log.Since (Logged (.publisher publisherId) (· = .publisherRevoked))
      (Logged (.publisher publisherId) (· = .publisherTrusted)) log →
    ∀ record ∈ store.registry, record.publisherId = some publisherId →
      record.enabled = false ∧ record.executable = false
  /-- No plugin that was disabled, and not enabled again, is enabled. -/
  disabled : ∀ id, Log.Since (Logged (.plugin id) (· = .disabled)) (Logged (.plugin id) (· = .enabled)) log →
    ∀ record ∈ store.registry, record.id = id → record.enabled = false
  /-- Every plugin that was registered, and not removed, has a record. -/
  registered : ∀ id, Log.Since (Logged (.plugin id) AuditAction.registers) (Logged (.plugin id) (· = .removed)) log →
    ∃ record ∈ store.registry, record.id = id

/-- An operation saves while all it has loaded is what the store holds. -/
def Current (store : PluginStore) (event : Event PluginAct AppError) : Prop :=
  (∀ registry ∈ event.action.basis.registries, registry = store.registry) ∧
    ∀ roots ∈ event.action.basis.roots, roots = store.roots

instance (store : PluginStore) (event : Event PluginAct AppError) : Decidable (Current store event) :=
  inferInstanceAs (Decidable (_ ∧ _))

def TrustedBy (roots : List PluginPublisherRoot) (publisherId : Option String) : Prop :=
  ∃ root ∈ roots, some root.id = publisherId ∧ root.enabled = true

def PluginInstallRecord.MadeFrom (package : PluginPackage) (record : PluginInstallRecord) : Prop :=
  record.id = package.manifest.id ∧ record.publisherId = package.manifest.publisher ∧
    record.digest = package.manifestDigest

/-- What the operations save, and what they log with it. -/
inductive Lawful (packages : PluginPackage → Prop) : (β : Type) → PluginAct β → Prop
  | listInstalled : Lawful packages _ .listInstalled
  | listPublishers : Lawful packages _ .listPublishers
  | listAudit : Lawful packages _ .listAudit
  | logged {audit : List PluginAuditEvent} {event : PluginAuditEvent} {id : String}
      (last : audit.getLast? = some event) (subject : event.subject = .plugin id)
      (idle : event.action.registers = false ∧ event.action ≠ .disabled ∧ event.action ≠ .enabled) :
      Lawful packages _ (.saveAudit audit)
  | imported {roots : List PluginPublisherRoot} {root : PluginPublisherRoot}
      {audit : List PluginAuditEvent} {event : PluginAuditEvent} (last : audit.getLast? = some event)
      (subject : event.subject = .publisher root.id) (action : event.action = .publisherTrusted) :
      Lawful packages _ (.saveRootsAndAudit ⟨[], [roots]⟩ (roots.filter (·.id ≠ root.id) ++ [root]) audit)
  | revoked {roots : List PluginPublisherRoot} {records : List PluginInstallRecord} {id now : String}
      {audit : List PluginAuditEvent} {event : PluginAuditEvent} (last : audit.getLast? = some event)
      (subject : event.subject = .publisher id) (action : event.action = .publisherRevoked) :
      Lawful packages _ (.saveRootsRegistryAndAudit ⟨[records], [roots]⟩ (revokeRoot id now roots)
        (revokeRecords id now records) audit)
  | registered {records : List PluginInstallRecord} {record : PluginInstallRecord} {package : PluginPackage}
      {roots : List (List PluginPublisherRoot)} {audit : List PluginAuditEvent} {event : PluginAuditEvent}
      (last : audit.getLast? = some event) (subject : event.subject = .plugin record.id)
      (action : event.action.registers = true) (read : packages package) (made : record.MadeFrom package)
      (idle : record.enabled = false)
      (verified : record.executable = true → ∃ loaded ∈ roots, TrustedBy loaded record.publisherId) :
      Lawful packages _ (.saveRegistryAndAudit ⟨[records], roots⟩ (records.filter (·.id ≠ record.id) ++ [record]) audit)
  | disabled {records : List PluginInstallRecord} {id now : String} {audit : List PluginAuditEvent}
      {event : PluginAuditEvent} (last : audit.getLast? = some event) (subject : event.subject = .plugin id)
      (action : event.action = .disabled) :
      Lawful packages _ (.saveRegistryAndAudit ⟨[records], []⟩ (changeRecord id (·.disable now) records) audit)
  | invalidated {records : List PluginInstallRecord} {id now : String} {audit : List PluginAuditEvent}
      {event : PluginAuditEvent} (last : audit.getLast? = some event) (subject : event.subject = .plugin id)
      (action : event.action = .invalidated) :
      Lawful packages _ (.saveRegistryAndAudit ⟨[records], []⟩ (changeRecord id (·.invalidate now) records) audit)
  | enabled {installed records : List PluginInstallRecord} {roots : List (List PluginPublisherRoot)}
      {current : PluginInstallRecord} {package : PluginPackage} {id now : String} {permissions : List String}
      {audit : List PluginAuditEvent} {event : PluginAuditEvent} (last : audit.getLast? = some event)
      (subject : event.subject = .plugin id) (action : event.action = .enabled)
      (found : findRecord installed id = .ok current) (read : packages package)
      (matched : package.matching current = true)
      (verified : ∃ loaded ∈ roots, TrustedBy loaded package.manifest.publisher) :
      Lawful packages _ (.saveRegistryAndAudit ⟨[installed, records], roots⟩
        (changeRecord id (·.enable permissions now) records) audit)
  | removed {records : List PluginInstallRecord} {id : String} {audit : List PluginAuditEvent}
      {event : PluginAuditEvent} (last : audit.getLast? = some event) (subject : event.subject = .plugin id)
      (action : event.action = .removed) :
      Lawful packages _ (.saveRegistryAndAudit ⟨[records], []⟩ (records.filter (·.id ≠ id)) audit)

section Programs

variable {packages : PluginPackage → Prop}

theorem getLast?_boundedAudit {events audit : List PluginAuditEvent} {event : PluginAuditEvent}
    (bounded : boundedAudit events event = .ok audit) : audit.getLast? = some event := by
  unfold boundedAudit at bounded
  cases fits : ensure (decide ((auditJson (keptAudit events ++ [event])).length ≤ maxStateBytes))
      (.validation "插件审计记录超过 1 MB") with
  | error error => simp [fits, Bind.bind, Except.bind] at bounded
  | ok value =>
    simp only [fits, Bind.bind, Except.bind, pure, Except.pure, Except.ok.injEq] at bounded
    simp [← bounded]

theorem only_saveRegistryAndAudit {basis : Basis} {records : List PluginInstallRecord} {event : PluginAuditEvent}
    (lawful : ∀ audit, audit.getLast? = some event → Lawful packages _ (.saveRegistryAndAudit basis records audit)) :
    Program.Only (Lawful packages) (saveRegistryAndAudit basis records event) := by
  refine .perform_bind .listAudit fun events => .lift_bind fun audit bounded => .lift_bind fun _ _ => ?_
  exact .perform (lawful audit (getLast?_boundedAudit bounded))

theorem only_appendAudit {event : PluginAuditEvent} {id : String} (subject : event.subject = .plugin id)
    (idle : event.action.registers = false ∧ event.action ≠ .disabled ∧ event.action ≠ .enabled) :
    Program.Only (Lawful packages) (appendAudit event) := by
  refine .perform_bind .listAudit fun events => .lift_bind fun audit bounded => ?_
  exact .perform (.logged (getLast?_boundedAudit bounded) subject idle)

theorem verifyWith_ok {package : PluginPackage} {publisherId : String} {roots : List PluginPublisherRoot}
    (verified : verifyWith package publisherId roots = .ok ()) : TrustedBy roots (some publisherId) := by
  unfold verifyWith at verified
  split at verified
  · next root found =>
    have chosen := List.find?_some found
    simp only [Bool.and_eq_true, decide_eq_true_eq] at chosen
    exact ⟨root, List.mem_of_find?_eq_some found, by rw [chosen.1], chosen.2⟩
  · cases verified

theorem only_verifyPackage {package : PluginPackage} {following : Verification → Transaction α}
    (rest : ∀ verification : Verification, (verification.result = .ok () →
      ∃ loaded ∈ verification.roots, TrustedBy loaded package.manifest.publisher) →
        Program.Only (Lawful packages) (following verification)) :
    Program.Only (Lawful packages) (verifyPackage package >>= following) := by
  unfold verifyPackage
  split
  · exact rest _ fun verified => by cases verified
  · next publisherId named =>
    split
    · refine .step .listPublishers fun outcome => ?_
      cases outcome with
      | error error => exact .done _
      | ok roots =>
        refine rest ⟨[roots], verifyWith package publisherId roots⟩ fun verified => ?_
        exact ⟨roots, List.mem_singleton.mpr rfl, named ▸ verifyWith_ok verified⟩
    · exact rest _ fun verified => by cases verified

theorem only_verifiedRecordPackage {files : String → AppResult PluginPackage} {record : PluginInstallRecord}
    {following : VerifiedRecord → Transaction α} (read : ∀ path package, files path = .ok package → packages package)
    (rest : ∀ verified : VerifiedRecord, (∀ package, verified.result = .ok package → packages package ∧
      package.matching record = true ∧ ∃ loaded ∈ verified.roots, TrustedBy loaded package.manifest.publisher) →
        Program.Only (Lawful packages) (following verified)) :
    Program.Only (Lawful packages) (verifiedRecordPackage files record >>= following) := by
  unfold verifiedRecordPackage
  split
  · exact rest _ fun package verified => by cases verified
  · next package found =>
    rw [Program.bind_assoc]
    refine only_verifyPackage fun verification trusted => rest _ fun other verified => ?_
    simp only [Bind.bind, Except.bind, pure, Except.pure] at verified
    cases signed : verification.result with
    | error error => simp [signed] at verified
    | ok value =>
      simp only [signed, ensure] at verified
      by_cases matched : package.matching record = true
      · simp only [matched, if_true, Except.ok.injEq] at verified
        subst verified
        exact ⟨read _ _ found, matched, trusted signed⟩
      · simp [matched] at verified

theorem only_importPublisher (keyFile : AppResult PublisherKey) (stamp : Stamp) :
    Program.Only (Lawful packages) (importPublisher keyFile stamp) := by
  refine .lift_bind fun key _ => .perform_bind .listPublishers fun roots => .lift_bind fun _ _ =>
    .lift_bind fun _ _ => .bind ?_ fun _ => .pure _
  refine .lift_bind fun _ _ => .perform_bind .listAudit fun events => .lift_bind fun audit bounded => ?_
  exact .perform (.imported (getLast?_boundedAudit bounded) rfl rfl)

theorem registers_registeredAs (previous : Option PluginInstallRecord) (record : PluginInstallRecord) :
    (registeredAs previous record).registers = true := by
  unfold registeredAs
  repeat' split
  all_goals rfl

theorem only_register {files : AppResult PluginPackage} (stamp : Stamp)
    (read : ∀ package, files = .ok package → packages package) :
    Program.Only (Lawful packages) (register files stamp) := by
  refine .lift_bind fun package found => only_verifyPackage fun verification trusted =>
    .perform_bind .listInstalled fun records => .lift_bind fun _ _ => .bind ?_ fun _ => .pure _
  refine only_saveRegistryAndAudit fun audit last => .registered last rfl (registers_registeredAs _ _)
    (read package found) ⟨rfl, rfl, rfl⟩ rfl fun executable => ?_
  have signed : verification.result.isOk = true := executable
  cases result : verification.result with
  | error error => simp [result, Except.isOk, Except.toBool] at signed
  | ok value => exact trusted result

theorem only_disable (id : String) (stamp : Stamp) : Program.Only (Lawful packages) (disable id stamp) := by
  refine .lift_bind fun _ _ => .perform_bind .listInstalled fun records => .lift_bind fun record _ => ?_
  exact only_saveRegistryAndAudit fun audit last => .disabled last rfl rfl

theorem only_revokePublisher (id : String) (stamp : Stamp) :
    Program.Only (Lawful packages) (revokePublisher id stamp) := by
  refine .lift_bind fun _ _ => .perform_bind .listPublishers fun roots => .lift_bind fun root _ =>
    .perform_bind .listInstalled fun records => ?_
  refine .perform_bind .listAudit fun events => .lift_bind fun audit bounded => .lift_bind fun _ _ => ?_
  exact .perform (.revoked (getLast?_boundedAudit bounded) rfl rfl)

theorem only_invalidateRecord (id detail : String) (stamp : Stamp) :
    Program.Only (Lawful packages) (invalidateRecord id detail stamp) := by
  refine .perform_bind .listInstalled fun records => .lift_bind fun record _ => ?_
  exact only_saveRegistryAndAudit fun audit last => .invalidated last rfl rfl

theorem only_enable (id : String) (permissions : List String) {files : String → AppResult PluginPackage}
    (stamp : Stamp) (read : ∀ path package, files path = .ok package → packages package) :
    Program.Only (Lawful packages) (enable id permissions files stamp) := by
  refine .lift_bind fun _ _ => .perform_bind .listInstalled fun installed => .lift_bind fun current found =>
    only_verifiedRecordPackage read fun verified known => ?_
  split
  · exact .bind (only_invalidateRecord id _ stamp) fun _ => .lift _
  · next package result =>
    obtain ⟨among, matched, trusted⟩ := known package result
    refine .lift_bind fun _ _ => .lift_bind fun _ _ => .perform_bind .listInstalled fun records =>
      .lift_bind fun record _ => .bind ?_ fun _ => .pure _
    exact only_saveRegistryAndAudit fun audit last => .enabled last rfl rfl found among matched trusted

theorem only_remove (id : String) (stamp : Stamp) : Program.Only (Lawful packages) (remove id stamp) := by
  refine .lift_bind fun _ _ => .perform_bind .listInstalled fun records => .lift_bind fun record _ => ?_
  exact only_saveRegistryAndAudit fun audit last => .removed last rfl rfl

theorem only_auditRequest {event : PluginAuditEvent} {id : String} (request : Option (AppResult Unit))
    (subject : event.subject = .plugin id)
    (idle : event.action.registers = false ∧ event.action ≠ .disabled ∧ event.action ≠ .enabled) :
    Program.Only (Lawful packages) (auditRequest request event) := by
  cases request with
  | none => exact .pure ()
  | some kept => exact .lift_bind fun _ _ => only_appendAudit subject idle

theorem only_run (id : String) {context : RunContext} (stamp : Stamp)
    (read : ∀ path package, context.files path = .ok package → packages package) :
    Program.Only (Lawful packages) (run id context stamp) := by
  have idle : ∀ {action : AuditAction}, action ∈ [AuditAction.runCompleted, .runFailed, .credentialProxyRequested,
      .terminalInputRequested] → action.registers = false ∧ action ≠ .disabled ∧ action ≠ .enabled := by
    intro action member
    cases action <;> simp_all [AuditAction.registers]
  refine .lift_bind fun _ _ => .perform_bind .listInstalled fun installed => .lift_bind fun record _ =>
    .lift_bind fun _ _ => only_verifiedRecordPackage read fun verified _ => ?_
  split
  · exact .bind (only_invalidateRecord id _ stamp) fun _ => .lift _
  · refine .lift_bind fun digest _ => ?_
    split
    · exact .bind (only_invalidateRecord id _ stamp) fun _ => .lift _
    · refine .lift_bind fun _ _ => ?_
      split
      · exact .bind (only_appendAudit rfl (idle (by simp))) fun _ => .lift _
      · exact .bind (only_appendAudit rfl (idle (by simp))) fun _ =>
          .bind (only_auditRequest _ rfl (idle (by simp))) fun _ => only_auditRequest _ rfl (idle (by simp))

theorem only_starts {program : Transaction Unit} (starts : Starts packages program) :
    Program.Only (Lawful packages) program := by
  cases starts with
  | importPublisher keyFile stamp => exact (only_importPublisher keyFile stamp).discard
  | register stamp read => exact (only_register stamp read).discard
  | disable id stamp => exact only_disable id stamp
  | revokePublisher id stamp => exact only_revokePublisher id stamp
  | invalidateRecord id detail stamp => exact only_invalidateRecord id detail stamp
  | enable id permissions stamp read => exact (only_enable id permissions stamp read).discard
  | remove id stamp => exact only_remove id stamp
  | run id stamp read => exact only_run id stamp read

end Programs

section Records

variable {records : List PluginInstallRecord} {change : PluginInstallRecord → PluginInstallRecord} {id : String}

theorem map_changeRecord {looks : PluginInstallRecord → β} (same : ∀ record, looks (change record) = looks record) :
    (changeRecord id change records).map looks = records.map looks := by
  induction records with
  | nil => rfl
  | cons record records ih =>
    unfold changeRecord
    split
    · rw [List.map_cons, List.map_cons, same]
    · rw [List.map_cons, List.map_cons, ih]

theorem mem_changeRecord (distinct : (records.map PluginInstallRecord.id).Nodup) {record : PluginInstallRecord}
    (member : record ∈ changeRecord id change records) :
    (record ∈ records ∧ record.id ≠ id) ∨ ∃ old ∈ records, old.id = id ∧ record = change old := by
  induction records with
  | nil => cases member
  | cons first rest ih =>
    rw [List.map_cons, List.nodup_cons] at distinct
    unfold changeRecord at member
    split at member
    · next same =>
      rcases List.mem_cons.mp member with rfl | old
      · exact .inr ⟨first, List.mem_cons_self, same, rfl⟩
      · -- No second record has the id of the first one.
        refine .inl ⟨List.mem_cons_of_mem _ old, fun equal => distinct.1 ?_⟩
        rw [same, ← equal]
        exact List.mem_map_of_mem old
    · next apart =>
      rcases List.mem_cons.mp member with rfl | old
      · exact .inl ⟨List.mem_cons_self, apart⟩
      · rcases ih distinct.2 old with ⟨kept, other⟩ | ⟨was, held, same, changed⟩
        · exact .inl ⟨List.mem_cons_of_mem _ kept, other⟩
        · exact .inr ⟨was, List.mem_cons_of_mem _ held, same, changed⟩

theorem map_revokeRoot (now : String) (roots : List PluginPublisherRoot) :
    (revokeRoot id now roots).map PluginPublisherRoot.id = roots.map PluginPublisherRoot.id := by
  induction roots with
  | nil => rfl
  | cons root roots ih =>
    unfold revokeRoot
    split
    · rfl
    · rw [List.map_cons, List.map_cons, ih]

theorem mem_revokeRoot {now : String} {roots : List PluginPublisherRoot}
    (distinct : (roots.map PluginPublisherRoot.id).Nodup) {root : PluginPublisherRoot}
    (member : root ∈ revokeRoot id now roots) (enabled : root.enabled = true) : root ∈ roots ∧ root.id ≠ id := by
  induction roots with
  | nil => cases member
  | cons first rest ih =>
    rw [List.map_cons, List.nodup_cons] at distinct
    unfold revokeRoot at member
    split at member
    · next same =>
      rcases List.mem_cons.mp member with rfl | old
      · cases enabled
      · refine ⟨List.mem_cons_of_mem _ old, fun equal => distinct.1 ?_⟩
        rw [same, ← equal]
        exact List.mem_map_of_mem old
    · next apart =>
      rcases List.mem_cons.mp member with rfl | old
      · exact ⟨List.mem_cons_self, apart⟩
      · obtain ⟨kept, other⟩ := ih distinct.2 old
        exact ⟨List.mem_cons_of_mem _ kept, other⟩

theorem nodup_replace {α : Type} {key : α → String} {values : List α} (value : α)
    (distinct : (values.map key).Nodup) :
    ((values.filter (fun held => key held ≠ key value) ++ [value]).map key).Nodup := by
  rw [List.map_append, List.map_singleton, List.nodup_append]
  refine ⟨distinct.sublist (List.filter_sublist.map key), List.nodup_singleton _, ?_⟩
  intro held member last same
  obtain ⟨old, among, rfl⟩ := List.mem_map.mp member
  obtain rfl := List.mem_singleton.mp same
  simpa using (List.mem_filter.mp among).2

end Records

/-- What holds along a run whose operations save over what they have loaded. -/
structure Tracked (packages : PluginPackage → Prop) (log : List Performed) (store : PluginStore) : Prop where
  records : (store.registry.map PluginInstallRecord.id).Nodup
  roots : (store.roots.map PluginPublisherRoot.id).Nodup
  origin : ∀ record ∈ store.registry, ∃ package, packages package ∧ record.MadeFrom package
  untrusted : ∀ publisherId, Log.Since (Logged (.publisher publisherId) (· = .publisherRevoked))
      (Logged (.publisher publisherId) (· = .publisherTrusted)) log → ¬TrustedBy store.roots (some publisherId)
  final : Final log store

section Steps

variable {packages : PluginPackage → Prop} {log : List Performed} {store next : PluginStore}
variable {event : PluginAuditEvent} {entry : Performed}

theorem logged_iff (added : entry.2.action.added? = some event) (subject : AuditSubject)
    (actions : AuditAction → Bool) :
    Logged subject actions entry ↔ event.subject = subject ∧ actions event.action = true := by
  simp [Logged, added]

variable {subject : AuditSubject}

theorem since_other {starts stops : AuditAction → Bool}
    (added : entry.2.action.added? = some event) (other : event.subject ≠ subject)
    (since : Log.Since (Logged subject starts) (Logged subject stops) (log ++ [entry])) :
    Log.Since (Logged subject starts) (Logged subject stops) log := by
  rcases Log.since_snoc.mp since with starts | ⟨since, -⟩
  · exact absurd ((logged_iff added _ _).mp starts).1 other
  · exact since

theorem since_silent {starts stops : AuditAction → Bool} (silent : entry.2.action.added? = none)
    (since : Log.Since (Logged subject starts) (Logged subject stops) (log ++ [entry])) :
    Log.Since (Logged subject starts) (Logged subject stops) log := by
  rcases Log.since_snoc.mp since with ⟨event, added, -⟩ | ⟨since, -⟩
  · rw [silent] at added
    cases added
  · exact since

theorem Tracked.plugin (tracked : Tracked packages log store) {id : String}
    (added : entry.2.action.added? = some event) (subject : event.subject = .plugin id)
    (roots : next.roots = store.roots) (distinct : (next.registry.map PluginInstallRecord.id).Nodup)
    (origin : ∀ record ∈ next.registry, ∃ package, packages package ∧ record.MadeFrom package)
    (accounted : ∀ record ∈ next.registry,
      (∃ old ∈ store.registry, old.id = record.id ∧ old.publisherId = record.publisherId ∧
        (record.enabled = true → old.enabled = true) ∧ (record.executable = true → old.executable = true)) ∨
      (record.enabled = false ∧ (record.executable = true → TrustedBy store.roots record.publisherId)) ∨
      (event.action = .enabled ∧ record.id = id ∧ TrustedBy store.roots record.publisherId))
    (ids : ∀ old ∈ store.registry, (∃ record ∈ next.registry, record.id = old.id) ∨
      (event.action = .removed ∧ old.id = id))
    (disabled : event.action = .disabled → ∀ record ∈ next.registry, record.id = id → record.enabled = false)
    (registered : event.action.registers = true → ∃ record ∈ next.registry, record.id = id) :
    Tracked packages (log ++ [entry]) next := by
  have other : ∀ publisherId, event.subject ≠ .publisher publisherId := by simp [subject]
  refine ⟨distinct, roots ▸ tracked.roots, origin, fun publisherId since => ?_, ⟨fun publisherId since record member
    named => ?_, fun wanted since record member named => ?_, fun wanted since => ?_⟩⟩
  · rw [roots]
    exact tracked.untrusted publisherId (since_other added (other _) since)
  · have before := since_other added (other _) since
    have untrusted := tracked.untrusted publisherId before
    rcases accounted record member with ⟨old, held, -, same, enabled, executable⟩ | ⟨idle, executable⟩ |
      ⟨-, -, trusted⟩
    · obtain ⟨off, blocked⟩ := tracked.final.revoked publisherId before old held (same.trans named)
      exact ⟨Bool.eq_false_iff.mpr fun on => by simp [enabled on] at off,
        Bool.eq_false_iff.mpr fun on => by simp [executable on] at blocked⟩
    · exact ⟨idle, Bool.eq_false_iff.mpr fun on => untrusted (named ▸ executable on)⟩
    · exact absurd (named ▸ trusted) untrusted
  · rcases Log.since_snoc.mp since with starts | ⟨before, goes⟩
    · obtain ⟨same, acts⟩ := (logged_iff added _ _).mp starts
      obtain rfl : id = wanted := by simpa [subject] using same
      exact disabled (by simpa using acts) record member named
    · rcases accounted record member with ⟨old, held, same, -, enabled, -⟩ | ⟨idle, -⟩ | ⟨acts, same, -⟩
      · have off := tracked.final.disabled wanted before old held (same.trans named)
        exact Bool.eq_false_iff.mpr fun on => by simp [enabled on] at off
      · exact idle
      · exact absurd ((logged_iff added _ _).mpr ⟨by rw [subject, ← same, named], by simp [acts]⟩) goes
  · rcases Log.since_snoc.mp since with starts | ⟨before, goes⟩
    · obtain ⟨same, acts⟩ := (logged_iff added _ _).mp starts
      obtain rfl : id = wanted := by simpa [subject] using same
      exact registered acts
    · obtain ⟨old, held, rfl⟩ := tracked.final.registered wanted before
      rcases ids old held with kept | ⟨acts, same⟩
      · exact kept
      · exact absurd ((logged_iff added _ _).mpr ⟨by rw [subject, same], by simp [acts]⟩) goes

theorem Tracked.change (tracked : Tracked packages log store) {id : String}
    {change : PluginInstallRecord → PluginInstallRecord} (added : entry.2.action.added? = some event)
    (subject : event.subject = .plugin id) (roots : next.roots = store.roots)
    (registry : next.registry = changeRecord id change store.registry)
    (keeps : ∀ record : PluginInstallRecord, (change record).id = record.id ∧
      (change record).publisherId = record.publisherId ∧ (change record).digest = record.digest)
    (lowers : ∀ record : PluginInstallRecord, (change record).enabled = false ∧
      ((change record).executable = true → record.executable = true))
    (registers : event.action.registers = false) : Tracked packages (log ++ [entry]) next := by
  have ids : next.registry.map PluginInstallRecord.id = store.registry.map PluginInstallRecord.id := by
    rw [registry, map_changeRecord fun record => (keeps record).1]
  have origin : ∀ record ∈ next.registry, (record ∈ store.registry ∧ record.id ≠ id) ∨
      ∃ old ∈ store.registry, old.id = id ∧ record = change old :=
    fun record member => mem_changeRecord tracked.records (registry ▸ member)
  refine tracked.plugin added subject roots (ids ▸ tracked.records) (fun record member => ?_)
    (fun record member => ?_) (fun old held => ?_) (fun _ record member named => ?_) (by simp [registers])
  · rcases origin record member with ⟨old, -⟩ | ⟨old, held, -, rfl⟩
    · exact tracked.origin record old
    · obtain ⟨package, read, made⟩ := tracked.origin old held
      obtain ⟨same, publisher, digest⟩ := keeps old
      exact ⟨package, read, same.trans made.1, publisher.trans made.2.1, digest.trans made.2.2⟩
  · rcases origin record member with ⟨old, -⟩ | ⟨old, held, -, rfl⟩
    · exact .inl ⟨record, old, rfl, rfl, fun on => on, fun on => on⟩
    · refine .inl ⟨old, held, (keeps old).1.symm, (keeps old).2.1.symm, fun on => ?_, (lowers old).2⟩
      rw [(lowers old).1] at on
      cases on
  · have known : old.id ∈ next.registry.map PluginInstallRecord.id := ids ▸ List.mem_map_of_mem held
    obtain ⟨record, member, same⟩ := List.mem_map.mp known
    exact .inl ⟨record, member, same⟩
  · rcases origin record member with ⟨-, apart⟩ | ⟨old, -, -, rfl⟩
    · exact absurd named apart
    · exact (lowers old).1

theorem Tracked.silent (tracked : Tracked packages log store) (silent : entry.2.action.added? = none) :
    Tracked packages (log ++ [entry]) store :=
  ⟨tracked.records, tracked.roots, tracked.origin, fun id since => tracked.untrusted id (since_silent silent since),
    fun id since => tracked.final.revoked id (since_silent silent since),
    fun id since => tracked.final.disabled id (since_silent silent since),
    fun id since => tracked.final.registered id (since_silent silent since)⟩

theorem Tracked.imported (tracked : Tracked packages log store) {root : PluginPublisherRoot}
    (added : entry.2.action.added? = some event) (subject : event.subject = .publisher root.id)
    (action : event.action = .publisherTrusted) (registry : next.registry = store.registry)
    (roots : next.roots = store.roots.filter (·.id ≠ root.id) ++ [root]) :
    Tracked packages (log ++ [entry]) next := by
  have other : ∀ id, event.subject ≠ .plugin id := by simp [subject]
  have earlier : ∀ publisherId, Log.Since (Logged (.publisher publisherId) (· = .publisherRevoked))
      (Logged (.publisher publisherId) (· = .publisherTrusted)) (log ++ [entry]) → root.id ≠ publisherId ∧
        Log.Since (Logged (.publisher publisherId) (· = .publisherRevoked))
          (Logged (.publisher publisherId) (· = .publisherTrusted)) log := by
    intro publisherId since
    rcases Log.since_snoc.mp since with starts | ⟨before, goes⟩
    · have revokes := ((logged_iff added _ _).mp starts).2
      simp [action] at revokes
    · exact ⟨fun same => goes ((logged_iff added _ _).mpr ⟨by rw [subject, same], by simp [action]⟩), before⟩
  refine ⟨registry ▸ tracked.records, ?_, registry ▸ tracked.origin, fun publisherId since => ?_,
    fun publisherId since => ?_, fun id since => ?_, fun id since => ?_⟩
  · rw [roots]
    exact nodup_replace root tracked.roots
  · obtain ⟨apart, before⟩ := earlier publisherId since
    rintro ⟨held, member, same, enabled⟩
    rw [roots] at member
    rcases List.mem_append.mp member with old | new
    · exact tracked.untrusted publisherId before ⟨held, List.mem_of_mem_filter old, same, enabled⟩
    · obtain rfl := List.mem_singleton.mp new
      exact apart (Option.some.inj same)
  · rw [registry]
    exact tracked.final.revoked publisherId (earlier publisherId since).2
  · rw [registry]
    exact tracked.final.disabled id (since_other added (other id) since)
  · rw [registry]
    exact tracked.final.registered id (since_other added (other id) since)

/-- A revocation blocks all plugins of its publisher and leaves the others. -/
theorem Tracked.revoked (tracked : Tracked packages log store) {id now : String}
    (added : entry.2.action.added? = some event) (subject : event.subject = .publisher id)
    (registry : next.registry = revokeRecords id now store.registry)
    (roots : next.roots = revokeRoot id now store.roots) : Tracked packages (log ++ [entry]) next := by
  have other : ∀ plugin, event.subject ≠ .plugin plugin := by simp [subject]
  have origin : ∀ record ∈ next.registry, ∃ old ∈ store.registry, old.id = record.id ∧
      old.publisherId = record.publisherId ∧ old.digest = record.digest ∧
        (record.enabled = true → old.enabled = true) ∧ (record.executable = true → old.executable = true) ∧
          (old.publisherId = some id → record.enabled = false ∧ record.executable = false) := by
    intro record member
    rw [registry] at member
    obtain ⟨old, held, rfl⟩ := List.mem_map.mp member
    refine ⟨old, held, ?_⟩
    split
    · simp [PluginInstallRecord.revoke]
    · next apart => simp [apart]
  have ids : next.registry.map PluginInstallRecord.id = store.registry.map PluginInstallRecord.id := by
    rw [registry, revokeRecords, List.map_map]
    refine List.map_congr_left fun record _ => ?_
    show (if _ then _ else _ : PluginInstallRecord).id = _
    split <;> rfl
  have earlier : ∀ publisherId, Log.Since (Logged (.publisher publisherId) (· = .publisherRevoked))
      (Logged (.publisher publisherId) (· = .publisherTrusted)) (log ++ [entry]) → publisherId = id ∨
        Log.Since (Logged (.publisher publisherId) (· = .publisherRevoked))
          (Logged (.publisher publisherId) (· = .publisherTrusted)) log := by
    intro publisherId since
    rcases Log.since_snoc.mp since with starts | ⟨before, -⟩
    · have same := ((logged_iff added _ _).mp starts).1
      exact .inl (by simpa [subject, eq_comm] using same)
    · exact .inr before
  refine ⟨ids ▸ tracked.records, ?_, fun record member => ?_, fun publisherId since => ?_,
    fun publisherId since record member named => ?_, fun plugin since record member named => ?_,
    fun plugin since => ?_⟩
  · rw [roots, map_revokeRoot]
    exact tracked.roots
  · obtain ⟨old, held, same, publisher, digest, -⟩ := origin record member
    obtain ⟨package, read, made⟩ := tracked.origin old held
    exact ⟨package, read, same ▸ made.1, publisher ▸ made.2.1, digest ▸ made.2.2⟩
  · rintro ⟨root, member, same, enabled⟩
    rw [roots] at member
    obtain ⟨held, apart⟩ := mem_revokeRoot tracked.roots member enabled
    rcases earlier publisherId since with rfl | before
    · exact apart (Option.some.inj same)
    · exact tracked.untrusted publisherId before ⟨root, held, same, enabled⟩
  · obtain ⟨old, held, -, publisher, -, enabled, executable, blocked⟩ := origin record member
    rcases earlier publisherId since with rfl | before
    · exact blocked (publisher.trans named)
    · obtain ⟨off, idle⟩ := tracked.final.revoked publisherId before old held (publisher.trans named)
      exact ⟨Bool.eq_false_iff.mpr fun on => by simp [enabled on] at off,
        Bool.eq_false_iff.mpr fun on => by simp [executable on] at idle⟩
  · obtain ⟨old, held, same, -, -, enabled, -⟩ := origin record member
    have off := tracked.final.disabled plugin (since_other added (other plugin) since) old held (same.trans named)
    exact Bool.eq_false_iff.mpr fun on => by simp [enabled on] at off
  · obtain ⟨old, held, rfl⟩ := tracked.final.registered plugin (since_other added (other plugin) since)
    have known : old.id ∈ next.registry.map PluginInstallRecord.id := ids ▸ List.mem_map_of_mem held
    obtain ⟨record, member, same⟩ := List.mem_map.mp known
    exact ⟨record, member, same⟩

/-- A lawful action that saves over what its operation has loaded keeps what is known. -/
theorem Tracked.keeps (unique : ∀ one two, packages one → packages two →
      one.manifestDigest = two.manifestDigest → one.manifest = two.manifest)
    (tracked : Tracked packages log store) {β : Type} {action : PluginAct β} (lawful : Lawful packages β action)
    (current : Current store ⟨action, (database.outcome action store).1⟩) :
    Tracked packages (log ++ [(store, ⟨action, (database.outcome action store).1⟩)])
      (database.outcome action store).2 := by
  cases lawful with
  | listInstalled => exact tracked.silent rfl
  | listPublishers => exact tracked.silent rfl
  | listAudit => exact tracked.silent rfl
  | @logged audit event id last subject idle =>
    refine tracked.plugin last subject rfl tracked.records tracked.origin (fun record member =>
      .inl ⟨record, member, rfl, rfl, fun on => on, fun on => on⟩) (fun old held => .inl ⟨old, held, rfl⟩)
      (fun acts => absurd acts idle.2.1) (by simp [idle.1])
  | @imported roots root audit event last subject acts =>
    have same : roots = store.roots := current.2 roots List.mem_cons_self
    subst same
    exact tracked.imported last subject acts rfl rfl
  | @revoked roots records id now audit event last subject acts =>
    have same : roots = store.roots := current.2 roots List.mem_cons_self
    have same' : records = store.registry := current.1 records List.mem_cons_self
    subst same same'
    exact tracked.revoked last subject rfl rfl
  | @registered records record package loaded audit event last subject acts read made idle verified =>
    have same : records = store.registry := current.1 records List.mem_cons_self
    subst same
    refine tracked.plugin last subject rfl (nodup_replace record tracked.records)
      (fun held member => ?_) (fun held member => ?_) (fun old held => ?_) (fun disables => ?_) fun _ =>
        ⟨record, List.mem_append.mpr (.inr List.mem_cons_self), rfl⟩
    · rcases List.mem_append.mp member with old | new
      · exact tracked.origin held (List.mem_of_mem_filter old)
      · obtain rfl := List.mem_singleton.mp new
        exact ⟨package, read, made⟩
    · rcases List.mem_append.mp member with old | new
      · exact .inl ⟨held, List.mem_of_mem_filter old, rfl, rfl, fun on => on, fun on => on⟩
      · obtain rfl := List.mem_singleton.mp new
        refine .inr (.inl ⟨idle, fun executable => ?_⟩)
        obtain ⟨roots, among, trusted⟩ := verified executable
        exact current.2 roots among ▸ trusted
    · -- The record of the same plugin is replaced, the others stay.
      by_cases same : old.id = record.id
      · exact .inl ⟨record, List.mem_append.mpr (.inr List.mem_cons_self), same.symm⟩
      · exact .inl ⟨old, List.mem_append.mpr (.inl (List.mem_filter.mpr ⟨held, by simpa using same⟩)), rfl⟩
    · rw [disables] at acts
      cases acts
  | @disabled records id now audit event last subject acts =>
    have same : records = store.registry := current.1 records List.mem_cons_self
    subst same
    exact tracked.change last subject rfl rfl
      (fun record => ⟨rfl, rfl, rfl⟩) (fun record => ⟨rfl, fun on => on⟩) (by rw [acts]; rfl)
  | @invalidated records id now audit event last subject acts =>
    have same : records = store.registry := current.1 records List.mem_cons_self
    subst same
    exact tracked.change last subject rfl rfl
      (fun record => ⟨rfl, rfl, rfl⟩) (fun record => ⟨rfl, fun on => by cases on⟩) (by rw [acts]; rfl)
  | @enabled installed records loaded known package id now permissions audit event last subject acts found read
      matched verified =>
    have same : installed = store.registry := current.1 installed List.mem_cons_self
    have same' : records = store.registry := current.1 records (List.mem_cons_of_mem _ List.mem_cons_self)
    subst same same'
    have ids : (changeRecord id (·.enable permissions now) store.registry).map PluginInstallRecord.id =
        store.registry.map PluginInstallRecord.id := map_changeRecord fun record => rfl
    have origin := fun (record : PluginInstallRecord) (member : record ∈ changeRecord id (·.enable permissions now)
      store.registry) => mem_changeRecord tracked.records member
    refine tracked.plugin last subject rfl (ids ▸ tracked.records) (fun record member => ?_)
      (fun record member => ?_) (fun old held => ?_) (fun disables => ?_) (fun registers => ?_)
    · rcases origin record member with ⟨old, -⟩ | ⟨old, held, -, rfl⟩
      · exact tracked.origin record old
      · exact tracked.origin old held
    · rcases origin record member with ⟨old, -⟩ | ⟨old, held, same, rfl⟩
      · exact .inl ⟨record, old, rfl, rfl, fun on => on, fun on => on⟩
      · -- The package that was verified is the one the record was made from.
        obtain ⟨roots, among, trusted⟩ := verified
        obtain ⟨member', named⟩ : known ∈ store.registry ∧ known.id = id := by
          unfold findRecord at found
          split at found
          · next record chosen =>
            cases found
            exact ⟨List.mem_of_find?_eq_some chosen, by simpa using List.find?_some chosen⟩
          · cases found
        obtain rfl : known = old := List.inj_on_of_nodup_map tracked.records member' held (named.trans same.symm)
        obtain ⟨made, read', -, publisher, digest⟩ := tracked.origin known held
        simp only [PluginPackage.matching, Bool.and_eq_true, decide_eq_true_eq] at matched
        have one := unique made package read' read (digest ▸ matched.1.1.1.2.symm)
        refine .inr (.inr ⟨acts, same, ?_⟩)
        have trusts : TrustedBy store.roots package.manifest.publisher := current.2 roots among ▸ trusted
        exact show TrustedBy store.roots known.publisherId from publisher.trans (congrArg _ one) ▸ trusts
    · have known : old.id ∈ (changeRecord id (·.enable permissions now) store.registry).map PluginInstallRecord.id :=
        ids ▸ List.mem_map_of_mem held
      obtain ⟨record, member, same⟩ := List.mem_map.mp known
      exact .inl ⟨record, member, same⟩
    · rw [acts] at disables
      cases disables
    · rw [acts] at registers
      cases registers
  | @removed records id audit event last subject acts =>
    have same : records = store.registry := current.1 records List.mem_cons_self
    subst same
    refine tracked.plugin last subject rfl (tracked.records.sublist (List.filter_sublist.map _))
      (fun record member => tracked.origin record (List.mem_of_mem_filter member)) (fun record member =>
        .inl ⟨record, List.mem_of_mem_filter member, rfl, rfl, fun on => on, fun on => on⟩) (fun old held => ?_)
      (fun disables => ?_) (fun registers => ?_)
    · by_cases same : old.id = id
      · exact .inr ⟨acts, same⟩
      · exact .inl ⟨old, List.mem_filter.mpr ⟨held, by simpa using same⟩, rfl⟩
    · rw [acts] at disables
      cases disables
    · rw [acts] at registers
      cases registers

/-- Decisions stand in every run whose operations save over what they have loaded. -/
theorem final_of_current (unique : ∀ one two, packages one → packages two →
      one.manifestDigest = two.manifestDigest → one.manifest = two.manifest)
    {trace : List (Pool PluginAct AppError PluginStore × Pool.Label PluginAct AppError)}
    {pool : Pool PluginAct AppError PluginStore} (run : (system packages).Run trace pool)
    (current : ∀ entry ∈ Pool.events trace, Current entry.1 entry.2) : Final (Pool.events trace) pool.store := by
  refine (Pool.history (Lawful packages) Current (Tracked packages) (fun _ => only_starts) ?_ ?_ run current).1.final
  · rintro store rfl
    exact ⟨.nil, .nil, by simp [PluginStore.fresh], fun _ since => absurd since Log.not_since_nil,
      fun _ since => absurd since Log.not_since_nil, fun _ since => absurd since Log.not_since_nil,
      fun _ since => absurd since Log.not_since_nil⟩
  · exact fun log store β action lawful tracked current => tracked.keeps unique lawful current

end Steps

namespace Demo

/-- A plugin with a signature of its publisher. -/
def package : PluginPackage where
  manifestPath := "/plugins/acme/manifest.json"
  manifest := ⟨"acme.notes", "Notes", "1.0.0", some "acme.notes", ["ui"], [], some "ed25519:c2lnbmF0dXJl"⟩
  manifestDigest := "sha256:5f1d"
  entrypointDigest := "sha256:77c2"
  signatureDecodes := true
  signedBy _ := .ok ()
  valid := by decide

def key : PublisherKey := ⟨"acme.notes", "Acme", "ed25519:cHVibGljIGtleQ", "sha256:90ab", by decide⟩

def stamp (uuid : String) : Stamp := ⟨uuid, "2025-01-01T00:00:00+00:00", "2025-01-01T00:00:00+00:00"⟩

/-- An import, a registration, an enabling, a revocation and a disabling. -/
def operations : List (Transaction Unit) :=
  [(importPublisher (.ok key) (stamp "0")).discard, (register (.ok package) (stamp "1")).discard,
    (enable "acme.notes" ["ui"] (fun _ => .ok package) (stamp "2")).discard,
    revokePublisher "acme.notes" (stamp "3"), disable "acme.notes" (stamp "4")]

def only (read : PluginPackage) : Prop := read = package

theorem unique (one two : PluginPackage) (first : only one) (second : only two)
    (_ : one.manifestDigest = two.manifestDigest) : one.manifest = two.manifest := by
  rw [first, second]

theorem started : ∃ trace, (system only).Run trace ⟨.fresh, operations⟩ ∧ Pool.events trace = [] := by
  refine @Pool.run_starts _ _ _ database (Starts only) (fun store => store = .fresh) .fresh rfl operations
    fun program member => ?_
  have read : ∀ found : PluginPackage, (Except.ok package : AppResult PluginPackage) = .ok found → only found := by
    intro found same
    exact (Except.ok.inj same).symm
  simp only [operations, List.mem_cons, List.not_mem_nil, or_false] at member
  rcases member with rfl | rfl | rfl | rfl | rfl
  · exact .importPublisher _ _
  · exact .register _ read
  · exact .enable _ _ _ fun _ => read
  · exact .revokePublisher _ _
  · exact .disable _ _

/-- The enabling verifies the package, the publisher is revoked, and the enabling goes on. -/
def overlapping : List Nat := [0, 0, 0, 1, 1, 1, 1, 2, 2, 3, 3, 3, 3, 2, 2, 2]

/-- The plugin of the revoked publisher is enabled then. -/
theorem revoked_enabled : ¬∀ packages : PluginPackage → Prop, (∀ one two, packages one → packages two →
      one.manifestDigest = two.manifestDigest → one.manifest = two.manifest) →
    ∀ trace pool, (system packages).Run trace pool → Final (Pool.events trace) pool.store := by
  have checked : ((Pool.play database ⟨.fresh, operations⟩ overlapping).elim false fun reached =>
      ((Pool.events reached.1)[12]?).any (fun entry =>
        decide (Logged (.publisher "acme.notes") (· = .publisherRevoked) entry)) &&
      ((Pool.events reached.1).drop 13).all (fun entry =>
        decide (¬Logged (.publisher "acme.notes") (· = .publisherTrusted) entry)) &&
      reached.2.store.registry.any fun record =>
        decide (record.publisherId = some "acme.notes") && record.enabled) = true := by decide +kernel
  intro always
  cases played : Pool.play database ⟨.fresh, operations⟩ overlapping with
  | none => simp [played] at checked
  | some reached =>
    simp only [played, Option.elim_some, Bool.and_eq_true, Option.any_eq_true, List.any_eq_true,
      List.all_eq_true, decide_eq_true_eq] at checked
    obtain ⟨⟨⟨entry, there, revokes⟩, quiet⟩, record, member, named, enabled⟩ := checked
    obtain ⟨trace, run, silent⟩ := started
    have final := always only unique _ _ (Pool.run_play run played)
    rw [Pool.events_append, silent, List.nil_append] at final
    have off := (final.revoked "acme.notes" (.of_getElem? there revokes quiet) record member named).1
    rw [enabled] at off
    cases off

/-- The same operations one after the other, the plugin disabled before its publisher is revoked. -/
def sequential : List Nat := [0, 0, 0, 1, 1, 1, 1, 2, 2, 2, 2, 2, 4, 4, 4, 3, 3, 3, 3]

/-- All of them saved, and what they decided stands. -/
theorem decisions_stand : ∃ trace pool, (system only).Run trace pool ∧ pool.store.audit.length = 5 ∧
    Final (Pool.events trace) pool.store := by
  have checked : ((Pool.play database ⟨.fresh, operations⟩ sequential).elim false fun reached =>
      decide (reached.2.store.audit.length = 5) &&
      (Pool.events reached.1).all fun entry => decide (Current entry.1 entry.2)) = true := by decide +kernel
  cases played : Pool.play database ⟨.fresh, operations⟩ sequential with
  | none => simp [played] at checked
  | some reached =>
    simp only [played, Option.elim_some, Bool.and_eq_true, List.all_eq_true, decide_eq_true_eq] at checked
    obtain ⟨trace, run, silent⟩ := started
    refine ⟨_, _, Pool.run_play run played, checked.1, final_of_current unique (Pool.run_play run played) ?_⟩
    rw [Pool.events_append, silent, List.nil_append]
    exact checked.2

end Demo

end Plugin

end CNShell
