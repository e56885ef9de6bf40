import CNShell.Client.Exports
import CNShell.Client.Import
import CNShell.Relay.Demo

/-! Which connections and credentials an encrypted backup restores. -/

namespace CNShell

namespace Client

section Restore

structure Same (device : DesktopState) (row restored : ConnectionRow) : Prop where
  carries : Carries restored (fromProfile row none)
  id : restored.id = row.id
  name : restored.name = row.name
  folderId : restored.folderId = row.folderId.filter device.folders
  proxyId : restored.proxyId = row.proxyId.filter device.proxies

def Restored (os : TargetOs) (device after : DesktopState) (row : ConnectionRow) (credential : Option String) : Prop :=
  (∃ restored, after.live row.id = some restored ∧ Same device row restored) ∧
    ∀ secret, credential = some secret → after.credential row.id os = some secret

/--
A connection comes back from a backup: its serial device is one of the system, and only SSH connections that need
one have a credential, which is not too long.
-/
structure Restorable (os : TargetOs) (row : ConnectionRow) (credential : Option String) : Prop where
  device : row.protocol = "serial" → validDevicePath os row.host = true
  secret : ∀ secret, credential = some secret →
    row.protocol = "ssh" ∧ row.authType ∉ agentTypes ∧ secret.utf8ByteSize ≤ maxCredentialBytes

variable {library : BackupLibrary} {source : TargetOs} {faults : Faults} {draws : BackupDraws}
variable {rows : List ConnectionRow} {passphrase now minute : String} {bytes : List UInt8}
variable {writer left device : DesktopState} {host : HostSystem} {uuid : Nat → String}

/-- No option of an export leaves anything out. -/
def everything : SyncOptions := ⟨true, true, true⟩

/-- The connections of a backup with their credentials. -/
def backedUp (source : TargetOs) (writer : DesktopState) (rows : List ConnectionRow) : List SaveConnectionInput :=
  rows.map fun row => fromProfile row (exportedCredential source writer true row)

def backupRequests (source : TargetOs) (writer device : DesktopState) (uuid : Nat → String) (minute : String)
    (rows : List ConnectionRow) : List SaveConnectionInput :=
  arriving (fun _ => false) uuid minute device 0 (backedUp source writer rows)

variable {row : ConnectionRow}

theorem mem_backupRequests (member : row ∈ rows) :
    sanitizeImportReferences device (fromProfile row (exportedCredential source writer true row)) ∈
      backupRequests source writer device uuid minute rows := by
  unfold backupRequests backedUp
  generalize 0 = position
  induction rows generalizing position with
  | nil => cases member
  | cons first rest ih =>
    rcases List.mem_cons.mp member with rfl | later
    · exact List.mem_cons_self
    · exact List.mem_cons_of_mem _ (ih later (position + 1))

theorem forall_backupRequests {holds : SaveConnectionInput → Prop} :
    (∀ input ∈ backupRequests source writer device uuid minute rows, holds input) ↔
      ∀ row ∈ rows, holds (sanitizeImportReferences device
        (fromProfile row (exportedCredential source writer true row))) := by
  constructor
  · intro all row member
    exact all _ (mem_backupRequests member)
  · intro each
    refine forall_arriving.mpr fun place connection found => ?_
    obtain ⟨row, there, rfl⟩ := Option.map_eq_some_iff.mp (List.getElem?_map .. ▸ found)
    exact each row (List.mem_of_getElem? there)

theorem ids_backupRequests : (backupRequests source writer device uuid minute rows).map SaveConnectionInput.id =
    rows.map ConnectionRow.id := by
  unfold backupRequests backedUp
  generalize 0 = position
  induction rows generalizing position with
  | nil => rfl
  | cons first rest ih => exact congrArg (first.id :: ·) (ih (position + 1))

theorem accepted_row {credential : Option String} (stored : validateConnection source (fromProfile row none) = .ok ()) :
    validateConnection host.os (sanitizeImportReferences device (fromProfile row credential)) = .ok () ↔
      Readable host.os (fun _ => false) everything row credential := by
  have here : sanitizeImportReferences device (fromProfile row credential) =
      arrived (fun _ => false) "" "" device everything row credential := rfl
  rw [here]
  exact validateConnection_arrived stored nofun

theorem accepted_backup (stored : ∀ row ∈ rows, validateConnection source (fromProfile row none) = .ok ()) :
    (∀ input ∈ backupRequests source writer device uuid minute rows, validateConnection host.os input = .ok ()) ↔
      ∀ row ∈ rows, Readable host.os (fun _ => false) everything row (exportedCredential source writer true row) := by
  rw [forall_backupRequests]
  exact forall₂_congr fun row member => accepted_row (stored row member)

theorem importFile_backup (now : String) (distinct : (rows.map ConnectionRow.id).Nodup)
    (empty : ∀ id, device.connections id = none ∧ device.credential id host.os = none)
    (accepted : ∀ input ∈ backupRequests source writer device uuid minute rows,
      validateConnection host.os input = .ok ()) :
    ∃ after, importFile host calm now false uuid minute (backedUp source writer rows) device =
        (.ok rows.length, after) ∧
      ∀ row ∈ rows, (∃ reference, after.live row.id = some (upsertedRow now none (sanitizeImportReferences device
          (fromProfile row (exportedCredential source writer true row))) reference)) ∧
        after.credential row.id host.os = importedCredential (sanitizeImportReferences device
          (fromProfile row (exportedCredential source writer true row))) none := by
  let requests := backupRequests source writer device uuid minute rows
  have count : requests.length = rows.length := by
    rw [← List.length_map SaveConnectionInput.id, ids_backupRequests, List.length_map]
  obtain ⟨entries, after, ran, found, stores⟩ := importFile_calm now false rfl accepted
  have same : entries.map Prod.fst = requests := found
  have apart : ((entries.map Prod.fst).map SaveConnectionInput.id).Nodup := by
    rw [same, ids_backupRequests]
    exact distinct
  refine ⟨after, by rw [ran]; exact congrArg (fun count => (Except.ok count, after)) count, ?_⟩
  intro row member
  let input := sanitizeImportReferences device (fromProfile row (exportedCredential source writer true row))
  have request : input ∈ entries.map Prod.fst := by
    rw [same]
    exact mem_backupRequests member
  have lives := live_afterImport apart stores request
  have keeps := credential_afterImport apart stores request
  change (∃ reference, after.live row.id = some (upsertedRow now (device.connections row.id) input reference)) at lives
  change after.credential row.id host.os = importedCredential input (device.credential row.id host.os) at keeps
  rw [(empty row.id).1] at lives
  rw [(empty row.id).2] at keeps
  exact ⟨lives, keeps⟩

variable {secret : String}

theorem credential_of_exported (held : exportedCredential source writer true row = some secret) :
    writer.credential row.id source = some secret := by
  unfold exportedCredential at held
  split at held
  · exact held
  · cases held

theorem exported_of_credential (asks : row.authType ∉ agentTypes)
    (held : writer.credential row.id source = some secret) :
    exportedCredential source writer true row = some secret := by
  rw [exportedCredential, if_pos ⟨rfl, asks⟩]
  exact held

theorem restorable_of_restored (sound : library.Sound) (listed : writer.Lists rows)
    (stored : ∀ row ∈ rows, validateConnection source (fromProfile row none) = .ok ())
    (wrote : exportProfiles library source faults draws rows true (some passphrase) none writer = (.ok bytes, left))
    (empty : ∀ id, device.connections id = none ∧ device.credential id host.os = none) {after : DesktopState}
    (ran : importBackup library host calm now uuid minute false (some passphrase) bytes device =
      (.ok rows.length, after))
    (restored : ∀ row ∈ rows, Restored host.os device after row (writer.credential row.id source)) :
    (∀ json, library.connectionsJson (backedUp source writer rows) = .ok json → json.length ≤ maxJsonBytes) ∧
      ∀ row ∈ rows, Restorable host.os row (writer.credential row.id source) := by
  obtain ⟨long, sealed⟩ := exportProfiles_ok listed.distinct wrote
  obtain ⟨json, rendered, fits⟩ := length_sealBackup sound sealed
  have decoded := decodeBackup_sealBackup sound (ne_empty_of_long long) sealed
  obtain ⟨connections, opened, ran⟩ := Section.check_bind_eq_ok.mp ran
  rw [decoded] at opened
  split at opened
  · next small =>
    obtain rfl := Except.ok.inj opened
    have accepted : ∀ input ∈ backupRequests source writer device uuid minute rows,
        validateConnection host.os input = .ok () := importFile_valid_of_ok rfl ran
    have readable := (accepted_backup stored).mp accepted
    obtain ⟨same, again, brought⟩ := importFile_backup now listed.distinct empty accepted
    obtain rfl : after = same := congrArg Prod.snd (ran.symm.trans again)
    refine ⟨fun other again => ?_, fun row member => ⟨(readable row member).device, fun secret held => ?_⟩⟩
    · obtain rfl := Except.ok.inj (rendered.symm.trans again)
      exact fits.mp small
    · -- A credential that is back has been stored by the import.
      have back := (restored row member).2 secret held
      rw [(brought row member).2, importedCredential] at back
      split at back
      · next kept =>
        have asks : row.authType ∉ agentTypes := kept.2.1
        exact ⟨kept.1, asks, ((readable row member).secret secret (exported_of_credential asks held)).1⟩
      · cases back
  · cases opened

theorem restored_of_restorable (sound : library.Sound) (listed : writer.Lists rows)
    (stored : ∀ row ∈ rows, validateConnection source (fromProfile row none) = .ok ())
    (wrote : exportProfiles library source faults draws rows true (some passphrase) none writer = (.ok bytes, left))
    (empty : ∀ id, device.connections id = none ∧ device.credential id host.os = none)
    (short : ∀ json, library.connectionsJson (backedUp source writer rows) = .ok json → json.length ≤ maxJsonBytes)
    (restorable : ∀ row ∈ rows, Restorable host.os row (writer.credential row.id source)) :
    ∃ after, importBackup library host calm now uuid minute false (some passphrase) bytes device =
        (.ok rows.length, after) ∧
      ∀ row ∈ rows, Restored host.os device after row (writer.credential row.id source) := by
  obtain ⟨long, sealed⟩ := exportProfiles_ok listed.distinct wrote
  obtain ⟨json, rendered, fits⟩ := length_sealBackup sound sealed
  have decoded := decodeBackup_sealBackup sound (ne_empty_of_long long) sealed
  rw [if_pos (fits.mpr (short json rendered))] at decoded
  have readable : ∀ row ∈ rows, Readable host.os (fun _ => false) everything row
      (exportedCredential source writer true row) := by
    intro row member
    refine ⟨.inl rfl, (restorable row member).device, fun secret held => ?_, nofun⟩
    obtain ⟨ssh, -, size⟩ := (restorable row member).secret secret (credential_of_exported held)
    refine ⟨size, fun listed => ?_⟩
    rw [ssh] at listed
    exact absurd listed (by decide)
  obtain ⟨after, ran, brought⟩ := importFile_backup now listed.distinct empty
    ((accepted_backup stored).mpr readable)
  refine ⟨after, ?_, fun row member => ⟨?_, fun secret held => ?_⟩⟩
  · rw [importBackup, decoded, Section.check_bind_apply]
    exact ran
  · obtain ⟨reference, live⟩ := (brought row member).1
    exact ⟨_, live, ⟨carries_upsertedRow ⟨_, _, _, _, _, rfl⟩, rfl, rfl, rfl, rfl⟩⟩
  · obtain ⟨ssh, asks, -⟩ := (restorable row member).secret secret held
    have given := exported_of_credential asks held
    rw [(brought row member).2, importedCredential, if_pos ⟨ssh, asks, by rw [given]; rfl⟩]
    exact given

end Restore

namespace Demo

def rdpRow : ConnectionRow := { sshRow "password" none with protocol := "rdp", port := 3389 }

theorem exportProfiles_backupLibrary {connections : List SaveConnectionInput} {clear : List UInt8}
    {rows : List ConnectionRow} {writer left : DesktopState} {passphrase : String}
    (long : 8 ≤ passphrase.utf8ByteSize)
    (listed : exportConnections .other calm rows true writer = (.ok connections, left)) :
    exportProfiles (backupLibrary connections clear) .other calm backupDraws rows true (some passphrase) none writer =
      (.ok (envelopeBytes clear), left) := by
  have all : (rows.filter fun profile => decide ((none : Option String) = none ∨ none = some profile.id)) = rows :=
    List.filter_eq_self.mpr fun _ _ => by simp
  refine Section.check_bind_eq_ok.mpr ⟨(), ensure_of (fun _ => by simpa using long) _, reach_bind_ok.mpr ⟨rfl,
    Section.bind_eq_ok.mpr ⟨connections, left, ?_, Section.check_bind_eq_ok.mpr ⟨(), ensure_of nofun _, ?_⟩⟩⟩⟩
  · rw [all]
    exact listed
  · exact Section.check_eq_ok.mpr ⟨sealBackup_backupLibrary, rfl⟩

end Demo

end Client

end CNShell
