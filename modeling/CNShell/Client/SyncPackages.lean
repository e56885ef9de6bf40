import CNShell.Client.Exports
import CNShell.Client.Import
import CNShell.Relay.Demo

/-! Which sync packages another device can read, and what it adds for them. -/

namespace CNShell

namespace Client

/-- One new connection for each of a package, and the others as they were. -/
def Adds (connections : List SaveConnectionInput) (device after : DesktopState) : Prop :=
  ∃ ids : List String, ids.Nodup ∧
    List.Forall₂ (fun id connection => device.live id = none ∧ ∃ row, after.live id = some row ∧ Carries row connection)
      ids connections ∧
    ∀ id, id ∉ ids → after.live id = device.live id

/-- The ids that an import draws are new, and as long as UUIDs are. -/
structure FreshIds (uuid : Nat → String) (device : DesktopState) (rows : List ConnectionRow) : Prop where
  size : ∀ position, (uuid position).utf8ByteSize = 36
  differ : ∀ first second, first < rows.length → second < rows.length → uuid first = uuid second → first = second
  new : ∀ position, position < rows.length →
    device.connections (uuid position) = none ∧ ∀ row ∈ rows, row.id ≠ uuid position

section Sync

variable {library : BackupLibrary} {source : TargetOs} {faults : Faults} {draws : BackupDraws}
variable {rows : List ConnectionRow} {folder : Option SyncFolder} {stamp passphrase now minute : String}
variable {options : SyncOptions} {writer left device : DesktopState} {result : SyncResult} {written : SyncFolder}
variable {host : HostSystem} {uuid : Nat → String}

def taken (device : DesktopState) (id : String) : Bool := (device.live id).isSome

/--
A sync package can be read: its JSON is not too long, and each connection in it can be stored on the device.
-/
def Portable (library : BackupLibrary) (source os : TargetOs) (writer device : DesktopState) (options : SyncOptions)
    (rows : List ConnectionRow) : Prop :=
  (∀ json, library.connectionsJson (packed source writer options rows) = .ok json → json.length ≤ maxJsonBytes) ∧
    (options.includeHosts = true → ∀ row ∈ rows, Readable os (taken device) options row
      (exportedCredential source writer options.includeCredentials row))

theorem accepted_iff (stored : ∀ row ∈ rows, validateConnection source (fromProfile row none) = .ok ())
    (fresh : FreshIds uuid device rows) (dated : minute.utf8ByteSize = 16) :
    (∀ input ∈ arriving (taken device) uuid minute device 0 (packed source writer options rows),
        validateConnection host.os input = .ok ()) ↔
      (options.includeHosts = true → ∀ row ∈ rows, Readable host.os (taken device) options row
        (exportedCredential source writer options.includeCredentials row)) := by
  unfold packed
  split
  · next included =>
    rw [forall_arriving]
    constructor
    · intro all _ row member
      obtain ⟨place, found⟩ := List.mem_iff_getElem?.mp member
      have accepted := all place _ (by rw [List.getElem?_map, found]; rfl)
      exact (validateConnection_arrived (stored row member) fun _ => ⟨fresh.size _, dated⟩).mp accepted
    · intro readable place connection found
      rw [List.getElem?_map, Option.map_eq_some_iff] at found
      obtain ⟨row, found, rfl⟩ := found
      have member := List.mem_of_getElem? found
      exact (validateConnection_arrived (stored row member) fun _ => ⟨fresh.size _, dated⟩).mpr
        (readable included row member)
  · next excluded =>
    constructor
    · intro _ included
      exact absurd included excluded
    · intro _ input member
      cases member

theorem id_of_mem_packed {connection : SaveConnectionInput}
    (member : connection ∈ packed source writer options rows) : ∃ row ∈ rows, connection.id = row.id := by
  unfold packed at member
  split at member
  · obtain ⟨row, inside, rfl⟩ := List.mem_map.mp member
    refine ⟨row, inside, ?_⟩
    unfold withoutKeyPaths
    split <;> rfl
  · cases member

theorem length_packed_le : (packed source writer options rows).length ≤ rows.length := by
  unfold packed
  split
  · rw [List.length_map]
  · exact Nat.zero_le _

theorem nodup_packed (distinct : (rows.map ConnectionRow.id).Nodup) :
    ((packed source writer options rows).map SaveConnectionInput.id).Nodup := by
  unfold packed
  split
  · rw [List.map_map]
    have same : SaveConnectionInput.id ∘ (fun row => withoutKeyPaths options (fromProfile row
        (exportedCredential source writer options.includeCredentials row))) = ConnectionRow.id := by
      funext row
      simp only [Function.comp_apply, withoutKeyPaths]
      split <;> rfl
    rwa [same]
  · exact List.nodup_nil

theorem adds_of_accepted (now : String) (distinct : (rows.map ConnectionRow.id).Nodup)
    (fresh : FreshIds uuid device rows)
    (accepted : ∀ input ∈ arriving (taken device) uuid minute device 0 (packed source writer options rows),
      validateConnection host.os input = .ok ()) :
    ∃ after, importFile host calm now true uuid minute (packed source writer options rows) device =
        (.ok (packed source writer options rows).length, after) ∧
      Adds (packed source writer options rows) device after := by
  obtain ⟨entries, after, ran, same, stores⟩ := importFile_calm now true rfl accepted
  let inputs := arriving (taken device) uuid minute device 0 (packed source writer options rows)
  have apart : (inputs.map SaveConnectionInput.id).Nodup := by
    refine nodup_arriving (nodup_packed distinct) fresh.differ (fun later drawn connection inside => ?_) ?_
    · obtain ⟨row, listed, named⟩ := id_of_mem_packed inside
      rw [named]
      exact (fresh.new later drawn).2 row listed
    · rw [Nat.zero_add]
      exact length_packed_le
  have pairs : List.Forall₂ (fun input connection => ∃ id name folderId proxyId credential, input =
      { connection with
        id := id, name := name, folderId := folderId, proxyId := proxyId, credential := credential }) inputs
      (packed source writer options rows) := by
    refine forall₂_arriving fun later connection _ => ?_
    unfold conflictCopy
    split <;> exact ⟨_, _, _, _, _, rfl⟩
  have added : ∀ input ∈ inputs, device.live input.id = none ∧
      ∃ reference, after.live input.id = some (upsertedRow now (device.connections input.id) input reference) := by
    intro input member
    refine ⟨?_, live_afterImport (by rw [same]; exact apart) stores (by rw [same]; exact member)⟩
    -- Its id is one that is not in use, or a new one.
    rcases id_of_mem_arriving member with ⟨connection, -, free, named⟩ | ⟨later, -, drawn, named⟩
    · rw [named]
      simpa [taken] using free
    · rw [Nat.zero_add] at drawn
      rw [named, DesktopState.live, (fresh.new later (drawn.trans_le length_packed_le)).1]
      rfl
  refine ⟨after, by rw [ran]; exact congrArg (fun count => (Except.ok count, after)) pairs.length_eq,
    inputs.map SaveConnectionInput.id, apart, ?_, ?_⟩
  · refine List.forall₂_map_left_iff.mpr ?_
    refine ((List.forall₂_and_left _ _).mpr ⟨added, pairs⟩).imp ?_
    rintro input connection ⟨⟨absent, reference, live⟩, same⟩
    exact ⟨absent, _, live, carries_upsertedRow same⟩
  · intro id absent
    exact live_afterImport_of_not_mem stores (by rw [same]; exact absent)

theorem portable_of_read (sound : library.Sound) (listed : writer.Lists rows)
    (stored : ∀ row ∈ rows, validateConnection source (fromProfile row none) = .ok ())
    (wrote : syncWrite library source faults draws rows folder stamp passphrase options writer =
      (.ok (result, written), left))
    (fresh : FreshIds uuid device rows) (dated : minute.utf8ByteSize = 16) {read : SyncResult} {after : DesktopState}
    (ran : syncRead library host calm now uuid minute written passphrase device = (.ok read, after)) :
    Portable library source host.os writer device options rows := by
  obtain ⟨long, -, bytes, placed, sealed⟩ := syncWrite_ok listed.distinct wrote
  obtain ⟨json, rendered, fits⟩ := length_sealBackup sound sealed
  have decoded := decodeBackup_sealBackup sound (ne_empty_of_long long) sealed
  obtain ⟨u, -, ran⟩ := Section.check_bind_eq_ok.mp ran
  obtain ⟨found, there, ran⟩ := Section.check_bind_eq_ok.mp ran
  obtain rfl : bytes = found := Option.some.inj (placed.symm.trans (required_eq_ok.mp there))
  obtain ⟨imported, middle, ran, -⟩ := Section.bind_eq_ok.mp ran
  obtain ⟨connections, opened, ran⟩ := Section.check_bind_eq_ok.mp ran
  rw [decoded] at opened
  split at opened
  · next small =>
    obtain rfl := Except.ok.inj opened
    refine ⟨fun other again => ?_, (accepted_iff stored fresh dated).mp (importFile_valid_of_ok rfl ran)⟩
    obtain rfl := Except.ok.inj (rendered.symm.trans again)
    exact fits.mp small
  · cases opened

theorem read_of_portable (sound : library.Sound) (listed : writer.Lists rows)
    (stored : ∀ row ∈ rows, validateConnection source (fromProfile row none) = .ok ())
    (wrote : syncWrite library source faults draws rows folder stamp passphrase options writer =
      (.ok (result, written), left))
    (fresh : FreshIds uuid device rows) (dated : minute.utf8ByteSize = 16)
    (portable : Portable library source host.os writer device options rows) :
    ∃ read after, syncRead library host calm now uuid minute written passphrase device = (.ok read, after) ∧
      read.connectionCount = result.connectionCount ∧ Adds (packed source writer options rows) device after := by
  obtain ⟨long, count, bytes, placed, sealed⟩ := syncWrite_ok listed.distinct wrote
  obtain ⟨json, rendered, fits⟩ := length_sealBackup sound sealed
  have decoded := decodeBackup_sealBackup sound (ne_empty_of_long long) sealed
  obtain ⟨short, readable⟩ := portable
  rw [if_pos (fits.mpr (short json rendered))] at decoded
  obtain ⟨after, ran, adds⟩ := adds_of_accepted now listed.distinct fresh
    ((accepted_iff stored fresh dated).mpr readable)
  refine ⟨⟨syncFile, none, (packed source writer options rows).length, true⟩, after, ?_, count.symm, adds⟩
  have imported : importBackup library host calm now uuid minute true (some passphrase) bytes device =
      (.ok (packed source writer options rows).length, after) := by
    rw [importBackup, decoded, Section.check_bind_apply]
    exact ran
  rw [syncRead, ensure_of long, placed, Section.check_bind_apply]
  exact Section.bind_apply_ok imported

end Sync

namespace Demo

theorem syncWrite_backupLibrary {connections : List SaveConnectionInput} {clear : List UInt8}
    {rows : List ConnectionRow} {options : SyncOptions} {writer left : DesktopState} {passphrase : String}
    (long : 8 ≤ passphrase.utf8ByteSize)
    (listed : syncConnections .other calm rows options writer = (.ok connections, left)) :
    ∃ result written, syncWrite (backupLibrary connections clear) .other calm backupDraws rows (some fun _ => none)
        "20260101-000000" passphrase options writer = (.ok (result, written), left) ∧
      result.connectionCount = connections.length := by
  refine ⟨_, _, Section.check_bind_eq_ok.mpr ⟨(), ensure_of long _, Section.check_bind_eq_ok.mpr ⟨_, rfl,
    Section.bind_eq_ok.mpr ⟨_, _, listed, Section.check_bind_eq_ok.mpr ⟨_, sealBackup_backupLibrary, rfl⟩⟩⟩⟩, rfl⟩

theorem freshIds_unused {row : ConnectionRow} (short : row.id.utf8ByteSize ≠ 36) :
    FreshIds Relay.Demo.uuid unused [row] where
  size := Relay.Demo.utf8ByteSize_uuid
  differ first second one two _ := by
    simp only [List.length_singleton] at one two
    omega
  new position _ := by
    refine ⟨rfl, fun other member same => short ?_⟩
    rw [← List.mem_singleton.mp member, same]
    exact Relay.Demo.utf8ByteSize_uuid position

def keyless : SyncOptions := ⟨true, false, true⟩

def keyRow : ConnectionRow := sshRow "privateKey" (some "/home/me/.ssh/id_ed25519")

end Demo

end Client

end CNShell
