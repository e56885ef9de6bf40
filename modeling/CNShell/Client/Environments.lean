import CNShell.Client.ConnectionCommands
import CNShell.Library.Transition

/-! The environments that are stored with connections, over every run of the commands. -/

namespace CNShell

namespace Client

open Section

/-- Every stored connection has an environment that passes the check. -/
def ValidEnvironments (desktop : DesktopState) : Prop :=
  ∀ id row, desktop.connections id = some row → validateEnvironment row.environment = .ok ()

/-- A request for a local shell or for Telnet whose environment would pass the check. -/
def ChecksEnvironment (input : SaveConnectionInput) : Prop :=
  input.protocol ∈ ["local", "telnet"] → validateEnvironment input.environment = .ok ()

/-- Whatever is stored, a command leaves the rows of `connections` alone. -/
def KeepsRows {α : Type} (command : Command α) : Prop :=
  ∀ rows, Keeps (fun desktop => desktop.connections = rows) command

/-- A change of the stores that leaves the rows of `connections` alone. -/
def SparesRows (change : DesktopState → DesktopState) : Prop :=
  ∀ desktop, (change desktop).connections = desktop.connections

variable {host : HostSystem} {os : TargetOs} {faults : Faults} {now : String}

section Rows

variable {α : Type} {command : Command α} {change : DesktopState → DesktopState}

theorem SparesRows.valid (spares : SparesRows change) (desktop : DesktopState)
    (before : ValidEnvironments desktop) : ValidEnvironments (change desktop) := by
  intro id row stored
  rw [spares] at stored
  exact before id row stored

theorem KeepsRows.valid (keeps : KeepsRows command) : Keeps ValidEnvironments command := by
  intro desktop before id row stored
  rw [keeps desktop.connections desktop rfl] at stored
  exact before id row stored

theorem SparesRows.modify (spares : SparesRows change) : KeepsRows (Section.modify change) :=
  fun _ => .modify fun desktop same => (spares desktop).trans same

theorem KeepsRows.undoing (keeps : KeepsRows command) (spares : SparesRows change) :
    KeepsRows (command.undoing change) :=
  fun rows => (keeps rows).undoing fun desktop same => (spares desktop).trans same

theorem KeepsRows.reach (call : Call) : KeepsRows (Client.reach faults call) := fun _ => .check _

theorem KeepsRows.bind {β : Type} {following : α → Command β} (first : KeepsRows command)
    (rest : ∀ value state next, command state = (.ok value, next) → KeepsRows (following value)) :
    KeepsRows (command >>= following) :=
  fun rows => (first rows).bind fun value state next ran => rest value state next ran rows

theorem KeepsRows.get_bind {following : DesktopState → Command α}
    (rest : ∀ desktop, KeepsRows (following desktop)) : KeepsRows (Section.get >>= following) :=
  fun rows => .get_bind fun desktop _ => rest desktop rows

theorem KeepsRows.check_bind {β : Type} {result : AppResult β} {following : β → Command α}
    (rest : ∀ value, KeepsRows (following value)) : KeepsRows (Section.check result >>= following) :=
  fun rows => .check_bind fun value _ => rest value rows

theorem KeepsRows.reach_bind {call : Call} {following : Unit → Command α}
    (rest : KeepsRows (following ())) : KeepsRows (Client.reach faults call >>= following) :=
  (KeepsRows.reach call).bind fun _ _ _ _ => rest

end Rows

section Credentials

variable {id secret : String} {previous : Option String}

theorem keepCredential_spares : SparesRows fun desktop => desktop.keepCredential os id secret := by
  intro desktop
  cases os <;> rfl

theorem dropCredential_spares : SparesRows fun desktop => desktop.dropCredential os id := by
  intro desktop
  cases os <;> rfl

theorem restoreCredential_spares : SparesRows (restoreCredential os id previous) := by
  cases previous with
  | none => exact dropCredential_spares
  | some secret => exact keepCredential_spares

theorem loadLegacyCredential_rows : KeepsRows (loadLegacyCredential faults id) := by
  refine .reach_bind (.get_bind fun desktop => ?_)
  cases desktop.secrets id with
  | none => exact fun _ => .pure _
  | some secret =>
    exact .reach_bind (.bind (SparesRows.modify fun _ => rfl) fun _ _ _ _ _ => .pure _)

theorem loadCredential_rows : KeepsRows (loadCredential os faults id) := by
  refine .reach_bind (.get_bind fun desktop => ?_)
  cases os with
  | macos =>
    cases desktop.vault id with
    | some secret => exact fun _ => .pure _
    | none => exact loadLegacyCredential_rows
  | windows | other => exact fun _ => .pure _

theorem saveCredential_rows : KeepsRows (saveCredential os faults id secret) :=
  .reach_bind (.bind (SparesRows.modify keepCredential_spares) fun _ _ _ _ _ => .pure _)

theorem deleteCredential_rows : KeepsRows (deleteCredential os faults id) := by
  unfold deleteCredential
  split
  · exact .reach_bind (.bind (SparesRows.modify fun _ => rfl) fun _ _ _ _ =>
      .reach_bind (SparesRows.modify fun _ => rfl))
  · exact .reach_bind (SparesRows.modify fun _ => rfl)

end Credentials

section Prepared

variable {input : SaveConnectionInput} {found : Found} {id : String} {undo : DesktopState → DesktopState}

theorem deleteBookmark_rows : KeepsRows (deleteBookmark faults id) := .reach_bind (SparesRows.modify fun _ => rfl)

theorem deleteCertificateBookmark_rows : KeepsRows (deleteCertificateBookmark faults id) :=
  .reach_bind (SparesRows.modify fun _ => rfl)

theorem deleteRdpDriveBookmark_rows : KeepsRows (deleteRdpDriveBookmark faults id) :=
  .reach_bind (SparesRows.modify fun _ => rfl)

variable {path : String}

theorem saveValue_rows {call : Call} {put : Option String → DesktopState → DesktopState} {label : String}
    (spares : ∀ value, SparesRows (put value)) : KeepsRows (saveValue host faults call put path label) := by
  refine fun rows => .check_bind fun _ _ => .check_bind fun encoded _ => ?_
  have stores : KeepsRows (reach faults call >>= fun _ =>
      Section.modify (put (pathRecord host encoded))) := .reach_bind (SparesRows.modify (spares _))
  exact stores rows

theorem saveBookmark_rows : KeepsRows (saveBookmark host faults id path) := by
  unfold saveBookmark
  exact saveValue_rows fun _ _ => rfl

theorem saveCertificateBookmark_rows : KeepsRows (saveCertificateBookmark host faults id path) := by
  unfold saveCertificateBookmark
  exact saveValue_rows fun _ _ => rfl

theorem undoBookmark_spares (spares : SparesRows undo) : SparesRows (undoBookmark input found undo) := spares

theorem undoCertificate_spares (spares : SparesRows undo) : SparesRows (undoCertificate input found undo) :=
  spares

theorem replaceBookmark_rows : KeepsRows (replaceBookmark host faults input found) := by
  unfold replaceBookmark
  split
  · exact fun _ => .pure _
  split
  · exact saveBookmark_rows
  · exact deleteBookmark_rows

theorem replaceCertificate_rows : KeepsRows (replaceCertificate host faults input found) := by
  unfold replaceCertificate
  split
  · exact fun _ => .pure _
  split
  · exact fun rows => .check_bind fun _ _ => saveCertificateBookmark_rows rows
  · exact deleteCertificateBookmark_rows

theorem replaceCredential_rows : KeepsRows (replaceCredential host faults input found) := by
  unfold replaceCredential
  split
  · exact loadCredential_rows.bind fun _ _ _ _ => saveCredential_rows.bind fun _ _ _ _ _ => .pure _
  · exact loadCredential_rows.bind fun _ _ _ _ => deleteCredential_rows.bind fun _ _ _ _ _ => .pure _
  · exact fun _ => .pure _

theorem replaceCredential_spares :
    Returns (fun prepared => SparesRows prepared.undo) (replaceCredential host faults input found) := by
  unfold replaceCredential
  split
  · exact .bind fun _ => .bind fun _ => .pure restoreCredential_spares
  · exact .bind fun _ => .bind fun _ => .pure restoreCredential_spares
  · exact .pure fun _ => rfl

theorem prepareSave_rows : KeepsRows (prepareSave host faults input found) := by
  unfold prepareSave
  split
  · refine loadCredential_rows.bind fun _ _ _ _ => deleteCredential_rows.bind fun _ _ _ _ => ?_
    refine (deleteBookmark_rows.undoing restoreCredential_spares).bind fun _ _ _ _ => ?_
    refine (deleteCertificateBookmark_rows.undoing ?_).bind fun _ _ _ _ _ => .pure _
    exact undoBookmark_spares restoreCredential_spares
  · refine replaceCredential_rows.bind fun prepared _ _ ran => ?_
    have back : SparesRows (undoBookmark input found prepared.undo) :=
      undoBookmark_spares (replaceCredential_spares _ _ _ ran)
    refine (replaceBookmark_rows.undoing back).bind fun _ _ _ _ => ?_
    exact (replaceCertificate_rows.undoing (undoCertificate_spares back)).bind
      fun _ _ _ _ _ => .pure _

theorem prepareSave_spares :
    Returns (fun prepared => SparesRows prepared.undo) (prepareSave host faults input found) := by
  unfold prepareSave
  split
  · refine .bind fun _ => .bind fun _ => .bind fun _ => .bind fun _ => .pure ?_
    exact undoCertificate_spares (undoBookmark_spares restoreCredential_spares)
  · refine .bind_of replaceCredential_spares fun _ spares => .bind fun _ => .bind fun _ => .pure ?_
    exact undoCertificate_spares (undoBookmark_spares spares)

end Prepared

section Writes

variable {id : String}

theorem ValidEnvironments.set {desktop : DesktopState} (before : ValidEnvironments desktop)
    {row : Option ConnectionRow}
    (valid : ∀ written, row = some written → validateEnvironment written.environment = .ok ()) :
    ValidEnvironments (desktop.setConnection id row) := by
  intro other written stored
  simp only [DesktopState.setConnection, Function.update_apply] at stored
  split at stored
  · exact valid written stored
  · exact before other written stored

theorem validateConnection_environment {input : SaveConnectionInput} {u : Unit}
    (valid : validateConnection os input = .ok u) (early : ChecksEnvironment input) :
    validateEnvironment input.environment = .ok () := by
  by_cases ends : input.protocol ∈ ["local", "telnet"]
  · exact early ends
  · simp only [List.mem_cons, List.not_mem_nil, or_false, not_or] at ends
    simp only [validateConnection, bind_eq_ok, ends.1, ends.2, if_false] at valid
    -- Past the two early exits, the environment is the last thing that is checked.
    obtain ⟨_, -, _, -, _, -, _, -, _, -, _, -, rest⟩ := valid
    split at rest
    · obtain ⟨_, -, _, -, _, -, _, -, last⟩ := by simpa only [bind_eq_ok] using rest
      exact last
    · obtain ⟨_, -, _, -, _, -, last⟩ := by simpa only [bind_eq_ok] using rest
      exact last

@[simp] theorem upsertedRow_environment (old : Option ConnectionRow) (input : SaveConnectionInput)
    (reference : Option String) :
    (upsertedRow now old input reference).environment = input.environment := by
  cases old <;> rfl

theorem getConnection_rows {call : Call} : KeepsRows (getConnection faults call id) :=
  .reach_bind (.get_bind fun _ _ => .check _)

variable {reference : Option String}

theorem saveConnection_valid {input : SaveConnectionInput} (early : ChecksEnvironment input) :
    Keeps ValidEnvironments (saveConnection os faults now input reference) := by
  refine .check_bind fun _ passed => .bind (.check _) fun _ _ _ _ => .bind (.check _) fun _ _ _ _ => ?_
  refine .bind (.modify fun desktop before => before.set ?_) fun _ _ _ _ => getConnection_rows.valid
  rintro _ ⟨⟩
  rw [upsertedRow_environment]
  exact validateConnection_environment passed early

theorem insertConnection_valid {input : SaveConnectionInput} (early : ChecksEnvironment input) :
    Keeps ValidEnvironments (insertConnection os faults now input reference) := by
  refine .check_bind fun _ passed => .bind (.check _) fun _ _ _ _ => .get_bind fun _ _ =>
    .check_bind fun _ _ => ?_
  refine .bind (.modify fun desktop before => before.set ?_) fun _ _ _ _ => getConnection_rows.valid
  rintro _ ⟨⟩
  exact validateConnection_environment passed early

theorem updateConnection_valid {write read : Call} {change : ConnectionRow → ConnectionRow}
    (valid : ∀ row, validateEnvironment row.environment = .ok () →
      validateEnvironment (change row).environment = .ok ()) :
    Keeps ValidEnvironments (updateConnection faults write read change id) := by
  refine .bind (.check _) fun _ _ _ _ => .get_bind fun desktop before =>
    .check_bind fun row found => ?_
  have stored : desktop.connections id = some row :=
    (Option.filter_eq_some_iff.mp (required_eq_ok.mp found)).1
  have changed := valid row (before id row stored)
  refine .bind (.modify fun desktop before => before.set ?_) fun _ _ _ _ => getConnection_rows.valid
  rintro _ ⟨⟩
  exact changed

theorem removeInsertedConnection_valid (desktop : DesktopState) (before : ValidEnvironments desktop) :
    ValidEnvironments (removeInsertedConnection id desktop) :=
  have dropped : ValidEnvironments (desktop.dropOptions id) := before
  dropped.set fun _ none => nomatch none

end Writes

section Commands

variable {id newId newName : String} {input : SaveConnectionInput}

theorem connectionSave_valid (early : ChecksEnvironment input) :
    Keeps ValidEnvironments (connectionSave host faults now input) := by
  refine .get_bind fun desktop before => .check_bind fun found _ => ?_
  refine prepareSave_rows.valid.bind fun prepared _ _ ran => ?_
  have spares : SparesRows prepared.undo := prepareSave_spares _ _ _ ran
  exact (saveConnection_valid early).undoing spares.valid

theorem duplicateInput_environment {source : ConnectionRow}
    (made : duplicateInput source newId newName = .ok input) : input.environment = source.environment := by
  obtain ⟨_, -, _, -, same⟩ := by simpa only [duplicateInput, bind_eq_ok, pure_eq_ok] using made
  rw [← same]

theorem openDuplicate_environment {desktop : DesktopState} (before : ValidEnvironments desktop)
    (opened : openDuplicate host faults id newId newName desktop = .ok input) :
    validateEnvironment input.environment = .ok () := by
  simp only [openDuplicate, bind_eq_ok, required_eq_ok, pure_eq_ok] at opened
  obtain ⟨_, -, source, live, asked, made, _, -, _, -, _, -, rfl⟩ := opened
  rw [duplicateInput_environment made]
  exact before id source (Option.filter_eq_some_iff.mp live).1

theorem copyValue_rows {call : Call} {value : DesktopState → Option String}
    {put : Option String → DesktopState → DesktopState} (spares : ∀ value, SparesRows (put value)) :
    KeepsRows (copyValue faults call value put) := by
  refine .reach_bind (SparesRows.modify fun desktop => ?_)
  cases value desktop with
  | none => rfl
  | some found => exact spares _ desktop

theorem copyBookmark_rows : KeepsRows (copyBookmark faults id newId) := by
  unfold copyBookmark
  exact copyValue_rows fun _ _ => rfl

theorem copyCertificateBookmark_rows : KeepsRows (copyCertificateBookmark faults id newId) := by
  unfold copyCertificateBookmark
  exact copyValue_rows fun _ _ => rfl

theorem copyRdpDriveBookmark_rows : KeepsRows (copyRdpDriveBookmark faults id newId) := by
  unfold copyRdpDriveBookmark
  exact copyValue_rows fun _ _ => rfl

theorem loadRdpOptions_rows : KeepsRows (loadRdpOptions host faults id) := by
  refine .reach_bind (.get_bind fun desktop => ?_)
  cases desktop.workspaceState (rdpKey id) with
  | none => exact fun _ => .pure _
  | some text => exact .check_bind fun _ _ => .pure _

theorem saveNamedState_rows {key text : String} : KeepsRows (saveNamedState faults key text) :=
  fun _ => .check_bind fun _ _ => .bind (.check _) fun _ _ _ _ => .modify fun _ same => same

theorem undoKeys_valid (desktop : DesktopState) (before : ValidEnvironments desktop) :
    ValidEnvironments (undoKeys newId desktop) :=
  removeInsertedConnection_valid _ before

theorem undoCopies_valid (desktop : DesktopState) (before : ValidEnvironments desktop) :
    ValidEnvironments (undoCopies newId desktop) :=
  removeInsertedConnection_valid _ before

theorem copyRdpOptions_valid : Keeps ValidEnvironments (copyRdpOptions host faults id newId input) := by
  unfold copyRdpOptions
  split
  · refine (loadRdpOptions_rows.valid.undoing undoKeys_valid).bind fun options _ _ _ => ?_
    cases options with
    | none => exact .pure _
    | some options =>
      refine (copyRdpDriveBookmark_rows.valid.undoing undoKeys_valid).bind fun _ _ _ _ => ?_
      exact saveNamedState_rows.valid.undoing undoCopies_valid
  · exact .pure _

theorem setConnectionCredentialRef_valid {reference : String} :
    Keeps ValidEnvironments (setConnectionCredentialRef faults now id reference) := by
  unfold setConnectionCredentialRef
  refine updateConnection_valid ?_
  intro row valid
  exact valid

variable {saved : ConnectionRow}

theorem copyCredential_valid : Keeps ValidEnvironments (copyCredential host faults now id newId saved) := by
  refine (loadCredential_rows.valid.undoing undoCopies_valid).bind fun secret _ _ _ => ?_
  cases secret with
  | none => exact .pure _
  | some secret =>
    refine (saveCredential_rows.valid.undoing undoCopies_valid).bind fun _ _ _ _ => ?_
    refine setConnectionCredentialRef_valid.undoing fun desktop before => ?_
    exact undoCopies_valid _ (dropCredential_spares.valid desktop before)

theorem copyRest_valid : Keeps ValidEnvironments (copyRest host faults now id newId input saved) := by
  refine (copyBookmark_rows.valid.undoing removeInsertedConnection_valid).bind fun _ _ _ _ => ?_
  refine (copyCertificateBookmark_rows.valid.undoing fun desktop before => ?_).bind fun _ _ _ _ => ?_
  · exact removeInsertedConnection_valid _ before
  · exact copyRdpOptions_valid.bind fun _ _ _ _ => copyCredential_valid

theorem connectionDuplicate_valid :
    Keeps ValidEnvironments (connectionDuplicate host faults now id newId newName) := by
  refine .get_bind fun desktop before => .check_bind fun input opened => ?_
  have valid := openDuplicate_environment before opened
  have inserts : Keeps ValidEnvironments (insertConnection host.os faults now input none) :=
    insertConnection_valid fun _ => valid
  exact inserts.mapError.bind fun _ _ _ _ => copyRest_valid

theorem setConnectionEnvironment_valid {environment : List (String × String)} :
    Keeps ValidEnvironments (setConnectionEnvironment faults now id environment) := by
  unfold setConnectionEnvironment
  refine .check_bind fun u valid => updateConnection_valid ?_
  intro row _
  exact valid

theorem purgeConnection_valid : Keeps ValidEnvironments (purgeConnection faults id) :=
  .bind (.check _) fun _ _ _ _ => .get_bind fun _ _ => .check_bind fun _ _ =>
    .modify removeInsertedConnection_valid

theorem purgeStored_valid {previous : Option String} {found : DesktopState} :
    Keeps ValidEnvironments (purgeStored host faults id previous found) := by
  have restores : SparesRows (restoreCredential host.os id previous) := restoreCredential_spares
  have key : SparesRows (unpurgeKey host id previous found) := restores
  have whole : SparesRows (unpurge host id previous found) := restores
  refine (deleteBookmark_rows.undoing restores).valid.bind fun _ _ _ _ => ?_
  refine (deleteCertificateBookmark_rows.undoing key).valid.bind fun _ _ _ _ => ?_
  refine (deleteRdpDriveBookmark_rows.undoing whole).valid.bind fun _ _ _ _ => ?_
  exact purgeConnection_valid.undoing whole.valid

theorem connectionPurge_valid : Keeps ValidEnvironments (connectionPurge host faults id) := by
  refine loadCredential_rows.valid.bind fun previous _ _ _ => .bind (.check _) fun _ _ _ _ =>
    .bind (.check _) fun _ _ _ _ => .bind (.check _) fun _ _ _ _ => .get_bind fun found _ => ?_
  exact deleteCredential_rows.valid.bind fun _ _ _ _ => purgeStored_valid

theorem deleteConnection_valid : Keeps ValidEnvironments (deleteConnection faults now id) := by
  refine .bind (.check _) fun _ _ _ _ => .get_bind fun desktop before => .check_bind fun row found => ?_
  have valid := before id row (required_eq_ok.mp found)
  refine .modify fun desktop before => before.set ?_
  rintro _ ⟨⟩
  exact valid

theorem restoreConnection_valid : Keeps ValidEnvironments (restoreConnection faults now id) := by
  refine .bind (.check _) fun _ _ _ _ => .get_bind fun desktop before => .check_bind fun row found => ?_
  have valid := before id row (Option.filter_eq_some_iff.mp (required_eq_ok.mp found)).1
  refine .modify fun desktop before => before.set ?_
  rintro _ ⟨⟩
  exact valid

end Commands

section Import

variable {taken : String → Bool} {uuid : Nat → String} {stamp : String}

variable {connections inputs : List SaveConnectionInput} {position : Nat}

theorem importInputs_valid {desktop : DesktopState} (early : ∀ connection ∈ connections, ChecksEnvironment connection)
    (made : importInputs host faults taken uuid stamp desktop position connections = .ok inputs) :
    ∀ input ∈ inputs, validateEnvironment input.environment = .ok () := by
  induction connections generalizing position inputs with
  | nil =>
    obtain rfl : [] = inputs := by simpa [importInputs] using made
    simp
  | cons connection rest ih =>
    simp only [importInputs, bind_eq_ok, pure_eq_ok] at made
    obtain ⟨_, -, u, valid, others, further, rfl⟩ := made
    rintro input (_ | ⟨_, later⟩)
    · refine validateConnection_environment valid ?_
      -- A copy for a conflict has another id and another name only.
      have first := early connection List.mem_cons_self
      unfold conflictCopy sanitizeImportReferences
      split <;> exact first
    · exact ih (fun other member => early other (List.mem_cons_of_mem _ member)) further input later

theorem importCredential_rows {input : SaveConnectionInput} : KeepsRows (importCredential host faults input) := by
  unfold importCredential
  split
  · split
    · exact loadCredential_rows.bind fun _ _ _ _ => saveCredential_rows.bind fun _ _ _ _ _ => .pure _
    · exact fun _ => .pure _
  · exact fun _ => .pure _

theorem importCredential_spares {input : SaveConnectionInput} :
    Returns (fun prepared => SparesRows prepared.undo) (importCredential host faults input) := by
  unfold importCredential
  split
  · split
    · exact .bind fun _ => .bind fun _ => .pure restoreCredential_spares
    · exact .pure fun _ => rfl
  · exact .pure fun _ => rfl

theorem importCredentials_rows {undo : DesktopState → DesktopState} (spares : SparesRows undo) :
    KeepsRows (importCredentials host faults position inputs undo) := by
  induction inputs generalizing position undo with
  | nil => exact fun _ => .pure _
  | cons input rest ih =>
    refine (importCredential_rows.undoing spares).bind fun prepared _ _ ran => ?_
    have back : SparesRows prepared.undo :=
      importCredential_spares _ _ _ (Section.undoing_eq_ok.mp ran)
    exact (ih fun desktop => (spares _).trans (back desktop)).bind fun _ _ _ _ _ => .pure _

theorem importCredentials_inputs {undo : DesktopState → DesktopState} (spares : SparesRows undo) :
    Returns (fun prepared => prepared.1.map Prod.fst = inputs ∧ SparesRows prepared.2)
      (importCredentials host faults position inputs undo) := by
  induction inputs generalizing position undo with
  | nil => exact .pure ⟨rfl, spares⟩
  | cons input rest ih =>
    intro state value next ran
    obtain ⟨prepared, middle, first, ran⟩ := Section.bind_eq_ok.mp ran
    have back : SparesRows prepared.undo :=
      importCredential_spares _ _ _ (Section.undoing_eq_ok.mp first)
    obtain ⟨others, final, further, made⟩ := Section.bind_eq_ok.mp ran
    cases made
    obtain ⟨same, whole⟩ := ih (fun desktop => (spares _).trans (back desktop)) _ _ _ further
    exact ⟨by simp [same], whole⟩

theorem importConnections_valid {entries : List (SaveConnectionInput × Option String)}
    (valid : ∀ entry ∈ entries, validateEnvironment entry.1.environment = .ok ()) :
    Keeps ValidEnvironments (importConnections faults now entries) := by
  refine .bind (.check _) fun _ _ _ _ => .modify fun desktop before => ?_
  induction entries generalizing desktop with
  | nil => exact before
  | cons entry rest ih =>
    refine ih (fun other member => valid other (List.mem_cons_of_mem _ member)) _ (before.set ?_)
    rintro _ ⟨⟩
    rw [upsertedRow_environment]
    exact valid entry List.mem_cons_self

theorem importFile_valid {preserve : Bool} (early : ∀ connection ∈ connections, ChecksEnvironment connection) :
    Keeps ValidEnvironments (importFile host faults now preserve uuid stamp connections) := by
  refine .get_bind fun desktop _ => .check_bind fun taken _ => .check_bind fun inputs made => ?_
  have spares : SparesRows id := fun _ => rfl
  refine (importCredentials_rows spares).valid.bind fun prepared _ _ ran => ?_
  obtain ⟨same, back⟩ := importCredentials_inputs spares _ _ _ ran
  refine ((importConnections_valid fun entry member => ?_).undoing back.valid).bind
    fun _ _ _ _ => .pure _
  exact importInputs_valid early made entry.1 (same ▸ List.mem_map_of_mem member)

end Import

section Runs

/-- What the desktop is asked to do with its connections, and which calls fail meanwhile. -/
inductive ConnectionRequest
  | save (faults : Faults) (now : String) (input : SaveConnectionInput)
  | duplicate (faults : Faults) (now id newId newName : String)
  | setEnvironment (faults : Faults) (now id : String) (environment : List (String × String))
  | importFile (faults : Faults) (now : String) (preserve : Bool) (uuid : Nat → String) (stamp : String)
      (connections : List SaveConnectionInput)
  | delete (faults : Faults) (now id : String)
  | restore (faults : Faults) (now id : String)
  | purge (faults : Faults) (id : String)

/-- The stores that a request leaves. -/
def answer (host : HostSystem) (desktop : DesktopState) : ConnectionRequest → DesktopState
  | .save faults now input => (connectionSave host faults now input desktop).2
  | .duplicate faults now id newId newName =>
    (connectionDuplicate host faults now id newId newName desktop).2
  | .setEnvironment faults now id environment =>
    (setConnectionEnvironment faults now id environment desktop).2
  | .importFile faults now preserve uuid stamp connections =>
    (importFile host faults now preserve uuid stamp connections desktop).2
  | .delete faults now id => (deleteConnection faults now id desktop).2
  | .restore faults now id => (restoreConnection faults now id desktop).2
  | .purge faults id => (connectionPurge host faults id desktop).2

def connectionSystem (host : HostSystem) : System DesktopState ConnectionRequest :=
  .ofStep (fun desktop => desktop.connections = fun _ => none) fun desktop request =>
    some (answer host desktop request)

/-- The requests that write the environment of a local shell or of Telnet write one that is valid. -/
def ChecksRequest : ConnectionRequest → Prop
  | .save _ _ input => ChecksEnvironment input
  | .importFile _ _ _ _ _ connections => ∀ connection ∈ connections, ChecksEnvironment connection
  | _ => True

/-- The keys of the environment that say how a serial device is opened. -/
def optionEnvironmentKeys : List String :=
  ["CNSHELL_SERIAL_DATA_BITS", "CNSHELL_SERIAL_PARITY", "CNSHELL_SERIAL_STOP_BITS",
    "CNSHELL_SERIAL_FLOW_CONTROL", "CNSHELL_SERIAL_DTR", "CNSHELL_SERIAL_RTS"]

/-- The variables that a local shell or an SSH session is started with. -/
def sessionEnvironment (row : ConnectionRow) : List (String × String) :=
  row.environment.filter fun entry => entry.1 ∉ optionEnvironmentKeys

theorem sessionEnvironment_valid {row : ConnectionRow}
    (valid : validateEnvironment row.environment = .ok ()) :
    validateEnvironment (sessionEnvironment row) = .ok () := by
  rw [validateEnvironment, ensure_eq_ok] at valid ⊢
  exact fun entry member => valid entry (List.mem_of_mem_filter member)

theorem answer_valid {desktop : DesktopState} {request : ConnectionRequest}
    (before : ValidEnvironments desktop) (checks : ChecksRequest request) :
    ValidEnvironments (answer host desktop request) := by
  cases request with
  | save => exact connectionSave_valid checks desktop before
  | duplicate => exact connectionDuplicate_valid desktop before
  | setEnvironment => exact setConnectionEnvironment_valid desktop before
  | importFile => exact importFile_valid checks desktop before
  | delete => exact deleteConnection_valid desktop before
  | restore => exact restoreConnection_valid desktop before
  | purge => exact connectionPurge_valid desktop before

/--
No session is started with an unchecked variable, in any run whose local shells and Telnet connections
are saved and imported with valid environments.
-/
theorem environments_valid {trace : List (DesktopState × ConnectionRequest)} {desktop : DesktopState}
    (run : (connectionSystem host).Run trace desktop)
    (checks : ∀ entry ∈ trace, ChecksRequest entry.2) {id : String} {row : ConnectionRow}
    (stored : desktop.connections id = some row) :
    validateEnvironment row.environment = .ok () ∧ validateEnvironment (sessionEnvironment row) = .ok () := by
  have valid : ValidEnvironments desktop := by
    refine run.invariant (fun _ request => ChecksRequest request) ValidEnvironments ?_ ?_ checks
    · intro start empty id row stored
      rw [show start.connections = fun _ => none from empty] at stored
      cases stored
    · intro before request after kept good taken
      cases taken
      exact answer_valid kept good
  exact ⟨valid id row stored, sessionEnvironment_valid (valid id row stored)⟩

end Runs

namespace Demo

/-- A computer on which every path is a file. -/
def anyHost : HostSystem where
  os := .macos
  isFile _ := true
  create path := .ok path
  inspect _ := .ok ()
  parseRdp text := .error (.storage text)
  renderRdp options := options.connectionId

def newDesktop : DesktopState where
  connections _ := none
  folders _ := false
  proxies _ := false
  workspaceState _ := none
  vault _ := none
  secrets _ := none
  bookmarks _ := none
  certificateBookmarks _ := none
  rdpDriveBookmarks _ := none

def localShell (environment : List (String × String)) : SaveConnectionInput where
  id := "shell"
  folderId := none
  protocol := "local"
  name := "Shell"
  host := "localhost"
  port := 0
  username := "user"
  authType := "none"
  privateKeyPath := none
  certificatePath := none
  hostKeyPolicy := "strict"
  note := ""
  tags := []
  encoding := "UTF-8"
  startupCommand := none
  proxyId := none
  environment := environment
  credential := none

def saveShell (environment : List (String × String)) : ConnectionRequest :=
  .save (fun _ => none) "now" (localShell environment)

theorem run_saveShell (environment : List (String × String)) :
    (connectionSystem anyHost).Run [(newDesktop, saveShell environment)]
      (answer anyHost newDesktop (saveShell environment)) :=
  .snoc (.start rfl) rfl

/-- A session may be started with a variable that the check refuses. -/
theorem environments_unchecked : ¬∀ (trace : List (DesktopState × ConnectionRequest)) (desktop : DesktopState),
    (connectionSystem anyHost).Run trace desktop → ∀ id row, desktop.connections id = some row →
      validateEnvironment row.environment = .ok () := by
  intro valid
  have stored : (answer anyHost newDesktop (saveShell [("BAD NAME", "")])).connections "shell" =
      some (insertedRow "now" (localShell [("BAD NAME", "")]) none) := by decide
  have refused := valid _ _ (run_saveShell _) "shell" _ stored
  exact absurd (ensure_eq_ok.mp refused) (by decide)

/-- A session is started with the valid variables that a local shell is saved with. -/
theorem environments_valid_shell :
    validateEnvironment (insertedRow "now" (localShell [("EDITOR", "vi")]) none).environment = .ok () ∧
      validateEnvironment (sessionEnvironment
        (insertedRow "now" (localShell [("EDITOR", "vi")]) none)) = .ok () := by
  have stored : (answer anyHost newDesktop (saveShell [("EDITOR", "vi")])).connections "shell" =
      some (insertedRow "now" (localShell [("EDITOR", "vi")]) none) := by decide
  have checks : ChecksEnvironment (localShell [("EDITOR", "vi")]) :=
    fun _ => ensure_eq_ok.mpr (by decide)
  exact environments_valid (run_saveShell [("EDITOR", "vi")])
    (List.forall_mem_singleton.mpr checks) stored

end Demo

end Client

end CNShell
