import CNShell.Client.Backup
import CNShell.Library.Transition

/-! The WebDAV sync file: a server with ETags, the writers of its devices, and what becomes of every version. -/

namespace CNShell

namespace Client

/-- A content of a file, with the ETag the server shows for it. -/
structure Version where
  bytes : List UInt8
  etag : String
  deriving DecidableEq, Repr

/-- The contents that every file has had, the current one first. -/
abbrev DavServer := String → List Version

namespace DavServer

/-- The server may show an ETag for a content: a new one, or the old one of the very same content. -/
def Shows (server : DavServer) (name : String) (version : Version) : Prop :=
  version.etag ∉ (server name).map Version.etag ∨ (server name).head? = some version

instance (server : DavServer) (name : String) (version : Version) : Decidable (server.Shows name version) :=
  inferInstanceAs (Decidable (_ ∨ _))

def store (server : DavServer) (name : String) (version : Version) : DavServer :=
  if (server name).head? = some version then server
  else Function.update server name (version :: server name)

end DavServer

/-- The name of a conflict copy, of a time and a random token. -/
def conflictFile (stamp token : String) : String :=
  "CNshell-sync.conflict-" ++ stamp ++ "-" ++ token ++ ".cnshell.json"

/-- The most bytes that are read from the server. -/
def maxRemoteBytes : Nat := 50 * 1024 * 1024

/-- How far a call of `write` has come. -/
inductive WriterStage
  | reading
  /-- It has read a version and is to store it under the name of a conflict copy. -/
  | copying (existing : Version)
  /-- It is to store its package over a version that it has copied. -/
  | replacing (existing : Version)
  /-- It is to store its package where there was no file. -/
  | creating
  | ended (result : AppResult SyncResult)
  deriving DecidableEq

/-- A call of `write` with its package. -/
structure Writer where
  payload : List UInt8
  connectionCount : Nat
  stamp : String
  token : String
  stage : WriterStage
  deriving DecidableEq

namespace Writer

/-- The name of its conflict copy. -/
def conflict (writer : Writer) : String := conflictFile writer.stamp writer.token

/-- What it does after it has read the file, whose ETag may be missing in the answer. -/
def afterRead (current : Option Version) (readable : Bool) : WriterStage :=
  match current with
  | none => .creating
  | some version =>
    if maxRemoteBytes < version.bytes.length then
      .ended (.error (.validation "WebDAV 同步包不能超过 50 MB"))
    else if readable = true then .copying version
    else .ended (.error (.unavailable
      "WebDAV 服务器未提供 ETag，CNshell 拒绝覆盖可能已被其他设备修改的同步包"))

/-- The server has refused to store over what it has. -/
def refused : WriterStage := .ended (.error (.remote "WebDAV 同步冲突：远端文件已被其他设备修改，本次未覆盖"))

/-- The package is stored. -/
def succeeded (writer : Writer) (conflictCopy : Option String) : WriterStage :=
  .ended (.ok ⟨syncFile, conflictCopy, writer.connectionCount, true⟩)

end Writer

/-- The server, the writers of all devices, and the contents there have been. -/
structure DavSync where
  server : DavServer
  writers : List Writer
  spent : List (List UInt8)

/--
What happens: a request that the server carries out, for a writer that may not learn of it any more.

Where something is stored, the server chooses the ETag it shows for it.
-/
inductive DavEvent
  /-- The package is encrypted, with a salt and a nonce that no other package has. -/
  | start (payload : List UInt8) (connectionCount : Nat) (stamp token : String)
  | read (n : Nat) (readable : Bool)
  | copy (n : Nat) (etag : String)
  | replace (n : Nat) (etag : String)
  | create (n : Nat) (etag : String)
  /-- The writer is cancelled, or gets an error instead of an answer. -/
  | stop (n : Nat) (error : AppError)

namespace DavSync

def moveTo (sync : DavSync) (n : Nat) (writer : Writer) (stage : WriterStage) : DavSync :=
  { sync with writers := sync.writers.set n { writer with stage := stage } }

/-- A content is stored for a writer, where the server may show the ETag for it. -/
def put (sync : DavSync) (n : Nat) (writer : Writer) (name : String) (version : Version)
    (stage : WriterStage) : Option DavSync :=
  if sync.server.Shows name version then
    some { sync.moveTo n writer stage with server := sync.server.store name version }
  else none

def step (sync : DavSync) : DavEvent → Option DavSync
  | .start payload connectionCount stamp token =>
    if payload ∈ sync.spent then none
    else some { sync with
      writers := sync.writers ++ [⟨payload, connectionCount, stamp, token, .reading⟩]
      spent := payload :: sync.spent }
  | .read n readable => sync.writers[n]?.bind fun writer =>
    match writer.stage with
    | .reading => some (sync.moveTo n writer (Writer.afterRead (sync.server syncFile).head? readable))
    | _ => none
  | .copy n etag => sync.writers[n]?.bind fun writer =>
    match writer.stage with
    | .copying existing =>
      -- `If-None-Match: *`
      if sync.server writer.conflict = [] then
        sync.put n writer writer.conflict ⟨existing.bytes, etag⟩ (.replacing existing)
      else some (sync.moveTo n writer Writer.refused)
    | _ => none
  | .replace n etag => sync.writers[n]?.bind fun writer =>
    match writer.stage with
    | .replacing existing =>
      -- `If-Match` with the ETag that was read
      if (sync.server syncFile).head?.map Version.etag = some existing.etag then
        sync.put n writer syncFile ⟨writer.payload, etag⟩ (writer.succeeded (some writer.conflict))
      else some (sync.moveTo n writer Writer.refused)
    | _ => none
  | .create n etag => sync.writers[n]?.bind fun writer =>
    match writer.stage with
    | .creating =>
      -- `If-None-Match: *`
      if sync.server syncFile = [] then
        sync.put n writer syncFile ⟨writer.payload, etag⟩ (writer.succeeded none)
      else some (sync.moveTo n writer Writer.refused)
    | _ => none
  | .stop n error => sync.writers[n]?.map fun writer => sync.moveTo n writer (.ended (.error error))

/-- Nobody writes yet, and the sync file has at most its current content. -/
structure Opens (sync : DavSync) : Prop where
  writers : sync.writers = []
  current : (sync.server syncFile).length ≤ 1
  spent : ∀ version ∈ sync.server syncFile, version.bytes ∈ sync.spent

/-- The version that a writer's package is stored over, if an event does so: none where there was no file. -/
def replaced (sync : DavSync) : DavEvent → Option (Option String)
  | .replace n _ => sync.writers[n]?.bind fun writer =>
    match writer.stage with
    | .replacing existing =>
      if (sync.server syncFile).head?.map Version.etag = some existing.etag then some (some existing.etag)
      else none
    | _ => none
  | .create n _ => sync.writers[n]?.bind fun writer =>
    match writer.stage with
    | .creating => if sync.server syncFile = [] then some none else none
    | _ => none
  | _ => none

/-- The versions that packages were stored over in a run. -/
def bases (trace : List (DavSync × DavEvent)) : List (Option String) :=
  trace.filterMap fun entry => entry.1.replaced entry.2

/-- A content is the current one, or that of a conflict copy. -/
def Kept (sync : DavSync) (bytes : List UInt8) : Prop :=
  (∃ current, (sync.server syncFile).head? = some current ∧ current.bytes = bytes) ∨
    ∃ stamp token copy, (sync.server (conflictFile stamp token)).head? = some copy ∧ copy.bytes = bytes

end DavSync

/-- Any number of writers on one server. -/
def davSystem : System DavSync DavEvent := .ofStep DavSync.Opens DavSync.step

theorem getElem?_toList_append {first : String} (rest : String) {m : Nat} {c : Char}
    (there : first.toList[m]? = some c) : (first ++ rest).toList[m]? = some c := by
  rw [String.toList_append, List.getElem?_append_left (List.getElem?_eq_some_iff.mp there).1]
  exact there

theorem conflictFile_ne (stamp token : String) : conflictFile stamp token ≠ syncFile := by
  -- The names differ right after `CNshell-sync.c`.
  intro same
  have begins : "CNshell-sync.conflict-".toList[14]? = some 'o' := by decide
  have here : syncFile.toList[14]? = some 'n' := by decide
  have there : (conflictFile stamp token).toList[14]? = some 'o' :=
    getElem?_toList_append _ (getElem?_toList_append _ (getElem?_toList_append _
      (getElem?_toList_append _ begins)))
  rw [same] at there
  cases here.symm.trans there

namespace DavSync

variable {sync next : DavSync} {n : Nat} {writer : Writer}

/-- A content is that of a conflict copy. -/
def Copied (server : DavServer) (bytes : List UInt8) : Prop :=
  ∃ stamp token copy, (server (conflictFile stamp token)).head? = some copy ∧ copy.bytes = bytes

def Live (stage : WriterStage) : Prop := ∀ result, stage ≠ .ended result

/-- Every version but the current one is copied, and what the writers are about to do keeps it so. -/
structure Safe (sync : DavSync) : Prop where
  etags : ((sync.server syncFile).map Version.etag).Nodup
  copied : ∀ version ∈ (sync.server syncFile).tail, Copied sync.server version.bytes
  reads : ∀ writer ∈ sync.writers, ∀ existing,
    writer.stage = .copying existing ∨ writer.stage = .replacing existing → existing ∈ sync.server syncFile
  copies : ∀ writer ∈ sync.writers, ∀ existing, writer.stage = .replacing existing → Copied sync.server existing.bytes
  payloads : (sync.writers.map Writer.payload).Nodup
  packed : ∀ writer ∈ sync.writers, writer.payload ∈ sync.spent
  stored : ∀ version ∈ sync.server syncFile, version.bytes ∈ sync.spent
  unused : ∀ writer ∈ sync.writers, Live writer.stage → ∀ version ∈ sync.server syncFile,
    version.bytes ≠ writer.payload

variable {other : Writer} {stage : WriterStage}

theorem mem_moveTo (member : other ∈ (sync.moveTo n writer stage).writers) :
    (∃ m, m ≠ n ∧ sync.writers[m]? = some other) ∨ other = { writer with stage := stage } := by
  obtain ⟨m, found⟩ := List.mem_iff_getElem?.mp member
  simp only [moveTo, List.getElem?_set] at found
  split at found
  · split at found
    · exact .inr (Option.some.inj found).symm
    · cases found
  · next other => exact .inl ⟨m, fun same => other same.symm, found⟩

theorem payloads_moveTo (there : sync.writers[n]? = some writer) (stage : WriterStage) :
    (sync.moveTo n writer stage).writers.map Writer.payload = sync.writers.map Writer.payload := by
  refine List.ext_getElem? fun m => ?_
  simp only [moveTo, List.getElem?_map, List.getElem?_set]
  split
  · next here =>
    subst here
    rw [there]
    split <;> simp
    next beyond => exact absurd (List.getElem?_eq_some_iff.mp there).1 beyond
  · rfl

theorem Safe.payload_ne (safe : Safe sync) (there : sync.writers[n]? = some writer) {m : Nat}
    (found : sync.writers[m]? = some other) (apart : m ≠ n) : writer.payload ≠ other.payload := by
  intro same
  have inside : n < (sync.writers.map Writer.payload).length := by
    rw [List.length_map]
    exact (List.getElem?_eq_some_iff.mp there).1
  apply apart
  refine ((List.getElem?_inj inside safe.payloads).mp ?_).symm
  rw [List.getElem?_map, List.getElem?_map, there, found]
  exact congrArg some same

theorem Safe.moveTo (safe : Safe sync) (there : sync.writers[n]? = some writer)
    (reads : ∀ existing, stage = .copying existing ∨ stage = .replacing existing → existing ∈ sync.server syncFile)
    (copies : ∀ existing, stage = .replacing existing → Copied sync.server existing.bytes)
    (live : Live stage → Live writer.stage) : Safe (sync.moveTo n writer stage) where
  etags := safe.etags
  copied := safe.copied
  reads other member existing held := by
    rcases mem_moveTo member with ⟨_, -, old⟩ | rfl
    · exact safe.reads other (List.mem_of_getElem? old) existing held
    · exact reads existing held
  copies other member existing held := by
    rcases mem_moveTo member with ⟨_, -, old⟩ | rfl
    · exact safe.copies other (List.mem_of_getElem? old) existing held
    · exact copies existing held
  payloads := by
    rw [payloads_moveTo there]
    exact safe.payloads
  packed other member := by
    rcases mem_moveTo member with ⟨_, -, old⟩ | rfl
    · exact safe.packed other (List.mem_of_getElem? old)
    · exact safe.packed writer (List.mem_of_getElem? there)
  stored := safe.stored
  unused other member alive := by
    rcases mem_moveTo member with ⟨_, -, old⟩ | rfl
    · exact safe.unused other (List.mem_of_getElem? old) alive
    · exact safe.unused writer (List.mem_of_getElem? there) (live alive)

theorem Safe.ended (safe : Safe sync) (there : sync.writers[n]? = some writer)
    (result : AppResult SyncResult) : Safe (sync.moveTo n writer (.ended result)) :=
  safe.moveTo there (fun _ held => by rcases held with held | held <;> cases held) (fun _ held => by cases held)
    fun alive => absurd rfl (alive result)

/-- What an event does to the sync file: nothing, or a package is stored over its current version. -/
def Advances (sync : DavSync) (event : DavEvent) (next : DavSync) : Prop :=
  (next.server syncFile = sync.server syncFile ∧ sync.replaced event = none) ∨
    ∃ version, next.server syncFile = version :: sync.server syncFile ∧
      version.etag ∉ (sync.server syncFile).map Version.etag ∧
      sync.replaced event = some ((sync.server syncFile).head?.map Version.etag)

variable {server : DavServer}

theorem store_of_ne {name : String} {version : Version} (differs : (server name).head? ≠ some version) :
    server.store name version = Function.update server name (version :: server name) :=
  if_neg differs

theorem Copied.mono {after : DavServer} {bytes : List UInt8} (copied : Copied server bytes)
    (keeps : ∀ stamp token, server (conflictFile stamp token) ≠ [] →
      after (conflictFile stamp token) = server (conflictFile stamp token)) : Copied after bytes := by
  obtain ⟨stamp, token, held, first, same⟩ := copied
  refine ⟨stamp, token, held, ?_, same⟩
  rw [keeps stamp token]
  · exact first
  · intro empty
    rw [empty] at first
    cases first

theorem Safe.serve (safe : Safe sync) (same : server syncFile = sync.server syncFile)
    (keeps : ∀ {bytes}, Copied sync.server bytes → Copied server bytes) : Safe { sync with server := server } where
  etags := by simpa only [same] using safe.etags
  copied version member := keeps (safe.copied version (by simpa only [same] using member))
  reads other member existing held := by simpa only [same] using safe.reads other member existing held
  copies other member existing held := keeps (safe.copies other member existing held)
  payloads := safe.payloads
  packed := safe.packed
  stored version member := safe.stored version (by simpa only [same] using member)
  unused other member alive version held :=
    safe.unused other member alive version (by simpa only [same] using held)

variable {etag : String}

theorem Safe.copy (safe : Safe sync) (there : sync.writers[n]? = some writer) {existing : Version}
    (stage : writer.stage = .copying existing) (free : sync.server writer.conflict = [])
    (taken : sync.put n writer writer.conflict ⟨existing.bytes, etag⟩ (.replacing existing) = some next) :
    Safe next ∧ next.server syncFile = sync.server syncFile := by
  simp only [put, Option.ite_none_right_eq_some, Option.some.injEq] at taken
  obtain ⟨-, rfl⟩ := taken
  rw [store_of_ne (by simp [free])]
  let copy : Version := ⟨existing.bytes, etag⟩
  let after := Function.update sync.server writer.conflict (copy :: sync.server writer.conflict)
  have same : after syncFile = sync.server syncFile :=
    Function.update_of_ne (conflictFile_ne _ _).symm _ _
  -- The copies there were have other names.
  have onward : ∀ {bytes}, Copied sync.server bytes → Copied after bytes := by
    intro bytes copied
    refine copied.mono fun stamp token held => Function.update_of_ne ?_ _ _
    intro named
    rw [named] at held
    exact held free
  have here : Copied after existing.bytes := by
    refine ⟨writer.stamp, writer.token, copy, ?_, rfl⟩
    have stored : after writer.conflict = copy :: sync.server writer.conflict := Function.update_self ..
    exact congrArg List.head? stored
  have served := safe.serve same onward
  have member := List.mem_of_getElem? there
  refine ⟨served.moveTo there ?_ ?_ ?_, same⟩
  · intro other held
    obtain rfl : existing = other := by simpa using held
    exact served.reads writer member existing (.inl stage)
  · intro other held
    obtain rfl : existing = other := by simpa using held
    exact here
  · intro _ result held
    cases stage.symm.trans held

/-- A package that is stored over a version that is copied keeps every version safe. -/
theorem Safe.package (safe : Safe sync) (there : sync.writers[n]? = some writer)
    {result : AppResult SyncResult} (live : Live writer.stage)
    (first : ∀ version, (sync.server syncFile).head? = some version → Copied sync.server version.bytes)
    (taken : sync.put n writer syncFile ⟨writer.payload, etag⟩ (.ended result) = some next) :
    Safe next ∧ ∃ version, next.server syncFile = version :: sync.server syncFile ∧
      version.etag ∉ (sync.server syncFile).map Version.etag := by
  simp only [put, Option.ite_none_right_eq_some, Option.some.injEq] at taken
  obtain ⟨shows, rfl⟩ := taken
  let version : Version := ⟨writer.payload, etag⟩
  -- The file has never had this package, so its ETag is new.
  have differs : (sync.server syncFile).head? ≠ some version := fun current =>
    safe.unused writer (List.mem_of_getElem? there) live version (List.mem_of_mem_head? current) rfl
  have new : etag ∉ (sync.server syncFile).map Version.etag := shows.resolve_right differs
  rw [store_of_ne differs]
  let after := Function.update sync.server syncFile (version :: sync.server syncFile)
  have here : after syncFile = version :: sync.server syncFile := Function.update_self ..
  have onward : ∀ {bytes}, Copied sync.server bytes → Copied after bytes := fun copied =>
    copied.mono fun stamp token _ => Function.update_of_ne (conflictFile_ne stamp token) _ _
  have ended := safe.ended there result
  refine ⟨?_, version, here, new⟩
  constructor
  · change ((after syncFile).map Version.etag).Nodup
    rw [here]
    exact List.nodup_cons.mpr ⟨new, safe.etags⟩
  · intro old member
    change old ∈ (after syncFile).tail at member
    rw [here, List.tail_cons] at member
    -- What was current is copied by its writer, and what was not has been copied before.
    cases all : sync.server syncFile with
    | nil =>
      rw [all] at member
      cases member
    | cons current earlier =>
      rw [all] at member
      rcases List.mem_cons.mp member with rfl | before
      · exact onward (first _ (by rw [all]; rfl))
      · exact onward (safe.copied old (by rw [all]; exact before))
  · intro other member existing held
    change existing ∈ after syncFile
    rw [here]
    exact List.mem_cons_of_mem _ (ended.reads other member existing held)
  · intro other member existing held
    exact onward (ended.copies other member existing held)
  · exact ended.payloads
  · exact ended.packed
  · intro held member
    change held ∈ after syncFile at member
    rw [here] at member
    rcases List.mem_cons.mp member with rfl | old
    · exact safe.packed writer (List.mem_of_getElem? there)
    · exact safe.stored held old
  · intro other member alive held stored
    change held ∈ after syncFile at stored
    rw [here] at stored
    rcases List.mem_cons.mp stored with rfl | old
    · rcases mem_moveTo member with ⟨m, apart, found⟩ | rfl
      · exact safe.payload_ne there found apart
      · exact absurd rfl (alive result)
    · exact ended.unused other member alive held old

theorem Safe.current_eq (safe : Safe sync) {existing current : Version} (been : existing ∈ sync.server syncFile)
    (first : (sync.server syncFile).head? = some current) (same : current.etag = existing.etag) :
    current = existing :=
  List.inj_on_of_nodup_map safe.etags (List.mem_of_mem_head? first) been same

variable {event : DavEvent}

/-- Every event keeps every version safe, and does to the sync file what it says. -/
theorem Safe.step (safe : Safe sync) (taken : sync.step event = some next) : Safe next ∧ Advances sync event next := by
  cases event with
  | start payload connectionCount stamp token =>
    simp only [DavSync.step, Option.ite_none_left_eq_some, Option.some.injEq] at taken
    obtain ⟨fresh, rfl⟩ := taken
    refine ⟨?_, .inl ⟨rfl, rfl⟩⟩
    -- The new writer has read nothing, and nobody has its package.
    have cases_of : ∀ {other : Writer}, other ∈ sync.writers ++ [⟨payload, connectionCount, stamp, token, .reading⟩] →
        other ∈ sync.writers ∨ other = ⟨payload, connectionCount, stamp, token, .reading⟩ := by
      intro other member
      simpa using member
    constructor
    · exact safe.etags
    · exact safe.copied
    · intro other member existing held
      rcases cases_of member with old | rfl
      · exact safe.reads other old existing held
      · rcases held with held | held <;> cases held
    · intro other member existing held
      rcases cases_of member with old | rfl
      · exact safe.copies other old existing held
      · cases held
    · simp only [List.map_append, List.map_cons, List.map_nil]
      refine List.nodup_append.mpr ⟨safe.payloads, List.nodup_singleton _, ?_⟩
      rintro _ old _ last rfl
      obtain ⟨other, member, rfl⟩ := List.mem_map.mp old
      rw [List.mem_singleton] at last
      exact fresh (last ▸ safe.packed other member)
    · intro other member
      rcases cases_of member with old | rfl
      · exact List.mem_cons_of_mem _ (safe.packed other old)
      · exact List.mem_cons_self
    · intro version held
      exact List.mem_cons_of_mem _ (safe.stored version held)
    · intro other member alive version held
      rcases cases_of member with old | rfl
      · exact safe.unused other old alive version held
      · rintro rfl
        exact fresh (safe.stored version held)
  | read m readable =>
    simp only [DavSync.step, Option.bind_eq_some_iff] at taken
    obtain ⟨writer, there, taken⟩ := taken
    split at taken
    · next stage =>
      obtain rfl := Option.some.inj taken
      refine ⟨?_, .inl ⟨rfl, rfl⟩⟩
      have live : ∀ result, writer.stage ≠ .ended result := by
        intro result held
        cases stage.symm.trans held
      cases current : (sync.server syncFile).head? with
      | none =>
        exact safe.moveTo there (fun _ held => by rcases held with held | held <;> cases held)
          (fun _ held => by cases held) fun _ => live
      | some version =>
        simp only [Writer.afterRead]
        split
        · exact safe.ended there _
        · split
          · refine safe.moveTo there ?_ (fun _ held => by cases held) fun _ => live
            rintro existing (held | held)
            · cases held
              exact List.mem_of_mem_head? current
            · cases held
          · exact safe.ended there _
    · cases taken
  | copy m etag =>
    simp only [DavSync.step, Option.bind_eq_some_iff] at taken
    obtain ⟨writer, there, taken⟩ := taken
    split at taken
    · next existing stage =>
      split at taken
      · next free =>
        obtain ⟨kept, same⟩ := safe.copy there stage free taken
        exact ⟨kept, .inl ⟨same, rfl⟩⟩
      · obtain rfl := Option.some.inj taken
        exact ⟨safe.ended there _, .inl ⟨rfl, rfl⟩⟩
    · cases taken
  | replace m etag =>
    simp only [DavSync.step, Option.bind_eq_some_iff] at taken
    obtain ⟨writer, there, taken⟩ := taken
    have member := List.mem_of_getElem? there
    split at taken
    · next existing stage =>
      split at taken
      · next matched =>
        have live : Live writer.stage := fun result held => by cases stage.symm.trans held
        -- The version that is replaced is the one that the writer has copied.
        have first : ∀ version, (sync.server syncFile).head? = some version → Copied sync.server version.bytes := by
          intro version current
          rw [current, Option.map_some, Option.some.injEq] at matched
          rw [safe.current_eq (safe.reads writer member existing (.inr stage)) current matched]
          exact safe.copies writer member existing stage
        obtain ⟨kept, version, stored, new⟩ := safe.package there live first taken
        refine ⟨kept, .inr ⟨version, stored, new, ?_⟩⟩
        simp only [replaced, there, Option.bind_some, stage, matched, if_pos]
      · next unmatched =>
        obtain rfl := Option.some.inj taken
        refine ⟨safe.ended there _, .inl ⟨rfl, ?_⟩⟩
        simp only [replaced, there, Option.bind_some, stage, if_neg unmatched]
    · cases taken
  | create m etag =>
    simp only [DavSync.step, Option.bind_eq_some_iff] at taken
    obtain ⟨writer, there, taken⟩ := taken
    split at taken
    · next stage =>
      split at taken
      · next free =>
        have live : Live writer.stage := fun result held => by cases stage.symm.trans held
        have first : ∀ version, (sync.server syncFile).head? = some version → Copied sync.server version.bytes := by
          intro version current
          rw [free] at current
          cases current
        obtain ⟨kept, version, stored, new⟩ := safe.package there live first taken
        refine ⟨kept, .inr ⟨version, stored, new, ?_⟩⟩
        simp only [replaced, there, Option.bind_some, stage, free, if_pos, List.head?_nil, Option.map_none]
      · next taken' =>
        obtain rfl := Option.some.inj taken
        refine ⟨safe.ended there _, .inl ⟨rfl, ?_⟩⟩
        simp only [replaced, there, Option.bind_some, stage, if_neg taken']
    · cases taken
  | stop m error =>
    simp only [DavSync.step, Option.map_eq_some_iff] at taken
    obtain ⟨writer, there, rfl⟩ := taken
    exact ⟨safe.ended there _, .inl ⟨rfl, rfl⟩⟩

theorem Opens.safe (opens : Opens sync) : Safe sync where
  etags := by
    match all : sync.server syncFile with
    | [] => exact List.nodup_nil
    | [version] => exact List.nodup_singleton _
    | _ :: _ :: _ =>
      have short := opens.current
      rw [all] at short
      simp only [List.length_cons] at short
      omega
  copied version member := by
    have short := opens.current
    have tail := List.length_pos_of_mem member
    rw [List.length_tail] at tail
    omega
  reads := by simp [opens.writers]
  copies := by simp [opens.writers]
  payloads := by simp [opens.writers]
  packed := by simp [opens.writers]
  stored := opens.spent
  unused := by simp [opens.writers]

/-- What a run has done: what the sync file had is behind what it has, and no version is replaced twice. -/
structure Recorded (trace : List (DavSync × DavEvent)) (sync : DavSync) : Prop where
  safe : Safe sync
  been : ∀ entry ∈ trace, entry.1.server syncFile <:+ sync.server syncFile
  once : (bases trace).Nodup
  replaced : ∀ etag, some etag ∈ bases trace → etag ∈ (sync.server syncFile).tail.map Version.etag
  created : none ∈ bases trace → sync.server syncFile ≠ []

/-- What a run has done grows by what one more event does. -/
theorem Recorded.step {trace : List (DavSync × DavEvent)} (recorded : Recorded trace sync)
    (taken : sync.step event = some next) : Recorded (trace ++ [(sync, event)]) next := by
  obtain ⟨safe, advances⟩ := recorded.safe.step taken
  have grown : bases (trace ++ [(sync, event)]) = bases trace ++ (sync.replaced event).toList :=
    List.filterMap_append
  rcases advances with ⟨same, nothing⟩ | ⟨version, stored, new, based⟩
  · rw [nothing, Option.toList_none, List.append_nil] at grown
    refine ⟨safe, ?_, ?_, ?_, ?_⟩
    · intro entry member
      rw [same]
      rcases List.mem_append.mp member with old | last
      · exact recorded.been entry old
      · obtain rfl := List.mem_singleton.mp last
        exact List.suffix_refl _
    · rw [grown]
      exact recorded.once
    · rw [grown, same]
      exact recorded.replaced
    · rw [grown, same]
      exact recorded.created
  · rw [based, Option.toList_some] at grown
    have behind : sync.server syncFile <:+ next.server syncFile := by
      rw [stored]
      exact List.suffix_cons _ _
    -- The version that is replaced has not been replaced before: it was current until now.
    have unreplaced : (sync.server syncFile).head?.map Version.etag ∉ bases trace := by
      intro again
      cases all : sync.server syncFile with
      | nil =>
        rw [all] at again
        exact recorded.created again all
      | cons current earlier =>
        rw [all] at again
        have twice := recorded.replaced current.etag again
        have distinct := recorded.safe.etags
        rw [all] at twice distinct
        exact (List.nodup_cons.mp distinct).1 twice
    refine ⟨safe, ?_, ?_, ?_, ?_⟩
    · intro entry member
      rcases List.mem_append.mp member with old | last
      · exact (recorded.been entry old).trans behind
      · rw [List.mem_singleton] at last
        rw [last]
        exact behind
    · rw [grown]
      refine List.nodup_append.mpr ⟨recorded.once, List.nodup_singleton _, ?_⟩
      rintro base old _ last rfl
      rw [List.mem_singleton] at last
      exact unreplaced (last ▸ old)
    · intro etag member
      rw [stored, List.tail_cons]
      rw [grown] at member
      rcases List.mem_append.mp member with old | last
      · obtain ⟨replaced, held, rfl⟩ := List.mem_map.mp (recorded.replaced etag old)
        exact List.mem_map_of_mem (List.mem_of_mem_tail held)
      · obtain ⟨current, first, rfl⟩ := Option.map_eq_some_iff.mp (List.mem_singleton.mp last).symm
        exact List.mem_map_of_mem (List.mem_of_mem_head? first)
    · intro _ empty
      rw [stored] at empty
      cases empty

end DavSync

/-- Every content the sync file has had is still there or copied, and no version is written over twice. -/
theorem webdav_keeps {trace : List (DavSync × DavEvent)} {sync : DavSync} (run : davSystem.Run trace sync) :
    (∀ entry ∈ trace, ∀ version, (entry.1.server syncFile).head? = some version → sync.Kept version.bytes) ∧
      (DavSync.bases trace).Nodup := by
  have starts : ∀ start, DavSync.Opens start → DavSync.Recorded [] start := fun start opens =>
    ⟨opens.safe, by simp, by simp [DavSync.bases], by simp [DavSync.bases], by simp [DavSync.bases]⟩
  have recorded := run.history (fun _ _ => True) DavSync.Recorded starts
    (fun _ _ _ _ recorded _ taken => recorded.step taken) (fun _ _ => trivial)
  refine ⟨?_, recorded.once⟩
  intro entry member version first
  have been : version ∈ sync.server syncFile :=
    (recorded.been entry member).subset (List.mem_of_mem_head? first)
  cases all : sync.server syncFile with
  | nil =>
    rw [all] at been
    cases been
  | cons current earlier =>
    rw [all] at been
    rcases List.mem_cons.mp been with rfl | before
    · exact .inl ⟨version, by rw [all]; rfl, rfl⟩
    · exact .inr (recorded.safe.copied version (by rw [all]; exact before))

namespace Demo

/-- A server whose sync file has one content. -/
def synced : DavSync where
  server name := if name = syncFile then [⟨[1], "a"⟩] else []
  writers := []
  spent := [[1]]

/-- Two devices read the same version, and both try to store over it. -/
def racing : List DavEvent :=
  [.start [2] 1 "20260101-000000" "0a0a0a0a", .start [3] 1 "20260101-000000" "0b0b0b0b",
    .read 0 true, .read 1 true, .copy 0 "b", .copy 1 "c", .replace 1 "d", .replace 0 "e"]

/-- The second device succeeds, the first is refused, and the content there was is copied. -/
theorem webdav_keeps_racing : ∃ trace sync, davSystem.Run trace sync ∧
    sync.writers.map Writer.stage = [Writer.refused, .ended (.ok ⟨syncFile,
      some "CNshell-sync.conflict-20260101-000000-0b0b0b0b.cnshell.json", 1, true⟩)] ∧
    (sync.server syncFile).head? = some ⟨[3], "d"⟩ ∧ sync.Kept [1] ∧ (DavSync.bases trace).Nodup := by
  have goes : ∃ trace sync, System.trail DavSync.step synced racing = some (trace, sync) ∧
      sync.writers.map Writer.stage = [Writer.refused, .ended (.ok ⟨syncFile,
        some "CNshell-sync.conflict-20260101-000000-0b0b0b0b.cnshell.json", 1, true⟩)] ∧
      (sync.server syncFile).head? = some ⟨[3], "d"⟩ ∧
      trace.head?.bind (fun entry => (entry.1.server syncFile).head?) = some ⟨[1], "a"⟩ :=
    ⟨_, _, rfl, by decide, by decide, by decide⟩
  obtain ⟨trace, sync, trail, stages, current, first⟩ := goes
  have opens : DavSync.Opens synced := ⟨rfl, by decide, by decide⟩
  have run : davSystem.Run trace sync := System.Run.trail (.start opens : davSystem.Run [] synced) trail
  obtain ⟨kept, once⟩ := webdav_keeps run
  obtain ⟨entry, member, held⟩ := Option.bind_eq_some_iff.mp first
  exact ⟨trace, sync, run, stages, current, kept entry (List.mem_of_mem_head? member) ⟨[1], "a"⟩ held, once⟩

end Demo

end Client

end CNShell
