import CNShell.Library.Transition

/-! The remote text editor: its document, its drafts, external copies, and the file they come from. -/

namespace CNShell

namespace Frontend

/-- A version of the remote file, as `openText` returns it. -/
structure TextFile where
  content : String
  modifiedAt : Nat
  deriving DecidableEq, Repr

/-- A draft in the local storage. -/
structure TextDraft where
  content : String
  base : String
  modifiedAt : Option Nat
  deriving DecidableEq, Repr

/-- The three versions of a conflict view. -/
structure TextConflict where
  base : String
  localText : String
  remote : String
  remoteModifiedAt : Option Nat
  deriving DecidableEq, Repr

/-- How far an `openText` has come: it asks for the modification time, then it reads. -/
inductive Reading
  | asked
  | statted (modifiedAt : Nat)
  | answered (file : TextFile)
  | failed (message : String)
  deriving DecidableEq, Repr

/-- The errors of `saveText`. -/
inductive SaveError
  | modified
  | other (message : String)
  deriving DecidableEq, Repr

/-- How far a `persist` has come. -/
inductive SaveStage
  /-- `saveText` is under way. -/
  | sent
  /-- It succeeded, and its answer is under way. -/
  | saved
  /-- It failed, and its answer is under way. -/
  | refused (error : SaveError)
  /-- The file is read again after it was saved. -/
  | rereading (reading : Reading)
  /-- The file is read because another program had modified it. -/
  | comparing (reading : Reading)
  deriving DecidableEq, Repr

/-- A call of `persist` that has not returned. -/
structure Persist where
  generation : Nat
  revision : Nat
  value : String
  expected : Option Nat
  base : String
  imported : Bool
  stage : SaveStage
  deriving DecidableEq, Repr

/-- The first `openText` of a mounted editor, with the draft that was read before. -/
structure Load where
  generation : Nat
  draft : Option TextDraft
  reading : Reading
  deriving DecidableEq, Repr

/-- A copy for an external editor: the text it was made from, and the text it holds now. -/
structure ExternalEditSession where
  original : String
  text : String
  expectedModifiedAt : Nat
  deriving DecidableEq, Repr

/-- The document of one connection and path, its editor, its draft, and the remote file. -/
structure Document where
  mounted : Bool
  generation : Nat
  content : String
  revision : Nat
  saving : Bool
  base : String
  modifiedAt : Option Nat
  loading : Bool
  error : Option String
  saved : Bool
  conflict : Option TextConflict
  draftError : Option String
  draftReadError : Option String
  restoredDraft : Bool
  externalEdit : Option ExternalEditSession
  externalBusy : Bool
  /-- A `startExternalEdit` that has not returned. -/
  starting : Option Reading
  /-- The baseline at the click of an import whose `readExternalEdit` has not returned. -/
  importing : Option String
  loads : List Load
  persists : List Persist
  /-- The item of the local storage. -/
  draft : Option TextDraft
  remote : TextFile
  /-- The modification times the remote file has had. -/
  times : List Nat
  /-- The texts that were the editor's content or shown in a conflict view. -/
  seen : List String
  /-- The texts that the editor wrote to the remote file or took from it as its baseline, or empty. -/
  recorded : List String
  /-- The texts the user typed and neither typed over nor gave up. -/
  typed : List String

/-- A remote file that was never opened, with nothing stored for it. -/
def Document.closed (remote : TextFile) : Document where
  mounted := false
  generation := 0
  content := ""
  revision := 0
  saving := false
  base := ""
  modifiedAt := none
  loading := true
  error := none
  saved := false
  conflict := none
  draftError := none
  draftReadError := none
  restoredDraft := false
  externalEdit := none
  externalBusy := false
  starting := none
  importing := none
  loads := []
  persists := []
  draft := none
  remote := remote
  times := [remote.modifiedAt]
  seen := [""]
  recorded := [""]
  typed := []

/-- What an operation on the local storage or on a file comes to; a failure has its text. -/
abbrev Outcome := Except String Unit

/-- Where an `openText` is under way. -/
inductive ReadingPlace
  | load (i : Nat)
  | persist (k : Nat)
  | starting
  deriving DecidableEq, Repr

/-- What `saveText` comes to at the server; it may write and its answer be lost. -/
inductive Served
  | fails (message : String)
  | runs (modifiedAt : Nat) (answer : Outcome)

/-- What the user, the editor's promises, the server and other programs do. -/
inductive EditorEvent
  /-- The editor is mounted; the draft may not be readable. -/
  | «open» (read : Outcome)
  | loaded (i : Nat)
  | edit (value : String)
  | save
  | keepEditing
  | useRemote
  | overwrite
  | startExternal
  | started
  /-- Another application writes the copy. -/
  | externalWrite (text : String)
  | importExternal
  | imported (read : Outcome)
  | discardExternal
  /-- A `saveText` reaches the server. -/
  | serve (k : Nat) (served : Served)
  /-- The answer of a `saveText` arrives. -/
  | answered (k : Nat)
  /-- The file a `persist` has read arrives; afterwards a copy is discarded. -/
  | reread (k : Nat) (discarded : Outcome)
  /-- An `openText` moves on at the server. -/
  | read (place : ReadingPlace)
  | readFails (place : ReadingPlace) (message : String)
  /-- The path or the session changes, or the draft is kept and the editor closed. -/
  | leave (confirmed : Bool)
  /-- The editor is closed without saving. -/
  | close (confirmed confirmedCopy : Bool)
  /-- Another program writes the remote file. -/
  | foreign (file : TextFile)

/-- An event, and what comes of the draft's storing if the event leads to it. -/
structure EditorLabel where
  event : EditorEvent
  stored : Outcome := .ok ()

namespace Document

/-- The editor's content becomes another text. -/
def setContent (document : Document) (value : String) : Document :=
  if value = document.content then document
  else { document with revision := document.revision + 1, content := value, saved := false }

@[simp] theorem setContent_content (document : Document) (value : String) :
    (document.setContent value).content = value := by
  unfold setContent
  split
  · next same => exact same.symm
  · rfl

@[simp] theorem setContent_mounted (document : Document) (value : String) :
    (document.setContent value).mounted = document.mounted := by
  unfold setContent
  split <;> rfl

@[simp] theorem setContent_loading (document : Document) (value : String) :
    (document.setContent value).loading = document.loading := by
  unfold setContent
  split <;> rfl

@[simp] theorem setContent_draft (document : Document) (value : String) :
    (document.setContent value).draft = document.draft := by
  unfold setContent
  split <;> rfl

@[simp] theorem setContent_draftReadError (document : Document) (value : String) :
    (document.setContent value).draftReadError = document.draftReadError := by
  unfold setContent
  split <;> rfl

@[simp] theorem setContent_times (document : Document) (value : String) :
    (document.setContent value).times = document.times := by
  unfold setContent
  split <;> rfl

@[simp] theorem setContent_remote (document : Document) (value : String) :
    (document.setContent value).remote = document.remote := by
  unfold setContent
  split <;> rfl

def preserveDraft (document : Document) (stored : Outcome) : Document × Bool :=
  if document.loading = true then (document, true)
  else if document.draftReadError.isSome = true then (document, false)
  else
    match stored with
    | .ok () =>
      ({ document with
        draft :=
          if document.content = document.base then none
          else some ⟨document.content, document.base, document.modifiedAt⟩
        draftError := none }, true)
    | .error text =>
      ({ document with
        draftError := some ("本地草稿保存失败，请先保存远端文件或明确放弃修改：" ++ text) }, false)

def discardDraft (document : Document) (stored : Outcome) : Document × Bool :=
  match stored with
  | .ok () => ({ document with draft := none, draftError := none, draftReadError := none }, true)
  | .error text => ({ document with draftError := some ("本地草稿清理失败：" ++ text) }, false)

/-- Begins to save a text, unless another save is under way. -/
def persist (document : Document) (expected : Option Nat) (value base : String) (imported : Bool) : Document :=
  if document.saving = true then
    -- The call returns at once, and with it an import.
    if imported = true then { document with externalBusy := false } else document
  else
    { document with
      saving := true
      error := none
      saved := false
      persists := document.persists ++
        [⟨document.generation, document.revision, value, expected, base, imported, .sent⟩] }

/-- Some operation of the editor is under way. -/
def busy (document : Document) : Bool := document.saving || document.externalBusy

/-- The editor shows its content: it is mounted and loaded. -/
def shown (document : Document) : Prop := document.mounted = true ∧ document.loading = false

instance (document : Document) : Decidable document.shown := inferInstanceAs (Decidable (_ ∧ _))

/-- Takes a version of the remote file as content and baseline. -/
def accept (document : Document) (file : TextFile) : Document :=
  { document.setContent file.content with
    base := file.content
    modifiedAt := some file.modifiedAt
    restoredDraft := false }

@[simp] theorem accept_content (document : Document) (file : TextFile) :
    (document.accept file).content = file.content :=
  setContent_content document file.content

/-- The first version of the file arrives. -/
def afterLoad (document : Document) (draft : Option TextDraft) (file : TextFile) : Document :=
  match draft with
  | none => document.accept file
  | some draft =>
    if draft.content = file.content then document.accept file
    else if draft.base = file.content then
      { document with modifiedAt := some file.modifiedAt }
    else
      { document with
        conflict := some ⟨draft.base, draft.content, file.content, some file.modifiedAt⟩ }

/-- A `persist` returns: the editor can save again, and an import is over. -/
def finish (document : Document) (persist : Persist) : Document :=
  { document with
    saving := false
    externalBusy := if persist.imported = true then false else document.externalBusy }

/-- The saved file was read again. -/
def afterReread (document : Document) (persist : Persist) (file : TextFile) : Document :=
  let unchanged : Bool := persist.revision = document.revision
  let renewed := if unchanged = true then document.setContent file.content else document
  { renewed with
    base := file.content
    modifiedAt := some file.modifiedAt
    conflict := none
    saved := unchanged
    draftReadError := none }

def dropCopy (document : Document) (persist : Persist) (discarded : Outcome) : Document :=
  if persist.imported = true then
    match discarded with
    | .ok () => { document with externalEdit := none }
    | .error text => { document with error := some text }
  else document

@[simp] theorem dropCopy_content (document : Document) (persist : Persist) (discarded : Outcome) :
    (document.dropCopy persist discarded).content = document.content := by
  unfold dropCopy
  split
  · cases discarded <;> rfl
  · rfl

@[simp] theorem dropCopy_base (document : Document) (persist : Persist) (discarded : Outcome) :
    (document.dropCopy persist discarded).base = document.base := by
  unfold dropCopy
  split
  · cases discarded <;> rfl
  · rfl

/-- The file that another program had modified was read. -/
def afterComparing (document : Document) (persist : Persist) (file : TextFile) : Document :=
  let localText := if persist.revision = document.revision then persist.value else document.content
  { document.setContent localText with
    conflict := some ⟨persist.base, localText, file.content, some file.modifiedAt⟩ }

/-- An `openText` moves on: it sees the modification time, then the content. -/
def progress (document : Document) : Reading → Option Reading
  | .asked => some (.statted document.remote.modifiedAt)
  | .statted modifiedAt => some (.answered ⟨document.remote.content, modifiedAt⟩)
  | .answered _ => none
  | .failed _ => none

/-- An `openText` fails before it has its answer. -/
def breakOff (message : String) : Reading → Option Reading
  | .asked => some (.failed message)
  | .statted _ => some (.failed message)
  | .answered _ => none
  | .failed _ => none

/-- Moves on the `openText` at some place. -/
def moveOn (document : Document) (onward : Reading → Option Reading) : ReadingPlace → Option Document
  | .load i =>
    (document.loads[i]?).bind fun load => (onward load.reading).map fun reading =>
      { document with loads := document.loads.set i { load with reading } }
  | .persist k =>
    (document.persists[k]?).bind fun persist =>
      match persist.stage with
      | .rereading reading => (onward reading).map fun reading =>
        { document with
          persists := document.persists.set k { persist with stage := .rereading reading } }
      | .comparing reading => (onward reading).map fun reading =>
        { document with
          persists := document.persists.set k { persist with stage := .comparing reading } }
      | _ => none
  | .starting =>
    document.starting.bind fun reading => (onward reading).map fun reading =>
      { document with starting := some reading }

/-- The editor is mounted and begins to load, from the draft if there is one. -/
def mount (document : Document) (read : Outcome) : Document :=
  let generation := document.generation + 1
  let blank := { document with
    mounted := true
    generation
    content := ""
    revision := 0
    saving := false
    base := ""
    modifiedAt := none
    loading := true
    error := none
    saved := false
    conflict := none
    draftError := none
    draftReadError := none
    restoredDraft := false
    externalEdit := none
    externalBusy := false
    starting := none
    importing := none }
  match read with
  | .error text =>
    { blank with
      draftReadError := some ("读取本地草稿失败，原草稿仍保留：" ++ text)
      loads := document.loads ++ [⟨generation, none, .asked⟩] }
  | .ok () =>
    match document.draft with
    | none => { blank with loads := document.loads ++ [⟨generation, none, .asked⟩] }
    | some draft =>
      { blank.setContent draft.content with
        base := draft.base
        modifiedAt := draft.modifiedAt
        restoredDraft := true
        loads := document.loads ++ [⟨generation, some draft, .asked⟩] }

/-- The first `openText` returns. -/
def loaded (document : Document) (i : Nat) : Option Document :=
  (document.loads[i]?).bind fun load =>
    let rest := { document with loads := document.loads.eraseIdx i }
    if document.mounted = true ∧ load.generation = document.generation then
      match load.reading with
      | .answered file => some { rest.afterLoad load.draft file with loading := false }
      | .failed message => some { rest with error := some message, loading := false }
      | _ => none
    else
      match load.reading with
      | .answered _ | .failed _ => some rest
      | _ => none

/-- A `saveText` reaches the server, which checks the modification time and writes. -/
def serve (document : Document) (k : Nat) (served : Served) : Option Document :=
  (document.persists[k]?).bind fun persist =>
    if persist.stage = .sent then
      let move (stage : SaveStage) : Document :=
        { document with persists := document.persists.set k { persist with stage } }
      match served with
      | .fails message => some (move (.refused (.other message)))
      | .runs modifiedAt answer =>
        if persist.expected ≠ none ∧ persist.expected ≠ some document.remote.modifiedAt then
          some (move (.refused .modified))
        else
          let stage := match answer with
            | .ok () => .saved
            | .error message => .refused (.other message)
          some { move stage with
            remote := ⟨persist.value, modifiedAt⟩
            times := modifiedAt :: document.times }
    else none

/-- The answer of a `saveText` arrives. -/
def answered (document : Document) (k : Nat) : Option Document :=
  (document.persists[k]?).bind fun persist =>
    let rest := { document with persists := document.persists.eraseIdx k }
    let move (stage : SaveStage) : Document :=
      { document with persists := document.persists.set k { persist with stage } }
    let current : Bool := document.mounted = true ∧ persist.generation = document.generation
    match persist.stage with
    | .saved => some (if current = true then move (.rereading .asked) else rest)
    | .refused .modified => some (if current = true then move (.comparing .asked) else rest)
    | .refused (.other message) =>
      some (if current = true then { rest with error := some message }.finish persist else rest)
    | _ => none

/-- The file that a `persist` has read arrives. -/
def reread (document : Document) (k : Nat) (discarded : Outcome) : Option Document :=
  (document.persists[k]?).bind fun persist =>
    let rest := { document with persists := document.persists.eraseIdx k }
    let current : Bool := document.mounted = true ∧ persist.generation = document.generation
    match persist.stage with
    | .rereading (.answered file) =>
      some (if current = true then
        ((rest.afterReread persist file).dropCopy persist discarded).finish persist else rest)
    | .comparing (.answered file) =>
      some (if current = true then (rest.afterComparing persist file).finish persist else rest)
    | .rereading (.failed message) | .comparing (.failed message) =>
      some (if current = true then { rest with error := some message }.finish persist else rest)
    | _ => none

/-- The editor asks whether it can be left, after it has stored the draft. -/
def leave (document : Document) (stored : Outcome) (confirmed : Bool) : Document :=
  if document.busy = true then
    { document with error := some "正在处理文件，请等待操作完成后关闭" }
  else if document.externalEdit ≠ none then
    { document with error := some "外部编辑副本尚未回传，请先回传或放弃副本" }
  else
    match document.preserveDraft stored with
    | (kept, false) => kept
    | (kept, true) =>
      if document.content = document.base ∨ confirmed = true then
        { kept with mounted := false, generation := document.generation + 1 }
      else kept

/-- The editor is closed without saving, if the user confirms what is lost. -/
def close (document : Document) (stored : Outcome) (confirmed confirmedCopy : Bool) : Document :=
  if document.busy = true then
    { document with error := some "正在保存文件，请等待保存完成后关闭" }
  else if (document.content ≠ document.base ∨ document.draftReadError ≠ none) ∧ confirmed = false then
    document
  else if document.externalEdit ≠ none ∧ confirmedCopy = false then document
  else
    match document.discardDraft stored with
    | (kept, false) => kept
    | (discarded, true) =>
      { discarded with
        mounted := false
        generation := document.generation + 1
        externalEdit := none }

/-- What an event does, without the effect that stores the draft afterwards. -/
def handle (document : Document) (label : EditorLabel) : Option Document :=
  match label.event with
  | .open read => if document.mounted = false then some (document.mount read) else none
  | .loaded i => document.loaded i
  | .edit value =>
    if document.shown ∧ document.conflict = none then some (document.setContent value) else none
  | .save =>
    if document.shown ∧ document.busy = false ∧ document.content ≠ document.base then
      some (document.persist document.modifiedAt document.content document.base false)
    else none
  | .keepEditing =>
    if document.shown ∧ document.conflict ≠ none then some { document with conflict := none } else none
  | .useRemote =>
    if document.shown then
      document.conflict.map fun conflict =>
        { document.setContent conflict.remote with
          base := conflict.remote
          modifiedAt := conflict.remoteModifiedAt
          conflict := none }
    else none
  | .overwrite =>
    if document.shown then
      document.conflict.map fun conflict =>
        (document.setContent conflict.localText).persist conflict.remoteModifiedAt
          conflict.localText document.base false
    else none
  | .startExternal =>
    if document.shown ∧ document.conflict = none ∧ document.busy = false ∧
        document.externalEdit = none then
      some { document with externalBusy := true, starting := some .asked }
    else none
  | .started =>
    match document.starting with
    | some (.answered file) =>
      some { document with
        externalEdit := some ⟨file.content, file.content, file.modifiedAt⟩
        externalBusy := false
        starting := none }
    | some (.failed message) =>
      some { document with error := some message, externalBusy := false, starting := none }
    | _ => none
  | .externalWrite text =>
    document.externalEdit.map fun copy => { document with externalEdit := some { copy with text } }
  | .importExternal =>
    if document.shown ∧ document.busy = false ∧ document.externalEdit ≠ none then
      some { document with externalBusy := true, importing := some document.base }
    else none
  | .imported read =>
    document.importing.bind fun base => document.externalEdit.map fun copy =>
      let rest := { document with importing := none }
      match read with
      | .ok () => rest.persist (some copy.expectedModifiedAt) copy.text base true
      | .error text => { rest with error := some text, externalBusy := false }
  | .discardExternal =>
    if document.shown ∧ document.busy = false ∧ document.externalEdit ≠ none then
      some { document with externalEdit := none }
    else none
  | .serve k served => document.serve k served
  | .answered k => document.answered k
  | .reread k discarded => document.reread k discarded
  | .read place => document.moveOn document.progress place
  | .readFails place message => document.moveOn (breakOff message) place
  | .leave confirmed =>
    if document.mounted = true then some (document.leave label.stored confirmed) else none
  | .close confirmed confirmedCopy =>
    if document.mounted = true then some (document.close label.stored confirmed confirmedCopy)
    else none
  | .foreign file =>
    -- Every write of another program gets a new modification time.
    if file.modifiedAt ∉ document.times then
      some { document with remote := file, times := file.modifiedAt :: document.times }
    else none

/-- The effect that stores the draft whenever what it stores has changed. -/
def settle (before after : Document) (stored : Outcome) : Document :=
  if after.shown ∧ (after.loading ≠ before.loading ∨ after.draftReadError ≠ before.draftReadError ∨
      after.content ≠ before.content ∨ after.base ≠ before.base ∨
      after.modifiedAt ≠ before.modifiedAt) then
    (after.preserveDraft stored).1
  else after

theorem settle_shows (before after : Document) (stored : Outcome) :
    (settle before after stored).content = after.content ∧
      (settle before after stored).conflict = after.conflict ∧
      (settle before after stored).base = after.base ∧
      (settle before after stored).mounted = after.mounted := by
  unfold settle preserveDraft
  cases stored <;> (repeat' split) <;> exact ⟨rfl, rfl, rfl, rfl⟩

/-- The save that a `saveText` writes at the server, if it does. -/
def writes (document : Document) : EditorEvent → Option Persist
  | .serve k (.runs _ _) =>
    (document.persists[k]?).filter fun persist =>
      persist.stage = .sent ∧ (persist.expected = none ∨ persist.expected = some document.remote.modifiedAt)
  | _ => none

/-- The texts the user has typed, after an event that typed one or gave some up. -/
def retype (before after : Document) (event : EditorEvent) : List String :=
  match event with
  | .edit value =>
    if value = before.content then before.typed
    else value :: before.typed.filter fun text => text ≠ before.content
  | .useRemote => before.typed.filter fun text => text ≠ before.content
  | .overwrite =>
    before.typed.filter fun text => text ≠ before.content ∨ some text = before.conflict.map (·.localText)
  | .close _ _ =>
    if after.mounted = true then before.typed
    else
      before.typed.filter fun text => text ≠ before.content ∧
        (before.draftReadError = none ∨ some text ≠ before.draft.map TextDraft.content)
  | _ => before.typed

/-- Remembers what the editor has shown, what it has written or taken over, and what was typed. -/
def remember (before after : Document) (event : EditorEvent) : Document :=
  { after with
    seen := after.content :: (after.conflict.map TextConflict.remote).toList ++ before.seen
    recorded := after.base :: ((before.writes event).map Persist.value).toList ++ before.recorded
    typed := retype before after event }

end Document

/-- One event, if it can happen. -/
def editorStep (document : Document) (label : EditorLabel) : Option Document :=
  (document.handle label).map fun after =>
    Document.remember document (Document.settle document after label.stored) label.event

/-- The editor of a remote file, from before it is opened first. -/
def editorSystem : System Document EditorLabel :=
  .ofStep (fun document => ∃ remote, document = .closed remote) editorStep

end Frontend

end CNShell
