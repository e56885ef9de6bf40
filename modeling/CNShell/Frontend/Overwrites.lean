import CNShell.Frontend.Editor
import Mathlib.Data.List.Basic

/-! Saves of the remote text editor and the versions they overwrite. -/

namespace CNShell

namespace Frontend

/-- A modification time under which the file, if it is its present one, holds a text that is known. -/
structure Backed (seen texts : List String) (times : List Nat) (remote : TextFile) (time : Nat) :
    Prop where
  listed : time ∈ times
  known : remote.modifiedAt = time → remote.content ∈ texts ∨ remote.content ∈ seen

/-- What an `openText` has seen belongs to the file or to a version that is gone. -/
def Reading.Backed (seen : List String) (times : List Nat) (remote : TextFile) : Reading → Prop
  | statted modifiedAt => modifiedAt ∈ times
  | answered file => Frontend.Backed seen [file.content] times remote file.modifiedAt
  | _ => True

structure TextDraft.Backed (seen : List String) (times : List Nat) (remote : TextFile)
    (draft : TextDraft) : Prop where
  content : draft.content ∈ seen
  base : draft.base ∈ seen
  modifiedAt : ∀ time ∈ draft.modifiedAt, Frontend.Backed seen [] times remote time

/-- A `persist` saves over a version that was seen, and saves a text that was, unless it imports. -/
structure Persist.Backed (seen : List String) (times : List Nat) (remote : TextFile)
    (persist : Persist) : Prop where
  value : persist.imported = false → persist.value ∈ seen
  expected : persist.stage = .sent → ∃ time, persist.expected = some time ∧ Frontend.Backed seen [] times remote time
  reading : ∀ reading, persist.stage = .rereading reading ∨ persist.stage = .comparing reading →
    reading.Backed seen times remote

structure TextConflict.Backed (seen : List String) (times : List Nat) (remote : TextFile)
    (conflict : TextConflict) : Prop where
  localText : conflict.localText ∈ seen
  remoteText : conflict.remote ∈ seen
  remoteModifiedAt : ∃ time, conflict.remoteModifiedAt = some time ∧ Frontend.Backed seen [] times remote time

/-- Whatever time the editor may save against, the version it belongs to was seen. -/
structure Trusted (seen : List String) (document : Document) : Prop where
  blank : "" ∈ seen
  content : document.content ∈ seen
  base : document.base ∈ seen
  modifiedAt : ∀ time ∈ document.modifiedAt, Backed seen [] document.times document.remote time
  conflict : ∀ conflict ∈ document.conflict, conflict.Backed seen document.times document.remote
  draft : ∀ draft ∈ document.draft, draft.Backed seen document.times document.remote
  loads : ∀ load ∈ document.loads, (∀ draft ∈ load.draft,
    draft.Backed seen document.times document.remote) ∧ load.reading.Backed seen document.times document.remote
  persists : ∀ persist ∈ document.persists, persist.Backed seen document.times document.remote
  starting : ∀ reading ∈ document.starting, reading.Backed seen document.times document.remote
  copy : ∀ copy ∈ document.externalEdit,
    Backed seen [copy.original] document.times document.remote copy.expectedModifiedAt
  current : document.remote.modifiedAt ∈ document.times

/--
A save knows which version it expects, an import one that was seen; a save of a text that was not
gets a new time; and what is read again behind newer edits is a text that was seen.
-/
def Reviewed (document : Document) : EditorEvent → Prop
  | .save => document.modifiedAt ≠ none
  | .imported (.ok ()) => document.saving = false → ∀ copy ∈ document.externalEdit, copy.original ∈ document.seen
  | .serve k (.runs modifiedAt answer) =>
      ∀ persist ∈ document.writes (.serve k (.runs modifiedAt answer)),
        persist.value ∈ document.seen ∨ modifiedAt ∉ document.times
  | .reread k _ => ∀ persist, document.persists[k]? = some persist → ∀ file,
      persist.stage = .rereading (.answered file) → document.mounted = true →
      persist.generation = document.generation → persist.revision ≠ document.revision → file.content ∈ document.seen
  | _ => True

section Backing

variable {seen wider texts : List String} {times later : List Nat} {remote now : TextFile} {time : Nat}

theorem Backed.of_seen (backed : Backed seen texts times remote time)
    (known : ∀ text ∈ texts, text ∈ seen) : Backed seen [] times remote time :=
  ⟨backed.listed, fun same => .inr ((backed.known same).elim (known _) id)⟩

/-- What is done to the file and to what was seen keeps a known version known. -/
structure Keeps (seen wider : List String) (times later : List Nat) (remote now : TextFile) : Prop where
  grows : seen ⊆ wider
  lists : times ⊆ later
  known : ∀ time ∈ times, now.modifiedAt = time →
    now.content ∈ wider ∨ remote.modifiedAt = time ∧ now.content = remote.content

theorem Backed.keeps (backed : Backed seen texts times remote time)
    (keeps : Keeps seen wider times later remote now) : Backed wider texts later now time := by
  refine ⟨keeps.lists backed.listed, fun same => ?_⟩
  rcases keeps.known time backed.listed same with there | ⟨before, kept⟩
  · exact .inr there
  · rw [kept]
    exact (backed.known before).imp_right fun old => keeps.grows old

theorem Reading.Backed.keeps {reading : Reading} (backed : reading.Backed seen times remote)
    (keeps : Keeps seen wider times later remote now) : reading.Backed wider later now := by
  cases reading with
  | asked => trivial
  | statted modifiedAt => exact keeps.lists backed
  | answered file => exact Frontend.Backed.keeps backed keeps
  | failed message => trivial

theorem TextDraft.Backed.keeps {draft : TextDraft} (backed : draft.Backed seen times remote)
    (keeps : Keeps seen wider times later remote now) : draft.Backed wider later now :=
  ⟨keeps.grows backed.content, keeps.grows backed.base, fun time held => (backed.modifiedAt time held).keeps keeps⟩

theorem Persist.Backed.keeps {persist : Persist} (backed : persist.Backed seen times remote)
    (keeps : Keeps seen wider times later remote now) : persist.Backed wider later now := by
  refine ⟨fun own => keeps.grows (backed.value own), fun sent => ?_,
    fun reading reads => (backed.reading reading reads).keeps keeps⟩
  obtain ⟨time, expects, known⟩ := backed.expected sent
  exact ⟨time, expects, known.keeps keeps⟩

theorem TextConflict.Backed.keeps {conflict : TextConflict}
    (backed : conflict.Backed seen times remote)
    (keeps : Keeps seen wider times later remote now) : conflict.Backed wider later now := by
  obtain ⟨time, shown, known⟩ := backed.remoteModifiedAt
  exact ⟨keeps.grows backed.localText, keeps.grows backed.remoteText, time, shown, known.keeps keeps⟩

theorem Keeps.of_seen (grows : seen ⊆ wider) : Keeps seen wider times times remote remote :=
  ⟨grows, List.Subset.refl _, fun _ _ same => .inr ⟨same, rfl⟩⟩

end Backing

section Handling

variable {seen wider : List String} {document after : Document}

theorem Trusted.keeps {remote : TextFile} {times : List Nat} (trusted : Trusted seen document)
    (keeps : Keeps seen wider document.times times document.remote remote)
    (current : remote.modifiedAt ∈ times) : Trusted wider { document with remote, times } where
  blank := keeps.grows trusted.blank
  content := keeps.grows trusted.content
  base := keeps.grows trusted.base
  modifiedAt time held := (trusted.modifiedAt time held).keeps keeps
  conflict conflict shown := (trusted.conflict conflict shown).keeps keeps
  draft draft stored := (trusted.draft draft stored).keeps keeps
  loads load member := ⟨fun draft held => ((trusted.loads load member).1 draft held).keeps keeps,
    (trusted.loads load member).2.keeps keeps⟩
  persists persist member := (trusted.persists persist member).keeps keeps
  starting reading held := (trusted.starting reading held).keeps keeps
  copy copy held := (trusted.copy copy held).keeps keeps
  current := current

theorem Trusted.widen (trusted : Trusted seen document) (grows : seen ⊆ wider) : Trusted wider document :=
  trusted.keeps (.of_seen grows) trusted.current

theorem Trusted.setContent (trusted : Trusted seen document) {value : String} (known : value ∈ seen) :
    Trusted seen (document.setContent value) := by
  unfold Document.setContent
  split
  · exact trusted
  · exact { trusted with content := known }

theorem Trusted.preserveDraft (trusted : Trusted seen document) (stored : Outcome) :
    Trusted seen (document.preserveDraft stored).1 := by
  unfold Document.preserveDraft
  split
  · exact trusted
  split
  · exact trusted
  cases stored with
  | error text => exact { trusted with }
  | ok stored =>
    refine { trusted with draft := ?_ }
    intro draft held
    simp only at held
    split at held
    · cases held
    · cases held
      exact ⟨trusted.content, trusted.base, trusted.modifiedAt⟩

theorem Trusted.discardDraft (trusted : Trusted seen document) (stored : Outcome) :
    Trusted seen (document.discardDraft stored).1 := by
  cases stored with
  | error text => exact { trusted with }
  | ok stored => exact { trusted with draft := nofun }

theorem Trusted.persist (trusted : Trusted seen document) {expected : Option Nat}
    {value base : String} {imported : Bool} (own : imported = false → value ∈ seen)
    (expects : document.saving = false → ∃ time, expected = some time ∧
      Backed seen [] document.times document.remote time) :
    Trusted seen (document.persist expected value base imported) := by
  unfold Document.persist
  split
  · split
    · exact { trusted with }
    · exact trusted
  · next free =>
    refine { trusted with persists := ?_ }
    intro persist member
    rcases List.mem_append.mp member with old | new
    · exact trusted.persists persist old
    · obtain rfl := List.mem_singleton.mp new
      exact ⟨own, fun _ => expects (by simpa using free), by simp⟩

theorem Trusted.fewer (trusted : Trusted seen document) {persists : List Persist}
    (kept : persists ⊆ document.persists) : Trusted seen { document with persists } :=
  { trusted with persists := fun persist member => trusted.persists persist (kept member) }

theorem Trusted.finish (trusted : Trusted seen document) (persist : Persist) :
    Trusted seen (document.finish persist) :=
  { trusted with }

variable {file : TextFile}

theorem Trusted.accept (trusted : Trusted seen document) (known : file.content ∈ seen)
    (backed : Backed seen [file.content] document.times document.remote file.modifiedAt) :
    Trusted seen (document.accept file) := by
  have time := backed.of_seen (by simpa using known)
  unfold Document.accept Document.setContent
  split
  · exact { trusted with base := known, modifiedAt := fun _ held => Option.some.inj held ▸ time }
  · exact { trusted with
      content := known, base := known, modifiedAt := fun _ held => Option.some.inj held ▸ time }

theorem Trusted.mount (trusted : Trusted seen document) (read : Outcome) : Trusted seen (document.mount read) := by
  have loads : ∀ draft, (∀ held ∈ draft, held.Backed seen document.times document.remote) →
      ∀ load ∈ document.loads ++ [⟨document.generation + 1, draft, .asked⟩],
        (∀ draft ∈ load.draft, draft.Backed seen document.times document.remote) ∧
          load.reading.Backed seen document.times document.remote := by
    intro draft known load member
    rcases List.mem_append.mp member with old | new
    · exact trusted.loads load old
    · obtain rfl := List.mem_singleton.mp new
      exact ⟨known, trivial⟩
  unfold Document.mount
  cases read with
  | error text =>
    exact { trusted with
      content := trusted.blank, base := trusted.blank, modifiedAt := nofun, conflict := nofun,
      loads := loads none nofun, starting := nofun, copy := nofun }
  | ok read =>
    cases stored : document.draft with
    | none =>
      exact { trusted with
        content := trusted.blank, base := trusted.blank, modifiedAt := nofun, conflict := nofun,
        draft := by simp, loads := loads none nofun, starting := nofun, copy := nofun }
    | some draft =>
      have backed := trusted.draft draft stored
      have loads := loads (some draft) fun held same => Option.some.inj same ▸ backed
      unfold Document.setContent
      simp only
      split
      · exact { trusted with
          content := trusted.blank, base := backed.base, modifiedAt := backed.modifiedAt,
          conflict := nofun, draft := by simp [backed], loads := loads, starting := nofun,
          copy := nofun }
      · exact { trusted with
          content := backed.content, base := backed.base, modifiedAt := backed.modifiedAt,
          conflict := nofun, draft := by simp [backed], loads := loads, starting := nofun,
          copy := nofun }

theorem Trusted.loaded (trusted : Trusted seen document) {i : Nat}
    (taken : document.loaded i = some after) (content : after.content ∈ seen)
    (conflict : ∀ conflict ∈ after.conflict, conflict.remote ∈ seen) : Trusted seen after := by
  obtain ⟨load, found, taken⟩ := Option.bind_eq_some_iff.mp taken
  obtain ⟨drafts, reading⟩ := trusted.loads load (List.mem_of_getElem? found)
  have rest : Trusted seen { document with loads := document.loads.eraseIdx i } :=
    { trusted with loads := fun load member => trusted.loads load (List.mem_of_mem_eraseIdx member) }
  simp only at taken
  split at taken
  · split at taken <;> cases taken
    · next file answered =>
      rw [answered] at reading
      cases held : load.draft with
      | none =>
        simp only [held, Document.afterLoad] at content ⊢
        exact { rest.accept (by simpa using content) reading with }
      | some draft =>
        have known := drafts draft held
        simp only [held, Document.afterLoad] at content conflict ⊢
        split at content
        · next same =>
          rw [if_pos same] at conflict ⊢
          exact { rest.accept (by simpa using content) reading with }
        · next differs =>
          rw [if_neg differs] at conflict ⊢
          split at conflict
          · -- The file still holds the baseline of the draft, which was seen.
            next same =>
            rw [if_pos same]
            have time := reading.of_seen (by simpa [← same] using known.base)
            exact { rest with modifiedAt := fun _ held => Option.some.inj held ▸ time }
          · next changed =>
            rw [if_neg changed]
            have shown := conflict _ rfl
            have time := reading.of_seen (by simpa using shown)
            exact { rest with
              conflict := fun _ held => Option.some.inj held ▸ ⟨known.content, shown, _, rfl, time⟩ }
    · exact { rest with }
  · split at taken <;> cases taken <;> exact rest

variable {k : Nat}

/-- A save is moved on at the server, or writes over a version that was seen. -/
theorem Trusted.serve (trusted : Trusted seen document) {served : Served} (taken : document.serve k served = some after)
    (fresh : ∀ modifiedAt answer, served = .runs modifiedAt answer →
      ∀ persist ∈ document.writes (.serve k served),
        persist.value ∈ seen ∨ modifiedAt ∉ document.times) : Trusted seen after := by
  obtain ⟨persist, found, taken⟩ := Option.bind_eq_some_iff.mp taken
  have backed := trusted.persists persist (List.mem_of_getElem? found)
  split at taken
  case isFalse => cases taken
  case isTrue sent =>
    -- A call that is no longer at the server and reads nothing rests on its text only.
    have moves : ∀ stage, stage ≠ .sent →
        (∀ reading, stage ≠ .rereading reading ∧ stage ≠ .comparing reading) →
        Trusted seen { document with persists := document.persists.set k { persist with stage } } := by
      intro stage gone reads
      refine { trusted with persists := fun other member => ?_ }
      rcases List.mem_or_eq_of_mem_set member with old | rfl
      · exact trusted.persists other old
      · exact ⟨backed.value, fun sent => absurd sent gone,
          fun reading held => held.elim (absurd · (reads reading).1) (absurd · (reads reading).2)⟩
    cases served with
    | fails message =>
      cases taken
      exact moves _ (by simp) (by simp)
    | runs modifiedAt answer =>
      simp only at taken
      split at taken
      · cases taken
        exact moves _ (by simp) (by simp)
      · next checked =>
        have writes : document.writes (.serve k (.runs modifiedAt answer)) = some persist := by
          have expects : persist.expected = none ∨ persist.expected = some document.remote.modifiedAt := by
            by_contra neither
            exact checked (not_or.mp neither)
          simp [Document.writes, found, sent, expects]
        have keeps : Keeps seen seen document.times (modifiedAt :: document.times) document.remote
            ⟨persist.value, modifiedAt⟩ := by
          refine ⟨List.Subset.refl _, List.subset_cons_self _ _, fun time listed same => ?_⟩
          rcases fresh modifiedAt answer rfl persist writes with known | new
          · exact .inl known
          · have same : modifiedAt = time := same
            exact absurd (same ▸ listed) new
        have stage : ∀ stage, stage ≠ .sent →
            (∀ reading, stage ≠ .rereading reading ∧ stage ≠ .comparing reading) →
            Trusted seen { document with
              persists := document.persists.set k { persist with stage }
              remote := ⟨persist.value, modifiedAt⟩
              times := modifiedAt :: document.times } :=
          fun stage gone reads => (moves stage gone reads).keeps keeps List.mem_cons_self
        cases taken
        cases answer with
        | ok | error => exact stage _ (by simp) (by simp)

theorem Trusted.answered (trusted : Trusted seen document)
    (taken : document.answered k = some after) : Trusted seen after := by
  obtain ⟨persist, found, taken⟩ := Option.bind_eq_some_iff.mp taken
  have backed := trusted.persists persist (List.mem_of_getElem? found)
  have rest := trusted.fewer (List.eraseIdx_subset (l := document.persists) (k := k))
  have asks : ∀ stage, stage = .rereading .asked ∨ stage = .comparing .asked →
      Trusted seen { document with persists := document.persists.set k { persist with stage } } := by
    intro stage asked
    refine { trusted with persists := fun other member => ?_ }
    rcases List.mem_or_eq_of_mem_set member with old | rfl
    · exact trusted.persists other old
    · refine ⟨backed.value, ?_, ?_⟩
      · rintro sent
        rcases asked with rfl | rfl <;> cases sent
      · rintro reading (reads | reads) <;> rcases asked with rfl | rfl <;> cases reads <;> trivial
  simp only at taken
  split at taken
  · cases taken
    split
    · exact asks _ (.inl rfl)
    · exact rest
  · cases taken
    split
    · exact asks _ (.inr rfl)
    · exact rest
  · cases taken
    split
    · exact { rest with }
    · exact rest
  · cases taken

theorem Trusted.afterReread (trusted : Trusted seen document) (persist : Persist) (known : file.content ∈ seen)
    (backed : Backed seen [file.content] document.times document.remote file.modifiedAt) :
    Trusted seen (document.afterReread persist file) := by
  have time := backed.of_seen (by simpa using known)
  unfold Document.afterReread
  simp only
  split
  · unfold Document.setContent
    split
    · exact { trusted with
        base := known, modifiedAt := fun _ held => Option.some.inj held ▸ time, conflict := nofun }
    · exact { trusted with
        content := known, base := known
        modifiedAt := fun _ held => Option.some.inj held ▸ time, conflict := nofun }
  · exact { trusted with
      base := known, modifiedAt := fun _ held => Option.some.inj held ▸ time, conflict := nofun }

theorem Trusted.afterComparing (trusted : Trusted seen document) (persist : Persist)
    (content : (document.afterComparing persist file).content ∈ seen)
    (shown : file.content ∈ seen) (backed : Backed seen [file.content] document.times document.remote file.modifiedAt) :
    Trusted seen (document.afterComparing persist file) := by
  have time := backed.of_seen (by simpa using shown)
  unfold Document.afterComparing at content ⊢
  simp only at content ⊢
  generalize (if persist.revision = document.revision then persist.value else document.content) =
    localText at content ⊢
  have known : localText ∈ seen := by simpa using content
  unfold Document.setContent
  split
  · exact { trusted with
      conflict := fun _ held => Option.some.inj held ▸ ⟨known, shown, _, rfl, time⟩ }
  · exact { trusted with
      content := known
      conflict := fun _ held => Option.some.inj held ▸ ⟨known, shown, _, rfl, time⟩ }

theorem Trusted.dropCopy (trusted : Trusted seen document) (persist : Persist) (discarded : Outcome) :
    Trusted seen (document.dropCopy persist discarded) := by
  unfold Document.dropCopy
  split
  · cases discarded with
    | ok discarded => exact { trusted with copy := nofun }
    | error text => exact { trusted with }
  · exact trusted

theorem Trusted.reread (trusted : Trusted seen document) {discarded : Outcome}
    (taken : document.reread k discarded = some after) (content : after.content ∈ seen)
    (conflict : ∀ conflict ∈ after.conflict, conflict.remote ∈ seen)
    (reviewed : ∀ persist, document.persists[k]? = some persist → ∀ file,
      persist.stage = .rereading (.answered file) → document.mounted = true →
      persist.generation = document.generation → persist.revision ≠ document.revision →
        file.content ∈ seen) : Trusted seen after := by
  obtain ⟨persist, found, taken⟩ := Option.bind_eq_some_iff.mp taken
  have backed := trusted.persists persist (List.mem_of_getElem? found)
  have rest := trusted.fewer (List.eraseIdx_subset (l := document.persists) (k := k))
  simp only at taken
  split at taken
  · next file stage =>
    cases taken
    split
    · next current =>
      rw [if_pos current] at content
      have reading := backed.reading _ (.inl stage)
      have current : document.mounted = true ∧ persist.generation = document.generation := by
        simpa using current
      -- Without newer edits the text is content now, and otherwise the condition speaks of it.
      have known : file.content ∈ seen := by
        by_cases same : persist.revision = document.revision
        · simpa [Document.finish, Document.afterReread, same] using content
        · exact reviewed persist found file stage current.1 current.2 same
      exact ((rest.afterReread persist known reading).dropCopy persist discarded).finish persist
    · exact rest
  · next file stage =>
    cases taken
    split
    · next current =>
      rw [if_pos current] at content conflict
      have reading := backed.reading _ (.inr stage)
      exact (rest.afterComparing persist content (conflict _ rfl) reading).finish persist
    · exact rest
  · cases taken
    split
    · exact { rest with }
    · exact rest
  · cases taken
    split
    · exact { rest with }
    · exact rest
  · cases taken

theorem Trusted.moveOn (trusted : Trusted seen document) {onward : Reading → Option Reading}
    {place : ReadingPlace} (taken : document.moveOn onward place = some after)
    (keeps : ∀ reading later, onward reading = some later →
      reading.Backed seen document.times document.remote →
        later.Backed seen document.times document.remote) : Trusted seen after := by
  cases place with
  | load i =>
    obtain ⟨load, found, taken⟩ := Option.bind_eq_some_iff.mp taken
    obtain ⟨later, moves, rfl⟩ := Option.map_eq_some_iff.mp taken
    obtain ⟨drafts, reading⟩ := trusted.loads load (List.mem_of_getElem? found)
    refine { trusted with loads := fun other member => ?_ }
    rcases List.mem_or_eq_of_mem_set member with old | rfl
    · exact trusted.loads other old
    · exact ⟨drafts, keeps _ _ moves reading⟩
  | persist k =>
    obtain ⟨persist, found, taken⟩ := Option.bind_eq_some_iff.mp taken
    have backed := trusted.persists persist (List.mem_of_getElem? found)
    split at taken
    · next reading stage =>
      obtain ⟨later, moves, rfl⟩ := Option.map_eq_some_iff.mp taken
      refine { trusted with persists := fun other member => ?_ }
      rcases List.mem_or_eq_of_mem_set member with old | rfl
      · exact trusted.persists other old
      · refine ⟨backed.value, nofun, fun held reads => ?_⟩
        obtain ⟨⟨⟩⟩ | ⟨⟨⟩⟩ := reads
        exact keeps _ _ moves (backed.reading _ (.inl stage))
    · next reading stage =>
      obtain ⟨later, moves, rfl⟩ := Option.map_eq_some_iff.mp taken
      refine { trusted with persists := fun other member => ?_ }
      rcases List.mem_or_eq_of_mem_set member with old | rfl
      · exact trusted.persists other old
      · refine ⟨backed.value, nofun, fun held reads => ?_⟩
        obtain ⟨⟨⟩⟩ | ⟨⟨⟩⟩ := reads
        exact keeps _ _ moves (backed.reading _ (.inr stage))
    · cases taken
  | starting =>
    obtain ⟨reading, held, taken⟩ := Option.bind_eq_some_iff.mp taken
    obtain ⟨later, moves, rfl⟩ := Option.map_eq_some_iff.mp taken
    exact { trusted with
      starting := fun _ same => Option.some.inj same ▸ keeps _ _ moves (trusted.starting _ held) }

theorem Trusted.leave (trusted : Trusted seen document) (stored : Outcome) (confirmed : Bool) :
    Trusted seen (document.leave stored confirmed) := by
  have kept := trusted.preserveDraft stored
  unfold Document.leave
  split
  · exact { trusted with }
  split
  · exact { trusted with }
  split
  · next preserved =>
    rw [preserved] at kept
    exact kept
  · next preserved =>
    rw [preserved] at kept
    split
    · exact { kept with }
    · exact kept

theorem Trusted.close (trusted : Trusted seen document) (stored : Outcome)
    (confirmed confirmedCopy : Bool) :
    Trusted seen (document.close stored confirmed confirmedCopy) := by
  have kept := trusted.discardDraft stored
  unfold Document.close
  split
  · exact { trusted with }
  split
  · exact trusted
  split
  · exact trusted
  split
  · next discarded =>
    rw [discarded] at kept
    exact kept
  · next discarded =>
    rw [discarded] at kept
    exact { kept with copy := nofun }

variable {label : EditorLabel}

/-- An event that meets the condition keeps a document trusted that shows what was seen. -/
theorem Trusted.handle (trusted : Trusted seen document)
    (taken : document.handle label = some after) (reviewed : Reviewed document label.event)
    (grows : document.seen ⊆ seen) (content : after.content ∈ seen)
    (conflict : ∀ conflict ∈ after.conflict, conflict.remote ∈ seen) : Trusted seen after := by
  obtain ⟨event, stored⟩ := label
  cases event with
  | «open» read =>
    obtain ⟨-, rfl⟩ := System.guarded_eq_some.mp taken
    exact trusted.mount read
  | loaded i => exact trusted.loaded taken content conflict
  | edit value =>
    obtain ⟨-, rfl⟩ := System.guarded_eq_some.mp taken
    exact trusted.setContent (by simpa using content)
  | save =>
    obtain ⟨-, rfl⟩ := System.guarded_eq_some.mp taken
    obtain ⟨time, known⟩ := Option.ne_none_iff_exists'.mp reviewed
    exact trusted.persist (fun _ => trusted.content)
      fun _ => ⟨time, known, trusted.modifiedAt time known⟩
  | keepEditing =>
    obtain ⟨-, rfl⟩ := System.guarded_eq_some.mp taken
    exact { trusted with conflict := nofun }
  | useRemote =>
    simp only [Document.handle] at taken
    split at taken
    case isFalse => cases taken
    case isTrue shown =>
      obtain ⟨view, held, rfl⟩ := Option.map_eq_some_iff.mp taken
      have backed := trusted.conflict view held
      obtain ⟨time, same, known⟩ := backed.remoteModifiedAt
      have times : ∀ held ∈ view.remoteModifiedAt, Backed seen [] document.times document.remote held :=
        fun _ held => Option.some.inj (same.symm.trans held) ▸ known
      unfold Document.setContent
      split
      · exact { trusted with base := backed.remoteText, modifiedAt := times, conflict := nofun }
      · exact { trusted with
          content := backed.remoteText, base := backed.remoteText, modifiedAt := times
          conflict := nofun }
  | overwrite =>
    simp only [Document.handle] at taken
    split at taken
    case isFalse => cases taken
    case isTrue shown =>
      obtain ⟨view, held, rfl⟩ := Option.map_eq_some_iff.mp taken
      have backed := trusted.conflict view held
      obtain ⟨time, same, known⟩ := backed.remoteModifiedAt
      exact (trusted.setContent backed.localText).persist (fun _ => backed.localText)
        fun _ => ⟨time, same, by simpa using known⟩
  | startExternal =>
    obtain ⟨-, rfl⟩ := System.guarded_eq_some.mp taken
    exact { trusted with starting := fun _ same => Option.some.inj same ▸ trivial }
  | started =>
    simp only [Document.handle] at taken
    split at taken
    · next file held =>
      cases taken
      exact { trusted with
        starting := nofun
        copy := fun _ same => Option.some.inj same ▸ trusted.starting _ held }
    · cases taken
      exact { trusted with starting := nofun }
    · cases taken
  | externalWrite text =>
    obtain ⟨copy, held, rfl⟩ := Option.map_eq_some_iff.mp taken
    exact { trusted with copy := fun _ same => Option.some.inj same ▸ trusted.copy copy held }
  | importExternal =>
    obtain ⟨-, rfl⟩ := System.guarded_eq_some.mp taken
    exact { trusted with }
  | imported read =>
    obtain ⟨base, -, taken⟩ := Option.bind_eq_some_iff.mp taken
    obtain ⟨copy, held, rfl⟩ := Option.map_eq_some_iff.mp taken
    cases read with
    | error text => exact { trusted with }
    | ok read =>
      -- The copy was made from a version that was seen, unless another save is under way.
      have rest : Trusted seen { document with importing := none } := { trusted with }
      refine rest.persist nofun fun free => ⟨_, rfl, ?_⟩
      exact (trusted.copy copy held).of_seen (by simpa using grows (reviewed free copy held))
  | discardExternal =>
    obtain ⟨-, rfl⟩ := System.guarded_eq_some.mp taken
    exact { trusted with copy := nofun }
  | serve k served =>
    refine trusted.serve taken fun modifiedAt answer same persist writes => ?_
    subst same
    exact (reviewed persist writes).imp_left fun known => grows known
  | answered k => exact trusted.answered taken
  | reread k discarded =>
    exact trusted.reread taken content conflict fun persist found file stage mounted current newer =>
      grows (reviewed persist found file stage mounted current newer)
  | read place =>
    refine trusted.moveOn taken fun reading later moves backed => ?_
    cases reading with
    | asked =>
      cases moves
      exact trusted.current
    | statted modifiedAt =>
      -- What is read now is what the file holds now, whatever its time was before.
      cases moves
      exact ⟨backed, fun _ => .inl (List.mem_singleton.mpr rfl)⟩
    | answered file => cases moves
    | failed message => cases moves
  | readFails place message =>
    refine trusted.moveOn taken fun reading later moves backed => ?_
    cases reading <;> cases moves <;> trivial
  | leave confirmed =>
    obtain ⟨-, rfl⟩ := System.guarded_eq_some.mp taken
    exact trusted.leave stored confirmed
  | close confirmed confirmedCopy =>
    obtain ⟨-, rfl⟩ := System.guarded_eq_some.mp taken
    exact trusted.close stored confirmed confirmedCopy
  | foreign file =>
    obtain ⟨new, rfl⟩ := System.guarded_eq_some.mp taken
    refine trusted.keeps ⟨List.Subset.refl _, List.subset_cons_self _ _, ?_⟩ List.mem_cons_self
    intro time listed same
    exact absurd (same ▸ listed) new

theorem Trusted.settle {before : Document} (trusted : Trusted seen after) (stored : Outcome) :
    Trusted seen (Document.settle before after stored) := by
  unfold Document.settle
  split
  · exact trusted.preserveDraft stored
  · exact trusted

theorem Trusted.step {next : Document} (trusted : Trusted document.seen document)
    (taken : editorStep document label = some next) (reviewed : Reviewed document label.event) :
    Trusted next.seen next := by
  obtain ⟨after, handled, rfl⟩ := Option.map_eq_some_iff.mp taken
  obtain ⟨content, conflict, -⟩ := Document.settle_shows document after label.stored
  -- What is shown after the event counts as seen from now on.
  let seen := (Document.remember document
    (Document.settle document after label.stored) label.event).seen
  have grows : document.seen ⊆ seen := fun text member => List.mem_append_right _ member
  have shows : after.content ∈ seen := List.mem_append_left _ (by simp [content])
  have views : ∀ view ∈ after.conflict, view.remote ∈ seen := fun view held =>
    List.mem_append_left _ (List.mem_cons_of_mem _ (by simp [conflict, show _ = _ from held]))
  have settled : Trusted seen (Document.settle document after label.stored) :=
    ((trusted.widen grows).handle handled reviewed grows shows views).settle label.stored
  exact { settled with }

end Handling

theorem Trusted.closed (remote : TextFile) : Trusted (Document.closed remote).seen (Document.closed remote) := by
  constructor <;> simp [Document.closed]

/--
In every order of edits, saves, decisions, imports, reloads and writes by other programs that meets
the condition, a save overwrites only a version whose text was content or shown in a conflict view,
and every baseline is such a text.
-/
theorem unseenKept_of_run {trace : List (Document × EditorLabel)} {document : Document}
    (run : editorSystem.Run trace document)
    (meets : ∀ entry ∈ trace, Reviewed entry.1 entry.2.event) :
    (∀ entry ∈ trace, ∀ persist ∈ entry.1.writes entry.2.event,
      entry.1.remote.content ∈ entry.1.seen) ∧ document.base ∈ document.seen := by
  have trusted : ∀ {trace : List (Document × EditorLabel)} {document : Document},
      editorSystem.Run trace document → (∀ entry ∈ trace, Reviewed entry.1 entry.2.event) →
      Trusted document.seen document := fun run meets =>
    run.invariant (fun document label => Reviewed document label.event)
      (fun document => Trusted document.seen document)
      (fun _ begins => by
        obtain ⟨remote, rfl⟩ := begins
        exact Trusted.closed remote)
      (fun _ _ _ trusted reviewed taken => trusted.step taken reviewed) meets
  refine ⟨fun entry member persist writes => ?_, (trusted run meets).base⟩
  obtain ⟨before, after, rfl, earlier⟩ := run.visited entry member
  have backed := trusted earlier fun old there => meets old (List.mem_append_left _ there)
  obtain ⟨document, event, stored⟩ := entry
  -- A write belongs to a call at the server that expects the time the file has now.
  cases event with
  | serve k served =>
    cases served with
    | fails message => cases writes
    | runs modifiedAt answer =>
      obtain ⟨found, checks⟩ := Option.filter_eq_some_iff.mp writes
      obtain ⟨sent, expects⟩ : persist.stage = .sent ∧ (persist.expected = none ∨
        persist.expected = some document.remote.modifiedAt) := by simpa using checks
      obtain ⟨time, same, known⟩ :=
        (backed.persists persist (List.mem_of_getElem? found)).expected sent
      have current : document.remote.modifiedAt = time := by
        rcases expects with none | now
        · cases none.symm.trans same
        · exact Option.some.inj (now.symm.trans same)
      simpa using known.known current
  | _ => cases writes

/-- The file that an editor opens. -/
def openedFile : TextFile := ⟨"base", 10⟩

/--
Another program writes between the save and the reading after it while the user types on.
The version it wrote becomes the baseline without being shown, and the next save overwrites it.
-/
theorem unseen_overwritten :
    ∃ trace document, editorSystem.Run trace document ∧ ∃ entry ∈ trace,
      ∃ persist ∈ entry.1.writes entry.2.event,
        persist.value = "second" ∧ entry.1.remote.content = "theirs" ∧ entry.1.remote.content ∉ entry.1.seen := by
  have goes : System.trail editorStep (.closed openedFile) [⟨.open (.ok ()), .ok ()⟩,
      ⟨.read (.load 0), .ok ()⟩, ⟨.read (.load 0), .ok ()⟩, ⟨.loaded 0, .ok ()⟩,
      ⟨.edit "first", .ok ()⟩, ⟨.save, .ok ()⟩, ⟨.serve 0 (.runs 11 (.ok ())), .ok ()⟩,
      ⟨.foreign ⟨"theirs", 12⟩, .ok ()⟩, ⟨.answered 0, .ok ()⟩, ⟨.edit "second", .ok ()⟩,
      ⟨.read (.persist 0), .ok ()⟩, ⟨.read (.persist 0), .ok ()⟩, ⟨.reread 0 (.ok ()), .ok ()⟩,
      ⟨.save, .ok ()⟩, ⟨.serve 0 (.runs 13 (.ok ())), .ok ()⟩] = some (_, _) := rfl
  have run := System.Run.trail (.start ⟨openedFile, rfl⟩ :
    editorSystem.Run [] (.closed openedFile)) goes
  refine ⟨_, _, run, _, List.mem_of_getElem? (i := 14) rfl, _, rfl, rfl, rfl, ?_⟩
  decide

/-- A document that is opened, edited and saved overwrites the version it has shown. -/
theorem unseenKept_of_run_save :
    ∃ trace document, editorSystem.Run trace document ∧
      (trace.filterMap fun entry => (entry.1.writes entry.2.event).map Persist.value) = ["mine"] ∧
      (∀ entry ∈ trace, ∀ persist ∈ entry.1.writes entry.2.event,
        entry.1.remote.content ∈ entry.1.seen) ∧ document.base ∈ document.seen := by
  have goes : System.trail editorStep (.closed openedFile) [⟨.open (.ok ()), .ok ()⟩,
      ⟨.read (.load 0), .ok ()⟩, ⟨.read (.load 0), .ok ()⟩, ⟨.loaded 0, .ok ()⟩,
      ⟨.edit "mine", .ok ()⟩, ⟨.save, .ok ()⟩, ⟨.serve 0 (.runs 11 (.ok ())), .ok ()⟩] =
      some (_, _) := rfl
  have run := System.Run.trail (.start ⟨openedFile, rfl⟩ :
    editorSystem.Run [] (.closed openedFile)) goes
  refine ⟨_, _, run, rfl, unseenKept_of_run run ?_⟩
  -- The save knows which version it expects, and its text gets a new time.
  simp only [List.nil_append, List.forall_mem_cons]
  exact ⟨trivial, trivial, trivial, trivial, trivial, Option.some_ne_none _,
    fun _ _ => .inr (by decide), List.forall_mem_nil _⟩

end Frontend

end CNShell
