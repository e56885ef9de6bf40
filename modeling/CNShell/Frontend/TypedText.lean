import CNShell.Frontend.Editor
import Mathlib.Data.List.Nodup

/-! What becomes of the text a user types into the remote text editor. -/

namespace CNShell

namespace Frontend

/-- The text a `persist` has ready to become the content, if nothing was typed since it began. -/
def Persist.replacement (persist : Persist) : Option String :=
  match persist.stage with
  | .rereading (.answered file) => some file.content
  | .comparing (.answered _) => some persist.value
  | _ => none

/-- A `persist` of the editor that is mounted. -/
def Persist.Current (document : Document) (persist : Persist) : Prop :=
  document.mounted = true ∧ persist.generation = document.generation

/--
An import that ends without newer edits finds no unsaved content, or puts in its place what it is,
and a save that ends while the draft could not be read finds nothing else in it than it saved.
-/
def Spared (document : Document) : EditorEvent → Prop
  | .reread k _ => ∀ persist, document.persists[k]? = some persist → persist.Current document →
      (persist.imported = true → persist.revision = document.revision →
        ∀ text ∈ persist.replacement, document.content = document.base ∨ document.content = text) ∧
      (document.draftReadError ≠ none → ∀ file, persist.stage = .rereading (.answered file) →
        ∀ draft ∈ document.draft, draft.content = persist.value)
  | _ => True

/-- A text that was typed and not given up, and is nowhere. -/
def Document.Lost (document : Document) (text : String) : Prop :=
  text ∈ document.typed ∧ text ∉ document.recorded ∧ document.content ≠ text ∧
    document.draft.map TextDraft.content ≠ some text

instance (document : Document) (text : String) : Decidable (document.Lost text) := inferInstanceAs (Decidable (_ ∧ _))

/-- A text the user has typed is content, recorded, or in a draft that is not written over. -/
def Document.Holds (recorded : List String) (document : Document) (text : String) : Prop :=
  text ∈ recorded ∨ document.mounted = true ∧ document.content = text ∨
    (document.mounted = false ∨ document.draftReadError ≠ none) ∧
      ∃ draft, document.draft = some draft ∧ draft.content = text

/-- What is known of the typed texts while every step meets the condition. -/
structure Guarded (recorded typed : List String) (document : Document) : Prop where
  blank : "" ∈ recorded
  base : document.base ∈ recorded
  holds : ∀ text ∈ typed, document.Holds recorded text
  loading : document.mounted = true → document.loading = true →
    document.importing = none ∧
      (∀ persist ∈ document.persists, persist.generation ≠ document.generation) ∧
      document.content = if document.draftReadError = none then (document.draft.map TextDraft.content).getD "" else ""
  loads : ∀ load ∈ document.loads, load.generation ≤ document.generation ∧
    (document.mounted = true → load.generation = document.generation → document.loading = true ∧
      load.draft = if document.draftReadError = none then document.draft else none)
  single : (document.loads.map Load.generation).Nodup
  generations : ∀ persist ∈ document.persists, persist.generation ≤ document.generation
  revisions : ∀ persist ∈ document.persists, persist.generation = document.generation →
    persist.revision ≤ document.revision ∧
      (persist.imported = false → persist.revision = document.revision → persist.value = document.content)
  written : ∀ persist ∈ document.persists,
    (persist.stage = .saved ∨ ∃ reading, persist.stage = .rereading reading) → persist.value ∈ recorded

section Handling

variable {recorded wider typed : List String} {document after : Document}

theorem Guarded.widen (guarded : Guarded recorded typed document) (grows : recorded ⊆ wider) :
    Guarded wider typed document :=
  { guarded with
    blank := grows guarded.blank
    base := grows guarded.base
    holds := fun text member => (guarded.holds text member).imp_left fun known => grows known
    written := fun persist member written => grows (guarded.written persist member written) }

theorem not_loading (shown : document.shown) : ¬document.loading = true := by
  simp [shown.2]

variable {value : String}

theorem Guarded.setContent (guarded : Guarded recorded typed document) (shown : document.shown) {left : List String}
    (holds : ∀ text ∈ left, (document.setContent value).Holds recorded text) :
    Guarded recorded left (document.setContent value) := by
  unfold Document.setContent at holds ⊢
  split
  · next same =>
    rw [if_pos same] at holds
    exact { guarded with holds := holds }
  · next differs =>
    rw [if_neg differs] at holds
    refine { guarded with
      holds := holds
      loading := fun _ loading => absurd loading (not_loading shown)
      loads := fun load member => ⟨(guarded.loads load member).1, fun mounted current =>
        absurd ((guarded.loads load member).2 mounted current).1 (not_loading shown)⟩
      revisions := fun persist member current => ?_ }
    -- Every revision from before is below the new one.
    have below := (guarded.revisions persist member current).1
    refine ⟨Nat.le_succ_of_le below, fun _ same => ?_⟩
    have same : persist.revision = document.revision + 1 := same
    omega

variable {base : String}

theorem Guarded.persist (guarded : Guarded recorded typed document) {expected : Option Nat} {imported : Bool}
    (own : imported = false → value = document.content)
    (idle : ¬(document.mounted = true ∧ document.loading = true)) :
    Guarded recorded typed (document.persist expected value base imported) := by
  unfold Document.persist
  split
  · split
    · exact { guarded with }
    · exact guarded
  · have members : ∀ {good : Persist → Prop}, (∀ persist ∈ document.persists, good persist) →
        good ⟨document.generation, document.revision, value, expected, base, imported, .sent⟩ →
        ∀ persist ∈ document.persists ++
          [⟨document.generation, document.revision, value, expected, base, imported, .sent⟩],
          good persist := by
      intro good old new persist member
      rcases List.mem_append.mp member with before | last
      · exact old persist before
      · exact List.mem_singleton.mp last ▸ new
    exact { guarded with
      loading := fun mounted loading => absurd ⟨mounted, loading⟩ idle
      generations := members guarded.generations (Nat.le_refl _)
      revisions := members guarded.revisions fun _ => ⟨Nat.le_refl _, fun mine _ => own mine⟩
      written := members guarded.written (by simp) }

variable {k : Nat}

theorem Guarded.moves (guarded : Guarded recorded typed document) {persist : Persist}
    (found : document.persists[k]? = some persist) {stage : SaveStage}
    (written : (stage = .saved ∨ ∃ reading, stage = .rereading reading) → persist.value ∈ recorded) :
    Guarded recorded typed
      { document with persists := document.persists.set k { persist with stage } } := by
  have there := List.mem_of_getElem? found
  have members : ∀ {good : Persist → Prop}, (∀ persist ∈ document.persists, good persist) →
      good { persist with stage } →
      ∀ other ∈ document.persists.set k { persist with stage }, good other := by
    intro good old new other member
    rcases List.mem_or_eq_of_mem_set member with before | rfl
    · exact old other before
    · exact new
  exact { guarded with
    loading := fun mounted loading =>
      have known := guarded.loading mounted loading
      ⟨known.1, members known.2.1 (known.2.1 persist there), known.2.2⟩
    generations := members guarded.generations (guarded.generations persist there)
    revisions := members guarded.revisions (guarded.revisions persist there)
    written := members guarded.written written }

theorem Guarded.fewer (guarded : Guarded recorded typed document) {persists : List Persist}
    (kept : persists ⊆ document.persists) :
    Guarded recorded typed { document with persists } :=
  { guarded with
    loading := fun mounted loading =>
      have known := guarded.loading mounted loading
      ⟨known.1, fun persist member => known.2.1 persist (kept member), known.2.2⟩
    generations := fun persist member => guarded.generations persist (kept member)
    revisions := fun persist member => guarded.revisions persist (kept member)
    written := fun persist member => guarded.written persist (kept member) }

theorem Guarded.opened (guarded : Guarded recorded typed document) {draft : Option TextDraft}
    (turn : after.generation = document.generation + 1) (persists : after.persists = document.persists)
    (loads : after.loads = document.loads ++ [⟨document.generation + 1, draft, .asked⟩])
    (given : draft = if after.draftReadError = none then after.draft else none)
    (loading : after.loading = true) (importing : after.importing = none)
    (content : after.content =
      if after.draftReadError = none then (after.draft.map TextDraft.content).getD "" else "")
    (base : after.base ∈ recorded) (holds : ∀ text ∈ typed, after.Holds recorded text) : Guarded recorded typed after := by
  have older : ∀ load ∈ document.loads, load.generation ≠ document.generation + 1 := fun load member same => by
    have := (guarded.loads load member).1
    omega
  have quiet : ∀ persist ∈ document.persists, persist.generation ≠ document.generation + 1 :=
    fun persist member same => by
      have := guarded.generations persist member
      omega
  constructor
  case blank => exact guarded.blank
  case base => exact base
  case holds => exact holds
  case loading =>
    rw [turn, persists]
    exact fun _ _ => ⟨importing, quiet, content⟩
  case loads =>
    intro load member
    rw [loads] at member
    rw [turn]
    rcases List.mem_append.mp member with old | new
    · exact ⟨Nat.le_succ_of_le (guarded.loads load old).1, fun _ same => absurd same (older load old)⟩
    · obtain rfl := List.mem_singleton.mp new
      exact ⟨Nat.le_refl _, fun _ _ => ⟨loading, given⟩⟩
  case single =>
    rw [loads, List.map_append]
    refine List.Nodup.append guarded.single (List.nodup_singleton _) fun generation old new => ?_
    obtain ⟨load, member, same⟩ := List.mem_map.mp old
    exact older load member (same.trans (List.mem_singleton.mp new))
  case generations =>
    rw [persists, turn]
    exact fun persist member => Nat.le_succ_of_le (guarded.generations persist member)
  case revisions =>
    rw [persists, turn]
    exact fun persist member same => absurd same (quiet persist member)
  case written => exact persists ▸ guarded.written

theorem Guarded.mount (guarded : Guarded recorded typed document) (closed : document.mounted = false)
    (read : Outcome) (base : (document.mount read).base ∈ recorded) :
    Guarded recorded typed (document.mount read) := by
  -- An unsaved text can only be in the draft while the editor is closed.
  have stored : ∀ text ∈ typed, text ∈ recorded ∨ ∃ draft, document.draft = some draft ∧ draft.content = text := by
    intro text member
    rcases guarded.holds text member with known | ⟨mounted, -⟩ | ⟨-, draft⟩
    · exact .inl known
    · simp [closed] at mounted
    · exact .inr draft
  unfold Document.mount at base ⊢
  cases read with
  | error text =>
    exact guarded.opened rfl rfl rfl rfl rfl rfl rfl base
      fun text member => (stored text member).imp_right fun draft => .inr ⟨.inr (by simp), draft⟩
  | ok read =>
    cases held : document.draft with
    | none =>
      simp only [held] at base
      have nothing : ∀ text ∈ typed, text ∈ recorded := fun text member =>
        (stored text member).resolve_right (by simp [held])
      exact guarded.opened rfl rfl rfl rfl rfl rfl rfl base fun text member => .inl (nothing text member)
    | some draft =>
      simp only [held] at base
      have restored : ∀ text ∈ typed, text ∈ recorded ∨ draft.content = text := fun text member =>
        (stored text member).imp_right fun ⟨other, same, content⟩ =>
          Option.some.inj (held.symm.trans same) ▸ content
      unfold Document.setContent
      simp only
      split
      · next empty =>
        exact guarded.opened rfl rfl rfl rfl rfl rfl empty.symm base fun text member =>
          (restored text member).elim .inl fun same => .inr (.inl ⟨rfl, empty.symm.trans same⟩)
      · exact guarded.opened rfl rfl rfl rfl rfl rfl rfl base fun text member =>
          (restored text member).elim .inl fun same => .inr (.inl ⟨rfl, same⟩)

theorem Guarded.arrives (guarded : Guarded recorded typed document) (mounted : document.mounted = true)
    (loading : document.loading = true)
    (quiet : ∀ load ∈ document.loads, load.generation ≠ document.generation) {content : String}
    {revision : Nat} (known : base ∈ recorded) (kept : document.content ∈ recorded ∨ content = document.content) :
    Guarded recorded typed { document with content, base, revision, loading := false } := by
  obtain ⟨-, none, -⟩ := guarded.loading mounted loading
  exact { guarded with
    base := known
    holds := fun text member => by
      rcases guarded.holds text member with old | ⟨-, shown⟩ | draft
      · exact .inl old
      · rcases kept with there | same
        · exact .inl (shown ▸ there)
        · exact .inr (.inl ⟨mounted, same.trans shown⟩)
      · exact .inr (.inr draft)
    loading := fun _ loading => by simp at loading
    loads := fun load member => ⟨(guarded.loads load member).1, fun _ current => absurd current (quiet load member)⟩
    revisions := fun persist member current => absurd current (none persist member) }

theorem Guarded.ready (guarded : Guarded recorded typed document) (mounted : document.mounted = true)
    (loading : document.loading = true)
    (quiet : ∀ load ∈ document.loads, load.generation ≠ document.generation) :
    Guarded recorded typed { document with loading := false } :=
  guarded.arrives mounted loading quiet guarded.base (.inr rfl)

variable {file : TextFile}

theorem Guarded.accept (guarded : Guarded recorded typed document) (mounted : document.mounted = true)
    (loading : document.loading = true) (quiet : ∀ load ∈ document.loads, load.generation ≠ document.generation)
    (known : file.content ∈ recorded) (kept : document.content ∈ recorded ∨ file.content = document.content) :
    Guarded recorded typed { document.accept file with loading := false } := by
  unfold Document.accept Document.setContent
  split
  · exact { guarded.arrives mounted loading quiet known (.inr rfl) with }
  · exact { guarded.arrives mounted loading quiet known kept with }

theorem Guarded.restored (guarded : Guarded recorded typed document) (mounted : document.mounted = true)
    {load : Load} (member : load ∈ document.loads) (current : load.generation = document.generation) :
    document.content = (load.draft.map TextDraft.content).getD "" := by
  obtain ⟨loading, draft⟩ := (guarded.loads load member).2 mounted current
  rw [(guarded.loading mounted loading).2.2, draft]
  split <;> rfl

/-- What arrives first is content where there is no draft, or the draft has the same text. -/
theorem Guarded.loaded (guarded : Guarded recorded typed document) {i : Nat}
    (taken : document.loaded i = some after) (base : after.base ∈ recorded) :
    Guarded recorded typed after := by
  obtain ⟨load, found, taken⟩ := Option.bind_eq_some_iff.mp taken
  have there := List.mem_of_getElem? found
  have rest : Guarded recorded typed { document with loads := document.loads.eraseIdx i } :=
    { guarded with
      loads := fun load member => guarded.loads load (List.mem_of_mem_eraseIdx member)
      single := guarded.single.sublist ((List.eraseIdx_sublist _ i).map _) }
  simp only at taken
  split at taken
  case isFalse => split at taken <;> cases taken <;> exact rest
  case isTrue current =>
    obtain ⟨mounted, current⟩ := current
    have loading := ((guarded.loads load there).2 mounted current).1
    have content := guarded.restored mounted there current
    -- No other answer of this generation is under way.
    have quiet : ∀ other ∈ document.loads.eraseIdx i, other.generation ≠ document.generation := by
      intro other member same
      obtain ⟨j, apart, held⟩ := List.mem_eraseIdx_iff_getElem?.mp member
      have below : j < (document.loads.map Load.generation).length := by
        rw [List.length_map]
        exact (List.getElem?_eq_some_iff.mp held).1
      have same : (document.loads.map Load.generation)[j]? = (document.loads.map Load.generation)[i]? := by
        simp [held, found, same, current]
      exact apart ((List.getElem?_inj below guarded.single).mp same)
    split at taken
    · next file answered =>
      cases taken
      cases stored : load.draft with
      | none =>
        -- Without a draft that was read, nothing can have been typed.
        have blank : document.content = "" := by simpa [stored] using content
        simp only [stored, Document.afterLoad] at base ⊢
        exact rest.accept mounted loading quiet base (.inl (blank ▸ guarded.blank))
      | some held =>
        have same : document.content = held.content := by simpa [stored] using content
        simp only [stored, Document.afterLoad] at base ⊢
        split at base
        · next equal =>
          rw [if_pos equal]
          exact rest.accept mounted loading quiet base (.inr (equal.symm.trans same.symm))
        · next differs =>
          rw [if_neg differs]
          have kept := rest.ready mounted loading quiet
          split
          · exact { kept with }
          · exact { kept with }
    · cases taken
      exact { rest.ready mounted loading quiet with }
    · cases taken

theorem Guarded.moveOn (guarded : Guarded recorded typed document) {onward : Reading → Option Reading}
    {place : ReadingPlace} (taken : document.moveOn onward place = some after) :
    Guarded recorded typed after := by
  cases place with
  | load i =>
    obtain ⟨load, found, taken⟩ := Option.bind_eq_some_iff.mp taken
    obtain ⟨later, -, rfl⟩ := Option.map_eq_some_iff.mp taken
    have there := List.mem_of_getElem? found
    obtain ⟨small, here⟩ := List.getElem?_eq_some_iff.mp found
    refine { guarded with loads := fun other member => ?_, single := ?_ }
    · rcases List.mem_or_eq_of_mem_set member with old | rfl
      · exact guarded.loads other old
      · exact guarded.loads load there
    · -- The generations are as they were.
      have same : (document.loads.set i { load with reading := later }).map Load.generation =
          document.loads.map Load.generation := by
        rw [List.map_set]
        refine List.ext_getElem? fun j => ?_
        rw [List.getElem?_set]
        split
        · next equal => simp [← equal, small, here]
        · rfl
      exact same ▸ guarded.single
  | persist k =>
    obtain ⟨persist, found, taken⟩ := Option.bind_eq_some_iff.mp taken
    have there := List.mem_of_getElem? found
    split at taken
    · next reading stage =>
      obtain ⟨later, -, rfl⟩ := Option.map_eq_some_iff.mp taken
      exact guarded.moves found fun _ => guarded.written persist there (.inr ⟨reading, stage⟩)
    · obtain ⟨later, -, rfl⟩ := Option.map_eq_some_iff.mp taken
      exact guarded.moves found (by simp)
    · cases taken
  | starting =>
    obtain ⟨reading, held, taken⟩ := Option.bind_eq_some_iff.mp taken
    obtain ⟨later, -, rfl⟩ := Option.map_eq_some_iff.mp taken
    exact { guarded with }

theorem Guarded.serve (guarded : Guarded recorded typed document) {served : Served}
    (taken : document.serve k served = some after)
    (writes : ∀ persist ∈ document.writes (.serve k served), persist.value ∈ recorded) :
    Guarded recorded typed after := by
  obtain ⟨persist, found, taken⟩ := Option.bind_eq_some_iff.mp taken
  split at taken
  case isFalse => cases taken
  case isTrue sent =>
    cases served with
    | fails message =>
      cases taken
      exact guarded.moves found (by simp)
    | runs modifiedAt answer =>
      simp only at taken
      split at taken
      · cases taken
        exact guarded.moves found (by simp)
      · next checked =>
        have expects : persist.expected = none ∨ persist.expected = some document.remote.modifiedAt := by
          by_contra neither
          exact checked (not_or.mp neither)
        have value := writes persist (by simp [Document.writes, found, sent, expects])
        cases taken
        exact { guarded.moves found fun _ => value with }

theorem Guarded.answered (guarded : Guarded recorded typed document)
    (taken : document.answered k = some after) : Guarded recorded typed after := by
  obtain ⟨persist, found, taken⟩ := Option.bind_eq_some_iff.mp taken
  have rest := guarded.fewer (List.eraseIdx_subset (l := document.persists) (k := k))
  simp only at taken
  split at taken
  · next stage =>
    cases taken
    split
    · exact guarded.moves found fun _ =>
        guarded.written persist (List.mem_of_getElem? found) (.inl stage)
    · exact rest
  · cases taken
    split
    · exact guarded.moves found (by simp)
    · exact rest
  · cases taken
    split
    · exact { rest with }
    · exact rest
  · cases taken

theorem Document.Holds.setContent {text : String} (holds : document.Holds recorded text)
    (kept : document.content = text → text ∈ recorded ∨ value = text) :
    (document.setContent value).Holds recorded text := by
  unfold Document.setContent
  split
  · exact holds
  · rcases holds with known | ⟨mounted, same⟩ | draft
    · exact .inl known
    · exact (kept same).imp_right fun new => .inl ⟨mounted, new⟩
    · exact .inr (.inr draft)

theorem Guarded.readable (guarded : Guarded recorded typed document) (shown : document.shown) (known : base ∈ recorded)
    (draft : document.draftReadError ≠ none → ∀ draft ∈ document.draft, draft.content ∈ recorded) :
    Guarded recorded typed { document with base, draftReadError := none } :=
  { guarded with
    base := known
    holds := fun text member => by
      rcases guarded.holds text member with old | content | ⟨closed | unreadable, held, stored, rfl⟩
      · exact .inl old
      · exact .inr (.inl content)
      · simp [shown.1] at closed
      · exact .inl (draft unreadable held stored)
    loading := fun _ loading => absurd loading (not_loading shown)
    loads := fun load member => ⟨(guarded.loads load member).1, fun mounted current =>
      absurd ((guarded.loads load member).2 mounted current).1 (not_loading shown)⟩ }

theorem Guarded.afterReread (guarded : Guarded recorded typed document) (shown : document.shown)
    (persist : Persist) (base : file.content ∈ recorded) (same : persist.revision = document.revision →
      document.content ∈ recorded ∨ document.content = file.content)
    (draft : document.draftReadError ≠ none → ∀ draft ∈ document.draft, draft.content ∈ recorded) :
    Guarded recorded typed (document.afterReread persist file) := by
  unfold Document.afterReread
  by_cases unchanged : persist.revision = document.revision
  · have renewed : Guarded recorded typed (document.setContent file.content) :=
      guarded.setContent shown fun text member =>
        Document.Holds.setContent (guarded.holds text member) fun content =>
          (same unchanged).imp (fun known => content ▸ known) fun new => new.symm.trans content
    have there : (document.setContent file.content).shown := by simpa [Document.shown] using shown
    simp only [unchanged, decide_true, if_true]
    exact { renewed.readable there base (by simpa using draft) with }
  · simp only [unchanged, decide_false, Bool.false_eq_true, if_false]
    exact { guarded.readable shown base draft with }

theorem Guarded.afterComparing (guarded : Guarded recorded typed document) (shown : document.shown)
    (persist : Persist) (file : TextFile)
    (same : persist.revision = document.revision → document.content ∈ recorded ∨ document.content = persist.value) :
    Guarded recorded typed (document.afterComparing persist file) := by
  have renewed : Guarded recorded typed (document.setContent
      (if persist.revision = document.revision then persist.value else document.content)) := by
    refine guarded.setContent shown fun text member =>
      Document.Holds.setContent (guarded.holds text member) fun content => ?_
    split
    · next unchanged =>
      exact (same unchanged).imp (fun known => content ▸ known) fun new => new.symm.trans content
    · exact .inr content
  exact { renewed with }

theorem Guarded.dropCopy (guarded : Guarded recorded typed document) (persist : Persist)
    (discarded : Outcome) : Guarded recorded typed (document.dropCopy persist discarded) := by
  unfold Document.dropCopy
  split
  · cases discarded with
    | ok discarded => exact { guarded with }
    | error text => exact { guarded with }
  · exact guarded

variable {persist : Persist}

theorem Guarded.shown (guarded : Guarded recorded typed document)
    (member : persist ∈ document.persists) (current : persist.Current document) : document.shown :=
  ⟨current.1, by
    by_contra loading
    exact (guarded.loading current.1 (by simpa using loading)).2.1 persist member current.2⟩

theorem Guarded.unchanged (guarded : Guarded recorded typed document)
    (member : persist ∈ document.persists) (current : persist.Current document) {text : String}
    (imports : persist.imported = true → persist.revision = document.revision →
      document.content = document.base ∨ document.content = text)
    (own : persist.value ∈ recorded ∨ persist.value = text) :
    persist.revision = document.revision → document.content ∈ recorded ∨ document.content = text := by
  intro unchanged
  cases kind : persist.imported with
  | true =>
    refine (imports kind unchanged).imp_left fun same => ?_
    rw [same]
    exact guarded.base
  | false =>
    have value := (guarded.revisions persist member current.2).2 kind unchanged
    exact value ▸ own

variable {discarded : Outcome}

theorem Guarded.reread (guarded : Guarded recorded typed document)
    (taken : document.reread k discarded = some after) (base : after.base ∈ recorded)
    (spared : Spared document (.reread k discarded)) : Guarded recorded typed after := by
  obtain ⟨persist, found, taken⟩ := Option.bind_eq_some_iff.mp taken
  have there := List.mem_of_getElem? found
  have rest := guarded.fewer (List.eraseIdx_subset (l := document.persists) (k := k))
  simp only at taken
  split at taken
  · next file stage =>
    cases taken
    split
    · next current =>
      rw [if_pos current] at base
      have current := of_decide_eq_true current
      obtain ⟨imports, unreadable⟩ := spared persist found current
      have value := guarded.written persist there (.inr ⟨_, stage⟩)
      have known : file.content ∈ recorded := by
        simpa [Document.finish, Document.afterReread] using base
      have same := guarded.unchanged there current
        (fun kind unchanged => imports kind unchanged file.content (by simp [Persist.replacement, stage]))
        (.inl value)
      have renewed := rest.afterReread (guarded.shown there current) persist known same
        fun unread draft stored => unreadable unread file stage draft stored ▸ value
      exact { renewed.dropCopy persist discarded with }
    · exact rest
  · next file stage =>
    cases taken
    split
    · next current =>
      have current := of_decide_eq_true current
      obtain ⟨imports, -⟩ := spared persist found current
      have same := guarded.unchanged there current
        (fun kind unchanged => imports kind unchanged persist.value (by simp [Persist.replacement, stage]))
        (.inr rfl)
      exact { rest.afterComparing (guarded.shown there current) persist file same with }
    · exact rest
  · cases taken
    split
    · exact { rest with }
    · exact rest
  · cases taken
    split
    · exact { rest with }
    · exact rest
  · cases taken

theorem Guarded.reread_content (guarded : Guarded recorded typed document)
    (taken : document.reread k discarded = some after)
    (spared : Spared document (.reread k discarded)) :
    after.content = document.content ∨ document.content ∈ recorded := by
  obtain ⟨persist, found, taken⟩ := Option.bind_eq_some_iff.mp taken
  have there := List.mem_of_getElem? found
  -- Content that the call replaces was recorded, or is the same.
  have replaced : ∀ text ∈ persist.replacement, persist.Current document →
      (persist.value ∈ recorded ∨ persist.value = text) → persist.revision = document.revision →
      document.content ∈ recorded ∨ document.content = text := fun text held current own =>
    guarded.unchanged there current
      (fun kind unchanged => (spared persist found current).1 kind unchanged text held) own
  simp only at taken
  split at taken
  · next file stage =>
    cases taken
    split
    · next current =>
      have current := of_decide_eq_true current
      have value := guarded.written persist there (.inr ⟨_, stage⟩)
      by_cases unchanged : persist.revision = document.revision
      · have kept := replaced file.content (by simp [Persist.replacement, stage]) current (.inl value)
          unchanged
        refine kept.symm.imp_left fun same => ?_
        simp [Document.finish, Document.afterReread, unchanged, same]
      · exact .inl (by simp [Document.finish, Document.afterReread, unchanged])
    · exact .inl rfl
  · next file stage =>
    cases taken
    split
    · next current =>
      have current := of_decide_eq_true current
      by_cases unchanged : persist.revision = document.revision
      · have kept := replaced persist.value (by simp [Persist.replacement, stage]) current (.inr rfl)
          unchanged
        refine kept.symm.imp_left fun same => ?_
        simp [Document.finish, Document.afterComparing, unchanged, same]
      · exact .inl (by simp [Document.finish, Document.afterComparing, unchanged])
    · exact .inl rfl
  · cases taken
    split <;> exact .inl rfl
  · cases taken
    split <;> exact .inl rfl
  · cases taken

theorem Guarded.gone (guarded : Guarded recorded typed document) {left : List String}
    (holds : ∀ text ∈ left, text ∈ recorded ∨ ∃ draft, document.draft = some draft ∧ draft.content = text) :
    Guarded recorded left { document with mounted := false, generation := document.generation + 1 } :=
  { guarded with
    holds := fun text member => (holds text member).imp_right fun draft => .inr ⟨.inl rfl, draft⟩
    loading := nofun
    loads := fun load member => ⟨Nat.le_succ_of_le (guarded.loads load member).1, nofun⟩
    generations := fun persist member => Nat.le_succ_of_le (guarded.generations persist member)
    revisions := fun persist member current => by
      have old := guarded.generations persist member
      have current : persist.generation = document.generation + 1 := current
      omega }

theorem preserveDraft_cases {kept : Document} {stored : Outcome} {done : Bool}
    (preserves : document.preserveDraft stored = (kept, done)) :
    (kept = document ∧ (done = true → document.loading = true)) ∨
    (document.loading = false ∧ document.draftReadError = none ∧ done = true ∧
      kept = { document with
        draft := if document.content = document.base then none
          else some ⟨document.content, document.base, document.modifiedAt⟩
        draftError := none }) ∨
    (done = false ∧ ∃ text, kept = { document with draftError := some text }) := by
  unfold Document.preserveDraft at preserves
  split at preserves
  · next loading =>
    cases preserves
    exact .inl ⟨rfl, fun _ => loading⟩
  split at preserves
  · cases preserves
    exact .inl ⟨rfl, nofun⟩
  next loaded readable =>
  cases stored with
  | ok stored =>
    cases preserves
    exact .inr (.inl ⟨by simpa using loaded, by simpa using readable, rfl, rfl⟩)
  | error text =>
    cases preserves
    exact .inr (.inr ⟨rfl, _, rfl⟩)

theorem Guarded.preserveDraft (guarded : Guarded recorded typed document)
    (mounted : document.mounted = true) (stored : Outcome) :
    Guarded recorded typed (document.preserveDraft stored).1 := by
  generalize preserves : document.preserveDraft stored = result
  obtain ⟨kept, done⟩ := result
  rcases preserveDraft_cases preserves with
    ⟨rfl, -⟩ | ⟨loaded, readable, -, rfl⟩ | ⟨-, text, rfl⟩
  · exact guarded
  · have shown : document.shown := ⟨mounted, loaded⟩
    exact { guarded with
      holds := fun text member => by
        rcases guarded.holds text member with old | content | ⟨closed | unreadable, -⟩
        · exact .inl old
        · exact .inr (.inl content)
        · simp [mounted] at closed
        · exact absurd readable unreadable
      loading := fun _ loading => absurd loading (not_loading shown)
      loads := fun load member => ⟨(guarded.loads load member).1, fun mounted current =>
        absurd ((guarded.loads load member).2 mounted current).1 (not_loading shown)⟩ }
  · exact { guarded with }

theorem Guarded.leave (guarded : Guarded recorded typed document) (mounted : document.mounted = true)
    (stored : Outcome) (confirmed : Bool) :
    Guarded recorded typed (document.leave stored confirmed) := by
  have preserved := guarded.preserveDraft mounted stored
  unfold Document.leave
  split
  · exact { guarded with }
  split
  · exact { guarded with }
  split
  · next kept same =>
    rw [same] at preserved
    exact preserved
  · next kept same =>
    rw [same] at preserved
    split
    case isFalse => exact preserved
    case isTrue =>
      have generation : kept.generation = document.generation := by
        rcases preserveDraft_cases same with ⟨rfl, -⟩ | ⟨-, -, -, rfl⟩ | ⟨-, text, rfl⟩ <;> rfl
      rw [← generation]
      refine preserved.gone fun text member => ?_
      rcases preserveDraft_cases same with ⟨rfl, loading⟩ | ⟨-, readable, -, rfl⟩ | ⟨fails, -⟩
      · -- While the first answer is under way the content is the draft that was read.
        have content := (guarded.loading mounted (loading rfl)).2.2
        rcases guarded.holds text member with old | ⟨-, here⟩ | ⟨-, draft⟩
        · exact .inl old
        · split at content
          · cases stored : kept.draft with
            | none => exact .inl (by simpa [stored, ← here, content] using guarded.blank)
            | some draft => exact .inr ⟨draft, rfl, by simp [← here, content, stored]⟩
          · exact .inl (by simpa [← here, content] using guarded.blank)
        · exact .inr draft
      · rcases guarded.holds text member with old | ⟨-, here⟩ | ⟨closed | unreadable, -⟩
        · exact .inl old
        · by_cases saved : document.content = document.base
          · exact .inl (here ▸ saved ▸ guarded.base)
          · exact .inr ⟨_, if_neg saved, here⟩
        · simp [mounted] at closed
        · exact absurd readable unreadable
      · cases fails

theorem Guarded.close (guarded : Guarded recorded typed document) (mounted : document.mounted = true)
    (stored : Outcome) (confirmed confirmedCopy : Bool) :
    Guarded recorded
      (if (document.close stored confirmed confirmedCopy).mounted = true then typed
        else typed.filter fun text => text ≠ document.content ∧
          (document.draftReadError = none ∨ some text ≠ document.draft.map TextDraft.content))
      (document.close stored confirmed confirmedCopy) := by
  unfold Document.close Document.discardDraft
  split
  · exact { guarded with }
  split
  · exact guarded
  split
  · exact guarded
  cases stored with
  | error text =>
    simp only [if_pos mounted]
    exact { guarded with }
  | ok stored =>
    simp only [Bool.false_eq_true, if_false]
    -- What is left was neither the content nor in a draft that could not be read.
    have kept : ∀ text ∈ typed.filter fun text => text ≠ document.content ∧
        (document.draftReadError = none ∨ some text ≠ document.draft.map TextDraft.content),
        text ∈ recorded := by
      intro text member
      obtain ⟨there, other⟩ := List.mem_filter.mp member
      obtain ⟨content, draft⟩ := of_decide_eq_true other
      rcases guarded.holds text there with old | ⟨-, here⟩ | ⟨closed | unreadable, held, stored, same⟩
      · exact old
      · exact absurd here.symm content
      · simp [mounted] at closed
      · exact absurd (by simp [stored, same]) (draft.resolve_left unreadable)
    have closed := guarded.gone fun text member => .inl (kept text member)
    exact { closed with
      holds := fun text member => .inl (kept text member)
      loading := nofun
      loads := fun load member => ⟨(closed.loads load member).1, nofun⟩ }

variable {label : EditorLabel}

/-- An event that meets the condition loses no typed text that its user did not give up. -/
theorem Guarded.handle (guarded : Guarded recorded document.typed document)
    (taken : document.handle label = some after) (spared : Spared document label.event) (base : after.base ∈ recorded)
    (writes : ∀ persist ∈ document.writes label.event, persist.value ∈ recorded) :
    Guarded recorded (Document.retype document after label.event) after := by
  obtain ⟨event, stored⟩ := label
  cases event with
  | «open» read =>
    obtain ⟨closed, rfl⟩ := System.guarded_eq_some.mp taken
    exact guarded.mount closed read base
  | loaded i => exact guarded.loaded taken base
  | edit value =>
    obtain ⟨⟨shown, -⟩, rfl⟩ := System.guarded_eq_some.mp taken
    simp only [Document.retype]
    split
    · next same =>
      refine guarded.setContent shown fun text member =>
        Document.Holds.setContent (guarded.holds text member) fun here => .inr (same.trans here)
    · refine guarded.setContent shown fun text member => ?_
      rcases List.mem_cons.mp member with rfl | old
      · exact .inr (.inl ⟨by simpa using shown.1, by simp⟩)
      · -- What was content before was typed over.
        obtain ⟨there, other⟩ := List.mem_filter.mp old
        exact Document.Holds.setContent (guarded.holds text there) fun here =>
          absurd here.symm (of_decide_eq_true other)
  | save =>
    obtain ⟨⟨shown, -⟩, rfl⟩ := System.guarded_eq_some.mp taken
    exact guarded.persist (fun _ => rfl) fun loading => not_loading shown loading.2
  | keepEditing =>
    obtain ⟨-, rfl⟩ := System.guarded_eq_some.mp taken
    exact { guarded with }
  | useRemote =>
    simp only [Document.handle] at taken
    split at taken
    case isFalse => cases taken
    case isTrue shown =>
      obtain ⟨view, held, rfl⟩ := Option.map_eq_some_iff.mp taken
      have renewed : Guarded recorded (document.typed.filter fun text => text ≠ document.content)
          (document.setContent view.remote) := by
        refine guarded.setContent shown fun text member => ?_
        obtain ⟨there, other⟩ := List.mem_filter.mp member
        exact Document.Holds.setContent (guarded.holds text there) fun here =>
          absurd here.symm (of_decide_eq_true other)
      exact { renewed with base := base }
  | overwrite =>
    simp only [Document.handle] at taken
    split at taken
    case isFalse => cases taken
    case isTrue shown =>
      obtain ⟨view, held, rfl⟩ := Option.map_eq_some_iff.mp taken
      have renewed : Guarded recorded (document.typed.filter fun text => text ≠ document.content ∨
          some text = document.conflict.map (·.localText)) (document.setContent view.localText) := by
        refine guarded.setContent shown fun text member => ?_
        obtain ⟨there, other⟩ := List.mem_filter.mp member
        refine Document.Holds.setContent (guarded.holds text there) fun here => .inr ?_
        have own := (of_decide_eq_true other).resolve_left fun differs => differs here.symm
        simpa [held] using own.symm
      exact renewed.persist (fun _ => by simp) fun loading =>
        not_loading shown (by simpa using loading.2)
  | startExternal =>
    obtain ⟨-, rfl⟩ := System.guarded_eq_some.mp taken
    exact { guarded with }
  | started =>
    simp only [Document.handle] at taken
    split at taken <;> cases taken <;> exact { guarded with }
  | externalWrite text =>
    obtain ⟨copy, -, rfl⟩ := Option.map_eq_some_iff.mp taken
    exact { guarded with }
  | importExternal =>
    obtain ⟨⟨shown, -⟩, rfl⟩ := System.guarded_eq_some.mp taken
    exact { guarded with loading := fun _ loading => absurd loading (not_loading shown) }
  | imported read =>
    obtain ⟨begun, importing, taken⟩ := Option.bind_eq_some_iff.mp taken
    obtain ⟨copy, -, rfl⟩ := Option.map_eq_some_iff.mp taken
    have idle : ¬(document.mounted = true ∧ document.loading = true) := fun loading =>
      Option.some_ne_none _ (importing.symm.trans (guarded.loading loading.1 loading.2).1)
    have rest : Guarded recorded document.typed { document with importing := none } :=
      { guarded with loading := fun mounted loading => absurd ⟨mounted, loading⟩ idle }
    cases read with
    | error text => exact { rest with }
    | ok read => exact rest.persist nofun idle
  | discardExternal =>
    obtain ⟨-, rfl⟩ := System.guarded_eq_some.mp taken
    exact { guarded with }
  | serve k served => exact guarded.serve taken writes
  | answered k => exact guarded.answered taken
  | reread k discarded => exact guarded.reread taken base spared
  | read | readFails => exact guarded.moveOn taken
  | leave confirmed =>
    obtain ⟨mounted, rfl⟩ := System.guarded_eq_some.mp taken
    exact guarded.leave mounted stored confirmed
  | close confirmed confirmedCopy =>
    obtain ⟨mounted, rfl⟩ := System.guarded_eq_some.mp taken
    exact guarded.close mounted stored confirmed confirmedCopy
  | foreign file =>
    obtain ⟨-, rfl⟩ := System.guarded_eq_some.mp taken
    exact { guarded with }

theorem Guarded.settle (guarded : Guarded recorded typed after) (stored : Outcome) :
    Guarded recorded typed (Document.settle document after stored) := by
  unfold Document.settle
  split
  · next changed => exact guarded.preserveDraft changed.1.1 stored
  · exact guarded

theorem Guarded.step {next : Document} (guarded : Guarded document.recorded document.typed document)
    (taken : editorStep document label = some next) (spared : Spared document label.event) :
    Guarded next.recorded next.typed next := by
  obtain ⟨after, handled, rfl⟩ := Option.map_eq_some_iff.mp taken
  obtain ⟨-, -, base, mounted⟩ := Document.settle_shows document after label.stored
  -- What is written and what is a baseline after the event is recorded from now on.
  let recorded := (Document.remember document
    (Document.settle document after label.stored) label.event).recorded
  have grows : document.recorded ⊆ recorded := fun text member => List.mem_append_right _ member
  have taken : after.base ∈ recorded := List.mem_append_left _ (by simp [base])
  have writes : ∀ persist ∈ document.writes label.event, persist.value ∈ recorded :=
    fun persist held => List.mem_append_left _
      (List.mem_cons_of_mem _ (by simp [show document.writes label.event = some persist from held]))
  have handling := (guarded.widen grows).handle handled spared taken writes
  have settled : Guarded recorded (document.retype after label.event)
      (Document.settle document after label.stored) := handling.settle label.stored
  have same : Document.retype document (Document.settle document after label.stored) label.event =
      Document.retype document after label.event := by
    unfold Document.retype
    rw [mounted]
  rw [← same] at settled
  exact { settled with }

end Handling

theorem Guarded.closed (remote : TextFile) :
    Guarded (Document.closed remote).recorded (Document.closed remote).typed
      (Document.closed remote) := by
  constructor <;> simp [Document.closed]

/--
In every order of edits, saves, imports, decisions, reloads and failures that meets the condition, a
text that was typed and not given up is content, recorded or in the draft, and the end of a save or
an import replaces only content that was recorded.
-/
theorem typedKept_of_run {trace : List (Document × EditorLabel)} {document : Document}
    (run : editorSystem.Run trace document)
    (meets : ∀ entry ∈ trace, Spared entry.1 entry.2.event) :
    (∀ text ∈ document.typed, text ∈ document.recorded ∨
      document.mounted = true ∧ document.content = text ∨
        ∃ draft, document.draft = some draft ∧ draft.content = text) ∧
    ∀ entry ∈ trace, ∀ k discarded next, entry.2.event = .reread k discarded →
      editorStep entry.1 entry.2 = some next →
        next.content = entry.1.content ∨ entry.1.content ∈ entry.1.recorded := by
  have guarded : ∀ {trace : List (Document × EditorLabel)} {document : Document},
      editorSystem.Run trace document → (∀ entry ∈ trace, Spared entry.1 entry.2.event) →
      Guarded document.recorded document.typed document := fun run meets =>
    run.invariant (fun document label => Spared document label.event)
      (fun document => Guarded document.recorded document.typed document)
      (fun _ begins => by
        obtain ⟨remote, rfl⟩ := begins
        exact Guarded.closed remote)
      (fun _ _ _ guarded spared taken => guarded.step taken spared) meets
  refine ⟨fun text member => ?_, fun entry member k discarded next rereads taken => ?_⟩
  · rcases (guarded run meets).holds text member with known | content | ⟨-, draft⟩
    · exact .inl known
    · exact .inr (.inl content)
    · exact .inr (.inr draft)
  · obtain ⟨before, after, rfl, earlier⟩ := run.visited entry member
    have known := guarded earlier fun old there => meets old (List.mem_append_left _ there)
    have spared := meets entry member
    obtain ⟨after, handled, rfl⟩ := Option.map_eq_some_iff.mp taken
    obtain ⟨content, -⟩ := Document.settle_shows entry.1 after entry.2.stored
    obtain ⟨document, event, stored⟩ := entry
    obtain rfl : event = .reread k discarded := rereads
    exact (known.reread_content handled spared).imp_left content.trans

/--
An import saves the copy while an edit is unsaved, and takes the place of the edit when it ends.
A draft that could not be read is written over when another text was saved.
-/
theorem typed_lost :
    (∃ trace document, editorSystem.Run trace document ∧ document.content = "theirs" ∧ document.Lost "mine") ∧
    ∃ trace document, editorSystem.Run trace document ∧
      (∀ entry ∈ trace, entry.1.externalEdit = none) ∧ document.Lost "mine" := by
  constructor
  · have goes : System.trail editorStep (.closed ⟨"base", 10⟩) [⟨.open (.ok ()), .ok ()⟩,
        ⟨.read (.load 0), .ok ()⟩, ⟨.read (.load 0), .ok ()⟩, ⟨.loaded 0, .ok ()⟩,
        ⟨.edit "mine", .ok ()⟩, ⟨.startExternal, .ok ()⟩, ⟨.read .starting, .ok ()⟩,
        ⟨.read .starting, .ok ()⟩, ⟨.started, .ok ()⟩, ⟨.externalWrite "theirs", .ok ()⟩,
        ⟨.importExternal, .ok ()⟩, ⟨.imported (.ok ()), .ok ()⟩,
        ⟨.serve 0 (.runs 11 (.ok ())), .ok ()⟩, ⟨.answered 0, .ok ()⟩,
        ⟨.read (.persist 0), .ok ()⟩, ⟨.read (.persist 0), .ok ()⟩,
        ⟨.reread 0 (.ok ()), .ok ()⟩] = some (_, _) := rfl
    have run := System.Run.trail (.start ⟨⟨"base", 10⟩, rfl⟩ :
      editorSystem.Run [] (.closed ⟨"base", 10⟩)) goes
    exact ⟨_, _, run, rfl, by decide⟩
  · have goes : System.trail editorStep (.closed ⟨"base", 10⟩) [⟨.open (.ok ()), .ok ()⟩,
        ⟨.read (.load 0), .ok ()⟩, ⟨.read (.load 0), .ok ()⟩, ⟨.loaded 0, .ok ()⟩,
        ⟨.edit "mine", .ok ()⟩, ⟨.leave true, .ok ()⟩, ⟨.open (.error "denied"), .ok ()⟩,
        ⟨.read (.load 0), .ok ()⟩, ⟨.read (.load 0), .ok ()⟩, ⟨.loaded 0, .ok ()⟩,
        ⟨.edit "other", .ok ()⟩, ⟨.save, .ok ()⟩, ⟨.serve 0 (.runs 11 (.ok ())), .ok ()⟩,
        ⟨.answered 0, .ok ()⟩, ⟨.read (.persist 0), .ok ()⟩, ⟨.read (.persist 0), .ok ()⟩,
        ⟨.reread 0 (.ok ()), .ok ()⟩] = some (_, _) := rfl
    have run := System.Run.trail (.start ⟨⟨"base", 10⟩, rfl⟩ :
      editorSystem.Run [] (.closed ⟨"base", 10⟩)) goes
    refine ⟨_, _, run, ?_, by decide⟩
    -- No copy for an external editor is made.
    simp only [List.nil_append, List.forall_mem_cons]
    exact ⟨rfl, rfl, rfl, rfl, rfl, rfl, rfl, rfl, rfl, rfl, rfl, rfl, rfl, rfl, rfl, rfl, rfl, List.forall_mem_nil _⟩

theorem Spared.of_own {document : Document} {event : EditorEvent}
    (own : (document.persists.all fun persist => !persist.imported) = true)
    (readable : document.draftReadError = none) : Spared document event := by
  cases event with
  | reread k discarded =>
    intro persist found current
    have kind := List.all_eq_true.mp own persist (List.mem_of_getElem? found)
    exact ⟨fun imported => by simp [imported] at kind, fun unreadable => absurd readable unreadable⟩
  | _ => trivial

/-- An edit that is saved is recorded when the save ends. -/
theorem typedKept_of_run_save :
    ∃ trace document, editorSystem.Run trace document ∧ document.typed = ["mine"] ∧
      document.saved = true ∧
      (∀ text ∈ document.typed, text ∈ document.recorded ∨
        document.mounted = true ∧ document.content = text ∨
          ∃ draft, document.draft = some draft ∧ draft.content = text) ∧
      ∀ entry ∈ trace, ∀ k discarded next, entry.2.event = .reread k discarded →
        editorStep entry.1 entry.2 = some next →
          next.content = entry.1.content ∨ entry.1.content ∈ entry.1.recorded := by
  have goes : System.trail editorStep (.closed ⟨"base", 10⟩) [⟨.open (.ok ()), .ok ()⟩,
      ⟨.read (.load 0), .ok ()⟩, ⟨.read (.load 0), .ok ()⟩, ⟨.loaded 0, .ok ()⟩,
      ⟨.edit "mine", .ok ()⟩, ⟨.save, .ok ()⟩, ⟨.serve 0 (.runs 11 (.ok ())), .ok ()⟩,
      ⟨.answered 0, .ok ()⟩, ⟨.read (.persist 0), .ok ()⟩, ⟨.read (.persist 0), .ok ()⟩,
      ⟨.reread 0 (.ok ()), .ok ()⟩] = some (_, _) := rfl
  have run := System.Run.trail (.start ⟨⟨"base", 10⟩, rfl⟩ :
    editorSystem.Run [] (.closed ⟨"base", 10⟩)) goes
  have kept := typedKept_of_run run (by
    simp only [List.nil_append, List.forall_mem_cons]
    exact ⟨trivial, trivial, trivial, trivial, trivial, trivial, trivial, trivial, trivial, trivial,
      .of_own rfl rfl, List.forall_mem_nil _⟩)
  exact ⟨_, _, run, by decide, by decide, kept⟩

end Frontend

end CNShell
