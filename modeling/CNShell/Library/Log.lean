import Mathlib.Data.List.Basic
import Mathlib.Data.List.DropRight

/-! What holds at every place of a log, what goes on in it, and what was read off its latest part. -/

namespace CNShell

namespace Log

variable {α : Type u} {log : List α} {entry : α}

/-- Every entry of a log is good after the entries before it. -/
def Everywhere (good : List α → α → Prop) (log : List α) : Prop :=
  ∀ before entry after, log = before ++ entry :: after → good before entry

theorem Everywhere.nil (good : List α → α → Prop) : Everywhere good [] := by
  intro before entry after split
  cases before <;> cases split

theorem Everywhere.snoc {good : List α → α → Prop} (everywhere : Everywhere good log)
    (last : good log entry) : Everywhere good (log ++ [entry]) := by
  intro before found after split
  -- The split is at the new entry, or inside the old log.
  rcases List.eq_nil_or_concat after with rfl | ⟨inside, final, rfl⟩
  · obtain ⟨rfl, same⟩ := List.append_inj' split rfl
    obtain rfl : entry = found := by simpa using same
    exact last
  · rw [List.concat_eq_append, ← List.cons_append, ← List.append_assoc] at split
    exact everywhere before found inside (List.append_inj' split rfl).1

/-- Some entry started something that no later entry stopped. -/
def Since (starts stops : α → Prop) (log : List α) : Prop :=
  ∃ before entry after, log = before ++ entry :: after ∧ starts entry ∧ ∀ later ∈ after, ¬stops later

variable {starts stops : α → Prop}

theorem Since.snoc (since : Since starts stops log) (goes : ¬stops entry) : Since starts stops (log ++ [entry]) := by
  obtain ⟨before, start, after, rfl, begun, going⟩ := since
  refine ⟨before, start, after ++ [entry], by simp, begun, fun later member => ?_⟩
  rcases List.mem_append.mp member with old | last
  · exact going later old
  · obtain rfl : later = entry := by simpa using last
    exact goes

theorem Since.start (log : List α) (begun : starts entry) : Since starts stops (log ++ [entry]) :=
  ⟨log, entry, [], rfl, begun, by simp⟩

theorem Since.of_getElem? {n : Nat} (there : log[n]? = some entry) (begun : starts entry)
    (going : ∀ later ∈ log.drop (n + 1), ¬stops later) : Since starts stops log := by
  obtain ⟨within, rfl⟩ := List.getElem?_eq_some_iff.mp there
  refine ⟨log.take n, log[n], log.drop (n + 1), ?_, begun, going⟩
  rw [List.getElem_cons_drop, List.take_append_drop]

theorem since_snoc :
    Since starts stops (log ++ [entry]) ↔ starts entry ∨ (Since starts stops log ∧ ¬stops entry) := by
  constructor
  · rintro ⟨before, start, after, split, begun, going⟩
    -- The entry that started it is the new one, or one inside the old log.
    rcases List.eq_nil_or_concat after with rfl | ⟨inside, final, rfl⟩
    · obtain ⟨-, same⟩ := List.append_inj' split rfl
      obtain rfl : entry = start := by simpa using same
      exact .inl begun
    · rw [List.concat_eq_append, ← List.cons_append, ← List.append_assoc] at split
      obtain ⟨old, same⟩ := List.append_inj' split rfl
      obtain rfl : entry = final := by simpa using same
      exact .inr ⟨⟨before, start, inside, old, begun, fun later member =>
        going later (by simp [member])⟩, going entry (by simp)⟩
  · rintro (begun | ⟨since, goes⟩)
    · exact .start log begun
    · exact since.snoc goes

theorem not_since_nil : ¬Since starts stops ([] : List α) := by
  rintro ⟨before, start, after, split, -⟩
  cases before <;> cases split

section Reading

variable {β : Type v} {κ : Type w} [DecidableEq κ] {opens : α → Option κ} {key : κ}
variable {read : α → Option β}

/-- What was read off the entries after the last one that opens under a key, in order. -/
def readSince (opens : α → Option κ) (key : κ) (read : α → Option β) (log : List α) : List β :=
  (log.rtakeWhile fun entry => !decide (opens entry = some key)).filterMap read

theorem readSince_opens (anew : opens entry = some key) : readSince opens key read (log ++ [entry]) = [] := by
  simp [readSince, anew]

theorem readSince_snoc (goes : opens entry ≠ some key) :
    readSince opens key read (log ++ [entry]) = readSince opens key read log ++ (read entry).toList := by
  cases value : read entry <;> simp [readSince, goes, value]

theorem readSince_quiet (goes : opens entry ≠ some key) (quiet : read entry = none) :
    readSince opens key read (log ++ [entry]) = readSince opens key read log := by
  rw [readSince_snoc goes, quiet]
  exact List.append_nil _

theorem readSince_read (goes : opens entry ≠ some key) {value : β} (found : read entry = some value) :
    readSince opens key read (log ++ [entry]) = readSince opens key read log ++ [value] := by
  rw [readSince_snoc goes, found]
  rfl

theorem mem_readSince {value : β} (read' : value ∈ readSince opens key read log) :
    ∃ entry ∈ log, read entry = some value := by
  obtain ⟨entry, late, found⟩ := List.mem_filterMap.mp read'
  exact ⟨entry, (List.rtakeWhile_suffix _ _).subset late, found⟩

end Reading

end Log

end CNShell
