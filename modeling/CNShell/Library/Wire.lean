import Mathlib.Data.List.Basic

/-! One end of a connection: the bytes that come in, those that went out, and the talks that use them. -/

namespace CNShell

/-- What is still to come from the other side, and what was sent to it. -/
structure Wire where
  incoming : List UInt8
  written : List UInt8
  deriving DecidableEq, Repr

/-- A program that reads from a connection and writes to it, until something goes wrong. -/
abbrev Talk (ε : Type) := StateT Wire (Except ε)

namespace Talk

variable {ε : Type} {α β : Type}

/-- As many bytes as are asked for; the connection may end before them. -/
def readExact (ended : ε) (count : Nat) : Talk ε (List UInt8) := fun wire =>
  if count ≤ wire.incoming.length then
    .ok (wire.incoming.take count, { wire with incoming := wire.incoming.drop count })
  else .error ended

def writeAll (bytes : List UInt8) : Talk ε Unit := fun wire =>
  .ok ((), { wire with written := wire.written ++ bytes })

/-- A check that stops the talk. -/
def check (condition : Prop) [Decidable condition] (error : ε) : Talk ε Unit := fun wire =>
  if condition then .ok ((), wire) else .error error

def fail (error : ε) : Talk ε α := fun _ => .error error

section Laws

variable {wire last : Wire} {error : ε}

theorem bind_ok {first : Talk ε α} {following : α → Talk ε β} {value : β} :
    (first >>= following) wire = .ok (value, last) ↔
      ∃ found middle, first wire = .ok (found, middle) ∧ following found middle = .ok (value, last) := by
  show (first wire >>= fun result => following result.1 result.2) = _ ↔ _
  cases ran : first wire with
  | error fault => simp [Bind.bind, Except.bind]
  | ok result =>
    obtain ⟨found, middle⟩ := result
    simp [Bind.bind, Except.bind]

variable {value : α}

theorem pure_ok {found : α} : (pure found : Talk ε α) wire = .ok (value, last) ↔ value = found ∧ last = wire := by
  show Except.ok (found, wire) = _ ↔ _
  rw [Except.ok.injEq, Prod.mk.injEq, eq_comm, @eq_comm _ wire last]

theorem liftM_ok {computed : Except ε α} :
    (liftM computed : Talk ε α) wire = .ok (value, last) ↔ computed = .ok value ∧ last = wire := by
  show (computed >>= fun found => Except.ok (found, wire)) = _ ↔ _
  cases computed with
  | error fault => simp [Bind.bind, Except.bind]
  | ok found => simp [Bind.bind, Except.bind, eq_comm]

variable {bytes : List UInt8}

theorem readExact_ok {count : Nat} : readExact error count wire = .ok (bytes, last) ↔
    bytes.length = count ∧ wire = { last with incoming := bytes ++ last.incoming } := by
  obtain ⟨incoming, written⟩ := wire
  unfold readExact
  constructor
  · intro ran
    split at ran
    · next enough =>
      cases ran
      exact ⟨List.length_take_of_le enough, by simp⟩
    · cases ran
  · rintro ⟨rfl, same⟩
    cases same
    simp

theorem readExact_one : readExact error 1 wire = .ok (bytes, last) ↔
    ∃ first, bytes = [first] ∧ wire = { last with incoming := first :: last.incoming } := by
  rw [readExact_ok, List.length_eq_one_iff]
  constructor
  · rintro ⟨⟨first, rfl⟩, same⟩
    exact ⟨first, rfl, same⟩
  · rintro ⟨first, rfl, same⟩
    exact ⟨⟨first, rfl⟩, same⟩

theorem readExact_two : readExact error 2 wire = .ok (bytes, last) ↔
    ∃ first second, bytes = [first, second] ∧ wire = { last with incoming := first :: second :: last.incoming } := by
  rw [readExact_ok, List.length_eq_two]
  constructor
  · rintro ⟨⟨first, second, rfl⟩, same⟩
    exact ⟨first, second, rfl, same⟩
  · rintro ⟨first, second, rfl, same⟩
    exact ⟨⟨first, second, rfl⟩, same⟩

theorem readExact_four : readExact error 4 wire = .ok (bytes, last) ↔
    ∃ first second third fourth, bytes = [first, second, third, fourth] ∧
      wire = { last with incoming := first :: second :: third :: fourth :: last.incoming } := by
  rw [readExact_ok]
  constructor
  · rintro ⟨length, same⟩
    match bytes, length with
    | [first, second, third, fourth], _ => exact ⟨first, second, third, fourth, rfl, same⟩
  · rintro ⟨first, second, third, fourth, rfl, same⟩
    exact ⟨rfl, same⟩

@[simp] theorem writeAll_ok {u : Unit} : (writeAll bytes : Talk ε Unit) wire = .ok (u, last) ↔
    last = { wire with written := wire.written ++ bytes } := by
  show Except.ok ((), { wire with written := wire.written ++ bytes }) = _ ↔ _
  rw [Except.ok.injEq, Prod.mk.injEq, eq_comm]
  simp [eq_comm]

@[simp] theorem check_ok {condition : Prop} [Decidable condition] {u : Unit} :
    check condition error wire = .ok (u, last) ↔ condition ∧ last = wire := by
  unfold check
  split
  · next holds => simp [holds, eq_comm]
  · next fails => simp [fails]

@[simp] theorem not_fail_ok : ¬(fail error : Talk ε α) wire = .ok (value, last) := by
  intro differ
  cases differ

end Laws

end Talk

end CNShell
