import CNShell.Library.Text

/-! The replacement of what is no UTF-8 in some bytes, byte by byte, and where it may be cut. -/

namespace CNShell

namespace Lossy

/-- The bytes of the replacement character. -/
def replacement : List UInt8 := [0xef, 0xbf, 0xbd]

/-- A character whose first bytes were read. -/
structure Unfinished where
  held : List UInt8
  /-- How many bytes follow after the next one. -/
  more : Nat
  low : UInt8
  /-- The next byte is between these two. -/
  high : UInt8
  continued : 0x80 ≤ low
  beyond : ∀ byte ∈ held, 0x80 ≤ byte

/-- A character of which one byte was read. -/
def Unfinished.of (byte : UInt8) (more : Nat) (low high : UInt8) (beyond : 0x80 ≤ byte)
    (continued : 0x80 ≤ low) : Unfinished :=
  ⟨[byte], more, low, high, continued, fun _ member => List.mem_singleton.mp member ▸ beyond⟩

/-- The character that a byte begins, if it begins one of several bytes. -/
def begins (byte : UInt8) (beyond : 0x80 ≤ byte) : Option Unfinished :=
  if 0xc2 ≤ byte ∧ byte ≤ 0xdf then some (.of byte 0 0x80 0xbf beyond (by decide))
  else if byte = 0xe0 then some (.of byte 1 0xa0 0xbf beyond (by decide))
  else if byte = 0xed then some (.of byte 1 0x80 0x9f beyond (by decide))
  else if 0xe1 ≤ byte ∧ byte ≤ 0xef then some (.of byte 1 0x80 0xbf beyond (by decide))
  else if byte = 0xf0 then some (.of byte 2 0x90 0xbf beyond (by decide))
  else if byte = 0xf4 then some (.of byte 2 0x80 0x8f beyond (by decide))
  else if 0xf1 ≤ byte ∧ byte ≤ 0xf3 then some (.of byte 2 0x80 0xbf beyond (by decide))
  else none

/-- What a byte leads to where no character is unfinished: what is written, and what is unfinished then. -/
def first (byte : UInt8) : List UInt8 × Option Unfinished :=
  if beyond : 0x80 ≤ byte then
    match begins byte beyond with
    | some unfinished => ([], some unfinished)
    | none => (replacement, none)
  else ([byte], none)

/-- A character goes on with a byte. -/
def Unfinished.extend (unfinished : Unfinished) (byte : UInt8) (within : unfinished.low ≤ byte) (more : Nat) :
    Unfinished :=
  ⟨unfinished.held ++ [byte], more, 0x80, 0xbf, by decide, fun other member => by
    rcases List.mem_append.mp member with old | new
    · exact unfinished.beyond other old
    · exact List.mem_singleton.mp new ▸ UInt8.le_trans unfinished.continued within⟩

/-- What a byte leads to; an unfinished character that does not go on with it is replaced. -/
def feed : Option Unfinished → UInt8 → List UInt8 × Option Unfinished
  | none, byte => first byte
  | some unfinished, byte =>
    if within : unfinished.low ≤ byte ∧ byte ≤ unfinished.high then
      match unfinished.more with
      | 0 => (unfinished.held ++ [byte], none)
      | more + 1 => ([], some (unfinished.extend byte within.1 more))
    else (replacement ++ (first byte).1, (first byte).2)

/-- What is written for an unfinished character that does not go on. -/
def stopped : Option Unfinished → List UInt8
  | none => []
  | some _ => replacement

/-- What is written for some bytes, after what is unfinished. -/
def lossyFrom (unfinished : Option Unfinished) : List UInt8 → List UInt8
  | [] => stopped unfinished
  | byte :: rest => (feed unfinished byte).1 ++ lossyFrom (feed unfinished byte).2 rest

end Lossy

/-- Some bytes with each longest beginning of a character that does not go on, and each byte that begins none, replaced. -/
def lossy (bytes : List UInt8) : List UInt8 := Lossy.lossyFrom none bytes

namespace Lossy

variable {unfinished : Option Unfinished} {bytes rest : List UInt8} {byte : UInt8}

theorem feed_ascii (ascii : byte < 0x80) : feed unfinished byte = (stopped unfinished ++ [byte], none) := by
  have below : ¬0x80 ≤ byte := UInt8.not_le.mpr ascii
  cases unfinished with
  | none => simp [feed, first, below, stopped]
  | some unfinished =>
    -- No character goes on with such a byte.
    have outside : ¬(unfinished.low ≤ byte ∧ byte ≤ unfinished.high) := fun within =>
      below (UInt8.le_trans unfinished.continued within.1)
    simp [feed, first, below, outside, stopped]

theorem lossyFrom_append (ascii : byte < 0x80) (unfinished : Option Unfinished) (bytes rest : List UInt8) :
    lossyFrom unfinished (bytes ++ byte :: rest) = lossyFrom unfinished bytes ++ byte :: lossy rest := by
  induction bytes generalizing unfinished with
  | nil =>
    simp only [List.nil_append, lossyFrom, feed_ascii ascii, List.append_assoc, List.singleton_append, lossy]
  | cons other bytes ih => rw [List.cons_append, lossyFrom, ih, lossyFrom, List.append_assoc]

theorem not_mem_lossyFrom (ascii : byte < 0x80) (absent : byte ∉ bytes) : byte ∉ lossyFrom unfinished bytes := by
  have beyond : ∀ {other : UInt8}, 0x80 ≤ other → byte ≠ other := fun beyond same =>
    UInt8.not_le.mpr ascii (same ▸ beyond)
  have replaced : byte ∉ replacement := by
    simp only [replacement, List.mem_cons, List.not_mem_nil, or_false, not_or]
    exact ⟨beyond (by decide), beyond (by decide), beyond (by decide)⟩
  have begun : ∀ {other : UInt8}, byte ≠ other → byte ∉ (first other).1 := by
    intro other differ
    unfold first
    split
    · split
      · exact List.not_mem_nil
      · exact replaced
    · simpa using differ
  induction bytes generalizing unfinished with
  | nil =>
    cases unfinished with
    | none => exact List.not_mem_nil
    | some unfinished => exact replaced
  | cons other bytes ih =>
    rw [List.mem_cons, not_or] at absent
    rw [lossyFrom, List.mem_append, not_or]
    refine ⟨?_, ih absent.2⟩
    cases unfinished with
    | none => exact begun absent.1
    | some unfinished =>
      simp only [feed]
      split
      · next within =>
        split
        · -- All bytes of the character are beyond those of one-byte characters.
          rw [List.mem_append, not_or]
          exact ⟨fun held => beyond (unfinished.beyond byte held) rfl, by simpa using absent.1⟩
        · exact List.not_mem_nil
      · rw [List.mem_append, not_or]
        exact ⟨replaced, begun absent.1⟩

theorem feed_within {unfinished : Unfinished} (within : unfinished.low ≤ byte ∧ byte ≤ unfinished.high) :
    feed (some unfinished) byte = match unfinished.more with
      | 0 => (unfinished.held ++ [byte], none)
      | more + 1 => ([], some (unfinished.extend byte within.1 more)) := by
  simp only [feed, dif_pos within]

theorem lossyFrom_one (ascii : byte < 0x80) : lossyFrom none (byte :: rest) = byte :: lossyFrom none rest := by
  rw [lossyFrom, feed_ascii ascii]
  rfl

/-- The bytes that continue a character. -/
def Continues (byte : UInt8) : Prop := 0x80 ≤ byte ∧ byte ≤ 0xbf

theorem lossyFrom_two {second : UInt8} (leads : 0xc2 ≤ byte ∧ byte ≤ 0xdf) (follows : Continues second) :
    lossyFrom none (byte :: second :: rest) = byte :: second :: lossyFrom none rest := by
  have beyond : 0x80 ≤ byte := UInt8.le_trans (by decide) leads.1
  have begun : feed none byte = ([], some (.of byte 0 0x80 0xbf beyond (by decide))) := by
    simp only [feed, first, dif_pos beyond, begins, if_pos leads]
  rw [lossyFrom, begun, lossyFrom, @feed_within second (.of byte 0 0x80 0xbf beyond (by decide)) follows]
  rfl

variable {beyond : 0x80 ≤ byte}

theorem lossyFrom_three {second third : UInt8} {unfinished : Unfinished}
    (leads : begins byte beyond = some unfinished) (only : unfinished.held = [byte]) (more : unfinished.more = 1)
    (follows : unfinished.low ≤ second ∧ second ≤ unfinished.high) (ends : Continues third) :
    lossyFrom none (byte :: second :: third :: rest) = byte :: second :: third :: lossyFrom none rest := by
  have begun : feed none byte = ([], some unfinished) := by simp only [feed, first, dif_pos beyond, leads]
  have extended : feed (some unfinished) second = ([], some (unfinished.extend second follows.1 0)) := by
    rw [feed_within follows, more]
  rw [lossyFrom, begun, lossyFrom, extended, lossyFrom,
    @feed_within third (unfinished.extend second follows.1 0) ends]
  simp [Unfinished.extend, only]

theorem lossyFrom_four {second third fourth : UInt8} {unfinished : Unfinished}
    (leads : begins byte beyond = some unfinished) (only : unfinished.held = [byte]) (more : unfinished.more = 2)
    (follows : unfinished.low ≤ second ∧ second ≤ unfinished.high) (goes : Continues third)
    (ends : Continues fourth) : lossyFrom none (byte :: second :: third :: fourth :: rest) =
      byte :: second :: third :: fourth :: lossyFrom none rest := by
  have begun : feed none byte = ([], some unfinished) := by simp only [feed, first, dif_pos beyond, leads]
  have extended : feed (some unfinished) second = ([], some (unfinished.extend second follows.1 1)) := by
    rw [feed_within follows, more]
  have further : feed (some (unfinished.extend second follows.1 1)) third =
      ([], some ((unfinished.extend second follows.1 1).extend third goes.1 0)) :=
    @feed_within third (unfinished.extend second follows.1 1) goes
  rw [lossyFrom, begun, lossyFrom, extended, lossyFrom, further, lossyFrom,
    @feed_within fourth ((unfinished.extend second follows.1 1).extend third goes.1 0) ends]
  simp [Unfinished.extend, only]

variable {number : Nat}

theorem toNat_ofNat (small : number < 256) : (UInt8.ofNat number).toNat = number := by
  rw [UInt8.toNat_ofNat', Nat.mod_eq_of_lt small]

theorem begins_three (beyond : 0x80 ≤ byte) (leads : 0xe0 ≤ byte ∧ byte ≤ 0xef) :
    ∃ unfinished, begins byte beyond = some unfinished ∧ unfinished.held = [byte] ∧ unfinished.more = 1 ∧
      ∀ second, Continues second → (byte = 0xe0 → 0xa0 ≤ second) → (byte = 0xed → second ≤ 0x9f) →
        unfinished.low ≤ second ∧ second ≤ unfinished.high := by
  have above : ¬(0xc2 ≤ byte ∧ byte ≤ 0xdf) := fun within =>
    absurd (UInt8.le_trans leads.1 within.2) (by decide)
  unfold begins
  rw [if_neg above]
  by_cases lowest : byte = 0xe0
  · rw [if_pos lowest]
    exact ⟨_, rfl, rfl, rfl, fun second continues low _ => ⟨low lowest, continues.2⟩⟩
  rw [if_neg lowest]
  by_cases surrogate : byte = 0xed
  · rw [if_pos surrogate]
    exact ⟨_, rfl, rfl, rfl, fun second continues _ high => ⟨continues.1, high surrogate⟩⟩
  have rest : 0xe1 ≤ byte ∧ byte ≤ 0xef := by
    refine ⟨?_, leads.2⟩
    rw [← UInt8.toNat_inj] at lowest
    rw [UInt8.le_iff_toNat_le] at leads ⊢
    have low : 0xe0 ≤ byte.toNat := leads.1
    have other : byte.toNat ≠ 0xe0 := lowest
    show 0xe1 ≤ byte.toNat
    omega
  rw [if_neg surrogate, if_pos rest]
  exact ⟨_, rfl, rfl, rfl, fun second continues _ _ => continues⟩

theorem begins_four (beyond : 0x80 ≤ byte) (leads : 0xf0 ≤ byte ∧ byte ≤ 0xf4) :
    ∃ unfinished, begins byte beyond = some unfinished ∧ unfinished.held = [byte] ∧ unfinished.more = 2 ∧
      ∀ second, Continues second → (byte = 0xf0 → 0x90 ≤ second) → (byte = 0xf4 → second ≤ 0x8f) →
        unfinished.low ≤ second ∧ second ≤ unfinished.high := by
  have low : 0xf0 ≤ byte.toNat := UInt8.le_iff_toNat_le.mp leads.1
  have high : byte.toNat ≤ 0xf4 := UInt8.le_iff_toNat_le.mp leads.2
  have above : ¬(0xc2 ≤ byte ∧ byte ≤ 0xdf) := fun within =>
    absurd (UInt8.le_trans leads.1 within.2) (by decide)
  have others : byte ≠ 0xe0 ∧ byte ≠ 0xed ∧ ¬(0xe1 ≤ byte ∧ byte ≤ 0xef) := by
    refine ⟨?_, ?_, fun within => absurd (UInt8.le_trans leads.1 within.2) (by decide)⟩
    · rintro rfl
      exact absurd leads.1 (by decide)
    · rintro rfl
      exact absurd leads.1 (by decide)
  unfold begins
  rw [if_neg above, if_neg others.1, if_neg others.2.1, if_neg others.2.2]
  by_cases lowest : byte = 0xf0
  · rw [if_pos lowest]
    exact ⟨_, rfl, rfl, rfl, fun second continues low _ => ⟨low lowest, continues.2⟩⟩
  rw [if_neg lowest]
  by_cases highest : byte = 0xf4
  · rw [if_pos highest]
    exact ⟨_, rfl, rfl, rfl, fun second continues _ high => ⟨continues.1, high highest⟩⟩
  have rest : 0xf1 ≤ byte ∧ byte ≤ 0xf3 := by
    rw [← UInt8.toNat_inj] at lowest highest
    rw [UInt8.le_iff_toNat_le, UInt8.le_iff_toNat_le]
    have first : byte.toNat ≠ 0xf0 := lowest
    have last : byte.toNat ≠ 0xf4 := highest
    show 0xf1 ≤ byte.toNat ∧ byte.toNat ≤ 0xf3
    omega
  rw [if_neg highest, if_pos rest]
  exact ⟨_, rfl, rfl, rfl, fun second continues _ _ => continues⟩

theorem between {low high : UInt8} (small : number < 256) :
    low ≤ UInt8.ofNat number ∧ UInt8.ofNat number ≤ high ↔ low.toNat ≤ number ∧ number ≤ high.toNat := by
  rw [UInt8.le_iff_toNat_le, UInt8.le_iff_toNat_le, toNat_ofNat small]

theorem continues_ofNat (number : Nat) : Continues (UInt8.ofNat (number % 64 + 0x80)) := by
  rw [Continues, between (by omega)]
  show 0x80 ≤ number % 64 + 0x80 ∧ number % 64 + 0x80 ≤ 0xbf
  omega

/-- A character is written as it is. -/
theorem lossyFrom_char (char : Char) (rest : List UInt8) :
    lossyFrom none (String.utf8EncodeChar char ++ rest) = String.utf8EncodeChar char ++ lossyFrom none rest := by
  have valid : char.val.toNat < 0xd800 ∨ 0xdfff < char.val.toNat ∧ char.val.toNat < 0x110000 := char.valid
  fun_cases String.utf8EncodeChar char with
  | case1 v small =>
    refine lossyFrom_one ?_
    rw [UInt8.lt_iff_toNat_lt, toNat_ofNat (by omega)]
    show v < 0x80
    omega
  | case2 v large small =>
    refine lossyFrom_two ?_ (continues_ofNat v)
    rw [between (by omega)]
    show 0xc2 ≤ v / 64 % 0x20 + 0xc0 ∧ v / 64 % 0x20 + 0xc0 ≤ 0xdf
    omega
  | case3 v large larger small =>
    have leads : 0xe0 ≤ UInt8.ofNat (v / 4096 % 0x10 + 0xe0) ∧ UInt8.ofNat (v / 4096 % 0x10 + 0xe0) ≤ 0xef := by
      rw [between (by omega)]
      show 0xe0 ≤ v / 4096 % 0x10 + 0xe0 ∧ v / 4096 % 0x10 + 0xe0 ≤ 0xef
      omega
    obtain ⟨unfinished, begun, only, more, follows⟩ := begins_three (UInt8.le_trans (by decide) leads.1) leads
    have same : v = char.val.toNat := rfl
    refine lossyFrom_three begun only more (follows _ (continues_ofNat _) ?_ ?_) (continues_ofNat v)
    · intro lowest
      have low : v / 4096 % 0x10 + 0xe0 = 0xe0 :=
        (toNat_ofNat (by omega)).symm.trans (congrArg UInt8.toNat lowest)
      rw [UInt8.le_iff_toNat_le, toNat_ofNat (by omega)]
      show 0xa0 ≤ v / 64 % 0x40 + 0x80
      omega
    · -- The surrogates, which are no characters, are all that is above.
      intro surrogate
      have high : v / 4096 % 0x10 + 0xe0 = 0xed :=
        (toNat_ofNat (by omega)).symm.trans (congrArg UInt8.toNat surrogate)
      rw [UInt8.le_iff_toNat_le, toNat_ofNat (by omega)]
      show v / 64 % 0x40 + 0x80 ≤ 0x9f
      omega
  | case4 v large larger largest =>
    have same : v = char.val.toNat := rfl
    have leads : 0xf0 ≤ UInt8.ofNat (v / 262144 % 0x08 + 0xf0) ∧ UInt8.ofNat (v / 262144 % 0x08 + 0xf0) ≤ 0xf4 := by
      rw [between (by omega)]
      show 0xf0 ≤ v / 262144 % 0x08 + 0xf0 ∧ v / 262144 % 0x08 + 0xf0 ≤ 0xf4
      omega
    obtain ⟨unfinished, begun, only, more, follows⟩ := begins_four (UInt8.le_trans (by decide) leads.1) leads
    refine lossyFrom_four begun only more (follows _ (continues_ofNat _) ?_ ?_) (continues_ofNat _) (continues_ofNat v)
    · intro lowest
      have low : v / 262144 % 0x08 + 0xf0 = 0xf0 :=
        (toNat_ofNat (by omega)).symm.trans (congrArg UInt8.toNat lowest)
      rw [UInt8.le_iff_toNat_le, toNat_ofNat (by omega)]
      show 0x90 ≤ v / 4096 % 0x40 + 0x80
      omega
    · intro highest
      have high : v / 262144 % 0x08 + 0xf0 = 0xf4 :=
        (toNat_ofNat (by omega)).symm.trans (congrArg UInt8.toNat highest)
      rw [UInt8.le_iff_toNat_le, toNat_ofNat (by omega)]
      show v / 4096 % 0x40 + 0x80 ≤ 0x8f
      omega

end Lossy

theorem lossy_append {byte : UInt8} (ascii : byte < 0x80) (bytes rest : List UInt8) :
    lossy (bytes ++ byte :: rest) = lossy bytes ++ byte :: lossy rest := Lossy.lossyFrom_append ascii none bytes rest

theorem not_mem_lossy {byte : UInt8} {bytes : List UInt8} (ascii : byte < 0x80) (absent : byte ∉ bytes) :
    byte ∉ lossy bytes := Lossy.not_mem_lossyFrom ascii absent

theorem lossy_utf8 (text : String) : lossy (utf8 text) = utf8 text := by
  -- The text is taken character by character.
  rw [utf8_eq_flatMap, lossy]
  induction text.toList with
  | nil => rfl
  | cons first rest ih => rw [List.flatMap_cons, Lossy.lossyFrom_char, ih]

example : lossy [0x61, 0xe4, 0xb8, 0x62, 0xff] = [0x61, 0xef, 0xbf, 0xbd, 0x62, 0xef, 0xbf, 0xbd] := by decide

end CNShell
