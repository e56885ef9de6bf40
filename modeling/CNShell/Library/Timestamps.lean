import CNShell.Library.Text
import Mathlib.Algebra.Ring.Nat

/-! Dates, their days, and how the texts of dates and times of day compare. -/

namespace CNShell

namespace Timestamps

/-! # Digits -/

/-- The character of a digit. -/
def digit (value : Fin 10) : Char := Char.ofNat (48 + value.val)

/-- The last digits of a number. -/
def pad : Nat → Nat → List Char
  | 0, _ => []
  | width + 1, number => pad width (number / 10) ++ [digit (Fin.ofNat 10 number)]

@[simp] theorem digit_lt_digit (first second : Fin 10) : digit first < digit second ↔ first < second := by
  revert first second
  decide

@[simp] theorem digit_inj (first second : Fin 10) : digit first = digit second ↔ first = second := by
  revert first second
  decide

@[simp] theorem length_pad (width number : Nat) : (pad width number).length = width := by
  induction width generalizing number with
  | zero => rfl
  | succ width ih => rw [pad, List.length_append, ih, List.length_singleton]

theorem append_lt_append_iff {first second : List Char} (same : first.length = second.length)
    (left right : List Char) :
    first ++ left < second ++ right ↔ first < second ∨ first = second ∧ left < right := by
  induction first generalizing second with
  | nil =>
    obtain rfl := List.length_eq_zero_iff.mp same.symm
    simp
  | cons char first ih =>
    cases second with
    | nil => cases same
    | cons other second =>
      simp only [List.cons_append, List.cons_lt_cons_iff, List.cons.injEq, ih (Nat.succ.inj same)]
      constructor
      · rintro (less | ⟨rfl, less | ⟨rfl, less⟩⟩)
        · exact .inl (.inl less)
        · exact .inl (.inr ⟨rfl, less⟩)
        · exact .inr ⟨⟨rfl, rfl⟩, less⟩
      · rintro ((less | ⟨rfl, less⟩) | ⟨⟨rfl, rfl⟩, less⟩)
        · exact .inl less
        · exact .inr ⟨rfl, .inl less⟩
        · exact .inr ⟨rfl, .inr ⟨rfl, less⟩⟩

theorem cons_lt_cons_same (char : Char) (left right : List Char) : char :: left < char :: right ↔ left < right := by
  rw [List.cons_lt_cons_iff]
  simp only [Char.lt_irrefl, true_and, false_or]

theorem pad_compare (width first second : Nat) (small : first < 10 ^ width) (small' : second < 10 ^ width) :
    (pad width first = pad width second ↔ first = second) ∧ (pad width first < pad width second ↔ first < second) := by
  induction width generalizing first second with
  | zero =>
    rw [Nat.pow_zero] at small small'
    obtain rfl : first = second := by omega
    exact ⟨iff_of_true rfl rfl, iff_of_false (by simp [pad]) (Nat.lt_irrefl _)⟩
  | succ width ih =>
    rw [Nat.pow_succ] at small small'
    -- The last digit counts where all others are the same.
    obtain ⟨same, less⟩ := ih (first / 10) (second / 10) (by omega) (by omega)
    have lastSame : Fin.ofNat 10 first = Fin.ofNat 10 second ↔ first % 10 = second % 10 := Fin.ext_iff
    have lastLess : Fin.ofNat 10 first < Fin.ofNat 10 second ↔ first % 10 < second % 10 := Fin.lt_def
    constructor
    · constructor
      · intro equal
        obtain ⟨front, last⟩ := List.append_inj' equal rfl
        have units := lastSame.mp ((digit_inj _ _).mp (List.singleton_inj.mp last))
        have tens := same.mp front
        omega
      · rintro rfl
        rfl
    · rw [pad, pad, append_lt_append_iff (by simp), same, less, List.cons_lt_cons_iff, digit_lt_digit, lastLess]
      simp only [List.not_lt_nil, and_false, or_false]
      omega

/-! # Dates -/

/-- Whether a year has a 29th of February. -/
def leap (year : Nat) : Bool := (year % 4 == 0 && year % 100 != 0) || year % 400 == 0

def daysInMonth (year month : Nat) : Nat :=
  if month = 2 then if leap year then 29 else 28
  else if month = 4 ∨ month = 6 ∨ month = 9 ∨ month = 11 then 30 else 31

/-- The days of the months before a month. -/
def daysBeforeMonth (year month : Nat) : Nat :=
  ((List.range (month - 1)).map fun earlier => daysInMonth year (earlier + 1)).sum

/-- The days from the beginning of the year 0 to that of a year. -/
def daysBeforeYear (year : Nat) : Nat := 365 * year + (year + 3) / 4 - (year + 99) / 100 + (year + 399) / 400

/-- A date of the calendar. -/
structure Date where
  year : Nat
  month : Nat
  day : Nat
  validMonth : 1 ≤ month ∧ month ≤ 12
  validDay : 1 ≤ day ∧ day ≤ daysInMonth year month

namespace Date

/-- The days from the beginning of the year 0 to a date. -/
def number (date : Date) : Nat := daysBeforeYear date.year + daysBeforeMonth date.year date.month + (date.day - 1)

end Date

theorem leap_iff (year : Nat) : leap year = true ↔ year % 4 = 0 ∧ year % 100 ≠ 0 ∨ year % 400 = 0 := by
  simp [leap]

theorem daysBeforeYear_succ (year : Nat) :
    daysBeforeYear (year + 1) = daysBeforeYear year + if leap year then 366 else 365 := by
  -- The year adds a day where one of the three counts of leap years steps on.
  have fours : (year + 1 + 3) / 4 = (year + 3) / 4 + if year % 4 = 0 then 1 else 0 := by
    split
    all_goals omega
  have hundreds : (year + 1 + 99) / 100 = (year + 99) / 100 + if year % 100 = 0 then 1 else 0 := by
    split
    all_goals omega
  have others : (year + 1 + 399) / 400 = (year + 399) / 400 + if year % 400 = 0 then 1 else 0 := by
    split
    all_goals omega
  have fewer : (year + 99) / 100 ≤ 365 * year := by omega
  have multiple : year % 400 = 0 → year % 100 = 0 := fun exact => by omega
  have multiple' : year % 100 = 0 → year % 4 = 0 := fun exact => by omega
  rw [daysBeforeYear, daysBeforeYear, fours, hundreds, others]
  generalize (year + 3) / 4 = first at *
  generalize (year + 99) / 100 = second at *
  generalize (year + 399) / 400 = third at *
  by_cases isLeap : leap year = true
  · rw [if_pos isLeap]
    rw [leap_iff] at isLeap
    by_cases divides : year % 400 = 0
    · rw [if_pos divides, if_pos (multiple divides), if_pos (multiple' (multiple divides))]
      omega
    · obtain ⟨four, hundred⟩ := isLeap.resolve_right divides
      rw [if_neg divides, if_neg hundred, if_pos four]
      omega
  · rw [if_neg isLeap]
    rw [leap_iff, not_or] at isLeap
    rw [if_neg isLeap.2]
    by_cases four : year % 4 = 0
    · have hundred : year % 100 = 0 := not_not.mp fun other => isLeap.1 ⟨four, other⟩
      rw [if_pos four, if_pos hundred]
      omega
    · rw [if_neg four, if_neg fun exact => four (multiple' exact)]
      omega

theorem daysBeforeYear_mono {first second : Nat} (ordered : first ≤ second) :
    daysBeforeYear first ≤ daysBeforeYear second := by
  induction second, ordered using Nat.le_induction with
  | base => rfl
  | succ second _ ih =>
    rw [daysBeforeYear_succ]
    exact Nat.le_trans ih (Nat.le_add_right _ _)

theorem daysBeforeMonth_succ (year : Nat) {month : Nat} (valid : 1 ≤ month) :
    daysBeforeMonth year (month + 1) = daysBeforeMonth year month + daysInMonth year month := by
  obtain ⟨earlier, rfl⟩ := Nat.exists_eq_add_of_le' valid
  simp [daysBeforeMonth, List.range_succ]

theorem daysBeforeMonth_mono (year : Nat) {first second : Nat} (ordered : first ≤ second) :
    daysBeforeMonth year first ≤ daysBeforeMonth year second := by
  induction second, ordered using Nat.le_induction with
  | base => rfl
  | succ second _ ih =>
    rcases Nat.eq_zero_or_pos second with rfl | valid
    · exact ih
    · rw [daysBeforeMonth_succ year valid]
      exact Nat.le_trans ih (Nat.le_add_right _ _)

theorem daysBeforeMonth_thirteen (year : Nat) : daysBeforeMonth year 13 = if leap year then 366 else 365 := by
  cases isLeap : leap year
  all_goals simp [daysBeforeMonth, List.range_succ, daysInMonth, isLeap]

namespace Date

variable {first second : Date}

theorem number_lt_year (date : Date) : date.number < daysBeforeYear (date.year + 1) := by
  have later := daysBeforeMonth_mono date.year (Nat.succ_le_succ date.validMonth.2)
  rw [daysBeforeMonth_succ date.year date.validMonth.1, daysBeforeMonth_thirteen] at later
  have inside := date.validDay
  rw [number, daysBeforeYear_succ]
  omega

theorem number_lt_of (less : first.year < second.year ∨ first.year = second.year ∧
    (first.month < second.month ∨ first.month = second.month ∧ first.day < second.day)) :
    first.number < second.number := by
  rcases less with year | ⟨year, month | ⟨month, day⟩⟩
  · have before := first.number_lt_year
    have atMost : daysBeforeYear (first.year + 1) ≤ daysBeforeYear second.year := daysBeforeYear_mono year
    simp only [number] at before ⊢
    omega
  · have before := daysBeforeMonth_mono first.year month
    rw [daysBeforeMonth_succ first.year first.validMonth.1] at before
    have inside := first.validDay
    simp only [number, ← year]
    omega
  · have valid := first.validDay
    simp only [number, ← year, ← month]
    omega

theorem number_lt_iff : first.number < second.number ↔ first.year < second.year ∨ first.year = second.year ∧
    (first.month < second.month ∨ first.month = second.month ∧ first.day < second.day) := by
  refine ⟨fun less => ?_, number_lt_of⟩
  by_contra other
  -- Otherwise the second date is the same or before the first.
  rcases Nat.lt_trichotomy second.year first.year with year | year | year
  · exact absurd (number_lt_of (.inl year)) (by omega)
  · rcases Nat.lt_trichotomy second.month first.month with month | month | month
    · exact absurd (number_lt_of (.inr ⟨year, .inl month⟩)) (by omega)
    · simp only [number, year, month] at less
      omega
    · exact other (.inr ⟨year.symm, .inl month⟩)
  · exact other (.inl year)

theorem number_inj : first.number = second.number ↔
    first.year = second.year ∧ first.month = second.month ∧ first.day = second.day := by
  constructor
  · intro same
    have notLess : ¬ first.number < second.number := by omega
    have notMore : ¬ second.number < first.number := by omega
    rw [number_lt_iff] at notLess notMore
    omega
  · rintro ⟨year, month, day⟩
    rw [number, number, year, month, day]

end Date

/-! # Times of day -/

/-- A time of day. -/
structure Clock where
  hour : Nat
  minute : Nat
  second : Nat
  valid : hour < 24 ∧ minute < 60 ∧ second < 60

/-- The seconds since midnight. -/
def Clock.seconds (clock : Clock) : Nat := 3600 * clock.hour + 60 * clock.minute + clock.second

/-- The number that the first digits behind the point stand for. -/
def fractionOf : Nat → List (Fin 10) → Nat
  | 0, _ => 0
  | _ + 1, [] => 0
  | width + 1, first :: digits => first.val * 10 ^ width + fractionOf width digits

/-- How a text tells the distance from UTC. -/
inductive Zone
  | zulu (letter : Char) (valid : letter = 'Z' ∨ letter = 'z')
  | offset (west : Bool) (hours minutes : Nat) (valid : hours < 24 ∧ minutes < 60)
  deriving DecidableEq

namespace Zone

/-- The distance from UTC, in minutes to the east. -/
def minutes : Zone → Int
  | zulu _ _ => 0
  | offset west hours minutes _ => if west then -(60 * hours + minutes : Nat) else (60 * hours + minutes : Nat)

def isZulu : Zone → Bool
  | zulu _ _ => true
  | offset _ _ _ _ => false

/-- The spelling `+00:00`. -/
def plain : Zone := .offset false 0 0 (by decide)

def chars : Zone → List Char
  | zulu letter _ => [letter]
  | offset west hours minutes _ => (if west then '-' else '+') :: (pad 2 hours ++ ':' :: pad 2 minutes)

end Zone

def Clock.chars (clock : Clock) : List Char :=
  pad 2 clock.hour ++ (':' :: pad 2 clock.minute ++ (':' :: pad 2 clock.second))

/-- A year beyond four digits has a sign and as many as it needs. -/
def Date.chars (date : Date) : List Char :=
  (if date.year < 10000 then pad 4 date.year else '+' :: Nat.toDigits 10 date.year) ++
    ('-' :: pad 2 date.month ++ ('-' :: pad 2 date.day))

/-- The fraction of a second, with its point where there is one. -/
def point (fraction : List (Fin 10)) : List Char := if fraction = [] then [] else '.' :: fraction.map digit

/-- A date and time as RFC 3339 spells it. -/
structure Timestamp where
  date : Date
  mark : Char
  clock : Clock
  fraction : List (Fin 10)
  zone : Zone
  validMark : mark = 'T' ∨ mark = 't' ∨ mark = ' '

namespace Timestamp

/-- The nanoseconds since the Unix epoch; digits behind the ninth do not count. -/
def instant (time : Timestamp) : Int :=
  (86400 * ((time.date.number : Int) - 719528) + time.clock.seconds - 60 * time.zone.minutes) * 1000000000 +
    fractionOf 9 time.fraction

def chars (time : Timestamp) : List Char :=
  time.date.chars ++ (time.mark :: time.clock.chars ++ (point time.fraction ++ time.zone.chars))

def text (time : Timestamp) : String := String.ofList time.chars

end Timestamp

/-! # The order of the texts -/

theorem Clock.seconds_lt (clock : Clock) : clock.seconds < 86400 := by
  have valid := clock.valid
  rw [seconds]
  omega

@[simp] theorem Clock.length_chars (clock : Clock) : clock.chars.length = 8 := by simp [chars]

theorem Clock.chars_compare (first second : Clock) : (first.chars = second.chars ↔ first.seconds = second.seconds) ∧
    (first.chars < second.chars ↔ first.seconds < second.seconds) := by
  have valid := first.valid
  have valid' := second.valid
  have hours := pad_compare 2 first.hour second.hour (by omega) (by omega)
  have minutes := pad_compare 2 first.minute second.minute (by omega) (by omega)
  have units := pad_compare 2 first.second second.second (by omega) (by omega)
  have same : first.chars = second.chars ↔
      first.hour = second.hour ∧ first.minute = second.minute ∧ first.second = second.second := by
    constructor
    · intro equal
      obtain ⟨hour, rest⟩ := List.append_inj equal (by simp)
      obtain ⟨minute, last⟩ := List.append_inj rest (by simp)
      exact ⟨hours.1.mp hour, minutes.1.mp (List.cons.inj minute).2, units.1.mp (List.cons.inj last).2⟩
    · rintro ⟨hour, minute, last⟩
      rw [chars, chars, hour, minute, last]
  constructor
  · rw [same, seconds, seconds]
    omega
  · rw [chars, chars, append_lt_append_iff (by simp), append_lt_append_iff (by simp), hours.1, hours.2,
      cons_lt_cons_same, cons_lt_cons_same, List.cons.injEq, minutes.1, minutes.2, units.2, seconds, seconds]
    simp only [true_and]
    omega

theorem Date.length_chars {date : Date} (small : date.year < 10000) : date.chars.length = 10 := by
  simp [chars, small]

theorem Date.chars_compare (first second : Date) (small : first.year < 10000) (small' : second.year < 10000) :
    (first.chars = second.chars ↔ first.number = second.number) ∧
      (first.chars < second.chars ↔ first.number < second.number) := by
  have month (date : Date) : date.month < 10 ^ 2 := Nat.lt_of_le_of_lt date.validMonth.2 (by decide)
  have day (date : Date) : date.day < 10 ^ 2 := by
    have valid := date.validDay
    have atMost : daysInMonth date.year date.month ≤ 31 := by
      rw [daysInMonth]
      repeat' split
      all_goals omega
    omega
  have years := pad_compare 4 first.year second.year small small'
  have months := pad_compare 2 first.month second.month (month first) (month second)
  have days := pad_compare 2 first.day second.day (day first) (day second)
  constructor
  · rw [number_inj]
    constructor
    · intro equal
      simp only [chars, small, small', if_true] at equal
      obtain ⟨year, rest⟩ := List.append_inj equal (by simp)
      obtain ⟨month, last⟩ := List.append_inj rest (by simp)
      exact ⟨years.1.mp year, months.1.mp (List.cons.inj month).2, days.1.mp (List.cons.inj last).2⟩
    · rintro ⟨year, month, day⟩
      rw [chars, chars, year, month, day]
  · rw [number_lt_iff, chars, chars, if_pos small, if_pos small', append_lt_append_iff (by simp),
      append_lt_append_iff (by simp), years.1, years.2, cons_lt_cons_same, cons_lt_cons_same,
      List.cons.injEq, months.1, months.2, days.2]
    simp only [true_and]

/-- In one second, what stands behind it decides: the first digit that differs, then the zone. -/
def Later (now other : List (Fin 10)) (zone : Zone) : Prop :=
  now < other ∨ now = other ∧ zone ≠ .plain ∨ zone.isZulu = true ∧ other <+: now

theorem Zone.head (zone : Zone) : ∃ char rest, zone.chars = char :: rest ∧
    (zone.isZulu = true → '.' < char ∧ ∀ value, digit value < char) ∧
    (zone.isZulu = false → char < '.' ∧ ∀ value, char < digit value) := by
  cases zone with
  | zulu letter valid =>
    refine ⟨letter, [], rfl, fun _ => ?_, fun other => by cases other⟩
    rcases valid with rfl | rfl
    all_goals decide
  | offset west hours minutes valid =>
    refine ⟨_, _, rfl, (fun other => by cases other), fun _ => ?_⟩
    cases west
    all_goals decide

theorem Zone.plain_lt_iff (zone : Zone) : Zone.plain.chars < zone.chars ↔ zone ≠ .plain := by
  cases zone with
  | zulu letter valid =>
    refine iff_of_true ?_ (by simp [plain])
    rcases valid with rfl | rfl
    all_goals decide
  | offset west hours minutes valid =>
    cases west with
    | true => exact iff_of_true (List.cons_lt_cons_iff.mpr (.inl (by decide))) (by simp [plain])
    | false =>
      have hour := pad_compare 2 0 hours (by decide) (by omega)
      have minute := pad_compare 2 0 minutes (by decide) (by omega)
      simp only [plain, chars, Bool.false_eq_true, if_false, cons_lt_cons_same, ne_eq, offset.injEq, true_and]
      rw [append_lt_append_iff (by simp), hour.1, hour.2, cons_lt_cons_same, minute.2]
      omega

theorem digits_lt_iff (now other : List (Fin 10)) (zone : Zone) :
    now.map digit ++ Zone.plain.chars < other.map digit ++ zone.chars ↔ Later now other zone := by
  induction now generalizing other with
  | nil =>
    cases other with
    | nil =>
      rw [List.map_nil, List.nil_append, List.nil_append, Zone.plain_lt_iff, Later]
      cases zone
      · exact iff_of_true (by simp [Zone.plain]) (.inr (.inr ⟨rfl, List.nil_prefix⟩))
      · simp [Zone.isZulu]
    | cons first other =>
      refine iff_of_true (List.cons_lt_cons_iff.mpr (.inl ?_)) (.inl (List.nil_lt_cons _ _))
      revert first
      decide
  | cons first now ih =>
    cases other with
    | nil =>
      obtain ⟨char, rest, head, letter, sign⟩ := zone.head
      rw [List.map_nil, List.nil_append, head]
      cases zulu : zone.isZulu
      · refine iff_of_false ?_ ?_
        · have before := (sign zulu).2 first
          simp only [List.map_cons, List.cons_append, List.cons_lt_cons_iff, not_or, not_and]
          exact ⟨Char.lt_asymm before, fun same => absurd (same ▸ before) (Char.lt_irrefl _)⟩
        · simp [Later, zulu]
      · exact iff_of_true (List.cons_lt_cons_iff.mpr (.inl ((letter zulu).2 first)))
          (.inr (.inr ⟨zulu, List.nil_prefix⟩))
    | cons second other =>
      simp only [List.map_cons, List.cons_append, List.cons_lt_cons_iff, digit_lt_digit, digit_inj, ih, Later,
        List.cons.injEq, List.cons_prefix_cons]
      constructor
      · rintro (less | ⟨rfl, less | ⟨rfl, other⟩ | ⟨zulu, front⟩⟩)
        · exact .inl (.inl less)
        · exact .inl (.inr ⟨rfl, less⟩)
        · exact .inr (.inl ⟨⟨rfl, rfl⟩, other⟩)
        · exact .inr (.inr ⟨zulu, rfl, front⟩)
      · rintro ((less | ⟨rfl, less⟩) | ⟨⟨rfl, rfl⟩, other⟩ | ⟨zulu, rfl, front⟩)
        · exact .inl less
        · exact .inr ⟨rfl, .inl less⟩
        · exact .inr ⟨rfl, .inr (.inl ⟨rfl, other⟩)⟩
        · exact .inr ⟨rfl, .inr (.inr ⟨zulu, front⟩)⟩

theorem point_lt_iff (now other : List (Fin 10)) (zone : Zone) :
    point now ++ Zone.plain.chars < point other ++ zone.chars ↔ Later now other zone := by
  rw [← digits_lt_iff]
  cases now with
  | nil =>
    cases other with
    | nil => rfl
    | cons second other =>
      refine iff_of_true (List.cons_lt_cons_iff.mpr (.inl (by decide))) (List.cons_lt_cons_iff.mpr (.inl ?_))
      revert second
      decide
  | cons first now =>
    cases other with
    | nil =>
      obtain ⟨char, rest, head, letter, sign⟩ := zone.head
      simp only [point, reduceCtorEq, if_false, if_true, List.map_nil, List.nil_append, head, List.map_cons,
        List.cons_append, List.cons_lt_cons_iff]
      cases zulu : zone.isZulu
      · obtain ⟨dot, before⟩ := sign zulu
        have before := before first
        refine iff_of_false ?_ ?_
        · rintro (less | ⟨same, -⟩)
          · exact Char.lt_asymm dot less
          · exact absurd (same ▸ dot) (Char.lt_irrefl _)
        · rintro (less | ⟨same, -⟩)
          · exact Char.lt_asymm before less
          · exact absurd (same ▸ before) (Char.lt_irrefl _)
      · exact iff_of_true (.inl (letter zulu).1) (.inl ((letter zulu).2 first))
    | cons second other => exact cons_lt_cons_same '.' _ _

theorem fractionOf_lt (width : Nat) (digits : List (Fin 10)) : fractionOf width digits < 10 ^ width := by
  induction width generalizing digits with
  | zero => exact Nat.one_pos
  | succ width ih =>
    cases digits with
    | nil => exact Nat.pow_pos (by decide)
    | cons first digits =>
      have digit := first.isLt
      have below := ih digits
      have bound := Nat.mul_le_mul_right (10 ^ width) (Nat.le_of_lt_succ digit)
      rw [fractionOf, Nat.pow_succ]
      omega

theorem fractionOf_mono (width : Nat) {front digits : List (Fin 10)} (part : front <+: digits) :
    fractionOf width front ≤ fractionOf width digits := by
  induction width generalizing front digits with
  | zero => rfl
  | succ width ih =>
    cases front with
    | nil => exact Nat.zero_le _
    | cons first front =>
      cases digits with
      | nil => exact absurd (List.prefix_nil.mp part) (List.cons_ne_nil _ _)
      | cons second digits =>
        obtain ⟨rfl, rest⟩ := List.cons_prefix_cons.mp part
        exact Nat.add_le_add_left (ih rest) _

theorem fractionOf_compare (width : Nat) (now other : List (Fin 10)) (short : now.length ≤ width) :
    now <+: other ∨ other <+: now ∨ (now < other ∧ fractionOf width now < fractionOf width other) ∨
      (¬ now < other ∧ fractionOf width other < fractionOf width now) := by
  induction now generalizing width other with
  | nil => exact .inl List.nil_prefix
  | cons first now ih =>
    cases other with
    | nil => exact .inr (.inl List.nil_prefix)
    | cons second other =>
      cases width with
      | zero => cases short
      | succ width =>
        have below := fractionOf_lt width now
        have below' := fractionOf_lt width other
        rcases Nat.lt_trichotomy first.val second.val with less | same | more
        · refine .inr (.inr (.inl ⟨List.cons_lt_cons_iff.mpr (.inl less), ?_⟩))
          have bound := Nat.mul_le_mul_right (10 ^ width) less
          rw [Nat.succ_mul] at bound
          simp only [fractionOf]
          omega
        · obtain rfl := Fin.ext same
          rcases ih width other (Nat.le_of_succ_le_succ short) with front | front | ⟨less, fewer⟩ | ⟨more, fewer⟩
          · exact .inl (List.cons_prefix_cons.mpr ⟨rfl, front⟩)
          · exact .inr (.inl (List.cons_prefix_cons.mpr ⟨rfl, front⟩))
          · exact .inr (.inr (.inl ⟨List.cons_lt_cons_iff.mpr (.inr ⟨rfl, less⟩), Nat.add_lt_add_left fewer _⟩))
          · refine .inr (.inr (.inr ⟨?_, Nat.add_lt_add_left fewer _⟩))
            rw [List.cons_lt_cons_iff]
            rintro (less | ⟨-, less⟩)
            · exact absurd less (Nat.lt_irrefl _)
            · exact more less
        · refine .inr (.inr (.inr ⟨?_, ?_⟩))
          · rw [List.cons_lt_cons_iff]
            rintro (less | ⟨rfl, -⟩)
            · exact absurd less (Nat.lt_asymm more)
            · exact absurd more (Nat.lt_irrefl _)
          · have bound := Nat.mul_le_mul_right (10 ^ width) more
            rw [Nat.succ_mul] at bound
            simp only [fractionOf]
            omega

namespace Timestamp

/-- The digits of a time are ahead of those of another one, whatever their zones. -/
def Ahead (now other : Timestamp) : Prop :=
  now.date.number < other.date.number ∨ now.date.number = other.date.number ∧
    ('T' < other.mark ∨ 'T' = other.mark ∧
      (now.clock.seconds < other.clock.seconds ∨ now.clock.seconds = other.clock.seconds ∧
        Later now.fraction other.fraction other.zone))

variable {now other : Timestamp}

theorem text_lt_iff (small : now.date.year < 10000) (small' : other.date.year < 10000)
    (marked : now.mark = 'T') (plain : now.zone = .plain) : now.text < other.text ↔ Ahead now other := by
  obtain ⟨sameDate, lessDate⟩ := Date.chars_compare now.date other.date small small'
  obtain ⟨sameClock, lessClock⟩ := Clock.chars_compare now.clock other.clock
  rw [String.lt_iff, text, text, String.toList_ofList, String.toList_ofList, chars, chars,
    append_lt_append_iff (by rw [Date.length_chars small, Date.length_chars small']), sameDate, lessDate,
    List.cons_append, List.cons_append, List.cons_lt_cons_iff, append_lt_append_iff (by simp), sameClock, lessClock,
    plain, point_lt_iff, marked, Ahead]

theorem text_lt_of_large (large : 10000 ≤ now.date.year) (small : other.date.year < 10000) : now.text < other.text := by
  have first : pad 4 other.date.year =
      digit (Fin.ofNat 10 (other.date.year / 10 / 10 / 10)) :: [digit (Fin.ofNat 10 (other.date.year / 10 / 10)),
        digit (Fin.ofNat 10 (other.date.year / 10)), digit (Fin.ofNat 10 other.date.year)] := rfl
  rw [String.lt_iff, text, text, String.toList_ofList, String.toList_ofList, chars, chars, Date.chars, Date.chars,
    if_neg (Nat.not_lt.mpr large), if_pos small, first]
  refine List.cons_lt_cons_iff.mpr (.inl ?_)
  generalize Fin.ofNat 10 (other.date.year / 10 / 10 / 10) = value
  revert value
  decide

/-- Where two times are in one second of UTC, their fractions do not mislead: neither a letter behind a shorter fraction,
nor another spelling of the same one. -/
def Apart (now other : List (Fin 10)) (zone : Zone) : Prop :=
  (zone.isZulu = true → ¬ other <+: now) ∧
    (now <+: other → fractionOf 9 now = fractionOf 9 other → now = other ∧ zone = .plain)

/-- When the digits of a time, in UTC, and of another one compare as their instants do. Around the letter `T` only the
times of another date count; to the east of Greenwich the digits are ahead of the instant, to the west behind it. -/
def Judged (now other : Timestamp) : Prop :=
  if now.date.number = other.date.number ∧ other.mark ≠ 'T' then now.instant < other.instant ↔ other.mark = 't'
  else if 0 < other.zone.minutes then now.instant < other.instant ∨ ¬ Ahead now other
  else if other.zone.minutes < 0 then other.instant ≤ now.instant ∨ Ahead now other
  else now.date.number = other.date.number → now.clock.seconds = other.clock.seconds →
    Apart now.fraction other.fraction other.zone

theorem lt_of_prefix {front whole : List (Fin 10)} (part : front <+: whole) (proper : front ≠ whole) :
    front < whole := by
  obtain ⟨rest, rfl⟩ := part
  cases rest with
  | nil => exact absurd (List.append_nil front).symm proper
  | cons digit rest =>
    have after : front ++ [] < front ++ digit :: rest := List.append_left_lt (List.nil_lt_cons digit rest)
    rwa [List.append_nil] at after

theorem later_iff_apart (now other : List (Fin 10)) (zone : Zone) (short : now.length ≤ 9) :
    (Later now other zone ↔ fractionOf 9 now < fractionOf 9 other) ↔ Apart now other zone := by
  have letter (zulu : zone.isZulu = true) : zone ≠ .plain := fun same => by
    rw [same] at zulu
    cases zulu
  by_cases front : now <+: other
  · have atMost := fractionOf_mono 9 front
    by_cases same : now = other
    · subst same
      -- The same digits: only the plain zone is not behind itself.
      simp only [Later, Apart, List.lt_irrefl, false_or, true_and, List.prefix_rfl, and_true, forall_const,
        not_true_eq_false, iff_false, not_or, not_not, Nat.lt_irrefl]
      exact ⟨fun ⟨plain, sign⟩ => ⟨sign, plain⟩, fun ⟨sign, plain⟩ => ⟨plain, sign⟩⟩
    · have less : now < other := lt_of_prefix front same
      have back : ¬ other <+: now := fun back => same (front.eq_of_length_le back.length_le)
      simp only [Later, less, true_or, true_iff, Apart, back, not_false_eq_true, implies_true, true_and, front, same,
        false_and, imp_false, forall_const]
      omega
  · have other' : now ≠ other := fun same => front (same ▸ List.prefix_rfl)
    by_cases back : other <+: now
    · have atMost := fractionOf_mono 9 back
      have more : ¬ now < other := back.le
      have notLess : ¬ fractionOf 9 now < fractionOf 9 other := Nat.not_lt.mpr atMost
      simp [Later, Apart, more, other', back, front, notLess]
    · rcases fractionOf_compare 9 now other short with front' | back' | ⟨less, fewer⟩ | ⟨more, fewer⟩
      · exact absurd front' front
      · exact absurd back' back
      · simp [Later, Apart, less, fewer, front, back]
      · simp [Later, Apart, more, other', front, back, Nat.le_of_lt fewer]

/-- The digits of a time in UTC and of another one compare as the instants exactly where they do not mislead. -/
theorem ahead_iff_judged (plain : now.zone = .plain) (short : now.fraction.length ≤ 9) :
    (Ahead now other ↔ now.instant < other.instant) ↔ Judged now other := by
  have clock := now.clock.seconds_lt
  have clock' := other.clock.seconds_lt
  have fraction := fractionOf_lt 9 now.fraction
  have fraction' := fractionOf_lt 9 other.fraction
  have utc : now.zone.minutes = 0 := by rw [plain]; rfl
  have instants : now.instant < other.instant ↔
      (86400 * (now.date.number : Int) + now.clock.seconds) * 1000000000 + fractionOf 9 now.fraction <
        (86400 * (other.date.number : Int) + other.clock.seconds - 60 * other.zone.minutes) * 1000000000 +
          fractionOf 9 other.fraction := by
    rw [instant, instant, utc]
    omega
  have last := later_iff_apart now.fraction other.fraction other.zone short
  -- From here on the fractions are two numbers, each less than a second.
  generalize fractionOf 9 now.fraction = part at fraction instants last
  generalize fractionOf 9 other.fraction = part' at fraction' instants last
  have instants' : other.instant ≤ now.instant ↔ ¬ now.instant < other.instant := Int.not_lt.symm
  rw [Judged]
  split
  next marked =>
    obtain ⟨same, marked⟩ := marked
    have ahead : Ahead now other ↔ other.mark = 't' := by
      rcases other.validMark with mark | mark | mark
      · exact absurd mark marked
      · exact iff_of_true (.inr ⟨same, .inl (by rw [mark]; decide)⟩) mark
      · refine iff_of_false ?_ (by rw [mark]; decide)
        rintro (less | ⟨-, after | ⟨mark', -⟩⟩)
        · omega
        · rw [mark] at after
          exact absurd after (by decide)
        · exact marked mark'.symm
    rw [ahead]
    exact Iff.comm
  next plainMark =>
    have marked (same : now.date.number = other.date.number) : other.mark = 'T' :=
      not_not.mp fun different => plainMark ⟨same, different⟩
    have ahead : Ahead now other ↔ now.date.number < other.date.number ∨
        now.date.number = other.date.number ∧ (now.clock.seconds < other.clock.seconds ∨
          now.clock.seconds = other.clock.seconds ∧ Later now.fraction other.fraction other.zone) := by
      rw [Ahead]
      refine or_congr_right (and_congr_right fun same => ?_)
      rw [marked same]
      simp only [Char.lt_irrefl, false_or, true_and]
    split
    next east =>
      have early : now.instant < other.instant → Ahead now other := fun early => by
        rw [instants] at early
        rw [ahead]
        omega
      by_cases before : now.instant < other.instant
      · exact iff_of_true (iff_of_true (early before) before) (.inl before)
      · simp only [before, iff_false, false_or]
    next =>
      split
      next west =>
        have late : Ahead now other → now.instant < other.instant := fun late => by
          rw [instants]
          rw [ahead] at late
          omega
        rw [instants']
        by_cases behind : Ahead now other
        · exact iff_of_true (iff_of_true behind (late behind)) (.inr behind)
        · simp only [behind, false_iff, or_false]
      next =>
        have zero : other.zone.minutes = 0 := by omega
        rw [ahead, instants, zero]
        by_cases same : now.date.number = other.date.number ∧ now.clock.seconds = other.clock.seconds
        · obtain ⟨date, second⟩ := same
          rw [← last]
          simp only [date, second, forall_const, Nat.lt_irrefl, false_or, true_and]
          have shorter : (86400 * (other.date.number : Int) + other.clock.seconds) * 1000000000 + part <
              (86400 * (other.date.number : Int) + other.clock.seconds - 60 * 0) * 1000000000 + part' ↔
                part < part' := by omega
          rw [shorter]
        · refine iff_of_true ?_ fun date second => absurd ⟨date, second⟩ same
          have apart : ¬ (now.date.number = other.date.number ∧ now.clock.seconds = other.clock.seconds ∧
              Later now.fraction other.fraction other.zone) := fun both => same ⟨both.1, both.2.1⟩
          generalize Later now.fraction other.fraction other.zone = later at apart
          omega

end Timestamp

end Timestamps

end CNShell
