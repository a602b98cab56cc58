import Mathlib

/-! Timestamps, and the extended ISO 8601 text of them: `isoformat` writes it
and `fromisoformat` reads it. -/

namespace Isoformat

/-! ### Numbers of a fixed width -/

/-- The last `width` decimal digits of a number. -/
def digits : Nat → Nat → List Char
  | 0, _ => []
  | width + 1, n => Nat.digitChar (n / 10 ^ width % 10) :: digits width n

/-- Reads `width` digits behind a number that was already read. -/
def readDigits (read : Nat) : Nat → List Char → Option (Nat × List Char)
  | 0, text => some (read, text)
  | _ + 1, [] => none
  | width + 1, c :: rest =>
    if c.isDigit then readDigits (read * 10 + (c.toNat - '0'.toNat)) width rest else none

theorem digitChar_isDigit (n : Nat) : (Nat.digitChar (n % 10)).isDigit = true := by
  have all : ∀ d < 10, (Nat.digitChar d).isDigit = true := by decide
  exact all _ (Nat.mod_lt n (by decide))

theorem digitChar_toNat (n : Nat) : (Nat.digitChar (n % 10)).toNat - '0'.toNat = n % 10 := by
  have all : ∀ d < 10, (Nat.digitChar d).toNat - '0'.toNat = d := by decide
  exact all _ (Nat.mod_lt n (by decide))

theorem isDigit_of_mem {width n : Nat} {c : Char} (member : c ∈ digits width n) : c.isDigit = true := by
  induction width with
  | zero => cases member
  | succ width ih =>
    rcases List.mem_cons.mp member with rfl | later
    · exact digitChar_isDigit _
    · exact ih later

@[simp] theorem length_digits (width n : Nat) : (digits width n).length = width := by
  induction width with
  | zero => rfl
  | succ width ih => simp [digits, ih]

theorem readDigits_append (read width n : Nat) (rest : List Char) :
    readDigits read width (digits width n ++ rest) = some (read * 10 ^ width + n % 10 ^ width, rest) := by
  induction width generalizing read with
  | zero => simp [digits, readDigits, Nat.mod_one]
  | succ width ih =>
    simp only [digits, List.cons_append, readDigits, digitChar_isDigit, if_true, digitChar_toNat, ih]
    rw [Nat.mod_pow_succ, Nat.pow_succ]
    congr 2
    ring

/-- What was written in a width that holds it is read back. -/
theorem readDigits_digits {width n : Nat} (fits : n < 10 ^ width) (rest : List Char) :
    readDigits 0 width (digits width n ++ rest) = some (n, rest) := by
  rw [readDigits_append, Nat.zero_mul, Nat.zero_add, Nat.mod_eq_of_lt fits]

/-! ### The calendar -/

def isLeap (year : Nat) : Bool := year % 4 = 0 && (year % 100 ≠ 0 || year % 400 = 0)

def daysInMonth (leap : Bool) : Nat → Nat
  | 2 => if leap then 29 else 28
  | 4 | 6 | 9 | 11 => 30
  | _ => 31

/-- The days of the year before the first of a month. -/
def daysBeforeMonth (leap : Bool) : Nat → Nat
  | 0 | 1 => 0
  | month + 2 => daysBeforeMonth leap (month + 1) + daysInMonth leap (month + 1)

/-- The days before the first of January. -/
def daysBeforeYear (year : Nat) : Nat := (year - 1) * 365 + (year - 1) / 4 - (year - 1) / 100 + (year - 1) / 400

/-- Day 1 is the first of January of the year 1. -/
def ordinal (year month day : Nat) : Nat := daysBeforeYear year + daysBeforeMonth (isLeap year) month + day

/-- The year of a day counted from 0, and the days of that year before it. -/
def yearOf (n : Nat) : Nat × Nat :=
  let century := n % 146097 / 36524
  let inCentury := n % 146097 % 36524
  let inCycle := inCentury % 1461
  let year := n / 146097 * 400 + century * 100 + inCentury / 1461 * 4 + inCycle / 365 + 1
  -- the last day of a leap year, of which the cycle counts four years of 365 days
  if inCycle / 365 = 4 || century = 4 then (year - 1, 365) else (year, inCycle % 365)

/-- The month of a day of the year counted from 0, and the day of the month. -/
def monthOf (leap : Bool) (n : Nat) : Nat × Nat :=
  let guess := (n + 50) / 32
  if n < daysBeforeMonth leap guess then (guess - 1, n - daysBeforeMonth leap (guess - 1) + 1)
  else (guess, n - daysBeforeMonth leap guess + 1)

/-- The days before a year, given by its cycles of 400, 100 and 4 years. -/
theorem daysBeforeYear_cycles {c d y : Nat} (q : Nat) (century : c < 4) (cycle : d < 25) (year : y < 4) :
    daysBeforeYear (q * 400 + c * 100 + d * 4 + y + 1) = q * 146097 + c * 36524 + d * 1461 + y * 365 := by
  have fourth : (q * 400 + c * 100 + d * 4 + y) / 4 = q * 100 + c * 25 + d := by omega
  have hundredth : (q * 400 + c * 100 + d * 4 + y) / 100 = q * 4 + c := by omega
  have gregorian : (q * 400 + c * 100 + d * 4 + y) / 400 = q := by omega
  simp only [daysBeforeYear, Nat.add_sub_cancel, fourth, hundredth, gregorian]
  omega

theorem yearOf_spec (n : Nat) :
    1 ≤ (yearOf n).1 ∧ daysBeforeYear (yearOf n).1 + (yearOf n).2 = n ∧
      (yearOf n).2 < 365 + (isLeap (yearOf n).1).toNat := by
  have cycle : n % 146097 % 36524 / 1461 < 25 := by omega
  simp only [yearOf]
  split
  · rename_i last
    simp only [Bool.or_eq_true, decide_eq_true_eq] at last
    -- the year before the one that was counted, at the end of its cycle of 4 or of 400 years
    have leap : isLeap (n / 146097 * 400 + n % 146097 / 36524 * 100 + n % 146097 % 36524 / 1461 * 4 +
        n % 146097 % 36524 % 1461 / 365 + 1 - 1) = true := by
      simp only [isLeap, Bool.and_eq_true, Bool.or_eq_true, decide_eq_true_eq]
      omega
    refine ⟨by omega, ?_, by rw [leap]; exact Nat.lt_succ_self 365⟩
    rcases last with fourth | fourth
    · have year : n / 146097 * 400 + n % 146097 / 36524 * 100 + n % 146097 % 36524 / 1461 * 4 +
          n % 146097 % 36524 % 1461 / 365 + 1 - 1 =
          n / 146097 * 400 + n % 146097 / 36524 * 100 + n % 146097 % 36524 / 1461 * 4 + 3 + 1 := by omega
      have days := daysBeforeYear_cycles (n / 146097) (by omega : n % 146097 / 36524 < 4) cycle (by decide : 3 < 4)
      rw [year, days]
      omega
    · have year : n / 146097 * 400 + n % 146097 / 36524 * 100 + n % 146097 % 36524 / 1461 * 4 +
          n % 146097 % 36524 % 1461 / 365 + 1 - 1 = n / 146097 * 400 + 3 * 100 + 24 * 4 + 3 + 1 := by omega
      have days := daysBeforeYear_cycles (n / 146097) (by decide : 3 < 4) (by decide : 24 < 25) (by decide : 3 < 4)
      rw [year, days]
      omega
  · rename_i before
    simp only [Bool.or_eq_true, decide_eq_true_eq, not_or] at before
    refine ⟨by omega, ?_, ?_⟩
    · dsimp only
      rw [daysBeforeYear_cycles _ (by omega) cycle (by omega)]
      omega
    · have short := Nat.mod_lt (n % 146097 % 36524 % 1461) (by decide : 0 < 365)
      exact short.trans_le (Nat.le_add_right _ _)

theorem monthOf_spec (leap : Bool) {n : Nat} (inside : n < 365 + leap.toNat) :
    1 ≤ (monthOf leap n).1 ∧ (monthOf leap n).1 ≤ 12 ∧ 1 ≤ (monthOf leap n).2 ∧
      (monthOf leap n).2 ≤ daysInMonth leap (monthOf leap n).1 ∧
      daysBeforeMonth leap (monthOf leap n).1 + (monthOf leap n).2 = n + 1 := by
  have all : ∀ leap : Bool, ∀ n < 366, n < 365 + leap.toNat →
      1 ≤ (monthOf leap n).1 ∧ (monthOf leap n).1 ≤ 12 ∧ 1 ≤ (monthOf leap n).2 ∧
        (monthOf leap n).2 ≤ daysInMonth leap (monthOf leap n).1 ∧
        daysBeforeMonth leap (monthOf leap n).1 + (monthOf leap n).2 = n + 1 := by decide +kernel
  exact all leap n (inside.trans_le (by cases leap <;> decide)) inside

/-! ### Timestamps -/

/-- The fields of a timestamp; `offset` is how many microseconds its clock is
ahead of UTC, or `none` when that is not known. -/
structure Datetime where
  year : Nat
  month : Nat
  day : Nat
  hour : Nat
  minute : Nat
  second : Nat
  microsecond : Nat
  offset : Option Int
  deriving DecidableEq, Repr

def microsecondsOfDay : Nat := 86400000000

namespace Datetime

/-- The fields are within their ranges. -/
structure Valid (t : Datetime) : Prop where
  year : 1 ≤ t.year ∧ t.year ≤ 9999
  month : 1 ≤ t.month ∧ t.month ≤ 12
  day : 1 ≤ t.day ∧ t.day ≤ daysInMonth (isLeap t.year) t.month
  hour : t.hour < 24
  minute : t.minute < 60
  second : t.second < 60
  microsecond : t.microsecond < 1000000
  offset : ∀ offset ∈ t.offset, offset.natAbs < microsecondsOfDay

instance (t : Datetime) : Decidable t.Valid :=
  decidable_of_iff ((1 ≤ t.year ∧ t.year ≤ 9999) ∧ (1 ≤ t.month ∧ t.month ≤ 12) ∧
    (1 ≤ t.day ∧ t.day ≤ daysInMonth (isLeap t.year) t.month) ∧ t.hour < 24 ∧ t.minute < 60 ∧ t.second < 60 ∧
    t.microsecond < 1000000 ∧ ∀ offset ∈ t.offset, offset.natAbs < microsecondsOfDay)
    ⟨fun ⟨year, month, day, hour, minute, second, microsecond, offset⟩ =>
      ⟨year, month, day, hour, minute, second, microsecond, offset⟩,
    fun ⟨year, month, day, hour, minute, second, microsecond, offset⟩ =>
      ⟨year, month, day, hour, minute, second, microsecond, offset⟩⟩

/-- The microseconds between 1970 and a timestamp with an offset. -/
def instant (t : Datetime) : Option Int :=
  t.offset.map fun offset =>
    ((((ordinal t.year t.month t.day : Int) - 719163) * 24 + t.hour) * 60 + t.minute) * 60000000 +
      t.second * 1000000 + t.microsecond - offset

/-- An instant as a timestamp in UTC. -/
def utc (instant : Int) : Datetime :=
  let day := (instant / microsecondsOfDay + 719162).toNat
  let within := (instant % microsecondsOfDay).toNat
  let (year, dayOfYear) := yearOf day
  let (month, dayOfMonth) := monthOf (isLeap year) dayOfYear
  { year := year, month := month, day := dayOfMonth
    hour := within / 3600000000, minute := within / 60000000 % 60, second := within / 1000000 % 60
    microsecond := within % 1000000, offset := some 0 }

/-- The instants of the years 1 to 9999. -/
def inRange (instant : Int) : Prop := -719162 * microsecondsOfDay ≤ instant ∧ instant < 2932897 * microsecondsOfDay

instance (instant : Int) : Decidable (inRange instant) := inferInstanceAs (Decidable (_ ∧ _))

theorem year_le_of_daysBeforeYear {year : Nat} (early : daysBeforeYear year < 3652059) : year ≤ 9999 := by
  by_contra late
  have fourth : (year - 1) / 100 ≤ (year - 1) / 4 - 2400 := by omega
  simp only [daysBeforeYear] at early
  omega

/-- The day of an instant, and its date. -/
theorem utc_date {instant : Int} (inside : inRange instant) :
    (1 ≤ (utc instant).year ∧ (utc instant).year ≤ 9999) ∧ (1 ≤ (utc instant).month ∧ (utc instant).month ≤ 12) ∧
      (1 ≤ (utc instant).day ∧ (utc instant).day ≤ daysInMonth (isLeap (utc instant).year) (utc instant).month) ∧
      (ordinal (utc instant).year (utc instant).month (utc instant).day : Int) =
        instant / microsecondsOfDay + 719163 := by
  obtain ⟨positive, inYear, short⟩ := yearOf_spec (instant / microsecondsOfDay + 719162).toNat
  obtain ⟨first, last, dayPos, dayLe, inMonth⟩ := monthOf_spec _ short
  simp only [inRange, microsecondsOfDay] at inside
  refine ⟨⟨positive, year_le_of_daysBeforeYear ?_⟩, ⟨first, last⟩, ⟨dayPos, dayLe⟩, ?_⟩
  · refine (Nat.le_add_right _ _).trans_lt (inYear.trans_lt ?_)
    simp only [microsecondsOfDay]
    omega
  · simp only [ordinal, utc]
    rw [Nat.add_assoc, inMonth, ← Nat.add_assoc, inYear]
    simp only [microsecondsOfDay]
    omega

theorem instant_utc {instant : Int} (inside : inRange instant) : (utc instant).instant = some instant := by
  obtain ⟨-, -, -, day⟩ := utc_date inside
  simp only [Datetime.instant, show (utc instant).offset = some 0 from rfl, Option.map_some, day]
  simp only [utc, microsecondsOfDay]
  congr 1
  omega

theorem valid_utc {instant : Int} (inside : inRange instant) : (utc instant).Valid := by
  obtain ⟨year, month, day, -⟩ := utc_date inside
  have within : (instant % microsecondsOfDay).toNat < 86400000000 := by
    simp only [microsecondsOfDay]
    omega
  refine ⟨year, month, day, ?_, ?_, ?_, ?_, ?_⟩
  · exact Nat.div_lt_of_lt_mul within
  · exact Nat.mod_lt _ (by decide)
  · exact Nat.mod_lt _ (by decide)
  · exact Nat.mod_lt _ (by decide)
  · simp [utc, microsecondsOfDay]

end Datetime

/-! ### The text -/

def fractionText (microsecond : Nat) : List Char := if microsecond = 0 then [] else '.' :: digits 6 microsecond

def secondText (second microsecond : Nat) : List Char := ':' :: digits 2 second ++ fractionText microsecond

/-- An offset is written to the minute, and further only if it does not end there. -/
def offsetText : Option Int → List Char
  | none => []
  | some offset =>
    (if offset < 0 then '-' else '+') :: digits 2 (offset.natAbs / 3600000000) ++
      ':' :: digits 2 (offset.natAbs / 60000000 % 60) ++
      if offset.natAbs % 60000000 = 0 then []
      else secondText (offset.natAbs / 1000000 % 60) (offset.natAbs % 1000000)

def clockText (t : Datetime) : List Char :=
  digits 2 t.hour ++ ':' :: digits 2 t.minute ++ secondText t.second t.microsecond

def isoformat (t : Datetime) : List Char :=
  digits 4 t.year ++ '-' :: digits 2 t.month ++ '-' :: digits 2 t.day ++ 'T' :: clockText t ++ offsetText t.offset

def expect (c : Char) : List Char → Option (List Char)
  | [] => none
  | first :: rest => if first = c then some rest else none

/-- The digits behind the point, of which six count. -/
def readFraction (text : List Char) : Option Nat :=
  if text ≠ [] && text.all Char.isDigit then
    (readDigits 0 6 (text ++ List.replicate 6 '0')).map (·.1)
  else none

/-- `SS` or `SS.ffffff`, up to the end. -/
def readSecond (text : List Char) : Option (Nat × Nat) :=
  (readDigits 0 2 text).bind fun (second, rest) =>
    match rest with
    | [] => some (second, 0)
    | point :: fraction =>
      if point = '.' || point = ',' then (readFraction fraction).map fun microsecond => (second, microsecond)
      else none

/-- `HH`, `HH:MM` or `HH:MM` with seconds, up to the end, in microseconds. -/
def readClock (text : List Char) : Option (Nat × Nat × Nat × Nat) :=
  (readDigits 0 2 text).bind fun (hour, rest) =>
    if rest = [] then some (hour, 0, 0, 0)
    else (expect ':' rest).bind fun rest => (readDigits 0 2 rest).bind fun (minute, rest) =>
      if rest = [] then some (hour, minute, 0, 0)
      else (expect ':' rest).bind fun rest => (readSecond rest).map fun (second, microsecond) =>
        (hour, minute, second, microsecond)

def readOffset : List Char → Option (Option Int)
  | [] => some none
  | ['Z'] => some (some 0)
  | sign :: text => (readClock text).map fun (hour, minute, second, microsecond) =>
    let size : Int := (hour * 60 + minute) * 60000000 + second * 1000000 + microsecond
    some (if sign = '-' then -size else size)

/-- Where the clock ends and the offset begins. -/
def isZone (c : Char) : Bool := c = '+' || c = '-' || c = 'Z'

/-- Reads the spellings with separators between the fields: a date, or a date
and a clock with any one character between them. -/
def fromisoformat (text : List Char) : Option Datetime :=
  (readDigits 0 4 text).bind fun (year, rest) => (expect '-' rest).bind fun rest =>
  (readDigits 0 2 rest).bind fun (month, rest) => (expect '-' rest).bind fun rest =>
  (readDigits 0 2 rest).bind fun (day, rest) =>
  (if rest = [] then some (0, 0, 0, 0) else readClock (rest.tail.takeWhile (¬ isZone ·))).bind
    fun (hour, minute, second, microsecond) =>
  (readOffset (rest.tail.dropWhile (¬ isZone ·))).bind fun offset =>
    let t : Datetime := ⟨year, month, day, hour, minute, second, microsecond, offset⟩
    if t.Valid then some t else none

theorem valid_of_fromisoformat {text : List Char} {t : Datetime} (read : fromisoformat text = some t) : t.Valid := by
  simp only [fromisoformat, Option.bind_eq_some_iff] at read
  obtain ⟨_, -, _, -, _, -, _, -, _, -, _, -, _, -, kept⟩ := read
  split at kept
  · rename_i valid
    cases kept
    exact valid
  · cases kept

/-! ### What is written is read back -/

@[simp] theorem expect_cons (c : Char) (rest : List Char) : expect c (c :: rest) = some rest := by
  simp [expect]

theorem readFraction_digits {microsecond : Nat} (fits : microsecond < 1000000) :
    readFraction (digits 6 microsecond) = some microsecond := by
  have written : digits 6 microsecond ≠ [] := List.ne_nil_of_length_pos (by simp)
  have decimal : (digits 6 microsecond).all Char.isDigit = true :=
    List.all_eq_true.mpr fun c member => isDigit_of_mem member
  simp only [readFraction, ne_eq, written, not_false_eq_true, decide_true, decimal, Bool.and_self, if_true]
  rw [@readDigits_digits 6 microsecond fits]
  rfl

theorem readSecond_text {second microsecond : Nat} (small : second < 60) (fits : microsecond < 1000000) :
    readSecond (digits 2 second ++ fractionText microsecond) = some (second, microsecond) := by
  rw [readSecond, readDigits_digits (small.trans (by decide))]
  by_cases whole : microsecond = 0
  · simp [fractionText, whole]
  · simp [fractionText, whole, readFraction_digits fits]

theorem readClock_seconds {hour minute second microsecond : Nat} (hours : hour < 24) (minutes : minute < 60)
    (seconds : second < 60) (fits : microsecond < 1000000) :
    readClock (digits 2 hour ++ ':' :: digits 2 minute ++ secondText second microsecond) =
      some (hour, minute, second, microsecond) := by
  rw [readClock, List.append_assoc, readDigits_digits (hours.trans (by decide))]
  simp only [Option.bind_some, List.cons_append, reduceCtorEq, if_false, expect_cons]
  rw [readDigits_digits (minutes.trans (by decide))]
  simp only [Option.bind_some, secondText, List.cons_append, reduceCtorEq, if_false, expect_cons,
    readSecond_text seconds fits, Option.map_some]

theorem readClock_minutes {hour minute : Nat} (hours : hour < 24) (minutes : minute < 60) :
    readClock (digits 2 hour ++ ':' :: digits 2 minute ++ []) = some (hour, minute, 0, 0) := by
  have written := @readDigits_digits 2 minute (minutes.trans (by decide)) []
  rw [readClock, List.append_assoc, readDigits_digits (hours.trans (by decide))]
  simp only [Option.bind_some, List.cons_append, reduceCtorEq, if_false, expect_cons, written, if_true]

theorem readOffset_sign {sign : Char} (signed : sign ≠ 'Z') (text : List Char) :
    readOffset (sign :: text) = (readClock text).map fun (hour, minute, second, microsecond) =>
      let size : Int := (hour * 60 + minute) * 60000000 + second * 1000000 + microsecond
      some (if sign = '-' then -size else size) := by
  unfold readOffset
  split
  · contradiction
  · rename_i zulu
    exact absurd (List.cons.inj zulu).1 signed
  · rename_i same
    obtain ⟨rfl, rfl⟩ := List.cons.inj same
    rfl

/-- The sign of an offset and its size give it back. -/
theorem signed_natAbs (offset : Int) :
    (if (if offset < 0 then '-' else '+') = '-' then -(offset.natAbs : Int) else offset.natAbs) = offset := by
  by_cases west : offset < 0
  · simp only [west, if_true]
    omega
  · simp only [west, if_false, show ('+' = '-') = False by decide]
    omega

theorem readOffset_text {offset : Option Int} (small : ∀ size ∈ offset, size.natAbs < microsecondsOfDay) :
    readOffset (offsetText offset) = some offset := by
  cases offset with
  | none => rfl
  | some offset =>
    have hours : offset.natAbs / 3600000000 < 24 := Nat.div_lt_of_lt_mul (small offset rfl)
    have minutes : offset.natAbs / 60000000 % 60 < 60 := Nat.mod_lt _ (by decide)
    have signed : (if offset < 0 then '-' else '+') ≠ 'Z' := by split <;> decide
    rw [offsetText, List.cons_append, List.cons_append, readOffset_sign signed]
    by_cases whole : offset.natAbs % 60000000 = 0
    · have size : ((offset.natAbs / 3600000000 : Nat) * 60 + (offset.natAbs / 60000000 % 60 : Nat)) * 60000000 +
          ((0 : Nat) : Int) * 1000000 + (0 : Nat) = offset.natAbs := by omega
      rw [if_pos whole, readClock_minutes hours minutes]
      simp only [Option.map_some, size, signed_natAbs]
    · have size : ((offset.natAbs / 3600000000 : Nat) * 60 + (offset.natAbs / 60000000 % 60 : Nat)) * 60000000 +
          (offset.natAbs / 1000000 % 60 : Nat) * 1000000 + ((offset.natAbs % 1000000 : Nat) : Int) =
            offset.natAbs := by omega
      rw [if_neg whole, readClock_seconds hours minutes (Nat.mod_lt _ (by decide)) (Nat.mod_lt _ (by decide))]
      simp only [Option.map_some, size, signed_natAbs]

theorem isZone_of_isDigit {c : Char} (digit : c.isDigit = true) : isZone c = false := by
  by_contra zone
  simp only [isZone, Bool.not_eq_false, Bool.or_eq_true, decide_eq_true_eq] at zone
  rcases zone with (rfl | rfl) | rfl <;> exact absurd digit (by decide)

/-- A clock is written in digits and punctuation that begin no offset. -/
theorem isZone_of_clockText {t : Datetime} {c : Char} (member : c ∈ clockText t) : isZone c = false := by
  have fraction : c ∈ fractionText t.microsecond → isZone c = false := by
    unfold fractionText
    split
    · exact fun none => absurd none List.not_mem_nil
    · intro member
      rcases List.mem_cons.mp member with rfl | digit
      · decide
      · exact isZone_of_isDigit (isDigit_of_mem digit)
  simp only [clockText, secondText, List.mem_append, List.mem_cons] at member
  rcases member with (digit | rfl | digit) | (rfl | digit) | point
  · exact isZone_of_isDigit (isDigit_of_mem digit)
  · decide
  · exact isZone_of_isDigit (isDigit_of_mem digit)
  · decide
  · exact isZone_of_isDigit (isDigit_of_mem digit)
  · exact fraction point

theorem takeWhile_clock (t : Datetime) :
    (clockText t ++ offsetText t.offset).takeWhile (¬ isZone ·) = clockText t ∧
      (clockText t ++ offsetText t.offset).dropWhile (¬ isZone ·) = offsetText t.offset := by
  have clock : ∀ c ∈ clockText t, decide (¬ isZone c = true) = true := fun c member => by
    simp [isZone_of_clockText member]
  rw [List.takeWhile_append_of_pos clock, List.dropWhile_append_of_pos clock]
  cases t.offset with
  | none => simp [offsetText]
  | some offset =>
    have sign : isZone (if offset < 0 then '-' else '+') = true := by split <;> decide
    simp [offsetText, sign]

theorem fromisoformat_isoformat {t : Datetime} (valid : t.Valid) : fromisoformat (isoformat t) = some t := by
  have clock := readClock_seconds valid.hour valid.minute valid.second valid.microsecond
  obtain ⟨before, behind⟩ := takeWhile_clock t
  have year : t.year < 10 ^ 4 := by have := valid.year; omega
  have month : t.month < 10 ^ 2 := by have := valid.month; omega
  have day : t.day < 10 ^ 2 := by
    have most : daysInMonth (isLeap t.year) t.month ≤ 31 := by
      unfold daysInMonth
      split <;> first | decide | (split <;> decide)
    have := valid.day
    omega
  simp only [fromisoformat, isoformat, List.append_assoc, List.cons_append]
  rw [readDigits_digits year]
  simp only [Option.bind_some, expect_cons]
  rw [readDigits_digits month]
  simp only [Option.bind_some, expect_cons]
  rw [readDigits_digits day]
  simp only [Option.bind_some, reduceCtorEq, if_false, List.tail_cons, before, behind]
  rw [show readClock (clockText t) = _ from clock, readOffset_text valid.offset]
  simp [valid]

/-- The digits and signs the text is written in. -/
def IsoChar (c : Char) : Prop := c.isDigit = true ∨ c ∈ ['-', 'T', ':', '.', '+']

theorem isoChar_of_mem_isoformat {t : Datetime} {c : Char} (member : c ∈ isoformat t) : IsoChar c := by
  have fraction : ∀ microsecond, c ∈ fractionText microsecond → IsoChar c := by
    intro microsecond member
    unfold fractionText at member
    split at member
    · cases member
    · rcases List.mem_cons.mp member with rfl | digit
      · exact .inr (by decide)
      · exact .inl (isDigit_of_mem digit)
  have seconds : ∀ second microsecond, c ∈ secondText second microsecond → IsoChar c := by
    intro second microsecond member
    simp only [secondText, List.cons_append, List.mem_cons, List.mem_append] at member
    rcases member with rfl | digit | point
    · exact .inr (by decide)
    · exact .inl (isDigit_of_mem digit)
    · exact fraction microsecond point
  have offset : c ∈ offsetText t.offset → IsoChar c := by
    intro member
    unfold offsetText at member
    split at member
    · cases member
    · rename_i offset
      simp only [List.cons_append, List.append_assoc, List.mem_cons, List.mem_append] at member
      rcases member with rfl | digit | rfl | digit | rest
      · exact .inr (by split <;> decide)
      · exact .inl (isDigit_of_mem digit)
      · exact .inr (by decide)
      · exact .inl (isDigit_of_mem digit)
      · split at rest
        · cases rest
        · exact seconds _ _ rest
  simp only [isoformat, clockText, List.cons_append, List.append_assoc, List.mem_cons, List.mem_append] at member
  rcases member with digit | rfl | digit | rfl | digit | rfl | digit | rfl | digit | second | zone
  · exact .inl (isDigit_of_mem digit)
  · exact .inr (by decide)
  · exact .inl (isDigit_of_mem digit)
  · exact .inr (by decide)
  · exact .inl (isDigit_of_mem digit)
  · exact .inr (by decide)
  · exact .inl (isDigit_of_mem digit)
  · exact .inr (by decide)
  · exact .inl (isDigit_of_mem digit)
  · exact seconds _ _ second
  · exact offset zone

end Isoformat
