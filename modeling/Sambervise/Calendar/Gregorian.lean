import Mathlib.Algebra.GroupWithZero.Nat
import Mathlib.Data.List.Basic
import Mathlib.Data.Nat.Init
import Mathlib.Order.Monotone.Basic

namespace Sambervise.Calendar

/-! The Gregorian calendar from the year 1 on, its days counted from 0001-01-01 -/

def isLeap (year : Nat) : Bool := year % 4 = 0 ∧ (year % 100 ≠ 0 ∨ year % 400 = 0)

def monthLengths (year : Nat) : List Nat :=
  [31, if isLeap year then 29 else 28, 31, 30, 31, 30, 31, 31, 30, 31, 30, 31]

def yearLength (year : Nat) : Nat := (monthLengths year).sum

structure Date where
  year : Nat
  month : Nat
  day : Nat
  year_pos : 0 < year
  month_pos : 0 < month
  month_le : month ≤ 12
  day_pos : 0 < day
  day_le : day ≤ (monthLengths year).getD (month - 1) 0
  deriving DecidableEq, Repr

/-! Whole years -/

def daysOfYears (years : Nat) : Nat := 365 * years + years / 4 - years / 100 + years / 400

theorem daysOfYears_succ (years : Nat) :
    daysOfYears (years + 1) = daysOfYears years + yearLength (years + 1) := by
  have length : yearLength (years + 1) =
      365 + if (years + 1) % 4 = 0 ∧ ((years + 1) % 100 ≠ 0 ∨ (years + 1) % 400 = 0) then 1
        else 0 := by
    simp only [yearLength, monthLengths, isLeap, decide_eq_true_eq]
    split
    · rfl
    · rfl
  have fourths := Nat.succ_div (a := years) (b := 4)
  have centuries := Nat.succ_div (a := years) (b := 100)
  have fourthCenturies := Nat.succ_div (a := years) (b := 400)
  have fewer := Nat.div_le_self years 100
  rw [length, daysOfYears, daysOfYears, fourths, centuries, fourthCenturies]
  simp only [Nat.dvd_iff_mod_eq_zero]
  by_cases fourth : (years + 1) % 4 = 0
  · by_cases century : (years + 1) % 100 = 0
    · by_cases fourthCentury : (years + 1) % 400 = 0
      · rw [if_pos fourth, if_pos century, if_pos fourthCentury,
          if_pos ⟨fourth, .inr fourthCentury⟩]
        omega
      · rw [if_pos fourth, if_pos century, if_neg fourthCentury, if_neg (by omega)]
        omega
    · have notFourth : ¬(years + 1) % 400 = 0 := fun fourthCentury => century (by omega)
      rw [if_pos fourth, if_neg century, if_neg notFourth, if_pos ⟨fourth, .inl century⟩]
      omega
  · have notCentury : ¬(years + 1) % 100 = 0 := fun century => fourth (by omega)
    have notFourth : ¬(years + 1) % 400 = 0 := fun fourthCentury => fourth (by omega)
    rw [if_neg fourth, if_neg notCentury, if_neg notFourth, if_neg (fun leap => fourth leap.1)]
    omega

/-- 400 years have 146097 days, and within them the count stays close to the mean. -/
theorem daysOfYears_bounds (years : Nat) :
    146097 * years ≤ 400 * daysOfYears years + 699 ∧
      400 * daysOfYears years ≤ 146097 * years + 396 := by
  have fourth := Nat.div_add_mod years 4
  have century := Nat.div_add_mod years 100
  have fourthCentury := Nat.div_add_mod years 400
  have fourth_lt := Nat.mod_lt years (show 0 < 4 by decide)
  have century_lt := Nat.mod_lt years (show 0 < 100 by decide)
  have fourthCentury_lt := Nat.mod_lt years (show 0 < 400 by decide)
  unfold daysOfYears
  generalize years / 4 = fourths at *
  generalize years / 100 = centuries at *
  generalize years / 400 = fourthCenturies at *
  omega

/-- The number of whole years before a day. -/
def yearsBefore (day : Nat) : Nat :=
  let estimate := day * 400 / 146097
  if daysOfYears (estimate + 1) ≤ day then estimate + 1 else estimate

theorem yearsBefore_spec (day : Nat) :
    daysOfYears (yearsBefore day) ≤ day ∧ day < daysOfYears (yearsBefore day + 1) := by
  unfold yearsBefore
  dsimp only
  have above := Nat.div_mul_le_self (day * 400) 146097
  have below := Nat.lt_div_mul_add (a := day * 400) (b := 146097) (by decide)
  generalize day * 400 / 146097 = estimate at above below
  split
  next later =>
    have next := (daysOfYears_bounds (estimate + 1 + 1)).1
    omega
  next earlier =>
    have estimated := (daysOfYears_bounds estimate).2
    omega

theorem daysOfYears_mono : Monotone daysOfYears := by
  refine monotone_nat_of_le_succ fun years => ?_
  rw [daysOfYears_succ]
  exact Nat.le_add_right _ _

/-! Months -/

/-- The month, counted from 1, and the day of the month, for a day counted from 0 within
months of these lengths. -/
def findMonth : List Nat → Nat → Nat × Nat
  | [], rest => (1, rest + 1)
  | length :: lengths, rest =>
      if rest < length then (1, rest + 1)
      else
        let later := findMonth lengths (rest - length)
        (later.1 + 1, later.2)

structure Placed (lengths : List Nat) (rest month day : Nat) : Prop where
  month_pos : 0 < month
  month_le : month ≤ lengths.length
  day_pos : 0 < day
  day_le : day ≤ lengths.getD (month - 1) 0
  sum_eq : (lengths.take (month - 1)).sum + (day - 1) = rest

theorem Placed.cons {lengths : List Nat} {length rest month day : Nat}
    (placed : Placed lengths (rest - length) month day) (later : length ≤ rest) :
    Placed (length :: lengths) rest (month + 1) day := by
  obtain ⟨before, isMonth⟩ := Nat.exists_eq_add_of_lt placed.month_pos
  rw [Nat.zero_add] at isMonth
  have inMonth := placed.day_le
  have sum := placed.sum_eq
  rw [isMonth, Nat.add_sub_cancel] at inMonth sum
  rw [isMonth]
  exact
    { month_pos := Nat.succ_pos _
      month_le := Nat.succ_le_succ (isMonth ▸ placed.month_le)
      day_pos := placed.day_pos
      day_le := inMonth
      sum_eq := by
        rw [Nat.add_sub_cancel, List.take_succ_cons, List.sum_cons]
        omega }

theorem findMonth_placed {lengths : List Nat} {rest : Nat} (inside : rest < lengths.sum) :
    Placed lengths rest (findMonth lengths rest).1 (findMonth lengths rest).2 := by
  induction lengths generalizing rest with
  | nil => cases inside
  | cons length lengths ih =>
      rw [List.sum_cons] at inside
      unfold findMonth
      split
      next here =>
        exact
          { month_pos := Nat.one_pos
            month_le := Nat.succ_pos _
            day_pos := Nat.succ_pos rest
            day_le := here
            sum_eq := Nat.zero_add rest }
      next later =>
        have placed := ih (show rest - length < lengths.sum by omega)
        exact placed.cons (by omega)

theorem sum_take_add_getD_le (lengths : List Nat) (index : Nat) :
    (lengths.take index).sum + lengths.getD index 0 ≤ lengths.sum := by
  induction lengths generalizing index with
  | nil => simp
  | cons length lengths ih =>
      cases index with
      | zero => simp
      | succ index =>
          have later := ih index
          simp only [List.take_succ_cons, List.sum_cons, List.getD_cons_succ]
          omega

/-! Days -/

/-- The month and the day of the month of a day counted from 0. -/
def monthAndDay (day : Nat) : Nat × Nat :=
  findMonth (monthLengths (yearsBefore day + 1)) (day - daysOfYears (yearsBefore day))

theorem placed_monthAndDay (day : Nat) :
    Placed (monthLengths (yearsBefore day + 1)) (day - daysOfYears (yearsBefore day))
      (monthAndDay day).1 (monthAndDay day).2 := by
  apply findMonth_placed
  have spec := yearsBefore_spec day
  have next := daysOfYears_succ (yearsBefore day)
  rw [yearLength] at next
  omega

namespace Date

def ordinal (date : Date) : Nat :=
  daysOfYears (date.year - 1) + ((monthLengths date.year).take (date.month - 1)).sum +
    (date.day - 1)

theorem ordinal_lt (date : Date) : date.ordinal < daysOfYears date.year := by
  have within := sum_take_add_getD_le (monthLengths date.year) (date.month - 1)
  have inMonth := date.day_le
  have positive := date.day_pos
  have next := daysOfYears_succ (date.year - 1)
  rw [Nat.sub_add_cancel date.year_pos, yearLength] at next
  rw [ordinal, next]
  omega

/-- The year of a day is at most `years` if the day lies within the first `years` years. -/
theorem ordinal_lt_iff (date : Date) (years : Nat) :
    date.ordinal < daysOfYears years ↔ date.year ≤ years := by
  constructor
  · intro inYears
    by_contra later
    have mono := daysOfYears_mono (show years ≤ date.year - 1 by omega)
    have after : daysOfYears (date.year - 1) ≤ date.ordinal := by
      unfold ordinal
      omega
    omega
  · intro early
    exact Nat.lt_of_lt_of_le date.ordinal_lt (daysOfYears_mono early)

def ofOrdinal (ordinal : Nat) : Date :=
  have placed := placed_monthAndDay ordinal
  { year := yearsBefore ordinal + 1
    month := (monthAndDay ordinal).1
    day := (monthAndDay ordinal).2
    year_pos := Nat.succ_pos _
    month_pos := placed.month_pos
    month_le := placed.month_le
    day_pos := placed.day_pos
    day_le := placed.day_le }

theorem ordinal_ofOrdinal (day : Nat) : (ofOrdinal day).ordinal = day := by
  have sum := (placed_monthAndDay day).sum_eq
  have before := (yearsBefore_spec day).1
  have parts : (ofOrdinal day).ordinal =
      daysOfYears (yearsBefore day) +
        ((monthLengths (yearsBefore day + 1)).take ((monthAndDay day).1 - 1)).sum +
        ((monthAndDay day).2 - 1) := rfl
  omega

def ofParts (year month day : Nat) : Option Date :=
  if valid : (0 < year ∧ 0 < month) ∧ month ≤ 12 ∧ 0 < day ∧
      day ≤ (monthLengths year).getD (month - 1) 0 then
    some
      { year, month, day
        year_pos := valid.1.1
        month_pos := valid.1.2
        month_le := valid.2.1
        day_pos := valid.2.2.1
        day_le := valid.2.2.2 }
  else none

theorem ofParts_eq_some_iff {year month day : Nat} {date : Date} :
    ofParts year month day = some date ↔
      date.year = year ∧ date.month = month ∧ date.day = day := by
  unfold ofParts
  constructor
  · intro found
    split at found
    · cases found
      exact ⟨rfl, rfl, rfl⟩
    · cases found
  · rintro ⟨rfl, rfl, rfl⟩
    rw [dif_pos ⟨⟨date.year_pos, date.month_pos⟩, date.month_le, date.day_pos, date.day_le⟩]

theorem day_le_31 (date : Date) : date.day ≤ 31 := by
  have inMonth := date.day_le
  have all : ∀ length ∈ monthLengths date.year, length ≤ 31 := by
    unfold monthLengths
    cases isLeap date.year with
    | true => decide
    | false => decide
  rw [List.getD_eq_getElem?_getD] at inMonth
  cases found : (monthLengths date.year)[date.month - 1]? with
  | none =>
      rw [found] at inMonth
      exact Nat.le_trans inMonth (Nat.zero_le 31)
  | some length =>
      rw [found] at inMonth
      exact Nat.le_trans inMonth (all length (List.mem_of_getElem? found))

/-! Times, in seconds from the start of 1970 -/

def midnight (date : Date) : Int := 86400 * ((date.ordinal : Int) - 719162)

/-- The time lies on the day. -/
def Covers (date : Date) (time : Int) : Prop :=
  date.midnight ≤ time ∧ time < date.midnight + 86400

theorem Covers.midnight_eq {date other : Date} {time : Int} (covers : date.Covers time)
    (also : other.Covers time) : date.midnight = other.midnight := by
  unfold Covers midnight at *
  omega

/-- The day that covers a time, from the year 1 on. -/
def ofTime (time : Int) : Date := ofOrdinal ((time + 62135596800) / 86400).toNat

theorem covers_ofTime {time : Int} (since : -62135596800 ≤ time) : (ofTime time).Covers time := by
  unfold Covers midnight ofTime
  rw [ordinal_ofOrdinal]
  omega

theorem year_le_9999_iff {date : Date} {time : Int} (covers : date.Covers time) :
    date.year ≤ 9999 ↔ time < 253402300800 := by
  have days : daysOfYears 9999 = 3652059 := rfl
  rw [← ordinal_lt_iff, days]
  unfold Covers midnight at covers
  omega

theorem Covers.since {date : Date} {time : Int} (covers : date.Covers time) :
    -62135596800 ≤ time := by
  unfold Covers midnight at covers
  omega

example : (ofTime 0).midnight = 0 ∧
    ofParts 2024 2 29 = some (ofTime 1709251199) ∧ ofParts 2023 2 29 = none := by
  decide

end Date

end Sambervise.Calendar
