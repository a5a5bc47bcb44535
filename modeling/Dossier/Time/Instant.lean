/-!
# Instants

A calendar date of the proleptic Gregorian calendar, and a point in time in UTC: a date, a second of
the day, and nanoseconds. A leap second is the last second of a minute with a thousand million
nanoseconds or more.

Fields that are in range are part of the types, so every instant has a written form.
-/

namespace Dossier

def isLeapYear (year : Int) : Bool := year % 4 == 0 && (year % 100 != 0 || year % 400 == 0)

def daysInMonth (year : Int) (month : Nat) : Nat :=
  if month = 2 then (if isLeapYear year then 29 else 28)
  else if month = 4 ∨ month = 6 ∨ month = 9 ∨ month = 11 then 30
  else 31

theorem daysInMonth_pos (year : Int) (month : Nat) : 1 ≤ daysInMonth year month := by
  unfold daysInMonth
  split
  · split <;> omega
  · split <;> omega

structure Date where
  year : Int
  month : Nat
  day : Nat
  month_pos : 1 ≤ month
  month_le : month ≤ 12
  day_pos : 1 ≤ day
  day_le : day ≤ daysInMonth year month
deriving DecidableEq

namespace Date

def mk? (year : Int) (month day : Nat) : Option Date :=
  if h : 1 ≤ month ∧ month ≤ 12 ∧ 1 ≤ day ∧ day ≤ daysInMonth year month then
    some ⟨year, month, day, h.1, h.2.1, h.2.2.1, h.2.2.2⟩
  else none

def next (d : Date) : Date :=
  if h : d.day + 1 ≤ daysInMonth d.year d.month then
    ⟨d.year, d.month, d.day + 1, d.month_pos, d.month_le, by omega, h⟩
  else if hm : d.month + 1 ≤ 12 then
    ⟨d.year, d.month + 1, 1, by omega, hm, by omega, daysInMonth_pos ..⟩
  else ⟨d.year + 1, 1, 1, by omega, by omega, by omega, daysInMonth_pos ..⟩

def previous (d : Date) : Date :=
  if h : 1 < d.day then
    ⟨d.year, d.month, d.day - 1, d.month_pos, d.month_le, by omega, by have := d.day_le; omega⟩
  else if hm : 1 < d.month then
    ⟨d.year, d.month - 1, daysInMonth d.year (d.month - 1), by omega, by have := d.month_le; omega,
      daysInMonth_pos .., Nat.le_refl _⟩
  else ⟨d.year - 1, 12, daysInMonth (d.year - 1) 12, by omega, by omega, daysInMonth_pos ..,
      Nat.le_refl _⟩

def addDays (d : Date) : Nat → Date
  | 0 => d
  | n + 1 => d.next.addDays n

def cmp (a b : Date) : Ordering :=
  ((compare a.year b.year).then (compare a.month b.month)).then (compare a.day b.day)

end Date

def secondsPerDay : Nat := 86400

def nanosPerSecond : Nat := 1000000000

/-- A point in time, in UTC. -/
structure Instant where
  date : Date
  second : Nat
  nano : Nat
  second_lt : second < 86400
  nano_ok : nano < 1000000000 ∨ (nano < 2000000000 ∧ second % 60 = 59)
deriving DecidableEq

namespace Instant

def mk? (date : Date) (second nano : Nat) : Option Instant :=
  if h : second < 86400 ∧ (nano < 1000000000 ∨ (nano < 2000000000 ∧ second % 60 = 59)) then
    some ⟨date, second, nano, h.1, h.2⟩
  else none

def cmp (a b : Instant) : Ordering :=
  ((a.date.cmp b.date).then (compare a.second b.second)).then (compare a.nano b.nano)

/-- Midnight at the start of a date. -/
def ofDate (date : Date) : Instant := ⟨date, 0, 0, by omega, Or.inl (by omega)⟩

/-- The start of 1970, from which clocks count seconds. -/
def epoch : Instant := ofDate ⟨1970, 1, 1, by decide, by decide, by decide, by decide⟩

/-- The instant of a clock reading taken a number of minutes east of UTC. A shift by whole minutes
keeps the place within the minute, so a leap second stays one. -/
def ofLocal (clock : Instant) (minutesEast : Int) : Option Instant :=
  let second : Int := clock.second - 60 * minutesEast
  if second < 0 then mk? clock.date.previous (second + secondsPerDay).toNat clock.nano
  else if second < secondsPerDay then mk? clock.date second.toNat clock.nano
  else mk? clock.date.next (second - secondsPerDay).toNat clock.nano

def addSeconds (t : Instant) (n : Nat) : Instant :=
  let total := t.second + n
  (mk? (t.date.addDays (total / secondsPerDay)) (total % secondsPerDay) (t.nano % nanosPerSecond)).getD t

end Instant

end Dossier
