import Mathlib

/-!
# Dates

The API's dates are three numbers; the database's are days of the calendar.
-/

namespace ScdtServer.Dates

/-- The proleptic Gregorian calendar. -/
def isLeapYear (year : ℤ) : Bool :=
  decide (year % 4 = 0 ∧ (year % 100 ≠ 0 ∨ year % 400 = 0))

def daysInMonth (year : ℤ) (month : ℕ) : ℕ :=
  if month = 2 then if isLeapYear year then 29 else 28
  else if month = 4 ∨ month = 6 ∨ month = 9 ∨ month = 11 then 30
  else 31

def isDay (year : ℤ) (month day : ℕ) : Bool :=
  decide (1 ≤ month ∧ month ≤ 12 ∧ 1 ≤ day ∧ day ≤ daysInMonth year month)

/-- A day of chrono's calendar. -/
structure NaiveDate where
  year : ℤ
  month : ℕ
  day : ℕ
  valid : isDay year month day = true
  deriving DecidableEq

/-- `NaiveDate::from_ymd_opt`, within chrono's range of years. -/
def NaiveDate.fromYmdOpt (year : ℤ) (month day : ℕ) : Option NaiveDate :=
  if valid : isDay year month day = true then some ⟨year, month, day, valid⟩ else none

def NaiveDate.ble (first second : NaiveDate) : Bool :=
  decide (first.year < second.year ∨
    first.year = second.year ∧ (first.month < second.month ∨
      first.month = second.month ∧ first.day ≤ second.day))

structure Date where
  year : UInt16
  month : UInt8
  day : UInt8
  deriving DecidableEq

/-- `TryFrom<NaiveDate> for Date`. -/
def Date.tryFrom (date : NaiveDate) : Option Date :=
  if 0 ≤ date.year ∧ date.year < 65536 then
    some ⟨UInt16.ofNat date.year.toNat, UInt8.ofNat date.month, UInt8.ofNat date.day⟩
  else none

/-- `TryInto<NaiveDate> for Date`. -/
def Date.tryInto (date : Date) : Option NaiveDate :=
  NaiveDate.fromYmdOpt date.year.toNat date.month.toNat date.day.toNat

end ScdtServer.Dates
