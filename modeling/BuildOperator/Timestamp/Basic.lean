/-!
# Timestamps

Instants of coordinated universal time, by date and time of day. A leap second is the second 60 of
its minute.
-/
namespace BuildOperator

def isLeapYear (year : Int) : Bool := year % 4 == 0 && (year % 100 != 0 || year % 400 == 0)

def daysInMonth (year : Int) (month : Nat) : Nat :=
  match month with
  | 2 => if isLeapYear year then 29 else 28
  | 4 | 6 | 9 | 11 => 30
  | _ => 31

def firstYear : Int := -262143

def lastYear : Int := 262142

/-- A day of the Gregorian calendar. -/
structure Date where
  year : Int
  month : Nat
  day : Nat
  year_range : firstYear ≤ year ∧ year ≤ lastYear
  month_range : 1 ≤ month ∧ month ≤ 12
  day_range : 1 ≤ day ∧ day ≤ daysInMonth year month
  deriving DecidableEq

namespace Date

def of? (year : Int) (month day : Nat) : Option Date :=
  if h : (firstYear ≤ year ∧ year ≤ lastYear) ∧ (1 ≤ month ∧ month ≤ 12) ∧
      (1 ≤ day ∧ day ≤ daysInMonth year month) then
    some ⟨year, month, day, h.1, h.2.1, h.2.2⟩
  else none

@[simp] theorem of?_self (d : Date) : of? d.year d.month d.day = some d :=
  dif_pos ⟨d.year_range, d.month_range, d.day_range⟩

def next? (d : Date) : Option Date :=
  if d.day < daysInMonth d.year d.month then of? d.year d.month (d.day + 1)
  else if d.month < 12 then of? d.year (d.month + 1) 1
  else of? (d.year + 1) 1 1

def previous? (d : Date) : Option Date :=
  if 1 < d.day then of? d.year d.month (d.day - 1)
  else if 1 < d.month then of? d.year (d.month - 1) (daysInMonth d.year (d.month - 1))
  else of? (d.year - 1) 12 31

end Date

structure Timestamp where
  date : Date
  hour : Nat
  minute : Nat
  second : Nat
  nanosecond : Nat
  hour_lt : hour < 24
  minute_lt : minute < 60
  second_le : second ≤ 60
  nanosecond_lt : nanosecond < 1000000000
  deriving DecidableEq

namespace Timestamp

/-- The first instant of 1970. -/
def epoch : Timestamp where
  date := ⟨1970, 1, 1, by decide, by decide, by decide⟩
  hour := 0
  minute := 0
  second := 0
  nanosecond := 0
  hour_lt := by decide
  minute_lt := by decide
  second_le := by decide
  nanosecond_lt := by decide

instance : Inhabited Timestamp := ⟨epoch⟩

def of? (date : Date) (hour minute second nanosecond : Nat) : Option Timestamp :=
  if h : hour < 24 ∧ minute < 60 ∧ second ≤ 60 ∧ nanosecond < 1000000000 then
    some ⟨date, hour, minute, second, nanosecond, h.1, h.2.1, h.2.2.1, h.2.2.2⟩
  else none

@[simp] theorem of?_self (t : Timestamp) :
    of? t.date t.hour t.minute t.second t.nanosecond = some t :=
  dif_pos ⟨t.hour_lt, t.minute_lt, t.second_le, t.nanosecond_lt⟩

/-- The instant of a local time whose clock is `east` minutes ahead, less than a day. -/
def ofLocal? (date : Date) (hour minute second nanosecond : Nat) (east : Int) : Option Timestamp :=
  let minutes : Int := hour * 60 + minute - east
  let date? :=
    if minutes < 0 then date.previous? else if 1440 ≤ minutes then date.next? else some date
  let ofDay := (minutes % 1440).toNat
  date?.bind fun date => of? date (ofDay / 60) (ofDay % 60) second nanosecond

theorem ofLocal?_zero (t : Timestamp) :
    ofLocal? t.date t.hour t.minute t.second t.nanosecond 0 = some t := by
  have hh := t.hour_lt
  have hm := t.minute_lt
  have hday : ((t.hour * 60 + t.minute : Int) % 1440).toNat = t.hour * 60 + t.minute := by omega
  have hlow : ¬ (t.hour * 60 + t.minute : Int) < 0 := by omega
  have hhigh : ¬ (1440 : Int) ≤ t.hour * 60 + t.minute := by omega
  have hq : (t.hour * 60 + t.minute) / 60 = t.hour := by omega
  have hr : (t.hour * 60 + t.minute) % 60 = t.minute := by omega
  simp [ofLocal?, hday, hlow, hhigh, hq, hr]

end Timestamp
end BuildOperator
